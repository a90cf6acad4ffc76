import DrawSubmission.Proofs.Outline
import DrawSubmission.Proofs.Quiet
set_option autoImplicit false

namespace DrawSubmission

def ownDraw (request : DrawRequest) (prevalidated : Bool) : SceneM Unit :=
  if prevalidated then drawOnce request {}
  else do drawOnce request (← prepareDraw)

theorem perform_draw (request : DrawRequest) (prevalidated : Bool) :
    (Operation.draw request prevalidated).perform = (do
      ownDraw request prevalidated
      if (← get).outlinesDraws then overlay drawLines request) := by
  cases prevalidated with
  | true => exact drawWith_eq {} request
  | false =>
    change prepareDraw >>= (fun options => drawWith options request) = _
    simp only [drawWith_eq, ownDraw, Bool.false_eq_true, ↓reduceIte, bind_assoc]

theorem after_draw (s : Scene) (request : DrawRequest) (prevalidated : Bool) :
    (Operation.draw request prevalidated).after s =
      match ownDraw request prevalidated s with
      | .ok _ t => if t.outlinesDraws then (overlay drawLines request).after t else t
      | .error _ t => t := by
  have parts := congrFun (perform_draw request prevalidated) s
  change _ = EStateM.bind (ownDraw request prevalidated) _ s at parts
  rw [Operation.after, SceneM.after, parts, EStateM.bind]
  cases ownDraw request prevalidated s with
  | error overflow t => rfl
  | ok _ t =>
    change (if t.outlinesDraws then overlay drawLines request else pure ()).after t =
      if t.outlinesDraws then (overlay drawLines request).after t else t
    split <;> rfl

def entryCalls (prevalidated : Bool) : List DriverCall :=
  if prevalidated then [] else [.flushJournal, .flushFramebufferState]

def drawCalls (context : DrawContext) (channels : List Channel) (view : PipelineView)
    (draw : DriverCall) (roles : List Role) : List DriverCall :=
  leadCalls context channels view ++ draw :: tearDownCalls 0 roles

/-- A draw that began in `s` has told what goes before it and all of its own. -/
structure DrawRequest.Owned (request : DrawRequest) (options : FlushOptions)
    (entry : List DriverCall) (s : Scene) (channels : List Channel) (t : Scene) : Prop where
  readable : s.channels request.attributes = .ok channels
  calls : ∃ start during, request.address s = .ok start ∧
    t.calls.toList = s.calls.toList ++ (entry ++
      drawCalls s.context channels (s.context.view channels options) (request.call start during)
        (request.attributes.map fun id => (s.attr id).role))
  context : t.context = s.context.flushed channels

theorem DrawRequest.Owned.outlinesDraws {request : DrawRequest} {options : FlushOptions}
    {entry : List DriverCall} {s t : Scene} {channels : List Channel}
    (h : request.Owned options entry s channels t) : t.outlinesDraws = s.outlinesDraws := by
  rw [Scene.outlinesDraws, h.context]
  rfl

open SceneM

section Own
variable (s : Scene) (request : DrawRequest)

theorem owned_drawOnce (options : FlushOptions) :
    Ensures (fun t => t = s) (drawOnce request options)
      (fun _ t => ∃ channels, request.Owned options [] s channels t) fun _ _ => True := by
  let pinned := s.pinned request.attributes
  have told : pinned.told = s.told := told_pinned s request.attributes
  have sources : SameSources s pinned := sameSources_pinned s request.attributes
  have context : pinned.context = s.context := Scene.context_eq_of_told told
  have roles : (request.attributes.map fun id => (pinned.attr id).role) =
      request.attributes.map fun id => (s.attr id).role := by
    refine List.map_congr_left fun id _ => ?_
    obtain ⟨pins, same⟩ := sources.attr id
    rw [same]
  refine (drawOnce_ensures s request options).mono ?_ fun _ _ _ => trivial
  rintro _ t ⟨channels, drawn⟩
  obtain ⟨start, bound, addressed, calls⟩ := drawn.calls
  refine ⟨channels, ?_, ⟨start, { pinned.moment with bound }, ?_, ?_⟩, ?_⟩
  · exact (sources.channels request.attributes).symm.trans drawn.readable
  · exact (sources.address request).symm.trans addressed
  · rw [calls, Scene.calls_eq_of_told told, context, roles]
    rfl
  · rw [drawn.context, context]

theorem owned_ownDraw (prevalidated : Bool) :
    Ensures (fun t => t = s) (ownDraw request prevalidated)
      (fun _ t => ∃ options channels,
        request.Owned options (entryCalls prevalidated) s channels t) fun _ _ => True := by
  cases prevalidated with
  | true =>
    refine (owned_drawOnce s request {}).mono ?_ fun _ _ => id
    exact fun _ t ⟨channels, owned⟩ => ⟨{}, channels, owned⟩
  | false =>
    have ready := (prepareDraw_ensures s).mono (fun _ _ => id) fun _ _ _ => trivial
    refine ready.bind fun options => .of_each ?_
    rintro t ⟨textures, log, same⟩
    refine (owned_drawOnce t request options).mono ?_ fun _ _ => id
    rintro _ u ⟨channels, owned⟩
    obtain ⟨start, during, addressed, calls⟩ := owned.calls
    subst same
    refine ⟨options, channels, owned.readable, ⟨start, during, addressed, ?_⟩, owned.context⟩
    rw [calls]
    simp [entryCalls]
    rfl

end Own

section Overlay
variable (s : Scene) (outline : List Segment)

def DrawContext.makingCalls (context : DrawContext) : List DriverCall :=
  if context.wirePipeline.isSome then [] else [.createPipeline]

theorem DrawContext.makingCalls_eq (context : DrawContext) :
    context.makingCalls = [] ∨ context.makingCalls = [.createPipeline] := by
  unfold makingCalls
  split
  · exact .inl rfl
  · exact .inr rfl

def DrawContext.forLines (context : DrawContext) (wire : Pipeline) : DrawContext :=
  { context with
    settings := { context.settings with
      debugFlags := context.settings.debugFlags.remove DebugFlags.wireframe }
    sources := wire :: context.sources
    wirePipeline := some wire }

theorem wirePipeline_calls :
    s.wirePipeline.2.calls.toList = s.calls.toList ++ s.context.makingCalls := by
  unfold Scene.wirePipeline DrawContext.makingCalls
  cases s.context.wirePipeline with
  | some pipeline => exact (List.append_nil _).symm
  | none => exact Array.toList_push

theorem wirePipeline_context :
    s.wirePipeline.2.context = { s.context with wirePipeline := some s.wirePipeline.1 } := by
  unfold Scene.wirePipeline
  cases cached : s.context.wirePipeline with
  | some pipeline => simp [← cached]
  | none => rfl

theorem wirePipeline_congr {t : Scene}
    (wirePipeline : t.context.wirePipeline = s.context.wirePipeline)
    (made : t.pipelinesMade = s.pipelinesMade) : t.wirePipeline.1 = s.wirePipeline.1 := by
  simp only [Scene.wirePipeline, wirePipeline]
  cases s.context.wirePipeline with
  | some pipeline => rfl
  | none => simp only [Scene.createPipeline, made]

/-- What is drawn of an outline once its own draw is over. -/
structure Overlaid (t : Scene) : Prop where
  calls : ∃ during, t.calls.toList = s.calls.toList ++
    .createVertexArray ⟨s.buffers.size⟩
        ((outline.flatMap Segment.vertices).flatMap Vertex3.toBytes) ::
      (s.context.makingCalls ++
        let context := s.context.forLines s.wirePipeline.1
        let lines := [outlineChannel ⟨s.buffers.size⟩]
        drawCalls context lines (context.view lines {})
          (.drawArrays .lineList 0 (.ofNat (2 * outline.length)) during) [.position])
  wirePipeline : t.context.wirePipeline = some s.wirePipeline.1

theorem stageOutline_context :
    ((s.stageOutline outline).2.setOutlines false).context =
      s.context.forLines s.wirePipeline.1 := by
  let added := (s.addOutline outline).2
  have context : added.wirePipeline.2.context = _ := wirePipeline_context added
  have same : added.wirePipeline.1 = s.wirePipeline.1 := wirePipeline_congr s rfl rfl
  change ((added.wirePipeline.2.pushSource added.wirePipeline.1).setOutlines false).context = _
  simp only [Scene.setOutlines, Scene.setSettings, Scene.pushSource, context, same]
  rfl

theorem stageOutline_calls :
    ((s.stageOutline outline).2.setOutlines false).calls.toList = s.calls.toList ++
      .createVertexArray ⟨s.buffers.size⟩
          ((outline.flatMap Segment.vertices).flatMap Vertex3.toBytes) ::
        s.context.makingCalls := by
  let added := (s.addOutline outline).2
  have upload : added.calls.toList = s.calls.toList ++ [_] := Array.toList_push
  have made : added.wirePipeline.2.calls.toList = _ := wirePipeline_calls added
  rw [upload, List.append_assoc] at made
  exact made

theorem overlaid_drawOutline :
    Ensures (fun t => t = s) (drawOutline drawLines outline) (fun _ => Overlaid s outline)
      fun _ _ => False := by
  let staged := (s.stageOutline outline).2.setOutlines false
  let lines := lineDraw outline (s.stageOutline outline).1
  have drawn := (owned_drawOnce staged lines {}).and (drawLines_completes s outline)
  refine ensures_drawOutline (drawn.mono ?_ fun _ _ => And.right)
  rintro _ t ⟨⟨channels, owned⟩, _⟩
  obtain ⟨start, during, _, calls⟩ := owned.calls
  have own : staged.channels lines.attributes = .ok [outlineChannel ⟨s.buffers.size⟩] :=
    channels_stageOutline s outline
  cases own.symm.trans owned.readable
  have role : (staged.attr (s.stageOutline outline).1).role = .position :=
    congrArg VertexAttribute.role (attr_stageOutline s outline)
  constructor
  · refine ⟨during, ?_⟩
    change t.calls.toList = _
    have roles : (lines.attributes.map fun id => (staged.attr id).role) = [.position] :=
      congrArg (fun role => [role]) role
    rw [calls, stageOutline_calls, stageOutline_context, roles, List.append_assoc]
    rfl
  · change t.context.wirePipeline = _
    rw [owned.context, stageOutline_context]
    rfl

end Overlay

/-- What a draw has told after its own draw is over: nothing, or the draw of an outline. -/
inductive DrawRequest.Overlays (request : DrawRequest) (s t : Scene) : Prop
  | nothing (told : t.told = s.told)
      (without : s.outlinesDraws = true → ∀ outline, request.outline s = .ok outline → outline = [])
  | lines {outline : List Segment} (on : s.outlinesDraws = true)
      (read : request.outline s = .ok outline) (drawn : outline ≠ [])
      (overlaid : Overlaid s outline t)

theorem Overlaid.congr {s t u : Scene} {outline : List Segment} (alike : s.Alike t)
    (h : Overlaid t outline u) : Overlaid s outline u := by
  have context := Scene.context_eq_of_told alike.told
  have size := Scene.buffers_size_eq_of_kept alike.kept
  have made : t.pipelinesMade = s.pipelinesMade := (congrArg Scene.pipelinesMade alike.kept :)
  have wire := wirePipeline_congr s (congrArg DrawContext.wirePipeline context) made
  obtain ⟨during, calls⟩ := h.calls
  refine ⟨⟨during, ?_⟩, h.wirePipeline.trans (congrArg some wire)⟩
  rw [calls, Scene.calls_eq_of_told alike.told, context, size, wire]

theorem overlays_overlay (s : Scene) (request : DrawRequest) :
    Ensures (fun t => t = s) (do if (← get).outlinesDraws then overlay drawLines request)
      (fun _ => request.Overlays s) fun _ _ => True := by
  refine .get_bind fun t same => ?_
  subst t
  split
  · rename_i on
    refine overlay_ensures (fun t alike _ without => .nothing alike.told fun _ => without)
      (fun _ _ _ _ => trivial) fun t outline alike read drawn => ?_
    refine (overlaid_drawOutline t outline).mono ?_ fun _ _ _ => trivial
    exact fun _ u overlaid => .lines on read drawn (overlaid.congr alike)
  · rename_i off
    rintro t rfl
    exact .nothing rfl fun on => absurd on off

/-- A completed draw has made its own draw call in a scene in between and has then told at most an
outline. -/
theorem account_draw {s : Scene} {request : DrawRequest} {prevalidated : Bool}
    (complete : (Operation.draw request prevalidated).breaksOff s = false) :
    ∃ t options channels, ownDraw request prevalidated s = .ok () t ∧
      request.Owned options (entryCalls prevalidated) s channels t ∧
      request.Overlays t ((Operation.draw request prevalidated).after s) := by
  have own := owned_ownDraw s request prevalidated s rfl
  have parts := congrFun (perform_draw request prevalidated) s
  change _ = EStateM.bind (ownDraw request prevalidated) _ s at parts
  unfold EStateM.bind at parts
  revert complete
  simp only [Operation.breaksOff, Operation.after, after, parts]
  cases done : ownDraw request prevalidated s with
  | error overflow t =>
    intro complete
    cases complete
  | ok _ t =>
    rw [done] at own
    obtain ⟨options, channels, owned⟩ := own
    have rest := overlays_overlay t request t rfl
    revert rest
    dsimp only
    cases (do if (← get).outlinesDraws then overlay drawLines request : SceneM Unit) t with
    | error overflow u =>
      intro _ complete
      cases complete
    | ok _ u => exact fun overlays _ => ⟨t, options, channels, rfl, owned, overlays⟩

end DrawSubmission
