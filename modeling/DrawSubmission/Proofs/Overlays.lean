import Mathlib.Data.List.Infix
import DrawSubmission.Proofs.Completion
import DrawSubmission.Proofs.Order
import DrawSubmission.Proofs.Serving
import DrawSubmission.Wireframe.Guise
set_option autoImplicit false

namespace DrawSubmission

def Operation.told (op : Operation) (s : Scene) : List DriverCall :=
  (op.after s).callsSince s.calls.size

open SceneM

section Prefix
variable (s : Scene) (request : DrawRequest) (prevalidated : Bool)

theorem after_setOutlines_false :
    (Operation.draw request prevalidated).after (s.setOutlines false) =
      ((ownDraw request prevalidated).after s).setOutlines false := by
  have own := overlooks_ownDraw request prevalidated (g := { outlines := some false }) rfl s
  rw [after_draw, setOutlines_eq_inGuise, own, SceneM.after]
  cases ownDraw request prevalidated s with
  | error overflow t => exact (setOutlines_eq_inGuise t false).symm
  | ok _ t =>
    simp only [Guise.result, ← setOutlines_eq_inGuise]
    rw [if_neg (by simp [Scene.outlinesDraws_setOutlines])]

theorem prefix_overlay :
    s.calls.toList <+: ((overlay drawLines request).after s).calls.toList := by
  have same (t : Scene) (alike : s.Alike t) : s.calls.toList <+: t.calls.toList := by
    rw [Scene.calls_eq_of_told alike.told]
  refine ensures_iff_after.mp (overlay_ensures (fun t alike _ _ => same t alike) ?_ ?_)
  · intro t _ cut _
    rw [Scene.calls_eq_of_told cut.told]
  · intro t outline alike _ _
    refine ensures_iff_after.mpr ((same t alike).trans ?_)
    obtain ⟨calls, appended, _⟩ := follows_drawOutline t outline
    exact ⟨calls, appended.symm⟩

theorem prefix_told :
    (Operation.draw request prevalidated).told (s.setOutlines false) <+:
      (Operation.draw request prevalidated).told (s.setOutlines true) := by
  apply List.IsPrefix.drop
  have own := overlooks_ownDraw request prevalidated (g := { outlines := some true }) rfl s
  rw [after_setOutlines_false, after_draw, setOutlines_eq_inGuise s, own, SceneM.after]
  cases ownDraw request prevalidated s with
  | error overflow t =>
    simp only [Guise.result, ← setOutlines_eq_inGuise]
    exact List.prefix_rfl
  | ok _ t =>
    simp only [Guise.result, ← setOutlines_eq_inGuise, Scene.outlinesDraws_setOutlines, if_true]
    exact prefix_overlay (t.setOutlines true) request

end Prefix

/-- The outline that is read back for a draw once its own draw is over is drawn: it has a position
attribute, and the reconstruction answers with lines. -/
def DrawRequest.Reconstructs (request : DrawRequest) (s : Scene) : Prop :=
  ∃ position outline t, s.outlined? request.attributes = some position ∧
    reconstruct position request.topology request.first request.count request.indices s =
      .ok (.ok outline) t ∧ outline ≠ []

/-- An overlay with a green pipeline: its vertices are uploaded, the pipeline is made if it is new,
and lines are drawn that show it, or a copy of it, without vertex colors. -/
inductive DrawnInGreen (wire : Pipeline) : List DriverCall → Prop
  | lines {buffer : BufferId} {data : List UInt8} {made : List DriverCall} {lines : Phases}
      {count : UInt32} (once : made = [] ∨ made = [.createPipeline])
      (inOrder : lines.InOrder .lineList count) (color : lines.view.color = .green)
      (skipColor : lines.view.skipColor = false)
      (label : lines.view.label = wire.label ∨ lines.view.label = wire.copy.label) :
      DrawnInGreen wire (.createVertexArray buffer data :: (made ++ lines.calls))

theorem not_idle_of_isSetUp {call : DriverCall} (h : call.isSetUp = true) :
    call.isIdle = false := by
  cases call <;> first | rfl | cases h

theorem not_idle_leadCalls (context : DrawContext) (channels : List Channel)
    (view : PipelineView) : ∀ call ∈ leadCalls context channels view, call.isIdle = false := by
  intro call inside
  rcases List.mem_append.mp inside with setUp | flush
  · exact not_idle_of_isSetUp (isSetUp_setUpCalls _ _ channels call setUp)
  · exact forall_flushCalls (p := fun call => call.isIdle = false) (fun _ => rfl) rfl
      (fun _ _ => rfl) (fun _ => rfl) call flush

theorem not_idle_drawCalls (context : DrawContext) (channels : List Channel) (view : PipelineView)
    {draw : DriverCall} {topology : Topology} {count : UInt32}
    (drawn : draw.drawn? = some (topology, count)) (roles : List Role) :
    ∀ call ∈ drawCalls context channels view draw roles, call.isIdle = false := by
  rw [← calls_ofDraw]
  exact (inOrder_ofDraw context channels view draw roles drawn).not_idle

theorem count_createPipeline_eq_zero {calls : List DriverCall}
    (busy : ∀ call ∈ calls, call.isIdle = false) : calls.count .createPipeline = 0 :=
  List.count_eq_zero.mpr fun inside => nomatch busy _ inside

/-- A context keeps its green pipeline once it has one, and makes no other. -/
structure Piped (s t : Scene) : Prop where
  kept : ∀ wire, s.context.wirePipeline = some wire → t.context.wirePipeline = some wire
  green : ∀ wire, t.context.wirePipeline = some wire →
    s.context.wirePipeline = some wire ∨ wire.color = .green
  made : ∃ calls, t.calls.toList = s.calls.toList ++ calls ∧
    calls.count .createPipeline + t.context.makingCalls.length = s.context.makingCalls.length

namespace Piped
variable {s t u : Scene}

theorem trans (h : Piped s t) (h' : Piped t u) : Piped s u where
  kept wire cached := h'.kept wire (h.kept wire cached)
  green wire cached := (h'.green wire cached).elim (h.green wire) .inr
  made := by
    obtain ⟨xs, calls, count⟩ := h.made
    obtain ⟨ys, calls', count'⟩ := h'.made
    refine ⟨xs ++ ys, ?_, ?_⟩
    · rw [calls', calls, List.append_assoc]
    · rw [List.count_append]
      omega

theorem of_same (same : t.context.wirePipeline = s.context.wirePipeline) {calls : List DriverCall}
    (appended : t.calls.toList = s.calls.toList ++ calls)
    (none : ∀ call ∈ calls, call ≠ .createPipeline) : Piped s t where
  kept wire cached := same.trans cached
  green wire cached := .inl (same.symm.trans cached)
  made := by
    have count : calls.count .createPipeline = 0 :=
      List.count_eq_zero.mpr fun inside => none _ inside rfl
    exact ⟨calls, appended, by rw [count, DrawContext.makingCalls, same, Nat.zero_add]; rfl⟩

theorem of_not_idle (same : t.context.wirePipeline = s.context.wirePipeline)
    {calls : List DriverCall} (appended : t.calls.toList = s.calls.toList ++ calls)
    (busy : ∀ call ∈ calls, call.isIdle = false) : Piped s t := by
  refine .of_same same appended fun call inside making => ?_
  rw [making] at inside
  cases busy _ inside

theorem of_calm (h : Calm s t) : Piped s t := by
  obtain ⟨settings, sources, context⟩ := h.context
  obtain ⟨calls, appended, idle⟩ := h.calls
  exact .of_same (by rw [context]) appended fun call inside => (idle call inside).2

theorem of_told (told : t.told = s.told) : Piped s t := .of_calm (.of_told told)

theorem refl (s : Scene) : Piped s s := .of_told rfl

theorem of_overlaid {outline : List Segment} (h : Overlaid s outline t) : Piped s t := by
  obtain ⟨during, calls⟩ := h.calls
  have wire := h.wirePipeline
  constructor
  · intro p cached
    rw [wire, Scene.wirePipeline, cached]
  · intro p cached
    rw [wire] at cached
    cases cached
    unfold Scene.wirePipeline
    cases s.context.wirePipeline with
    | some p => exact .inl rfl
    | none => exact .inr rfl
  · refine ⟨_, calls, ?_⟩
    have making : s.context.makingCalls.count .createPipeline = s.context.makingCalls.length := by
      rcases s.context.makingCalls_eq with same | same <;> rw [same] <;> rfl
    let draw : DriverCall := .drawArrays .lineList 0 (.ofNat (2 * outline.length)) during
    have drawn : draw.drawn? = some (.lineList, .ofNat (2 * outline.length)) := rfl
    have none : t.context.makingCalls = [] := by
      rw [DrawContext.makingCalls, wire]
      rfl
    dsimp only
    rw [List.count_cons_of_ne (by simp), List.count_append, making, none,
      count_createPipeline_eq_zero (not_idle_drawCalls _ _ _ drawn _)]
    rfl

end Piped

theorem busy_drawOnce (s : Scene) (request : DrawRequest) (options : FlushOptions) :
    let t := (drawOnce request options).after s
    t.context.wirePipeline = s.context.wirePipeline ∧
      ∃ calls, t.calls.toList = s.calls.toList ++ calls ∧ ∀ call ∈ calls, call.isIdle = false := by
  let pinned := s.pinned request.attributes
  let Busy (t : Scene) := t.context.wirePipeline = pinned.context.wirePipeline ∧
    ∃ calls, t.calls.toList = pinned.calls.toList ++ calls ∧ ∀ call ∈ calls, call.isIdle = false
  have told : pinned.told = s.told := told_pinned s request.attributes
  have busy : Busy ((drawOnce request options).after s) := by
    refine ensures_iff_after.mp ((drawOnce_ensures s request options).mono ?_ ?_)
    · rintro _ t ⟨channels, drawn⟩
      obtain ⟨start, bound, _, calls⟩ := drawn.calls
      exact ⟨by rw [drawn.context]; rfl, _, calls,
        not_idle_drawCalls _ channels _ (request.drawn?_call start _) _⟩
    · intro _ t broken
      cases broken with
      | setUp _ channels calls context =>
        refine ⟨by rw [context], _, calls, fun call inside => ?_⟩
        exact not_idle_of_isSetUp (isSetUp_setUpCalls _ _ channels call inside)
      | lead _ channels view calls context =>
        exact ⟨by rw [context]; rfl, _, calls, not_idle_leadCalls _ channels view⟩
  obtain ⟨wire, calls, appended, idle⟩ := busy
  rw [Scene.context_eq_of_told told] at wire
  rw [Scene.calls_eq_of_told told] at appended
  exact ⟨wire, calls, appended, idle⟩

theorem piped_drawOnce (s : Scene) (request : DrawRequest) (options : FlushOptions) :
    Piped s ((drawOnce request options).after s) := by
  obtain ⟨wire, calls, appended, busy⟩ := busy_drawOnce s request options
  exact .of_not_idle wire appended busy

theorem piped_draw (s : Scene) (request : DrawRequest) (prevalidated : Bool) :
    Piped s ((Operation.draw request prevalidated).after s) := by
  have early (t : Scene) (ready : Readied s t) : Piped s t := .of_calm ready.calm
  refine ensures_iff_after.mp (ensures_draw early fun options => ?_)
  refine ensures_drawWith (M := Piped s) (.of_each fun t ready => ?_) ?_ (fun _ => id)
    (fun t u _ piped cut => piped.trans (.of_told cut.told)) fun outline =>
      .of_each fun t piped => ?_
  · have drawn := piped_drawOnce t request options
    exact ensures_iff_after.mpr ((early t ready).trans drawn)
  · exact fun t u alike piped => piped.trans (.of_told alike.told)
  · refine (overlaid_drawOutline t outline).mono ?_ fun _ _ => False.elim
    exact fun _ u overlaid => piped.1.trans (.of_overlaid overlaid)

theorem piped_after (op : Operation) (s : Scene) (same : op.isRenewal = false) :
    Piped s (op.after s) := by
  by_cases talks : op.isDirect = false ∧ op.isDraw = false
  · exact .of_calm (calm_after op s same talks.1 talks.2)
  cases op with
  | enable attributes options =>
    simp only [Operation.after, Operation.perform, after_discard]
    refine ensures_iff_after.mp ((enableAttributes_ensures s attributes options).mono ?_ ?_)
    · rintro _ t ⟨channels, _, prepared⟩
      refine .of_not_idle ?_ prepared.calls (not_idle_leadCalls _ channels _)
      rw [prepared.context]
      rfl
    · rintro _ t ⟨_, channels, connected⟩
      refine .of_not_idle (by rw [connected.context]) connected.calls fun call inside => ?_
      exact not_idle_of_isSetUp (isSetUp_setUpCalls _ _ channels call inside)
  | disable attributes flushed =>
    obtain ⟨front, _, same⟩ := after_tearDown s attributes flushed
    rw [Operation.after, Operation.perform, same]
    refine .of_not_idle ?_ (disableAttributes_calls s front flushed) fun call inside => ?_
    · exact congrArg DrawContext.wirePipeline (disableAttributes_context s front flushed)
    · have known := isTearDown_tearDownCalls 0 _ call inside
      cases call <;> first | rfl | cases known
  | draw request prevalidated => exact piped_draw s request prevalidated
  | _ => exact absurd ⟨rfl, rfl⟩ talks

theorem piped_run (ops : List Operation) (s : Scene) (same : ∀ op ∈ ops, op.isRenewal = false) :
    Piped s (s.run ops) := by
  induction ops generalizing s with
  | nil => exact .refl s
  | cons op ops ih =>
    have first := piped_after op s (same op List.mem_cons_self)
    exact first.trans (ih (op.after s) fun op' inside => same op' (List.mem_cons_of_mem op inside))

section Reconstructs
variable {s : Scene} {request : DrawRequest}

theorem reconstructs_iff : request.Reconstructs s ↔
    ∃ outline, request.outline s = .ok outline ∧ outline ≠ [] := by
  have read (position : AttributeId) := reads_reconstruct s position request.topology
    request.first request.count request.indices s rfl
  constructor
  · rintro ⟨position, outline, t, found, reconstructed, drawn⟩
    have known := read position
    rw [reconstructed] at known
    exact ⟨outline, by rw [DrawRequest.outline, found]; exact known.2.symm, drawn⟩
  · rintro ⟨outline, answered, drawn⟩
    unfold DrawRequest.outline at answered
    cases found : s.outlined? request.attributes with
    | none =>
      rw [found] at answered
      exact absurd (Except.ok.inj answered).symm drawn
    | some position =>
      have known := read position
      rw [found] at answered
      dsimp only at answered
      rw [answered] at known
      cases reconstructed : reconstruct position request.topology request.first request.count
          request.indices s with
      | error overflow t =>
        rw [reconstructed] at known
        cases known.2
      | ok result t =>
        rw [reconstructed] at known
        cases result with
        | error error => cases known.2
        | ok lines =>
          cases known.2
          exact ⟨position, _, t, found, reconstructed, drawn⟩

theorem reconstructs_setOutlines (on : Bool) :
    request.Reconstructs (s.setOutlines on) ↔ request.Reconstructs s := by
  have same : request.outline (s.setOutlines on) = request.outline s :=
    (SameStore.of_same rfl rfl : SameStore s (s.setOutlines on)).outline rfl request
  rw [reconstructs_iff, reconstructs_iff, same]

end Reconstructs

theorem drawCount_entryCalls (prevalidated : Bool) : drawCount (entryCalls prevalidated) = 0 := by
  cases prevalidated <;> rfl

theorem drawCount_drawCalls (context : DrawContext) (channels : List Channel) (view : PipelineView)
    {draw : DriverCall} (isDraw : draw.isDraw = true) (roles : List Role) :
    drawCount (drawCalls context channels view draw roles) = 1 := by
  rw [drawCalls, drawCount_append, drawCount_leadCalls, drawCount, List.countP_cons_of_pos isDraw,
    ← drawCount, drawCount_tearDownCalls]

theorem drawCount_overlayCalls (s : Scene) {buffer : BufferId} {data : List UInt8}
    (context : DrawContext) (channels : List Channel) (view : PipelineView) {draw : DriverCall}
    (isDraw : draw.isDraw = true) (roles : List Role) :
    drawCount (.createVertexArray buffer data ::
      (s.context.makingCalls ++ drawCalls context channels view draw roles)) = 1 := by
  have making : drawCount s.context.makingCalls = 0 := by
    rcases s.context.makingCalls_eq with same | same <;> rw [same] <;> rfl
  have whole : drawCount (s.context.makingCalls ++
      drawCalls context channels view draw roles) = 1 := by
    rw [drawCount_append, making, drawCount_drawCalls context channels view isDraw roles]
  exact (List.countP_cons_of_neg Bool.false_ne_true).trans whole

theorem Overlaid.drawnInGreen {s t : Scene} {outline : List Segment} (h : Overlaid s outline t)
    (green : s.wirePipeline.1.color = .green) :
    ∃ overlay, t.calls.toList = s.calls.toList ++ overlay ∧ drawCount overlay = 1 ∧
      DrawnInGreen s.wirePipeline.1 overlay := by
  obtain ⟨during, calls⟩ := h.calls
  let context := s.context.forLines s.wirePipeline.1
  let channels := [outlineChannel ⟨s.buffers.size⟩]
  let view := context.view channels {}
  let draw : DriverCall := .drawArrays .lineList 0 (.ofNat (2 * outline.length)) during
  refine ⟨_, calls, ?_, ?_⟩
  · exact drawCount_overlayCalls s context channels view rfl [.position]
  · have inOrder := inOrder_ofDraw context channels view draw [.position] rfl
    dsimp only
    rw [← calls_ofDraw]
    refine .lines s.context.makingCalls_eq inOrder green rfl ?_
    change (if _ then _ else _) = _ ∨ (if _ then _ else _) = _
    split
    · exact .inr rfl
    · exact .inl rfl

section Draw
variable (request : DrawRequest) (prevalidated : Bool) (s : Scene) (wire : Option Pipeline)

/-- The draw stops at its own draw call, for want of an outline. -/
structure DrawRequest.Plain : Prop where
  once : drawCount ((Operation.draw request prevalidated).told s) = 1
  without : ¬ (s.outlinesDraws = true ∧
    request.Reconstructs ((Operation.draw request prevalidated).after (s.setOutlines false)))

/-- The draw goes on with an overlay, from the green pipeline that the context has in the end. -/
structure DrawRequest.Outlined : Prop where
  twice : drawCount ((Operation.draw request prevalidated).told s) = 2
  on : s.outlinesDraws = true
  read : request.Reconstructs ((Operation.draw request prevalidated).after (s.setOutlines false))
  overlay : ∃ pipeline overlay, wire = some pipeline ∧ DrawnInGreen pipeline overlay ∧
    (Operation.draw request prevalidated).told s =
      (Operation.draw request prevalidated).told (s.setOutlines false) ++ overlay

variable {request prevalidated s wire}

theorem draw_plain_or_outlined
    (green : ∀ p, s.context.wirePipeline = some p → p.color = .green)
    (kept : ∀ p, ((Operation.draw request prevalidated).after s).context.wirePipeline = some p →
      wire = some p)
    (complete : (Operation.draw request prevalidated).breaksOff s = false) :
    request.Plain prevalidated s ∨ request.Outlined prevalidated s wire := by
  let draw := Operation.draw request prevalidated
  obtain ⟨t, options, channels, done, owned, overlays⟩ := account_draw complete
  obtain ⟨start, during, _, calls⟩ := owned.calls
  let own := entryCalls prevalidated ++ drawCalls s.context channels
    (s.context.view channels options) (request.call start during)
    (request.attributes.map fun id => (s.attr id).role)
  have single : drawCount own = 1 := by
    rw [drawCount_append, drawCount_entryCalls,
      drawCount_drawCalls _ _ _ (request.isDraw_call start during)]
  have bare : draw.after (s.setOutlines false) = t.setOutlines false := by
    rw [after_setOutlines_false, SceneM.after_of_ok done]
  have told : draw.told (s.setOutlines false) = own := by
    rw [Operation.told, bare]
    exact callsSince_of_append calls
  have outlines := owned.outlinesDraws
  have read : request.Reconstructs (draw.after (s.setOutlines false)) ↔
      ∃ outline, request.outline t = .ok outline ∧ outline ≠ [] := by
    rw [bare, reconstructs_setOutlines, reconstructs_iff]
  cases overlays with
  | nothing same without =>
    have whole : draw.told s = own :=
      callsSince_of_append ((congrArg Array.toList (Scene.calls_eq_of_told same)).trans calls)
    refine .inl ⟨by rw [whole, single], ?_⟩
    rintro ⟨on, reconstructs⟩
    obtain ⟨outline, answered, drawn⟩ := read.mp reconstructs
    exact drawn (without (outlines.trans on) outline answered)
  | @lines outline on answered drawn overlaid =>
    have cached : t.context.wirePipeline = s.context.wirePipeline := by
      rw [owned.context]
      rfl
    have color : t.wirePipeline.1.color = .green := by
      unfold Scene.wirePipeline
      cases known : t.context.wirePipeline with
      | some p => exact green p (cached.symm.trans known)
      | none => rfl
    obtain ⟨overlay, appended, count, shown⟩ := overlaid.drawnInGreen color
    have whole : draw.told s = own ++ overlay := by
      rw [calls, List.append_assoc] at appended
      exact callsSince_of_append appended
    refine .inr ⟨?_, outlines.symm.trans on, read.mpr ⟨outline, answered, drawn⟩, ?_⟩
    · rw [whole, drawCount_append, single, count]
    · exact ⟨_, overlay, kept _ overlaid.wirePipeline, shown, by rw [told, whole]⟩

end Draw

theorem count_createPipeline_le {s t : Scene} {settings : DrawSettings}
    (piped : Piped (s.renewContext settings) t) :
    (t.callsSince s.calls.size).count .createPipeline ≤ 2 := by
  obtain ⟨calls, appended, count⟩ := piped.made
  have created : (s.renewContext settings).calls.toList = s.calls.toList ++ [.createPipeline] :=
    Array.toList_push
  have one : (s.renewContext settings).context.makingCalls.length = 1 := rfl
  rw [created, List.append_assoc] at appended
  rw [callsSince_of_append appended, List.count_append, List.count_singleton_self]
  omega

/-- Over a run of a new context no more than two pipelines are made. Any of its draws tells with
outlines off a prefix of what it tells with outlines on; and if it completes, it has an overlay just
if outlines are on and one is read back for it. -/
theorem overlays_gated (s : Scene) (settings : DrawSettings) (ops : List Operation)
    (same : ∀ op ∈ ops, op.isRenewal = false) :
    let start := s.renewContext settings
    let last := start.run ops
    (last.callsSince s.calls.size).count .createPipeline ≤ 2 ∧
      ∀ made request prevalidated later, ops = made ++ .draw request prevalidated :: later →
        let draw := Operation.draw request prevalidated
        let before := start.run made
        draw.told (before.setOutlines false) <+: draw.told (before.setOutlines true) ∧
          (draw.breaksOff before = false → request.Plain prevalidated before ∨
            request.Outlined prevalidated before last.context.wirePipeline) := by
  intro start last
  refine ⟨count_createPipeline_le (piped_run ops start same), ?_⟩
  intro made request prevalidated later parts draw before
  have first : Piped start before :=
    piped_run made start fun op inside => same op (by simp [parts, inside])
  have rest : Piped (draw.after before) ((draw.after before).run later) :=
    piped_run later _ fun op inside => same op (by simp [parts, inside])
  have whole : last = (draw.after before).run later := by
    simp only [last, parts, Scene.run, List.foldl_append, List.foldl_cons]
    rfl
  refine ⟨prefix_told before request prevalidated, draw_plain_or_outlined ?_ ?_⟩
  · exact fun p cached => (first.green p cached).resolve_left (Option.some_ne_none p).symm
  · rw [whole]
    exact rest.kept

theorem overlays_gated_sampleRun :
    let start := (Scene.create {} []).renewContext {}
    let last := start.run sampleRun
    let request : DrawRequest := ⟨.triangleList, 0, 3, [⟨0⟩, ⟨1⟩, ⟨2⟩, ⟨1⟩], none⟩
    let before := start.run (sampleRun.take 6)
    (∀ op ∈ sampleRun, op.isRenewal = false) ∧
      request.Outlined false before last.context.wirePipeline := by
  intro start last request before
  have same : ∀ op ∈ sampleRun, op.isRenewal = false := by decide
  have complete : (Operation.draw request false).breaksOff before = false := by decide +kernel
  have twice : drawCount ((Operation.draw request false).told before) = 2 := by decide +kernel
  have gated := (overlays_gated (Scene.create {} []) {} sampleRun same).2
    (sampleRun.take 6) request false _ rfl
  refine ⟨same, (gated.2 complete).resolve_left fun plain => ?_⟩
  cases twice.symm.trans plain.once

end DrawSubmission
