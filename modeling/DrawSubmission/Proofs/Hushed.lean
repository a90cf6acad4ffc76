import DrawSubmission.Draw.Notices
import DrawSubmission.Proofs.Quiet
import DrawSubmission.Proofs.Undisturbed
import DrawSubmission.Scene.Replaced
set_option autoImplicit false

namespace DrawSubmission

def Notice.isMidScene : Notice → Bool
  | midSceneModification _ => true
  | _ => false

theorem isMidScene_of_isOfDraws (notice : Notice) (h : notice.isOfDraws = true) :
    notice.isMidScene = false := by
  cases notice <;> first | rfl | cases h

def Scene.reporters (s : Scene) : List DiagnosticsId :=
  s.attributes.toList.map VertexAttribute.diagnostics

theorem reporters_setAttr {s : Scene} {id : AttributeId} {a : VertexAttribute}
    (same : a.diagnostics = (s.attr id).diagnostics) :
    (s.setAttr id a).reporters = s.reporters := by
  simp only [Scene.reporters, Scene.setAttr, Array.toList_setIfInBounds, List.map_set, same]
  by_cases inside : id.index < s.attributes.size
  · have within : id.index < s.reporters.length := by
      rwa [Scene.reporters, List.length_map, Array.length_toList]
    have here : (s.attr id).diagnostics = s.reporters[id.index] := by
      simp [Scene.attr, Scene.reporters, Array.getD_eq_getD_getElem?, inside]
    rw [here]
    exact List.set_getElem_self within
  · apply List.set_eq_of_length_le
    rw [List.length_map, Array.length_toList]
    omega

theorem mem_reporters {s : Scene} {id : AttributeId} (inside : id.index < s.attributes.size) :
    (s.attr id).diagnostics ∈ s.reporters := by
  have here : s.attr id = s.attributes[id.index] := by
    simp [Scene.attr, Array.getD_eq_getD_getElem?, inside]
  rw [here]
  exact List.mem_map_of_mem (Array.getElem_mem_toList inside)

/-- Diagnostics that may be in use: those of the context, or any that have been made by then. -/
def Scene.Offers (s t : Scene) (id : DiagnosticsId) : Prop :=
  id = s.context.diagnostics ∨ id.index < t.warned.size

/-- Nothing is told to diagnostics on the way. Attributes keep theirs, and new ones have not
warned. -/
structure Hushed (s t : Scene) : Prop where
  notices : t.notices Notice.isMidScene = s.notices Notice.isMidScene
  warned : ∃ n, t.warned = s.warned ++ Array.replicate n false
  current : s.Offers t t.context.diagnostics
  reporters : ∃ more, t.reporters = s.reporters ++ more ∧ ∀ id ∈ more, s.Offers t id

/-- No diagnostics are made either, and new attributes report to those of the context. -/
structure Steady (s t : Scene) : Prop where
  warned : t.warned = s.warned
  current : t.context.diagnostics = s.context.diagnostics
  reporters : ∃ n, t.reporters = s.reporters ++ List.replicate n s.context.diagnostics

namespace Steady
variable {s t u : Scene}

theorem of_same (warned : t.warned = s.warned)
    (current : t.context.diagnostics = s.context.diagnostics)
    (reporters : t.reporters = s.reporters) : Steady s t :=
  ⟨warned, current, 0, by rw [reporters, List.replicate_zero, List.append_nil]⟩

theorem trans (h : Steady s t) (h' : Steady t u) : Steady s u := by
  obtain ⟨n, before⟩ := h.reporters
  obtain ⟨m, after⟩ := h'.reporters
  refine ⟨h'.warned.trans h.warned, h'.current.trans h.current, n + m, ?_⟩
  rw [after, before, h.current, List.append_assoc, List.replicate_append_replicate]

theorem of_kept (h : t.kept = s.kept) : Steady s t := by
  refine .of_same (Scene.warned_eq_of_kept h) ?_ ?_
  · exact (congrArg (fun u : Scene => u.context.diagnostics) h :)
  · rw [Scene.reporters, Scene.attributes_eq_of_kept h, Scene.reporters]

theorem of_retextured (h : s.Retextured t) : Steady s t := by
  obtain ⟨textures, log, same⟩ := h
  rw [same]
  exact .of_same rfl rfl rfl

theorem pinFrame : PinFrame Steady where
  refl _ := .of_same rfl rfl rfl
  trans := trans
  setPins _ _ _ := .of_same rfl rfl rfl
  setAttrPins _ _ _ := .of_same rfl rfl (reporters_setAttr rfl)
  unreleased _ _ := .of_same rfl rfl rfl

theorem drawFrame : DrawFrame Steady where
  toPinFrame := pinFrame
  bind := pinFrame.bindFrame of_kept
  alike h := of_kept h.kept
  prepare s := by
    obtain ⟨textures, log, calls, same⟩ := (readied_prepareDraw s).same
    rw [same]
    exact .of_same rfl rfl rfl
  stage s outline := by
    obtain ⟨pipeline, pipelinesMade, calls, _, frame⟩ := stageOutline_frame s outline
    refine ⟨?_, ?_, 1, ?_⟩ <;> rw [frame]
    · rfl
    · rfl
    · change (s.attributes.push _).toList.map _ = _
      rw [Array.toList_push, List.map_append]
      rfl
  mark _ _ := .of_same rfl rfl rfl
  unstage _ := .of_same rfl rfl rfl

end Steady

namespace Hushed
variable {s t u : Scene}

theorem of_steady (h : Steady s t)
    (notices : t.notices Notice.isMidScene = s.notices Notice.isMidScene) : Hushed s t := by
  obtain ⟨n, reporters⟩ := h.reporters
  refine ⟨notices, ⟨0, ?_⟩, .inl h.current, _, reporters, fun id member => ?_⟩
  · rw [h.warned, Array.replicate_zero, Array.append_empty]
  · exact .inl (List.eq_of_mem_replicate member)

theorem of_log (h : Steady s t) (log : t.log = s.log) : Hushed s t :=
  of_steady h (Scene.notices_of_log log)

theorem warnedBy (h : Hushed s t) (id : DiagnosticsId) : t.warnedBy id = s.warnedBy id := by
  obtain ⟨n, warned⟩ := h.warned
  simp only [Scene.warnedBy, warned, Array.getD_eq_getD_getElem?, Array.getElem?_append]
  by_cases inside : id.index < s.warned.size
  · rw [if_pos inside]
  · rw [if_neg inside, Array.getElem?_eq_none (Nat.le_of_not_lt inside), Array.getElem?_replicate]
    split <;> rfl

theorem size_le (h : Hushed s t) : s.warned.size ≤ t.warned.size := by
  obtain ⟨n, warned⟩ := h.warned
  rw [warned, Array.size_append]
  exact Nat.le_add_right ..

theorem trans (h : Hushed s t) (h' : Hushed t u) : Hushed s u := by
  obtain ⟨n, warned⟩ := h.warned
  obtain ⟨m, warned'⟩ := h'.warned
  obtain ⟨more, reporters, offered⟩ := h.reporters
  obtain ⟨more', reporters', offered'⟩ := h'.reporters
  have early (id : DiagnosticsId) (offers : s.Offers t id) : s.Offers u id :=
    offers.imp_right fun made => Nat.lt_of_lt_of_le made h'.size_le
  have late (id : DiagnosticsId) (offers : t.Offers u id) : s.Offers u id := by
    rcases offers with same | made
    · rw [same]
      exact early _ h.current
    · exact .inr made
  refine ⟨h'.notices.trans h.notices, ⟨n + m, ?_⟩, late _ h'.current, more ++ more', ?_,
    fun id member => ?_⟩
  · rw [warned', warned, Array.append_assoc, Array.replicate_append_replicate]
  · rw [reporters', reporters, List.append_assoc]
  · rcases List.mem_append.mp member with before | after
    · exact early id (offered id before)
    · exact late id (offered' id after)

theorem size_addDiagnostics (s : Scene) : s.warned.size < s.addDiagnostics.2.warned.size := by
  rw [Scene.addDiagnostics, Array.size_push]
  exact Nat.lt_succ_self _

theorem addDiagnostics (s : Scene) : Hushed s s.addDiagnostics.2 where
  notices := rfl
  warned := ⟨1, rfl⟩
  current := .inl rfl
  reporters := ⟨[], (List.append_nil _).symm, fun _ member => nomatch member⟩

theorem renewContext (s : Scene) (settings : DrawSettings) :
    Hushed s (s.renewContext settings) where
  notices := Scene.notices_note_of_not (s := s.createPipeline.2.addDiagnostics.2) rfl
  warned := ⟨1, rfl⟩
  current := .inr (size_addDiagnostics s)
  reporters := ⟨[], (List.append_nil _).symm, fun _ member => nomatch member⟩

theorem createAttribute {id : DiagnosticsId}
    (offered : id = s.context.diagnostics ∨ id.index < s.warned.size) (buffer : BufferId)
    (name : String) (layout : VertexLayout) :
    Hushed s (s.createAttribute id buffer name layout).2 := by
  have still : s.warned = s.warned ++ Array.replicate 0 false := by
    rw [Array.replicate_zero, Array.append_empty]
  rcases createAttribute_eq s id buffer name layout with
    ⟨error, same⟩ | ⟨a, reports, _, _, same⟩ <;> rw [same]
  · exact .of_steady (.of_same rfl rfl rfl) (Scene.notices_note_of_not rfl s)
  · refine ⟨rfl, ⟨0, still⟩, .inl rfl, [a.diagnostics], ?_, fun other member => ?_⟩
    · rw [Scene.reporters, Scene.addAttr, Array.toList_push, List.map_append]
      rfl
    · rw [List.mem_singleton.mp member, reports]
      exact offered

theorem newAttribute (s : Scene) (own : Bool) (buffer : BufferId) (name : String)
    (layout : VertexLayout) :
    Hushed s ((Operation.newAttribute own buffer name layout).after s) := by
  cases own with
  | false => exact createAttribute (.inl rfl) buffer name layout
  | true =>
    have made : Hushed s.addDiagnostics.2 _ :=
      createAttribute (.inr (size_addDiagnostics s)) buffer name layout
    exact (addDiagnostics s).trans made

end Hushed

structure MidSceneReport where
  diagnostics : DiagnosticsId
  what : String
deriving DecidableEq

def MidSceneReport.notice (report : MidSceneReport) : Notice := .midSceneModification report.what

/-- What an operation tells, if anything: a pinned attribute is changed, or the context is told by
hand. -/
def Operation.report? (op : Operation) (s : Scene) : Option MidSceneReport :=
  match op with
  | setNormalized id _ =>
    let a := s.attr id
    if a.pins = 0 then none
    else some ⟨a.diagnostics, "the normalized flag of '" ++ a.name ++ "'"⟩
  | replaceBuffer id _ =>
    let a := s.attr id
    if a.pins = 0 then none else some ⟨a.diagnostics, "the buffer of '" ++ a.name ++ "'"⟩
  | report what => some ⟨s.context.diagnostics, what⟩
  | _ => none

def Scene.hear (s : Scene) : Option MidSceneReport → Scene
  | none => s
  | some report => s.reportMidScene report.diagnostics report.what

theorem attributes_hear (s : Scene) (report : Option MidSceneReport) :
    (s.hear report).attributes = s.attributes := by
  cases report with
  | none => rfl
  | some report =>
    simp only [Scene.hear, Scene.reportMidScene]
    split <;> rfl

theorem attr_hear (s : Scene) (report : Option MidSceneReport) (id : AttributeId) :
    (s.hear report).attr id = s.attr id := by
  rw [Scene.attr, attributes_hear, Scene.attr]

theorem setNormalized_eq (s : Scene) (id : AttributeId) (normalized : Bool) :
    s.setNormalized id normalized =
      (s.hear ((Operation.setNormalized id normalized).report? s)).setAttr id
        { s.attr id with normalized } := by
  simp only [Scene.setNormalized, Operation.report?]
  split <;> rfl

theorem Hushed.setNormalized (s : Scene) (id : AttributeId) (normalized : Bool) :
    Hushed (s.hear ((Operation.setNormalized id normalized).report? s))
      (s.setNormalized id normalized) := by
  rw [setNormalized_eq]
  exact .of_log (.of_same rfl rfl (reporters_setAttr (by rw [attr_hear]))) rfl

open SceneM

theorem Hushed.replaceBuffer (s : Scene) (id : AttributeId) (buffer : BufferId) :
    Hushed (s.hear ((Operation.replaceBuffer id buffer).report? s))
      (s.replaceBuffer id buffer).2 := by
  let a := s.attr id
  let heard := s.hear ((Operation.replaceBuffer id buffer).report? s)
  let pinned := (takeBufferPins buffer a.pins).after heard
  let replaced := pinned.setAttr id { a with buffer }
  have silent : PinFrame fun s t => t.notices Notice.isMidScene = s.notices Notice.isMidScene :=
    Scene.notices_pinFrame fun _ => rfl
  have pinning : Hushed heard pinned :=
    .of_steady (Steady.pinFrame.takeBufferPins heard buffer a.pins)
      (silent.takeBufferPins heard buffer a.pins)
  have same : (pinned.attr id).diagnostics = a.diagnostics := by
    have still : pinned.attributes = heard.attributes :=
      keeps_takeBufferPins (P := fun t => t.attributes = heard.attributes) (fun _ same => same)
        a.pins heard rfl
    rw [Scene.attr, still]
    exact congrArg VertexAttribute.diagnostics (attr_hear s _ id)
  have setting : Hushed pinned replaced :=
    .of_log (.of_same rfl rfl (reporters_setAttr same.symm)) rfl
  have unpinning :
      Hushed replaced (a.pins.repeat (fun t => t.dropBufferPin a.buffer) replaced) :=
    .of_steady
      (Steady.pinFrame.iterate replaced (fun t => Steady.pinFrame.dropBufferPin t a.buffer) a.pins)
      (silent.iterate replaced (fun t => silent.dropBufferPin t a.buffer) a.pins)
  have start : heard = if a.pins = 0 then s
      else s.reportMidScene a.diagnostics ("the buffer of '" ++ a.name ++ "'") := by
    simp only [heard, Operation.report?]
    split <;> rfl
  have outcome : (s.replaceBuffer id buffer).2 = pinned ∨ (s.replaceBuffer id buffer).2 =
      a.pins.repeat (fun t => t.dropBufferPin a.buffer) replaced := by
    simp only [replaced, pinned, start]
    exact Scene.replaceBuffer_after s id buffer
  rcases outcome with short | whole
  · rw [short]
    exact pinning
  · rw [whole]
    exact (pinning.trans setting).trans unpinning

/-- But for what it tells, an operation is hushed. -/
theorem hushed_after (op : Operation) (s : Scene) :
    Hushed (s.hear (op.report? s)) (op.after s) := by
  have silent : PinFrame fun s t => t.notices Notice.isMidScene = s.notices Notice.isMidScene :=
    Scene.notices_pinFrame fun _ => rfl
  have quiet := isMidScene_of_isOfDraws
  have channels (notice : Notice) (h : notice.isOfChannels = true) : notice.isMidScene = false :=
    quiet notice (Notice.isOfDraws_of_isOfChannels h)
  have validation (notice : Notice) (h : notice.isOfValidation = true) :
      notice.isMidScene = false := quiet notice (Notice.isOfDraws_of_isOfValidation h)
  have binding (notice : Notice) (h : notice.isBinding = true) : notice.isMidScene = false := by
    cases notice <;> first | rfl | cases h
  cases op with
  | newContext settings => exact .renewContext s settings
  | changeSettings | pushSource | popSource | newBuffer | newVertexArray | newTexture | unmap =>
    exact .of_log (.of_same rfl rfl rfl) rfl
  | newAttribute own buffer name layout => exact .newAttribute s own buffer name layout
  | setNormalized id normalized => exact .setNormalized s id normalized
  | replaceBuffer id buffer => exact .replaceBuffer s id buffer
  | borrowBuffer id | returnBuffer id =>
    exact .of_log (.of_same rfl rfl (reporters_setAttr rfl)) rfl
  | acquire id => exact .of_steady (Steady.pinFrame.takePin s id) (silent.takePin s id)
  | release id => exact .of_steady (Steady.pinFrame.release s id) (silent.release s id)
  | dropPin id => exact .of_steady (Steady.pinFrame.dropPin s id) (silent.dropPin s id)
  | pinBuffer id =>
    exact .of_steady (Steady.pinFrame.takeBufferPin s id) (silent.takeBufferPin s id)
  | unpinBuffer id => exact .of_steady (Steady.pinFrame.unpinBuffer s id) (silent.unpinBuffer s id)
  | bind id target =>
    exact .of_steady (.of_kept (s.kept_bindBuffer id target))
      (Scene.notices_bindBuffer binding s id target)
  | unbind id => exact .of_steady (.of_kept (s.kept_unbind id)) (Scene.notices_unbind binding s id)
  | map id access =>
    simp only [Operation.after, Operation.perform, after_discard]
    rcases mapBuffer_after s id access with same | ⟨_, _, same⟩ <;> rw [same]
    · exact .of_log (.of_same rfl rfl rfl) rfl
    · exact .of_log (.of_same rfl rfl rfl) rfl
  | leaveAtlas id =>
    exact .of_steady (.of_retextured (.leaveAtlas s id)) (Scene.notices_leaveAtlas s rfl id)
  | prepareMipmaps id =>
    exact .of_steady (.of_retextured (.prepareMipmaps s id)) (Scene.notices_prepareMipmaps s rfl id)
  | report what =>
    exact .of_log (.of_same rfl rfl rfl) rfl
  | validate pipeline start layers =>
    simp only [Operation.after, Operation.perform, after_discard]
    exact .of_steady (.of_retextured (.validateLayers s pipeline start layers s (.refl s)))
      (keeps_notices_validateLayers validation _ pipeline start layers s rfl)
  | reconstruct position topology first count indices =>
    simp only [Operation.after, Operation.perform, after_discard]
    exact .of_steady (reconstruct_rel (fun alike => .of_kept alike.kept) .trans
        (fun _ _ => .of_same rfl rfl rfl) s position topology first count indices)
      (keeps_notices_reconstruct quiet _ position topology first count indices s rfl)
  | enable attributes options =>
    simp only [Operation.after, Operation.perform, after_discard]
    exact .of_steady (.of_kept (kept_enableAttributes s attributes options))
      (keeps_notices_enableAttributes quiet _ attributes options s rfl)
  | disable attributes flushed =>
    obtain ⟨front, _, same⟩ := after_tearDown s attributes flushed
    rw [Operation.after, Operation.perform, same]
    exact .of_steady (.of_kept (s.kept_disableAttributes front flushed))
      (Scene.notices_disableAttributes channels s front flushed)
  | draw request prevalidated =>
    refine .of_steady (Steady.drawFrame.draw s request prevalidated) ?_
    cases prevalidated with
    | true => exact keeps_notices_drawWith quiet _ {} request s rfl
    | false => exact keeps_notices_draw quiet _ request s rfl

/-- Until there is another context, its diagnostics stay. -/
theorem diagnostics_after (op : Operation) (s : Scene) (same : op.isRenewal = false) :
    (op.after s).context.diagnostics = s.context.diagnostics := by
  cases op with
  | newContext => cases same
  | enable attributes options =>
    simp only [Operation.after, Operation.perform, after_discard]
    exact (Steady.of_kept (kept_enableAttributes s attributes options)).current
  | disable attributes flushed =>
    obtain ⟨front, _, same⟩ := after_tearDown s attributes flushed
    rw [Operation.after, Operation.perform, same]
    exact (Steady.of_kept (s.kept_disableAttributes front flushed)).current
  | draw request prevalidated => exact (Steady.drawFrame.draw s request prevalidated).current
  | _ =>
    obtain ⟨settings, sources, context⟩ := (calm_after _ s same rfl rfl).context
    rw [context]

end DrawSubmission
