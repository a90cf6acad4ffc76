import Mathlib.Algebra.Ring.Nat
import DrawSubmission.Proofs.Undisturbed
import DrawSubmission.Scene.Replaced
set_option autoImplicit false

namespace DrawSubmission

def VertexAttribute.pinsOn (b : BufferId) (a : VertexAttribute) : Nat :=
  if a.buffer = b then a.pins else 0

/-- The pins that all attributes hold on a buffer. -/
def Scene.heldPins (s : Scene) (b : BufferId) : Nat :=
  (s.attributes.toList.map (VertexAttribute.pinsOn b)).sum

def Scene.Linked (s : Scene) : Prop := ∀ a ∈ s.attributes.toList, a.buffer.index < s.buffers.size

section Objects
variable (s : Scene)

theorem attr_mem {id : AttributeId} (h : id.index < s.attributes.size) :
    s.attr id ∈ s.attributes.toList := by
  have here : s.attr id = s.attributes.toList[id.index] := by
    simp [Scene.attr, Array.getD_eq_getD_getElem?, h]
  rw [here]
  exact List.getElem_mem h

theorem Scene.Linked.attr {s : Scene} (linked : s.Linked) {id : AttributeId}
    (h : id.index < s.attributes.size) : (s.attr id).buffer.index < s.buffers.size :=
  linked _ (attr_mem s h)

theorem linked_setAttr {s : Scene} {id : AttributeId} {a : VertexAttribute} (linked : s.Linked)
    (behind : a.buffer.index < s.buffers.size) : (s.setAttr id a).Linked := by
  intro a' member
  rw [Scene.setAttr, Array.toList_setIfInBounds] at member
  rcases List.mem_or_eq_of_mem_set member with old | new
  · exact linked a' old
  · exact new ▸ behind

theorem linked_setBuffer {s : Scene} {id : BufferId} {b : Buffer} (linked : s.Linked) :
    (s.setBuffer id b).Linked := by
  intro a member
  rw [Scene.size_setBuffer]
  exact linked a member

theorem sum_map_set {α : Type} (f : α → Nat) (xs : List α) {i : Nat} (h : i < xs.length) (x : α) :
    ((xs.set i x).map f).sum + f xs[i] = (xs.map f).sum + f x := by
  induction xs generalizing i with
  | nil => cases h
  | cons y xs ih =>
    cases i with
    | zero =>
      simp only [List.set_cons_zero, List.map_cons, List.sum_cons, List.getElem_cons_zero]
      omega
    | succ i =>
      have rest := ih (Nat.lt_of_succ_lt_succ h)
      simp only [List.set_cons_succ, List.map_cons, List.sum_cons, List.getElem_cons_succ]
      omega

theorem heldPins_setAttr {id : AttributeId} (h : id.index < s.attributes.size)
    (a : VertexAttribute) (b : BufferId) :
    (s.setAttr id a).heldPins b + (s.attr id).pinsOn b = s.heldPins b + a.pinsOn b := by
  have old : s.attr id = s.attributes.toList[id.index] := by
    simp [Scene.attr, Array.getD_eq_getD_getElem?, h]
  rw [old, Scene.heldPins, Scene.setAttr, Array.toList_setIfInBounds]
  exact sum_map_set (VertexAttribute.pinsOn b) s.attributes.toList h a

theorem pins_le_heldPins {id : AttributeId} (h : id.index < s.attributes.size) :
    (s.attr id).pins ≤ s.heldPins (s.attr id).buffer := by
  have unpinned := heldPins_setAttr s h { s.attr id with pins := 0 } (s.attr id).buffer
  simp only [VertexAttribute.pinsOn, ↓reduceIte] at unpinned
  omega

end Objects

structure SamePins (s t : Scene) : Prop where
  linked : s.Linked → t.Linked
  pins : ∀ b, (t.buffer b).pins = (s.buffer b).pins
  held : ∀ b, t.heldPins b = s.heldPins b

namespace SamePins
variable {s t u : Scene}

theorem of_same (attributes : t.attributes = s.attributes) (buffers : t.buffers = s.buffers) :
    SamePins s t where
  linked := by
    rw [Scene.Linked, Scene.Linked, attributes, buffers]
    exact id
  pins b := by rw [Scene.buffer, buffers, Scene.buffer]
  held b := by rw [Scene.heldPins, attributes, Scene.heldPins]

theorem of_spared (h : Spared s t) : SamePins s t where
  linked linked := by
    obtain ⟨more, whole, fresh⟩ := h.attributes
    intro a member
    rw [whole] at member
    rcases List.mem_append.mp member with old | new
    · exact Nat.lt_of_lt_of_le (linked a old) h.size_le
    · exact (fresh a new).2
  pins b := by
    by_cases inside : b.index < s.buffers.size
    · exact (congrArg Buffer.pins (h.buffer inside) :)
    · have outside := Nat.le_of_not_lt inside
      obtain ⟨more, whole, fresh⟩ := h.buffers
      rw [Scene.buffer_of_le s b outside]
      change (t.buffer b).kept.pins = 0
      rw [Scene.buffer_kept_eq_getD, whole, List.getElem?_append_right (by simpa using outside)]
      cases found : more[b.index - (s.buffers.toList.map Buffer.kept).length]? with
      | none => rfl
      | some x => exact fresh x (List.mem_of_getElem? found)
  held b := by
    obtain ⟨more, whole, fresh⟩ := h.attributes
    have none : (more.map (VertexAttribute.pinsOn b)).sum = 0 := by
      refine List.sum_eq_zero_iff_forall_eq_nat.mpr fun n member => ?_
      obtain ⟨a, inside, same⟩ := List.mem_map.mp member
      rw [← same, VertexAttribute.pinsOn, (fresh a inside).1, ite_self]
    rw [Scene.heldPins, whole, List.map_append, List.sum_append, none]
    rfl

theorem of_kept (h : t.kept = s.kept) : SamePins s t := .of_spared (.of_kept h)

theorem setBuffer {id : BufferId} {x : Buffer} (same : x.pins = (s.buffer id).pins) :
    SamePins s (s.setBuffer id x) where
  linked := linked_setBuffer
  pins b := by
    rw [Scene.buffer_setBuffer]
    split
    · rename_i here
      rw [same, here.1]
    · rfl
  held _ := rfl

theorem trans (h : SamePins s t) (h' : SamePins t u) : SamePins s u where
  linked linked := h'.linked (h.linked linked)
  pins b := (h'.pins b).trans (h.pins b)
  held b := (h'.held b).trans (h.held b)

theorem of_retextured (h : s.Retextured t) : SamePins s t := by
  obtain ⟨textures, log, same⟩ := h
  rw [same]
  exact .of_same rfl rfl

theorem reportMidScene (s : Scene) (id : DiagnosticsId) (what : String) :
    SamePins s (s.reportMidScene id what) := by
  obtain ⟨warned, notices, same, _⟩ := Scene.reportMidScene_frame s id what
  rw [same]
  exact .of_same rfl rfl

theorem setAttr {id : AttributeId} {a : VertexAttribute} (pins : a.pins = (s.attr id).pins)
    (buffer : a.buffer = (s.attr id).buffer) : SamePins s (s.setAttr id a) := by
  by_cases inside : id.index < s.attributes.size
  · refine ⟨fun linked => ?_, fun _ => rfl, fun b => ?_⟩
    · exact linked_setAttr linked (buffer ▸ linked.attr inside)
    · have held := heldPins_setAttr s inside a b
      have same : a.pinsOn b = (s.attr id).pinsOn b := by
        rw [VertexAttribute.pinsOn, pins, buffer, VertexAttribute.pinsOn]
      omega
  · refine .of_same ?_ rfl
    simp only [Scene.setAttr, Array.setIfInBounds, inside, ↓reduceDIte]

theorem bindFrame : BindFrame SamePins where
  refl _ := .of_same rfl rfl
  trans := trans
  of_still h := .of_kept (Scene.kept_of_still h)
  setBinding _ _ _ _ := .setBuffer rfl
  note _ _ _ := .of_same rfl rfl

theorem setNormalized (s : Scene) (id : AttributeId) (normalized : Bool) :
    SamePins s (s.setNormalized id normalized) := by
  let a := s.attr id
  obtain ⟨warned, notices, same, _⟩ := Scene.reportPinned_frame s a.pins a.diagnostics
    ("the normalized flag of '" ++ a.name ++ "'")
  let t : Scene := { s with warned, log := s.log ++ notices }
  have reported : SamePins s t := .of_same rfl rfl
  simp only [Scene.setNormalized]
  rw [same]
  exact reported.trans (.setAttr rfl rfl)

theorem addBuffer (s : Scene) {x : Buffer} (unpinned : x.pins = 0) :
    SamePins s (s.addBuffer x).2 where
  linked linked a member := by
    change _ < (s.buffers.push x).size
    rw [Array.size_push]
    exact Nat.lt_succ_of_lt (linked a member)
  pins b := by
    rw [Scene.buffer_addBuffer]
    split
    · rename_i last
      rw [unpinned, Scene.buffer_of_le s b (Nat.le_of_eq last.symm)]
      rfl
    · rfl
  held _ := rfl

theorem addAttr (s : Scene) {a : VertexAttribute} (unpinned : a.pins = 0)
    (behind : a.buffer.index < s.buffers.size) : SamePins s (s.addAttr a).2 where
  linked linked a' member := by
    have pushed : (s.addAttr a).2.attributes = s.attributes.push a := rfl
    rw [pushed, Array.toList_push] at member
    rcases List.mem_append.mp member with old | new
    · exact linked a' old
    · rw [List.mem_singleton.mp new]
      exact behind
  pins _ := rfl
  held b := by
    have pushed : (s.addAttr a).2.attributes = s.attributes.push a := rfl
    have none : VertexAttribute.pinsOn b a = 0 := by
      rw [VertexAttribute.pinsOn, unpinned, ite_self]
    rw [Scene.heldPins, pushed, Array.toList_push, List.map_append, List.sum_append, List.map_cons,
      none]
    rfl

end SamePins

/-- The objects that an operation pins, releases, feeds from or makes attributes of exist. -/
def Operation.InRange (op : Operation) (s : Scene) : Prop :=
  match op with
  | newAttribute _ buffer _ _ => buffer.index < s.buffers.size
  | replaceBuffer id buffer => id.index < s.attributes.size ∧ buffer.index < s.buffers.size
  | acquire id | release id | dropPin id => id.index < s.attributes.size
  | pinBuffer id | unpinBuffer id => id.index < s.buffers.size
  | draw request _ => ∀ id ∈ request.attributes, id.index < s.attributes.size
  | _ => True

instance (op : Operation) (s : Scene) : Decidable (op.InRange s) :=
  match op with
  | .replaceBuffer .. => inferInstanceAs (Decidable (_ ∧ _))
  | .draw request _ => inferInstanceAs (Decidable (∀ id ∈ request.attributes, _))
  | .newAttribute .. | .acquire _ | .release _ | .dropPin _ | .pinBuffer _ | .unpinBuffer _ =>
    inferInstanceAs (Decidable (_ < _))
  | .newContext _ | .changeSettings _ | .pushSource _ | .popSource | .newBuffer ..
  | .newVertexArray _ | .newTexture _ | .setNormalized .. | .borrowBuffer _ | .returnBuffer _
  | .bind .. | .unbind _ | .map .. | .unmap _ | .leaveAtlas _ | .prepareMipmaps _ | .report _
  | .validate .. | .reconstruct .. | .enable .. | .disable .. =>
    inferInstanceAs (Decidable True)

/-- Whether an operation is about pins. A draw is not: it gives back all that it takes. -/
def Operation.isPinning : Operation → Bool
  | replaceBuffer .. | acquire _ | release _ | dropPin _ | pinBuffer _ | unpinBuffer _ => true
  | _ => false

open SceneM

theorem SamePins.createAttribute (s : Scene) (diagnostics : DiagnosticsId) {buffer : BufferId}
    (name : String) (layout : VertexLayout) (inside : buffer.index < s.buffers.size) :
    SamePins s (s.createAttribute diagnostics buffer name layout).2 := by
  rcases createAttribute_eq s diagnostics buffer name layout with
    ⟨error, same⟩ | ⟨a, _, behind, unpinned, same⟩ <;> rw [same]
  · exact .of_same rfl rfl
  · exact .addAttr s unpinned (behind ▸ inside)

theorem samePins_after (op : Operation) (s : Scene) (inRange : op.InRange s)
    (counted : op.isDraw = true → op.Counted s) (other : op.isPinning = false) :
    SamePins s (op.after s) := by
  cases op with
  | replaceBuffer | acquire | release | dropPin | pinBuffer | unpinBuffer => cases other
  | newContext | changeSettings | pushSource | popSource | newTexture => exact .of_same rfl rfl
  | newBuffer contents storage => exact .addBuffer s rfl
  | newVertexArray data =>
    have added : SamePins s (s.addBuffer { contents := data.toArray, origin := .driver }).2 :=
      .addBuffer s rfl
    exact added.trans (.of_same rfl rfl)
  | newAttribute own buffer name layout =>
    cases own with
    | true =>
      have added : SamePins s s.addDiagnostics.2 := .of_same rfl rfl
      exact added.trans (.createAttribute s.addDiagnostics.2 s.addDiagnostics.1 name layout inRange)
    | false => exact .createAttribute s s.context.diagnostics name layout inRange
  | setNormalized id normalized => exact .setNormalized s id normalized
  | borrowBuffer id => exact .setAttr rfl rfl
  | returnBuffer id => exact .setAttr rfl rfl
  | bind | unbind | enable | disable => exact Operation.binding SamePins.bindFrame _ s rfl
  | map id access =>
    simp only [Operation.after, Operation.perform, after_discard]
    rcases mapBuffer_after s id access with same | ⟨mapCount, _, same⟩
    · rw [same]
      exact .of_same rfl rfl
    · rw [same]
      exact .setBuffer rfl
  | unmap id => exact .setBuffer rfl
  | leaveAtlas id => exact .of_retextured (.leaveAtlas s id)
  | prepareMipmaps id => exact .of_retextured (.prepareMipmaps s id)
  | report what => exact .reportMidScene s s.context.diagnostics what
  | validate pipeline start layers =>
    simp only [Operation.after, Operation.perform, after_discard]
    exact .of_retextured (.validateLayers s pipeline start layers s (.refl s))
  | reconstruct position topology first count indices =>
    simp only [Operation.after, Operation.perform, after_discard]
    exact reconstruct_rel (fun alike => .of_kept alike.kept) .trans (fun _ _ => .setBuffer rfl) s
      position topology first count indices
  | draw request prevalidated =>
    exact .of_spared ((spared_draw s request prevalidated inRange).of_counted (counted rfl))

section Links
variable {s : Scene}

theorem Scene.Linked.of_same {t : Scene} (linked : s.Linked)
    (attributes : t.attributes = s.attributes) (size : t.buffers.size = s.buffers.size) :
    t.Linked := by
  rw [Scene.Linked, attributes, size]
  exact linked

theorem linked_setAttr_of_same (linked : s.Linked) {id : AttributeId} {a : VertexAttribute}
    (same : a.buffer = (s.attr id).buffer) : (s.setAttr id a).Linked := by
  by_cases inside : id.index < s.attributes.size
  · exact linked_setAttr linked (same ▸ linked.attr inside)
  · refine linked.of_same ?_ rfl
    simp only [Scene.setAttr, Array.setIfInBounds, inside, ↓reduceDIte]

theorem linked_pinFrame : PinFrame fun s t => s.Linked → t.Linked where
  refl _ := id
  trans h h' := h' ∘ h
  setPins _ _ _ := linked_setBuffer
  setAttrPins _ _ _ linked := linked_setAttr_of_same linked rfl
  unreleased _ _ := id

theorem linked_of_kept {t : Scene} (h : t.kept = s.kept) (linked : s.Linked) : t.Linked :=
  linked.of_same (Scene.attributes_eq_of_kept h) (Scene.buffers_size_eq_of_kept h)

theorem linked_drawFrame : DrawFrame fun s t => s.Linked → t.Linked where
  toPinFrame := linked_pinFrame
  bind := linked_pinFrame.bindFrame linked_of_kept
  alike h := linked_of_kept h.kept
  mark _ _ := linked_setBuffer
  prepare s linked := by
    obtain ⟨textures, log, calls, same⟩ := (readied_prepareDraw s).same
    rw [same]
    exact linked
  stage s outline linked := by
    obtain ⟨pipeline, pipelinesMade, calls, _, frame⟩ := stageOutline_frame s outline
    have behind : s.buffers.size < (s.addOutline outline).2.buffers.size :=
      Nat.lt_of_lt_of_eq (Nat.lt_succ_self _) (Array.size_push _).symm
    let data := (outline.flatMap Segment.vertices).flatMap Vertex3.toBytes
    have array : SamePins s (s.createVertexArray data).2 :=
      (SamePins.addBuffer s rfl).trans (.of_same rfl rfl)
    have added : SamePins (s.createVertexArray data).2 (s.addOutline outline).2 :=
      .addAttr _ rfl behind
    rw [frame]
    exact ((array.trans added).linked linked).of_same rfl rfl
  unstage _ := id

theorem linked_replaceBuffer (linked : s.Linked) (id : AttributeId) {buffer : BufferId}
    (bound : buffer.index < s.buffers.size) : (s.replaceBuffer id buffer).2.Linked := by
  have size := Scene.size_frame.replaceBuffer s id buffer
  by_cases can : s.Replaceable id buffer
  · have moved : (s.setAttr id { s.attr id with buffer }).Linked := linked_setAttr linked bound
    exact moved.of_same (Scene.attributes_of_replaced bound can) size
  · exact linked.of_same (Scene.attributes_of_not_replaced bound can) size

theorem linked_after (op : Operation) (linked : s.Linked) (inRange : op.InRange s) :
    (op.after s).Linked := by
  cases op with
  | replaceBuffer id buffer => exact linked_replaceBuffer linked id inRange.2
  | acquire id => exact linked_pinFrame.takePin s id linked
  | release id => exact linked_pinFrame.release s id linked
  | dropPin id => exact linked_pinFrame.dropPin s id linked
  | pinBuffer id => exact linked_pinFrame.takeBufferPin s id linked
  | unpinBuffer id => exact linked_pinFrame.unpinBuffer s id linked
  | draw request prevalidated => exact linked_drawFrame.draw s request prevalidated linked
  | _ => exact (samePins_after _ s inRange nofun rfl).linked linked

theorem linked_run (linked : s.Linked) (ops : List Operation)
    (along : Along Operation.InRange ops s) : (s.run ops).Linked :=
  run_induction (I := fun _ t => t.Linked) linked
    (fun _ op linked inRange => linked_after op linked inRange) ops along

end Links

end DrawSubmission
