import DrawSubmission.Proofs.Conservation
set_option autoImplicit false

namespace DrawSubmission

/-- After a run the pins that attributes hold on a buffer, and the direct ones that were put on it,
are no more than its pins and the direct ones that somebody tried to take back. -/
structure Backed (ops : List Operation) (s : Scene) : Prop where
  linked : s.Linked
  held_le : ∀ b, s.heldPins b + ops.count (.pinBuffer b) ≤
    (s.buffer b).pins + ops.count (.unpinBuffer b)

namespace Backed
variable {ops : List Operation} {s t : Scene}

theorem congr (h : Backed ops s) (same : SamePins s t) : Backed ops t where
  linked := same.linked h.linked
  held_le b := by
    rw [same.pins, same.held]
    exact h.held_le b

theorem snoc {op : Operation} (h : Backed ops s) (other : op.isReference = false) :
    Backed (ops ++ [op]) s where
  linked := h.linked
  held_le b := by
    rw [count_other ops other rfl, count_other ops other rfl]
    exact h.held_le b

theorem set (h : Backed ops s) {id : AttributeId} (inside : id.index < s.attributes.size)
    {a : VertexAttribute} (linked : t.Linked)
    (attributes : t.attributes = (s.setAttr id a).attributes)
    (pins : ∀ b, (s.buffer b).pins + a.pinsOn b ≤ (t.buffer b).pins + (s.attr id).pinsOn b) :
    Backed ops t where
  linked := linked
  held_le b := by
    have held := heldPins_setAttr s inside a b
    rw [Scene.heldPins, ← attributes] at held
    change t.heldPins b + _ = _ at held
    have before := h.held_le b
    have change := pins b
    omega

theorem release (h : Backed ops s) {id : AttributeId} (inside : id.index < s.attributes.size) :
    Backed ops (s.release id).2 := by
  let a := s.attr id
  cases pins : a.pins with
  | zero =>
    have same : (s.release id).2 = s := by simp only [Scene.release, a, pins]
    rw [same]
    exact h
  | succ n =>
    have linked := linked_pinFrame.release s id h.linked
    rw [s.release_of_pinned pins] at linked ⊢
    apply h.set inside linked (a := { a with pins := n }) (Scene.attributes_unpinBuffer _ _)
    intro b
    rw [Scene.pins_unpinBuffer]
    change (s.buffer b).pins + (if a.buffer = b then n else 0) ≤
      (s.buffer b).pins - (if b = a.buffer then 1 else 0) + if a.buffer = b then a.pins else 0
    simp only [eq_comm (a := b), pins]
    split <;> omega

theorem dropPin (h : Backed ops s) {id : AttributeId} (inside : id.index < s.attributes.size) :
    Backed ops (s.dropPin id) := by
  obtain ⟨log, same⟩ := s.dropPin_eq id
  rw [same]
  exact (h.release inside).congr (.of_same rfl rfl)

theorem acquire (h : Backed ops s) {id : AttributeId} (inside : id.index < s.attributes.size)
    (linked : (s.acquire id).Linked) : Backed ops (s.acquire id) := by
  have behind : (s.attr id).buffer.index < s.buffers.size := h.linked.attr inside
  apply h.set inside linked (a := { s.attr id with pins := (s.attr id).pins + 1 }) rfl
  exact fun b => Nat.le_of_eq (s.pins_acquire behind b).symm

theorem replaceBuffer (h : Backed ops s) {id : AttributeId} (inside : id.index < s.attributes.size)
    {buffer : BufferId} (bound : buffer.index < s.buffers.size)
    (done : (s.replaceBuffer id buffer).1 = .ok ()) :
    Backed ops (s.replaceBuffer id buffer).2 := by
  let a := s.attr id
  have behind : a.buffer.index < s.buffers.size := h.linked.attr inside
  obtain ⟨warned, log, same⟩ := s.replaceBuffer_moves bound behind done
  have linked := linked_replaceBuffer h.linked id bound
  rw [same] at linked ⊢
  apply h.set inside linked (a := { a with buffer }) rfl
  intro b
  change (s.buffer b).pins + (if buffer = b then a.pins else 0) ≤
    ((s.movePins id buffer).buffer b).pins + if a.buffer = b then a.pins else 0
  rw [s.pins_movePins bound behind]
  change _ ≤ (s.buffer b).pins + (if b = buffer then a.pins else 0) -
    (if b = a.buffer then a.pins else 0) + if a.buffer = b then a.pins else 0
  simp only [eq_comm (a := b)]
  by_cases old : a.buffer = b
  · rw [if_pos old]
    omega
  · rw [if_neg old]
    omega

theorem pinBuffer (h : Backed ops s) {id : BufferId} (inside : id.index < s.buffers.size) :
    Backed (ops ++ [.pinBuffer id]) (s.pinBuffer id) where
  linked := linked_setBuffer h.linked
  held_le b := by
    have before := h.held_le b
    have held : (s.pinBuffer id).heldPins b = s.heldPins b := rfl
    rw [count_pinBuffer, count_unpinBuffer_pinBuffer, s.pins_pinBuffer inside, held]
    omega

theorem unpinBuffer (h : Backed ops s) (id : BufferId) :
    Backed (ops ++ [.unpinBuffer id]) (s.unpinBuffer id).2 where
  linked := linked_pinFrame.unpinBuffer s id h.linked
  held_le b := by
    have before := h.held_le b
    have held : (s.unpinBuffer id).2.heldPins b = s.heldPins b := by
      rw [Scene.heldPins, s.attributes_unpinBuffer id, Scene.heldPins]
    rw [count_unpinBuffer, count_pinBuffer_unpinBuffer, s.pins_unpinBuffer, held]
    omega

end Backed

theorem backed_after {ops : List Operation} {op : Operation} {s : Scene} (h : Backed ops s)
    (inRange : op.InRange s) (counted : op.Counted s) : Backed (ops ++ [op]) (op.after s) := by
  cases pinning : op.isPinning with
  | false =>
    have other : op.isReference = false := by cases op <;> first | rfl | cases pinning
    exact (h.congr (samePins_after op s inRange (fun _ => counted) pinning)).snoc other
  | true =>
    cases op with
    | replaceBuffer id buffer => exact (h.replaceBuffer inRange.1 inRange.2 counted).snoc rfl
    | acquire id =>
      rw [Operation.after_acquire counted]
      exact (h.acquire inRange (linked_pinFrame.acquire s id h.linked)).snoc rfl
    | release id => exact (h.release inRange).snoc rfl
    | dropPin id => exact (h.dropPin inRange).snoc rfl
    | pinBuffer id =>
      rw [Operation.after_pinBuffer counted]
      exact h.pinBuffer inRange
    | unpinBuffer id => exact h.unpinBuffer id
    | _ => cases pinning

theorem backed_run (settings : DrawSettings) (notices : List Notice) (ops : List Operation)
    (inRange : Along Operation.InRange ops (.create settings notices))
    (counted : Along Operation.Counted ops (.create settings notices)) :
    Backed ops ((Scene.create settings notices).run ops) := by
  apply run_induction (I := Backed) _ (fun ops op backed sound =>
    backed_after backed sound.1 sound.2) ops (inRange.and counted)
  exact ⟨fun a member => (nomatch member), fun b => Nat.le_refl _⟩

/-- After any run over existing objects a release changes nothing but the pins of its attribute and
of the buffer behind it. It takes one pin off each if both have one. It fails without a trace if the
attribute has none. If just the buffer has none, it fails after it took the pin off the attribute,
and then more direct pins were taken off that buffer than were put on it, if all could be
counted. -/
theorem release_outcome (settings : DrawSettings) (notices : List Notice) (ops : List Operation)
    (inRange : Along Operation.InRange ops (.create settings notices)) {id : AttributeId}
    (inside : id.index < ((Scene.create settings notices).run ops).attributes.size) :
    let s := (Scene.create settings notices).run ops
    let b := (s.attr id).buffer
    let t := (s.release id).2
    (∀ other, other ≠ id → t.attr other = s.attr other) ∧
      (∀ other, other ≠ b → t.buffer other = s.buffer other) ∧ t.frame = s.frame ∧
      match (s.release id).1 with
      | .ok () => ∃ n m, (s.attr id).pins = n + 1 ∧ (s.buffer b).pins = m + 1 ∧
          t.attr id = { s.attr id with pins := n } ∧ t.buffer b = { s.buffer b with pins := m }
      | .error error =>
        ((s.attr id).pins = 0 ∧ error = ⟨(s.attr id).name⟩ ∧ t = s) ∨
        ∃ n, (s.attr id).pins = n + 1 ∧ (s.buffer b).pins = 0 ∧
          error = ⟨"buffer " ++ toString b.number⟩ ∧ t.attr id = { s.attr id with pins := n } ∧
          t.buffer b = s.buffer b ∧ (Along Operation.Counted ops (.create settings notices) →
            ops.count (.pinBuffer b) < ops.count (.unpinBuffer b)) := by
  intro s b t
  have start : (Scene.create settings notices).Linked := fun _ member => nomatch member
  have linked : s.Linked := linked_run start ops inRange
  have inside : id.index < s.attributes.size := inside
  have behind : b.index < s.buffers.size := linked.attr inside
  cases pins : (s.attr id).pins with
  | zero =>
    have failed := s.release_of_unpinned pins
    have same : t = s := congrArg Prod.snd failed
    rw [failed, same]
    exact ⟨fun _ _ => rfl, fun _ _ => rfl, rfl, .inl ⟨rfl, rfl, rfl⟩⟩
  | succ n =>
    let taken := s.setAttr id { s.attr id with pins := n }
    have attr (other : AttributeId) :
        taken.attr other = if other = id then { s.attr id with pins := n } else s.attr other := by
      simp only [taken, Scene.attr_setAttr, inside, and_true]
    cases held : (s.buffer b).pins with
    | zero =>
      have failed := s.release_of_buffer_unpinned pins held
      have same : t = taken := congrArg Prod.snd failed
      have overdrawn (counted : Along Operation.Counted ops (.create settings notices)) :
          ops.count (.pinBuffer b) < ops.count (.unpinBuffer b) := by
        have backed : Backed ops s := backed_run settings notices ops inRange counted
        have le : (s.attr id).pins ≤ s.heldPins b := pins_le_heldPins s inside
        have bound := backed.held_le b
        omega
      rw [failed, same]
      refine ⟨fun other apart => ?_, fun _ _ => rfl, rfl, .inr ⟨n, rfl, rfl, rfl, ?_, rfl, ?_⟩⟩
      · rw [attr, if_neg apart]
      · rw [attr, if_pos rfl]
      · exact overdrawn
    | succ m =>
      have succeeded := s.release_of_both_pinned pins held
      have same : t = taken.setBuffer b { s.buffer b with pins := m } :=
        congrArg Prod.snd succeeded
      have buffer (other : BufferId) :
          t.buffer other = if other = b then { s.buffer b with pins := m } else s.buffer other := by
        rw [same]
        exact Scene.buffer_setBuffer_of_lt taken behind _ other
      rw [succeeded]
      refine ⟨fun other apart => ?_, fun other apart => ?_, ?_, n, m, rfl, rfl, ?_, ?_⟩
      · rw [same, Scene.attr_setBuffer, attr, if_neg apart]
      · rw [buffer, if_neg apart]
      · rw [same]
        rfl
      · rw [same, Scene.attr_setBuffer, attr, if_pos rfl]
      · rw [buffer, if_pos rfl]

/-- Two attributes share a buffer. The pin of one is taken directly off the buffer, so a pin of the
buffer is left for the first release and none for the second. -/
def overdrawnRun : List Operation :=
  [ .newBuffer (Array.replicate 36 0) (.device 0),
    .newAttribute false ⟨0⟩ "strand_position_in" ⟨3, .float, 0, 0⟩,
    .newAttribute true ⟨0⟩ "weight" ⟨1, .byte, 0, 4⟩,
    .acquire ⟨0⟩, .acquire ⟨1⟩, .pinBuffer ⟨0⟩, .unpinBuffer ⟨0⟩, .unpinBuffer ⟨0⟩,
    .draw ⟨.triangleList, 0, 3, [⟨0⟩, ⟨1⟩], none⟩ true, .release ⟨0⟩ ]

theorem release_outcome_overdrawnRun :
    let s := (Scene.create {} []).run overdrawnRun
    Along Operation.InRange overdrawnRun (.create {} []) ∧ 1 < s.attributes.size ∧
      (∃ error, (s.release ⟨1⟩).1 = .error error) ∧
      (s.release ⟨1⟩).2.frame = s.frame ∧
      overdrawnRun.count (.pinBuffer ⟨0⟩) < overdrawnRun.count (.unpinBuffer ⟨0⟩) := by
  have inRange : Along Operation.InRange overdrawnRun (.create {} []) := by decide +kernel
  have inside : (AttributeId.mk 1).index <
      ((Scene.create {} []).run overdrawnRun).attributes.size := by decide +kernel
  have outcome := release_outcome {} [] overdrawnRun inRange inside
  exact ⟨inRange, inside, ⟨⟨"buffer 1"⟩, by decide +kernel⟩, outcome.2.2.1, by decide +kernel⟩

/-- A release can fail and take a pin all the same. -/
theorem failed_release_takes_pin :
    let s := (Scene.create {} []).run overdrawnRun
    Along Operation.InRange overdrawnRun (.create {} []) ∧
      (s.release ⟨1⟩).1 = .error ⟨"buffer 1"⟩ ∧
      (s.attr ⟨1⟩).pins = 1 ∧ ((s.release ⟨1⟩).2.attr ⟨1⟩).pins = 0 := by
  decide +kernel

end DrawSubmission
