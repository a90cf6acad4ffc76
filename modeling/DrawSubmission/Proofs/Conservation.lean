import DrawSubmission.Proofs.Holdings
import DrawSubmission.Proofs.Moments
import DrawSubmission.Scene.Replaced
set_option autoImplicit false

namespace DrawSubmission

/-- After a run the pins of a buffer, and the direct ones that were taken back, are the direct ones
that were put on it and those of the attributes that it backs. -/
structure Conserved (ops : List Operation) (s : Scene) : Prop where
  linked : s.Linked
  balance : ∀ b, (s.buffer b).pins + ops.count (.unpinBuffer b) =
    ops.count (.pinBuffer b) + s.heldPins b

def Operation.isReference : Operation → Bool
  | pinBuffer _ | unpinBuffer _ => true
  | _ => false

theorem count_snoc (ops : List Operation) (op x : Operation) :
    (ops ++ [op]).count x = ops.count x + if op = x then 1 else 0 := by
  rw [List.count_append, List.count_singleton]
  simp only [beq_iff_eq]

section Counts
variable (ops : List Operation) (id b : BufferId)

theorem count_pinBuffer : (ops ++ [Operation.pinBuffer id]).count (.pinBuffer b) =
    ops.count (.pinBuffer b) + if b = id then 1 else 0 := by
  simp only [count_snoc, Operation.pinBuffer.injEq, eq_comm (a := b)]

theorem count_unpinBuffer : (ops ++ [Operation.unpinBuffer id]).count (.unpinBuffer b) =
    ops.count (.unpinBuffer b) + if b = id then 1 else 0 := by
  simp only [count_snoc, Operation.unpinBuffer.injEq, eq_comm (a := b)]

theorem count_unpinBuffer_pinBuffer :
    (ops ++ [Operation.pinBuffer id]).count (.unpinBuffer b) = ops.count (.unpinBuffer b) := by
  simp only [count_snoc, reduceCtorEq, ↓reduceIte, Nat.add_zero]

theorem count_pinBuffer_unpinBuffer :
    (ops ++ [Operation.unpinBuffer id]).count (.pinBuffer b) = ops.count (.pinBuffer b) := by
  simp only [count_snoc, reduceCtorEq, ↓reduceIte, Nat.add_zero]

theorem count_other {op x : Operation} (other : op.isReference = false)
    (reference : x.isReference = true) : (ops ++ [op]).count x = ops.count x := by
  have apart : op ≠ x := fun same => Bool.false_ne_true (other.symm.trans (same ▸ reference))
  rw [count_snoc, if_neg apart, Nat.add_zero]

end Counts

theorem Scene.pins_acquire (s : Scene) {id : AttributeId}
    (behind : (s.attr id).buffer.index < s.buffers.size) (b : BufferId) :
    ((s.acquire id).buffer b).pins + (s.attr id).pinsOn b =
      (s.buffer b).pins + { s.attr id with pins := (s.attr id).pins + 1 }.pinsOn b := by
  let a := s.attr id
  have pins : ((s.acquire id).buffer b).pins =
      if b = a.buffer then (s.buffer a.buffer).pins + 1 else (s.buffer b).pins :=
    Scene.pins_setBuffer (s.setAttr id { a with pins := a.pins + 1 }) behind
      (s.buffer a.buffer).pin b
  change _ + (if a.buffer = b then a.pins else 0) = _ + if a.buffer = b then a.pins + 1 else 0
  by_cases here : a.buffer = b
  · rw [pins, if_pos here.symm, if_pos here, if_pos here, here]
    omega
  · rw [pins, if_neg (Ne.symm here), if_neg here, if_neg here]

namespace Conserved
variable {ops : List Operation} {s t : Scene}

theorem congr (h : Conserved ops s) (same : SamePins s t) : Conserved ops t where
  linked := same.linked h.linked
  balance b := by
    rw [same.pins, same.held]
    exact h.balance b

theorem snoc {op : Operation} (h : Conserved ops s) (other : op.isReference = false) :
    Conserved (ops ++ [op]) s where
  linked := h.linked
  balance b := by
    rw [count_other ops other rfl, count_other ops other rfl]
    exact h.balance b

theorem pins_le (h : Conserved ops s)
    (covered : ∀ b, ops.count (.unpinBuffer b) ≤ ops.count (.pinBuffer b)) {id : AttributeId}
    (inside : id.index < s.attributes.size) :
    (s.attr id).pins ≤ (s.buffer (s.attr id).buffer).pins := by
  have held := pins_le_heldPins s inside
  have balance := h.balance (s.attr id).buffer
  have bound := covered (s.attr id).buffer
  omega

theorem set (h : Conserved ops s) {id : AttributeId} (inside : id.index < s.attributes.size)
    {a : VertexAttribute} (behind : a.buffer.index < s.buffers.size)
    (attributes : t.attributes = (s.setAttr id a).attributes)
    (size : t.buffers.size = s.buffers.size)
    (pins : ∀ b, (t.buffer b).pins + (s.attr id).pinsOn b = (s.buffer b).pins + a.pinsOn b) :
    Conserved ops t where
  linked := by
    have linked : (s.setAttr id a).Linked := linked_setAttr h.linked behind
    rw [Scene.Linked, attributes, size]
    exact linked
  balance b := by
    have held := heldPins_setAttr s inside a b
    rw [Scene.heldPins, ← attributes] at held
    change t.heldPins b + _ = _ at held
    have balance := h.balance b
    have change := pins b
    omega

theorem acquire (h : Conserved ops s) {id : AttributeId} (inside : id.index < s.attributes.size) :
    Conserved ops (s.acquire id) := by
  have behind : (s.attr id).buffer.index < s.buffers.size := h.linked.attr inside
  exact h.set inside (a := { s.attr id with pins := (s.attr id).pins + 1 }) behind rfl
    (Scene.size_setBuffer ..) (s.pins_acquire behind)

theorem dropPin (h : Conserved ops s)
    (covered : ∀ b, ops.count (.unpinBuffer b) ≤ ops.count (.pinBuffer b)) {id : AttributeId}
    (inside : id.index < s.attributes.size) : Conserved ops (s.dropPin id) := by
  let a := s.attr id
  have behind : a.buffer.index < s.buffers.size := h.linked.attr inside
  have held : a.pins ≤ (s.buffer a.buffer).pins := h.pins_le covered inside
  cases pins : a.pins with
  | zero =>
    rw [Scene.dropPin_of_unpinned s pins]
    exact h.congr (.of_same rfl rfl)
  | succ n =>
    let t := s.setAttr id { a with pins := n }
    obtain ⟨m, pinned⟩ : ∃ m, (s.buffer a.buffer).pins = m + 1 :=
      ⟨(s.buffer a.buffer).pins - 1, by omega⟩
    have dropped : t.dropBufferPin a.buffer = t.setBuffer a.buffer
        { s.buffer a.buffer with pins := m } :=
      Scene.dropBufferPin_of_pinned t pinned
    rw [Scene.dropPin_of_pinned s pins]
    change Conserved ops (t.dropBufferPin a.buffer)
    rw [dropped]
    refine h.set inside (a := { a with pins := n }) behind rfl (Scene.size_setBuffer ..) fun b => ?_
    rw [Scene.pins_setBuffer t behind]
    change _ + (if a.buffer = b then a.pins else 0) = _ + if a.buffer = b then n else 0
    by_cases here : a.buffer = b
    · rw [if_pos here.symm, if_pos here, if_pos here, pins, ← here, pinned]
      dsimp only
      omega
    · rw [if_neg (Ne.symm here), if_neg here, if_neg here]
      rfl

theorem movePins (h : Conserved ops s)
    (covered : ∀ b, ops.count (.unpinBuffer b) ≤ ops.count (.pinBuffer b)) {id : AttributeId}
    (inside : id.index < s.attributes.size) {buffer : BufferId}
    (bound : buffer.index < s.buffers.size) : Conserved ops (s.movePins id buffer) := by
  let a := s.attr id
  have behind : a.buffer.index < s.buffers.size := h.linked.attr inside
  have held : a.pins ≤ (s.buffer a.buffer).pins := h.pins_le covered inside
  refine h.set inside (a := { a with buffer }) bound rfl (Scene.size_movePins ..) fun b => ?_
  rw [s.pins_movePins bound behind]
  change (s.buffer b).pins + (if b = buffer then a.pins else 0) -
      (if b = a.buffer then a.pins else 0) + (if a.buffer = b then a.pins else 0) =
    (s.buffer b).pins + if buffer = b then a.pins else 0
  simp only [eq_comm (a := b)]
  by_cases old : a.buffer = b
  · rw [← old, if_pos rfl]
    omega
  · rw [if_neg old]
    omega

section References
variable {id : BufferId}

theorem pinBuffer (h : Conserved ops s) (inside : id.index < s.buffers.size) :
    Conserved (ops ++ [.pinBuffer id]) (s.pinBuffer id) where
  linked := linked_setBuffer h.linked
  balance b := by
    have balance := h.balance b
    have held : (s.pinBuffer id).heldPins b = s.heldPins b := rfl
    rw [count_pinBuffer, count_unpinBuffer_pinBuffer, s.pins_pinBuffer inside, held]
    omega

theorem unpinBuffer (h : Conserved ops s)
    (covered : ops.count (.unpinBuffer id) < ops.count (.pinBuffer id)) :
    Conserved (ops ++ [.unpinBuffer id]) (s.unpinBuffer id).2 where
  linked := linked_pinFrame.unpinBuffer s id h.linked
  balance b := by
    have balance := h.balance b
    have held : (s.unpinBuffer id).2.heldPins b = s.heldPins b := by
      rw [Scene.heldPins, s.attributes_unpinBuffer id, Scene.heldPins]
    rw [count_unpinBuffer, count_pinBuffer_unpinBuffer, s.pins_unpinBuffer, held]
    by_cases here : b = id
    · subst b
      rw [if_pos rfl]
      omega
    · rw [if_neg here]
      omega

end References
end Conserved

/-- At no time have more direct pins of a buffer been taken back than were put on it. -/
def Covered (ops : List Operation) : Prop :=
  ∀ n b, (ops.take n).count (.unpinBuffer b) ≤ (ops.take n).count (.pinBuffer b)

def Operation.returned? : Operation → Option BufferId
  | unpinBuffer b => some b
  | _ => none

theorem covered_iff (ops : List Operation) :
    Covered ops ↔ ∀ n ≤ ops.length, ∀ b ∈ ops.filterMap Operation.returned?,
      (ops.take n).count (.unpinBuffer b) ≤ (ops.take n).count (.pinBuffer b) := by
  constructor
  · exact fun covered n _ b _ => covered n b
  · intro covered n b
    by_cases returned : Operation.unpinBuffer b ∈ ops
    · have member : b ∈ ops.filterMap Operation.returned? :=
        List.mem_filterMap.mpr ⟨_, returned, rfl⟩
      have bound := covered (min n ops.length) (Nat.min_le_right ..) b member
      rwa [← List.take_eq_take_min] at bound
    · have absent : Operation.unpinBuffer b ∉ ops.take n := fun inside =>
        returned (List.mem_of_mem_take inside)
      rw [List.count_eq_zero.mpr absent]
      exact Nat.zero_le _

instance (ops : List Operation) : Decidable (Covered ops) :=
  decidable_of_iff _ (covered_iff ops).symm

theorem Covered.whole {ops : List Operation} (h : Covered ops) (b : BufferId) :
    ops.count (.unpinBuffer b) ≤ ops.count (.pinBuffer b) := by
  have covered := h ops.length b
  rwa [List.take_length] at covered

theorem Covered.init {ops : List Operation} {op : Operation} (h : Covered (ops ++ [op])) :
    Covered ops := by
  intro n b
  have covered := h (min n ops.length) b
  rw [List.take_append_of_le_length (Nat.min_le_right ..)] at covered
  by_cases short : n ≤ ops.length
  · rwa [Nat.min_eq_left short] at covered
  · have long := Nat.le_of_not_le short
    rw [Nat.min_eq_right long, List.take_length] at covered
    rwa [List.take_of_length_le long]

theorem conserved_after {ops : List Operation} {op : Operation} {s : Scene}
    (h : Conserved ops s) (inRange : op.InRange s) (counted : op.Counted s)
    (covered : Covered (ops ++ [op])) : Conserved (ops ++ [op]) (op.after s) := by
  have before := covered.init.whole
  cases pinning : op.isPinning with
  | false =>
    have other : op.isReference = false := by cases op <;> first | rfl | cases pinning
    exact (h.congr (samePins_after op s inRange (fun _ => counted) pinning)).snoc other
  | true =>
    cases op with
    | replaceBuffer id buffer =>
      obtain ⟨inside, bound⟩ := inRange
      obtain ⟨warned, notices, same, _⟩ := Scene.replaceBuffer_eq s bound (h.linked.attr inside)
        counted (h.pins_le before inside)
      let t : Scene := { s with warned, log := s.log ++ notices }
      have reported : Conserved ops t := h.congr (.of_same rfl rfl)
      change Conserved _ (s.replaceBuffer id buffer).2
      rw [same]
      exact (reported.movePins before inside bound).snoc rfl
    | acquire id =>
      rw [Operation.after_acquire counted]
      exact (h.acquire inRange).snoc rfl
    | dropPin id => exact (h.dropPin before inRange).snoc rfl
    | release id =>
      obtain ⟨log, dropped⟩ := s.dropPin_eq id
      have released : SamePins (s.dropPin id) (s.release id).2 := by
        rw [dropped]
        exact .of_same rfl rfl
      exact ((h.dropPin before inRange).congr released).snoc rfl
    | pinBuffer id =>
      rw [Operation.after_pinBuffer counted]
      exact h.pinBuffer inRange
    | unpinBuffer id =>
      have returned := covered.whole id
      rw [count_unpinBuffer, count_pinBuffer_unpinBuffer, if_pos rfl] at returned
      exact h.unpinBuffer returned
    | _ => cases pinning

theorem conserved_run (settings : DrawSettings) (notices : List Notice) (ops : List Operation)
    (inRange : Along Operation.InRange ops (.create settings notices))
    (counted : Along Operation.Counted ops (.create settings notices)) (covered : Covered ops) :
    Conserved ops ((Scene.create settings notices).run ops) := by
  refine run_induction (I := fun ops s => Covered ops → Conserved ops s) ?_ ?_ ops
    (inRange.and counted) covered
  · exact fun _ => ⟨fun a member => (nomatch member), fun b => rfl⟩
  · exact fun ops op before sound covered =>
      conserved_after (before covered.init) sound.1 sound.2 covered

theorem release_error_iff {ops : List Operation} {s : Scene} (h : Conserved ops s)
    (covered : Covered ops) {id : AttributeId} (inside : id.index < s.attributes.size) :
    (∃ error, (s.release id).1 = .error error) ↔ (s.attr id).pins = 0 := by
  have held := h.pins_le covered.whole inside
  cases pins : (s.attr id).pins with
  | zero =>
    simp only [Scene.release, pins, iff_true]
    exact ⟨_, rfl⟩
  | succ n =>
    obtain ⟨m, pinned⟩ : ∃ m, (s.buffer (s.attr id).buffer).pins = m + 1 :=
      ⟨(s.buffer (s.attr id).buffer).pins - 1, by omega⟩
    simp [Scene.release, pins, Scene.unpinBuffer, Buffer.unpin, pinned]

/-- In a run over existing objects that counts all pins and takes no more direct pins back from a
buffer than it put on it, the pins of a buffer are its direct ones and those of the attributes that
it backs. So an attribute can be released exactly if it has a pin of its own, and replacing its
buffer never lacks a pin; a draw leaves all pins as they were, also if it overflows, and has them
raised while its draw calls are made: for the first, its own, by the number of times that it lists
an attribute, for the second, that of its outline, by one pin on the attribute of the lines. -/
theorem pins_conserved (settings : DrawSettings) (notices : List Notice) (ops : List Operation)
    (inRange : Along Operation.InRange ops (.create settings notices))
    (counted : Along Operation.Counted ops (.create settings notices)) (covered : Covered ops) :
    let s := (Scene.create settings notices).run ops
    (∀ b, (s.buffer b).pins =
        ops.count (.pinBuffer b) - ops.count (.unpinBuffer b) + s.heldPins b) ∧
      (∀ id : AttributeId, id.index < s.attributes.size →
        ((∃ error, (s.release id).1 = .error error) ↔ (s.attr id).pins = 0)) ∧
      (∀ (id : AttributeId) (buffer : BufferId), id.index < s.attributes.size →
        buffer.index < s.buffers.size → ∃ new, (s.replaceBuffer id buffer).2.log = s.log ++ new ∧
          ∀ error, .pinNotReleased error ∉ new) ∧
      ∀ (request : DrawRequest) (prevalidated : Bool),
        (∀ id ∈ request.attributes, id.index < s.attributes.size) →
          let t := (Operation.draw request prevalidated).after s
          ((Operation.draw request prevalidated).Counted s →
            (∀ id : AttributeId, id.index < s.attributes.size →
              (t.attr id).pins = (s.attr id).pins) ∧
            ∀ b : BufferId, b.index < s.buffers.size → (t.buffer b).pins = (s.buffer b).pins) ∧
          ∃ shown, shown <+: [s.pinsWith request.attributes, s.pinsWith [] ++ [1]] ∧
            ((Operation.draw request prevalidated).breaksOff s = false → shown ≠ []) ∧
            ShowsPins s shown t := by
  have conserved := conserved_run settings notices ops inRange counted covered
  refine ⟨fun b => ?_, fun id => release_error_iff conserved covered, ?_, ?_⟩
  · have balance := conserved.balance b
    have bound := covered.whole b
    omega
  · intro id buffer inside bound
    exact Scene.log_replaceBuffer bound (conserved.linked.attr inside)
      (conserved.pins_le covered.whole inside)
  · intro request prevalidated inside
    refine ⟨fun taken => ?_, showsPins_after _ request prevalidated inside⟩
    have spared := (spared_draw _ request prevalidated inside).of_counted taken
    refine ⟨fun id known => ?_, fun b known => ?_⟩
    · rw [Operation.after, spared.attr known]
    · exact (congrArg Buffer.pins (spared.buffer known) :)

/-- A run with a shared buffer, a pinned attribute that is pointed elsewhere and a guard whose pin
was released before, and with an outlined draw and one that overflows in the set-up. -/
def pinningRun : List Operation :=
  [ .newBuffer (Array.replicate 36 0) (.device 16),
    .newBuffer (Array.replicate 36 0) .client,
    .newAttribute false ⟨0⟩ "strand_position_in" ⟨3, .float, 0, 0⟩,
    .newAttribute true ⟨0⟩ "weight" ⟨1, .byte, 0, 4⟩,
    .newAttribute false ⟨0⟩ "strand_color_in" ⟨3, .float, 0, 18446744073709551615⟩,
    .acquire ⟨0⟩, .acquire ⟨0⟩, .acquire ⟨1⟩, .pinBuffer ⟨0⟩, .pinBuffer ⟨0⟩,
    .replaceBuffer ⟨0⟩ ⟨1⟩,
    .release ⟨1⟩, .dropPin ⟨1⟩, .unpinBuffer ⟨0⟩, .dropPin ⟨0⟩,
    .changeSettings { debugFlags := DebugFlags.wireframe },
    .draw ⟨.triangleList, 0, 3, [⟨0⟩, ⟨1⟩, ⟨0⟩], none⟩ false,
    .draw ⟨.triangleList, 0, 3, [⟨1⟩, ⟨2⟩], none⟩ true ]

theorem pins_conserved_pinningRun :
    let s := (Scene.create {} []).run pinningRun
    Along Operation.InRange pinningRun (.create {} []) ∧
      Along Operation.Counted pinningRun (.create {} []) ∧ Covered pinningRun ∧
      (s.buffer ⟨0⟩).pins = 1 ∧ (s.buffer ⟨1⟩).pins = 1 ∧ (s.attr ⟨0⟩).buffer = ⟨1⟩ ∧
      ∀ b, (s.buffer b).pins =
        pinningRun.count (.pinBuffer b) - pinningRun.count (.unpinBuffer b) + s.heldPins b := by
  have inRange : Along Operation.InRange pinningRun (.create {} []) := by decide +kernel
  have counted : Along Operation.Counted pinningRun (.create {} []) := by decide +kernel
  have covered : Covered pinningRun := by decide +kernel
  refine ⟨inRange, counted, covered, by decide +kernel, by decide +kernel, by decide +kernel, ?_⟩
  exact (pins_conserved {} [] pinningRun inRange counted covered).1

end DrawSubmission
