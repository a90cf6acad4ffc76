import DrawSubmission.Scene.Pins
set_option autoImplicit false

namespace DrawSubmission.Scene

section Reports
variable (s : Scene)

/-- A report warns at most; it never complains about pins. -/
theorem reportMidScene_frame (id : DiagnosticsId) (what : String) :
    ∃ warned notices, s.reportMidScene id what = { s with warned, log := s.log ++ notices } ∧
      ∀ error, Notice.pinNotReleased error ∉ notices := by
  unfold reportMidScene
  split
  · exact ⟨s.warned, #[], by rw [Array.append_empty], fun _ => Array.not_mem_empty _⟩
  · exact ⟨_, #[.midSceneModification what], rfl, by simp⟩

theorem reportPinned_frame (pins : Nat) (id : DiagnosticsId) (what : String) :
    ∃ warned notices, (if pins = 0 then s else s.reportMidScene id what) =
        { s with warned, log := s.log ++ notices } ∧
      ∀ error, Notice.pinNotReleased error ∉ notices := by
  split
  · exact ⟨s.warned, #[], by rw [Array.append_empty], fun _ => Array.not_mem_empty _⟩
  · exact reportMidScene_frame s id what

end Reports

section Single
variable (s : Scene)

theorem pins_pinBuffer {id : BufferId} (inside : id.index < s.buffers.size) (b : BufferId) :
    ((s.pinBuffer id).buffer b).pins = (s.buffer b).pins + if b = id then 1 else 0 := by
  rw [pinBuffer, pins_setBuffer s inside]
  by_cases here : b = id
  · rw [if_pos here, if_pos here, here]
    rfl
  · rw [if_neg here, if_neg here, Nat.add_zero]

theorem pins_unpinBuffer (id b : BufferId) :
    ((s.unpinBuffer id).2.buffer b).pins = (s.buffer b).pins - if b = id then 1 else 0 := by
  cases pins : (s.buffer id).pins with
  | zero =>
    simp only [unpinBuffer, Buffer.unpin, pins]
    split
    · rename_i here
      rw [here, pins]
    · rfl
  | succ n =>
    have inside : id.index < s.buffers.size := by
      apply Nat.lt_of_not_le
      intro outside
      rw [buffer_of_le s id outside] at pins
      cases pins
    simp only [unpinBuffer, Buffer.unpin, pins]
    rw [pins_setBuffer s inside]
    split
    · rename_i here
      rw [here, pins]
      rfl
    · rfl

theorem attributes_unpinBuffer (id : BufferId) :
    (s.unpinBuffer id).2.attributes = s.attributes := by
  unfold unpinBuffer
  split <;> rfl

section Release
variable {id : AttributeId} {n m : Nat}

theorem release_of_unpinned (h : (s.attr id).pins = 0) :
    s.release id = (.error ⟨(s.attr id).name⟩, s) := by
  simp only [release, h]

theorem release_of_pinned (h : (s.attr id).pins = n + 1) :
    s.release id = (s.setAttr id { s.attr id with pins := n }).unpinBuffer (s.attr id).buffer := by
  simp only [release, h]

theorem release_of_buffer_unpinned (h : (s.attr id).pins = n + 1)
    (unpinned : (s.buffer (s.attr id).buffer).pins = 0) :
    s.release id = (.error ⟨"buffer " ++ toString (s.attr id).buffer.number⟩,
      s.setAttr id { s.attr id with pins := n }) := by
  rw [release_of_pinned s h]
  simp only [unpinBuffer, Buffer.unpin, buffer_setAttr, unpinned]

theorem release_of_both_pinned (h : (s.attr id).pins = n + 1)
    (pinned : (s.buffer (s.attr id).buffer).pins = m + 1) :
    s.release id = (.ok (), (s.setAttr id { s.attr id with pins := n }).setBuffer
      (s.attr id).buffer { s.buffer (s.attr id).buffer with pins := m }) := by
  rw [release_of_pinned s h]
  simp only [unpinBuffer, Buffer.unpin, buffer_setAttr, pinned]

end Release

theorem dropPin_eq (id : AttributeId) : ∃ log, s.dropPin id = { (s.release id).2 with log } := by
  unfold dropPin
  split <;> rename_i outcome <;> rw [outcome] <;> exact ⟨_, rfl⟩

end Single

section Repeated
variable (s : Scene) {id : BufferId}

def raisePins (id : BufferId) (n : Nat) : Scene :=
  s.setBuffer id { s.buffer id with pins := (s.buffer id).pins + n }

theorem size_raisePins (n : Nat) : (s.raisePins id n).buffers.size = s.buffers.size :=
  size_setBuffer ..

theorem pins_raisePins (inside : id.index < s.buffers.size) (n : Nat) (b : BufferId) :
    ((s.raisePins id n).buffer b).pins = (s.buffer b).pins + if b = id then n else 0 := by
  rw [raisePins, pins_setBuffer s inside]
  by_cases here : b = id
  · rw [if_pos here, if_pos here, here]
  · rw [if_neg here, if_neg here, Nat.add_zero]

theorem raisePins_zero : s.raisePins id 0 = s := setBuffer_buffer s id

theorem raisePins_pinBuffer (inside : id.index < s.buffers.size) (n : Nat) :
    (s.pinBuffer id).raisePins id n = s.raisePins id (n + 1) := by
  rw [raisePins, pinBuffer, setBuffer_setBuffer, buffer_setBuffer, if_pos ⟨rfl, inside⟩, raisePins,
    Nat.add_comm n 1, ← Nat.add_assoc]
  rfl

/-- Pins are put on a buffer as long as its counter takes them. -/
theorem takeBufferPins_eq (inside : id.index < s.buffers.size) (n : Nat) :
    takeBufferPins id n s =
      if n = 0 ∨ (s.buffer id).pins + n ≤ largestCount then .ok () (s.raisePins id n)
      else .error .count (s.raisePins id (largestCount - (s.buffer id).pins)) := by
  induction n generalizing s with
  | zero =>
    rw [if_pos (.inl rfl), raisePins_zero]
    rfl
  | succ n ih =>
    change EStateM.bind (takeBufferPin id) (fun _ => takeBufferPins id n) s = _
    by_cases full : Full (s.buffer id).pins
    · have none : largestCount - (s.buffer id).pins = 0 := Nat.sub_eq_zero_of_le full
      have spent : ¬ (n + 1 = 0 ∨ (s.buffer id).pins + (n + 1) ≤ largestCount) := by
        unfold Full at full
        omega
      rw [if_neg spent, none, raisePins_zero]
      simp only [EStateM.bind, takeBufferPin, full, ↓reduceIte]
    · have pins : ((s.pinBuffer id).buffer id).pins = (s.buffer id).pins + 1 := by
        rw [pinBuffer, pins_setBuffer s inside, if_pos rfl]
        rfl
      have inside' : id.index < (s.pinBuffer id).buffers.size := by rwa [pinBuffer, size_setBuffer]
      simp only [EStateM.bind, takeBufferPin, full, ↓reduceIte]
      rw [ih (s.pinBuffer id) inside', pins, raisePins_pinBuffer s inside]
      unfold Full at full
      by_cases room : (s.buffer id).pins + (n + 1) ≤ largestCount
      · rw [if_pos (.inr (by omega)), if_pos (.inr room)]
      · have left : largestCount - ((s.buffer id).pins + 1) + 1 =
            largestCount - (s.buffer id).pins := by omega
        rw [if_neg (by omega), if_neg (by omega), raisePins_pinBuffer s inside, left]

theorem repeat_dropBufferPin (inside : id.index < s.buffers.size) (n : Nat)
    (h : n ≤ (s.buffer id).pins) :
    n.repeat (fun t => t.dropBufferPin id) s =
      s.setBuffer id { s.buffer id with pins := (s.buffer id).pins - n } := by
  induction n with
  | zero => exact (setBuffer_buffer s id).symm
  | succ n ih =>
    let t := s.setBuffer id { s.buffer id with pins := (s.buffer id).pins - n }
    have here : t.buffer id = { s.buffer id with pins := (s.buffer id).pins - n } := by
      rw [buffer_setBuffer, if_pos ⟨rfl, inside⟩]
    have pinned : (t.buffer id).pins = (s.buffer id).pins - (n + 1) + 1 := by
      rw [here]
      dsimp only
      omega
    rw [Nat.repeat, ih (by omega)]
    change t.dropBufferPin id = _
    rw [dropBufferPin_of_pinned t pinned, here]
    exact setBuffer_setBuffer ..

theorem dropBufferPin_eq (id : BufferId) :
    ∃ log, s.dropBufferPin id =
      { s.setBuffer id { s.buffer id with pins := (s.buffer id).pins - 1 } with log } := by
  cases pins : (s.buffer id).pins with
  | zero =>
    have unchanged : { s.buffer id with pins := 0 - 1 } = s.buffer id := by
      rw [Nat.zero_sub, ← pins]
    simp only [dropBufferPin, unpinBuffer, Buffer.unpin, pins, unchanged, setBuffer_buffer]
    exact ⟨_, rfl⟩
  | succ n =>
    rw [dropBufferPin_of_pinned s pins]
    exact ⟨_, rfl⟩

theorem repeat_dropBufferPin_eq (inside : id.index < s.buffers.size) (n : Nat) :
    ∃ log, n.repeat (fun t => t.dropBufferPin id) s =
      { s.setBuffer id { s.buffer id with pins := (s.buffer id).pins - n } with log } := by
  induction n with
  | zero => exact ⟨s.log, by rw [Nat.repeat, Nat.sub_zero, setBuffer_buffer]⟩
  | succ n ih =>
    obtain ⟨log, dropped⟩ := ih
    let t := s.setBuffer id { s.buffer id with pins := (s.buffer id).pins - n }
    have here : t.buffer id = { s.buffer id with pins := (s.buffer id).pins - n } := by
      rw [buffer_setBuffer, if_pos ⟨rfl, inside⟩]
    obtain ⟨log', last⟩ := dropBufferPin_eq { t with log } id
    have pins : ({ t with log } : Scene).buffer id = t.buffer id := rfl
    refine ⟨log', ?_⟩
    rw [Nat.repeat, dropped, last, pins, here, Nat.sub_sub]
    exact congrArg (fun u : Scene => { u with log := log' }) (setBuffer_setBuffer s id _ _)

theorem attributes_repeat_dropBufferPin (n : Nat) :
    (n.repeat (fun t => t.dropBufferPin id) s).attributes = s.attributes := by
  induction n with
  | zero => rfl
  | succ n ih =>
    obtain ⟨log, same⟩ := dropBufferPin_eq (n.repeat (fun t => t.dropBufferPin id) s) id
    rw [Nat.repeat, same]
    exact ih

end Repeated

/-- Nobody looks at the buffer of an attribute, and another one has room for its pins. -/
def Replaceable (s : Scene) (id : AttributeId) (buffer : BufferId) : Prop :=
  (s.attr id).borrows = 0 ∧
    ((s.attr id).pins = 0 ∨ (s.buffer buffer).pins + (s.attr id).pins ≤ largestCount)

instance {s : Scene} {id : AttributeId} {buffer : BufferId} :
    Decidable (s.Replaceable id buffer) :=
  inferInstanceAs (Decidable (_ ∧ _))

/-- A buffer is replaced where that can be done. If not, the attribute keeps its buffer, and pins of
the other one may have been raised in vain. -/
theorem replaceBuffer_cases (s : Scene) {id : AttributeId} {buffer : BufferId}
    (inside : buffer.index < s.buffers.size) :
    let a := s.attr id
    ∃ warned notices, (∀ error, Notice.pinNotReleased error ∉ notices) ∧
      let t : Scene := { s with warned, log := s.log ++ notices }
      (s.Replaceable id buffer ∧ s.replaceBuffer id buffer =
          (.ok (), a.pins.repeat (fun t => t.dropBufferPin a.buffer)
            ((t.raisePins buffer a.pins).setAttr id { a with buffer }))) ∨
        (¬ s.Replaceable id buffer ∧ ∃ failure more,
          s.replaceBuffer id buffer = (.error failure, t.raisePins buffer more)) := by
  intro a
  obtain ⟨warned, notices, same, silent⟩ := reportPinned_frame s a.pins a.diagnostics
    ("the buffer of '" ++ a.name ++ "'")
  refine ⟨warned, notices, silent, ?_⟩
  intro t
  have pinned : takeBufferPins buffer a.pins t =
      if a.pins = 0 ∨ (s.buffer buffer).pins + a.pins ≤ largestCount then
        .ok () (t.raisePins buffer a.pins)
      else .error .count (t.raisePins buffer (largestCount - (s.buffer buffer).pins)) :=
    takeBufferPins_eq t inside a.pins
  simp only [replaceBuffer]
  rw [same, pinned, Replaceable]
  by_cases room : a.pins = 0 ∨ (s.buffer buffer).pins + a.pins ≤ largestCount
  · rw [if_pos room]
    by_cases free : a.borrows = 0
    · exact .inl ⟨⟨free, room⟩, if_neg (not_not_intro free)⟩
    · exact .inr ⟨fun both => free both.1, _, _, if_pos free⟩
  · rw [if_neg room]
    exact .inr ⟨fun both => room both.2, _, _, rfl⟩

section Replaced
variable {s : Scene} {id : AttributeId} {buffer : BufferId}

theorem replaceBuffer_eq_ok_iff (inside : buffer.index < s.buffers.size) :
    (s.replaceBuffer id buffer).1 = .ok () ↔ s.Replaceable id buffer := by
  obtain ⟨warned, notices, _, ⟨can, done⟩ | ⟨cannot, failure, more, failed⟩⟩ :=
    s.replaceBuffer_cases inside
  · rw [done]
    exact iff_of_true rfl can
  · rw [failed]
    exact iff_of_false nofun cannot

theorem attributes_of_replaced (inside : buffer.index < s.buffers.size)
    (can : s.Replaceable id buffer) : (s.replaceBuffer id buffer).2.attributes =
      (s.setAttr id { s.attr id with buffer }).attributes := by
  obtain ⟨warned, notices, _, ⟨_, done⟩ | ⟨cannot, _⟩⟩ := s.replaceBuffer_cases inside
  · rw [done, attributes_repeat_dropBufferPin]
    rfl
  · exact absurd can cannot

theorem attributes_of_not_replaced (inside : buffer.index < s.buffers.size)
    (cannot : ¬ s.Replaceable id buffer) :
    (s.replaceBuffer id buffer).2.attributes = s.attributes := by
  obtain ⟨warned, notices, _, ⟨can, _⟩ | ⟨_, failure, more, failed⟩⟩ :=
    s.replaceBuffer_cases inside
  · exact absurd can cannot
  · rw [failed]
    rfl

end Replaced

/-- An attribute with another buffer behind it, which has taken over its pins. -/
def movePins (s : Scene) (id : AttributeId) (buffer : BufferId) : Scene :=
  let a := s.attr id
  let pinned := s.raisePins buffer a.pins
  (pinned.setAttr id { a with buffer }).setBuffer a.buffer
    { pinned.buffer a.buffer with pins := (pinned.buffer a.buffer).pins - a.pins }

section Moved
variable (s : Scene) {id : AttributeId} {buffer : BufferId}
  (inside : buffer.index < s.buffers.size) (behind : (s.attr id).buffer.index < s.buffers.size)
  (done : (s.replaceBuffer id buffer).1 = .ok ())
include inside behind done

theorem replaceBuffer_eq (held : (s.attr id).pins ≤ (s.buffer (s.attr id).buffer).pins) :
    ∃ warned notices, (s.replaceBuffer id buffer).2 =
        { s with warned, log := s.log ++ notices }.movePins id buffer ∧
      ∀ error, Notice.pinNotReleased error ∉ notices := by
  let a := s.attr id
  obtain ⟨warned, notices, silent, ⟨_, replaced⟩ | ⟨_, failure, more, failed⟩⟩ :=
    s.replaceBuffer_cases inside
  · refine ⟨warned, notices, ?_, silent⟩
    let t : Scene := { s with warned, log := s.log ++ notices }
    let pinned := t.raisePins buffer a.pins
    have enough : a.pins ≤ ((pinned.setAttr id { a with buffer }).buffer a.buffer).pins := by
      rw [buffer_setAttr, pins_raisePins t inside]
      exact Nat.le_add_right_of_le held
    have bound : a.buffer.index < (pinned.setAttr id { a with buffer }).buffers.size := by
      change _ < pinned.buffers.size
      rw [size_raisePins]
      exact behind
    rw [replaced, repeat_dropBufferPin _ bound _ enough]
    rfl
  · rw [failed] at done
    cases done

/-- What replacing a buffer does to attributes and pins, also where the old buffer lacks pins. -/
theorem replaceBuffer_moves :
    ∃ warned log, (s.replaceBuffer id buffer).2 = { s.movePins id buffer with warned, log } := by
  let a := s.attr id
  obtain ⟨warned, notices, _, ⟨_, replaced⟩ | ⟨_, failure, more, failed⟩⟩ :=
    s.replaceBuffer_cases inside
  · let t : Scene := { s with warned, log := s.log ++ notices }
    let pinned := t.raisePins buffer a.pins
    have bound : a.buffer.index < (pinned.setAttr id { a with buffer }).buffers.size := by
      change _ < pinned.buffers.size
      rw [size_raisePins]
      exact behind
    obtain ⟨log, dropped⟩ :=
      repeat_dropBufferPin_eq (pinned.setAttr id { a with buffer }) bound a.pins
    rw [replaced]
    exact ⟨warned, log, dropped⟩
  · rw [failed] at done
    cases done

end Moved

theorem log_replaceBuffer {s : Scene} {id : AttributeId} {buffer : BufferId}
    (inside : buffer.index < s.buffers.size) (behind : (s.attr id).buffer.index < s.buffers.size)
    (held : (s.attr id).pins ≤ (s.buffer (s.attr id).buffer).pins) :
    ∃ new, (s.replaceBuffer id buffer).2.log = s.log ++ new ∧
      ∀ error, Notice.pinNotReleased error ∉ new := by
  by_cases can : s.Replaceable id buffer
  · obtain ⟨warned, new, same, silent⟩ :=
      s.replaceBuffer_eq inside behind ((replaceBuffer_eq_ok_iff inside).mpr can) held
    exact ⟨new, by rw [same]; rfl, silent⟩
  · obtain ⟨warned, new, silent, ⟨can', _⟩ | ⟨_, failure, more, failed⟩⟩ :=
      s.replaceBuffer_cases inside
    · exact absurd can' can
    · exact ⟨new, by rw [failed]; rfl, silent⟩

theorem size_movePins (s : Scene) (id : AttributeId) (buffer : BufferId) :
    (s.movePins id buffer).buffers.size = s.buffers.size := by
  simp only [movePins, size_setBuffer]
  exact size_setBuffer ..

/-- The pins of the new buffer are raised before those of the old one, which may be the same, are
lowered. -/
theorem pins_movePins (s : Scene) {id : AttributeId} {buffer : BufferId}
    (inside : buffer.index < s.buffers.size)
    (behind : (s.attr id).buffer.index < s.buffers.size) (b : BufferId) :
    ((s.movePins id buffer).buffer b).pins =
      (s.buffer b).pins + (if b = buffer then (s.attr id).pins else 0) -
        if b = (s.attr id).buffer then (s.attr id).pins else 0 := by
  let a := s.attr id
  let pinned := s.raisePins buffer a.pins
  have size : pinned.buffers.size = s.buffers.size := size_setBuffer ..
  have raised (b : BufferId) : (pinned.buffer b).pins =
      (s.buffer b).pins + if b = buffer then a.pins else 0 := pins_raisePins s inside a.pins b
  have lowered : ((s.movePins id buffer).buffer b).pins =
      if b = a.buffer then (pinned.buffer a.buffer).pins - a.pins else (pinned.buffer b).pins :=
    pins_setBuffer (pinned.setAttr id { a with buffer }) (size ▸ behind) _ b
  rw [lowered]
  by_cases here : b = a.buffer
  · rw [if_pos here, if_pos here, ← here, raised]
  · rw [if_neg here, if_neg here, raised, Nat.sub_zero]

end DrawSubmission.Scene
