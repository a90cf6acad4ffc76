import DrawSubmission.Flags
set_option autoImplicit false

namespace DrawSubmission
variable {width : Nat}

def joined (flags : List (Flag width)) (rest : BitVec width) : BitVec width :=
  flags.foldr (fun flag bits => flag.mask ||| bits) rest

/-- What it is for flags and further bits to spell a word. -/
structure Spelling (flags : List (Flag width)) (bits : BitVec width) (printed : List (Flag width))
    (rest : BitVec width) : Prop where
  /-- Flags are printed in the order of their declaration. -/
  ordered : printed.Sublist flags
  held : ∀ flag ∈ printed, flag.mask ≠ 0 ∧ bits &&& flag.mask = flag.mask
  apart : printed.Pairwise fun flag other => flag.mask &&& other.mask = 0
  unclaimed : ∀ flag ∈ printed, rest &&& flag.mask = 0
  whole : joined printed rest = bits
  /-- A flag that is held is printed, or else overlaps one that is printed and declared before. -/
  hidden : ∀ before flag after, flags = before ++ flag :: after → flag.mask ≠ 0 →
    bits &&& flag.mask = flag.mask →
      flag ∈ printed ∨ ∃ earlier ∈ printed, earlier ∈ before ∧ earlier.mask &&& flag.mask ≠ 0

theorem getLsbD_joined (flags : List (Flag width)) (rest : BitVec width) (i : Nat) :
    (joined flags rest).getLsbD i = (flags.any (·.mask.getLsbD i) || rest.getLsbD i) := by
  induction flags with
  | nil => exact (Bool.false_or _).symm
  | cons flag flags ih =>
    rw [List.any_cons, Bool.or_assoc, ← ih]
    exact BitVec.getLsbD_or

namespace Spelling
variable {flag : Flag width} {flags printed : List (Flag width)} {bits rest : BitVec width}

theorem rest_held (h : Spelling flags bits printed rest) : bits &&& rest = rest := by
  refine and_eq_right_iff.mpr fun i bit => ?_
  rw [← h.whole, getLsbD_joined, bit, Bool.or_true]

/-- A word holds a mask without the bits of a flag just if it holds it and the flag has no bit of
it. -/
theorem held_without_iff {mask : BitVec width} :
    bits &&& ~~~flag.mask &&& mask = mask ↔ bits &&& mask = mask ∧ flag.mask &&& mask = 0 := by
  constructor
  · intro held
    have inside (i : Nat) (bit : mask.getLsbD i = true) :
        bits.getLsbD i = true ∧ flag.mask.getLsbD i = false := by
      have both := and_eq_right_iff.mp held i bit
      rw [BitVec.getLsbD_and, BitVec.getLsbD_not, Bool.and_eq_true, Bool.and_eq_true] at both
      exact ⟨both.1, by simpa using both.2.2⟩
    refine ⟨and_eq_right_iff.mpr fun i bit => (inside i bit).1,
      and_eq_zero_iff.mpr fun i taken => Bool.eq_false_iff.mpr fun bit => ?_⟩
    exact Bool.false_ne_true ((inside i bit).2.symm.trans taken)
  · rintro ⟨held, apart⟩
    refine and_eq_right_iff.mpr fun i bit => ?_
    have outside : flag.mask.getLsbD i = false := by
      apply Bool.eq_false_iff.mpr
      intro taken
      exact Bool.false_ne_true ((and_eq_zero_iff.mp apart i taken).symm.trans bit)
    rw [BitVec.getLsbD_and, BitVec.getLsbD_not, outside, and_eq_right_iff.mp held i bit]
    simpa using BitVec.lt_of_getLsbD bit

/-- A flag that the word holds is printed before what is spelled without it. -/
theorem take (some : flag.mask ≠ 0) (held : bits &&& flag.mask = flag.mask)
    (h : Spelling flags (bits &&& ~~~flag.mask) printed rest) :
    Spelling (flag :: flags) bits (flag :: printed) rest where
  ordered := h.ordered.cons_cons flag
  held := List.forall_mem_cons.mpr ⟨⟨some, held⟩, fun other inside =>
    ⟨(h.held other inside).1, (held_without_iff.mp (h.held other inside).2).1⟩⟩
  apart := List.pairwise_cons.mpr
    ⟨fun other inside => (held_without_iff.mp (h.held other inside).2).2, h.apart⟩
  unclaimed := by
    refine List.forall_mem_cons.mpr ⟨?_, h.unclaimed⟩
    rw [BitVec.and_comm]
    exact (held_without_iff.mp h.rest_held).2
  whole := by
    change flag.mask ||| joined printed rest = bits
    rw [h.whole]
    apply BitVec.eq_of_getLsbD_eq
    intro i inside
    rw [BitVec.getLsbD_or, BitVec.getLsbD_and, BitVec.getLsbD_not]
    cases bit : flag.mask.getLsbD i with
    | true => rw [and_eq_right_iff.mp held i bit, Bool.true_or]
    | false => simp [inside]
  hidden before other after declared given inside := by
    cases before with
    | nil =>
      obtain ⟨rfl, -⟩ := List.cons.inj declared
      exact .inl List.mem_cons_self
    | cons first before =>
      obtain ⟨rfl, later⟩ := List.cons.inj declared
      by_cases overlap : flag.mask &&& other.mask = 0
      · have without : bits &&& ~~~flag.mask &&& other.mask = other.mask :=
          held_without_iff.mpr ⟨inside, overlap⟩
        rcases h.hidden before other after later given without with shown | ⟨earlier, shown, rest⟩
        · exact .inl (List.mem_cons_of_mem _ shown)
        · exact .inr ⟨earlier, List.mem_cons_of_mem _ shown, List.mem_cons_of_mem _ rest.1, rest.2⟩
      · exact .inr ⟨flag, List.mem_cons_self, List.mem_cons_self, overlap⟩

theorem skip (other : ¬ (flag.mask ≠ 0 ∧ bits &&& flag.mask = flag.mask))
    (h : Spelling flags bits printed rest) : Spelling (flag :: flags) bits printed rest where
  ordered := h.ordered.cons flag
  held := h.held
  apart := h.apart
  unclaimed := h.unclaimed
  whole := h.whole
  hidden before flag' after declared given inside := by
    cases before with
    | nil =>
      obtain ⟨rfl, -⟩ := List.cons.inj declared
      exact absurd ⟨given, inside⟩ other
    | cons first before =>
      obtain ⟨rfl, later⟩ := List.cons.inj declared
      rcases h.hidden before flag' after later given inside with shown | ⟨earlier, shown, rest⟩
      · exact .inl shown
      · exact .inr ⟨earlier, shown, List.mem_cons_of_mem _ rest.1, rest.2⟩

theorem eq_zero_iff (h : Spelling flags bits printed rest) :
    bits = 0 ↔ printed = [] ∧ rest = 0 := by
  constructor
  · rintro rfl
    have none : ∀ mask : BitVec width, 0 &&& mask = mask → mask = 0 := fun mask held =>
      held.symm.trans BitVec.zero_and
    refine ⟨List.eq_nil_iff_forall_not_mem.mpr fun flag inside => ?_, none rest h.rest_held⟩
    exact (h.held flag inside).1 (none _ (h.held flag inside).2)
  · rintro ⟨rfl, rfl⟩
    exact h.whole.symm

end Spelling

theorem FlagSet.spelling_spelled (flags : List (Flag width)) (bits : BitVec width) :
    Spelling flags bits (spelled flags bits).1 (spelled flags bits).2 := by
  induction flags generalizing bits with
  | nil =>
    exact ⟨.slnil, fun _ inside => absurd inside List.not_mem_nil, .nil,
      fun _ inside => absurd inside List.not_mem_nil, rfl, fun before flag after declared =>
        absurd declared.symm (List.append_ne_nil_of_right_ne_nil before (List.cons_ne_nil _ _))⟩
  | cons flag flags ih =>
    rw [spelled]
    split
    · rename_i taken
      exact (ih _).take taken.1 taken.2
    · rename_i left
      exact (ih bits).skip left

end DrawSubmission
