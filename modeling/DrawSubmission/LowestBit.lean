set_option autoImplicit false

namespace DrawSubmission.LowestBit
variable {width : Nat} {mask : BitVec width}

theorem toNat_pos (some : mask ≠ 0) : 1 ≤ mask.toNat := by
  apply Nat.pos_of_ne_zero
  intro none
  exact some (BitVec.eq_of_toNat_eq none)

theorem ctz_lt (some : mask ≠ 0) : mask.ctz.toNat < width := by
  have below := BitVec.lt_def.mp (BitVec.ctz_lt_iff_ne_zero.mpr some)
  rwa [BitVec.natCast_eq_ofNat, BitVec.toNat_ofNat, Nat.mod_eq_of_lt Nat.lt_two_pow_self] at below

theorem toNat_sub_one (some : mask ≠ 0) : (mask - 1).toNat = mask.toNat - 1 := by
  cases width with
  | zero => exact absurd (BitVec.eq_nil mask) some
  | succ width =>
    have one : (1 : BitVec (width + 1)).toNat = 1 := BitVec.toNat_one (Nat.succ_pos width)
    have le : 1 ≤ mask := BitVec.le_def.mpr (one.symm ▸ toNat_pos some)
    rw [BitVec.toNat_sub_of_le le, one]

theorem and_sub_one_lt (some : mask ≠ 0) : (mask &&& (mask - 1)).toNat < mask.toNat :=
  calc
    (mask &&& (mask - 1)).toNat ≤ (mask - 1).toNat := by
      rw [BitVec.toNat_and]
      exact Nat.and_le_right
    _ = mask.toNat - 1 := toNat_sub_one some
    _ < mask.toNat := Nat.sub_one_lt_of_lt (toNat_pos some)

/-- Taking one from a number clears its lowest bit and sets the zeros below. -/
theorem testBit_sub_one {n low : Nat} (zeros : ∀ i, i < low → n.testBit i = false)
    (bit : n.testBit low = true) (i : Nat) :
    (n - 1).testBit i = if i ≤ low then decide (i < low) else n.testBit i := by
  have rest : n % 2 ^ (low + 1) = 2 ^ low := by
    apply Nat.eq_of_testBit_eq
    intro i
    rw [Nat.testBit_mod_two_pow, Nat.testBit_two_pow]
    rcases Nat.lt_trichotomy i low with below | rfl | above
    · simp [zeros i below, Nat.ne_of_gt below]
    · simp [bit]
    · simp [Nat.not_lt.mpr (Nat.succ_le_of_lt above), Nat.ne_of_lt above]
  have split : 2 ^ (low + 1) * (n / 2 ^ (low + 1)) + 2 ^ low = n := rest ▸ Nat.div_add_mod n _
  have small : 2 ^ low - 1 < 2 ^ (low + 1) :=
    Nat.lt_of_le_of_lt (Nat.sub_le _ _) (Nat.pow_lt_pow_right (by decide) (Nat.lt_succ_self low))
  have less : n - 1 = 2 ^ (low + 1) * (n / 2 ^ (low + 1)) + (2 ^ low - 1) := by
    rw [← Nat.add_sub_assoc Nat.one_le_two_pow, split]
  rw [less, Nat.testBit_two_pow_mul_add _ small, Nat.testBit_two_pow_sub_one,
    Nat.testBit_div_two_pow]
  by_cases within : i ≤ low
  · rw [if_pos within, if_pos (Nat.lt_succ_of_le within)]
  · rw [if_neg within, if_neg (by omega), Nat.sub_add_cancel (by omega)]

/-- A mask and its predecessor have in common what the mask has but for its lowest bit. -/
theorem getLsbD_and_sub_one (some : mask ≠ 0) (i : Nat) :
    (mask &&& (mask - 1)).getLsbD i = (mask.getLsbD i && i != mask.ctz.toNat) := by
  have zeros : ∀ i, i < mask.ctz.toNat → mask.toNat.testBit i = false := fun i below =>
    BitVec.getLsbD_false_of_lt_ctz below
  have bit : mask.toNat.testBit mask.ctz.toNat = true := BitVec.getLsbD_true_ctz_of_ne_zero some
  have less : (mask - 1).getLsbD i =
      if i ≤ mask.ctz.toNat then decide (i < mask.ctz.toNat) else mask.getLsbD i := by
    change (mask - 1).toNat.testBit i = _
    rw [toNat_sub_one some, testBit_sub_one zeros bit]
    rfl
  rw [BitVec.getLsbD_and, less]
  rcases Nat.lt_trichotomy i mask.ctz.toNat with below | rfl | above
  · rw [show mask.getLsbD i = false from zeros i below]
    rfl
  · simp
  · simp [Nat.not_le.mpr above, Nat.ne_of_gt above]

end DrawSubmission.LowestBit
