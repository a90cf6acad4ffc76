set_option autoImplicit false

namespace DrawSubmission.Text

section Joined
variable {α : Type} {mark : α} {tail : List α}

/-- The first mark tells what stands before it from what stands behind it. -/
theorem append_mark_injective {front front' rest rest' : List α} (free : mark ∉ front)
    (free' : mark ∉ front') (same : front ++ mark :: rest = front' ++ mark :: rest') :
    front = front' ∧ rest = rest' := by
  induction front generalizing front' with
  | nil =>
    cases front' with
    | nil => exact ⟨rfl, (List.cons.inj same).2⟩
    | cons a front' =>
      obtain ⟨rfl, -⟩ := List.cons.inj same
      exact absurd List.mem_cons_self free'
  | cons a front ih =>
    cases front' with
    | nil =>
      obtain ⟨rfl, -⟩ := List.cons.inj same
      exact absurd List.mem_cons_self free
    | cons a' front' =>
      obtain ⟨rfl, following⟩ := List.cons.inj same
      obtain ⟨rfl, rest⟩ := ih (List.not_mem_of_not_mem_cons free)
        (List.not_mem_of_not_mem_cons free') following
      exact ⟨rfl, rest⟩

theorem intercalate_singleton_ne {word other next : List α} {others : List (List α)}
    (free : mark ∉ word) :
    (mark :: tail).intercalate [word] ≠ (mark :: tail).intercalate (other :: next :: others) := by
  rw [List.intercalate_singleton, List.intercalate_cons_cons]
  intro same
  exact free (same ▸ by simp)

theorem intercalate_injective {words others : List (List α)} (given : words ≠ [])
    (given' : others ≠ []) (free : ∀ word ∈ words, mark ∉ word)
    (free' : ∀ word ∈ others, mark ∉ word)
    (same : (mark :: tail).intercalate words = (mark :: tail).intercalate others) :
    words = others := by
  induction words generalizing others with
  | nil => exact absurd rfl given
  | cons word words ih =>
    obtain ⟨other, others, rfl⟩ := List.exists_cons_of_ne_nil given'
    obtain ⟨first, rest⟩ := List.forall_mem_cons.mp free
    obtain ⟨first', rest'⟩ := List.forall_mem_cons.mp free'
    cases words with
    | nil =>
      cases others with
      | nil => simpa using same
      | cons next others => exact absurd same (intercalate_singleton_ne first)
    | cons next words =>
      cases others with
      | nil => exact absurd same.symm (intercalate_singleton_ne first')
      | cons next' others =>
        simp only [List.intercalate_cons_cons, List.append_assoc, List.cons_append] at same
        obtain ⟨rfl, joined⟩ := append_mark_injective first first' same
        have following : next :: words = next' :: others :=
          ih (List.cons_ne_nil _ _) (List.cons_ne_nil _ _) rest rest'
            (List.append_cancel_left joined)
        rw [following]

end Joined

section Hexadecimal

def digitValue (c : Char) : Nat :=
  if c.isDigit then c.toNat - '0'.toNat else c.toNat - 'a'.toNat + 10

/-- The number that hexadecimal digits spell, the highest one first. -/
def hexValue (digits : List Char) : Nat :=
  digits.foldl (fun value c => 16 * value + digitValue c) 0

theorem hexValue_toDigits (n : Nat) : hexValue (Nat.toDigits 16 n) = n := by
  have digit : ∀ d < 16, digitValue (Nat.digitChar d) = d := by decide
  induction n using Nat.strongRecOn with
  | ind n ih =>
    rw [Nat.toDigits_eq_if (by decide)]
    split
    · rename_i small
      change 16 * 0 + digitValue _ = n
      rw [digit n small, Nat.mul_zero, Nat.zero_add]
    · rename_i large
      have less : n / 16 < n := Nat.div_lt_self (by omega) (by decide)
      rw [hexValue, List.foldl_append]
      change 16 * hexValue (Nat.toDigits 16 (n / 16)) + digitValue _ = n
      rw [ih _ less, digit _ (Nat.mod_lt n (by decide)), Nat.div_add_mod]

theorem mem_toDigits {c : Char} {n : Nat} (inside : c ∈ Nat.toDigits 16 n) :
    ∃ d, c = Nat.digitChar d := by
  induction n using Nat.strongRecOn with
  | ind n ih =>
    rw [Nat.toDigits_eq_if (by decide)] at inside
    split at inside
    · exact ⟨_, List.mem_singleton.mp inside⟩
    · have less : n / 16 < n := Nat.div_lt_self (by omega) (by decide)
      rcases List.mem_append.mp inside with front | last
      · exact ih _ less front
      · exact ⟨_, List.mem_singleton.mp last⟩

end Hexadecimal

end DrawSubmission.Text
