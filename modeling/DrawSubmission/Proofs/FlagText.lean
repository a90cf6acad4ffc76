import Mathlib.Data.List.Nodup
import DrawSubmission.Flags.Spelling
import DrawSubmission.Text.Readable
set_option autoImplicit false

namespace DrawSubmission

/-- Names as declarations have them. They are identifiers, which have neither blanks nor
parentheses; no two are the same, and none is that of the empty set, which is always declared. -/
structure FlagKind.WellNamed (kind : FlagKind) : Prop where
  distinct : (kind.flags.map Flag.name).Nodup
  identifiers : ∀ flag ∈ kind.flags, ' ' ∉ flag.name.toList ∧ '(' ∉ flag.name.toList
  reserved : ∀ flag ∈ kind.flags, flag.name ≠ "EMPTY"

def hasParen (word : String) : Bool := word.toList.contains '('

section Rest
variable {width : Nat}

def restWords (rest : BitVec width) : List String :=
  if rest = 0 then [] else [FlagSet.unnamedText rest]

theorem toList_unnamedText (rest : BitVec width) : (FlagSet.unnamedText rest).toList =
    "UNKNOWN(0x".toList ++ (Nat.toDigits 16 rest.toNat ++ ")".toList) := by
  have digits : (String.ofList (Nat.toDigits 16 rest.toNat)).toList =
      Nat.toDigits 16 rest.toNat := String.toList_ofList
  rw [FlagSet.unnamedText, String.toList_append, String.toList_append, digits, List.append_assoc]

theorem hasParen_unnamedText (rest : BitVec width) :
    hasParen (FlagSet.unnamedText rest) = true := by
  have inside : '(' ∈ "UNKNOWN(0x".toList := by decide
  rw [hasParen, toList_unnamedText, List.contains_iff_mem]
  exact List.mem_append_left _ inside

theorem blank_not_mem_unnamedText (rest : BitVec width) :
    ' ' ∉ (FlagSet.unnamedText rest).toList := by
  rw [toList_unnamedText, List.mem_append, List.mem_append]
  rintro (inside | inside | inside)
  · exact absurd inside (by decide)
  · obtain ⟨d, digit⟩ := Text.mem_toDigits inside
    exact Nat.digitChar_ne ' ' rfl digit.symm
  · exact absurd inside (by decide)

theorem unnamedText_injective {rest other : BitVec width}
    (same : FlagSet.unnamedText rest = FlagSet.unnamedText other) : rest = other := by
  have texts := congrArg String.toList same
  rw [toList_unnamedText, toList_unnamedText] at texts
  have digits : Nat.toDigits 16 rest.toNat = Nat.toDigits 16 other.toNat :=
    List.append_cancel_right (List.append_cancel_left texts)
  apply BitVec.eq_of_toNat_eq
  calc
    rest.toNat = Text.hexValue (Nat.toDigits 16 rest.toNat) := (Text.hexValue_toDigits _).symm
    _ = Text.hexValue (Nat.toDigits 16 other.toNat) := by rw [digits]
    _ = other.toNat := Text.hexValue_toDigits _

theorem eq_of_mem_restWords {rest : BitVec width} {word : String}
    (inside : word ∈ restWords rest) : word = FlagSet.unnamedText rest := by
  unfold restWords at inside
  split at inside
  · cases inside
  · exact List.mem_singleton.mp inside

theorem restWords_injective {rest other : BitVec width}
    (same : restWords rest = restWords other) : rest = other := by
  unfold restWords at same
  split at same <;> split at same
  · rename_i none none'
    rw [none, none']
  · cases same
  · cases same
  · exact unnamedText_injective (List.singleton_inj.mp same)

end Rest

theorem eq_of_map_eq {α β : Type} {f : α → β} {all list other : List α}
    (distinct : (all.map f).Nodup) (inside : list ⊆ all) (inside' : other ⊆ all)
    (same : list.map f = other.map f) : list = other := by
  induction list generalizing other with
  | nil => exact (List.map_eq_nil_iff.mp same.symm).symm
  | cons a list ih =>
    cases other with
    | nil => cases same
    | cons b other =>
      obtain ⟨first, rest⟩ := List.cons.inj same
      obtain ⟨here, later⟩ := List.cons_subset.mp inside
      obtain ⟨here', later'⟩ := List.cons_subset.mp inside'
      rw [List.inj_on_of_nodup_map distinct here here' first, ih later later' rest]

theorem filter_append_of {α : Type} {p : α → Bool} {first last : List α}
    (fails : ∀ a ∈ first, p a = false) (holds : ∀ a ∈ last, p a = true) :
    (first ++ last).filter (fun a => !p a) = first ∧ (first ++ last).filter p = last := by
  constructor
  · rw [List.filter_append, List.filter_eq_self.mpr fun a inside => by rw [fails a inside]; rfl,
      List.filter_eq_nil_iff.mpr fun a inside => by rw [holds a inside]; decide, List.append_nil]
  · rw [List.filter_append, List.filter_eq_self.mpr holds,
      List.filter_eq_nil_iff.mpr fun a inside => by rw [fails a inside]; decide, List.nil_append]

namespace FlagSet
variable {kind : FlagKind}

def printed (s : FlagSet kind) : List (Flag kind.width) := (spelled kind.flags s.bits).1

def unclaimed (s : FlagSet kind) : BitVec kind.width := (spelled kind.flags s.bits).2

theorem spelling (s : FlagSet kind) : Spelling kind.flags s.bits s.printed s.unclaimed :=
  spelling_spelled kind.flags s.bits

theorem append_restWords_eq_nil_iff (s : FlagSet kind) :
    s.printed.map Flag.name ++ restWords s.unclaimed = [] ↔ s.bits = 0 := by
  rw [s.spelling.eq_zero_iff, List.append_eq_nil_iff, List.map_eq_nil_iff, restWords]
  simp

/-- The words of a set with bits are the names of the flags that spell it and one for the rest. -/
theorem words_eq (s : FlagSet kind) : s.words =
    if s.bits = 0 then ["EMPTY"] else s.printed.map Flag.name ++ restWords s.unclaimed := by
  have all : (if s.unclaimed = 0 then s.printed.map Flag.name
      else s.printed.map Flag.name ++ [unnamedText s.unclaimed]) =
        s.printed.map Flag.name ++ restWords s.unclaimed := by
    unfold restWords
    split
    · exact (List.append_nil _).symm
    · rfl
  calc
    s.words = if (s.printed.map Flag.name ++ restWords s.unclaimed).isEmpty then ["EMPTY"]
        else s.printed.map Flag.name ++ restWords s.unclaimed := by
      rw [← all]
      rfl
    _ = _ := if_congr (List.isEmpty_iff.trans s.append_restWords_eq_nil_iff) rfl rfl

theorem words_ne_nil (s : FlagSet kind) : s.words ≠ [] := by
  rw [words_eq]
  split
  · exact List.cons_ne_nil _ _
  · rename_i some
    exact mt s.append_restWords_eq_nil_iff.mp some

theorem exists_flag_of_mem {s : FlagSet kind} {name : String}
    (inside : name ∈ s.printed.map Flag.name) : ∃ flag ∈ kind.flags, flag.name = name := by
  obtain ⟨flag, printed, same⟩ := List.mem_map.mp inside
  exact ⟨flag, s.spelling.ordered.subset printed, same⟩

variable (named : kind.WellNamed)
include named

theorem empty_mem_words_iff (s : FlagSet kind) : "EMPTY" ∈ s.words ↔ s.bits = 0 := by
  rw [words_eq]
  split
  · rename_i none
    exact iff_of_true List.mem_cons_self none
  · rename_i some
    refine iff_of_false (fun inside => ?_) some
    rcases List.mem_append.mp inside with name | number
    · obtain ⟨flag, declared, same⟩ := exists_flag_of_mem name
      exact named.reserved flag declared same
    · have paren := hasParen_unnamedText s.unclaimed
      rw [← eq_of_mem_restWords number] at paren
      exact absurd paren (by decide)

theorem blank_not_mem_words (s : FlagSet kind) : ∀ word ∈ s.words, ' ' ∉ word.toList := by
  intro word inside
  rw [words_eq] at inside
  split at inside
  · rw [List.mem_singleton.mp inside]
    decide
  · rcases List.mem_append.mp inside with name | number
    · obtain ⟨flag, declared, rfl⟩ := exists_flag_of_mem name
      exact (named.identifiers flag declared).1
    · rw [eq_of_mem_restWords number]
      exact blank_not_mem_unnamedText _

theorem filter_words (s : FlagSet kind) (some : s.bits ≠ 0) :
    (s.words.filter fun word => !hasParen word) = s.printed.map Flag.name ∧
      s.words.filter hasParen = restWords s.unclaimed := by
  rw [words_eq, if_neg some]
  apply filter_append_of
  · intro name inside
    obtain ⟨flag, declared, rfl⟩ := exists_flag_of_mem inside
    refine Bool.eq_false_iff.mpr fun paren => ?_
    exact (named.identifiers flag declared).2 (List.contains_iff_mem.mp paren)
  · intro number inside
    rw [eq_of_mem_restWords inside]
    exact hasParen_unnamedText _

/-- The words of a set tell its bits. -/
theorem bits_eq_of_words {s t : FlagSet kind} (same : s.words = t.words) : s.bits = t.bits := by
  have none : s.bits = 0 ↔ t.bits = 0 := by
    rw [← empty_mem_words_iff named, same, empty_mem_words_iff named]
  by_cases empty : s.bits = 0
  · rw [empty, none.mp empty]
  · obtain ⟨names, number⟩ := filter_words named s empty
    obtain ⟨names', number'⟩ := filter_words named t (mt none.mpr empty)
    rw [same] at names number
    have printed : s.printed = t.printed :=
      eq_of_map_eq named.distinct s.spelling.ordered.subset t.spelling.ordered.subset
        (names.symm.trans names')
    have unclaimed : s.unclaimed = t.unclaimed := restWords_injective (number.symm.trans number')
    calc
      s.bits = joined s.printed s.unclaimed := s.spelling.whole.symm
      _ = joined t.printed t.unclaimed := by rw [printed, unclaimed]
      _ = t.bits := t.spelling.whole

/-- The text of a set tells its words. -/
theorem words_eq_of_text {s t : FlagSet kind} (same : s.text = t.text) : s.words = t.words := by
  have given (s : FlagSet kind) : s.words.map String.toList ≠ [] :=
    mt List.map_eq_nil_iff.mp s.words_ne_nil
  have free (s : FlagSet kind) : ∀ word ∈ s.words.map String.toList, ' ' ∉ word := by
    intro word inside
    obtain ⟨name, written, rfl⟩ := List.mem_map.mp inside
    exact blank_not_mem_words named s name written
  have between : " | ".intercalate s.words = " | ".intercalate t.words :=
    (String.append_right_inj _).mp ((String.append_left_inj _).mp same)
  have lists := congrArg String.toList between
  rw [String.toList_intercalate, String.toList_intercalate] at lists
  have words := Text.intercalate_injective (given s) (given t) (free s) (free t) lists
  exact List.map_injective_iff.mpr (fun _ _ => String.toList_inj.mp) words

/-- The text of a set spells its bits: it has the names of declared flags, in the order of their
declaration, whose masks and the number at the end, which is written if bits are left, are disjoint
parts of the bits and make them up. A flag that the set holds is left out just if it is empty or
overlaps one printed before, and the text says that the set is empty just if it is. So no other set
of the kind has the same text. -/
theorem text_spells_bits (s : FlagSet kind) :
    (∃ (printed : List (Flag kind.width)) (rest : BitVec kind.width) (digits : List Char),
      Spelling kind.flags s.bits printed rest ∧ Text.hexValue digits = rest.toNat ∧
      s.text = kind.name ++ " \x7b " ++ " | ".intercalate
        (if s.bits = 0 then ["EMPTY"] else printed.map Flag.name ++
          if rest = 0 then [] else ["UNKNOWN(0x" ++ String.ofList digits ++ ")"]) ++ " \x7d") ∧
    ("EMPTY" ∈ s.words ↔ s.bits = 0) ∧
    ∀ t : FlagSet kind, s.text = t.text → s = t := by
  refine ⟨⟨s.printed, s.unclaimed, Nat.toDigits 16 s.unclaimed.toNat, s.spelling,
    Text.hexValue_toDigits _, ?_⟩, empty_mem_words_iff named s, fun t same => ?_⟩
  · rw [text, words_eq]
    rfl
  · exact congrArg FlagSet.mk (bits_eq_of_words named (words_eq_of_text named same))

end FlagSet

/-- Flags of which some overlap; one has no bits, and one bit has no name. -/
def mixedFlagKind : FlagKind :=
  ⟨"MixedFlags", 8, [⟨"NONE", 0⟩, ⟨"BOTH", 3⟩, ⟨"LOW", 1⟩, ⟨"MID", 2⟩, ⟨"HIGH", 0x80⟩,
    ⟨"WIDE", 0x3c⟩]⟩

/-- The flags that are hidden and the bit without a name can be read back. -/
theorem FlagSet.text_spells_bits_mixed : mixedFlagKind.WellNamed ∧
    (⟨0xc3⟩ : FlagSet mixedFlagKind).text = "MixedFlags \x7b BOTH | HIGH | UNKNOWN(0x40) \x7d" ∧
    ∀ t : FlagSet mixedFlagKind,
      t.text = "MixedFlags \x7b BOTH | HIGH | UNKNOWN(0x40) \x7d" → t.bits = 0xc3 := by
  have named : mixedFlagKind.WellNamed := ⟨by decide, by decide, by decide⟩
  have written : (⟨0xc3⟩ : FlagSet mixedFlagKind).text =
      "MixedFlags \x7b BOTH | HIGH | UNKNOWN(0x40) \x7d" := by decide +kernel
  refine ⟨named, written, fun t same => ?_⟩
  obtain ⟨-, -, only⟩ := FlagSet.text_spells_bits named ⟨0xc3⟩
  rw [← only t (written.trans same.symm)]

end DrawSubmission
