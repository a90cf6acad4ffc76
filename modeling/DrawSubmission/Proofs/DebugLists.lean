import Mathlib
import DrawSubmission.Flags
import DrawSubmission.Notice
import DrawSubmission.Text.Stretches
set_option autoImplicit false

namespace DrawSubmission.DebugFlags

def names : List (String × DebugFlags) :=
  [("wireframe", wireframe), ("disable-blending", disableBlending),
   ("disable-texturing", disableTexturing)]

def isName (word : String) : Bool := ("all" :: names.map Prod.fst).contains word

def hyphenated (c : Char) : Char := if c = '_' then '-' else c

/-- A token in its normal spelling: with its letters of ASCII in lower case, and then with hyphens
for its underscores. -/
def spelling (token : List Char) : String :=
  String.ofList ((token.map Char.toLower).map hyphenated)

/-- Characters that stand for each other in a list: those of one letter of ASCII, and underscore and
hyphen. -/
inductive Respelled : Char → Char → Prop
  | same (c : Char) : Respelled c c
  | lower (c : Char) : Respelled c c.toLower
  | upper (c : Char) : Respelled c c.toUpper
  | hyphen : Respelled '_' '-'
  | underscore : Respelled '-' '_'

section Spelling

theorem normalizeChar_eq (c : Char) : normalizeChar c = hyphenated c.toLower := by
  unfold normalizeChar hyphenated
  by_cases upper : c.isUpper = true
  · have letter : c.toLower.isLower = true := by
      rw [Char.isLower_toLower_eq_isAlpha, Char.isAlpha, upper, Bool.true_or]
    have other : c.toLower ≠ '_' := by
      intro same
      rw [same] at letter
      cases letter
    have other' : c ≠ '_' := by
      rintro rfl
      cases upper
    rw [if_neg other, if_neg other']
  · rw [Char.toLower_eq_of_not_isUpper upper]

theorem normalizeChar_of_respelled {c d : Char} (h : Respelled c d) :
    normalizeChar d = normalizeChar c := by
  cases h with
  | same => rfl
  | lower => rw [normalizeChar_eq, normalizeChar_eq, Char.toLower_toLower_eq_toLower]
  | upper => rw [normalizeChar_eq, normalizeChar_eq, Char.toLower_toUpper_eq_toLower]
  | hyphen | underscore => decide

theorem map_normalizeChar {text other : List Char} (respelled : List.Forall₂ Respelled text other) :
    other.map normalizeChar = text.map normalizeChar := by
  induction respelled with
  | nil => rfl
  | cons char _ ih => rw [List.map_cons, List.map_cons, normalizeChar_of_respelled char, ih]

theorem isSeparator_of_isAlpha {c : Char} (letter : c.isAlpha = true) : isSeparator c = false := by
  have place : 65 ≤ c.toNat ∧ c.toNat ≤ 90 ∨ 97 ≤ c.toNat ∧ c.toNat ≤ 122 := by
    simpa [Char.isAlpha, Char.isUpper, Char.isLower, UInt32.le_iff_toNat_le] using letter
  have comma : c ≠ ',' := by
    rintro rfl
    cases letter
  have beside : ∀ range ∈ Text.whiteSpaceRanges, range.2 < 65 ∨ 122 < range.1 := by decide
  have solid : Text.isWhiteSpace c = false := by
    refine List.any_eq_false.mpr fun range inside => ?_
    have off := beside range inside
    rw [Bool.and_eq_true, decide_eq_true_eq, decide_eq_true_eq]
    omega
  rw [isSeparator, solid, beq_false_of_ne comma]
  rfl

theorem isSeparator_normalizeChar (c : Char) : isSeparator (normalizeChar c) = isSeparator c := by
  have lower : isSeparator c.toLower = isSeparator c := by
    cases letter : c.isAlpha with
    | true =>
      rw [isSeparator_of_isAlpha letter, isSeparator_of_isAlpha]
      rw [Char.isAlpha_toLower_eq_isAlpha, letter]
    | false =>
      have small : ¬ c.isUpper = true := by
        intro upper
        rw [Char.isAlpha, upper] at letter
        cases letter
      rw [Char.toLower_eq_of_not_isUpper small]
  have hyphen (d : Char) : isSeparator (hyphenated d) = isSeparator d := by
    unfold hyphenated
    split
    · rename_i same
      rw [same]
      decide
    · rfl
  rw [normalizeChar_eq, hyphen, lower]

theorem tokens_eq (list : String) :
    tokens list = (Text.runs isSeparator list.toList).map spelling := by
  apply List.map_congr_left
  intro token _
  rw [spelling, List.map_map]
  congr 2
  funext c
  exact normalizeChar_eq c

theorem tokens_eq_runs_map (list : String) :
    tokens list =
      (Text.runs isSeparator (list.toList.map normalizeChar)).map String.ofList := by
  rw [Text.runs_map isSeparator_normalizeChar, List.map_map]
  rfl

end Spelling

section Tokens

theorem ofToken?_of_unknown {word : String} (unknown : isName word = false) :
    ofToken? word = none := by
  have other : word ≠ "all" ∧ word ≠ "wireframe" ∧ word ≠ "disable-blending" ∧
      word ≠ "disable-texturing" := by
    simpa [isName, names] using unknown
  obtain ⟨all, first, second, third⟩ := other
  rw [ofToken?, if_neg all, if_neg first, if_neg second, if_neg third]

theorem isNone_ofToken? (word : String) : (ofToken? word).isNone = !isName word := by
  cases known : isName word with
  | false => rw [ofToken?_of_unknown known]; rfl
  | true =>
    have each : ∀ word ∈ "all" :: names.map Prod.fst, (ofToken? word).isNone = false := by decide
    exact each word (List.contains_iff_mem.mp known)

/-- A word names a flag by its name and by that of all flags. -/
theorem any_contains_ofToken? {entry : String × DebugFlags} (named : entry ∈ names)
    (word : String) :
    (ofToken? word).any (·.contains entry.2) = true ↔ word = entry.1 ∨ word = "all" := by
  cases known : isName word with
  | false =>
    have other : word ≠ "all" ∧ ∀ entry ∈ names, word ≠ entry.1 := by
      simpa [isName, names] using known
    rw [ofToken?_of_unknown known]
    exact iff_of_false Bool.false_ne_true (not_or.mpr ⟨other.2 entry named, other.1⟩)
  | true =>
    have each : ∀ entry ∈ names, ∀ word ∈ "all" :: names.map Prod.fst,
        (ofToken? word).any (·.contains entry.2) = true ↔ word = entry.1 ∨ word = "all" := by
      decide
    exact each entry named word (List.contains_iff_mem.mp known)

theorem parse_contains {entry : String × DebugFlags} (named : entry ∈ names) (list : String) :
    (parse list).1.contains entry.2 = true ↔
      ∃ word ∈ tokens list, word = entry.1 ∨ word = "all" := by
  have single : ∀ entry ∈ names, ∃ i < 32, entry.2 = FlagSet.ofBit i := by decide
  obtain ⟨i, inside, bit⟩ := single entry named
  have gathered : (parse list).1.contains entry.2 =
      ((tokens list).filterMap ofToken?).any (·.contains entry.2) := by
    rw [bit]
    exact FlagSet.contains_ofBit_unions _ inside
  simp only [gathered, List.any_filterMap, List.any_eq_true, ← any_contains_ofToken? named]
  rfl

theorem parse_named (list : String) {i : Nat} (bit : (parse list).1.bits.getLsbD i = true) :
    ∃ entry ∈ names, entry.2.bits.getLsbD i = true := by
  have gathered :
      (((tokens list).filterMap ofToken?).foldl FlagSet.union FlagSet.empty).bits.getLsbD i =
        true := bit
  rw [FlagSet.getLsbD_unions, FlagSet.getLsbD_empty, Bool.false_or, List.any_eq_true] at gathered
  obtain ⟨set, inside, bit⟩ := gathered
  obtain ⟨word, -, named⟩ := List.mem_filterMap.mp inside
  have each : ∀ word ∈ "all" :: names.map Prod.fst, ∀ i < 32,
      (ofToken? word).any (·.bits.getLsbD i) = true →
        ∃ entry ∈ names, entry.2.bits.getLsbD i = true := by
    decide
  cases known : isName word with
  | true =>
    refine each word (List.contains_iff_mem.mp known) i (BitVec.lt_of_getLsbD bit) ?_
    rw [named]
    exact bit
  | false =>
    rw [ofToken?_of_unknown known] at named
    cases named

theorem parse_unknown (list : String) :
    (parse list).2 = (tokens list).filter fun word => !isName word :=
  congrArg (List.filter · (tokens list)) (funext isNone_ofToken?)

end Tokens

theorem tokens_append {c : Char} (separates : isSeparator c = true) (list more : String) :
    tokens (list ++ String.singleton c ++ more) = tokens list ++ tokens more := by
  have joined : (list ++ String.singleton c ++ more).toList =
      list.toList ++ c :: more.toList := by
    rw [String.toList_append, String.toList_append, String.toList_singleton, List.append_assoc,
      List.singleton_append]
  rw [tokens_eq, joined, Text.runs_append_cons separates, List.map_append, tokens_eq, tokens_eq]

theorem parse_append {c : Char} (separates : isSeparator c = true) (list more : String) :
    parse (list ++ String.singleton c ++ more) =
      ((parse list).1.union (parse more).1, (parse list).2 ++ (parse more).2) := by
  apply Prod.ext
  · change ((tokens _).filterMap ofToken?).foldl FlagSet.union FlagSet.empty = _
    rw [tokens_append separates, List.filterMap_append, FlagSet.unions_append]
    rfl
  · rw [parse_unknown, tokens_append separates, List.filter_append, ← parse_unknown,
      ← parse_unknown]

/-- Lists that differ in spelling alone have the same tokens. -/
theorem tokens_of_respelled {list other : String}
    (respelled : List.Forall₂ Respelled list.toList other.toList) : tokens other = tokens list := by
  rw [tokens_eq_runs_map, map_normalizeChar respelled, tokens_eq_runs_map]

/-- The runs of a list between commas and white space are its tokens. A flag is set just if the
spelling of one is its name or that of all flags, and no bit is set that none of the flags has; each
token whose spelling is no name is warned of, with its spelling, in the order of the tokens. A list
that goes on after a separator sets the flags of both parts and warns of those of the first part and
then of those of the second one. Other letter case and hyphens for underscores change nothing. -/
theorem parse_reads_tokens (list : String) :
    (∃ listed : List (Text.Stretch Char),
      (∀ token, token ∈ listed ↔ token.text = list.toList ∧ token.IsRun isSeparator) ∧
      listed.Pairwise Text.Stretch.Precedes ∧
      (∀ entry ∈ names, (parse list).1.contains entry.2 = true ↔
        ∃ token ∈ listed, spelling token.run = entry.1 ∨ spelling token.run = "all") ∧
      (∀ i, (parse list).1.bits.getLsbD i = true →
        ∃ entry ∈ names, entry.2.bits.getLsbD i = true) ∧
      (parse list).2.map (fun word => (Notice.unknownDebugFlag word).text) =
        ((listed.map fun token => spelling token.run).filter fun word => !isName word).map
          fun word => "WARN: Ignoring unknown debug flag '" ++ word ++ "' in STRAND_DEBUG") ∧
    (∀ (c : Char) (more : String), c = ',' ∨ Text.isWhiteSpace c = true →
      parse (list ++ String.singleton c ++ more) =
        ((parse list).1.union (parse more).1, (parse list).2 ++ (parse more).2)) ∧
    ∀ other : String, List.Forall₂ Respelled list.toList other.toList →
      parse other = parse list := by
  obtain ⟨listed, cutOut, ordered, all⟩ := Text.exists_stretches isSeparator list.toList
  have read : tokens list = listed.map fun token => spelling token.run := by
    rw [tokens_eq, ← cutOut, List.map_map]
    rfl
  refine ⟨⟨listed, all, ordered, fun entry named => ?_, fun i => parse_named list, ?_⟩, ?_, ?_⟩
  · rw [parse_contains named, read]
    simp only [List.mem_map, exists_exists_and_eq_and]
  · rw [parse_unknown, read]
    rfl
  · intro c more separator
    have separates : isSeparator c = true := by simpa [isSeparator] using separator
    exact parse_append separates list more
  · intro other respelled
    rw [parse, tokens_of_respelled respelled]
    rfl

/-- Two flags in mixed spelling and a word that names none, before all flags behind a wide blank. -/
theorem parse_reads_tokens_mixed :
    let list := "A_b,wireframe"
    let other := "a-B,wireframe"
    let blank := '\u3000'
    (Text.isWhiteSpace blank = true ∧ List.Forall₂ Respelled list.toList other.toList) ∧
      parse list = (wireframe, ["a-b"]) ∧ parse other = parse list ∧
      parse (list ++ String.singleton blank ++ "_,ALL") = (all, ["a-b", "-"]) := by
  intro list other blank
  have blankSeparates : Text.isWhiteSpace blank = true := by decide
  have respelled : List.Forall₂ Respelled list.toList other.toList := by
    have one : list.toList = 'A' :: '_' :: 'b' :: ",wireframe".toList := by decide
    have two : other.toList = 'A'.toLower :: '-' :: 'b'.toUpper :: ",wireframe".toList := by decide
    have same : List.Forall₂ Respelled ",wireframe".toList ",wireframe".toList :=
      List.forall₂_same.mpr fun c _ => .same c
    rw [one, two]
    exact .cons (.lower 'A') (.cons .hyphen (.cons (.upper 'b') same))
  obtain ⟨-, appended, alike⟩ := parse_reads_tokens list
  have first : parse list = (wireframe, ["a-b"]) := by decide +kernel
  have rest : parse "_,ALL" = (all, ["-"]) := by decide +kernel
  refine ⟨⟨blankSeparates, respelled⟩, first, alike other respelled, ?_⟩
  rw [appended blank "_,ALL" (.inr blankSeparates), first, rest]
  rfl

end DrawSubmission.DebugFlags
