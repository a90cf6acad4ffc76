import Mathlib.Data.Nat.Digits.Defs
import Mathlib.Data.Nat.Digits.Lemmas
import Mathlib.Data.List.Infix
import DrawSubmission.Attribute
import DrawSubmission.Channels
set_option autoImplicit false

namespace DrawSubmission

/-- The fixed channels: the rest of a name that spells one, the channel, the counts of components
that it takes, and the wording of these counts. -/
inductive FixedChannel : String → Role → (Nat → Prop) → String → Prop
  | position : FixedChannel "position_in" .position (fun n => 2 ≤ n ∧ n ≤ 4) "2, 3 or 4"
  | color : FixedChannel "color_in" .color (fun n => n = 3 ∨ n = 4) "3 or 4"
  | normal : FixedChannel "normal_in" .normal (fun n => n = 3) "3"
  | bareNormal : FixedChannel "normal" .normal (fun n => n = 3) "3"

def Unfixed (rest : List Char) : Prop :=
  ∀ spelled role takes expected, FixedChannel spelled role takes expected → rest ≠ spelled.toList

/-- What is left of the text of a unit without one `_in` at its end, if it has one there. -/
inductive UnitDigits : List Char → List Char → Prop
  | suffixed (digits : List Char) : UnitDigits (digits ++ "_in".toList) digits
  | bare {text : List Char} (other : ¬ "_in".toList <:+ text) : UnitDigits text text

def placeValue (digits : List Char) : Nat :=
  Nat.ofDigits 10 (digits.reverse.map fun digit => digit.toNat - '0'.toNat)

def Reserved (name : String) (rest : List Char) : Prop := name.toList = "strand_".toList ++ rest

def NamesUnit (name : String) (digits : List Char) : Prop :=
  ∃ text, Reserved name ("tex_coord".toList ++ text) ∧ UnitDigits text digits

/-- What a name stands for in an attribute with some components: a channel or an error. -/
inductive StandsFor (name : String) (components : UInt8) : Except AttributeError Role → Prop
  | custom (free : ∀ rest, ¬ Reserved name rest) : StandsFor name components (.ok .custom)
  | fixed {rest : String} {role : Role} {takes : Nat → Prop} {expected : String}
      (reserved : Reserved name rest.toList) (channel : FixedChannel rest role takes expected)
      (taken : takes components.toNat) : StandsFor name components (.ok role)
  | miscounted {rest : String} {role : Role} {takes : Nat → Prop} {expected : String}
      (reserved : Reserved name rest.toList) (channel : FixedChannel rest role takes expected)
      (refused : ¬ takes components.toNat) :
      StandsFor name components (.error (.componentCount name role.label components expected))
  | firstUnit (named : NamesUnit name []) :
      StandsFor name components (.ok (.textureCoord Role.defaultUnit))
  | unit {digits : List Char} (named : NamesUnit name digits) (given : digits ≠ [])
      (decimal : ∀ c ∈ digits, c.isDigit = true) (unit : Fin 32)
      (value : placeValue digits = unit.val) : StandsFor name components (.ok (.textureCoord unit))
  | outOfRange {digits : List Char} (named : NamesUnit name digits) (given : digits ≠ [])
      (decimal : ∀ c ∈ digits, c.isDigit = true) (unit : UInt32) (large : 32 ≤ unit.toNat)
      (value : placeValue digits = unit.toNat) :
      StandsFor name components (.error (.textureUnitOutOfRange name unit))
  | tooLarge {digits : List Char} (named : NamesUnit name digits) (given : digits ≠ [])
      (decimal : ∀ c ∈ digits, c.isDigit = true) (large : UInt32.size ≤ placeValue digits) :
      StandsFor name components (.error (.malformedTextureUnit name))
  | malformed {digits : List Char} (named : NamesUnit name digits) {c : Char} (inside : c ∈ digits)
      (other : c.isDigit = false) : StandsFor name components (.error (.malformedTextureUnit name))
  | unknown {rest : List Char} (reserved : Reserved name rest) (unfixed : Unfixed rest)
      (unitless : ¬ "tex_coord".toList <+: rest) :
      StandsFor name components (.error (.unknownReservedName name))

namespace Role

theorem isDigit_eq (c : Char) : isDigit c = c.isDigit := rfl

theorem decimalValue_snoc (digits : List Char) (c : Char) :
    decimalValue (digits ++ [c]) = 10 * decimalValue digits + (c.toNat - '0'.toNat) := by
  rw [decimalValue, List.foldl_append]
  rfl

theorem decimalValue_eq_placeValue (digits : List Char) :
    decimalValue digits = placeValue digits := by
  induction digits using List.reverseRecOn with
  | nil => rfl
  | append_singleton digits c ih =>
    rw [decimalValue_snoc, ih, placeValue, placeValue, List.reverse_append]
    simp only [List.reverse_singleton, List.singleton_append, List.map_cons, Nat.ofDigits_cons]
    omega

section Reading
variable {name : String} {components : UInt8}

theorem resolve_of_reserved {rest : List Char} (h : Reserved name rest) :
    resolve name components = resolveReserved name components rest := by
  have cut : reservedPrefix.isPrefixOf? name.toList = some rest :=
    List.isPrefixOf?_eq_some_iff_append_eq.mpr h.symm
  rw [resolve, cut]

theorem resolve_of_free (free : ∀ rest, ¬ Reserved name rest) :
    resolve name components = .ok .custom := by
  have cut : reservedPrefix.isPrefixOf? name.toList = none := by
    refine Option.eq_none_iff_forall_ne_some.mpr fun rest found => free rest ?_
    exact (List.isPrefixOf?_eq_some_iff_append_eq.mp found).symm
  rw [resolve, cut]

theorem contains_iff (allowed : List UInt8) (n : UInt8) :
    allowed.contains n = true ↔ n.toNat ∈ allowed.map UInt8.toNat := by
  rw [List.contains_iff_mem, List.mem_map_of_injective fun _ _ => UInt8.toNat_inj.mp]

variable (name components) in
theorem resolveReserved_of_fixed {rest : String} {role : Role} {takes : Nat → Prop}
    {expected : String} (channel : FixedChannel rest role takes expected) :
    ∃ allowed : List UInt8, (∀ n : UInt8, allowed.contains n = true ↔ takes n.toNat) ∧
      resolveReserved name components rest.toList =
        requireCount name components role allowed expected := by
  cases channel with
  | position =>
    refine ⟨[2, 3, 4], fun n => (contains_iff _ n).trans ?_, rfl⟩
    simp only [List.map_cons, List.map_nil, List.mem_cons, List.not_mem_nil, or_false,
      UInt8.reduceToNat]
    omega
  | color => exact ⟨[3, 4], fun n => (contains_iff _ n).trans (by simp), rfl⟩
  | normal => exact ⟨[3], fun n => (contains_iff _ n).trans (by simp), rfl⟩
  | bareNormal => exact ⟨[3], fun n => (contains_iff _ n).trans (by simp), rfl⟩

theorem resolveReserved_of_unfixed {rest : List Char} (unfixed : Unfixed rest) :
    resolveReserved name components rest =
      ("tex_coord".toList.isPrefixOf? rest).elim (.error (.unknownReservedName name))
        (resolveUnit name) := by
  have apart {spelled role takes expected}
      (channel : FixedChannel spelled role takes expected) : rest ≠ spelled.toList :=
    unfixed _ _ _ _ channel
  rw [resolveReserved, if_neg (apart .position), if_neg (apart .color),
    if_neg (not_or.mpr ⟨apart .normal, apart .bareNormal⟩)]
  cases "tex_coord".toList.isPrefixOf? rest <;> rfl

theorem unfixed_unit (text : List Char) : Unfixed ("tex_coord".toList ++ text) := by
  rintro spelled role takes expected channel same
  cases channel <;> cases (List.cons.inj same).1

theorem resolve_of_unit {digits : List Char} (h : NamesUnit name digits) :
    resolve name components =
      if digits.isEmpty then .ok (.textureCoord defaultUnit)
      else if !digits.all isDigit then .error (.malformedTextureUnit name)
      else
        if h : decimalValue digits < 32 then .ok (.textureCoord ⟨decimalValue digits, h⟩)
        else if decimalValue digits < UInt32.size then
          .error (.textureUnitOutOfRange name (.ofNat (decimalValue digits)))
        else .error (.malformedTextureUnit name) := by
  obtain ⟨text, reserved, unit⟩ := h
  have cut : "tex_coord".toList.isPrefixOf? ("tex_coord".toList ++ text) = some text :=
    List.isPrefixOf?_eq_some_iff_append_eq.mpr rfl
  have left : ("_in".toList.isSuffixOf? text).getD text = digits := by
    rcases unit with _ | other
    · rw [List.isSuffixOf?_eq_some_iff_append_eq.mpr rfl]
      rfl
    · have whole : "_in".toList.isSuffixOf? digits = none := by
        refine Option.eq_none_iff_forall_ne_some.mpr fun start found => other ⟨start, ?_⟩
        exact List.isSuffixOf?_eq_some_iff_append_eq.mp found
      rw [whole]
      rfl
  rw [resolve_of_reserved reserved, resolveReserved_of_unfixed (unfixed_unit text), cut]
  change resolveUnit name text = _
  rw [resolveUnit, left]

theorem resolve_of_standsFor {answer : Except AttributeError Role}
    (h : StandsFor name components answer) : resolve name components = answer := by
  have all {digits : List Char} (decimal : ∀ c ∈ digits, c.isDigit = true) :
      digits.all isDigit = true := List.all_eq_true.mpr decimal
  cases h with
  | custom free => exact resolve_of_free free
  | fixed reserved channel taken =>
    obtain ⟨allowed, takes, read⟩ := resolveReserved_of_fixed name components channel
    rw [resolve_of_reserved reserved, read, requireCount, if_pos ((takes components).mpr taken)]
  | miscounted reserved channel refused =>
    obtain ⟨allowed, takes, read⟩ := resolveReserved_of_fixed name components channel
    rw [resolve_of_reserved reserved, read, requireCount, if_neg fun taken => refused ?_]
    exact (takes components).mp taken
  | firstUnit named => exact resolve_of_unit named
  | unit named given decimal unit value =>
    rw [← decimalValue_eq_placeValue] at value
    simp [resolve_of_unit named, given, all decimal, value]
  | outOfRange named given decimal unit large value =>
    rw [← decimalValue_eq_placeValue] at value
    have small : unit.toNat < UInt32.size := unit.toNat_lt_size
    simp [resolve_of_unit named, given, all decimal, value, Nat.not_lt.mpr large, small]
  | tooLarge named given decimal large =>
    rw [← decimalValue_eq_placeValue] at large
    have past : ¬ decimalValue _ < 32 := fun small =>
      absurd (Nat.le_trans large (Nat.le_of_lt small)) (by decide)
    simp [resolve_of_unit named, given, all decimal, past, Nat.not_lt.mpr large]
  | @malformed digits named c inside other =>
    have given : digits ≠ [] := List.ne_nil_of_mem inside
    have foreign : digits.all isDigit = false :=
      List.all_eq_false.mpr ⟨c, inside, by rw [isDigit_eq, other]; exact Bool.false_ne_true⟩
    rw [resolve_of_unit named, if_neg (by simpa using given), foreign]
    rfl
  | @unknown rest reserved unfixed unitless =>
    have cut : "tex_coord".toList.isPrefixOf? rest = none := by
      refine Option.eq_none_iff_forall_ne_some.mpr fun text found => unitless ⟨text, ?_⟩
      exact List.isPrefixOf?_eq_some_iff_append_eq.mp found
    rw [resolve_of_reserved reserved, resolveReserved_of_unfixed unfixed, cut]
    rfl

theorem exists_standsFor_of_unit {digits : List Char} (named : NamesUnit name digits) :
    ∃ answer, StandsFor name components answer := by
  by_cases given : digits = []
  · exact ⟨_, .firstUnit (given ▸ named)⟩
  by_cases decimal : ∀ c ∈ digits, c.isDigit = true
  · by_cases small : placeValue digits < 32
    · exact ⟨_, .unit named given decimal ⟨placeValue digits, small⟩ rfl⟩
    by_cases word : placeValue digits < UInt32.size
    · have exact' : (UInt32.ofNat (placeValue digits)).toNat = placeValue digits :=
        UInt32.toNat_ofNat_of_lt' word
      exact ⟨_, .outOfRange named given decimal (.ofNat (placeValue digits))
        (exact'.symm ▸ Nat.le_of_not_lt small) exact'.symm⟩
    · exact ⟨_, .tooLarge named given decimal (Nat.le_of_not_lt word)⟩
  · obtain ⟨c, inside, other⟩ : ∃ c ∈ digits, ¬ c.isDigit = true := by simpa using decimal
    exact ⟨_, .malformed named inside (eq_false_of_ne_true other)⟩

/-- The grammar leaves no name and no count of components out. -/
theorem exists_standsFor (name : String) (components : UInt8) :
    ∃ answer, StandsFor name components answer := by
  by_cases free : ∀ rest, ¬ Reserved name rest
  · exact ⟨_, .custom free⟩
  obtain ⟨rest, reserved⟩ : ∃ rest, Reserved name rest := by simpa using free
  by_cases unfixed : Unfixed rest
  · by_cases unit : "tex_coord".toList <+: rest
    · obtain ⟨text, rfl⟩ := unit
      by_cases suffixed : "_in".toList <:+ text
      · obtain ⟨digits, rfl⟩ := suffixed
        exact exists_standsFor_of_unit ⟨_, reserved, .suffixed digits⟩
      · exact exists_standsFor_of_unit ⟨_, reserved, .bare suffixed⟩
    · exact ⟨_, .unknown reserved unfixed unit⟩
  · obtain ⟨spelled, role, takes, expected, channel, rfl⟩ :
        ∃ spelled role takes expected, FixedChannel spelled role takes expected ∧
          rest = spelled.toList := by
      simpa [Unfixed] using unfixed
    by_cases taken : takes components.toNat
    · exact ⟨_, .fixed reserved channel taken⟩
    · exact ⟨_, .miscounted reserved channel taken⟩

end Reading

def unitName (unit : Fin 32) : String := "strand_tex_coord" ++ toString unit.val ++ "_in"

theorem reserved_unitName (unit : Fin 32) : Reserved (unitName unit)
    ("tex_coord".toList ++ (Nat.toDigits 10 unit.val ++ "_in".toList)) := by
  let digits := Nat.toDigits 10 unit.val
  have printed : (toString unit.val).toList = digits := Nat.toList_repr
  have front : ("strand_tex_coord" ++ toString unit.val).toList =
      "strand_".toList ++ ("tex_coord".toList ++ digits) := printed ▸ String.toList_append
  calc
    (unitName unit).toList
      = ("strand_tex_coord" ++ toString unit.val).toList ++ "_in".toList := String.toList_append
    _ = "strand_".toList ++ ("tex_coord".toList ++ (digits ++ "_in".toList)) := by
        rw [front, List.append_assoc, List.append_assoc]

theorem standsFor_unitName (unit : Fin 32) (components : UInt8) :
    StandsFor (unitName unit) components (.ok (.textureCoord unit)) := by
  let digits := Nat.toDigits 10 unit.val
  have named : NamesUnit (unitName unit) digits :=
    ⟨digits ++ "_in".toList, reserved_unitName unit, .suffixed digits⟩
  have value : placeValue digits = unit.val := by
    rw [← decimalValue_eq_placeValue]
    exact Nat.ofDigitChars_ten_toDigits
  refine .unit named Nat.toDigits_ne_nil (fun c inside => ?_) unit value
  exact Nat.isDigit_of_mem_toDigits (by decide) (by decide) inside

end Role

theorem getLsbD_enableTexUnit (s : Scene) (unit : Fin 32) (i : Nat) :
    (s.enableTexUnit unit).context.texUnits.getLsbD i =
      (s.context.texUnits.getLsbD i || decide (unit.val = i)) := by
  unfold Scene.enableTexUnit
  by_cases same : unit.val = i
  · subst same
    cases on : s.context.texUnits.getLsbD unit.val <;> simp [on, Scene.setTexUnits]
  · split <;> simp [Scene.setTexUnits, same]

/-- Reading a name answers what the grammar says, for every name and every count of components. The
unit that is read shifts to a bit of its own in the mask of the units, and the name that is printed
for a unit is read as this unit. -/
theorem resolve_iff_standsFor (name : String) (components : UInt8) :
    (∀ answer, Role.resolve name components = answer ↔ StandsFor name components answer) ∧
      (∀ unit : Fin 32, (1#32 <<< unit.val).toNat = 2 ^ unit.val ∧
        ∀ (s : Scene) (i : Nat), (s.enableTexUnit unit).context.texUnits.getLsbD i =
          (s.context.texUnits.getLsbD i || decide (unit.val = i))) ∧
      ∀ unit : Fin 32,
        Role.resolve (Role.unitName unit) components = .ok (.textureCoord unit) := by
  refine ⟨fun answer => ⟨?_, Role.resolve_of_standsFor⟩, fun unit => ⟨?_, ?_⟩, fun unit => ?_⟩
  · rintro rfl
    obtain ⟨answer, stands⟩ := Role.exists_standsFor name components
    rw [Role.resolve_of_standsFor stands]
    exact stands
  · change (BitVec.twoPow 32 unit.val).toNat = _
    rw [BitVec.toNat_twoPow]
    exact Nat.mod_eq_of_lt (Nat.pow_lt_pow_right (by decide) unit.isLt)
  · exact fun s i => getLsbD_enableTexUnit s unit i
  · exact Role.resolve_of_standsFor (Role.standsFor_unitName unit components)

example : Role.resolve "strand_tex_coord0007" 4 = .ok (.textureCoord 7) ∧
    Role.resolve "strand_tex_coord4294967296_in" 4 =
      .error (.malformedTextureUnit "strand_tex_coord4294967296_in") := by
  decide +kernel

end DrawSubmission
