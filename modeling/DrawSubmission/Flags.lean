set_option autoImplicit false

/-!
# Flag sets

A kind of flag set declares a width and a list of named masks; a set of that kind is any word of
that width, so bits without a name are kept. The text of a set walks the declared flags in order and
takes a flag when all of its bits are set and still unclaimed; what no flag claims is written as a
number.
-/
namespace DrawSubmission

structure Flag (width : Nat) where
  name : String
  mask : BitVec width
deriving DecidableEq

structure FlagKind where
  name : String
  width : Nat
  flags : List (Flag width)

structure FlagSet (kind : FlagKind) where
  bits : BitVec kind.width
deriving DecidableEq

namespace FlagSet
variable {kind : FlagKind}

def empty : FlagSet kind := ⟨0⟩

instance : Inhabited (FlagSet kind) := ⟨empty⟩

def isEmpty (s : FlagSet kind) : Bool := s.bits == 0

def contains (s other : FlagSet kind) : Bool := s.bits &&& other.bits == other.bits

def intersects (s other : FlagSet kind) : Bool := s.bits &&& other.bits != 0

def union (s other : FlagSet kind) : FlagSet kind := ⟨s.bits ||| other.bits⟩

def inter (s other : FlagSet kind) : FlagSet kind := ⟨s.bits &&& other.bits⟩

def symmDiff (s other : FlagSet kind) : FlagSet kind := ⟨s.bits ^^^ other.bits⟩

def complement (s : FlagSet kind) : FlagSet kind := ⟨~~~s.bits⟩

def insert (s other : FlagSet kind) : FlagSet kind := s.union other

def remove (s other : FlagSet kind) : FlagSet kind := s.inter other.complement

def set (s other : FlagSet kind) (present : Bool) : FlagSet kind :=
  if present then s.insert other else s.remove other

theorem contains_insert (s flags : FlagSet kind) : (s.insert flags).contains flags = true := by
  have absorbed : (s.bits ||| flags.bits) &&& flags.bits = flags.bits := by
    ext i
    simp +contextual
  simpa [contains, insert, union] using absorbed

theorem isEmpty_of_contains {s flags : FlagSet kind} (some : flags.isEmpty = false)
    (h : s.contains flags = true) : s.isEmpty = false := by
  apply Bool.eq_false_iff.mpr
  intro empty
  have none : s.bits = 0 := by simpa only [isEmpty, beq_iff_eq] using empty
  have held : s.bits &&& flags.bits = flags.bits := by simpa only [contains, beq_iff_eq] using h
  have cleared : 0 &&& flags.bits = 0 := BitVec.zero_and
  rw [none, cleared] at held
  rw [isEmpty, ← held] at some
  cases some

theorem contains_remove (s flags : FlagSet kind) :
    (s.remove flags).contains flags = flags.isEmpty := by
  have cleared : s.bits &&& ~~~flags.bits &&& flags.bits = 0 := by
    ext i
    simp
  simp only [contains, remove, inter, complement, cleared, isEmpty]
  exact Bool.beq_comm ..

theorem insert_remove {s flags : FlagSet kind} (h : s.contains flags = true) :
    (s.remove flags).insert flags = s := by
  have held : s.bits &&& flags.bits = flags.bits := by simpa [contains] using h
  have restored : s.bits &&& ~~~flags.bits ||| flags.bits = s.bits := by
    ext i bound
    have bit : (s.bits &&& flags.bits)[i] = flags.bits[i] := by rw [held]
    rw [BitVec.getElem_and] at bit
    rw [BitVec.getElem_or, BitVec.getElem_and, BitVec.getElem_not]
    revert bit
    cases s.bits[i] <;> cases flags.bits[i] <;> simp
  cases s
  simpa [remove, insert, union, inter, complement] using restored

def ofBit (i : Nat) : FlagSet kind := ⟨BitVec.twoPow kind.width i⟩

theorem contains_ofBit (s : FlagSet kind) {i : Nat} (h : i < kind.width) :
    s.contains (ofBit i) = s.bits.getLsbD i := by
  simp only [contains, ofBit, BitVec.and_twoPow]
  cases s.bits.getLsbD i with
  | true => simp
  | false =>
    have bit : (BitVec.twoPow kind.width i).getLsbD i = true := by simp [h]
    have unequal : (0 : BitVec kind.width) ≠ BitVec.twoPow kind.width i := by
      intro same
      simp [← same] at bit
    simpa using unequal

theorem getLsbD_ofBit {i : Nat} (h : i < kind.width) (j : Nat) :
    (ofBit i : FlagSet kind).bits.getLsbD j = (j == i) := by
  rw [ofBit, BitVec.getLsbD_twoPow]
  by_cases same : j = i
  · simp [same, h]
  · simp [same, Ne.symm same]

theorem getLsbD_insert (s other : FlagSet kind) (j : Nat) :
    (s.insert other).bits.getLsbD j = (s.bits.getLsbD j || other.bits.getLsbD j) :=
  BitVec.getLsbD_or ..

theorem getLsbD_set_ofBit (s : FlagSet kind) {i : Nat} (h : i < kind.width) (present : Bool)
    (j : Nat) :
    (s.set (ofBit i) present).bits.getLsbD j = if j = i then present else s.bits.getLsbD j := by
  cases present with
  | true =>
    simp only [set, ↓reduceIte, getLsbD_insert, getLsbD_ofBit h]
    by_cases same : j = i <;> simp [same]
  | false =>
    change (s.bits &&& ~~~BitVec.twoPow kind.width i).getLsbD j = _
    by_cases same : j = i
    · simp [same, h]
    · by_cases inside : j < kind.width
      · simp [same, inside]
      · simp [same, BitVec.getLsbD_of_ge _ j (Nat.le_of_not_lt inside)]

/-- Splits a word into the flags it spells, in declaration order, and the bits no flag claims. -/
def spelled {width : Nat} : List (Flag width) → BitVec width → List (Flag width) × BitVec width
  | [], rest => ([], rest)
  | flag :: flags, rest =>
    if flag.mask ≠ 0 ∧ rest &&& flag.mask = flag.mask then
      let tail := spelled flags (rest &&& ~~~flag.mask)
      (flag :: tail.1, tail.2)
    else spelled flags rest

def unnamedText {width : Nat} (rest : BitVec width) : String :=
  "UNKNOWN(0x" ++ String.ofList (Nat.toDigits 16 rest.toNat) ++ ")"

def words (s : FlagSet kind) : List String :=
  let parts := spelled kind.flags s.bits
  let names := parts.1.map Flag.name
  let all := if parts.2 = 0 then names else names ++ [unnamedText parts.2]
  if all.isEmpty then ["EMPTY"] else all

def text (s : FlagSet kind) : String :=
  kind.name ++ " \x7b " ++ " | ".intercalate s.words ++ " \x7d"

end FlagSet

/-- One request to a flag set: the first group changes it, the second only asks. -/
inductive FlagRequest (kind : FlagKind) where
  | insert (flags : FlagSet kind)
  | remove (flags : FlagSet kind)
  | set (flags : FlagSet kind) (present : Bool)
  | union (flags : FlagSet kind)
  | inter (flags : FlagSet kind)
  | symmDiff (flags : FlagSet kind)
  | complement
  | contains (flags : FlagSet kind)
  | intersects (flags : FlagSet kind)
  | equals (flags : FlagSet kind)

def FlagRequest.run {kind : FlagKind} (s : FlagSet kind) :
    FlagRequest kind → FlagSet kind × Option Bool
  | insert flags => (s.insert flags, none)
  | remove flags => (s.remove flags, none)
  | set flags present => (s.set flags present, none)
  | union flags => (s.union flags, none)
  | inter flags => (s.inter flags, none)
  | symmDiff flags => (s.symmDiff flags, none)
  | complement => (s.complement, none)
  | contains flags => (s, some (s.contains flags))
  | intersects flags => (s, some (s.intersects flags))
  | equals flags => (s, some (s == flags))

section Masks
variable {width : Nat} {word mask : BitVec width}

theorem and_eq_right_iff :
    word &&& mask = mask ↔ ∀ i, mask.getLsbD i = true → word.getLsbD i = true := by
  constructor
  · intro held i bit
    rw [← held, BitVec.getLsbD_and, Bool.and_eq_true] at bit
    exact bit.1
  · intro inside
    apply BitVec.eq_of_getLsbD_eq
    intro i _
    rw [BitVec.getLsbD_and]
    cases bit : mask.getLsbD i with
    | true => rw [inside i bit, Bool.and_self]
    | false => exact Bool.and_false _

theorem and_eq_zero_iff :
    word &&& mask = 0 ↔ ∀ i, word.getLsbD i = true → mask.getLsbD i = false := by
  constructor
  · intro apart i bit
    have none : (word &&& mask).getLsbD i = false := by
      rw [apart]
      exact BitVec.getLsbD_zero
    rwa [BitVec.getLsbD_and, bit, Bool.true_and] at none
  · intro apart
    apply BitVec.eq_of_getLsbD_eq
    intro i _
    rw [BitVec.getLsbD_and, show (0 : BitVec width).getLsbD i = false from BitVec.getLsbD_zero]
    cases bit : word.getLsbD i with
    | true => rw [apart i bit, Bool.and_false]
    | false => exact Bool.false_and _

end Masks

namespace FlagSet
variable {kind : FlagKind}

theorem eq_of_getLsbD {s t : FlagSet kind} (same : ∀ i, s.bits.getLsbD i = t.bits.getLsbD i) :
    s = t := by
  obtain ⟨bits⟩ := s
  exact congrArg FlagSet.mk (BitVec.eq_of_getLsbD_eq fun i _ => same i)

theorem getLsbD_union (s other : FlagSet kind) (i : Nat) :
    (s.union other).bits.getLsbD i = (s.bits.getLsbD i || other.bits.getLsbD i) :=
  BitVec.getLsbD_or ..

theorem getLsbD_unions (sets : List (FlagSet kind)) (start : FlagSet kind) (i : Nat) :
    (sets.foldl .union start).bits.getLsbD i =
      (start.bits.getLsbD i || sets.any fun set => set.bits.getLsbD i) := by
  induction sets generalizing start with
  | nil => exact (Bool.or_false _).symm
  | cons set sets ih =>
    rw [List.foldl_cons, ih, getLsbD_union, List.any_cons, Bool.or_assoc]

theorem getLsbD_empty (i : Nat) : (empty : FlagSet kind).bits.getLsbD i = false :=
  BitVec.getLsbD_zero

theorem unions_append (sets others : List (FlagSet kind)) :
    (sets ++ others).foldl .union empty =
      (sets.foldl .union empty).union (others.foldl .union empty) := by
  apply eq_of_getLsbD
  intro i
  simp only [getLsbD_union, getLsbD_unions, getLsbD_empty, Bool.false_or, List.any_append]

/-- A single flag is in a union of sets just if one of the sets has it. -/
theorem contains_ofBit_unions (sets : List (FlagSet kind)) {i : Nat} (inside : i < kind.width) :
    (sets.foldl .union empty).contains (ofBit i) = sets.any (·.contains (ofBit i)) := by
  simp only [contains_ofBit _ inside, getLsbD_unions, getLsbD_empty, Bool.false_or]

end FlagSet

end DrawSubmission
