set_option autoImplicit false

namespace DrawSubmission

inductive Overflow where
  | add
  | multiply
  /-- One more on a counter. -/
  | count
deriving DecidableEq

namespace Overflow

def message : Overflow → String
  | add => "attempt to add with overflow"
  | multiply => "attempt to multiply with overflow"
  | count => "attempt to add with overflow"

def check (operation : Overflow) (exact : Nat) : Except Overflow UInt64 :=
  if exact < UInt64.size then .ok (.ofNat exact) else .error operation

theorem check_eq_ok_iff {operation : Overflow} {exact : Nat} {word : UInt64} :
    operation.check exact = .ok word ↔ word.toNat = exact := by
  unfold check
  split
  · rename_i small
    constructor
    · intro h
      cases h
      exact UInt64.toNat_ofNat_of_lt small
    · intro h
      subst h
      simp
  · rename_i large
    constructor
    · intro h
      cases h
    · intro h
      exact absurd (h ▸ word.toNat_lt_size) large

theorem check_eq_error_iff {operation cause : Overflow} {exact : Nat} :
    operation.check exact = .error cause ↔ operation = cause ∧ UInt64.size ≤ exact := by
  unfold check
  split
  · rename_i small
    constructor
    · intro h
      cases h
    · exact fun h => absurd small (Nat.not_lt.mpr h.2)
  · rename_i large
    rw [Except.error.injEq]
    exact ⟨fun same => ⟨same, Nat.le_of_not_lt large⟩, And.left⟩

end Overflow

def largestCount : Nat := 4294967295

/-- A counter that cannot be raised. -/
abbrev Full (count : Nat) : Prop := largestCount ≤ count

def addChecked (a b : UInt64) : Except Overflow UInt64 := Overflow.add.check (a.toNat + b.toNat)

def mulChecked (a b : UInt64) : Except Overflow UInt64 :=
  Overflow.multiply.check (a.toNat * b.toNat)

theorem addChecked_eq_ok_iff {a b c : UInt64} :
    addChecked a b = .ok c ↔ c.toNat = a.toNat + b.toNat :=
  Overflow.check_eq_ok_iff

theorem mulChecked_eq_ok_iff {a b c : UInt64} :
    mulChecked a b = .ok c ↔ c.toNat = a.toNat * b.toNat :=
  Overflow.check_eq_ok_iff

inductive AttributeError where
  | componentCount (name : String) (role : String) (components : UInt8) (expected : String)
  | malformedTextureUnit (name : String)
  | textureUnitOutOfRange (name : String) (unit : UInt32)
  | unknownReservedName (name : String)
deriving DecidableEq

structure PinUnderflow where
  holder : String
deriving DecidableEq

inductive ResourceError where
  | mapFailed (reason : String)
  | outOfBounds (offset : UInt64) (size : Nat)
deriving DecidableEq

inductive SubmissionError where
  | invalidAttribute (error : AttributeError)
  | precondition (error : PinUnderflow)
  | resource (error : ResourceError)
deriving DecidableEq

def AttributeError.message : AttributeError → String
  | componentCount name role components expected =>
    "Attribute '" ++ name ++ "' is a " ++ role ++ " channel with " ++ toString components.toNat
      ++ " components, expected " ++ expected
  | malformedTextureUnit name =>
    "Texture coordinate attribute '" ++ name ++ "' should either be named \"strand_tex_coord_in\" "
      ++ "or carry a unit index like \"strand_tex_coord2_in\""
  | textureUnitOutOfRange name unit =>
    "Texture coordinate attribute '" ++ name ++ "' uses unit " ++ toString unit.toNat
      ++ ", which is out of range"
  | unknownReservedName name => "Unknown reserved attribute name '" ++ name ++ "'"

def PinUnderflow.message (error : PinUnderflow) : String :=
  "Immutable reference on '" ++ error.holder ++ "' released while not held"

def ResourceError.message : ResourceError → String
  | mapFailed reason => "Failed to map buffer: " ++ reason
  | outOfBounds offset size =>
    "Buffer access at byte " ++ toString offset.toNat ++ " is out of bounds for a mapping of "
      ++ toString size ++ " bytes"

namespace SubmissionError

def message : SubmissionError → String
  | invalidAttribute error => error.message
  | precondition error => error.message
  | resource error => error.message

def headedMessage : SubmissionError → String
  | invalidAttribute error => "Invalid vertex attribute: " ++ error.message
  | precondition error => "Precondition violated: " ++ error.message
  | resource error => "Resource error: " ++ error.message

end SubmissionError

end DrawSubmission
