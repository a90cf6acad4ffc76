import DrawSubmission.Buffer
import DrawSubmission.Error
set_option autoImplicit false

namespace DrawSubmission

inductive ComponentType where
  | byte
  | unsignedByte
  | short
  | unsignedShort
  | float
deriving DecidableEq

namespace ComponentType

def size : ComponentType → Nat
  | byte | unsignedByte => 1
  | short | unsignedShort => 2
  | float => 4

def name : ComponentType → String
  | byte => "Byte"
  | unsignedByte => "UnsignedByte"
  | short => "Short"
  | unsignedShort => "UnsignedShort"
  | float => "Float"

end ComponentType

inductive Role where
  | position
  | color
  | normal
  | textureCoord (unit : Fin 32)
  | custom
deriving DecidableEq

namespace Role

def defaultUnit : Fin 32 := ⟨0, by decide⟩

def label : Role → String
  | position => "position"
  | color => "color"
  | normal => "normal"
  | textureCoord _ => "texture coordinate"
  | custom => "custom"

def accepts : Role → ComponentType → Bool
  | position, type | textureCoord _, type => type == .short || type == .float
  | normal, type => type == .byte || type == .short || type == .float
  | color, _ | custom, _ => true

def reservedPrefix : List Char := "strand_".toList

def positionName : String := "strand_position_in"

def isDigit (c : Char) : Bool := '0' ≤ c && c ≤ '9'

def decimalValue (digits : List Char) : Nat :=
  digits.foldl (fun value digit => 10 * value + (digit.toNat - '0'.toNat)) 0

/-- Reads what follows `tex_coord`: nothing, or a unit, either with one trailing `_in`. -/
def resolveUnit (name : String) (rest : List Char) : Except AttributeError Role :=
  let digits := ("_in".toList.isSuffixOf? rest).getD rest
  if digits.isEmpty then .ok (.textureCoord defaultUnit)
  else if !digits.all isDigit then .error (.malformedTextureUnit name)
  else
    let unit := decimalValue digits
    if h : unit < 32 then .ok (.textureCoord ⟨unit, h⟩)
    else if unit < UInt32.size then .error (.textureUnitOutOfRange name (.ofNat unit))
    else .error (.malformedTextureUnit name)

def requireCount (name : String) (components : UInt8) (role : Role) (allowed : List UInt8)
    (expected : String) : Except AttributeError Role :=
  if allowed.contains components then .ok role
  else .error (.componentCount name role.label components expected)

def resolveReserved (name : String) (components : UInt8) (rest : List Char) :
    Except AttributeError Role :=
  if rest = "position_in".toList then
    requireCount name components .position [2, 3, 4] "2, 3 or 4"
  else if rest = "color_in".toList then requireCount name components .color [3, 4] "3 or 4"
  else if rest = "normal_in".toList ∨ rest = "normal".toList then
    requireCount name components .normal [3] "3"
  else
    match "tex_coord".toList.isPrefixOf? rest with
    | some unit => resolveUnit name unit
    | none => .error (.unknownReservedName name)

def resolve (name : String) (components : UInt8) : Except AttributeError Role :=
  match reservedPrefix.isPrefixOf? name.toList with
  | some rest => resolveReserved name components rest
  | none => .ok .custom

/-! ### The position channel has a single name -/

theorem append_of_isPrefixOf? {xs ys rest : List Char} (h : xs.isPrefixOf? ys = some rest) :
    xs ++ rest = ys := by
  induction xs generalizing ys with
  | nil => exact (Option.some.inj h).symm
  | cons x xs ih =>
    cases ys with
    | nil => cases h
    | cons y ys =>
      change (if x == y then xs.isPrefixOf? ys else none) = some rest at h
      split at h
      · rename_i same
        rw [List.cons_append, ih h, eq_of_beq same]
      · cases h

section Position
variable {name : String} {components : UInt8} {role : Role}

theorem eq_of_requireCount {channel : Role} {allowed : List UInt8} {expected : String}
    (h : requireCount name components channel allowed expected = .ok role) : role = channel := by
  unfold requireCount at h
  split at h
  · exact (Except.ok.inj h).symm
  · cases h

theorem ne_position_of_resolveUnit {rest : List Char} (h : resolveUnit name rest = .ok role) :
    role ≠ .position := by
  simp only [resolveUnit] at h
  split at h
  · cases h
    exact nofun
  split at h
  · cases h
  split at h
  · cases h
    exact nofun
  · split at h <;> cases h

theorem eq_positionName (h : resolve name components = .ok .position) : name = positionName := by
  unfold resolve at h
  split at h
  · rename_i rest cut
    rw [resolveReserved] at h
    split at h
    · rename_i spelled
      apply String.toList_inj.mp
      rw [← append_of_isPrefixOf? cut, spelled]
      rfl
    split at h
    · cases eq_of_requireCount h
    split at h
    · cases eq_of_requireCount h
    split at h
    · exact absurd rfl (ne_position_of_resolveUnit h)
    · cases h
  · cases h

theorem resolve_positionName : resolve positionName components =
    requireCount positionName components .position [2, 3, 4] "2, 3 or 4" :=
  rfl

theorem resolve_eq_position_iff (h : resolve name components = .ok role) :
    role = .position ↔ name = positionName := by
  constructor
  · rintro rfl
    exact eq_positionName h
  · rintro rfl
    exact eq_of_requireCount (resolve_positionName ▸ h)

end Position

end Role

structure AttributeId where
  index : Nat
deriving DecidableEq

structure DiagnosticsId where
  index : Nat
deriving DecidableEq, Inhabited

/-- How an attribute is laid out in its buffer; a stride of zero means tightly packed. -/
structure VertexLayout where
  components : UInt8
  type : ComponentType
  stride : UInt64
  offset : UInt64
deriving DecidableEq

namespace VertexLayout

def effectiveStride (layout : VertexLayout) : UInt64 :=
  if layout.stride = 0 then .ofNat (layout.components.toNat * layout.type.size) else layout.stride

end VertexLayout

structure VertexAttribute where
  name : String
  role : Role
  layout : VertexLayout
  normalized : Bool
  pins : Nat
  buffer : BufferId
  diagnostics : DiagnosticsId
  /-- How many guards let their holders look at the buffer. -/
  borrows : Nat := 0
  named : role = .position ↔ name = Role.positionName
deriving DecidableEq

namespace VertexAttribute

/-- An unpinned attribute; colors start out normalized. -/
def create (diagnostics : DiagnosticsId) (buffer : BufferId) (name : String)
    (layout : VertexLayout) : Except AttributeError VertexAttribute :=
  match resolved : Role.resolve name layout.components with
  | .ok role =>
    .ok { name, role, layout, normalized := role == .color, pins := 0, buffer, diagnostics,
          named := Role.resolve_eq_position_iff resolved }
  | .error error => .error error

theorem of_create {diagnostics : DiagnosticsId} {buffer : BufferId} {name : String}
    {layout : VertexLayout} {a : VertexAttribute}
    (h : create diagnostics buffer name layout = .ok a) :
    a.diagnostics = diagnostics ∧ a.buffer = buffer ∧ a.pins = 0 := by
  unfold create at h
  split at h
  · cases h
    exact ⟨rfl, rfl, rfl⟩
  · cases h

instance : Inhabited VertexAttribute :=
  ⟨{ name := "", role := .custom, layout := ⟨0, .byte, 0, 0⟩, normalized := false, pins := 0,
     buffer := ⟨0⟩, diagnostics := ⟨0⟩, named := by decide }⟩

def readable (a : VertexAttribute) : Bool := a.role.accepts a.layout.type

def textureUnit (a : VertexAttribute) : Fin 32 :=
  match a.role with
  | .textureCoord unit => unit
  | _ => Role.defaultUnit

end VertexAttribute

end DrawSubmission
