import DrawSubmission.Error
set_option autoImplicit false

/-!
# Byte buffers

A buffer holds bytes that never change, and remembers what it is bound to, whether it is mapped, how
many pins it carries and how often it was bound and mapped. Mappings are exclusive and read-only.
Below, pins, bindings and mappings are counted without a limit; whoever counts one in a scene looks
first whether the counter is full.
-/
namespace DrawSubmission

structure BufferId where
  index : Nat
deriving DecidableEq

namespace BufferId

def number (id : BufferId) : Nat := id.index + 1

def text (id : BufferId) : String := "BufferId(" ++ toString id.number ++ ")"

end BufferId

inductive BindTarget where
  | vertexArray
  | indexArray
deriving DecidableEq

def BindTarget.name : BindTarget → String
  | vertexArray => "VertexArray"
  | indexArray => "IndexArray"

inductive MapAccess where
  | read
  | write
  | readWrite
deriving DecidableEq

def MapAccess.name : MapAccess → String
  | read => "Read"
  | write => "Write"
  | readWrite => "ReadWrite"

inductive Storage where
  | device (base : UInt64)
  | client
deriving DecidableEq

inductive BufferOrigin where
  | caller
  | driver
deriving DecidableEq

structure Buffer where
  contents : Array UInt8 := #[]
  storage : Storage := .device 0
  origin : BufferOrigin := .caller
  bound : Option BindTarget := none
  mapped : Bool := false
  pins : Nat := 0
  bindCount : Nat := 0
  mapCount : Nat := 0
deriving DecidableEq, Inhabited

structure Mapping where
  buffer : BufferId
  bytes : Array UInt8
deriving DecidableEq

namespace Buffer

/-- The nominal address of bytes in client memory. It is not zero, empty storage has the least
such address, and offsets are reported relative to it. -/
def clientAddress (contents : Array UInt8) : UInt64 :=
  if contents.isEmpty then 1 else 0x600000000000

/-- The address that offsets into the bound buffer count from. -/
def base (buffer : Buffer) : UInt64 :=
  match buffer.storage with
  | .device address => address
  | .client => clientAddress buffer.contents

/-- The buffer without its binding and without the counts of past bindings and mappings. -/
def kept (buffer : Buffer) : Buffer := { buffer with bound := none, bindCount := 0, mapCount := 0 }

def attach (buffer : Buffer) (target : BindTarget) : Buffer := { buffer with bound := some target }

def countBinding (buffer : Buffer) : Buffer := { buffer with bindCount := buffer.bindCount + 1 }

def unbind (buffer : Buffer) : Buffer := { buffer with bound := none }

def pin (buffer : Buffer) : Buffer := { buffer with pins := buffer.pins + 1 }

def unpin (id : BufferId) (buffer : Buffer) : Except PinUnderflow Buffer :=
  match buffer.pins with
  | 0 => .error ⟨"buffer " ++ toString id.number⟩
  | pins + 1 => .ok { buffer with pins }

def mark (buffer : Buffer) : Buffer := { buffer with mapped := true }

/-- Maps the buffer; only an unmapped buffer can be, and only for reading. -/
def map (id : BufferId) (access : MapAccess) (buffer : Buffer) : Except ResourceError Buffer :=
  if access ≠ .read then
    .error (.mapFailed (access.name ++ " mappings are not supported by host buffers"))
  else if buffer.mapped then .error (.mapFailed ("buffer " ++ id.text ++ " is already mapped"))
  else .ok { buffer with mapped := true, mapCount := buffer.mapCount + 1 }

theorem map_eq_ok {id : BufferId} {access : MapAccess} {buffer mapped : Buffer}
    (h : buffer.map id access = .ok mapped) :
    buffer.mapped = false ∧
      mapped = { buffer with mapped := true, mapCount := buffer.mapCount + 1 } := by
  unfold map at h
  split at h
  · cases h
  split at h
  · cases h
  · rename_i free
    exact ⟨eq_false_of_ne_true free, (Except.ok.inj h).symm⟩

def unmap (buffer : Buffer) : Buffer := { buffer with mapped := false }

end Buffer

namespace Mapping

def read (mapping : Mapping) (offset : UInt64) (count : Nat) : Except ResourceError (List UInt8) :=
  if offset.toNat + count ≤ mapping.bytes.size then
    .ok (mapping.bytes.extract offset.toNat (offset.toNat + count)).toList
  else .error (.outOfBounds offset mapping.bytes.size)

def text (mapping : Mapping) : String :=
  "MappedBuffer \x7b buffer: " ++ mapping.buffer.text ++ ", len: " ++ toString mapping.bytes.size
    ++ " \x7d"

end Mapping

inductive IndexFormat where
  | uint8
  | uint16
  | uint32
deriving DecidableEq

namespace IndexFormat

def size : IndexFormat → Nat
  | uint8 => 1
  | uint16 => 2
  | uint32 => 4

def name : IndexFormat → String
  | uint8 => "Uint8"
  | uint16 => "Uint16"
  | uint32 => "Uint32"

def byteOffset (format : IndexFormat) (base : UInt64) (first : UInt32) :
    Except Overflow UInt64 := do
  let skipped ← mulChecked (.ofNat format.size) first.toUInt64
  addChecked base skipped

end IndexFormat

structure Indices where
  buffer : BufferId
  format : IndexFormat
  offset : UInt64
deriving DecidableEq

def Indices.address (indices : Indices) (base : UInt64) (first : UInt32) :
    Except Overflow UInt64 := do
  indices.format.byteOffset (← addChecked base indices.offset) first

end DrawSubmission
