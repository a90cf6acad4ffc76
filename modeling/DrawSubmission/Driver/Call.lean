import DrawSubmission.Attribute
import DrawSubmission.Buffer
import DrawSubmission.Pipeline
import DrawSubmission.Settings
import DrawSubmission.Topology
set_option autoImplicit false

namespace DrawSubmission

def enableFlagKind : FlagKind :=
  ⟨"EnableFlags", 32, [⟨"VERTEX_ARRAY", 1⟩, ⟨"COLOR_ARRAY", 2⟩, ⟨"BACKFACE_CULLING", 4⟩]⟩

abbrev EnableFlags := FlagSet enableFlagKind

namespace EnableFlags

def vertexArray : EnableFlags := ⟨1⟩
def colorArray : EnableFlags := ⟨2⟩
def backfaceCulling : EnableFlags := ⟨4⟩

def capabilities : List EnableFlags := [vertexArray, colorArray, backfaceCulling]

end EnableFlags

structure Pointer where
  buffer : BufferId
  components : UInt8
  type : ComponentType
  stride : UInt64
  offset : UInt64
deriving DecidableEq

def VertexAttribute.pointer (a : VertexAttribute) (base : UInt64) : Except Overflow Pointer := do
  let offset ← addChecked base a.layout.offset
  return ⟨a.buffer, a.layout.components, a.layout.type, a.layout.stride, offset⟩

theorem VertexAttribute.pointer_error {a : VertexAttribute} {base : UInt64} {cause : Overflow}
    (h : a.pointer base = .error cause) : cause = .add := by
  unfold pointer at h
  cases sum : addChecked base a.layout.offset with
  | error earlier =>
    rw [sum] at h
    cases h
    exact (Overflow.check_eq_error_iff.mp sum).1.symm
  | ok offset =>
    rw [sum] at h
    cases h

/-- The pins and bindings that hold at one moment, by ascending buffer, and the pins of all
attributes. -/
structure Moment where
  pins : List (BufferId × Nat)
  bound : List (BufferId × BindTarget)
  attributePins : List Nat
deriving DecidableEq

structure PipelineView where
  label : String
  skipColor : Bool
  blends : Bool
  color : LinearRgba
  overrides : Option FlushOptions
  legacy : Option LegacyState
deriving DecidableEq

def Pipeline.view (pipeline : Pipeline) (skipColor : Bool) : PipelineView :=
  { label := pipeline.label, skipColor, blends := pipeline.blends, color := pipeline.color,
    overrides := pipeline.overrides, legacy := pipeline.legacy }

inductive DriverCall where
  | flushJournal
  | flushFramebufferState
  | createPipeline
  | setVertexPointer (pointer : Pointer)
  | setColorPointer (pointer : Pointer)
  | setNormalArrayEnabled (enabled : Bool)
  | setNormalPointer (pointer : Pointer)
  | setTexCoordArrayEnabled (unit : Fin 32) (enabled : Bool)
  | setTexCoordPointer (unit : Fin 32) (pointer : Pointer)
  | setGenericArrayEnabled (index : Nat) (enabled : Bool)
  | setGenericPointer (index : Nat) (pointer : Pointer) (normalized : Bool)
  | flushPipeline (view : PipelineView)
  | setCapability (capability : EnableFlags) (enabled : Bool)
  | setFrontFace (face : FrontFace)
  | drawArrays (topology : Topology) (first count : UInt32) (during : Moment)
  | drawElements (topology : Topology) (count : UInt32) (format : IndexFormat) (buffer : BufferId)
      (offset : UInt64) (during : Moment)
  | createVertexArray (buffer : BufferId) (data : List UInt8)
deriving DecidableEq

namespace DriverCall

def isDraw : DriverCall → Bool
  | drawArrays .. | drawElements .. => true
  | _ => false

def isFlush : DriverCall → Bool
  | flushPipeline _ => true
  | _ => false

def isPointer : DriverCall → Bool
  | setVertexPointer _ | setColorPointer _ | setNormalPointer _ | setTexCoordPointer .. => true
  | setGenericPointer .. => true
  | _ => false

end DriverCall

end DrawSubmission
