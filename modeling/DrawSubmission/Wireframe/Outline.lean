import DrawSubmission.Binary32
import DrawSubmission.Channels
import DrawSubmission.Scene.Basic
set_option autoImplicit false

/-!
# Outlines read back from buffers

The end points of the edges of a draw, fetched from the mapped vertex and index buffers: edge by
edge, start before end, index before vertex. The first access that fails decides the outcome.
Whatever was mapped is unmapped on every exit but that of a mapping that cannot be counted.
-/
namespace DrawSubmission

/-- A position of the overlay; components that an attribute lacks are zero. -/
structure Vertex3 where
  x : Binary32
  y : Binary32
  z : Binary32
deriving DecidableEq

namespace Vertex3

def toBytes (v : Vertex3) : List UInt8 := v.x.toBytes ++ v.y.toBytes ++ v.z.toBytes

def size : Nat := 12

def ofBytes (bytes : List UInt8) : Vertex3 :=
  let component (k : Nat) := Binary32.ofBytes ((bytes.drop (4 * k)).take 4)
  ⟨component 0, component 1, component 2⟩

end Vertex3

structure Segment where
  start : Vertex3
  finish : Vertex3
deriving DecidableEq

def Segment.vertices (segment : Segment) : List Vertex3 := [segment.start, segment.finish]

inductive FetchError where
  | overflow (cause : Overflow)
  | resource (error : ResourceError)
deriving DecidableEq

/-- The vertex numbers of a draw, either consecutive or read from mapped indices. -/
structure IndexSource where
  first : UInt32
  indices : Option (Indices × Mapping)
deriving DecidableEq

def liftOverflow {α : Type} : Except Overflow α → Except FetchError α
  | .ok a => .ok a
  | .error cause => .error (.overflow cause)

def liftResource {α : Type} : Except ResourceError α → Except FetchError α
  | .ok a => .ok a
  | .error error => .error (.resource error)

namespace IndexSource

def vertexAt (source : IndexSource) (position : Nat) : Except FetchError UInt64 := do
  let place : UInt64 := .ofNat (source.first.toNat + position)
  match source.indices with
  | none => return place
  | some (indices, mapping) =>
    let skipped ← liftOverflow (mulChecked place (.ofNat indices.format.size))
    let offset ← liftOverflow (addChecked indices.offset skipped)
    let bytes ← liftResource (mapping.read offset indices.format.size)
    return .ofNat (LittleEndian.decode bytes)

end IndexSource

def VertexLayout.fetch (layout : VertexLayout) (mapping : Mapping) (vertex : UInt64) :
    Except FetchError Vertex3 := do
  let skipped ← liftOverflow (mulChecked vertex layout.effectiveStride)
  let offset ← liftOverflow (addChecked layout.offset skipped)
  let bytes ← liftResource (mapping.read offset (4 * min layout.components.toNat 3))
  return .ofBytes bytes

def VertexLayout.fetchEdge (layout : VertexLayout) (mapping : Mapping) (source : IndexSource)
    (edge : Edge) : Except FetchError Segment := do
  let start ← layout.fetch mapping (← source.vertexAt edge.1)
  let finish ← layout.fetch mapping (← source.vertexAt edge.2)
  return ⟨start, finish⟩

/-- Runs a body on a mapping for reading; the buffer is unmapped with the body. A mapping that
cannot be counted is not made, so nothing unmaps the buffer then. -/
def withMapping {α : Type} (id : BufferId) (body : Mapping → SceneM (Except ResourceError α)) :
    SceneM (Except ResourceError α) := do
  match ← mapBuffer id .read with
  | .error error => return .error error
  | .ok mapping => (body mapping).thenAlways fun s => s.unmap id

def settle {α : Type} : Except FetchError α → SceneM (Except ResourceError α)
  | .ok a => pure (.ok a)
  | .error (.resource error) => pure (.error error)
  | .error (.overflow cause) => throw cause

/-- The outline of the faces that a draw from a position attribute covers, a segment for each edge.
`first` counts vertices, or indices where there are any. Positions that are not floats have no
outline. -/
def reconstruct (position : AttributeId) (topology : Topology) (first count : UInt32)
    (indices : Option Indices) : SceneM (Except ResourceError (List Segment)) := do
  let a := (← get).attr position
  let edges := topology.wireEdges count.toNat
  if edges.isEmpty then return .ok []
  else if a.layout.type ≠ .float then
    modify fun s => s.note (.wireframeUnsupported a.name a.layout.type)
    return .ok []
  else
    withMapping a.buffer fun vertices =>
      match indices with
      | none => settle (edges.mapM (a.layout.fetchEdge vertices ⟨first, none⟩))
      | some indices =>
        withMapping indices.buffer fun mapped =>
          settle (edges.mapM (a.layout.fetchEdge vertices ⟨first, some (indices, mapped)⟩))

/-- A draw that may only be made while draws are not outlined. -/
abbrev NestedDraw :=
  (s : Scene) → s.outlinesDraws = false → DrawRequest → EStateM.Result Overflow Scene Unit

def drawLines : NestedDraw := fun s _ lines => drawOnce lines {} s

def Scene.wirePipeline (s : Scene) : Pipeline × Scene :=
  match s.context.wirePipeline with
  | some pipeline => (pipeline, s)
  | none =>
    let (made, s) := s.createPipeline
    let pipeline := { made with color := .green }
    (pipeline, { s with context := { s.context with wirePipeline := some pipeline } })

def outlineLayout : VertexLayout := ⟨3, .float, .ofNat Vertex3.size, 0⟩

def outlineAttribute (buffer : BufferId) (diagnostics : DiagnosticsId) : VertexAttribute :=
  { name := Role.positionName, role := .position, layout := outlineLayout, normalized := false,
    pins := 0, buffer, diagnostics, named := by decide }

def Scene.addOutline (s : Scene) (outline : List Segment) : AttributeId × Scene :=
  let vertices := outline.flatMap Segment.vertices
  let (buffer, s) := s.createVertexArray (vertices.flatMap Vertex3.toBytes)
  s.addAttr (outlineAttribute buffer s.context.diagnostics)

def Scene.stageOutline (s : Scene) (outline : List Segment) : AttributeId × Scene :=
  let (lines, s) := s.addOutline outline
  let (pipeline, s) := s.wirePipeline
  (lines, s.pushSource pipeline)

def lineDraw (outline : List Segment) (lines : AttributeId) : DrawRequest :=
  ⟨.lineList, 0, .ofNat (2 * outline.length), [lines], none⟩

/-- Draws an outline with the green pipeline as the source. An overflow of the nested draw would
leave the flag off and the green pipeline pushed. -/
def drawOutline (nested : NestedDraw) (outline : List Segment) : SceneM Unit := fun s =>
  let (lines, s) := s.stageOutline outline
  let request := lineDraw outline lines
  match nested (s.setOutlines false) (s.outlinesDraws_setOutlines false) request with
  | .ok () s => .ok () (s.setOutlines true).popSource
  | .error overflow s => .error overflow s

/-- The attribute that an outline follows: the first one with the name of positions. -/
def Scene.outlined? (s : Scene) (attributes : List AttributeId) : Option AttributeId :=
  attributes.find? fun id => (s.attr id).name == Role.positionName

theorem Scene.outlined?_eq (s : Scene) (attributes : List AttributeId) :
    s.outlined? attributes = attributes.find? fun id => (s.attr id).role == .position := by
  have same (id : AttributeId) : ((s.attr id).name == Role.positionName) =
      ((s.attr id).role == .position) := by
    rw [Bool.eq_iff_iff, beq_iff_eq, beq_iff_eq, (s.attr id).named]
  simp only [Scene.outlined?, same]

/-- The outline of a completed draw; one that cannot be read is left out with a warning. -/
def overlay (nested : NestedDraw) (request : DrawRequest) : SceneM Unit := do
  match (← get).outlined? request.attributes with
  | none => pure ()
  | some position =>
    match ← reconstruct position request.topology request.first request.count request.indices with
    | .error error => modify fun s => s.note (.overlaySkipped error)
    | .ok [] => pure ()
    | .ok outline => drawOutline nested outline

end DrawSubmission
