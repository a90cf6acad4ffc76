import DrawSubmission.Draw
set_option autoImplicit false

namespace DrawSubmission.Session

inductive FlagSource where
  | bits (flags : DebugFlags)
  | names (list : String)

structure SettingsChange where
  debugFlags : Option FlagSource := none
  backfaceCulling : Option Bool := none
  frontFace : Option FrontFace := none
  legacy : Option (Option LegacyState) := none

inductive BufferSource where
  | floats (values : List Binary32)
  | shorts (values : List UInt16)
  | words (values : List UInt32)
  | zeros (count : Nat)
  | bytes (values : List UInt8)

structure PipelineQuery where
  positions : List UInt32 := []
  indices : List UInt32 := []
  /-- The visit of the layers ends with this one, counted from one. -/
  stopAfter : Option Nat := none

/-- What a new pipeline starts from: nothing, or another pipeline with its layers. -/
inductive PipelineBase where
  | fresh (blend : Option BlendMode) (color : Option LinearRgba)
  | copyOf (id : String)

inductive TextureCall where
  | leaveAtlas
  | prepareMipmaps
  | none

/-- A validation that starts somewhere and visits given layer indices. -/
structure ValidationRun where
  start : LayerValidation
  layers : List UInt32

inductive Step where
  | buffer (id : String) (source : BufferSource) (storage : Storage)
  | createVertexArray (id : String) (data : List UInt8)
  | bufferInfo (id : String)
  | bind (id : String) (target : BindTarget)
  | unbind (id : String)
  | map (id : String) (access : MapAccess) (slot : String)
  | read (slot : String) (offset count : UInt64)
  | unmap (slot : String)
  | rawUnmap (id : String)
  | bufferRef (id : String)
  | bufferUnref (id : String)
  | texture (id : String) (texture : Texture)
  | textureCall (id : String) (call : TextureCall)
  | pipeline (id : String) (layers : List (UInt32 × Option String)) (base : PipelineBase)
      (changes : List PipelineChange) (query : PipelineQuery)
  | pipelineInfo (id : Option String) (query : PipelineQuery)
  | pushSource (id : String)
  | popSource
  | newAttribute (id buffer name : String) (layout : VertexLayout) (ownDiagnostics : Bool)
  | attributeInfo (id : String)
  | setNormalized (id : String) (value : Bool)
  | setArray (id buffer : String)
  | acquire (id : String)
  | release (id : String)
  | pin (id slot : String)
  | unpin (slot : String)
  | report (what : String)
  | indices (id buffer : String) (format : IndexFormat) (offset : UInt64)
  | indicesOffset (id : String) (offset : UInt64)
  | context (change : SettingsChange)
  | settings (change : SettingsChange)
  | validate (id : Option String) (run : Option ValidationRun)
  | draw (topology : Topology) (first count : UInt32) (attributes : List String)
      (indices : Option String) (prevalidated : Bool)
  | enable (attributes : List String) (options : FlushOptions) (slot : String)
      (query : PipelineQuery)
  | disable (attributes : List String) (slot : String)
  | reconstruct (id : String) (topology : Topology) (first count : UInt32)
      (indices : Option String)
  | logSummary
  | clearLog

inductive Location where
  | address (offset : UInt64)
  | fromBase (offset : UInt64)

structure PipelineInfo where
  pipeline : Pipeline
  /-- The visited layers and whether they have a texture. -/
  layers : List (UInt32 × Bool)
  enabledAt : List Bool
  hasTexture : List Bool

structure CallCounts where
  calls : Nat
  draws : Nat
  flushes : Nat
  pointers : Nat

inductive Reply where
  | none
  | created (id : BufferId) (size : Nat)
  | bufferInfo (id : BufferId) (buffer : Buffer)
  | bound (id : BufferId) (base : Location)
  | mapped (mapping : Mapping)
  | bytes (bytes : List UInt8)
  | dropped (present : Bool)
  | pins (count : Nat)
  | texture (texture : Texture)
  | pipeline (info : PipelineInfo)
  | popped (label : Option String)
  | vertexAttribute (a : VertexAttribute) (bufferPins : Nat)
  | normalized (value : Bool)
  | pinCounts (pins bufferPins : Nat) (error : Option PinUnderflow)
  | indices (indices : Indices)
  | indicesOffset (offset : UInt64)
  | settings (settings : DrawSettings)
  | validation (validation : LayerValidation) (continues : List Bool)
  | enabled (flushed : FlushedPipeline) (info : PipelineInfo)
  | outline (segments : List Segment)
  | counts (counts : CallCounts)

inductive Failure where
  | noSuchObject (name : String)
  | invalidAttribute (error : AttributeError)
  | precondition (error : PinUnderflow)
  | resource (error : ResourceError)
  | overflow (cause : Overflow)
  | notReplaced (failure : ReplaceFailure)

def Failure.isFatal : Failure → Bool
  | overflow _ | notReplaced _ => true
  | _ => false

def Failure.message : Failure → String
  | noSuchObject name => name
  | invalidAttribute error => error.message
  | precondition error => error.message
  | resource error => error.message
  | overflow cause => cause.message
  | notReplaced failure => failure.message

end DrawSubmission.Session
