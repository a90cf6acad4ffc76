import DrawSubmission.Driver.Call
import DrawSubmission.Notice
set_option autoImplicit false

/-!
# The scene

All live objects, the draw context with everything it remembers of the driver, the calls recorded so
far and the notices logged so far. Objects are named by typed indices in order of creation. Every
operation is a function of the scene, so a draw that overflows still leaves a scene behind.
-/
namespace DrawSubmission

structure DrawContext where
  settings : DrawSettings
  /-- Pushed sources, the latest first. -/
  sources : List Pipeline := []
  defaultSource : Pipeline
  /-- Units whose coordinate array is enabled, one bit each. -/
  texUnits : BitVec 32 := 0
  enableFlags : EnableFlags := .empty
  /-- The winding last sent to the driver. -/
  flushedFrontFace : Option FrontFace := none
  wirePipeline : Option Pipeline := none
  diagnostics : DiagnosticsId
deriving DecidableEq

def DrawContext.source (context : DrawContext) : Pipeline :=
  context.sources.headD context.defaultSource

structure Scene where
  buffers : Array Buffer := #[]
  textures : Array Texture := #[]
  attributes : Array VertexAttribute := #[]
  /-- Whether each diagnostics object has given its one warning. -/
  warned : Array Bool := #[]
  /-- The number of pipelines that drivers have made. -/
  pipelinesMade : Nat := 0
  context : DrawContext
  calls : Array DriverCall := #[]
  log : Array Notice := #[]
deriving DecidableEq

/-- A computation on the scene that may overflow; the scene is kept either way. -/
abbrev SceneM := EStateM Overflow Scene

def SceneM.thenAlways {α : Type} (body : SceneM α) (change : Scene → Scene) : SceneM α := fun s =>
  match body s with
  | .ok a s => .ok a (change s)
  | .error overflow s => .error overflow (change s)

namespace Scene

def buffer (s : Scene) (id : BufferId) : Buffer := s.buffers.getD id.index default

def texture (s : Scene) (id : TextureId) : Texture := s.textures.getD id.index default

def attr (s : Scene) (id : AttributeId) : VertexAttribute := s.attributes.getD id.index default

def warnedBy (s : Scene) (id : DiagnosticsId) : Bool := s.warned.getD id.index false

def setBuffer (s : Scene) (id : BufferId) (buffer : Buffer) : Scene :=
  { s with buffers := s.buffers.setIfInBounds id.index buffer }

def setTexture (s : Scene) (id : TextureId) (texture : Texture) : Scene :=
  { s with textures := s.textures.setIfInBounds id.index texture }

def setAttr (s : Scene) (id : AttributeId) (a : VertexAttribute) : Scene :=
  { s with attributes := s.attributes.setIfInBounds id.index a }

def addBuffer (s : Scene) (buffer : Buffer) : BufferId × Scene :=
  (⟨s.buffers.size⟩, { s with buffers := s.buffers.push buffer })

def addTexture (s : Scene) (texture : Texture) : TextureId × Scene :=
  (⟨s.textures.size⟩, { s with textures := s.textures.push texture })

def addAttr (s : Scene) (a : VertexAttribute) : AttributeId × Scene :=
  (⟨s.attributes.size⟩, { s with attributes := s.attributes.push a })

def addDiagnostics (s : Scene) : DiagnosticsId × Scene :=
  (⟨s.warned.size⟩, { s with warned := s.warned.push false })

def record (s : Scene) (call : DriverCall) : Scene := { s with calls := s.calls.push call }

def note (s : Scene) (notice : Notice) : Scene := { s with log := s.log.push notice }

def noteAll (s : Scene) (notices : List Notice) : Scene := notices.foldl note s

def createPipeline (s : Scene) : Pipeline × Scene :=
  let made := s.pipelinesMade + 1
  ({ label := "created" ++ toString made }, { s with pipelinesMade := made }.record .createPipeline)

/-- A new context over a fresh driver; objects, pins and notices live on. -/
def renewContext (s : Scene) (settings : DrawSettings) : Scene :=
  let (defaultSource, s) := s.createPipeline
  let (diagnostics, s) := s.addDiagnostics
  { s.note (.contextCreated settings) with context := { settings, defaultSource, diagnostics } }

def setSettings (s : Scene) (settings : DrawSettings) : Scene :=
  { s with context := { s.context with settings } }

def outlinesDraws (s : Scene) : Bool :=
  s.context.settings.debugFlags.contains DebugFlags.wireframe

def setOutlines (s : Scene) (on : Bool) : Scene :=
  let settings := s.context.settings
  s.setSettings { settings with debugFlags := settings.debugFlags.set DebugFlags.wireframe on }

theorem outlinesDraws_setOutlines (s : Scene) (on : Bool) :
    (s.setOutlines on).outlinesDraws = on := by
  cases on with
  | true => exact FlagSet.contains_insert ..
  | false => exact FlagSet.contains_remove ..

def pushSource (s : Scene) (pipeline : Pipeline) : Scene :=
  { s with context := { s.context with sources := pipeline :: s.context.sources } }

/-- Gives back the source before the last push; the default source is never popped. -/
def popSource (s : Scene) : Scene :=
  { s with context := { s.context with sources := s.context.sources.tail } }

def create (settings : DrawSettings) (notices : List Notice) : Scene :=
  let blank : DrawContext := { settings, defaultSource := { label := "" }, diagnostics := ⟨0⟩ }
  renewContext { context := blank, log := notices.toArray } settings

def moment (s : Scene) : Moment :=
  let numbered := s.buffers.toList.zipIdx
  { pins := numbered.filterMap fun (b, i) => if b.pins = 0 then none else some (⟨i⟩, b.pins)
    bound := numbered.filterMap fun (b, i) => b.bound.map fun target => (⟨i⟩, target)
    attributePins := s.attributes.toList.map VertexAttribute.pins }

end Scene

namespace Scene

/-- Binds a buffer without counting it; the target it was still bound to is forgotten with a
warning. -/
def attach (s : Scene) (id : BufferId) (target : BindTarget) : Scene :=
  let s := match (s.buffer id).bound with
    | some previous => s.note (.boundWhileBound id target previous)
    | none => s
  s.setBuffer id ((s.buffer id).attach target)

def countBinding (s : Scene) (id : BufferId) : Scene := s.setBuffer id (s.buffer id).countBinding

def bind (s : Scene) (id : BufferId) (target : BindTarget) : Scene :=
  (s.attach id target).countBinding id

def unbind (s : Scene) (id : BufferId) : Scene :=
  if (s.buffer id).bound.isSome then s.setBuffer id (s.buffer id).unbind
  else s.note (.unboundWhileNotBound id)

def mark (s : Scene) (id : BufferId) : Scene := s.setBuffer id (s.buffer id).mark

def unmap (s : Scene) (id : BufferId) : Scene := s.setBuffer id (s.buffer id).unmap

def createVertexArray (s : Scene) (data : List UInt8) : BufferId × Scene :=
  let (id, s) := s.addBuffer { contents := data.toArray, origin := .driver }
  (id, s.record (.createVertexArray id data))

def leaveAtlas (s : Scene) (id : TextureId) : Scene :=
  let s := if (s.texture id).inAtlas then s.note .textureLeftAtlas else s
  s.setTexture id (s.texture id).leaveAtlas

def prepareMipmaps (s : Scene) (id : TextureId) : Scene :=
  let s := if (s.texture id).mipmapsDirty then s.note .mipmapsRegenerated else s
  s.setTexture id (s.texture id).prepareMipmaps

end Scene

/-- Binds a buffer. Where the binding cannot be counted, this ends with the buffer bound. -/
def bindBuffer (id : BufferId) (target : BindTarget) : SceneM Unit := fun s =>
  if Full (s.buffer id).bindCount then .error .count (s.attach id target)
  else .ok () (s.bind id target)

/-- Maps a buffer. Where the mapping cannot be counted, this ends with the buffer mapped and without
a mapping that could be dropped. -/
def mapBuffer (id : BufferId) (access : MapAccess) : SceneM (Except ResourceError Mapping) :=
  fun s =>
    match (s.buffer id).map id access with
    | .error error => .ok (.error error) s
    | .ok mapped =>
      if Full (s.buffer id).mapCount then .error .count (s.mark id)
      else .ok (.ok ⟨id, mapped.contents⟩) (s.setBuffer id mapped)

end DrawSubmission
