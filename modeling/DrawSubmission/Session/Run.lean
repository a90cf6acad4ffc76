import DrawSubmission.Session.Step
set_option autoImplicit false

/-!
# Running a session

The names of a session live as long as it does, also across contexts. A step that names a missing
object changes nothing; a step that overflows is the last one.
-/
namespace DrawSubmission

structure Names (α : Type) where
  entries : List (String × α) := []

namespace Names
variable {α : Type}

def find? (names : Names α) (name : String) : Option α := names.entries.lookup name

def erase (names : Names α) (name : String) : Names α :=
  ⟨names.entries.filter fun entry => entry.1 != name⟩

def insert (names : Names α) (name : String) (a : α) : Names α :=
  ⟨(name, a) :: (names.erase name).entries⟩

end Names

structure Session where
  scene : Scene
  buffers : Names BufferId := {}
  textures : Names TextureId := {}
  pipelines : Names Pipeline := {}
  attributes : Names AttributeId := {}
  indices : Names Indices := {}
  mappings : Names Mapping := {}
  pins : Names AttributeId := {}
  flushed : Names FlushedPipeline := {}
  /-- The calls before this one went to a driver that is gone, or were cleared. -/
  logStart : Nat := 0

/-- A step in progress: a refusal keeps what has been done. -/
abbrev SessionM := EStateM Session.Failure Session

namespace Session

def find {α : Type} (names : Session → Names α) (name : String) : SessionM α := do
  match (names (← get)).find? name with
  | some a => return a
  | none => throw (.noSuchObject name)

def findAll {α : Type} (names : Session → Names α) (wanted : List String) : SessionM (List α) :=
  wanted.mapM (find names)

def find? {α : Type} (names : Session → Names α) : Option String → SessionM (Option α)
  | some name => return some (← find names name)
  | none => return none

def onScene {α : Type} (action : SceneM α) : SessionM α := fun session =>
  match action session.scene with
  | .ok a scene => .ok a { session with scene }
  | .error cause scene => .error (.overflow cause) { session with scene }

def updateScene (f : Scene → Scene) : SessionM Unit :=
  modify fun session => { session with scene := f session.scene }

def inScene {α : Type} (f : Scene → α × Scene) : SessionM α := onScene (modifyGet f)

def currentScene : SessionM Scene := return (← get).scene

def locate (s : Scene) (id : BufferId) (offset : UInt64) : Location :=
  match (s.buffer id).storage with
  | .device _ => .address offset
  | .client => .fromBase (offset - (s.buffer id).base)

def BufferSource.contents : BufferSource → List UInt8
  | floats values => values.flatMap Binary32.toBytes
  | shorts values => values.flatMap fun value => LittleEndian.encode 2 value.toNat
  | words values => values.flatMap fun value => LittleEndian.encode 4 value.toNat
  | zeros count => List.replicate count 0
  | bytes values => values

def SettingsChange.apply (change : SettingsChange) (settings : DrawSettings) :
    DrawSettings × List Notice :=
  let (debugFlags, unknown) := match change.debugFlags with
    | some (.bits flags) => (flags, [])
    | some (.names list) => DebugFlags.parse list
    | none => (settings.debugFlags, [])
  ({ debugFlags
     backfaceCulling := change.backfaceCulling.getD settings.backfaceCulling
     frontFace := change.frontFace.getD settings.frontFace
     legacy := change.legacy.getD settings.legacy },
   unknown.map .unknownDebugFlag)

def describe (pipeline : Pipeline) (query : PipelineQuery) : PipelineInfo :=
  let visited := match query.stopAfter with
    | some (k + 1) => pipeline.layers.indices.take (k + 1)
    | _ => pipeline.layers.indices
  let textured (index : UInt32) := (pipeline.layers.texture? index).isSome
  { pipeline
    layers := visited.map fun index => (index, textured index)
    enabledAt := query.positions.map pipeline.layerEnabledAt
    hasTexture := query.indices.map textured }

def attributeReply (id : AttributeId) : SessionM Reply := do
  let s ← currentScene
  let a := s.attr id
  return .vertexAttribute a (s.buffer a.buffer).pins

def pinReply (id : AttributeId) (error : Option PinUnderflow) : SessionM Reply := do
  let s ← currentScene
  let a := s.attr id
  return .pinCounts a.pins (s.buffer a.buffer).pins error

def newBuffer (name : String) (id : BufferId) : SessionM Reply := do
  modify fun session => { session with buffers := session.buffers.insert name id }
  return .created id ((← currentScene).buffer id).contents.size

def keepMapping (slot : String) (mapping : Mapping) : SessionM Unit := do
  let previous := (← get).mappings.find? slot
  modify fun session => { session with mappings := session.mappings.insert slot mapping }
  match previous with
  | some old => updateScene fun s => s.unmap old.buffer
  | none => pure ()

/-- A pin put into a slot; the one that was there is dropped, which counts when both hold the same
attribute. -/
def keepPin (slot : String) (id : AttributeId) : SessionM Unit := do
  let previous := (← get).pins.find? slot
  modify fun session => { session with pins := session.pins.insert slot id }
  match previous with
  | some old => updateScene fun s => s.dropPin old
  | none => pure ()

/-- A pipeline with the given layers. A copy keeps the layers of what it copies, yet the textures of
the given ones have to exist. -/
def buildPipeline (id : String) (layers : List (UInt32 × Option String)) (base : PipelineBase) :
    SessionM Pipeline := do
  let found ← layers.mapM fun layer => find? textures layer.2
  match base with
  | .copyOf source => return (← find pipelines source).copy
  | .fresh blend color =>
    let placed := (layers.map Prod.fst).zip found
    return {
      label := id
      layers := .build placed
      blend := blend.getD .automatic
      color := color.getD .white }

def sourceOr (id : Option String) : SessionM Pipeline := do
  match ← find? pipelines id with
  | some pipeline => return pipeline
  | none => return (← currentScene).context.source

def countCalls (session : Session) : CallCounts :=
  let calls := session.scene.calls.toList.drop session.logStart
  { calls := calls.length
    draws := calls.countP DriverCall.isDraw
    flushes := calls.countP DriverCall.isFlush
    pointers := calls.countP DriverCall.isPointer }

def perform : Step → SessionM Reply
  | .buffer name source storage => do
    let contents := source.contents.toArray
    let bindCount := if storage = .client then 1 else 0
    newBuffer name (← inScene fun s => s.addBuffer { contents, storage, bindCount })
  | .createVertexArray name data => do
    newBuffer name (← inScene fun s => s.createVertexArray data)
  | .bufferInfo name => do
    let id ← find buffers name
    return .bufferInfo id ((← currentScene).buffer id)
  | .bind name target => do
    let id ← find buffers name
    onScene (bindBuffer id target)
    let s ← currentScene
    return .bound id (locate s id (s.buffer id).base)
  | .unbind name => do
    let id ← find buffers name
    updateScene fun s => s.unbind id
    return .none
  | .map name access slot => do
    let id ← find buffers name
    match ← onScene (mapBuffer id access) with
    | .error error => throw (.resource error)
    | .ok mapping =>
      keepMapping slot mapping
      return .mapped mapping
  | .read slot offset count => do
    let mapping ← find mappings slot
    match mapping.read offset count.toNat with
    | .ok bytes => return .bytes bytes
    | .error error => throw (.resource error)
  | .unmap slot => do
    match (← get).mappings.find? slot with
    | none => return .dropped false
    | some mapping =>
      updateScene fun s => s.unmap mapping.buffer
      modify fun session =>
        { session with mappings := session.mappings.erase slot }
      return .dropped true
  | .rawUnmap name => do
    let id ← find buffers name
    updateScene fun s => s.unmap id
    return .none
  | .bufferRef name => do
    let id ← find buffers name
    onScene (takeBufferPin id)
    return .pins ((← currentScene).buffer id).pins
  | .bufferUnref name => do
    let id ← find buffers name
    match ← inScene fun s => s.unpinBuffer id with
    | .ok () => return .pins ((← currentScene).buffer id).pins
    | .error error => throw (.precondition error)
  | .texture name texture => do
    let id ← inScene fun s => s.addTexture texture
    modify fun session => { session with textures := session.textures.insert name id }
    return .none
  | .textureCall name call => do
    let id ← find textures name
    match call with
    | .leaveAtlas => updateScene fun s => s.leaveAtlas id
    | .prepareMipmaps => updateScene fun s => s.prepareMipmaps id
    | .none => pure ()
    return .texture ((← currentScene).texture id)
  | .pipeline name layers base changes query => do
    let pipeline := changes.foldl PipelineChange.apply (← buildPipeline name layers base)
    modify fun session => { session with pipelines := session.pipelines.insert name pipeline }
    return .pipeline (describe pipeline query)
  | .pipelineInfo name query => return .pipeline (describe (← sourceOr name) query)
  | .pushSource name => do
    let pipeline ← find pipelines name
    updateScene fun s => s.pushSource pipeline
    return .none
  | .popSource => do
    let popped := (← currentScene).context.sources.head?
    updateScene Scene.popSource
    return .popped (popped.map Pipeline.label)
  | .newAttribute name buffer spelled layout ownDiagnostics => do
    let buffer ← find buffers buffer
    let diagnostics ← if ownDiagnostics then inScene Scene.addDiagnostics
      else pure (← currentScene).context.diagnostics
    match ← inScene fun s => s.createAttribute diagnostics buffer spelled layout with
    | .error error => throw (.invalidAttribute error)
    | .ok id =>
      modify fun session => { session with attributes := session.attributes.insert name id }
      attributeReply id
  | .attributeInfo name => do attributeReply (← find attributes name)
  | .setNormalized name value => do
    let id ← find attributes name
    updateScene fun s => s.setNormalized id value
    return .normalized ((← currentScene).attr id).normalized
  | .setArray name buffer => do
    let id ← find attributes name
    let buffer ← find buffers buffer
    match ← inScene fun s => s.replaceBuffer id buffer with
    | .ok () => attributeReply id
    | .error failure => throw (.notReplaced failure)
  | .acquire name => do
    let id ← find attributes name
    onScene (takePin id)
    pinReply id none
  | .release name => do
    let id ← find attributes name
    match ← inScene fun s => s.release id with
    | .ok () => pinReply id none
    | .error error => pinReply id (some error)
  | .pin name slot => do
    let id ← find attributes name
    onScene (takePin id)
    keepPin slot id
    return .pins ((← currentScene).attr id).pins
  | .unpin slot => do
    match (← get).pins.find? slot with
    | none => return .dropped false
    | some id =>
      updateScene fun s => s.dropPin id
      modify fun session => { session with pins := session.pins.erase slot }
      return .dropped true
  | .report what => do
    updateScene fun s => s.reportMidScene s.context.diagnostics what
    return .none
  | .indices name buffer format offset => do
    let buffer ← find buffers buffer
    let made : Indices := { buffer, format, offset }
    modify fun session => { session with indices := session.indices.insert name made }
    return .indices made
  | .indicesOffset name offset => do
    let found ← find indices name
    modify fun session =>
      { session with indices := session.indices.insert name { found with offset } }
    return .indicesOffset offset
  | .context change => do
    let (settings, notices) := change.apply {}
    modify fun session => { session with logStart := session.scene.calls.size }
    updateScene fun s => (s.noteAll notices).renewContext settings
    return .none
  | .settings change => do
    let (settings, notices) := change.apply (← currentScene).context.settings
    updateScene fun s => (s.noteAll notices).setSettings settings
    return .settings settings
  | .validate name run => do
    let pipeline ← sourceOr name
    match run with
    | none => return .validation (← onScene (LayerValidation.validateLayers pipeline)) []
    | some run =>
      let validation ← onScene
        (run.layers.foldlM (LayerValidation.validateLayer pipeline) run.start)
      return .validation validation (run.layers.map fun _ => true)
  | .draw topology first count wanted named prevalidated => do
    let found ← findAll attributes wanted
    let request : DrawRequest :=
      { topology, first, count, attributes := found, indices := ← find? indices named }
    onScene (if prevalidated then drawPrevalidated request else DrawSubmission.draw request)
    return .none
  | .enable wanted options slot query => do
    let found ← findAll attributes wanted
    let pipeline ← onScene (enableAttributes found options)
    modify fun session => { session with flushed := session.flushed.insert slot pipeline }
    return .enabled pipeline (describe pipeline.pipeline query)
  | .disable wanted slot => do
    let found ← findAll attributes wanted
    let pipeline ← find flushed slot
    onScene (tearDown found pipeline)
    modify fun session => { session with flushed := session.flushed.erase slot }
    return .none
  | .reconstruct name topology first count named => do
    let indices ← find? indices named
    let id ← find attributes name
    match ← onScene (DrawSubmission.reconstruct id topology first count indices) with
    | .ok segments => return .outline segments
    | .error error => throw (.resource error)
  | .logSummary => return .counts (countCalls (← get))
  | .clearLog => do
    modify fun session => { session with logStart := session.scene.calls.size }
    return .none

structure Report where
  outcome : Except Failure Reply
  calls : List DriverCall
  notices : List Notice
  scene : Scene

def reportSince (before after : Scene) (outcome : Except Failure Reply) : Report :=
  { outcome
    calls := after.calls.toList.drop before.calls.size
    notices := after.log.toList.drop before.log.size
    scene := after }

def runSteps (session : Session) : List Step → List Report
  | [] => []
  | step :: steps =>
    match perform step session with
    | .ok reply after => reportSince session.scene after.scene (.ok reply) :: runSteps after steps
    | .error failure after =>
      let report := reportSince session.scene after.scene (.error failure)
      if failure.isFatal then [report] else report :: runSteps after steps

def run (change : SettingsChange) (steps : List Step) : List Report :=
  let (settings, notices) := change.apply {}
  let scene := Scene.create settings notices
  { outcome := .ok .none, calls := scene.calls.toList, notices := scene.log.toList, scene }
    :: runSteps { scene } steps

end Session

end DrawSubmission
