import DrawSubmission.LowestBit
import DrawSubmission.Scene.Attributes
import DrawSubmission.Scene.Basic
import DrawSubmission.Scene.Pipelines
set_option autoImplicit false

/-!
# Channels of a draw

Setting up walks the attributes in order, points each readable one's channel at its bound buffer and
then flushes the pipeline, the capabilities and the winding. What the driver already holds is not
sent again.
-/
namespace DrawSubmission

structure SetUp where
  derivation : Derivation
  flags : EnableFlags := .empty
  skipColor : Bool := false
  usedTexUnits : BitVec 32 := 0
  /-- The next free generic array. -/
  generic : Nat := 0
deriving DecidableEq

namespace Scene

def setTexUnits (s : Scene) (units : BitVec 32) : Scene :=
  { s with context := { s.context with texUnits := units } }

def enableTexUnit (s : Scene) (unit : Fin 32) : Scene :=
  if s.context.texUnits.getLsbD unit then s
  else (s.record (.setTexCoordArrayEnabled unit true)).setTexUnits
    (s.context.texUnits ||| BitVec.twoPow 32 unit)

def lowestUnit (mask : BitVec 32) (some : mask ≠ 0) : Fin 32 :=
  ⟨mask.ctz.toNat, LowestBit.ctz_lt some⟩

/-- Switches off the coordinate arrays of a mask. Each turn takes the lowest unit and clears its
bit. -/
def sweepTexUnits (s : Scene) (stale : BitVec 32) : Scene :=
  if some : stale = 0 then s
  else
    (s.record (.setTexCoordArrayEnabled (lowestUnit stale some) false)).sweepTexUnits
      (stale &&& (stale - 1))
termination_by stale.toNat
decreasing_by exact LowestBit.and_sub_one_lt some

def disableStaleTexUnits (s : Scene) (used : BitVec 32) : Scene :=
  let stale := s.context.texUnits &&& ~~~used
  let s := if stale = 0 then s else s.note (.texCoordArraysDisabled stale)
  let s := s.sweepTexUnits stale
  s.setTexUnits (s.context.texUnits &&& used)

def flushEnableFlags (s : Scene) (flags : EnableFlags) : Scene :=
  let changed := s.context.enableFlags.symmDiff flags
  let send (s : Scene) (capability : EnableFlags) : Scene :=
    if changed.contains capability then
      s.record (.setCapability capability (flags.contains capability))
    else s
  let s := EnableFlags.capabilities.foldl send s
  { s with context := { s.context with enableFlags := flags } }

def flushFrontFace (s : Scene) : Scene :=
  let face := s.context.settings.frontFace
  if s.context.flushedFrontFace = some face then s
  else { s.record (.setFrontFace face) with
         context := { s.context with flushedFrontFace := some face } }

def connect (s : Scene) (setUp : SetUp) (a : VertexAttribute) (pointer : Pointer) : SetUp × Scene :=
  match a.role with
  | .color =>
    let s := s.record (.setColorPointer pointer)
    let (derivation, s) := setUp.derivation.changeIf (!setUp.derivation.current.blends)
      (fun pipeline => { pipeline with blend := .enabled }) s
    ({ setUp with
       derivation, flags := setUp.flags.insert EnableFlags.colorArray, skipColor := true }, s)
  | .normal =>
    (setUp, (s.record (.setNormalArrayEnabled true)).record (.setNormalPointer pointer))
  | .textureCoord unit =>
    ({ setUp with usedTexUnits := setUp.usedTexUnits ||| BitVec.twoPow 32 unit },
     (s.enableTexUnit unit).record (.setTexCoordPointer unit pointer))
  | .position =>
    ({ setUp with flags := setUp.flags.insert EnableFlags.vertexArray },
     s.record (.setVertexPointer pointer))
  | .custom =>
    ({ setUp with generic := setUp.generic + 1 },
     (s.record (.setGenericArrayEnabled setUp.generic true)).record
       (.setGenericPointer setUp.generic pointer a.normalized))

/-- Connects an attribute whose buffer is bound and ends the binding. An overflow leaves the buffer
bound. -/
def connectBound (setUp : SetUp) (a : VertexAttribute) : SceneM SetUp := fun s =>
  match a.pointer (s.buffer a.buffer).base with
  | .error overflow => .error overflow s
  | .ok pointer =>
    let (next, s) := s.connect setUp a pointer
    if largestCount < next.generic then .error .count s else .ok next (s.unbind a.buffer)

def setUpChannel (setUp : SetUp) (id : AttributeId) : SceneM SetUp := do
  let a := (← get).attr id
  if a.readable then
    bindBuffer a.buffer .vertexArray
    connectBound setUp a
  else
    modify fun s => s.note (.attributeSkipped a.role a.name a.layout.type)
    return setUp

section Readable
variable {s : Scene} {id : AttributeId} (setUp : SetUp)

theorem setUpChannel_of_readable (readable : (s.attr id).readable = true) :
    setUpChannel setUp id s = (do
      bindBuffer (s.attr id).buffer .vertexArray
      connectBound setUp (s.attr id)) s := by
  change (if (s.attr id).readable then _ else _ : SceneM SetUp) s = _
  rw [if_pos readable]

theorem setUpChannel_of_unreadable (unreadable : (s.attr id).readable = false) :
    setUpChannel setUp id s = .ok setUp
      (s.note (.attributeSkipped (s.attr id).role (s.attr id).name (s.attr id).layout.type)) := by
  change (if (s.attr id).readable then _ else _ : SceneM SetUp) s = _
  rw [if_neg (by simp [unreadable])]
  rfl

end Readable

def flush (s : Scene) (setUp : SetUp) (options : FlushOptions) : FlushedPipeline × Scene :=
  let s := s.disableStaleTexUnits setUp.usedTexUnits
  let (d, s) := s.derivePipeline setUp.derivation options
  let s := s.record (.flushPipeline (d.current.view setUp.skipColor))
  let flags :=
    if s.context.settings.backfaceCulling then setUp.flags.insert EnableFlags.backfaceCulling
    else setUp.flags
  (d.flushed, (s.flushEnableFlags flags).flushFrontFace)

/-- Switches off one attribute's array where the next draw would not. -/
def tearDownChannel (state : Nat × Scene) (id : AttributeId) : Nat × Scene :=
  let (generic, s) := state
  match (s.attr id).role with
  | .normal => (generic, s.record (.setNormalArrayEnabled false))
  | .custom => (generic + 1, s.record (.setGenericArrayEnabled generic false))
  | .position | .color | .textureCoord _ => (generic, s)

/-- Tears down after a draw whose set-up has counted its generic arrays. Position, color and
coordinate arrays are left to the next flush. -/
def disableAttributes (s : Scene) (attributes : List AttributeId) (flushed : FlushedPipeline) :
    Scene :=
  let s := if flushed.derived then s.note .copyReleased else s
  (attributes.foldl tearDownChannel (0, s)).2

/-- Tears one channel down, which may be one generic array too many. -/
def countTearDown (generic : Nat) (id : AttributeId) : SceneM Nat := fun s =>
  let (next, s) := tearDownChannel (generic, s) id
  if largestCount < next then .error .count s else .ok next s

end Scene

def tearDown (attributes : List AttributeId) (flushed : FlushedPipeline) : SceneM Unit := do
  if flushed.derived then modify fun s => s.note .copyReleased
  discard (attributes.foldlM Scene.countTearDown 0)

def enableAttributes (attributes : List AttributeId) (options : FlushOptions) :
    SceneM FlushedPipeline := do
  let source := (← get).context.source
  let setUp ← attributes.foldlM Scene.setUpChannel { derivation := { source } }
  modifyGet fun s => s.flush setUp options

structure DrawRequest where
  topology : Topology
  /-- The first vertex, or the first index of an indexed draw. -/
  first : UInt32
  count : UInt32
  attributes : List AttributeId
  indices : Option Indices := none
deriving DecidableEq

/-- An indexed draw call, whose index buffer is bound, and the end of the binding. An overflow
leaves it bound. -/
def issueBound (request : DrawRequest) (indices : Indices) : SceneM Unit := fun s =>
  match indices.address (s.buffer indices.buffer).base request.first with
  | .error overflow => .error overflow s
  | .ok offset =>
    .ok () ((s.record (.drawElements request.topology request.count indices.format indices.buffer
      offset s.moment)).unbind indices.buffer)

def issue (request : DrawRequest) : SceneM Unit :=
  match request.indices with
  | none => modify fun s =>
    s.record (.drawArrays request.topology request.first request.count s.moment)
  | some indices => do
    bindBuffer indices.buffer .indexArray
    issueBound request indices

def drawPinned (request : DrawRequest) (options : FlushOptions) : SceneM Unit := do
  let flushed ← enableAttributes request.attributes options
  issue request
  tearDown request.attributes flushed

def drawOnce (request : DrawRequest) (options : FlushOptions) : SceneM Unit :=
  withPins request.attributes (drawPinned request options)

end DrawSubmission
