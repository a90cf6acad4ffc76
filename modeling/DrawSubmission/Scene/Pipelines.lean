import DrawSubmission.Scene.Basic
set_option autoImplicit false

namespace DrawSubmission

structure LayerValidation where
  /-- The position of the next layer, which is also its texture unit. -/
  unit : UInt32 := 0
  options : FlushOptions := {}
deriving DecidableEq, Inhabited

namespace LayerValidation

def needsOverride (validation : LayerValidation) : Bool := !validation.options.isEmpty

def advance (validation : LayerValidation) (repeats : Bool) : LayerValidation :=
  { unit := validation.unit + 1
    options := if repeats then validation.options
      else validation.options.withFallback validation.unit }

def prepareLayer (s : Scene) (index : UInt32) : Option TextureId → Bool × Scene
  | none => (true, s)
  | some texture =>
    let s := (s.leaveAtlas texture).prepareMipmaps texture
    if (s.texture texture).repeats then (true, s) else (false, s.note (.layerDisabled index))

/-- Validates one layer of a pipeline and moves on to the next unit, if there is one. -/
def validateLayer (pipeline : Pipeline) (validation : LayerValidation) (index : UInt32) :
    SceneM LayerValidation := fun s =>
  let (repeats, s) := prepareLayer s index (pipeline.layers.texture? index)
  if validation.unit.toNat + 1 < UInt32.size then .ok (validation.advance repeats) s
  else .error .add s

def validateLayers (pipeline : Pipeline) : SceneM LayerValidation :=
  pipeline.layers.indices.foldlM (validateLayer pipeline) {}

end LayerValidation

/-- A source pipeline and the copy that a draw has derived from it, if any. -/
structure Derivation where
  source : Pipeline
  copy : Option Pipeline := none
deriving DecidableEq

namespace Derivation

def current (d : Derivation) : Pipeline := d.copy.getD d.source

def change (d : Derivation) (f : Pipeline → Pipeline) (s : Scene) : Derivation × Scene :=
  match d.copy with
  | some pipeline => ({ d with copy := some (f pipeline) }, s)
  | none => ({ d with copy := some (f d.source.copy) }, s.note .copyDerived)

def changeIf (needed : Bool) (d : Derivation) (f : Pipeline → Pipeline) (s : Scene) :
    Derivation × Scene :=
  if needed then d.change f s else (d, s)

end Derivation

structure FlushedPipeline where
  pipeline : Pipeline
  derived : Bool
deriving DecidableEq

def Derivation.flushed (d : Derivation) : FlushedPipeline := ⟨d.current, d.copy.isSome⟩

namespace Scene

def requestedOptions (settings : DrawSettings) (options : FlushOptions) : FlushOptions :=
  if settings.debugFlags.contains DebugFlags.disableTexturing then options.withoutTexturing
  else options

def derivePipeline (s : Scene) (d : Derivation) (options : FlushOptions) : Derivation × Scene :=
  let settings := s.context.settings
  let options := requestedOptions settings options
  let (d, s) := d.changeIf (!options.isEmpty)
    (fun pipeline => { pipeline with overrides := some options }) s
  let (d, s) := d.changeIf (settings.debugFlags.contains DebugFlags.disableBlending)
    (fun pipeline => { pipeline with blend := .disabled }) s
  match settings.legacy with
  | none => (d, s)
  | some legacy =>
    d.changeIf legacy.isSet (fun pipeline => { pipeline with legacy := some legacy }) s

end Scene

end DrawSubmission
