import DrawSubmission.Binary32
import DrawSubmission.Flags
import DrawSubmission.Pipeline.Layers
set_option autoImplicit false

namespace DrawSubmission

structure LinearRgba where
  r : Binary32
  g : Binary32
  b : Binary32
  a : Binary32
deriving DecidableEq

namespace LinearRgba

def white : LinearRgba := ⟨.one, .one, .one, .one⟩
def green : LinearRgba := ⟨.zero, .one, .zero, .one⟩
def transparent : LinearRgba := ⟨.zero, .zero, .zero, .zero⟩

instance : Inhabited LinearRgba := ⟨white⟩

def rgb (r g b : Binary32) : LinearRgba := ⟨r, g, b, .one⟩

def ofBytes (r g b a : UInt8) : LinearRgba :=
  let channel (c : UInt8) := Binary32.ofFraction c.toNat 255
  ⟨channel r, channel g, channel b, channel a⟩

def isTranslucent (color : LinearRgba) : Bool := color.a.lt .one

def text (color : LinearRgba) : String :=
  "LinearRgba \x7b r: " ++ color.r.text ++ ", g: " ++ color.g.text ++ ", b: " ++ color.b.text
    ++ ", a: " ++ color.a.text ++ " \x7d"

end LinearRgba

inductive BlendMode where
  | enabled
  | disabled
  | automatic
deriving DecidableEq

def BlendMode.name : BlendMode → String
  | enabled => "Enabled"
  | disabled => "Disabled"
  | automatic => "Automatic"

def flushFlagKind : FlagKind := ⟨"FlushFlags", 32, [⟨"FALLBACK_MASK", 1⟩, ⟨"DISABLE_MASK", 2⟩]⟩

abbrev FlushFlags := FlagSet flushFlagKind

def fallbackMask : FlushFlags := ⟨1⟩
def disableMask : FlushFlags := ⟨2⟩

/-- The overrides of one draw. Bit `n` of a mask is the layer at position `n`. -/
structure FlushOptions where
  flags : FlushFlags := .empty
  fallbackLayers : BitVec 32 := 0
  disableLayers : BitVec 32 := 0
deriving DecidableEq, Inhabited

namespace FlushOptions

/-- No override is requested, whatever the masks hold. -/
def isEmpty (options : FlushOptions) : Bool := options.flags.isEmpty

def withFallback (options : FlushOptions) (unit : UInt32) : FlushOptions :=
  { options with
    flags := options.flags.insert fallbackMask
    fallbackLayers :=
      if unit.toNat < 32 then options.fallbackLayers ||| BitVec.twoPow 32 unit.toNat
      else options.fallbackLayers }

def withoutTexturing (options : FlushOptions) : FlushOptions :=
  { options with flags := options.flags.insert disableMask, disableLayers := BitVec.allOnes 32 }

end FlushOptions

structure Fog where
  color : LinearRgba
  density : Binary32
deriving DecidableEq

structure LegacyState where
  depthTest : Option Bool := none
  fog : Option Fog := none
deriving DecidableEq, Inhabited

namespace LegacyState

def isSet (state : LegacyState) : Bool := state.depthTest.isSome || state.fog.isSome

end LegacyState

structure Pipeline where
  label : String
  layers : Layers := .empty
  blend : BlendMode := .automatic
  color : LinearRgba := .white
  overrides : Option FlushOptions := none
  legacy : Option LegacyState := none
deriving DecidableEq

namespace Pipeline

def copy (pipeline : Pipeline) : Pipeline :=
  { pipeline with label := "copy(" ++ pipeline.label ++ ")" }

def blends (pipeline : Pipeline) : Bool :=
  match pipeline.blend with
  | .enabled => true
  | .disabled => false
  | .automatic => pipeline.color.isTranslucent

/-- Whether the layer at a position, not index, keeps its texture under the overrides. -/
def layerEnabledAt (pipeline : Pipeline) (position : UInt32) : Bool :=
  match pipeline.overrides with
  | none => true
  | some options => !options.disableLayers.getLsbD position.toNat

end Pipeline

inductive PipelineChange where
  | blend (mode : BlendMode)
  | color (color : LinearRgba)
  | overrides (options : FlushOptions)
  | legacy (state : LegacyState)
deriving DecidableEq

def PipelineChange.apply (pipeline : Pipeline) : PipelineChange → Pipeline
  | blend mode => { pipeline with blend := mode }
  | color value => { pipeline with color := value }
  | overrides options => { pipeline with overrides := some options }
  | legacy state => { pipeline with legacy := some state }

end DrawSubmission
