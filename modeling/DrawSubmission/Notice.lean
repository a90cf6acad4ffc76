import DrawSubmission.Attribute
import DrawSubmission.Buffer
import DrawSubmission.Settings
set_option autoImplicit false

namespace DrawSubmission

inductive Level where
  | warn
  | debug
  | trace
deriving DecidableEq

def Level.name : Level → String
  | warn => "WARN"
  | debug => "DEBUG"
  | trace => "TRACE"

inductive Notice where
  | attributeRefused (error : AttributeError)
  | midSceneModification (what : String)
  | pinNotReleased (error : PinUnderflow)
  | boundWhileBound (buffer : BufferId) (target previous : BindTarget)
  | unboundWhileNotBound (buffer : BufferId)
  | unknownDebugFlag (token : String)
  | contextCreated (settings : DrawSettings)
  | textureLeftAtlas
  | mipmapsRegenerated
  | layerDisabled (index : UInt32)
  | attributeSkipped (role : Role) (name : String) (type : ComponentType)
  | copyDerived
  | copyReleased
  | texCoordArraysDisabled (units : BitVec 32)
  | wireframeUnsupported (name : String) (type : ComponentType)
  | overlaySkipped (error : ResourceError)
deriving DecidableEq

namespace Notice

def level : Notice → Level
  | contextCreated _ | textureLeftAtlas => .debug
  | texCoordArraysDisabled _ | wireframeUnsupported .. => .debug
  | mipmapsRegenerated | copyDerived | copyReleased => .trace
  | _ => .warn

def wording : Notice → String
  | attributeRefused error => "Failed to create vertex attribute: " ++ error.message
  | midSceneModification what =>
    "Mid-scene modification of " ++ what
      ++ ": the attribute is in use by a draw that has not completed yet"
  | pinNotReleased error => error.message
  | boundWhileBound buffer target previous =>
    "Buffer " ++ buffer.text ++ " bound to " ++ target.name ++ " while still bound to "
      ++ previous.name
  | unboundWhileNotBound buffer => "Buffer " ++ buffer.text ++ " unbound while not bound"
  | unknownDebugFlag token => "Ignoring unknown debug flag '" ++ token ++ "' in STRAND_DEBUG"
  | contextCreated settings => "Created draw context with " ++ settings.text
  | textureLeftAtlas => "Migrating texture out of its atlas for non-quad usage"
  | mipmapsRegenerated => "Regenerating mipmaps before drawing"
  | layerDisabled index =>
    "Disabling layer " ++ toString index.toNat ++ " of the current source pipeline: "
      ++ "sliced textures and textures with waste cannot be drawn from vertex buffers"
  | attributeSkipped role name type =>
    "Skipping " ++ role.label ++ " attribute '" ++ name ++ "': the channel cannot read "
      ++ type.name ++ " components"
  | copyDerived => "Deriving a copy of the source pipeline for this draw"
  | copyReleased => "Releasing the pipeline derived for this draw"
  | texCoordArraysDisabled units =>
    "Disabling texture coordinate arrays 0b" ++ String.ofList (Nat.toDigits 2 units.toNat)
  | wireframeUnsupported name type =>
    "No wireframe for '" ++ name ++ "': " ++ type.name ++ " positions are not supported"
  | overlaySkipped error => "Skipping wireframe overlay: " ++ error.message

/-- Whether a notice says that a binding was not ended, or an end had no binding. -/
def isBinding : Notice → Bool
  | boundWhileBound .. | unboundWhileNotBound _ => true
  | _ => false

def text (notice : Notice) : String := notice.level.name ++ ": " ++ notice.wording

end Notice

end DrawSubmission
