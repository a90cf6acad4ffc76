import DrawSubmission.Scene.Basic
set_option autoImplicit false

namespace DrawSubmission
namespace Scene

/-- Warns about a change made in the middle of a draw, once per diagnostics object. -/
def reportMidScene (s : Scene) (id : DiagnosticsId) (what : String) : Scene :=
  if s.warnedBy id then s
  else { s with warned := s.warned.setIfInBounds id.index true }.note (.midSceneModification what)

def createAttribute (s : Scene) (diagnostics : DiagnosticsId) (buffer : BufferId) (name : String)
    (layout : VertexLayout) : Except AttributeError AttributeId × Scene :=
  match VertexAttribute.create diagnostics buffer name layout with
  | .ok a =>
    let (id, s) := s.addAttr a
    (.ok id, s)
  | .error error => (.error error, s.note (.attributeRefused error))

def pinBuffer (s : Scene) (id : BufferId) : Scene := s.setBuffer id (s.buffer id).pin

def unpinBuffer (s : Scene) (id : BufferId) : Except PinUnderflow Unit × Scene :=
  match (s.buffer id).unpin id with
  | .ok buffer => (.ok (), s.setBuffer id buffer)
  | .error error => (.error error, s)

def acquire (s : Scene) (id : AttributeId) : Scene :=
  let a := s.attr id
  (s.setAttr id { a with pins := a.pins + 1 }).pinBuffer a.buffer

/-- Takes one pin off an attribute, then off its buffer. The buffer's pin may have been taken
away by someone else; the attribute has one pin less even so. -/
def release (s : Scene) (id : AttributeId) : Except PinUnderflow Unit × Scene :=
  let a := s.attr id
  match a.pins with
  | 0 => (.error ⟨a.name⟩, s)
  | pins + 1 => (s.setAttr id { a with pins }).unpinBuffer a.buffer

def dropPin (s : Scene) (id : AttributeId) : Scene :=
  match s.release id with
  | (.ok (), s) => s
  | (.error error, s) => s.note (.pinNotReleased error)

def setNormalized (s : Scene) (id : AttributeId) (normalized : Bool) : Scene :=
  let a := s.attr id
  let s := if a.pins = 0 then s
    else s.reportMidScene a.diagnostics ("the normalized flag of '" ++ a.name ++ "'")
  s.setAttr id { a with normalized }

def dropBufferPin (s : Scene) (id : BufferId) : Scene :=
  match s.unpinBuffer id with
  | (.ok (), s) => s
  | (.error error, s) => s.note (.pinNotReleased error)

/-- Lets somebody look at the buffer of an attribute until it is given back. -/
def borrowBuffer (s : Scene) (id : AttributeId) : Scene :=
  let a := s.attr id
  s.setAttr id { a with borrows := a.borrows + 1 }

def returnBuffer (s : Scene) (id : AttributeId) : Scene :=
  let a := s.attr id
  s.setAttr id { a with borrows := a.borrows - 1 }

end Scene

def takeBufferPin (id : BufferId) : SceneM Unit := fun s =>
  if Full (s.buffer id).pins then .error .count s else .ok () (s.pinBuffer id)

def takeBufferPins (id : BufferId) : Nat → SceneM Unit
  | 0 => pure ()
  | n + 1 => do
    takeBufferPin id
    takeBufferPins id n

/-- Pins an attribute, then its buffer. Where just the buffer's pins cannot be counted, the
attribute keeps its own. -/
def takePin (id : AttributeId) : SceneM Unit := fun s =>
  let a := s.attr id
  if Full a.pins then .error .count s
  else if Full (s.buffer a.buffer).pins then
    .error .count (s.setAttr id { a with pins := a.pins + 1 })
  else .ok () (s.acquire id)

section TakePin
variable {s : Scene} {id : AttributeId}

theorem takePin_of_full (full : Full (s.attr id).pins) : takePin id s = .error .count s :=
  if_pos full

theorem takePin_of_buffer_full (room : ¬ Full (s.attr id).pins)
    (full : Full (s.buffer (s.attr id).buffer).pins) : takePin id s =
      .error .count (s.setAttr id { s.attr id with pins := (s.attr id).pins + 1 }) := by
  simp only [takePin, room, full, ↓reduceIte]

theorem takePin_of_room (room : ¬ Full (s.attr id).pins)
    (room' : ¬ Full (s.buffer (s.attr id).buffer).pins) :
    takePin id s = .ok () (s.acquire id) := by
  simp only [takePin, room, room', ↓reduceIte]

end TakePin

/-- Pins attributes in order after some that are pinned already. Where one cannot be pinned, those
before it are given back. -/
def takePins (done : List AttributeId) : List AttributeId → SceneM Unit
  | [], s => .ok () s
  | id :: todo, s =>
    match takePin id s with
    | .ok () s => takePins (done ++ [id]) todo s
    | .error overflow s => .error overflow (done.foldl Scene.dropPin s)

/-- Runs a body while attributes are pinned; the pins end with the body, also on an overflow. -/
def withPins {α : Type} (attributes : List AttributeId) (body : SceneM α) : SceneM α := do
  takePins [] attributes
  body.thenAlways fun s => attributes.foldl Scene.dropPin s

inductive ReplaceFailure where
  /-- The pins of the attribute cannot be counted on the new buffer. -/
  | overflow (cause : Overflow)
  /-- Somebody looks at the old buffer. -/
  | borrowed
deriving DecidableEq

def ReplaceFailure.message : ReplaceFailure → String
  | overflow cause => cause.message
  | borrowed => "RefCell already borrowed"

/-- Replaces the buffer of an attribute; its pins move from the old buffer to the new one. A failure
comes after the warning and after pins were put on the new buffer. -/
def Scene.replaceBuffer (s : Scene) (id : AttributeId) (buffer : BufferId) :
    Except ReplaceFailure Unit × Scene :=
  let a := s.attr id
  let s := if a.pins = 0 then s
    else s.reportMidScene a.diagnostics ("the buffer of '" ++ a.name ++ "'")
  match takeBufferPins buffer a.pins s with
  | .error cause s => (.error (.overflow cause), s)
  | .ok () s =>
    if a.borrows ≠ 0 then (.error .borrowed, s)
    else
      (.ok (), a.pins.repeat (fun s => s.dropBufferPin a.buffer) (s.setAttr id { a with buffer }))

end DrawSubmission
