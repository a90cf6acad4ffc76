import DrawSubmission.Scene.Attributes
import DrawSubmission.Scene.Outcome
set_option autoImplicit false

/-!
# Relations that work on attributes and pins stays in

Work on pins comes down to setting counts of pins and to notices of pins that could not be taken
back; work on attributes sets attributes, warns and notes as well. A relation of scenes that
contains these steps contains all such work.
-/
namespace DrawSubmission

open SceneM

theorem takePin_ensures (id : AttributeId) (s : Scene) :
    Ensures (fun t => t = s) (takePin id) (fun _ t => t = s.acquire id)
      fun cause _ => cause = .count := by
  rintro t rfl
  by_cases full : Full (t.attr id).pins
  · rw [takePin_of_full full]
  by_cases full' : Full (t.buffer (t.attr id).buffer).pins
  · rw [takePin_of_buffer_full full full']
  · rw [takePin_of_room full full']

/-- Attributes are pinned one after the other, if their pins can all be counted. -/
theorem takePins_ensures (done todo : List AttributeId) (s : Scene) :
    Ensures (fun t => t = s) (takePins done todo) (fun _ t => t = todo.foldl Scene.acquire s)
      fun cause _ => cause = .count := by
  induction todo generalizing s done with
  | nil => exact fun t same => same
  | cons id todo ih =>
    rintro t rfl
    have taken := takePin_ensures id t t rfl
    revert taken
    simp only [takePins]
    cases takePin id t with
    | ok _ u =>
      rintro rfl
      exact ih (done ++ [id]) (t.acquire id) _ rfl
    | error cause u => exact fun counted => counted

theorem ensures_withPins {α : Type} {s : Scene} {E : Overflow → Scene → Prop}
    {Q : α → Scene → Prop} {attributes : List AttributeId} {body : SceneM α}
    (h : Ensures (fun t => t = attributes.foldl Scene.acquire s) body
      (fun a t => Q a (attributes.foldl Scene.dropPin t))
      fun cause t => E cause (attributes.foldl Scene.dropPin t))
    (uncounted : E .count ((takePins [] attributes).after s)) :
    Ensures (fun t => t = s) (withPins attributes body) Q E := by
  have taken : Ensures (fun t => t = s) (takePins [] attributes)
      (fun _ t => t = attributes.foldl Scene.acquire s) E := by
    refine ((takePins_ensures [] attributes s).and (ensures_iff_after
      (P := fun t => t = (takePins [] attributes).after s).mpr rfl)).mono ?_ ?_
    · exact fun _ t => And.left
    · rintro cause t ⟨rfl, rfl⟩
      exact uncounted
  exact taken.bind fun _ => h.thenAlways

theorem keeps_takeBufferPin {P : Scene → Prop} {id : BufferId}
    (pin : ∀ t, P t → P (t.pinBuffer id)) : Keeps P (takeBufferPin id) := by
  intro s hs
  by_cases full : Full (s.buffer id).pins
  · simpa only [takeBufferPin, after, full, ↓reduceIte] using hs
  · simpa only [takeBufferPin, after, full, ↓reduceIte] using pin s hs

theorem keeps_takeBufferPins {P : Scene → Prop} {id : BufferId}
    (pin : ∀ t, P t → P (t.pinBuffer id)) (n : Nat) : Keeps P (takeBufferPins id n) := by
  induction n with
  | zero => exact .pure ()
  | succ n ih => exact (keeps_takeBufferPin pin).bind fun _ => ih

/-- A relation of scenes that setting counts of pins stays in, and so does the notice of a pin that
could not be taken back. -/
structure PinFrame (R : Scene → Scene → Prop) : Prop where
  refl (s : Scene) : R s s
  trans {s t u : Scene} : R s t → R t u → R s u
  setPins (s : Scene) (id : BufferId) (pins : Nat) :
    R s (s.setBuffer id { s.buffer id with pins })
  setAttrPins (s : Scene) (id : AttributeId) (pins : Nat) :
    R s (s.setAttr id { s.attr id with pins })
  unreleased (s : Scene) (error : PinUnderflow) : R s (s.note (.pinNotReleased error))

namespace PinFrame
variable {R : Scene → Scene → Prop} (frame : PinFrame R) (s : Scene)
include frame

theorem foldl {α : Type} {f : Scene → α → Scene} (h : ∀ t x, R t (f t x)) (xs : List α) :
    R s (xs.foldl f s) :=
  List.foldlRecOn xs f (motive := R s) (frame.refl s) fun t same x _ => frame.trans same (h t x)

theorem iterate {f : Scene → Scene} (h : ∀ t, R t (f t)) (n : Nat) : R s (n.repeat f s) := by
  induction n with
  | zero => exact frame.refl s
  | succ n ih => exact frame.trans ih (h _)

theorem pinBuffer (id : BufferId) : R s (s.pinBuffer id) := frame.setPins s id _

theorem unpinBuffer (id : BufferId) : R s (s.unpinBuffer id).2 := by
  unfold Scene.unpinBuffer Buffer.unpin
  cases (s.buffer id).pins with
  | zero => exact frame.refl s
  | succ n => exact frame.setPins s id n

theorem acquire (id : AttributeId) : R s (s.acquire id) :=
  frame.trans (frame.setAttrPins s id _) (frame.pinBuffer _ _)

theorem takeBufferPin (id : BufferId) : R s ((takeBufferPin id).after s) :=
  keeps_takeBufferPin (fun t same => frame.trans same (frame.pinBuffer t id)) s (frame.refl s)

theorem takeBufferPins (id : BufferId) (n : Nat) : R s ((takeBufferPins id n).after s) :=
  keeps_takeBufferPins (fun t same => frame.trans same (frame.pinBuffer t id)) n s (frame.refl s)

theorem takePin (id : AttributeId) : R s ((takePin id).after s) := by
  unfold after
  by_cases full : Full (s.attr id).pins
  · rw [takePin_of_full full]
    exact frame.refl s
  by_cases full' : Full (s.buffer (s.attr id).buffer).pins
  · rw [takePin_of_buffer_full full full']
    exact frame.setAttrPins s id _
  · rw [takePin_of_room full full']
    exact frame.acquire s id

theorem release (id : AttributeId) : R s (s.release id).2 := by
  simp only [Scene.release]
  split
  · exact frame.refl s
  · exact frame.trans (frame.setAttrPins s id _) (frame.unpinBuffer _ _)

theorem dropPin (id : AttributeId) : R s (s.dropPin id) := by
  have released := frame.release s id
  rw [Scene.dropPin]
  split <;> rename_i outcome <;> rw [outcome] at released
  · exact released
  · exact frame.trans released (frame.unreleased _ _)

theorem dropBufferPin (id : BufferId) : R s (s.dropBufferPin id) := by
  have released := frame.unpinBuffer s id
  rw [Scene.dropBufferPin]
  split <;> rename_i outcome <;> rw [outcome] at released
  · exact released
  · exact frame.trans released (frame.unreleased _ _)

theorem takePins (done todo : List AttributeId) : R s ((takePins done todo).after s) := by
  induction todo generalizing s done with
  | nil => exact frame.refl s
  | cons id todo ih =>
    have taken := frame.takePin s id
    revert taken
    simp only [DrawSubmission.takePins, after]
    cases DrawSubmission.takePin id s with
    | ok _ t => exact fun taken => frame.trans taken (ih t (done ++ [id]))
    | error cause t => exact fun taken => frame.trans taken (frame.foldl t frame.dropPin done)

theorem withPins {α : Type} {body : SceneM α} (h : ∀ t, R t (body.after t))
    (attributes : List AttributeId) : R s ((withPins attributes body).after s) := by
  have keeps : Keeps (R s) (DrawSubmission.withPins attributes body) := by
    refine Keeps.bind (fun t same => frame.trans same (frame.takePins t [] attributes)) fun _ => ?_
    intro t same
    rw [after_thenAlways]
    exact frame.trans (frame.trans same (h t)) (frame.foldl _ frame.dropPin attributes)
  exact keeps s (frame.refl s)

end PinFrame

theorem Scene.replaceBuffer_after (s : Scene) (id : AttributeId) (buffer : BufferId) :
    let a := s.attr id
    let pinned := (takeBufferPins buffer a.pins).after (if a.pins = 0 then s
      else s.reportMidScene a.diagnostics ("the buffer of '" ++ a.name ++ "'"))
    (s.replaceBuffer id buffer).2 = pinned ∨ (s.replaceBuffer id buffer).2 =
      a.pins.repeat (fun t => t.dropBufferPin a.buffer) (pinned.setAttr id { a with buffer }) := by
  intro a pinned
  simp only [Scene.replaceBuffer, pinned, SceneM.after]
  cases takeBufferPins buffer a.pins (if a.pins = 0 then s
      else s.reportMidScene a.diagnostics ("the buffer of '" ++ a.name ++ "'")) with
  | error cause t => exact .inl rfl
  | ok _ t =>
    dsimp only
    split
    · exact .inl rfl
    · exact .inr rfl

/-- A relation of scenes that setting attributes and counts of pins, warning and noting stay in. -/
structure Frame (R : Scene → Scene → Prop) : Prop where
  refl (s : Scene) : R s s
  trans {s t u : Scene} : R s t → R t u → R s u
  setAttributes (s : Scene) (attributes : Array VertexAttribute) : R s { s with attributes }
  setPins (s : Scene) (id : BufferId) (pins : Nat) :
    R s (s.setBuffer id { s.buffer id with pins })
  warn (s : Scene) (warned : Array Bool) : R s { s with warned }
  note (s : Scene) {notice : Notice} : notice.isBinding = false → R s (s.note notice)

namespace Frame
variable {R : Scene → Scene → Prop} (frame : Frame R) (s : Scene)
include frame

theorem setAttr (id : AttributeId) (a : VertexAttribute) : R s (s.setAttr id a) :=
  frame.setAttributes s _

theorem pins : PinFrame R where
  refl := frame.refl
  trans := frame.trans
  setPins := frame.setPins
  setAttrPins s id _ := frame.setAttr s id _
  unreleased s _ := frame.note s rfl

theorem reportMidScene (id : DiagnosticsId) (what : String) : R s (s.reportMidScene id what) := by
  unfold Scene.reportMidScene
  split
  · exact frame.refl s
  · exact frame.trans (frame.warn s _) (frame.note _ rfl)

theorem setNormalized (id : AttributeId) (normalized : Bool) :
    R s (s.setNormalized id normalized) := by
  simp only [Scene.setNormalized]
  split
  · exact frame.setAttr s id _
  · exact frame.trans (frame.reportMidScene s _ _) (frame.setAttr _ id _)

theorem borrowBuffer (id : AttributeId) : R s (s.borrowBuffer id) := frame.setAttr s id _

theorem returnBuffer (id : AttributeId) : R s (s.returnBuffer id) := frame.setAttr s id _

theorem replaceBuffer (id : AttributeId) (buffer : BufferId) :
    R s (s.replaceBuffer id buffer).2 := by
  let a := s.attr id
  let warned := if a.pins = 0 then s
    else s.reportMidScene a.diagnostics ("the buffer of '" ++ a.name ++ "'")
  have told : R s warned := by
    unfold warned
    split
    · exact frame.refl s
    · exact frame.reportMidScene s _ _
  have pinned := frame.trans told (frame.pins.takeBufferPins warned buffer a.pins)
  obtain same | same := s.replaceBuffer_after id buffer <;> rw [same]
  · exact pinned
  · exact frame.trans pinned (frame.trans (frame.setAttr _ id _)
      (frame.pins.iterate _ (fun u => frame.pins.dropBufferPin u a.buffer) a.pins))

theorem createAttribute (diagnostics : DiagnosticsId) (buffer : BufferId) (name : String)
    (layout : VertexLayout) : R s (s.createAttribute diagnostics buffer name layout).2 := by
  simp only [Scene.createAttribute]
  split
  · exact frame.setAttributes s _
  · exact frame.note s rfl

end Frame

theorem Scene.size_frame : Frame fun s t => t.buffers.size = s.buffers.size where
  refl _ := rfl
  trans h h' := h'.trans h
  setAttributes _ _ := rfl
  setPins _ _ _ := Array.size_setIfInBounds
  warn _ _ := rfl
  note _ _ _ := rfl

end DrawSubmission
