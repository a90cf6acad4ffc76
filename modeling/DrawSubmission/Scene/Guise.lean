import DrawSubmission.Scene.Attributes
import DrawSubmission.Scene.Basic
import DrawSubmission.Scene.Outcome
import DrawSubmission.Scene.Pipelines
set_option autoImplicit false

/-!
# Scenes in another guise

A scene may be given other textures, a longer past and another wireframe flag. What neither reads
nor sets any of these does the same in every guise: it ends in the same way, and with the same scene
in the same guise.
-/
namespace DrawSubmission

structure Guise where
  /-- Other textures, if any. -/
  textures : Option (Array Texture) := none
  /-- Another wireframe flag, if any. -/
  outlines : Option Bool := none
  /-- Calls and notices before those of the scene. -/
  calls : Array DriverCall := #[]
  log : Array Notice := #[]

def Guise.settings (g : Guise) (settings : DrawSettings) : DrawSettings :=
  match g.outlines with
  | none => settings
  | some on => { settings with debugFlags := settings.debugFlags.set DebugFlags.wireframe on }

def Scene.inGuise (s : Scene) (g : Guise) : Scene :=
  { s with
    textures := g.textures.getD s.textures
    context := { s.context with settings := g.settings s.context.settings }
    calls := g.calls ++ s.calls
    log := g.log ++ s.log }

namespace Guise
variable (g : Guise)

def pair {α : Type} (result : α × Scene) : α × Scene := (result.1, result.2.inGuise g)

def result {α : Type} : EStateM.Result Overflow Scene α → EStateM.Result Overflow Scene α
  | .ok a s => .ok a (s.inGuise g)
  | .error overflow s => .error overflow (s.inGuise g)

end Guise

namespace Scene
variable (s : Scene) (g : Guise)

theorem attr_inGuise (id : AttributeId) : (s.inGuise g).attr id = s.attr id := rfl

theorem buffer_inGuise (id : BufferId) : (s.inGuise g).buffer id = s.buffer id := rfl

theorem setAttr_inGuise (id : AttributeId) (a : VertexAttribute) :
    (s.inGuise g).setAttr id a = (s.setAttr id a).inGuise g := rfl

theorem record_inGuise (call : DriverCall) :
    (s.inGuise g).record call = (s.record call).inGuise g := by
  simp only [record, inGuise, Array.append_push]

theorem note_inGuise (notice : Notice) : (s.inGuise g).note notice = (s.note notice).inGuise g := by
  simp only [note, inGuise, Array.append_push]

theorem acquire_inGuise (id : AttributeId) : (s.inGuise g).acquire id = (s.acquire id).inGuise g :=
  rfl

theorem unpinBuffer_inGuise (id : BufferId) :
    (s.inGuise g).unpinBuffer id = g.pair (s.unpinBuffer id) := by
  simp only [unpinBuffer, buffer_inGuise]
  split <;> rfl

theorem release_inGuise (id : AttributeId) : (s.inGuise g).release id = g.pair (s.release id) := by
  simp only [release, attr_inGuise]
  split
  · rfl
  · exact unpinBuffer_inGuise (s.setAttr id _) g (s.attr id).buffer

theorem dropPin_inGuise (id : AttributeId) :
    (s.inGuise g).dropPin id = (s.dropPin id).inGuise g := by
  rw [dropPin, release_inGuise, dropPin]
  rcases s.release id with ⟨_ | _, t⟩
  · exact note_inGuise t g _
  · rfl

end Scene

namespace SceneM
variable {α β γ : Type}

/-- A computation does the same whether or not the scene is in a guise. -/
def Overlooks (m : SceneM α) (g : Guise) : Prop := ∀ s, m (s.inGuise g) = g.result (m s)

variable {g : Guise}

theorem Overlooks.bind {m : SceneM α} {f : α → SceneM β} (first : Overlooks m g)
    (rest : ∀ a, Overlooks (f a) g) : Overlooks (m >>= f) g := by
  intro s
  change EStateM.bind m f (s.inGuise g) = g.result (EStateM.bind m f s)
  unfold EStateM.bind
  rw [first s]
  cases m s with
  | ok a t => exact rest a t
  | error overflow t => rfl

theorem Overlooks.pure (a : α) : Overlooks (Pure.pure a : SceneM α) g := fun _ => rfl

theorem Overlooks.modify {f : Scene → Scene} (h : ∀ s, f (s.inGuise g) = (f s).inGuise g) :
    Overlooks (modify f : SceneM Unit) g :=
  fun s => congrArg (EStateM.Result.ok ()) (h s)

theorem Overlooks.modifyGet {f : Scene → α × Scene} (h : ∀ s, f (s.inGuise g) = g.pair (f s)) :
    Overlooks (modifyGet f : SceneM α) g := by
  intro s
  change (match f (s.inGuise g) with | (a, t) => EStateM.Result.ok a t) = _
  rw [h]
  rfl

theorem Overlooks.thenAlways {m : SceneM α} (h : Overlooks m g) {change : Scene → Scene}
    (same : ∀ s, change (s.inGuise g) = (change s).inGuise g) :
    Overlooks (m.thenAlways change) g := by
  intro s
  simp only [SceneM.thenAlways]
  rw [h s]
  cases m s with
  | ok a t => exact congrArg (EStateM.Result.ok a) (same t)
  | error overflow t => exact congrArg (EStateM.Result.error overflow) (same t)

theorem Overlooks.get_bind {f : Scene → SceneM β} (same : ∀ s, f (s.inGuise g) = f s)
    (rest : ∀ s, Overlooks (f s) g) : Overlooks (get >>= f) g := by
  intro s
  change f (s.inGuise g) (s.inGuise g) = g.result (f s s)
  rw [same]
  exact rest s s

theorem Overlooks.foldlM {f : β → γ → SceneM β} (round : ∀ b x, Overlooks (f b x) g) (xs : List γ)
    (b : β) : Overlooks (xs.foldlM f b) g := by
  induction xs generalizing b with
  | nil => exact .pure b
  | cons x xs ih =>
    rw [List.foldlM_cons]
    exact (round b x).bind ih

end SceneM

namespace Guise
variable (g : Guise) (settings : DrawSettings)

/-- The wireframe flag is none of those that a draw of its own asks for. -/
theorem contains_debugFlags {i : Nat} (other : i ≠ 0) (inside : i < debugFlagKind.width) :
    (g.settings settings).debugFlags.contains (FlagSet.ofBit i) =
      settings.debugFlags.contains (FlagSet.ofBit i) := by
  unfold Guise.settings
  cases g.outlines with
  | none => rfl
  | some on =>
    have wireframe : DebugFlags.wireframe = FlagSet.ofBit 0 := by decide
    rw [FlagSet.contains_ofBit _ inside, FlagSet.contains_ofBit _ inside, wireframe,
      FlagSet.getLsbD_set_ofBit _ (by decide), if_neg other]

theorem disableBlending :
    (g.settings settings).debugFlags.contains DebugFlags.disableBlending =
      settings.debugFlags.contains DebugFlags.disableBlending :=
  g.contains_debugFlags settings (i := 1) (by decide) (by decide)

theorem requestedOptions (options : FlushOptions) :
    Scene.requestedOptions (g.settings settings) options =
      Scene.requestedOptions settings options := by
  have texturing : (g.settings settings).debugFlags.contains DebugFlags.disableTexturing =
      settings.debugFlags.contains DebugFlags.disableTexturing :=
    g.contains_debugFlags settings (i := 2) (by decide) (by decide)
  rw [Scene.requestedOptions, texturing, Scene.requestedOptions]

theorem backfaceCulling :
    (g.settings settings).backfaceCulling = settings.backfaceCulling := by
  unfold Guise.settings
  split <;> rfl

theorem frontFace : (g.settings settings).frontFace = settings.frontFace := by
  unfold Guise.settings
  split <;> rfl

theorem legacy : (g.settings settings).legacy = settings.legacy := by
  unfold Guise.settings
  split <;> rfl

end Guise

end DrawSubmission
