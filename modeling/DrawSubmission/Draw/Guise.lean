import DrawSubmission.Draw.Kept
import DrawSubmission.Draw.Unseen
set_option autoImplicit false

namespace DrawSubmission

theorem Guise.unseen (g : Guise) : Unseen fun s => s.inGuise g where
  attr s id := ⟨(s.attr id).pins, rfl⟩
  buffer s id := ⟨(s.buffer id).pins, rfl⟩
  context _ := ⟨g, rfl⟩
  record s call := s.record_inGuise g (call.madeAt s.moment)
  note s _ _ := s.note_inGuise g _
  rebind _ _ _ _ := rfl
  setTexUnits _ _ := rfl
  setEnableFlags _ _ := rfl
  setFrontFace _ _ := rfl

theorem Guise.result_eq {α : Type} (g : Guise) (result : EStateM.Result Overflow Scene α) :
    g.result result = SceneM.through (fun s => s.inGuise g) result := by
  cases result <;> rfl

namespace Scene
variable (s : Scene) (g : Guise)

theorem flush_inGuise (setUp : SetUp) (options : FlushOptions) :
    (s.inGuise g).flush setUp options = g.pair (s.flush setUp options) :=
  g.unseen.flush s setUp options

theorem disableAttributes_inGuise (attributes : List AttributeId) (flushed : FlushedPipeline) :
    (s.inGuise g).disableAttributes attributes flushed =
      (s.disableAttributes attributes flushed).inGuise g :=
  g.unseen.disableAttributes s attributes flushed

end Scene

open SceneM
variable (g : Guise)

theorem overlooks_setUpChannel (setUp : SetUp) (id : AttributeId) :
    Overlooks (Scene.setUpChannel setUp id) g := by
  intro s
  cases readable : (s.attr id).readable with
  | true =>
    rw [g.result_eq]
    exact g.unseen.setUpChannel s setUp readable
  | false =>
    have unreadable : ((s.inGuise g).attr id).readable = false := readable
    rw [Scene.setUpChannel_of_unreadable setUp unreadable,
      Scene.setUpChannel_of_unreadable setUp readable]
    exact congrArg (EStateM.Result.ok setUp) (s.note_inGuise g _)

theorem overlooks_enableAttributes (attributes : List AttributeId) (options : FlushOptions) :
    Overlooks (enableAttributes attributes options) g := by
  refine .get_bind (fun _ => rfl) fun s => ?_
  refine (Overlooks.foldlM (overlooks_setUpChannel g) attributes _).bind fun setUp => ?_
  exact .modifyGet fun t => t.flush_inGuise g setUp options

theorem overlooks_issue (request : DrawRequest) : Overlooks (issue request) g := by
  intro s
  rw [g.result_eq]
  exact g.unseen.issue request s

theorem overlooks_drawPinned (request : DrawRequest) (options : FlushOptions) :
    Overlooks (drawPinned request options) g := by
  rw [drawPinned_counted]
  refine (overlooks_enableAttributes g request.attributes options).bind fun flushed => ?_
  refine (overlooks_issue g request).bind fun _ => .modify fun s => ?_
  exact s.disableAttributes_inGuise g request.attributes flushed

theorem overlooks_takePin (id : AttributeId) : Overlooks (takePin id) g := by
  intro s
  by_cases full : Full (s.attr id).pins
  · rw [takePin_of_full full]
    exact takePin_of_full full
  by_cases full' : Full (s.buffer (s.attr id).buffer).pins
  · rw [takePin_of_buffer_full full full']
    exact takePin_of_buffer_full full full'
  · rw [takePin_of_room full full']
    exact takePin_of_room full full'

theorem dropPins_inGuise (attributes : List AttributeId) (s : Scene) :
    attributes.foldl Scene.dropPin (s.inGuise g) =
      (attributes.foldl Scene.dropPin s).inGuise g :=
  List.foldl_hom (fun s => s.inGuise g) fun s id => Scene.dropPin_inGuise s g id

theorem overlooks_takePins (done todo : List AttributeId) : Overlooks (takePins done todo) g := by
  induction todo generalizing done with
  | nil => exact .pure ()
  | cons id todo ih =>
    intro s
    simp only [takePins]
    rw [overlooks_takePin g id s]
    cases takePin id s with
    | ok _ t => exact ih (done ++ [id]) t
    | error overflow t =>
      exact congrArg (EStateM.Result.error overflow) (dropPins_inGuise g done t)

theorem overlooks_withPins {α : Type} (attributes : List AttributeId) {body : SceneM α}
    (h : Overlooks body g) : Overlooks (withPins attributes body) g := by
  exact (overlooks_takePins g [] attributes).bind fun _ =>
    h.thenAlways (dropPins_inGuise g attributes)

theorem overlooks_drawOnce (request : DrawRequest) (options : FlushOptions) :
    Overlooks (drawOnce request options) g :=
  overlooks_withPins g request.attributes (overlooks_drawPinned g request options)

section Validation
variable {g : Guise}

theorem texture_inGuise (h : g.textures = none) (s : Scene) (id : TextureId) :
    (s.inGuise g).texture id = s.texture id := by
  simp only [Scene.texture, Scene.inGuise, h, Option.getD_none]

theorem setTexture_inGuise (h : g.textures = none) (s : Scene) (id : TextureId)
    (texture : Texture) :
    (s.inGuise g).setTexture id texture = (s.setTexture id texture).inGuise g := by
  simp only [Scene.setTexture, Scene.inGuise, h, Option.getD_none]

theorem prepareLayer_inGuise (h : g.textures = none) (s : Scene) (index : UInt32)
    (texture : Option TextureId) :
    LayerValidation.prepareLayer (s.inGuise g) index texture =
      g.pair (LayerValidation.prepareLayer s index texture) := by
  cases texture with
  | none => rfl
  | some id =>
    have left (t : Scene) : (t.inGuise g).leaveAtlas id = (t.leaveAtlas id).inGuise g := by
      simp only [Scene.leaveAtlas, texture_inGuise h, Scene.note_inGuise]
      split <;> rw [texture_inGuise h, setTexture_inGuise h]
    have prepared (t : Scene) :
        (t.inGuise g).prepareMipmaps id = (t.prepareMipmaps id).inGuise g := by
      simp only [Scene.prepareMipmaps, texture_inGuise h, Scene.note_inGuise]
      split <;> rw [texture_inGuise h, setTexture_inGuise h]
    simp only [LayerValidation.prepareLayer, left, prepared, texture_inGuise h, Scene.note_inGuise]
    split <;> rfl

theorem overlooks_validateLayers (h : g.textures = none) (pipeline : Pipeline) :
    Overlooks (LayerValidation.validateLayers pipeline) g := by
  refine Overlooks.foldlM (fun validation index s => ?_) _ _
  simp only [LayerValidation.validateLayer, prepareLayer_inGuise h, Guise.pair]
  split <;> rfl

end Validation

end DrawSubmission
