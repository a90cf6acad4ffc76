import DrawSubmission.Draw.Prepared
import DrawSubmission.Proofs.Quiet
import DrawSubmission.Proofs.Undisturbed
set_option autoImplicit false

namespace DrawSubmission

/-- A texture and what has become of it. The atlas that it is still in counts as a migration that is
still to come. -/
structure Texture.Ages (a b : Texture) : Prop where
  sliced : b.sliced = a.sliced
  wasteful : b.wasteful = a.wasteful
  inAtlas : b.inAtlas = true → a.inAtlas = true
  mipmapsDirty : b.mipmapsDirty = true → a.mipmapsDirty = true
  migrations : b.migrations + b.inAtlas.toNat = a.migrations + a.inAtlas.toNat

namespace Texture.Ages
variable {a b c : Texture}

theorem refl (a : Texture) : a.Ages a := ⟨rfl, rfl, id, id, rfl⟩

theorem trans (h : a.Ages b) (h' : b.Ages c) : a.Ages c where
  sliced := h'.sliced.trans h.sliced
  wasteful := h'.wasteful.trans h.wasteful
  inAtlas still := h.inAtlas (h'.inAtlas still)
  mipmapsDirty still := h.mipmapsDirty (h'.mipmapsDirty still)
  migrations := h'.migrations.trans h.migrations

theorem leaveAtlas (a : Texture) : a.Ages a.leaveAtlas := by
  obtain ⟨_ | _, sliced, wasteful, mipmapsDirty, migrations, countable⟩ := a
  · exact refl _
  · exact ⟨rfl, rfl, fun _ => rfl, id, rfl⟩

theorem prepareMipmaps (a : Texture) : a.Ages a.prepareMipmaps :=
  ⟨rfl, rfl, id, fun still => (nomatch still), rfl⟩

end Texture.Ages

def Aged (s t : Scene) : Prop :=
  ∀ id : TextureId, id.index < s.textures.size →
    id.index < t.textures.size ∧ (s.texture id).Ages (t.texture id)

namespace Aged
variable {s t u : Scene}

theorem of_textures (h : t.textures = s.textures) : Aged s t := by
  intro id inside
  have same : t.texture id = s.texture id := by rw [Scene.texture, h, Scene.texture]
  rw [h, same]
  exact ⟨inside, .refl _⟩

theorem of_kept (h : t.kept = s.kept) : Aged s t := .of_textures (congrArg Scene.textures h :)

theorem trans (h : Aged s t) (h' : Aged t u) : Aged s u := by
  intro id inside
  obtain ⟨there, ages⟩ := h id inside
  obtain ⟨there', ages'⟩ := h' id there
  exact ⟨there', ages.trans ages'⟩

theorem addTexture (s : Scene) (texture : Texture) : Aged s (s.addTexture texture).2 := by
  intro id inside
  refine ⟨Nat.lt_of_lt_of_eq (Nat.lt_succ_of_lt inside) (Array.size_push texture).symm, ?_⟩
  have same : (s.addTexture texture).2.texture id = s.texture id := by
    simp [Scene.texture, Scene.addTexture, Array.getD_eq_getD_getElem?, Array.getElem?_push,
      Nat.ne_of_lt inside]
  rw [same]
  exact .refl _

theorem leaveAtlas (s : Scene) (id : TextureId) : Aged s (s.leaveAtlas id) := by
  intro other inside
  refine ⟨Nat.lt_of_lt_of_eq inside (s.size_leaveAtlas id).symm, ?_⟩
  rw [s.texture_leaveAtlas]
  split
  · exact .leaveAtlas _
  · exact .refl _

theorem prepareMipmaps (s : Scene) (id : TextureId) : Aged s (s.prepareMipmaps id) := by
  intro other inside
  refine ⟨Nat.lt_of_lt_of_eq inside (s.size_prepareMipmaps id).symm, ?_⟩
  rw [s.texture_prepareMipmaps]
  split
  · exact .prepareMipmaps _
  · exact .refl _

theorem validateLayers (s : Scene) (pipeline : Pipeline) (start : LayerValidation)
    (layers : List UInt32) :
    SceneM.Keeps (Aged s) (layers.foldlM (LayerValidation.validateLayer pipeline) start) :=
  LayerValidation.keeps_validateLayers (fun t id aged => aged.trans (leaveAtlas t id))
    (fun t id aged => aged.trans (prepareMipmaps t id))
    (fun _ _ aged => aged.trans (.of_textures rfl)) pipeline start layers

theorem frame : Frame Aged where
  refl _ := .of_textures rfl
  trans := trans
  setAttributes _ _ := .of_textures rfl
  setPins _ _ _ := .of_textures rfl
  warn _ _ := .of_textures rfl
  note _ _ _ := .of_textures rfl

theorem drawFrame : DrawFrame Aged where
  toPinFrame := frame.pins
  bind := frame.pins.bindFrame of_kept
  alike h := of_kept h.kept
  mark _ _ := .of_textures rfl
  prepare s := keeps_prepareDraw (fun _ _ aged => aged.trans (.of_textures rfl))
    (fun _ => validateLayers s _ {} _) s (.of_textures rfl)
  stage s outline := by
    obtain ⟨pipeline, pipelinesMade, calls, _, frame⟩ := stageOutline_frame s outline
    rw [frame]
    exact .of_textures rfl
  unstage _ := .of_textures rfl

end Aged

open SceneM

end DrawSubmission
