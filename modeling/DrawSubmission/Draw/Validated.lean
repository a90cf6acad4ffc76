import DrawSubmission.Scene.Bindings
import DrawSubmission.Scene.Outcome
import DrawSubmission.Scene.Pipelines
set_option autoImplicit false

namespace DrawSubmission

namespace LayerValidation

theorem after_validateLayer (s : Scene) (pipeline : Pipeline) (validation : LayerValidation)
    (index : UInt32) : SceneM.after (validateLayer pipeline validation index) s =
      (prepareLayer s index (pipeline.layers.texture? index)).2 := by
  simp only [SceneM.after, validateLayer]
  split <;> rename_i outcome <;> split at outcome <;> cases outcome <;> rfl

section Keeps
variable {P : Scene → Prop} (leave : ∀ s id, P s → P (s.leaveAtlas id))
  (prepare : ∀ s id, P s → P (s.prepareMipmaps id))
  (warn : ∀ s index, P s → P (s.note (.layerDisabled index)))
include leave prepare warn

theorem keeps_prepareLayer {s : Scene} (start : P s) (index : UInt32)
    (texture : Option TextureId) : P (prepareLayer s index texture).2 := by
  cases texture with
  | none => exact start
  | some id =>
    have ready := prepare _ id (leave s id start)
    simp only [prepareLayer]
    split
    · exact ready
    · exact warn _ index ready

/-- What leaving an atlas, preparing mipmaps and a warning keep, validating layers keeps. -/
theorem keeps_validateLayers (pipeline : Pipeline) (start : LayerValidation)
    (layers : List UInt32) : SceneM.Keeps P (layers.foldlM (validateLayer pipeline) start) := by
  refine SceneM.Keeps.foldlM (fun validation index s kept => ?_) layers start
  rw [after_validateLayer]
  exact keeps_prepareLayer leave prepare warn kept index _

end Keeps

end LayerValidation

/-- The second scene differs in its textures and its notices only. -/
def Scene.Retextured (s t : Scene) : Prop := ∃ textures log, t = { s with textures, log }

namespace Scene.Retextured
variable {s t u : Scene}

theorem refl (s : Scene) : s.Retextured s := ⟨s.textures, s.log, rfl⟩

theorem trans (h : s.Retextured t) (h' : t.Retextured u) : s.Retextured u := by
  obtain ⟨_, _, same⟩ := h
  obtain ⟨textures, log, same'⟩ := h'
  exact ⟨textures, log, by rw [same', same]⟩

theorem leaveAtlas (s : Scene) (id : TextureId) : s.Retextured (s.leaveAtlas id) := by
  simp only [Scene.leaveAtlas]
  split <;> exact ⟨_, _, rfl⟩

theorem prepareMipmaps (s : Scene) (id : TextureId) : s.Retextured (s.prepareMipmaps id) := by
  simp only [Scene.prepareMipmaps]
  split <;> exact ⟨_, _, rfl⟩

theorem note (s : Scene) (notice : Notice) : s.Retextured (s.note notice) := ⟨_, _, rfl⟩

theorem prepareLayer (s : Scene) (index : UInt32) (texture : Option TextureId) :
    s.Retextured (LayerValidation.prepareLayer s index texture).2 :=
  LayerValidation.keeps_prepareLayer (fun t id same => same.trans (leaveAtlas t id))
    (fun t id same => same.trans (prepareMipmaps t id)) (fun t _ same => same.trans (note t _))
    (refl s) index texture

theorem validateLayers (s : Scene) (pipeline : Pipeline) (start : LayerValidation)
    (layers : List UInt32) :
    SceneM.Keeps s.Retextured (layers.foldlM (LayerValidation.validateLayer pipeline) start) :=
  LayerValidation.keeps_validateLayers (fun t id same => same.trans (leaveAtlas t id))
    (fun t id same => same.trans (prepareMipmaps t id)) (fun t _ same => same.trans (note t _))
    pipeline start layers

end Scene.Retextured

namespace SameBindings
variable (s : Scene)

theorem setTexture (id : TextureId) (texture : Texture) :
    SameBindings s (s.setTexture id texture) :=
  .of_same rfl rfl

theorem leaveAtlas (id : TextureId) : SameBindings s (s.leaveAtlas id) := by
  simp only [Scene.leaveAtlas]
  split
  · exact (note s rfl).trans (setTexture ..)
  · exact setTexture ..

theorem prepareMipmaps (id : TextureId) : SameBindings s (s.prepareMipmaps id) := by
  simp only [Scene.prepareMipmaps]
  split
  · exact (note s rfl).trans (setTexture ..)
  · exact setTexture ..

theorem validateLayers (pipeline : Pipeline) (start : LayerValidation) (layers : List UInt32) :
    SceneM.Keeps (SameBindings s)
      (layers.foldlM (LayerValidation.validateLayer pipeline) start) :=
  LayerValidation.keeps_validateLayers (fun t id same => same.trans (leaveAtlas t id))
    (fun t id same => same.trans (prepareMipmaps t id)) (fun t _ same => same.trans (note t rfl))
    pipeline start layers

end SameBindings

namespace LayerValidation

def Countable (pipeline : Pipeline) : Prop := pipeline.layers.indices.length < UInt32.size

theorem validateLayers_ensures (pipeline : Pipeline) (P : Scene → Prop) :
    SceneM.Ensures P (validateLayers pipeline) (fun _ _ => Countable pipeline)
      (fun cause _ => cause = .add ∧ ¬ Countable pipeline) := by
  let counted (done : List UInt32) (validation : LayerValidation) (_ : Scene) : Prop :=
    validation.unit.toNat = done.length
  have loop : SceneM.Ensures (counted [] {}) (validateLayers pipeline)
      (counted ([] ++ pipeline.layers.indices))
      (fun cause _ => cause = .add ∧ ¬ Countable pipeline) := by
    refine SceneM.Ensures.foldlM (I := counted) pipeline.layers.indices [] _ ?_
    intro done index todo validation whole t here
    have total : pipeline.layers.indices.length = done.length + (todo.length + 1) := by
      rw [← List.nil_append pipeline.layers.indices, whole, List.length_append, List.length_cons]
    change validation.unit.toNat = done.length at here
    simp only [validateLayer]
    split <;> rename_i outcome <;> split at outcome <;> cases outcome
    · rename_i next
      change (validation.unit + 1).toNat = (done ++ [index]).length
      have one : (1 : UInt32).toNat = 1 := rfl
      rw [UInt32.toNat_add, one, Nat.mod_eq_of_lt next, here, List.length_append,
        List.length_singleton]
    · rename_i last
      refine ⟨rfl, ?_⟩
      rw [Countable, total]
      omega
  intro s _
  have done := loop s rfl
  revert done
  cases validateLayers pipeline s with
  | ok validation t =>
    intro done
    have bound := validation.unit.toNat_lt_size
    change validation.unit.toNat = pipeline.layers.indices.length at done
    rwa [Countable, ← done]
  | error cause t => exact id

end LayerValidation

end DrawSubmission
