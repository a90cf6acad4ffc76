import DrawSubmission.Draw.Validated
import DrawSubmission.Scene.Lookup
set_option autoImplicit false

namespace DrawSubmission

def Texture.prepared (texture : Texture) : Texture := texture.leaveAtlas.prepareMipmaps

theorem Texture.prepared_prepared (texture : Texture) :
    texture.prepared.prepared = texture.prepared := by
  obtain ⟨_ | _, sliced, wasteful, mipmapsDirty, migrations, countable⟩ := texture <;> rfl

theorem Scene.texture_setTexture_self (s : Scene) (id other : TextureId) {f : Texture → Texture}
    (unknown : f default = default) :
    (s.setTexture id (f (s.texture id))).texture other =
      if other = id then f (s.texture other) else s.texture other := by
  rw [texture_setTexture]
  by_cases same : other = id
  · subst same
    by_cases inside : other.index < s.textures.size
    · rw [if_pos ⟨rfl, inside⟩, if_pos rfl]
    · rw [if_neg fun here => inside here.2, if_pos rfl, s.texture_of_le (Nat.le_of_not_lt inside),
        unknown]
  · rw [if_neg fun here => same here.1, if_neg same]

theorem Scene.texture_leaveAtlas (s : Scene) (id other : TextureId) :
    (s.leaveAtlas id).texture other =
      if other = id then (s.texture other).leaveAtlas else s.texture other := by
  have same (t : Scene) (h : t.textures = s.textures) :
      (t.setTexture id (t.texture id).leaveAtlas).texture other =
        if other = id then (s.texture other).leaveAtlas else s.texture other := by
    rw [t.texture_setTexture_self id other (f := Texture.leaveAtlas) rfl]
    simp only [Scene.texture, h]
  unfold Scene.leaveAtlas
  split
  · exact same (s.note .textureLeftAtlas) rfl
  · exact same s rfl

theorem Scene.texture_prepareMipmaps (s : Scene) (id other : TextureId) :
    (s.prepareMipmaps id).texture other =
      if other = id then (s.texture other).prepareMipmaps else s.texture other := by
  have same (t : Scene) (h : t.textures = s.textures) :
      (t.setTexture id (t.texture id).prepareMipmaps).texture other =
        if other = id then (s.texture other).prepareMipmaps else s.texture other := by
    rw [t.texture_setTexture_self id other (f := Texture.prepareMipmaps) rfl]
    simp only [Scene.texture, h]
  unfold Scene.prepareMipmaps
  split
  · exact same (s.note .mipmapsRegenerated) rfl
  · exact same s rfl

theorem Scene.size_leaveAtlas (s : Scene) (id : TextureId) :
    (s.leaveAtlas id).textures.size = s.textures.size := by
  simp only [leaveAtlas]
  split <;> exact Array.size_setIfInBounds

theorem Scene.size_prepareMipmaps (s : Scene) (id : TextureId) :
    (s.prepareMipmaps id).textures.size = s.textures.size := by
  simp only [prepareMipmaps]
  split <;> exact Array.size_setIfInBounds

theorem Scene.texture_ready (s : Scene) (id other : TextureId) :
    ((s.leaveAtlas id).prepareMipmaps id).texture other =
      if other = id then (s.texture other).prepared else s.texture other := by
  rw [texture_prepareMipmaps, texture_leaveAtlas]
  split <;> rfl

namespace LayerValidation

theorem texture_prepareLayer (s : Scene) (index : UInt32) (texture : Option TextureId)
    (other : TextureId) :
    (prepareLayer s index texture).2.texture other =
      if texture = some other then (s.texture other).prepared else s.texture other := by
  cases texture with
  | none => rfl
  | some id =>
    simp only [Option.some.injEq, @eq_comm _ id, ← s.texture_ready id other, prepareLayer]
    split <;> rfl

def textures (pipeline : Pipeline) (indices : List UInt32) : List TextureId :=
  indices.filterMap pipeline.layers.texture?

/-- The textures of the layers seen so far are prepared, and no other is touched. -/
def Prepares (s : Scene) (pipeline : Pipeline) (indices : List UInt32) (t : Scene) : Prop :=
  ∀ id, t.texture id =
    if id ∈ textures pipeline indices then (s.texture id).prepared else s.texture id

theorem Prepares.snoc {s t : Scene} {pipeline : Pipeline} {indices : List UInt32}
    (h : Prepares s pipeline indices t) (index : UInt32) :
    Prepares s pipeline (indices ++ [index])
      (prepareLayer t index (pipeline.layers.texture? index)).2 := by
  intro id
  have last : id ∈ textures pipeline (indices ++ [index]) ↔
      id ∈ textures pipeline indices ∨ pipeline.layers.texture? index = some id := by
    simp [textures, List.filterMap_append]
  rw [texture_prepareLayer, h id]
  by_cases now : pipeline.layers.texture? index = some id
  · rw [if_pos now, if_pos (last.mpr (.inr now))]
    split
    · exact Texture.prepared_prepared _
    · rfl
  · rw [if_neg now]
    simp only [last, now, or_false]

/-- What is asked of a draw so far: nothing, or fallbacks under their mask. -/
def Asks (validation : LayerValidation) : Prop :=
  validation.options = {} ∨ validation.options.flags.contains fallbackMask = true

theorem Asks.advance {validation : LayerValidation} (h : validation.Asks) (repeats : Bool) :
    (validation.advance repeats).Asks := by
  cases repeats with
  | true => exact h
  | false => exact .inr (FlagSet.contains_insert ..)

end LayerValidation

end DrawSubmission
