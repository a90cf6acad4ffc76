import DrawSubmission.Scene.Basic
set_option autoImplicit false

namespace DrawSubmission.Scene
variable (s : Scene)

section Buffers
variable (id other : BufferId) (b b' : Buffer)

@[simp] theorem size_setBuffer : (s.setBuffer id b).buffers.size = s.buffers.size :=
  Array.size_setIfInBounds

theorem buffer_setBuffer : (s.setBuffer id b).buffer other =
    if other = id ∧ id.index < s.buffers.size then b else s.buffer other := by
  cases id with
  | mk i =>
    cases other with
    | mk j =>
      simp only [buffer, setBuffer, Array.getD_eq_getD_getElem?, BufferId.mk.injEq]
      by_cases same : j = i
      · subst same
        by_cases inside : j < s.buffers.size <;> simp [inside]
      · simp [same, Ne.symm same]

theorem buffer_setBuffer_of_lt {id : BufferId} (h : id.index < s.buffers.size) (b : Buffer)
    (other : BufferId) :
    (s.setBuffer id b).buffer other = if other = id then b else s.buffer other := by
  rw [buffer_setBuffer]
  by_cases same : other = id
  · rw [if_pos ⟨same, h⟩, if_pos same]
  · rw [if_neg fun here => same here.1, if_neg same]

theorem pins_setBuffer {id : BufferId} (h : id.index < s.buffers.size) (b : Buffer)
    (other : BufferId) :
    ((s.setBuffer id b).buffer other).pins =
      if other = id then b.pins else (s.buffer other).pins := by
  rw [buffer_setBuffer_of_lt s h, apply_ite Buffer.pins]

theorem setBuffer_of_le (h : s.buffers.size ≤ id.index) : s.setBuffer id b = s := by
  simp only [setBuffer, Array.setIfInBounds, Nat.not_lt.mpr h, ↓reduceDIte]

theorem buffer_of_le (h : s.buffers.size ≤ id.index) : s.buffer id = default := by
  simp [buffer, Array.getD_eq_getD_getElem?, h]

theorem setBuffer_setBuffer : (s.setBuffer id b).setBuffer id b' = s.setBuffer id b' := by
  simp only [setBuffer]
  congr 1
  apply Array.ext
  · simp
  · intro i hi hi'
    simp only [Array.size_setIfInBounds] at hi hi'
    rw [Array.getElem_setIfInBounds (by simpa using hi), Array.getElem_setIfInBounds hi',
      Array.getElem_setIfInBounds hi]
    split <;> rfl

theorem setBuffer_comm {id other : BufferId} (apart : other ≠ id) :
    (s.setBuffer id b).setBuffer other b' = (s.setBuffer other b').setBuffer id b := by
  have places : id.index ≠ other.index := fun same => apart (by cases id; cases other; simp_all)
  simp only [setBuffer, Array.setIfInBounds_comm b b' places]

theorem setBuffer_buffer : s.setBuffer id (s.buffer id) = s := by
  simp only [setBuffer]
  congr 1
  apply Array.ext
  · simp
  · intro i hi hi'
    rw [Array.getElem_setIfInBounds hi']
    split
    · rename_i here
      simp [buffer, here, Array.getD_eq_getD_getElem?, hi']
    · rfl

theorem buffer_addBuffer : (s.addBuffer b).2.buffer other =
    if other.index = s.buffers.size then b else s.buffer other := by
  simp only [buffer, addBuffer, Array.getD_eq_getD_getElem?, Array.getElem?_push]
  split <;> simp_all

@[simp] theorem attr_setBuffer (a : AttributeId) : (s.setBuffer id b).attr a = s.attr a := rfl

end Buffers

section Attributes
variable (id other : AttributeId) (a : VertexAttribute)

theorem attr_setAttr : (s.setAttr id a).attr other =
    if other = id ∧ id.index < s.attributes.size then a else s.attr other := by
  cases id with
  | mk i =>
    cases other with
    | mk j =>
      simp only [attr, setAttr, Array.getD_eq_getD_getElem?, AttributeId.mk.injEq]
      by_cases same : j = i
      · subst same
        by_cases inside : j < s.attributes.size <;> simp [inside]
      · simp [same, Ne.symm same]

theorem setAttr_setAttr (a' : VertexAttribute) :
    (s.setAttr id a).setAttr id a' = s.setAttr id a' := by
  simp only [setAttr]
  congr 1
  apply Array.ext
  · simp
  · intro i hi hi'
    simp only [Array.size_setIfInBounds] at hi hi'
    rw [Array.getElem_setIfInBounds (by simpa using hi), Array.getElem_setIfInBounds hi',
      Array.getElem_setIfInBounds hi]
    split <;> rfl

theorem setAttr_attr : s.setAttr id (s.attr id) = s := by
  simp only [setAttr]
  congr 1
  apply Array.ext
  · simp
  · intro i hi hi'
    rw [Array.getElem_setIfInBounds hi']
    split
    · rename_i here
      simp [attr, here, Array.getD_eq_getD_getElem?, hi']
    · rfl

theorem attr_addAttr : (s.addAttr a).2.attr other =
    if other.index = s.attributes.size then a else s.attr other := by
  simp only [attr, addAttr, Array.getD_eq_getD_getElem?, Array.getElem?_push]
  split <;> simp_all

@[simp] theorem buffer_setAttr (b : BufferId) : (s.setAttr id a).buffer b = s.buffer b := rfl

end Attributes

theorem texture_setTexture (id other : TextureId) (texture : Texture) :
    (s.setTexture id texture).texture other =
      if other = id ∧ id.index < s.textures.size then texture else s.texture other := by
  cases id with
  | mk i =>
    cases other with
    | mk j =>
      simp only [Scene.texture, setTexture, Array.getD_eq_getD_getElem?, TextureId.mk.injEq]
      by_cases same : j = i
      · subst same
        by_cases inside : j < s.textures.size <;> simp [inside]
      · simp [same, Ne.symm same]

theorem texture_of_le {id : TextureId} (h : s.textures.size ≤ id.index) :
    s.texture id = default := by
  simp [Scene.texture, Array.getD_eq_getD_getElem?, h]

def frame : Scene := { s with attributes := #[], buffers := #[] }

variable {s}

theorem attributes_ext {t : Scene} (size : t.attributes.size = s.attributes.size)
    (attr : ∀ id : AttributeId, id.index < s.attributes.size → t.attr id = s.attr id) :
    t.attributes = s.attributes := by
  apply Array.ext size
  intro i hi hi'
  have same := attr ⟨i⟩ hi'
  simpa [Scene.attr, Array.getD_eq_getD_getElem?, hi, hi'] using same

theorem buffers_ext {t : Scene} (size : t.buffers.size = s.buffers.size)
    (buffer : ∀ id : BufferId, id.index < s.buffers.size → t.buffer id = s.buffer id) :
    t.buffers = s.buffers := by
  apply Array.ext size
  intro i hi hi'
  have same := buffer ⟨i⟩ hi'
  simpa [Scene.buffer, Array.getD_eq_getD_getElem?, hi, hi'] using same

theorem ext_of_lookup {t : Scene} (attributes : t.attributes = s.attributes)
    (buffers : t.buffers = s.buffers) (frame : t.frame = s.frame) : t = s := by
  cases s
  cases t
  cases attributes
  cases buffers
  simp only [Scene.frame, mk.injEq] at frame
  simp [frame]

end DrawSubmission.Scene
