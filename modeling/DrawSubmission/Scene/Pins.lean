import DrawSubmission.Scene.Kept
import DrawSubmission.Scene.Lookup
set_option autoImplicit false

namespace DrawSubmission.Scene

section Acquire
variable (s : Scene) (id : AttributeId)

theorem attr_acquire (other : AttributeId) : (s.acquire id).attr other =
    if other = id ∧ id.index < s.attributes.size then
      { s.attr id with pins := (s.attr id).pins + 1 }
    else s.attr other := by
  rw [acquire, pinBuffer, attr_setBuffer, attr_setAttr]

theorem buffer_acquire (other : BufferId) :
    (s.acquire id).buffer other =
      if other = (s.attr id).buffer ∧ (s.attr id).buffer.index < s.buffers.size then
        (s.buffer (s.attr id).buffer).pin
      else s.buffer other := by
  rw [acquire, pinBuffer, buffer_setBuffer]
  rfl

theorem sizes_acquire :
    (s.acquire id).attributes.size = s.attributes.size ∧
      (s.acquire id).buffers.size = s.buffers.size :=
  ⟨Array.size_setIfInBounds, Array.size_setIfInBounds⟩

end Acquire

/-- The scene with one more pin on an attribute and its buffer for each occurrence in a list. -/
def addPins (s : Scene) (ids : List AttributeId) : Scene :=
  { s with
    attributes := s.attributes.mapIdx fun i a => { a with pins := a.pins + ids.count ⟨i⟩ }
    buffers := s.buffers.mapIdx fun i b =>
      { b with pins := b.pins + ids.countP fun id => (s.attr id).buffer == ⟨i⟩ } }

section Lookup
variable (s : Scene) (ids : List AttributeId)

theorem addPins_nil : s.addPins [] = s := by
  have attributes : (s.attributes.mapIdx fun i a =>
      { a with pins := a.pins + ([] : List AttributeId).count ⟨i⟩ }) = s.attributes := by
    apply Array.ext <;> simp
  have buffers : (s.buffers.mapIdx fun i b => { b with
      pins := b.pins + ([] : List AttributeId).countP fun id => (s.attr id).buffer == ⟨i⟩ }) =
        s.buffers := by
    apply Array.ext <;> simp
  simp only [addPins, attributes, buffers]

theorem addPins_perm {ids ids' : List AttributeId} (h : ids.Perm ids') :
    s.addPins ids = s.addPins ids' := by
  simp only [addPins, h.count_eq, h.countP_eq]

theorem attr_addPins {id : AttributeId} (h : id.index < s.attributes.size) :
    (s.addPins ids).attr id =
      { s.attr id with pins := (s.attr id).pins + ids.count id } := by
  simp [attr, addPins, Array.getD_eq_getD_getElem?, h]

theorem buffer_addPins {id : BufferId} (h : id.index < s.buffers.size) :
    (s.addPins ids).buffer id = { s.buffer id with
      pins := (s.buffer id).pins + ids.countP fun a => (s.attr a).buffer == id } := by
  simp [buffer, addPins, Array.getD_eq_getD_getElem?, h]

end Lookup

theorem acquire_addPins (s : Scene) (ids : List AttributeId) {id : AttributeId}
    (h : id.index < s.attributes.size) : (s.addPins ids).acquire id = s.addPins (id :: ids) := by
  have size : (s.addPins ids).attributes.size = s.attributes.size := Array.size_mapIdx
  have size' : (s.addPins ids).buffers.size = s.buffers.size := Array.size_mapIdx
  have behind : ((s.addPins ids).attr id).buffer = (s.attr id).buffer := by
    rw [attr_addPins s ids h]
  refine ext_of_lookup (attributes_ext ?_ fun other inside => ?_)
    (buffers_ext ?_ fun other inside => ?_) rfl
  · rw [(sizes_acquire _ id).1, size]
    exact Array.size_mapIdx.symm
  · have inside : other.index < s.attributes.size := by simpa [addPins] using inside
    rw [attr_acquire, size, attr_addPins _ _ inside,
      attr_addPins _ _ inside, attr_addPins _ _ h, List.count_cons]
    by_cases same : other = id
    · simp [same, h, Nat.add_assoc]
    · simp [same, Ne.symm same]
  · rw [(sizes_acquire _ id).2, size']
    exact Array.size_mapIdx.symm
  · have inside : other.index < s.buffers.size := by simpa [addPins] using inside
    rw [buffer_acquire, behind, s.buffer_addPins (id :: ids) inside, List.countP_cons]
    by_cases same : other = (s.attr id).buffer
    · subst same
      have bound : (s.attr id).buffer.index < (s.addPins ids).buffers.size := by rwa [size']
      rw [if_pos ⟨rfl, bound⟩, buffer_addPins _ _ inside]
      simp [Buffer.pin, Nat.add_assoc]
    · rw [if_neg fun here => same here.1, buffer_addPins _ _ inside]
      simp [Ne.symm same]

theorem foldr_acquire (s : Scene) (ids : List AttributeId)
    (h : ∀ id ∈ ids, id.index < s.attributes.size) :
    ids.foldr (fun id t => t.acquire id) s = s.addPins ids := by
  induction ids with
  | nil => exact (addPins_nil s).symm
  | cons id ids ih =>
    rw [List.foldr_cons, ih fun other member => h other (List.mem_cons_of_mem id member)]
    exact acquire_addPins s ids (h id List.mem_cons_self)

theorem foldl_acquire (s : Scene) (ids : List AttributeId)
    (h : ∀ id ∈ ids, id.index < s.attributes.size) : ids.foldl acquire s = s.addPins ids := by
  rw [List.foldl_eq_foldr_reverse, foldr_acquire s ids.reverse]
  · exact addPins_perm s ids.reverse_perm
  · exact fun id member => h id (List.mem_reverse.mp member)

section DropPin
variable (s : Scene)

theorem dropPin_of_unpinned {id : AttributeId} (h : (s.attr id).pins = 0) :
    s.dropPin id = s.note (.pinNotReleased ⟨(s.attr id).name⟩) := by
  simp only [dropPin, release, h]

theorem dropPin_of_pinned {id : AttributeId} {n : Nat} (h : (s.attr id).pins = n + 1) :
    s.dropPin id =
      (s.setAttr id { s.attr id with pins := n }).dropBufferPin (s.attr id).buffer := by
  simp only [dropPin, release, h]
  rfl

theorem dropBufferPin_of_pinned {id : BufferId} {n : Nat} (h : (s.buffer id).pins = n + 1) :
    s.dropBufferPin id = s.setBuffer id { s.buffer id with pins := n } := by
  simp only [dropBufferPin, unpinBuffer, Buffer.unpin, h]

theorem kept_dropBufferPin (id : BufferId) :
    (s.dropBufferPin id).kept = s.kept.setBuffer id
      { s.kept.buffer id with pins := (s.kept.buffer id).pins - 1 } := by
  have same : (s.kept.buffer id).pins = (s.buffer id).pins := by
    rw [buffer_kept]
    rfl
  cases pins : (s.buffer id).pins with
  | zero =>
    have noted : s.dropBufferPin id =
        s.note (.pinNotReleased ⟨"buffer " ++ toString id.number⟩) := by
      simp only [dropBufferPin, unpinBuffer, Buffer.unpin, pins]
    have unchanged : (s.kept.buffer id).pins - 1 = (s.kept.buffer id).pins := by omega
    simp only [noted, unchanged]
    exact (setBuffer_buffer s.kept id).symm
  | succ n =>
    rw [dropBufferPin_of_pinned s pins, kept_setBuffer_eq, same, pins, buffer_kept]
    rfl

theorem kept_dropPin_congr {t : Scene} (h : t.kept = s.kept) (id : AttributeId) :
    (t.dropPin id).kept = (s.dropPin id).kept := by
  have same := attr_eq_of_kept h id
  cases pins : (s.attr id).pins with
  | zero =>
    rw [dropPin_of_unpinned s pins, dropPin_of_unpinned t (same ▸ pins)]
    exact h
  | succ n =>
    have moved (u : Scene) (a : VertexAttribute) : (u.setAttr id a).kept = u.kept.setAttr id a :=
      rfl
    rw [dropPin_of_pinned s pins, dropPin_of_pinned t (same ▸ pins), kept_dropBufferPin,
      kept_dropBufferPin, same, moved, moved, h]

theorem kept_dropPin_acquire {id : AttributeId} (h : id.index < s.attributes.size) :
    ((s.acquire id).dropPin id).kept = s.kept := by
  let a := s.attr id
  have attr : (s.acquire id).attr id = { a with pins := a.pins + 1 } := by
    rw [attr_acquire, if_pos ⟨rfl, h⟩]
  have pins : ((s.acquire id).attr id).pins = a.pins + 1 := by rw [attr]
  have released : (s.acquire id).setAttr id { (s.acquire id).attr id with pins := a.pins } =
      s.pinBuffer a.buffer := by
    rw [attr]
    change ((s.pinBuffer a.buffer).setAttr id _).setAttr id a = s.pinBuffer a.buffer
    rw [setAttr_setAttr]
    exact setAttr_attr (s.pinBuffer a.buffer) id
  rw [dropPin_of_pinned _ pins, released, attr, kept_dropBufferPin, pinBuffer, kept_setBuffer_eq]
  change (s.kept.setBuffer a.buffer _).setBuffer a.buffer _ = s.kept
  by_cases inside : a.buffer.index < s.kept.buffers.size
  · rw [setBuffer_setBuffer, buffer_setBuffer, if_pos ⟨rfl, inside⟩]
    have restored : { (s.buffer a.buffer).pin.kept with
        pins := (s.buffer a.buffer).pin.kept.pins - 1 } = s.kept.buffer a.buffer := by
      rw [buffer_kept]
      rfl
    rw [restored, setBuffer_buffer]
  · have outside := Nat.le_of_not_lt inside
    rw [setBuffer_of_le _ _ _ outside, setBuffer_of_le _ _ _ outside]

end DropPin

theorem kept_dropPin_addPins {s t : Scene} {ids : List AttributeId} {id : AttributeId}
    (h : id.index < s.attributes.size) (same : t.kept = (s.addPins (id :: ids)).kept) :
    (t.dropPin id).kept = (s.addPins ids).kept := by
  have size : (s.addPins ids).attributes.size = s.attributes.size := Array.size_mapIdx
  -- Pins commute, so the first attribute of the list may count as the last one acquired.
  rw [kept_dropPin_congr _ same, ← acquire_addPins s ids h]
  exact kept_dropPin_acquire _ (size ▸ h)

theorem kept_foldl_dropPin {s t : Scene} (ids : List AttributeId)
    (h : ∀ id ∈ ids, id.index < s.attributes.size) (same : t.kept = (s.addPins ids).kept) :
    (ids.foldl dropPin t).kept = s.kept := by
  induction ids generalizing t with
  | nil =>
    rw [List.foldl_nil, same, addPins_nil]
  | cons id ids ih =>
    rw [List.foldl_cons]
    apply ih fun other member => h other (List.mem_cons_of_mem id member)
    exact kept_dropPin_addPins (h id List.mem_cons_self) same

theorem log_dropPin_of_pinned {t : Scene} {id : AttributeId} (pinned : (t.attr id).pins ≠ 0)
    (held : (t.buffer (t.attr id).buffer).pins ≠ 0) : (t.dropPin id).log = t.log := by
  obtain ⟨n, pins⟩ := Nat.exists_eq_succ_of_ne_zero pinned
  obtain ⟨m, pins'⟩ := Nat.exists_eq_succ_of_ne_zero held
  rw [dropPin_of_pinned t pins, dropBufferPin_of_pinned (t.setAttr id _) pins']
  rfl

theorem log_foldl_dropPin {s t : Scene} (ids : List AttributeId)
    (h : ∀ id ∈ ids, id.index < s.attributes.size ∧ (s.attr id).buffer.index < s.buffers.size)
    (same : t.kept = (s.addPins ids).kept) : (ids.foldl dropPin t).log = t.log := by
  induction ids generalizing t with
  | nil => rfl
  | cons id ids ih =>
    obtain ⟨inside, behind⟩ := h id List.mem_cons_self
    have attr : t.attr id =
        { s.attr id with pins := (s.attr id).pins + (id :: ids).count id } := by
      rw [attr_eq_of_kept same, attr_addPins s _ inside]
    have buffer : (t.buffer (s.attr id).buffer).pins = (s.buffer (s.attr id).buffer).pins +
        (id :: ids).countP fun a => (s.attr a).buffer == (s.attr id).buffer := by
      have pins := congrArg Buffer.pins (buffer_kept_eq_of_kept same (s.attr id).buffer)
      rwa [buffer_addPins s _ behind] at pins
    have pinned : (t.attr id).pins ≠ 0 := by
      rw [attr, List.count_cons_self]
      exact Nat.succ_ne_zero _
    have held : (t.buffer (t.attr id).buffer).pins ≠ 0 := by
      rw [attr]
      change (t.buffer (s.attr id).buffer).pins ≠ 0
      simp [buffer]
    rw [List.foldl_cons, ih (fun other member => h other (List.mem_cons_of_mem id member))
      (kept_dropPin_addPins inside same)]
    exact log_dropPin_of_pinned pinned held

end DrawSubmission.Scene

namespace DrawSubmission

/-- The same objects have fewer pins in the first scene, or as many. -/
structure FewerPins (s t : Scene) : Prop where
  attributes : s.attributes.size = t.attributes.size
  buffers : s.buffers.size = t.buffers.size
  behind : ∀ id, (s.attr id).buffer = (t.attr id).buffer
  attr : ∀ id, (s.attr id).pins ≤ (t.attr id).pins
  buffer : ∀ id, (s.buffer id).pins ≤ (t.buffer id).pins

namespace FewerPins
variable {s t : Scene}

theorem refl (s : Scene) : FewerPins s s :=
  ⟨rfl, rfl, fun _ => rfl, fun _ => Nat.le_refl _, fun _ => Nat.le_refl _⟩

theorem beside (h : FewerPins s t) (id : AttributeId) : FewerPins s (t.acquire id) where
  attributes := h.attributes.trans (t.sizes_acquire id).1.symm
  buffers := h.buffers.trans (t.sizes_acquire id).2.symm
  behind other := by
    rw [h.behind, Scene.attr_acquire]
    split
    · rename_i here
      rw [here.1]
    · rfl
  attr other := by
    refine Nat.le_trans (h.attr other) ?_
    rw [Scene.attr_acquire]
    split
    · rename_i here
      rw [here.1]
      exact Nat.le_succ _
    · exact Nat.le_refl _
  buffer other := by
    refine Nat.le_trans (h.buffer other) ?_
    rw [Scene.buffer_acquire]
    split
    · rename_i here
      rw [here.1]
      exact Nat.le_succ _
    · exact Nat.le_refl _

theorem acquire (h : FewerPins s t) (id : AttributeId) :
    FewerPins (s.acquire id) (t.acquire id) where
  attributes := by rw [(s.sizes_acquire id).1, (t.sizes_acquire id).1, h.attributes]
  buffers := by rw [(s.sizes_acquire id).2, (t.sizes_acquire id).2, h.buffers]
  behind other := by
    rw [Scene.attr_acquire, Scene.attr_acquire, h.attributes]
    split
    · exact h.behind id
    · exact h.behind other
  attr other := by
    rw [Scene.attr_acquire, Scene.attr_acquire, h.attributes]
    split
    · exact Nat.succ_le_succ (h.attr id)
    · exact h.attr other
  buffer other := by
    rw [Scene.buffer_acquire, Scene.buffer_acquire, h.behind, h.buffers]
    split
    · exact Nat.succ_le_succ (h.buffer _)
    · exact h.buffer other

theorem takePin (h : FewerPins s t) {id : AttributeId} {u : Scene}
    (taken : takePin id t = .ok () u) :
    DrawSubmission.takePin id s = .ok () (s.acquire id) ∧ u = t.acquire id := by
  unfold DrawSubmission.takePin at taken
  dsimp only at taken
  split at taken
  · cases taken
  rename_i room
  split at taken
  · cases taken
  rename_i room'
  cases taken
  refine ⟨takePin_of_room (fun full => room (Nat.le_trans full (h.attr id))) fun full => room' ?_,
    rfl⟩
  rw [← h.behind]
  exact Nat.le_trans full (h.buffer _)

/-- Where some attributes can be pinned, fewer of them can be. -/
theorem takePins {xs ys : List AttributeId} (sublist : ys.Sublist xs) (h : FewerPins s t)
    (done done' : List AttributeId) {u : Scene} (taken : takePins done xs t = .ok () u) :
    DrawSubmission.takePins done' ys s = .ok () (ys.foldl Scene.acquire s) := by
  induction sublist generalizing s t done done' with
  | slnil => rfl
  | cons id sublist ih =>
    unfold DrawSubmission.takePins at taken
    cases first : DrawSubmission.takePin id t with
    | error cause v =>
      rw [first] at taken
      cases taken
    | ok _ v =>
      rw [first] at taken
      obtain ⟨_, rfl⟩ := h.takePin first
      exact ih (h.beside id) (done ++ [id]) done' taken
  | cons_cons id sublist ih =>
    unfold DrawSubmission.takePins at taken ⊢
    cases first : DrawSubmission.takePin id t with
    | error cause v =>
      rw [first] at taken
      cases taken
    | ok _ v =>
      rw [first] at taken
      obtain ⟨here, rfl⟩ := h.takePin first
      rw [here]
      exact ih (h.acquire id) (done ++ [id]) (done' ++ [id]) taken

end FewerPins

end DrawSubmission
