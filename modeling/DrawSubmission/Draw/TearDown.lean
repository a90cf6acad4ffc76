import DrawSubmission.Channels
import DrawSubmission.Scene.Outcome
set_option autoImplicit false

namespace DrawSubmission

def tearDownCalls (generic : Nat) : List Role → List DriverCall
  | [] => []
  | .normal :: roles => .setNormalArrayEnabled false :: tearDownCalls generic roles
  | .custom :: roles => .setGenericArrayEnabled generic false :: tearDownCalls (generic + 1) roles
  | _ :: roles => tearDownCalls generic roles

theorem forall_tearDownCalls {p : DriverCall → Prop}
    (generic : ∀ i, p (.setGenericArrayEnabled i false))
    (normal : p (.setNormalArrayEnabled false)) {first : Nat} {roles : List Role} :
    ∀ call ∈ tearDownCalls first roles, p call := by
  induction roles generalizing first with
  | nil => exact fun _ inside => nomatch inside
  | cons role roles ih =>
    cases role with
    | normal => exact List.forall_mem_cons.mpr ⟨normal, ih⟩
    | custom => exact List.forall_mem_cons.mpr ⟨generic first, ih⟩
    | position | color | textureCoord unit => exact ih

theorem tearDown_eq (s : Scene) (attributes : List AttributeId) (generic : Nat) :
    (attributes.foldl Scene.tearDownChannel (generic, s)).2 = { s with
      calls := s.calls ++
        (tearDownCalls generic (attributes.map fun id => (s.attr id).role)).toArray } := by
  have first (u : Scene) (call : DriverCall) (calls : List DriverCall) :
      (u.record call).calls ++ calls.toArray = u.calls ++ (call :: calls).toArray := by
    simp [Scene.record]
  induction attributes generalizing s generic with
  | nil => simp [tearDownCalls]
  | cons id attributes ih =>
    rw [List.foldl_cons, List.map_cons]
    cases role : (s.attr id).role with
    | normal | custom =>
      simp only [Scene.tearDownChannel, role, tearDownCalls]
      rw [ih, ← first]
      rfl
    | position | color | textureCoord unit =>
      simp only [Scene.tearDownChannel, role, tearDownCalls]
      exact ih s generic

theorem disableAttributes_eq (s : Scene) (attributes : List AttributeId)
    (flushed : FlushedPipeline) : s.disableAttributes attributes flushed =
      { (if flushed.derived then s.note .copyReleased else s) with
        calls := s.calls ++
          (tearDownCalls 0 (attributes.map fun id => (s.attr id).role)).toArray } := by
  simp only [Scene.disableAttributes]
  rw [tearDown_eq]
  split <;> rfl

theorem disableAttributes_calls (s : Scene) (attributes : List AttributeId)
    (flushed : FlushedPipeline) :
    (s.disableAttributes attributes flushed).calls.toList =
      s.calls.toList ++ tearDownCalls 0 (attributes.map fun id => (s.attr id).role) := by
  rw [disableAttributes_eq, Array.toList_append]

theorem disableAttributes_context (s : Scene) (attributes : List AttributeId)
    (flushed : FlushedPipeline) : (s.disableAttributes attributes flushed).context = s.context := by
  rw [disableAttributes_eq]
  dsimp only
  split <;> rfl

/-- How many generic arrays some attributes take. -/
def Scene.customs (s : Scene) (attributes : List AttributeId) : Nat :=
  attributes.countP fun id => (s.attr id).role == .custom

section Counted
variable (s : Scene)

theorem tearDownChannel_next (generic : Nat) (id : AttributeId) :
    (Scene.tearDownChannel (generic, s) id).1 = generic + s.customs [id] ∧
      (Scene.tearDownChannel (generic, s) id).2.attributes = s.attributes := by
  unfold Scene.tearDownChannel Scene.customs
  cases role : (s.attr id).role <;> simp [role, Scene.record]

theorem customs_cons (id : AttributeId) (attributes : List AttributeId) :
    s.customs (id :: attributes) = s.customs [id] + s.customs attributes := by
  rw [← List.singleton_append, Scene.customs, List.countP_append]
  rfl

theorem foldlM_countTearDown (attributes : List AttributeId) (generic : Nat)
    (few : generic + s.customs attributes ≤ largestCount) :
    attributes.foldlM Scene.countTearDown generic s =
      .ok (attributes.foldl Scene.tearDownChannel (generic, s)).1
        (attributes.foldl Scene.tearDownChannel (generic, s)).2 := by
  induction attributes generalizing s generic with
  | nil => rfl
  | cons id attributes ih =>
    obtain ⟨next, same⟩ := tearDownChannel_next s generic id
    rw [customs_cons] at few
    have room : ¬ largestCount < (Scene.tearDownChannel (generic, s) id).1 := by omega
    have here : Scene.countTearDown generic id s =
        .ok (Scene.tearDownChannel (generic, s) id).1
          (Scene.tearDownChannel (generic, s) id).2 := if_neg room
    rw [List.foldlM_cons, List.foldl_cons]
    change EStateM.bind _ _ s = _
    rw [EStateM.bind, here]
    refine ih _ _ ?_
    have still : (Scene.tearDownChannel (generic, s) id).2.customs attributes =
        s.customs attributes := by
      simp only [Scene.customs, Scene.attr, same]
    omega

theorem tearDown_of_customs {attributes : List AttributeId}
    (few : s.customs attributes ≤ largestCount) (flushed : FlushedPipeline) :
    tearDown attributes flushed s = .ok () (s.disableAttributes attributes flushed) := by
  have whole := foldlM_countTearDown (if flushed.derived then s.note .copyReleased else s)
    attributes 0
  cases derived : flushed.derived with
  | false =>
    simp only [derived, Bool.false_eq_true, ↓reduceIte, Nat.zero_add] at whole
    simp only [tearDown, Scene.disableAttributes, derived, Bool.false_eq_true, ↓reduceIte]
    change EStateM.map _ _ s = _
    rw [EStateM.map, whole few]
  | true =>
    simp only [derived, ↓reduceIte, Nat.zero_add] at whole
    simp only [tearDown, Scene.disableAttributes, derived, ↓reduceIte]
    change EStateM.map _ _ (s.note .copyReleased) = _
    rw [EStateM.map, whole few]

theorem after_foldlM_countTearDown (attributes : List AttributeId) (generic : Nat) :
    ∃ front, front <+: attributes ∧
      SceneM.after (attributes.foldlM Scene.countTearDown generic) s =
        (front.foldl Scene.tearDownChannel (generic, s)).2 := by
  induction attributes generalizing s generic with
  | nil => exact ⟨[], List.prefix_rfl, rfl⟩
  | cons id attributes ih =>
    let next := Scene.tearDownChannel (generic, s) id
    rw [List.foldlM_cons]
    by_cases spent : largestCount < next.1
    · refine ⟨[id], ⟨attributes, rfl⟩, ?_⟩
      exact SceneM.after_bind_of_error (if_pos spent) _
    · obtain ⟨front, inside, same⟩ := ih next.2 next.1
      refine ⟨id :: front, List.cons_prefix_cons.mpr ⟨rfl, inside⟩, ?_⟩
      have here : Scene.countTearDown generic id s = .ok next.1 next.2 := if_neg spent
      rw [SceneM.after_bind_of_ok here, same]
      rfl

/-- A tear-down that cannot count its generic arrays ends with the one that it cannot count. -/
theorem after_tearDown (attributes : List AttributeId) (flushed : FlushedPipeline) :
    ∃ front, front <+: attributes ∧
      (tearDown attributes flushed).after s = s.disableAttributes front flushed := by
  cases derived : flushed.derived with
  | false =>
    simp only [tearDown, Scene.disableAttributes, derived, Bool.false_eq_true, ↓reduceIte,
      SceneM.after_discard]
    exact after_foldlM_countTearDown s attributes 0
  | true =>
    simp only [tearDown, Scene.disableAttributes, derived, ↓reduceIte]
    change ∃ front, _ ∧ SceneM.after (discard _) (s.note .copyReleased) = _
    simp only [SceneM.after_discard]
    exact after_foldlM_countTearDown (s.note .copyReleased) attributes 0

end Counted

end DrawSubmission
