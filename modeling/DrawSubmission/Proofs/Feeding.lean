import Mathlib.Data.List.Induction
import DrawSubmission.Proofs.Coherence
set_option autoImplicit false

namespace DrawSubmission

def ofRole (role : Role) (channels : List Channel) : List Channel :=
  channels.filter (·.role == role)

structure DriverState.Rested (d : DriverState) : Prop where
  normalArray : d.normalArray = false
  genericArray : ∀ i, d.genericArray i = false

/-- The pointer of the last of some channels, if there is one, is the one in force. -/
def InForce (channels : List Channel) (pointer : Option Pointer) : Prop :=
  ∀ c, channels.getLast? = some c → pointer = some c.pointer

/-- Normals and custom attributes are read from arrays that are on, and everything is read where the
last channel of its kind points. -/
structure DriverState.Feeds (d : DriverState) (channels : List Channel) : Prop where
  normalArray : d.normalArray = hasRole .normal channels
  genericArray : ∀ i, d.genericArray i = decide (i < (ofRole .custom channels).length)
  vertexPointer : InForce (ofRole .position channels) d.vertexPointer
  colorPointer : InForce (ofRole .color channels) d.colorPointer
  normalPointer : InForce (ofRole .normal channels) d.normalPointer
  texCoordPointer : ∀ unit, InForce (ofRole (.textureCoord unit) channels) (d.texCoordPointer unit)
  genericPointer : ∀ i c, (ofRole .custom channels)[i]? = some c →
    d.genericPointer i = some (c.pointer, c.normalized)

theorem ofRole_snoc (role : Role) (xs : List Channel) (c : Channel) :
    ofRole role (xs ++ [c]) = ofRole role xs ++ if c.role = role then [c] else [] := by
  by_cases same : c.role = role <;> simp [ofRole, same]

theorem genericCount_eq (channels : List Channel) :
    genericCount channels = (ofRole .custom channels).length := by
  induction channels with
  | nil => rfl
  | cons c channels ih =>
    have first : genericCount (c :: channels) = c.generics + genericCount channels := List.sum_cons
    rw [first, ih, Channel.generics]
    by_cases custom : c.role = .custom
    · simp [custom, ofRole, Nat.add_comm]
    · simp [custom, ofRole]

theorem InForce.snoc {role : Role} {xs : List Channel} {pointer : Option Pointer}
    (h : InForce (ofRole role xs) pointer) (c : Channel) :
    InForce (ofRole role (xs ++ [c])) (if c.role = role then some c.pointer else pointer) := by
  rw [ofRole_snoc]
  by_cases same : c.role = role
  · rw [if_pos same, if_pos same]
    intro last inside
    rw [List.getLast?_concat] at inside
    cases inside
    rfl
  · rw [if_neg same, if_neg same, List.append_nil]
    exact h

section SetUp
variable (d : DriverState) (c : Channel) (units : BitVec 32) (generic : Nat)

theorem run_texCoord (unit : Fin 32) (on : Bool) (pointer : Pointer) :
    d.run ((if on then [] else [.setTexCoordArrayEnabled unit true]) ++
        [.setTexCoordPointer unit pointer]) =
      { d with
        texCoordArray := if on then d.texCoordArray else Function.update d.texCoordArray unit true
        texCoordPointer := Function.update d.texCoordPointer unit (some pointer) } := by
  cases on <;> rfl

theorem vertexPointer_setUp : (d.run (c.setUpCalls units generic)).vertexPointer =
    if c.role = .position then some c.pointer else d.vertexPointer := by
  unfold Channel.setUpCalls
  cases c.role with
  | textureCoord unit =>
    dsimp only
    rw [run_texCoord]
    rfl
  | position | color | normal | custom => rfl

theorem colorPointer_setUp : (d.run (c.setUpCalls units generic)).colorPointer =
    if c.role = .color then some c.pointer else d.colorPointer := by
  unfold Channel.setUpCalls
  cases c.role with
  | textureCoord unit =>
    dsimp only
    rw [run_texCoord]
    rfl
  | position | color | normal | custom => rfl

theorem normalPointer_setUp : (d.run (c.setUpCalls units generic)).normalPointer =
    if c.role = .normal then some c.pointer else d.normalPointer := by
  unfold Channel.setUpCalls
  cases c.role with
  | textureCoord unit =>
    dsimp only
    rw [run_texCoord]
    rfl
  | position | color | normal | custom => rfl

theorem normalArray_setUp : (d.run (c.setUpCalls units generic)).normalArray =
    (d.normalArray || c.role == .normal) := by
  unfold Channel.setUpCalls
  cases c.role with
  | textureCoord unit =>
    dsimp only
    rw [run_texCoord]
    exact (Bool.or_false _).symm
  | normal => exact (Bool.or_true _).symm
  | position | color | custom => exact (Bool.or_false _).symm

theorem texCoordPointer_setUp (unit : Fin 32) :
    (d.run (c.setUpCalls units generic)).texCoordPointer unit =
      if c.role = .textureCoord unit then some c.pointer else d.texCoordPointer unit := by
  unfold Channel.setUpCalls
  cases c.role with
  | textureCoord used =>
    dsimp only
    rw [run_texCoord]
    dsimp only
    rw [Function.update_apply]
    by_cases same : unit = used <;> simp [same, eq_comm]
  | position | color | normal | custom => rfl

theorem genericArray_setUp (i : Nat) : (d.run (c.setUpCalls units generic)).genericArray i =
    if c.role = .custom ∧ i = generic then true else d.genericArray i := by
  unfold Channel.setUpCalls
  cases c.role with
  | textureCoord unit =>
    dsimp only
    rw [run_texCoord]
    rfl
  | custom =>
    change Function.update d.genericArray generic true i = _
    rw [Function.update_apply]
    simp
  | position | color | normal => rfl

theorem genericPointer_setUp (i : Nat) : (d.run (c.setUpCalls units generic)).genericPointer i =
    if c.role = .custom ∧ i = generic then some (c.pointer, c.normalized)
    else d.genericPointer i := by
  unfold Channel.setUpCalls
  cases c.role with
  | textureCoord unit =>
    dsimp only
    rw [run_texCoord]
    rfl
  | custom =>
    change Function.update d.genericPointer generic (some (c.pointer, c.normalized)) i = _
    rw [Function.update_apply]
    simp
  | position | color | normal => rfl

end SetUp

def DriverCall.isFeeding : DriverCall → Bool
  | setNormalArrayEnabled _ | setGenericArrayEnabled .. => true
  | call => call.isPointer

namespace DriverState

theorem Rested.feeds {d : DriverState} (h : d.Rested) : d.Feeds [] where
  normalArray := h.normalArray
  genericArray i := h.genericArray i
  vertexPointer _ none := nomatch none
  colorPointer _ none := nomatch none
  normalPointer _ none := nomatch none
  texCoordPointer _ _ none := nomatch none
  genericPointer _ _ none := nomatch none

theorem Feeds.snoc {d : DriverState} {xs : List Channel} (h : d.Feeds xs) (units : BitVec 32)
    (c : Channel) : (d.run (c.setUpCalls units (genericCount xs))).Feeds (xs ++ [c]) where
  normalArray := by rw [normalArray_setUp, hasRole_snoc, h.normalArray]
  genericArray i := by
    rw [genericArray_setUp, h.genericArray, ofRole_snoc, genericCount_eq, List.length_append]
    by_cases custom : c.role = .custom
    · simp only [custom, true_and, ↓reduceIte, List.length_singleton, Bool.if_true_left]
      rw [← Bool.decide_or]
      exact decide_eq_decide.mpr (by omega)
    · simp [custom]
  vertexPointer := by
    rw [vertexPointer_setUp]
    exact h.vertexPointer.snoc c
  colorPointer := by
    rw [colorPointer_setUp]
    exact h.colorPointer.snoc c
  normalPointer := by
    rw [normalPointer_setUp]
    exact h.normalPointer.snoc c
  texCoordPointer unit := by
    rw [texCoordPointer_setUp]
    exact (h.texCoordPointer unit).snoc c
  genericPointer i c' inside := by
    rw [genericPointer_setUp, genericCount_eq]
    rw [ofRole_snoc] at inside
    by_cases last : c.role = .custom ∧ i = (ofRole .custom xs).length
    · obtain ⟨custom, place⟩ := last
      subst place
      simp only [custom, ↓reduceIte, List.getElem?_concat_length] at inside
      cases inside
      simp [custom]
    · rw [if_neg last]
      apply h.genericPointer i c'
      by_cases custom : c.role = .custom
      · have apart : i ≠ (ofRole .custom xs).length := fun place => last ⟨custom, place⟩
        rw [if_pos custom, List.getElem?_append] at inside
        split at inside
        · exact inside
        · have beyond : [c].length ≤ i - (ofRole .custom xs).length := by
            rw [List.length_singleton]
            omega
          rw [List.getElem?_eq_none beyond] at inside
          cases inside
      · simpa [custom] using inside

theorem Feeds.setUp {d : DriverState} (rested : d.Rested) (units : BitVec 32)
    (channels : List Channel) : (d.run (setUpCalls units 0 channels)).Feeds channels := by
  induction channels using List.reverseRecOn with
  | nil => exact rested.feeds
  | append_singleton channels c ih =>
    rw [setUpCalls_append, run_append, Nat.zero_add, setUpCalls, setUpCalls, List.append_nil]
    exact ih.snoc _ c

theorem feeds_apply {d : DriverState} {channels : List Channel} {call : DriverCall}
    (h : d.Feeds channels) (other : call.isFeeding = false) : (d.apply call).Feeds channels := by
  obtain ⟨normalArray, genericArray, vertex, color, normal, texCoord, generic⟩ := h
  cases call <;> first
    | exact ⟨normalArray, genericArray, vertex, color, normal, texCoord, generic⟩
    | cases other

theorem Feeds.other {d : DriverState} {channels : List Channel} {calls : List DriverCall}
    (h : d.Feeds channels) (other : ∀ call ∈ calls, call.isFeeding = false) :
    (d.run calls).Feeds channels := by
  induction calls generalizing d with
  | nil => exact h
  | cons call calls ih =>
    have next := feeds_apply h (other call List.mem_cons_self)
    exact ih next fun call' inside => other call' (List.mem_cons_of_mem call inside)

theorem rested_apply {d : DriverState} {call : DriverCall} (h : d.Rested)
    (other : call.isFeeding = false) : (d.apply call).Rested := by
  cases call <;> first | exact ⟨h.normalArray, h.genericArray⟩ | cases other

theorem Rested.other {d : DriverState} {calls : List DriverCall} (h : d.Rested)
    (other : ∀ call ∈ calls, call.isFeeding = false) : (d.run calls).Rested := by
  induction calls generalizing d with
  | nil => exact h
  | cons call calls ih =>
    have next := rested_apply h (other call List.mem_cons_self)
    exact ih next fun call' inside => other call' (List.mem_cons_of_mem call inside)

section TearDown
variable (d : DriverState) (generic : Nat) (roles : List Role)

theorem normalArray_tearDown :
    (d.run (tearDownCalls generic roles)).normalArray =
      (d.normalArray && !roles.contains .normal) := by
  induction roles generalizing d generic with
  | nil => simp [tearDownCalls, run_nil]
  | cons role roles ih =>
    cases role with
    | normal =>
      rw [tearDownCalls, run_cons, ih]
      simp [apply]
    | custom =>
      rw [tearDownCalls, run_cons, ih]
      simp [apply]
    | position | color | textureCoord unit => simp [tearDownCalls, ih]

theorem genericArray_tearDown (i : Nat) :
    (d.run (tearDownCalls generic roles)).genericArray i =
      (d.genericArray i && !decide (generic ≤ i ∧ i < generic + roles.count .custom)) := by
  induction roles generalizing d generic with
  | nil =>
    have none : ¬ (generic ≤ i ∧ i < generic + ([] : List Role).count .custom) := by
      rw [List.count_nil]
      omega
    simp only [none, decide_false, Bool.not_false, Bool.and_true]
    rfl
  | cons role roles ih =>
    cases role with
    | custom =>
      have off : (d.apply (.setGenericArrayEnabled generic false)).genericArray i =
          if i = generic then false else d.genericArray i :=
        Function.update_apply ..
      rw [tearDownCalls, run_cons, ih, off, List.count_cons_self]
      by_cases here : i = generic
      · have within : generic ≤ i ∧ i < generic + (roles.count .custom + 1) := by omega
        rw [if_pos here, decide_eq_true within, Bool.not_true, Bool.and_false, Bool.false_and]
      · have same : (generic + 1 ≤ i ∧ i < generic + 1 + roles.count .custom) ↔
            (generic ≤ i ∧ i < generic + (roles.count .custom + 1)) := by omega
        rw [if_neg here, decide_eq_decide.mpr same]
    | normal =>
      rw [tearDownCalls, run_cons, ih]
      simp [apply]
    | position | color | textureCoord unit => simp [tearDownCalls, ih]

theorem count_custom (channels : List Channel) :
    (channels.map Channel.role).count .custom = (ofRole .custom channels).length := by
  rw [List.count_eq_countP, List.countP_map, List.countP_eq_length_filter]
  rfl

/-- The tear-down for the roles of all attributes reaches the arrays of the readable ones. -/
theorem Feeds.tearDown {d : DriverState} {channels : List Channel} (h : d.Feeds channels)
    {roles : List Role} (inside : (channels.map Channel.role).Sublist roles) :
    (d.run (tearDownCalls 0 roles)).Rested where
  normalArray := by
    rw [normalArray_tearDown, h.normalArray]
    cases fed : hasRole .normal channels with
    | false => rfl
    | true =>
      obtain ⟨c, member, role⟩ := List.any_eq_true.mp fed
      have reached : Role.normal ∈ roles := by
        rw [← eq_of_beq role]
        exact inside.subset (List.mem_map_of_mem member)
      rw [List.contains_iff_mem.mpr reached]
      rfl
  genericArray i := by
    have count := inside.count_le .custom
    rw [count_custom] at count
    rw [genericArray_tearDown, h.genericArray]
    by_cases fed : i < (ofRole .custom channels).length
    · have reached : 0 ≤ i ∧ i < 0 + roles.count .custom := by omega
      rw [decide_eq_true reached, Bool.not_true, Bool.and_false]
    · rw [decide_eq_false fed, Bool.false_and]

end TearDown

end DriverState

end DrawSubmission
