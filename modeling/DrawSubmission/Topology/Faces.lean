import Mathlib.Data.Sym.Sym2
import Mathlib.Data.List.Nodup
import DrawSubmission.Topology
set_option autoImplicit false

namespace DrawSubmission.Topology

def boundary {α : Type} (face : List α) : List (α × α) := face.zip (face.rotate 1)

theorem boundary_map {α β : Type} (f : α → β) (face : List α) :
    boundary (face.map f) = (boundary face).map (Prod.map f f) := by
  unfold boundary
  rw [← List.map_rotate, List.zip_map]

def undirected (edges : List Edge) : List (Sym2 Nat) := edges.map fun edge => s(edge.1, edge.2)

theorem undirected_append (edges edges' : List Edge) :
    undirected (edges ++ edges') = undirected edges ++ undirected edges' :=
  List.map_append

theorem mem_undirected_triangle {a b c : Nat} {edge : Sym2 Nat} :
    edge ∈ undirected (boundary [a, b, c]) ↔ edge = s(a, b) ∨ edge = s(b, c) ∨ edge = s(c, a) := by
  change edge ∈ [s(a, b), s(b, c), s(c, a)] ↔ _
  simp

theorem nodup_undirected {edges : List Edge} (h : edges.Pairwise fun edge edge' =>
    s(edge.1, edge.2) ≠ s(edge'.1, edge'.2)) : (undirected edges).Nodup :=
  List.pairwise_map.mpr h

section Groups

def groups (size count : Nat) : List (List Nat) :=
  (List.range (count / size)).map fun k => List.range' (size * k) size

theorem length_of_mem_groups {size count : Nat} {group : List Nat} (h : group ∈ groups size count) :
    group.length = size := by
  obtain ⟨k, -, rfl⟩ := List.mem_map.mp h
  exact List.length_range'

theorem flatten_groups {size count : Nat} (fills : size ∣ count) :
    (groups size count).flatten = List.range count := by
  obtain ⟨whole, rfl⟩ := fills
  rcases Nat.eq_zero_or_pos size with rfl | positive
  · simp [groups]
  unfold groups
  rw [Nat.mul_div_cancel_left whole positive]
  induction whole with
  | zero => rfl
  | succ k ih =>
    rw [List.range_succ, List.map_append, List.flatten_append, ih, Nat.mul_succ, List.range_add]
    simp [List.range'_eq_map_range]

theorem boundary_range' {size first : Nat} (positive : 0 < size) :
    boundary (List.range' first size) = cycle size first := by
  apply List.ext_getElem
  · simp [boundary, cycle]
  · intro k inside inside'
    have range : k < size := by simpa [cycle] using inside'
    have next : (k + 1) % size < size := Nat.mod_lt _ positive
    simp [boundary, cycle, List.getElem_rotate]

theorem groupEdges_eq_boundaries {size count : Nat} (positive : 0 < size) (fills : size ∣ count) :
    groupEdges size count = (groups size count).flatMap boundary := by
  unfold groupEdges groups
  rw [if_pos (Nat.mod_eq_zero_of_dvd fills), List.flatMap_map]
  exact List.flatMap_congr fun k _ => (boundary_range' positive).symm

theorem length_groupEdges {size count : Nat} (fills : size ∣ count) :
    (groupEdges size count).length = count := by
  unfold groupEdges
  rw [if_pos (Nat.mod_eq_zero_of_dvd fills)]
  have each : ∀ k, (cycle size (size * k)).length = size := fun k => by simp [cycle]
  simp [List.length_flatMap, each, Nat.div_mul_cancel fills]

theorem groupEdges_of_not_dvd {size count : Nat} (partly : ¬ size ∣ count) :
    groupEdges size count = [] :=
  if_neg fun h => partly (Nat.dvd_of_mod_eq_zero h)

theorem mem_cycle {size first : Nat} {edge : Edge} (positive : 0 < size)
    (h : edge ∈ cycle size first) :
    (first ≤ edge.1 ∧ edge.1 < first + size) ∧ first ≤ edge.2 ∧ edge.2 < first + size := by
  obtain ⟨k, range, rfl⟩ := List.mem_map.mp h
  have range := List.mem_range.mp range
  have next : (k + 1) % size < size := Nat.mod_lt _ positive
  dsimp only
  omega

/-- Only in a cycle of two would the way back repeat an edge. -/
theorem nodup_undirected_cycle {size first : Nat} (three : 3 ≤ size) :
    (undirected (cycle size first)).Nodup := by
  apply nodup_undirected
  refine List.pairwise_map.mpr (List.Pairwise.imp_of_mem ?_ List.pairwise_lt_range)
  intro k l _ range less same
  have range := List.mem_range.mp range
  have step : (k + 1) % size = k + 1 := Nat.mod_eq_of_lt (by omega)
  dsimp only at same
  rw [step] at same
  rcases Sym2.eq_iff.mp same with ⟨here, _⟩ | ⟨back, ahead⟩
  · omega
  · have ends : l = k + 1 := by omega
    subst ends
    rcases Nat.lt_or_ge (k + 1 + 1) size with inner | last
    · rw [Nat.mod_eq_of_lt inner] at back
      omega
    · have closed : k + 1 + 1 = size := by omega
      rw [closed, Nat.mod_self] at back
      omega

theorem nodup_undirected_groupEdges {size count : Nat} (three : 3 ≤ size) :
    (undirected (groupEdges size count)).Nodup := by
  unfold groupEdges
  split
  · unfold undirected
    rw [List.map_flatMap]
    refine List.nodup_flatMap.mpr ⟨fun k _ => nodup_undirected_cycle three, ?_⟩
    refine List.Pairwise.imp ?_ List.pairwise_lt_range
    intro k l less edge first second
    obtain ⟨a, inside, rfl⟩ := List.mem_map.mp first
    obtain ⟨b, inside', same⟩ := List.mem_map.mp second
    have one := mem_cycle (by omega) inside
    have other := mem_cycle (by omega) inside'
    have apart : size * k + size ≤ size * l := Nat.mul_le_mul_left size less
    rcases Sym2.eq_iff.mp same with ⟨here, _⟩ | ⟨here, _⟩ <;> omega
  · exact List.nodup_nil

theorem distinct_of_mem_groupEdges {size count : Nat} (two : 2 ≤ size) {edge : Edge}
    (h : edge ∈ groupEdges size count) : edge.1 ≠ edge.2 := by
  unfold groupEdges at h
  split at h
  · obtain ⟨k, _, inside⟩ := List.mem_flatMap.mp h
    obtain ⟨i, range, rfl⟩ := List.mem_map.mp inside
    have range := List.mem_range.mp range
    rcases Nat.lt_or_ge (i + 1) size with inner | last
    · have step : (i + 1) % size = i + 1 := Nat.mod_eq_of_lt inner
      dsimp only
      omega
    · have closed : (i + 1) % size = 0 := by
        rw [show i + 1 = size by omega, Nat.mod_self]
      dsimp only
      omega
  · cases h

end Groups

section Shared
variable {anchor : Nat → Nat}

theorem sharedEdges_of_lt {count : Nat} (few : count < 3) : sharedEdges anchor count = [] :=
  if_neg (Nat.not_le.mpr few)

theorem sharedEdges_three : sharedEdges anchor 3 = [(0, 1), (1, 2), (0, 2)] := rfl

theorem sharedEdges_succ {count : Nat} (three : 3 ≤ count) :
    sharedEdges anchor (count + 1) =
      sharedEdges anchor count ++ [(count - 1, count), (anchor count, count)] := by
  have range : List.range' 3 (count + 1 - 3) = List.range' 3 (count - 3) ++ [count] := by
    rw [Nat.succ_sub three, List.range'_concat]
    simp [Nat.add_sub_cancel' three]
  unfold sharedEdges
  rw [if_pos three, if_pos (Nat.le_succ_of_le three), range, List.flatMap_append, List.append_assoc]
  rfl

theorem length_sharedEdges {count : Nat} (three : 3 ≤ count) :
    (sharedEdges anchor count).length = 2 * count - 3 := by
  induction count, three using Nat.le_induction with
  | base => rfl
  | succ count three ih =>
    rw [sharedEdges_succ three, List.length_append, ih]
    simp
    omega

theorem ascends_of_mem_sharedEdges (before : ∀ i, 3 ≤ i → anchor i < i - 1) {count : Nat}
    {edge : Edge} (h : edge ∈ sharedEdges anchor count) : edge.1 < edge.2 ∧ edge.2 < count := by
  rcases Nat.lt_or_ge count 3 with few | three
  · rw [sharedEdges_of_lt few] at h
    cases h
  induction count, three using Nat.le_induction with
  | base =>
    rw [sharedEdges_three] at h
    simp only [List.mem_cons, List.not_mem_nil, or_false] at h
    rcases h with rfl | rfl | rfl <;> decide
  | succ count three ih =>
    rw [sharedEdges_succ three, List.mem_append] at h
    rcases h with earlier | new
    · have := ih earlier
      omega
    · have anchored := before count three
      simp only [List.mem_cons, List.not_mem_nil, or_false] at new
      rcases new with rfl | rfl <;> dsimp only <;> omega

/-- The edges of a step end in a position that no earlier edge has reached. -/
theorem nodup_undirected_sharedEdges (before : ∀ i, 3 ≤ i → anchor i < i - 1) (count : Nat) :
    (undirected (sharedEdges anchor count)).Nodup := by
  rcases Nat.lt_or_ge count 3 with few | three
  · rw [sharedEdges_of_lt few]
    exact List.nodup_nil
  induction count, three using Nat.le_induction with
  | base =>
    rw [sharedEdges_three]
    decide
  | succ count three ih =>
    have anchored := before count three
    rw [sharedEdges_succ three, undirected_append]
    refine List.nodup_append.mpr ⟨ih, nodup_undirected ?_, ?_⟩
    · simp only [List.pairwise_cons, List.mem_singleton, forall_eq, List.not_mem_nil,
        false_imp_iff, implies_true, List.Pairwise.nil, and_true]
      intro same
      rcases Sym2.eq_iff.mp same with ⟨here, _⟩ | ⟨here, _⟩ <;> omega
    · rintro old earlier new later rfl
      obtain ⟨edge, inside, rfl⟩ := List.mem_map.mp earlier
      obtain ⟨edge', inside', same⟩ := List.mem_map.mp later
      have reached := ascends_of_mem_sharedEdges before inside
      have ends : edge'.2 = count := by
        simp only [List.mem_cons, List.not_mem_nil, or_false] at inside'
        rcases inside' with rfl | rfl <;> rfl
      rcases Sym2.eq_iff.mp same with ⟨_, here⟩ | ⟨_, here⟩ <;> omega

/-- The third edge of a new triangle, the one away from its last position, is an edge of the
triangle before it. -/
theorem mem_undirected_sharedEdges (first : anchor 2 = 0)
    (follows : ∀ i, 3 ≤ i → anchor i = i - 2 ∨ anchor i = anchor (i - 1)) {count : Nat}
    (three : 3 ≤ count) (edge : Sym2 Nat) :
    edge ∈ undirected (sharedEdges anchor count) ↔
      ∃ i, 2 ≤ i ∧ i < count ∧ edge ∈ undirected (boundary [anchor i, i - 1, i]) := by
  induction count, three using Nat.le_induction with
  | base =>
    have only (P : Nat → Prop) : (∃ i, 2 ≤ i ∧ i < 3 ∧ P i) ↔ P 2 :=
      ⟨fun ⟨i, low, high, h⟩ => (show i = 2 by omega) ▸ h, fun h => ⟨2, by decide, by decide, h⟩⟩
    rw [only, first, mem_undirected_triangle, sharedEdges_three]
    change edge ∈ [s(0, 1), s(1, 2), s(0, 2)] ↔ _
    rw [show s(2, 0) = s(0, 2) from Sym2.eq_swap]
    simp
  | succ count three ih =>
    have new : edge ∈ undirected [(count - 1, count), (anchor count, count)] ↔
        edge = s(count - 1, count) ∨ edge = s(count, anchor count) := by
      rw [show s(count, anchor count) = s(anchor count, count) from Sym2.eq_swap]
      simp [undirected]
    rw [sharedEdges_succ three, undirected_append, List.mem_append, ih, new]
    constructor
    · rintro (⟨i, low, high, h⟩ | h)
      · exact ⟨i, low, Nat.lt_succ_of_lt high, h⟩
      · exact ⟨count, by omega, Nat.lt_succ_self count, mem_undirected_triangle.mpr (.inr h)⟩
    · rintro ⟨i, low, high, h⟩
      rcases Nat.lt_succ_iff_lt_or_eq.mp high with earlier | rfl
      · exact .inl ⟨i, low, earlier, h⟩
      rcases mem_undirected_triangle.mp h with inner | outer
      · refine .inl ⟨i - 1, by omega, by omega, mem_undirected_triangle.mpr ?_⟩
        rcases follows i three with back | same
        · exact .inr (.inl (by rw [inner, back, Nat.sub_sub]))
        · exact .inr (.inr (by rw [inner, same, Sym2.eq_swap]))
      · exact .inr outer

end Shared

end DrawSubmission.Topology
