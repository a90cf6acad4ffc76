import DrawSubmission.Topology.Faces
import DrawSubmission.Topology.Words
set_option autoImplicit false

namespace DrawSubmission.Topology

/-- The boundaries of the consecutive groups of `size` positions, if the groups fill the count. -/
def AreGroups (size count : Nat) (edges : List Edge) : Prop :=
  if size ∣ count then
    ∃ groups : List (List Nat), groups.flatten = List.range count ∧
      (∀ group ∈ groups, group.length = size) ∧
      edges = groups.flatMap boundary ∧ edges.length = count
  else edges = []

/-- The edges that any of the triangles has, if there are positions for one. -/
def AreTriangles (triangle : List Nat → Prop) (count : Nat) (edges : List Edge) : Prop :=
  if 3 ≤ count then
    (∀ edge, edge ∈ undirected edges ↔
      ∃ corners, triangle corners ∧ edge ∈ undirected (boundary corners)) ∧
    edges.length = 2 * count - 3
  else edges = []

theorem areGroups_groupEdges {size : Nat} (positive : 0 < size) (count : Nat) :
    AreGroups size count (groupEdges size count) := by
  unfold AreGroups
  split
  · rename_i fills
    exact ⟨groups size count, flatten_groups fills, fun group => length_of_mem_groups,
      groupEdges_eq_boundaries positive fills, length_groupEdges fills⟩
  · rename_i partly
    exact groupEdges_of_not_dvd partly

theorem areTriangles_sharedEdges (anchor : Nat → Nat) {triangle : List Nat → Prop} {count : Nat}
    (first : anchor 2 = 0)
    (follows : ∀ i, 3 ≤ i → anchor i = i - 2 ∨ anchor i = anchor (i - 1))
    (corners : ∀ positions, triangle positions ↔
      ∃ i, 2 ≤ i ∧ i < count ∧ positions = [anchor i, i - 1, i]) :
    AreTriangles triangle count (sharedEdges anchor count) := by
  unfold AreTriangles
  split
  · rename_i three
    refine ⟨fun edge => ?_, length_sharedEdges three⟩
    rw [mem_undirected_sharedEdges first follows three]
    constructor
    · rintro ⟨i, low, high, inside⟩
      exact ⟨_, (corners _).mpr ⟨i, low, high, rfl⟩, inside⟩
    · rintro ⟨positions, shape, inside⟩
      obtain ⟨i, low, high, rfl⟩ := (corners positions).mp shape
      exact ⟨i, low, high, inside⟩
  · rename_i few
    exact sharedEdges_of_lt (Nat.lt_of_not_le few)

theorem distinct_of_mem_wireEdges {topology : Topology} {count : Nat} {edge : Edge}
    (h : edge ∈ topology.wireEdges count) : edge.1 ≠ edge.2 := by
  cases topology with
  | triangleList | quadList => exact distinct_of_mem_groupEdges (by decide) h
  | triangleFan =>
    exact Nat.ne_of_lt (ascends_of_mem_sharedEdges (fun i three => by omega) h).1
  | triangleStrip =>
    exact Nat.ne_of_lt (ascends_of_mem_sharedEdges (fun i three => by omega) h).1
  | pointList | lineList | lineLoop | lineStrip => cases h

theorem nodup_undirected_wireEdges (topology : Topology) (count : Nat) :
    (undirected (topology.wireEdges count)).Nodup := by
  cases topology with
  | triangleList | quadList => exact nodup_undirected_groupEdges (by decide)
  | triangleFan => exact nodup_undirected_sharedEdges (fun i three => by omega) count
  | triangleStrip => exact nodup_undirected_sharedEdges (fun i three => by omega) count
  | pointList | lineList | lineLoop | lineStrip => exact List.nodup_nil

/-- The edges of any draw join distinct positions of it, words suffice to compute them, and they are
the edges of the faces, each once. -/
theorem wireEdges_are_face_edges (topology : Topology) (count : UInt32) :
    let n := count.toNat
    let edges := topology.wireEdges n
    (∀ edge ∈ edges, edge.1 ≠ edge.2 ∧ edge.1 < n ∧ edge.2 < n) ∧
    (∃ found, topology.wordEdges? count = some found ∧ found.map positions = edges) ∧
    (undirected edges).Nodup ∧
    match topology with
    | triangleList => AreGroups 3 n edges
    | quadList => AreGroups 4 n edges
    | triangleStrip =>
      AreTriangles (fun corners => ∃ i, i + 2 < n ∧ corners = [i, i + 1, i + 2]) n edges
    | triangleFan =>
      AreTriangles (fun corners => ∃ i, 1 ≤ i ∧ i + 1 < n ∧ corners = [0, i, i + 1]) n edges
    | pointList | lineList | lineLoop | lineStrip => edges = [] := by
  intro n edges
  refine ⟨fun edge inside => ⟨distinct_of_mem_wireEdges inside, lt_of_mem_wireEdges inside⟩,
    positions_wordEdges? topology count, nodup_undirected_wireEdges topology n, ?_⟩
  cases topology with
  | triangleList | quadList => exact areGroups_groupEdges (by decide) n
  | triangleStrip =>
    refine areTriangles_sharedEdges (fun i => i - 2) rfl (fun i _ => .inl rfl) ?_
    intro positions
    constructor
    · rintro ⟨i, inside, rfl⟩
      exact ⟨i + 2, by omega, inside, rfl⟩
    · rintro ⟨i, low, inside, rfl⟩
      obtain ⟨k, rfl⟩ := Nat.exists_eq_add_of_le' low
      exact ⟨k, inside, rfl⟩
  | triangleFan =>
    refine areTriangles_sharedEdges (fun _ => 0) rfl (fun i _ => .inr rfl) ?_
    intro positions
    constructor
    · rintro ⟨i, low, inside, rfl⟩
      exact ⟨i + 1, by omega, inside, rfl⟩
    · rintro ⟨i, low, inside, rfl⟩
      obtain ⟨k, rfl⟩ := Nat.exists_eq_add_of_le' low
      exact ⟨k + 1, by omega, inside, rfl⟩
  | pointList | lineList | lineLoop | lineStrip => rfl

end DrawSubmission.Topology
