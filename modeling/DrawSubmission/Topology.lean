set_option autoImplicit false

namespace DrawSubmission

inductive Topology where
  | pointList
  | lineList
  | lineLoop
  | lineStrip
  | triangleList
  | triangleStrip
  | triangleFan
  | quadList
deriving DecidableEq

abbrev Edge := Nat × Nat

namespace Topology

def name : Topology → String
  | pointList => "PointList"
  | lineList => "LineList"
  | lineLoop => "LineLoop"
  | lineStrip => "LineStrip"
  | triangleList => "TriangleList"
  | triangleStrip => "TriangleStrip"
  | triangleFan => "TriangleFan"
  | quadList => "QuadList"

def cycle (size first : Nat) : List Edge :=
  (List.range size).map fun k => (first + k, first + (k + 1) % size)

/-- The cycles of the consecutive groups of `size` positions, if they fill the count. -/
def groupEdges (size count : Nat) : List Edge :=
  if count % size = 0 then (List.range (count / size)).flatMap fun k => cycle size (size * k)
  else []

/-- Triangles that share edges: every position from the third on closes a triangle with the one
before it and with its anchor. -/
def sharedEdges (anchor : Nat → Nat) (count : Nat) : List Edge :=
  if 3 ≤ count then
    [(0, 1), (1, 2), (0, 2)] ++
      (List.range' 3 (count - 3)).flatMap fun i => [(i - 1, i), (anchor i, i)]
  else []

def wireEdges (topology : Topology) (count : Nat) : List Edge :=
  match topology with
  | triangleList => groupEdges 3 count
  | quadList => groupEdges 4 count
  | triangleFan => sharedEdges (fun _ => 0) count
  | triangleStrip => sharedEdges (fun i => i - 2) count
  | pointList | lineList | lineLoop | lineStrip => []

theorem lt_of_mem_groupEdges {size count : Nat} (positive : 0 < size) {edge : Edge}
    (h : edge ∈ groupEdges size count) : edge.1 < count ∧ edge.2 < count := by
  unfold groupEdges at h
  split at h
  · obtain ⟨k, group, inside⟩ := List.mem_flatMap.mp h
    obtain ⟨i, place, same⟩ := List.mem_map.mp inside
    have next : (i + 1) % size < size := Nat.mod_lt (i + 1) positive
    have last : size * (k + 1) ≤ count :=
      Nat.le_trans (Nat.mul_le_mul_left size (List.mem_range.mp group)) (Nat.mul_div_le count size)
    rw [Nat.mul_succ] at last
    have place := List.mem_range.mp place
    rw [← same]
    dsimp only
    omega
  · cases h

theorem lt_of_mem_sharedEdges {anchor : Nat → Nat} (before : ∀ i, anchor i ≤ i) {count : Nat}
    {edge : Edge} (h : edge ∈ sharedEdges anchor count) : edge.1 < count ∧ edge.2 < count := by
  unfold sharedEdges at h
  split at h
  · rcases List.mem_append.mp h with first | later
    · simp only [List.mem_cons, List.not_mem_nil, or_false] at first
      rcases first with rfl | rfl | rfl <;> dsimp only <;> omega
    · obtain ⟨i, range, inside⟩ := List.mem_flatMap.mp later
      have range := List.mem_range'_1.mp range
      have anchored := before i
      simp only [List.mem_cons, List.not_mem_nil, or_false] at inside
      rcases inside with rfl | rfl <;> dsimp only <;> omega
  · cases h

theorem lt_of_mem_wireEdges {topology : Topology} {count : Nat} {edge : Edge}
    (h : edge ∈ topology.wireEdges count) : edge.1 < count ∧ edge.2 < count := by
  cases topology with
  | triangleList | quadList => exact lt_of_mem_groupEdges (by decide) h
  | triangleFan => exact lt_of_mem_sharedEdges (fun i => Nat.zero_le i) h
  | triangleStrip => exact lt_of_mem_sharedEdges (fun i => Nat.sub_le i 2) h
  | pointList | lineList | lineLoop | lineStrip => cases h

end Topology

end DrawSubmission
