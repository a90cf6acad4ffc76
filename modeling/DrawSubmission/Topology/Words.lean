import DrawSubmission.Topology
import DrawSubmission.Topology.Faces
import DrawSubmission.Traversal
set_option autoImplicit false

namespace DrawSubmission.Topology

abbrev WordEdge := UInt32 × UInt32

def ahead? (i k : UInt32) : Option UInt32 :=
  if i.toNat + k.toNat < UInt32.size then some (i + k) else none

def behind? (i k : UInt32) : Option UInt32 := if k ≤ i then some (i - k) else none

def wordCycle? (size : Nat) (first : UInt32) : Option (List WordEdge) := do
  let around ← (List.range size).mapM fun k => ahead? first (.ofNat k)
  return boundary around

def wordGroups? (size count : UInt32) : Option (List WordEdge) :=
  if count % size = 0 then do
    let cycles ← (List.range (count.toNat / size.toNat)).mapM fun k =>
      wordCycle? size.toNat (.ofNat (size.toNat * k))
    return cycles.flatten
  else some []

def wordClosing? (anchor? : UInt32 → Option UInt32) (i : UInt32) : Option (List WordEdge) := do
  let before ← behind? i 1
  let anchor ← anchor? i
  return [(before, i), (anchor, i)]

def wordShared? (anchor? : UInt32 → Option UInt32) (count : UInt32) : Option (List WordEdge) :=
  if 3 ≤ count then do
    let closing ← (List.range' 3 (count.toNat - 3)).mapM fun i => wordClosing? anchor? (.ofNat i)
    return [(0, 1), (1, 2), (0, 2)] ++ closing.flatten
  else some []

/-- The edges of a draw of `count` positions, if no sum or difference leaves its word. -/
def wordEdges? (topology : Topology) (count : UInt32) : Option (List WordEdge) :=
  match topology with
  | triangleList => wordGroups? 3 count
  | quadList => wordGroups? 4 count
  | triangleFan => wordShared? (fun _ => some 0) count
  | triangleStrip => wordShared? (behind? · 2) count
  | pointList | lineList | lineLoop | lineStrip => some []

def words : Edge → WordEdge := Prod.map UInt32.ofNat UInt32.ofNat

def positions : WordEdge → Edge := Prod.map UInt32.toNat UInt32.toNat

theorem ahead?_ofNat {i k : Nat} (small : i + k < UInt32.size) :
    ahead? (.ofNat i) (.ofNat k) = some (.ofNat (i + k)) := by
  unfold ahead?
  rw [UInt32.toNat_ofNat_of_lt' (by omega), UInt32.toNat_ofNat_of_lt' (by omega), if_pos small,
    UInt32.ofNat_add]

theorem behind?_ofNat {i : Nat} {k : UInt32} (small : i < UInt32.size) (enough : k.toNat ≤ i) :
    behind? (.ofNat i) k = some (.ofNat (i - k.toNat)) := by
  have le : k ≤ UInt32.ofNat i := by
    rw [UInt32.le_iff_toNat_le, UInt32.toNat_ofNat_of_lt' small]
    exact enough
  unfold behind?
  rw [if_pos le]
  congr 1
  apply UInt32.toNat_inj.mp
  rw [UInt32.toNat_sub_of_le _ _ le, UInt32.toNat_ofNat_of_lt' small,
    UInt32.toNat_ofNat_of_lt' (by omega)]

theorem wordCycle?_ofNat {size first : Nat} (positive : 0 < size)
    (small : first + size ≤ UInt32.size) :
    wordCycle? size (.ofNat first) = some ((cycle size first).map words) := by
  have around : (List.range size).mapM (fun k => ahead? (.ofNat first) (.ofNat k)) =
      some ((List.range size).map fun k => UInt32.ofNat (first + k)) :=
    mapM_eq_some_map fun k range => by
      have range := List.mem_range.mp range
      exact ahead?_ofNat (by omega)
  have places : (List.range size).map (fun k => UInt32.ofNat (first + k)) =
      (List.range' first size).map UInt32.ofNat := by
    rw [List.range'_eq_map_range, List.map_map]
    rfl
  unfold wordCycle?
  rw [around, places, ← boundary_range' positive]
  exact congrArg some (boundary_map UInt32.ofNat _)

theorem wordGroups?_eq {size : UInt32} (positive : 0 < size.toNat) (count : UInt32) :
    wordGroups? size count = some ((groupEdges size.toNat count.toNat).map words) := by
  have fills : count % size = 0 ↔ count.toNat % size.toNat = 0 := by
    rw [← UInt32.toNat_inj, UInt32.toNat_mod]
    rfl
  unfold wordGroups? groupEdges
  rw [if_congr fills rfl rfl]
  split
  · have cycles : (List.range (count.toNat / size.toNat)).mapM
          (fun k => wordCycle? size.toNat (.ofNat (size.toNat * k))) =
        some ((List.range (count.toNat / size.toNat)).map fun k =>
          (cycle size.toNat (size.toNat * k)).map words) :=
      mapM_eq_some_map fun k range => by
        have last : size.toNat * (k + 1) ≤ count.toNat :=
          Nat.le_trans (Nat.mul_le_mul_left _ (List.mem_range.mp range)) (Nat.mul_div_le _ _)
        exact wordCycle?_ofNat positive (Nat.le_trans last (Nat.le_of_lt count.toNat_lt_size))
    rw [cycles, List.map_flatMap]
    rfl
  · rfl

theorem wordShared?_eq {anchor? : UInt32 → Option UInt32} {anchor : Nat → Nat}
    (anchored : ∀ i, 3 ≤ i → i < UInt32.size → anchor? (.ofNat i) = some (.ofNat (anchor i)))
    (count : UInt32) :
    wordShared? anchor? count = some ((sharedEdges anchor count.toNat).map words) := by
  have three : 3 ≤ count ↔ 3 ≤ count.toNat := UInt32.le_iff_toNat_le
  unfold wordShared? sharedEdges
  rw [if_congr three rfl rfl]
  split
  · have closing : (List.range' 3 (count.toNat - 3)).mapM
          (fun i => wordClosing? anchor? (.ofNat i)) =
        some ((List.range' 3 (count.toNat - 3)).map fun i =>
          [(i - 1, i), (anchor i, i)].map words) :=
      mapM_eq_some_map fun i range => by
        have range := List.mem_range'_1.mp range
        have small : i < UInt32.size := by
          have := count.toNat_lt_size
          omega
        have before : behind? (.ofNat i) 1 = some (.ofNat (i - 1)) :=
          behind?_ofNat small (show 1 ≤ i by omega)
        unfold wordClosing?
        rw [before, anchored i range.1 small]
        rfl
    rw [closing, List.map_append, List.map_flatMap]
    rfl
  · rfl

theorem wordEdges?_eq (topology : Topology) (count : UInt32) :
    topology.wordEdges? count = some ((topology.wireEdges count.toNat).map words) := by
  cases topology with
  | triangleList | quadList => exact wordGroups?_eq (by decide) count
  | triangleFan =>
    have anchored : ∀ i, 3 ≤ i → i < UInt32.size → some 0 = some (UInt32.ofNat 0) :=
      fun i _ _ => rfl
    exact wordShared?_eq anchored count
  | triangleStrip =>
    have anchored : ∀ i, 3 ≤ i → i < UInt32.size →
        behind? (.ofNat i) 2 = some (UInt32.ofNat (i - 2)) :=
      fun i three small => behind?_ofNat (k := 2) small (show 2 ≤ i by omega)
    exact wordShared?_eq anchored count
  | pointList | lineList | lineLoop | lineStrip => rfl

example : triangleStrip.wordEdges? 5 =
    some [(0, 1), (1, 2), (0, 2), (2, 3), (1, 3), (3, 4), (2, 4)] := by
  decide

theorem positions_words {edge : Edge} {count : UInt32}
    (inside : edge.1 < count.toNat ∧ edge.2 < count.toNat) : positions (words edge) = edge := by
  have bound := count.toNat_lt_size
  exact Prod.ext (UInt32.toNat_ofNat_of_lt' (by omega)) (UInt32.toNat_ofNat_of_lt' (by omega))

theorem positions_wordEdges? (topology : Topology) (count : UInt32) :
    ∃ found, topology.wordEdges? count = some found ∧
      found.map positions = topology.wireEdges count.toNat := by
  refine ⟨_, wordEdges?_eq topology count, ?_⟩
  have same : ∀ edge ∈ topology.wireEdges count.toNat, (positions ∘ words) edge = id edge :=
    fun edge inside => positions_words (lt_of_mem_wireEdges inside)
  rw [List.map_map, List.map_congr_left same, List.map_id]

end DrawSubmission.Topology
