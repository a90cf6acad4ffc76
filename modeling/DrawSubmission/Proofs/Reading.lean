import Mathlib.Algebra.Ring.Nat
import DrawSubmission.Binary32
import DrawSubmission.Topology
import DrawSubmission.Traversal
import DrawSubmission.Wireframe.ReadBack
set_option autoImplicit false

namespace DrawSubmission

theorem LittleEndian.decode_lt (bytes : List UInt8) : decode bytes < 256 ^ bytes.length := by
  induction bytes with
  | nil => exact Nat.one_pos
  | cons byte bytes ih =>
    have small : byte.toNat < 256 := byte.toNat_lt
    rw [decode, List.length_cons, Nat.pow_succ']
    omega

def window? (bytes : Array UInt8) (place count : Nat) : Option (List UInt8) :=
  if place + count ≤ bytes.size then some (bytes.extract place (place + count)).toList else none

theorem length_window? {bytes : Array UInt8} {place count : Nat} {window : List UInt8}
    (h : window? bytes place count = some window) : window.length = count := by
  unfold window? at h
  split at h
  · cases h
    rw [Array.length_toList, Array.size_extract]
    omega
  · cases h

def Mapping.readScaled (mapping : Mapping) (offset times step : UInt64) (count : Nat) :
    Except FetchError (List UInt8) := do
  let skipped ← liftOverflow (mulChecked times step)
  let address ← liftOverflow (addChecked offset skipped)
  liftResource (mapping.read address count)

section Scaled
variable {mapping : Mapping} {offset times step : UInt64} {count : Nat}

theorem readScaled_of_lt (h : offset.toNat + times.toNat * step.toNat < UInt64.size) :
    mapping.readScaled offset times step count =
      liftResource (mapping.read (.ofNat (offset.toNat + times.toNat * step.toNat)) count) := by
  have product : times.toNat * step.toNat < UInt64.size := by omega
  have exact : (UInt64.ofNat (times.toNat * step.toNat)).toNat = times.toNat * step.toNat :=
    UInt64.toNat_ofNat_of_lt product
  simp only [Mapping.readScaled, mulChecked, addChecked, Overflow.check, if_pos product,
    liftOverflow, bind, Except.bind, exact, if_pos h]

theorem readScaled_of_le (h : UInt64.size ≤ offset.toNat + times.toNat * step.toNat) :
    ∃ cause, mapping.readScaled offset times step count = .error (.overflow cause) := by
  by_cases product : times.toNat * step.toNat < UInt64.size
  · have exact : (UInt64.ofNat (times.toNat * step.toNat)).toNat = times.toNat * step.toNat :=
      UInt64.toNat_ofNat_of_lt product
    refine ⟨.add, ?_⟩
    simp only [Mapping.readScaled, mulChecked, addChecked, Overflow.check, if_pos product,
      liftOverflow, bind, Except.bind, exact, if_neg (Nat.not_lt.mpr h)]
  · refine ⟨.multiply, ?_⟩
    simp only [Mapping.readScaled, mulChecked, Overflow.check, if_neg product, liftOverflow, bind,
      Except.bind]

theorem readScaled_eq_ok_iff {bytes : List UInt8} :
    mapping.readScaled offset times step count = .ok bytes ↔
      offset.toNat + times.toNat * step.toNat < UInt64.size ∧
        window? mapping.bytes (offset.toNat + times.toNat * step.toNat) count = some bytes := by
  by_cases small : offset.toNat + times.toNat * step.toNat < UInt64.size
  · have exact : (UInt64.ofNat (offset.toNat + times.toNat * step.toNat)).toNat = _ :=
      UInt64.toNat_ofNat_of_lt small
    rw [readScaled_of_lt small, Mapping.read, exact, window?]
    split <;> simp [liftResource, small]
  · obtain ⟨cause, failed⟩ : ∃ cause, mapping.readScaled offset times step count =
        .error (.overflow cause) := readScaled_of_le (Nat.le_of_not_lt small)
    simp [failed, small]

theorem readScaled_overflows_iff :
    (∃ cause, mapping.readScaled offset times step count = .error (.overflow cause)) ↔
      UInt64.size ≤ offset.toNat + times.toNat * step.toNat := by
  refine ⟨fun ⟨cause, failed⟩ => Nat.le_of_not_lt fun small => ?_, readScaled_of_le⟩
  rw [readScaled_of_lt small] at failed
  cases outcome : mapping.read (.ofNat (offset.toNat + times.toNat * step.toNat)) count <;>
    rw [outcome] at failed <;> cases failed

end Scaled

def VertexLayout.address (layout : VertexLayout) (vertex : Nat) : Nat :=
  layout.offset.toNat + vertex * layout.effectiveStride.toNat

def VertexLayout.width (layout : VertexLayout) : Nat := 4 * min layout.components.toNat 3

def Indices.place (indices : Indices) (n : Nat) : Nat :=
  indices.offset.toNat + n * indices.format.size

def corners (edges : List Edge) : List Nat := edges.flatMap fun edge => [edge.1, edge.2]

theorem lt_of_mem_corners {topology : Topology} {count k : Nat}
    (h : k ∈ corners (topology.wireEdges count)) : k < count := by
  obtain ⟨edge, inside, either⟩ := List.mem_flatMap.mp h
  obtain ⟨start, finish⟩ := Topology.lt_of_mem_wireEdges inside
  simp only [List.mem_cons, List.not_mem_nil, or_false] at either
  rcases either with rfl | rfl
  · exact start
  · exact finish

def VertexLayout.fetchCorner (layout : VertexLayout) (mapping : Mapping) (source : IndexSource)
    (k : Nat) : Except FetchError Vertex3 := do
  layout.fetch mapping (← source.vertexAt k)

theorem fetchEdge_eq (layout : VertexLayout) (mapping : Mapping) (source : IndexSource)
    (edge : Edge) : layout.fetchEdge mapping source edge =
      (do return ⟨← layout.fetchCorner mapping source edge.1,
        ← layout.fetchCorner mapping source edge.2⟩) := by
  simp only [VertexLayout.fetchEdge, VertexLayout.fetchCorner, bind_assoc]

theorem mapM_fetchEdge (layout : VertexLayout) (mapping : Mapping) (source : IndexSource)
    (edges : List Edge) :
    (List.flatMap Segment.vertices) <$> edges.mapM (layout.fetchEdge mapping source) =
      (corners edges).mapM (layout.fetchCorner mapping source) := by
  induction edges with
  | nil => rfl
  | cons edge edges ih =>
    have split : corners (edge :: edges) = edge.1 :: edge.2 :: corners edges := rfl
    rw [split, List.mapM_cons, List.mapM_cons, List.mapM_cons, ← ih, fetchEdge_eq]
    -- Both sides fetch the start, the end and then the rest; they nest it differently.
    change _ = (do
      let start ← layout.fetchCorner mapping source edge.1
      let positions ← (do
        let finish ← layout.fetchCorner mapping source edge.2
        let rest ← (List.flatMap Segment.vertices) <$>
          edges.mapM (layout.fetchEdge mapping source)
        return finish :: rest)
      return start :: positions)
    cases layout.fetchCorner mapping source edge.1 with
    | error error => rfl
    | ok start =>
      cases layout.fetchCorner mapping source edge.2 with
      | error error => rfl
      | ok finish => cases edges.mapM (layout.fetchEdge mapping source) <;> rfl

namespace IndexSource

/-- The address of the index at a position of the draw is in its word. -/
def Reaches (source : IndexSource) (k : Nat) : Prop :=
  ∀ indices mapped, source.indices = some (indices, mapped) →
    indices.place (source.first.toNat + k) < UInt64.size

def vertex? (source : IndexSource) (k : Nat) : Option Nat :=
  match source.indices with
  | none => some (source.first.toNat + k)
  | some (indices, mapped) =>
    (window? mapped.bytes (indices.place (source.first.toNat + k)) indices.format.size).map
      LittleEndian.decode

/-- The address of an index or of the vertex that it names leaves its word. -/
def Strays (source : IndexSource) (layout : VertexLayout) (k : Nat) : Prop :=
  ¬ source.Reaches k ∨ ∃ v, source.vertex? k = some v ∧ UInt64.size ≤ layout.address v

end IndexSource

theorem reaches_some {first : UInt32} {indices : Indices} {mapped : Mapping} {k : Nat} :
    IndexSource.Reaches ⟨first, some (indices, mapped)⟩ k ↔
      indices.place (first.toNat + k) < UInt64.size := by
  simp [IndexSource.Reaches]

theorem IndexFormat.toNat_size (format : IndexFormat) :
    (UInt64.ofNat format.size).toNat = format.size := by
  cases format <;> rfl

theorem decode_lt_of_window {bytes : Array UInt8} {place : Nat} {format : IndexFormat}
    {window : List UInt8} (h : window? bytes place format.size = some window) :
    LittleEndian.decode window < UInt64.size := by
  have bound := LittleEndian.decode_lt window
  rw [length_window? h] at bound
  refine Nat.lt_trans bound ?_
  cases format <;> decide

theorem vertexAt_eq (first : UInt32) (indices : Indices) (mapped : Mapping) (k : Nat) :
    IndexSource.vertexAt ⟨first, some (indices, mapped)⟩ k =
      (fun bytes => .ofNat (LittleEndian.decode bytes)) <$>
        mapped.readScaled indices.offset (.ofNat (first.toNat + k)) (.ofNat indices.format.size)
          indices.format.size := by
  simp only [IndexSource.vertexAt, Mapping.readScaled, map_eq_pure_bind, bind_assoc]

theorem fetch_eq (layout : VertexLayout) (mapping : Mapping) (vertex : UInt64) :
    layout.fetch mapping vertex = Vertex3.ofBytes <$>
      mapping.readScaled layout.offset vertex layout.effectiveStride layout.width := by
  simp only [VertexLayout.fetch, Mapping.readScaled, VertexLayout.width, map_eq_pure_bind,
    bind_assoc]

section Corners
variable {layout : VertexLayout} {mapping : Mapping} {source : IndexSource} {k : Nat}

theorem fetch_eq_ok_iff {vertex : UInt64} {position : Vertex3} :
    layout.fetch mapping vertex = .ok position ↔
      layout.address vertex.toNat < UInt64.size ∧
        ∃ bytes, window? mapping.bytes (layout.address vertex.toNat) layout.width = some bytes ∧
          Vertex3.ofBytes bytes = position := by
  rw [fetch_eq, map_eq_ok_iff]
  simp only [readScaled_eq_ok_iff, VertexLayout.address]
  exact ⟨fun ⟨bytes, ⟨near, window⟩, same⟩ => ⟨near, bytes, window, same⟩,
    fun ⟨near, bytes, window, same⟩ => ⟨bytes, ⟨near, window⟩, same⟩⟩

theorem fetch_overflows_iff {vertex : UInt64} :
    (∃ cause, layout.fetch mapping vertex = .error (.overflow cause)) ↔
      UInt64.size ≤ layout.address vertex.toNat := by
  simp only [fetch_eq, map_eq_error_iff]
  exact readScaled_overflows_iff

section Vertices
variable (small : source.first.toNat + k < UInt64.size)
include small

theorem vertexAt_eq_ok_iff {v : UInt64} :
    source.vertexAt k = .ok v ↔ source.Reaches k ∧ source.vertex? k = some v.toNat := by
  obtain ⟨first, indices⟩ := source
  have exact : (UInt64.ofNat (first.toNat + k)).toNat = first.toNat + k :=
    UInt64.toNat_ofNat_of_lt small
  cases indices with
  | none =>
    simp only [IndexSource.vertexAt, IndexSource.Reaches, IndexSource.vertex?, pure, Except.pure,
      Except.ok.injEq, Option.some.injEq, reduceCtorEq, false_imp_iff, implies_true, true_and]
    rw [← exact, UInt64.toNat_inj, UInt64.ofNat_toNat]
  | some both =>
    obtain ⟨indices, mapped⟩ := both
    simp only [vertexAt_eq, map_eq_ok_iff, readScaled_eq_ok_iff, exact, IndexFormat.toNat_size,
      reaches_some, IndexSource.vertex?, Option.map_eq_some_iff]
    constructor
    · rintro ⟨bytes, ⟨near, window⟩, rfl⟩
      refine ⟨near, bytes, window, ?_⟩
      exact (UInt64.toNat_ofNat_of_lt (decode_lt_of_window window)).symm
    · rintro ⟨near, bytes, window, number⟩
      exact ⟨bytes, ⟨near, window⟩, by rw [number, UInt64.ofNat_toNat]⟩

theorem vertexAt_overflows_iff :
    (∃ cause, source.vertexAt k = .error (.overflow cause)) ↔ ¬ source.Reaches k := by
  obtain ⟨first, indices⟩ := source
  have exact : (UInt64.ofNat (first.toNat + k)).toNat = first.toNat + k :=
    UInt64.toNat_ofNat_of_lt small
  cases indices with
  | none => simp [IndexSource.vertexAt, IndexSource.Reaches, pure, Except.pure]
  | some both =>
    obtain ⟨indices, mapped⟩ := both
    simp only [vertexAt_eq, map_eq_error_iff]
    rw [readScaled_overflows_iff, exact, IndexFormat.toNat_size, reaches_some, Nat.not_lt]
    rfl

theorem fetchCorner_eq_ok {position : Vertex3}
    (h : layout.fetchCorner mapping source k = .ok position) :
    ∃ v, source.vertex? k = some v ∧
      ∃ bytes, window? mapping.bytes (layout.address v) layout.width = some bytes ∧
        Vertex3.ofBytes bytes = position := by
  unfold VertexLayout.fetchCorner at h
  cases found : source.vertexAt k with
  | error error =>
    rw [found] at h
    cases h
  | ok v =>
    rw [found] at h
    exact ⟨v.toNat, ((vertexAt_eq_ok_iff small).mp found).2, (fetch_eq_ok_iff.mp h).2⟩

theorem vertex?_lt {v : Nat} (h : source.vertex? k = some v) : v < UInt64.size := by
  unfold IndexSource.vertex? at h
  split at h
  · cases h
    exact small
  · obtain ⟨window, read, same⟩ := Option.map_eq_some_iff.mp h
    rw [← same]
    exact decode_lt_of_window read

/-- A corner overflows just if the address of its index or that of its vertex leaves its word. -/
theorem fetchCorner_overflows_iff :
    (∃ cause, layout.fetchCorner mapping source k = .error (.overflow cause)) ↔
      source.Strays layout k := by
  unfold VertexLayout.fetchCorner IndexSource.Strays
  constructor
  · rintro ⟨cause, failed⟩
    cases found : source.vertexAt k with
    | error error =>
      rw [found] at failed
      cases failed
      exact .inl ((vertexAt_overflows_iff small).mp ⟨cause, found⟩)
    | ok v =>
      rw [found] at failed
      refine .inr ⟨v.toNat, ((vertexAt_eq_ok_iff small).mp found).2, ?_⟩
      exact fetch_overflows_iff.mp ⟨cause, failed⟩
  · intro strays
    by_cases reaches : source.Reaches k
    · obtain ⟨v, named, far⟩ := strays.resolve_left (not_not_intro reaches)
      have exact : (UInt64.ofNat v).toNat = v := UInt64.toNat_ofNat_of_lt (vertex?_lt small named)
      rw [← exact] at named far
      obtain ⟨cause, failed⟩ : ∃ cause, layout.fetch mapping (.ofNat v) =
          .error (.overflow cause) := fetch_overflows_iff.mpr far
      rw [(vertexAt_eq_ok_iff small).mpr ⟨reaches, named⟩]
      exact ⟨cause, failed⟩
    · obtain ⟨cause, failed⟩ := (vertexAt_overflows_iff small).mpr reaches
      rw [failed]
      exact ⟨cause, rfl⟩

end Vertices

end Corners

end DrawSubmission
