import DrawSubmission.Proofs.Completion
import DrawSubmission.Proofs.Geometry
import DrawSubmission.Proofs.Mappings
set_option autoImplicit false

namespace DrawSubmission

structure Access where
  buffer : BufferId
  place : Nat
  count : Nat
deriving DecidableEq

namespace Access

def bytes (access : Access) (s : Scene) : List UInt8 :=
  ((s.buffer access.buffer).contents.extract access.place (access.place + access.count)).toList

def Fits (access : Access) (s : Scene) : Prop :=
  access.place < UInt64.size ∧
    access.place + access.count ≤ (s.buffer access.buffer).contents.size

instance (access : Access) (s : Scene) : Decidable (access.Fits s) :=
  inferInstanceAs (Decidable (_ ∧ _))

def Refused (access : Access) (s : Scene) (error : FetchError) : Prop :=
  if access.place < UInt64.size then
    error = .resource
      (.outOfBounds (.ofNat access.place) (s.buffer access.buffer).contents.size)
  else ∃ cause, error = .overflow cause

end Access

def Indices.access (indices : Indices) (n : Nat) : Access :=
  ⟨indices.buffer, indices.place n, indices.format.size⟩

def VertexAttribute.access (a : VertexAttribute) (vertex : Nat) : Access :=
  ⟨a.buffer, a.layout.address vertex, a.layout.width⟩

namespace Scene
variable (s : Scene) (a : VertexAttribute) (first : UInt32) (indices : Option Indices)

/-- The number of the vertex at a position of a draw, out of the index there if it has indices. -/
def vertexNumber (k : Nat) : Nat :=
  match indices with
  | none => first.toNat + k
  | some indices => LittleEndian.decode ((indices.access (first.toNat + k)).bytes s)

/-- A component of the position of a vertex; those past the third or past its last are zero. -/
def component (vertex c : Nat) : Binary32 :=
  if c < min a.layout.components.toNat 3 then
    .ofBytes (Access.bytes ⟨a.buffer, a.layout.address vertex + 4 * c, 4⟩ s)
  else .zero

def vertexPosition (vertex : Nat) : Vertex3 :=
  ⟨s.component a vertex 0, s.component a vertex 1, s.component a vertex 2⟩

def corner (k : Nat) : Vertex3 := s.vertexPosition a (s.vertexNumber first indices k)

def indexAccesses (k : Nat) : List Access :=
  indices.toList.map fun indices => indices.access (first.toNat + k)

def cornerAccesses (k : Nat) : List Access :=
  indexAccesses first indices k ++ [a.access (s.vertexNumber first indices k)]

def edgeAccesses (edge : Edge) : List Access :=
  s.cornerAccesses a first indices edge.1 ++ s.cornerAccesses a first indices edge.2

def segment (edge : Edge) : Segment :=
  ⟨s.corner a first indices edge.1, s.corner a first indices edge.2⟩

end Scene

/-- Reading answers the value if every access fits, and ends at the first that does not. -/
def Settles {α : Type} (s : Scene) (accesses : List Access) (a : α) (read : Except FetchError α) :
    Prop :=
  match accesses.find? fun access => ¬ access.Fits s with
  | none => read = .ok a
  | some access => ∃ error, read = .error error ∧ access.Refused s error

namespace Settles
variable {α β : Type} {s : Scene}

theorem pure (a : α) : Settles s [] a (.ok a) := rfl

theorem of_fits {access : Access} {a : α} {read : Except FetchError α} (fits : access.Fits s)
    (h : read = .ok a) : Settles s [access] a read := by
  unfold Settles
  rw [List.find?_cons_of_neg (by simpa using fits)]
  exact h

theorem of_not_fits {access : Access} {a : α} {read : Except FetchError α} {error : FetchError}
    (misfit : ¬ access.Fits s) (h : read = .error error) (refused : access.Refused s error) :
    Settles s [access] a read := by
  unfold Settles
  rw [List.find?_cons_of_pos (by simpa using misfit)]
  exact ⟨error, h, refused⟩

theorem bind {xs ys : List Access} {a : α} {b : β} {read : Except FetchError α}
    {next : α → Except FetchError β} (h : Settles s xs a read) (h' : Settles s ys b (next a)) :
    Settles s (xs ++ ys) b (read >>= next) := by
  unfold Settles at h ⊢
  rw [List.find?_append]
  cases found : xs.find? fun access => ¬ access.Fits s with
  | none =>
    rw [found] at h
    rw [show read = .ok a from h]
    exact h'
  | some access =>
    rw [found] at h
    obtain ⟨error, failed, refused⟩ := h
    rw [failed]
    exact ⟨error, rfl, refused⟩

theorem map {xs : List Access} {a : α} {read : Except FetchError α} (f : α → β)
    (h : Settles s xs a read) : Settles s xs (f a) (f <$> read) := by
  rw [map_eq_pure_bind, ← List.append_nil xs]
  exact h.bind (.pure (f a))

theorem mapM {γ : Type} {accesses : γ → List Access} {value : γ → α}
    {read : γ → Except FetchError α} {xs : List γ}
    (each : ∀ x ∈ xs, Settles s (accesses x) (value x) (read x)) :
    Settles s (xs.flatMap accesses) (xs.map value) (xs.mapM read) := by
  induction xs with
  | nil => exact .pure []
  | cons x xs ih =>
    have rest := ih fun y inside => each y (List.mem_cons_of_mem x inside)
    rw [List.mapM_cons, List.flatMap_cons]
    exact (each x List.mem_cons_self).bind (rest.map (value x :: ·))

end Settles

theorem settles_readScaled (s : Scene) {access : Access} {offset times step : UInt64}
    (placed : access.place = offset.toNat + times.toNat * step.toNat) :
    Settles s [access] (access.bytes s)
      ((s.view access.buffer).readScaled offset times step access.count) := by
  by_cases near : access.place < UInt64.size
  · have exact : (UInt64.ofNat access.place).toNat = access.place :=
      UInt64.toNat_ofNat_of_lt near
    have read : (s.view access.buffer).readScaled offset times step access.count =
        liftResource ((s.view access.buffer).read (.ofNat access.place) access.count) := by
      rw [placed] at near ⊢
      exact readScaled_of_lt near
    unfold Mapping.read at read
    rw [exact] at read
    by_cases inside : access.place + access.count ≤ (s.buffer access.buffer).contents.size
    · rw [if_pos (show _ ≤ (s.view access.buffer).bytes.size from inside)] at read
      exact .of_fits ⟨near, inside⟩ read
    · rw [if_neg (show ¬ _ ≤ (s.view access.buffer).bytes.size from inside)] at read
      refine .of_not_fits (fun fits => inside fits.2) read ?_
      rw [Access.Refused, if_pos near]
      rfl
  · have far : UInt64.size ≤ offset.toNat + times.toNat * step.toNat :=
      placed ▸ Nat.le_of_not_lt near
    obtain ⟨cause, failed⟩ : ∃ cause, (s.view access.buffer).readScaled offset times step
        access.count = .error (.overflow cause) := readScaled_of_le far
    refine .of_not_fits (fun fits => near fits.1) failed ?_
    rw [Access.Refused, if_neg near]
    exact ⟨cause, rfl⟩

section Fetching
variable (s : Scene) (a : VertexAttribute) (first : UInt32) (indices : Option Indices)

theorem vertexNumber_lt {k : Nat} (small : first.toNat + k < UInt64.size) :
    s.vertexNumber first indices k < UInt64.size := by
  cases indices with
  | none => exact small
  | some indices =>
    have short : ((indices.access (first.toNat + k)).bytes s).length ≤ indices.format.size := by
      simp only [Access.bytes, Indices.access, Array.length_toList, Array.size_extract]
      omega
    have bound := LittleEndian.decode_lt ((indices.access (first.toNat + k)).bytes s)
    refine Nat.lt_of_lt_of_le bound (Nat.le_trans (Nat.pow_le_pow_right (by decide) short) ?_)
    cases indices.format <;> decide

theorem ofBytes_access (vertex : Nat) :
    Vertex3.ofBytes ((a.access vertex).bytes s) = s.vertexPosition a vertex := by
  have each (c : Nat) : Binary32.ofBytes ((((a.access vertex).bytes s).drop (4 * c)).take 4) =
      s.component a vertex c := by
    unfold Scene.component Access.bytes VertexAttribute.access VertexLayout.width
    dsimp only
    split
    · rename_i present
      have four : min 4 (4 * min a.layout.components.toNat 3 - 4 * c) = 4 := by omega
      rw [Array.toList_extract, Array.toList_extract, List.extract_eq_take_drop,
        List.extract_eq_take_drop, Nat.add_sub_cancel_left, Nat.add_sub_cancel_left,
        List.drop_take, List.take_take, List.drop_drop, four]
    · rename_i absent
      rw [List.drop_of_length_le]
      · rfl
      · rw [Array.length_toList, Array.size_extract]
        omega
  rw [Scene.vertexPosition, ← each 0, ← each 1, ← each 2]
  rfl

def Scene.indexSource : IndexSource :=
  ⟨first, indices.map fun indices => (indices, s.view indices.buffer)⟩

variable {k : Nat} (small : first.toNat + k < UInt64.size)
include small

theorem settles_vertexAt :
    Settles s (Scene.indexAccesses first indices k) (.ofNat (s.vertexNumber first indices k))
      ((s.indexSource first indices).vertexAt k) := by
  have exact : (UInt64.ofNat (first.toNat + k)).toNat = first.toNat + k :=
    UInt64.toNat_ofNat_of_lt small
  cases indices with
  | none => exact .pure _
  | some indices =>
    have placed : (indices.access (first.toNat + k)).place = indices.offset.toNat +
        (UInt64.ofNat (first.toNat + k)).toNat * (UInt64.ofNat indices.format.size).toNat := by
      rw [exact, indices.format.toNat_size]
      rfl
    have read := (settles_readScaled s placed).map fun bytes =>
      UInt64.ofNat (LittleEndian.decode bytes)
    simp only [Scene.indexSource, Option.map_some, vertexAt_eq]
    exact read

theorem settles_fetchCorner :
    Settles s (s.cornerAccesses a first indices k) (s.corner a first indices k)
      (a.layout.fetchCorner (s.view a.buffer) (s.indexSource first indices) k) := by
  let vertex := s.vertexNumber first indices k
  have exact : (UInt64.ofNat vertex).toNat = vertex :=
    UInt64.toNat_ofNat_of_lt (vertexNumber_lt s first indices small)
  have placed : (a.access vertex).place = a.layout.offset.toNat +
      (UInt64.ofNat vertex).toNat * a.layout.effectiveStride.toNat := by
    rw [exact]
    rfl
  have fetched := (settles_readScaled s placed).map Vertex3.ofBytes
  rw [ofBytes_access] at fetched
  refine (settles_vertexAt s first indices small).bind ?_
  rw [fetch_eq]
  exact fetched

end Fetching

theorem settles_edges (s : Scene) (a : VertexAttribute) (first : UInt32) (indices : Option Indices)
    (edges : List Edge) (small : ∀ k ∈ corners edges, first.toNat + k < UInt64.size) :
    Settles s (edges.flatMap (s.edgeAccesses a first indices))
      (edges.map (s.segment a first indices))
      (edges.mapM (a.layout.fetchEdge (s.view a.buffer) (s.indexSource first indices))) := by
  refine .mapM fun edge inside => ?_
  have fetched (k : Nat) (either : k ∈ [edge.1, edge.2]) :=
    settles_fetchCorner s a first indices
      (small k (List.mem_flatMap.mpr ⟨edge, inside, either⟩))
  have start := fetched edge.1 (by simp)
  have finish := fetched edge.2 (by simp)
  rw [fetchEdge_eq]
  refine start.bind ?_
  exact finish.map fun v => Segment.mk (s.corner a first indices edge.1) v

theorem small_of_word {first count : UInt32} {k : Nat} (bound : k < count.toNat) :
    first.toNat + k < UInt64.size := by
  have words : UInt32.size + UInt32.size ≤ UInt64.size := by decide
  have := first.toNat_lt_size
  have := count.toNat_lt_size
  omega

section Outcome
variable {s : Scene} {α : Type}

/-- A buffer that cannot be mapped for reading: it is mapped already, or its counter is full. -/
def Buffer.blocked (b : Buffer) : Bool := b.mapped || decide (Full b.mapCount)

def BufferId.refusal (s : Scene) (id : BufferId) : FetchError :=
  if (s.buffer id).mapped then
    .resource (.mapFailed ("buffer " ++ id.text ++ " is already mapped"))
  else .overflow .count

def Buffer.taken (b : Buffer) : Buffer := { b with mapped := true, mapCount := b.mapCount + 1 }

theorem viewing_of_blocked {id : BufferId} (blocked : (s.buffer id).blocked = true)
    (read : Mapping → Scene → Except FetchError α) :
    s.viewing id read = .error (id.refusal s) := by
  unfold Scene.viewing BufferId.refusal Buffer.map
  cases mapped : (s.buffer id).mapped with
  | true => rfl
  | false =>
    have full : Full (s.buffer id).mapCount := by
      simpa [Buffer.blocked, mapped] using blocked
    simp [full]

theorem mapBuffer_of_free {id : BufferId} (free : (s.buffer id).blocked = false) :
    mapBuffer id .read s = .ok (.ok (s.view id)) (s.setBuffer id (s.buffer id).taken) := by
  obtain ⟨mapped, room⟩ := Bool.or_eq_false_iff.mp free
  have map : (s.buffer id).map id .read = .ok (s.buffer id).taken := by
    simp [Buffer.map, mapped, Buffer.taken]
  rw [mapBuffer, map]
  exact if_neg (of_decide_eq_false room)

theorem viewing_of_free {id : BufferId} (free : (s.buffer id).blocked = false)
    (read : Mapping → Scene → Except FetchError α) :
    ∃ t, s.viewing id read = read (s.view id) t ∧
      (∀ other, t.view other = s.view other) ∧ ∀ other ≠ id, t.buffer other = s.buffer other := by
  have map := mapBuffer_of_free free
  refine ⟨_, by rw [viewing_eq, map], (view_of_map map).2, fun other apart => ?_⟩
  rw [Scene.buffer_setBuffer, if_neg fun here => apart here.1]

/-- The buffers of an outline are mapped one after the other, and the first that cannot be mapped
keeps the others from being read. -/
theorem readBack_eq {position : AttributeId} {topology : Topology} {first count : UInt32}
    {indices : Option Indices}
    (apart : ∀ array, indices = some array → array.buffer ≠ (s.attr position).buffer)
    (drawn : ¬ (topology.wireEdges count.toNat = [] ∨ (s.attr position).layout.type ≠ .float)) :
    s.readBack position topology first count indices =
      match ((s.attr position).buffer :: indices.toList.map Indices.buffer).find? fun id =>
          (s.buffer id).blocked with
      | some id => .error (id.refusal s)
      | none => (topology.wireEdges count.toNat).mapM ((s.attr position).layout.fetchEdge
          (s.view (s.attr position).buffer) (s.indexSource first indices)) := by
  unfold Scene.readBack
  rw [if_neg (by simpa [List.isEmpty_iff] using drawn)]
  cases vertices : (s.buffer (s.attr position).buffer).blocked with
  | true =>
    simp only [viewing_of_blocked vertices, List.find?_cons, vertices]
  | false =>
    simp only [List.find?_cons, vertices]
    cases indices with
    | none =>
      obtain ⟨t, read, _⟩ := viewing_of_free vertices _
      exact read
    | some array =>
      obtain ⟨t, read, views, others⟩ := viewing_of_free vertices _
      rw [read]
      have untouched := others array.buffer (apart array rfl)
      simp only [Option.toList_some, List.map_cons, List.map_nil, List.find?_cons]
      cases blocked : (s.buffer array.buffer).blocked with
      | true =>
        rw [viewing_of_blocked (untouched ▸ blocked)]
        simp only [BufferId.refusal, untouched]
      | false =>
        obtain ⟨u, read', _⟩ := viewing_of_free (s := t) (untouched ▸ blocked) _
        rw [read', views array.buffer]
        rfl

theorem reconstruct_nothing {position : AttributeId} {topology : Topology} {first count : UInt32}
    {indices : Option Indices}
    (h : topology.wireEdges count.toNat = [] ∨ (s.attr position).layout.type ≠ .float) :
    (reconstruct position topology first count indices).exit s = .ok (.ok []) ∧
      ((reconstruct position topology first count indices).after s).buffers = s.buffers := by
  have done : SceneM.Ensures (fun t => t = s) (reconstruct position topology first count indices)
      (fun result t => result = .ok [] ∧ t.buffers = s.buffers) fun _ _ => False := by
    refine .get_bind fun u same => ?_
    subst u
    dsimp only
    by_cases empty : (topology.wireEdges count.toNat).isEmpty
    · rw [if_pos empty]
      rintro t rfl
      exact ⟨rfl, rfl⟩
    · rw [if_neg empty, if_pos (h.resolve_left (mt List.isEmpty_iff.mpr empty))]
      rintro t rfl
      exact ⟨rfl, rfl⟩
  have done := done s rfl
  revert done
  unfold SceneM.exit SceneM.after
  cases reconstruct position topology first count indices s with
  | ok result t => exact fun ⟨empty, same⟩ => ⟨congrArg Except.ok empty, same⟩
  | error overflow t => exact False.elim

def Exits (m : SceneM (Except ResourceError α)) (s : Scene) (read : Except FetchError α) : Prop :=
  match read with
  | .ok a => m.exit s = .ok (.ok a)
  | .error (.resource error) => m.exit s = .ok (.error error)
  | .error (.overflow cause) => m.exit s = .error cause

theorem Reads.exits {m : SceneM (Except ResourceError α)} {read : Except FetchError α}
    (h : Reads m s read) : Exits m s read := by
  have done := h s rfl
  revert done
  unfold Exits SceneM.exit
  cases m s with
  | ok result t =>
    rintro ⟨_, rfl⟩
    cases result <;> rfl
  | error cause t =>
    rintro ⟨_, rfl⟩
    rfl

end Outcome

theorem getElem?_vertices (segment : Edge → Segment) {edges : List Edge} {j : Nat} {edge : Edge}
    (h : edges[j]? = some edge) :
    ((edges.map segment).flatMap Segment.vertices)[2 * j]? = some (segment edge).start ∧
      ((edges.map segment).flatMap Segment.vertices)[2 * j + 1]? = some (segment edge).finish := by
  induction edges generalizing j with
  | nil => cases h
  | cons first edges ih =>
    cases j with
    | zero =>
      cases h
      exact ⟨rfl, rfl⟩
    | succ j => exact ih (j := j) h

/-- The outcome of reading an outline of vertices and indices in different buffers: nothing where
there are no faces or no float positions; if a buffer cannot be mapped, a refusal where it is mapped
already and an overflow where its counter is full; and else what the first access that does not fit
makes of it, or the positions if there is none. -/
theorem reconstruct_outcome (s : Scene) (position : AttributeId) (topology : Topology)
    (first count : UInt32) (indices : Option Indices)
    (apart : ∀ array, indices = some array → array.buffer ≠ (s.attr position).buffer) :
    let a := s.attr position
    let edges := topology.wireEdges count.toNat
    let run : SceneM _ := reconstruct position topology first count indices
    if edges = [] ∨ a.layout.type ≠ .float then
      run.exit s = .ok (.ok []) ∧ (run.after s).buffers = s.buffers
    else
      match (a.buffer :: indices.toList.map Indices.buffer).find? fun id =>
          (s.buffer id).mapped ∨ Full (s.buffer id).mapCount with
      | some id =>
        run.exit s = if (s.buffer id).mapped then
            .ok (.error (.mapFailed ("buffer " ++ id.text ++ " is already mapped")))
          else .error .count
      | none =>
        match (edges.flatMap (s.edgeAccesses a first indices)).find? fun access =>
            ¬ access.Fits s with
        | some access =>
          if access.place < UInt64.size then
            run.exit s = .ok (.error
              (.outOfBounds (.ofNat access.place) (s.buffer access.buffer).contents.size))
          else ∃ cause, run.exit s = .error cause
        | none =>
          ∃ outline, run.exit s = .ok (.ok outline) ∧
            let vertices := outline.flatMap Segment.vertices
            vertices.length = 2 * edges.length ∧
              ∀ j edge, edges[j]? = some edge →
                vertices[2 * j]? = some (s.corner a first indices edge.1) ∧
                  vertices[2 * j + 1]? = some (s.corner a first indices edge.2) := by
  intro a edges run
  have exit := (reads_reconstruct s position topology first count indices).exits
  split
  · rename_i nothing
    exact reconstruct_nothing nothing
  · rename_i drawn
    have blocked : (fun id => decide ((s.buffer id).mapped ∨ Full (s.buffer id).mapCount)) =
        fun id => (s.buffer id).blocked := by
      funext id
      rw [Buffer.blocked, Bool.decide_or, Bool.decide_eq_true]
    rw [readBack_eq apart drawn] at exit
    simp only [blocked]
    split
    · rename_i id found
      rw [found] at exit
      change Exits _ _ (.error (id.refusal s)) at exit
      unfold BufferId.refusal at exit
      split
      · rename_i mapped
        rw [if_pos mapped] at exit
        exact exit
      · rename_i full
        rw [if_neg full] at exit
        exact exit
    · rename_i free
      rw [free] at exit
      have settled := settles_edges s a first indices edges
        fun k inside => small_of_word (lt_of_mem_corners inside)
      unfold Settles at settled
      split
      · rename_i access misfit
        rw [misfit] at settled
        obtain ⟨error, failed, refused⟩ := settled
        simp only [edges, a] at failed
        rw [failed] at exit
        unfold Access.Refused at refused
        split
        · rename_i near
          rw [if_pos near] at refused
          subst refused
          exact exit
        · rename_i far
          rw [if_neg far] at refused
          obtain ⟨cause, rfl⟩ := refused
          exact ⟨cause, exit⟩
      · rename_i fits
        rw [fits] at settled
        simp only [edges, a] at settled
        rw [settled] at exit
        refine ⟨_, exit, ?_, fun j edge inside => getElem?_vertices _ inside⟩
        rw [length_flatMap_of_two (fun _ => rfl), List.length_map]

/-- Three positions, and indices of which the last one names an eighth. -/
def oneTooFar : List Operation :=
  [ .newBuffer (Array.replicate 36 0) (.device 0),
    .newBuffer #[0, 1, 7] .client,
    .newAttribute false ⟨0⟩ "strand_position_in" ⟨3, .float, 0, 0⟩ ]

theorem reconstruct_outcome_oneTooFar :
    let s := (Scene.create {} []).run oneTooFar
    let indices : Indices := ⟨⟨1⟩, .uint8, 0⟩
    (∀ array, some indices = some array → array.buffer ≠ (s.attr ⟨0⟩).buffer) ∧
      SceneM.exit (reconstruct ⟨0⟩ .triangleList 0 3 (some indices)) s =
        .ok (.error (.outOfBounds 84 36)) := by
  intro s indices
  have apart : ∀ array, some indices = some array → array.buffer ≠ (s.attr ⟨0⟩).buffer := by
    intro array same
    cases same
    decide +kernel
  have drawn : ¬ (Topology.triangleList.wireEdges (3 : UInt32).toNat = [] ∨
      (s.attr ⟨0⟩).layout.type ≠ .float) := by
    decide +kernel
  have free : (((s.attr ⟨0⟩).buffer :: (some indices).toList.map Indices.buffer).find? fun id =>
      (s.buffer id).mapped ∨ Full (s.buffer id).mapCount) = none := by
    decide +kernel
  have misfit : (((Topology.triangleList.wireEdges (3 : UInt32).toNat).flatMap
      (s.edgeAccesses (s.attr ⟨0⟩) 0 (some indices))).find? fun access => ¬ access.Fits s) =
        some ⟨⟨0⟩, 84, 12⟩ := by
    decide +kernel
  have size : (s.buffer ⟨0⟩).contents.size = 36 := by decide +kernel
  -- Only these facts of the scene are needed, not how it came about.
  clear_value s
  have outcome := reconstruct_outcome s ⟨0⟩ .triangleList 0 3 (some indices) apart
  dsimp only at outcome
  rw [if_neg drawn, free] at outcome
  dsimp only at outcome
  rw [misfit] at outcome
  dsimp only at outcome
  rw [if_pos (by decide), size] at outcome
  exact ⟨apart, outcome⟩

/-- All accesses to a buffer may fit and nobody have it mapped, and yet reading the outline ends in
an overflow where the buffer was mapped too often. -/
theorem reconstruct_of_full_count :
    let s := (Custody.run ⟨Scene.create {} [], []⟩ wornTriangle).scene
    let a := s.attr ⟨0⟩
    let edges := Topology.triangleList.wireEdges 3
    edges ≠ [] ∧ a.layout.type = .float ∧ (s.buffer a.buffer).mapped = false ∧
      (∀ access ∈ edges.flatMap (s.edgeAccesses a 0 none), access.Fits s) ∧
      SceneM.exit (reconstruct ⟨0⟩ .triangleList 0 3 none) s = .error .count := by
  simp only [run_wornTriangle]
  decide +kernel

end DrawSubmission

