import DrawSubmission.Scene.Bindings
import DrawSubmission.Scene.Kept
import DrawSubmission.Traversal
import DrawSubmission.Wireframe.Outline
set_option autoImplicit false

namespace DrawSubmission

/-- The two scenes keep the same and have the same bindings, and the driver has been told the
same; just the later one may have counted more mappings. -/
structure Scene.Alike (s t : Scene) : Prop where
  kept : t.kept = s.kept
  told : t.told = s.told
  bindings : SameBindings s t
  counts : ∀ id, s.mapCounts id ≤ t.mapCounts id

namespace Scene.Alike

theorem refl (s : Scene) : s.Alike s := ⟨rfl, rfl, .refl s, fun _ => Nat.le_refl _⟩

theorem trans {s t u : Scene} (h : s.Alike t) (h' : t.Alike u) : s.Alike u :=
  ⟨h'.kept.trans h.kept, h'.told.trans h.told, h.bindings.trans h'.bindings,
    fun id => Nat.le_trans (h.counts id) (h'.counts id)⟩

theorem note (s : Scene) {notice : Notice} (other : notice.isBinding = false) :
    s.Alike (s.note notice) :=
  ⟨rfl, rfl, .note s other, fun _ => Nat.le_refl _⟩

end Scene.Alike

theorem kept_unmap (s : Scene) (id : BufferId) : (s.unmap id).kept = s.kept.unmap id := by
  rw [Scene.unmap, Scene.kept_setBuffer_eq, Scene.unmap, Scene.buffer_kept]
  rfl

theorem counts_map {s : Scene} {id : BufferId} {mapped : Buffer}
    (map : (s.buffer id).map id .read = .ok mapped) (other : BufferId) :
    s.mapCounts other ≤ (s.setBuffer id mapped).mapCounts other := by
  rw [Scene.mapCounts, Scene.mapCounts, Scene.buffer_setBuffer]
  split
  · rename_i here
    rw [here.1, (Buffer.map_eq_ok map).2]
    exact Nat.le_succ _
  · exact Nat.le_refl _

theorem alike_unmap {s u : Scene} {id : BufferId} {mapped : Buffer}
    (map : (s.buffer id).map id .read = .ok mapped) (body : (s.setBuffer id mapped).Alike u) :
    s.Alike (u.unmap id) := by
  have restored : mapped.unmap.kept = (s.buffer id).kept := by
    obtain ⟨free, same⟩ := Buffer.map_eq_ok map
    simp [same, Buffer.unmap, Buffer.kept, free]
  refine ⟨?_, body.told, ((SameBindings.map map).trans body.bindings).trans (.unmap u id),
    fun other => ?_⟩
  rotate_left
  · have still : (u.unmap id).mapCounts = u.mapCounts := Scene.mapCounts_setBuffer rfl
    rw [still]
    exact Nat.le_trans (counts_map map other) (body.counts other)
  rw [kept_unmap, body.kept, ← kept_unmap, Scene.unmap]
  by_cases inside : id.index < s.buffers.size
  · rw [Scene.buffer_setBuffer, if_pos ⟨rfl, inside⟩, Scene.setBuffer_setBuffer]
    exact Scene.kept_setBuffer restored
  · have outside := Nat.le_of_not_lt inside
    rw [Scene.setBuffer_of_le s id mapped outside, Scene.setBuffer_of_le s id _ outside]

/-- What reading back leaves of a scene when it overflows: all of it, or a buffer that nobody had
mapped is left mapped because this could not be counted. -/
inductive Scene.Cut (s : Scene) : Overflow → Scene → Prop
  | address {cause : Overflow} {t : Scene} (uncounted : cause ≠ .count) (alike : s.Alike t) :
      s.Cut cause t
  | mapping {id : BufferId} {t : Scene} (free : (s.buffer id).mapped = false)
      (full : Full (s.buffer id).mapCount) (alike : (s.mark id).Alike t) : s.Cut .count t

theorem Scene.Cut.count_or_alike {s t : Scene} {cause : Overflow} (h : s.Cut cause t) :
    cause = .count ∨ s.Alike t := by
  cases h with
  | address uncounted alike => exact .inr alike
  | mapping free full alike => exact .inl rfl

theorem Scene.Cut.unmap {s u : Scene} {id : BufferId} {mapped : Buffer} {cause : Overflow}
    (map : (s.buffer id).map id .read = .ok mapped) (h : (s.setBuffer id mapped).Cut cause u) :
    s.Cut cause (u.unmap id) := by
  cases h with
  | address uncounted alike => exact .address uncounted (alike_unmap map alike)
  | @mapping other _ free full alike =>
    obtain ⟨_, same⟩ := Buffer.map_eq_ok map
    by_cases here : other = id ∧ id.index < s.buffers.size
    · rw [buffer_setBuffer, if_pos here, same] at free
      cases free
    rw [buffer_setBuffer, if_neg here] at free full
    refine .mapping free full ?_
    by_cases inside : id.index < s.buffers.size
    · have apart : other ≠ id := fun same => here ⟨same, inside⟩
      have still : (s.mark other).buffer id = s.buffer id := by
        rw [mark, buffer_setBuffer, if_neg fun both => apart both.1.symm]
      have moved : (s.setBuffer id mapped).mark other = (s.mark other).setBuffer id mapped := by
        rw [mark, buffer_setBuffer, if_neg here, mark, s.setBuffer_comm _ _ apart]
      exact alike_unmap (still ▸ map) (moved ▸ alike)
    · have outside := Nat.le_of_not_lt inside
      rw [setBuffer_of_le s id mapped outside] at alike
      have size : (u.unmap id) = u := by
        have same := buffers_size_eq_of_kept alike.kept
        rw [mark, size_setBuffer] at same
        exact setBuffer_of_le u id _ (same ▸ outside)
      rwa [size]

def Scene.viewing {α : Type} (s : Scene) (id : BufferId)
    (read : Mapping → Scene → Except FetchError α) : Except FetchError α :=
  match (s.buffer id).map id .read with
  | .error error => .error (.resource error)
  | .ok mapped =>
    if Full (s.buffer id).mapCount then .error (.overflow .count)
    else read ⟨id, mapped.contents⟩ (s.setBuffer id mapped)

def Scene.readBack (s : Scene) (position : AttributeId) (topology : Topology) (first count : UInt32)
    (indices : Option Indices) : Except FetchError (List Segment) :=
  let a := s.attr position
  let edges := topology.wireEdges count.toNat
  if edges.isEmpty ∨ a.layout.type ≠ .float then .ok []
  else s.viewing a.buffer fun vertices s =>
    match indices with
    | none => edges.mapM (a.layout.fetchEdge vertices ⟨first, none⟩)
    | some indices => s.viewing indices.buffer fun mapped _ =>
      edges.mapM (a.layout.fetchEdge vertices ⟨first, some (indices, mapped)⟩)

/-! ### Addresses are not counted -/

section Uncounted
variable {α β : Type}

theorem bind_uncounted {x : Except FetchError α} {f : α → Except FetchError β}
    (first : x ≠ .error (.overflow .count)) (rest : ∀ a, f a ≠ .error (.overflow .count)) :
    x >>= f ≠ .error (.overflow .count) := by
  cases x with
  | error error => exact fun failed => first (congrArg Except.error (Except.error.inj failed))
  | ok a => exact rest a

theorem liftOverflow_uncounted {operation : Overflow} (other : operation ≠ .count) (exact : Nat) :
    liftOverflow (operation.check exact) ≠ .error (.overflow .count) := by
  cases checked : operation.check exact with
  | ok word => exact nofun
  | error cause =>
    obtain ⟨rfl, _⟩ := Overflow.check_eq_error_iff.mp checked
    exact fun failed => other (FetchError.overflow.inj (Except.error.inj failed))

theorem liftOverflow_mul_uncounted (a b : UInt64) :
    liftOverflow (mulChecked a b) ≠ .error (.overflow .count) :=
  liftOverflow_uncounted (by decide) _

theorem liftOverflow_add_uncounted (a b : UInt64) :
    liftOverflow (addChecked a b) ≠ .error (.overflow .count) :=
  liftOverflow_uncounted (by decide) _

theorem liftResource_uncounted (x : Except ResourceError α) :
    liftResource x ≠ .error (.overflow .count) := by
  cases x <;> exact nofun

theorem vertexAt_uncounted (source : IndexSource) (position : Nat) :
    source.vertexAt position ≠ .error (.overflow .count) := by
  unfold IndexSource.vertexAt
  cases source.indices with
  | none => exact nofun
  | some read =>
    exact bind_uncounted (liftOverflow_mul_uncounted _ _) fun _ =>
      bind_uncounted (liftOverflow_add_uncounted _ _) fun _ =>
        bind_uncounted (liftResource_uncounted _) fun _ => nofun

theorem fetch_uncounted (layout : VertexLayout) (mapping : Mapping) (vertex : UInt64) :
    layout.fetch mapping vertex ≠ .error (.overflow .count) :=
  bind_uncounted (liftOverflow_mul_uncounted _ _) fun _ =>
    bind_uncounted (liftOverflow_add_uncounted _ _) fun _ =>
      bind_uncounted (liftResource_uncounted _) fun _ => nofun

theorem fetchEdges_uncounted (layout : VertexLayout) (mapping : Mapping) (source : IndexSource)
    (edges : List Edge) :
    edges.mapM (layout.fetchEdge mapping source) ≠ .error (.overflow .count) := by
  intro failed
  obtain ⟨_, edge, _, _, _, here⟩ := mapM_eq_error_iff.mp failed
  refine absurd here ?_
  exact bind_uncounted (vertexAt_uncounted source edge.1) fun start =>
    bind_uncounted (fetch_uncounted layout mapping start) fun _ =>
      bind_uncounted (vertexAt_uncounted source edge.2) fun finish =>
        bind_uncounted (fetch_uncounted layout mapping finish) fun _ => nofun

end Uncounted

open SceneM

/-- A computation leaves no trace and answers what is read, or overflows as the reading does. -/
def Reads {α : Type} (m : SceneM (Except ResourceError α)) (s : Scene)
    (read : Except FetchError α) : Prop :=
  Ensures (fun t => t = s) m (fun result t => s.Alike t ∧ liftResource result = read)
    (fun cause t => s.Cut cause t ∧ read = .error (.overflow cause))

theorem reads_settle {α : Type} {fetched : Except FetchError α}
    (uncounted : fetched ≠ .error (.overflow .count)) (s : Scene) :
    Reads (settle fetched) s fetched := by
  rintro t rfl
  cases fetched with
  | ok a => exact ⟨.refl t, rfl⟩
  | error error =>
    cases error with
    | overflow cause =>
      refine ⟨.address (fun counted => uncounted ?_) (.refl t), rfl⟩
      rw [counted]
    | resource error => exact ⟨.refl t, rfl⟩

theorem reads_withMapping {α : Type} {id : BufferId}
    {body : Mapping → SceneM (Except ResourceError α)}
    {read : Mapping → Scene → Except FetchError α}
    (h : ∀ mapping u, Reads (body mapping) u (read mapping u)) (s : Scene) :
    Reads (withMapping id body) s (s.viewing id read) := by
  have mapped : Ensures (fun t => t = s) (mapBuffer id .read)
      (fun result t =>
        (∃ error, result = .error error ∧ t = s ∧ s.viewing id read = .error (.resource error)) ∨
        ∃ mapping mapped, result = .ok mapping ∧ (s.buffer id).map id .read = .ok mapped ∧
          t = s.setBuffer id mapped ∧ s.viewing id read = read mapping t)
      (fun cause t => s.Cut cause t ∧ s.viewing id read = .error (.overflow cause)) := by
    rintro t rfl
    simp only [mapBuffer, Scene.viewing]
    cases map : (t.buffer id).map id .read with
    | error error => exact .inl ⟨error, rfl, rfl, rfl⟩
    | ok mapped =>
      dsimp only
      by_cases full : Full (t.buffer id).mapCount
      · rw [if_pos full, if_pos full]
        exact ⟨.mapping (Buffer.map_eq_ok map).1 full (.refl _), rfl⟩
      · rw [if_neg full, if_neg full]
        exact .inr ⟨_, mapped, rfl, rfl, rfl, rfl⟩
  refine Ensures.bind mapped fun result => ?_
  rintro t (⟨error, rfl, rfl, viewed⟩ | ⟨mapping, mapped, rfl, map, rfl, viewed⟩)
  · exact ⟨.refl t, viewed.symm⟩
  · rw [viewed]
    refine Ensures.thenAlways ((h mapping _).mono ?_ ?_) _ rfl
    · exact fun result u ⟨alike, same⟩ => ⟨alike_unmap map alike, same⟩
    · exact fun cause u ⟨cut, same⟩ => ⟨cut.unmap map, same⟩

theorem reads_reconstruct (s : Scene) (position : AttributeId) (topology : Topology)
    (first count : UInt32) (indices : Option Indices) :
    Reads (reconstruct position topology first count indices) s
      (s.readBack position topology first count indices) := by
  let a := s.attr position
  refine .get_bind fun u same => ?_
  subst u
  unfold Scene.readBack
  dsimp only
  by_cases empty : (topology.wireEdges count.toNat).isEmpty
  · rw [if_pos empty, if_pos (.inl empty)]
    have counted : (.ok [] : Except FetchError (List Segment)) ≠ .error (.overflow .count) := nofun
    exact reads_settle counted s
  by_cases unsupported : a.layout.type ≠ .float
  · rw [if_neg empty, if_pos unsupported, if_pos (.inr unsupported)]
    rintro t rfl
    exact ⟨.note t rfl, rfl⟩
  · rw [if_neg empty, if_neg unsupported, if_neg fun either => either.elim empty unsupported]
    refine reads_withMapping (fun vertices u => ?_) s
    cases indices with
    | none => exact reads_settle (fetchEdges_uncounted _ _ _ _) u
    | some indices =>
      exact reads_withMapping (fun mapped v => reads_settle (fetchEdges_uncounted _ _ _ _) v) u

theorem Scene.Cut.rel {R : Scene → Scene → Prop} (alike : ∀ {s t : Scene}, s.Alike t → R s t)
    (trans : ∀ {s t u : Scene}, R s t → R t u → R s u)
    (mark : ∀ {s id}, (s.buffer id).mapped = false → Full (s.buffer id).mapCount →
      R s (s.mark id))
    {s t : Scene} {cause : Overflow} (h : s.Cut cause t) : R s t := by
  cases h with
  | address uncounted same => exact alike same
  | mapping free full same => exact trans (mark free full) (alike same)

theorem Scene.Cut.told {s t : Scene} {cause : Overflow} (h : s.Cut cause t) : t.told = s.told :=
  h.rel (R := fun s t => t.told = s.told) Scene.Alike.told (fun h h' => h'.trans h) fun _ _ => rfl

theorem reconstruct_rel {R : Scene → Scene → Prop} (alike : ∀ {s t : Scene}, s.Alike t → R s t)
    (trans : ∀ {s t u : Scene}, R s t → R t u → R s u)
    (mark : ∀ {s id}, (s.buffer id).mapped = false → Full (s.buffer id).mapCount →
      R s (s.mark id)) (s : Scene)
    (position : AttributeId) (topology : Topology) (first count : UInt32)
    (indices : Option Indices) :
    R s ((reconstruct position topology first count indices).after s) :=
  ensures_iff_after.mp ((reads_reconstruct s position topology first count indices).mono
    (fun _ _ done => alike done.1) fun _ _ cut => cut.1.rel alike trans mark)

/-- The outline that a draw is followed by, if draws are outlined; it may be empty. -/
def DrawRequest.outline (request : DrawRequest) (s : Scene) : Except FetchError (List Segment) :=
  match s.outlined? request.attributes with
  | none => .ok []
  | some position =>
    s.readBack position request.topology request.first request.count request.indices

/-- The ways an overlay goes: nothing is drawn, an address overflows, or the outline is drawn. -/
theorem overlay_ensures {s : Scene} {nested : NestedDraw} {request : DrawRequest}
    {Q : Scene → Prop} {E : Overflow → Scene → Prop}
    (plain : ∀ t, s.Alike t → (∀ cause, request.outline s ≠ .error (.overflow cause)) →
      (∀ outline, request.outline s = .ok outline → outline = []) → Q t)
    (overflow : ∀ t cause, s.Cut cause t → request.outline s = .error (.overflow cause) →
      E cause t)
    (outlined : ∀ t outline, s.Alike t → request.outline s = .ok outline → outline ≠ [] →
      Ensures (fun u => u = t) (drawOutline nested outline) (fun _ => Q) E) :
    Ensures (fun t => t = s) (overlay nested request) (fun _ => Q) E := by
  refine .get_bind fun u same => ?_
  subst u
  cases found : s.outlined? request.attributes with
  | none =>
    have outline : request.outline s = .ok [] := by rw [DrawRequest.outline, found]
    rw [outline] at plain
    rintro t rfl
    exact plain t (.refl t) (fun cause => nofun) fun _ read => (Except.ok.inj read).symm
  | some position =>
    have outline : request.outline s = s.readBack position request.topology request.first
        request.count request.indices := by rw [DrawRequest.outline, found]
    have read := reads_reconstruct s position request.topology request.first request.count
      request.indices
    rw [Reads, ← outline] at read
    have settled := read.mono (fun _ _ => id) fun cause t ⟨cut, failed⟩ =>
      overflow t cause cut failed
    refine settled.bind fun result t ⟨alike, same⟩ => ?_
    rw [← same] at plain outlined
    cases result with
    | error error => exact plain _ (alike.trans (.note t rfl)) (fun cause => nofun) nofun
    | ok outline =>
      cases outline with
      | nil => exact plain t alike (fun cause => nofun) fun _ read => (Except.ok.inj read).symm
      | cons segment rest => exact outlined t _ alike rfl (List.cons_ne_nil segment rest) t rfl

end DrawSubmission
