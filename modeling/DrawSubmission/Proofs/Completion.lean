import DrawSubmission.Proofs.Account
import DrawSubmission.Proofs.Exits
import DrawSubmission.Proofs.Reading
import DrawSubmission.Wireframe.Guise
set_option autoImplicit false

namespace DrawSubmission

/-- Two scenes hold the same attributes and, up to bindings and counts, the same buffers. -/
structure SameStore (s t : Scene) : Prop where
  attributes : t.attributes = s.attributes
  buffers : t.buffers.map Buffer.kept = s.buffers.map Buffer.kept

namespace SameStore
variable {s t u : Scene}

theorem of_same (attributes : t.attributes = s.attributes) (buffers : t.buffers = s.buffers) :
    SameStore s t :=
  ⟨attributes, by rw [buffers]⟩

theorem of_kept (h : t.kept = s.kept) : SameStore s t :=
  ⟨Scene.attributes_eq_of_kept h, (congrArg Scene.buffers h :)⟩

theorem of_readied (h : Readied s t) : SameStore s t := by
  obtain ⟨textures, log, calls, same⟩ := h.same
  rw [same]
  exact .of_same rfl rfl

theorem trans (h : SameStore s t) (h' : SameStore t u) : SameStore s u :=
  ⟨h'.attributes.trans h.attributes, h'.buffers.trans h.buffers⟩

theorem attr (h : SameStore s t) (id : AttributeId) : t.attr id = s.attr id := by
  rw [Scene.attr, h.attributes, Scene.attr]

theorem buffer (h : SameStore s t) (id : BufferId) : (t.buffer id).kept = (s.buffer id).kept := by
  rw [Scene.buffer_kept_eq_getD, Scene.buffer_kept_eq_getD, ← Array.toList_map, h.buffers,
    Array.toList_map]

theorem sources (h : SameStore s t) : SameSources s t where
  attr id := ⟨(s.attr id).pins, h.attr id⟩
  base id := (congrArg Buffer.base (h.buffer id) :)

theorem setBuffer (h : SameStore s t) (id : BufferId) {b b' : Buffer} (same : b'.kept = b.kept) :
    SameStore (s.setBuffer id b) (t.setBuffer id b') := by
  refine ⟨h.attributes, ?_⟩
  simp only [Scene.setBuffer, Array.map_setIfInBounds, h.buffers, same]

theorem mapCounts_setBuffer (h : SameStore s t) (counts : t.mapCounts = s.mapCounts)
    (id : BufferId) {b b' : Buffer} (same : b'.mapCount = b.mapCount) :
    (t.setBuffer id b').mapCounts = (s.setBuffer id b).mapCounts := by
  have size : t.buffers.size = s.buffers.size := by
    simpa only [Array.size_map] using congrArg Array.size h.buffers
  funext other
  simp only [Scene.mapCounts, Scene.buffer_setBuffer, size]
  split
  · exact same
  · exact congrFun counts other

theorem viewing {α : Type} {read read' : Mapping → Scene → Except FetchError α}
    (h : SameStore s t) (counts : t.mapCounts = s.mapCounts) (id : BufferId)
    (same : ∀ mapping s' t', SameStore s' t' → t'.mapCounts = s'.mapCounts →
      read' mapping t' = read mapping s') :
    t.viewing id read' = s.viewing id read := by
  have mapped : (t.buffer id).mapped = (s.buffer id).mapped :=
    (congrArg Buffer.mapped (h.buffer id) :)
  have contents : (t.buffer id).contents = (s.buffer id).contents :=
    (congrArg Buffer.contents (h.buffer id) :)
  have count : (t.buffer id).mapCount = (s.buffer id).mapCount := congrFun counts id
  have kept := h.buffer id
  simp only [Scene.viewing, Buffer.map, mapped]
  cases (s.buffer id).mapped with
  | true => rfl
  | false =>
    simp only [ne_eq, not_true_eq_false, Bool.false_eq_true, ↓reduceIte, contents]
    rw [count]
    split
    · rfl
    · refine same _ _ _ (h.setBuffer id ?_) (h.mapCounts_setBuffer counts id rfl)
      simp_all [Buffer.kept]

theorem outline (h : SameStore s t) (counts : t.mapCounts = s.mapCounts) (request : DrawRequest) :
    request.outline t = request.outline s := by
  have found : t.outlined? request.attributes = s.outlined? request.attributes := by
    simp only [Scene.outlined?, h.attr]
  simp only [DrawRequest.outline, found]
  cases s.outlined? request.attributes with
  | none => rfl
  | some position =>
    simp only [Scene.readBack, h.attr]
    split
    · rfl
    · refine h.viewing counts _ fun vertices s' t' same counts => ?_
      cases request.indices with
      | none => rfl
      | some indices => exact same.viewing counts _ fun _ _ _ _ _ => rfl

end SameStore

open SceneM

/-! ### A draw and its outline -/

section Draw
variable {s t : Scene} {request : DrawRequest} {prevalidated : Bool}

theorem setOutlines_eq_inGuise (s : Scene) (on : Bool) :
    s.setOutlines on = s.inGuise { outlines := some on } := by
  simp [Scene.setOutlines, Scene.setSettings, Scene.inGuise, Guise.settings]

theorem overlooks_ownDraw (request : DrawRequest) (prevalidated : Bool) {g : Guise}
    (h : g.textures = none) : Overlooks (ownDraw request prevalidated) g := by
  unfold ownDraw
  split
  · exact overlooks_drawOnce g request {}
  · exact (overlooks_prepareDraw h).bind fun options => overlooks_drawOnce g request options

theorem ownDraw_setOutlines (done : ownDraw request prevalidated s = .ok () t) (on : Bool) :
    ownDraw request prevalidated (s.setOutlines on) = .ok () (t.setOutlines on) := by
  have own := overlooks_ownDraw request prevalidated (g := { outlines := some on }) rfl s
  rw [setOutlines_eq_inGuise, setOutlines_eq_inGuise, own, done]
  rfl

theorem perform_draw_of_done (done : ownDraw request prevalidated s = .ok () t) :
    (Operation.draw request prevalidated).perform s =
      (if t.outlinesDraws then overlay drawLines request else pure ()) t := by
  have parts := congrFun (perform_draw request prevalidated) s
  change _ = EStateM.bind (ownDraw request prevalidated) _ s at parts
  rw [parts, EStateM.bind, done]
  rfl

/-- A draw that completes with outlines off has completed its own draw. -/
theorem ownDraw_of_complete
    (complete : (Operation.draw request prevalidated).breaksOff (s.setOutlines false) = false) :
    ∃ t, ownDraw request prevalidated s = .ok () t := by
  have own := overlooks_ownDraw request prevalidated (g := { outlines := some false }) rfl s
  have parts := congrFun (perform_draw request prevalidated) (s.setOutlines false)
  change _ = EStateM.bind (ownDraw request prevalidated) _ (s.setOutlines false) at parts
  rw [EStateM.bind, setOutlines_eq_inGuise, own] at parts
  revert complete
  cases done : ownDraw request prevalidated s with
  | ok _ t => exact fun _ => ⟨t, rfl⟩
  | error cause t =>
    rw [done] at parts
    intro complete
    rw [Operation.breaksOff, setOutlines_eq_inGuise, parts] at complete
    cases complete

theorem store_ownDraw (inRange : (Operation.draw request prevalidated).InRange s)
    (done : ownDraw request prevalidated s = .ok () t) :
    SameStore s t ∧ t.mapCounts = s.mapCounts := by
  let Own (t : Scene) := SameStore s t ∧ t.mapCounts = s.mapCounts
  have drawn (u : Scene) (store : Own u) (options : FlushOptions) :
      Ensures (fun v => v = u) (drawOnce request options) (fun _ => Own) fun _ _ => True := by
    have counts : Ensures (fun v => v = u) (drawOnce request options)
        (fun _ v => v.mapCounts = u.mapCounts) fun _ v => v.mapCounts = u.mapCounts :=
      ensures_iff_after.mpr (mapCounts_drawOnce u request options)
    refine ((kept_drawOnce u request options (store.1.attributes ▸ inRange)).and counts).mono ?_
      fun _ _ _ => trivial
    exact fun _ v ⟨kept, counts⟩ => ⟨store.1.trans (.of_kept kept), counts.trans store.2⟩
  have own : Ensures (fun t => t = s) (ownDraw request prevalidated) (fun _ => Own)
      fun _ _ => True := by
    cases prevalidated with
    | true => exact drawn s ⟨.of_same rfl rfl, rfl⟩ {}
    | false =>
      have ready := (prepareDraw_ensures s).mono (fun _ _ => id) fun _ _ _ => trivial
      refine ready.bind fun options => .of_each ?_
      rintro u ⟨textures, log, same⟩
      refine drawn u ?_ options
      rw [same]
      exact ⟨.of_same rfl rfl, rfl⟩
  have left := own s rfl
  rw [done] at left
  exact left

/-- An overlay overflows just if reading its outline does. -/
theorem overlay_overflows (s : Scene) (request : DrawRequest) :
    Ensures (fun t => t = s) (overlay drawLines request)
      (fun _ _ => ∀ cause, request.outline s ≠ .error (.overflow cause))
      fun cause _ => request.outline s = .error (.overflow cause) := by
  refine overlay_ensures (fun t _ fits _ => fits) (fun t cause _ failed => failed) ?_
  intro t outline _ read _
  refine ensures_drawOutline ((drawLines_completes t outline).mono ?_ fun _ _ => False.elim)
  intro _ _ _ cause failed
  cases read.symm.trans failed

theorem breaksOff_outlined_iff (done : ownDraw request prevalidated s = .ok () t) :
    (Operation.draw request prevalidated).breaksOff (s.setOutlines true) = true ↔
      ∃ cause, request.outline t = .error (.overflow cause) := by
  have same : request.outline (t.setOutlines true) = request.outline t :=
    (SameStore.of_same rfl rfl : SameStore t (t.setOutlines true)).outline rfl request
  have rest := overlay_overflows (t.setOutlines true) request _ rfl
  rw [same] at rest
  rw [Operation.breaksOff, perform_draw_of_done (ownDraw_setOutlines done true),
    if_pos (t.outlinesDraws_setOutlines true)]
  revert rest
  cases overlay drawLines request (t.setOutlines true) with
  | ok _ u =>
    intro fits
    exact iff_of_false Bool.false_ne_true (not_exists_of_forall_not fits)
  | error cause u => exact fun failed => iff_of_true rfl ⟨cause, failed⟩

end Draw

/-- The units of the source's layers can be counted, if they are, and no address that a draw hands
to the driver, or that its outline is read from, leaves its word. -/
structure DrawRequest.Completes (request : DrawRequest) (prevalidated : Bool) (s : Scene) :
    Prop where
  passes : s.Passes prevalidated
  fits : request.Fits s
  outline : s.outlinesDraws = true → ∀ cause, request.outline s ≠ .error (.overflow cause)

theorem draw_completes {s : Scene} {request : DrawRequest} {prevalidated : Bool}
    (inRange : (Operation.draw request prevalidated).InRange s) :
    Ensures (fun t => t = s) (Operation.draw request prevalidated).perform
      (fun _ _ => request.Completes prevalidated s)
      fun cause _ => cause = .count ∨ ¬ request.Completes prevalidated s := by
  let Own (t : Scene) := request.Fits s ∧ SameStore s t ∧ t.mapCounts = s.mapCounts ∧
    t.outlinesDraws = s.outlinesDraws
  refine ensures_draw_passing (fun _ _ failed => .inr fun completes => failed completes.passes)
    fun passed options => ?_
  refine .of_each fun t ready => drawWith_ensures (M := Own) ?_ ?_ ?_ ?_
  · have store := SameStore.of_readied ready
    have fits := store.sources.fits_iff request
    have drawn := ((fits_drawOnce t request options).and (kept_drawOnce t request options
      (store.attributes ▸ inRange))).and_after (R := fun u => u.mapCounts = t.mapCounts)
        (mapCounts_drawOnce t request options)
    refine drawn.mono ?_ fun cause u broken => broken.1.imp_right
      fun unfit completes => unfit (fits.mpr completes.fits)
    rintro _ u ⟨⟨fit, kept⟩, counts⟩
    obtain ⟨textures, log, calls, same⟩ := ready.same
    have settings : t.context.settings = s.context.settings := by rw [same]
    have counts' : t.mapCounts = s.mapCounts := by rw [same]; rfl
    refine ⟨fits.mp fit, store.trans (.of_kept kept), counts.trans counts', ?_⟩
    rw [Scene.outlinesDraws, Scene.settings_eq_of_kept kept, settings, Scene.outlinesDraws]
  · rintro t u ⟨fits, store, counts, outlines⟩ _ reads
    refine ⟨passed, fits, fun on cause => ?_⟩
    rw [← store.outline counts]
    exact reads (outlines.trans on) cause
  · rintro t u cause ⟨_, store, counts, outlines⟩ _ on failed
    refine .inr fun completes => ?_
    rw [store.outline counts] at failed
    exact completes.outline (outlines.symm.trans on) cause failed
  · rintro t u outline ⟨fits, store, counts, _⟩ _ _ read _
    rw [store.outline counts] at read
    refine ensures_drawOutline ((drawLines_completes u outline).mono ?_ fun _ _ => False.elim)
    rintro _ _ _
    refine ⟨passed, fits, fun _ cause failed => ?_⟩
    rw [read] at failed
    cases failed

theorem breaksOff_of_completes {s : Scene} {request : DrawRequest} {prevalidated : Bool}
    (inRange : (Operation.draw request prevalidated).InRange s)
    (counted : (Operation.draw request prevalidated).Counted s)
    (completes : request.Completes prevalidated s) :
    (Operation.draw request prevalidated).breaksOff s = false := by
  by_contra broken
  rw [Bool.not_eq_false] at broken
  obtain ⟨cause, failed, why⟩ := Operation.ensured_overflow broken (draw_completes inRange)
  rcases why with rfl | unable
  · exact counted failed
  · exact unable completes

/-! ### Corners of an outline -/

def Scene.view (s : Scene) (id : BufferId) : Mapping := ⟨id, (s.buffer id).contents⟩

theorem view_of_map {s t : Scene} {id : BufferId} {mapping : Mapping}
    (h : mapBuffer id .read s = .ok (.ok mapping) t) :
    mapping = s.view id ∧ ∀ other, t.view other = s.view other := by
  unfold mapBuffer at h
  cases outcome : (s.buffer id).map id .read with
  | error error =>
    rw [outcome] at h
    cases h
  | ok mapped =>
    simp only [outcome] at h
    split at h
    · cases h
    cases h
    have contents : mapped.contents = (s.buffer id).contents := by
      rw [(Buffer.map_eq_ok outcome).2]
    refine ⟨by rw [Scene.view, contents], fun other => ?_⟩
    rw [Scene.view, Scene.buffer_setBuffer]
    split
    · rename_i here
      rw [contents, ← here.1, Scene.view]
    · rfl

theorem mapBuffer_error {s t : Scene} {id : BufferId} {access : MapAccess} {cause : Overflow}
    (h : mapBuffer id access s = .error cause t) : cause = .count := by
  unfold mapBuffer at h
  split at h
  · cases h
  · split at h <;> cases h
    rfl

theorem viewing_eq {α : Type} (s : Scene) (id : BufferId)
    (read : Mapping → Scene → Except FetchError α) :
    s.viewing id read = match mapBuffer id .read s with
      | .error cause _ => .error (.overflow cause)
      | .ok (.error error) _ => .error (.resource error)
      | .ok (.ok mapping) t => read mapping t := by
  unfold Scene.viewing mapBuffer
  cases (s.buffer id).map id .read with
  | error error => rfl
  | ok mapped =>
    by_cases full : Full (s.buffer id).mapCount
    · simp only [full, ↓reduceIte]
    · simp only [full, ↓reduceIte]

namespace DrawRequest

def edges (request : DrawRequest) : List Edge := request.topology.wireEdges request.count.toNat

def source (request : DrawRequest) (s : Scene) : IndexSource :=
  ⟨request.first, request.indices.map fun indices => (indices, s.view indices.buffer)⟩

def Mappable (request : DrawRequest) (s : Scene) (vertices : BufferId) : Prop :=
  ∃ mapping t, mapBuffer vertices .read s = .ok (.ok mapping) t ∧
    ∀ indices ∈ request.indices, ∃ mapped u,
      mapBuffer indices.buffer .read t = .ok (.ok mapped) u

structure Outlines (request : DrawRequest) (s : Scene) (position : AttributeId) : Prop where
  found : s.outlined? request.attributes = some position
  float : (s.attr position).layout.type = .float
  mappable : request.Mappable s (s.attr position).buffer

def corner (request : DrawRequest) (s : Scene) (position : AttributeId) (k : Nat) :
    Except FetchError Vertex3 :=
  (s.attr position).layout.fetchCorner (s.view (s.attr position).buffer) (request.source s) k

end DrawRequest

section Outline
variable {s : Scene} {request : DrawRequest} {position : AttributeId}

theorem outline_of_outlines (h : request.Outlines s position) :
    List.flatMap Segment.vertices <$> request.outline s =
      (corners request.edges).mapM (request.corner s position) := by
  have read : request.outline s = request.edges.mapM ((s.attr position).layout.fetchEdge
      (s.view (s.attr position).buffer) (request.source s)) := by
    obtain ⟨mapping, t, map, indexed⟩ := h.mappable
    obtain ⟨rfl, same⟩ := view_of_map map
    rw [DrawRequest.outline, h.found, DrawRequest.source]
    simp only [Scene.readBack, DrawRequest.edges]
    split
    · rename_i either
      rw [List.isEmpty_iff.mp (either.resolve_right (· h.float))]
      rfl
    · rw [viewing_eq, map]
      cases indices : request.indices with
      | none => rfl
      | some indices' =>
        obtain ⟨mapped, u, map'⟩ := indexed indices' indices
        obtain ⟨rfl, _⟩ := view_of_map map'
        simp only [viewing_eq, map', same, Option.map_some]
  rw [read, mapM_fetchEdge]
  rfl

/-- An outline that is neither empty nor kept back by a resource or a full counter has positions to
be read from. -/
theorem exists_outlines (drawn : request.outline s ≠ .ok [])
    (legible : ∀ error, request.outline s ≠ .error (.resource error))
    (counted : request.outline s ≠ .error (.overflow .count)) :
    ∃ position, request.Outlines s position := by
  unfold DrawRequest.outline at drawn legible counted
  cases found : s.outlined? request.attributes with
  | none =>
    rw [found] at drawn
    exact absurd rfl drawn
  | some position =>
    simp only [found, Scene.readBack] at drawn legible counted
    split at drawn
    · exact absurd rfl drawn
    rename_i shown
    rw [if_neg shown, viewing_eq] at legible counted
    have float : (s.attr position).layout.type = .float := by
      by_contra other
      exact shown (.inr other)
    refine ⟨position, found, float, ?_⟩
    cases map : mapBuffer (s.attr position).buffer .read s with
    | error cause t =>
      rw [map, mapBuffer_error map] at counted
      exact absurd rfl counted
    | ok result t =>
      rw [map] at legible counted
      cases result with
      | error error => exact absurd rfl (legible error)
      | ok mapping =>
        refine ⟨mapping, t, map, fun indices indexed => ?_⟩
        simp only [Option.mem_def.mp indexed, viewing_eq] at legible counted
        cases map' : mapBuffer indices.buffer .read t with
        | error cause u =>
          rw [map', mapBuffer_error map'] at counted
          exact absurd rfl counted
        | ok result' u =>
          rw [map'] at legible
          cases result' with
          | error error => exact absurd rfl (legible error)
          | ok mapped => exact ⟨mapped, u, rfl⟩

/-- Reading an outline back meets an address past the last before it fails for another reason. -/
def DrawRequest.Strays (request : DrawRequest) (s : Scene) : Prop :=
  ∃ position, request.Outlines s position ∧
    ∃ done k rest, corners request.edges = done ++ k :: rest ∧
      (∀ j ∈ done, ∃ v, request.corner s position j = .ok v) ∧
        (request.source s).Strays (s.attr position).layout k

theorem small_of_mem_corners {k : Nat} (s : Scene) (h : k ∈ corners request.edges) :
    (request.source s).first.toNat + k < UInt64.size := by
  have bound : k < request.count.toNat := lt_of_mem_corners h
  have first : request.first.toNat < UInt32.size := request.first.toNat_lt_size
  have count : request.count.toNat < UInt32.size := request.count.toNat_lt_size
  have words : UInt32.size + UInt32.size ≤ UInt64.size := by decide
  change request.first.toNat + k < _
  omega

/-- A buffer that an outline is read from could be mapped, but its mappings cannot be counted. -/
def DrawRequest.Uncounted (request : DrawRequest) (s : Scene) : Prop :=
  ∃ position, s.outlined? request.attributes = some position ∧ request.edges ≠ [] ∧
    (s.attr position).layout.type = .float ∧
    ((∃ t, mapBuffer (s.attr position).buffer .read s = .error .count t) ∨
      ∃ mapping t, mapBuffer (s.attr position).buffer .read s = .ok (.ok mapping) t ∧
        ∃ indices ∈ request.indices, ∃ u, mapBuffer indices.buffer .read t = .error .count u)

theorem outline_uncounted_iff :
    request.outline s = .error (.overflow .count) ↔ request.Uncounted s := by
  constructor
  · intro failed
    unfold DrawRequest.outline at failed
    cases found : s.outlined? request.attributes with
    | none =>
      rw [found] at failed
      cases failed
    | some position =>
      simp only [found, Scene.readBack] at failed
      split at failed
      · cases failed
      rename_i shown
      obtain ⟨edges, float⟩ := not_or.mp shown
      refine ⟨position, found, edges ∘ List.isEmpty_iff.mpr, Classical.not_not.mp float, ?_⟩
      rw [viewing_eq] at failed
      cases map : mapBuffer (s.attr position).buffer .read s with
      | error cause t =>
        rw [mapBuffer_error map]
        exact .inl ⟨t, rfl⟩
      | ok result t =>
        rw [map] at failed
        cases result with
        | error error => cases failed
        | ok mapping =>
          refine .inr ⟨mapping, t, rfl, ?_⟩
          cases indices : request.indices with
          | none =>
            simp only [indices] at failed
            exact absurd failed (fetchEdges_uncounted _ _ _ _)
          | some indices' =>
            simp only [indices, viewing_eq] at failed
            refine ⟨indices', rfl, ?_⟩
            cases map' : mapBuffer indices'.buffer .read t with
            | error cause u =>
              rw [mapBuffer_error map']
              exact ⟨u, rfl⟩
            | ok result' u =>
              rw [map'] at failed
              cases result' with
              | error error => cases failed
              | ok mapped => exact absurd failed (fetchEdges_uncounted _ _ _ _)
  · rintro ⟨position, found, edges, float, uncounted⟩
    have shown : ¬ ((request.topology.wireEdges request.count.toNat).isEmpty ∨
        (s.attr position).layout.type ≠ .float) :=
      fun either => either.elim (edges ∘ List.isEmpty_iff.mp) (· float)
    simp only [DrawRequest.outline, found, Scene.readBack, if_neg shown, viewing_eq]
    rcases uncounted with ⟨t, map⟩ | ⟨mapping, t, map, indices, indexed, u, map'⟩
    · rw [map]
    · simp only [map, Option.mem_def.mp indexed, map']

theorem outline_strays_iff :
    (∃ cause ≠ .count, request.outline s = .error (.overflow cause)) ↔ request.Strays s := by
  have split {position : AttributeId} (h : request.Outlines s position) (cause : Overflow) :
      request.outline s = .error (.overflow cause) ↔
        (corners request.edges).mapM (request.corner s position) = .error (.overflow cause) := by
    rw [← outline_of_outlines h, map_eq_error_iff]
  constructor
  · rintro ⟨cause, other, failed⟩
    obtain ⟨position, outlines⟩ : ∃ position, request.Outlines s position :=
      exists_outlines (by simp [failed]) (by simp [failed]) (by simp [failed, other])
    obtain ⟨done, k, rest, parts, fine, failed⟩ :=
      mapM_eq_error_iff.mp ((split outlines cause).mp failed)
    have inside : k ∈ corners request.edges := by simp [parts]
    exact ⟨position, outlines, done, k, rest, parts, fine,
      (fetchCorner_overflows_iff (small_of_mem_corners s inside)).mp ⟨cause, failed⟩⟩
  · rintro ⟨position, outlines, done, k, rest, parts, fine, strays⟩
    have inside : k ∈ corners request.edges := by simp [parts]
    obtain ⟨cause, failed⟩ :=
      (fetchCorner_overflows_iff (small_of_mem_corners s inside)).mpr strays
    have whole := (split outlines cause).mpr
      (mapM_eq_error_iff.mpr ⟨done, k, rest, parts, fine, failed⟩)
    refine ⟨cause, fun counted => ?_, whole⟩
    obtain ⟨other, found, _, _, uncounted⟩ := outline_uncounted_iff.mp (counted ▸ whole)
    cases outlines.found.symm.trans found
    obtain ⟨mapping, t, map, indexed⟩ := outlines.mappable
    rcases uncounted with ⟨_, failed⟩ | ⟨_, _, map', indices, here, _, failed⟩
    · cases map.symm.trans failed
    · cases map.symm.trans map'
      obtain ⟨mapped, u, map''⟩ := indexed indices here
      cases map''.symm.trans failed

theorem outline_overflows_iff : (∃ cause, request.outline s = .error (.overflow cause)) ↔
    request.Strays s ∨ request.Uncounted s := by
  rw [← outline_strays_iff, ← outline_uncounted_iff]
  constructor
  · rintro ⟨cause, failed⟩
    by_cases counted : cause = .count
    · exact .inr (counted ▸ failed)
    · exact .inl ⟨cause, counted, failed⟩
  · rintro (⟨cause, _, failed⟩ | failed)
    · exact ⟨cause, failed⟩
    · exact ⟨.count, failed⟩

end Outline

/-- A draw that completes with outlines off overflows with outlines on just if its outline strays or
a mapping of it cannot be counted: such an address is not treated like one of a read out of bounds,
which only leaves the outline out. -/
theorem outlined_overflows_iff {s : Scene} {request : DrawRequest} {prevalidated : Bool}
    (inRange : (Operation.draw request prevalidated).InRange s)
    (complete : (Operation.draw request prevalidated).breaksOff (s.setOutlines false) = false) :
    (Operation.draw request prevalidated).breaksOff (s.setOutlines true) = true ↔
      request.Strays s ∨ request.Uncounted s := by
  obtain ⟨t, done⟩ := ownDraw_of_complete complete
  obtain ⟨store, counts⟩ := store_ownDraw inRange done
  rw [breaksOff_outlined_iff done, store.outline counts, outline_overflows_iff]

/-- Positions half of all addresses apart, and indices that name one past the last address. -/
def farApart : List Operation :=
  [ .newBuffer (Array.replicate 36 0) (.device 0),
    .newBuffer #[0, 2, 1] .client,
    .newAttribute false ⟨0⟩ "strand_position_in" ⟨3, .float, 9223372036854775808, 0⟩ ]

theorem outlined_overflows_iff_farApart :
    let s := (Scene.create {} []).run farApart
    let request : DrawRequest := ⟨.triangleList, 0, 3, [⟨0⟩], some ⟨⟨1⟩, .uint8, 0⟩⟩
    (Operation.draw request true).InRange s ∧
      (Operation.draw request true).breaksOff (s.setOutlines false) = false ∧
      (request.Strays s ∨ request.Uncounted s) := by
  intro s request
  have inRange : (Operation.draw request true).InRange s := by decide +kernel
  have complete : (Operation.draw request true).breaksOff (s.setOutlines false) = false := by
    decide +kernel
  have overflow : (Operation.draw request true).breaksOff (s.setOutlines true) = true := by
    decide +kernel
  exact ⟨inRange, complete, (outlined_overflows_iff inRange complete).mp overflow⟩

/-- The draw of the positions from the third on completes, but not with an outline: the address of
the third one is not skipped as one out of bounds. -/
theorem outline_breaks_draw :
    let s := (Scene.create {} []).run farApart
    let draw := Operation.draw ⟨.triangleList, 2, 3, [⟨0⟩], none⟩ true
    draw.breaksOff (s.setOutlines false) = false ∧ draw.breaksOff (s.setOutlines true) = true := by
  decide +kernel

end DrawSubmission
