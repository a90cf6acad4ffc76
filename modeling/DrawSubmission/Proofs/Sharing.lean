import DrawSubmission.Proofs.Accesses
import DrawSubmission.Proofs.Followed
set_option autoImplicit false

namespace DrawSubmission

namespace DrawRequest
variable (request : DrawRequest) (s : Scene) (position : AttributeId)

/-- The buffers of an outline are free and can count one more mapping, and all that is read of them
is inside. -/
structure Legible : Prop where
  float : (s.attr position).layout.type = .float
  vertices : (s.buffer (s.attr position).buffer).blocked = false
  indices : ∀ array ∈ request.indices, (s.buffer array.buffer).blocked = false
  inside : ∀ access ∈ request.edges.flatMap
    (s.edgeAccesses (s.attr position) request.first request.indices), access.Fits s

/-- There are faces to outline, and their indices are in the buffer of the vertices. -/
def Shares : Prop :=
  request.edges ≠ [] ∧ ∃ array ∈ request.indices, array.buffer = (s.attr position).buffer

def lines : List Segment :=
  request.edges.map (s.segment (s.attr position) request.first request.indices)

end DrawRequest

section Read
variable {s : Scene}

theorem inside_of_fits {access : Access} (fits : access.Fits s) (some : 0 < access.count) :
    access.buffer.index < s.buffers.size := by
  by_contra outside
  have empty : s.buffer access.buffer = default := s.buffer_of_le _ (Nat.le_of_not_lt outside)
  have whole := fits.2
  have none : (default : Buffer).contents.size = 0 := rfl
  rw [empty, none] at whole
  omega

theorem IndexFormat.size_pos (format : IndexFormat) : 0 < format.size := by
  cases format <;> decide

/-- A buffer of vertices is still mapped when it is to be mapped for the indices. -/
theorem viewing_twice {α : Type} {id : BufferId} (made : id.index < s.buffers.size)
    (free : (s.buffer id).blocked = false)
    (read : Mapping → Mapping → Scene → Except FetchError α) :
    (s.viewing id fun vertices t => t.viewing id (read vertices)) =
      .error (.resource (.mapFailed ("buffer " ++ id.text ++ " is already mapped"))) := by
  let taken := s.setBuffer id (s.buffer id).taken
  have again : (taken.buffer id).mapped = true := by
    rw [Scene.buffer_setBuffer, if_pos ⟨rfl, made⟩]
    rfl
  have blocked : (taken.buffer id).blocked = true := by
    rw [Buffer.blocked, again, Bool.true_or]
  rw [viewing_eq, mapBuffer_of_free free]
  dsimp only
  rw [viewing_of_blocked blocked, BufferId.refusal, if_pos again]

namespace DrawRequest.Legible
variable {request : DrawRequest} {position : AttributeId} (h : request.Legible s position)
include h

theorem made {array : Indices} (drawn : request.edges ≠ []) (indexed : array ∈ request.indices) :
    array.buffer.index < s.buffers.size := by
  obtain ⟨edge, rest, edges⟩ := List.exists_cons_of_ne_nil drawn
  have first : array.access (request.first.toNat + edge.1) ∈ request.edges.flatMap
      (s.edgeAccesses (s.attr position) request.first request.indices) := by
    refine List.mem_flatMap.mpr ⟨edge, by simp [edges], ?_⟩
    simp [Scene.edgeAccesses, Scene.cornerAccesses, Scene.indexAccesses, Option.mem_def.mp indexed]
  exact inside_of_fits (h.inside _ first) array.format.size_pos

theorem readBack_of_shares (shares : request.Shares s position) :
    s.readBack position request.topology request.first request.count request.indices =
      .error (.resource
        (.mapFailed ("buffer " ++ (s.attr position).buffer.text ++ " is already mapped"))) := by
  obtain ⟨drawn, array, indexed, shared⟩ := shares
  have made := h.made drawn indexed
  have edges : ¬ (request.topology.wireEdges request.count.toNat).isEmpty :=
    fun empty => drawn (List.isEmpty_iff.mp empty)
  rw [Scene.readBack, if_neg (not_or.mpr ⟨edges, not_not_intro h.float⟩), Option.mem_def.mp indexed]
  dsimp only
  rw [shared] at made ⊢
  exact viewing_twice made h.vertices fun vertices mapped _ =>
    (request.topology.wireEdges request.count.toNat).mapM
      ((s.attr position).layout.fetchEdge vertices ⟨request.first, some (array, mapped)⟩)

theorem readBack_of_not_shares (apart : ¬ request.Shares s position) :
    s.readBack position request.topology request.first request.count request.indices =
      .ok (request.lines s position) := by
  by_cases drawn : request.edges = []
  · rw [Scene.readBack, if_pos (.inl (List.isEmpty_iff.mpr drawn)), DrawRequest.lines, drawn]
    rfl
  have separate (array : Indices) (indexed : request.indices = some array) :
      array.buffer ≠ (s.attr position).buffer :=
    fun shared => apart ⟨drawn, array, indexed, shared⟩
  have free : ((s.attr position).buffer :: request.indices.toList.map Indices.buffer).find?
      (fun id => (s.buffer id).blocked) = none := by
    refine List.find?_eq_none.mpr (List.forall_mem_cons.mpr ⟨by simp [h.vertices], ?_⟩)
    intro id inside
    obtain ⟨array, indexed, rfl⟩ := List.mem_map.mp inside
    simp [h.indices array (Option.mem_toList.mp indexed)]
  have settled := settles_edges s (s.attr position) request.first request.indices request.edges
    fun k inside => small_of_word (lt_of_mem_corners inside)
  have fitting : (request.edges.flatMap
      (s.edgeAccesses (s.attr position) request.first request.indices)).find?
        (fun access => ¬ access.Fits s) = none := by
    refine List.find?_eq_none.mpr fun access inside => ?_
    simpa using h.inside access inside
  rw [Settles, fitting] at settled
  rw [readBack_eq separate (not_or.mpr ⟨drawn, not_not_intro h.float⟩), free]
  exact settled

end DrawRequest.Legible
end Read

section Draw
variable {s : Scene} {request : DrawRequest}

theorem drawCount_overlays {t : Scene} {calls : List DriverCall} (h : request.Overlays s t)
    (appended : t.calls.toList = s.calls.toList ++ calls) :
    drawCount calls = (uploads calls).length := by
  cases h with
  | nothing told without =>
    rw [Scene.calls_eq_of_told told] at appended
    rw [List.self_eq_append_right.mp appended]
    rfl
  | @lines outline on read drawn overlaid =>
    obtain ⟨during, whole⟩ := overlaid.calls
    obtain ⟨others, appended', uploaded⟩ := uploads_overlaid overlaid drawn
    have same : others = calls := List.append_cancel_left (appended'.symm.trans appended)
    have once : drawCount calls = 1 := by
      rw [List.append_cancel_left (appended.symm.trans whole)]
      exact drawCount_overlayCalls s _ _ _ rfl _
    obtain ⟨segment, rest, rfl⟩ := List.exists_cons_of_ne_nil drawn
    rw [once, ← same, uploaded]
    rfl

/-- A draw that completes with outlines on uploads the outline that it began with, unless that is
empty, and makes one more draw call for it. -/
theorem overlay_of_outline {prevalidated : Bool}
    (inRange : (Operation.draw request prevalidated).InRange s) (on : s.outlinesDraws = true)
    (complete : (Operation.draw request prevalidated).breaksOff s = false) :
    let calls := (Operation.draw request prevalidated).told s
    uploads calls = outlineUploads (request.outline s) ∧
      drawCount calls = 1 + (uploads calls).length := by
  obtain ⟨t, options, channels, done, owned, overlays⟩ := account_draw complete
  obtain ⟨start, during, _, own⟩ := owned.calls
  obtain ⟨overlay, appended, uploaded⟩ := uploads_overlays overlays
  obtain ⟨store, counts⟩ := store_ownDraw inRange done
  rw [store.uploadsOf counts owned.outlinesDraws, DrawRequest.uploadsOf, if_pos on,
    ← request.outline_eq_outlineOf] at uploaded
  have counted := drawCount_overlays overlays appended
  let roles := request.attributes.map fun id => (s.attr id).role
  let mine := entryCalls prevalidated ++ drawCalls s.context channels
    (s.context.view channels options) (request.call start during) roles
  have silent : uploads mine = [] := by
    rw [uploads_append, uploads_entryCalls,
      uploads_drawCalls _ _ _ (request.drawn?_call start during), List.append_nil]
  have once : drawCount mine = 1 := by
    rw [drawCount_append, drawCount_entryCalls,
      drawCount_drawCalls _ _ _ (request.isDraw_call start during)]
  have sent : uploads (mine ++ overlay) = uploads overlay := by
    rw [uploads_append, silent, List.nil_append]
  intro calls
  have whole : calls = mine ++ overlay := by
    refine callsSince_of_append ?_
    rw [appended, own, List.append_assoc]
  rw [whole, sent, drawCount_append, once, counted]
  exact ⟨uploaded, rfl⟩

/-- An outline that lies inside of free buffers is read back with all its lines, and a draw that
meets no full counter is followed by them. Only where its indices are in the buffer of its vertices
is the second mapping of this buffer refused, and the draw, which binds the buffer for one use after
the other, completes without its outline. -/
theorem legible_outline_drawn {position : AttributeId} (legible : request.Legible s position) :
    let outline : SceneM _ := reconstruct position request.topology request.first request.count
      request.indices
    let buffer := (s.attr position).buffer
    (¬ request.Shares s position → outline.exit s = .ok (.ok (request.lines s position))) ∧
      (request.Shares s position → outline.exit s =
        .ok (.error (.mapFailed ("buffer " ++ buffer.text ++ " is already mapped")))) ∧
      ∀ prevalidated, s.outlinesDraws = true → s.outlined? request.attributes = some position →
        (Operation.draw request prevalidated).InRange s → s.Passes prevalidated →
        request.Fits s → (Operation.draw request prevalidated).Counted s →
        let draw := Operation.draw request prevalidated
        draw.breaksOff s = false ∧
          (¬ request.Shares s position →
            uploads (draw.told s) = outlineUploads (.ok (request.lines s position))) ∧
          (request.Shares s position → uploads (draw.told s) = []) ∧
          drawCount (draw.told s) = 1 + (uploads (draw.told s)).length := by
  intro outline buffer
  have exit := (reads_reconstruct s position request.topology request.first request.count
    request.indices).exits
  refine ⟨fun apart => ?_, fun shares => ?_,
    fun prevalidated on found inRange passes fits counted => ?_⟩
  · rw [legible.readBack_of_not_shares apart] at exit
    exact exit
  · rw [legible.readBack_of_shares shares] at exit
    exact exit
  have read : request.outline s = s.readBack position request.topology request.first request.count
      request.indices := by rw [DrawRequest.outline, found]
  have complete : (Operation.draw request prevalidated).breaksOff s = false := by
    refine breaksOff_of_completes inRange counted ⟨passes, fits, fun _ cause failed => ?_⟩
    rw [read] at failed
    by_cases shares : request.Shares s position
    · cases (legible.readBack_of_shares shares).symm.trans failed
    · cases (legible.readBack_of_not_shares shares).symm.trans failed
  obtain ⟨uploaded, once⟩ := overlay_of_outline inRange on complete
  rw [read] at uploaded
  refine ⟨complete, fun apart => ?_, fun shares => ?_, once⟩
  · rw [uploaded, legible.readBack_of_not_shares apart]
  · rw [uploaded, legible.readBack_of_shares shares]
    rfl

end Draw

/-- A triangle whose indices follow its positions in one buffer, and stand in another as well. -/
def indicesBehindPositions : List Operation :=
  [ .newBuffer ((Array.range 36).map UInt8.ofNat ++ #[0, 1, 2]) (.device 0),
    .newBuffer #[0, 1, 2] (.device 0),
    .newAttribute false ⟨0⟩ "strand_position_in" ⟨3, .float, 0, 0⟩,
    .changeSettings { debugFlags := DebugFlags.wireframe } ]

theorem legible_outline_drawn_apart :
    let s := (Scene.create {} []).run indicesBehindPositions
    let request : DrawRequest := ⟨.triangleList, 0, 3, [⟨0⟩], some ⟨⟨1⟩, .uint8, 0⟩⟩
    let draw := Operation.draw request true
    request.Legible s ⟨0⟩ ∧ ¬ request.Shares s ⟨0⟩ ∧ draw.InRange s ∧ request.Fits s ∧
      draw.Counted s ∧ draw.breaksOff s = false ∧
      uploads (draw.told s) = outlineUploads (.ok (request.lines s ⟨0⟩)) := by
  intro s request draw
  have legible : request.Legible s ⟨0⟩ :=
    ⟨by decide +kernel, by decide +kernel, by decide +kernel, by decide +kernel⟩
  have apart : ¬ request.Shares s ⟨0⟩ := by
    rintro ⟨_, array, indexed, shared⟩
    cases Option.mem_def.mp indexed
    revert shared
    decide +kernel
  have inRange : draw.InRange s := by decide +kernel
  have on : s.outlinesDraws = true := by decide +kernel
  have found : s.outlined? request.attributes = some ⟨0⟩ := by decide +kernel
  have ends : draw.breaksOff s = false := by decide +kernel
  have fits : request.Fits s := (Operation.ensured ends (draw_completes inRange)).fits
  have counted : draw.Counted s := by decide +kernel
  obtain ⟨_, _, drawn⟩ := legible_outline_drawn legible
  obtain ⟨complete, uploaded, _⟩ := drawn true on found inRange (.inl rfl) fits counted
  exact ⟨legible, apart, inRange, fits, counted, complete, uploaded apart⟩

/-- The same triangle has no outline if its indices are taken from the buffer of its positions. -/
theorem outline_lost_behind_positions :
    let s := (Scene.create {} []).run indicesBehindPositions
    let request : DrawRequest := ⟨.triangleList, 0, 3, [⟨0⟩], some ⟨⟨0⟩, .uint8, 36⟩⟩
    let draw := Operation.draw request true
    request.Legible s ⟨0⟩ ∧ request.edges ≠ [] ∧ s.outlinesDraws = true ∧
      SceneM.exit (reconstruct ⟨0⟩ .triangleList 0 3 request.indices) s =
        .ok (.error (.mapFailed "buffer BufferId(1) is already mapped")) ∧
      draw.breaksOff s = false ∧ uploads (draw.told s) = [] := by
  intro s request draw
  have legible : request.Legible s ⟨0⟩ :=
    ⟨by decide +kernel, by decide +kernel, by decide +kernel, by decide +kernel⟩
  refine ⟨legible, ?_⟩
  decide +kernel

end DrawSubmission
