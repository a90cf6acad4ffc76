import DrawSubmission.Proofs.Geometry
import DrawSubmission.Proofs.Overlays
set_option autoImplicit false

namespace DrawSubmission

/-- The attribute that positions are drawn from: the last one that the position channel can read. -/
def Scene.drawn? (s : Scene) (attributes : List AttributeId) : Option AttributeId :=
  (attributes.filter fun id => (s.attr id).role == .position && (s.attr id).readable).getLast?

/-- Calls leave the pointer of an attribute in force; without one, they set no such pointer. -/
def Scene.PointsAt (s : Scene) (drawn : Option AttributeId) (calls : List DriverCall) : Prop :=
  match drawn with
  | none => ∀ d : DriverState, (d.run calls).vertexPointer = d.vertexPointer
  | some id => ∃ pointer,
    (s.attr id).pointer (s.buffer (s.attr id).buffer).base = .ok pointer ∧
      ∀ d : DriverState, (d.run calls).vertexPointer = some pointer

section Pointer

theorem vertexPointer_geometry (calls : List DriverCall) {d d' : DriverState}
    (same : d.vertexPointer = d'.vertexPointer) :
    (d.run calls).vertexPointer = (d'.run (geometry calls)).vertexPointer := by
  induction calls generalizing d d' with
  | nil => exact same
  | cons call calls ih =>
    have step : (d.apply call).vertexPointer = (d'.apply call).vertexPointer := by
      cases call <;> first | exact same | rfl
    cases shown : call.isGeometry with
    | true =>
      rw [geometry, List.filter_cons_of_pos shown]
      exact ih step
    | false =>
      have kept : (d.apply call).vertexPointer = d.vertexPointer := by
        cases call <;> first | rfl | cases shown
      rw [geometry, List.filter_cons_of_neg (by simp [shown])]
      exact ih (kept.trans same)

theorem vertexPointer_placements (channels : List Channel) (d : DriverState) :
    (d.run (placements channels)).vertexPointer =
      ((ofRole .position channels).getLast?.map Channel.pointer).or d.vertexPointer := by
  rw [placements]
  induction ofRole .position channels using List.reverseRecOn with
  | nil => rfl
  | append_singleton cs c _ =>
    rw [List.map_append, DriverState.run_append, List.getLast?_concat]
    rfl

theorem pointsAt_leadCalls {s : Scene} {attributes : List AttributeId} {channels : List Channel}
    (readable : s.channels attributes = .ok channels) (context : DrawContext)
    (view : PipelineView) :
    s.PointsAt (s.drawn? attributes) (leadCalls context channels view) := by
  let positions := attributes.filter fun id => (s.attr id).role == .position && (s.attr id).readable
  have placed : positions.mapM (fun id => s.channel (s.attr id)) =
      .ok (ofRole .position channels) := by
    have whole : (attributes.filter fun id => (s.attr id).readable).mapM
        (fun id => s.channel (s.attr id)) = .ok channels := by
      rw [← readable, Scene.channels, List.filter_map, List.mapM_map]
      rfl
    have kept := mapM_filter (p := fun id => (s.attr id).role == .position)
      (q := fun c => c.role == .position) (fun id c own => by rw [channel_role own]) whole
    rw [List.filter_filter] at kept
    exact kept
  have pointer (d : DriverState) : (d.run (leadCalls context channels view)).vertexPointer =
      ((ofRole .position channels).getLast?.map Channel.pointer).or d.vertexPointer := by
    rw [vertexPointer_geometry _ (Eq.refl d.vertexPointer), geometry_leadCalls,
      vertexPointer_placements]
  have drawn : s.drawn? attributes = positions.getLast? := rfl
  rw [drawn]
  cases last : positions.getLast? with
  | none =>
    rw [List.getLast?_eq_none_iff.mp last] at placed
    have none : ofRole .position channels = [] := (Except.ok.inj placed).symm
    intro d
    rw [pointer, none]
    rfl
  | some id =>
    obtain ⟨c, own, here⟩ := getLast?_of_mapM placed last
    refine ⟨c.pointer, channel_pointer own, fun d => ?_⟩
    rw [pointer, here]
    rfl

end Pointer

def uploads (calls : List DriverCall) : List (List UInt8) :=
  calls.filterMap fun
    | .createVertexArray _ data => some data
    | _ => none

theorem uploads_append (xs ys : List DriverCall) : uploads (xs ++ ys) = uploads xs ++ uploads ys :=
  List.filterMap_append

theorem uploads_eq_nil {calls : List DriverCall} (h : ∀ call ∈ calls, call.isUpload = false) :
    uploads calls = [] := by
  refine List.filterMap_eq_nil_iff.mpr fun call inside => ?_
  have known := h call inside
  cases call <;> first | rfl | cases known

theorem not_upload_of_not_idle {call : DriverCall} (h : call.isIdle = false) :
    call.isUpload = false := by
  cases call <;> first | rfl | cases h

theorem run_entryCalls (d : DriverState) (prevalidated : Bool) (calls : List DriverCall) :
    d.run (entryCalls prevalidated ++ calls) = d.run calls := by
  cases prevalidated <;> rfl

theorem uploads_entryCalls (prevalidated : Bool) : uploads (entryCalls prevalidated) = [] := by
  cases prevalidated <;> rfl

theorem uploads_drawCalls (context : DrawContext) (channels : List Channel) (view : PipelineView)
    {draw : DriverCall} {topology : Topology} {count : UInt32}
    (drawn : draw.drawn? = some (topology, count)) (roles : List Role) :
    uploads (drawCalls context channels view draw roles) = [] :=
  uploads_eq_nil fun call inside =>
    not_upload_of_not_idle (not_idle_drawCalls context channels view drawn roles call inside)

def outlineUploads : Except FetchError (List Segment) → List (List UInt8)
  | .ok (segment :: rest) =>
    [((segment :: rest).flatMap Segment.vertices).flatMap Vertex3.toBytes]
  | _ => []

namespace DrawRequest

/-- The outline of a draw if it is read from some attribute. -/
def outlineOf (request : DrawRequest) (s : Scene) :
    Option AttributeId → Except FetchError (List Segment)
  | none => .ok []
  | some position =>
    s.readBack position request.topology request.first request.count request.indices

theorem outline_eq_outlineOf (request : DrawRequest) (s : Scene) :
    request.outline s = request.outlineOf s (s.outlined? request.attributes) := by
  unfold outline outlineOf
  cases s.outlined? request.attributes <;> rfl

def uploadsOf (request : DrawRequest) (s : Scene) (followed : Option AttributeId) :
    List (List UInt8) :=
  if s.outlinesDraws then outlineUploads (request.outlineOf s followed) else []

end DrawRequest

open SceneM

section Draw
variable {s : Scene} {request : DrawRequest} {prevalidated : Bool}

def UploadsNothing (s t : Scene) : Prop :=
  ∃ calls, t.calls.toList = s.calls.toList ++ calls ∧ uploads calls = []

theorem UploadsNothing.trans {s t u : Scene} (h : UploadsNothing s t) (h' : UploadsNothing t u) :
    UploadsNothing s u := by
  obtain ⟨xs, appended, none⟩ := h
  obtain ⟨ys, appended', none'⟩ := h'
  refine ⟨xs ++ ys, ?_, ?_⟩
  · rw [appended', appended, List.append_assoc]
  · rw [uploads_append, none, none', List.append_nil]

theorem UploadsNothing.of_told {s t : Scene} (told : t.told = s.told) : UploadsNothing s t :=
  ⟨[], by rw [Scene.calls_eq_of_told told, List.append_nil], rfl⟩

theorem UploadsNothing.of_readied {s t : Scene} (ready : Readied s t) : UploadsNothing s t := by
  obtain ⟨lead, flushes, appended⟩ := ready.calls
  refine ⟨lead, appended, uploads_eq_nil fun call inside => ?_⟩
  rcases flushes call inside with rfl | rfl <;> rfl

/-- A draw that overflows does so before it has anything to upload. -/
theorem uploads_of_breaksOff (overflow : (Operation.draw request prevalidated).breaksOff s = true) :
    uploads ((Operation.draw request prevalidated).told s) = [] := by
  have broken : Ensures (fun t => t = s) (Operation.draw request prevalidated).perform
      (fun _ _ => True) fun _ => UploadsNothing s := by
    refine ensures_draw (fun t ready => .of_readied ready) fun options => ?_
    refine drawWith_ensures (M := UploadsNothing s) (.of_each fun t ready => ?_)
      (fun _ _ _ _ _ => trivial) (fun t u _ nothing cut _ _ => ?_) ?_
    · obtain ⟨_, calls, appended, busy⟩ := busy_drawOnce t request options
      have own : UploadsNothing t ((drawOnce request options).after t) := by
        refine ⟨calls, appended, uploads_eq_nil fun call inside => ?_⟩
        exact not_upload_of_not_idle (busy call inside)
      exact ensures_iff_after.mpr ((UploadsNothing.of_readied ready).trans own)
    · exact nothing.trans (.of_told cut.told)
    · intro t u outline _ _ _ _ _
      exact (overlaid_drawOutline u outline).mono (fun _ _ _ => trivial) fun _ _ => False.elim
  obtain ⟨_, _, calls, appended, none⟩ := Operation.ensured_overflow overflow broken
  rw [Operation.told, callsSince_of_append appended, none]

theorem uploads_overlaid {s t : Scene} {outline : List Segment} (h : Overlaid s outline t)
    (drawn : outline ≠ []) :
    ∃ calls, t.calls.toList = s.calls.toList ++ calls ∧
      uploads calls = outlineUploads (.ok outline) := by
  obtain ⟨during, calls⟩ := h.calls
  refine ⟨_, calls, ?_⟩
  obtain ⟨segment, rest, rfl⟩ := List.exists_cons_of_ne_nil drawn
  have making : uploads s.context.makingCalls = [] := by
    rcases s.context.makingCalls_eq with same | same <;> rw [same] <;> rfl
  rw [← List.singleton_append, uploads_append, uploads_append, making,
    uploads_drawCalls _ _ _ rfl, List.append_nil]
  rfl

theorem uploads_overlays {s t : Scene} (h : request.Overlays s t) :
    ∃ calls, t.calls.toList = s.calls.toList ++ calls ∧
      uploads calls = request.uploadsOf s (s.outlined? request.attributes) := by
  unfold DrawRequest.uploadsOf
  rw [← request.outline_eq_outlineOf]
  cases h with
  | nothing told without =>
    refine ⟨[], by rw [Scene.calls_eq_of_told told, List.append_nil], ?_⟩
    split
    · rename_i on
      cases read : request.outline s with
      | error error => rfl
      | ok outline =>
        rw [without on outline read]
        rfl
    · rfl
  | lines on read drawn overlaid =>
    rw [if_pos on, read]
    exact uploads_overlaid overlaid drawn

theorem SameStore.uploadsOf {s t : Scene} (store : SameStore s t)
    (counts : t.mapCounts = s.mapCounts) (outlines : t.outlinesDraws = s.outlinesDraws)
    (request : DrawRequest) :
    request.uploadsOf t (t.outlined? request.attributes) =
      request.uploadsOf s (s.outlined? request.attributes) := by
  rw [DrawRequest.uploadsOf, DrawRequest.uploadsOf, ← request.outline_eq_outlineOf,
    ← request.outline_eq_outlineOf, store.outline counts, outlines]

/-- An outline that is read from the first position attribute is read from the last one that the
channel can read, if the channel can read no other. -/
theorem uploadsOf_drawn (only : ∀ id ∈ request.attributes, (s.attr id).role = .position →
      (s.attr id).readable = true → s.outlined? request.attributes = some id) :
    request.uploadsOf s (s.outlined? request.attributes) =
      request.uploadsOf s (s.drawn? request.attributes) := by
  cases drawn : s.drawn? request.attributes with
  | some id =>
    obtain ⟨inside, position⟩ := List.mem_filter.mp (List.mem_of_getLast? drawn)
    rw [Bool.and_eq_true, beq_iff_eq] at position
    rw [only id inside position.1 position.2]
  | none =>
    cases found : s.outlined? request.attributes with
    | none => rfl
    | some id =>
      have name := List.find?_some found
      have position : (s.attr id).role = .position := (s.attr id).named.mpr (beq_iff_eq.mp name)
      have unreadable : (s.attr id).readable = false := by
        have empty := List.filter_eq_nil_iff.mp (List.getLast?_eq_none_iff.mp drawn) id
          (List.mem_of_find?_eq_some found)
        simpa [position] using empty
      have other : (s.attr id).layout.type ≠ .float := by
        intro float
        rw [VertexAttribute.readable, position, float] at unreadable
        cases unreadable
      have nothing : request.outlineOf s (some id) = .ok [] := by
        unfold DrawRequest.outlineOf Scene.readBack
        exact if_pos (.inr other)
      rw [DrawRequest.uploadsOf, nothing]
      rfl

/-- A draw that completes makes its draw call with the pointer of its last readable position
attribute in force, but uploads the outline that is read from its first position attribute. Both are
one where the channel can read no other than the first. A draw that overflows uploads nothing. -/
theorem overlay_follows_first (inRange : (Operation.draw request prevalidated).InRange s) :
    let draw := Operation.draw request prevalidated
    let calls := draw.told s
    let first := s.outlined? request.attributes
    let drawn := s.drawn? request.attributes
    (draw.breaksOff s = true → uploads calls = []) ∧
      (draw.breaksOff s = false →
        (∃ lead own tail, calls = lead ++ own :: tail ∧ drawCount lead = 0 ∧ own.isDraw = true ∧
          s.PointsAt drawn lead) ∧
        uploads calls = request.uploadsOf s first ∧
        ((∀ id ∈ request.attributes, (s.attr id).role = .position →
            (s.attr id).readable = true → first = some id) →
          uploads calls = request.uploadsOf s drawn)) := by
  intro draw calls first drawn
  refine ⟨uploads_of_breaksOff, fun complete => ?_⟩
  obtain ⟨t, options, channels, done, owned, overlays⟩ := account_draw complete
  obtain ⟨start, during, _, own⟩ := owned.calls
  obtain ⟨outline, appended, uploaded⟩ := uploads_overlays overlays
  obtain ⟨store, counts⟩ := store_ownDraw inRange done
  let view := s.context.view channels options
  let lead := entryCalls prevalidated ++ leadCalls s.context channels view
  let tail := tearDownCalls 0 (request.attributes.map fun id => (s.attr id).role) ++ outline
  have told : calls = entryCalls prevalidated ++ drawCalls s.context channels view
      (request.call start during) (request.attributes.map fun id => (s.attr id).role) ++
        outline := by
    refine callsSince_of_append ?_
    rw [appended, own, List.append_assoc]
  have whole : calls = lead ++ request.call start during :: tail := by
    rw [told]
    simp [lead, tail, drawCalls]
  have read : uploads calls = request.uploadsOf s first := by
    rw [told, uploads_append, uploads_append, uploads_entryCalls,
      uploads_drawCalls _ _ _ (request.drawn?_call start during), uploaded,
      store.uploadsOf counts owned.outlinesDraws]
    rfl
  refine ⟨⟨lead, _, tail, whole, ?_, request.isDraw_call start during, ?_⟩, read, fun only => ?_⟩
  · rw [drawCount_append, drawCount_entryCalls, drawCount_leadCalls]
  · have pointed := pointsAt_leadCalls owned.readable s.context view
    simpa only [Scene.PointsAt, lead, run_entryCalls] using pointed
  · rw [read]
    exact uploadsOf_drawn only

end Draw

/-- Two triangles in buffers of their own, and positions in bytes that the channel cannot read. -/
def twoPositions : List Operation :=
  [ .newBuffer ((Array.range 36).map UInt8.ofNat) (.device 16),
    .newBuffer ((Array.range' 100 36).map UInt8.ofNat) (.device 64),
    .newAttribute false ⟨0⟩ "strand_position_in" ⟨3, .float, 0, 0⟩,
    .newAttribute false ⟨1⟩ "strand_position_in" ⟨3, .float, 0, 0⟩,
    .newAttribute false ⟨1⟩ "strand_position_in" ⟨3, .byte, 0, 0⟩,
    .changeSettings { debugFlags := DebugFlags.wireframe } ]

theorem overlay_follows_first_twoPositions :
    let s := (Scene.create {} []).run twoPositions
    let request : DrawRequest := ⟨.triangleList, 0, 3, [⟨0⟩, ⟨2⟩], none⟩
    let draw := Operation.draw request true
    draw.InRange s ∧ draw.breaksOff s = false ∧ s.drawn? request.attributes = some ⟨0⟩ ∧
      (∃ lead own tail, draw.told s = lead ++ own :: tail ∧ s.PointsAt (some ⟨0⟩) lead) ∧
      uploads (draw.told s) = request.uploadsOf s (some ⟨0⟩) := by
  intro s request draw
  have inRange : draw.InRange s := by decide +kernel
  have complete : draw.breaksOff s = false := by decide +kernel
  have drawn : s.drawn? request.attributes = some ⟨0⟩ := by decide +kernel
  have only : ∀ id ∈ request.attributes, (s.attr id).role = .position →
      (s.attr id).readable = true → s.outlined? request.attributes = some id := by decide +kernel
  obtain ⟨⟨lead, own, tail, split, _, _, pointed⟩, _, follows⟩ :=
    (overlay_follows_first inRange).2 complete
  rw [drawn] at pointed
  exact ⟨inRange, complete, drawn, ⟨lead, own, tail, split, pointed⟩, drawn ▸ follows only⟩

/-- The draw call fetches the second triangle, and the outline is that of the first. -/
theorem overlay_strays_from_draw :
    let s := (Scene.create {} []).run twoPositions
    let request : DrawRequest := ⟨.triangleList, 0, 3, [⟨0⟩, ⟨1⟩], none⟩
    let draw := Operation.draw request true
    draw.breaksOff s = false ∧ s.drawn? request.attributes = some ⟨1⟩ ∧
      (replay ((draw.told s).takeWhile (!·.isDraw))).vertexPointer =
        some ⟨⟨1⟩, 3, .float, 0, 64⟩ ∧
      uploads (draw.told s) = request.uploadsOf s (some ⟨0⟩) ∧
      uploads (draw.told s) ≠ request.uploadsOf s (some ⟨1⟩) := by
  decide +kernel

end DrawSubmission
