import DrawSubmission.Proofs.Addresses
import DrawSubmission.Proofs.Trimmed
set_option autoImplicit false

namespace DrawSubmission

open SceneM

section Draw
variable {s : Scene}

def UnpairedOff (array : DrawArray) (calls : List DriverCall) : Prop :=
  (array, false) ∈ switches calls ∧ (array, true) ∉ switches calls

/-- What a draw and its trimmed one tell, up to the pins of their draw calls: the same up to the
tear-down, where the draw switches the normal array off once more for each normal that it skips. -/
structure ToldBeside (s : Scene) (attributes : List AttributeId) (calls others : List DriverCall) :
    Prop where
  tearDown : ∃ lead,
    plainCalls calls = lead ++ (s.arrays attributes).map (DrawArray.switched false) ∧
      plainCalls others =
        lead ++ (s.arrays (s.readables attributes)).map (DrawArray.switched false)
  sublist : (s.arrays (s.readables attributes)).Sublist (s.arrays attributes)
  more : (s.arrays attributes).Perm
    (s.arrays (s.readables attributes) ++ List.replicate (s.skippedNormals attributes) .normal)
  same_iff : plainCalls calls = plainCalls others ↔ s.skippedNormals attributes = 0
  unpaired_iff : ∀ array, UnpairedOff array calls ↔
    array = .normal ∧ s.skippedNormals attributes ≠ 0 ∧
      .normal ∉ s.arrays (s.readables attributes)
  paired : ∀ array, ¬ UnpairedOff array others

theorem plainCalls_since {t : Scene} {calls : List DriverCall}
    (h : plainCalls t.calls.toList = plainCalls s.calls.toList ++ calls) :
    plainCalls (t.callsSince s.calls.size) = calls := by
  have size : (plainCalls s.calls.toList).length = s.calls.size := List.length_map _
  rw [Scene.callsSince, plainCalls, List.map_drop, ← plainCalls, h, ← size, List.drop_left]

/-- The tear-downs are the same just if no normal is skipped. -/
theorem tearDown_eq_iff (s : Scene) (attributes : List AttributeId) :
    (s.arrays attributes).map (DrawArray.switched false) =
        (s.arrays (s.readables attributes)).map (DrawArray.switched false) ↔
      s.skippedNormals attributes = 0 := by
  obtain ⟨sublist, more⟩ := arraysOf_readables s attributes 0
  have length := more.length_eq
  rw [List.length_append, List.length_replicate] at length
  constructor
  · intro same
    have same := congrArg List.length same
    rw [List.length_map, List.length_map] at same
    simp only [Scene.arrays] at same
    omega
  · intro none
    rw [none] at length
    rw [Scene.arrays, Scene.arrays, sublist.eq_of_length length.symm]

/-- The array of the normals is the only one that is switched off without having been on. -/
theorem unpairedOff_iff {attributes : List AttributeId} {calls : List DriverCall}
    (switched : switches calls =
      (s.arrays (s.readables attributes)).map (fun array => (array, true)) ++
        (s.arrays attributes).map fun array => (array, false)) (array : DrawArray) :
    UnpairedOff array calls ↔
      array = .normal ∧ s.skippedNormals attributes ≠ 0 ∧
        .normal ∉ s.arrays (s.readables attributes) := by
  have off : (array, false) ∈ switches calls ↔ array ∈ s.arrays attributes := by
    simp [switched]
  have on : (array, true) ∈ switches calls ↔ array ∈ s.arrays (s.readables attributes) := by
    simp [switched]
  have more := (arraysOf_readables s attributes 0).2.mem_iff (a := array)
  rw [List.mem_append, List.mem_replicate] at more
  rw [UnpairedOff, off, on, Scene.arrays, more]
  constructor
  · rintro ⟨present, absent⟩
    obtain ⟨skipped, normal⟩ := present.resolve_left absent
    exact ⟨normal, skipped, normal ▸ absent⟩
  · rintro ⟨normal, skipped, absent⟩
    exact ⟨.inr ⟨skipped, normal⟩, normal ▸ absent⟩

theorem skippedNormals_readables (s : Scene) (attributes : List AttributeId) :
    s.skippedNormals (s.readables attributes) = 0 := by
  rw [Scene.skippedNormals, List.countP_eq_zero]
  intro id member
  simp [(List.mem_filter.mp member).2]

theorem toldBeside_of_owned {request : DrawRequest} {prevalidated : Bool} {t u : Scene}
    {lead : List DriverCall}
    (owned : ∃ options channels, request.Owned options (entryCalls prevalidated) s channels t)
    (owned' : ∃ options channels,
      (request.trimmed s).Owned options (entryCalls prevalidated) s channels u)
    (calls : plainCalls t.calls.toList = plainCalls s.calls.toList ++
      (lead ++ (s.arrays request.attributes).map (DrawArray.switched false)))
    (calls' : plainCalls u.calls.toList = plainCalls s.calls.toList ++
      (lead ++ (s.arrays (s.readables request.attributes)).map (DrawArray.switched false))) :
    ToldBeside s request.attributes (t.callsSince s.calls.size) (u.callsSince s.calls.size) := by
  obtain ⟨_, _, owned⟩ := owned
  obtain ⟨_, _, owned'⟩ := owned'
  have told := plainCalls_since calls
  have told' := plainCalls_since calls'
  obtain ⟨sublist, more⟩ := arraysOf_readables s request.attributes 0
  constructor
  · exact ⟨lead, told, told'⟩
  · exact sublist
  · exact more
  · rw [told, told', List.append_cancel_left_eq]
    exact tearDown_eq_iff s request.attributes
  · exact unpairedOff_iff (switches_owned owned)
  · intro array
    rw [unpairedOff_iff (switches_owned owned') array]
    rintro ⟨_, skipped, _⟩
    exact skipped (skippedNormals_readables s request.attributes)

theorem breaksOff_draw (s : Scene) (request : DrawRequest) (prevalidated : Bool) :
    (Operation.draw request prevalidated).breaksOff s =
      !((Operation.draw request prevalidated).perform.exit s).isOk := by
  simp only [Operation.breaksOff, exit]
  cases (Operation.draw request prevalidated).perform s <;> rfl

/-- From any scene of a run, a draw with outlines off that meets no full counter ends as the trimmed
one does, leaves the same scene and logs the same but for its skips. One that overflows tells the
same; one that completes warns once for each attribute that it skips, and tells the same just if
none of them is a normal. -/
theorem draw_beside_trimmed (settings : DrawSettings) (notices : List Notice) (ops : List Operation)
    (along : Along Operation.InRange ops (.create settings notices)) (request : DrawRequest)
    (prevalidated : Bool) :
    let s := (Scene.create settings notices).run ops
    let draw := Operation.draw request prevalidated
    let trimmed := Operation.draw (request.trimmed s) prevalidated
    draw.InRange s → s.outlinesDraws = false → draw.Counted s →
      draw.perform.exit s = trimmed.perform.exit s ∧ Matching (draw.after s) (trimmed.after s) ∧
        Skipped s [] (trimmed.after s) ∧
        if draw.breaksOff s then
          SkippedPart s request.attributes (draw.after s) ∧
            plainCalls (draw.told s) = plainCalls (trimmed.told s)
        else
          Skipped s (s.skips request.attributes) (draw.after s) ∧
            ToldBeside s request.attributes (draw.told s) (trimmed.told s) := by
  intro s draw trimmed inRange off counted
  have start : (Scene.create settings notices).Linked := fun _ member => nomatch member
  have linked : s.Linked := linked_run start ops along
  have performed : draw.perform s = ownDraw request prevalidated s :=
    perform_draw_of_not_outlined request off
  have performed' : trimmed.perform s = ownDraw (request.trimmed s) prevalidated s :=
    perform_draw_of_not_outlined (request.trimmed s) off
  have uncounted : (ownDraw request prevalidated).exit s ≠ .error .count := by
    have counted : draw.perform.exit s ≠ .error .count := counted
    rwa [exit, performed] at counted
  have beside : Alongside (MatchingFrom s request.attributes) s (s.arrays request.attributes)
      (s.arrays (s.readables request.attributes)) (ownDraw request prevalidated s)
      (ownDraw (request.trimmed s) prevalidated s) :=
    alongside_ownDraw request prevalidated uncounted
  have skipped := skipped_ownDraw s request prevalidated s rfl
  have skipped' := skipped_ownDraw s (request.trimmed s) prevalidated s rfl
  have owned := owned_ownDraw s request prevalidated s rfl
  have owned' := owned_ownDraw s (request.trimmed s) prevalidated s rfl
  have broken : draw.breaksOff s = !(draw.perform.exit s).isOk :=
    breaksOff_draw s request prevalidated
  rw [broken]
  simp only [Operation.told, Operation.after, after, exit, performed, performed']
  revert beside skipped skipped' owned owned'
  generalize ownDraw request prevalidated s = outcome
  generalize ownDraw (request.trimmed s) prevalidated s = outcome'
  intro beside skipped skipped' owned owned'
  cases beside with
  | @torn t u lead matching calls calls' =>
    have silent : Skipped s [] u := by
      rw [← skips_readables s request.attributes]
      exact skipped'
    exact ⟨rfl, matching linked inRange, silent, skipped,
    toldBeside_of_owned owned owned' calls calls'⟩
  | @broken cause t u lead matching calls calls' =>
    obtain ⟨skips, part, silent⟩ := skipped'
    have none : skips = [] := by
      rw [DrawRequest.trimmed, skips_readables] at part
      exact List.prefix_nil.mp part
    have told := (plainCalls_since calls).trans (plainCalls_since calls').symm
    exact ⟨rfl, matching linked inRange, none ▸ silent, skipped, told⟩

end Draw

def skippingRun : List Operation :=
  [ .newBuffer (Array.replicate 36 0) (.device 16),
    .newAttribute false ⟨0⟩ "strand_position_in" ⟨3, .float, 0, 0⟩,
    .newAttribute false ⟨0⟩ "strand_position_in" ⟨3, .byte, 0, 0⟩,
    .newAttribute false ⟨0⟩ "strand_normal_in" ⟨3, .unsignedByte, 0, 0⟩,
    .newAttribute false ⟨0⟩ "weight" ⟨1, .unsignedByte, 0, 4⟩,
    .newAttribute false ⟨0⟩ "strand_normal_in" ⟨3, .float, 0, 0⟩ ]

theorem draw_beside_trimmed_skippingRun :
    let s := (Scene.create {} []).run skippingRun
    let request : DrawRequest := ⟨.triangleList, 0, 3, [⟨0⟩, ⟨1⟩, ⟨2⟩, ⟨3⟩], none⟩
    let read : DrawRequest := ⟨.triangleList, 0, 3, [⟨0⟩, ⟨3⟩], none⟩
    let draw := Operation.draw request false
    let trimmed := Operation.draw read false
    Along Operation.InRange skippingRun (.create {} []) ∧ draw.InRange s ∧
      s.outlinesDraws = false ∧ draw.Counted s ∧ draw.breaksOff s = false ∧
      Matching (draw.after s) (trimmed.after s) ∧
      (draw.after s).notices Notice.isSkip =
        [.attributeSkipped .position "strand_position_in" .byte,
          .attributeSkipped .normal "strand_normal_in" .unsignedByte] ∧
      UnpairedOff .normal (draw.told s) ∧ ∀ array, ¬ UnpairedOff array (trimmed.told s) := by
  intro s request read draw trimmed
  have along : Along Operation.InRange skippingRun (.create {} []) := by decide +kernel
  have inRange : draw.InRange s := by decide +kernel
  have off : s.outlinesDraws = false := by decide +kernel
  have counted : draw.Counted s := by decide +kernel
  have completes : draw.breaksOff s = false := by decide +kernel
  have listed : request.trimmed s = read := by decide +kernel
  obtain ⟨_, matching, _, rest⟩ :=
    draw_beside_trimmed {} [] skippingRun along request false inRange off counted
  change request.trimmed ((Scene.create {} []).run skippingRun) = read at listed
  rw [if_neg (by rw [completes]; exact Bool.false_ne_true)] at rest
  obtain ⟨skipped, told⟩ := rest
  rw [listed] at matching told
  have before : s.notices Notice.isSkip = [] := by decide +kernel
  have skips : s.skips request.attributes =
      [.attributeSkipped .position "strand_position_in" .byte,
        .attributeSkipped .normal "strand_normal_in" .unsignedByte] := by decide +kernel
  have unread : s.skippedNormals request.attributes ≠ 0 ∧
      .normal ∉ s.arrays (s.readables request.attributes) := by decide +kernel
  rw [Skipped, before, skips] at skipped
  exact ⟨along, inRange, off, counted, completes, matching, skipped,
    (told.unpaired_iff .normal).mpr ⟨rfl, unread⟩, told.paired⟩

/-- Normals as bytes are skipped, but after the draw call their array is switched off: it was not
on, and without the attribute there is no such call. -/
theorem skipped_normals_torn_down :
    let s := (Scene.create {} []).run
      [ .newBuffer (Array.replicate 36 0) (.device 0),
        .newAttribute false ⟨0⟩ "strand_normal_in" ⟨3, .unsignedByte, 0, 0⟩ ]
    let draw := Operation.draw ⟨.triangleList, 0, 3, [⟨0⟩], none⟩ true
    let trimmed := Operation.draw ⟨.triangleList, 0, 3, [], none⟩ true
    s.readables [⟨0⟩] = [] ∧ s.outlinesDraws = false ∧ draw.breaksOff s = false ∧
      .setNormalArrayEnabled false ∈ draw.told s ∧ .setNormalArrayEnabled true ∉ draw.told s ∧
      .setNormalArrayEnabled false ∉ trimmed.told s ∧
      plainCalls (draw.told s) ≠ plainCalls (trimmed.told s) := by
  decide +kernel

end DrawSubmission
