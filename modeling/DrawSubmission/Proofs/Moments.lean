import DrawSubmission.Proofs.Serving
import DrawSubmission.Proofs.Undisturbed
set_option autoImplicit false

namespace DrawSubmission

def DriverCall.pinsDuring : DriverCall → Option (List Nat)
  | drawArrays _ _ _ during | drawElements _ _ _ _ _ during => some during.attributePins
  | _ => none

def Scene.pinsWith (s : Scene) (ids : List AttributeId) : List Nat :=
  s.attributes.toList.mapIdx fun i a => a.pins + ids.count ⟨i⟩

theorem pinsDuring_call (request : DrawRequest) (start : UInt64) (during : Moment) :
    (request.call start during).pinsDuring = some during.attributePins := by
  unfold DrawRequest.call
  split <;> rfl

theorem pinsDuring_of_drawCount {calls : List DriverCall} (none : drawCount calls = 0) :
    calls.filterMap DriverCall.pinsDuring = [] := by
  refine List.filterMap_eq_nil_iff.mpr fun call inside => ?_
  have quiet := drawCount_eq_zero.mp none call inside
  cases call <;> first | rfl | cases quiet

/-- The draw calls that lead from one scene to another are made under some pins. -/
def ShowsPins (s : Scene) (pins : List (List Nat)) (t : Scene) : Prop :=
  ∃ calls, t.calls.toList = s.calls.toList ++ calls ∧
    calls.filterMap DriverCall.pinsDuring = pins

namespace ShowsPins
variable {s t u : Scene} {xs ys : List (List Nat)}

theorem trans (h : ShowsPins s xs t) (h' : ShowsPins t ys u) : ShowsPins s (xs ++ ys) u := by
  obtain ⟨calls, appended, shown⟩ := h
  obtain ⟨calls', appended', shown'⟩ := h'
  refine ⟨calls ++ calls', ?_, ?_⟩
  · rw [appended', appended, List.append_assoc]
  · rw [List.filterMap_append, shown, shown']

theorem of_quiet (h : Quiet s t) : ShowsPins s [] t := by
  obtain ⟨calls, appended, idle, _⟩ := h
  refine ⟨calls, appended, pinsDuring_of_drawCount (drawCount_eq_zero.mpr fun call inside => ?_)⟩
  have this := idle call inside
  cases call <;> first | rfl | cases this

theorem of_drawn {request : DrawRequest} {options : FlushOptions} {channels : List Channel}
    (h : Drawn s request options channels t) : ShowsPins s [s.moment.attributePins] t := by
  obtain ⟨start, bound, _, calls⟩ := h.calls
  refine ⟨_, calls, ?_⟩
  rw [List.filterMap_append, List.filterMap_cons, pinsDuring_call,
    pinsDuring_of_drawCount (drawCount_leadCalls ..),
    pinsDuring_of_drawCount (drawCount_tearDownCalls ..)]
  rfl

theorem of_brokenOff {request : DrawRequest} {cause : Overflow} (h : BrokenOff s request cause t) :
    ShowsPins s [] t := by
  cases h with
  | setUp _ channels calls => exact ⟨_, calls, pinsDuring_of_drawCount (drawCount_setUpCalls ..)⟩
  | lead _ channels view calls => exact ⟨_, calls, pinsDuring_of_drawCount (drawCount_leadCalls ..)⟩

end ShowsPins

theorem attributePins_pinned (s : Scene) (ids : List AttributeId)
    (h : ∀ id ∈ ids, id.index < s.attributes.size) :
    (s.pinned ids).moment.attributePins = s.pinsWith ids := by
  rw [Scene.pinned, Scene.foldl_acquire s ids h]
  change (s.attributes.mapIdx _).toList.map VertexAttribute.pins = _
  rw [Array.toList_mapIdx]
  exact List.ext_getElem (by simp [Scene.pinsWith]) fun i _ _ => by simp [Scene.pinsWith]

open SceneM

theorem showsPins_drawOnce (s : Scene) (request : DrawRequest) (options : FlushOptions)
    (h : ∀ id ∈ request.attributes, id.index < s.attributes.size) :
    Ensures (fun t => t = s) (drawOnce request options)
      (fun _ => ShowsPins s [s.pinsWith request.attributes]) fun _ => ShowsPins s [] := by
  have pinned : ShowsPins s [] (s.pinned request.attributes) :=
    .of_quiet (.of_told (told_pinned s request.attributes))
  refine (drawOnce_ensures s request options).mono ?_ ?_
  · rintro _ t ⟨channels, drawn⟩
    rw [← attributePins_pinned s request.attributes h]
    exact pinned.trans (.of_drawn drawn)
  · exact fun _ t broken => pinned.trans (.of_brokenOff broken)

theorem pinsWith_stageOutline (s : Scene) (outline : List Segment) :
    ((s.stageOutline outline).2.setOutlines false).pinsWith [(s.stageOutline outline).1] =
      s.pinsWith [] ++ [1] := by
  obtain ⟨pipeline, pipelinesMade, calls, _, frame⟩ := stageOutline_frame s outline
  have attributes : ((s.stageOutline outline).2.setOutlines false).attributes.toList =
      s.attributes.toList ++ [outlineAttribute ⟨s.buffers.size⟩ s.context.diagnostics] := by
    rw [frame]
    exact Array.toList_push
  have name : (s.stageOutline outline).1 = ⟨s.attributes.size⟩ := rfl
  have old :
      (s.attributes.toList.mapIdx fun i a =>
        a.pins + [(⟨s.attributes.size⟩ : AttributeId)].count ⟨i⟩) =
          s.attributes.toList.mapIdx fun i a => a.pins + ([] : List AttributeId).count ⟨i⟩ := by
    refine List.mapIdx_eq_mapIdx_iff.mpr fun i inside => ?_
    have apart : s.attributes.size ≠ i := Nat.ne_of_gt (by simpa using inside)
    simp [apart]
  rw [Scene.pinsWith, attributes, name, List.mapIdx_concat, old, Scene.pinsWith]
  simp [outlineAttribute]

theorem showsPins_drawOutline (s : Scene) (outline : List Segment) :
    Ensures (fun t => t = s) (drawOutline drawLines outline)
      (fun _ => ShowsPins s [s.pinsWith [] ++ [1]]) fun _ _ => False := by
  let staged := (s.stageOutline outline).2.setOutlines false
  let lines := lineDraw outline (s.stageOutline outline).1
  have inside : ∀ id ∈ lines.attributes, id.index < staged.attributes.size :=
    inside_stageOutline s outline
  have unset : ShowsPins s [] staged :=
    .of_quiet ((quiet_stageOutline s outline).trans (.of_memory rfl rfl))
  have drawn := (showsPins_drawOnce staged lines {} inside).and (drawLines_completes s outline)
  refine ensures_drawOutline (drawn.mono ?_ fun _ _ => And.right)
  rintro _ t ⟨shows, _⟩
  have restored : Quiet t (t.setOutlines true).popSource := .of_memory rfl rfl
  rw [← pinsWith_stageOutline s outline]
  exact (unset.trans shows).trans (.of_quiet restored)

/-- The draw calls of a draw: its own, with the listed attributes pinned as well, if the draw does
not overflow before, and that of an outline, with the attribute of the lines pinned as well. -/
theorem showsPins_draw (s : Scene) (request : DrawRequest) (prevalidated : Bool)
    (h : ∀ id ∈ request.attributes, id.index < s.attributes.size) :
    Ensures (fun t => t = s) (Operation.draw request prevalidated).perform
      (fun _ t => ∃ nested, nested <+: [s.pinsWith [] ++ [1]] ∧
        ShowsPins s (s.pinsWith request.attributes :: nested) t)
      (fun _ t => ∃ own, own <+: [s.pinsWith request.attributes] ∧ ShowsPins s own t) := by
  let Own (t : Scene) := ShowsPins s [s.pinsWith request.attributes] t ∧
    t.attributes = s.attributes
  have unshown (t : Scene) (shows : ShowsPins s [] t) :
      ∃ own, own <+: [s.pinsWith request.attributes] ∧ ShowsPins s own t :=
    ⟨[], List.nil_prefix, shows⟩
  refine ensures_draw (fun t ready => unshown t (.of_quiet ready.quiet)) fun options => ?_
  refine ensures_drawWith (M := Own) (.of_each fun t ready => ?_) ?_ ?_ ?_
    fun outline => .of_each ?_
  · have prepared : ShowsPins s [] t := .of_quiet ready.quiet
    obtain ⟨textures, log, calls, same⟩ := ready.same
    have attributes : t.attributes = s.attributes := by rw [same]
    have pins : t.pinsWith request.attributes = s.pinsWith request.attributes := by
      rw [Scene.pinsWith, attributes, Scene.pinsWith]
    have inside : ∀ id ∈ request.attributes, id.index < t.attributes.size := attributes ▸ h
    have drawn := (showsPins_drawOnce t request options inside).and
      (kept_drawOnce t request options inside)
    rw [pins] at drawn
    refine drawn.mono ?_ fun _ u ⟨shows, _⟩ => unshown u (prepared.trans shows)
    exact fun _ u ⟨shows, kept⟩ =>
      ⟨prepared.trans shows, (Scene.attributes_eq_of_kept kept).trans attributes⟩
  · rintro t u alike ⟨shows, attributes⟩
    exact ⟨shows.trans (.of_quiet (.of_told alike.told)),
      (Scene.attributes_eq_of_kept alike.kept).trans attributes⟩
  · exact fun t own => ⟨[], List.nil_prefix, own.1⟩
  · exact fun t u _ own cut =>
      ⟨_, List.prefix_rfl, own.1.trans (.of_quiet (.of_told cut.told))⟩
  · rintro t ⟨⟨shows, attributes⟩, _⟩
    have pins : t.pinsWith [] = s.pinsWith [] := by rw [Scene.pinsWith, attributes, Scene.pinsWith]
    have drawn := showsPins_drawOutline t outline
    rw [pins] at drawn
    refine drawn.mono ?_ fun _ _ => False.elim
    exact fun _ u outlined => ⟨_, List.prefix_rfl, shows.trans outlined⟩

theorem showsPins_after (s : Scene) (request : DrawRequest) (prevalidated : Bool)
    (h : ∀ id ∈ request.attributes, id.index < s.attributes.size) :
    ∃ shown, shown <+: [s.pinsWith request.attributes, s.pinsWith [] ++ [1]] ∧
      ((Operation.draw request prevalidated).breaksOff s = false → shown ≠ []) ∧
      ShowsPins s shown ((Operation.draw request prevalidated).after s) := by
  have drawn := showsPins_draw s request prevalidated h
  cases complete : (Operation.draw request prevalidated).breaksOff s with
  | false =>
    obtain ⟨nested, part, shows⟩ := Operation.ensured complete drawn
    exact ⟨_, List.cons_prefix_cons.mpr ⟨rfl, part⟩, fun _ => List.cons_ne_nil _ _, shows⟩
  | true =>
    obtain ⟨_, _, own, part, shows⟩ := Operation.ensured_overflow complete drawn
    exact ⟨own, part.trans (List.prefix_append _ [_]), nofun, shows⟩

end DrawSubmission
