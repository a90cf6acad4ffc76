import DrawSubmission.Proofs.Pairing
set_option autoImplicit false

namespace DrawSubmission

def Rests (s t : Scene) : Prop :=
  ∃ calls, t.calls.toList = s.calls.toList ++ calls ∧
    ∀ d : DriverState, d.Rested → (d.run calls).Rested

namespace Rests
variable {s t u : Scene}

theorem trans (h : Rests s t) (h' : Rests t u) : Rests s u := by
  obtain ⟨xs, calls, rests⟩ := h
  obtain ⟨ys, calls', rests'⟩ := h'
  refine ⟨xs ++ ys, ?_, fun d rested => ?_⟩
  · rw [calls', calls, List.append_assoc]
  · rw [DriverState.run_append]
    exact rests' _ (rests d rested)

theorem of_quiet (h : Quiet s t) : Rests s t := by
  obtain ⟨calls, appended, idle, _⟩ := h
  refine ⟨calls, appended, fun d rested => rested.other fun call inside => ?_⟩
  have this := idle call inside
  cases call <;> first | rfl | cases this

theorem of_drawn {request : DrawRequest} {options : FlushOptions} {channels : List Channel}
    (h : Drawn s request options channels t) : Rests s t := by
  obtain ⟨start, bound, _, calls⟩ := h.calls
  refine ⟨_, calls, fun d rested => ?_⟩
  have feeds := feeds_leadCalls s.context rested channels (s.context.view channels options)
  rw [DriverState.run_append, DriverState.run_cons]
  exact (DriverState.feeds_apply feeds (request.isFeeding_call start _)).tearDown
    (roles_sublist h.readable)

end Rests

open SceneM

section Draw
variable (s : Scene)

theorem rests_drawOnce (request : DrawRequest) (options : FlushOptions) :
    Ensures (fun t => t = s) (drawOnce request options) (fun _ => Rests s) fun _ _ => True := by
  have pinned : Rests s (s.pinned request.attributes) := .of_quiet (.of_told (told_pinned ..))
  refine (drawOnce_ensures s request options).mono ?_ fun _ _ _ => trivial
  rintro _ t ⟨channels, drawn⟩
  exact pinned.trans (.of_drawn drawn)

theorem rests_drawOutline (outline : List Segment) :
    Ensures (fun t => t = s) (drawOutline drawLines outline) (fun _ => Rests s)
      fun _ _ => False := by
  let staged := (s.stageOutline outline).2.setOutlines false
  let lines := lineDraw outline (s.stageOutline outline).1
  have unset : Quiet s staged := (quiet_stageOutline s outline).trans (.of_memory rfl rfl)
  have drawn := (rests_drawOnce staged lines {}).and (drawLines_completes s outline)
  refine ensures_drawOutline (drawn.mono ?_ fun _ _ => And.right)
  rintro _ t ⟨rests, _⟩
  have restored : Quiet t (t.setOutlines true).popSource := .of_memory rfl rfl
  exact ((Rests.of_quiet unset).trans rests).trans (.of_quiet restored)

theorem rests_draw (request : DrawRequest) (prevalidated : Bool) :
    Ensures (fun t => t = s) (Operation.draw request prevalidated).perform (fun _ => Rests s)
      fun cause t => cause = .count ∨ (request.Clears prevalidated s → Rests s t) := by
  refine ensures_draw_passing (fun t ready _ => .inr fun _ => .of_quiet ready.quiet)
    fun passed options => ?_
  refine ensures_drawWith (M := Rests s) (.of_each fun t ready => ?_) ?_ (fun _ => id)
    (fun t u cause rests cut => ?_) fun outline => .of_each fun t ⟨rests, _⟩ => ?_
  · have fits := ready.sameSources.fits_iff request
    have drawn := (rests_drawOnce t request options).and (fits_drawOnce t request options)
    refine drawn.mono (fun _ u done => (Rests.of_quiet ready.quiet).trans done.1) ?_
    exact fun cause u broken => broken.2.imp_right
      fun unfit clears => absurd (fits.mpr (clears passed)) unfit
  · exact fun t u alike rests => rests.trans (.of_quiet (.of_told alike.told))
  · exact cut.count_or_alike.imp_right fun alike _ => rests.trans (.of_quiet (.of_told alike.told))
  · exact (rests_drawOutline t outline).mono (fun _ u => rests.trans) fun _ _ => False.elim

end Draw

/-- From a scene in which nothing is bound and normal and generic arrays are off, a draw that ends
at no full counter leaves it so just if its own addresses stay in their words or its validation
fails before them; if not, exactly one buffer is left bound. -/
theorem draw_consistent_iff {s : Scene} (linked : s.Linked) (unbound : s.Unbound)
    {request : DrawRequest} {prevalidated : Bool}
    (inRange : (Operation.draw request prevalidated).InRange s)
    (indices : ∀ indices ∈ request.indices, indices.buffer.index < s.buffers.size)
    (counted : (Operation.draw request prevalidated).Counted s)
    {d : DriverState} (rested : d.Rested) :
    let t := (Operation.draw request prevalidated).after s
    (t.Unbound ∧ (d.run (t.callsSince s.calls.size)).Rested ↔ request.Clears prevalidated s) ∧
      (request.Clears prevalidated s ∨ ∃ binding, t.moment.bound = [binding]) := by
  have backed : request.Backed s := ⟨fun id member => linked.attr (inRange id member), indices⟩
  have paired := paired_draw unbound request prevalidated backed
  have rests := rests_draw s request prevalidated
  have clean : Ensures (fun t => t = s) (Operation.draw request prevalidated).perform
      (fun _ t => request.Clears prevalidated s ∧ t.Unbound ∧ Rests s t)
      (fun cause t => cause = .count ∨ (request.Clears prevalidated s ∧ t.Unbound ∧ Rests s t) ∨
        (¬ request.Clears prevalidated s ∧ Stuck s t)) := by
    refine (paired.and rests).mono ?_ ?_
    · rintro _ t ⟨⟨fits, paired⟩, rests⟩
      exact ⟨fun _ => fits, paired.tallies.unbound, rests⟩
    · rintro cause t ⟨paired, rests⟩
      refine or_iff_not_imp_left.mpr fun counted => ?_
      rcases paired.resolve_left counted with ⟨clears, unbound⟩ | stuck
      · exact .inl ⟨clears, unbound, rests.resolve_left counted clears⟩
      · exact .inr stuck
  intro t
  have exits : (request.Clears prevalidated s ∧ t.Unbound ∧ Rests s t) ∨
      (¬ request.Clears prevalidated s ∧ Stuck s t) :=
    (clean.mono (fun _ t clean => .inl clean) fun _ _ => (·)).of_counted counted
  rcases exits with ⟨clears, unbound, calls, appended, rests⟩ | ⟨blocked, stuck⟩
  · rw [callsSince_of_append appended]
    exact ⟨⟨fun _ => clears, fun _ => ⟨unbound, rests d rested⟩⟩, .inl clears⟩
  · obtain ⟨binding, bound⟩ := stuck.bound
    refine ⟨⟨fun clean => ?_, fun clears => absurd clears blocked⟩, .inr ⟨binding, bound⟩⟩
    rw [clean.1] at bound
    cases bound

/-- A buffer at a high address with normals in reach of it, and colors that are not. -/
def outOfReach : List Operation :=
  [ .newBuffer (Array.replicate 36 0) (.device 16),
    .newAttribute false ⟨0⟩ "strand_normal_in" ⟨3, .float, 0, 0⟩,
    .newAttribute false ⟨0⟩ "strand_color_in" ⟨3, .float, 0, 18446744073709551615⟩ ]

theorem draw_consistent_iff_outOfReach :
    let s := (Scene.create {} []).run outOfReach
    let request : DrawRequest := ⟨.triangleList, 0, 3, [⟨0⟩, ⟨1⟩], none⟩
    let t := (Operation.draw request true).after s
    s.Linked ∧ s.Unbound ∧ (Operation.draw request true).Counted s ∧
      (replay s.calls.toList).Rested ∧ ¬ request.Clears true s ∧
      ∃ binding, t.moment.bound = [binding] := by
  intro s request t
  have linked : s.Linked := by
    unfold Scene.Linked
    decide +kernel
  have unbound : s.Unbound := by decide +kernel
  have told : s.calls.toList = [.createPipeline] := by decide +kernel
  have rested : (replay s.calls.toList).Rested := by
    rw [told]
    exact ⟨rfl, fun _ => rfl⟩
  have inRange : (Operation.draw request true).InRange s := by decide +kernel
  have counted : (Operation.draw request true).Counted s := by decide +kernel
  obtain ⟨consistent, exits⟩ :=
    draw_consistent_iff linked unbound inRange (fun _ indexed => nomatch indexed) counted rested
  have blocked : ¬ request.Clears true s := by
    intro clears
    have idle : t.Unbound := (consistent.mpr clears).1
    revert idle
    decide +kernel
  exact ⟨linked, unbound, counted, rested, blocked, exits.resolve_left blocked⟩

/-- The draw of normals and colors overflows between the binding of the colors and its end: their
buffer stays bound, and the normal array stays on. -/
theorem draw_not_consistent :
    let s := (Scene.create {} []).run outOfReach
    let t := (Operation.draw ⟨.triangleList, 0, 3, [⟨0⟩, ⟨1⟩], none⟩ true).after s
    s.Unbound ∧ (replay s.calls.toList).normalArray = false ∧
      t.moment.bound = [(⟨0⟩, .vertexArray)] ∧ (replay t.calls.toList).normalArray = true := by
  decide +kernel

end DrawSubmission
