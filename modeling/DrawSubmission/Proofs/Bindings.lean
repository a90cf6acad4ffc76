import DrawSubmission.Proofs.Holdings
import DrawSubmission.Proofs.Serving
import DrawSubmission.Scene.Tallies
set_option autoImplicit false

namespace DrawSubmission

/-- A draw call with indices is made while their buffer is the only one bound, one without indices
while none is. -/
def DriverCall.BindsIndices : DriverCall → Prop
  | drawArrays _ _ _ during => during.bound = []
  | drawElements _ _ _ buffer _ during => during.bound = [(buffer, .indexArray)]
  | _ => True

theorem bindsIndices_of_not_draw {call : DriverCall} (other : call.isDraw = false) :
    call.BindsIndices := by
  cases call with
  | drawArrays | drawElements => cases other
  | _ => trivial

structure DrawRequest.Backed (request : DrawRequest) (s : Scene) : Prop where
  attributes : ∀ id ∈ request.attributes, (s.attr id).buffer.index < s.buffers.size
  indices : ∀ indices ∈ request.indices, indices.buffer.index < s.buffers.size

def Scene.backing (s : Scene) (attributes : List AttributeId) (b : BufferId) : Nat :=
  attributes.countP fun id => (s.attr id).readable && b == (s.attr id).buffer

def DrawRequest.indexing (request : DrawRequest) (b : BufferId) : Nat :=
  if request.indices.any (b == ·.buffer) then 1 else 0

def DrawRequest.bindings (request : DrawRequest) (s : Scene) (b : BufferId) : Nat :=
  s.backing request.attributes b + request.indexing b

/-- An overflow has left one buffer bound. -/
def Stuck (s t : Scene) : Prop :=
  ∃ id target times, Tallies (Scene.only id target) times s t

theorem Stuck.bound {s t : Scene} (h : Stuck s t) : ∃ binding, t.moment.bound = [binding] := by
  obtain ⟨id, target, times, tallies⟩ := h
  exact ⟨(id, target), Scene.bound_eq_singleton tallies.held⟩

section SetUp
variable {s : Scene}

theorem backing_snoc (s : Scene) (done : List AttributeId) (id : AttributeId) (b : BufferId) :
    s.backing (done ++ [id]) b =
      s.backing done b + if (s.attr id).readable ∧ b = (s.attr id).buffer then 1 else 0 := by
  rw [Scene.backing, List.countP_append, List.countP_singleton, ← Scene.backing]
  simp only [Bool.and_eq_true, beq_iff_eq]

open SceneM

theorem tallies_setUpChannel (done : List AttributeId) (setUp : SetUp) (id : AttributeId)
    (inside : (s.attr id).buffer.index < s.buffers.size) :
    Ensures (fun t => t.kept = s.kept ∧ Tallies nothing (s.backing done) s t)
      (Scene.setUpChannel setUp id)
      (fun _ t => t.kept = s.kept ∧ Tallies nothing (s.backing (done ++ [id])) s t)
      fun cause t => cause = .count ∨ Stuck s t := by
  rintro t ⟨kept, tallies⟩
  let a := s.attr id
  have same : t.attr id = a := Scene.attr_eq_of_kept kept id
  have exists' : a.buffer.index < t.buffers.size := by
    rw [Scene.buffers_size_eq_of_kept kept]
    exact inside
  cases readable : a.readable with
  | false =>
    rw [Scene.setUpChannel_of_unreadable setUp (same ▸ readable)]
    refine ⟨kept, (tallies.congr fun b => ?_).step (.note t rfl)⟩
    rw [backing_snoc, readable, if_neg fun both => Bool.false_ne_true both.1]
    rfl
  | true =>
    rw [Scene.setUpChannel_of_readable setUp (same ▸ readable), same]
    let Bound (u : Scene) := u.kept = s.kept ∧ Tallies (Scene.only a.buffer .vertexArray)
      (fun b => s.backing done b + if b = a.buffer then 1 else 0) s u
    have bound : Ensures (fun u => u = t) (bindBuffer a.buffer .vertexArray) (fun _ => Bound)
        fun cause u => cause = .count ∨ Stuck s u := by
      refine (bindBuffer_ensures t _ _).mono ?_ fun _ _ full => .inl full.1
      rintro _ _ rfl
      exact ⟨(Scene.kept_bind ..).trans kept, tallies.bind exists' .vertexArray⟩
    refine bound.bind (fun _ u ⟨kept, bound⟩ => ?_) t rfl
    have after := (kept_connectBound u setUp a).trans kept
    revert after
    simp only [Scene.connectBound, SceneM.after]
    cases a.pointer (u.buffer a.buffer).base with
    | error cause => exact fun _ => .inr ⟨a.buffer, .vertexArray, _, bound⟩
    | ok pointer =>
      have connected := bound.step (.of_still (Scene.still_connect u setUp a pointer))
      dsimp only
      by_cases spent : largestCount < (u.connect setUp a pointer).1.generic
      · simp only [spent, ↓reduceIte, true_or, implies_true]
      · simp only [spent, ↓reduceIte]
        refine fun after => ⟨after, connected.unbind.congr fun b => ?_⟩
        have same : (s.attr id).readable = true := readable
        simp [backing_snoc, same, a]

theorem tallies_enableAttributes (unbound : s.Unbound) (attributes : List AttributeId)
    (options : FlushOptions)
    (inside : ∀ id ∈ attributes, (s.attr id).buffer.index < s.buffers.size) :
    Ensures (fun t => t = s) (enableAttributes attributes options)
      (fun _ t => Tallies nothing (s.backing attributes) s t)
      fun cause t => cause = .count ∨ Stuck s t := by
  let Walked (done : List AttributeId) (_ : SetUp) (t : Scene) : Prop :=
    t.kept = s.kept ∧ Tallies nothing (s.backing done) s t
  refine .get_bind fun t same => ?_
  subst t
  have walk : Ensures (fun t => t = s)
      (attributes.foldlM Scene.setUpChannel { derivation := { source := s.context.source } })
      (Walked attributes) fun cause t => cause = .count ∨ Stuck s t := by
    intro t same
    subst t
    refine Ensures.foldlM (I := Walked) attributes [] _ (fun done id todo setUp whole => ?_) s
      ⟨rfl, .start unbound⟩
    refine tallies_setUpChannel done setUp id (inside id ?_)
    rw [← List.nil_append attributes, whole]
    exact List.mem_append_right done List.mem_cons_self
  refine walk.bind fun setUp t walked => ?_
  exact walked.2.step (.of_still (Scene.still_flush t setUp options))

theorem tallies_issue {t : Scene} {times : BufferId → Nat} (request : DrawRequest)
    (tallies : Tallies nothing times s t)
    (inside : ∀ indices ∈ request.indices, indices.buffer.index < t.buffers.size) :
    Ensures (fun u => u = t) (issue request)
      (fun _ u => Tallies nothing (fun b => times b + request.indexing b) s u ∧
        ∃ call, u.calls.toList = t.calls.toList ++ [call] ∧ call.BindsIndices)
      fun cause u => cause = .count ∨ Stuck s u := by
  cases indexed : request.indices with
  | none =>
    rintro u rfl
    have recorded (call : DriverCall) : Tallies nothing times s (u.record call) :=
      tallies.step (.of_still rfl)
    simp only [issue, indexed]
    refine ⟨(recorded _).congr fun b => ?_, _, Array.toList_push, tallies.unbound⟩
    simp [DrawRequest.indexing, indexed]
  | some indices =>
    let busy := t.bind indices.buffer .indexArray
    have bound := tallies.bind (inside indices indexed) .indexArray
    have told : busy.told = t.told := Scene.told_bind ..
    simp only [issue, indexed]
    have first : Ensures (fun u => u = t) (bindBuffer indices.buffer .indexArray)
        (fun _ u => u = busy) fun cause u => cause = .count ∨ Stuck s u :=
      (bindBuffer_ensures t indices.buffer .indexArray).mono (fun _ _ => id)
        fun _ _ full => .inl full.1
    refine first.bind fun _ => ?_
    rintro u rfl
    simp only [issueBound]
    cases indices.address (busy.buffer indices.buffer).base request.first with
    | error cause => exact .inr ⟨indices.buffer, .indexArray, _, bound⟩
    | ok start =>
      let call : DriverCall := .drawElements request.topology request.count indices.format
        indices.buffer start busy.moment
      have recorded := bound.step (u := busy.record call) (.of_still rfl)
      refine ⟨recorded.unbind.congr fun b => ?_, call, ?_, Scene.bound_eq_singleton bound.held⟩
      · simp [DrawRequest.indexing, indexed]
      · rw [Scene.calls_eq_of_told (Scene.told_unbind ..), ← Scene.calls_eq_of_told told]
        exact Array.toList_push

end SetUp

/-- Since `s` every binding has been ended, and every draw call was made under the right ones. -/
structure Paired (times : BufferId → Nat) (s t : Scene) : Prop where
  tallies : Tallies nothing times s t
  calls : ∃ calls, t.calls.toList = s.calls.toList ++ calls ∧ ∀ call ∈ calls, call.BindsIndices

theorem bindsIndices_of_drawCount {calls : List DriverCall} (none : drawCount calls = 0) :
    ∀ call ∈ calls, call.BindsIndices :=
  fun call inside => bindsIndices_of_not_draw (drawCount_eq_zero.mp none call inside)

namespace Paired
variable {times times' : BufferId → Nat} {s t u : Scene}

theorem trans (h : Paired times s t) (h' : Paired times' t u) :
    Paired (fun b => times b + times' b) s u := by
  obtain ⟨xs, calls, right⟩ := h.calls
  obtain ⟨ys, calls', right'⟩ := h'.calls
  refine ⟨h.tallies.trans h'.tallies, xs ++ ys, ?_, fun call inside => ?_⟩
  · rw [calls', calls, List.append_assoc]
  · rcases List.mem_append.mp inside with early | late
    · exact right call early
    · exact right' call late

theorem congr (h : Paired times s t) (same : ∀ b, times' b = times b) : Paired times' s t :=
  ⟨h.tallies.congr same, h.calls⟩

theorem of_quiet (unbound : s.Unbound) (quiet : Quiet s t) (same : SameBindings s t) :
    Paired (fun _ => 0) s t := by
  obtain ⟨calls, appended, idle, _⟩ := quiet
  refine ⟨(Tallies.start unbound).step same, calls, appended, fun call inside => ?_⟩
  have this := idle call inside
  refine bindsIndices_of_not_draw ?_
  cases call <;> first | rfl | cases this

theorem after_quiet (unbound : s.Unbound) (quiet : Quiet s t) (same : SameBindings s t)
    (h : Paired times t u) : Paired times s u :=
  ((of_quiet unbound quiet same).trans h).congr fun b => (Nat.zero_add (times b)).symm

theorem quiet (h : Paired times s t) (quiet : Quiet t u) (same : SameBindings t u) :
    Paired times s u :=
  h.trans (of_quiet h.tallies.unbound quiet same)

end Paired

section Draw
variable {s : Scene}

open SceneM

theorem paired_drawPinned (unbound : s.Unbound) (request : DrawRequest) (options : FlushOptions)
    (backed : request.Backed s) :
    Ensures (fun t => t = s) (drawPinned request options)
      (fun _ => Paired (request.bindings s) s) fun cause t => cause = .count ∨ Stuck s t := by
  let Enabled (t : Scene) := t.kept = s.kept ∧ Paired (s.backing request.attributes) s t
  have enabled : Ensures (fun t => t = s) (enableAttributes request.attributes options)
      (fun _ => Enabled) fun cause t => cause = .count ∨ Stuck s t := by
    have tallied := tallies_enableAttributes unbound request.attributes options backed.attributes
    have told := enableAttributes_ensures s request.attributes options
    refine (tallied.and told).mono ?_ fun _ _ => And.left
    rintro _ t ⟨tallies, channels, _, prepared⟩
    have lead := bindsIndices_of_drawCount (drawCount_leadCalls s.context channels
      (s.context.view channels options))
    exact ⟨prepared.kept, tallies, _, prepared.calls, lead⟩
  have issued : Ensures Enabled (issue request) (fun _ => Paired (request.bindings s) s)
      fun cause t => cause = .count ∨ Stuck s t := by
    refine .of_each fun t ⟨kept, paired⟩ => ?_
    obtain ⟨lead, calls, right⟩ := paired.calls
    have inside : ∀ indices ∈ request.indices, indices.buffer.index < t.buffers.size := by
      rw [Scene.buffers_size_eq_of_kept kept]
      exact backed.indices
    refine (tallies_issue request paired.tallies inside).mono ?_ fun _ _ => id
    rintro _ u ⟨tallies, draw, recorded, right'⟩
    refine ⟨tallies, lead ++ [draw], ?_, fun call inside => ?_⟩
    · rw [recorded, calls, List.append_assoc]
    · rcases List.mem_append.mp inside with early | late
      · exact right call early
      · rw [List.mem_singleton.mp late]
        exact right'
  rw [drawPinned_counted]
  refine enabled.bind fun flushed => issued.bind fun _ => .modify fun t paired => ?_
  have torn : Paired (fun _ => 0) t (t.disableAttributes request.attributes flushed) := by
    refine ⟨(Tallies.start paired.tallies.unbound).step (.of_still ?_), _,
      disableAttributes_calls t request.attributes flushed, ?_⟩
    · exact Scene.still_disableAttributes t request.attributes flushed
    · exact bindsIndices_of_drawCount (drawCount_tearDownCalls ..)
  exact paired.trans torn

theorem bindings_pinned (s : Scene) (request : DrawRequest) (b : BufferId) :
    request.bindings (s.pinned request.attributes) b = request.bindings s b := by
  have same (id : AttributeId) :
      ((s.pinned request.attributes).attr id).readable = (s.attr id).readable ∧
        ((s.pinned request.attributes).attr id).buffer = (s.attr id).buffer := by
    obtain ⟨pins, same⟩ := (sameSources_pinned s request.attributes).attr id
    rw [same]
    exact ⟨rfl, rfl⟩
  simp only [DrawRequest.bindings, Scene.backing, same]

theorem paired_drawOnce (unbound : s.Unbound) (request : DrawRequest) (options : FlushOptions)
    (backed : request.Backed s) :
    Ensures (fun t => t = s) (drawOnce request options)
      (fun _ => Paired (request.bindings s) s) fun cause t => cause = .count ∨ Stuck s t := by
  let pinned := s.pinned request.attributes
  have quiet : Quiet s pinned := .of_told (told_pinned s request.attributes)
  have acquired : SameBindings s pinned :=
    SameBindings.frame.pins.foldl s SameBindings.frame.pins.acquire request.attributes
  have dropped (t : Scene) : SameBindings t (request.attributes.foldl Scene.dropPin t) :=
    SameBindings.frame.pins.foldl t SameBindings.frame.pins.dropPin request.attributes
  have silent (t : Scene) : Quiet t (request.attributes.foldl Scene.dropPin t) :=
    .of_told (Scene.told_frame.pins.foldl t Scene.told_frame.pins.dropPin request.attributes)
  have size : pinned.buffers.size = s.buffers.size := size_foldl_acquire s request.attributes
  have reached : request.Backed pinned := by
    constructor
    · intro id member
      obtain ⟨pins, same⟩ := (sameSources_pinned s request.attributes).attr id
      rw [same, size]
      exact backed.attributes id member
    · intro indices indexed
      rw [size]
      exact backed.indices indices indexed
  have idle : pinned.Unbound := ((Tallies.start unbound).step acquired).unbound
  refine ensures_withPins ?_ (.inl rfl)
  have drawn := paired_drawPinned idle request options reached
  refine drawn.mono (fun _ u paired => ?_) fun cause u => Or.imp_right fun stuck => ?_
  · have whole := (Paired.after_quiet unbound quiet acquired paired).quiet (silent u) (dropped u)
    exact whole.congr fun b => (bindings_pinned s request b).symm
  · obtain ⟨id, target, times, tallies⟩ := stuck
    have whole := ((Tallies.start unbound).step acquired).trans tallies
    exact ⟨id, target, _, whole.step (dropped u)⟩

theorem bindings_stageOutline (s : Scene) (outline : List Segment) :
    SameBindings s ((s.stageOutline outline).2.setOutlines false) := by
  obtain ⟨pipeline, pipelinesMade, calls, _, frame⟩ := stageOutline_frame s outline
  rw [frame]
  exact (SameBindings.addBuffer s rfl rfl).trans (.of_same rfl rfl)

theorem paired_drawOutline (unbound : s.Unbound) (outline : List Segment) :
    Ensures (fun t => t = s) (drawOutline drawLines outline)
      (fun _ t => t.buffers.size = s.buffers.size + 1 ∧
        Paired (fun b => if b.index = s.buffers.size then 1 else 0) s t) fun _ _ => False := by
  let staged := (s.stageOutline outline).2.setOutlines false
  let lines := lineDraw outline (s.stageOutline outline).1
  obtain ⟨pipeline, pipelinesMade, calls, _, frame⟩ := stageOutline_frame s outline
  have quiet : Quiet s staged := (quiet_stageOutline s outline).trans (.of_memory rfl rfl)
  have same : SameBindings s staged := bindings_stageOutline s outline
  have size : staged.buffers.size = s.buffers.size + 1 := by
    change (s.stageOutline outline).2.buffers.size = _
    rw [frame]
    exact Array.size_push _
  have attr : staged.attr (s.stageOutline outline).1 =
      outlineAttribute ⟨s.buffers.size⟩ s.context.diagnostics := by
    rw [← attr_addOutline s outline]
    change (s.stageOutline outline).2.attr _ = _
    rw [frame]
    rfl
  have backed : lines.Backed staged := by
    refine ⟨fun id member => ?_, fun _ indexed => nomatch indexed⟩
    rw [List.mem_singleton.mp member, attr, size]
    exact Nat.lt_succ_self s.buffers.size
  have times (b : BufferId) :
      lines.bindings staged b = if b.index = s.buffers.size then 1 else 0 := by
    have one : lines.attributes = [(s.stageOutline outline).1] := rfl
    have none : lines.indices = .none := rfl
    rw [DrawRequest.bindings, DrawRequest.indexing, Scene.backing, one, none,
      List.countP_singleton, attr]
    have readable : (outlineAttribute ⟨s.buffers.size⟩ s.context.diagnostics).readable = true := rfl
    rw [readable, Bool.true_and]
    cases b with
    | mk i => simp [outlineAttribute]
  have drawn := (paired_drawOnce ((Tallies.start unbound).step same).unbound lines {} backed).and
    (drawLines_completes s outline)
  have sized := drawn.and_after (R := fun t => t.buffers.size = staged.buffers.size)
    (size_drawOnce staged lines {})
  refine ensures_drawOutline (sized.mono ?_ fun _ _ => And.right)
  rintro _ t ⟨⟨paired, _⟩, sizes⟩
  have restored : Quiet t (t.setOutlines true).popSource := .of_memory rfl rfl
  refine ⟨sizes.trans size, ?_⟩
  have whole := (Paired.after_quiet unbound quiet same paired).quiet restored (.of_same rfl rfl)
  exact whole.congr fun b => (times b).symm

/-- No address that a draw hands to the driver overflows, or its validation fails before. -/
def DrawRequest.Clears (request : DrawRequest) (prevalidated : Bool) (s : Scene) : Prop :=
  s.Passes prevalidated → request.Fits s

/-- A draw that clears ends its bindings, also if its outline overflows; one that does not leaves a
buffer bound. A buffer that it makes for an outline is bound once. -/
theorem paired_draw (unbound : s.Unbound) (request : DrawRequest) (prevalidated : Bool)
    (backed : request.Backed s) :
    Ensures (fun t => t = s) (Operation.draw request prevalidated).perform
      (fun _ t => request.Fits s ∧ Paired (fun b => request.bindings s b +
        if s.buffers.size ≤ b.index ∧ b.index < t.buffers.size then 1 else 0) s t)
      (fun cause t => cause = .count ∨ (request.Clears prevalidated s ∧ t.Unbound) ∨
        (¬ request.Clears prevalidated s ∧ Stuck s t)) := by
  let Own (t : Scene) := request.Fits s ∧ Paired (request.bindings s) s t ∧
    t.buffers.size = s.buffers.size
  refine ensures_draw_passing (fun t ready failed => ?_) fun passed options => ?_
  · have idle := ((Tallies.start unbound).step ready.bindings).unbound
    exact .inr (.inl ⟨fun passed => absurd passed failed, idle⟩)
  refine ensures_drawWith (M := Own) (.of_each fun t ready => ?_) ?_ ?_ ?_ fun outline =>
    .of_each fun t ⟨⟨fits, paired, size⟩, _⟩ => ?_
  · obtain ⟨textures, log, calls, same⟩ := ready.same
    have size : t.buffers.size = s.buffers.size := by rw [same]
    have times : request.bindings t = request.bindings s := by rw [same]; rfl
    have reached : request.Backed t := by
      rw [same]
      exact ⟨backed.attributes, backed.indices⟩
    have idle := ((Tallies.start unbound).step ready.bindings).unbound
    have fits := ready.sameSources.fits_iff request
    have drawn := ((paired_drawOnce idle request options reached).and
      (fits_drawOnce t request options)).and_after (R := fun u => u.buffers.size = t.buffers.size)
        (size_drawOnce t request options)
    refine drawn.mono ?_ ?_
    · rintro _ u ⟨⟨paired, fit⟩, sizes⟩
      rw [times] at paired
      exact ⟨fits.mp fit, .after_quiet unbound ready.quiet ready.bindings paired, sizes.trans size⟩
    · rintro cause u ⟨stuck, unfit⟩
      refine or_iff_not_imp_left.mpr fun counted => .inr ⟨fun clears => ?_, ?_⟩
      · exact unfit.resolve_left counted (fits.mpr (clears passed))
      · obtain ⟨id, target, times, tallies⟩ := stuck.resolve_left counted
        exact ⟨id, target, _, ((Tallies.start unbound).step ready.bindings).trans tallies⟩
  · rintro t u alike ⟨fits, paired, size⟩
    refine ⟨fits, paired.quiet (.of_told alike.told) alike.bindings, ?_⟩
    rw [Scene.buffers_size_eq_of_kept alike.kept, size]
  · rintro t ⟨fits, paired, size⟩
    refine ⟨fits, paired.congr fun b => ?_⟩
    have none : ¬ (s.buffers.size ≤ b.index ∧ b.index < t.buffers.size) := by omega
    rw [if_neg none, Nat.add_zero]
  · rintro t u cause ⟨fits, paired, _⟩ cut
    refine cut.count_or_alike.imp_right fun alike => .inl ⟨fun _ => fits, ?_⟩
    exact (paired.tallies.step alike.bindings).unbound
  · refine (paired_drawOutline paired.tallies.unbound outline).mono ?_ fun _ _ => False.elim
    rintro _ u ⟨larger, lines⟩
    refine ⟨fits, (paired.trans lines).congr fun b => ?_⟩
    have one : (s.buffers.size ≤ b.index ∧ b.index < u.buffers.size) ↔
        b.index = t.buffers.size := by omega
    rw [if_congr one rfl rfl]

end Draw

end DrawSubmission
