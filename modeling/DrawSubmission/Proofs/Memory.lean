import DrawSubmission.Proofs.Coherence
import DrawSubmission.Proofs.Quiet
set_option autoImplicit false

namespace DrawSubmission

theorem Mirrors.congr {context next : DrawContext} {d : DriverState} (h : Mirrors context d)
    (same : next.memory = context.memory) : Mirrors next d := by
  have units : next.texUnits = context.texUnits := (congrArg Prod.fst same :)
  have flags : next.enableFlags = context.enableFlags := (congrArg (·.2.1) same :)
  have face : next.flushedFrontFace = context.flushedFrontFace := (congrArg (·.2.2) same :)
  constructor
  · rw [units]
    exact h.units
  · rw [flags]
    exact h.flags
  · rw [face]
    exact h.face
  · rw [flags]
    exact h.named

/-- Only calls that context and driver agree on lead from one scene to another. -/
def Follows (s t : Scene) : Prop :=
  ∃ calls, t.calls.toList = s.calls.toList ++ calls ∧ Tracks s.context t.context calls

namespace Follows
variable {s t u : Scene}

theorem trans (h : Follows s t) (h' : Follows t u) : Follows s u := by
  obtain ⟨xs, calls, tracks⟩ := h
  obtain ⟨ys, calls', tracks'⟩ := h'
  refine ⟨xs ++ ys, ?_, tracks.append tracks'⟩
  rw [calls', calls, List.append_assoc]

theorem of_quiet (h : Quiet s t) : Follows s t := by
  obtain ⟨calls, appended, idle, same⟩ := h
  refine ⟨calls, appended, fun d mirrors => ?_⟩
  have tracks : Tracks s.context s.context calls := .other fun call inside => by
    have this := idle call inside
    cases call <;> first | rfl | cases this
  exact ⟨(tracks d mirrors).1, (tracks d mirrors).2.congr same⟩

theorem refl (s : Scene) : Follows s s := .of_quiet (.refl s)

theorem of_drawn {request : DrawRequest} {options : FlushOptions} {channels : List Channel}
    (h : Drawn s request options channels t) : Follows s t := by
  obtain ⟨start, bound, _, calls⟩ := h.calls
  refine ⟨_, calls, ?_⟩
  rw [h.context]
  exact tracks_drawCalls s.context channels _ _ (isRemembered_call ..)

theorem of_brokenOff {request : DrawRequest} {cause : Overflow} (h : BrokenOff s request cause t) :
    Follows s t := by
  cases h with
  | setUp _ channels calls context =>
    refine ⟨_, calls, ?_⟩
    rw [context]
    exact tracks_setUpCalls s.context 0 channels
  | lead _ channels view calls context =>
    refine ⟨_, calls, ?_⟩
    rw [context]
    exact tracks_leadCalls s.context channels view

end Follows

open SceneM

theorem follows_drawOnce (s : Scene) (request : DrawRequest) (options : FlushOptions) :
    Follows s ((drawOnce request options).after s) := by
  have pinned : Quiet s (s.pinned request.attributes) := .of_told (told_pinned ..)
  refine (Follows.of_quiet pinned).trans ?_
  refine ensures_iff_after.mp ((drawOnce_ensures s request options).mono ?_ ?_)
  · exact fun _ t ⟨channels, drawn⟩ => .of_drawn drawn
  · exact fun _ t broken => .of_brokenOff broken

theorem follows_drawOutline (s : Scene) (outline : List Segment) :
    Follows s ((drawOutline drawLines outline).after s) := by
  let staged := (s.stageOutline outline).2.setOutlines false
  have unset : Quiet s staged := (quiet_stageOutline s outline).trans (.of_memory rfl rfl)
  refine ensures_iff_after.mp (ensures_drawOutline ?_)
  have drawn := follows_drawOnce staged (lineDraw outline (s.stageOutline outline).1) {}
  refine (ensures_iff_after.mpr ((Follows.of_quiet unset).trans drawn)).mono ?_ fun _ _ => id
  exact fun _ t follows => follows.trans (.of_quiet (.of_memory rfl rfl))

theorem follows_draw (s : Scene) (request : DrawRequest) (prevalidated : Bool) :
    Follows s ((Operation.draw request prevalidated).after s) := by
  have early (t : Scene) (ready : Readied s t) : Follows s t := .of_quiet ready.quiet
  refine ensures_iff_after.mp (ensures_draw early fun options => ?_)
  have told (t u : Scene) (follows : Follows s t) (same : u.told = t.told) : Follows s u :=
    follows.trans (.of_quiet (.of_told same))
  refine ensures_drawWith (M := Follows s) (.of_each fun t ready => ?_) ?_ (fun _ => id)
    (fun t u _ follows cut => told t u follows cut.told) fun outline =>
      .of_each fun t follows => ?_
  · have drawn := follows_drawOnce t request options
    exact ensures_iff_after.mpr ((early t ready).trans drawn)
  · exact fun t u alike follows => told t u follows alike.told
  · exact ensures_iff_after.mpr (follows.1.trans (follows_drawOutline t outline))

theorem follows_enableAttributes (s : Scene) (attributes : List AttributeId)
    (options : FlushOptions) : Follows s ((enableAttributes attributes options).after s) := by
  refine ensures_iff_after.mp ((enableAttributes_ensures s attributes options).mono ?_ ?_)
  · rintro _ t ⟨channels, _, prepared⟩
    refine ⟨_, prepared.calls, ?_⟩
    rw [prepared.context]
    exact tracks_leadCalls s.context channels _
  · rintro _ t ⟨_, channels, connected⟩
    refine ⟨_, connected.calls, ?_⟩
    rw [connected.context]
    exact tracks_setUpCalls s.context 0 channels

theorem follows_disableAttributes (s : Scene) (attributes : List AttributeId)
    (flushed : FlushedPipeline) : Follows s (s.disableAttributes attributes flushed) := by
  refine ⟨_, disableAttributes_calls s attributes flushed, ?_⟩
  rw [disableAttributes_context]
  exact .other (isRemembered_tearDownCalls 0 _)

theorem follows_after (op : Operation) (s : Scene) (same : op.isRenewal = false) :
    Follows s (op.after s) := by
  by_cases talks : op.isDirect = false ∧ op.isDraw = false
  · exact .of_quiet (quiet_after op s same talks.1 talks.2)
  cases op with
  | enable attributes options =>
    simp only [Operation.after, Operation.perform, after_discard]
    exact follows_enableAttributes s attributes options
  | disable attributes flushed =>
    obtain ⟨front, _, same⟩ := after_tearDown s attributes flushed
    rw [Operation.after, Operation.perform, same]
    exact follows_disableAttributes s front flushed
  | draw request prevalidated => exact follows_draw s request prevalidated
  | _ => exact absurd ⟨rfl, rfl⟩ talks

def Scene.callsSince (s : Scene) (start : Nat) : List DriverCall := s.calls.toList.drop start

theorem callsSince_of_append {s t : Scene} {calls : List DriverCall}
    (h : t.calls.toList = s.calls.toList ++ calls) : t.callsSince s.calls.size = calls := by
  rw [Scene.callsSince, h]
  exact List.drop_left' rfl

theorem follows_run (ops : List Operation) (s : Scene)
    (same : ∀ op ∈ ops, op.isRenewal = false) : Follows s (s.run ops) := by
  induction ops generalizing s with
  | nil => exact .refl s
  | cons op ops ih =>
    have first := follows_after op s (same op List.mem_cons_self)
    exact first.trans (ih (op.after s) fun op' inside => same op' (List.mem_cons_of_mem op inside))

theorem mirrors_renewContext (s : Scene) (settings : DrawSettings) :
    Mirrors (s.renewContext settings).context {} where
  units _ := BitVec.getLsbD_zero
  flags := rfl
  face := rfl
  named _ _ := BitVec.getLsbD_zero

theorem callsSince_of_follows {s t : Scene} {settings : DrawSettings}
    (follows : Follows (s.renewContext settings) t) :
    Mirrors t.context (replay (t.callsSince s.calls.size)) ∧
      EachChanges {} (t.callsSince s.calls.size) := by
  obtain ⟨calls, appended, tracks⟩ := follows
  obtain ⟨changes, mirrors⟩ := tracks {} (mirrors_renewContext s settings)
  have since : t.callsSince s.calls.size = .createPipeline :: calls := by
    have created : (s.renewContext settings).calls.toList = s.calls.toList ++ [.createPipeline] :=
      Array.toList_push
    rw [created, List.append_assoc] at appended
    exact callsSince_of_append appended
  rw [since]
  exact ⟨mirrors, trivial, changes⟩

/-- After any run with one driver the context remembers which coordinate arrays and capabilities are
on and which winding was sent last, and every toggle has changed something. -/
theorem memory_coherent (s : Scene) (settings : DrawSettings) (ops : List Operation)
    (same : ∀ op ∈ ops, op.isRenewal = false) :
    let t := (s.renewContext settings).run ops
    let calls := t.callsSince s.calls.size
    (∀ unit : Fin 32, t.context.texUnits.getLsbD unit = (replay calls).texCoordArray unit) ∧
      t.context.enableFlags = (replay calls).capabilities ∧
      t.context.flushedFrontFace = (replay calls).frontFace ∧
      ∀ before call rest, calls = before ++ call :: rest → call.Changes (replay before) := by
  have follows := follows_run ops (s.renewContext settings) same
  obtain ⟨mirrors, changes⟩ := callsSince_of_follows follows
  refine ⟨mirrors.units, mirrors.flags, mirrors.face, fun before call rest split => ?_⟩
  rw [split] at changes
  exact changes.at

theorem memory_coherent_overflowingRun :
    let s := Scene.create {} []
    let t := (s.renewContext {}).run overflowingRun
    (∀ op ∈ overflowingRun, op.isRenewal = false) ∧ t.context.texUnits = 8 ∧
      ∀ unit : Fin 32, t.context.texUnits.getLsbD unit =
        (replay (t.callsSince s.calls.size)).texCoordArray unit :=
  ⟨by decide, by decide +kernel,
    (memory_coherent (Scene.create {} []) {} overflowingRun (by decide)).1⟩

end DrawSubmission
