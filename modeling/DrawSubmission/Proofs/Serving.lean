import DrawSubmission.Proofs.Feeding
import DrawSubmission.Proofs.Memory
import DrawSubmission.Proofs.Outline
import DrawSubmission.Traversal
set_option autoImplicit false

namespace DrawSubmission

/-- The driver is set up for a draw from some channels under some settings, and for nothing more. -/
structure DriverState.Serves (d : DriverState) (settings : DrawSettings)
    (channels : List Channel) : Prop where
  vertexArray : d.capabilities.contains EnableFlags.vertexArray = hasRole .position channels
  colorArray : d.capabilities.contains EnableFlags.colorArray = hasRole .color channels
  culling : d.capabilities.contains EnableFlags.backfaceCulling = settings.backfaceCulling
  noOther : ∀ i, 3 ≤ i → d.capabilities.bits.getLsbD i = false
  frontFace : d.frontFace = some settings.frontFace
  texCoordArray : ∀ unit, d.texCoordArray unit = hasRole (.textureCoord unit) channels
  feeds : d.Feeds channels

theorem getLsbD_usedUnits (channels : List Channel) (unit : Fin 32) :
    (usedUnits channels).getLsbD unit = hasRole (.textureCoord unit) channels := by
  induction channels with
  | nil => exact BitVec.getLsbD_zero
  | cons c channels ih =>
    have first : c.units.getLsbD unit = (c.role == .textureCoord unit) := by
      unfold Channel.units
      cases c.role with
      | textureCoord used =>
        simp only [BitVec.getLsbD_twoPow]
        by_cases same : used = unit
        · simp [same]
        · have apart : ¬ used.val = unit.val := fun h => same (Fin.ext h)
          simp [same, apart]
      | position | color | normal | custom => exact BitVec.getLsbD_zero
    change (c.units ||| usedUnits channels).getLsbD unit = _
    rw [BitVec.getLsbD_or, first, ih]
    rfl

theorem serves_of_mirrors {context : DrawContext} {channels : List Channel} {d : DriverState}
    (mirrors : Mirrors (context.flushed channels) d) (feeds : d.Feeds channels) :
    d.Serves context.settings channels := by
  have asked (i : Nat) : d.capabilities.bits.getLsbD i =
      ((channels.any fun c => c.flags.bits.getLsbD i) ||
        i == 2 && context.settings.backfaceCulling) := by
    rw [← mirrors.flags]
    exact getLsbD_askedFlags context.settings channels i
  have bound (i : Nat) (h : i < 3) : i < enableFlagKind.width := Nat.lt_trans h (by decide)
  refine ⟨?_, ?_, ?_, ?_, mirrors.face.symm, fun unit => ?_, feeds⟩
  · rw [vertexArray_eq, FlagSet.contains_ofBit _ (bound 0 (by omega)), asked]
    simp [getLsbD_flags, hasRole]
  · rw [colorArray_eq, FlagSet.contains_ofBit _ (bound 1 (by omega)), asked]
    simp [getLsbD_flags, hasRole]
  · rw [backfaceCulling_eq, FlagSet.contains_ofBit _ (bound 2 (by omega)), asked]
    simp [getLsbD_flags]
  · rw [← mirrors.flags]
    exact mirrors.named
  · rw [← mirrors.units, ← getLsbD_usedUnits]
    rfl

theorem forall_flushCalls {p : DriverCall → Prop} {context : DrawContext}
    {channels : List Channel} {view : PipelineView}
    (units : ∀ unit, p (.setTexCoordArrayEnabled unit false)) (flush : p (.flushPipeline view))
    (capabilities : ∀ capability enabled, p (.setCapability capability enabled))
    (face : ∀ face, p (.setFrontFace face)) :
    ∀ call ∈ flushCalls context channels view, p call := by
  intro call inside
  rcases List.mem_append.mp inside with stale | rest
  · obtain ⟨unit, _, same⟩ := List.mem_map.mp stale
    rw [← same]
    exact units unit
  rcases List.mem_cons.mp rest with same | rest
  · rw [same]
    exact flush
  rcases List.mem_append.mp rest with changed | turned
  · obtain ⟨capability, _, same⟩ := List.mem_map.mp changed
    rw [← same]
    exact capabilities capability _
  · unfold frontFaceCalls at turned
    split at turned
    · cases turned
    · rw [List.mem_singleton.mp turned]
      exact face _

theorem feeds_leadCalls (context : DrawContext) {d : DriverState} (rested : d.Rested)
    (channels : List Channel) (view : PipelineView) :
    (d.run (leadCalls context channels view)).Feeds channels := by
  rw [leadCalls, DriverState.run_append]
  exact (DriverState.Feeds.setUp rested _ channels).other
    (forall_flushCalls (fun _ => rfl) rfl (fun _ _ => rfl) fun _ => rfl)

/-- The calls before a draw call set a driver up that mirrors the context and is rested. -/
theorem serves_leadCalls {context : DrawContext} {d : DriverState} (mirrors : Mirrors context d)
    (rested : d.Rested) (channels : List Channel) (view : PipelineView) :
    (d.run (leadCalls context channels view)).Serves context.settings channels :=
  serves_of_mirrors (tracks_leadCalls context channels view d mirrors).2
    (feeds_leadCalls context rested channels view)

theorem DrawRequest.isFeeding_call (request : DrawRequest) (start : UInt64) (during : Moment) :
    (request.call start during).isFeeding = false := by
  unfold call
  split <;> rfl

def drawCount (calls : List DriverCall) : Nat := calls.countP DriverCall.isDraw

theorem drawCount_append (xs ys : List DriverCall) :
    drawCount (xs ++ ys) = drawCount xs + drawCount ys :=
  List.countP_append

theorem drawCount_eq_zero {calls : List DriverCall} :
    drawCount calls = 0 ↔ ∀ call ∈ calls, call.isDraw = false := by
  rw [drawCount, List.countP_eq_zero]
  simp

theorem drawCount_setUpCalls (units : BitVec 32) (generic : Nat) (channels : List Channel) :
    drawCount (setUpCalls units generic channels) = 0 := by
  induction channels generalizing units generic with
  | nil => rfl
  | cons c channels ih =>
    rw [setUpCalls, drawCount_append, ih, Nat.add_zero]
    unfold Channel.setUpCalls
    cases c.role with
    | textureCoord unit => dsimp only; split <;> rfl
    | position | color | normal | custom => rfl

theorem drawCount_leadCalls (context : DrawContext) (channels : List Channel)
    (view : PipelineView) : drawCount (leadCalls context channels view) = 0 := by
  have flush : drawCount (flushCalls context channels view) = 0 :=
    drawCount_eq_zero.mpr (forall_flushCalls (fun _ => rfl) rfl (fun _ _ => rfl) fun _ => rfl)
  rw [leadCalls, drawCount_append, drawCount_setUpCalls, flush]

theorem drawCount_tearDownCalls (generic : Nat) (roles : List Role) :
    drawCount (tearDownCalls generic roles) = 0 := by
  apply drawCount_eq_zero.mpr
  apply forall_tearDownCalls
  · exact fun _ => rfl
  · rfl

theorem split_append {xs ys inner rest : List DriverCall} {call : DriverCall}
    (split : xs ++ ys = inner ++ call :: rest) :
    (∃ tail, xs = inner ++ call :: tail) ∨
      ∃ lead, inner = xs ++ lead ∧ ys = lead ++ call :: rest := by
  rcases List.append_eq_append_iff.mp split with ⟨lead, first, second⟩ | ⟨tail, first, second⟩
  · exact .inr ⟨lead, first, second⟩
  · cases tail with
    | nil =>
      rw [List.append_nil] at first
      exact .inr ⟨[], by rw [first, List.append_nil], second.symm⟩
    | cons x tail =>
      obtain ⟨same, _⟩ := List.cons.inj second
      rw [← same] at first
      exact .inl ⟨tail, first⟩

theorem not_draw_of_split {calls inner rest : List DriverCall} {call : DriverCall}
    (none : drawCount calls = 0) (split : calls = inner ++ call :: rest) : call.isDraw = false :=
  drawCount_eq_zero.mp none call (by simp [split])

/-- Draw calls come with what `Q` says of their numbers and of the driver that they find, if the
driver is rested and mirrored at first; it is so again at last. -/
def Submits (Q : Nat → DriverCall → DriverState → Prop) (first : Nat) (s : Scene) (last : Nat)
    (t : Scene) : Prop :=
  ∃ calls, t.calls.toList = s.calls.toList ++ calls ∧ first + drawCount calls = last ∧
    ∀ d, Mirrors s.context d → d.Rested →
      Mirrors t.context (d.run calls) ∧ (d.run calls).Rested ∧
        ∀ inner call rest, calls = inner ++ call :: rest → call.isDraw = true →
          Q (first + drawCount inner) call (d.run inner)

namespace Submits
variable {Q : Nat → DriverCall → DriverState → Prop} {first middle last : Nat} {s t u : Scene}

theorem trans (h : Submits Q first s middle t) (h' : Submits Q middle t last u) :
    Submits Q first s last u := by
  obtain ⟨xs, calls, count, found⟩ := h
  obtain ⟨ys, calls', count', found'⟩ := h'
  refine ⟨xs ++ ys, ?_, ?_, fun d mirrors rested => ?_⟩
  · rw [calls', calls, List.append_assoc]
  · rw [drawCount_append, ← Nat.add_assoc, count, count']
  · obtain ⟨mirrors, rested, each⟩ := found d mirrors rested
    obtain ⟨mirrors', rested', each'⟩ := found' (d.run xs) mirrors rested
    rw [DriverState.run_append]
    refine ⟨mirrors', rested', fun inner call rest split isDraw => ?_⟩
    rcases split_append split with ⟨tail, early⟩ | ⟨lead, here, late⟩
    · exact each inner call tail early isDraw
    · have known := each' lead call rest late isDraw
      rw [here, DriverState.run_append, drawCount_append, ← Nat.add_assoc, count]
      exact known

theorem of_quiet (h : Quiet s t) : Submits Q first s first t := by
  obtain ⟨calls, appended, idle, same⟩ := h
  have each : ∀ call ∈ calls,
      call.isRemembered = false ∧ call.isFeeding = false ∧ call.isDraw = false := by
    intro call inside
    have this := idle call inside
    cases call <;> first | exact ⟨rfl, rfl, rfl⟩ | cases this
  have tracks : Tracks s.context s.context calls := .other fun call inside => (each call inside).1
  have none : drawCount calls = 0 := drawCount_eq_zero.mpr fun call inside => (each call inside).2.2
  refine ⟨calls, appended, by rw [none, Nat.add_zero], fun d mirrors rested => ?_⟩
  refine ⟨(tracks d mirrors).2.congr same, ?_, ?_⟩
  · exact rested.other fun call inside => (each call inside).2.1
  · intro inner call rest split isDraw
    rw [not_draw_of_split none split] at isDraw
    cases isDraw

theorem mono {Q' : Nat → DriverCall → DriverState → Prop} (h : Submits Q first s last t)
    (weaker : ∀ n call d, Q n call d → Q' n call d) : Submits Q' first s last t := by
  obtain ⟨calls, appended, count, found⟩ := h
  refine ⟨calls, appended, count, fun d mirrors rested => ?_⟩
  obtain ⟨mirrors, rested, each⟩ := found d mirrors rested
  refine ⟨mirrors, rested, fun inner call rest split isDraw => ?_⟩
  exact weaker _ _ _ (each inner call rest split isDraw)

end Submits

theorem split_at_draw {lead tail inner rest : List DriverCall} {draw call : DriverCall}
    (none : drawCount lead = 0) (none' : drawCount tail = 0)
    (split : lead ++ draw :: tail = inner ++ call :: rest) (isDraw : call.isDraw = true) :
    inner = lead ∧ call = draw := by
  rcases split_append split with ⟨late, inside⟩ | ⟨more, before, inside⟩
  · rw [not_draw_of_split none inside] at isDraw
    cases isDraw
  · cases more with
    | nil =>
      cases inside
      exact ⟨by rw [before, List.append_nil], rfl⟩
    | cons x more =>
      obtain ⟨_, inside⟩ := List.cons.inj inside
      rw [not_draw_of_split none' inside] at isDraw
      cases isDraw

theorem channel_role {s : Scene} {a : VertexAttribute} {c : Channel} (h : s.channel a = .ok c) :
    c.role = a.role := by
  unfold Scene.channel at h
  cases addressed : a.pointer (s.buffer a.buffer).base with
  | error overflow =>
    rw [addressed] at h
    cases h
  | ok pointer =>
    rw [addressed] at h
    cases h
    rfl

theorem mapM_role {s : Scene} {attributes : List VertexAttribute} {channels : List Channel}
    (h : attributes.mapM s.channel = .ok channels) :
    channels.map Channel.role = attributes.map VertexAttribute.role :=
  map_of_mapM (fun _ _ => channel_role) h

theorem roles_sublist {s : Scene} {attributes : List AttributeId} {channels : List Channel}
    (h : s.channels attributes = .ok channels) :
    (channels.map Channel.role).Sublist (attributes.map fun id => (s.attr id).role) := by
  rw [mapM_role h]
  have kept := (List.filter_sublist (p := VertexAttribute.readable)
    (l := attributes.map s.attr)).map VertexAttribute.role
  rw [List.map_map] at kept
  exact kept

theorem Submits.of_drawn {Q : Nat → DriverCall → DriverState → Prop} {first : Nat} {s t : Scene}
    {request : DrawRequest} {options : FlushOptions} {channels : List Channel}
    (drawn : Drawn s request options channels t)
    (found : ∀ start bound d, request.address s = .ok start →
      d.Serves s.context.settings channels →
      Q first (request.call start { s.moment with bound }) d) :
    Submits Q first s (first + 1) t := by
  obtain ⟨start, bound, addressed, calls⟩ := drawn.calls
  let view := s.context.view channels options
  let lead := leadCalls s.context channels view
  let draw := request.call start { s.moment with bound }
  let roles := request.attributes.map fun id => (s.attr id).role
  have none : drawCount lead = 0 := drawCount_leadCalls ..
  have none' : drawCount (tearDownCalls 0 roles) = 0 := drawCount_tearDownCalls ..
  refine ⟨lead ++ draw :: tearDownCalls 0 roles, calls, ?_, fun d mirrors rested => ?_⟩
  · rw [drawCount_append, none, Nat.zero_add, drawCount, List.countP_cons_of_pos, ← drawCount,
      none']
    exact request.isDraw_call start _
  · have serves : (d.run lead).Serves s.context.settings channels :=
      serves_leadCalls mirrors rested channels view
    have tracks : Tracks s.context t.context (lead ++ draw :: tearDownCalls 0 roles) := by
      rw [drawn.context]
      exact tracks_drawCalls s.context channels view roles (isRemembered_call ..)
    refine ⟨(tracks d mirrors).2, ?_, ?_⟩
    · rw [DriverState.run_append, DriverState.run_cons]
      have feeding : draw.isFeeding = false := request.isFeeding_call start _
      have feeds := DriverState.feeds_apply serves.feeds feeding
      exact feeds.tearDown (roles_sublist drawn.readable)
    · intro inner call rest split isDraw
      obtain ⟨before, same⟩ := split_at_draw none none' split isDraw
      rw [before, same, none]
      exact found start bound _ addressed serves

open SceneM

theorem submits_drawOnce {Q : Nat → DriverCall → DriverState → Prop} {first : Nat} (s : Scene)
    (request : DrawRequest) (options : FlushOptions)
    (found : ∀ channels start during d, s.channels request.attributes = .ok channels →
      request.address s = .ok start → d.Serves s.context.settings channels →
      Q first (request.call start during) d) :
    Ensures (fun t => t = s) (drawOnce request options)
      (fun _ t => Submits Q first s (first + 1) t) fun _ _ => True := by
  refine (drawOnce_ensures s request options).mono ?_ fun _ _ _ => trivial
  rintro _ t ⟨channels, drawn⟩
  have told := told_pinned s request.attributes
  have sources := sameSources_pinned s request.attributes
  have pinned : Submits Q first s first (s.pinned request.attributes) := .of_quiet (.of_told told)
  refine pinned.trans (.of_drawn drawn fun start bound d addressed serves => ?_)
  rw [Scene.context_eq_of_told told] at serves
  have readable := drawn.readable
  rw [sources.channels] at readable
  rw [sources.address] at addressed
  exact found channels start _ d readable addressed serves

theorem serves_congr {d : DriverState} {settings other : DrawSettings} {channels : List Channel}
    (h : d.Serves settings channels) (culling : other.backfaceCulling = settings.backfaceCulling)
    (face : other.frontFace = settings.frontFace) : d.Serves other channels where
  vertexArray := h.vertexArray
  colorArray := h.colorArray
  culling := h.culling.trans culling.symm
  noOther := h.noOther
  frontFace := by rw [h.frontFace, face]
  texCoordArray := h.texCoordArray
  feeds := h.feeds

theorem submits_drawOutline {Q : Nat → DriverCall → DriverState → Prop} {first : Nat} (s : Scene)
    (outline : List Segment)
    (found : ∀ count during d, d.Serves s.context.settings [outlineChannel ⟨s.buffers.size⟩] →
      Q first (.drawArrays .lineList 0 count during) d) :
    Ensures (fun t => t = s) (drawOutline drawLines outline)
      (fun _ t => Submits Q first s (first + 1) t) fun _ _ => True := by
  let staged := (s.stageOutline outline).2.setOutlines false
  have unset : Quiet s staged := (quiet_stageOutline s outline).trans (.of_memory rfl rfl)
  have drawn : Ensures (fun t => t = staged)
      (drawOnce (lineDraw outline (s.stageOutline outline).1) {})
      (fun _ t => Submits Q first staged (first + 1) t) fun _ _ => True := by
    refine submits_drawOnce staged _ {} ?_
    intro channels start during d readable _ serves
    have lines : staged.channels [(s.stageOutline outline).1] =
        .ok [outlineChannel ⟨s.buffers.size⟩] := channels_stageOutline s outline
    have same : channels = [outlineChannel ⟨s.buffers.size⟩] :=
      Except.ok.inj (readable.symm.trans lines)
    have settings := settings_stageOutline s outline
    rw [same] at serves
    refine found _ _ d (serves_congr serves ?_ ?_)
    · rw [← settings]
      rfl
    · rw [← settings]
      rfl
  refine ensures_drawOutline (drawn.mono ?_ fun _ _ => id)
  intro _ t submits
  have restored : Quiet t (t.setOutlines true).popSource := .of_memory rfl rfl
  exact (Submits.of_quiet unset).trans (submits.trans (.of_quiet restored))

/-- The draw calls of a draw by their numbers: the first is its own, the second that of its outline,
which reads positions from a buffer made for it. The driver serves either. -/
inductive DrawRequest.Issues (request : DrawRequest) (s : Scene) :
    Nat → DriverCall → DriverState → Prop
  | own {channels : List Channel} {start : UInt64} {during : Moment} {d : DriverState}
      (readable : s.channels request.attributes = .ok channels)
      (addressed : request.address s = .ok start)
      (serves : d.Serves s.context.settings channels) :
      Issues request s 0 (request.call start during) d
  | outline {count : UInt32} {during : Moment} {d : DriverState}
      (serves : d.Serves s.context.settings [outlineChannel ⟨s.buffers.size⟩]) :
      Issues request s 1 (.drawArrays .lineList 0 count during) d

theorem Readied.sameSources {s t : Scene} (ready : Readied s t) : SameSources s t := by
  obtain ⟨textures, log, calls, same⟩ := ready.same
  rw [same]
  exact ⟨fun id => ⟨(s.attr id).pins, rfl⟩, fun _ => rfl⟩

/-- A draw that completes makes its own draw call and then at most that of an outline. -/
theorem submits_draw (s : Scene) (request : DrawRequest) (prevalidated : Bool) :
    Ensures (fun t => t = s) (Operation.draw request prevalidated).perform
      (fun _ t => ∃ last, Submits (request.Issues s) 0 s last t) fun _ _ => True := by
  let Own (t : Scene) := Submits (request.Issues s) 0 s 1 t ∧
    t.context.settings = s.context.settings ∧ t.buffers.size = s.buffers.size
  refine ensures_draw (fun _ _ => trivial) fun options => ?_
  refine ensures_drawWith (M := Own) (.of_each fun t ready => ?_) ?_ (fun t own => ⟨1, own.1⟩)
    (fun _ _ _ _ _ => trivial) fun outline => .of_each ?_
  · obtain ⟨textures, log, calls, same⟩ := ready.same
    have sources := ready.sameSources
    have context : t.context = s.context := by rw [same]
    have size : t.buffers.size = s.buffers.size := by rw [same]
    have drawn : Ensures (fun u => u = t) (drawOnce request options)
        (fun _ u => Submits (request.Issues s) 0 t 1 u) fun _ _ => True := by
      refine submits_drawOnce t request options ?_
      intro channels start during d readable addressed serves
      rw [sources.channels] at readable
      rw [sources.address] at addressed
      rw [context] at serves
      exact .own readable addressed serves
    have settled := drawn.and_after (R := fun u => u.context.settings = s.context.settings ∧
      u.buffers.size = s.buffers.size) ⟨?_, ?_⟩
    · refine settled.mono ?_ fun _ _ => id
      exact fun _ u ⟨submits, same⟩ => ⟨(Submits.of_quiet ready.quiet).trans submits, same⟩
    · rw [settings_drawOnce, context]
    · rw [size_drawOnce, size]
  · rintro t u alike ⟨submits, settings, size⟩
    refine ⟨submits.trans (.of_quiet (.of_told alike.told)), ?_, ?_⟩
    · rw [Scene.settings_eq_of_kept alike.kept, settings]
    · rw [Scene.buffers_size_eq_of_kept alike.kept, size]
  · rintro t ⟨⟨submits, settings, size⟩, _⟩
    have drawn : Ensures (fun u => u = t) (drawOutline drawLines outline)
        (fun _ u => Submits (request.Issues s) 1 t 2 u) fun _ _ => True := by
      refine submits_drawOutline t outline fun count during d serves => ?_
      rw [settings, size] at serves
      exact .outline serves
    exact drawn.mono (fun _ u outlined => ⟨2, submits.trans outlined⟩) fun _ _ => id

def Operation.Issues (op : Operation) (s : Scene) (n : Nat) (call : DriverCall)
    (d : DriverState) : Prop :=
  ∃ request prevalidated, op = .draw request prevalidated ∧ request.Issues s n call d

def Operation.Submissive (op : Operation) (s : Scene) : Prop :=
  op.isRenewal = false ∧ op.isDirect = false ∧ op.breaksOff s = false

instance (op : Operation) (s : Scene) : Decidable (op.Submissive s) :=
  inferInstanceAs (Decidable (_ ∧ _ ∧ _))

theorem submits_after (op : Operation) (s : Scene) (h : op.Submissive s) :
    ∃ last, Submits (op.Issues s) 0 s last (op.after s) := by
  obtain ⟨same, apart, complete⟩ := h
  cases isDraw : op.isDraw with
  | false => exact ⟨0, .of_quiet (quiet_after op s same apart isDraw)⟩
  | true =>
    cases op with
    | draw request prevalidated =>
      obtain ⟨last, submits⟩ := Operation.ensured complete (submits_draw s request prevalidated)
      exact ⟨last, submits.mono fun n call d issued => ⟨request, prevalidated, rfl, issued⟩⟩
    | _ => cases isDraw

/-- After a run of a new context the driver is rested and mirrored, and each draw call came from a
draw of the run and found the driver serving it. -/
structure Served (s : Scene) (settings : DrawSettings) (ops : List Operation) : Prop where
  appended : ((s.renewContext settings).run ops).calls.toList =
    s.calls.toList ++ ((s.renewContext settings).run ops).callsSince s.calls.size
  mirrors : Mirrors ((s.renewContext settings).run ops).context
    (replay (((s.renewContext settings).run ops).callsSince s.calls.size))
  rested : (replay (((s.renewContext settings).run ops).callsSince s.calls.size)).Rested
  found : ∀ before call rest,
    ((s.renewContext settings).run ops).callsSince s.calls.size = before ++ call :: rest →
    call.isDraw = true → ∃ made request prevalidated later inner,
      ops = made ++ .draw request prevalidated :: later ∧
      before = ((s.renewContext settings).run made).callsSince s.calls.size ++ inner ∧
      request.Issues ((s.renewContext settings).run made) (drawCount inner) call (replay before)

section Runs
variable {s : Scene} {settings : DrawSettings}

theorem Served.nil : Served s settings [] := by
  have created : (s.renewContext settings).calls.toList = s.calls.toList ++ [.createPipeline] :=
    Array.toList_push
  have since := callsSince_of_append created
  constructor
  · change (s.renewContext settings).calls.toList = _ ++ (s.renewContext settings).callsSince _
    rw [since, created]
  · change Mirrors (s.renewContext settings).context
      (replay ((s.renewContext settings).callsSince _))
    rw [since]
    exact mirrors_renewContext s settings
  · change (replay ((s.renewContext settings).callsSince _)).Rested
    rw [since]
    exact ⟨rfl, fun _ => rfl⟩
  · intro before call rest split isDraw
    change (s.renewContext settings).callsSince _ = _ at split
    rw [since] at split
    rw [not_draw_of_split rfl split] at isDraw
    cases isDraw

theorem Served.snoc {ops : List Operation} {op : Operation} (h : Served s settings ops)
    (submissive : op.Submissive ((s.renewContext settings).run ops)) :
    Served s settings (ops ++ [op]) := by
  let t := (s.renewContext settings).run ops
  obtain ⟨last, new, appended, _, found⟩ := submits_after op t submissive
  obtain ⟨mirrors, rested, each⟩ := found _ h.mirrors h.rested
  have whole : (op.after t).calls.toList =
      s.calls.toList ++ (t.callsSince s.calls.size ++ new) := by
    rw [appended, h.appended, List.append_assoc]
  have since := callsSince_of_append whole
  constructor
  · rw [run_snoc, since, whole]
  · rw [run_snoc, since, replay_append]
    exact mirrors
  · rw [run_snoc, since, replay_append]
    exact rested
  · intro before call rest split isDraw
    rw [run_snoc, since] at split
    rcases split_append split with ⟨tail, early⟩ | ⟨inner, here, late⟩
    · obtain ⟨made, request, prevalidated, later, inner, parts, place, issued⟩ :=
        h.found before call tail early isDraw
      refine ⟨made, request, prevalidated, later ++ [op], inner, ?_, place, issued⟩
      rw [parts, List.append_assoc, List.cons_append]
    · obtain ⟨request, prevalidated, same, issued⟩ := each inner call rest late isDraw
      refine ⟨ops, request, prevalidated, [], inner, by rw [same], here, ?_⟩
      rw [Nat.zero_add] at issued
      rw [here, replay_append]
      exact issued

theorem served (ops : List Operation)
    (along : Along Operation.Submissive ops (s.renewContext settings)) :
    Served s settings ops :=
  run_induction (I := fun ops _ => Served s settings ops) .nil (fun _ _ => Served.snoc) ops along

/-- At each draw call of a run of a new context in which no draw overflows, the driver holds exactly
what the draw asked for: the call is the own one of a draw of the run or that of its outline, and a
replay of all calls before it serves the channels of the draw's readable attributes, or the channel
of the outline's lines, under the settings of the moment. -/
theorem draw_call_served (ops : List Operation)
    (along : Along Operation.Submissive ops (s.renewContext settings))
    {before rest : List DriverCall} {call : DriverCall}
    (split : ((s.renewContext settings).run ops).callsSince s.calls.size = before ++ call :: rest)
    (isDraw : call.isDraw = true) :
    ∃ made request prevalidated later inner,
      ops = made ++ .draw request prevalidated :: later ∧
      before = ((s.renewContext settings).run made).callsSince s.calls.size ++ inner ∧
      request.Issues ((s.renewContext settings).run made) (drawCount inner) call (replay before) :=
  (served ops along).found before call rest split isDraw

theorem draw_call_served_outline :
    let s := Scene.create {} []
    let calls := ((s.renewContext {}).run sampleRun).callsSince s.calls.size
    Along Operation.Submissive sampleRun (s.renewContext {}) ∧
      ∃ call rest, calls = calls.take 20 ++ call :: rest ∧ call.isDraw = true ∧
        ∃ made request prevalidated later inner,
          sampleRun = made ++ .draw request prevalidated :: later ∧
          calls.take 20 = ((s.renewContext {}).run made).callsSince s.calls.size ++ inner ∧
          request.Issues ((s.renewContext {}).run made) (drawCount inner) call
            (replay (calls.take 20)) := by
  have along : Along Operation.Submissive sampleRun ((Scene.create {} []).renewContext {}) := by
    decide +kernel
  let calls := (((Scene.create {} []).renewContext {}).run sampleRun).callsSince
    (Scene.create {} []).calls.size
  let call := calls.getD 20 .flushJournal
  have split : calls = calls.take 20 ++ call :: calls.drop 21 := by decide +kernel
  have isDraw : call.isDraw = true := by decide +kernel
  exact ⟨along, call, _, split, isDraw, draw_call_served sampleRun along split isDraw⟩

end Runs

end DrawSubmission
