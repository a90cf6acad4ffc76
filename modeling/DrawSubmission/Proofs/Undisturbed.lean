import DrawSubmission.Proofs.Outline
import DrawSubmission.Proofs.Quiet
set_option autoImplicit false

namespace DrawSubmission

/-- All that `s` owns is the same in `t`; attributes and buffers that are new are not pinned. -/
structure Spared (s t : Scene) : Prop where
  settings : t.context.settings = s.context.settings
  sources : t.context.sources = s.context.sources
  defaultSource : t.context.defaultSource = s.context.defaultSource
  wirePipeline : ∀ pipeline, s.context.wirePipeline = some pipeline →
    t.context.wirePipeline = some pipeline
  warned : t.warned = s.warned
  attributes : ∃ more, t.attributes.toList = s.attributes.toList ++ more ∧
    ∀ a ∈ more, a.pins = 0 ∧ a.buffer.index < t.buffers.size
  buffers : ∃ more, t.buffers.toList.map Buffer.kept = s.buffers.toList.map Buffer.kept ++ more ∧
    ∀ b ∈ more, b.pins = 0

namespace Spared
variable {s t u : Scene}

theorem of_kept (h : t.kept = s.kept) : Spared s t where
  settings := Scene.settings_eq_of_kept h
  sources := Scene.sources_eq_of_kept h
  defaultSource := Scene.defaultSource_eq_of_kept h
  wirePipeline pipeline cached := (Scene.wirePipeline_eq_of_kept h).trans cached
  warned := Scene.warned_eq_of_kept h
  attributes := by
    refine ⟨[], ?_, fun _ inside => nomatch inside⟩
    rw [Scene.attributes_eq_of_kept h, List.append_nil]
  buffers := by
    have buffers : t.buffers.map Buffer.kept = s.buffers.map Buffer.kept :=
      (congrArg Scene.buffers h :)
    refine ⟨[], ?_, fun _ inside => nomatch inside⟩
    rw [List.append_nil, ← Array.toList_map, buffers, Array.toList_map]

theorem of_same (context : t.context = s.context) (warned : t.warned = s.warned)
    (attributes : t.attributes = s.attributes) (buffers : t.buffers = s.buffers) : Spared s t where
  settings := by rw [context]
  sources := by rw [context]
  defaultSource := by rw [context]
  wirePipeline pipeline cached := by rw [context, cached]
  warned := warned
  attributes := ⟨[], by rw [attributes, List.append_nil], fun _ inside => nomatch inside⟩
  buffers := ⟨[], by rw [buffers, List.append_nil], fun _ inside => nomatch inside⟩

theorem size_le (h : Spared s t) : s.buffers.size ≤ t.buffers.size := by
  obtain ⟨more, whole, _⟩ := h.buffers
  have lengths := congrArg List.length whole
  simp only [List.length_append, List.length_map, Array.length_toList] at lengths
  omega

theorem trans (h : Spared s t) (h' : Spared t u) : Spared s u where
  settings := h'.settings.trans h.settings
  sources := h'.sources.trans h.sources
  defaultSource := h'.defaultSource.trans h.defaultSource
  wirePipeline pipeline cached := h'.wirePipeline pipeline (h.wirePipeline pipeline cached)
  warned := h'.warned.trans h.warned
  attributes := by
    obtain ⟨more, whole, fresh⟩ := h.attributes
    obtain ⟨more', whole', fresh'⟩ := h'.attributes
    refine ⟨more ++ more', by rw [whole', whole, List.append_assoc], fun a inside => ?_⟩
    rcases List.mem_append.mp inside with early | late
    · exact ⟨(fresh a early).1, Nat.lt_of_lt_of_le (fresh a early).2 h'.size_le⟩
    · exact fresh' a late
  buffers := by
    obtain ⟨more, whole, fresh⟩ := h.buffers
    obtain ⟨more', whole', fresh'⟩ := h'.buffers
    refine ⟨more ++ more', by rw [whole', whole, List.append_assoc], fun b inside => ?_⟩
    rcases List.mem_append.mp inside with early | late
    · exact fresh b early
    · exact fresh' b late

end Spared

theorem stageOutline_frame (s : Scene) (outline : List Segment) :
    ∃ pipeline pipelinesMade calls, (∀ p, s.context.wirePipeline = some p → pipeline = p) ∧
      (s.stageOutline outline).2 = { (s.addOutline outline).2 with
        pipelinesMade, calls
        context := { s.context with
          sources := pipeline :: s.context.sources, wirePipeline := some pipeline } } := by
  let added := (s.addOutline outline).2
  have context : added.context = s.context := rfl
  cases cached : s.context.wirePipeline with
  | some pipeline =>
    refine ⟨pipeline, added.pipelinesMade, added.calls, fun p same => Option.some.inj same, ?_⟩
    have piped : added.wirePipeline = (pipeline, added) := by
      simp only [Scene.wirePipeline, context, cached]
    change added.wirePipeline.2.pushSource added.wirePipeline.1 = _
    rw [piped, ← cached]
    rfl
  | none =>
    let made := added.createPipeline
    let pipeline := { made.1 with color := .green }
    refine ⟨pipeline, made.2.pipelinesMade, made.2.calls, fun p same => (nomatch same), ?_⟩
    have piped : added.wirePipeline = (pipeline, { made.2 with
        context := { made.2.context with wirePipeline := some pipeline } }) := by
      simp only [Scene.wirePipeline, context, cached]
      rfl
    change added.wirePipeline.2.pushSource added.wirePipeline.1 = _
    rw [piped]
    rfl

theorem inside_stageOutline (s : Scene) (outline : List Segment) :
    ∀ id ∈ (lineDraw outline (s.stageOutline outline).1).attributes,
      id.index < ((s.stageOutline outline).2.setOutlines false).attributes.size := by
  intro id member
  obtain ⟨pipeline, pipelinesMade, calls, _, frame⟩ := stageOutline_frame s outline
  rw [List.mem_singleton.mp member]
  change s.attributes.size < (s.stageOutline outline).2.attributes.size
  rw [frame]
  have size : (s.addOutline outline).2.attributes.size = s.attributes.size + 1 := Array.size_push ..
  exact Nat.lt_of_lt_of_eq (Nat.lt_succ_self _) size.symm

theorem spared_unstage {s u : Scene} {outline : List Segment} (on : s.outlinesDraws = true)
    (drawn : u.kept = ((s.stageOutline outline).2.setOutlines false).kept) :
    Spared s (u.setOutlines true).popSource := by
  obtain ⟨pipeline, pipelinesMade, calls, cached, staged⟩ := stageOutline_frame s outline
  rw [staged] at drawn
  let bytes := (outline.flatMap Segment.vertices).flatMap Vertex3.toBytes
  let made : Buffer := { contents := bytes.toArray, origin := .driver }
  let line : VertexAttribute := outlineAttribute ⟨s.buffers.size⟩ s.context.diagnostics
  have size : u.buffers.size = (s.buffers.push made).size := Scene.buffers_size_eq_of_kept drawn
  constructor
  · have settings : u.context.settings = { s.context.settings with
        debugFlags := s.context.settings.debugFlags.remove DebugFlags.wireframe } :=
      Scene.settings_eq_of_kept drawn
    change { u.context.settings with
      debugFlags := u.context.settings.debugFlags.insert DebugFlags.wireframe } = s.context.settings
    rw [settings]
    dsimp only
    rw [FlagSet.insert_remove on]
  · have sources : u.context.sources = pipeline :: s.context.sources :=
      Scene.sources_eq_of_kept drawn
    change u.context.sources.tail = s.context.sources
    rw [sources, List.tail_cons]
  · exact (Scene.defaultSource_eq_of_kept drawn :)
  · intro p known
    have wirePipeline : u.context.wirePipeline = some pipeline :=
      Scene.wirePipeline_eq_of_kept drawn
    change u.context.wirePipeline = some p
    rw [wirePipeline, cached p known]
  · exact (Scene.warned_eq_of_kept drawn :)
  · have attributes : u.attributes = s.attributes.push line := Scene.attributes_eq_of_kept drawn
    refine ⟨[line], ?_, fun a inside => ?_⟩
    · change u.attributes.toList = _
      rw [attributes, Array.toList_push]
    · rw [List.mem_singleton.mp inside]
      refine ⟨rfl, ?_⟩
      change s.buffers.size < u.buffers.size
      rw [size, Array.size_push]
      omega
  · have buffers : u.buffers.map Buffer.kept = (s.buffers.push made).map Buffer.kept :=
      (congrArg Scene.buffers drawn :)
    refine ⟨[made.kept], ?_, fun b inside => ?_⟩
    · change u.buffers.toList.map Buffer.kept = _
      rw [← Array.toList_map, buffers, Array.toList_map, Array.toList_push, List.map_append]
      rfl
    · rw [List.mem_singleton.mp inside]
      rfl

open SceneM

theorem spared_drawOutline (s : Scene) (outline : List Segment) (on : s.outlinesDraws = true) :
    Spared s ((drawOutline drawLines outline).after s) := by
  let staged := (s.stageOutline outline).2.setOutlines false
  let lines := lineDraw outline (s.stageOutline outline).1
  have drawn := (drawLines_completes s outline).and
    (kept_drawOnce staged lines {} (inside_stageOutline s outline))
  -- The draw of the lines completes, so the flag and the source are always restored.
  refine ensures_iff_after.mp (ensures_drawOutline (drawn.mono ?_ fun _ _ => False.elim ∘ And.left))
  exact fun _ t ⟨_, kept⟩ => spared_unstage on kept

theorem spared_draw (s : Scene) (request : DrawRequest) (prevalidated : Bool)
    (h : ∀ id ∈ request.attributes, id.index < s.attributes.size) :
    Ensures (fun t => t = s) (Operation.draw request prevalidated).perform (fun _ => Spared s)
      fun cause t => cause = .count ∨ Spared s t := by
  have readied (t : Scene) (ready : Readied s t) : Spared s t := by
    obtain ⟨textures, log, calls, same⟩ := ready.same
    rw [same]
    exact .of_same rfl rfl rfl rfl
  refine ensures_draw (fun t ready => .inr (readied t ready)) fun options => ?_
  refine ensures_drawWith (M := Spared s) (.of_each fun t ready => ?_) ?_ (fun _ => id) ?_
    fun outline => .of_each fun t ⟨spared, on⟩ => ?_
  · obtain ⟨textures, log, calls, same⟩ := ready.same
    have inside : ∀ id ∈ request.attributes, id.index < t.attributes.size := by
      rw [same]
      exact h
    have through (u : Scene) (kept : u.kept = t.kept) : Spared s u :=
      (readied t ready).trans (.of_kept kept)
    exact (kept_drawOnce t request options inside).mono (fun _ => through)
      fun cause u => Or.imp_right (through u)
  · exact fun t u alike spared => spared.trans (.of_kept alike.kept)
  · exact fun t u cause spared cut =>
      cut.count_or_alike.imp_right fun alike => spared.trans (.of_kept alike.kept)
  · have drawn := ensures_iff_after.mpr (spared.trans (spared_drawOutline t outline on))
    exact drawn.mono (fun _ _ => id) fun _ _ => .inr

structure Undisturbed (s t : Scene) : Prop where
  settings : t.context.settings = s.context.settings
  sources : t.context.sources = s.context.sources
  defaultSource : t.context.defaultSource = s.context.defaultSource
  wirePipeline : ∀ pipeline, s.context.wirePipeline = some pipeline →
    t.context.wirePipeline = some pipeline
  warned : t.warned = s.warned
  attributes : ∀ id : AttributeId, id.index < s.attributes.size → t.attr id = s.attr id
  pins : ∀ id : BufferId, id.index < s.buffers.size → (t.buffer id).pins = (s.buffer id).pins
  mapped : ∀ id : BufferId, id.index < s.buffers.size → (t.buffer id).mapped = (s.buffer id).mapped
  contents : ∀ id : BufferId, id.index < s.buffers.size →
    (t.buffer id).contents = (s.buffer id).contents
  storage : ∀ id : BufferId, id.index < s.buffers.size →
    (t.buffer id).storage = (s.buffer id).storage

theorem Spared.attr {s t : Scene} (h : Spared s t) {id : AttributeId}
    (inside : id.index < s.attributes.size) : t.attr id = s.attr id := by
  obtain ⟨more, whole, _⟩ := h.attributes
  have lookup (u : Scene) : u.attr id = u.attributes.toList[id.index]?.getD default := by
    rw [Scene.attr, Array.getD_eq_getD_getElem?, Array.getElem?_toList]
  rw [lookup, lookup, whole, List.getElem?_append_left (by simpa using inside)]

theorem Spared.buffer {s t : Scene} (h : Spared s t) {id : BufferId}
    (inside : id.index < s.buffers.size) : (t.buffer id).kept = (s.buffer id).kept := by
  obtain ⟨more, whole, _⟩ := h.buffers
  rw [Scene.buffer_kept_eq_getD, Scene.buffer_kept_eq_getD, whole,
    List.getElem?_append_left (by simpa using inside)]

/-- On every exit, an address that leaves its word included, a draw of existing attributes that
meets no full counter leaves settings, sources, pipelines, warnings, attributes and buffers as they
were. -/
theorem draw_undisturbed (s : Scene) (request : DrawRequest) (prevalidated : Bool)
    (h : ∀ id ∈ request.attributes, id.index < s.attributes.size)
    (counted : (Operation.draw request prevalidated).Counted s) :
    Undisturbed s ((Operation.draw request prevalidated).after s) := by
  have spared := (spared_draw s request prevalidated h).of_counted counted
  refine ⟨spared.settings, spared.sources, spared.defaultSource, spared.wirePipeline,
    spared.warned, fun id => spared.attr, ?_, ?_, ?_, ?_⟩
  · exact fun id inside => (congrArg Buffer.pins (spared.buffer inside) :)
  · exact fun id inside => (congrArg Buffer.mapped (spared.buffer inside) :)
  · exact fun id inside => (congrArg Buffer.contents (spared.buffer inside) :)
  · exact fun id inside => (congrArg Buffer.storage (spared.buffer inside) :)

/-- A draw that overflows with two attributes pinned and one channel set up. -/
theorem draw_undisturbed_overflow :
    let s := (Scene.create {} []).run overflowingRun.dropLast
    let request : DrawRequest := ⟨.triangleList, 0, 3, [⟨1⟩, ⟨5⟩], none⟩
    (∀ id ∈ request.attributes, id.index < s.attributes.size) ∧
      (Operation.draw request false).Counted s ∧
      (Operation.draw request false).breaksOff s = true ∧
      Undisturbed s ((Operation.draw request false).after s) :=
  ⟨by decide +kernel, by decide +kernel, by decide +kernel,
    draw_undisturbed _ _ false (by decide +kernel) (by decide +kernel)⟩

end DrawSubmission
