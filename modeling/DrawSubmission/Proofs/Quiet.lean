import DrawSubmission.Proofs.Operation
set_option autoImplicit false

namespace DrawSubmission

def DriverCall.isIdle : DriverCall → Bool
  | flushJournal | flushFramebufferState | createPipeline | createVertexArray .. => true
  | _ => false

def DrawContext.memory (context : DrawContext) : BitVec 32 × EnableFlags × Option FrontFace :=
  (context.texUnits, context.enableFlags, context.flushedFrontFace)

/-- Only idle calls lead from one scene to another, and the context remembers what it did. -/
def Quiet (s t : Scene) : Prop :=
  ∃ calls, t.calls.toList = s.calls.toList ++ calls ∧ (∀ call ∈ calls, call.isIdle = true) ∧
    t.context.memory = s.context.memory

namespace Quiet
variable {s t u : Scene}

theorem of_memory (calls : t.calls = s.calls) (same : t.context.memory = s.context.memory) :
    Quiet s t := by
  refine ⟨[], ?_, ?_, same⟩
  · rw [List.append_nil, calls]
  · exact fun _ inside => nomatch inside

theorem of_told (told : t.told = s.told) : Quiet s t :=
  .of_memory (Scene.calls_eq_of_told told) (by rw [Scene.context_eq_of_told told])

theorem refl (s : Scene) : Quiet s s := .of_told rfl

theorem record (s : Scene) {call : DriverCall} (idle : call.isIdle = true) :
    Quiet s (s.record call) := by
  refine ⟨[call], Array.toList_push, fun call' inside => ?_, rfl⟩
  rw [List.mem_singleton.mp inside]
  exact idle

theorem trans (h : Quiet s t) (h' : Quiet t u) : Quiet s u := by
  obtain ⟨xs, calls, idle, same⟩ := h
  obtain ⟨ys, calls', idle', same'⟩ := h'
  refine ⟨xs ++ ys, ?_, ?_, same'.trans same⟩
  · rw [calls', calls, List.append_assoc]
  · intro call inside
    rcases List.mem_append.mp inside with early | late
    · exact idle call early
    · exact idle' call late

end Quiet

open SceneM

theorem quiet_stageOutline (s : Scene) (outline : List Segment) :
    Quiet s (s.stageOutline outline).2 := by
  have added : Quiet s (s.addOutline outline).2 := .record s rfl
  have piped (t : Scene) : Quiet t t.wirePipeline.2 := by
    unfold Scene.wirePipeline
    split
    · exact .refl t
    · have created : Quiet t t.createPipeline.2 := .record t rfl
      exact created.trans (.of_memory rfl rfl)
  exact added.trans ((piped _).trans (.of_memory rfl rfl))

/-- No pipeline is made either, and at most settings and sources are others. -/
structure Calm (s t : Scene) : Prop where
  context : ∃ settings sources, t.context = { s.context with settings, sources }
  calls : ∃ calls, t.calls.toList = s.calls.toList ++ calls ∧
    ∀ call ∈ calls, call.isIdle = true ∧ call ≠ .createPipeline

namespace Calm
variable {s t : Scene}

theorem quiet (h : Calm s t) : Quiet s t := by
  obtain ⟨settings, sources, context⟩ := h.context
  obtain ⟨calls, appended, idle⟩ := h.calls
  exact ⟨calls, appended, fun call inside => (idle call inside).1, by rw [context]; rfl⟩

theorem of_calls (calls : t.calls = s.calls)
    (context : ∃ settings sources, t.context = { s.context with settings, sources }) :
    Calm s t := by
  refine ⟨context, [], ?_, fun _ inside => nomatch inside⟩
  rw [calls, List.append_nil]

theorem of_told (told : t.told = s.told) : Calm s t :=
  .of_calls (Scene.calls_eq_of_told told) ⟨_, _, Scene.context_eq_of_told told⟩

theorem of_retextured (h : s.Retextured t) : Calm s t := by
  obtain ⟨textures, log, same⟩ := h
  rw [same]
  exact .of_told rfl

end Calm

/-- A draw has been prepared, or has broken off while it was: textures, notices and idle calls at
most are new. -/
structure Readied (s t : Scene) : Prop where
  same : ∃ textures log calls, t = { s with textures, log, calls }
  calls : ∃ lead, (∀ call ∈ lead, call = .flushJournal ∨ call = .flushFramebufferState) ∧
    t.calls.toList = s.calls.toList ++ lead
  bindings : SameBindings s t

theorem Readied.calm {s t : Scene} (h : Readied s t) : Calm s t := by
  obtain ⟨lead, flushes, appended⟩ := h.calls
  obtain ⟨textures, log, calls, same⟩ := h.same
  refine ⟨⟨s.context.settings, s.context.sources, by rw [same]⟩, lead, appended, ?_⟩
  intro call inside
  rcases flushes call inside with rfl | rfl <;> exact ⟨rfl, nofun⟩

theorem Readied.quiet {s t : Scene} (h : Readied s t) : Quiet s t := h.calm.quiet

theorem sameBindings_prepareDraw (s : Scene) : SameBindings s (prepareDraw.after s) :=
  keeps_prepareDraw (fun _ _ same => same.trans (.of_still rfl))
    (fun _ => SameBindings.validateLayers s _ {} _) s (.refl s)

theorem readied_prepareDraw (s : Scene) : Readied s (prepareDraw.after s) := by
  have bindings := ensures_iff_after.mpr (sameBindings_prepareDraw s)
  refine ensures_iff_after.mp (((prepareDraw_ensures s).and bindings).mono ?_ ?_)
  · rintro _ t ⟨⟨textures, log, same⟩, bindings⟩
    refine ⟨⟨_, _, _, same⟩, ⟨[.flushJournal, .flushFramebufferState], ?_, ?_⟩, bindings⟩ <;>
      simp [same]
  · rintro cause t ⟨⟨textures, log, same⟩, bindings⟩
    refine ⟨⟨_, _, _, same⟩, ⟨[.flushJournal], ?_, ?_⟩, bindings⟩ <;> simp [same]

def Scene.Passes (s : Scene) (prevalidated : Bool) : Prop :=
  prevalidated = true ∨ LayerValidation.Countable s.context.source

theorem prepareDraw_passes (s : Scene) :
    Ensures (fun t => t = s) prepareDraw (fun _ _ => s.Passes false)
      (fun cause _ => cause = .add ∧ ¬ s.Passes false) := by
  let source := s.context.source
  have recorded : Ensures (fun t => t = s) (modify fun t => t.record .flushJournal : SceneM Unit)
      (fun _ t => t.context.source = source) (fun cause _ => cause = .add ∧ ¬ s.Passes false) :=
    .modify fun t same => by rw [same]; rfl
  refine recorded.bind fun _ => .get_bind fun t same => ?_
  rw [same]
  have validated : Ensures (fun u => u = t) (LayerValidation.validateLayers source)
      (fun _ _ => s.Passes false) (fun cause _ => cause = .add ∧ ¬ s.Passes false) := by
    refine (LayerValidation.validateLayers_ensures source _).mono ?_ ?_
    · exact fun _ _ countable => .inr countable
    · rintro cause u ⟨add, uncountable⟩
      refine ⟨add, ?_⟩
      rintro (prevalidated | countable)
      · cases prevalidated
      · exact uncountable countable
  exact validated.bind fun _ _ passed => passed

/-- Both entry points draw from a scene that is ready, the public one after preparing it, which can
only fail for want of units. -/
theorem ensures_draw_passing {s : Scene} {request : DrawRequest} {prevalidated : Bool}
    {Q : Scene → Prop} {E : Overflow → Scene → Prop}
    (early : ∀ t, Readied s t → ¬ s.Passes prevalidated → E .add t)
    (drawn : s.Passes prevalidated →
      ∀ options, Ensures (Readied s) (drawWith options request) (fun _ => Q) E) :
    Ensures (fun t => t = s) (Operation.draw request prevalidated).perform (fun _ => Q) E := by
  cases prevalidated with
  | true =>
    rintro t rfl
    exact drawn (.inl rfl) {} t ⟨⟨_, _, _, rfl⟩, ⟨[], by simp, by simp⟩, .refl t⟩
  | false =>
    have ready : Ensures (fun t => t = s) prepareDraw (fun _ => Readied s) fun _ => Readied s :=
      ensures_iff_after.mpr (readied_prepareDraw s)
    have prepared := ready.and (prepareDraw_passes s)
    have answered : Ensures (fun t => t = s) prepareDraw _ E :=
      prepared.mono (fun _ _ => id) fun _ t ⟨ready, add, failed⟩ => add ▸ early t ready failed
    exact answered.bind fun options t ⟨ready, passed⟩ => drawn passed options t ready

theorem ensures_draw {s : Scene} {request : DrawRequest} {prevalidated : Bool}
    {Q : Scene → Prop} {E : Overflow → Scene → Prop} (early : ∀ t, Readied s t → E .add t)
    (drawn : ∀ options, Ensures (Readied s) (drawWith options request) (fun _ => Q) E) :
    Ensures (fun t => t = s) (Operation.draw request prevalidated).perform (fun _ => Q) E :=
  ensures_draw_passing (fun t ready _ => early t ready) fun _ => drawn

theorem calm_after (op : Operation) (s : Scene) (same : op.isRenewal = false)
    (apart : op.isDirect = false) (other : op.isDraw = false) : Calm s (op.after s) := by
  cases op with
  | newContext settings => cases same
  | enable | disable => cases apart
  | draw => cases other
  | changeSettings | pushSource | popSource => exact .of_calls rfl ⟨_, _, rfl⟩
  | newBuffer | newTexture | unmap => exact .of_told rfl
  | newVertexArray data =>
    refine ⟨⟨s.context.settings, s.context.sources, rfl⟩, [_], Array.toList_push, ?_⟩
    exact List.forall_mem_singleton.mpr ⟨rfl, nofun⟩
  | newAttribute | setNormalized | replaceBuffer | borrowBuffer | returnBuffer | acquire | release
  | dropPin | pinBuffer | unpinBuffer | report =>
    exact .of_told (Operation.upkeep Scene.told_frame _ s rfl)
  | bind id target => exact .of_told (s.told_bindBuffer id target)
  | unbind id => exact .of_told (s.told_unbind id)
  | map id access =>
    simp only [Operation.after, Operation.perform, after_discard]
    exact .of_told (keeps_mapBuffer (P := fun t => t.told = s.told) (fun _ _ _ same => same) id
      access s rfl)
  | leaveAtlas id => exact .of_retextured (.leaveAtlas s id)
  | prepareMipmaps id => exact .of_retextured (.prepareMipmaps s id)
  | validate pipeline start layers =>
    simp only [Operation.after, Operation.perform, after_discard]
    exact .of_retextured (.validateLayers s pipeline start layers s (.refl s))
  | reconstruct position topology first count indices =>
    simp only [Operation.after, Operation.perform, after_discard]
    exact .of_told (reconstruct_rel (R := fun s t => t.told = s.told) (fun alike => alike.told)
      (fun h h' => h'.trans h) (fun _ _ => rfl) s position topology first count indices)

theorem quiet_after (op : Operation) (s : Scene) (same : op.isRenewal = false)
    (apart : op.isDirect = false) (other : op.isDraw = false) : Quiet s (op.after s) :=
  (calm_after op s same apart other).quiet

end DrawSubmission
