import DrawSubmission.Draw.Notices
import DrawSubmission.Proofs.Order
import DrawSubmission.Proofs.Serving
set_option autoImplicit false

namespace DrawSubmission

def Scene.copiesDerived (s : Scene) : Nat := s.log.toList.count .copyDerived

/-- Since `s` one copy has been told if the derivation has one, and none otherwise. -/
def Derives (s : Scene) (d : Derivation) (t : Scene) : Prop :=
  t.copiesDerived = s.copiesDerived + d.copy.isSome.toNat

def Notice.isCopy (notice : Notice) : Bool := notice == .copyDerived

theorem copiesDerived_eq (s : Scene) : s.copiesDerived = (s.notices Notice.isCopy).length :=
  List.count_eq_length_filter

theorem isCopy_of_isBinding (notice : Notice) (h : notice.isBinding = true) :
    notice.isCopy = false := by
  cases notice <;> first | rfl | cases h

namespace Derives
variable {s t u : Scene} {d : Derivation}

theorem congr (h : Derives s d t) (same : u.notices Notice.isCopy = t.notices Notice.isCopy) :
    Derives s d u := by
  rw [Derives, copiesDerived_eq, same, ← copiesDerived_eq]
  exact h

theorem changeIf (h : Derives s d t) (needed : Bool) (f : Pipeline → Pipeline) :
    Derives s (d.changeIf needed f t).1 (d.changeIf needed f t).2 := by
  unfold Derivation.changeIf Derivation.change
  cases needed with
  | false => exact h
  | true =>
    unfold Derives at h
    cases copied : d.copy with
    | some pipeline =>
      rw [copied] at h
      exact h
    | none =>
      rw [copied] at h
      have noted : (t.note .copyDerived).copiesDerived = t.copiesDerived + 1 := by
        simp [Scene.copiesDerived, Scene.note]
      exact noted.trans (congrArg (· + 1) h)

end Derives

open SceneM

namespace Derives
variable {s t : Scene} {setUp : SetUp}

theorem connect (h : Derives s setUp.derivation t) (a : VertexAttribute) (pointer : Pointer) :
    Derives s (t.connect setUp a pointer).1.derivation (t.connect setUp a pointer).2 := by
  unfold Scene.connect
  cases a.role with
  | color =>
    have recorded : Derives s setUp.derivation (t.record (.setColorPointer pointer)) := h
    exact recorded.changeIf _ _
  | textureCoord unit =>
    exact h.congr (Scene.notices_of_log (Scene.log_enableTexUnit t unit))
  | position | normal | custom => exact h

theorem setUpChannel (setUp : SetUp) (id : AttributeId) :
    Ensures (Derives s setUp.derivation) (Scene.setUpChannel setUp id)
      (fun next => Derives s next.derivation) fun _ _ => True := by
  intro t h
  let a := t.attr id
  cases readable : a.readable with
  | false =>
    rw [Scene.setUpChannel_of_unreadable setUp readable]
    exact h.congr (Scene.notices_note_of_not rfl t)
  | true =>
    rw [Scene.setUpChannel_of_readable setUp readable]
    have bound : Keeps (Derives s setUp.derivation) (bindBuffer a.buffer .vertexArray) :=
      fun t h => h.congr (Scene.notices_bindBuffer isCopy_of_isBinding t a.buffer .vertexArray)
    have bound : Ensures (Derives s setUp.derivation) (bindBuffer a.buffer .vertexArray)
        (fun _ => Derives s setUp.derivation) fun _ _ => True :=
      (keeps_iff_ensures.mp bound).mono (fun _ _ h => h) fun _ _ _ => trivial
    refine bound.bind (fun _ u h => ?_) t h
    simp only [Scene.connectBound]
    cases a.pointer (u.buffer a.buffer).base with
    | error cause => trivial
    | ok pointer =>
      dsimp only
      split <;> rename_i outcome <;> split at outcome <;> cases outcome
      · exact (h.connect a pointer).congr (Scene.notices_unbind isCopy_of_isBinding _ _)
      · trivial

theorem walk (s : Scene) (attributes : List AttributeId) :
    Ensures (fun t => t = s)
      (attributes.foldlM Scene.setUpChannel { derivation := { source := s.context.source } })
      (fun setUp => Derives s setUp.derivation) fun _ _ => True := by
  intro t same
  subst t
  exact Ensures.foldlM (I := fun _ (setUp : SetUp) => Derives s setUp.derivation) attributes [] _
    (fun _ id _ setUp _ => setUpChannel setUp id) s rfl

theorem flush (h : Derives s setUp.derivation t) (options : FlushOptions) :
    (t.flush setUp options).2.copiesDerived =
      s.copiesDerived + (t.flush setUp options).1.derived.toNat := by
  let settled := t.disableStaleTexUnits setUp.usedTexUnits
  have stale : Derives s setUp.derivation settled :=
    h.congr (Scene.notices_disableStaleTexUnits (fun _ => rfl) t setUp.usedTexUnits)
  have derived : Derives s (settled.derivePipeline setUp.derivation options).1
      (settled.derivePipeline setUp.derivation options).2 := by
    simp only [Scene.derivePipeline]
    cases settled.context.settings.legacy with
    | none => exact (stale.changeIf _ _).changeIf _ _
    | some legacy => exact ((stale.changeIf _ _).changeIf _ _).changeIf _ _
  have silent : (t.flush setUp options).2.log =
      (settled.derivePipeline setUp.derivation options).2.log :=
    (Scene.log_flushFrontFace _).trans (Scene.log_flushEnableFlags _ _)
  exact derived.congr (Scene.notices_of_log silent)

end Derives

section Channels
variable (s : Scene) (attributes : List AttributeId)

theorem exists_channel_iff (a : VertexAttribute) :
    (∃ c, s.channel a = .ok c) ↔
      (s.buffer a.buffer).base.toNat + a.layout.offset.toNat < UInt64.size := by
  simp only [Scene.channel, VertexAttribute.pointer, addChecked, Overflow.check]
  split
  · rename_i small
    exact iff_of_true ⟨_, rfl⟩ small
  · rename_i large
    refine iff_of_false ?_ large
    rintro ⟨c, found⟩
    cases found

theorem exists_channels_iff :
    (∃ channels, s.channels attributes = .ok channels) ↔
      ∀ id ∈ attributes, (s.attr id).readable = true →
        (s.buffer (s.attr id).buffer).base.toNat + (s.attr id).layout.offset.toNat <
          UInt64.size := by
  simp only [Scene.channels, exists_mapM_iff, exists_channel_iff, List.mem_filter, List.mem_map]
  constructor
  · exact fun h id inside readable => h _ ⟨⟨id, inside, rfl⟩, readable⟩
  · rintro h a ⟨⟨id, inside, rfl⟩, readable⟩
    exact h id inside readable

variable {s attributes}

theorem hasRole_channels {channels : List Channel} (h : s.channels attributes = .ok channels)
    (role : Role) :
    hasRole role channels =
      attributes.any fun id => (s.attr id).readable && (s.attr id).role == role := by
  have roles := mapM_role h
  calc
    hasRole role channels = (channels.map Channel.role).any (· == role) := by
      rw [hasRole, List.any_map]
      rfl
    _ = attributes.any fun id => (s.attr id).readable && (s.attr id).role == role := by
      rw [roles, List.any_map, List.any_filter, List.any_map]
      rfl

end Channels

section Flushed
variable (context : DrawContext) (channels : List Channel) (view : PipelineView)

theorem filter_isFlush_map {α : Type} (xs : List α) {f : α → DriverCall}
    (other : ∀ x, (f x).isFlush = false) : (xs.map f).filter DriverCall.isFlush = [] := by
  refine List.filter_eq_nil_iff.mpr fun call inside => ?_
  obtain ⟨x, _, same⟩ := List.mem_map.mp inside
  rw [← same, other]
  exact Bool.false_ne_true

theorem filter_isFlush_setUpCalls (units : BitVec 32) (generic : Nat) :
    (setUpCalls units generic channels).filter DriverCall.isFlush = [] := by
  refine List.filter_eq_nil_iff.mpr fun call inside => ?_
  rw [not_isFlush_of_isSetUp (isSetUp_setUpCalls units generic channels call inside)]
  exact Bool.false_ne_true

theorem filter_isFlush_leadCalls :
    (leadCalls context channels view).filter DriverCall.isFlush = [.flushPipeline view] := by
  have stale : (staleCalls context.texUnits (usedUnits channels)).filter DriverCall.isFlush = [] :=
    filter_isFlush_map _ fun _ => rfl
  have changed (old new : EnableFlags) : (capabilityCalls old new).filter DriverCall.isFlush = [] :=
    filter_isFlush_map _ fun _ => rfl
  have turned (old : Option FrontFace) (face : FrontFace) :
      (frontFaceCalls old face).filter DriverCall.isFlush = [] := by
    unfold frontFaceCalls
    split <;> rfl
  have flush : (DriverCall.flushPipeline view).isFlush = true := rfl
  simp only [leadCalls, flushCalls, List.filter_append, filter_isFlush_setUpCalls, stale, changed,
    turned, List.filter_cons_of_pos flush, List.nil_append, List.append_nil]

end Flushed

/-- What a set-up that succeeds flushes, and how many copies it has told by then. -/
theorem enableAttributes_flushed (s : Scene) (attributes : List AttributeId)
    (options : FlushOptions) :
    Ensures (fun t => t = s) (enableAttributes attributes options)
      (fun flushed t => ∃ channels, s.channels attributes = .ok channels ∧
        Prepared s channels options t ∧
        flushed =
          ⟨s.context.source.forDraw s.context.settings options (hasRole .color channels),
            s.context.source.isChanged s.context.settings options (hasRole .color channels)⟩ ∧
        t.copiesDerived = s.copiesDerived + flushed.derived.toNat)
      (Overflowed s attributes) := by
  intro t same
  subst t
  have walked := (setUp_ensures s attributes).and (Derives.walk s attributes)
  refine Ensures.bind (walked.mono (fun _ _ => id) fun _ _ => And.left) (fun setUp => ?_) s rfl
  rintro t ⟨⟨channels, readable, gathers, connected⟩, derives⟩
  refine ⟨channels, readable, connected.flush gathers options, ?_, derives.flush options⟩
  have source : t.context.source = s.context.source := by rw [connected.context]; rfl
  have settings : t.context.settings = s.context.settings := by rw [connected.context]
  rw [← source, ← settings]
  exact flush_value (source ▸ gathers) options

/-- If every address of a readable attribute stays in its word, the source itself is flushed where
nothing asks for another pipeline, and one copy with just what is asked for where anything does. One
flush is told either way. An address that leaves its word, or a full counter, ends the set-up before
any flush. No pipeline of the context is another afterwards. -/
theorem enableAttributes_derives (s : Scene) (attributes : List AttributeId)
    (options : FlushOptions) :
    let source := s.context.source
    let settings := s.context.settings
    let colors := attributes.any fun id => (s.attr id).readable && (s.attr id).role == .color
    let requested :=
      if settings.debugFlags.contains DebugFlags.disableTexturing then
        { options with
          flags := options.flags.insert disableMask, disableLayers := BitVec.allOnes 32 }
      else options
    let unblended := settings.debugFlags.contains DebugFlags.disableBlending
    let legacy := settings.legacy.filter LegacyState.isSet
    let needed :=
      colors && !source.blends || !requested.flags.isEmpty || unblended || legacy.isSome
    let fits := ∀ id ∈ attributes, (s.attr id).readable = true →
      (s.buffer (s.attr id).buffer).base.toNat + (s.attr id).layout.offset.toNat < UInt64.size
    Ensures (fun start => start = s) (enableAttributes attributes options)
      (fun flushed t => fits ∧
        (∃ told, t.calls.toList = s.calls.toList ++ told ∧
          told.filter DriverCall.isFlush = [.flushPipeline
            { label := flushed.pipeline.label
              skipColor := colors
              blends := !unblended && (colors || source.blends)
              color := source.color
              overrides := if requested.flags.isEmpty then source.overrides else some requested
              legacy := legacy.or source.legacy }]) ∧
        flushed.pipeline.layers = source.layers ∧
        (flushed = ⟨source, false⟩ ↔ needed = false) ∧
        (needed = true → flushed.derived = true ∧
          flushed.pipeline.label = "copy(" ++ source.label ++ ")") ∧
        t.copiesDerived = s.copiesDerived + needed.toNat ∧
        ∃ texUnits enableFlags flushedFrontFace,
          t.context = { s.context with texUnits, enableFlags, flushedFrontFace })
      (fun cause t => (cause = .count ∨ ¬ fits) ∧
        (∃ told, t.calls.toList = s.calls.toList ++ told ∧
          told.filter DriverCall.isFlush = []) ∧
        ∃ texUnits, t.context = { s.context with texUnits }) := by
  intro source settings colors requested unblended legacy needed fits
  have fitting := exists_channels_iff s attributes
  refine (enableAttributes_flushed s attributes options).mono ?_ ?_
  · rintro flushed t ⟨channels, found, prepared, same, told⟩
    have colored : hasRole .color channels = colors := hasRole_channels found .color
    have changed : source.isChanged settings options colors = needed := rfl
    rw [colored] at same
    subst same
    refine ⟨fitting.mp ⟨channels, found⟩, ⟨_, prepared.calls, ?_⟩, rfl, ?_, ?_, told,
      _, _, _, prepared.context⟩
    · rw [filter_isFlush_leadCalls, DrawContext.view, colored, Pipeline.view,
        Pipeline.blends_forDraw]
      rfl
    · constructor
      · exact fun whole => (congrArg FlushedPipeline.derived whole :)
      · intro spare
        rw [changed, spare, Pipeline.forDraw_of_not_changed (changed.trans spare)]
    · intro wanted
      rw [Pipeline.label_forDraw, changed, wanted]
      exact ⟨rfl, rfl⟩
  · rintro cause t ⟨failed, channels, connected⟩
    refine ⟨failed.imp_right fun failed fine => ?_, ⟨_, connected.calls, ?_⟩, _,
      connected.context⟩
    · obtain ⟨channels, found⟩ := fitting.mpr fine
      cases failed.symm.trans found
    · exact filter_isFlush_setUpCalls ..

end DrawSubmission
