import DrawSubmission.Proofs.Derived
set_option autoImplicit false

namespace DrawSubmission

namespace FlushOptions

/-- Whether a layer is asked to be disabled: by the debug flag wherever it is, or else by the mask,
which is meaningful only under its own flag. -/
def disables (options : FlushOptions) (settings : DrawSettings) (position : UInt32) : Bool :=
  settings.debugFlags.contains DebugFlags.disableTexturing ||
    options.flags.contains disableMask && options.disableLayers.getLsbD position.toNat

def Faithful (options : FlushOptions) (settings : DrawSettings) (layers : Nat) : Prop :=
  if settings.debugFlags.contains DebugFlags.disableTexturing then layers ≤ 32
  else options.flags.isEmpty ∨ options.flags.contains disableMask ∨
    ∀ position : UInt32, position.toNat < layers →
      options.disableLayers.getLsbD position.toNat = false

end FlushOptions

namespace Pipeline
variable {source : Pipeline} (plain : source.overrides = none) (settings : DrawSettings)
  (options : FlushOptions) (colors : Bool)
include plain

/-- What becomes of a layer: the overrides are read without their flags. -/
theorem layerEnabledAt_forDraw (position : UInt32) :
    (source.forDraw settings options colors).layerEnabledAt position = false ↔
      position.toNat < 32 ∧ (settings.debugFlags.contains DebugFlags.disableTexturing = true ∨
        options.flags.isEmpty = false ∧ options.disableLayers.getLsbD position.toNat = true) := by
  let requested := Scene.requestedOptions settings options
  have overrides : (source.forDraw settings options colors).overrides =
      if requested.isEmpty then none else some requested := by
    rw [← plain]
    rfl
  have enabled : (source.forDraw settings options colors).layerEnabledAt position =
      (requested.isEmpty || !requested.disableLayers.getLsbD position.toNat) := by
    rw [layerEnabledAt, overrides]
    cases requested.isEmpty <;> rfl
  rw [enabled]
  cases whole : settings.debugFlags.contains DebugFlags.disableTexturing with
  | true =>
    have all : requested = options.withoutTexturing := if_pos whole
    have filled : requested.isEmpty = false := by
      rw [all]
      exact FlagSet.isEmpty_of_contains rfl (FlagSet.contains_insert options.flags disableMask)
    rw [filled, all, FlushOptions.withoutTexturing, BitVec.getLsbD_allOnes]
    simp
  | false =>
    have own : requested = options := if_neg (Bool.eq_false_iff.mp whole)
    have inside : options.disableLayers.getLsbD position.toNat = true → position.toNat < 32 :=
      BitVec.lt_of_getLsbD
    rw [own, FlushOptions.isEmpty]
    simpa [and_comm] using fun bit _ => inside bit

theorem faithful_iff (layers : Nat) :
    (∀ position : UInt32, position.toNat < layers →
      ((source.forDraw settings options colors).layerEnabledAt position = false ↔
        options.disables settings position = true)) ↔ options.Faithful settings layers := by
  simp only [layerEnabledAt_forDraw plain, FlushOptions.disables, FlushOptions.Faithful]
  cases settings.debugFlags.contains DebugFlags.disableTexturing with
  | true =>
    simp only [true_or, and_true, Bool.true_or, iff_true, ↓reduceIte]
    constructor
    · intro asked
      apply Nat.le_of_not_lt
      intro many
      exact Nat.lt_irrefl 32 (asked 32 many)
    · exact fun few position inside => Nat.lt_of_lt_of_le inside few
  | false =>
    have below (position : UInt32) :
        options.disableLayers.getLsbD position.toNat = true → position.toNat < 32 :=
      BitVec.lt_of_getLsbD
    cases meant : options.flags.contains disableMask with
    | true =>
      have filled : options.flags.isEmpty = false := FlagSet.isEmpty_of_contains rfl meant
      simpa [filled] using fun position _ => below position
    | false =>
      cases options.flags.isEmpty with
      | true => simp
      | false =>
        simp only [Bool.false_eq_true, false_or, true_and, Bool.false_and, Bool.or_self, iff_false,
          ↓reduceIte]
        constructor
        · intro asked position inside
          apply Bool.eq_false_iff.mpr
          exact fun bit => asked position inside ⟨below position bit, bit⟩
        · intro clear position inside bit
          exact Bool.false_ne_true ((clear position inside).symm.trans bit.2)

end Pipeline

open SceneM

/-- Where the source has no overrides of its own, a set-up that completes flushes a pipeline that
disables a layer just if it is at a position below 32 and the debug flag disables all layers, or
any flag of the options is set and the mask holds the position. So all layers of the source are
disabled as asked, and no others, unless the mask holds a layer without its own flag but under
another one, or there are layers from position 32 on while the debug flag is set. -/
theorem layers_disabled (s : Scene) (plain : s.context.source.overrides = none)
    (attributes : List AttributeId) (options : FlushOptions) :
    let source := s.context.source
    let settings := s.context.settings
    let fits := ∀ id ∈ attributes, (s.attr id).readable = true →
      (s.buffer (s.attr id).buffer).base.toNat + (s.attr id).layout.offset.toNat < UInt64.size
    Ensures (fun start => start = s) (enableAttributes attributes options)
      (fun flushed t => fits ∧
        (∃ told view, t.calls.toList = s.calls.toList ++ told ∧
          told.filter DriverCall.isFlush = [.flushPipeline view] ∧
          view.label = flushed.pipeline.label ∧ view.overrides = flushed.pipeline.overrides) ∧
        flushed.pipeline.layers = source.layers ∧
        (∀ position : UInt32, flushed.pipeline.layerEnabledAt position = false ↔
          position.toNat < 32 ∧ (settings.debugFlags.contains DebugFlags.disableTexturing = true ∨
            options.flags.isEmpty = false ∧
              options.disableLayers.getLsbD position.toNat = true)) ∧
        ((∀ position : UInt32, position.toNat < source.layers.indices.length →
          (flushed.pipeline.layerEnabledAt position = false ↔
            options.disables settings position = true)) ↔
          options.Faithful settings source.layers.indices.length))
      (fun cause _ => cause = .count ∨ ¬ fits) := by
  intro source settings fits
  have fitting := exists_channels_iff s attributes
  apply (enableAttributes_flushed s attributes options).mono
  · rintro flushed t ⟨channels, found, prepared, same, -⟩
    have pipeline : flushed.pipeline = source.forDraw settings options (hasRole .color channels) :=
      congrArg FlushedPipeline.pipeline same
    rw [pipeline]
    let view := s.context.view channels options
    refine ⟨fitting.mp ⟨channels, found⟩, ⟨_, view, prepared.calls, ?_, rfl, rfl⟩, rfl, ?_, ?_⟩
    · exact filter_isFlush_leadCalls ..
    · exact source.layerEnabledAt_forDraw plain settings options _
    · exact source.faithful_iff plain settings options _ _
  · rintro cause t ⟨failed, -⟩
    refine failed.imp_right fun failed fine => ?_
    obtain ⟨channels, found⟩ := fitting.mpr fine
    cases failed.symm.trans found

def layeredScene : Scene :=
  (Scene.create {} []).pushSource
    { label := "layered", layers := Layers.build [(4, none), (1, none), (7, none)] }

theorem layers_disabled_layeredScene :
    let options : FlushOptions := { flags := disableMask, disableLayers := 0b010#32 }
    layeredScene.context.source.overrides = none ∧
      options.Faithful layeredScene.context.settings 3 ∧
      ∃ flushed t, enableAttributes [] options layeredScene = .ok flushed t ∧
        ∀ position : UInt32, position.toNat < 3 →
          (flushed.pipeline.layerEnabledAt position = false ↔
            options.disables layeredScene.context.settings position = true) := by
  intro options
  have plain : layeredScene.context.source.overrides = none := rfl
  have faithful : options.Faithful layeredScene.context.settings 3 := by
    rw [FlushOptions.Faithful, if_neg (by decide)]
    exact .inr (.inl (by decide))
  have disabled := layers_disabled layeredScene plain [] options layeredScene rfl
  exact ⟨plain, faithful, _, _, rfl, disabled.2.2.2.2.mpr faithful⟩

/-- A mask disables a layer without its own flag, and the debug flag leaves the 33rd layer on. -/
theorem layers_not_disabled_as_asked :
    let many := { layeredScene.context.source with
      layers := Layers.build ((List.range 33).map fun index => (.ofNat index, none)) }
    let untextured : DrawSettings := { debugFlags := DebugFlags.disableTexturing }
    let unmeant : FlushOptions := { flags := fallbackMask, disableLayers := 0b010#32 }
    (∃ flushed t, enableAttributes [] unmeant layeredScene = .ok flushed t ∧
      unmeant.disables layeredScene.context.settings 1 = false ∧
      flushed.pipeline.layerEnabledAt 1 = false) ∧
    ∃ flushed t, enableAttributes [] {} ((layeredScene.pushSource many).setSettings untextured) =
        .ok flushed t ∧
      FlushOptions.disables {} untextured 32 = true ∧
      flushed.pipeline.layers.indices.length = 33 ∧
      flushed.pipeline.layerEnabledAt 32 = true := by
  intro many untextured unmeant
  exact ⟨⟨_, _, rfl, by decide +kernel, by decide +kernel⟩,
    ⟨_, _, rfl, by decide +kernel, by decide +kernel, by decide +kernel⟩⟩

end DrawSubmission
