import DrawSubmission.Channels
set_option autoImplicit false

namespace DrawSubmission

/-- A derivation stands for a pipeline, and has copied it if that is another than the source. -/
structure Derivation.Makes (d : Derivation) (changed : Bool) (pipeline : Pipeline) : Prop where
  copied : d.copy = if changed then some pipeline.copy else none
  untouched : changed = false → d.source = pipeline

namespace Derivation.Makes
variable {d : Derivation} {changed : Bool} {pipeline : Pipeline}

theorem current (h : d.Makes changed pipeline) :
    d.current = if changed then pipeline.copy else pipeline := by
  rw [Derivation.current, h.copied]
  cases changed with
  | false => exact h.untouched rfl
  | true => rfl

theorem congr (h : d.Makes changed pipeline) {changed' : Bool} {pipeline' : Pipeline}
    (sameChange : changed = changed') (same : pipeline = pipeline') :
    d.Makes changed' pipeline' := by
  subst sameChange same
  exact h

theorem changeIf (h : d.Makes changed pipeline) (needed : Bool) (f : Pipeline → Pipeline)
    (neutral : ∀ p : Pipeline, f p.copy = (f p).copy) (s : Scene) :
    (d.changeIf needed f s).1.Makes (changed || needed)
      (if needed then f pipeline else pipeline) := by
  cases needed with
  | false =>
    rw [Bool.or_false]
    exact h
  | true =>
    rw [Bool.or_true]
    refine ⟨?_, nofun⟩
    simp only [Derivation.changeIf, Derivation.change, h.copied]
    cases changed with
    | false => simp [h.untouched rfl, neutral]
    | true => simp [neutral]

end Derivation.Makes

namespace Pipeline

/-- What is derived while channels are set up: colors want a pipeline that blends. -/
def colored (source : Pipeline) (colors : Bool) : Derivation :=
  if colors && !source.blends then { source, copy := some { source.copy with blend := .enabled } }
  else { source }

def forDraw (source : Pipeline) (settings : DrawSettings) (options : FlushOptions)
    (colors : Bool) : Pipeline :=
  let requested := Scene.requestedOptions settings options
  let unblended := settings.debugFlags.contains DebugFlags.disableBlending
  let legacy := settings.legacy.filter LegacyState.isSet
  let blended := colors && !source.blends
  let changed := blended || !requested.isEmpty || unblended || legacy.isSome
  { source with
    label := if changed then source.copy.label else source.label
    blend := if unblended then .disabled else if blended then .enabled else source.blend
    overrides := if requested.isEmpty then source.overrides else some requested
    legacy := legacy.or source.legacy }

variable (source : Pipeline) (settings : DrawSettings) (options : FlushOptions) (colors : Bool)

def isChanged : Bool :=
  colors && !source.blends || !(Scene.requestedOptions settings options).isEmpty ||
    settings.debugFlags.contains DebugFlags.disableBlending ||
    (settings.legacy.filter LegacyState.isSet).isSome

theorem label_forDraw : (source.forDraw settings options colors).label =
    if source.isChanged settings options colors then source.copy.label else source.label :=
  rfl

variable {source settings options colors} in
theorem forDraw_of_not_changed (same : source.isChanged settings options colors = false) :
    source.forDraw settings options colors = source := by
  simp only [isChanged, Bool.or_eq_false_iff, Bool.not_eq_false', Option.isSome_eq_false_iff,
    Option.isNone_iff_eq_none] at same
  obtain ⟨⟨⟨blended, empty⟩, unblended⟩, legacy⟩ := same
  simp only [forDraw, blended, empty, unblended, legacy]
  rfl

theorem blends_forDraw :
    (source.forDraw settings options colors).blends =
      (!settings.debugFlags.contains DebugFlags.disableBlending && (colors || source.blends)) := by
  have blend : (source.forDraw settings options colors).blend =
      if settings.debugFlags.contains DebugFlags.disableBlending then .disabled
      else if colors && !source.blends then .enabled else source.blend := rfl
  have color : (source.forDraw settings options colors).color = source.color := rfl
  rw [blends, blend, color]
  cases settings.debugFlags.contains DebugFlags.disableBlending with
  | true => rfl
  | false =>
    cases colors with
    | false => rfl
    | true =>
      cases blending : source.blends with
      | true => exact blending
      | false => rfl

theorem makes_colored :
    (source.colored colors).Makes (colors && !source.blends)
      { source with blend := if colors && !source.blends then .enabled else source.blend } := by
  unfold colored
  cases colors && !source.blends with
  | false => exact ⟨rfl, fun _ => rfl⟩
  | true => exact ⟨rfl, nofun⟩

end Pipeline

theorem colored_changeIf (source : Pipeline) (colors : Bool) (s : Scene) :
    ((source.colored colors).changeIf (!(source.colored colors).current.blends)
      (fun pipeline => { pipeline with blend := .enabled }) s).1 = source.colored true := by
  cases blends : source.blends <;> cases colors <;>
    simp [Pipeline.colored, blends, Derivation.changeIf, Derivation.change, Derivation.current,
      Pipeline.blends.eq_def { source.copy with blend := .enabled }]

theorem makes_derivePipeline (s : Scene) (source : Pipeline) (options : FlushOptions)
    (colors : Bool) :
    (s.derivePipeline (source.colored colors) options).1.Makes
      (source.isChanged s.context.settings options colors)
      { source.forDraw s.context.settings options colors with label := source.label } := by
  simp only [Scene.derivePipeline, Pipeline.forDraw, Pipeline.isChanged]
  generalize s.context.settings = settings
  generalize Scene.requestedOptions settings options = requested
  generalize settings.debugFlags.contains DebugFlags.disableBlending = unblended
  let mask (pipeline : Pipeline) : Pipeline := { pipeline with overrides := some requested }
  let unblend (pipeline : Pipeline) : Pipeline := { pipeline with blend := .disabled }
  let masked := (source.colored colors).changeIf (!requested.isEmpty) mask s
  let settled := masked.1.changeIf unblended unblend masked.2
  have made := source.makes_colored colors
  have made := made.changeIf (!requested.isEmpty) mask (fun _ => rfl) s
  have made := made.changeIf unblended unblend (fun _ => rfl) masked.2
  cases settings.legacy with
  | none =>
    refine made.congr (Bool.or_false _).symm ?_
    cases colors && !source.blends <;> cases requested.isEmpty <;> cases unblended <;> rfl
  | some legacy =>
    let keep (pipeline : Pipeline) : Pipeline := { pipeline with legacy := some legacy }
    have made := made.changeIf legacy.isSet keep (fun _ => rfl) settled.2
    refine made.congr ?_ ?_
    · cases set : legacy.isSet <;> simp only [Option.filter, set] <;> rfl
    · cases set : legacy.isSet <;> simp only [Option.filter, set] <;>
        cases colors && !source.blends <;> cases requested.isEmpty <;> cases unblended <;> rfl

theorem current_derivePipeline (s : Scene) (source : Pipeline) (options : FlushOptions)
    (colors : Bool) :
    (s.derivePipeline (source.colored colors) options).1.current =
      source.forDraw s.context.settings options colors := by
  have label := source.label_forDraw s.context.settings options colors
  rw [(makes_derivePipeline s source options colors).current]
  generalize source.forDraw s.context.settings options colors = drawn at label ⊢
  generalize source.isChanged s.context.settings options colors = changed at label ⊢
  obtain ⟨_, _, _, _, _, _⟩ := drawn
  cases changed <;> cases label <;> rfl

theorem flushed_derivePipeline (s : Scene) (source : Pipeline) (options : FlushOptions)
    (colors : Bool) :
    (s.derivePipeline (source.colored colors) options).1.flushed =
      ⟨source.forDraw s.context.settings options colors,
        source.isChanged s.context.settings options colors⟩ := by
  rw [Derivation.flushed, current_derivePipeline, (makes_derivePipeline ..).copied]
  cases source.isChanged s.context.settings options colors <;> rfl

end DrawSubmission
