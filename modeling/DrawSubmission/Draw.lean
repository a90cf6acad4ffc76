import DrawSubmission.Draw.Kept
import DrawSubmission.Draw.Validated
import DrawSubmission.Wireframe.ReadBack
set_option autoImplicit false

namespace DrawSubmission

/-- What goes before a public draw; the answer is the overrides that its source needs. Flushing the
framebuffer may itself draw, so it has to come before any pointer is set. -/
def prepareDraw : SceneM FlushOptions := do
  modify fun s => s.record .flushJournal
  let validation ← LayerValidation.validateLayers (← get).context.source
  modify fun s => s.record .flushFramebufferState
  return validation.options

theorem prepareDraw_ensures (s : Scene) :
    SceneM.Ensures (fun t => t = s) prepareDraw
      (fun _ t => ∃ textures log, t = { s with
        textures, log, calls := (s.calls.push .flushJournal).push .flushFramebufferState })
      (fun _ t => ∃ textures log, t = { s with
        textures, log, calls := s.calls.push .flushJournal }) := by
  let flushed := s.record .flushJournal
  have first : SceneM.Ensures (fun t => t = s) (modify fun s => s.record .flushJournal)
      (fun _ => flushed.Retextured) (fun _ => flushed.Retextured) :=
    .modify fun t same => same ▸ .refl flushed
  have whole : SceneM.Ensures (fun t => t = s) prepareDraw
      (fun _ t => ∃ u, flushed.Retextured u ∧ t = u.record .flushFramebufferState)
      fun _ => flushed.Retextured := by
    refine first.bind fun _ => .get_bind fun u retextured => ?_
    have validated := SceneM.keeps_iff_ensures.mp
      (Scene.Retextured.validateLayers flushed u.context.source {} u.context.source.layers.indices)
    refine SceneM.Ensures.bind (fun t same => validated t (same ▸ retextured)) fun validation => ?_
    exact fun t retextured => ⟨t, retextured, rfl⟩
  refine whole.mono ?_ fun _ t retextured => retextured
  rintro _ t ⟨u, ⟨textures, log, same⟩, same'⟩
  exact ⟨textures, log, by rw [same', same]; rfl⟩

theorem keeps_prepareDraw {P : Scene → Prop} (record : ∀ s call, P s → P (s.record call))
    (validate : ∀ pipeline, SceneM.Keeps P (LayerValidation.validateLayers pipeline)) :
    SceneM.Keeps P prepareDraw := by
  refine SceneM.Keeps.bind (.modify fun s => record s .flushJournal) fun _ => ?_
  refine SceneM.Keeps.get.bind fun s => (validate s.context.source).bind fun validation => ?_
  exact (SceneM.Keeps.modify fun s => record s .flushFramebufferState).bind fun _ => .pure _

theorem outlinesDraws_of_drawOnce {s t : Scene} {request : DrawRequest} {options : FlushOptions}
    (done : drawOnce request options s = .ok () t) : t.outlinesDraws = s.outlinesDraws := by
  have same := settings_drawOnce s request options
  rw [SceneM.after_of_ok done] at same
  rw [Scene.outlinesDraws, same, Scene.outlinesDraws]

/-- A draw under given overrides and then, if the wireframe flag is set, the overlay with a draw of
its own. The flag decides the depth: the overlay draws while it is off. -/
def drawFrom (s : Scene) (options : FlushOptions) (request : DrawRequest) :
    EStateM.Result Overflow Scene Unit :=
  match _ : drawOnce request options s with
  | .error overflow t => .error overflow t
  | .ok () t =>
    if _ : t.outlinesDraws then overlay (fun u _ lines => drawFrom u {} lines) request t
    else .ok () t
termination_by s.outlinesDraws.toNat
decreasing_by
  rename_i done outlined off
  have on : s.outlinesDraws = true := (outlinesDraws_of_drawOnce done).symm.trans outlined
  simp [off, on]

theorem drawFrom_of_not_outlined {s : Scene} (off : s.outlinesDraws = false)
    (options : FlushOptions) (request : DrawRequest) :
    drawFrom s options request = drawOnce request options s := by
  rw [drawFrom]
  split
  · rename_i done
    rw [done]
  · rename_i done
    rw [done, dif_neg]
    simp [outlinesDraws_of_drawOnce done, off]

def drawWith (options : FlushOptions) (request : DrawRequest) : SceneM Unit :=
  fun s => drawFrom s options request

theorem drawWith_eq (options : FlushOptions) (request : DrawRequest) :
    drawWith options request = (do
      drawOnce request options
      if (← get).outlinesDraws then overlay drawLines request) := by
  have nested : (fun u _ lines => drawFrom u {} lines) = drawLines := by
    funext u off lines
    exact drawFrom_of_not_outlined off {} lines
  funext s
  change drawFrom s options request = EStateM.bind (drawOnce request options) _ s
  rw [drawFrom, EStateM.bind, nested]
  split
  · rename_i done
    rw [done]
  · rename_i t done
    rw [done]
    change _ = (if t.outlinesDraws then overlay drawLines request else pure ()) t
    split <;> rfl

section Ensures
variable {P M Q : Scene → Prop} {E : Overflow → Scene → Prop} {options : FlushOptions}
  {request : DrawRequest}

/-- What a draw ensures, by the ways it may go on after its own draw call: nothing more is drawn,
reading the outline overflows, or the outline is drawn. -/
theorem drawWith_ensures
    (drawn : SceneM.Ensures P (drawOnce request options) (fun _ => M) E)
    (plain : ∀ s t, M s → s.Alike t →
      (s.outlinesDraws = true → ∀ cause, request.outline s ≠ .error (.overflow cause)) → Q t)
    (overflow : ∀ s t cause, M s → s.Cut cause t → s.outlinesDraws = true →
      request.outline s = .error (.overflow cause) → E cause t)
    (outlined : ∀ s t outline, M s → s.Alike t → s.outlinesDraws = true →
      request.outline s = .ok outline → outline ≠ [] →
      SceneM.Ensures (fun u => u = t) (drawOutline drawLines outline) (fun _ => Q) E) :
    SceneM.Ensures P (drawWith options request) (fun _ => Q) E := by
  rw [drawWith_eq]
  refine drawn.bind fun _ => .get_bind fun s hs => ?_
  split
  · rename_i on
    refine overlay_ensures (fun t alike fits _ => plain s t hs alike fun _ => fits) ?_ ?_
    · exact fun t cause cut failed => overflow s t cause hs cut on failed
    · exact fun t outline alike => outlined s t outline hs alike on
  · rename_i off
    rintro t rfl
    exact plain t t hs (.refl t) fun on => absurd on off

/-- What a single draw ensures and reading an outline keeps, a draw ensures, if the draw of an
outline does. -/
theorem ensures_drawWith
    (drawn : SceneM.Ensures P (drawOnce request options) (fun _ => M) E)
    (alike : ∀ s t, Scene.Alike s t → M s → M t) (plain : ∀ s, M s → Q s)
    (overflow : ∀ s t cause, M s → s.Cut cause t → E cause t)
    (outlined : ∀ outline, SceneM.Ensures (fun s => M s ∧ s.outlinesDraws = true)
      (drawOutline drawLines outline) (fun _ => Q) E) :
    SceneM.Ensures P (drawWith options request) (fun _ => Q) E := by
  refine drawWith_ensures drawn (fun s t hs same _ => plain t (alike s t same hs)) ?_ ?_
  · exact fun s t cause hs cut _ _ => overflow s t cause hs cut
  · intro s t outline hs same on _ _ u here
    have still : u.outlinesDraws = true := by
      rw [here, Scene.outlinesDraws, Scene.settings_eq_of_kept same.kept]
      exact on
    exact outlined outline u ⟨here ▸ alike s t same hs, still⟩

theorem ensures_drawOutline {s : Scene} {outline : List Segment}
    (h : SceneM.Ensures (fun t => t = (s.stageOutline outline).2.setOutlines false)
      (drawOnce (lineDraw outline (s.stageOutline outline).1) {})
      (fun _ t => Q (t.setOutlines true).popSource) E) :
    SceneM.Ensures (fun t => t = s) (drawOutline drawLines outline) (fun _ => Q) E := by
  intro t same
  subst t
  have done := h _ rfl
  revert done
  simp only [drawOutline, drawLines]
  cases drawOnce (lineDraw outline (s.stageOutline outline).1) {}
    ((s.stageOutline outline).2.setOutlines false) <;> exact id

end Ensures

def drawPrevalidated (request : DrawRequest) : SceneM Unit := drawWith {} request

def draw (request : DrawRequest) : SceneM Unit := do
  drawWith (← prepareDraw) request

end DrawSubmission
