import Mathlib.Data.List.Induction
import DrawSubmission.Draw
set_option autoImplicit false

/-!
# Operations and runs

What the user of a draw context can do to the scene. A run does one operation after the other; one
that overflows ends there, and the run goes on from the scene that it leaves behind.
-/
namespace DrawSubmission

theorem createAttribute_eq (s : Scene) (diagnostics : DiagnosticsId) (buffer : BufferId)
    (name : String) (layout : VertexLayout) :
    (∃ error, (s.createAttribute diagnostics buffer name layout).2 =
        s.note (.attributeRefused error)) ∨
      ∃ a : VertexAttribute, a.diagnostics = diagnostics ∧ a.buffer = buffer ∧ a.pins = 0 ∧
        (s.createAttribute diagnostics buffer name layout).2 = (s.addAttr a).2 := by
  unfold Scene.createAttribute
  cases created : VertexAttribute.create diagnostics buffer name layout with
  | error error => exact .inl ⟨error, rfl⟩
  | ok a =>
    obtain ⟨told, behind, free⟩ := VertexAttribute.of_create created
    exact .inr ⟨a, told, behind, free, rfl⟩

inductive Operation where
  | newContext (settings : DrawSettings)
  | changeSettings (settings : DrawSettings)
  | pushSource (pipeline : Pipeline)
  | popSource
  | newBuffer (contents : Array UInt8) (storage : Storage)
  | newVertexArray (data : List UInt8)
  | newTexture (texture : Texture)
  /-- An attribute that reports to its own diagnostics or to those of the context. -/
  | newAttribute (own : Bool) (buffer : BufferId) (name : String) (layout : VertexLayout)
  | setNormalized (id : AttributeId) (normalized : Bool)
  | replaceBuffer (id : AttributeId) (buffer : BufferId)
  | borrowBuffer (id : AttributeId)
  | returnBuffer (id : AttributeId)
  | acquire (id : AttributeId)
  | release (id : AttributeId)
  | dropPin (id : AttributeId)
  | pinBuffer (id : BufferId)
  | unpinBuffer (id : BufferId)
  | bind (id : BufferId) (target : BindTarget)
  | unbind (id : BufferId)
  | map (id : BufferId) (access : MapAccess)
  | unmap (id : BufferId)
  | leaveAtlas (id : TextureId)
  | prepareMipmaps (id : TextureId)
  | report (what : String)
  | validate (pipeline : Pipeline) (start : LayerValidation) (layers : List UInt32)
  | reconstruct (position : AttributeId) (topology : Topology) (first count : UInt32)
      (indices : Option Indices)
  | enable (attributes : List AttributeId) (options : FlushOptions)
  | disable (attributes : List AttributeId) (flushed : FlushedPipeline)
  | draw (request : DrawRequest) (prevalidated : Bool)
deriving DecidableEq

namespace Operation

def perform : Operation → SceneM Unit
  | newContext settings => modify fun s => s.renewContext settings
  | changeSettings settings => modify fun s => s.setSettings settings
  | pushSource pipeline => modify fun s => s.pushSource pipeline
  | popSource => modify Scene.popSource
  | newBuffer contents storage => modify fun s => (s.addBuffer { contents, storage }).2
  | newVertexArray data => modify fun s => (s.createVertexArray data).2
  | newTexture texture => modify fun s => (s.addTexture texture).2
  | newAttribute own buffer name layout => modify fun s =>
    let (diagnostics, s) := if own then s.addDiagnostics else (s.context.diagnostics, s)
    (s.createAttribute diagnostics buffer name layout).2
  | setNormalized id normalized => modify fun s => s.setNormalized id normalized
  | replaceBuffer id buffer => modify fun s => (s.replaceBuffer id buffer).2
  | borrowBuffer id => modify fun s => s.borrowBuffer id
  | returnBuffer id => modify fun s => s.returnBuffer id
  | acquire id => takePin id
  | release id => modify fun s => (s.release id).2
  | dropPin id => modify fun s => s.dropPin id
  | pinBuffer id => takeBufferPin id
  | unpinBuffer id => modify fun s => (s.unpinBuffer id).2
  | bind id target => bindBuffer id target
  | unbind id => modify fun s => s.unbind id
  | map id access => discard (mapBuffer id access)
  | unmap id => modify fun s => s.unmap id
  | leaveAtlas id => modify fun s => s.leaveAtlas id
  | prepareMipmaps id => modify fun s => s.prepareMipmaps id
  | report what => modify fun s => s.reportMidScene s.context.diagnostics what
  | validate pipeline start layers =>
    discard (layers.foldlM (LayerValidation.validateLayer pipeline) start)
  | reconstruct position topology first count indices =>
    discard (DrawSubmission.reconstruct position topology first count indices)
  | enable attributes options => discard (enableAttributes attributes options)
  | disable attributes flushed => tearDown attributes flushed
  | draw request prevalidated =>
    if prevalidated then drawPrevalidated request else DrawSubmission.draw request

def after (op : Operation) (s : Scene) : Scene := op.perform.after s

def isDraw : Operation → Bool
  | draw .. => true
  | _ => false

/-- An operation counts all that it takes: none ends at a full counter, and no buffer is replaced
while somebody looks at it. -/
def Counted (op : Operation) (s : Scene) : Prop :=
  match op with
  | replaceBuffer id buffer => (s.replaceBuffer id buffer).1 = .ok ()
  | _ => op.perform.exit s ≠ .error .count

instance decidableCounted (op : Operation) (s : Scene) : Decidable (op.Counted s) := by
  unfold Counted
  split <;> infer_instance

/-- Whether an operation is a draw that overflows. -/
def breaksOff (op : Operation) (s : Scene) : Bool :=
  match op with
  | draw .. =>
    match op.perform s with
    | .ok _ _ => false
    | .error _ _ => true
  | _ => false

def isRenewal : Operation → Bool
  | newContext _ => true
  | _ => false

def isDirect : Operation → Bool
  | enable .. | disable .. => true
  | _ => false

def isUpkeep : Operation → Bool
  | newAttribute .. | setNormalized .. | replaceBuffer .. | borrowBuffer _ | returnBuffer _
  | acquire _ | release _ | dropPin _ | pinBuffer _ | unpinBuffer _ | report _ => true
  | _ => false

theorem upkeep {R : Scene → Scene → Prop} (frame : Frame R) (op : Operation) (s : Scene)
    (h : op.isUpkeep = true) : R s (op.after s) := by
  cases op with
  | newAttribute own buffer name layout =>
    cases own with
    | true => exact frame.trans (frame.warn s _) (frame.createAttribute _ _ buffer name layout)
    | false => exact frame.createAttribute s _ buffer name layout
  | setNormalized id normalized => exact frame.setNormalized s id normalized
  | replaceBuffer id buffer => exact frame.replaceBuffer s id buffer
  | borrowBuffer id => exact frame.borrowBuffer s id
  | returnBuffer id => exact frame.returnBuffer s id
  | acquire id => exact frame.pins.takePin s id
  | release id => exact frame.pins.release s id
  | dropPin id => exact frame.pins.dropPin s id
  | pinBuffer id => exact frame.pins.takeBufferPin s id
  | unpinBuffer id => exact frame.pins.unpinBuffer s id
  | report what => exact frame.reportMidScene s _ what
  | _ => cases h

def isBinding : Operation → Bool
  | bind .. | unbind _ => true
  | _ => false

open SceneM in
theorem binding {R : Scene → Scene → Prop} (frame : BindFrame R) (op : Operation) (s : Scene)
    (h : (op.isBinding || op.isDirect) = true) : R s (op.after s) := by
  cases op with
  | bind id target => exact frame.bindBuffer s id target
  | unbind id => exact frame.unbind s id
  | enable attributes options =>
    simp only [after, perform, after_discard]
    exact frame.enableAttributes s attributes options
  | disable attributes flushed =>
    obtain ⟨front, _, same⟩ := after_tearDown s attributes flushed
    rw [after, perform, same]
    exact frame.of_still (s.still_disableAttributes front flushed)
  | _ => cases h

section Counted
variable {s : Scene}

theorem after_acquire {id : AttributeId} (counted : (acquire id).Counted s) :
    (acquire id).after s = s.acquire id :=
  ((takePin_ensures id s).mono (fun _ _ => (·)) fun _ _ => .inl).of_counted counted

theorem after_pinBuffer {id : BufferId} (counted : (pinBuffer id).Counted s) :
    (pinBuffer id).after s = s.pinBuffer id := by
  revert counted
  simp only [Counted, after, perform, takeBufferPin, SceneM.after, SceneM.exit]
  by_cases full : Full (s.buffer id).pins
  · rw [if_pos full]
    exact fun counted => absurd rfl counted
  · rw [if_neg full]
    exact fun _ => rfl

end Counted

section Draw
variable {request : DrawRequest} {prevalidated : Bool} {s : Scene}
  {E : Overflow → Scene → Prop} {Q : Unit → Scene → Prop}

theorem ensured (complete : (draw request prevalidated).breaksOff s = false)
    (h : SceneM.Ensures (fun t => t = s) (draw request prevalidated).perform Q E) :
    Q () ((draw request prevalidated).after s) := by
  have done := h s rfl
  revert done complete
  simp only [breaksOff, after, SceneM.after]
  cases (draw request prevalidated).perform s with
  | ok _ t => exact fun _ => id
  | error overflow t =>
    intro complete
    cases complete

theorem ensured_overflow (overflow : (draw request prevalidated).breaksOff s = true)
    (h : SceneM.Ensures (fun t => t = s) (draw request prevalidated).perform Q E) :
    ∃ cause, (draw request prevalidated).perform.exit s = .error cause ∧
      E cause ((draw request prevalidated).after s) := by
  have done := h s rfl
  revert done overflow
  simp only [breaksOff, after, SceneM.after, SceneM.exit]
  cases (draw request prevalidated).perform s with
  | ok _ t =>
    intro overflow
    cases overflow
  | error cause t => exact fun _ done => ⟨cause, rfl, done⟩

end Draw

end Operation

/-- A relation of scenes that each part of a draw stays in: work on pins, calls and bindings, what
goes before a public draw, and what an outline needs. -/
structure DrawFrame (R : Scene → Scene → Prop) : Prop extends PinFrame R where
  bind : BindFrame R
  alike {s t : Scene} : s.Alike t → R s t
  mark {s : Scene} {id : BufferId} : (s.buffer id).mapped = false →
    Full (s.buffer id).mapCount → R s (s.mark id)
  prepare (s : Scene) : R s (prepareDraw.after s)
  stage (s : Scene) (outline : List Segment) : R s ((s.stageOutline outline).2.setOutlines false)
  unstage (s : Scene) : R s (s.setOutlines true).popSource

namespace DrawFrame
variable {R : Scene → Scene → Prop} (frame : DrawFrame R)
include frame

open SceneM

theorem drawOutline (s : Scene) (outline : List Segment) :
    Ensures (fun t => t = s) (drawOutline drawLines outline) (fun _ => R s) fun _ => R s := by
  have staged := frame.stage s outline
  have drawn := ensures_iff_after.mpr (frame.toPinFrame.drawOnce frame.bind
    ((s.stageOutline outline).2.setOutlines false) (lineDraw outline (s.stageOutline outline).1) {})
  refine ensures_drawOutline (drawn.mono ?_ fun _ _ same => frame.trans staged same)
  exact fun _ t same => frame.trans (frame.trans staged same) (frame.unstage t)

theorem drawWith (s : Scene) (options : FlushOptions) (request : DrawRequest) :
    Ensures (R s) (drawWith options request) (fun _ => R s) fun _ => R s := by
  refine ensures_drawWith (M := R s) ?_ (fun t u alike same => frame.trans same
    (frame.alike alike)) (fun _ => id) ?_ fun outline => ?_
  · refine .of_each fun t same => ensures_iff_after.mpr (frame.trans same ?_)
    exact frame.toPinFrame.drawOnce frame.bind t request options
  · exact fun t u cause same cut => frame.trans same
      (cut.rel frame.alike frame.trans frame.mark)
  · refine .of_each fun t same => ?_
    exact (frame.drawOutline t outline).mono (fun _ _ => frame.trans same.1)
      fun _ _ => frame.trans same.1

theorem draw (s : Scene) (request : DrawRequest) (prevalidated : Bool) :
    R s ((Operation.draw request prevalidated).after s) := by
  cases prevalidated with
  | true => exact keeps_iff_ensures.mpr (frame.drawWith s {} request) s (frame.refl s)
  | false =>
    have prepared : Keeps (R s) prepareDraw := fun t same => frame.trans same (frame.prepare t)
    refine keeps_iff_ensures.mpr ?_ s (frame.refl s)
    exact (keeps_iff_ensures.mp prepared).bind fun options => frame.drawWith s options request

end DrawFrame

def Scene.run (s : Scene) (ops : List Operation) : Scene := ops.foldl (fun s op => op.after s) s

theorem run_snoc (s : Scene) (ops : List Operation) (op : Operation) :
    s.run (ops ++ [op]) = op.after (s.run ops) := by
  rw [Scene.run, List.foldl_append]
  rfl

def Along (p : Operation → Scene → Prop) : List Operation → Scene → Prop
  | [], _ => True
  | op :: ops, s => p op s ∧ Along p ops (op.after s)

instance decidableAlong {p : Operation → Scene → Prop} [∀ op s, Decidable (p op s)] :
    ∀ ops s, Decidable (Along p ops s)
  | [], _ => inferInstanceAs (Decidable True)
  | op :: ops, s =>
    have := decidableAlong (p := p) ops (op.after s)
    inferInstanceAs (Decidable (p op s ∧ Along p ops (op.after s)))

theorem along_append {p : Operation → Scene → Prop} (xs ys : List Operation) (s : Scene) :
    Along p (xs ++ ys) s ↔ Along p xs s ∧ Along p ys (s.run xs) := by
  induction xs generalizing s with
  | nil => simp only [List.nil_append, Along, true_and, Scene.run, List.foldl_nil]
  | cons op xs ih => simp only [List.cons_append, Along, ih, and_assoc, Scene.run, List.foldl_cons]

theorem Along.and {p q : Operation → Scene → Prop} {ops : List Operation} {s : Scene}
    (h : Along p ops s) (h' : Along q ops s) : Along (fun op s => p op s ∧ q op s) ops s := by
  induction ops generalizing s with
  | nil => trivial
  | cons op ops ih => exact ⟨⟨h.1, h'.1⟩, ih h.2 h'.2⟩

theorem Along.mono {p q : Operation → Scene → Prop} (weaker : ∀ op s, p op s → q op s)
    {ops : List Operation} {s : Scene} (along : Along p ops s) : Along q ops s := by
  induction ops generalizing s with
  | nil => trivial
  | cons op ops ih => exact ⟨weaker op s along.1, ih along.2⟩

/-- What holds before a run and is carried on by each operation holds after the run. -/
theorem run_induction {p : Operation → Scene → Prop} {I : List Operation → Scene → Prop}
    {s : Scene} (start : I [] s)
    (step : ∀ ops op, I ops (s.run ops) → p op (s.run ops) →
      I (ops ++ [op]) (op.after (s.run ops)))
    (ops : List Operation) (along : Along p ops s) : I ops (s.run ops) := by
  induction ops using List.reverseRecOn with
  | nil => exact start
  | append_singleton ops op ih =>
    obtain ⟨before, last⟩ := (along_append ops [op] s).mp along
    rw [run_snoc]
    exact step ops op (ih before) last.1

/-- A run with an outlined draw of four attributes and an indexed draw of one of them. -/
def sampleRun : List Operation :=
  [ .newBuffer (Array.replicate 36 0) (.device 16),
    .newBuffer #[0, 1, 2] .client,
    .newAttribute false ⟨0⟩ "strand_position_in" ⟨3, .float, 0, 0⟩,
    .newAttribute false ⟨0⟩ "strand_tex_coord3_in" ⟨2, .float, 12, 0⟩,
    .newAttribute true ⟨0⟩ "weight" ⟨1, .byte, 0, 4⟩,
    .changeSettings { debugFlags := DebugFlags.wireframe, backfaceCulling := true },
    .draw ⟨.triangleList, 0, 3, [⟨0⟩, ⟨1⟩, ⟨2⟩, ⟨1⟩], none⟩ false,
    .draw ⟨.triangleList, 0, 3, [⟨0⟩], some ⟨⟨1⟩, .uint8, 0⟩⟩ true ]

/-- The run goes on with a draw that overflows after one of its channels is set up. -/
def overflowingRun : List Operation :=
  sampleRun ++
    [ .newAttribute false ⟨0⟩ "strand_color_in" ⟨3, .float, 0, 18446744073709551615⟩,
      .draw ⟨.triangleList, 0, 3, [⟨1⟩, ⟨5⟩], none⟩ false ]

end DrawSubmission
