import DrawSubmission.Channels
import DrawSubmission.Draw.TearDown
import DrawSubmission.Scene.Kept
import DrawSubmission.Scene.Outcome
import DrawSubmission.Scene.Pins
set_option autoImplicit false

namespace DrawSubmission
namespace Scene

theorem still_changeIf (needed : Bool) (d : Derivation) (f : Pipeline → Pipeline) (s : Scene) :
    (d.changeIf needed f s).2.still = s.still := by
  unfold Derivation.changeIf Derivation.change
  cases needed with
  | false => rfl
  | true =>
    cases d.copy with
    | none => exact still_note rfl
    | some pipeline => rfl

theorem still_derivePipeline (s : Scene) (d : Derivation) (options : FlushOptions) :
    (s.derivePipeline d options).2.still = s.still := by
  simp only [derivePipeline]
  split <;> simp only [still_changeIf]

theorem still_enableTexUnit (s : Scene) (unit : Fin 32) :
    (s.enableTexUnit unit).still = s.still := by
  unfold enableTexUnit
  split <;> rfl

theorem still_sweepTexUnits (s : Scene) (stale : BitVec 32) :
    (s.sweepTexUnits stale).still = s.still := by
  fun_induction sweepTexUnits s stale with
  | case1 s => rfl
  | case2 s stale some ih => exact ih

theorem still_disableStaleTexUnits (s : Scene) (used : BitVec 32) :
    (s.disableStaleTexUnits used).still = s.still := by
  let stale := s.context.texUnits &&& ~~~used
  have noted :
      (if stale = 0 then s else s.note (.texCoordArraysDisabled stale)).still = s.still := by
    split
    · rfl
    · exact still_note rfl
  exact (still_sweepTexUnits _ stale).trans noted

theorem still_flushEnableFlags (s : Scene) (flags : EnableFlags) :
    (s.flushEnableFlags flags).still = s.still := by
  refine List.foldlRecOn EnableFlags.capabilities _
    (motive := fun t : Scene => t.still = s.still) rfl fun t same capability _ => ?_
  split <;> exact same

theorem still_flushFrontFace (s : Scene) : s.flushFrontFace.still = s.still := by
  simp only [flushFrontFace]
  split <;> rfl

theorem still_connect (s : Scene) (setUp : SetUp) (a : VertexAttribute) (pointer : Pointer) :
    (s.connect setUp a pointer).2.still = s.still := by
  unfold connect
  cases a.role with
  | color => exact still_changeIf _ _ _ (s.record _)
  | textureCoord unit => exact still_enableTexUnit s unit
  | position | normal | custom => rfl

theorem still_flush (s : Scene) (setUp : SetUp) (options : FlushOptions) :
    (s.flush setUp options).2.still = s.still := by
  have recorded (t : Scene) (call : DriverCall) : (t.record call).still = t.still := rfl
  simp only [flush, still_flushFrontFace, still_flushEnableFlags, recorded, still_derivePipeline,
    still_disableStaleTexUnits]

theorem still_disableAttributes (s : Scene) (attributes : List AttributeId)
    (flushed : FlushedPipeline) : (s.disableAttributes attributes flushed).still = s.still := by
  have noted : (s.note .copyReleased).still = s.still := still_note rfl
  rw [disableAttributes_eq]
  split
  · exact noted
  · rfl

theorem kept_connect (s : Scene) (setUp : SetUp) (a : VertexAttribute) (pointer : Pointer) :
    (s.connect setUp a pointer).2.kept = s.kept :=
  kept_of_still (still_connect s setUp a pointer)

theorem kept_flush (s : Scene) (setUp : SetUp) (options : FlushOptions) :
    (s.flush setUp options).2.kept = s.kept :=
  kept_of_still (still_flush s setUp options)

theorem kept_disableAttributes (s : Scene) (attributes : List AttributeId)
    (flushed : FlushedPipeline) : (s.disableAttributes attributes flushed).kept = s.kept :=
  kept_of_still (still_disableAttributes s attributes flushed)

end Scene

open SceneM

namespace BindFrame
variable {R : Scene → Scene → Prop} (frame : BindFrame R) (s : Scene)
include frame

theorem record (call : DriverCall) : R s (s.record call) := frame.of_still rfl

theorem connectBound (setUp : SetUp) (a : VertexAttribute) :
    R s ((Scene.connectBound setUp a).after s) := by
  simp only [Scene.connectBound, after]
  cases a.pointer (s.buffer a.buffer).base with
  | error overflow => exact frame.refl s
  | ok pointer =>
    have connected := frame.of_still (Scene.still_connect s setUp a pointer)
    dsimp only
    by_cases spent : largestCount < (s.connect setUp a pointer).1.generic
    · simp only [spent, ↓reduceIte]
      exact connected
    · simp only [spent, ↓reduceIte]
      exact frame.trans connected (frame.unbind _ a.buffer)

theorem setUpChannel (setUp : SetUp) (id : AttributeId) :
    R s (after (Scene.setUpChannel setUp id) s) := by
  have keeps : Keeps (R s) (Scene.setUpChannel setUp id) := by
    refine Keeps.get.bind fun t => ?_
    dsimp only
    split
    · exact (frame.keeps s (frame.bindBuffer · _ _)).bind fun _ =>
        frame.keeps s (frame.connectBound · setUp _)
    · refine Keeps.bind (.modify fun u same => ?_) fun _ => .pure setUp
      exact frame.trans same (frame.of_still (Scene.still_note rfl))
  exact keeps s (frame.refl s)

theorem enableAttributes (attributes : List AttributeId) (options : FlushOptions) :
    R s ((enableAttributes attributes options).after s) := by
  have keeps : Keeps (R s) (DrawSubmission.enableAttributes attributes options) := by
    refine Keeps.get.bind fun u => Keeps.bind ?_ fun setUp => Keeps.modifyGet ?_
    · exact Keeps.foldlM (fun setUp id => frame.keeps s (frame.setUpChannel · setUp id))
        attributes _
    · intro t same
      exact frame.trans same (frame.of_still (Scene.still_flush t setUp options))
  exact keeps s (frame.refl s)

theorem issueBound (request : DrawRequest) (indices : Indices) :
    R s ((issueBound request indices).after s) := by
  simp only [DrawSubmission.issueBound, after]
  cases indices.address (s.buffer indices.buffer).base request.first with
  | error overflow => exact frame.refl s
  | ok offset => exact frame.trans (frame.record s _) (frame.unbind _ indices.buffer)

theorem issue (request : DrawRequest) : R s ((issue request).after s) := by
  unfold DrawSubmission.issue
  cases request.indices with
  | none => exact frame.record s _
  | some indices =>
    have keeps := (frame.keeps s (frame.bindBuffer · indices.buffer .indexArray)).bind
      fun _ => frame.keeps s (frame.issueBound · request indices)
    exact keeps s (frame.refl s)

end BindFrame

theorem kept_connectBound (s : Scene) (setUp : SetUp) (a : VertexAttribute) :
    ((Scene.connectBound setUp a).after s).kept = s.kept :=
  Scene.kept_bindFrame.connectBound s setUp a

theorem kept_setUpChannel (s : Scene) (setUp : SetUp) (id : AttributeId) :
    (after (Scene.setUpChannel setUp id) s).kept = s.kept :=
  Scene.kept_bindFrame.setUpChannel s setUp id

theorem kept_enableAttributes (s : Scene) (attributes : List AttributeId) (options : FlushOptions) :
    ((enableAttributes attributes options).after s).kept = s.kept :=
  Scene.kept_bindFrame.enableAttributes s attributes options

theorem kept_issue (s : Scene) (request : DrawRequest) :
    ((issue request).after s).kept = s.kept :=
  Scene.kept_bindFrame.issue s request

theorem counted_setUpChannel (s : Scene) (done : List AttributeId) (setUp : SetUp)
    (id : AttributeId) :
    Ensures (fun t => t.kept = s.kept ∧ setUp.generic = s.customs done ∧
        s.customs done ≤ largestCount) (Scene.setUpChannel setUp id)
      (fun next t => t.kept = s.kept ∧ next.generic = s.customs (done ++ [id]) ∧
        s.customs (done ++ [id]) ≤ largestCount) fun _ _ => True := by
  rintro t ⟨kept, counted, few⟩
  have same : t.attr id = s.attr id := Scene.attr_eq_of_kept kept id
  have grows : s.customs (done ++ [id]) = s.customs done + s.customs [id] := List.countP_append
  cases readable : (s.attr id).readable with
  | false =>
    have none : s.customs [id] = 0 := by
      refine List.countP_eq_zero.mpr (List.forall_mem_singleton.mpr fun custom => ?_)
      rw [VertexAttribute.readable, beq_iff_eq.mp custom] at readable
      cases readable
    rw [Scene.setUpChannel_of_unreadable setUp (same ▸ readable), grows, none]
    exact ⟨kept, counted, few⟩
  | true =>
    rw [Scene.setUpChannel_of_readable setUp (same ▸ readable), same]
    have bound : Ensures (fun u => u = t) (bindBuffer (s.attr id).buffer .vertexArray)
        (fun _ u => u.kept = s.kept) fun _ _ => True := by
      refine (bindBuffer_ensures t _ _).mono ?_ fun _ _ _ => trivial
      rintro _ _ rfl
      exact (Scene.kept_bind ..).trans kept
    refine bound.bind (fun _ u still => ?_) t rfl
    have connected := kept_connectBound u setUp (s.attr id)
    revert connected
    simp only [Scene.connectBound, after]
    cases (s.attr id).pointer (u.buffer (s.attr id).buffer).base with
    | error cause => exact fun _ => trivial
    | ok pointer =>
      have next : (u.connect setUp (s.attr id) pointer).1.generic =
          s.customs (done ++ [id]) := by
        rw [grows, ← counted]
        unfold Scene.connect Scene.customs
        cases role : (s.attr id).role <;> simp [role]
      dsimp only
      by_cases spent : largestCount < (u.connect setUp (s.attr id) pointer).1.generic
      · simp only [spent, ↓reduceIte, implies_true]
      · simp only [spent, ↓reduceIte]
        exact fun connected => ⟨connected.trans still, next, next ▸ Nat.le_of_not_lt spent⟩

theorem counted_enableAttributes (s : Scene) (attributes : List AttributeId)
    (options : FlushOptions) :
    Ensures (fun t => t = s) (enableAttributes attributes options)
      (fun _ t => t.kept = s.kept ∧ s.customs attributes ≤ largestCount) fun _ _ => True := by
  refine .get_bind fun u same => ?_
  subst u
  have start : Ensures (fun t => t = s)
      (attributes.foldlM Scene.setUpChannel { derivation := { source := s.context.source } })
      (fun _ t => t.kept = s.kept ∧ s.customs attributes ≤ largestCount) fun _ _ => True := by
    refine .of_each fun t same => ?_
    subst t
    have loop := Ensures.foldlM (f := Scene.setUpChannel) (E := fun _ _ => True)
      (I := fun done (setUp : SetUp) t => t.kept = s.kept ∧ setUp.generic = s.customs done ∧
        s.customs done ≤ largestCount) attributes []
      { derivation := { source := s.context.source } }
      fun done id _ setUp _ => counted_setUpChannel s done setUp id
    intro t same
    subst t
    exact (loop.mono (fun _ t done => ⟨done.1, done.2.2⟩) fun _ _ => id) s
      ⟨rfl, rfl, Nat.zero_le _⟩
  refine start.bind fun setUp t ⟨kept, few⟩ => ?_
  exact ⟨(Scene.kept_flush t setUp options).trans kept, few⟩

/-- A draw that has set its channels up can count them when it tears them down. -/
theorem drawPinned_counted (request : DrawRequest) (options : FlushOptions) :
    drawPinned request options = (do
      let flushed ← enableAttributes request.attributes options
      issue request
      modify fun s => s.disableAttributes request.attributes flushed) := by
  funext s
  refine (counted_enableAttributes s request.attributes options).bind_congr
    fun flushed t ⟨kept, few⟩ => ?_
  have issued : Ensures (fun u => u = t) (issue request)
      (fun _ u => u.kept = t.kept) fun _ u => u.kept = t.kept :=
    ensures_iff_after.mpr (kept_issue t request)
  refine issued.bind_congr fun _ u still => ?_
  have same : u.customs request.attributes = s.customs request.attributes := by
    simp only [Scene.customs, Scene.attr_eq_of_kept (still.trans kept)]
  exact tearDown_of_customs u (same ▸ few) flushed

theorem BindFrame.drawPinned {R : Scene → Scene → Prop} (frame : BindFrame R) (s : Scene)
    (request : DrawRequest) (options : FlushOptions) :
    R s ((drawPinned request options).after s) := by
  have keeps : Keeps (R s) (DrawSubmission.drawPinned request options) := by
    rw [drawPinned_counted]
    refine Keeps.bind ?_ fun flushed => Keeps.bind ?_ fun _ => Keeps.modify ?_
    · exact frame.keeps s (frame.enableAttributes · request.attributes options)
    · exact frame.keeps s (frame.issue · request)
    · exact fun t same => frame.trans same
        (frame.of_still (Scene.still_disableAttributes t request.attributes flushed))
  exact keeps s (frame.refl s)

theorem kept_drawPinned (s : Scene) (request : DrawRequest) (options : FlushOptions) :
    ((drawPinned request options).after s).kept = s.kept :=
  Scene.kept_bindFrame.drawPinned s request options

/-- A draw of existing attributes keeps the scene, pins included, if it can count them. -/
theorem kept_drawOnce (s : Scene) (request : DrawRequest) (options : FlushOptions)
    (h : ∀ id ∈ request.attributes, id.index < s.attributes.size) :
    Ensures (fun t => t = s) (drawOnce request options) (fun _ t => t.kept = s.kept)
      fun cause t => cause = .count ∨ t.kept = s.kept := by
  let pinned := request.attributes.foldl Scene.acquire s
  have dropped (t : Scene) (same : t.kept = pinned.kept) :
      (request.attributes.foldl Scene.dropPin t).kept = s.kept := by
    apply Scene.kept_foldl_dropPin request.attributes h
    rw [same, ← Scene.foldl_acquire s request.attributes h]
  have drawn : Ensures (fun t => t = pinned) (drawPinned request options)
      (fun _ t => t.kept = pinned.kept) fun _ t => t.kept = pinned.kept :=
    ensures_iff_after.mpr (kept_drawPinned pinned request options)
  refine ensures_withPins ?_ (.inl rfl)
  exact drawn.mono (fun _ => dropped) fun _ t same => .inr (dropped t same)

theorem PinFrame.drawOnce {R : Scene → Scene → Prop} (frame : PinFrame R) (bind : BindFrame R)
    (s : Scene) (request : DrawRequest) (options : FlushOptions) :
    R s ((drawOnce request options).after s) :=
  frame.withPins s (bind.drawPinned · request options) request.attributes

theorem PinFrame.bindFrame {R : Scene → Scene → Prop} (frame : PinFrame R)
    (of_kept : ∀ {s t}, Scene.kept t = Scene.kept s → R s t) : BindFrame R where
  refl := frame.refl
  trans := frame.trans
  of_still h := of_kept (Scene.kept_of_still h)
  setBinding s id bound bindCount := of_kept (Scene.kept_bindFrame.setBinding s id bound bindCount)
  note s _ binding := of_kept (Scene.kept_bindFrame.note s binding)

theorem settings_drawOnce (s : Scene) (request : DrawRequest) (options : FlushOptions) :
    ((drawOnce request options).after s).context.settings = s.context.settings := by
  have frame : PinFrame fun s t => t.context.settings = s.context.settings :=
    ⟨fun _ => rfl, fun h h' => h'.trans h, fun _ _ _ => rfl, fun _ _ _ => rfl, fun _ _ => rfl⟩
  exact frame.drawOnce (frame.bindFrame Scene.settings_eq_of_kept) s request options

theorem size_foldl_acquire (s : Scene) (ids : List AttributeId) :
    (ids.foldl Scene.acquire s).buffers.size = s.buffers.size :=
  Scene.size_frame.pins.foldl s Scene.size_frame.pins.acquire ids

theorem size_drawOnce (s : Scene) (request : DrawRequest) (options : FlushOptions) :
    ((drawOnce request options).after s).buffers.size = s.buffers.size :=
  Scene.size_frame.pins.drawOnce (Scene.size_frame.pins.bindFrame Scene.buffers_size_eq_of_kept) s
    request options

theorem mapCounts_drawOnce (s : Scene) (request : DrawRequest) (options : FlushOptions) :
    ((drawOnce request options).after s).mapCounts = s.mapCounts :=
  Scene.mapCounts_pinFrame.drawOnce Scene.mapCounts_bindFrame s request options

end DrawSubmission
