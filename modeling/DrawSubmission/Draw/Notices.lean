import DrawSubmission.Draw
import DrawSubmission.Scene.Notices
set_option autoImplicit false

namespace DrawSubmission
namespace Scene

section Silent
variable (s : Scene)

theorem log_enableTexUnit (unit : Fin 32) : (s.enableTexUnit unit).log = s.log := by
  unfold enableTexUnit
  split <;> rfl

theorem log_sweepTexUnits (stale : BitVec 32) : (s.sweepTexUnits stale).log = s.log := by
  fun_induction sweepTexUnits s stale with
  | case1 s => rfl
  | case2 s stale some ih => exact ih

theorem log_flushEnableFlags (flags : EnableFlags) : (s.flushEnableFlags flags).log = s.log := by
  refine List.foldlRecOn EnableFlags.capabilities _
    (motive := fun t : Scene => t.log = s.log) rfl fun t same capability _ => ?_
  split <;> exact same

theorem log_flushFrontFace : s.flushFrontFace.log = s.log := by
  simp only [flushFrontFace]
  split <;> rfl

end Silent

variable {kind : Notice → Bool}

theorem notices_disableStaleTexUnits
    (other : ∀ units, kind (.texCoordArraysDisabled units) = false) (s : Scene)
    (used : BitVec 32) : (s.disableStaleTexUnits used).notices kind = s.notices kind := by
  let stale := s.context.texUnits &&& ~~~used
  have noted : (if stale = 0 then s else s.note (.texCoordArraysDisabled stale)).notices kind =
      s.notices kind := by
    split
    · rfl
    · exact notices_note_of_not (other stale) s
  exact (notices_of_log (log_sweepTexUnits _ stale)).trans noted

section Derivation
variable (other : kind .copyDerived = false) (s : Scene)
include other

theorem notices_changeIf (needed : Bool) (d : Derivation) (f : Pipeline → Pipeline) :
    (d.changeIf needed f s).2.notices kind = s.notices kind := by
  unfold Derivation.changeIf Derivation.change
  cases needed with
  | false => rfl
  | true =>
    cases d.copy with
    | none => exact notices_note_of_not other s
    | some pipeline => rfl

theorem notices_derivePipeline (d : Derivation) (options : FlushOptions) :
    (s.derivePipeline d options).2.notices kind = s.notices kind := by
  simp only [derivePipeline]
  split <;> simp only [notices_changeIf other]

theorem notices_connect (setUp : SetUp) (a : VertexAttribute) (pointer : Pointer) :
    (s.connect setUp a pointer).2.notices kind = s.notices kind := by
  unfold connect
  cases a.role with
  | color => exact notices_changeIf other (s.record _) _ _ _
  | textureCoord unit => exact notices_of_log (log_enableTexUnit s unit)
  | position | normal | custom => rfl

end Derivation

section Channels
variable (other : ∀ notice, Notice.isOfChannels notice = true → kind notice = false) (s : Scene)
include other

theorem notices_flush (setUp : SetUp) (options : FlushOptions) :
    (s.flush setUp options).2.notices kind = s.notices kind := by
  have derived := notices_derivePipeline (other .copyDerived rfl)
    (s.disableStaleTexUnits setUp.usedTexUnits) setUp.derivation options
  simp only [flush]
  rw [notices_of_log (log_flushFrontFace _), notices_of_log (log_flushEnableFlags _ _)]
  exact derived.trans (notices_disableStaleTexUnits (fun units => other _ rfl) s _)

theorem notices_disableAttributes (attributes : List AttributeId) (flushed : FlushedPipeline) :
    (s.disableAttributes attributes flushed).notices kind = s.notices kind := by
  rw [disableAttributes_eq]
  split
  · exact notices_note_of_not (other .copyReleased rfl) s
  · rfl

open SceneM

theorem notices_setUpChannel (setUp : SetUp) (id : AttributeId) :
    (after (setUpChannel setUp id) s).notices kind = s.notices kind ++
      if (s.attr id).readable then []
      else [Notice.attributeSkipped (s.attr id).role (s.attr id).name
        (s.attr id).layout.type].filter kind := by
  have binding (notice : Notice) (h : notice.isBinding = true) : kind notice = false :=
    other notice (by cases notice <;> first | rfl | cases h)
  have bound : Keeps (fun t => t.notices kind = s.notices kind)
      (bindBuffer (s.attr id).buffer .vertexArray) :=
    fun t same => (notices_bindBuffer binding t _ _).trans same
  have connected : Keeps (fun t => t.notices kind = s.notices kind)
      (connectBound setUp (s.attr id)) := by
    intro t same
    simp only [connectBound, after]
    cases (s.attr id).pointer (t.buffer (s.attr id).buffer).base with
    | error overflow => exact same
    | ok pointer =>
      have told := (notices_connect (other .copyDerived rfl) t setUp (s.attr id) pointer).trans same
      dsimp only
      split <;> rename_i outcome <;> split at outcome <;> cases outcome
      · exact (notices_unbind binding _ _).trans told
      · exact told
  unfold after
  cases readable : (s.attr id).readable with
  | true =>
    rw [setUpChannel_of_readable setUp readable, if_pos rfl, List.append_nil]
    exact bound.bind (fun _ => connected) s rfl
  | false =>
    rw [setUpChannel_of_unreadable setUp readable, if_neg Bool.false_ne_true]
    rw [List.filter_cons, List.filter_nil]
    exact notices_note s _

end Channels

end Scene

open SceneM
variable {kind : Notice → Bool}

section Channels
variable (other : ∀ notice, Notice.isOfChannels notice = true → kind notice = false) (s : Scene)
include other

theorem notices_issue (request : DrawRequest) :
    ((issue request).after s).notices kind = s.notices kind := by
  have binding (notice : Notice) (h : notice.isBinding = true) : kind notice = false :=
    other notice (by cases notice <;> first | rfl | cases h)
  unfold issue
  cases request.indices with
  | none => rfl
  | some indices =>
    have bound : Keeps (fun t => t.notices kind = s.notices kind)
        (bindBuffer indices.buffer .indexArray) :=
      fun t same => (Scene.notices_bindBuffer binding t _ _).trans same
    have issued : Keeps (fun t => t.notices kind = s.notices kind)
        (issueBound request indices) := by
      intro t same
      simp only [issueBound, after]
      cases indices.address (t.buffer indices.buffer).base request.first with
      | error overflow => exact same
      | ok offset => exact (Scene.notices_unbind binding _ _).trans same
    exact bound.bind (fun _ => issued) s rfl

end Channels

theorem keeps_notices_withMapping {α : Type} {notices : List Notice} (buffer : BufferId)
    {body : Mapping → SceneM (Except ResourceError α)}
    (h : ∀ mapping, Keeps (fun t => t.notices kind = notices) (body mapping)) :
    Keeps (fun t => t.notices kind = notices) (withMapping buffer body) := by
  refine (keeps_mapBuffer (fun _ _ _ same => same) buffer .read).bind fun mapped => ?_
  cases mapped with
  | error error => exact .pure _
  | ok mapping =>
    intro s same
    rw [after_thenAlways]
    exact h mapping s same

theorem keeps_settle {α : Type} {P : Scene → Prop} (fetched : Except FetchError α) :
    Keeps P (settle fetched) := by
  rcases fetched with (cause | error) | a <;> exact fun _ => id

section Validation
variable (other : ∀ notice, Notice.isOfValidation notice = true → kind notice = false)
  (notices : List Notice)
include other

theorem keeps_notices_validateLayers (pipeline : Pipeline) (start : LayerValidation)
    (layers : List UInt32) : Keeps (fun t => t.notices kind = notices)
      (layers.foldlM (LayerValidation.validateLayer pipeline) start) :=
  LayerValidation.keeps_validateLayers
    (fun t id same => (Scene.notices_leaveAtlas t (other _ rfl) id).trans same)
    (fun t id same => (Scene.notices_prepareMipmaps t (other _ rfl) id).trans same)
    (fun t _ same => (Scene.notices_note_of_not (other _ rfl) t).trans same)
    pipeline start layers

theorem keeps_notices_prepareDraw : Keeps (fun t => t.notices kind = notices) prepareDraw :=
  keeps_prepareDraw (fun _ _ same => same) fun pipeline =>
    keeps_notices_validateLayers other notices pipeline {} _

end Validation

section Draws
variable (other : ∀ notice, Notice.isOfDraws notice = true → kind notice = false)
  (notices : List Notice)
include other

theorem keeps_notices_enableAttributes (attributes : List AttributeId) (options : FlushOptions) :
    Keeps (fun t => t.notices kind = notices) (enableAttributes attributes options) := by
  have channels (notice : Notice) (h : notice.isOfChannels = true) : kind notice = false :=
    other notice (Notice.isOfDraws_of_isOfChannels h)
  refine Keeps.get.bind fun u => Keeps.bind ?_ fun setUp => Keeps.modifyGet fun t same => ?_
  · refine Keeps.foldlM (fun setUp id t same => ?_) attributes _
    rw [Scene.notices_setUpChannel channels, same]
    split
    · exact List.append_nil notices
    · rw [List.filter_cons, other _ rfl, if_neg Bool.false_ne_true, List.filter_nil,
        List.append_nil]
  · exact (Scene.notices_flush channels t setUp options).trans same

theorem keeps_notices_drawOnce (request : DrawRequest) (options : FlushOptions) :
    Keeps (fun t => t.notices kind = notices) (drawOnce request options) := by
  have channels (notice : Notice) (h : notice.isOfChannels = true) : kind notice = false :=
    other notice (Notice.isOfDraws_of_isOfChannels h)
  have pinned (notices : List Notice) :
      Keeps (fun t => t.notices kind = notices) (drawPinned request options) := by
    rw [drawPinned_counted]
    refine (keeps_notices_enableAttributes other notices request.attributes options).bind ?_
    intro flushed
    refine Keeps.bind (fun t same => (notices_issue channels t request).trans same) fun _ => ?_
    exact .modify fun t same =>
      (Scene.notices_disableAttributes channels t request.attributes flushed).trans same
  have frame : PinFrame fun s t => t.notices kind = s.notices kind :=
    Scene.notices_pinFrame fun _ => other _ rfl
  intro s same
  exact (frame.withPins s (fun t => pinned _ t rfl) request.attributes).trans same

theorem keeps_notices_reconstruct (position : AttributeId) (topology : Topology)
    (first count : UInt32) (indices : Option Indices) :
    Keeps (fun t => t.notices kind = notices)
      (reconstruct position topology first count indices) := by
  refine Keeps.get.bind fun s => ?_
  dsimp only
  split
  · exact .pure _
  split
  · exact Keeps.bind (.modify fun t same => (Scene.notices_note_of_not (other _ rfl) t).trans same)
      fun _ => .pure _
  · refine keeps_notices_withMapping _ fun vertices => ?_
    cases indices with
    | none => exact keeps_settle _
    | some indices => exact keeps_notices_withMapping _ fun mapped => keeps_settle _

theorem keeps_notices_drawOutline (outline : List Segment) :
    Keeps (fun t => t.notices kind = notices) (drawOutline drawLines outline) := by
  intro s same
  have staged : ((s.stageOutline outline).2.setOutlines false).notices kind = notices := by
    simp only [Scene.stageOutline, Scene.wirePipeline]
    split <;> exact same
  have drawn := keeps_notices_drawOnce other notices
    (lineDraw outline (s.stageOutline outline).1) {} _ staged
  revert drawn
  simp only [after, drawOutline, drawLines]
  cases drawOnce (lineDraw outline (s.stageOutline outline).1) {}
    ((s.stageOutline outline).2.setOutlines false) <;> exact id

theorem keeps_notices_drawWith (options : FlushOptions) (request : DrawRequest) :
    Keeps (fun t => t.notices kind = notices) (drawWith options request) := by
  have noted (error : ResourceError) : Keeps (fun t => t.notices kind = notices)
      (modify fun s => s.note (.overlaySkipped error) : SceneM Unit) :=
    .modify fun t same => (Scene.notices_note_of_not (other _ rfl) t).trans same
  rw [drawWith_eq]
  refine (keeps_notices_drawOnce other notices request options).bind fun _ => ?_
  refine Keeps.get.bind fun s => ?_
  split
  · refine Keeps.get.bind fun s => ?_
    split
    · exact .pure ()
    · refine (keeps_notices_reconstruct other notices _ _ _ _ _).bind fun read => ?_
      rcases read with error | _ | ⟨segment, rest⟩
      · exact noted error
      · exact .pure ()
      · exact keeps_notices_drawOutline other notices (segment :: rest)
  · exact .pure ()

theorem keeps_notices_draw (request : DrawRequest) :
    Keeps (fun t => t.notices kind = notices) (draw request) := by
  have validation (notice : Notice) (h : notice.isOfValidation = true) : kind notice = false :=
    other notice (Notice.isOfDraws_of_isOfValidation h)
  exact (keeps_notices_prepareDraw validation notices).bind fun options =>
    keeps_notices_drawWith other notices options request

end Draws

end DrawSubmission
