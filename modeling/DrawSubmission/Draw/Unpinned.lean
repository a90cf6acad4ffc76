import DrawSubmission.Draw.Kept
import DrawSubmission.Draw.Unseen
set_option autoImplicit false

/-!
# Scenes up to pins and skipped attributes

Two scenes may differ in pins, also in those that draw calls were made under, and in the notices of
skipped attributes. An attribute that is skipped makes no other difference to the walk over the
attributes of a draw.
-/
namespace DrawSubmission

def Moment.unpinned (moment : Moment) : Moment :=
  { moment with pins := [], attributePins := moment.attributePins.map fun _ => 0 }

def DriverCall.unpinned (call : DriverCall) : DriverCall :=
  match call with
  | drawArrays topology first count during => drawArrays topology first count during.unpinned
  | drawElements topology count format buffer offset during =>
    drawElements topology count format buffer offset during.unpinned
  | call => call

def Notice.isSkip : Notice → Bool
  | attributeSkipped .. => true
  | _ => false

def Notice.isOther (notice : Notice) : Bool := !notice.isSkip

namespace Scene

/-- The scene without pins and without the notices of skipped attributes. -/
def unpinned (s : Scene) : Scene :=
  { s with
    buffers := s.buffers.map fun b => { b with pins := 0 }
    attributes := s.attributes.map fun a => { a with pins := 0 }
    calls := s.calls.map DriverCall.unpinned
    log := s.log.filter Notice.isOther }

variable (s : Scene)

theorem attr_unpinned (id : AttributeId) : s.unpinned.attr id = { s.attr id with pins := 0 } := by
  rw [attr, unpinned, Array.getD_eq_getD_getElem?, Array.getElem?_map, attr,
    Array.getD_eq_getD_getElem?]
  exact Option.getD_map (fun a : VertexAttribute => { a with pins := 0 }) default _

theorem buffer_unpinned (id : BufferId) :
    s.unpinned.buffer id = { s.buffer id with pins := 0 } := by
  simp only [buffer, unpinned, Array.getD_eq_getD_getElem?, Array.getElem?_map]
  cases s.buffers[id.index]? <;> rfl

theorem unpinned_setAttr (id : AttributeId) (a : VertexAttribute) :
    (s.setAttr id a).unpinned = s.unpinned.setAttr id { a with pins := 0 } := by
  simp only [unpinned, setAttr, Array.map_setIfInBounds]

theorem unpinned_setBuffer (id : BufferId) (b : Buffer) :
    (s.setBuffer id b).unpinned = s.unpinned.setBuffer id { b with pins := 0 } := by
  simp only [unpinned, setBuffer, Array.map_setIfInBounds]

theorem unpinned_setPins (id : BufferId) (pins : Nat) :
    (s.setBuffer id { s.buffer id with pins }).unpinned = s.unpinned := by
  rw [unpinned_setBuffer, ← buffer_unpinned, setBuffer_buffer]

theorem unpinned_setAttrPins (id : AttributeId) (pins : Nat) :
    (s.setAttr id { s.attr id with pins }).unpinned = s.unpinned := by
  rw [unpinned_setAttr, ← attr_unpinned, setAttr_attr]

theorem unpinned_acquire (id : AttributeId) : (s.acquire id).unpinned = s.unpinned :=
  (unpinned_setPins (s.setAttr id _) _ _).trans (unpinned_setAttrPins s id _)

theorem unpinned_note {notice : Notice} (other : notice.isSkip = false) :
    s.unpinned.note notice = (s.note notice).unpinned := by
  have kept : notice.isOther = true := by rw [Notice.isOther, other, Bool.not_false]
  simp [note, unpinned, kept]

theorem unpinned_skip (role : Role) (name : String) (type : ComponentType) :
    (s.note (.attributeSkipped role name type)).unpinned = s.unpinned := by
  have dropped : (Notice.attributeSkipped role name type).isOther = false := rfl
  simp [note, unpinned, dropped]

theorem moment_unpinned : s.unpinned.moment = s.moment.unpinned := by
  have pins : s.unpinned.moment.pins = [] := by
    simp only [moment, unpinned, Array.toList_map, List.zipIdx_map, List.filterMap_map]
    exact List.filterMap_eq_nil_iff.mpr fun x _ => rfl
  have bound : s.unpinned.moment.bound = s.moment.bound := by
    simp only [moment, unpinned, Array.toList_map, List.zipIdx_map, List.filterMap_map]
    rfl
  have attributePins : s.unpinned.moment.attributePins = s.moment.attributePins.map fun _ => 0 := by
    simp only [moment, unpinned, Array.toList_map, List.map_map]
    rfl
  have whole : s.unpinned.moment =
      ⟨s.unpinned.moment.pins, s.unpinned.moment.bound, s.unpinned.moment.attributePins⟩ := rfl
  rw [whole, pins, bound, attributePins, Moment.unpinned]

/-- Channels and draw calls do not see pins or which attributes were skipped. -/
theorem unseen_unpinned : Unseen unpinned where
  attr s id := ⟨0, s.attr_unpinned id⟩
  buffer s id := ⟨0, s.buffer_unpinned id⟩
  context _ := ⟨{}, rfl⟩
  record s call := by
    have made : call.madeAt s.unpinned.moment = (call.madeAt s.moment).unpinned := by
      rw [moment_unpinned]
      cases call <;> rfl
    rw [made]
    simp [record, unpinned]
  note s notice h := by
    refine s.unpinned_note ?_
    cases notice <;> first | rfl | cases h
  rebind s id bound bindCount := by
    rw [unpinned_setBuffer, buffer_unpinned]
  setTexUnits _ _ := rfl
  setEnableFlags _ _ := rfl
  setFrontFace _ _ := rfl

end Scene

open SceneM Scene

section Walk
variable {s t : Scene}

theorem attr_unpinned_congr (same : s.unpinned = t.unpinned) (id : AttributeId) :
    ∃ pins, t.attr id = { s.attr id with pins } := by
  have here := congrArg (fun u : Scene => u.attr id) same
  simp only [attr_unpinned] at here
  refine ⟨(t.attr id).pins, ?_⟩
  have back : { { t.attr id with pins := 0 } with pins := (t.attr id).pins } = t.attr id := rfl
  rw [← back, ← here]

theorem through_setUpChannel (same : s.unpinned = t.unpinned) (setUp : SetUp) {id : AttributeId}
    (readable : (s.attr id).readable = true) :
    through unpinned (setUpChannel setUp id s) = through unpinned (setUpChannel setUp id t) := by
  obtain ⟨pins, here⟩ := attr_unpinned_congr same id
  have readable' : (t.attr id).readable = true := by rwa [here]
  rw [← unseen_unpinned.setUpChannel s setUp readable, same,
    unseen_unpinned.setUpChannel t setUp readable']

/-- Skipped attributes make no difference to the walk but the notices that they are skipped. -/
theorem through_walk {attributes : List AttributeId} {reads : AttributeId → Bool} (setUp : SetUp)
    (h : ∀ id, reads id = (s.attr id).readable) (same : s.unpinned = t.unpinned) :
    through unpinned (attributes.foldlM setUpChannel setUp s) =
      through unpinned ((attributes.filter reads).foldlM setUpChannel setUp t) := by
  induction attributes generalizing setUp s t with
  | nil =>
    rw [List.filter_nil]
    exact congrArg (EStateM.Result.ok setUp) same
  | cons id attributes ih =>
    rw [List.foldlM_cons]
    cases readable : (s.attr id).readable with
    | true =>
      have kept : reads id = true := (h id).trans readable
      rw [List.filter_cons_of_pos kept, List.foldlM_cons]
      refine through_bind (through_setUpChannel same setUp readable) ?_
      intro next u v left _ reached
      have unchanged := kept_setUpChannel s setUp id
      rw [after_of_ok left] at unchanged
      apply ih next _ reached
      intro other
      rw [h, attr_eq_of_kept unchanged]
    | false =>
      have dropped : ¬ reads id = true := by simp [h, readable]
      rw [List.filter_cons_of_neg dropped]
      let skipped := s.note (.attributeSkipped (s.attr id).role (s.attr id).name
        (s.attr id).layout.type)
      have skips : (setUpChannel setUp id >>= fun next => attributes.foldlM setUpChannel next) s =
          attributes.foldlM setUpChannel setUp skipped := by
        change EStateM.bind _ _ s = _
        rw [EStateM.bind, setUpChannel_of_unreadable setUp readable]
      rw [skips]
      exact ih setUp h ((unpinned_skip s _ _ _).trans same)

theorem through_enableAttributes {attributes : List AttributeId} {reads : AttributeId → Bool}
    (options : FlushOptions) (h : ∀ id, reads id = (s.attr id).readable)
    (same : s.unpinned = t.unpinned) :
    through unpinned (enableAttributes attributes options s) =
      through unpinned (enableAttributes (attributes.filter reads) options t) := by
  have source : s.context.source = t.context.source :=
    (congrArg (fun u : Scene => u.context.source) same :)
  have start : through unpinned (attributes.foldlM setUpChannel
      { derivation := { source := s.context.source } } s) =
      through unpinned ((attributes.filter reads).foldlM setUpChannel
        { derivation := { source := t.context.source } } t) := by
    rw [source]
    exact through_walk _ h same
  apply through_bind start
  intro setUp u v _ _ reached
  have flushed : Commutes (modifyGet fun w : Scene => w.flush setUp options) unpinned :=
    .modifyGet fun w => unseen_unpinned.flush w setUp options
  exact flushed.through reached

end Walk

/-- A draw as far as its draw call. -/
def drawLead (request : DrawRequest) (options : FlushOptions) : SceneM FlushedPipeline := do
  let flushed ← enableAttributes request.attributes options
  issue request
  return flushed

theorem drawPinned_eq (s : Scene) (request : DrawRequest) (options : FlushOptions) :
    drawPinned request options s =
      match drawLead request options s with
      | .ok flushed t => .ok () (t.disableAttributes request.attributes flushed)
      | .error overflow t => .error overflow t := by
  have parts : drawPinned request options = (do
      let flushed ← drawLead request options
      modify fun s => s.disableAttributes request.attributes flushed) := by
    simp only [drawPinned_counted, drawLead, bind_assoc, pure_bind]
  rw [parts]
  change EStateM.bind (drawLead request options) _ s = _
  unfold EStateM.bind
  cases drawLead request options s <;> rfl

def Scene.readables (s : Scene) (attributes : List AttributeId) : List AttributeId :=
  attributes.filter fun id => (s.attr id).readable

/-- The same draw without the attributes that it skips. -/
def DrawRequest.trimmed (request : DrawRequest) (s : Scene) : DrawRequest :=
  { request with attributes := s.readables request.attributes }

theorem through_drawLead {s t u : Scene} (request : DrawRequest) (options : FlushOptions)
    (h : ∀ id, (u.attr id).readable = (s.attr id).readable) (same : s.unpinned = t.unpinned) :
    through unpinned (drawLead request options s) =
      through unpinned (drawLead (request.trimmed u) options t) := by
  apply through_bind (through_enableAttributes options h same)
  intro flushed v w _ _ reached
  apply through_bind ((unseen_unpinned.issue request).through reached)
  intro _ v w _ _ reached
  exact congrArg (EStateM.Result.ok flushed) reached

end DrawSubmission
