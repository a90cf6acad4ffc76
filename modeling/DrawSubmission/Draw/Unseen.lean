import DrawSubmission.Channels
import DrawSubmission.Scene.Guise
import DrawSubmission.Scene.Notices
set_option autoImplicit false

namespace DrawSubmission

def DriverCall.madeAt (call : DriverCall) (moment : Moment) : DriverCall :=
  match call with
  | drawArrays topology first count _ => drawArrays topology first count moment
  | drawElements topology count format buffer offset _ =>
    drawElements topology count format buffer offset moment
  | call => call

/-- A change of the scene that is not seen: attributes and buffers change in their pins at most and
settings in the wireframe flag, and what is recorded, logged, bound or remembered after the change
may as well have been before. -/
structure Unseen (f : Scene → Scene) : Prop where
  attr (s : Scene) (id : AttributeId) : ∃ pins, (f s).attr id = { s.attr id with pins }
  buffer (s : Scene) (id : BufferId) : ∃ pins, (f s).buffer id = { s.buffer id with pins }
  context (s : Scene) :
    ∃ g : Guise, (f s).context = { s.context with settings := g.settings s.context.settings }
  record (s : Scene) (call : DriverCall) :
    (f s).record (call.madeAt (f s).moment) = f (s.record (call.madeAt s.moment))
  note (s : Scene) {notice : Notice} :
    notice.isOfChannels = true → (f s).note notice = f (s.note notice)
  rebind (s : Scene) (id : BufferId) (bound : Option BindTarget) (bindCount : Nat) :
    (f s).setBuffer id { (f s).buffer id with bound, bindCount } =
      f (s.setBuffer id { s.buffer id with bound, bindCount })
  setTexUnits (s : Scene) (texUnits : BitVec 32) :
    { f s with context := { (f s).context with texUnits } } =
      f { s with context := { s.context with texUnits } }
  setEnableFlags (s : Scene) (enableFlags : EnableFlags) :
    { f s with context := { (f s).context with enableFlags } } =
      f { s with context := { s.context with enableFlags } }
  setFrontFace (s : Scene) (flushedFrontFace : Option FrontFace) :
    { f s with context := { (f s).context with flushedFrontFace } } =
      f { s with context := { s.context with flushedFrontFace } }

namespace SceneM
variable {α β : Type} {f : Scene → Scene}

def through (f : Scene → Scene) :
    EStateM.Result Overflow Scene α → EStateM.Result Overflow Scene α
  | .ok a s => .ok a (f s)
  | .error overflow s => .error overflow (f s)

/-- A change of the scene may be made before or after a computation, all the same. -/
def Commutes (m : SceneM α) (f : Scene → Scene) : Prop := ∀ s, m (f s) = through f (m s)

theorem through_bind {m n : SceneM α} {rest rest' : α → SceneM β} {s t : Scene}
    (first : through f (m s) = through f (n t))
    (last : ∀ a u v, m s = .ok a u → n t = .ok a v → f u = f v →
      through f (rest a u) = through f (rest' a v)) :
    through f ((m >>= rest) s) = through f ((n >>= rest') t) := by
  change through f (EStateM.bind m rest s) = through f (EStateM.bind n rest' t)
  unfold EStateM.bind
  cases left : m s with
  | ok a u =>
    cases right : n t with
    | ok b v =>
      rw [left, right] at first
      injection first with value scene
      subst value
      exact last a u v left right scene
    | error overflow v =>
      rw [left, right] at first
      cases first
  | error overflow u =>
    cases right : n t with
    | ok b v =>
      rw [left, right] at first
      cases first
    | error overflow' v =>
      rw [left, right] at first
      injection first with cause scene
      subst cause
      exact congrArg (EStateM.Result.error overflow) scene

theorem Commutes.bind {m : SceneM α} {rest : α → SceneM β} (first : Commutes m f)
    (last : ∀ a, Commutes (rest a) f) : Commutes (m >>= rest) f := by
  intro s
  change EStateM.bind m rest (f s) = SceneM.through f (EStateM.bind m rest s)
  unfold EStateM.bind
  rw [first s]
  cases m s with
  | ok a t => exact last a t
  | error overflow t => rfl

theorem Commutes.modifyGet {g : Scene → α × Scene} (h : ∀ s, g (f s) = Prod.map id f (g s)) :
    Commutes (modifyGet g : SceneM α) f := by
  intro s
  change (match g (f s) with | (a, t) => EStateM.Result.ok a t) = _
  rw [h]
  rfl

theorem Commutes.through {m : SceneM α} (h : Commutes m f) {s t : Scene} (same : f s = f t) :
    through f (m s) = SceneM.through f (m t) := by
  rw [← h s, same, h t]

end SceneM

namespace Unseen
variable {f : Scene → Scene} (unseen : Unseen f) (s : Scene)
include unseen

theorem bound (id : BufferId) : ((f s).buffer id).bound = (s.buffer id).bound := by
  obtain ⟨pins, same⟩ := unseen.buffer s id
  rw [same]

theorem base (id : BufferId) : ((f s).buffer id).base = (s.buffer id).base := by
  obtain ⟨pins, same⟩ := unseen.buffer s id
  rw [same]
  rfl

theorem bindCount (id : BufferId) : ((f s).buffer id).bindCount = (s.buffer id).bindCount := by
  obtain ⟨pins, same⟩ := unseen.buffer s id
  rw [same]

theorem attach (id : BufferId) (target : BindTarget) :
    (f s).attach id target = f (s.attach id target) := by
  have set (t : Scene) : (f t).setBuffer id (((f t).buffer id).attach target) =
      f (t.setBuffer id ((t.buffer id).attach target)) := by
    have rebound := unseen.rebind t id (some target) (t.buffer id).bindCount
    rw [← unseen.bindCount] at rebound
    exact rebound.trans (by rw [unseen.bindCount]; rfl)
  simp only [Scene.attach, unseen.bound]
  cases (s.buffer id).bound with
  | none => exact set s
  | some previous =>
    dsimp only
    rw [unseen.note s rfl]
    exact set (s.note (.boundWhileBound id target previous))

theorem countBinding (id : BufferId) : (f s).countBinding id = f (s.countBinding id) := by
  have counted := unseen.rebind s id (s.buffer id).bound ((s.buffer id).bindCount + 1)
  rw [← unseen.bound, ← unseen.bindCount] at counted
  exact counted.trans (by rw [unseen.bound, unseen.bindCount]; rfl)

theorem bind (id : BufferId) (target : BindTarget) :
    (f s).bind id target = f (s.bind id target) := by
  rw [Scene.bind, unseen.attach, unseen.countBinding, Scene.bind]

theorem unbind (id : BufferId) : (f s).unbind id = f (s.unbind id) := by
  have cleared := unseen.rebind s id none (s.buffer id).bindCount
  have set : (f s).setBuffer id ((f s).buffer id).unbind =
      f (s.setBuffer id (s.buffer id).unbind) := by
    rw [← unseen.bindCount] at cleared
    exact cleared.trans (by rw [unseen.bindCount]; rfl)
  simp only [Scene.unbind, unseen.bound]
  split
  · exact set
  · exact unseen.note s rfl

theorem recordCall (call : DriverCall) (h : call.isDraw = false) :
    (f s).record call = f (s.record call) := by
  have same (moment : Moment) : call.madeAt moment = call := by
    cases call <;> first | rfl | cases h
  have recorded := unseen.record s call
  rwa [same, same] at recorded

theorem changeIf (needed : Bool) (d : Derivation) (change : Pipeline → Pipeline) :
    d.changeIf needed change (f s) = Prod.map id f (d.changeIf needed change s) := by
  unfold Derivation.changeIf Derivation.change
  cases needed with
  | false => rfl
  | true =>
    cases d.copy with
    | none => exact Prod.ext rfl (unseen.note s rfl)
    | some pipeline => rfl

theorem derivePipeline (d : Derivation) (options : FlushOptions) :
    (f s).derivePipeline d options = Prod.map id f (s.derivePipeline d options) := by
  obtain ⟨g, same⟩ := unseen.context s
  simp only [Scene.derivePipeline, same, g.legacy, g.requestedOptions, g.disableBlending,
    unseen.changeIf, Prod.map]
  cases s.context.settings.legacy <;> rfl

theorem texUnits : (f s).context.texUnits = s.context.texUnits := by
  obtain ⟨g, same⟩ := unseen.context s
  rw [same]

theorem enableTexUnit (unit : Fin 32) : (f s).enableTexUnit unit = f (s.enableTexUnit unit) := by
  have recorded := unseen.recordCall s (.setTexCoordArrayEnabled unit true) rfl
  simp only [Scene.enableTexUnit, unseen.texUnits, recorded]
  split
  · rfl
  · exact unseen.setTexUnits (s.record _) _

theorem sweepTexUnits (stale : BitVec 32) :
    (f s).sweepTexUnits stale = f (s.sweepTexUnits stale) := by
  fun_induction Scene.sweepTexUnits s stale with
  | case1 s => rw [Scene.sweepTexUnits, dif_pos rfl]
  | case2 s stale some ih =>
    rw [Scene.sweepTexUnits, dif_neg some, unseen.recordCall s _ rfl, ih]

theorem disableStaleTexUnits (used : BitVec 32) :
    (f s).disableStaleTexUnits used = f (s.disableStaleTexUnits used) := by
  let stale := s.context.texUnits &&& ~~~used
  let noted (t : Scene) : Scene := if stale = 0 then t else t.note (.texCoordArraysDisabled stale)
  have start : noted (f s) = f (noted s) := by
    simp only [noted]
    split
    · rfl
    · exact unseen.note s rfl
  let settle (t : Scene) : Scene := t.setTexUnits (t.context.texUnits &&& used)
  have settled (t : Scene) : settle (f t) = f (settle t) := by
    simp only [settle, unseen.texUnits]
    exact unseen.setTexUnits t _
  simp only [Scene.disableStaleTexUnits, unseen.texUnits]
  change settle ((noted (f s)).sweepTexUnits stale) = _
  rw [start, unseen.sweepTexUnits]
  exact settled _

theorem flushEnableFlags (flags : EnableFlags) :
    (f s).flushEnableFlags flags = f (s.flushEnableFlags flags) := by
  obtain ⟨g, same⟩ := unseen.context s
  let changed := s.context.enableFlags.symmDiff flags
  let send (t : Scene) (capability : EnableFlags) : Scene :=
    if changed.contains capability then
      t.record (.setCapability capability (flags.contains capability))
    else t
  have sent : EnableFlags.capabilities.foldl send (f s) =
      f (EnableFlags.capabilities.foldl send s) := by
    apply List.foldl_hom f
    intro t capability
    simp only [send]
    split
    · exact unseen.recordCall t _ rfl
    · rfl
  have old : (f s).context.enableFlags = s.context.enableFlags := by rw [same]
  let settle (t : Scene) : Scene := { t with context := { t.context with enableFlags := flags } }
  simp only [Scene.flushEnableFlags, old]
  change settle (EnableFlags.capabilities.foldl send (f s)) = _
  rw [sent]
  exact unseen.setEnableFlags _ flags

theorem flushFrontFace : (f s).flushFrontFace = f s.flushFrontFace := by
  obtain ⟨g, same⟩ := unseen.context s
  have old : (f s).context.flushedFrontFace = s.context.flushedFrontFace := by rw [same]
  have face : (f s).context.settings.frontFace = s.context.settings.frontFace := by
    rw [same]
    exact g.frontFace _
  simp only [Scene.flushFrontFace, old, face]
  split
  · rfl
  · have recorded := unseen.recordCall s (.setFrontFace s.context.settings.frontFace) rfl
    have set := unseen.setFrontFace (s.record (.setFrontFace s.context.settings.frontFace))
      (some s.context.settings.frontFace)
    rw [← recorded] at set
    exact set

theorem connect (setUp : SetUp) (a : VertexAttribute) (pointer : Pointer) :
    (f s).connect setUp a pointer = Prod.map id f (s.connect setUp a pointer) := by
  have recorded (t : Scene) (first last : DriverCall) (first' : first.isDraw = false)
      (last' : last.isDraw = false) :
      ((f t).record first).record last = f ((t.record first).record last) := by
    rw [unseen.recordCall t first first', unseen.recordCall _ last last']
  unfold Scene.connect
  cases a.role with
  | color =>
    simp only [unseen.recordCall s (.setColorPointer pointer) rfl, unseen.changeIf]
    rfl
  | normal => exact Prod.ext rfl (recorded s _ _ rfl rfl)
  | textureCoord unit =>
    simp only [unseen.enableTexUnit]
    exact Prod.ext rfl (unseen.recordCall _ _ rfl)
  | position => exact Prod.ext rfl (unseen.recordCall s _ rfl)
  | custom => exact Prod.ext rfl (recorded s _ _ rfl rfl)

theorem flush (setUp : SetUp) (options : FlushOptions) :
    (f s).flush setUp options = Prod.map id f (s.flush setUp options) := by
  have culling (t : Scene) :
      (f t).context.settings.backfaceCulling = t.context.settings.backfaceCulling := by
    obtain ⟨g, same⟩ := unseen.context t
    rw [same]
    exact g.backfaceCulling _
  simp only [Scene.flush, unseen.disableStaleTexUnits, unseen.derivePipeline, Prod.map]
  rw [unseen.recordCall _ _ rfl, culling, unseen.flushEnableFlags, unseen.flushFrontFace]
  rfl

open SceneM

theorem bindBuffer (id : BufferId) (target : BindTarget) : Commutes (bindBuffer id target) f := by
  intro s
  simp only [DrawSubmission.bindBuffer, unseen.bindCount, unseen.attach, unseen.bind]
  split <;> rfl

theorem connectBound (setUp : SetUp) (a : VertexAttribute) :
    Commutes (Scene.connectBound setUp a) f := by
  intro s
  simp only [Scene.connectBound, unseen.base]
  cases a.pointer (s.buffer a.buffer).base with
  | error overflow => rfl
  | ok pointer =>
    simp only [unseen.connect, Prod.map, unseen.unbind, id_eq]
    split <;> rfl

/-- A channel that is set up is set up the same way after the change. -/
theorem setUpChannel (setUp : SetUp) {id : AttributeId} (readable : (s.attr id).readable = true) :
    Scene.setUpChannel setUp id (f s) = through f (Scene.setUpChannel setUp id s) := by
  obtain ⟨pins, same⟩ := unseen.attr s id
  have readable' : ((f s).attr id).readable = true := by rwa [same]
  have connected : Scene.connectBound setUp ((f s).attr id) =
      Scene.connectBound setUp (s.attr id) := by
    rw [same]
    rfl
  have buffer : ((f s).attr id).buffer = (s.attr id).buffer := by rw [same]
  rw [Scene.setUpChannel_of_readable setUp readable, Scene.setUpChannel_of_readable setUp readable',
    connected, buffer]
  refine ((unseen.bindBuffer _ _).bind fun _ => unseen.connectBound setUp _) s

theorem disableAttributes (attributes : List AttributeId) (flushed : FlushedPipeline) :
    (f s).disableAttributes attributes flushed = f (s.disableAttributes attributes flushed) := by
  let lift (state : Nat × Scene) : Nat × Scene := (state.1, f state.2)
  have torn (state : Nat × Scene) (id : AttributeId) :
      Scene.tearDownChannel (lift state) id = lift (Scene.tearDownChannel state id) := by
    obtain ⟨pins, same⟩ := unseen.attr state.2 id
    simp only [Scene.tearDownChannel, lift, same]
    cases (state.2.attr id).role with
    | normal | custom => exact Prod.ext rfl (unseen.recordCall state.2 _ rfl)
    | position | color | textureCoord unit => rfl
  have all (t : Scene) : (attributes.foldl Scene.tearDownChannel (0, f t)).2 =
      f (attributes.foldl Scene.tearDownChannel (0, t)).2 := by
    have moved : attributes.foldl Scene.tearDownChannel (lift (0, t)) =
        lift (attributes.foldl Scene.tearDownChannel (0, t)) := List.foldl_hom lift torn
    exact congrArg Prod.snd moved
  simp only [Scene.disableAttributes]
  split
  · rw [unseen.note s rfl, all]
  · exact all s

theorem issueBound (request : DrawRequest) (indices : Indices) :
    Commutes (issueBound request indices) f := by
  intro s
  simp only [DrawSubmission.issueBound, unseen.base]
  cases indices.address (s.buffer indices.buffer).base request.first with
  | error overflow => rfl
  | ok offset =>
    have recorded := unseen.record s (.drawElements request.topology request.count indices.format
      indices.buffer offset s.moment)
    have unbound := unseen.unbind (s.record (.drawElements request.topology request.count
      indices.format indices.buffer offset s.moment)) indices.buffer
    exact congrArg (EStateM.Result.ok ())
      ((congrArg (fun t : Scene => t.unbind indices.buffer) recorded).trans unbound)

theorem issue (request : DrawRequest) : Commutes (issue request) f := by
  unfold DrawSubmission.issue
  cases request.indices with
  | none =>
    intro s
    exact congrArg (EStateM.Result.ok ()) (unseen.record s (.drawArrays _ _ _ s.moment))
  | some indices =>
    exact (unseen.bindBuffer _ _).bind fun _ => unseen.issueBound request indices

end Unseen

end DrawSubmission
