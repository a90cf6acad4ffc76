import Mathlib.Algebra.Ring.Nat
import DrawSubmission.Draw
import DrawSubmission.Draw.View
import DrawSubmission.Proofs.Sweeping
set_option autoImplicit false

/-!
# The calls of a single draw

What a draw tells the driver is decided by what the context remembers and by the channels that the
readable attributes ask for. The lists below are written without the scene; each phase of a draw is
proved to record its list and to leave the context accordingly.
-/
namespace DrawSubmission

/-- What a readable attribute asks for. -/
structure Channel where
  role : Role
  pointer : Pointer
  normalized : Bool
deriving DecidableEq

namespace Channel

def setUpCalls (units : BitVec 32) (generic : Nat) (c : Channel) : List DriverCall :=
  match c.role with
  | .color => [.setColorPointer c.pointer]
  | .normal => [.setNormalArrayEnabled true, .setNormalPointer c.pointer]
  | .textureCoord unit =>
    (if units.getLsbD unit then [] else [.setTexCoordArrayEnabled unit true]) ++
      [.setTexCoordPointer unit c.pointer]
  | .position => [.setVertexPointer c.pointer]
  | .custom =>
    [.setGenericArrayEnabled generic true, .setGenericPointer generic c.pointer c.normalized]

def units (c : Channel) : BitVec 32 :=
  match c.role with
  | .textureCoord unit => BitVec.twoPow 32 unit
  | _ => 0

def generics (c : Channel) : Nat := if c.role = .custom then 1 else 0

def flags (c : Channel) : EnableFlags :=
  match c.role with
  | .position => EnableFlags.vertexArray
  | .color => EnableFlags.colorArray
  | _ => .empty

end Channel

def Scene.channel (s : Scene) (a : VertexAttribute) : Except Overflow Channel := do
  return ⟨a.role, ← a.pointer (s.buffer a.buffer).base, a.normalized⟩

def Scene.channels (s : Scene) (attributes : List AttributeId) : Except Overflow (List Channel) :=
  ((attributes.map s.attr).filter VertexAttribute.readable).mapM s.channel

def usedUnits (channels : List Channel) : BitVec 32 :=
  channels.foldr (fun c units => c.units ||| units) 0

def genericCount (channels : List Channel) : Nat := (channels.map Channel.generics).sum

def arrayFlags (channels : List Channel) : EnableFlags :=
  channels.foldl (fun flags c => flags.insert c.flags) .empty

def hasRole (role : Role) (channels : List Channel) : Bool := channels.any (·.role == role)

def setUpCalls (units : BitVec 32) (generic : Nat) : List Channel → List DriverCall
  | [] => []
  | c :: channels =>
    c.setUpCalls units generic ++ setUpCalls (units ||| c.units) (generic + c.generics) channels

def staleCalls (units used : BitVec 32) : List DriverCall :=
  (Scene.unitsOf (units &&& ~~~used)).map fun unit => .setTexCoordArrayEnabled unit false

def capabilityCalls (old new : EnableFlags) : List DriverCall :=
  (EnableFlags.capabilities.filter (old.symmDiff new).contains).map fun capability =>
    .setCapability capability (new.contains capability)

def frontFaceCalls (old : Option FrontFace) (face : FrontFace) : List DriverCall :=
  if old = some face then [] else [.setFrontFace face]

theorem or_twoPow_of_getLsbD {units : BitVec 32} {unit : Fin 32} (on : units.getLsbD unit = true) :
    units ||| BitVec.twoPow 32 unit = units := by
  apply BitVec.eq_of_getLsbD_eq
  intro i _
  rw [BitVec.getLsbD_or, BitVec.getLsbD_twoPow]
  by_cases same : unit.val = i
  · simp [← same, on]
  · simp [same]

section Lists
variable (units : BitVec 32) (generic : Nat) (xs ys : List Channel)

theorem usedUnits_append : usedUnits (xs ++ ys) = usedUnits xs ||| usedUnits ys := by
  induction xs with
  | nil => simp [usedUnits]
  | cons c xs ih =>
    change c.units ||| usedUnits (xs ++ ys) = (c.units ||| usedUnits xs) ||| usedUnits ys
    rw [ih, BitVec.or_assoc]

theorem hasRole_snoc (role : Role) (c : Channel) :
    hasRole role (xs ++ [c]) = (hasRole role xs || c.role == role) := by
  simp [hasRole]

theorem genericCount_append : genericCount (xs ++ ys) = genericCount xs + genericCount ys := by
  simp only [genericCount, List.map_append, List.sum_append]

theorem setUpCalls_append :
    setUpCalls units generic (xs ++ ys) =
      setUpCalls units generic xs ++
        setUpCalls (units ||| usedUnits xs) (generic + genericCount xs) ys := by
  induction xs generalizing units generic with
  | nil => simp [setUpCalls, usedUnits, genericCount]
  | cons c xs ih =>
    have unit : units ||| usedUnits (c :: xs) = units ||| c.units ||| usedUnits xs :=
      (BitVec.or_assoc ..).symm
    have count : generic + genericCount (c :: xs) = generic + c.generics + genericCount xs := by
      simp only [genericCount, List.map_cons, List.sum_cons, Nat.add_assoc]
    simp only [List.cons_append, setUpCalls, ih, unit, count, List.append_assoc]

end Lists

namespace Scene
variable {s t : Scene}

theorem base_eq_of_kept (h : t.kept = s.kept) (id : BufferId) :
    (t.buffer id).base = (s.buffer id).base :=
  (congrArg Buffer.base (buffer_kept_eq_of_kept h id) :)

theorem channels_snoc_unreadable {done : List AttributeId} {id : AttributeId}
    (unreadable : (s.attr id).readable = false) : s.channels (done ++ [id]) = s.channels done := by
  simp [channels, unreadable]

theorem channels_snoc {done : List AttributeId} {id : AttributeId} {channels : List Channel}
    {c : Channel} (readable : (s.attr id).readable = true) (before : s.channels done = .ok channels)
    (last : s.channel (s.attr id) = .ok c) : s.channels (done ++ [id]) = .ok (channels ++ [c]) := by
  simp only [Scene.channels] at before
  simp [Scene.channels, readable, List.mapM_append, before, last]
  rfl

theorem channels_overflow {done todo : List AttributeId} {id : AttributeId} {cause : Overflow}
    {channels : List Channel} (readable : (s.attr id).readable = true)
    (before : s.channels done = .ok channels) (this : s.channel (s.attr id) = .error cause) :
    s.channels (done ++ id :: todo) = .error cause := by
  simp only [Scene.channels] at before
  simp [Scene.channels, readable, List.mapM_append, before, this]
  rfl

end Scene

section Connect
variable (s : Scene) (setUp : SetUp) (a : VertexAttribute) (pointer : Pointer)

theorem connect_calls :
    (s.connect setUp a pointer).2.calls.toList =
      s.calls.toList ++
        (⟨a.role, pointer, a.normalized⟩ : Channel).setUpCalls s.context.texUnits
          setUp.generic := by
  have derived (d : Derivation) (needed : Bool) (f : Pipeline → Pipeline) (t : Scene) :
      (d.changeIf needed f t).2.calls = t.calls :=
    Scene.calls_eq_of_told (Scene.told_changeIf needed d f t)
  unfold Scene.connect Channel.setUpCalls
  cases a.role with
  | color => simp [derived, Scene.record]
  | textureCoord unit =>
    simp only [Scene.enableTexUnit]
    split <;> simp_all [Scene.record, Scene.setTexUnits]
  | position | normal | custom => simp [Scene.record]

theorem connect_context :
    (s.connect setUp a pointer).2.context =
      { s.context with
        texUnits :=
          s.context.texUnits ||| (⟨a.role, pointer, a.normalized⟩ : Channel).units } := by
  have derived (d : Derivation) (needed : Bool) (f : Pipeline → Pipeline) (t : Scene) :
      (d.changeIf needed f t).2.context = t.context :=
    Scene.context_eq_of_told (Scene.told_changeIf needed d f t)
  unfold Scene.connect Channel.units
  cases a.role with
  | color => simp [derived, Scene.record]
  | textureCoord unit =>
    simp only [Scene.enableTexUnit]
    split
    · rename_i on
      simp [or_twoPow_of_getLsbD on, Scene.record]
    · rfl
  | position | normal | custom => simp [Scene.record]

theorem connect_setUp :
    let c : Channel := ⟨a.role, pointer, a.normalized⟩
    let next := (s.connect setUp a pointer).1
    next.flags = setUp.flags.insert c.flags ∧ next.usedTexUnits = setUp.usedTexUnits ||| c.units ∧
      next.generic = setUp.generic + c.generics ∧
      next.skipColor = (setUp.skipColor || c.role == .color) := by
  unfold Scene.connect Channel.flags Channel.units Channel.generics
  cases a.role <;> simp [FlagSet.insert, FlagSet.union, FlagSet.empty]

theorem connect_derivation {source : Pipeline} {colors : Bool}
    (h : setUp.derivation = source.colored colors) :
    (s.connect setUp a pointer).1.derivation = source.colored (colors || a.role == .color) := by
  unfold Scene.connect
  cases a.role with
  | color =>
    rw [h, BEq.rfl, Bool.or_true]
    exact colored_changeIf source colors (s.record (.setColorPointer pointer))
  | position | normal | textureCoord unit | custom =>
    exact h.trans (congrArg source.colored (Bool.or_false colors).symm)

end Connect

/-- The channels that a set-up which began in `s` has connected in `t`. -/
structure Connected (s : Scene) (channels : List Channel) (t : Scene) : Prop where
  kept : t.kept = s.kept
  calls : t.calls.toList = s.calls.toList ++ setUpCalls s.context.texUnits 0 channels
  context : t.context = { s.context with texUnits := s.context.texUnits ||| usedUnits channels }

/-- What a set-up with a source pipeline has gathered from its channels. -/
structure SetUp.Gathers (setUp : SetUp) (source : Pipeline) (channels : List Channel) : Prop where
  flags : setUp.flags = arrayFlags channels
  units : setUp.usedTexUnits = usedUnits channels
  generic : setUp.generic = genericCount channels
  skipColor : setUp.skipColor = hasRole .color channels
  derivation : setUp.derivation = source.colored (hasRole .color channels)

theorem Connected.nil (s : Scene) : Connected s [] s where
  kept := rfl
  calls := (List.append_nil _).symm
  context := by simp [usedUnits]

theorem Connected.congr {s t u : Scene} {channels : List Channel} (h : Connected s channels t)
    (kept : u.kept = t.kept) (told : u.told = t.told) : Connected s channels u where
  kept := kept.trans h.kept
  calls := by rw [Scene.calls_eq_of_told told, h.calls]
  context := by rw [Scene.context_eq_of_told told, h.context]

theorem Connected.snoc {s t : Scene} {source : Pipeline} {channels : List Channel} {setUp : SetUp}
    (h : Connected s channels t) (gathers : setUp.Gathers source channels) (a : VertexAttribute)
    (pointer : Pointer) :
    Connected s (channels ++ [⟨a.role, pointer, a.normalized⟩]) (t.connect setUp a pointer).2 where
  kept := (Scene.kept_connect t setUp a pointer).trans h.kept
  calls := by
    rw [connect_calls, h.calls, h.context, gathers.generic, setUpCalls_append]
    simp [setUpCalls]
  context := by
    rw [connect_context, h.context, usedUnits_append]
    simp [usedUnits, BitVec.or_assoc]

theorem SetUp.Gathers.snoc {t : Scene} {source : Pipeline} {channels : List Channel}
    {setUp : SetUp} (h : setUp.Gathers source channels) (a : VertexAttribute) (pointer : Pointer) :
    (t.connect setUp a pointer).1.Gathers source
      (channels ++ [⟨a.role, pointer, a.normalized⟩]) := by
  obtain ⟨flags, units, generic, skipColor⟩ := connect_setUp t setUp a pointer
  refine ⟨?_, ?_, ?_, ?_, ?_⟩
  · rw [flags, h.flags, arrayFlags, arrayFlags, List.foldl_append]
    rfl
  · rw [units, h.units, usedUnits_append]
    simp [usedUnits]
  · rw [generic, h.generic, genericCount_append]
    simp [genericCount]
  · rw [skipColor, h.skipColor, hasRole_snoc]
  · rw [connect_derivation t setUp a pointer h.derivation, hasRole_snoc]

open SceneM

/-- A set-up that has overflowed, with its channels so far: an address left its word, or a counter
is full. -/
def Overflowed (s : Scene) (attributes : List AttributeId) (cause : Overflow) (t : Scene) : Prop :=
  (cause = .count ∨ s.channels attributes = .error cause) ∧ ∃ channels, Connected s channels t

theorem connectBound_ensures {s : Scene} {channels : List Channel} {setUp : SetUp}
    (gathers : setUp.Gathers s.context.source channels) (a : VertexAttribute) :
    Ensures (Connected s channels) (Scene.connectBound setUp a)
      (fun next t => ∃ c, s.channel a = .ok c ∧
        next.Gathers s.context.source (channels ++ [c]) ∧ Connected s (channels ++ [c]) t)
      (fun cause t => (cause = .count ∨ s.channel a = .error cause) ∧
        ∃ channels, Connected s channels t) := by
  intro t connected
  simp only [Scene.connectBound, Scene.base_eq_of_kept connected.kept]
  cases addressed : a.pointer (s.buffer a.buffer).base with
  | error cause =>
    refine ⟨.inr ?_, channels, connected⟩
    simp only [Scene.channel, addressed]
    rfl
  | ok pointer =>
    have last : s.channel a = .ok ⟨a.role, pointer, a.normalized⟩ := by
      simp only [Scene.channel, addressed]
      rfl
    have next := connected.snoc gathers a pointer
    dsimp only
    split <;> rename_i outcome <;> split at outcome <;> cases outcome
    · exact ⟨_, last, gathers.snoc a pointer,
        next.congr (Scene.kept_unbind ..) (Scene.told_unbind ..)⟩
    · exact ⟨.inl rfl, _, next⟩

theorem setUpChannel_ensures (s : Scene) (done todo : List AttributeId) (setUp : SetUp)
    (id : AttributeId) :
    Ensures
      (fun t => ∃ channels, s.channels done = .ok channels ∧
        setUp.Gathers s.context.source channels ∧ Connected s channels t)
      (Scene.setUpChannel setUp id)
      (fun next t => ∃ channels, s.channels (done ++ [id]) = .ok channels ∧
        next.Gathers s.context.source channels ∧ Connected s channels t)
      (Overflowed s (done ++ id :: todo)) := by
  rintro t ⟨channels, before, gathers, connected⟩
  have same : t.attr id = s.attr id := Scene.attr_eq_of_kept connected.kept id
  cases readable : (s.attr id).readable with
  | false =>
    rw [Scene.setUpChannel_of_unreadable setUp (same ▸ readable)]
    refine ⟨channels, ?_, gathers, connected.congr rfl rfl⟩
    rw [Scene.channels_snoc_unreadable readable, before]
  | true =>
    rw [Scene.setUpChannel_of_readable setUp (same ▸ readable), same]
    have bound : Ensures (fun u => u = t) (bindBuffer (s.attr id).buffer .vertexArray)
        (fun _ => Connected s channels) (Overflowed s (done ++ id :: todo)) := by
      refine (bindBuffer_ensures t _ _).mono ?_ ?_
      · rintro _ _ rfl
        exact connected.congr (Scene.kept_bind ..) (Scene.told_bind ..)
      · rintro _ _ ⟨rfl, _, rfl⟩
        exact ⟨.inl rfl, channels, connected.congr (Scene.kept_attach ..) (Scene.told_attach ..)⟩
    refine bound.bind (fun _ => (connectBound_ensures gathers _).mono ?_ ?_) t rfl
    · rintro next u ⟨c, last, gathers, connected⟩
      exact ⟨_, Scene.channels_snoc readable before last, gathers, connected⟩
    · rintro cause u ⟨spoiled, connected⟩
      exact ⟨spoiled.imp_right (Scene.channels_overflow readable before), connected⟩

theorem setUp_ensures (s : Scene) (attributes : List AttributeId) :
    Ensures (fun t => t = s)
      (attributes.foldlM Scene.setUpChannel { derivation := { source := s.context.source } })
      (fun setUp t => ∃ channels, s.channels attributes = .ok channels ∧
        setUp.Gathers s.context.source channels ∧ Connected s channels t)
      (Overflowed s attributes) := by
  intro t same
  subst t
  let source := s.context.source
  have start : SetUp.Gathers { derivation := { source } } source [] := ⟨rfl, rfl, rfl, rfl, rfl⟩
  refine Ensures.foldlM (I := fun done (setUp : SetUp) t => ∃ channels,
      s.channels done = .ok channels ∧ setUp.Gathers source channels ∧ Connected s channels t)
    attributes [] _ (fun done id todo setUp whole => ?_) s ⟨[], rfl, start, .nil s⟩
  rw [List.nil_append] at whole
  rw [whole]
  exact setUpChannel_ensures s done todo setUp id

def askedFlags (settings : DrawSettings) (channels : List Channel) : EnableFlags :=
  if settings.backfaceCulling then (arrayFlags channels).insert EnableFlags.backfaceCulling
  else arrayFlags channels

def flushCalls (context : DrawContext) (channels : List Channel) (view : PipelineView) :
    List DriverCall :=
  staleCalls context.texUnits (usedUnits channels) ++ .flushPipeline view ::
    (capabilityCalls context.enableFlags (askedFlags context.settings channels) ++
      frontFaceCalls context.flushedFrontFace context.settings.frontFace)

def DrawContext.flushed (context : DrawContext) (channels : List Channel) : DrawContext :=
  { context with
    texUnits := usedUnits channels
    enableFlags := askedFlags context.settings channels
    flushedFrontFace := some context.settings.frontFace }

theorem calls_foldl_record {α : Type} (p : α → Bool) (f : α → DriverCall) (xs : List α)
    (s : Scene) :
    (xs.foldl (fun t x => if p x then t.record (f x) else t) s).calls.toList =
      s.calls.toList ++ (xs.filter p).map f := by
  induction xs generalizing s with
  | nil => simp
  | cons x xs ih =>
    rw [List.foldl_cons, ih]
    cases h : p x <;> simp [h, Scene.record]

theorem context_foldl_record {α : Type} (p : α → Bool) (f : α → DriverCall) (xs : List α)
    (s : Scene) :
    (xs.foldl (fun t x => if p x then t.record (f x) else t) s).context = s.context := by
  refine List.foldlRecOn xs _ (motive := fun t : Scene => t.context = s.context) rfl ?_
  intro t same x _
  split <;> exact same

theorem disableStaleTexUnits_calls (s : Scene) (used : BitVec 32) :
    (s.disableStaleTexUnits used).calls.toList =
      s.calls.toList ++ staleCalls s.context.texUnits used := by
  simp only [Scene.disableStaleTexUnits, Scene.sweepTexUnits_eq, Scene.setTexUnits, staleCalls,
    Array.toList_append]
  split <;> rfl

theorem disableStaleTexUnits_context (s : Scene) (used : BitVec 32) :
    (s.disableStaleTexUnits used).context =
      { s.context with texUnits := s.context.texUnits &&& used } := by
  simp only [Scene.disableStaleTexUnits, Scene.sweepTexUnits_eq, Scene.setTexUnits]
  split <;> rfl

theorem flushEnableFlags_calls (s : Scene) (flags : EnableFlags) :
    (s.flushEnableFlags flags).calls.toList =
      s.calls.toList ++ capabilityCalls s.context.enableFlags flags :=
  calls_foldl_record (s.context.enableFlags.symmDiff flags).contains _ EnableFlags.capabilities s

theorem flushEnableFlags_context (s : Scene) (flags : EnableFlags) :
    (s.flushEnableFlags flags).context = { s.context with enableFlags := flags } := by
  have same := context_foldl_record (s.context.enableFlags.symmDiff flags).contains
    (fun capability => .setCapability capability (flags.contains capability))
    EnableFlags.capabilities s
  simp only [Scene.flushEnableFlags, same]

theorem flushFrontFace_calls (s : Scene) :
    s.flushFrontFace.calls.toList =
      s.calls.toList ++
        frontFaceCalls s.context.flushedFrontFace s.context.settings.frontFace := by
  simp only [Scene.flushFrontFace, frontFaceCalls]
  split <;> simp [Scene.record]

theorem flushFrontFace_context (s : Scene) :
    s.flushFrontFace.context =
      { s.context with flushedFrontFace := some s.context.settings.frontFace } := by
  simp only [Scene.flushFrontFace]
  split
  · rename_i same
    simp [← same]
  · rfl

def DrawContext.view (context : DrawContext) (channels : List Channel) (options : FlushOptions) :
    PipelineView :=
  let colors := hasRole .color channels
  (context.source.forDraw context.settings options colors).view colors

section Flush
variable {s : Scene} {setUp : SetUp} {channels : List Channel}
  (gathers : setUp.Gathers s.context.source channels) (options : FlushOptions)
include gathers

theorem flush_value :
    let colors := hasRole .color channels
    (s.flush setUp options).1 =
      ⟨s.context.source.forDraw s.context.settings options colors,
        s.context.source.isChanged s.context.settings options colors⟩ := by
  let settled := s.disableStaleTexUnits setUp.usedTexUnits
  have flushed := flushed_derivePipeline settled s.context.source options (hasRole .color channels)
  rw [← gathers.derivation, disableStaleTexUnits_context] at flushed
  exact flushed

theorem flush_view :
    let settled := s.disableStaleTexUnits setUp.usedTexUnits
    (settled.derivePipeline setUp.derivation options).1.current.view setUp.skipColor =
      s.context.view channels options := by
  rw [gathers.skipColor]
  exact congrArg (·.pipeline.view (hasRole .color channels)) (flush_value gathers options)

theorem flush_told :
    (s.flush setUp options).2.calls.toList =
        s.calls.toList ++ flushCalls s.context channels (s.context.view channels options) ∧
      (s.flush setUp options).2.context =
        { s.context.flushed channels with
          texUnits := s.context.texUnits &&& usedUnits channels } := by
  let settled := s.disableStaleTexUnits setUp.usedTexUnits
  let derived := settled.derivePipeline setUp.derivation options
  let view := s.context.view channels options
  have shown : derived.1.current.view setUp.skipColor = view := flush_view gathers options
  let flushed := derived.2.record (.flushPipeline view)
  have told : derived.2.told = settled.told := Scene.told_derivePipeline ..
  have context : flushed.context =
      { s.context with texUnits := s.context.texUnits &&& usedUnits channels } := by
    change derived.2.context = _
    rw [Scene.context_eq_of_told told, disableStaleTexUnits_context, gathers.units]
  have calls : flushed.calls.toList =
      s.calls.toList ++ staleCalls s.context.texUnits (usedUnits channels) ++
        [.flushPipeline view] := by
    rw [← gathers.units, ← disableStaleTexUnits_calls, ← Scene.calls_eq_of_told told]
    exact Array.toList_push
  have asked : (s.flush setUp options).2 =
      (flushed.flushEnableFlags (askedFlags s.context.settings channels)).flushFrontFace := by
    have culling : flushed.context.settings = s.context.settings := by rw [context]
    simp only [askedFlags, ← gathers.flags, ← culling, flushed, ← shown]
    rfl
  constructor
  · rw [asked, flushFrontFace_calls, flushEnableFlags_calls, flushEnableFlags_context, calls,
      context]
    simp [flushCalls, view]
  · rw [asked, flushFrontFace_context, flushEnableFlags_context, context]
    rfl

end Flush

def leadCalls (context : DrawContext) (channels : List Channel) (view : PipelineView) :
    List DriverCall :=
  setUpCalls context.texUnits 0 channels ++ flushCalls context channels view

/-- The driver is set up for a draw under some overrides that began in `s`. -/
structure Prepared (s : Scene) (channels : List Channel) (options : FlushOptions) (t : Scene) :
    Prop where
  kept : t.kept = s.kept
  calls : t.calls.toList =
    s.calls.toList ++ leadCalls s.context channels (s.context.view channels options)
  context : t.context = s.context.flushed channels

theorem staleCalls_or (units used : BitVec 32) :
    staleCalls (units ||| used) used = staleCalls units used := by
  have stale : (units ||| used) &&& ~~~used = units &&& ~~~used := by
    ext i
    simp [Bool.and_or_distrib_right]
  simp only [staleCalls, stale]

theorem or_and_self (units used : BitVec 32) : (units ||| used) &&& used = used := by
  ext i
  simp +contextual

theorem Connected.flush {s t : Scene} {channels : List Channel} {setUp : SetUp}
    (h : Connected s channels t) (gathers : setUp.Gathers s.context.source channels)
    (options : FlushOptions) : Prepared s channels options (t.flush setUp options).2 := by
  have source : t.context.source = s.context.source := by rw [h.context]; rfl
  obtain ⟨calls, context⟩ := flush_told (source ▸ gathers) options
  refine ⟨(Scene.kept_flush t setUp options).trans h.kept, ?_, ?_⟩
  · have view : t.context.view channels options = s.context.view channels options := by
      rw [h.context]
      rfl
    rw [calls, view, h.calls, h.context, leadCalls, List.append_assoc]
    simp only [flushCalls, staleCalls_or]
  · rw [context, h.context, or_and_self]
    rfl

theorem enableAttributes_ensures (s : Scene) (attributes : List AttributeId)
    (options : FlushOptions) :
    Ensures (fun t => t = s) (enableAttributes attributes options)
      (fun _ t => ∃ channels, s.channels attributes = .ok channels ∧
        Prepared s channels options t)
      (Overflowed s attributes) := by
  intro t same
  subst t
  refine Ensures.bind (setUp_ensures s attributes) (fun setUp => ?_) s rfl
  rintro t ⟨channels, readable, gathers, connected⟩
  exact ⟨channels, readable, connected.flush gathers options⟩

namespace DrawRequest

def address (request : DrawRequest) (s : Scene) : Except Overflow UInt64 :=
  match request.indices with
  | none => .ok 0
  | some indices => indices.address (s.buffer indices.buffer).base request.first

def call (request : DrawRequest) (start : UInt64) (during : Moment) : DriverCall :=
  match request.indices with
  | none => .drawArrays request.topology request.first request.count during
  | some indices =>
    .drawElements request.topology request.count indices.format indices.buffer start during

theorem isDraw_call (request : DrawRequest) (start : UInt64) (during : Moment) :
    (request.call start during).isDraw = true := by
  unfold call
  split <;> rfl

end DrawRequest

theorem moment_kept (s : Scene) : s.kept.moment = { s.moment with bound := [] } := by
  have pins : s.kept.moment.pins = s.moment.pins := by
    simp only [Scene.moment, Scene.kept, Array.toList_map, List.zipIdx_map, List.filterMap_map]
    rfl
  have bound : s.kept.moment.bound = [] := by
    simp only [Scene.moment, Scene.kept, Array.toList_map, List.zipIdx_map, List.filterMap_map]
    exact List.filterMap_eq_nil_iff.mpr fun x _ => rfl
  have whole : s.kept.moment = ⟨s.kept.moment.pins, s.kept.moment.bound, s.moment.attributePins⟩ :=
    rfl
  rw [whole, pins, bound]

/-- Bindings may differ between two scenes that keep the same, but pins do not. -/
theorem moment_of_kept {s t : Scene} (h : t.kept = s.kept) :
    t.moment = { s.moment with bound := t.moment.bound } := by
  have same := moment_kept t
  rw [h, moment_kept s] at same
  have pins : s.moment.pins = t.moment.pins := (congrArg Moment.pins same :)
  have attributePins : s.moment.attributePins = t.moment.attributePins :=
    (congrArg Moment.attributePins same :)
  simp only [pins, attributePins]

theorem issue_ensures (s : Scene) (request : DrawRequest) :
    Ensures (fun t => t = s) (issue request)
      (fun _ t => ∃ start bound, request.address s = .ok start ∧
        t.calls.toList = s.calls.toList ++ [request.call start { s.moment with bound }] ∧
        t.context = s.context)
      (fun cause t => (cause = .count ∨ request.address s = .error cause) ∧ t.told = s.told) := by
  cases indexed : request.indices with
  | none =>
    rintro t rfl
    simp only [issue, DrawRequest.address, DrawRequest.call, indexed]
    exact ⟨0, t.moment.bound, rfl, Array.toList_push, rfl⟩
  | some indices =>
    have kept : (s.bind indices.buffer .indexArray).kept = s.kept := Scene.kept_bind ..
    have told : (s.bind indices.buffer .indexArray).told = s.told := Scene.told_bind ..
    simp only [issue, DrawRequest.address, DrawRequest.call, indexed]
    refine ((bindBuffer_ensures s _ _).mono (fun _ _ => id) ?_).bind fun _ => ?_
    · rintro _ _ ⟨rfl, _, rfl⟩
      exact ⟨.inl rfl, Scene.told_attach ..⟩
    rintro t rfl
    simp only [issueBound, Scene.base_eq_of_kept kept]
    cases indices.address (s.buffer indices.buffer).base request.first with
    | error cause => exact ⟨.inr rfl, told⟩
    | ok start =>
      refine ⟨start, (s.bind indices.buffer .indexArray).moment.bound, rfl, ?_, ?_⟩
      · rw [Scene.calls_eq_of_told (Scene.told_unbind ..), ← moment_of_kept kept, Scene.record,
          Array.toList_push, Scene.calls_eq_of_told told]
      · rw [Scene.context_eq_of_told (Scene.told_unbind ..), Scene.record,
          Scene.context_eq_of_told told]

/-- What a completed draw that began in `s` has told: a lead, its draw call and the tear-down. -/
structure Drawn (s : Scene) (request : DrawRequest) (options : FlushOptions)
    (channels : List Channel) (t : Scene) : Prop where
  readable : s.channels request.attributes = .ok channels
  calls : ∃ start bound, request.address s = .ok start ∧
    t.calls.toList = s.calls.toList ++
      (leadCalls s.context channels (s.context.view channels options) ++
        request.call start { s.moment with bound } ::
          tearDownCalls 0 (request.attributes.map fun id => (s.attr id).role))
  context : t.context = s.context.flushed channels

/-- What an overflowing one has: part of a set-up, or a lead without its draw call. -/
inductive BrokenOff (s : Scene) (request : DrawRequest) (cause : Overflow) (t : Scene) : Prop where
  | setUp (overflow : cause = .count ∨ s.channels request.attributes = .error cause)
      (channels : List Channel)
      (calls : t.calls.toList = s.calls.toList ++ setUpCalls s.context.texUnits 0 channels)
      (context :
        t.context = { s.context with texUnits := s.context.texUnits ||| usedUnits channels })
  | lead (overflow : cause = .count ∨ request.address s = .error cause)
      (channels : List Channel) (view : PipelineView)
      (calls : t.calls.toList = s.calls.toList ++ leadCalls s.context channels view)
      (context : t.context = s.context.flushed channels)

theorem Drawn.congr {s t u : Scene} {request : DrawRequest} {options : FlushOptions}
    {channels : List Channel} (h : Drawn s request options channels t) (told : u.told = t.told) :
    Drawn s request options channels u where
  readable := h.readable
  calls := by
    rw [Scene.calls_eq_of_told told]
    exact h.calls
  context := (Scene.context_eq_of_told told).trans h.context

theorem BrokenOff.congr {s t u : Scene} {request : DrawRequest} {cause : Overflow}
    (h : BrokenOff s request cause t) (told : u.told = t.told) : BrokenOff s request cause u := by
  cases h with
  | setUp overflow channels calls context =>
    rw [← Scene.calls_eq_of_told told] at calls
    exact .setUp overflow channels calls ((Scene.context_eq_of_told told).trans context)
  | lead overflow channels view calls context =>
    rw [← Scene.calls_eq_of_told told] at calls
    exact .lead overflow channels view calls ((Scene.context_eq_of_told told).trans context)

theorem address_eq_of_kept {s t : Scene} (h : t.kept = s.kept) (request : DrawRequest) :
    request.address t = request.address s := by
  simp only [DrawRequest.address, Scene.base_eq_of_kept h]

theorem drawPinned_ensures (s : Scene) (request : DrawRequest) (options : FlushOptions) :
    Ensures (fun t => t = s) (drawPinned request options)
      (fun _ t => ∃ channels, Drawn s request options channels t) (BrokenOff s request) := by
  let lead (channels : List Channel) :=
    leadCalls s.context channels (s.context.view channels options)
  let Led (t : Scene) := ∃ channels, s.channels request.attributes = .ok channels ∧
    Prepared s channels options t
  let Issued (t : Scene) := ∃ channels start bound,
    s.channels request.attributes = .ok channels ∧ request.address s = .ok start ∧
    t.kept = s.kept ∧ t.context = s.context.flushed channels ∧
    t.calls.toList = s.calls.toList ++
      (lead channels ++ [request.call start { s.moment with bound }])
  have enabled : Ensures (fun t => t = s) (enableAttributes request.attributes options)
      (fun _ => Led) (BrokenOff s request) := by
    refine (enableAttributes_ensures s request.attributes options).mono (fun _ _ => id) ?_
    rintro cause t ⟨overflow, channels, connected⟩
    exact .setUp overflow channels connected.calls connected.context
  have issued : Ensures Led (issue request) (fun _ => Issued) (BrokenOff s request) := by
    rintro t ⟨channels, readable, prepared⟩
    have done := issue_ensures t request t rfl
    have kept := kept_issue t request
    unfold after at kept
    revert done kept
    cases issue request t with
    | ok _ u =>
      rintro ⟨start, bound, addressed, calls, context⟩ kept
      refine ⟨channels, start, bound, readable, ?_, kept.trans prepared.kept,
        context.trans prepared.context, ?_⟩
      · rw [← address_eq_of_kept prepared.kept, addressed]
      · rw [calls, prepared.calls, List.append_assoc, moment_of_kept prepared.kept]
    | error cause u =>
      rintro ⟨overflow, told⟩ _
      rw [address_eq_of_kept prepared.kept] at overflow
      exact (BrokenOff.lead overflow channels _ prepared.calls prepared.context).congr told
  rw [drawPinned_counted]
  refine enabled.bind fun flushed => issued.bind fun _ => ?_
  rintro t ⟨channels, start, bound, readable, addressed, kept, context, calls⟩
  refine ⟨channels, readable, ⟨start, bound, addressed, ?_⟩, ?_⟩
  · rw [disableAttributes_calls, calls]
    simp [lead, Scene.attr_eq_of_kept kept]
  · rw [disableAttributes_context, context]

def Scene.pinned (s : Scene) (attributes : List AttributeId) : Scene :=
  attributes.foldl Scene.acquire s

theorem told_pinned (s : Scene) (attributes : List AttributeId) :
    (s.pinned attributes).told = s.told :=
  Scene.told_frame.pins.foldl s Scene.told_frame.pins.acquire attributes

theorem drawOnce_ensures (s : Scene) (request : DrawRequest) (options : FlushOptions) :
    Ensures (fun t => t = s) (drawOnce request options)
      (fun _ t => ∃ channels, Drawn (s.pinned request.attributes) request options channels t)
      (BrokenOff (s.pinned request.attributes) request) := by
  have dropped (t : Scene) : (request.attributes.foldl Scene.dropPin t).told = t.told :=
    Scene.told_frame.pins.foldl t Scene.told_frame.pins.dropPin request.attributes
  refine ensures_withPins ?_ ?_
  · refine (drawPinned_ensures (s.pinned request.attributes) request options).mono ?_ ?_
    · rintro _ t ⟨channels, drawn⟩
      exact ⟨channels, drawn.congr (dropped t)⟩
    · intro cause t broken
      exact broken.congr (dropped t)
  · have told : ((takePins [] request.attributes).after s).told =
        (s.pinned request.attributes).told :=
      (Scene.told_frame.pins.takePins s [] request.attributes).trans
        (told_pinned s request.attributes).symm
    refine .setUp (.inl rfl) [] ?_ ?_
    · rw [Scene.calls_eq_of_told told]
      exact (List.append_nil _).symm
    · rw [Scene.context_eq_of_told told]
      exact (Connected.nil _).context

end DrawSubmission
