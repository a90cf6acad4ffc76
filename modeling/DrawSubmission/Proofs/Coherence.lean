import DrawSubmission.Proofs.Replay
import DrawSubmission.Proofs.Script
set_option autoImplicit false

namespace DrawSubmission

/-- The context remembers what the driver holds; capabilities without a name are never on. -/
structure Mirrors (context : DrawContext) (d : DriverState) : Prop where
  units : ∀ unit : Fin 32, context.texUnits.getLsbD unit = d.texCoordArray unit
  flags : context.enableFlags = d.capabilities
  face : context.flushedFrontFace = d.frontFace
  named : ∀ i, 3 ≤ i → context.enableFlags.bits.getLsbD i = false

/-- From wherever `context` mirrors the driver, each of the calls changes it, and `next` mirrors the
driver after them. -/
def Tracks (context next : DrawContext) (calls : List DriverCall) : Prop :=
  ∀ d, Mirrors context d → EachChanges d calls ∧ Mirrors next (d.run calls)

theorem Tracks.append {first second third : DrawContext} {xs ys : List DriverCall}
    (h : Tracks first second xs) (h' : Tracks second third ys) :
    Tracks first third (xs ++ ys) := by
  intro d mirrors
  obtain ⟨changes, middle⟩ := h d mirrors
  obtain ⟨changes', last⟩ := h' (d.run xs) middle
  refine ⟨eachChanges_append.mpr ⟨changes, changes'⟩, ?_⟩
  rw [DriverState.run_append]
  exact last

def DriverCall.isRemembered : DriverCall → Bool
  | setTexCoordArrayEnabled .. | setCapability .. | setFrontFace _ => true
  | _ => false

theorem mirrors_apply {context : DrawContext} {d : DriverState} {call : DriverCall}
    (h : Mirrors context d) (other : call.isRemembered = false) :
    Mirrors context (d.apply call) := by
  cases call <;> first | exact ⟨h.units, h.flags, h.face, h.named⟩ | cases other

theorem Tracks.other {context : DrawContext} {calls : List DriverCall}
    (other : ∀ call ∈ calls, call.isRemembered = false) : Tracks context context calls := by
  induction calls with
  | nil => exact fun d mirrors => ⟨trivial, mirrors⟩
  | cons call calls ih =>
    intro d mirrors
    have this := other call List.mem_cons_self
    have rest := ih (fun call' inside => other call' (List.mem_cons_of_mem call inside))
      (d.apply call)
      (mirrors_apply mirrors this)
    refine ⟨⟨?_, rest.1⟩, rest.2⟩
    cases call <;> trivial

section Units
variable (context : DrawContext)

theorem tracks_enableTexUnit (unit : Fin 32) :
    Tracks context { context with texUnits := context.texUnits ||| BitVec.twoPow 32 unit }
      (if context.texUnits.getLsbD unit then [] else [.setTexCoordArrayEnabled unit true]) := by
  intro d mirrors
  cases on : context.texUnits.getLsbD unit with
  | true =>
    rw [or_twoPow_of_getLsbD on]
    exact ⟨trivial, mirrors⟩
  | false =>
    have off : d.texCoordArray unit = false := (mirrors.units unit).symm.trans on
    refine ⟨⟨?_, trivial⟩, ?_, mirrors.flags, mirrors.face, mirrors.named⟩
    · change d.texCoordArray unit ≠ true
      simp [off]
    · intro other
      change (context.texUnits ||| BitVec.twoPow 32 unit).getLsbD other =
        Function.update d.texCoordArray unit true other
      rw [BitVec.getLsbD_or, BitVec.getLsbD_twoPow, mirrors.units, Function.update_apply]
      by_cases same : other = unit
      · subst same
        simp
      · have apart : ¬ unit.val = other.val := fun h => same (Fin.ext h.symm)
        simp [same, apart]

theorem tracks_setUpChannel (generic : Nat) (c : Channel) :
    Tracks context { context with texUnits := context.texUnits ||| c.units }
      (c.setUpCalls context.texUnits generic) := by
  have other : c.units = 0 → (∀ call ∈ c.setUpCalls context.texUnits generic,
      call.isRemembered = false) → Tracks context
        { context with texUnits := context.texUnits ||| c.units }
        (c.setUpCalls context.texUnits generic) := by
    intro none calls
    rw [none, BitVec.ofNat_eq_ofNat, BitVec.or_zero]
    exact .other calls
  cases role : c.role with
  | textureCoord unit =>
    simp only [Channel.units, Channel.setUpCalls, role]
    refine (tracks_enableTexUnit context unit).append (.other fun call inside => ?_)
    cases List.mem_singleton.mp inside
    rfl
  | position | color | normal | custom =>
    apply other
    · simp [Channel.units, role]
    · simp [Channel.setUpCalls, role, DriverCall.isRemembered]

theorem tracks_setUpCalls (generic : Nat) (channels : List Channel) :
    Tracks context { context with texUnits := context.texUnits ||| usedUnits channels }
      (setUpCalls context.texUnits generic channels) := by
  induction channels generalizing context generic with
  | nil =>
    have none : context.texUnits ||| usedUnits [] = context.texUnits := BitVec.or_zero
    rw [none]
    exact .other fun _ inside => nomatch inside
  | cons c channels ih =>
    have rest := ih { context with texUnits := context.texUnits ||| c.units } (generic + c.generics)
    rw [BitVec.or_assoc] at rest
    exact (tracks_setUpChannel context generic c).append rest

theorem eachChanges_disable (units : List (Fin 32)) (apart : units.Nodup) (d : DriverState)
    (on : ∀ unit ∈ units, d.texCoordArray unit = true) :
    EachChanges d (units.map (.setTexCoordArrayEnabled · false)) ∧
      d.run (units.map (.setTexCoordArrayEnabled · false)) =
        { d with texCoordArray := fun unit => d.texCoordArray unit && !units.contains unit } := by
  induction units generalizing d with
  | nil => simp [EachChanges, DriverState.run_nil]
  | cons unit units ih =>
    obtain ⟨fresh, apart⟩ := List.nodup_cons.mp apart
    have here : d.texCoordArray unit = true := on unit List.mem_cons_self
    have still : ∀ other ∈ units,
        (d.apply (.setTexCoordArrayEnabled unit false)).texCoordArray other = true := by
      intro other inside
      have different : other ≠ unit := fun same => fresh (same ▸ inside)
      change Function.update d.texCoordArray unit false other = true
      rw [Function.update_of_ne different]
      exact on other (List.mem_cons_of_mem unit inside)
    obtain ⟨changes, result⟩ := ih apart _ still
    refine ⟨⟨?_, changes⟩, ?_⟩
    · change d.texCoordArray unit ≠ false
      simp [here]
    · rw [List.map_cons, DriverState.run_cons, result]
      have arrays : (fun other => Function.update d.texCoordArray unit false other &&
          !units.contains other) = fun other =>
            d.texCoordArray other && !(unit :: units).contains other := by
        funext other
        rw [Function.update_apply]
        by_cases same : other = unit <;> simp [same]
      simp only [DriverState.apply, arrays]

theorem contains_unitsOf (mask : BitVec 32) (unit : Fin 32) :
    (Scene.unitsOf mask).contains unit = mask.getLsbD unit := by
  simp [Scene.unitsOf]

theorem tracks_staleCalls (used : BitVec 32) :
    Tracks context { context with texUnits := context.texUnits &&& used }
      (staleCalls context.texUnits used) := by
  intro d mirrors
  have apart : (Scene.unitsOf (context.texUnits &&& ~~~used)).Nodup :=
    (List.nodup_finRange 32).filter _
  have on : ∀ unit ∈ Scene.unitsOf (context.texUnits &&& ~~~used), d.texCoordArray unit = true := by
    intro unit inside
    have stale : (context.texUnits &&& ~~~used).getLsbD unit = true := by
      rw [← contains_unitsOf]
      exact List.contains_iff_mem.mpr inside
    rw [← mirrors.units]
    simp only [BitVec.getLsbD_and, Bool.and_eq_true] at stale
    exact stale.1
  obtain ⟨changes, result⟩ := eachChanges_disable _ apart d on
  refine ⟨changes, ?_, ?_, ?_, mirrors.named⟩
  · intro unit
    change _ = (d.run (List.map _ _)).texCoordArray unit
    rw [result]
    dsimp only
    rw [contains_unitsOf, ← mirrors.units]
    simp only [BitVec.getLsbD_and, BitVec.getLsbD_not, unit.isLt, decide_true, Bool.true_and]
    cases context.texUnits.getLsbD unit <;> simp
  · change _ = (d.run (List.map _ _)).capabilities
    rw [result]
    exact mirrors.flags
  · change _ = (d.run (List.map _ _)).frontFace
    rw [result]
    exact mirrors.face

end Units

theorem capabilities_eq : EnableFlags.capabilities = [0, 1, 2].map FlagSet.ofBit := by decide

theorem eachChanges_setCapability (old new : EnableFlags) (bits : List Nat) (apart : bits.Nodup)
    (inside : ∀ i ∈ bits, i < 32) (d : DriverState)
    (agree : ∀ i ∈ bits, d.capabilities.bits.getLsbD i = old.bits.getLsbD i) :
    let calls := ((bits.map FlagSet.ofBit).filter (old.symmDiff new).contains).map fun capability =>
      DriverCall.setCapability capability (new.contains capability)
    EachChanges d calls ∧ ∃ capabilities, d.run calls = { d with capabilities } ∧
      ∀ j, capabilities.bits.getLsbD j =
        if j ∈ bits then new.bits.getLsbD j else d.capabilities.bits.getLsbD j := by
  induction bits generalizing d with
  | nil => exact ⟨trivial, d.capabilities, rfl, fun j => rfl⟩
  | cons i bits ih =>
    obtain ⟨fresh, apart⟩ := List.nodup_cons.mp apart
    have bound : i < enableFlagKind.width := inside i List.mem_cons_self
    have rest : ∀ j ∈ bits, j < 32 := fun j h => inside j (List.mem_cons_of_mem i h)
    have differs : (old.symmDiff new).contains (FlagSet.ofBit i) =
        (old.bits.getLsbD i ^^ new.bits.getLsbD i) := by
      rw [FlagSet.contains_ofBit _ bound]
      exact BitVec.getLsbD_xor ..
    rw [List.map_cons, List.filter_cons, differs]
    by_cases same : old.bits.getLsbD i = new.bits.getLsbD i
    · obtain ⟨changes, capabilities, result, values⟩ := ih apart rest d
        fun j h => agree j (List.mem_cons_of_mem i h)
      simp only [same, bne_self_eq_false, Bool.false_eq_true, ↓reduceIte]
      refine ⟨changes, capabilities, result, fun j => ?_⟩
      rw [values]
      by_cases here : j = i
      · subst here
        simp [fresh, agree j List.mem_cons_self, same]
      · simp [here]
    · have sent : (old.bits.getLsbD i ^^ new.bits.getLsbD i) = true := bne_iff_ne.mpr same
      have still : ∀ j ∈ bits, (d.capabilities.set (FlagSet.ofBit i)
          (new.contains (FlagSet.ofBit i))).bits.getLsbD j = old.bits.getLsbD j := by
        intro j h
        have apart : j ≠ i := fun same => fresh (same ▸ h)
        rw [FlagSet.getLsbD_set_ofBit _ bound, if_neg apart]
        exact agree j (List.mem_cons_of_mem i h)
      obtain ⟨changes, capabilities, result, values⟩ := ih apart rest
        (d.apply (.setCapability (FlagSet.ofBit i) (new.contains (FlagSet.ofBit i)))) still
      simp only [sent, ↓reduceIte, List.map_cons]
      refine ⟨⟨?_, changes⟩, capabilities, result, fun j => ?_⟩
      · change d.capabilities.contains (FlagSet.ofBit i) ≠ new.contains (FlagSet.ofBit i)
        rw [FlagSet.contains_ofBit _ bound, FlagSet.contains_ofBit _ bound,
          agree i List.mem_cons_self]
        exact same
      · rw [values]
        dsimp only [DriverState.apply]
        rw [FlagSet.getLsbD_set_ofBit _ bound, FlagSet.contains_ofBit _ bound]
        by_cases here : j = i
        · subst here
          simp
        · simp [here]

theorem tracks_capabilityCalls (context : DrawContext) (flags : EnableFlags)
    (named : ∀ i, 3 ≤ i → flags.bits.getLsbD i = false) :
    Tracks context { context with enableFlags := flags }
      (capabilityCalls context.enableFlags flags) := by
  intro d mirrors
  obtain ⟨changes, capabilities, result, values⟩ :=
    eachChanges_setCapability context.enableFlags flags [0, 1, 2] (by decide) (by decide) d
      fun i _ => by rw [mirrors.flags]
  rw [← capabilities_eq] at changes result
  have same : capabilities = flags := by
    suffices capabilities.bits = flags.bits by
      cases capabilities
      cases flags
      exact congrArg FlagSet.mk this
    apply BitVec.eq_of_getLsbD_eq
    intro i _
    rw [values]
    by_cases small : i < 3
    · rw [if_pos (by simp; omega)]
    · rw [if_neg (by simp; omega), ← mirrors.flags, mirrors.named i (by omega), named i (by omega)]
  refine ⟨changes, ?_⟩
  change Mirrors _ (d.run (List.map _ _))
  rw [result, same]
  exact ⟨mirrors.units, rfl, mirrors.face, named⟩

theorem tracks_frontFaceCalls (context : DrawContext) (face : FrontFace) :
    Tracks context { context with flushedFrontFace := some face }
      (frontFaceCalls context.flushedFrontFace face) := by
  intro d mirrors
  unfold frontFaceCalls
  by_cases same : context.flushedFrontFace = some face
  · rw [if_pos same, ← same]
    exact ⟨trivial, mirrors⟩
  · rw [if_neg same]
    refine ⟨⟨?_, trivial⟩, mirrors.units, mirrors.flags, rfl, mirrors.named⟩
    change d.frontFace ≠ some face
    rw [← mirrors.face]
    exact same

theorem vertexArray_eq : EnableFlags.vertexArray = FlagSet.ofBit 0 := rfl

theorem colorArray_eq : EnableFlags.colorArray = FlagSet.ofBit 1 := rfl

theorem backfaceCulling_eq : EnableFlags.backfaceCulling = FlagSet.ofBit 2 := rfl

theorem getLsbD_flags (c : Channel) (i : Nat) :
    c.flags.bits.getLsbD i = (i == 0 && c.role == .position || i == 1 && c.role == .color) := by
  have width : enableFlagKind.width = 32 := rfl
  cases role : c.role with
  | position => simp [Channel.flags, role, vertexArray_eq, FlagSet.getLsbD_ofBit, width]
  | color => simp [Channel.flags, role, colorArray_eq, FlagSet.getLsbD_ofBit, width]
  | normal | textureCoord unit | custom => simp [Channel.flags, role, FlagSet.empty]

theorem getLsbD_arrayFlags (channels : List Channel) (i : Nat) :
    (arrayFlags channels).bits.getLsbD i = channels.any fun c => c.flags.bits.getLsbD i := by
  have gathered (flags : EnableFlags) :
      (channels.foldl (fun flags c => flags.insert c.flags) flags).bits.getLsbD i =
        (flags.bits.getLsbD i || channels.any fun c => c.flags.bits.getLsbD i) := by
    induction channels generalizing flags with
    | nil => simp
    | cons c channels ih => rw [List.foldl_cons, ih, FlagSet.getLsbD_insert, List.any_cons,
        Bool.or_assoc]
  rw [arrayFlags, gathered]
  simp [FlagSet.empty]

theorem getLsbD_askedFlags (settings : DrawSettings) (channels : List Channel) (i : Nat) :
    (askedFlags settings channels).bits.getLsbD i =
      ((channels.any fun c => c.flags.bits.getLsbD i) || i == 2 && settings.backfaceCulling) := by
  have width : 2 < enableFlagKind.width := by decide
  rw [askedFlags]
  split
  · rename_i culls
    rw [FlagSet.getLsbD_insert, getLsbD_arrayFlags, backfaceCulling_eq, FlagSet.getLsbD_ofBit width,
      culls, Bool.and_true]
  · rename_i culls
    rw [getLsbD_arrayFlags, Bool.eq_false_iff.mpr culls, Bool.and_false, Bool.or_false]

theorem askedFlags_named (settings : DrawSettings) (channels : List Channel) {i : Nat}
    (h : 3 ≤ i) : (askedFlags settings channels).bits.getLsbD i = false := by
  have first : (i == 0) = false := beq_false_of_ne (by omega)
  have second : (i == 1) = false := beq_false_of_ne (by omega)
  have third : (i == 2) = false := beq_false_of_ne (by omega)
  simp [getLsbD_askedFlags, getLsbD_flags, first, second, third]

theorem tracks_leadCalls (context : DrawContext) (channels : List Channel) (view : PipelineView) :
    Tracks context (context.flushed channels) (leadCalls context channels view) := by
  let used := usedUnits channels
  let flags := askedFlags context.settings channels
  have stale := tracks_staleCalls { context with texUnits := context.texUnits ||| used } used
  have flush : Tracks { context with texUnits := used } { context with texUnits := used }
      [.flushPipeline view] := .other fun call inside => by
    cases List.mem_singleton.mp inside
    rfl
  have capabilities := tracks_capabilityCalls { context with texUnits := used } flags
    fun i => askedFlags_named context.settings channels
  have face := tracks_frontFaceCalls { context with texUnits := used, enableFlags := flags }
    context.settings.frontFace
  dsimp only at stale
  rw [or_and_self, staleCalls_or] at stale
  exact (tracks_setUpCalls context 0 channels).append
    (stale.append (flush.append (capabilities.append face)))

theorem isRemembered_tearDownCalls (generic : Nat) (roles : List Role) :
    ∀ call ∈ tearDownCalls generic roles, call.isRemembered = false := by
  apply forall_tearDownCalls
  · exact fun _ => rfl
  · rfl

theorem isRemembered_call (request : DrawRequest) (start : UInt64) (during : Moment) :
    (request.call start during).isRemembered = false := by
  unfold DrawRequest.call
  split <;> rfl

theorem tracks_drawCalls (context : DrawContext) (channels : List Channel) (view : PipelineView)
    (roles : List Role) {draw : DriverCall} (other : draw.isRemembered = false) :
    Tracks context (context.flushed channels)
      (leadCalls context channels view ++ draw :: tearDownCalls 0 roles) := by
  refine (tracks_leadCalls context channels view).append (.other fun call inside => ?_)
  cases inside with
  | head => exact other
  | tail _ inside => exact isRemembered_tearDownCalls 0 roles call inside

end DrawSubmission
