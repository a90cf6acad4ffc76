import DrawSubmission.Proofs.Account
set_option autoImplicit false

namespace DrawSubmission

namespace DriverCall

def isSetUp : DriverCall → Bool
  | setNormalArrayEnabled on | setTexCoordArrayEnabled _ on | setGenericArrayEnabled _ on => on
  | call => call.isPointer

def isTearDown : DriverCall → Bool
  | setNormalArrayEnabled on | setGenericArrayEnabled _ on => !on
  | _ => false

def generic? : DriverCall → Option Nat
  | setGenericArrayEnabled i _ => some i
  | _ => none

def drawn? : DriverCall → Option (Topology × UInt32)
  | drawArrays topology _ count _ => some (topology, count)
  | drawElements topology count .. => some (topology, count)
  | _ => none

end DriverCall

structure Phases where
  setUp : List DriverCall
  /-- Coordinate arrays that are switched off. -/
  stale : List (Fin 32)
  view : PipelineView
  capabilities : List (EnableFlags × Bool)
  face : Option FrontFace
  draw : DriverCall
  tearDown : List DriverCall

namespace Phases

def calls (phases : Phases) : List DriverCall :=
  phases.setUp ++ phases.stale.map (.setTexCoordArrayEnabled · false) ++
    [.flushPipeline phases.view] ++ phases.capabilities.map (fun (c, on) => .setCapability c on) ++
    phases.face.toList.map .setFrontFace ++ [phases.draw] ++ phases.tearDown

structure InOrder (phases : Phases) (topology : Topology) (count : UInt32) : Prop where
  setUp : ∀ call ∈ phases.setUp, call.isSetUp = true
  stale : phases.stale.Pairwise (· < ·)
  capabilities : (phases.capabilities.map Prod.fst).Sublist EnableFlags.capabilities
  draw : phases.draw.drawn? = some (topology, count)
  tearDown : ∀ call ∈ phases.tearDown, call.isTearDown = true
  generics : ∃ n, phases.tearDown.filterMap DriverCall.generic? = List.range n

end Phases

theorem not_isFlush_of_isSetUp {call : DriverCall} (h : call.isSetUp = true) :
    call.isFlush = false := by
  cases call <;> first | rfl | cases h

theorem isSetUp_setUpCalls (units : BitVec 32) (generic : Nat) (channels : List Channel) :
    ∀ call ∈ setUpCalls units generic channels, call.isSetUp = true := by
  induction channels generalizing units generic with
  | nil => exact fun _ inside => nomatch inside
  | cons c channels ih =>
    have first : (c.setUpCalls units generic).all DriverCall.isSetUp = true := by
      unfold Channel.setUpCalls
      cases c.role with
      | textureCoord unit =>
        dsimp only
        cases units.getLsbD unit <;> rfl
      | position | color | normal | custom => rfl
    intro call inside
    rcases List.mem_append.mp inside with here | later
    · exact List.all_eq_true.mp first call here
    · exact ih _ _ call later

theorem isTearDown_tearDownCalls (generic : Nat) (roles : List Role) :
    ∀ call ∈ tearDownCalls generic roles, call.isTearDown = true := by
  apply forall_tearDownCalls
  · exact fun _ => rfl
  · rfl

theorem generics_tearDownCalls (generic : Nat) (roles : List Role) :
    (tearDownCalls generic roles).filterMap DriverCall.generic? =
      List.range' generic (roles.count .custom) := by
  induction roles generalizing generic with
  | nil => rfl
  | cons role roles ih =>
    cases role with
    | custom =>
      rw [List.count_cons_self, List.range'_succ, ← ih (generic + 1)]
      rfl
    | normal | position | color | textureCoord unit =>
      rw [List.count_cons_of_ne (by simp), ← ih generic]
      rfl

section Draw
variable (context : DrawContext) (channels : List Channel) (view : PipelineView)
  (draw : DriverCall) (roles : List Role)

/-- The phases of a single draw from some channels. -/
def Phases.ofDraw : Phases :=
  let asked := askedFlags context.settings channels
  let changed := EnableFlags.capabilities.filter (context.enableFlags.symmDiff asked).contains
  let face := context.settings.frontFace
  { setUp := setUpCalls context.texUnits 0 channels
    stale := Scene.unitsOf (context.texUnits &&& ~~~usedUnits channels)
    view, draw
    capabilities := changed.map fun capability => (capability, asked.contains capability)
    face := if context.flushedFrontFace = some face then none else some face
    tearDown := tearDownCalls 0 roles }

theorem calls_ofDraw :
    (Phases.ofDraw context channels view draw roles).calls =
      drawCalls context channels view draw roles := by
  have turned (old : Option FrontFace) (face : FrontFace) :
      (if old = some face then none else some face).toList.map DriverCall.setFrontFace =
        frontFaceCalls old face := by
    unfold frontFaceCalls
    split <;> rfl
  simp [Phases.calls, Phases.ofDraw, turned, drawCalls, leadCalls, flushCalls, staleCalls,
    capabilityCalls]

theorem inOrder_ofDraw {topology : Topology} {count : UInt32}
    (drawn : draw.drawn? = some (topology, count)) :
    (Phases.ofDraw context channels view draw roles).InOrder topology count where
  setUp := isSetUp_setUpCalls context.texUnits 0 channels
  stale := List.Pairwise.filter _ (List.pairwise_lt_finRange 32)
  capabilities := by
    simp only [Phases.ofDraw, List.map_map]
    refine (List.map_id _).symm ▸ List.filter_sublist
  draw := drawn
  tearDown := isTearDown_tearDownCalls 0 roles
  generics := ⟨_, (generics_tearDownCalls 0 roles).trans List.range_eq_range'.symm⟩

end Draw

theorem DrawRequest.drawn?_call (request : DrawRequest) (start : UInt64) (during : Moment) :
    (request.call start during).drawn? = some (request.topology, request.count) := by
  unfold call
  split <;> rfl

namespace Phases.InOrder
variable {phases : Phases} {topology : Topology} {count : UInt32}

theorem not_idle (h : phases.InOrder topology count) :
    ∀ call ∈ phases.calls, call.isIdle = false := by
  intro call inside
  by_contra idle
  have phase : call ∈ phases.setUp ∨ call = phases.draw ∨ call ∈ phases.tearDown := by
    cases call <;> first | exact absurd rfl idle | simpa [calls] using inside
  rcases phase with setUp | draw | tearDown
  · have known := h.setUp call setUp
    cases call <;> first | exact idle rfl | cases known
  · have known := h.draw
    rw [← draw] at known
    cases call <;> first | exact idle rfl | cases known
  · have known := h.tearDown call tearDown
    cases call <;> first | exact idle rfl | cases known

end Phases.InOrder

theorem not_entry_of_not_idle {call : DriverCall} (h : call.isIdle = false) :
    call ∉ entryCalls false := by
  intro entry
  have flush : call = .flushJournal ∨ call = .flushFramebufferState := by
    simpa [entryCalls] using entry
  rcases flush with rfl | rfl <;> cases h

/-- What follows a draw keeps to the order: nothing, or the upload of an outline, its pipeline if
there was none, and the phases of its lines. -/
inductive OutlineInOrder : List DriverCall → Prop
  | nothing : OutlineInOrder []
  | lines {buffer : BufferId} {data : List UInt8} {made : List DriverCall} {lines : Phases}
      {count : UInt32} (once : made = [] ∨ made = [.createPipeline])
      (inOrder : lines.InOrder .lineList count) :
      OutlineInOrder (.createVertexArray buffer data :: (made ++ lines.calls))

theorem OutlineInOrder.not_entry {calls : List DriverCall} (h : OutlineInOrder calls) :
    ∀ call ∈ calls, call ∉ entryCalls false := by
  cases h with
  | nothing => exact fun _ inside => nomatch inside
  | lines once inOrder =>
    refine List.forall_mem_cons.mpr ⟨by simp [entryCalls], fun call inside => ?_⟩
    rcases List.mem_append.mp inside with making | drawing
    · rcases once with rfl | rfl
      · cases making
      · rw [List.mem_singleton.mp making]
        simp [entryCalls]
    · exact not_entry_of_not_idle (inOrder.not_idle call drawing)

theorem Overlaid.inOrder {s t : Scene} {outline : List Segment} (h : Overlaid s outline t) :
    ∃ calls, t.calls.toList = s.calls.toList ++ calls ∧ OutlineInOrder calls := by
  obtain ⟨during, calls⟩ := h.calls
  refine ⟨_, calls, ?_⟩
  dsimp only
  rw [← calls_ofDraw]
  exact .lines s.context.makingCalls_eq (inOrder_ofDraw _ _ _ _ _ rfl)

/-- A draw that completes flushes pending geometry and the framebuffer first, unless it has been
validated, and then goes through its phases in order; the outline that may follow does the same.
Past the first phase neither geometry nor the framebuffer is flushed. -/
theorem draw_in_order {s : Scene} {request : DrawRequest} {prevalidated : Bool}
    (complete : (Operation.draw request prevalidated).breaksOff s = false) :
    ∃ own : Phases, ∃ outline, own.InOrder request.topology request.count ∧
      OutlineInOrder outline ∧
      ((Operation.draw request prevalidated).after s).calls.toList =
        s.calls.toList ++ (entryCalls prevalidated ++ (own.calls ++ outline)) ∧
      ∀ call ∈ own.calls ++ outline, call ∉ entryCalls false := by
  obtain ⟨t, options, channels, _, owned, overlays⟩ := account_draw complete
  obtain ⟨start, during, _, calls⟩ := owned.calls
  rw [← calls_ofDraw] at calls
  have own := inOrder_ofDraw s.context channels (s.context.view channels options)
    (request.call start during) (request.attributes.map fun id => (s.attr id).role)
    (request.drawn?_call start during)
  have followed : ∃ outline, OutlineInOrder outline ∧
      ((Operation.draw request prevalidated).after s).calls.toList = t.calls.toList ++ outline := by
    cases overlays with
    | nothing told _ =>
      exact ⟨[], .nothing, by rw [Scene.calls_eq_of_told told, List.append_nil]⟩
    | lines _ _ _ overlaid =>
      obtain ⟨outline, appended, inOrder⟩ := overlaid.inOrder
      exact ⟨outline, inOrder, appended⟩
  obtain ⟨outline, inOrder, appended⟩ := followed
  refine ⟨_, outline, own, inOrder, ?_, fun call inside => ?_⟩
  · simp only [appended, calls, List.append_assoc]
  · rcases List.mem_append.mp inside with early | late
    · exact not_entry_of_not_idle (own.not_idle call early)
    · exact inOrder.not_entry call late

theorem draw_in_order_sampleRun :
    let s := (Scene.create {} []).run (sampleRun.take 6)
    let request : DrawRequest := ⟨.triangleList, 0, 3, [⟨0⟩, ⟨1⟩, ⟨2⟩, ⟨1⟩], none⟩
    (Operation.draw request false).breaksOff s = false ∧
      ∃ own : Phases, ∃ outline, own.InOrder .triangleList 3 ∧ OutlineInOrder outline ∧
        ((Operation.draw request false).after s).calls.toList =
          s.calls.toList ++ .flushJournal :: .flushFramebufferState :: (own.calls ++ outline) := by
  intro s request
  have complete : (Operation.draw request false).breaksOff s = false := by decide +kernel
  obtain ⟨own, outline, inOrder, followed, calls, _⟩ := draw_in_order complete
  exact ⟨complete, own, outline, inOrder, followed, calls⟩

end DrawSubmission
