import DrawSubmission.Proofs.Derived
import DrawSubmission.Proofs.Followed
import DrawSubmission.Proofs.Trimmed
set_option autoImplicit false

/-!
# The addresses of a draw

Each channel counts from where its buffer is bound, and so does the draw call of an indexed draw.
The exact addresses are natural numbers; a draw without an outline overflows where one of them
leaves its word, always in a sum.
-/
namespace DrawSubmission

section Exact
variable (s : Scene)

def Scene.exactAddress (a : VertexAttribute) : Nat :=
  (s.buffer a.buffer).base.toNat + a.layout.offset.toNat

def Scene.exactStart (indices : Indices) (first : UInt32) : Nat :=
  (s.buffer indices.buffer).base.toNat + indices.offset.toNat + indices.format.size * first.toNat

namespace DrawRequest
variable (request : DrawRequest)

/-- A readable attribute starts past the last address, or the first index of the draw does. -/
def LeavesWord : Prop :=
  (∃ id ∈ request.attributes, (s.attr id).readable = true ∧
      UInt64.size ≤ s.exactAddress (s.attr id)) ∨
    ∃ indices ∈ request.indices, UInt64.size ≤ s.exactStart indices request.first

def places : List (BufferId × Nat) :=
  ((request.attributes.map s.attr).filter VertexAttribute.readable).map
      (fun a => (a.buffer, s.exactAddress a)) ++
    request.indices.toList.map fun indices => (indices.buffer, s.exactStart indices request.first)

end DrawRequest
end Exact

def DriverCall.place? : DriverCall → Option (BufferId × Nat)
  | setVertexPointer p | setColorPointer p | setNormalPointer p | setTexCoordPointer _ p
  | setGenericPointer _ p _ => some (p.buffer, p.offset.toNat)
  | drawElements _ _ _ buffer offset _ => some (buffer, offset.toNat)
  | _ => none

section Words
variable {s : Scene}

theorem address_eq_exactStart (indices : Indices) (first : UInt32) :
    indices.address (s.buffer indices.buffer).base first =
      Overflow.add.check (s.exactStart indices first) := by
  rw [address_eq_check, Indices.place, Scene.exactStart, Nat.mul_comm first.toNat, Nat.add_assoc]

theorem exists_address_iff (s : Scene) (request : DrawRequest) :
    (∃ start, request.address s = .ok start) ↔
      ∀ indices ∈ request.indices, s.exactStart indices request.first < UInt64.size := by
  unfold DrawRequest.address
  cases request.indices with
  | none => exact iff_of_true ⟨0, rfl⟩ fun _ indexed => nomatch indexed
  | some indices =>
    simp only [address_eq_exactStart, Option.mem_some_iff, forall_eq', Overflow.check]
    split
    · rename_i small
      exact iff_of_true ⟨_, rfl⟩ small
    · rename_i large
      refine iff_of_false ?_ large
      rintro ⟨start, found⟩
      cases found

theorem fits_iff_not_leavesWord {request : DrawRequest} :
    request.Fits s ↔ ¬ request.LeavesWord s := by
  have addresses := exists_channels_iff s request.attributes
  have start := exists_address_iff s request
  have both : request.Fits s ↔ (∃ channels, s.channels request.attributes = .ok channels) ∧
      ∃ start, request.address s = .ok start :=
    ⟨fun fits => ⟨fits.readable, fits.addressed⟩, fun both => ⟨both.1, both.2⟩⟩
  rw [both, addresses, start, DrawRequest.LeavesWord]
  simp only [not_or, not_exists, not_and, Nat.not_le]
  rfl

end Words

/-! ### Which operation overflows -/

namespace SceneM
variable {α β : Type}

/-- If the computation overflows, then in a sum or at a full counter. -/
def OnlyAdds (m : SceneM α) : Prop :=
  Ensures (fun _ => True) m (fun _ _ => True) fun cause _ => cause = .count ∨ cause = .add

namespace OnlyAdds

theorem bind {m : SceneM α} {f : α → SceneM β} (first : OnlyAdds m) (rest : ∀ a, OnlyAdds (f a)) :
    OnlyAdds (m >>= f) :=
  Ensures.bind first rest

theorem modify (f : Scene → Scene) : OnlyAdds (modify f : SceneM Unit) := fun _ _ => trivial

theorem get_bind {f : Scene → SceneM β} (rest : ∀ s, OnlyAdds (f s)) : OnlyAdds (get >>= f) :=
  bind (fun _ _ => trivial) rest

theorem foldlM {f : β → α → SceneM β} (round : ∀ b x, OnlyAdds (f b x)) (xs : List α) (b : β) :
    OnlyAdds (xs.foldlM f b) :=
  Ensures.foldlM (I := fun _ _ _ => True) xs [] b fun _ x _ b' _ => round b' x

end OnlyAdds
end SceneM

open SceneM

theorem onlyAdds_bindBuffer (id : BufferId) (target : BindTarget) :
    OnlyAdds (bindBuffer id target) :=
  .of_each fun s _ => (bindBuffer_ensures s id target).mono (fun _ _ _ => trivial)
    fun _ _ counted => .inl counted.1

theorem onlyAdds_setUpChannel (setUp : SetUp) (id : AttributeId) :
    OnlyAdds (Scene.setUpChannel setUp id) := by
  refine .get_bind fun s => ?_
  dsimp only
  split
  · refine (onlyAdds_bindBuffer _ _).bind fun _ t _ => ?_
    unfold Scene.connectBound
    cases addressed : (s.attr id).pointer (t.buffer (s.attr id).buffer).base with
    | error cause => exact .inr (VertexAttribute.pointer_error addressed)
    | ok pointer =>
      by_cases spent : largestCount < (t.connect setUp (s.attr id) pointer).1.generic
      · simp only [spent, ↓reduceIte]
        exact .inl trivial
      · simp only [spent, ↓reduceIte]
  · exact (OnlyAdds.modify _).bind fun _ _ _ => trivial

theorem onlyAdds_issue (request : DrawRequest) : OnlyAdds (issue request) := by
  unfold issue
  cases request.indices with
  | none => exact .modify _
  | some indices =>
    refine (onlyAdds_bindBuffer _ _).bind fun _ t _ => ?_
    simp only [issueBound, address_eq_check]
    split <;> rename_i outcome <;> split at outcome <;> cases outcome
    · trivial
    · rename_i failed
      exact .inr (Overflow.check_eq_error_iff.mp failed).1.symm

theorem onlyAdds_drawOnce (request : DrawRequest) (options : FlushOptions) :
    OnlyAdds (drawOnce request options) := by
  have enabled : OnlyAdds (enableAttributes request.attributes options) :=
    .get_bind fun s => (OnlyAdds.foldlM onlyAdds_setUpChannel _ _).bind fun setUp _ _ => trivial
  have drawn (s : Scene) : Ensures (fun t => t = s) (drawPinned request options)
      (fun _ _ => True) fun cause _ => cause = .count ∨ cause = .add := by
    rw [drawPinned_counted]
    exact fun t _ => (enabled.bind fun flushed => (onlyAdds_issue request).bind fun _ =>
      .modify _) t trivial
  exact .of_each fun s _ => ensures_withPins (drawn _) (.inl rfl)

theorem onlyAdds_validateLayer (pipeline : Pipeline) (validation : LayerValidation)
    (index : UInt32) : OnlyAdds (LayerValidation.validateLayer pipeline validation index) := by
  intro s _
  simp only [LayerValidation.validateLayer]
  split <;> rename_i outcome <;> split at outcome <;> cases outcome
  · trivial
  · exact .inr rfl

theorem onlyAdds_ownDraw (request : DrawRequest) (prevalidated : Bool) :
    OnlyAdds (ownDraw request prevalidated) := by
  have prepared : OnlyAdds prepareDraw := by
    refine (OnlyAdds.modify _).bind fun _ => .get_bind fun s => ?_
    refine (OnlyAdds.foldlM (onlyAdds_validateLayer _) _ _).bind fun validation => ?_
    exact (OnlyAdds.modify _).bind fun _ _ _ => trivial
  unfold ownDraw
  split
  · exact onlyAdds_drawOnce request {}
  · exact prepared.bind (onlyAdds_drawOnce request)

/-! ### What the driver is told -/

section Calls
variable {s : Scene}

def placesOf (calls : List DriverCall) : List (BufferId × Nat) :=
  calls.filterMap DriverCall.place?

theorem placesOf_append (xs ys : List DriverCall) :
    placesOf (xs ++ ys) = placesOf xs ++ placesOf ys :=
  List.filterMap_append

theorem placesOf_eq_nil {calls : List DriverCall} (h : ∀ call ∈ calls, call.place? = none) :
    placesOf calls = [] :=
  List.filterMap_eq_nil_iff.mpr h

theorem placesOf_setUpCalls (units : BitVec 32) (generic : Nat) (channels : List Channel) :
    placesOf (setUpCalls units generic channels) =
      channels.map fun c => (c.pointer.buffer, c.pointer.offset.toNat) := by
  induction channels generalizing units generic with
  | nil => rfl
  | cons c channels ih =>
    have first : placesOf (c.setUpCalls units generic) =
        [(c.pointer.buffer, c.pointer.offset.toNat)] := by
      unfold Channel.setUpCalls
      cases c.role with
      | textureCoord unit => dsimp only; split <;> rfl
      | position | color | normal | custom => rfl
    rw [setUpCalls, placesOf_append, ih, first, List.map_cons, List.singleton_append]

theorem placesOf_leadCalls (context : DrawContext) (channels : List Channel)
    (view : PipelineView) : placesOf (leadCalls context channels view) =
      channels.map fun c => (c.pointer.buffer, c.pointer.offset.toNat) := by
  have flushed : placesOf (flushCalls context channels view) = [] :=
    placesOf_eq_nil (forall_flushCalls (fun _ => rfl) rfl (fun _ _ => rfl) fun _ => rfl)
  rw [leadCalls, placesOf_append, placesOf_setUpCalls, flushed, List.append_nil]

theorem placesOf_tearDownCalls (generic : Nat) (roles : List Role) :
    placesOf (tearDownCalls generic roles) = [] := by
  apply placesOf_eq_nil
  apply forall_tearDownCalls
  · exact fun _ => rfl
  · rfl

theorem placesOf_entryCalls (prevalidated : Bool) : placesOf (entryCalls prevalidated) = [] := by
  cases prevalidated <;> rfl

theorem exactAddress_of_channel {a : VertexAttribute} {c : Channel} (h : s.channel a = .ok c) :
    (c.pointer.buffer, c.pointer.offset.toNat) = (a.buffer, s.exactAddress a) := by
  have pointed := channel_pointer h
  unfold VertexAttribute.pointer at pointed
  cases sum : addChecked (s.buffer a.buffer).base a.layout.offset with
  | error cause =>
    rw [sum] at pointed
    cases pointed
  | ok offset =>
    rw [sum] at pointed
    have same := Except.ok.inj pointed
    rw [← same, Scene.exactAddress, ← addChecked_eq_ok_iff.mp sum]

theorem placesOf_call {request : DrawRequest} {start : UInt64} (during : Moment)
    (addressed : request.address s = .ok start) :
    placesOf [request.call start during] =
      request.indices.toList.map fun indices =>
        (indices.buffer, s.exactStart indices request.first) := by
  unfold DrawRequest.address at addressed
  unfold DrawRequest.call
  cases indexed : request.indices with
  | none => rfl
  | some indices =>
    rw [indexed] at addressed
    have stands : start.toNat = s.exactStart indices request.first :=
      Overflow.check_eq_ok_iff.mp
        ((address_eq_exactStart indices request.first).symm.trans addressed)
    change [(indices.buffer, start.toNat)] = _
    rw [stands]
    rfl

theorem placesOf_owned {request : DrawRequest} {options : FlushOptions} {prevalidated : Bool}
    {channels : List Channel} {t : Scene}
    (h : request.Owned options (entryCalls prevalidated) s channels t) :
    placesOf (t.callsSince s.calls.size) = request.places s := by
  obtain ⟨start, during, addressed, calls⟩ := h.calls
  have pointers : channels.map (fun c => (c.pointer.buffer, c.pointer.offset.toNat)) =
      ((request.attributes.map s.attr).filter VertexAttribute.readable).map
        fun a => (a.buffer, s.exactAddress a) :=
    map_of_mapM (fun _ _ => exactAddress_of_channel) h.readable
  rw [callsSince_of_append calls, placesOf_append, placesOf_entryCalls, drawCalls, List.append_cons,
    placesOf_append, placesOf_append, placesOf_leadCalls, placesOf_call during addressed,
    placesOf_tearDownCalls, pointers, List.append_nil, List.nil_append]
  rfl

end Calls

/-! ### Exits -/

section Exits
variable {s : Scene} {prevalidated : Bool} (request : DrawRequest)

theorem fits_ownDraw (passes : s.Passes prevalidated) :
    Ensures (fun t => t = s) (ownDraw request prevalidated) (fun _ _ => request.Fits s)
      (fun cause _ => cause = .count ∨ ¬ request.Fits s) := by
  cases prevalidated with
  | true => exact fits_drawOnce s request {}
  | false =>
    have ready : Ensures (fun t => t = s) prepareDraw (fun _ => Readied s)
        fun _ => Readied s :=
      ensures_iff_after.mpr (readied_prepareDraw s)
    have prepared : Ensures (fun t => t = s) prepareDraw (fun _ => Readied s)
        (fun cause _ => cause = .count ∨ ¬ request.Fits s) :=
      (ready.and (prepareDraw_passes s)).mono (fun _ _ => And.left)
        fun cause t failed => absurd passes failed.2.2
    refine prepared.bind fun options => .of_each fun t ready => ?_
    have fits := (SameStore.of_readied ready).sources.fits_iff request
    exact (fits_drawOnce t request options).mono (fun _ _ => fits.mp) fun _ _ broken =>
      broken.imp_right fun unfit => unfit ∘ fits.mpr

theorem perform_draw_of_not_outlined (off : s.outlinesDraws = false) :
    (Operation.draw request prevalidated).perform s = ownDraw request prevalidated s := by
  have owned := owned_ownDraw s request prevalidated s rfl
  have parts := congrFun (perform_draw request prevalidated) s
  change _ = EStateM.bind (ownDraw request prevalidated) _ s at parts
  rw [parts, EStateM.bind]
  cases outcome : ownDraw request prevalidated s with
  | error cause t => rfl
  | ok _ t =>
    rw [outcome] at owned
    obtain ⟨options, channels, owned⟩ := owned
    have off' : t.outlinesDraws = false := owned.outlinesDraws.trans off
    change (if t.outlinesDraws then overlay drawLines request else pure ()) t = _
    rw [if_neg (by simp [off'])]
    rfl

theorem exit_draw (off : s.outlinesDraws = false) (passes : s.Passes prevalidated)
    (counted : (Operation.draw request prevalidated).Counted s) :
    request.LeavesWord s ∧ (Operation.draw request prevalidated).perform.exit s = .error .add ∨
      ¬ request.LeavesWord s ∧ (Operation.draw request prevalidated).perform.exit s = .ok () ∧
        placesOf ((Operation.draw request prevalidated).told s) = request.places s := by
  have fits := fits_ownDraw request passes s rfl
  have owned := owned_ownDraw s request prevalidated s rfl
  have adds := onlyAdds_ownDraw request prevalidated s trivial
  have counted : (Operation.draw request prevalidated).perform.exit s ≠ .error .count := counted
  rw [exit, perform_draw_of_not_outlined request off] at counted
  rw [Operation.told, Operation.after, after, exit, perform_draw_of_not_outlined request off]
  cases outcome : ownDraw request prevalidated s with
  | error cause t =>
    rw [outcome] at fits adds counted
    have known : cause ≠ .count := fun full => counted (congrArg Except.error full)
    refine .inl ⟨?_, congrArg Except.error (adds.resolve_left known)⟩
    by_contra stays
    exact fits.resolve_left known (fits_iff_not_leavesWord.mpr stays)
  | ok _ t =>
    rw [outcome] at fits owned
    obtain ⟨options, channels, owned⟩ := owned
    exact .inr ⟨fits_iff_not_leavesWord.mp fits, rfl, placesOf_owned owned⟩

theorem exit_trimmed (off : s.outlinesDraws = false)
    (counted : (Operation.draw request prevalidated).Counted s) :
    (Operation.draw (request.trimmed s) prevalidated).perform.exit s =
      (Operation.draw request prevalidated).perform.exit s := by
  have own (request : DrawRequest) : (Operation.draw request prevalidated).perform.exit s =
      (ownDraw request prevalidated).exit s := by
    rw [exit, perform_draw_of_not_outlined request off, exit]
  have counted : (Operation.draw request prevalidated).perform.exit s ≠ .error .count := counted
  rw [own] at counted
  rw [own, own]
  have beside : Alongside (MatchingFrom s request.attributes) s (s.arrays request.attributes)
      (s.arrays (s.readables request.attributes)) (ownDraw request prevalidated s)
      (ownDraw (request.trimmed s) prevalidated s) :=
    alongside_ownDraw request prevalidated counted
  unfold exit
  revert beside
  generalize ownDraw request prevalidated s = outcome
  generalize ownDraw (request.trimmed s) prevalidated s = outcome'
  intro beside
  cases beside <;> rfl

/-- A draw with outlines off that meets no full counter, and whose units can be counted, overflows
just if one of its exact addresses leaves its word, and always in a sum; if none does, it hands the
driver the exact addresses in order. Attributes that it skips make no difference to that, and
attributes in buffers at the first address never overflow. -/
theorem draw_overflows_iff (off : s.outlinesDraws = false) (passes : s.Passes prevalidated)
    (counted : (Operation.draw request prevalidated).Counted s) :
    let exit (request : DrawRequest) :=
      ((Operation.draw request prevalidated).perform.exit s).mapError Overflow.message
    let read := request.attributes.filter fun id => (s.attr id).readable
    (exit request = .error "attempt to add with overflow" ↔ request.LeavesWord s) ∧
      (exit request = .ok () ↔ ¬ request.LeavesWord s) ∧
      (¬ request.LeavesWord s →
        placesOf ((Operation.draw request prevalidated).told s) = request.places s) ∧
      exit { request with attributes := read } = exit request ∧
      ((∀ id ∈ request.attributes, (s.buffer (s.attr id).buffer).base = 0) →
        request.LeavesWord s →
        ∃ indices ∈ request.indices, UInt64.size ≤ s.exactStart indices request.first) := by
  intro exit read
  have decided : request.LeavesWord s ∧ exit request = .error "attempt to add with overflow" ∨
      ¬ request.LeavesWord s ∧ exit request = .ok () := by
    rcases exit_draw request off passes counted with ⟨leaves, failed⟩ | ⟨stays, done, _⟩
    · exact .inl ⟨leaves, by simp only [exit, failed]; rfl⟩
    · exact .inr ⟨stays, by simp only [exit, done]; rfl⟩
  refine ⟨?_, ?_, ?_, ?_, ?_⟩
  · rcases decided with ⟨leaves, failed⟩ | ⟨stays, done⟩
    · exact iff_of_true failed leaves
    · exact iff_of_false (by simp [done]) stays
  · rcases decided with ⟨leaves, failed⟩ | ⟨stays, done⟩
    · exact iff_of_false (by simp [failed]) (not_not_intro leaves)
    · exact iff_of_true done stays
  · intro stays
    rcases exit_draw request off passes counted with ⟨leaves, _⟩ | ⟨_, _, told⟩
    · exact absurd leaves stays
    · exact told
  · exact congrArg (Except.mapError Overflow.message) (exit_trimmed request off counted)
  · rintro grounded (⟨id, inside, _, large⟩ | indexed)
    · have small := (s.attr id).layout.offset.toNat_lt_size
      rw [Scene.exactAddress, grounded id inside, UInt64.toNat_zero, Nat.zero_add] at large
      exact absurd small (Nat.not_lt.mpr large)
    · exact indexed

/-- Positions that start at the last address, normals that start past it, and positions that no
channel reads. -/
def lastAddress : List Operation :=
  [ .newBuffer (Array.replicate 36 0) (.device 18446744073709551612),
    .newAttribute false ⟨0⟩ "strand_position_in" ⟨3, .float, 0, 3⟩,
    .newAttribute false ⟨0⟩ "strand_normal_in" ⟨3, .float, 0, 4⟩,
    .newAttribute false ⟨0⟩ "strand_position_in" ⟨3, .byte, 0, 5⟩ ]

theorem draw_overflows_iff_lastAddress :
    let s := (Scene.create {} []).run lastAddress
    let positions : DrawRequest := ⟨.triangleList, 0, 3, [⟨0⟩, ⟨2⟩], none⟩
    let both : DrawRequest := ⟨.triangleList, 0, 3, [⟨0⟩, ⟨1⟩], none⟩
    s.outlinesDraws = false ∧ s.Passes true ∧ (Operation.draw positions true).Counted s ∧
      (Operation.draw both true).Counted s ∧ ¬ positions.LeavesWord s ∧
      placesOf ((Operation.draw positions true).told s) = [(⟨0⟩, 18446744073709551615)] ∧
      both.LeavesWord s := by
  intro s positions both
  have off : s.outlinesDraws = false := by decide +kernel
  have passes : s.Passes true := .inl rfl
  have counted : (Operation.draw positions true).Counted s := by decide +kernel
  have counted' : (Operation.draw both true).Counted s := by decide +kernel
  obtain ⟨_, completes, told, _⟩ := draw_overflows_iff positions off passes counted
  obtain ⟨overflows, _⟩ := draw_overflows_iff both off passes counted'
  have stays : ¬ positions.LeavesWord s := completes.mp (by decide +kernel)
  have places : positions.places s = [(⟨0⟩, 18446744073709551615)] := by decide +kernel
  exact ⟨off, passes, counted, counted', stays, (told stays).trans places,
    overflows.mp (by decide +kernel)⟩

end Exits

end DrawSubmission
