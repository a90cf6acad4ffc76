import DrawSubmission.Draw.Unpinned
import DrawSubmission.Proofs.Account
import DrawSubmission.Proofs.Serving
set_option autoImplicit false

namespace DrawSubmission

inductive DrawArray where
  | normal
  | generic (index : Nat)
deriving DecidableEq

def DrawArray.switched (on : Bool) : DrawArray → DriverCall
  | normal => .setNormalArrayEnabled on
  | generic index => .setGenericArrayEnabled index on

def DriverCall.switch? : DriverCall → Option (DrawArray × Bool)
  | setNormalArrayEnabled on => some (.normal, on)
  | setGenericArrayEnabled index on => some (.generic index, on)
  | _ => none

def switches (calls : List DriverCall) : List (DrawArray × Bool) :=
  calls.filterMap DriverCall.switch?

/-- The arrays for some roles, where some generic ones are taken. -/
def arraysOf (generic : Nat) : List Role → List DrawArray
  | [] => []
  | .normal :: roles => .normal :: arraysOf generic roles
  | .custom :: roles => .generic generic :: arraysOf (generic + 1) roles
  | _ :: roles => arraysOf generic roles

theorem arraysOf_cons (generic : Nat) (role : Role) : ∃ own next, ∀ roles,
    arraysOf generic (role :: roles) = own ++ arraysOf next roles := by
  cases role with
  | normal => exact ⟨[.normal], generic, fun _ => rfl⟩
  | custom => exact ⟨[.generic generic], generic + 1, fun _ => rfl⟩
  | position | color | textureCoord unit => exact ⟨[], generic, fun _ => rfl⟩

theorem switches_append (xs ys : List DriverCall) :
    switches (xs ++ ys) = switches xs ++ switches ys :=
  List.filterMap_append

theorem switches_eq_nil {calls : List DriverCall} (h : ∀ call ∈ calls, call.switch? = none) :
    switches calls = [] :=
  List.filterMap_eq_nil_iff.mpr h

theorem switches_switched (on : Bool) (arrays : List DrawArray) :
    switches (arrays.map (DrawArray.switched on)) = arrays.map fun array => (array, on) := by
  induction arrays with
  | nil => rfl
  | cons array arrays ih => cases array <;> exact congrArg (List.cons _) ih

theorem tearDownCalls_eq_map (generic : Nat) (roles : List Role) :
    tearDownCalls generic roles = (arraysOf generic roles).map (DrawArray.switched false) := by
  induction roles generalizing generic with
  | nil => rfl
  | cons role roles ih =>
    cases role with
    | normal | custom => exact congrArg (List.cons _) (ih _)
    | position | color | textureCoord unit => exact ih generic

section Calls
variable (channels : List Channel)

theorem switches_setUpCalls (units : BitVec 32) (generic : Nat) :
    switches (setUpCalls units generic channels) =
      (arraysOf generic (channels.map Channel.role)).map fun array => (array, true) := by
  induction channels generalizing units generic with
  | nil => rfl
  | cons c channels ih =>
    rw [setUpCalls, switches_append, ih, List.map_cons]
    cases role : c.role with
    | position | color | normal | custom =>
      simp only [Channel.setUpCalls, Channel.generics, role]
      rfl
    | textureCoord unit =>
      simp only [Channel.setUpCalls, Channel.generics, role]
      split <;> rfl

theorem switches_drawCalls (context : DrawContext) (view : PipelineView) {draw : DriverCall}
    (isDraw : draw.isDraw = true) (roles : List Role) :
    switches (drawCalls context channels view draw roles) =
      (arraysOf 0 (channels.map Channel.role)).map (fun array => (array, true)) ++
        (arraysOf 0 roles).map fun array => (array, false) := by
  have flushed : switches (flushCalls context channels view) = [] :=
    switches_eq_nil (forall_flushCalls (fun _ => rfl) rfl (fun _ _ => rfl) fun _ => rfl)
  have drawn : switches [draw] = [] := by
    cases draw <;> first | rfl | cases isDraw
  rw [drawCalls, leadCalls, List.append_cons, switches_append, switches_append, switches_append,
    switches_setUpCalls, flushed, drawn, tearDownCalls_eq_map, switches_switched, List.append_nil,
    List.append_nil]

end Calls

namespace Scene
variable (s : Scene) (attributes : List AttributeId)

def arrays : List DrawArray := arraysOf 0 (attributes.map fun id => (s.attr id).role)

def skippedNormals : Nat :=
  attributes.countP fun id => !(s.attr id).readable && (s.attr id).role == .normal

end Scene

section Draw
variable {s : Scene}

theorem readable_of_custom {a : VertexAttribute} (custom : a.role = .custom) :
    a.readable = true := by
  rw [VertexAttribute.readable, custom]
  rfl

/-- Custom attributes can always be read, so the generic arrays of a list and of its readable
attributes are the same; the normal array comes up once more for each normal that is skipped. -/
theorem arraysOf_readables (s : Scene) (attributes : List AttributeId) (generic : Nat) :
    let role (id : AttributeId) := (s.attr id).role
    let all := arraysOf generic (attributes.map role)
    let read := arraysOf generic ((s.readables attributes).map role)
    read.Sublist all ∧
      all.Perm (read ++ List.replicate (s.skippedNormals attributes) .normal) := by
  induction attributes generalizing generic with
  | nil => exact ⟨.refl _, .refl _⟩
  | cons id attributes ih =>
    have listed : s.readables (id :: attributes) =
        if (s.attr id).readable then id :: s.readables attributes else s.readables attributes :=
      List.filter_cons
    have counted : s.skippedNormals (id :: attributes) = s.skippedNormals attributes +
        if !(s.attr id).readable && (s.attr id).role == .normal then 1 else 0 := List.countP_cons
    dsimp only
    rw [listed, counted, List.map_cons]
    cases readable : (s.attr id).readable with
    | true =>
      obtain ⟨own, next, first⟩ := arraysOf_cons generic (s.attr id).role
      obtain ⟨sublist, perm⟩ := ih next
      rw [if_pos rfl, List.map_cons, first, first, List.append_assoc]
      exact ⟨sublist.append_left own, perm.append_left own⟩
    | false =>
      obtain ⟨sublist, perm⟩ := ih generic
      rw [if_neg Bool.false_ne_true]
      cases role : (s.attr id).role with
      | normal => exact ⟨sublist.cons _, (perm.cons _).trans List.perm_middle.symm⟩
      | custom => cases (readable_of_custom role).symm.trans readable
      | position | color | textureCoord unit => exact ⟨sublist, perm⟩

theorem switches_owned {request : DrawRequest} {options : FlushOptions} {prevalidated : Bool}
    {channels : List Channel} {t : Scene}
    (h : request.Owned options (entryCalls prevalidated) s channels t) :
    switches (t.callsSince s.calls.size) =
      (s.arrays (s.readables request.attributes)).map (fun array => (array, true)) ++
        (s.arrays request.attributes).map fun array => (array, false) := by
  obtain ⟨start, during, _, calls⟩ := h.calls
  have entry : switches (entryCalls prevalidated) = [] := by cases prevalidated <;> rfl
  have roles : channels.map Channel.role =
      (s.readables request.attributes).map fun id => (s.attr id).role := by
    rw [mapM_role h.readable, List.filter_map, List.map_map]
    rfl
  rw [callsSince_of_append calls, switches_append, entry,
    switches_drawCalls channels s.context _ (request.isDraw_call start during), roles]
  rfl

end Draw

end DrawSubmission
