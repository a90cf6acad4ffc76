import Mathlib.Logic.Function.Basic
import DrawSubmission.Driver.Call
set_option autoImplicit false

/-!
# Replaying recorded calls

A driver caches nothing: what it holds is decided by the calls that it has received. Replaying a
record gives the arrays that are on, the capabilities, the winding and the pointers.
-/
namespace DrawSubmission

structure DriverState where
  texCoordArray : Fin 32 → Bool := fun _ => false
  normalArray : Bool := false
  genericArray : Nat → Bool := fun _ => false
  capabilities : EnableFlags := .empty
  frontFace : Option FrontFace := none
  vertexPointer : Option Pointer := none
  colorPointer : Option Pointer := none
  normalPointer : Option Pointer := none
  texCoordPointer : Fin 32 → Option Pointer := fun _ => none
  /-- The pointer and whether its components are normalized. -/
  genericPointer : Nat → Option (Pointer × Bool) := fun _ => none

namespace DriverState

def apply (d : DriverState) : DriverCall → DriverState
  | .setVertexPointer pointer => { d with vertexPointer := some pointer }
  | .setColorPointer pointer => { d with colorPointer := some pointer }
  | .setNormalArrayEnabled enabled => { d with normalArray := enabled }
  | .setNormalPointer pointer => { d with normalPointer := some pointer }
  | .setTexCoordArrayEnabled unit enabled =>
    { d with texCoordArray := Function.update d.texCoordArray unit enabled }
  | .setTexCoordPointer unit pointer =>
    { d with texCoordPointer := Function.update d.texCoordPointer unit (some pointer) }
  | .setGenericArrayEnabled index enabled =>
    { d with genericArray := Function.update d.genericArray index enabled }
  | .setGenericPointer index pointer normalized =>
    { d with
      genericPointer := Function.update d.genericPointer index (some (pointer, normalized)) }
  | .setCapability capability enabled =>
    { d with capabilities := d.capabilities.set capability enabled }
  | .setFrontFace face => { d with frontFace := some face }
  | .flushJournal | .flushFramebufferState | .createPipeline | .flushPipeline _ | .drawArrays ..
  | .drawElements .. | .createVertexArray .. => d

def run (d : DriverState) (calls : List DriverCall) : DriverState := calls.foldl apply d

theorem run_nil (d : DriverState) : d.run [] = d := rfl

theorem run_cons (d : DriverState) (call : DriverCall) (calls : List DriverCall) :
    d.run (call :: calls) = (d.apply call).run calls := rfl

theorem run_append (d : DriverState) (xs ys : List DriverCall) :
    d.run (xs ++ ys) = (d.run xs).run ys := List.foldl_append

end DriverState

def replay (calls : List DriverCall) : DriverState := DriverState.run {} calls

theorem replay_append (xs ys : List DriverCall) : replay (xs ++ ys) = (replay xs).run ys :=
  DriverState.run_append {} xs ys

namespace DriverCall

/-- A toggle of a coordinate array or of a capability changes it, and a winding is not the one that
the driver has. Other calls may repeat. -/
def Changes (d : DriverState) : DriverCall → Prop
  | setTexCoordArrayEnabled unit enabled => d.texCoordArray unit ≠ enabled
  | setCapability capability enabled => d.capabilities.contains capability ≠ enabled
  | setFrontFace face => d.frontFace ≠ some face
  | _ => True

end DriverCall

def EachChanges : DriverState → List DriverCall → Prop
  | _, [] => True
  | d, call :: calls => call.Changes d ∧ EachChanges (d.apply call) calls

theorem eachChanges_append {d : DriverState} {xs ys : List DriverCall} :
    EachChanges d (xs ++ ys) ↔ EachChanges d xs ∧ EachChanges (d.run xs) ys := by
  induction xs generalizing d with
  | nil => simp only [List.nil_append, EachChanges, DriverState.run_nil, true_and]
  | cons call xs ih =>
    simp only [List.cons_append, EachChanges, DriverState.run_cons, ih, and_assoc]

theorem EachChanges.at {d : DriverState} {xs ys : List DriverCall} {call : DriverCall}
    (h : EachChanges d (xs ++ call :: ys)) : call.Changes (d.run xs) :=
  (eachChanges_append.mp h).2.1

end DrawSubmission
