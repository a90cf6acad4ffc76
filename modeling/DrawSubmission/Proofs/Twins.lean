import DrawSubmission.Draw.Prepared
import DrawSubmission.Proofs.Overlays
set_option autoImplicit false

/-!
# A public draw and its prevalidated twin

Runs of one draw under different overrides stay together until its pipeline is flushed, and are one
run in several guises from there on.
-/
namespace DrawSubmission
open SceneM

namespace Guise
variable {α : Type}

end Guise

def Scene.bare (s : Scene) : Scene := { s with calls := #[], log := #[] }

section Past
variable (s : Scene) (calls calls' : Array DriverCall) (log log' : Array Notice)

end Past

section Options
variable (s : Scene)

end Options

/-- Runs under different overrides: they overflow early, before any pipeline is flushed, or they
part at the flush of their pipeline and are one run in several guises. -/
inductive Parted (s : Scene) (run : FlushOptions → EStateM.Result Overflow Scene Unit) : Prop
  | early {overflow : Overflow} {t : Scene} {calls : List DriverCall}
      (same : ∀ options, run options = .error overflow t)
      (told : t.calls.toList = s.calls.toList ++ calls)
      (unflushed : ∀ call ∈ calls, call.isFlush = false)
  | flushed (channels : List Channel) {before : List DriverCall} {lead : Array DriverCall}
      (result : EStateM.Result Overflow Scene Unit)
      (told : lead.toList = s.calls.toList ++ before)
      (unflushed : ∀ call ∈ before, call.isFlush = false)
      (same : ∀ options, ∃ log, run options = Guise.result
        { calls := lead.push (.flushPipeline (s.context.view channels options)), log } result)

theorem Parted.congr {s t : Scene} {run : FlushOptions → EStateM.Result Overflow Scene Unit}
    (h : Parted s run) (same : s.told = t.told) : Parted t run := by
  have calls : s.calls = t.calls := Scene.calls_eq_of_told same
  cases h with
  | early same' told unflushed => exact .early same' (calls ▸ told) unflushed
  | flushed channels result told unflushed parts =>
    rw [Scene.context_eq_of_told same] at parts
    exact .flushed channels result (calls ▸ told) unflushed parts

def thenChange (f : Scene → Scene) :
    EStateM.Result Overflow Scene Unit → EStateM.Result Overflow Scene Unit
  | .ok a t => .ok a (f t)
  | .error overflow t => .error overflow (f t)

section Draw
variable (s : Scene) (request : DrawRequest)

/-- What a draw does once its pipeline is flushed. -/
def DrawRequest.finish (request : DrawRequest) (flushed : FlushedPipeline) : SceneM Unit := do
  issue request
  modify fun s => s.disableAttributes request.attributes flushed

theorem drawOnce_eq (options : FlushOptions) : drawOnce request options s =
    match takePins [] request.attributes s with
    | .error overflow t => .error overflow t
    | .ok _ t => thenChange (fun u => request.attributes.foldl Scene.dropPin u)
        (drawPinned request options t) := by
  change EStateM.bind (takePins [] request.attributes) _ s = _
  unfold EStateM.bind
  cases takePins [] request.attributes s with
  | error overflow t => rfl
  | ok _ t =>
    simp only [SceneM.thenAlways]
    cases drawPinned request options t <;> rfl

end Draw

section Overridden
variable {options : FlushOptions}

end Overridden

end DrawSubmission
