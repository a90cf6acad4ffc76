import DrawSubmission.Draw
import DrawSubmission.Draw.Guise
set_option autoImplicit false

namespace DrawSubmission

namespace Scene
variable (s : Scene) (g : Guise)

end Scene

open SceneM
variable (g : Guise)

theorem overlooks_prepareDraw {g : Guise} (h : g.textures = none) : Overlooks prepareDraw g := by
  have recorded (call : DriverCall) : Overlooks (modify fun s => s.record call : SceneM Unit) g :=
    .modify fun s => s.record_inGuise g call
  refine (recorded .flushJournal).bind fun _ => .get_bind (fun _ => rfl) fun s => ?_
  refine (overlooks_validateLayers h s.context.source).bind fun validation => ?_
  exact (recorded .flushFramebufferState).bind fun _ => .pure _

end DrawSubmission
