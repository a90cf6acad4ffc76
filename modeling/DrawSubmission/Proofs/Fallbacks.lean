import Mathlib.Data.List.Dedup
import DrawSubmission.Draw.Prepared
import DrawSubmission.Proofs.Migrations
set_option autoImplicit false

namespace DrawSubmission

def Scene.Warns (warnings : List Notice) (s t : Scene) : Prop :=
  ∃ notices, t.log.toList = s.log.toList ++ notices ∧
    notices.filter (fun notice => notice.level = .warn) = warnings

namespace Scene.Warns
variable {s t u : Scene} {warnings warnings' : List Notice}

theorem of_log (h : t.log = s.log) : Warns [] s t := ⟨[], by rw [h, List.append_nil], rfl⟩

theorem trans (h : Warns warnings s t) (h' : Warns warnings' t u) :
    Warns (warnings ++ warnings') s u := by
  obtain ⟨xs, log, rfl⟩ := h
  obtain ⟨ys, log', rfl⟩ := h'
  exact ⟨xs ++ ys, by rw [log', log, List.append_assoc], List.filter_append ..⟩

theorem note (s : Scene) (notice : Notice) :
    Warns (if notice.level = .warn then [notice] else []) s (s.note notice) := by
  refine ⟨[notice], Array.toList_push, ?_⟩
  split <;> rename_i level <;> simp [level]

theorem leaveAtlas (s : Scene) (id : TextureId) : Warns [] s (s.leaveAtlas id) := by
  simp only [Scene.leaveAtlas]
  split
  · exact (note s .textureLeftAtlas).trans (.of_log rfl)
  · exact .of_log rfl

theorem prepareMipmaps (s : Scene) (id : TextureId) : Warns [] s (s.prepareMipmaps id) := by
  simp only [Scene.prepareMipmaps]
  split
  · exact (note s .mipmapsRegenerated).trans (.of_log rfl)
  · exact .of_log rfl

end Scene.Warns

namespace LayerValidation

section State

end State

section Scene
variable (pipeline : Pipeline) (s : Scene)

section Again
variable {s : Scene}

end Again

end Scene

end LayerValidation

open LayerValidation

end DrawSubmission
