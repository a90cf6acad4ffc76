import DrawSubmission.Scene.Frames
import DrawSubmission.Scene.Pins
set_option autoImplicit false

namespace DrawSubmission

def Scene.bindingNotices (s : Scene) : List Notice := s.log.toList.filter Notice.isBinding

/-- Buffers are bound as before and have been bound as often, and no notice about it is new. -/
structure SameBindings (s t : Scene) : Prop where
  bound : ∀ b, (t.buffer b).bound = (s.buffer b).bound
  count : ∀ b, (t.buffer b).bindCount = (s.buffer b).bindCount
  notices : t.bindingNotices = s.bindingNotices

namespace SameBindings
variable {s t u : Scene}

theorem refl (s : Scene) : SameBindings s s := ⟨fun _ => rfl, fun _ => rfl, rfl⟩

theorem trans (h : SameBindings s t) (h' : SameBindings t u) : SameBindings s u where
  bound b := (h'.bound b).trans (h.bound b)
  count b := (h'.count b).trans (h.count b)
  notices := h'.notices.trans h.notices

theorem of_still (h : t.still = s.still) : SameBindings s t where
  bound b := (congrArg (fun u : Scene => (u.buffer b).bound) h :)
  count b := (congrArg (fun u : Scene => (u.buffer b).bindCount) h :)
  notices := by
    have same : t.log.filter Notice.isBinding = s.log.filter Notice.isBinding :=
      congrArg Scene.log h
    simpa only [Scene.bindingNotices, Array.toList_filter] using congrArg Array.toList same

theorem of_same (buffers : t.buffers = s.buffers) (log : t.log = s.log) : SameBindings s t where
  bound b := by rw [Scene.buffer, buffers, Scene.buffer]
  count b := by rw [Scene.buffer, buffers, Scene.buffer]
  notices := by rw [Scene.bindingNotices, log, Scene.bindingNotices]

theorem addBuffer (s : Scene) {x : Buffer} (unbound : x.bound = none)
    (uncounted : x.bindCount = 0) : SameBindings s (s.addBuffer x).2 := by
  have fresh (b : BufferId) (last : b.index = s.buffers.size) : s.buffer b = default :=
    Scene.buffer_of_le s b (Nat.le_of_eq last.symm)
  refine ⟨fun b => ?_, fun b => ?_, rfl⟩
  · rw [Scene.buffer_addBuffer]
    split
    · rename_i last
      rw [unbound, fresh b last]
      rfl
    · rfl
  · rw [Scene.buffer_addBuffer]
    split
    · rename_i last
      rw [uncounted, fresh b last]
      rfl
    · rfl

theorem note (s : Scene) {notice : Notice} (other : notice.isBinding = false) :
    SameBindings s (s.note notice) :=
  .of_still (Scene.still_note other)

theorem setBuffer {id : BufferId} {b : Buffer} (bound : b.bound = (s.buffer id).bound)
    (count : b.bindCount = (s.buffer id).bindCount) : SameBindings s (s.setBuffer id b) := by
  have lookup := s.buffer_setBuffer id
  refine ⟨fun other => ?_, fun other => ?_, rfl⟩
  · rw [lookup]
    split
    · rename_i here
      rw [bound, here.1]
    · rfl
  · rw [lookup]
    split
    · rename_i here
      rw [count, here.1]
    · rfl

theorem frame : Frame SameBindings where
  refl := refl
  trans := trans
  setAttributes _ _ := .of_same rfl rfl
  setPins _ _ _ := setBuffer rfl rfl
  warn _ _ := .of_same rfl rfl
  note := note

theorem renewContext (s : Scene) (settings : DrawSettings) :
    SameBindings s (s.renewContext settings) := by
  let created := s.createPipeline.2.addDiagnostics.2
  have same : SameBindings s created := .of_same rfl rfl
  exact (same.trans (note created rfl)).trans (.of_same rfl rfl)

theorem unmap (s : Scene) (id : BufferId) : SameBindings s (s.unmap id) := setBuffer rfl rfl

theorem map {id : BufferId} {access : MapAccess} {mapped : Buffer}
    (map : (s.buffer id).map id access = .ok mapped) : SameBindings s (s.setBuffer id mapped) := by
  obtain ⟨_, same⟩ := Buffer.map_eq_ok map
  exact setBuffer (by rw [same]) (by rw [same])

end SameBindings

end DrawSubmission
