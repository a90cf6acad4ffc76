import DrawSubmission.Scene.Basic
import DrawSubmission.Scene.Frames
import DrawSubmission.Scene.Lookup
import DrawSubmission.Scene.Outcome
import DrawSubmission.Scene.Pipelines
set_option autoImplicit false

namespace DrawSubmission.Scene

/-- The scene without what the context remembers of the driver, without bindings and without the
records of the past. -/
def kept (s : Scene) : Scene :=
  { s with
    buffers := s.buffers.map Buffer.kept
    context :=
      { s.context with texUnits := 0, enableFlags := .empty, flushedFrontFace := none }
    calls := #[]
    log := #[] }

/-- The scene without what the context remembers of the driver and without the records of the past,
up to the notices about bindings. -/
def still (s : Scene) : Scene :=
  { s with
    context :=
      { s.context with texUnits := 0, enableFlags := .empty, flushedFrontFace := none }
    calls := #[]
    log := s.log.filter Notice.isBinding }

variable {s t : Scene}

theorem kept_of_still (h : t.still = s.still) : t.kept = s.kept :=
  (congrArg kept h :)

theorem still_note {notice : Notice} (other : notice.isBinding = false) :
    (s.note notice).still = s.still := by
  simp [still, note, other]

theorem buffer_kept (s : Scene) (id : BufferId) : s.kept.buffer id = (s.buffer id).kept := by
  simp only [buffer, kept, Array.getD_eq_getD_getElem?, Array.getElem?_map]
  cases s.buffers[id.index]? <;> rfl

theorem buffer_kept_eq_getD (s : Scene) (id : BufferId) :
    (s.buffer id).kept = (s.buffers.toList.map Buffer.kept)[id.index]?.getD default := by
  rw [← buffer_kept, buffer, Array.getD_eq_getD_getElem?, ← Array.getElem?_toList, kept,
    Array.toList_map]

section Agree
variable (h : t.kept = s.kept)
include h

theorem attributes_eq_of_kept : t.attributes = s.attributes := (congrArg Scene.attributes h :)

theorem attr_eq_of_kept (id : AttributeId) : t.attr id = s.attr id :=
  (congrArg (fun u : Scene => u.attr id) h :)

theorem warned_eq_of_kept : t.warned = s.warned := (congrArg Scene.warned h :)

theorem settings_eq_of_kept : t.context.settings = s.context.settings :=
  (congrArg (fun u : Scene => u.context.settings) h :)

theorem sources_eq_of_kept : t.context.sources = s.context.sources :=
  (congrArg (fun u : Scene => u.context.sources) h :)

theorem defaultSource_eq_of_kept : t.context.defaultSource = s.context.defaultSource :=
  (congrArg (fun u : Scene => u.context.defaultSource) h :)

theorem wirePipeline_eq_of_kept : t.context.wirePipeline = s.context.wirePipeline :=
  (congrArg (fun u : Scene => u.context.wirePipeline) h :)

theorem buffers_size_eq_of_kept : t.buffers.size = s.buffers.size := by
  have sizes := congrArg (fun u : Scene => u.buffers.size) h
  simpa only [kept, Array.size_map] using sizes

theorem buffer_kept_eq_of_kept (id : BufferId) : (t.buffer id).kept = (s.buffer id).kept := by
  have buffers := congrArg (fun u : Scene => u.buffer id) h
  simpa only [buffer_kept] using buffers

end Agree

theorem kept_setBuffer_eq (s : Scene) (id : BufferId) (b : Buffer) :
    (s.setBuffer id b).kept = s.kept.setBuffer id b.kept := by
  simp only [kept, setBuffer, Array.map_setIfInBounds]

theorem kept_setBuffer {id : BufferId} {b : Buffer} (h : b.kept = (s.buffer id).kept) :
    (s.setBuffer id b).kept = s.kept := by
  rw [kept_setBuffer_eq, h, ← buffer_kept, setBuffer_buffer]

end DrawSubmission.Scene

namespace DrawSubmission

open SceneM

/-- A relation of scenes that binding buffers and talking to the driver stay in. -/
structure BindFrame (R : Scene → Scene → Prop) : Prop where
  refl (s : Scene) : R s s
  trans {s t u : Scene} : R s t → R t u → R s u
  of_still {s t : Scene} : t.still = s.still → R s t
  setBinding (s : Scene) (id : BufferId) (bound : Option BindTarget) (bindCount : Nat) :
    R s (s.setBuffer id { s.buffer id with bound, bindCount })
  note (s : Scene) {notice : Notice} : notice.isBinding = true → R s (s.note notice)

namespace BindFrame
variable {R : Scene → Scene → Prop} (frame : BindFrame R) (s : Scene) (id : BufferId)
  (target : BindTarget)
include frame

theorem attach : R s (s.attach id target) := by
  unfold Scene.attach
  cases (s.buffer id).bound with
  | none => exact frame.setBinding s id _ _
  | some previous => exact frame.trans (frame.note s rfl) (frame.setBinding _ id _ _)

theorem bind : R s (s.bind id target) :=
  frame.trans (frame.attach s id target) (frame.setBinding _ id _ _)

theorem bindBuffer : R s ((bindBuffer id target).after s) := by
  unfold DrawSubmission.bindBuffer after
  by_cases full : Full (s.buffer id).bindCount
  · simp only [full, ↓reduceIte]
    exact frame.attach s id target
  · simp only [full, ↓reduceIte]
    exact frame.bind s id target

theorem unbind : R s (s.unbind id) := by
  unfold Scene.unbind
  split
  · exact frame.setBinding s id _ _
  · exact frame.note s rfl

theorem keeps {α : Type} {m : SceneM α} (h : ∀ t, R t (m.after t)) : Keeps (R s) m :=
  fun t same => frame.trans same (h t)

end BindFrame

namespace Scene

theorem kept_bindFrame : BindFrame fun s t => t.kept = s.kept where
  refl _ := rfl
  trans h h' := h'.trans h
  of_still := kept_of_still
  setBinding _ _ _ _ := kept_setBuffer rfl
  note _ _ _ := rfl

theorem kept_attach (s : Scene) (id : BufferId) (target : BindTarget) :
    (s.attach id target).kept = s.kept := kept_bindFrame.attach s id target

theorem kept_bind (s : Scene) (id : BufferId) (target : BindTarget) :
    (s.bind id target).kept = s.kept := kept_bindFrame.bind s id target

theorem kept_bindBuffer (s : Scene) (id : BufferId) (target : BindTarget) :
    ((bindBuffer id target).after s).kept = s.kept := kept_bindFrame.bindBuffer s id target

theorem kept_unbind (s : Scene) (id : BufferId) : (s.unbind id).kept = s.kept :=
  kept_bindFrame.unbind s id

end Scene

theorem bindBuffer_ensures (s : Scene) (id : BufferId) (target : BindTarget) :
    Ensures (fun t => t = s) (bindBuffer id target) (fun _ t => t = s.bind id target)
      fun cause t => cause = .count ∧ Full (s.buffer id).bindCount ∧ t = s.attach id target := by
  rintro t rfl
  simp only [bindBuffer]
  by_cases full : Full (t.buffer id).bindCount
  · rw [if_pos full]
    exact ⟨rfl, full, rfl⟩
  · rw [if_neg full]

theorem mapBuffer_after (s : Scene) (id : BufferId) (access : MapAccess) :
    (mapBuffer id access).after s = s ∨ ∃ mapCount, (s.buffer id).mapped = false ∧
      (mapBuffer id access).after s =
        s.setBuffer id { s.buffer id with mapped := true, mapCount } := by
  simp only [mapBuffer, after]
  cases map : (s.buffer id).map id access with
  | error error => exact .inl rfl
  | ok mapped =>
    obtain ⟨free, rfl⟩ := Buffer.map_eq_ok map
    right
    dsimp only
    split <;> rename_i outcome <;> split at outcome <;> cases outcome
    · exact ⟨_, free, rfl⟩
    · exact ⟨_, free, rfl⟩

theorem keeps_mapBuffer {P : Scene → Prop} (set : ∀ s id b, P s → P (s.setBuffer id b))
    (id : BufferId) (access : MapAccess) : Keeps P (mapBuffer id access) := by
  intro s hs
  rcases mapBuffer_after s id access with same | ⟨_, _, same⟩
  · rwa [same]
  · rw [same]
    exact set s id _ hs

end DrawSubmission

namespace DrawSubmission.Scene

/-- What the driver has been told, and the context that told it. -/
def told (s : Scene) : Array DriverCall × DrawContext := (s.calls, s.context)

theorem calls_eq_of_told {s t : Scene} (h : t.told = s.told) : t.calls = s.calls :=
  (congrArg Prod.fst h :)

theorem context_eq_of_told {s t : Scene} (h : t.told = s.told) : t.context = s.context :=
  (congrArg Prod.snd h :)

theorem told_frame : Frame fun s t => t.told = s.told where
  refl _ := rfl
  trans h h' := h'.trans h
  setAttributes _ _ := rfl
  setPins _ _ _ := rfl
  warn _ _ := rfl
  note _ _ _ := rfl

theorem told_attach (s : Scene) (id : BufferId) (target : BindTarget) :
    (s.attach id target).told = s.told := by
  simp only [attach]
  split <;> rfl

theorem told_bind (s : Scene) (id : BufferId) (target : BindTarget) :
    (s.bind id target).told = s.told :=
  told_attach s id target

theorem told_bindBuffer (s : Scene) (id : BufferId) (target : BindTarget) :
    ((bindBuffer id target).after s).told = s.told := by
  unfold bindBuffer SceneM.after
  by_cases full : Full (s.buffer id).bindCount
  · simp only [full, ↓reduceIte, told_attach]
  · simp only [full, ↓reduceIte, told_bind]

theorem told_unbind (s : Scene) (id : BufferId) : (s.unbind id).told = s.told := by
  simp only [unbind]
  split <;> rfl

theorem told_changeIf (needed : Bool) (d : Derivation) (f : Pipeline → Pipeline) (s : Scene) :
    (d.changeIf needed f s).2.told = s.told := by
  unfold Derivation.changeIf Derivation.change
  cases needed <;> cases d.copy <;> rfl

theorem told_derivePipeline (s : Scene) (d : Derivation) (options : FlushOptions) :
    (s.derivePipeline d options).2.told = s.told := by
  simp only [derivePipeline]
  split <;> simp only [told_changeIf]

def mapCounts (s : Scene) (id : BufferId) : Nat := (s.buffer id).mapCount

theorem mapCounts_setBuffer {s : Scene} {id : BufferId} {b : Buffer}
    (same : b.mapCount = (s.buffer id).mapCount) : (s.setBuffer id b).mapCounts = s.mapCounts := by
  funext other
  rw [mapCounts, buffer_setBuffer]
  split
  · rename_i here
    rw [same, here.1]
    rfl
  · rfl

theorem mapCounts_pinFrame : PinFrame fun s t => t.mapCounts = s.mapCounts where
  refl _ := rfl
  trans h h' := h'.trans h
  setPins _ _ _ := mapCounts_setBuffer rfl
  setAttrPins _ _ _ := rfl
  unreleased _ _ := rfl

theorem mapCounts_bindFrame : BindFrame fun s t => t.mapCounts = s.mapCounts where
  refl _ := rfl
  trans h h' := h'.trans h
  of_still h := (congrArg mapCounts h :)
  setBinding _ _ _ _ := mapCounts_setBuffer rfl
  note _ _ _ := rfl

end DrawSubmission.Scene
