import DrawSubmission.Scene.Frames
import DrawSubmission.Scene.Kept
import DrawSubmission.Scene.Outcome
import DrawSubmission.Scene.Pipelines
set_option autoImplicit false

namespace DrawSubmission

namespace Notice

def isOfChannels : Notice → Bool
  | boundWhileBound .. | unboundWhileNotBound _ => true
  | copyDerived | copyReleased | texCoordArraysDisabled _ => true
  | _ => false

def isOfValidation : Notice → Bool
  | textureLeftAtlas | mipmapsRegenerated | layerDisabled _ => true
  | _ => false

def isOfDraws : Notice → Bool
  | attributeRefused _ | midSceneModification _ | unknownDebugFlag _ | contextCreated _ => false
  | _ => true

theorem isOfDraws_of_isOfChannels {notice : Notice} (h : notice.isOfChannels = true) :
    notice.isOfDraws = true := by
  cases notice <;> first | rfl | cases h

theorem isOfDraws_of_isOfValidation {notice : Notice} (h : notice.isOfValidation = true) :
    notice.isOfDraws = true := by
  cases notice <;> first | rfl | cases h

end Notice

namespace Scene

def notices (s : Scene) (kind : Notice → Bool) : List Notice := s.log.toList.filter kind

variable {s t : Scene} {kind : Notice → Bool}

theorem notices_of_log (h : t.log = s.log) : t.notices kind = s.notices kind := by
  rw [notices, h, notices]

theorem notices_note (s : Scene) (notice : Notice) :
    (s.note notice).notices kind = s.notices kind ++ if kind notice then [notice] else [] := by
  rw [notices, note, Array.toList_push, List.filter_append, List.filter_cons, List.filter_nil]
  rfl

theorem notices_note_of_not {notice : Notice} (other : kind notice = false) (s : Scene) :
    (s.note notice).notices kind = s.notices kind := by
  rw [notices_note, other, if_neg Bool.false_ne_true, List.append_nil]

theorem notices_pinFrame (other : ∀ error, kind (.pinNotReleased error) = false) :
    PinFrame fun s t => t.notices kind = s.notices kind where
  refl _ := rfl
  trans h h' := h'.trans h
  setPins _ _ _ := rfl
  setAttrPins _ _ _ := rfl
  unreleased s error := notices_note_of_not (other error) s

section Bindings
variable (other : ∀ notice, Notice.isBinding notice = true → kind notice = false) (s : Scene)
include other

theorem notices_attach (id : BufferId) (target : BindTarget) :
    (s.attach id target).notices kind = s.notices kind := by
  unfold attach
  cases (s.buffer id).bound with
  | none => rfl
  | some previous => exact notices_note_of_not (other (.boundWhileBound id target previous) rfl) s

theorem notices_bindBuffer (id : BufferId) (target : BindTarget) :
    ((bindBuffer id target).after s).notices kind = s.notices kind := by
  simp only [bindBuffer, SceneM.after]
  by_cases full : Full (s.buffer id).bindCount
  · rw [if_pos full]
    exact notices_attach other s id target
  · rw [if_neg full]
    exact notices_attach other s id target

theorem notices_unbind (id : BufferId) : (s.unbind id).notices kind = s.notices kind := by
  unfold unbind
  split
  · rfl
  · exact notices_note_of_not (other (.unboundWhileNotBound id) rfl) s

end Bindings

section Textures
variable (s : Scene)

theorem notices_leaveAtlas (other : kind .textureLeftAtlas = false) (id : TextureId) :
    (s.leaveAtlas id).notices kind = s.notices kind := by
  simp only [leaveAtlas]
  split
  · exact notices_note_of_not other s
  · rfl

theorem notices_prepareMipmaps (other : kind .mipmapsRegenerated = false) (id : TextureId) :
    (s.prepareMipmaps id).notices kind = s.notices kind := by
  simp only [prepareMipmaps]
  split
  · exact notices_note_of_not other s
  · rfl

end Textures

end Scene

end DrawSubmission
