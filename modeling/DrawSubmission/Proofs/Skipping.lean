import DrawSubmission.Draw.Notices
import DrawSubmission.Draw.Unpinned
import DrawSubmission.Proofs.Account
set_option autoImplicit false

namespace DrawSubmission

theorem isSkip_of_isOfChannels (notice : Notice) (h : notice.isOfChannels = true) :
    notice.isSkip = false := by
  cases notice <;> first | rfl | cases h

def Scene.skips (s : Scene) (attributes : List AttributeId) : List Notice :=
  (attributes.filter fun id => !(s.attr id).readable).map fun id =>
    .attributeSkipped (s.attr id).role (s.attr id).name (s.attr id).layout.type

section Skips
variable {s t : Scene}

theorem skips_snoc (s : Scene) (attributes : List AttributeId) (id : AttributeId) :
    s.skips (attributes ++ [id]) = s.skips attributes ++
      if (s.attr id).readable then []
      else [.attributeSkipped (s.attr id).role (s.attr id).name (s.attr id).layout.type] := by
  rw [Scene.skips, List.filter_append, List.map_append, ← Scene.skips, List.filter_cons]
  cases (s.attr id).readable <;> rfl

theorem skips_congr (same : s.unpinned = t.unpinned) (attributes : List AttributeId) :
    t.skips attributes = s.skips attributes := by
  have readable (id : AttributeId) : (t.attr id).readable = (s.attr id).readable := by
    obtain ⟨pins, here⟩ := attr_unpinned_congr same id
    rw [here]
    rfl
  rw [Scene.skips, Scene.skips]
  simp only [readable]
  apply List.map_congr_left
  intro id _
  obtain ⟨pins, here⟩ := attr_unpinned_congr same id
  rw [here]

theorem skips_readables (s : Scene) (attributes : List AttributeId) :
    s.skips (s.readables attributes) = [] := by
  rw [Scene.skips, Scene.readables, List.filter_filter, List.map_eq_nil_iff,
    List.filter_eq_nil_iff]
  intro id _
  cases (s.attr id).readable <;> decide

theorem skips_prefix {part whole : List AttributeId} (h : part <+: whole) (s : Scene) :
    s.skips part <+: s.skips whole :=
  (h.filter _).map _

theorem unpinned_pinned (s : Scene) (attributes : List AttributeId) :
    (s.pinned attributes).unpinned = s.unpinned :=
  List.foldlRecOn attributes Scene.acquire
    (motive := fun t : Scene => t.unpinned = s.unpinned) rfl fun t same id _ =>
      (t.unpinned_acquire id).trans same

open SceneM

def Skipped (s : Scene) (skips : List Notice) (t : Scene) : Prop :=
  t.notices Notice.isSkip = s.notices Notice.isSkip ++ skips

/-- No other attributes are skipped than those of the list, and none before its turn. -/
def SkippedPart (s : Scene) (attributes : List AttributeId) (t : Scene) : Prop :=
  ∃ skips, skips <+: s.skips attributes ∧ Skipped s skips t

theorem skipped_walk (s : Scene) (attributes : List AttributeId) (setUp : SetUp) :
    Ensures (fun t => t = s) (attributes.foldlM Scene.setUpChannel setUp)
      (fun _ => Skipped s (s.skips attributes)) fun _ => SkippedPart s attributes := by
  let invariant (done : List AttributeId) (_ : SetUp) (t : Scene) : Prop :=
    t.kept = s.kept ∧ Skipped s (s.skips done) t
  have loop : Ensures (invariant [] setUp) (attributes.foldlM Scene.setUpChannel setUp)
      (invariant ([] ++ attributes)) fun _ => SkippedPart s attributes := by
    apply Ensures.foldlM (I := invariant) attributes
    intro done id todo setUp whole t here
    obtain ⟨kept, skipped⟩ := here
    have kept' := (kept_setUpChannel t setUp id).trans kept
    have next : Skipped s (s.skips (done ++ [id])) (after (Scene.setUpChannel setUp id) t) := by
      rw [Skipped, Scene.notices_setUpChannel isSkip_of_isOfChannels, skipped, skips_snoc,
        List.append_assoc, Scene.attr_eq_of_kept kept]
      rfl
    have part : done ++ [id] <+: attributes :=
      ⟨todo, by rw [List.append_assoc, List.singleton_append, ← whole, List.nil_append]⟩
    revert kept' next
    unfold after
    cases Scene.setUpChannel setUp id t with
    | ok _ u => exact fun kept' next => ⟨kept', next⟩
    | error cause u => exact fun _ next => ⟨_, skips_prefix part s, next⟩
  intro t same
  have start : invariant [] setUp t := by
    rw [same]
    exact ⟨rfl, (List.append_nil _).symm⟩
  exact (loop.mono (fun _ _ => And.right) fun _ _ => id) t start

theorem skipped_drawPinned (s : Scene) (request : DrawRequest) (options : FlushOptions) :
    Ensures (fun t => t = s) (drawPinned request options)
      (fun _ => Skipped s (s.skips request.attributes))
      fun _ => SkippedPart s request.attributes := by
  let all := s.skips request.attributes
  have quiet {t u : Scene} (same : u.notices Notice.isSkip = t.notices Notice.isSkip)
      (skipped : Skipped s all t) : Skipped s all u := same.trans skipped
  have enabled : Ensures (fun t => t = s) (enableAttributes request.attributes options)
      (fun _ => Skipped s all) fun _ => SkippedPart s request.attributes := by
    apply Ensures.get_bind
    intro t same
    subst t
    apply (skipped_walk s request.attributes _).bind
    intro setUp t skipped
    exact quiet (Scene.notices_flush isSkip_of_isOfChannels t setUp options) skipped
  rw [drawPinned_counted]
  apply enabled.bind
  intro flushed
  have issued : Ensures (Skipped s all) (issue request) (fun _ => Skipped s all)
      fun _ => SkippedPart s request.attributes := by
    have keeps : Keeps (Skipped s all) (issue request) := fun t skipped =>
      quiet (notices_issue isSkip_of_isOfChannels t request) skipped
    exact (keeps_iff_ensures.mp keeps).mono (fun _ _ => id) fun _ t skipped =>
      ⟨all, List.prefix_refl _, skipped⟩
  apply issued.bind
  intro _
  apply Ensures.modify
  intro t skipped
  exact quiet (Scene.notices_disableAttributes isSkip_of_isOfChannels t _ flushed) skipped

theorem Skipped.congr {s' t' : Scene} {skips : List Notice} (h : Skipped s skips t)
    (start : s'.notices Notice.isSkip = s.notices Notice.isSkip)
    (last : t'.notices Notice.isSkip = t.notices Notice.isSkip) : Skipped s' skips t' := by
  rw [Skipped, last, start]
  exact h

theorem SkippedPart.congr {s' t' : Scene} {attributes : List AttributeId}
    (h : SkippedPart s attributes t) (skips : s.skips attributes = s'.skips attributes)
    (start : s'.notices Notice.isSkip = s.notices Notice.isSkip)
    (last : t'.notices Notice.isSkip = t.notices Notice.isSkip) :
    SkippedPart s' attributes t' := by
  obtain ⟨xs, part, skipped⟩ := h
  rw [skips] at part
  exact ⟨xs, part, skipped.congr start last⟩

theorem skipped_drawOnce (s : Scene) (request : DrawRequest) (options : FlushOptions) :
    Ensures (fun t => t = s) (drawOnce request options)
      (fun _ => Skipped s (s.skips request.attributes))
      fun _ => SkippedPart s request.attributes := by
  let pinned := s.pinned request.attributes
  have frame : PinFrame fun s t => t.notices Notice.isSkip = s.notices Notice.isSkip :=
    Scene.notices_pinFrame fun _ => rfl
  have start : s.notices Notice.isSkip = pinned.notices Notice.isSkip :=
    (frame.foldl s frame.acquire request.attributes).symm
  have dropped (t : Scene) : (request.attributes.foldl Scene.dropPin t).notices Notice.isSkip =
      t.notices Notice.isSkip := frame.foldl t frame.dropPin request.attributes
  have skips : pinned.skips request.attributes = s.skips request.attributes :=
    skips_congr (unpinned_pinned s request.attributes).symm request.attributes
  have unpinned := frame.takePins s [] request.attributes
  refine ensures_withPins ?_ ⟨[], List.nil_prefix, unpinned.trans (List.append_nil _).symm⟩
  apply (skipped_drawPinned pinned request options).mono
  · intro _ t skipped
    exact skips ▸ skipped.congr start (dropped t)
  · intro _ t part
    exact part.congr skips start (dropped t)

theorem skipped_ownDraw (s : Scene) (request : DrawRequest) (prevalidated : Bool) :
    Ensures (fun t => t = s) (ownDraw request prevalidated)
      (fun _ => Skipped s (s.skips request.attributes))
      fun _ => SkippedPart s request.attributes := by
  cases prevalidated with
  | true => exact skipped_drawOnce s request {}
  | false =>
    let Ready (t : Scene) := Readied s t ∧ t.notices Notice.isSkip = s.notices Notice.isSkip
    have validation (notice : Notice) (h : notice.isOfValidation = true) :
        notice.isSkip = false := by
      cases notice <;> first | rfl | cases h
    have ready : Ensures (fun t => t = s) prepareDraw (fun _ => Ready) fun _ => Ready :=
      ensures_iff_after.mpr
        ⟨readied_prepareDraw s, keeps_notices_prepareDraw validation _ s rfl⟩
    have prepared : Ensures (fun t => t = s) prepareDraw (fun _ => Ready)
        fun _ => SkippedPart s request.attributes := by
      apply ready.mono fun _ _ => id
      intro _ t ready
      exact ⟨[], List.nil_prefix, ready.2.trans (List.append_nil _).symm⟩
    refine prepared.bind fun options => .of_each fun t ready => ?_
    obtain ⟨textures, log, calls, same⟩ := ready.1.same
    have skips : t.skips request.attributes = s.skips request.attributes := by
      rw [same]
      rfl
    apply (skipped_drawOnce t request options).mono
    · intro _ u skipped
      exact skips ▸ skipped.congr ready.2.symm rfl
    · intro _ u part
      exact part.congr skips ready.2.symm rfl

end Skips

end DrawSubmission
