import DrawSubmission.Proofs.Holdings
import DrawSubmission.Proofs.Skipping
import DrawSubmission.Proofs.Switches
import DrawSubmission.Proofs.Twins
set_option autoImplicit false

namespace DrawSubmission

/-- The scene without pins, calls and notices of skipped attributes. -/
def Scene.silent (s : Scene) : Scene := { s.unpinned with calls := #[] }

theorem Buffer.eq_of_kept {b c : Buffer} (kept : b.kept = c.kept)
    (same : { b with pins := 0 } = { c with pins := 0 }) : b = c := by
  cases b
  cases c
  simp_all [Buffer.kept]

section Silent
variable {s t : Scene}

theorem silent_disableAttributes (same : s.silent = t.silent)
    (attributes others : List AttributeId) (flushed : FlushedPipeline) :
    (s.disableAttributes attributes flushed).silent =
      (t.disableAttributes others flushed).silent := by
  have torn (u : Scene) (attributes : List AttributeId) :
      (u.disableAttributes attributes flushed).silent =
        if flushed.derived then u.silent.note .copyReleased else u.silent := by
    rw [disableAttributes_eq]
    split <;> simp [Scene.silent, Scene.unpinned, Scene.note, Notice.isOther, Notice.isSkip]
  rw [torn, torn, same]

theorem silent_pinFrame : PinFrame fun s t => t.silent.bare = s.silent.bare where
  refl _ := rfl
  trans h h' := h'.trans h
  setPins s id pins := by
    have same := s.unpinned_setPins id pins
    rw [Scene.silent, same, Scene.silent]
  setAttrPins s id pins := by
    have same := s.unpinned_setAttrPins id pins
    rw [Scene.silent, same, Scene.silent]
  unreleased _ _ := rfl

/-- What is kept and what is left without pins make up the scene. -/
theorem bare_eq_of_silent (kept : s.kept = t.kept) (same : s.silent = t.silent) :
    s.bare = t.bare := by
  have buffers : s.buffers = t.buffers := by
    apply Scene.buffers_ext (Scene.buffers_size_eq_of_kept kept)
    intro id _
    have unpinned : s.unpinned.buffer id = t.unpinned.buffer id :=
      (congrArg (fun u : Scene => u.buffer id) same :)
    rw [Scene.buffer_unpinned, Scene.buffer_unpinned] at unpinned
    exact Buffer.eq_of_kept (Scene.buffer_kept_eq_of_kept kept id) unpinned
  have context : s.context = t.context := (congrArg Scene.context same :)
  have parts : { s.kept with buffers := s.buffers, context := s.context } =
      { t.kept with buffers := t.buffers, context := t.context } := by
    rw [kept, buffers, context]
  exact parts

theorem notices_of_silent (same : s.silent = t.silent) :
    s.notices Notice.isOther = t.notices Notice.isOther := by
  have log : s.log.filter Notice.isOther = t.log.filter Notice.isOther := congrArg Scene.log same
  simpa only [Scene.notices, Array.toList_filter] using congrArg Array.toList log

theorem kept_dropPins {attributes : List AttributeId}
    (inside : ∀ id ∈ attributes, id.index < s.attributes.size)
    (kept : t.kept = (s.pinned attributes).kept) :
    (attributes.foldl Scene.dropPin t).kept = s.kept := by
  rw [Scene.pinned, Scene.foldl_acquire s attributes inside] at kept
  exact Scene.kept_foldl_dropPin attributes inside kept

theorem silent_dropPins (linked : s.Linked) {attributes : List AttributeId}
    (inside : ∀ id ∈ attributes, id.index < s.attributes.size)
    (kept : t.kept = (s.pinned attributes).kept) :
    (attributes.foldl Scene.dropPin t).silent = t.silent := by
  rw [Scene.pinned, Scene.foldl_acquire s attributes inside] at kept
  have log := Scene.log_foldl_dropPin attributes
    (fun id member => ⟨inside id member, linked.attr (inside id member)⟩) kept
  have rest := silent_pinFrame.foldl t silent_pinFrame.dropPin attributes
  have whole (u : Scene) :
      u.silent = { u.silent.bare with log := u.log.filter Notice.isOther } := rfl
  rw [whole, rest, log, ← whole]

end Silent

def plainCalls (calls : List DriverCall) : List DriverCall := calls.map DriverCall.unpinned

theorem plainCalls_append (xs ys : List DriverCall) :
    plainCalls (xs ++ ys) = plainCalls xs ++ plainCalls ys := List.map_append

theorem plainCalls_tearDown (arrays : List DrawArray) :
    plainCalls (arrays.map (DrawArray.switched false)) = arrays.map (DrawArray.switched false) := by
  rw [plainCalls, List.map_map]
  apply List.map_congr_left
  intro array _
  cases array <;> rfl

theorem plainCalls_of_unpinned {s t : Scene} (same : s.unpinned = t.unpinned) :
    plainCalls s.calls.toList = plainCalls t.calls.toList := by
  have calls : s.calls.map DriverCall.unpinned = t.calls.map DriverCall.unpinned :=
    congrArg Scene.calls same
  simpa only [plainCalls, Array.toList_map] using congrArg Array.toList calls

open SceneM

/-- Two draws from a scene end the same way, in related scenes, and tell the same, but for what
tears down some arrays in the one case and some in the other. -/
inductive Alongside (R : Scene → Scene → Prop) (s : Scene) (arrays others : List DrawArray) :
    EStateM.Result Overflow Scene Unit → EStateM.Result Overflow Scene Unit → Prop
  | torn {t u : Scene} (lead : List DriverCall) (related : R t u)
      (calls : plainCalls t.calls.toList = plainCalls s.calls.toList ++
        (lead ++ arrays.map (DrawArray.switched false)))
      (calls' : plainCalls u.calls.toList = plainCalls s.calls.toList ++
        (lead ++ others.map (DrawArray.switched false))) :
      Alongside R s arrays others (.ok () t) (.ok () u)
  | broken {cause : Overflow} {t u : Scene} (lead : List DriverCall) (related : R t u)
      (calls : plainCalls t.calls.toList = plainCalls s.calls.toList ++ lead)
      (calls' : plainCalls u.calls.toList = plainCalls s.calls.toList ++ lead) :
      Alongside R s arrays others (.error cause t) (.error cause u)

namespace Alongside
variable {R : Scene → Scene → Prop} {s : Scene} {arrays others : List DrawArray}
  {x y : EStateM.Result Overflow Scene Unit}

theorem thenChange {R' : Scene → Scene → Prop} (h : Alongside R s arrays others x y)
    {f g : Scene → Scene} (change : ∀ t u, R t u → R' (f t) (g u))
    (silent : ∀ t, (f t).calls = t.calls) (silent' : ∀ t, (g t).calls = t.calls) :
    Alongside R' s arrays others (thenChange f x) (thenChange g y) := by
  cases h with
  | torn lead related calls calls' =>
    apply Alongside.torn lead (change _ _ related)
    · rw [silent, calls]
    · rw [silent', calls']
  | broken lead related calls calls' =>
    apply Alongside.broken lead (change _ _ related)
    · rw [silent, calls]
    · rw [silent', calls']

theorem of_later {t : Scene} (h : Alongside R t arrays others x y) {calls : List DriverCall}
    (appended : t.calls.toList = s.calls.toList ++ calls) : Alongside R s arrays others x y := by
  have first : plainCalls t.calls.toList = plainCalls s.calls.toList ++ plainCalls calls := by
    rw [appended, plainCalls_append]
  cases h with
  | torn lead related own own' =>
    rw [first, List.append_assoc, ← List.append_assoc _ lead] at own own'
    exact .torn (plainCalls calls ++ lead) related own own'
  | broken lead related own own' =>
    rw [first, List.append_assoc] at own own'
    exact .broken (plainCalls calls ++ lead) related own own'

end Alongside

theorem prefix_drawLead (s : Scene) (request : DrawRequest) (options : FlushOptions) :
    s.calls.toList <+: ((drawLead request options).after s).calls.toList := by
  let Grown (t : Scene) := s.calls.toList <+: t.calls.toList
  have enabled : Ensures (fun t => t = s) (enableAttributes request.attributes options)
      (fun _ => Grown) fun _ => Grown := by
    apply (enableAttributes_ensures s request.attributes options).mono
    · intro _ t ⟨channels, _, prepared⟩
      exact ⟨_, prepared.calls.symm⟩
    · intro _ t ⟨_, channels, connected⟩
      exact ⟨_, connected.calls.symm⟩
  have issued : Ensures Grown (issue request) (fun _ => Grown) fun _ => Grown := by
    apply Ensures.of_each
    intro t grown
    apply (issue_ensures t request).mono
    · intro _ u ⟨_, _, _, calls, _⟩
      exact grown.trans ⟨_, calls.symm⟩
    · intro _ u ⟨_, told⟩
      change s.calls.toList <+: u.calls.toList
      rw [Scene.calls_eq_of_told told]
      exact grown
  change Grown ((drawLead request options).after s)
  apply ensures_iff_after.mp
  apply enabled.bind
  intro flushed
  apply issued.bind
  intro _ t grown
  exact grown

section Draw
variable {s : Scene}

theorem silent_of_unpinned {t : Scene} (same : s.unpinned = t.unpinned) : s.silent = t.silent := by
  rw [Scene.silent, same, Scene.silent]

theorem arrays_unpinned_congr {t : Scene} (same : s.unpinned = t.unpinned)
    (attributes : List AttributeId) : t.arrays attributes = s.arrays attributes := by
  have roles : (attributes.map fun id => (t.attr id).role) =
      attributes.map fun id => (s.attr id).role := by
    apply List.map_congr_left
    intro id _
    obtain ⟨pins, here⟩ := attr_unpinned_congr same id
    rw [here]
  rw [Scene.arrays, roles, Scene.arrays]

theorem plainCalls_disableAttributes (s : Scene) (attributes : List AttributeId)
    (flushed : FlushedPipeline) :
    plainCalls (s.disableAttributes attributes flushed).calls.toList =
      plainCalls s.calls.toList ++ (s.arrays attributes).map (DrawArray.switched false) := by
  rw [disableAttributes_calls, tearDownCalls_eq_map, plainCalls_append, plainCalls_tearDown,
    Scene.arrays]

/-- While the attributes of a draw are pinned, those of the trimmed draw may have fewer pins. -/
theorem alongside_drawPinned {p q : Scene} (request : DrawRequest) (options : FlushOptions)
    (read : ∀ id, (s.attr id).readable = (p.attr id).readable) (same : p.unpinned = q.unpinned) :
    let trimmed := request.trimmed s
    Alongside (fun t u => t.silent = u.silent ∧ t.kept = p.kept ∧ u.kept = q.kept) p
      (p.arrays request.attributes) (p.arrays trimmed.attributes)
      (drawPinned request options p) (drawPinned trimmed options q) := by
  intro trimmed
  have lead := through_drawLead request options read same
  have grown := prefix_drawLead p request options
  have kept := kept_drawPinned p request options
  have kept' := kept_drawPinned q trimmed options
  unfold after at grown kept kept'
  rw [drawPinned_eq] at kept kept' ⊢
  rw [drawPinned_eq]
  revert lead grown kept kept'
  cases drawLead request options p with
  | ok flushed u =>
    cases drawLead trimmed options q with
    | error cause v => exact nofun
    | ok flushed' v =>
      intro lead ⟨calls, grown⟩ kept kept'
      injection lead with value reached
      subst value
      have unchanged : u.kept = p.kept := (Scene.kept_disableAttributes ..).symm.trans kept
      have arrays (attributes : List AttributeId) : u.arrays attributes = p.arrays attributes := by
        simp only [Scene.arrays, Scene.attr_eq_of_kept unchanged]
      apply Alongside.torn (plainCalls calls)
      · exact ⟨silent_disableAttributes (silent_of_unpinned reached) _ _ flushed, kept, kept'⟩
      · rw [plainCalls_disableAttributes, ← grown, plainCalls_append, arrays, List.append_assoc]
      · rw [plainCalls_disableAttributes, ← plainCalls_of_unpinned reached, ← grown,
          plainCalls_append, arrays_unpinned_congr reached, arrays, List.append_assoc]
  | error cause u =>
    cases drawLead trimmed options q with
    | ok flushed v => exact nofun
    | error cause' v =>
      intro lead ⟨calls, grown⟩ kept kept'
      injection lead with value reached
      subst value
      apply Alongside.broken (plainCalls calls)
      · exact ⟨silent_of_unpinned reached, kept, kept'⟩
      · rw [← plainCalls_append, grown]
      · rw [← plainCalls_append, grown, plainCalls_of_unpinned reached]

/-- The scenes differ in recorded calls and in notices of skipped attributes at most. -/
structure Matching (t u : Scene) : Prop where
  bare : t.bare = u.bare
  notices : t.notices Notice.isOther = u.notices Notice.isOther

def MatchingFrom (s : Scene) (attributes : List AttributeId) (t u : Scene) : Prop :=
  s.Linked → (∀ id ∈ attributes, id.index < s.attributes.size) → Matching t u

/-- A draw that meets no full counter has pinned its attributes. -/
theorem takePins_of_counted {request : DrawRequest} {options : FlushOptions}
    (counted : (drawOnce request options).exit s ≠ .error .count) :
    takePins [] request.attributes s = .ok () (s.pinned request.attributes) := by
  have taken := takePins_ensures [] request.attributes s s rfl
  revert counted taken
  unfold exit
  rw [drawOnce_eq]
  cases takePins [] request.attributes s with
  | error cause t =>
    exact fun counted (full : cause = .count) => absurd (congrArg Except.error full) counted
  | ok _ t => exact fun _ same => congrArg (EStateM.Result.ok ()) same

theorem alongside_drawOnce (request : DrawRequest) (options : FlushOptions)
    (counted : (drawOnce request options).exit s ≠ .error .count) :
    let trimmed := request.trimmed s
    Alongside (MatchingFrom s request.attributes) s (s.arrays request.attributes)
      (s.arrays trimmed.attributes) (drawOnce request options s) (drawOnce trimmed options s) := by
  intro trimmed
  let p := s.pinned request.attributes
  let q := s.pinned trimmed.attributes
  have taken : takePins [] request.attributes s = .ok () p := takePins_of_counted counted
  have taken' : takePins [] trimmed.attributes s = .ok () q :=
    (FewerPins.refl s).takePins List.filter_sublist [] [] taken
  have unpinned : s.unpinned = p.unpinned := (unpinned_pinned s request.attributes).symm
  have read (id : AttributeId) : (s.attr id).readable = (p.attr id).readable := by
    obtain ⟨pins, here⟩ := attr_unpinned_congr unpinned id
    rw [here]
    rfl
  have same : p.unpinned = q.unpinned := unpinned.symm.trans (unpinned_pinned s _).symm
  have drawn := alongside_drawPinned request options read same
  have calls : p.calls = s.calls := Scene.calls_eq_of_told (told_pinned s request.attributes)
  have silent (attributes : List AttributeId) (t : Scene) :
      (attributes.foldl Scene.dropPin t).calls = t.calls :=
    Scene.calls_eq_of_told (Scene.told_frame.pins.foldl t Scene.told_frame.pins.dropPin attributes)
  have appended : p.calls.toList = s.calls.toList ++ [] := by rw [calls, List.append_nil]
  rw [drawOnce_eq, drawOnce_eq, taken, taken', ← arrays_unpinned_congr unpinned,
    ← arrays_unpinned_congr unpinned]
  apply (drawn.of_later appended).thenChange _ (silent _) (silent _)
  intro t u ⟨alike, kept, kept'⟩ linked inside
  have inside' : ∀ id ∈ trimmed.attributes, id.index < s.attributes.size := fun id member =>
    inside id (List.mem_of_mem_filter member)
  have dropped := silent_dropPins linked inside kept
  have dropped' := silent_dropPins linked inside' kept'
  have same := (dropped.trans alike).trans dropped'.symm
  have restored := (kept_dropPins inside kept).trans (kept_dropPins inside' kept').symm
  exact ⟨bare_eq_of_silent restored same, notices_of_silent same⟩

theorem alongside_ownDraw (request : DrawRequest) (prevalidated : Bool)
    (counted : (ownDraw request prevalidated).exit s ≠ .error .count) :
    let trimmed := request.trimmed s
    Alongside (MatchingFrom s request.attributes) s (s.arrays request.attributes)
      (s.arrays trimmed.attributes) (ownDraw request prevalidated s)
      (ownDraw trimmed prevalidated s) := by
  cases prevalidated with
  | true => exact alongside_drawOnce request {} counted
  | false =>
    intro trimmed
    have ready := readied_prepareDraw s
    have whole (request : DrawRequest) : ownDraw request false s =
        match prepareDraw s with
        | .ok options t => drawOnce request options t
        | .error overflow t => .error overflow t := by
      change EStateM.bind prepareDraw (drawOnce request) s = _
      unfold EStateM.bind
      cases prepareDraw s <;> rfl
    unfold exit at counted
    rw [whole] at counted
    rw [whole, whole]
    revert counted ready
    unfold after
    cases prepareDraw s with
    | ok options t =>
      intro counted (ready : Readied s t)
      obtain ⟨calls, _, appended⟩ := ready.calls
      obtain ⟨textures, log, calls', same⟩ := ready.same
      subst t
      let ready : Scene := { s with textures, log, calls := calls' }
      exact (alongside_drawOnce (s := ready) request options counted).of_later appended
    | error overflow t =>
      intro _ (ready : Readied s t)
      obtain ⟨calls, _, appended⟩ := ready.calls
      have told : plainCalls t.calls.toList = plainCalls s.calls.toList ++ plainCalls calls := by
        rw [appended, plainCalls_append]
      exact .broken (plainCalls calls) (fun _ _ => ⟨rfl, rfl⟩) told told

end Draw

end DrawSubmission
