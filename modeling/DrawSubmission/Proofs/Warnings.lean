import DrawSubmission.Proofs.Hushed
set_option autoImplicit false

namespace DrawSubmission

section Reports

def firstReports (reports : List MidSceneReport) : List MidSceneReport :=
  reports.foldl (fun firsts report =>
    if report.diagnostics ∈ firsts.map MidSceneReport.diagnostics then firsts
    else firsts ++ [report]) []

variable (reports : List MidSceneReport)

theorem firstReports_snoc (report : MidSceneReport) : firstReports (reports ++ [report]) =
    if report.diagnostics ∈ (firstReports reports).map MidSceneReport.diagnostics then
      firstReports reports
    else firstReports reports ++ [report] := by
  rw [firstReports, List.foldl_append]
  rfl

theorem mem_firstReports (id : DiagnosticsId) :
    id ∈ (firstReports reports).map MidSceneReport.diagnostics ↔
      id ∈ reports.map MidSceneReport.diagnostics := by
  induction reports using List.reverseRecOn with
  | nil => exact Iff.rfl
  | append_singleton reports report ih =>
    rw [firstReports_snoc, List.map_append, List.mem_append, ← ih, List.map_singleton,
      List.mem_singleton]
    split
    · rename_i known
      constructor
      · exact .inl
      · rintro (early | late)
        · exact early
        · rwa [late]
    · rw [List.map_append, List.mem_append, List.map_singleton, List.mem_singleton]

/-- All that counts for diagnostics is what they are told first. -/
theorem filter_firstReports (id : DiagnosticsId) :
    (firstReports reports).filter (fun report => report.diagnostics = id) =
      (reports.find? fun report => report.diagnostics = id).toList := by
  induction reports using List.reverseRecOn with
  | nil => rfl
  | append_singleton reports report ih =>
    rw [firstReports_snoc, List.find?_append]
    by_cases same : report.diagnostics = id
    · have known := mem_firstReports reports report.diagnostics
      rw [same] at known ⊢
      cases first : reports.find? fun report => report.diagnostics = id with
      | some found =>
        have here : decide (found.diagnostics = id) = true :=
          List.find?_some (p := fun report : MidSceneReport => report.diagnostics = id) first
        have member : id ∈ reports.map MidSceneReport.diagnostics :=
          List.mem_map.mpr ⟨found, List.mem_of_find?_eq_some first, of_decide_eq_true here⟩
        rw [if_pos (known.mpr member), ih, first]
        rfl
      | none =>
        have new : id ∉ reports.map MidSceneReport.diagnostics := by
          intro member
          obtain ⟨other, inside, here⟩ := List.mem_map.mp member
          exact List.find?_eq_none.mp first other inside (decide_eq_true here)
        rw [if_neg fun member => new (known.mp member), List.filter_append, ih, first]
        simp [same]
    · have other : [report].find? (fun report => report.diagnostics = id) = none := by
        simp [same]
      rw [other, Option.or_none, ← ih]
      split
      · rfl
      · simp [same]

end Reports

theorem Scene.warnedBy_reportMidScene {s : Scene} {id : DiagnosticsId}
    (inside : id.index < s.warned.size) (what : String) (other : DiagnosticsId) :
    (s.reportMidScene id what).warnedBy other = (s.warnedBy other || decide (other = id)) := by
  unfold Scene.reportMidScene
  split
  · rename_i warned
    by_cases same : other = id
    · rw [same, warned, Bool.true_or]
    · rw [decide_eq_false same, Bool.or_false]
  · change (s.warned.setIfInBounds id.index true).getD other.index false = _
    rw [Array.getD_eq_getD_getElem?, Array.getElem?_setIfInBounds]
    by_cases same : id.index = other.index
    · have here : other = id := congrArg DiagnosticsId.mk same.symm
      rw [if_pos same, if_pos inside, decide_eq_true here, Bool.or_true]
      rfl
    · have apart : other ≠ id := fun here => same (congrArg DiagnosticsId.index here.symm)
      rw [if_neg same, decide_eq_false apart, Bool.or_false, Scene.warnedBy,
        Array.getD_eq_getD_getElem?]

def Scene.Diagnosed (s : Scene) : Prop :=
  s.context.diagnostics.index < s.warned.size ∧ ∀ id ∈ s.reporters, id.index < s.warned.size

theorem Hushed.diagnosed {s t : Scene} (h : Hushed s t) (known : s.Diagnosed) : t.Diagnosed := by
  obtain ⟨more, reporters, offered⟩ := h.reporters
  have offer (id : DiagnosticsId) (offers : s.Offers t id) : id.index < t.warned.size := by
    rcases offers with same | made
    · rw [same]
      exact Nat.lt_of_lt_of_le known.1 h.size_le
    · exact made
  refine ⟨offer _ h.current, fun id member => ?_⟩
  rw [reporters] at member
  rcases List.mem_append.mp member with early | late
  · exact Nat.lt_of_lt_of_le (known.2 id early) h.size_le
  · exact offer id (offered id late)

theorem Scene.Diagnosed.reportMidScene {s : Scene} (known : s.Diagnosed) (id : DiagnosticsId)
    (what : String) : (s.reportMidScene id what).Diagnosed := by
  simp only [Scene.reportMidScene]
  split
  · exact known
  · simpa only [Scene.Diagnosed, Scene.note, Scene.reporters, Array.size_setIfInBounds] using known

theorem Scene.Diagnosed.report {s : Scene} (known : s.Diagnosed) {op : Operation}
    {report : MidSceneReport} (told : op.report? s = some report) :
    report.diagnostics.index < s.warned.size := by
  have pinned (id : AttributeId) (pinned : (s.attr id).pins ≠ 0) :
      (s.attr id).diagnostics.index < s.warned.size := by
    have inside : id.index < s.attributes.size := by
      apply Nat.lt_of_not_le
      intro outside
      apply pinned
      simp [Scene.attr, Array.getD_eq_getD_getElem?, outside, default]
    exact known.2 _ (mem_reporters inside)
  cases op with
  | setNormalized id normalized =>
    simp only [Operation.report?] at told
    split at told
    · cases told
    · rename_i held
      cases told
      exact pinned id held
  | replaceBuffer id buffer =>
    simp only [Operation.report?] at told
    split at told
    · cases told
    · rename_i held
      cases told
      exact pinned id held
  | report what =>
    cases told
    exact known.1
  | _ => cases told

theorem size_hear (s : Scene) (report : Option MidSceneReport) :
    (s.hear report).warned.size = s.warned.size := by
  cases report with
  | none => rfl
  | some report =>
    simp only [Scene.hear, Scene.reportMidScene]
    split
    · rfl
    · exact Array.size_setIfInBounds

/-- After notices of earlier times diagnostics have warned of what they were told first. -/
structure Informed (earlier : List Notice) (reports : List MidSceneReport) (s : Scene) : Prop where
  warned : ∀ id, s.warnedBy id = true ↔ id ∈ reports.map MidSceneReport.diagnostics
  notices : s.notices Notice.isMidScene =
    earlier ++ (firstReports reports).map MidSceneReport.notice
  known : s.Diagnosed

namespace Informed
variable {earlier : List Notice} {reports : List MidSceneReport} {s t : Scene}

theorem hushed (h : Informed earlier reports s) (still : Hushed s t) :
    Informed earlier reports t where
  warned id := by rw [still.warnedBy, h.warned]
  notices := still.notices.trans h.notices
  known := still.diagnosed h.known

theorem report (h : Informed earlier reports s) {id : DiagnosticsId}
    (inside : id.index < s.warned.size) (what : String) :
    Informed earlier (reports ++ [⟨id, what⟩]) (s.reportMidScene id what) := by
  have before := (h.warned id).trans (mem_firstReports reports id).symm
  refine ⟨fun other => ?_, ?_, h.known.reportMidScene id what⟩
  · rw [List.map_append, List.mem_append, ← h.warned, List.map_singleton, List.mem_singleton,
      Scene.warnedBy_reportMidScene inside]
    simp only [Bool.or_eq_true, decide_eq_true_eq]
  · rw [firstReports_snoc, Scene.reportMidScene]
    by_cases warned : s.warnedBy id = true
    · rw [if_pos warned, if_pos (before.mp warned)]
      exact h.notices
    · rw [if_neg warned, if_neg fun member => warned (before.mpr member), List.map_append,
        ← List.append_assoc, ← h.notices]
      exact Scene.notices_note _ _

theorem hear (h : Informed earlier reports s) {op : Operation} :
    Informed earlier (reports ++ (op.report? s).toList) (s.hear (op.report? s)) := by
  cases told : op.report? s with
  | none =>
    rw [Option.toList_none, List.append_nil]
    exact h
  | some report => exact h.report (h.known.report told) report.what

end Informed

/-- A scene with the context in use, and the other contexts there are. -/
structure World where
  scene : Scene
  waiting : List DrawContext := []

def World.ofContexts (w : World) : List DiagnosticsId :=
  w.scene.context.diagnostics :: w.waiting.map DrawContext.diagnostics

/-- Something done with the context in use, which a new one leaves waiting, or with diagnostics by
hand: they are told something, or an attribute is made that reports to them. -/
inductive Event where
  | operation (op : Operation)
  /-- The context in use and a waiting one change places. -/
  | turnTo (n : Nat)
  | report (id : DiagnosticsId) (what : String)
  | newAttribute (id : DiagnosticsId) (buffer : BufferId) (name : String) (layout : VertexLayout)

namespace Event

def after (event : Event) (w : World) : World :=
  match event with
  | operation op =>
    { scene := op.after w.scene
      waiting := if op.isRenewal then w.scene.context :: w.waiting else w.waiting }
  | turnTo n =>
    match w.waiting[n]? with
    | none => w
    | some context =>
      { scene := { w.scene with context }, waiting := w.waiting.set n w.scene.context }
  | report id what => { w with scene := w.scene.reportMidScene id what }
  | newAttribute id buffer name layout =>
    { w with scene := (w.scene.createAttribute id buffer name layout).2 }

def report? (event : Event) (s : Scene) : Option MidSceneReport :=
  match event with
  | operation op => op.report? s
  | report id what => some ⟨id, what⟩
  | turnTo _ | newAttribute .. => none

/-- Only diagnostics that have been made are at hand. -/
def Addressed (event : Event) (s : Scene) : Prop :=
  match event with
  | operation _ | turnTo _ => True
  | report id _ | newAttribute id .. => id.index < s.warned.size

instance (event : Event) (s : Scene) : Decidable (event.Addressed s) :=
  match event with
  | operation _ | turnTo _ => inferInstanceAs (Decidable True)
  | report id _ | newAttribute id .. => inferInstanceAs (Decidable (id.index < s.warned.size))

end Event

def World.live (w : World) (events : List Event) : World :=
  events.foldl (fun w event => event.after w) w

def reportsOf : List Event → World → List MidSceneReport
  | [], _ => []
  | event :: events, w => (event.report? w.scene).toList ++ reportsOf events (event.after w)

def Addressed : List Event → World → Prop
  | [], _ => True
  | event :: events, w => event.Addressed w.scene ∧ Addressed events (event.after w)

instance decidableAddressed : ∀ events w, Decidable (Addressed events w)
  | [], _ => inferInstanceAs (Decidable True)
  | event :: events, w =>
    have := decidableAddressed events (event.after w)
    inferInstanceAs (Decidable (event.Addressed w.scene ∧ Addressed events (event.after w)))

/-- The scene is as its reports have it, and waiting contexts have diagnostics as well. -/
structure World.Informed (earlier : List Notice) (reports : List MidSceneReport) (w : World) :
    Prop where
  scene : DrawSubmission.Informed earlier reports w.scene
  waiting : ∀ context ∈ w.waiting, context.diagnostics.index < w.scene.warned.size

namespace World.Informed
variable {earlier : List Notice} {reports : List MidSceneReport} {w : World}

theorem operation (h : Informed earlier reports w) (op : Operation) :
    Informed earlier (reports ++ (op.report? w.scene).toList) ((Event.operation op).after w) where
  scene := h.scene.hear.hushed (hushed_after op w.scene)
  waiting context member := by
    have larger : w.scene.warned.size ≤ (op.after w.scene).warned.size :=
      size_hear w.scene _ ▸ (hushed_after op w.scene).size_le
    refine Nat.lt_of_lt_of_le ?_ larger
    change context ∈ (if op.isRenewal then w.scene.context :: w.waiting else w.waiting) at member
    split at member
    · rcases List.mem_cons.mp member with same | before
      · rw [same]
        exact h.scene.known.1
      · exact h.waiting context before
    · exact h.waiting context member

theorem turnTo (h : Informed earlier reports w) (n : Nat) :
    Informed earlier reports ((Event.turnTo n).after w) := by
  simp only [Event.after]
  cases found : w.waiting[n]? with
  | none => exact h
  | some context =>
    have known := h.waiting context (List.mem_of_getElem? found)
    refine ⟨⟨h.scene.warned, h.scene.notices, known, h.scene.known.2⟩, fun other member => ?_⟩
    rcases List.mem_or_eq_of_mem_set member with before | same
    · exact h.waiting other before
    · rw [same]
      exact h.scene.known.1

theorem after (h : Informed earlier reports w) {event : Event}
    (addressed : event.Addressed w.scene) :
    Informed earlier (reports ++ (event.report? w.scene).toList) (event.after w) := by
  cases event with
  | operation op => exact h.operation op
  | turnTo n =>
    rw [Event.report?, Option.toList_none, List.append_nil]
    exact h.turnTo n
  | report id what =>
    refine ⟨h.scene.report addressed what, fun context member => ?_⟩
    change _ < (w.scene.hear (some ⟨id, what⟩)).warned.size
    rw [size_hear]
    exact h.waiting context member
  | newAttribute id buffer name layout =>
    have still : Hushed w.scene (w.scene.createAttribute id buffer name layout).2 :=
      .createAttribute (.inr addressed) buffer name layout
    rw [Event.report?, Option.toList_none, List.append_nil]
    exact ⟨h.scene.hushed still, fun context member =>
      Nat.lt_of_lt_of_le (h.waiting context member) still.size_le⟩

theorem live (h : Informed earlier reports w) {events : List Event}
    (addressed : Addressed events w) :
    Informed earlier (reports ++ reportsOf events w) (w.live events) := by
  induction events generalizing w reports with
  | nil =>
    rw [reportsOf, List.append_nil]
    exact h
  | cons event events ih =>
    rw [reportsOf, ← List.append_assoc]
    exact ih (h.after addressed.1) addressed.2

end World.Informed

theorem informed_create (settings : DrawSettings) (notices : List Notice) :
    Informed (notices.filter Notice.isMidScene) [] (.create settings notices) where
  warned id := by
    have none : (Scene.create settings notices).warnedBy id = false := by
      change (#[false] : Array Bool).getD id.index false = false
      rcases id with ⟨_ | n⟩ <;> rfl
    rw [none]
    exact iff_of_false Bool.false_ne_true List.not_mem_nil
  notices := by
    change (notices.toArray.push _).toList.filter _ = _
    rw [Array.toList_push, List.filter_append]
    rfl
  known := ⟨Nat.zero_lt_one, fun _ member => nomatch member⟩

/-- Attributes keep the diagnostics that they are made with: those of the context in use, which all
contexts keep, new ones of their own, or others that are at hand. -/
structure World.AssignsDiagnostics (w : World) : Prop where
  known : ∀ id ∈ w.ofContexts ++ w.scene.reporters, id.index < w.scene.warned.size
  kept (event : Event) : w.scene.reporters <+: (event.after w).scene.reporters
  made (own : Bool) (buffer : BufferId) (name : String) (layout : VertexLayout) :
    ∃ refused : Bool,
      ((Event.operation (.newAttribute own buffer name layout)).after w).scene.reporters =
        w.scene.reporters ++ if refused then []
          else [if own then ⟨w.scene.warned.size⟩ else w.scene.context.diagnostics]
  given (id : DiagnosticsId) (buffer : BufferId) (name : String) (layout : VertexLayout) :
    ∃ refused : Bool, ((Event.newAttribute id buffer name layout).after w).scene.reporters =
      w.scene.reporters ++ if refused then [] else [id]
  lasting (op : Operation) : op.isRenewal = false →
    ((Event.operation op).after w).ofContexts = w.ofContexts
  turned (n : Nat) : ((Event.turnTo n).after w).ofContexts.Perm w.ofContexts
  renewed (settings : DrawSettings) :
    ((Event.operation (.newContext settings)).after w).ofContexts =
      ⟨w.scene.warned.size⟩ :: w.ofContexts

theorem reporters_createAttribute (s : Scene) (id : DiagnosticsId) (buffer : BufferId)
    (name : String) (layout : VertexLayout) :
    ∃ refused : Bool, (s.createAttribute id buffer name layout).2.reporters =
      s.reporters ++ if refused then [] else [id] := by
  rcases createAttribute_eq s id buffer name layout with
    ⟨error, same⟩ | ⟨a, reports, _, _, same⟩ <;> rw [same]
  · refine ⟨true, ?_⟩
    rw [if_pos rfl, List.append_nil]
    rfl
  · refine ⟨false, ?_⟩
    rw [← reports, Scene.reporters, Scene.addAttr, Array.toList_push, List.map_append]
    rfl

theorem reporters_prefix (event : Event) (w : World) :
    w.scene.reporters <+: (event.after w).scene.reporters := by
  have heard (report : Option MidSceneReport) :
      (w.scene.hear report).reporters = w.scene.reporters := by
    rw [Scene.reporters, attributes_hear, Scene.reporters]
  cases event with
  | operation op =>
    obtain ⟨more, reporters, _⟩ := (hushed_after op w.scene).reporters
    rw [heard] at reporters
    exact ⟨more, reporters.symm⟩
  | turnTo n =>
    simp only [Event.after]
    split <;> exact List.prefix_rfl
  | report id what =>
    have same : (w.scene.reportMidScene id what).reporters = w.scene.reporters :=
      heard (some ⟨id, what⟩)
    exact ⟨[], (List.append_nil _).trans same.symm⟩
  | newAttribute id buffer name layout =>
    obtain ⟨refused, reporters⟩ := reporters_createAttribute w.scene id buffer name layout
    exact ⟨_, reporters.symm⟩

theorem cons_set_perm {α : Type} {xs : List α} {n : Nat} {x : α} (found : xs[n]? = some x) (y : α) :
    (x :: xs.set n y).Perm (y :: xs) := by
  induction xs generalizing n with
  | nil => cases found
  | cons z xs ih =>
    cases n with
    | zero =>
      cases found
      exact .swap ..
    | succ n => exact ((List.Perm.swap ..).trans ((ih found).cons z)).trans (.swap ..)

theorem World.Informed.assigns {earlier : List Notice} {reports : List MidSceneReport} {w : World}
    (h : Informed earlier reports w) : w.AssignsDiagnostics where
  known id member := by
    rcases List.mem_append.mp member with ofContexts | reporter
    · rcases List.mem_cons.mp ofContexts with same | waiting
      · rw [same]
        exact h.scene.known.1
      · obtain ⟨context, inside, rfl⟩ := List.mem_map.mp waiting
        exact h.waiting context inside
    · exact h.scene.known.2 id reporter
  kept event := reporters_prefix event w
  made own buffer name layout := by
    cases own with
    | false => exact reporters_createAttribute w.scene _ buffer name layout
    | true => exact reporters_createAttribute w.scene.addDiagnostics.2 _ buffer name layout
  given := reporters_createAttribute w.scene
  lasting op same := by
    simp only [World.ofContexts, Event.after, same, Bool.false_eq_true, ↓reduceIte,
      diagnostics_after op w.scene same]
  turned n := by
    simp only [Event.after]
    cases found : w.waiting[n]? with
    | none => exact .refl _
    | some context =>
      simp only [World.ofContexts, List.map_set]
      exact cons_set_perm (by rw [List.getElem?_map, found]; rfl) _
  renewed _ := rfl

theorem warnedBy_after {w : World} (event : Event) {id : DiagnosticsId}
    (warned : w.scene.warnedBy id = true) : (event.after w).scene.warnedBy id = true := by
  let s := w.scene
  have told (other : DiagnosticsId) (what : String) :
      (s.reportMidScene other what).warnedBy id = true := by
    by_cases inside : other.index < s.warned.size
    · rw [Scene.warnedBy_reportMidScene inside, warned, Bool.true_or]
    · simp only [Scene.reportMidScene, Array.setIfInBounds, inside, ↓reduceDIte]
      split <;> exact warned
  cases event with
  | operation op =>
    change (op.after s).warnedBy id = true
    rw [(hushed_after op s).warnedBy]
    cases op.report? s with
    | none => exact warned
    | some report => exact told report.diagnostics report.what
  | turnTo n =>
    simp only [Event.after]
    split <;> exact warned
  | report other what => exact told other what
  | newAttribute other buffer name layout =>
    change (s.createAttribute other buffer name layout).2.warnedBy id = true
    rcases createAttribute_eq s other buffer name layout with
      ⟨error, same⟩ | ⟨a, _, _, _, same⟩ <;> rw [same] <;> exact warned

theorem attr_setNormalized {s : Scene} {id : AttributeId} (inside : id.index < s.attributes.size)
    (normalized : Bool) (other : AttributeId) :
    ((Operation.setNormalized id normalized).after s).attr other =
      if other = id then { s.attr id with normalized } else s.attr other := by
  change (s.setNormalized id normalized).attr other = _
  let heard := s.hear ((Operation.setNormalized id normalized).report? s)
  have size : heard.attributes.size = s.attributes.size := by rw [attributes_hear]
  rw [setNormalized_eq, Scene.attr_setAttr, size, attr_hear]
  simp only [inside, and_true]

theorem attr_replaceBuffer {s : Scene} {id : AttributeId} (inside : id.index < s.attributes.size)
    {buffer : BufferId} (inside' : buffer.index < s.buffers.size) (other : AttributeId) :
    ((Operation.replaceBuffer id buffer).after s).attr other =
      if other = id ∧ s.Replaceable id buffer then { s.attr id with buffer } else s.attr other := by
  change (s.replaceBuffer id buffer).2.attr other = _
  by_cases can : s.Replaceable id buffer
  · have same : (s.replaceBuffer id buffer).2.attr other =
        (s.setAttr id { s.attr id with buffer }).attr other := by
      rw [Scene.attr, Scene.attributes_of_replaced inside' can]
      rfl
    rw [same, Scene.attr_setAttr]
    simp only [inside, can, and_true]
  · rw [if_neg fun both => can both.2, Scene.attr, Scene.attributes_of_not_replaced inside' can,
      Scene.attr]

/-- Diagnostics have warned if and only if they have been told of a change to a pinned attribute, or
of anything by hand. Each has warned once then, of what it was told first, and never takes it back.
Draws tell nothing. Attributes keep their diagnostics, and every change is made that does not fail,
whether it is warned of or not; just a buffer may not be replaced, if somebody looks at it or if the
pins cannot be counted. -/
theorem warnings_of_run (settings : DrawSettings) (notices : List Notice) (events : List Event)
    (addressed : Addressed events { scene := .create settings notices }) :
    let start : World := { scene := .create settings notices }
    let w := start.live events
    let s := w.scene
    let reports := reportsOf events start
    (∀ id, s.warnedBy id = true ↔ ∃ report ∈ reports, report.diagnostics = id) ∧
      s.notices Notice.isMidScene = notices.filter Notice.isMidScene ++
        (firstReports reports).map MidSceneReport.notice ∧
      (∀ id, (firstReports reports).filter (fun report => report.diagnostics = id) =
        (reports.find? fun report => report.diagnostics = id).toList) ∧
      (∀ event : Event, ∀ id, s.warnedBy id = true → (event.after w).scene.warnedBy id = true) ∧
      (∀ request prevalidated,
        let t := (Operation.draw request prevalidated).after s
        t.warned = s.warned ∧ t.notices Notice.isMidScene = s.notices Notice.isMidScene) ∧
      w.AssignsDiagnostics ∧
      ∀ id, id.index < s.attributes.size →
        (∀ normalized other, ((Operation.setNormalized id normalized).after s).attr other =
          if other = id then { s.attr id with normalized } else s.attr other) ∧
        ∀ buffer, buffer.index < s.buffers.size →
          ((s.replaceBuffer id buffer).1 = .ok () ↔ s.Replaceable id buffer) ∧
            ∀ other, ((Operation.replaceBuffer id buffer).after s).attr other =
              if other = id ∧ s.Replaceable id buffer then { s.attr id with buffer }
              else s.attr other := by
  intro start w s reports
  have fresh : start.Informed (notices.filter Notice.isMidScene) [] :=
    ⟨informed_create settings notices, fun _ member => absurd member List.not_mem_nil⟩
  have informed : w.Informed (notices.filter Notice.isMidScene) reports := fresh.live addressed
  refine ⟨fun id => ?_, informed.scene.notices, filter_firstReports reports,
    fun event id => warnedBy_after event, fun request prevalidated => ⟨?_, ?_⟩,
    informed.assigns, fun id inside => ⟨?_, fun buffer inside' => ⟨?_, ?_⟩⟩⟩
  · rw [informed.scene.warned, List.mem_map]
  · exact (Steady.drawFrame.draw s request prevalidated).warned
  · exact (hushed_after (.draw request prevalidated) s).notices
  · exact attr_setNormalized inside
  · exact Scene.replaceBuffer_eq_ok_iff inside'
  · exact attr_replaceBuffer inside inside'

/-- Attributes of two contexts are changed while they are pinned, also when the other context is in
use; one has diagnostics of its own. The last change fails, since somebody looks at the buffer. -/
def sampleEvents : List Event :=
  [ .operation (.newBuffer (Array.replicate 36 0) (.device 0)),
    .operation (.newBuffer (Array.replicate 36 1) .client),
    .operation (.newAttribute false ⟨0⟩ "strand_position_in" ⟨3, .float, 0, 0⟩),
    .operation (.newAttribute true ⟨0⟩ "weight" ⟨1, .byte, 0, 4⟩),
    .operation (.setNormalized ⟨0⟩ true), .operation (.acquire ⟨0⟩), .operation (.acquire ⟨1⟩),
    .operation (.draw ⟨.triangleList, 0, 3, [⟨0⟩, ⟨1⟩], none⟩ true),
    .operation (.newContext {}), .operation (.setNormalized ⟨0⟩ false),
    .report ⟨1⟩ "the weights", .operation (.replaceBuffer ⟨1⟩ ⟨1⟩),
    .operation (.newAttribute false ⟨0⟩ "strand_color_in" ⟨3, .float, 0, 0⟩),
    .newAttribute ⟨0⟩ ⟨0⟩ "strand_normal_in" ⟨3, .float, 0, 0⟩, .operation (.newContext {}),
    .turnTo 1, .operation (.acquire ⟨2⟩), .operation (.acquire ⟨3⟩),
    .operation (.setNormalized ⟨3⟩ true), .operation (.borrowBuffer ⟨2⟩),
    .operation (.replaceBuffer ⟨2⟩ ⟨1⟩) ]

theorem warnings_of_run_sampleEvents :
    let start : World := { scene := .create {} [] }
    let s := (start.live sampleEvents).scene
    Addressed sampleEvents start ∧ (∀ n < 3, s.warnedBy ⟨n⟩ = true) ∧ s.warnedBy ⟨3⟩ = false ∧
      s.notices Notice.isMidScene =
        [.midSceneModification "the normalized flag of 'strand_position_in'",
          .midSceneModification "the weights",
          .midSceneModification "the buffer of 'strand_color_in'"] := by
  intro start s
  have addressed : Addressed sampleEvents start := by decide +kernel
  obtain ⟨warned, notices, _⟩ := warnings_of_run {} [] sampleEvents addressed
  have fresh : s.warnedBy ⟨3⟩ ≠ true := by
    rw [Ne, warned]
    decide +kernel
  refine ⟨addressed, fun n small => (warned ⟨n⟩).mpr ?_, eq_false_of_ne_true fresh,
    notices.trans ?_⟩
  · revert n
    decide +kernel
  · decide +kernel

/-- Diagnostics warn of a change to a pinned attribute before it fails: where somebody looks at the
buffer, it is not replaced. -/
theorem warned_change_not_made :
    let s := (Scene.create {} []).run
      [ .newBuffer (Array.replicate 36 0) (.device 0),
        .newBuffer (Array.replicate 36 1) .client,
        .newAttribute false ⟨0⟩ "strand_position_in" ⟨3, .float, 0, 0⟩, .acquire ⟨0⟩,
        .borrowBuffer ⟨0⟩ ]
    let t := (Operation.replaceBuffer ⟨0⟩ ⟨1⟩).after s
    s.warnedBy ⟨0⟩ = false ∧ (s.attr ⟨0⟩).pins = 1 ∧
      (s.replaceBuffer ⟨0⟩ ⟨1⟩).1 = .error .borrowed ∧
      t.warnedBy ⟨0⟩ = true ∧ (t.attr ⟨0⟩).buffer = ⟨0⟩ := by
  decide +kernel

end DrawSubmission
