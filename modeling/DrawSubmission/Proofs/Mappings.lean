import Mathlib.Data.List.Perm.Basic
import DrawSubmission.Proofs.Quiet
import DrawSubmission.Proofs.Undisturbed
set_option autoImplicit false

/-!
# Mappings are exclusive

A mapping is held by whoever took it and ends when it is dropped; what draws and outlines map for
themselves they unmap on every exit but one: where a mapping cannot be counted, its buffer has been
flagged already, and nobody holds the mapping.
-/
namespace DrawSubmission

def SameMappings (s t : Scene) : Prop := ∀ id, (t.buffer id).mapped = (s.buffer id).mapped

structure Unmapped (s t : Scene) : Prop where
  flags : SameMappings s t
  counts : t.mapCounts = s.mapCounts

namespace Unmapped
variable {s t u : Scene}

theorem of_buffers (h : t.buffers = s.buffers) : Unmapped s t where
  flags id := by rw [Scene.buffer, h, Scene.buffer]
  counts := by
    funext id
    rw [Scene.mapCounts, Scene.buffer, h]
    rfl

theorem trans (h : Unmapped s t) (h' : Unmapped t u) : Unmapped s u where
  flags id := (h'.flags id).trans (h.flags id)
  counts := h'.counts.trans h.counts

theorem setBuffer {id : BufferId} {b : Buffer} (same : b.mapped = (s.buffer id).mapped)
    (count : b.mapCount = (s.buffer id).mapCount) : Unmapped s (s.setBuffer id b) where
  flags other := by
    rw [Scene.buffer_setBuffer]
    split
    · rename_i here
      rw [same, here.1]
    · rfl
  counts := Scene.mapCounts_setBuffer count

theorem addBuffer (s : Scene) {b : Buffer} (free : b.mapped = false) (new : b.mapCount = 0) :
    Unmapped s (s.addBuffer b).2 := by
  have last (id : BufferId) (h : id.index = s.buffers.size) : s.buffer id = default :=
    Scene.buffer_of_le s id (Nat.le_of_eq h.symm)
  refine ⟨fun id => ?_, funext fun id => ?_⟩
  · rw [Scene.buffer_addBuffer]
    split
    · rename_i here
      rw [free, last id here]
      rfl
    · rfl
  · rw [Scene.mapCounts, Scene.buffer_addBuffer]
    split
    · rename_i here
      rw [new, Scene.mapCounts, last id here]
      rfl
    · rfl

theorem frame : Frame Unmapped where
  refl _ := .of_buffers rfl
  trans := trans
  setAttributes _ _ := .of_buffers rfl
  setPins _ _ _ := setBuffer rfl rfl
  warn _ _ := .of_buffers rfl
  note _ _ _ := .of_buffers rfl

theorem bindFrame : BindFrame Unmapped where
  refl _ := .of_buffers rfl
  trans := trans
  of_still h := .of_buffers (congrArg Scene.buffers h :)
  setBinding _ _ _ _ := setBuffer rfl rfl
  note _ _ _ := .of_buffers rfl

theorem of_retextured (h : s.Retextured t) : Unmapped s t := by
  obtain ⟨textures, log, same⟩ := h
  rw [same]
  exact .of_buffers rfl

end Unmapped

open SceneM

theorem unmapped_prepareDraw (s : Scene) : Unmapped s (prepareDraw.after s) := by
  obtain ⟨textures, log, calls, same⟩ := (readied_prepareDraw s).same
  rw [same]
  exact .of_buffers rfl

theorem unmapped_stageOutline (s : Scene) (outline : List Segment) :
    Unmapped s ((s.stageOutline outline).2.setOutlines false) := by
  obtain ⟨pipeline, pipelinesMade, calls, _, frame⟩ := stageOutline_frame s outline
  have added : Unmapped s (s.addOutline outline).2 :=
    (Unmapped.addBuffer s rfl rfl).trans (.of_buffers rfl)
  rw [frame]
  exact added.trans (.of_buffers rfl)

theorem unmapped_drawOnce (s : Scene) (request : DrawRequest) (options : FlushOptions) :
    Unmapped s ((drawOnce request options).after s) :=
  Unmapped.frame.pins.drawOnce Unmapped.bindFrame s request options

/-! ### What reading back leaves mapped -/

/-- One buffer that nobody had mapped stays mapped, because its counter is full. -/
def StuckMapping (s t : Scene) : Prop :=
  ∃ id, (s.buffer id).mapped = false ∧ Full (s.buffer id).mapCount ∧ SameMappings (s.mark id) t

theorem mapped_mark (s : Scene) {id : BufferId} (full : Full (s.buffer id).mapCount)
    (other : BufferId) :
    ((s.mark id).buffer other).mapped = (decide (other = id) || (s.buffer other).mapped) := by
  have inside : id.index < s.buffers.size := by
    refine Nat.lt_of_not_le fun outside => ?_
    rw [Scene.buffer_of_le s id outside] at full
    exact absurd full (by decide)
  rw [Scene.mark, Scene.buffer_setBuffer_of_lt s inside]
  by_cases here : other = id
  · rw [if_pos here, decide_eq_true here]
    rfl
  · rw [if_neg here, decide_eq_false here, Bool.false_or]

section ReadBack
variable {s t : Scene}

theorem SameMappings.of_alike (h : s.Alike t) : SameMappings s t :=
  fun id => (congrArg Buffer.mapped (Scene.buffer_kept_eq_of_kept h.kept id) :)

theorem SameMappings.mark (h : SameMappings s t) (id : BufferId)
    (full : Full (s.buffer id).mapCount) (full' : Full (t.buffer id).mapCount) :
    SameMappings (s.mark id) (t.mark id) := by
  intro other
  rw [mapped_mark t full', mapped_mark s full, h other]

theorem Unmapped.cut {u : Scene} {cause : Overflow} (h : Unmapped s t) (cut : t.Cut cause u) :
    if cause = .count then StuckMapping s u else SameMappings s u := by
  cases cut with
  | address uncounted alike =>
    rw [if_neg uncounted]
    exact fun id => (SameMappings.of_alike alike id).trans (h.flags id)
  | @mapping id _ free full alike =>
    have full' : Full (s.buffer id).mapCount := by
      have same : (t.buffer id).mapCount = (s.buffer id).mapCount := congrFun h.counts id
      rwa [same] at full
    rw [if_pos rfl]
    refine ⟨id, h.flags id ▸ free, full', fun other => ?_⟩
    exact (SameMappings.of_alike alike other).trans (h.flags.mark id full' full other)

theorem mapped_reconstruct (s : Scene) (position : AttributeId) (topology : Topology)
    (first count : UInt32) (indices : Option Indices) :
    Ensures (fun t => t = s) (reconstruct position topology first count indices)
      (fun _ => SameMappings s)
      fun cause t => if cause = .count then StuckMapping s t else SameMappings s t :=
  (reads_reconstruct s position topology first count indices).mono
    (fun _ _ done => .of_alike done.1) fun _ _ cut => (Unmapped.of_buffers rfl).cut cut.1

theorem mapped_drawWith (s : Scene) (options : FlushOptions) (request : DrawRequest) :
    Ensures (Unmapped s) (drawWith options request) (fun _ => SameMappings s)
      fun cause t => SameMappings s t ∨ cause = .count ∧ StuckMapping s t := by
  have drawn : Ensures (Unmapped s) (drawOnce request options) (fun _ => Unmapped s)
      fun _ => Unmapped s :=
    keeps_iff_ensures.mp fun t same => same.trans (unmapped_drawOnce t request options)
  refine drawWith_ensures (drawn.mono (fun _ _ => id) fun _ t same => .inl same.flags) ?_ ?_ ?_
  · exact fun t u same alike _ id => (SameMappings.of_alike alike id).trans (same.flags id)
  · intro t u cause same cut _ _
    have left := same.cut cut
    split at left
    · rename_i counted
      exact .inr ⟨counted, left⟩
    · exact .inl left
  · intro t u outline same alike _ _ _
    have flags : SameMappings s u :=
      fun id => (SameMappings.of_alike alike id).trans (same.flags id)
    let staged := (u.stageOutline outline).2.setOutlines false
    have still := (unmapped_stageOutline u outline).trans
      (unmapped_drawOnce staged (lineDraw outline (u.stageOutline outline).1) {})
    have whole : SameMappings s ((drawOnce (lineDraw outline (u.stageOutline outline).1) {}).after
        staged) := fun id => (still.flags id).trans (flags id)
    exact ensures_drawOutline ((ensures_iff_after.mpr whole).mono (fun _ _ same => same)
      fun _ _ => .inl)

/-- A draw leaves all mappings as they are, or gets stuck at a full counter. -/
theorem mapped_draw (s : Scene) (request : DrawRequest) (prevalidated : Bool) :
    Ensures (fun t => t = s) (Operation.draw request prevalidated).perform
      (fun _ => SameMappings s)
      fun cause t => SameMappings s t ∨ cause = .count ∧ StuckMapping s t := by
  cases prevalidated with
  | true => exact fun t same => mapped_drawWith s {} request t (same ▸ .of_buffers rfl)
  | false =>
    have prepared : Ensures (fun t => t = s) prepareDraw (fun _ => Unmapped s)
        fun _ t => Unmapped s t := ensures_iff_after.mpr (unmapped_prepareDraw s)
    exact (prepared.mono (fun _ _ => id) fun _ _ same => .inl same.flags).bind
      fun options => mapped_drawWith s options request

end ReadBack

/-- Counters of mappings have not gone down, and a flag has changed only where a full counter keeps
a buffer mapped. -/
structure Watched (s t : Scene) : Prop where
  counts : ∀ id, (s.buffer id).mapCount ≤ (t.buffer id).mapCount
  flags : ∀ id, (t.buffer id).mapped = (s.buffer id).mapped ∨
    (t.buffer id).mapped = true ∧ Full (t.buffer id).mapCount

namespace Watched
variable {s t u : Scene}

theorem of_unmapped (h : Unmapped s t) : Watched s t :=
  ⟨fun id => Nat.le_of_eq (congrFun h.counts id).symm, fun id => .inl (h.flags id)⟩

theorem of_buffers (h : t.buffers = s.buffers) : Watched s t := .of_unmapped (.of_buffers h)

theorem of_alike (h : s.Alike t) : Watched s t :=
  ⟨h.counts, fun id => .inl (SameMappings.of_alike h id)⟩

theorem trans (h : Watched s t) (h' : Watched t u) : Watched s u := by
  refine ⟨fun id => Nat.le_trans (h.counts id) (h'.counts id), fun id => ?_⟩
  rcases h'.flags id with same | stuck
  · rcases h.flags id with same' | ⟨mapped, full⟩
    · exact .inl (same.trans same')
    · exact .inr ⟨same.trans mapped, Nat.le_trans full (h'.counts id)⟩
  · exact .inr stuck

theorem mark {id : BufferId} (full : Full (s.buffer id).mapCount) : Watched s (s.mark id) := by
  have count : (s.mark id).mapCounts = s.mapCounts := Scene.mapCounts_setBuffer rfl
  refine ⟨fun other => Nat.le_of_eq (congrFun count other).symm, fun other => ?_⟩
  rw [mapped_mark s full]
  by_cases here : other = id
  · have same : ((s.mark id).buffer other).mapCount = (s.buffer other).mapCount :=
      congrFun count other
    rw [decide_eq_true here, same, here]
    exact .inr ⟨rfl, full⟩
  · rw [decide_eq_false here]
    exact .inl (Bool.false_or _)

theorem frame : Frame Watched where
  refl _ := .of_buffers rfl
  trans := trans
  setAttributes _ _ := .of_buffers rfl
  setPins s id pins := .of_unmapped (Unmapped.frame.setPins s id pins)
  warn _ _ := .of_buffers rfl
  note _ _ _ := .of_buffers rfl

theorem bindFrame : BindFrame Watched where
  refl _ := .of_buffers rfl
  trans := trans
  of_still h := .of_unmapped (Unmapped.bindFrame.of_still h)
  setBinding s id bound count := .of_unmapped (Unmapped.bindFrame.setBinding s id bound count)
  note _ _ _ := .of_buffers rfl

theorem drawFrame : DrawFrame Watched where
  toPinFrame := frame.pins
  bind := bindFrame
  alike := of_alike
  mark _ full := mark full
  prepare s := .of_unmapped (unmapped_prepareDraw s)
  stage s outline := .of_unmapped (unmapped_stageOutline s outline)
  unstage _ := .of_buffers rfl

end Watched

def Operation.isMapping : Operation → Bool
  | map .. | unmap _ => true
  | _ => false

/-- Only mapping and unmapping by hand go unwatched. -/
theorem watched_after (op : Operation) (s : Scene) (other : op.isMapping = false) :
    Watched s (op.after s) := by
  cases op with
  | map | unmap => cases other
  | newContext | changeSettings | pushSource | popSource | newTexture => exact .of_buffers rfl
  | newBuffer contents storage => exact .of_unmapped (.addBuffer s rfl rfl)
  | newVertexArray data =>
    exact .of_unmapped ((Unmapped.addBuffer s rfl rfl).trans (.of_buffers rfl))
  | newAttribute | setNormalized | replaceBuffer | borrowBuffer | returnBuffer | acquire | release
  | dropPin | pinBuffer | unpinBuffer | report =>
    exact Operation.upkeep Watched.frame _ s rfl
  | bind | unbind | enable | disable => exact Operation.binding Watched.bindFrame _ s rfl
  | leaveAtlas id => exact .of_unmapped (.of_retextured (.leaveAtlas s id))
  | prepareMipmaps id => exact .of_unmapped (.of_retextured (.prepareMipmaps s id))
  | validate pipeline start layers =>
    simp only [Operation.after, Operation.perform, after_discard]
    exact .of_unmapped (.of_retextured (.validateLayers s pipeline start layers s (.refl s)))
  | reconstruct position topology first count indices =>
    simp only [Operation.after, Operation.perform, after_discard]
    exact reconstruct_rel .of_alike .trans (fun _ full => .mark full) s position topology first
      count indices
  | draw request prevalidated => exact Watched.drawFrame.draw s request prevalidated

/-! ### Mappings in custody -/

/-- Mapping step by step: the flag is written before it is known whether it was set, and before the
mapping is counted. -/
def mapInPlace (id : BufferId) (access : MapAccess) : SceneM (Except ResourceError Mapping) :=
  fun s =>
    if access ≠ .read then
      .ok (.error (.mapFailed (access.name ++ " mappings are not supported by host buffers"))) s
    else
      let buffer := s.buffer id
      let flagged := s.mark id
      if buffer.mapped then
        .ok (.error (.mapFailed ("buffer " ++ id.text ++ " is already mapped"))) flagged
      else if Full buffer.mapCount then .error .count flagged
      else .ok (.ok ⟨id, buffer.contents⟩)
        (flagged.setBuffer id { buffer.mark with mapCount := buffer.mapCount + 1 })

theorem mapInPlace_eq (id : BufferId) (access : MapAccess) :
    mapInPlace id access = mapBuffer id access := by
  funext s
  unfold mapInPlace mapBuffer Buffer.map
  by_cases other : access ≠ .read
  · rw [if_pos other, if_pos other]
  rw [if_neg other, if_neg other]
  cases flag : (s.buffer id).mapped with
  | true =>
    have unchanged : s.mark id = s := by
      have same : (s.buffer id).mark = s.buffer id := by rw [Buffer.mark, ← flag]
      rw [Scene.mark, same, Scene.setBuffer_buffer]
    simp only [flag, unchanged, ↓reduceIte]
  | false =>
    simp only [flag, Bool.false_eq_true, ↓reduceIte, Scene.mark, Scene.setBuffer_setBuffer,
      Buffer.mark]

/-- A scene and the mappings that are alive. -/
structure Custody where
  scene : Scene
  alive : List Mapping

namespace Custody

def aliveOn (c : Custody) (id : BufferId) : Nat := c.alive.countP fun mapping => mapping.buffer = id

def take (c : Custody) (id : BufferId) (access : MapAccess) :
    Except Overflow (Except ResourceError Mapping) × Custody :=
  match mapInPlace id access c.scene with
  | .error cause scene => (.error cause, { c with scene })
  | .ok (.error error) scene => (.ok (.error error), { c with scene })
  | .ok (.ok mapping) scene => (.ok (.ok mapping), ⟨scene, mapping :: c.alive⟩)

def drop (c : Custody) (place : Nat) : Custody :=
  match c.alive[place]? with
  | none => c
  | some mapping => ⟨c.scene.unmap mapping.buffer, c.alive.eraseIdx place⟩

inductive Step where
  | take (id : BufferId) (access : MapAccess)
  | read (place : Nat) (offset : UInt64) (count : Nat)
  | drop (place : Nat)
  | operate (op : Operation)

def step (c : Custody) : Step → Custody
  | .take id access => if id.index < c.scene.buffers.size then (c.take id access).2 else c
  | .read _ _ _ => c
  | .drop place => c.drop place
  | .operate op => { c with scene := op.after c.scene }

def run (c : Custody) (steps : List Step) : Custody := steps.foldl step c

def Step.isDirect : Step → Bool
  | .operate op => op.isMapping
  | _ => false

/-- A buffer has one mapping alive while it is mapped, or has none and is not mapped, unless its
counter is full. -/
def Exclusive (c : Custody) : Prop :=
  ∀ id, c.aliveOn id = 1 ∧ (c.scene.buffer id).mapped = true ∨
    c.aliveOn id = 0 ∧ ((c.scene.buffer id).mapped = true → Full (c.scene.buffer id).mapCount)

variable {c : Custody}

theorem take_eq (c : Custody) (id : BufferId) (access : MapAccess) :
    c.take id access =
      match (c.scene.buffer id).map id access with
      | .error error => (.ok (.error error), c)
      | .ok mapped =>
        if Full (c.scene.buffer id).mapCount then
          (.error .count, { c with scene := c.scene.mark id })
        else (.ok (.ok ⟨id, mapped.contents⟩),
          ⟨c.scene.setBuffer id mapped, ⟨id, mapped.contents⟩ :: c.alive⟩) := by
  unfold take
  rw [mapInPlace_eq, mapBuffer]
  cases (c.scene.buffer id).map id access with
  | error error => rfl
  | ok mapped =>
    by_cases full : Full (c.scene.buffer id).mapCount
    · simp only [full, ↓reduceIte]
    · simp only [full, ↓reduceIte]

theorem Exclusive.congr {scene : Scene} (h : c.Exclusive) (same : Watched c.scene scene) :
    Exclusive { c with scene } := by
  intro id
  rcases h id with ⟨one, mapped⟩ | ⟨none, stuck⟩
  · refine .inl ⟨one, ?_⟩
    rcases same.flags id with flag | ⟨flag, _⟩
    · exact flag.trans mapped
    · exact flag
  · refine .inr ⟨none, fun mapped => ?_⟩
    rcases same.flags id with flag | ⟨_, full⟩
    · exact Nat.le_trans (stuck (flag.symm.trans mapped)) (same.counts id)
    · exact full

theorem aliveOn_cons (scene scene' : Scene) (mapping : Mapping) (alive : List Mapping)
    (id : BufferId) : aliveOn ⟨scene, mapping :: alive⟩ id =
      aliveOn ⟨scene', alive⟩ id + if mapping.buffer = id then 1 else 0 := by
  unfold aliveOn
  rw [List.countP_cons]
  simp only [decide_eq_true_eq]

theorem Exclusive.take (h : c.Exclusive) {id : BufferId} (inside : id.index < c.scene.buffers.size)
    (access : MapAccess) : (c.take id access).2.Exclusive := by
  rw [take_eq]
  cases outcome : (c.scene.buffer id).map id access with
  | error error => exact h
  | ok mapped =>
    obtain ⟨free, same⟩ := Buffer.map_eq_ok outcome
    by_cases full : Full (c.scene.buffer id).mapCount
    · simp only [full, ↓reduceIte]
      exact h.congr (.mark full)
    · simp only [full, ↓reduceIte]
      intro other
      rw [aliveOn_cons _ c.scene, Scene.buffer_setBuffer_of_lt _ inside]
      by_cases here : other = id
      · have none : c.aliveOn id = 0 := by
          rcases h id with ⟨_, mapped⟩ | ⟨none, _⟩
          · exact absurd (free.symm.trans mapped) Bool.false_ne_true
          · exact none
        rw [if_pos here.symm, if_pos here, here]
        exact .inl ⟨congrArg (· + 1) none, by rw [same]⟩
      · rw [if_neg (Ne.symm here), if_neg here]
        exact h other

theorem mapped_unmap (s : Scene) (id other : BufferId) :
    ((s.unmap id).buffer other).mapped = if other = id then false else (s.buffer other).mapped := by
  rw [Scene.unmap, Scene.buffer_setBuffer]
  by_cases here : other = id
  · rw [if_pos here, here]
    by_cases inside : id.index < s.buffers.size
    · rw [if_pos ⟨rfl, inside⟩]
      rfl
    · rw [if_neg fun both => inside both.2, Scene.buffer_of_le s id (Nat.le_of_not_lt inside)]
      rfl
  · rw [if_neg here, if_neg fun both => here both.1]

theorem Exclusive.drop (h : c.Exclusive) (place : Nat) : (c.drop place).Exclusive := by
  unfold Custody.drop
  split
  · exact h
  · rename_i mapping found
    obtain ⟨inside, same⟩ := List.getElem?_eq_some_iff.mp found
    -- Counts do not see the order, so the dropped mapping may as well be the latest one.
    let rest := c.alive.eraseIdx place
    have perm : (mapping :: rest).Perm c.alive := by
      rw [← same]
      exact List.getElem_cons_eraseIdx_perm inside
    have before (id : BufferId) :
        c.aliveOn id = aliveOn ⟨c.scene, rest⟩ id + if mapping.buffer = id then 1 else 0 := by
      rw [← aliveOn_cons c.scene]
      exact (perm.countP_eq _).symm
    have counts : (c.scene.unmap mapping.buffer).mapCounts = c.scene.mapCounts :=
      Scene.mapCounts_setBuffer rfl
    intro other
    have count : ((c.scene.unmap mapping.buffer).buffer other).mapCount =
        (c.scene.buffer other).mapCount := congrFun counts other
    change aliveOn ⟨c.scene, rest⟩ other = 1 ∧ _ ∨ aliveOn ⟨c.scene, rest⟩ other = 0 ∧ _
    rw [mapped_unmap, count]
    have held := h other
    rw [before] at held
    by_cases here : other = mapping.buffer
    · rw [if_pos here.symm] at held
      rw [if_pos here]
      refine .inr ⟨?_, nofun⟩
      rcases held with ⟨one, _⟩ | ⟨none, _⟩ <;> omega
    · rw [if_neg (Ne.symm here), Nat.add_zero] at held
      rw [if_neg here]
      exact held

theorem Exclusive.step (h : c.Exclusive) {step : Step} (other : step.isDirect = false) :
    (c.step step).Exclusive := by
  cases step with
  | take id access =>
    change (if id.index < c.scene.buffers.size then (c.take id access).2 else c).Exclusive
    split
    · rename_i inside
      exact h.take inside access
    · exact h
  | read place offset count => exact h
  | drop place => exact h.drop place
  | operate op => exact h.congr (watched_after op c.scene other)

theorem Exclusive.run (h : c.Exclusive) {steps : List Step}
    (other : ∀ step ∈ steps, step.isDirect = false) : (c.run steps).Exclusive := by
  refine List.foldlRecOn steps Custody.step (motive := Exclusive) h fun c h step inside => ?_
  exact h.step (other step inside)

end Custody

/-- From a scene without mapped buffers, steps that never map or unmap by hand keep a buffer mapped
just while one mapping of it is alive, as long as its counter is not full. A mapping is given just
for reading a buffer that has none. A refusal changes nothing, but a full counter leaves the buffer
mapped; the same holds of outlines and draws in any scene. -/
theorem mappings_exclusive {s : Scene} (free : ∀ id, (s.buffer id).mapped = false)
    {steps : List Custody.Step} (other : ∀ step ∈ steps, step.isDirect = false) :
    let c := Custody.run ⟨s, []⟩ steps
    (∀ id, c.aliveOn id ≤ 1 ∧ (c.aliveOn id = 1 → (c.scene.buffer id).mapped = true) ∧
      ((c.scene.buffer id).mapped = true →
        c.aliveOn id = 1 ∨ Full (c.scene.buffer id).mapCount)) ∧
    (∀ id access,
      match c.take id access with
      | (.ok (.ok _), _) =>
        access = .read ∧ c.aliveOn id = 0 ∧ ¬ Full (c.scene.buffer id).mapCount
      | (.ok (.error _), after) =>
        (access = .read → c.aliveOn id = 1 ∨ Full (c.scene.buffer id).mapCount) ∧ after = c
      | (.error cause, after) => cause = .count ∧ access = .read ∧ c.aliveOn id = 0 ∧
        Full (c.scene.buffer id).mapCount ∧ after = { c with scene := c.scene.mark id }) ∧
    (∀ (t : Scene) (position : AttributeId) (topology : Topology) (first count : UInt32)
      (indices : Option Indices),
      Ensures (fun u => u = t) (reconstruct position topology first count indices)
        (fun _ => SameMappings t)
        fun cause u => if cause = .count then StuckMapping t u else SameMappings t u) ∧
    ∀ (t : Scene) (request : DrawRequest) (prevalidated : Bool),
      Ensures (fun u => u = t) (Operation.draw request prevalidated).perform
        (fun _ => SameMappings t)
        fun cause u => SameMappings t u ∨ cause = .count ∧ StuckMapping t u := by
  intro c
  have start : Custody.Exclusive ⟨s, []⟩ :=
    fun id => .inr ⟨rfl, fun mapped => absurd ((free id).symm.trans mapped) Bool.false_ne_true⟩
  have exclusive : c.Exclusive := start.run other
  refine ⟨fun id => ?_, fun id access => ?_, mapped_reconstruct, mapped_draw⟩
  · rcases exclusive id with ⟨one, mapped⟩ | ⟨none, stuck⟩
    · exact ⟨Nat.le_of_eq one, fun _ => mapped, fun _ => .inl one⟩
    · exact ⟨none ▸ Nat.zero_le 1, fun one => absurd (none.symm.trans one) Nat.zero_ne_one,
        fun mapped => .inr (stuck mapped)⟩
  · rw [Custody.take_eq]
    cases outcome : (c.scene.buffer id).map id access with
    | error error =>
      refine ⟨fun readable => ?_, rfl⟩
      have mapped : (c.scene.buffer id).mapped = true := by
        cases flag : (c.scene.buffer id).mapped with
        | true => rfl
        | false => simp [Buffer.map, readable, flag] at outcome
      exact (exclusive id).imp And.left fun none => none.2 mapped
    | ok mapped =>
      have free := (Buffer.map_eq_ok outcome).1
      have readable : access = .read := by
        refine Classical.not_not.mp fun other => ?_
        rw [Buffer.map, if_pos other] at outcome
        cases outcome
      have none : c.aliveOn id = 0 := by
        rcases exclusive id with ⟨_, mapped⟩ | ⟨none, _⟩
        · exact absurd (free.symm.trans mapped) Bool.false_ne_true
        · exact none
      by_cases full : Full (c.scene.buffer id).mapCount
      · simp only [full, ↓reduceIte]
        exact ⟨trivial, readable, none, trivial, trivial⟩
      · simp only [full, ↓reduceIte]
        exact ⟨readable, none, not_false⟩

/-- The caller holds the positions while they are asked for again, outlined and drawn. -/
def heldPositions : List Custody.Step :=
  [ .operate (.newBuffer (Array.replicate 36 0) (.device 0)),
    .operate (.newAttribute false ⟨0⟩ "strand_position_in" ⟨3, .float, 0, 0⟩),
    .take ⟨0⟩ .read,
    .take ⟨0⟩ .read,
    .operate (.reconstruct ⟨0⟩ .triangleList 0 3 none),
    .operate (.draw ⟨.triangleList, 0, 3, [⟨0⟩], none⟩ true) ]

theorem mappings_exclusive_heldPositions :
    let s := Scene.create {} []
    (∀ id, (s.buffer id).mapped = false) ∧
      (∀ step ∈ heldPositions, step.isDirect = false) ∧
      (Custody.run ⟨s, []⟩ heldPositions).aliveOn ⟨0⟩ = 1 := by
  intro s
  have free : ∀ id, (s.buffer id).mapped = false := fun id => by
    rw [Scene.buffer_of_le s id (Nat.zero_le _)]
    rfl
  have other : ∀ step ∈ heldPositions, step.isDirect = false := by decide
  have flag : ((Custody.run ⟨s, []⟩ heldPositions).scene.buffer ⟨0⟩).mapped = true := by
    decide +kernel
  have room : ¬ Full ((Custody.run ⟨s, []⟩ heldPositions).scene.buffer ⟨0⟩).mapCount := by
    decide +kernel
  exact ⟨free, other, (((mappings_exclusive free other).1 ⟨0⟩).2.2 flag).resolve_right room⟩

def remapping (n : Nat) : List Custody.Step :=
  (List.replicate n [Custody.Step.take ⟨0⟩ .read, .drop 0]).flatten

theorem isDirect_remapping (n : Nat) : ∀ step ∈ remapping n, step.isDirect = false := by
  intro step member
  obtain ⟨pair, inside, here⟩ := List.mem_flatten.mp member
  rw [List.eq_of_mem_replicate inside] at here
  rcases List.mem_pair.mp here with rfl | rfl <;> rfl

theorem run_remapping {s : Scene} (inside : 0 < s.buffers.size)
    (free : (s.buffer ⟨0⟩).mapped = false) (n : Nat)
    (few : (s.buffer ⟨0⟩).mapCount + n ≤ largestCount) :
    Custody.run ⟨s, []⟩ (remapping n) =
      ⟨s.setBuffer ⟨0⟩ { s.buffer ⟨0⟩ with mapCount := (s.buffer ⟨0⟩).mapCount + n }, []⟩ := by
  induction n generalizing s with
  | zero => exact congrArg (Custody.mk · []) (s.setBuffer_buffer ⟨0⟩).symm
  | succ n ih =>
    let b := s.buffer ⟨0⟩
    have few : b.mapCount + (n + 1) ≤ largestCount := few
    let next := s.setBuffer ⟨0⟩ { b with mapCount := b.mapCount + 1 }
    have here : next.buffer ⟨0⟩ = { b with mapCount := b.mapCount + 1 } := by
      rw [Scene.buffer_setBuffer, if_pos ⟨rfl, inside⟩]
    have taken : Custody.step ⟨s, []⟩ (.take ⟨0⟩ .read) =
        ⟨s.setBuffer ⟨0⟩ { b with mapped := true, mapCount := b.mapCount + 1 },
          [⟨⟨0⟩, b.contents⟩]⟩ := by
      have room : ¬ Full b.mapCount := by
        unfold Full
        omega
      have map : b.map ⟨0⟩ .read =
          .ok { b with mapped := true, mapCount := b.mapCount + 1 } := by
        simp [Buffer.map, b, free]
      have step : Custody.step ⟨s, []⟩ (.take ⟨0⟩ .read) =
          (Custody.take ⟨s, []⟩ ⟨0⟩ .read).2 := if_pos inside
      rw [step, Custody.take_eq, map]
      exact congrArg Prod.snd (if_neg room)
    have dropped : (Custody.step ⟨s, []⟩ (.take ⟨0⟩ .read)).step (.drop 0) = ⟨next, []⟩ := by
      rw [taken]
      change Custody.mk (Scene.unmap _ _) [] = _
      rw [Scene.unmap, Scene.setBuffer_setBuffer, Scene.buffer_setBuffer, if_pos ⟨rfl, inside⟩]
      simp only [Buffer.unmap, next, ← free, b]
    have once : Custody.run ⟨s, []⟩ (remapping (n + 1)) =
        Custody.run ⟨next, []⟩ (remapping n) := by
      rw [← dropped]
      rfl
    rw [once, ih (by simpa only [next, Scene.size_setBuffer] using inside) (here ▸ free)
      (by rw [here]; dsimp only; omega), here]
    simp only [next, Scene.setBuffer_setBuffer, Nat.add_assoc, Nat.add_comm 1 n, b]

/-- A triangle whose buffer was mapped and unmapped as often as its counter can tell. -/
def wornTriangle : List Custody.Step :=
  [.newBuffer (Array.replicate 36 0) (.device 0),
    .newAttribute false ⟨0⟩ "strand_position_in" ⟨3, .float, 0, 0⟩].map Custody.Step.operate ++
      remapping largestCount

theorem isDirect_wornTriangle : ∀ step ∈ wornTriangle, step.isDirect = false := by
  intro step member
  rcases List.mem_append.mp member with made | late
  · obtain ⟨op, inside, rfl⟩ := List.mem_map.mp made
    rcases List.mem_pair.mp inside with rfl | rfl <;> rfl
  · exact isDirect_remapping _ step late

theorem run_wornTriangle (settings : DrawSettings) :
    let made := (Scene.create settings []).run
      [.newBuffer (Array.replicate 36 0) (.device 0),
        .newAttribute false ⟨0⟩ "strand_position_in" ⟨3, .float, 0, 0⟩]
    Custody.run ⟨Scene.create settings [], []⟩ wornTriangle =
      ⟨made.setBuffer ⟨0⟩ { made.buffer ⟨0⟩ with mapCount := largestCount }, []⟩ := by
  intro made
  have parts : Custody.run ⟨Scene.create settings [], []⟩ wornTriangle =
      Custody.run ⟨made, []⟩ (remapping largestCount) := List.foldl_append
  have size : made.buffers.size = 1 := rfl
  have new : (made.buffer ⟨0⟩).mapCount = 0 := rfl
  rw [parts, run_remapping (size ▸ Nat.zero_lt_one) rfl largestCount (by rw [new, Nat.zero_add]),
    new, Nat.zero_add]

/-- After its counter is full a buffer stays mapped for good, whoever maps it: no mapping of it is
alive, and an outline or a draw has not left it as it was. -/
theorem mapped_of_full_count :
    let s := Scene.create { debugFlags := DebugFlags.wireframe } []
    let c := Custody.run ⟨s, []⟩ wornTriangle
    let drawn := (Operation.draw ⟨.triangleList, 0, 3, [⟨0⟩], none⟩ true).after c.scene
    (∀ id, (s.buffer id).mapped = false) ∧ (∀ step ∈ wornTriangle, step.isDirect = false) ∧
      c.aliveOn ⟨0⟩ = 0 ∧ (c.scene.buffer ⟨0⟩).mapped = false ∧
      (c.take ⟨0⟩ .read).2.aliveOn ⟨0⟩ = 0 ∧
      ((c.take ⟨0⟩ .read).2.scene.buffer ⟨0⟩).mapped = true ∧
      (((reconstruct ⟨0⟩ .triangleList 0 3 none).after c.scene).buffer ⟨0⟩).mapped = true ∧
      (drawn.buffer ⟨0⟩).mapped = true := by
  intro s c
  refine ⟨fun id => ?_, isDirect_wornTriangle, ?_⟩
  · rw [Scene.buffer_of_le s id (Nat.zero_le _)]
    rfl
  · simp only [c, s, run_wornTriangle]
    decide +kernel

end DrawSubmission
