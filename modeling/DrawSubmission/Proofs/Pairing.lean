import DrawSubmission.Proofs.Bindings
import DrawSubmission.Proofs.Replay
set_option autoImplicit false

namespace DrawSubmission

open SceneM

theorem sameBindings_after (op : Operation) (s : Scene) (apart : op.isDirect = false)
    (other : op.isDraw = false) (unbinding : op.isBinding = false) :
    SameBindings s (op.after s) := by
  cases op with
  | enable | disable => cases apart
  | draw => cases other
  | bind | unbind => cases unbinding
  | newContext settings => exact .renewContext s settings
  | changeSettings | pushSource | popSource | newTexture => exact .of_same rfl rfl
  | newBuffer contents storage => exact .addBuffer s rfl rfl
  | newVertexArray data => exact (SameBindings.addBuffer s rfl rfl).trans (.of_same rfl rfl)
  | newAttribute | setNormalized | replaceBuffer | borrowBuffer | returnBuffer | acquire | release
  | dropPin | pinBuffer | unpinBuffer | report => exact Operation.upkeep SameBindings.frame _ s rfl
  | map id access =>
    simp only [Operation.after, Operation.perform, after_discard]
    rcases mapBuffer_after s id access with same | ⟨_, _, same⟩
    · rw [same]
      exact .refl s
    · rw [same]
      exact .setBuffer rfl rfl
  | unmap id => exact .unmap s id
  | leaveAtlas id => exact .leaveAtlas s id
  | prepareMipmaps id => exact .prepareMipmaps s id
  | validate pipeline start layers =>
    simp only [Operation.after, Operation.perform, after_discard]
    exact SameBindings.validateLayers s pipeline start layers s (.refl s)
  | reconstruct position topology first count indices =>
    simp only [Operation.after, Operation.perform, after_discard]
    exact reconstruct_rel Scene.Alike.bindings .trans (fun _ _ => .setBuffer rfl rfl) s position
      topology first count indices

def Operation.indices? : Operation → Option Indices
  | draw request _ => request.indices
  | _ => none

/-- Whether an operation works on objects that exist, binds nothing itself and does not overflow. -/
def Operation.Orderly (op : Operation) (s : Scene) : Prop :=
  op.Submissive s ∧ op.InRange s ∧ op.isBinding = false ∧
    ∀ indices ∈ op.indices?, indices.buffer.index < s.buffers.size

instance (op : Operation) (s : Scene) : Decidable (op.Orderly s) :=
  inferInstanceAs (Decidable (_ ∧ _ ∧ _ ∧ _))

theorem Operation.Orderly.backed {request : DrawRequest} {prevalidated : Bool} {s : Scene}
    (h : (Operation.draw request prevalidated).Orderly s) (linked : s.Linked) :
    request.Backed s :=
  ⟨fun id member => linked.attr (h.2.1 id member), h.2.2.2⟩

theorem paired_completed {request : DrawRequest} {prevalidated : Bool} {s : Scene}
    (orderly : (Operation.draw request prevalidated).Orderly s) (linked : s.Linked)
    (unbound : s.Unbound) :
    let t := (Operation.draw request prevalidated).after s
    Paired (fun b => request.bindings s b +
      if s.buffers.size ≤ b.index ∧ b.index < t.buffers.size then 1 else 0) s t := by
  have drawn := paired_draw unbound request prevalidated (orderly.backed linked)
  exact (Operation.ensured orderly.1.2.2 drawn).2

theorem paired_after (op : Operation) {s : Scene} (orderly : op.Orderly s) (linked : s.Linked)
    (unbound : s.Unbound) : ∃ times, Paired times s (op.after s) := by
  obtain ⟨⟨same, apart, _⟩, _, unbinding, _⟩ := id orderly
  cases isDraw : op.isDraw with
  | false =>
    have quiet := quiet_after op s same apart isDraw
    exact ⟨_, .of_quiet unbound quiet (sameBindings_after op s apart isDraw unbinding)⟩
  | true =>
    cases op with
    | draw request prevalidated => exact ⟨_, paired_completed orderly linked unbound⟩
    | _ => cases isDraw

section Runs
variable {s : Scene}

theorem paired_renewContext (unbound : s.Unbound) (settings : DrawSettings) :
    Paired (fun _ => 0) s (s.renewContext settings) := by
  refine ⟨(Tallies.start unbound).step (.renewContext s settings), [.createPipeline],
    Array.toList_push, fun call inside => ?_⟩
  rw [List.mem_singleton.mp inside]
  trivial

theorem paired_run (linked : s.Linked) (unbound : s.Unbound) (ops : List Operation)
    (along : Along Operation.Orderly ops s) :
    (s.run ops).Linked ∧ ∃ times, Paired times s (s.run ops) := by
  refine run_induction (p := Operation.Orderly)
    (I := fun _ t => t.Linked ∧ ∃ times, Paired times s t) ?_ ?_ ops along
  · exact ⟨linked, _, .of_quiet unbound (.refl s) (.refl s)⟩
  · rintro ops op ⟨linked, times, paired⟩ orderly
    obtain ⟨times', next⟩ := paired_after op orderly linked paired.tallies.unbound
    exact ⟨linked_after op linked orderly.2.1, _, paired.trans next⟩

/-- In a run of a new context in which the user binds nothing and no draw overflows, draw calls are
made while just their index buffer is bound, all bindings and arrays are off at the end, no notice
about a binding is new, and each draw binds a buffer once for each of its uses. -/
theorem bindings_paired (linked : s.Linked) (unbound : s.Unbound) (settings : DrawSettings)
    (ops : List Operation) (along : Along Operation.Orderly ops (s.renewContext settings)) :
    let t := (s.renewContext settings).run ops
    let calls := t.callsSince s.calls.size
    (∀ call ∈ calls, call.BindsIndices) ∧ t.Unbound ∧ (replay calls).Rested ∧
      t.bindingNotices = s.bindingNotices ∧
      ∀ made request prevalidated later, ops = made ++ .draw request prevalidated :: later →
        let before := (s.renewContext settings).run made
        let after := (Operation.draw request prevalidated).after before
        ∀ b, (after.buffer b).bindCount = (before.buffer b).bindCount + (request.bindings before b +
          if before.buffers.size ≤ b.index ∧ b.index < after.buffers.size then 1 else 0) := by
  have renewed := paired_renewContext unbound settings
  have linked' : (s.renewContext settings).Linked := linked.of_same rfl rfl
  obtain ⟨_, times, paired⟩ := paired_run linked' renewed.tallies.unbound ops along
  have whole := renewed.trans paired
  obtain ⟨calls, appended, right⟩ := whole.calls
  have submissive : Along Operation.Submissive ops (s.renewContext settings) :=
    along.mono fun op s orderly => orderly.1
  refine ⟨?_, whole.tallies.unbound, (served ops submissive).rested, whole.tallies.notices, ?_⟩
  · rw [callsSince_of_append appended]
    exact right
  · intro made request prevalidated later parts
    rw [parts, along_append] at along
    obtain ⟨first, orderly, _⟩ := along
    obtain ⟨linked, _, begun⟩ := paired_run linked' renewed.tallies.unbound made first
    exact (paired_completed orderly linked begun.tallies.unbound).tallies.count

/-- A run of an outlined draw, which binds one buffer for four attributes, and an indexed one. -/
theorem bindings_paired_sampleRun :
    let s := Scene.create {} []
    let calls := ((s.renewContext {}).run sampleRun).callsSince s.calls.size
    s.Linked ∧ s.Unbound ∧ Along Operation.Orderly sampleRun (s.renewContext {}) ∧
      drawCount calls = 4 ∧ ∀ call ∈ calls, call.BindsIndices := by
  have linked : (Scene.create {} []).Linked := fun _ inside => nomatch inside
  have unbound : (Scene.create {} []).Unbound := by decide +kernel
  have along : Along Operation.Orderly sampleRun ((Scene.create {} []).renewContext {}) := by
    decide +kernel
  exact ⟨linked, unbound, along, by decide +kernel,
    (bindings_paired linked unbound {} sampleRun along).1⟩

end Runs

end DrawSubmission
