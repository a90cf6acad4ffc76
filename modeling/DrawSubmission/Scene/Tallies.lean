import Mathlib.Data.List.Nodup
import DrawSubmission.Scene.Bindings
set_option autoImplicit false

namespace DrawSubmission
namespace Scene

def Unbound (s : Scene) : Prop := s.moment.bound = []

instance (s : Scene) : Decidable s.Unbound := inferInstanceAs (Decidable (_ = _))

theorem mem_bound {s : Scene} {id : BufferId} {target : BindTarget} :
    (id, target) ∈ s.moment.bound ↔ (s.buffer id).bound = some target := by
  have listed : (id, target) ∈ s.moment.bound ↔
      ∃ b, s.buffers[id.index]? = some b ∧ b.bound = some target := by
    cases id with
    | mk i =>
      simp only [moment, List.mem_filterMap, Prod.exists, List.mk_mem_zipIdx_iff_getElem?,
        Array.getElem?_toList, Option.map_eq_some_iff, Prod.mk.injEq, BufferId.mk.injEq]
      constructor
      · rintro ⟨b, j, found, target', bound, rfl, rfl⟩
        exact ⟨b, found, bound⟩
      · rintro ⟨b, found, bound⟩
        exact ⟨b, i, found, target, bound, rfl, rfl⟩
  rw [listed, buffer, Array.getD_eq_getD_getElem?]
  cases s.buffers[id.index]? with
  | none =>
    have unbound : (default : Buffer).bound = none := rfl
    simp [unbound]
  | some b => simp

theorem unbound_iff {s : Scene} : s.Unbound ↔ ∀ id, (s.buffer id).bound = none := by
  rw [Unbound, List.eq_nil_iff_forall_not_mem]
  constructor
  · intro h id
    refine Option.eq_none_iff_forall_ne_some.mpr fun target bound => ?_
    exact h (id, target) (mem_bound.mpr bound)
  · rintro h ⟨id, target⟩ inside
    rw [mem_bound, h id] at inside
    cases inside

def only (id : BufferId) (target : BindTarget) (b : BufferId) : Option BindTarget :=
  if b = id then some target else none

theorem bound_eq_singleton {s : Scene} {id : BufferId} {target : BindTarget}
    (h : ∀ b, (s.buffer b).bound = only id target b) : s.moment.bound = [(id, target)] := by
  have distinct : s.moment.bound.Nodup := by
    have places : (s.buffers.toList.zipIdx.map Prod.snd).Nodup := by
      rw [List.zipIdx_map_snd]
      exact List.nodup_range'
    refine List.Pairwise.filterMap _ ?_ (List.pairwise_map.mp places)
    rintro ⟨b, i⟩ ⟨b', i'⟩ apart x inside x' inside' same
    obtain ⟨target, _, rfl⟩ := Option.map_eq_some_iff.mp inside
    obtain ⟨target', _, rfl⟩ := Option.map_eq_some_iff.mp inside'
    cases same
    exact apart rfl
  refine List.perm_singleton.mp ((List.perm_ext_iff_of_nodup distinct ?_).mpr ?_)
  · exact List.nodup_singleton _
  · rintro ⟨b, target'⟩
    rw [mem_bound, h b, only, List.mem_singleton, Prod.mk.injEq]
    split <;> simp_all [eq_comm]

end Scene

/-- Since `s`, where nothing was bound, buffers have been bound `times` more and are `held` now, and
no notice about bindings is new. -/
structure Tallies (held : BufferId → Option BindTarget) (times : BufferId → Nat) (s t : Scene) :
    Prop where
  held : ∀ b, (t.buffer b).bound = held b
  count : ∀ b, (t.buffer b).bindCount = (s.buffer b).bindCount + times b
  notices : t.bindingNotices = s.bindingNotices

def nothing (_ : BufferId) : Option BindTarget := none

namespace Tallies
variable {held held' : BufferId → Option BindTarget} {times times' : BufferId → Nat} {s t u : Scene}

theorem start (unbound : s.Unbound) : Tallies nothing (fun _ => 0) s s :=
  ⟨Scene.unbound_iff.mp unbound, fun _ => rfl, rfl⟩

theorem unbound (h : Tallies nothing times s t) : t.Unbound := Scene.unbound_iff.mpr h.held

theorem step (h : Tallies held times s t) (same : SameBindings t u) : Tallies held times s u where
  held b := (same.bound b).trans (h.held b)
  count b := (same.count b).trans (h.count b)
  notices := same.notices.trans h.notices

theorem trans (h : Tallies held times s t) (h' : Tallies held' times' t u) :
    Tallies held' (fun b => times b + times' b) s u where
  held := h'.held
  count b := by rw [h'.count, h.count, Nat.add_assoc]
  notices := h'.notices.trans h.notices

theorem congr (h : Tallies held times s t) (same : ∀ b, times' b = times b) :
    Tallies held times' s t := by
  have equal : times' = times := funext same
  exact equal ▸ h

theorem bind (h : Tallies nothing times s t) {id : BufferId} (inside : id.index < t.buffers.size)
    (target : BindTarget) :
    Tallies (Scene.only id target) (fun b => times b + if b = id then 1 else 0) s
      (t.bind id target) := by
  have bound : t.bind id target = t.setBuffer id ((t.buffer id).attach target).countBinding := by
    simp only [Scene.bind, Scene.attach, Scene.countBinding, h.held id, nothing]
    rw [Scene.buffer_setBuffer, if_pos ⟨rfl, inside⟩, Scene.setBuffer_setBuffer]
  rw [bound]
  refine ⟨fun b => ?_, fun b => ?_, h.notices⟩
  · rw [Scene.buffer_setBuffer, Scene.only]
    by_cases here : b = id
    · rw [if_pos ⟨here, inside⟩, if_pos here]
      rfl
    · rw [if_neg fun both => here both.1, if_neg here]
      exact h.held b
  · rw [Scene.buffer_setBuffer]
    by_cases here : b = id
    · rw [if_pos ⟨here, inside⟩, if_pos here, here]
      change (t.buffer id).bindCount + 1 = _
      rw [h.count, Nat.add_assoc]
    · rw [if_neg fun both => here both.1, if_neg here]
      exact h.count b

theorem unbind {id : BufferId} {target : BindTarget}
    (h : Tallies (Scene.only id target) times s t) : Tallies nothing times s (t.unbind id) := by
  have bound : (t.buffer id).bound = some target := by rw [h.held, Scene.only, if_pos rfl]
  have unbound : t.unbind id = t.setBuffer id (t.buffer id).unbind := by
    simp only [Scene.unbind, bound, Option.isSome_some, ↓reduceIte]
  have inside : id.index < t.buffers.size := by
    refine Nat.lt_of_not_le fun outside => ?_
    rw [Scene.buffer_of_le t id outside] at bound
    cases bound
  rw [unbound]
  refine ⟨fun b => ?_, fun b => ?_, h.notices⟩
  · rw [Scene.buffer_setBuffer]
    by_cases here : b = id
    · rw [if_pos ⟨here, inside⟩]
      rfl
    · rw [if_neg fun both => here both.1, h.held, Scene.only, if_neg here]
      rfl
  · rw [Scene.buffer_setBuffer]
    split
    · rename_i here
      rw [here.1]
      exact h.count id
    · exact h.count b

end Tallies

end DrawSubmission
