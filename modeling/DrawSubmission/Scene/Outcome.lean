import DrawSubmission.Scene.Basic
set_option autoImplicit false

/-!
# Outcomes of computations on a scene

A computation ends with a value or with an overflow, and leaves a scene behind in both cases. The
rules below prove what it ensures on either exit from what its parts ensure.
-/
namespace DrawSubmission.SceneM
variable {α β : Type}

def after (m : SceneM α) (s : Scene) : Scene :=
  match m s with
  | .ok _ t => t
  | .error _ t => t

def exit (m : SceneM α) (s : Scene) : Except Overflow α :=
  match m s with
  | .ok a _ => .ok a
  | .error overflow _ => .error overflow

/-- From a scene with `P` the computation reaches `Q` with its value, or overflows in `E`, which may
go by the cause. -/
def Ensures (P : Scene → Prop) (m : SceneM α) (Q : α → Scene → Prop)
    (E : Overflow → Scene → Prop) : Prop :=
  ∀ s, P s →
    match m s with
    | .ok a t => Q a t
    | .error cause t => E cause t

def Keeps (P : Scene → Prop) (m : SceneM α) : Prop := ∀ s, P s → P (m.after s)

theorem after_of_ok {m : SceneM α} {s t : Scene} {a : α} (h : m s = .ok a t) : m.after s = t := by
  simp only [after, h]

theorem after_discard (m : SceneM α) (s : Scene) : (discard m).after s = m.after s := by
  have mapped : discard m s = EStateM.map (fun _ => PUnit.unit) m s := rfl
  simp only [after, mapped, EStateM.map]
  cases m s <;> rfl

theorem after_bind_of_ok {m : SceneM α} {s t : Scene} {a : α} (h : m s = .ok a t)
    (f : α → SceneM β) : (m >>= f).after s = (f a).after t := by
  have run : (m >>= f) s = f a t := by
    change EStateM.bind m f s = _
    rw [EStateM.bind, h]
  rw [after, run, after]

theorem after_bind_of_error {m : SceneM α} {s t : Scene} {cause : Overflow}
    (h : m s = .error cause t) (f : α → SceneM β) : (m >>= f).after s = t := by
  have run : (m >>= f) s = .error cause t := by
    change EStateM.bind m f s = _
    rw [EStateM.bind, h]
  rw [after, run]

theorem after_thenAlways (m : SceneM α) (change : Scene → Scene) (s : Scene) :
    (m.thenAlways change).after s = change (m.after s) := by
  simp only [thenAlways, after]
  cases m s <;> rfl

theorem keeps_iff_ensures {P : Scene → Prop} {m : SceneM α} :
    Keeps P m ↔ Ensures P m (fun _ => P) fun _ => P := by
  refine forall_congr' fun s => imp_congr_right fun _ => ?_
  unfold after
  cases m s <;> rfl

theorem ensures_iff_after {P : Scene → Prop} {m : SceneM α} {s : Scene} :
    Ensures (fun t => t = s) m (fun _ => P) (fun _ => P) ↔ P (m.after s) := by
  constructor
  · intro h
    have done := h s rfl
    revert done
    unfold after
    cases m s <;> exact id
  · intro h t same
    subst t
    revert h
    unfold after
    cases m s <;> exact id

variable {P : Scene → Prop} {E E' : Overflow → Scene → Prop}

theorem Ensures.mono {Q Q' : α → Scene → Prop} {m : SceneM α} (h : Ensures P m Q E)
    (value : ∀ a t, Q a t → Q' a t) (overflow : ∀ cause t, E cause t → E' cause t) :
    Ensures P m Q' E' := by
  intro s hs
  have done := h s hs
  revert done
  cases m s with
  | ok a t => exact value a t
  | error cause t => exact overflow cause t

theorem Ensures.and {Q Q' : α → Scene → Prop} {m : SceneM α} (h : Ensures P m Q E)
    (h' : Ensures P m Q' E') :
    Ensures P m (fun a t => Q a t ∧ Q' a t) fun cause t => E cause t ∧ E' cause t := by
  intro s hs
  have done := h s hs
  have done' := h' s hs
  revert done done'
  cases m s with
  | ok a t => exact fun done done' => ⟨done, done'⟩
  | error cause t => exact fun done done' => ⟨done, done'⟩

theorem Ensures.of_each {Q : α → Scene → Prop} {m : SceneM α}
    (h : ∀ s, P s → Ensures (fun t => t = s) m Q E) : Ensures P m Q E :=
  fun s hs => h s hs s rfl

theorem Ensures.and_after {Q : α → Scene → Prop} {R : Scene → Prop} {m : SceneM α} {s : Scene}
    (h : Ensures (fun t => t = s) m Q E) (after : R (m.after s)) :
    Ensures (fun t => t = s) m (fun a t => Q a t ∧ R t) E :=
  (h.and (ensures_iff_after.mpr after)).mono (fun _ _ => id) fun _ _ => And.left

theorem Ensures.bind {Q : α → Scene → Prop} {R : β → Scene → Prop} {m : SceneM α}
    {f : α → SceneM β} (first : Ensures P m Q E) (rest : ∀ a, Ensures (Q a) (f a) R E) :
    Ensures P (m >>= f) R E := by
  intro s hs
  have done := first s hs
  change match EStateM.bind m f s with | .ok a t => R a t | .error cause t => E cause t
  unfold EStateM.bind
  cases h : m s with
  | ok a t =>
    rw [h] at done
    exact rest a t done
  | error cause t =>
    rw [h] at done
    exact done

theorem Ensures.bind_congr {Q : α → Scene → Prop} {m : SceneM α} {s : Scene} {f g : α → SceneM β}
    (first : Ensures (fun t => t = s) m Q E) (rest : ∀ a t, Q a t → f a t = g a t) :
    (m >>= f) s = (m >>= g) s := by
  have done := first s rfl
  revert done
  change _ → EStateM.bind m f s = EStateM.bind m g s
  unfold EStateM.bind
  cases m s with
  | ok a t => exact rest a t
  | error cause t => exact fun _ => rfl

theorem Ensures.thenAlways {Q : α → Scene → Prop} {m : SceneM α} {change : Scene → Scene}
    (h : Ensures P m (fun a t => Q a (change t)) fun cause t => E cause (change t)) :
    Ensures P (m.thenAlways change) Q E := by
  intro s hs
  have done := h s hs
  revert done
  simp only [SceneM.thenAlways]
  cases m s <;> exact id

/-- What a full counter may spoil holds where none is. -/
theorem Ensures.of_counted {R : Scene → Prop} {m : SceneM α} {s : Scene}
    (h : Ensures (fun t => t = s) m (fun _ => R) fun cause t => cause = .count ∨ R t)
    (counted : m.exit s ≠ .error .count) : R (m.after s) := by
  have done := h s rfl
  revert done counted
  unfold exit after
  cases m s with
  | ok a t => exact fun _ => id
  | error cause t => exact fun counted spared => spared.resolve_left (mt (congrArg _) counted)

theorem Ensures.modify {Q : Unit → Scene → Prop} {f : Scene → Scene}
    (h : ∀ s, P s → Q () (f s)) : Ensures P (modify f : SceneM Unit) Q E := h

theorem Ensures.get_bind {Q : β → Scene → Prop} {f : Scene → SceneM β}
    (h : ∀ s, P s → Ensures (fun t => t = s) (f s) Q E) : Ensures P (get >>= f) Q E :=
  fun s hs => h s hs s rfl

theorem Keeps.bind {P : Scene → Prop} {m : SceneM α} {f : α → SceneM β} (first : Keeps P m)
    (rest : ∀ a, Keeps P (f a)) : Keeps P (m >>= f) :=
  keeps_iff_ensures.mpr ((keeps_iff_ensures.mp first).bind fun a => keeps_iff_ensures.mp (rest a))

theorem Keeps.pure {P : Scene → Prop} (a : α) : Keeps P (pure a : SceneM α) := fun _ hs => hs

theorem Keeps.get {P : Scene → Prop} : Keeps P (get : SceneM Scene) := fun _ hs => hs

theorem Keeps.modify {P : Scene → Prop} {f : Scene → Scene} (h : ∀ s, P s → P (f s)) :
    Keeps P (modify f : SceneM Unit) := h

theorem Keeps.modifyGet {P : Scene → Prop} {f : Scene → α × Scene} (h : ∀ s, P s → P (f s).2) :
    Keeps P (modifyGet f : SceneM α) := h

/-- What holds of the elements done so far carries over a loop, if each round extends it. -/
theorem Ensures.foldlM {γ : Type} {I : List γ → β → Scene → Prop}
    {f : β → γ → SceneM β} (todo done : List γ) (b : β)
    (round : ∀ done' x todo' b', done ++ todo = done' ++ x :: todo' →
      Ensures (I done' b') (f b' x) (I (done' ++ [x])) E) :
    Ensures (I done b) (todo.foldlM f b) (I (done ++ todo)) E := by
  induction todo generalizing done b with
  | nil =>
    intro s hs
    rw [List.append_nil]
    exact hs
  | cons x todo ih =>
    have whole : done ++ [x] ++ todo = done ++ x :: todo := by
      rw [List.append_assoc, List.singleton_append]
    rw [List.foldlM_cons]
    refine (round done x todo b rfl).bind fun b' => ?_
    rw [← whole]
    exact ih (done ++ [x]) b' fun done' x' todo' b'' parts =>
      round done' x' todo' b'' (whole ▸ parts)

theorem Keeps.foldlM {γ : Type} {P : Scene → Prop} {f : β → γ → SceneM β}
    (round : ∀ b x, Keeps P (f b x)) (xs : List γ) (b : β) : Keeps P (xs.foldlM f b) :=
  keeps_iff_ensures.mpr <| Ensures.foldlM (I := fun _ _ => P) xs [] b
    fun _ x _ b' _ => keeps_iff_ensures.mp (round b' x)

end DrawSubmission.SceneM
