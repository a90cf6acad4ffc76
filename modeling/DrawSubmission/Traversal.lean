set_option autoImplicit false

namespace DrawSubmission
variable {ε α β γ : Type}

theorem map_eq_ok_iff {f : α → β} {x : Except ε α} {b : β} :
    f <$> x = .ok b ↔ ∃ a, x = .ok a ∧ f a = b := by
  cases x <;> simp [Functor.map, Except.map]

theorem map_eq_error_iff {f : α → β} {x : Except ε α} {error : ε} :
    f <$> x = .error error ↔ x = .error error := by
  cases x <;> simp [Functor.map, Except.map]

variable {f : α → Except ε β}

theorem mapM_cons_eq_ok {x : α} {xs : List α} {ys : List β} (h : (x :: xs).mapM f = .ok ys) :
    ∃ y zs, f x = .ok y ∧ xs.mapM f = .ok zs ∧ ys = y :: zs := by
  rw [List.mapM_cons] at h
  cases head : f x with
  | error error =>
    rw [head] at h
    cases h
  | ok y =>
    cases tail : xs.mapM f with
    | error error =>
      rw [head, tail] at h
      cases h
    | ok zs =>
      rw [head, tail] at h
      cases h
      exact ⟨y, zs, rfl, rfl, rfl⟩

theorem mapM_append_eq_ok {xs xs' : List α} {ys : List β} (h : (xs ++ xs').mapM f = .ok ys) :
    ∃ zs zs', xs.mapM f = .ok zs ∧ xs'.mapM f = .ok zs' ∧ ys = zs ++ zs' := by
  induction xs generalizing ys with
  | nil => exact ⟨[], ys, rfl, h, rfl⟩
  | cons x xs ih =>
    obtain ⟨y, rest, head, tail, rfl⟩ := mapM_cons_eq_ok h
    obtain ⟨zs, zs', first, second, rfl⟩ := ih tail
    refine ⟨y :: zs, zs', ?_, second, rfl⟩
    rw [List.mapM_cons, head, first]
    rfl

theorem exists_mapM_iff {xs : List α} :
    (∃ ys, xs.mapM f = .ok ys) ↔ ∀ x ∈ xs, ∃ y, f x = .ok y := by
  induction xs with
  | nil => exact ⟨fun _ _ inside => (nomatch inside), fun _ => ⟨[], rfl⟩⟩
  | cons x xs ih =>
    rw [List.forall_mem_cons, ← ih]
    constructor
    · rintro ⟨ys, found⟩
      obtain ⟨y, zs, head, tail, _⟩ := mapM_cons_eq_ok found
      exact ⟨⟨y, head⟩, zs, tail⟩
    · rintro ⟨⟨y, head⟩, zs, tail⟩
      rw [List.mapM_cons, head, tail]
      exact ⟨y :: zs, rfl⟩

theorem length_of_mapM {xs : List α} {ys : List β} (h : xs.mapM f = .ok ys) :
    ys.length = xs.length := by
  induction xs generalizing ys with
  | nil =>
    cases h
    rfl
  | cons x xs ih =>
    obtain ⟨y, zs, _, tail, rfl⟩ := mapM_cons_eq_ok h
    rw [List.length_cons, List.length_cons, ih tail]

theorem map_of_mapM {p : α → γ} {q : β → γ} {xs : List α} {ys : List β}
    (same : ∀ x y, f x = .ok y → q y = p x) (h : xs.mapM f = .ok ys) : ys.map q = xs.map p := by
  induction xs generalizing ys with
  | nil =>
    cases h
    rfl
  | cons x xs ih =>
    obtain ⟨y, zs, head, tail, rfl⟩ := mapM_cons_eq_ok h
    rw [List.map_cons, List.map_cons, same x y head, ih tail]

theorem mapM_filter {p : α → Bool} {q : β → Bool} {xs : List α} {ys : List β}
    (same : ∀ x y, f x = .ok y → q y = p x) (h : xs.mapM f = .ok ys) :
    (xs.filter p).mapM f = .ok (ys.filter q) := by
  induction xs generalizing ys with
  | nil =>
    cases h
    rfl
  | cons x xs ih =>
    obtain ⟨y, zs, head, tail, rfl⟩ := mapM_cons_eq_ok h
    have rest := ih tail
    cases kept : p x with
    | false => rw [List.filter_cons_of_neg (by simp [kept]),
        List.filter_cons_of_neg (by simp [same x y head, kept]), rest]
    | true =>
      rw [List.filter_cons_of_pos kept, List.filter_cons_of_pos ((same x y head).trans kept),
        List.mapM_cons, head, rest]
      rfl

theorem getLast?_of_mapM {xs : List α} {ys : List β} {x : α} (h : xs.mapM f = .ok ys)
    (last : xs.getLast? = some x) : ∃ y, f x = .ok y ∧ ys.getLast? = some y := by
  obtain ⟨front, rfl⟩ := List.getLast?_eq_some_iff.mp last
  obtain ⟨zs, rest, _, found, rfl⟩ := mapM_append_eq_ok h
  obtain ⟨y, none, here, nothing, rfl⟩ := mapM_cons_eq_ok found
  cases nothing
  exact ⟨y, here, List.getLast?_concat⟩

theorem mapM_transfer {g : α → Option γ} {h : β → γ} {xs : List α} {ys : List β}
    (step : ∀ x ∈ xs, ∀ y, f x = .ok y → g x = some (h y)) (found : xs.mapM f = .ok ys) :
    xs.mapM g = some (ys.map h) := by
  induction xs generalizing ys with
  | nil =>
    cases found
    rfl
  | cons x xs ih =>
    obtain ⟨y, zs, head, tail, rfl⟩ := mapM_cons_eq_ok found
    have later := ih (fun x inside => step x (List.mem_cons_of_mem _ inside)) tail
    rw [List.mapM_cons, step x List.mem_cons_self y head, later]
    rfl

theorem mapM_eq_some_map {f : α → Option β} {g : α → β} {xs : List α}
    (h : ∀ x ∈ xs, f x = some (g x)) : xs.mapM f = some (xs.map g) := by
  induction xs with
  | nil => rfl
  | cons x xs ih =>
    rw [List.mapM_cons, h x List.mem_cons_self,
      ih fun y inside => h y (List.mem_cons_of_mem x inside)]
    rfl

/-- A traversal ends in an error at the first step that does. -/
theorem mapM_eq_error_iff {xs : List α} {error : ε} :
    xs.mapM f = .error error ↔ ∃ done x rest, xs = done ++ x :: rest ∧
      (∀ y ∈ done, ∃ b, f y = .ok b) ∧ f x = .error error := by
  induction xs with
  | nil => simp [pure, Except.pure]
  | cons x xs ih =>
    rw [List.mapM_cons]
    constructor
    · intro h
      cases head : f x with
      | error cause =>
        rw [head] at h
        cases h
        exact ⟨[], x, xs, rfl, fun _ inside => (nomatch inside), head⟩
      | ok b =>
        have later : xs.mapM f = .error error := by
          rw [head] at h
          cases tail : xs.mapM f with
          | error cause =>
            rw [tail] at h
            cases h
            rfl
          | ok zs =>
            rw [tail] at h
            cases h
        obtain ⟨done, y, rest, parts, fine, failed⟩ := ih.mp later
        refine ⟨x :: done, y, rest, by rw [parts, List.cons_append], fun z inside => ?_, failed⟩
        rcases List.mem_cons.mp inside with same | inside
        · exact ⟨b, same ▸ head⟩
        · exact fine z inside
    · rintro ⟨done, y, rest, parts, fine, failed⟩
      cases done with
      | nil =>
        cases parts
        rw [failed]
        rfl
      | cons z done =>
        cases parts
        obtain ⟨b, head⟩ := fine x List.mem_cons_self
        have later := ih.mpr ⟨done, y, rest, rfl,
          fun z inside => fine z (List.mem_cons_of_mem _ inside), failed⟩
        rw [head, later]
        rfl

end DrawSubmission
