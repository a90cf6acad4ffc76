set_option autoImplicit false

namespace DrawSubmission.Text
variable {α : Type}

/-- The pieces between separators; there is one more of them than there are separators. -/
def pieces (separates : α → Bool) : List α → List (List α)
  | [] => [[]]
  | a :: rest =>
    if separates a then [] :: pieces separates rest
    else
      match pieces separates rest with
      | [] => [[a]]
      | piece :: others => (a :: piece) :: others

def runs (separates : α → Bool) (text : List α) : List (List α) :=
  (pieces separates text).filter fun piece => !piece.isEmpty

theorem pieces_ne_nil (separates : α → Bool) (text : List α) : pieces separates text ≠ [] := by
  cases text with
  | nil => simp [pieces]
  | cons a rest =>
    rw [pieces]
    split
    · simp
    · split <;> simp

theorem pieces_append_cons {separates : α → Bool} {c : α} (h : separates c = true)
    (a b : List α) :
    pieces separates (a ++ c :: b) = pieces separates a ++ pieces separates b := by
  induction a with
  | nil => simp [pieces, h]
  | cons x rest ih =>
    rw [List.cons_append, pieces, pieces]
    split
    · simp [ih]
    · rw [ih]
      cases e : pieces separates rest with
      | nil => exact absurd e (pieces_ne_nil separates rest)
      | cons piece others => simp

theorem runs_append_cons {separates : α → Bool} {c : α} (h : separates c = true)
    (a b : List α) : runs separates (a ++ c :: b) = runs separates a ++ runs separates b := by
  simp [runs, pieces_append_cons h]

variable {β : Type} {separates : α → Bool}

theorem pieces_of_solid {run : List α} (solid : ∀ a ∈ run, separates a = false) :
    pieces separates run = [run] := by
  induction run with
  | nil => rfl
  | cons a run ih =>
    obtain ⟨first, rest⟩ := List.forall_mem_cons.mp solid
    rw [pieces, if_neg (Bool.eq_false_iff.mp first), ih rest]

theorem runs_cons {c : α} (h : separates c = true) (text : List α) :
    runs separates (c :: text) = runs separates text :=
  runs_append_cons h [] text

theorem runs_run_append {run after : List α} (given : run ≠ [])
    (solid : ∀ a ∈ run, separates a = false) (closes : ∀ a ∈ after.head?, separates a = true) :
    runs separates (run ++ after) = run :: runs separates after := by
  have alone : runs separates run = [run] := by
    rw [runs, pieces_of_solid solid]
    simp [given]
  cases after with
  | nil =>
    rw [List.append_nil, alone]
    rfl
  | cons c rest =>
    have cut := closes c rfl
    rw [runs_append_cons cut, runs_cons cut, alone]
    rfl

theorem runs_map {separates' : β → Bool} {f : α → β}
    (same : ∀ a, separates' (f a) = separates a) (text : List α) :
    runs separates' (text.map f) = (runs separates text).map (List.map f) := by
  have cut : pieces separates' (text.map f) = (pieces separates text).map (List.map f) := by
    induction text with
    | nil => rfl
    | cons a rest ih =>
      rw [List.map_cons, pieces, pieces, same, ih]
      cases separates a with
      | true => rfl
      | false => cases pieces separates rest <;> rfl
  rw [runs, runs, cut, List.filter_map]
  congr 2
  funext piece
  cases piece <;> rfl

/-- A text is gone through by separators and by whole runs. -/
@[elab_as_elim]
theorem runs_induction {motive : List α → Prop} (separates : α → Bool) (nil : motive [])
    (gap : ∀ c text, separates c = true → motive text → motive (c :: text))
    (run : ∀ run after, run ≠ [] → (∀ a ∈ run, separates a = false) →
      (∀ a ∈ after.head?, separates a = true) → motive after → motive (run ++ after)) :
    ∀ text, motive text
  | [] => nil
  | c :: rest => by
    cases cut : separates c with
    | true => exact gap c rest cut (runs_induction separates nil gap run rest)
    | false =>
      let inside (a : α) : Bool := !separates a
      have whole : (c :: rest.takeWhile inside) ++ rest.dropWhile inside = c :: rest := by
        rw [List.cons_append, List.takeWhile_append_dropWhile]
      have shorter : (rest.dropWhile inside).length ≤ rest.length :=
        (List.dropWhile_sublist inside).length_le
      rw [← whole]
      refine run _ _ (List.cons_ne_nil _ _) (List.forall_mem_cons.mpr ⟨cut, fun a taken => ?_⟩)
        (fun a next => ?_) (runs_induction separates nil gap run (rest.dropWhile inside))
      · simpa [inside] using List.all_eq_true.mp (List.all_takeWhile (p := inside)) a taken
      · have stopped := List.head?_dropWhile_not inside rest
        rw [next] at stopped
        simpa [inside] using stopped
termination_by text => text.length
decreasing_by
  · exact Nat.lt_succ_of_le shorter
  · exact Nat.lt_succ_self _

/-- A part of a text, with what stands before it and after it. -/
structure Stretch (α : Type) where
  before : List α
  run : List α
  after : List α

namespace Stretch

/-- The text of which a stretch is a part. -/
def text (stretch : Stretch α) : List α := stretch.before ++ (stretch.run ++ stretch.after)

/-- Whether a stretch has elements but no separator, and a separator or an end of the text on
either side. -/
structure IsRun (separates : α → Bool) (stretch : Stretch α) : Prop where
  given : stretch.run ≠ []
  solid : ∀ a ∈ stretch.run, separates a = false
  opens : ∀ a ∈ stretch.before.getLast?, separates a = true
  closes : ∀ a ∈ stretch.after.head?, separates a = true

def Precedes (first next : Stretch α) : Prop := first.before.length < next.before.length

/-- The same stretch of a text that begins with `front`. -/
def behind (front : List α) (stretch : Stretch α) : Stretch α :=
  { stretch with before := front ++ stretch.before }

theorem text_behind (front : List α) (stretch : Stretch α) :
    (stretch.behind front).text = front ++ stretch.text :=
  List.append_assoc ..

theorem precedes_behind {front : List α} {first next : Stretch α} (h : first.Precedes next) :
    (first.behind front).Precedes (next.behind front) := by
  simpa [Precedes, behind] using h

namespace IsRun
variable {stretch : Stretch α} {front : List α}

theorem of_behind (h : (stretch.behind front).IsRun separates) : stretch.IsRun separates where
  given := h.given
  solid := h.solid
  opens a last := by
    apply h.opens
    rw [behind, List.getLast?_append, Option.mem_def.mp last]
    rfl
  closes := h.closes

theorem behind (h : stretch.IsRun separates)
    (opens : stretch.before = [] → ∀ a ∈ front.getLast?, separates a = true) :
    (stretch.behind front).IsRun separates where
  given := h.given
  solid := h.solid
  opens a last := by
    cases start : stretch.before with
    | nil =>
      rw [Stretch.behind, start, List.append_nil] at last
      exact opens start a last
    | cons b before =>
      apply h.opens
      rw [Stretch.behind, start, List.getLast?_append, List.getLast?_cons] at last
      rw [start, List.getLast?_cons]
      exact last
  closes := h.closes

/-- A separator begins no run. -/
theorem before_ne_nil (h : stretch.IsRun separates) {c : α} {text : List α}
    (cut : separates c = true) (whole : stretch.text = c :: text) : stretch.before ≠ [] := by
  intro start
  obtain ⟨a, run, inside⟩ := List.exists_cons_of_ne_nil h.given
  rw [Stretch.text, start, inside] at whole
  have first : a = c := (List.cons.inj whole).1
  have solid : separates a = false := h.solid a (inside ▸ List.mem_cons_self)
  exact Bool.false_ne_true ((first ▸ solid).symm.trans cut)

/-- The run at the start of a text goes up to the first separator. -/
theorem takeWhile_eq (h : stretch.IsRun separates) :
    (stretch.run ++ stretch.after).takeWhile (fun a => !separates a) = stretch.run := by
  rw [List.takeWhile_append_of_pos fun a inside => by rw [h.solid a inside]; rfl]
  cases rest : stretch.after with
  | nil => exact List.append_nil _
  | cons c others =>
    have cut : separates c = true := h.closes c (rest ▸ rfl)
    rw [List.takeWhile_cons, cut]
    exact List.append_nil _

end IsRun

/-- The runs of a text that begins with a separator. -/
theorem isRun_cons_iff {c : α} (cut : separates c = true) {text : List α} {stretch : Stretch α} :
    stretch.text = c :: text ∧ stretch.IsRun separates ↔
      ∃ inner : Stretch α, (inner.text = text ∧ inner.IsRun separates) ∧
        inner.behind [c] = stretch := by
  constructor
  · rintro ⟨whole, isRun⟩
    obtain ⟨b, before, start⟩ := List.exists_cons_of_ne_nil (isRun.before_ne_nil cut whole)
    rw [Stretch.text, start, List.cons_append] at whole
    obtain ⟨rfl, rest⟩ := List.cons.inj whole
    let inner : Stretch α := { stretch with before }
    have same : inner.behind [b] = stretch := by
      rw [behind, List.singleton_append, ← start]
    exact ⟨inner, ⟨rest, (same.symm ▸ isRun).of_behind⟩, same⟩
  · rintro ⟨inner, ⟨rfl, isRun⟩, rfl⟩
    refine ⟨text_behind [c] inner, isRun.behind fun _ a last => ?_⟩
    rwa [← Option.some.inj last]

/-- The runs of a text that begins with a run. -/
theorem isRun_append_iff {first : Stretch α} (isFirst : first.IsRun separates)
    (start : first.before = []) {stretch : Stretch α} :
    stretch.text = first.text ∧ stretch.IsRun separates ↔
      stretch = first ∨ ∃ inner : Stretch α,
        (inner.text = first.after ∧ inner.IsRun separates) ∧ inner.behind first.run = stretch := by
  have text : first.text = first.run ++ first.after := by rw [Stretch.text, start, List.nil_append]
  constructor
  · rintro ⟨whole, isRun⟩
    rw [text, Stretch.text] at whole
    rcases List.append_eq_append_iff.mp whole with ⟨part, inside, rest⟩ | ⟨before, past, rest⟩
    · -- A separator before the stretch would be one inside the first run.
      have atStart : stretch.before = [] := by
        cases last : stretch.before.getLast? with
        | none => exact List.getLast?_eq_none_iff.mp last
        | some a =>
          have solid : separates a = false := isFirst.solid a <| by
            rw [inside]
            exact List.mem_append_left _ (List.mem_of_getLast? last)
          exact absurd ((isRun.opens a last).symm.trans solid).symm Bool.false_ne_true
      rw [atStart, List.nil_append] at whole
      have run : stretch.run = first.run := by
        rw [← isRun.takeWhile_eq, whole, isFirst.takeWhile_eq]
      rw [run] at whole
      have after : stretch.after = first.after := List.append_cancel_left whole
      left
      calc
        stretch = ⟨stretch.before, stretch.run, stretch.after⟩ := rfl
        _ = ⟨first.before, first.run, first.after⟩ := by rw [atStart, run, after, start]
        _ = first := rfl
    · let inner : Stretch α := { stretch with before }
      have same : inner.behind first.run = stretch := by rw [behind, ← past]
      exact .inr ⟨inner, ⟨rest.symm, (same.symm ▸ isRun).of_behind⟩, same⟩
  · rintro (rfl | ⟨inner, ⟨within, isRun⟩, rfl⟩)
    · exact ⟨rfl, isFirst⟩
    · refine ⟨by rw [text_behind, within, text], isRun.behind fun atStart => ?_⟩
      cases rest : first.after with
      | nil =>
        rw [rest, Stretch.text, List.append_eq_nil_iff, List.append_eq_nil_iff] at within
        exact absurd within.2.1 isRun.given
      | cons c text =>
        have cut : separates c = true := isFirst.closes c (rest ▸ rfl)
        exact absurd atStart (isRun.before_ne_nil cut (within.trans rest))

end Stretch

open Stretch

/-- The runs of a text are its stretches that are runs, in the order in which they stand. -/
theorem exists_stretches (separates : α → Bool) (text : List α) :
    ∃ stretches : List (Stretch α), stretches.map Stretch.run = runs separates text ∧
      stretches.Pairwise Precedes ∧
      ∀ stretch, stretch ∈ stretches ↔ stretch.text = text ∧ stretch.IsRun separates := by
  induction text using runs_induction separates with
  | nil =>
    refine ⟨[], rfl, .nil, fun stretch => ⟨fun inside => absurd inside List.not_mem_nil, ?_⟩⟩
    rintro ⟨whole, isRun⟩
    rw [Stretch.text, List.append_eq_nil_iff, List.append_eq_nil_iff] at whole
    exact absurd whole.2.1 isRun.given
  | gap c text cut ih =>
    obtain ⟨stretches, cutOut, ordered, all⟩ := ih
    refine ⟨stretches.map (behind [c]), ?_, ?_, fun stretch => ?_⟩
    · rw [runs_cons cut, ← cutOut, List.map_map]
      rfl
    · exact ordered.map _ fun _ _ => precedes_behind
    · rw [isRun_cons_iff cut, List.mem_map]
      simp only [all]
  | run run after given solid closes ih =>
    obtain ⟨stretches, cutOut, ordered, all⟩ := ih
    let first : Stretch α := ⟨[], run, after⟩
    have isFirst : first.IsRun separates :=
      ⟨given, solid, fun a last => (Option.not_mem_none a last).elim, closes⟩
    refine ⟨first :: stretches.map (behind run), ?_, ?_, fun stretch => ?_⟩
    · rw [runs_run_append given solid closes, ← cutOut, List.map_cons, List.map_map]
      rfl
    · refine List.pairwise_cons.mpr
        ⟨fun next inside => ?_, ordered.map _ fun _ _ => precedes_behind⟩
      obtain ⟨inner, -, rfl⟩ := List.mem_map.mp inside
      change 0 < (run ++ inner.before).length
      rw [List.length_append]
      exact Nat.add_pos_left (List.length_pos_iff.mpr given) _
    · rw [List.mem_cons, List.mem_map]
      simp only [all]
      exact (isRun_append_iff isFirst rfl).symm

end DrawSubmission.Text
