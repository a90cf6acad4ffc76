import DrawSubmission.Channels
set_option autoImplicit false

namespace DrawSubmission.Scene

def unitsOf (mask : BitVec 32) : List (Fin 32) :=
  (List.finRange 32).filter fun unit => mask.getLsbD unit

theorem mem_unitsOf {mask : BitVec 32} {unit : Fin 32} :
    unit ∈ unitsOf mask ↔ mask.getLsbD unit = true := by
  rw [unitsOf, List.mem_filter, and_iff_right (List.mem_finRange unit)]

theorem pairwise_unitsOf (mask : BitVec 32) : (unitsOf mask).Pairwise (· < ·) :=
  (List.pairwise_lt_finRange 32).filter _

theorem eq_of_ascending {width : Nat} {units others : List (Fin width)}
    (ascends : units.Pairwise (· < ·)) (ascends' : others.Pairwise (· < ·))
    (same : ∀ unit, unit ∈ units ↔ unit ∈ others) : units = others := by
  have nodup {list : List (Fin width)} (h : list.Pairwise (· < ·)) : list.Nodup :=
    h.imp fun less => Fin.ne_of_lt less
  refine List.Perm.eq_of_pairwise (fun a b _ _ less more => ?_) ascends ascends' ?_
  · exact absurd less (Fin.lt_asymm more)
  · exact (List.perm_ext_iff_of_nodup (nodup ascends) (nodup ascends')).mpr same

theorem unitsOf_of_ne_zero {mask : BitVec 32} (some : mask ≠ 0) :
    unitsOf mask = lowestUnit mask some :: unitsOf (mask &&& (mask - 1)) := by
  have lowest : mask.getLsbD (lowestUnit mask some) = true :=
    BitVec.getLsbD_true_ctz_of_ne_zero some
  have rest (unit : Fin 32) : unit ∈ unitsOf (mask &&& (mask - 1)) ↔
      mask.getLsbD unit = true ∧ unit ≠ lowestUnit mask some := by
    rw [mem_unitsOf, LowestBit.getLsbD_and_sub_one some, Bool.and_eq_true, bne_iff_ne]
    exact and_congr_right fun _ => not_congr (Fin.ext_iff (b := lowestUnit mask some)).symm
  refine eq_of_ascending (pairwise_unitsOf mask)
    (List.pairwise_cons.mpr ⟨?_, pairwise_unitsOf _⟩) ?_
  · intro unit inside
    obtain ⟨bit, other⟩ := (rest unit).mp inside
    apply Nat.lt_of_le_of_ne
    · apply Nat.le_of_not_lt
      intro below
      exact Bool.false_ne_true ((BitVec.getLsbD_false_of_lt_ctz below).symm.trans bit)
    · exact fun same => other (Fin.ext same.symm)
  · intro unit
    rw [List.mem_cons, rest, mem_unitsOf]
    constructor
    · intro bit
      exact (Decidable.em _).imp_right fun other => ⟨bit, other⟩
    · rintro (rfl | ⟨bit, -⟩)
      · exact lowest
      · exact bit

theorem sweepTexUnits_eq (s : Scene) (stale : BitVec 32) :
    s.sweepTexUnits stale = { s with
      calls := s.calls ++
        ((unitsOf stale).map fun unit => .setTexCoordArrayEnabled unit false).toArray } := by
  fun_induction sweepTexUnits s stale with
  | case1 s => rfl
  | case2 s stale some ih =>
    rw [ih, unitsOf_of_ne_zero some, List.map_cons]
    simp [record]

/-- A sweep that refuses a turn whose trailing zeros count to no unit, or whose difference is below
zero. -/
def sweepTexUnits? (s : Scene) (stale : BitVec 32) : Option Scene :=
  if clear : stale = 0 then some s
  else if held : stale.ctz.toNat < 32 ∧ 1 ≤ stale.toNat then
    (s.record (.setTexCoordArrayEnabled ⟨stale.ctz.toNat, held.1⟩ false)).sweepTexUnits?
      (stale &&& (stale - 1))
  else none
termination_by stale.toNat
decreasing_by exact LowestBit.and_sub_one_lt clear

/-- No turn of a sweep is refused. -/
theorem sweepTexUnits?_eq (s : Scene) (stale : BitVec 32) :
    s.sweepTexUnits? stale = some (s.sweepTexUnits stale) := by
  fun_induction sweepTexUnits s stale with
  | case1 s => rw [sweepTexUnits?, dif_pos rfl]
  | case2 s stale some ih =>
    have held : stale.ctz.toNat < 32 ∧ 1 ≤ stale.toNat :=
      ⟨LowestBit.ctz_lt some, LowestBit.toNat_pos some⟩
    rw [sweepTexUnits?, dif_neg some, dif_pos held, ← ih]
    rfl

theorem mem_unitsOf_stale {enabled used : BitVec 32} {unit : Fin 32} :
    unit ∈ unitsOf (enabled &&& ~~~used) ↔
      enabled.getLsbD unit = true ∧ used.getLsbD unit = false := by
  rw [mem_unitsOf, BitVec.getLsbD_and, BitVec.getLsbD_not, Bool.and_eq_true, Bool.and_eq_true,
    decide_eq_true_eq, and_iff_right unit.isLt, Bool.not_eq_true']

theorem disableStaleTexUnits_eq (s : Scene) (used : BitVec 32) :
    let stale := s.context.texUnits &&& ~~~used
    s.disableStaleTexUnits used = { s with
      calls := s.calls ++
        ((unitsOf stale).map fun unit => .setTexCoordArrayEnabled unit false).toArray
      log := if stale = 0 then s.log else s.log.push (.texCoordArraysDisabled stale)
      context := { s.context with texUnits := s.context.texUnits &&& used } } := by
  intro stale
  simp only [disableStaleTexUnits, sweepTexUnits_eq, stale]
  split <;> rfl

/-- Whichever units are on and whichever are used, the sweep over those on that are not used comes
to its end without leaving its words. It switches off each of these units once, in ascending order,
and no other one; of the units that were on the used ones are left, and of the scene all else. -/
theorem stale_units_swept (s : Scene) (enabled used : BitVec 32) :
    let stale := enabled &&& ~~~used
    let start := s.setTexUnits enabled
    (∀ t : Scene, t.sweepTexUnits? stale = some (t.sweepTexUnits stale)) ∧
      ∃ units : List (Fin 32),
        (∀ unit, unit ∈ units ↔ enabled.getLsbD unit = true ∧ used.getLsbD unit = false) ∧
        units.Pairwise (· < ·) ∧
        start.disableStaleTexUnits used = { start with
          calls := s.calls ++ (units.map fun unit => .setTexCoordArrayEnabled unit false).toArray
          log := if stale = 0 then s.log else s.log.push (.texCoordArraysDisabled stale)
          context := { s.context with texUnits := enabled &&& used } } := by
  intro stale start
  refine ⟨fun t => t.sweepTexUnits?_eq stale, unitsOf stale, fun unit => mem_unitsOf_stale,
    pairwise_unitsOf stale, ?_⟩
  exact disableStaleTexUnits_eq start used

example :
    (((Scene.create {} []).setTexUnits 0x80000005).disableStaleTexUnits 4).calls =
      #[.createPipeline, .setTexCoordArrayEnabled 0 false, .setTexCoordArrayEnabled 31 false] := by
  decide +kernel

end DrawSubmission.Scene
