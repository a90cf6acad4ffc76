import DrawSubmission.Error
set_option autoImplicit false

namespace DrawSubmission

structure TextureId where
  index : Nat
deriving DecidableEq

theorem toNat_le_largestCount (b : Bool) : 0 + b.toNat ≤ largestCount := by
  cases b <;> decide

structure Texture where
  inAtlas : Bool := false
  sliced : Bool := false
  wasteful : Bool := false
  mipmapsDirty : Bool := false
  migrations : Nat := 0
  /-- If the texture is still to leave its atlas, this can be counted. -/
  countable : migrations + inAtlas.toNat ≤ largestCount := by
    first
    | decide
    | exact toNat_le_largestCount _
deriving DecidableEq

instance : Inhabited Texture := ⟨{}⟩

namespace Texture

def leaveAtlas (texture : Texture) : Texture :=
  if inside : texture.inAtlas then
    { texture with
      inAtlas := false
      migrations := texture.migrations + 1
      countable := by simpa [inside] using texture.countable }
  else texture

def prepareMipmaps (texture : Texture) : Texture := { texture with mipmapsDirty := false }

def repeats (texture : Texture) : Bool := !texture.inAtlas && !texture.sliced && !texture.wasteful

end Texture

structure Layers where
  entries : List (UInt32 × Option TextureId)
  ascending : entries.Pairwise (fun a b => a.1 < b.1)
deriving DecidableEq

namespace Layers

def empty : Layers := ⟨[], List.Pairwise.nil⟩

def setEntry (index : UInt32) (texture : Option TextureId) :
    List (UInt32 × Option TextureId) → List (UInt32 × Option TextureId)
  | [] => [(index, texture)]
  | entry :: rest =>
    if index < entry.1 then (index, texture) :: entry :: rest
    else if entry.1 < index then entry :: setEntry index texture rest
    else (index, texture) :: rest

theorem mem_setEntry {index : UInt32} {texture : Option TextureId}
    {entries : List (UInt32 × Option TextureId)} {entry : UInt32 × Option TextureId}
    (h : entry ∈ setEntry index texture entries) : entry = (index, texture) ∨ entry ∈ entries := by
  induction entries with
  | nil => simpa [setEntry] using h
  | cons head rest ih => grind [setEntry]

theorem setEntry_ascending (index : UInt32) (texture : Option TextureId)
    {entries : List (UInt32 × Option TextureId)} (h : entries.Pairwise (fun a b => a.1 < b.1)) :
    (setEntry index texture entries).Pairwise (fun a b => a.1 < b.1) := by
  induction entries with
  | nil => simp [setEntry]
  | cons head rest ih =>
    rw [List.pairwise_cons] at h
    unfold setEntry
    split
    · rename_i before
      refine List.pairwise_cons.mpr ⟨?_, List.pairwise_cons.mpr h⟩
      intro entry member
      rcases List.mem_cons.mp member with rfl | inRest
      · exact before
      · exact UInt32.lt_trans before (h.1 entry inRest)
    · split
      · rename_i after
        refine List.pairwise_cons.mpr ⟨?_, ih h.2⟩
        intro entry member
        rcases mem_setEntry member with rfl | inRest
        · exact after
        · exact h.1 entry inRest
      · rename_i notBefore notAfter
        have same : index = head.1 :=
          UInt32.le_antisymm (UInt32.not_lt.mp notAfter) (UInt32.not_lt.mp notBefore)
        subst same
        exact List.pairwise_cons.mpr h

def set (layers : Layers) (index : UInt32) (texture : Option TextureId) : Layers :=
  ⟨setEntry index texture layers.entries, setEntry_ascending index texture layers.ascending⟩

def indices (layers : Layers) : List UInt32 := layers.entries.map Prod.fst

def texture? (layers : Layers) (index : UInt32) : Option TextureId :=
  (layers.entries.lookup index).join

theorem lookup_cons_if (index : UInt32) (texture : Option TextureId)
    (rest : List (UInt32 × Option TextureId)) (wanted : UInt32) :
    ((index, texture) :: rest).lookup wanted =
      if wanted = index then some texture else rest.lookup wanted := by
  rw [List.lookup_cons]
  by_cases same : wanted = index
  · simp [same]
  · simp [same, beq_eq_false_iff_ne.mpr same]

/-- The layers that are left by calls which set one layer each. -/
def build (calls : List (UInt32 × Option TextureId)) : Layers :=
  calls.foldl (fun layers call => layers.set call.1 call.2) .empty

theorem lookup_eq_none_of_lt {entries : List (UInt32 × Option TextureId)} {index : UInt32}
    (h : ∀ entry ∈ entries, index < entry.1) : entries.lookup index = none := by
  induction entries with
  | nil => rfl
  | cons entry rest ih =>
    have apart : index ≠ entry.1 := UInt32.ne_of_lt (h entry List.mem_cons_self)
    rw [lookup_cons_if, if_neg apart]
    exact ih fun other inside => h other (List.mem_cons_of_mem entry inside)

theorem entries_ext {xs ys : List (UInt32 × Option TextureId)}
    (h : xs.Pairwise (fun a b => a.1 < b.1)) (h' : ys.Pairwise (fun a b => a.1 < b.1))
    (same : ∀ index, xs.lookup index = ys.lookup index) : xs = ys := by
  induction xs generalizing ys with
  | nil =>
    cases ys with
    | nil => rfl
    | cons y ys =>
      have missing := same y.1
      rw [lookup_cons_if, if_pos rfl] at missing
      cases missing
  | cons x xs ih =>
    cases ys with
    | nil =>
      have missing := same x.1
      rw [lookup_cons_if, if_pos rfl] at missing
      cases missing
    | cons y ys =>
      obtain ⟨above, h⟩ := List.pairwise_cons.mp h
      obtain ⟨above', h'⟩ := List.pairwise_cons.mp h'
      -- The least index of either list is found in the other one, so it is not less than its.
      have least {a b : UInt32 × Option TextureId} {as bs : List (UInt32 × Option TextureId)}
          (above : ∀ entry ∈ bs, b.1 < entry.1)
          (same : ∀ index, (a :: as).lookup index = (b :: bs).lookup index) : b.1 ≤ a.1 := by
        refine UInt32.not_lt.mp fun below => ?_
        have missing := same a.1
        rw [lookup_cons_if, if_pos rfl, lookup_eq_none_of_lt] at missing
        · cases missing
        · exact List.forall_mem_cons.mpr
            ⟨below, fun entry inside => UInt32.lt_trans below (above entry inside)⟩
      have index : x.1 = y.1 :=
        UInt32.le_antisymm (least above fun index => (same index).symm) (least above' same)
      have texture : x.2 = y.2 := by
        have found := same x.1
        rw [lookup_cons_if, if_pos rfl, lookup_cons_if, if_pos index] at found
        exact Option.some.inj found
      have rest : xs = ys := by
        refine ih h h' fun wanted => ?_
        by_cases first : wanted = x.1
        · rw [first, lookup_eq_none_of_lt above, index, lookup_eq_none_of_lt above']
        · have found := same wanted
          rwa [lookup_cons_if, if_neg first, lookup_cons_if, if_neg (index ▸ first)] at found
      rw [Prod.ext index texture, rest]

theorem ext_of_lookup {layers other : Layers}
    (same : ∀ index, layers.entries.lookup index = other.entries.lookup index) :
    layers = other := by
  have entries := entries_ext layers.ascending other.ascending same
  cases layers
  cases other
  cases entries
  rfl

end Layers

end DrawSubmission
