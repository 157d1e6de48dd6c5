import Mathlib.Data.List.Sort

/-!
# Sorted lists

A list whose elements a total order tells apart is sorted to one list, in whatever order its
elements come; a sorted list stays as it is.
-/

namespace Proc17.Layout.Sorted

universe u v

variable {α : Type u} (r : α → α → Prop) [DecidableRel r]

def Apart (items : List α) : Prop := ∀ a ∈ items, ∀ b ∈ items, r a b → r b a → a = b

variable {r}

theorem apart_of_keys {κ : Type v} {key : α → κ} {items : List α}
    (distinct : (items.map key).Nodup) (keyed : ∀ a b, r a b → r b a → key a = key b) :
    Apart r items := by
  intro a inItems b inItems' below above
  exact List.inj_on_of_nodup_map distinct inItems inItems' (keyed a b below above)

variable [Std.Total r] [IsTrans α r]

theorem insertionSort_insertionSort (items : List α) :
    (items.insertionSort r).insertionSort r = items.insertionSort r :=
  (List.pairwise_insertionSort r items).insertionSort_eq

theorem insertionSort_eq_of_perm {left right : List α} (apart : Apart r left)
    (perm : left.Perm right) : left.insertionSort r = right.insertionSort r := by
  have one := List.perm_insertionSort r left
  have two := List.perm_insertionSort r right
  refine List.Perm.eq_of_pairwise ?_ (List.pairwise_insertionSort r left)
    (List.pairwise_insertionSort r right) (one.trans (perm.trans two.symm))
  intro a b inLeft inRight below above
  exact apart a (one.mem_iff.mp inLeft) b (perm.mem_iff.mpr (two.mem_iff.mp inRight)) below above

/-! ## By two keys -/

section
variable {κ : Type v} [DecidableEq κ] (le : κ → κ → Prop) (first second : α → κ)

/-- By the first key, and by the second where the first is one. -/
def ByKeys (a b : α) : Prop :=
  if first a = first b then le (second a) (second b) else le (first a) (first b)

instance [DecidableRel le] : DecidableRel (ByKeys le first second) := fun a b =>
  inferInstanceAs (Decidable (if first a = first b then le (second a) (second b)
    else le (first a) (first b)))

variable {le first second}

theorem byKeys_first [Std.Antisymm le] {a b : α} (below : ByKeys le first second a b)
    (above : ByKeys le first second b a) : first a = first b := by
  by_contra other
  rw [ByKeys, if_neg other] at below
  rw [ByKeys, if_neg fun back => other back.symm] at above
  exact other (antisymm below above)

instance [Std.Total le] : Std.Total (ByKeys le first second) where
  total a b := by
    unfold ByKeys
    by_cases same : first a = first b
    · rw [if_pos same, if_pos same.symm]
      exact Std.Total.total _ _
    · rw [if_neg same, if_neg fun back => same back.symm]
      exact Std.Total.total _ _

instance [IsTrans κ le] [Std.Antisymm le] : IsTrans α (ByKeys le first second) where
  trans a b c := by
    intro one two
    unfold ByKeys at *
    by_cases ab : first a = first b
    · rw [if_pos ab] at one
      by_cases bc : first b = first c
      · rw [if_pos bc] at two
        rw [if_pos (ab.trans bc)]
        exact IsTrans.trans _ _ _ one two
      · rw [if_neg bc] at two
        rw [if_neg fun ac => bc (ab.symm.trans ac), ab]
        exact two
    · rw [if_neg ab] at one
      by_cases bc : first b = first c
      · rw [if_neg fun ac => ab (ac.trans bc.symm), ← bc]
        exact one
      · rw [if_neg bc] at two
        split
        · rename_i ac
          rw [← ac] at two
          exact absurd (antisymm one two) ab
        · exact IsTrans.trans _ _ _ one two

end

end Proc17.Layout.Sorted
