import Mathlib.Data.List.Induction
import Mathlib.Data.List.Nodup

/-!
# First occurrences

A list with only the first of each key, as a loop with a table of seen keys leaves it.  Two
keys that tell the same elements apart leave the same list of those elements.
-/

namespace Proc17.Layout

open List

variable {α κ ι : Type} [DecidableEq κ] [DecidableEq ι] {key : α → κ} {a : α} {l : List α}

def keepFirst (key : α → κ) (l : List α) : List α :=
  l.foldl (fun kept a => if key a ∈ kept.map key then kept else kept ++ [a]) []

theorem keepFirst_concat (key : α → κ) (l : List α) (a : α) : keepFirst key (l ++ [a])
    = if key a ∈ (keepFirst key l).map key then keepFirst key l else keepFirst key l ++ [a] :=
  foldl_append ..

theorem mem_keys_keepFirst {k : κ} : k ∈ (keepFirst key l).map key ↔ k ∈ l.map key := by
  induction l using List.reverseRecOn with
  | nil => rfl
  | append_singleton l a ih =>
    rw [keepFirst_concat, map_append, mem_append, ← ih]
    split
    · rename_i seen
      refine ⟨.inl, fun either => either.elim id fun last => ?_⟩
      rw [mem_singleton.mp last]
      exact seen
    · rw [map_append, mem_append]

theorem nodup_keys_keepFirst (key : α → κ) (l : List α) : ((keepFirst key l).map key).Nodup := by
  induction l using List.reverseRecOn with
  | nil => exact nodup_nil
  | append_singleton l a ih =>
    rw [keepFirst_concat]
    split
    · exact ih
    · rename_i unseen
      rw [map_append]
      refine nodup_append.mpr ⟨ih, nodup_singleton _, fun k old k' new same => ?_⟩
      rw [← mem_singleton.mp new, ← same] at unseen
      exact unseen old

theorem before_of_mem_keepFirst (kept : a ∈ keepFirst key l) :
    ∃ before after, l = before ++ a :: after ∧ key a ∉ before.map key := by
  induction l using List.reverseRecOn with
  | nil => cases kept
  | append_singleton l last ih =>
    rw [keepFirst_concat] at kept
    have old (earlier : a ∈ keepFirst key l) :
        ∃ before after, l ++ [last] = before ++ a :: after ∧ key a ∉ before.map key := by
      obtain ⟨before, after, rfl, fresh⟩ := ih earlier
      exact ⟨before, after ++ [last], by simp, fresh⟩
    split at kept
    · exact old kept
    · rename_i unseen
      rcases mem_append.mp kept with earlier | new
      · exact old earlier
      · cases mem_singleton.mp new
        exact ⟨l, [], rfl, fun seen => unseen (mem_keys_keepFirst.mpr seen)⟩

theorem mem_of_mem_keepFirst (kept : a ∈ keepFirst key l) : a ∈ l := by
  obtain ⟨before, after, rfl, -⟩ := before_of_mem_keepFirst kept
  simp

theorem filter_keepFirst_congr {key' : α → ι} {p : α → Bool}
    (same : ∀ before a after, l = before ++ a :: after → p a = true →
      (key a ∈ before.map key ↔ key' a ∈ before.map key')) :
    (keepFirst key l).filter p = (keepFirst key' l).filter p := by
  induction l using List.reverseRecOn with
  | nil => rfl
  | append_singleton l a ih =>
    have rest := ih fun before b after split => same before b (after ++ [a]) (by simp [split])
    rw [keepFirst_concat, keepFirst_concat]
    by_cases kind : p a = true
    · by_cases seen : key a ∈ l.map key
      · rw [if_pos (mem_keys_keepFirst.mpr seen),
          if_pos (mem_keys_keepFirst.mpr ((same l a [] rfl kind).mp seen)), rest]
      · rw [if_neg (seen ∘ mem_keys_keepFirst.mp),
          if_neg (seen ∘ (same l a [] rfl kind).mpr ∘ mem_keys_keepFirst.mp), filter_append,
          filter_append, rest]
    · have dropped (kept : List α) : (kept ++ [a]).filter p = kept.filter p := by simp [kind]
      split <;> split <;> simp only [dropped, rest]

end Proc17.Layout
