import Mathlib.Data.List.AList

/-!
# Dictionaries

Tables filled key by key in a loop: a later assignment to a key replaces an earlier one.
-/

namespace Proc17.Lua

open List

variable {α κ ν : Type} [DecidableEq κ]

abbrev Dictionary (κ ν : Type) := AList fun _ : κ => ν

namespace Dictionary

/-- Assign `value x` under `key x` for each `x` in turn. -/
def fill (key : α → κ) (value : α → ν) (d : Dictionary κ ν) (items : List α) :
    Dictionary κ ν :=
  items.foldl (fun d x => d.insert (key x) (value x)) d

variable (key : α → κ) (value : α → ν)

@[simp] theorem fill_nil (d : Dictionary κ ν) : fill key value d [] = d := rfl

@[simp] theorem fill_cons (d : Dictionary κ ν) (x : α) (items : List α) :
    fill key value d (x :: items) = fill key value (d.insert (key x) (value x)) items := rfl

theorem lookup_fill_of_notMem {k : κ} : ∀ (items : List α) (d : Dictionary κ ν),
    (∀ x ∈ items, key x ≠ k) → (fill key value d items).lookup k = d.lookup k := by
  intro items
  induction items with
  | nil => intro d _; rfl
  | cons x rest ih =>
    intro d absent
    have headNe : k ≠ key x := fun same => absent x (by simp) same.symm
    rw [fill_cons, ih _ fun y member => absent y (by simp [member])]
    exact AList.lookup_insert_ne headNe

theorem lookup_fill_of_agree {k : κ} {v : ν} : ∀ (items : List α) (d : Dictionary κ ν),
    (∃ x ∈ items, key x = k) → (∀ x ∈ items, key x = k → value x = v) →
      (fill key value d items).lookup k = some v := by
  intro items
  induction items with
  | nil => intro d ⟨x, member, _⟩; cases member
  | cons y rest ih =>
    intro d ⟨x, member, named⟩ agree
    have agreeRest : ∀ z ∈ rest, key z = k → value z = v :=
      fun z inRest => agree z (by simp [inRest])
    rw [fill_cons]
    by_cases later : ∃ z ∈ rest, key z = k
    · exact ih _ later agreeRest
    · have last : x = y := by
        rcases mem_cons.mp member with here | there
        · exact here
        · exact absurd ⟨x, there, named⟩ later
      have absent : ∀ z ∈ rest, key z ≠ k := fun z inRest same => later ⟨z, inRest, same⟩
      subst last
      rw [lookup_fill_of_notMem key value rest _ absent, ← agree x (by simp) named, ← named]
      exact AList.lookup_insert _

theorem lookup_fill_cases {k : κ} {v : ν} : ∀ (items : List α) (d : Dictionary κ ν),
    (fill key value d items).lookup k = some v →
      (d.lookup k = some v ∧ ∀ x ∈ items, key x ≠ k) ∨ ∃ x ∈ items, key x = k ∧ value x = v := by
  intro items
  induction items with
  | nil => intro d found; exact Or.inl ⟨found, by simp⟩
  | cons x rest ih =>
    intro d found
    rcases ih _ found with ⟨before, absent⟩ | ⟨y, member, here⟩
    · by_cases same : k = key x
      · subst same
        rw [AList.lookup_insert, Option.some.injEq] at before
        exact Or.inr ⟨x, by simp, rfl, before⟩
      · rw [AList.lookup_insert_ne same] at before
        refine Or.inl ⟨before, ?_⟩
        intro y member
        rcases mem_cons.mp member with here | there
        · subst here
          exact fun equal => same equal.symm
        · exact absent y there
    · exact Or.inr ⟨y, by simp [member], here⟩

omit [DecidableEq κ] in
theorem nodup_append_fresh {items : List α} {x : α} (distinct : (items.map key).Nodup)
    (fresh : ∀ y ∈ items, key y ≠ key x) : ((items ++ [x]).map key).Nodup := by
  rw [map_append, nodup_append]
  refine ⟨distinct, by simp, ?_⟩
  intro k before other here same
  obtain ⟨y, member, named⟩ := mem_map.mp before
  rw [map_singleton, mem_singleton] at here
  exact fresh y member (by rw [named, same, here])

theorem mem_entries_iff (d : Dictionary κ ν) (k : κ) (v : ν) :
    (⟨k, v⟩ : (_ : κ) × ν) ∈ d.entries ↔ d.lookup k = some v := by
  rw [← Option.mem_def]
  exact AList.mem_lookup_iff.symm

end Dictionary

end Proc17.Lua
