import Mathlib.Data.List.Basic

/-!
# Logs and tables of leases

A log is a list of entries, newest first.  `Past P` says that every entry stands in the
relation `P` to the entries before it.  A table of leases grows at its end and is
updated in place.
-/

namespace Proc17.Log

variable {α : Type}

def Past (P : α → List α → Prop) : List α → Prop
  | [] => True
  | entry :: earlier => P entry earlier ∧ Past P earlier

theorem Past.at {P : α → List α → Prop} {later earlier : List α} {entry : α}
    (past : Past P (later ++ entry :: earlier)) : P entry earlier := by
  induction later with
  | nil => exact past.1
  | cons newest rest ih => exact ih past.2

variable {items : List α}

theorem getElem?_set_cases {i j : Nat} {item found : α}
    (here : (items.set i item)[j]? = some found) :
    (j = i ∧ found = item) ∨ (j ≠ i ∧ items[j]? = some found) := by
  by_cases same : j = i
  · subst same
    have within : j < items.length := by
      have := (List.getElem?_eq_some_iff.mp here).1
      simpa using this
    rw [List.getElem?_set_self within] at here
    exact .inl ⟨rfl, (Option.some.inj here).symm⟩
  · rw [List.getElem?_set_ne (Ne.symm same)] at here
    exact .inr ⟨same, here⟩

theorem getElem?_append_cases {i : Nat} {item found : α}
    (here : (items ++ [item])[i]? = some found) :
    (i = items.length ∧ found = item) ∨ items[i]? = some found := by
  by_cases old : i < items.length
  · rw [List.getElem?_append_left old] at here
    exact .inr here
  · have within := (List.getElem?_eq_some_iff.mp here).1
    rw [List.length_append, List.length_singleton] at within
    have last : i = items.length := by omega
    subst last
    rw [List.getElem?_append_right (Nat.le_refl _)] at here
    simp only [Nat.sub_self, List.getElem?_cons_zero, Option.some.injEq] at here
    exact .inl ⟨rfl, here.symm⟩

theorem countP_set_same {i : Nat} {old new : α} (p : α → Bool)
    (found : items[i]? = some old) (same : p new = p old) :
    (items.set i new).countP p = items.countP p := by
  induction items generalizing i with
  | nil => rfl
  | cons item rest ih =>
    cases i with
    | zero =>
      cases found
      simp only [List.set_cons_zero, List.countP_cons, same]
    | succ i =>
      rw [List.getElem?_cons_succ] at found
      simp only [List.set_cons_succ, List.countP_cons, ih found]

end Proc17.Log
