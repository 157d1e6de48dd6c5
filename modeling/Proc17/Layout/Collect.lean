import Mathlib.Data.List.Forall2

/-!
# Loops that collect

A loop reads its items one by one, each in view of the results before it, and ends at the
first that fails.  Where a step succeeds exactly on what can be read and keeps an
invariant of the results, so does the loop.
-/

namespace Proc17.Layout

open List

universe u v w

variable {ε : Type u} {α : Type v} {β : Type w}

def collect (step : List β → α → Except ε β) : List β → List α → Except ε (List β)
  | seen, [] => .ok seen
  | seen, item :: rest =>
    match step seen item with
    | .ok next => collect step (seen ++ [next]) rest
    | .error failure => .error failure

structure Collects (step : List β → α → Except ε β) (Reads : α → β → Prop)
    (Inv : List β → Prop) : Prop where
  step_ok : ∀ seen item next, Inv seen →
    (step seen item = .ok next ↔ Reads item next ∧ Inv (seen ++ [next]))
  before : ∀ left right, Inv (left ++ right) → Inv left

variable {step : List β → α → Except ε β} {Reads : α → β → Prop} {Inv : List β → Prop}

theorem Collects.collect_ok (collects : Collects step Reads Inv) : ∀ (items : List α)
    (seen all : List β), Inv seen → (collect step seen items = .ok all
      ↔ ∃ added, all = seen ++ added ∧ List.Forall₂ Reads items added ∧ Inv all) := by
  intro items
  induction items with
  | nil =>
    intro seen all holds
    rw [collect]
    constructor
    · rintro ⟨rfl⟩
      exact ⟨[], (append_nil _).symm, .nil, holds⟩
    · rintro ⟨added, rfl, ⟨⟩, -⟩
      rw [append_nil]
  | cons item rest ih =>
    intro seen all holds
    constructor
    · intro looped
      rw [collect] at looped
      cases first : step seen item with
      | error failure => rw [first] at looped; cases looped
      | ok next =>
        rw [first] at looped
        obtain ⟨read, longer⟩ := (collects.step_ok seen item next holds).mp first
        obtain ⟨added, rfl, others, whole⟩ := (ih _ _ longer).mp looped
        exact ⟨next :: added, by simp, .cons read others, whole⟩
    · rintro ⟨added, rfl, reads, whole⟩
      cases reads with
      | @cons _ next _ added read others =>
        rw [append_cons] at whole ⊢
        have longer := collects.before _ _ whole
        rw [collect, (collects.step_ok seen item next holds).mpr ⟨read, longer⟩]
        exact (ih _ _ longer).mpr ⟨added, rfl, others, whole⟩

theorem Collects.collect_nil_ok (collects : Collects step Reads Inv) (none : Inv [])
    {items : List α} {all : List β} : collect step [] items = .ok all
      ↔ List.Forall₂ Reads items all ∧ Inv all := by
  rw [collects.collect_ok items [] all none]
  constructor
  · rintro ⟨added, rfl, reads, whole⟩
    exact ⟨reads, whole⟩
  · rintro ⟨reads, whole⟩
    exact ⟨all, rfl, reads, whole⟩

theorem forall₂_across {γ : Type w} {R : α → β → Prop} {S : α → γ → Prop} {T : β → γ → Prop}
    (step : ∀ a b c, R a b → S a c → T b c) {items : List α} {turned : List β} {results : List γ}
    (related : List.Forall₂ R items turned) (reads : List.Forall₂ S items results) :
    List.Forall₂ T turned results := by
  induction related generalizing results with
  | nil => cases reads; exact .nil
  | cons head _ ih =>
    cases reads with
    | cons first others => exact .cons (step _ _ _ head first) (ih others)

theorem nodup_map_append_singleton {κ : Type u} {key : β → κ} {seen : List β} {next : β}
    (distinct : (seen.map key).Nodup) :
    ((seen ++ [next]).map key).Nodup ↔ ∀ other ∈ seen, key other ≠ key next := by
  rw [map_append, nodup_append]
  simp only [distinct, map_cons, map_nil, nodup_cons, not_mem_nil,
    not_false_eq_true, nodup_nil, and_self, mem_map, mem_singleton, true_and]
  constructor
  · intro apart other member
    exact apart _ ⟨other, member, rfl⟩ _ rfl
  · rintro apart _ ⟨other, member, rfl⟩ _ rfl
    exact apart other member

end Proc17.Layout
