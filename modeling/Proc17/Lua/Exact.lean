import Mathlib.Algebra.Order.Ring.Rat
import Proc17.Lua.Coerce

/-!
# Exact results

The rational value of a Lua number, and when an operation computes on these values: no
wrapping around, no rounding.
-/

namespace Proc17.Lua.Number

def value (n : Number) : ℚ := (exact n).elim 0 Dyadic.toRat

def Actual : Number → Prop
  | .int i => -2 ^ 63 ≤ i ∧ i < 2 ^ 63
  | .float x => ofDyadic x = .float x
  | _ => True

instance : DecidablePred Actual := fun n => by
  cases n <;> unfold Actual <;> infer_instance

structure Exactly (n : Number) (q : ℚ) : Prop where
  finite : n.isFinite = true
  value_eq : n.value = q

variable {n : Number}

@[simp] theorem value_int (i : Int) : (Number.int i).value = i := Dyadic.toRat_intCast i

@[simp] theorem value_float (x : Dyadic) : (Number.float x).value = x.toRat := rfl

theorem exactly_self (finite : n.isFinite = true) : Exactly n n.value :=
  ⟨finite, rfl⟩

variable {a b : Number}

section

variable (left : a.isFinite = true)
include left

section

variable (right : b.isFinite = true)
include right

theorem lt_iff_value :
    lt a b = true ↔ a.value < b.value := by
  cases a with
  | int i =>
    cases b with
    | int j =>
      rw [value_int, value_int, Rat.intCast_lt_intCast]
      exact decide_eq_true_iff
    | float y =>
      rw [value_int, value_float, ← Dyadic.toRat_intCast i, Dyadic.toRat_lt_toRat_iff]
      exact decide_eq_true_iff
    | inf | nan => cases right
  | float x =>
    cases b with
    | int j =>
      rw [value_int, value_float, ← Dyadic.toRat_intCast j, Dyadic.toRat_lt_toRat_iff]
      exact decide_eq_true_iff
    | float y =>
      rw [value_float, value_float, Dyadic.toRat_lt_toRat_iff]
      exact decide_eq_true_iff
    | inf | nan => cases right
  | inf | nan => cases left

theorem value_le_of_lt_eq_false (below : lt a b = false) : b.value ≤ a.value := by
  apply not_lt.mp
  intro less
  rw [(lt_iff_value left right).mpr less] at below
  cases below

theorem eq_iff_value :
    eq a b = true ↔ a.value = b.value := by
  have read : ∀ {n : Number}, n.isFinite = true → ∃ x, exact n = some x ∧ n.value = x.toRat := by
    intro n finite
    cases n with
    | int i => exact ⟨Dyadic.ofInt i, rfl, rfl⟩
    | float x => exact ⟨x, rfl, rfl⟩
    | inf | nan => cases finite
  obtain ⟨x, exactA, valueA⟩ := read left
  obtain ⟨y, exactB, valueB⟩ := read right
  rw [eq_iff, exactA, exactB, valueA, valueB, Dyadic.toRat_inj]
  constructor
  · rintro (⟨z, same, same'⟩ | ⟨negative, rfl, -⟩)
    · rw [Option.some.inj same, Option.some.inj same']
    · cases left
  · intro same
    exact .inl ⟨x, rfl, by rw [same]⟩

theorem le_iff_value :
    le a b = true ↔ a.value ≤ b.value := by
  rw [le, Bool.or_eq_true, lt_iff_value left right, eq_iff_value left right]
  exact le_iff_lt_or_eq.symm

end

end

theorem eq_zero_iff_value (finite : n.isFinite = true) :
    eq n (.int 0) = true ↔ n.value = 0 := by
  cases n with
  | int i =>
    rw [value_int, Rat.intCast_eq_zero_iff]
    exact beq_iff_eq
  | float x =>
    rw [value_float, Dyadic.toRat_eq_zero_iff]
    exact beq_iff_eq
  | inf | nan => cases finite

theorem wrap_eq {i : Int} (least : -2 ^ 63 ≤ i) (most : i < 2 ^ 63) : wrap i = i := by
  unfold wrap
  apply Int.bmod_eq_of_le <;> omega

theorem sub_zero_exactly (finite : n.isFinite = true) (actual : n.Actual) :
    Exactly (sub n (.int 0)) n.value := by
  cases n with
  | int i =>
    refine ⟨rfl, ?_⟩
    show value (.int (wrap (i - 0))) = _
    rw [Int.sub_zero, wrap_eq actual.1 actual.2]
  | float x =>
    have double : sub (.float x) (.int 0) = .float x := by
      show ofDyadic (x + Dyadic.ofInt (wrap (-0))) = .float x
      have zero : Dyadic.ofInt (wrap (-0)) = 0 := rfl
      rw [zero, Dyadic.add_zero]
      exact actual
    rw [double]
    exact exactly_self rfl
  | inf | nan => cases finite

theorem sub_int_exactly {a b : Int} (least : -2 ^ 63 ≤ a - b) (most : a - b < 2 ^ 63) :
    Exactly (sub (.int a) (.int b)) (a - b) := by
  refine ⟨rfl, ?_⟩
  show value (.int (wrap (a - b))) = _
  rw [wrap_eq least most, value_int, Rat.intCast_sub]

end Proc17.Lua.Number
