import Proc17.Lua.Number

/-!
# The order of Lua numbers

`<` and `<=` compare exact values, so they compose across integers, floats and
infinities; NaN is below nothing.
-/

namespace Proc17.Lua.Number

theorem lt_float_of_exact_left {a : Number} (b : Number) {x : Dyadic}
    (value : exact a = some x) : lt a b = lt (.float x) b := by
  cases a with
  | int i =>
    cases value
    cases b with
    | int j => simp [lt, exact, ofInt_lt]
    | float y => rfl
    | inf negative => cases negative <;> rfl
    | nan => rfl
  | float y =>
    cases value
    rfl
  | inf | nan => cases value

variable {a b c : Number}

theorem lt_congr_left (same : eq a b = true) : lt a c = lt b c := by
  rw [eq_iff] at same
  rcases same with ⟨x, exactA, exactB⟩ | ⟨negative, rfl, rfl⟩
  · rw [lt_float_of_exact_left c exactA, lt_float_of_exact_left c exactB]
  · rfl

theorem lt_trans (first : lt a b = true) (second : lt b c = true) :
    lt a c = true := by
  rcases a with i | x | (_ | _) | _ <;> rcases b with j | y | (_ | _) | _ <;>
    rcases c with k | z | (_ | _) | _ <;>
    simp only [lt, exact, Bool.not_false, Bool.not_true, Bool.false_eq_true, decide_eq_true_eq,
      ← ofInt_lt] at first second ⊢ <;>
    exact Std.lt_trans first second

theorem eq_trans (first : eq a b = true) (second : eq b c = true) :
    eq a c = true := eq_euclidean (eq_symm first) second

theorem le_iff (a b : Number) : le a b = true ↔ lt a b = true ∨ eq a b = true :=
  Bool.or_eq_true (lt a b) (eq a b) ▸ Iff.rfl

theorem lt_of_lt_of_le (first : lt a b = true) (second : le b c = true) :
    lt a c = true := by
  rcases (le_iff _ _).mp second with less | same
  · exact lt_trans first less
  · rw [← lt_congr_right same]
    exact first

theorem lt_of_le_of_lt (first : le a b = true) (second : lt b c = true) :
    lt a c = true := by
  rcases (le_iff _ _).mp first with less | same
  · exact lt_trans less second
  · rw [lt_congr_left same]
    exact second

theorem le_of_lt (less : lt a b = true) : le a b = true := (le_iff _ _).mpr (.inl less)

theorem le_trans (first : le a b = true) (second : le b c = true) :
    le a c = true := by
  rcases (le_iff _ _).mp second with less | same
  · exact le_of_lt (lt_of_le_of_lt first less)
  · rcases (le_iff _ _).mp first with less | same'
    · rw [lt_congr_right same] at less
      exact le_of_lt less
    · exact (le_iff _ _).mpr (.inr (eq_trans same' same))

theorem add_one_of_eq_one {v : Number} (same : eq (.int 1) v = true) :
    eq (.int 2) (add v (.int 1)) = true := by
  rw [eq_iff] at same
  rcases same with ⟨x, exactA, exactB⟩ | ⟨negative, impossible, -⟩
  · cases exactA
    cases v with
    | int i =>
      have one : i = 1 := (ofInt_inj i 1).mp (Option.some.inj exactB)
      subst one
      decide
    | float y =>
      cases exactB
      decide +kernel
    | inf | nan => cases exactB
  · cases impossible

theorem lt_irrefl (a : Number) : lt a a = false := by
  rcases a with i | x | (_ | _) | _ <;> simp [lt, exact]

theorem not_lt_of_eq (same : eq a b = true) : lt a b = false := by
  rw [lt_congr_left same, lt_irrefl]

theorem not_lt_of_lt (less : lt a b = true) : lt b a = false := by
  cases back : lt b a with
  | false => rfl
  | true => rw [← lt_trans less back, lt_irrefl]

theorem eq_refl {a : Number} (number : a ≠ .nan) : eq a a = true := by
  rcases a with i | x | (_ | _) | _ <;> simp [eq, exact] at number ⊢

theorem eq_of_not_lt (left : a ≠ .nan) (right : b ≠ .nan)
    (above : lt a b = false) (below : lt b a = false) : eq a b = true := by
  rcases a with i | x | (_ | _) | _ <;> rcases b with j | y | (_ | _) | _ <;>
    simp only [lt, eq, exact, ne_eq, not_true_eq_false, Bool.not_true, Bool.not_false,
      decide_eq_false_iff_not, beq_iff_eq, reduceCtorEq] at left right above below ⊢
  · omega
  all_goals exact Std.le_antisymm (Std.not_lt.mp below) (Std.not_lt.mp above)

end Proc17.Lua.Number
