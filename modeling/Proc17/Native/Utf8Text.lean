import Proc17.Native.FileSystem
import Proc17.Unicode.Utf8

/-!
# The text a file may hold

`valid_utf8_text` with each byte read at its place.  It accepts the well-formed texts without
a zero byte, and reads no byte past the length.
-/

namespace Proc17.Native

open Lua Unicode List Option

/-- The loop of `valid_utf8_text` from an index on; nothing when a read falls past the length.
An object is shorter than half the range of `size_t`, so `index + 3` does not wrap. -/
def scanUtf8Text (value : Bytes) (index : Nat) : Option Bool :=
  if index < value.length then do
    let first ← value[index]?
    if first = 0 then pure false
    else if first ≤ 127 then scanUtf8Text value (index + 1)
    else if 194 ≤ first && first ≤ 223 then
      if value.length ≤ index + 1 then pure false
      else do
        let second ← value[index + 1]?
        if second < 128 || 191 < second then pure false
        else scanUtf8Text value (index + 2)
    else if 224 ≤ first && first ≤ 239 then
      if value.length ≤ index + 2 then pure false
      else do
        let second ← value[index + 1]?
        let third ← value[index + 2]?
        if third < 128 || 191 < third
            || (first = 224 && (second < 160 || 191 < second))
            || (first = 237 && (second < 128 || 159 < second))
            || (first ≠ 224 && first ≠ 237 && (second < 128 || 191 < second)) then pure false
        else scanUtf8Text value (index + 3)
    else if 240 ≤ first && first ≤ 244 then
      if value.length ≤ index + 3 then pure false
      else do
        let second ← value[index + 1]?
        let third ← value[index + 2]?
        let fourth ← value[index + 3]?
        if third < 128 || 191 < third || fourth < 128 || 191 < fourth
            || (first = 240 && (second < 144 || 191 < second))
            || (first = 244 && (second < 128 || 143 < second))
            || (first ≠ 240 && first ≠ 244 && (second < 128 || 191 < second)) then pure false
        else scanUtf8Text value (index + 4)
    else pure false
  else pure true
termination_by value.length - index

/-! ## The scan and the list -/

section
variable {before rest : Bytes} {a b c d : UInt8}

theorem read_first : (before ++ a :: rest)[before.length]? = some a := by simp

theorem read_second : (before ++ a :: b :: rest)[before.length + 1]? = some b := by simp

theorem read_third : (before ++ a :: b :: c :: rest)[before.length + 2]? = some c := by simp

theorem read_fourth : (before ++ a :: b :: c :: d :: rest)[before.length + 3]? = some d := by simp

theorem outside_eq (low high b : UInt8) :
    (decide (b < low) || decide (high < b)) = !(decide (low ≤ b) && decide (b ≤ high)) := by
  rw [Bool.not_and, ← decide_not, ← decide_not]
  simp only [UInt8.not_le]

theorem not_continuation (b : UInt8) :
    (decide (b < 128) || decide (191 < b)) = !isContinuation b := outside_eq 128 191 b

theorem refusesThree_eq (a b c : UInt8) :
    (decide (c < 128) || decide (191 < c)
      || (decide (a = 224) && (decide (b < 160) || decide (191 < b)))
      || (decide (a = 237) && (decide (b < 128) || decide (159 < b)))
      || (decide (a ≠ 224) && decide (a ≠ 237) && (decide (b < 128) || decide (191 < b))))
    = !(isContinuation c && (if a = 224 then decide (160 ≤ b) && decide (b ≤ 191)
        else if a = 237 then decide (128 ≤ b) && decide (b ≤ 159) else isContinuation b)) := by
  rw [not_continuation, not_continuation, outside_eq, outside_eq]
  by_cases least : a = 224
  · subst least
    simp [Bool.not_and]
  · by_cases odd : a = 237
    · subst odd
      simp [Bool.not_and]
    · simp [least, odd, Bool.not_and]

theorem refusesFour_eq (a b c d : UInt8) :
    (decide (c < 128) || decide (191 < c) || decide (d < 128) || decide (191 < d)
      || (decide (a = 240) && (decide (b < 144) || decide (191 < b)))
      || (decide (a = 244) && (decide (b < 128) || decide (143 < b)))
      || (decide (a ≠ 240) && decide (a ≠ 244) && (decide (b < 128) || decide (191 < b))))
    = !(isContinuation c && isContinuation d
      && (if a = 240 then decide (144 ≤ b) && decide (b ≤ 191)
        else if a = 244 then decide (128 ≤ b) && decide (b ≤ 143) else isContinuation b)) := by
  rw [Bool.or_assoc (decide (c < 128) || decide (191 < c)), not_continuation, not_continuation,
    not_continuation, outside_eq, outside_eq]
  by_cases least : a = 240
  · subst least
    simp [Bool.not_and]
  · by_cases last : a = 244
    · subst last
      simp [Bool.not_and]
    · simp [least, last, Bool.not_and]

end

theorem scanUtf8Text_eq (value : Bytes) : ∀ before : Bytes,
    scanUtf8Text (before ++ value) before.length = some (validUtf8Text value) := by
  induction value using validUtf8Text.induct
  case case1 =>
    intro before
    rw [scanUtf8Text, append_nil, if_neg (Nat.lt_irrefl _)]
    rfl
  all_goals
    intro before
    rw [scanUtf8Text, if_pos (by simp), read_first]
    unfold validUtf8Text
    simp only [bind_eq_bind, bind_some]
  case case2 rest =>
    simp only [if_pos]
    rfl
  case case3 a rest nonzero ascii ih =>
    have onward := ih (before ++ [a])
    rw [append_assoc, length_append] at onward
    simp only [if_neg nonzero, if_pos ascii]
    exact onward
  case case4 a nonzero large two b rest ih =>
    have onward := ih (before ++ [a, b])
    rw [append_assoc, length_append] at onward
    simp only [if_neg nonzero, if_neg large, if_pos two]
    rw [if_neg (by simp), read_second]
    simp only [bind_some, not_continuation]
    cases isContinuation b with
    | true => exact onward
    | false => rfl
  case case5 a rest nonzero large two short =>
    have none : rest = [] := by
      cases rest with
      | nil => rfl
      | cons b rest => exact (short b rest rfl).elim
    subst none
    simp only [if_neg nonzero, if_neg large, if_pos two]
    rw [if_pos (by simp)]
    rfl
  case case6 a nonzero large notTwo three b c rest ih =>
    have onward := ih (before ++ [a, b, c])
    rw [append_assoc, length_append] at onward
    simp only [if_neg nonzero, if_neg large, if_neg notTwo, if_pos three]
    rw [if_neg (by simp), read_second, read_third]
    simp only [bind_some]
    rw [refusesThree_eq]
    rcases Bool.eq_false_or_eq_true (isContinuation c && (if a = 224 then
      decide (160 ≤ b) && decide (b ≤ 191) else if a = 237 then decide (128 ≤ b)
        && decide (b ≤ 159) else isContinuation b)) with fits | fits
    · rw [fits, Bool.true_and, if_neg (by decide)]
      exact onward
    · rw [fits, Bool.false_and, if_pos (by decide)]
      rfl
  case case7 a rest nonzero large notTwo three short =>
    simp only [if_neg nonzero, if_neg large, if_neg notTwo, if_pos three]
    cases rest with
    | nil =>
      rw [if_pos (by simp)]
      rfl
    | cons b rest =>
      cases rest with
      | nil =>
        rw [if_pos (by simp)]
        rfl
      | cons c rest => exact (short b c rest rfl).elim
  case case8 a nonzero large notTwo notThree four b c d rest ih =>
    have onward := ih (before ++ [a, b, c, d])
    rw [append_assoc, length_append] at onward
    simp only [if_neg nonzero, if_neg large,
      if_neg notTwo, if_neg notThree, if_pos four]
    rw [if_neg (by simp), read_second, read_third, read_fourth]
    simp only [bind_some]
    rw [refusesFour_eq]
    rcases Bool.eq_false_or_eq_true (isContinuation c && isContinuation d && (if a = 240 then
      decide (144 ≤ b) && decide (b ≤ 191) else if a = 244 then decide (128 ≤ b)
        && decide (b ≤ 143) else isContinuation b)) with fits | fits
    · rw [fits, Bool.true_and, if_neg (by decide)]
      exact onward
    · rw [fits, Bool.false_and, if_pos (by decide)]
      rfl
  case case9 a rest nonzero large notTwo notThree four short =>
    simp only [if_neg nonzero, if_neg large,
      if_neg notTwo, if_neg notThree, if_pos four]
    cases rest with
    | nil =>
      rw [if_pos (by simp)]
      rfl
    | cons b rest =>
      cases rest with
      | nil =>
        rw [if_pos (by simp)]
        rfl
      | cons c rest =>
        cases rest with
        | nil =>
          rw [if_pos (by simp)]
          rfl
        | cons d rest => exact (short b c d rest rfl).elim
  case case10 a rest nonzero large notTwo notThree notFour =>
    simp only [if_neg nonzero, if_neg large,
      if_neg notTwo, if_neg notThree, if_neg notFour]
    rfl

/-! ## What is accepted -/

theorem toNat_le_iff (a b : UInt8) : a ≤ b ↔ a.toNat ≤ b.toNat := UInt8.le_iff_toNat_le

theorem continues_iff (b : UInt8) : isContinuation b = true ↔ Continues b := by
  rw [isContinuation, Bool.and_eq_true, decide_eq_true_iff, decide_eq_true_iff, toNat_le_iff,
    toNat_le_iff]
  rfl

theorem eq_iff_toNat (a b : UInt8) : a = b ↔ a.toNat = b.toNat := UInt8.toNat_inj.symm

theorem secondOfThree_iff (a b : UInt8) :
    (if a = 224 then decide (160 ≤ b) && decide (b ≤ 191)
      else if a = 237 then decide (128 ≤ b) && decide (b ≤ 159) else isContinuation b) = true
      ↔ SecondOfThree a b := by
  unfold SecondOfThree Continues isContinuation
  split
  · subst a
    simp only [Bool.and_eq_true, decide_eq_true_iff, toNat_le_iff]
    simp
    omega
  · split
    · subst a
      simp only [Bool.and_eq_true, decide_eq_true_iff, toNat_le_iff]
      simp
      omega
    · rename_i least odd
      rw [eq_iff_toNat] at least odd
      simp only [Bool.and_eq_true, decide_eq_true_iff, toNat_le_iff]
      simp at least odd ⊢
      omega

theorem secondOfFour_iff (a b : UInt8) :
    (if a = 240 then decide (144 ≤ b) && decide (b ≤ 191)
      else if a = 244 then decide (128 ≤ b) && decide (b ≤ 143) else isContinuation b) = true
      ↔ SecondOfFour a b := by
  unfold SecondOfFour Continues isContinuation
  split
  · subst a
    simp only [Bool.and_eq_true, decide_eq_true_iff, toNat_le_iff]
    simp
    omega
  · split
    · subst a
      simp only [Bool.and_eq_true, decide_eq_true_iff, toNat_le_iff]
      simp
      omega
    · rename_i least last
      rw [eq_iff_toNat] at least last
      simp only [Bool.and_eq_true, decide_eq_true_iff, toNat_le_iff]
      simp at least last ⊢
      omega

theorem between_iff (low high a : UInt8) :
    (decide (low ≤ a) && decide (a ≤ high)) = true ↔ low.toNat ≤ a.toNat ∧ a.toNat ≤ high.toNat := by
  rw [Bool.and_eq_true, decide_eq_true_iff, decide_eq_true_iff, toNat_le_iff, toNat_le_iff]

theorem zero_ne_continues {b : UInt8} (continues : Continues b) : ¬ 0 = b := by
  rintro rfl
  have low : 128 ≤ (0 : UInt8).toNat := continues.1
  revert low
  decide

theorem wellFormed_of_valid (value : Bytes) :
    validUtf8Text value = true → WellFormed value ∧ 0 ∉ value := by
  induction value using validUtf8Text.induct
  all_goals
    intro valid
    unfold validUtf8Text at valid
  case case1 => exact ⟨wellFormed_nil, not_mem_nil⟩
  case case3 a rest nonzero ascii ih =>
    rw [if_neg nonzero, if_pos ascii] at valid
    obtain ⟨formed, absent⟩ := ih valid
    rw [toNat_le_iff] at ascii
    refine ⟨.cons (sequence_one ascii) formed, ?_⟩
    simp only [mem_cons, not_or]
    exact ⟨Ne.symm nonzero, absent⟩
  case case4 a nonzero large two b rest ih =>
    simp only [if_neg nonzero, if_neg large, if_pos two] at valid
    rw [Bool.and_eq_true] at valid
    obtain ⟨second, valid⟩ := valid
    obtain ⟨formed, absent⟩ := ih valid
    rw [continues_iff] at second
    refine ⟨.cons (sequence_two ((between_iff 194 223 a).mp two) second) formed, ?_⟩
    simp only [mem_cons, not_or]
    exact ⟨Ne.symm nonzero, zero_ne_continues second, absent⟩
  case case6 a nonzero large notTwo three b c rest ih =>
    simp only [if_neg nonzero, if_neg large, if_neg notTwo, if_pos three] at valid
    rw [Bool.and_eq_true, Bool.and_eq_true, continues_iff, secondOfThree_iff] at valid
    obtain ⟨⟨third, second⟩, valid⟩ := valid
    obtain ⟨formed, absent⟩ := ih valid
    refine ⟨.cons (sequence_three ((between_iff 224 239 a).mp three) second third) formed, ?_⟩
    simp only [mem_cons, not_or]
    exact ⟨Ne.symm nonzero, zero_ne_continues second.1, zero_ne_continues third, absent⟩
  case case8 a nonzero large notTwo notThree four b c d rest ih =>
    simp only [if_neg nonzero, if_neg large, if_neg notTwo, if_neg notThree, if_pos four] at valid
    rw [Bool.and_eq_true, Bool.and_eq_true, Bool.and_eq_true, continues_iff, continues_iff,
      secondOfFour_iff] at valid
    obtain ⟨⟨⟨third, fourth⟩, second⟩, valid⟩ := valid
    obtain ⟨formed, absent⟩ := ih valid
    refine ⟨.cons (sequence_four ((between_iff 240 244 a).mp four) second third fourth) formed, ?_⟩
    simp only [mem_cons, not_or]
    exact ⟨Ne.symm nonzero, zero_ne_continues second.1, zero_ne_continues third,
      zero_ne_continues fourth, absent⟩
  all_goals simp [*] at valid

theorem not_ascii {a : UInt8} (high : 127 < a.toNat) : ¬ a ≤ 127 := fun low => by
  rw [toNat_le_iff] at low
  have small : a.toNat ≤ 127 := low
  omega

theorem not_between {low high a : UInt8} (beyond : high.toNat < a.toNat) :
    ¬ (decide (low ≤ a) && decide (a ≤ high)) = true := fun inside =>
  absurd ((between_iff low high a).mp inside).2 (Nat.not_le.mpr beyond)

theorem validUtf8Text_append {s : Bytes} (fits : Sequence s) (nonzero : 0 ∉ s) (rest : Bytes) :
    validUtf8Text (s ++ rest) = validUtf8Text rest := by
  rcases sequence_cases fits with ⟨a, rfl, low⟩ | ⟨a, b, rfl, lead, second⟩
    | ⟨a, b, c, rfl, lead, second, third⟩ | ⟨a, b, c, d, rfl, lead, second, third, fourth⟩
  all_goals
    have first : ¬ a = 0 := fun zero => nonzero (zero ▸ mem_cons_self)
    simp only [cons_append, nil_append]
    conv_lhs => unfold validUtf8Text
    simp only [if_neg first]
  · rw [if_pos ((toNat_le_iff a 127).mpr low)]
  · rw [if_neg (not_ascii (by omega)), if_pos ((between_iff 194 223 a).mpr lead),
      (continues_iff b).mpr second, Bool.true_and]
  · have notTwo : ¬ (decide (194 ≤ a) && decide (a ≤ 223)) = true :=
      not_between (show 223 < a.toNat by omega)
    rw [if_neg (not_ascii (by omega)), if_neg notTwo, if_pos ((between_iff 224 239 a).mpr lead),
      (continues_iff c).mpr third, (secondOfThree_iff a b).mpr second]
    rfl
  · have notTwo : ¬ (decide (194 ≤ a) && decide (a ≤ 223)) = true :=
      not_between (show 223 < a.toNat by omega)
    have notThree : ¬ (decide (224 ≤ a) && decide (a ≤ 239)) = true :=
      not_between (show 239 < a.toNat by omega)
    rw [if_neg (not_ascii (by omega)), if_neg notTwo, if_neg notThree,
      if_pos ((between_iff 240 244 a).mpr lead), (continues_iff c).mpr third, (continues_iff d).mpr fourth, (secondOfFour_iff a b).mpr second]
    rfl

theorem valid_of_wellFormed {value : Bytes} (formed : WellFormed value) (absent : 0 ∉ value) :
    validUtf8Text value = true := by
  obtain ⟨sequences, each, rfl⟩ := formed
  induction sequences with
  | nil => rfl
  | cons s rest ih =>
    obtain ⟨first, later⟩ := forall_mem_cons.mp each
    rw [flatten_cons, mem_append, not_or] at absent
    rw [flatten_cons, validUtf8Text_append first absent.1]
    exact ih later absent.2

theorem validUtf8Text_iff (value : Bytes) :
    validUtf8Text value = true ↔ WellFormed value ∧ 0 ∉ value :=
  ⟨wellFormed_of_valid value, fun ⟨formed, absent⟩ => valid_of_wellFormed formed absent⟩

/-- The scan reads nothing past the length, and accepts the well-formed texts without a zero
byte and no others. -/
theorem valid_utf8_text_exact (value : Bytes) : ∃ accepted, scanUtf8Text value 0 = some accepted
    ∧ (accepted = true ↔ WellFormed value ∧ 0 ∉ value) :=
  ⟨validUtf8Text value, scanUtf8Text_eq value [], validUtf8Text_iff value⟩

end Proc17.Native
