import Mathlib.Algebra.Ring.Int.Defs
import Mathlib.Algebra.Ring.Nat
import Mathlib.Data.Int.Order.Basic
import Mathlib.Data.List.Basic
import Mathlib.Data.List.Lex

/-!
# Lua 5.4 numbers

The two number subtypes of Lua 5.4: wrapping 64-bit integers and IEEE doubles.
A finite double is kept as the exact dyadic rational it denotes, so that
comparison is exact, and every arithmetic result is rounded to the nearest
double with ties to even.  Negative zero is not told apart from zero.
-/

namespace Proc17.Lua

open Bool

abbrev Bytes := List UInt8

instance : LawfulBEq Bytes := inferInstance

/-- The bytes of a source literal, which the source writes in UTF-8. -/
def utf8 (s : String) : Bytes := s.toByteArray.data.toList

@[simp] theorem utf8_inj (a b : String) : utf8 a = utf8 b ↔ a = b := by
  constructor
  · intro same
    exact String.toByteArray_inj.mp (ByteArray.ext (Array.toList_inj.mp same))
  · intro same
    rw [same]

inductive Number where
  | int (i : Int)
  | float (x : Dyadic)
  | inf (negative : Bool)
  | nan
  deriving DecidableEq

namespace Number

/-- The two's-complement value of an integer operation's exact result. -/
def wrap (i : Int) : Int := Int.bmod i (2 ^ 64)

/-- `n / 2 ^ drop` rounded to the nearest integer, ties to even. -/
def roundEven (n : Int) (drop : Nat) : Int :=
  let q := n >>> drop
  let twice := 2 * (n - q <<< drop)
  if twice < 2 ^ drop then q
  else if 2 ^ drop < twice then q + 1
  else if q % 2 = 0 then q else q + 1

/-- The double nearest to an exact result: 53 significant bits, no bit below
`2 ^ -1074`, infinity from `2 ^ 1024` on. -/
def ofDyadic : Dyadic → Number
  | .zero => .float 0
  | .ofOdd n k odd =>
    let drop : Int := max ((n.natAbs.log2 : Int) + 1 - 53) (k - 1074)
    let rounded : Dyadic :=
      if drop ≤ 0 then .ofOdd n k odd
      else Dyadic.ofIntWithPrec (roundEven n drop.toNat) (k - drop)
    if Dyadic.ofIntWithPrec 1 (-1024) ≤ rounded then .inf false
    else if Dyadic.ofIntWithPrec 1 (-1024) ≤ -rounded then .inf true
    else .float rounded

def exact : Number → Option Dyadic
  | .int i => some (Dyadic.ofInt i)
  | .float x => some x
  | _ => none

/-- Lua's `==` on numbers: `1 == 1.0`, and NaN equals nothing. -/
def eq : Number → Number → Bool
  | .int a, .int b => a == b
  | .inf a, .inf b => a == b
  | a, b =>
    match exact a, exact b with
    | some x, some y => x == y
    | _, _ => false

/-- Lua's `<` on numbers. -/
def lt : Number → Number → Bool
  | .int a, .int b => decide (a < b)
  | .nan, _ => false
  | _, .nan => false
  | .inf true, .inf negative => !negative
  | .inf true, _ => true
  | .inf false, _ => false
  | _, .inf negative => !negative
  | a, b =>
    match exact a, exact b with
    | some x, some y => decide (x < y)
    | _, _ => false

/-- Lua's `<=` on numbers. -/
def le (a b : Number) : Bool := lt a b || eq a b

def neg : Number → Number
  | .int i => .int (wrap (-i))
  | .float x => .float (-x)
  | .inf negative => .inf !negative
  | .nan => .nan

def add : Number → Number → Number
  | .int a, .int b => .int (wrap (a + b))
  | .inf a, .inf b => if a = b then .inf a else .nan
  | .inf a, b => if b = .nan then .nan else .inf a
  | a, .inf b => if a = .nan then .nan else .inf b
  | a, b =>
    match exact a, exact b with
    | some x, some y => ofDyadic (x + y)
    | _, _ => .nan

def sub : Number → Number → Number
  | .int a, .int b => .int (wrap (a - b))
  | a, b => add a (neg b)

def floorInt : Dyadic → Int
  | .zero => 0
  | .ofOdd n k _ => if k ≤ 0 then n <<< (-k).toNat else n >>> k.toNat

/-- `math.floor`: an integer when it fits in 64 bits, else a float. -/
def floor : Number → Number
  | .float x =>
    let i := floorInt x
    if -2 ^ 63 ≤ i ∧ i < 2 ^ 63 then .int i else .float (Dyadic.ofInt i)
  | n => n

/-- The guard `value == math.floor(value)`. -/
def isIntegral (n : Number) : Bool := eq n (floor n)

theorem eq_self_of_isIntegral {n : Number} (integral : n.isIntegral = true) :
    eq n n = true := by
  cases n with
  | nan => simp [isIntegral, floor, eq, exact] at integral
  | _ => simp [eq, exact]

/-! ## Exact comparison -/

theorem ofInt_inj (a b : Int) : Dyadic.ofInt a = Dyadic.ofInt b ↔ a = b := by
  rw [← Dyadic.toRat_inj]
  show (a : Dyadic).toRat = (b : Dyadic).toRat ↔ a = b
  rw [Dyadic.toRat_intCast, Dyadic.toRat_intCast, Rat.intCast_inj]

theorem ofInt_lt (a b : Int) : Dyadic.ofInt a < Dyadic.ofInt b ↔ a < b := by
  rw [← Dyadic.toRat_lt_toRat_iff]
  show (a : Dyadic).toRat < (b : Dyadic).toRat ↔ a < b
  rw [Dyadic.toRat_intCast, Dyadic.toRat_intCast, Rat.intCast_lt_intCast]

theorem eq_iff (a b : Number) : eq a b = true ↔
    (∃ x, exact a = some x ∧ exact b = some x)
      ∨ ∃ negative, a = .inf negative ∧ b = .inf negative := by
  cases a <;> cases b <;> simp [eq, exact, ofInt_inj] <;> exact eq_comm

theorem eq_euclidean {a b c : Number} (left : eq a b = true) (right : eq a c = true) :
    eq b c = true := by
  rw [eq_iff] at *
  rcases left with ⟨x, exactA, exactB⟩ | ⟨negative, rfl, rfl⟩
  · rcases right with ⟨y, exactA', exactC⟩ | ⟨negative, rfl, rfl⟩
    · rw [exactA] at exactA'
      cases exactA'
      exact .inl ⟨x, exactB, exactC⟩
    · cases exactA
  · rcases right with ⟨y, exactA', -⟩ | ⟨negative', same, rfl⟩
    · cases exactA'
    · cases same
      exact .inr ⟨negative, rfl, rfl⟩

theorem eq_symm {a b : Number} (same : eq a b = true) : eq b a = true := by
  rw [eq_iff] at *
  rcases same with ⟨x, exactA, exactB⟩ | ⟨negative, left, right⟩
  · exact .inl ⟨x, exactB, exactA⟩
  · exact .inr ⟨negative, right, left⟩

theorem lt_float_of_exact (a : Number) {b : Number} {x : Dyadic} (value : exact b = some x) :
    lt a b = lt a (.float x) := by
  cases b with
  | int i =>
    cases value
    cases a with
    | int j => simp [lt, exact, ofInt_lt]
    | float y => rfl
    | inf negative => cases negative <;> rfl
    | nan => rfl
  | float y =>
    cases value
    rfl
  | inf | nan => cases value

theorem lt_congr_right {a b c : Number} (same : eq b c = true) : lt a b = lt a c := by
  rw [eq_iff] at same
  rcases same with ⟨x, exactB, exactC⟩ | ⟨negative, rfl, rfl⟩
  · rw [lt_float_of_exact a exactB, lt_float_of_exact a exactC]
  · rfl

theorem float_of_isIntegral {x : Dyadic} (integral : (Number.float x).isIntegral = true) :
    x = Dyadic.ofInt (floorInt x) := by
  simp only [isIntegral, floor] at integral
  split at integral <;> simpa [eq, exact] using integral

theorem floorInt_ofInt (i : Int) : floorInt (Dyadic.ofInt i) = i := by
  unfold Dyadic.ofInt Dyadic.ofIntWithPrec
  by_cases zero : i = 0
  · rw [dif_pos zero, zero]
    rfl
  · have exponent : (-(0 - (i.trailingZeros : Int))).toNat = i.trailingZeros := by omega
    rw [dif_neg zero, floorInt, if_pos (by omega), exponent, Int.shiftLeft_eq,
      Int.shiftRight_eq_div_pow]
    exact Int.ediv_mul_cancel (Int.two_pow_trailingZeros_dvd zero)

theorem integral_of_eq_nat {n : Number} {k : Nat} (same : eq n (.int k) = true) :
    n.isIntegral = true ∧ lt n (.int 0) = false := by
  cases n with
  | int j =>
    simp only [eq, beq_iff_eq] at same
    simp [isIntegral, floor, eq, lt, same]
  | float x =>
    simp only [eq, exact, beq_iff_eq] at same
    simp only [isIntegral, floor, same, floorInt_ofInt, lt, exact, ofInt_lt]
    constructor
    · split <;> simp [eq, exact]
    · simp
  | inf | nan => simp [eq, exact] at same

variable {max : Number}

theorem zero_le_of_not_lt_one (integral : max.isIntegral = true)
    (positive : lt max (.int 1) = false) : le (.int 0) max = true := by
  cases max with
  | int m =>
    simp only [lt, decide_eq_false_iff_not] at positive
    simp only [le, lt, eq, or_eq_true, decide_eq_true_eq, beq_iff_eq]
    omega
  | float x =>
    simp only [lt, exact, decide_eq_false_iff_not] at positive
    simp only [le, lt, eq, exact, or_eq_true, decide_eq_true_eq, beq_iff_eq]
    rw [float_of_isIntegral integral] at positive ⊢
    simp only [ofInt_lt, ofInt_inj] at positive ⊢
    omega
  | inf negative =>
    cases negative with
    | true => simp [lt] at positive
    | false => rfl
  | nan => simp [isIntegral, floor, eq, exact] at integral

theorem succ_le_of_not_le {used : Nat} (integral : max.isIntegral = true)
    (positive : lt max (.int 1) = false) (below : le max (.int used) = false) :
    le (.int (used + 1 : Nat)) max = true := by
  cases max with
  | int m =>
    simp only [le, lt, eq, or_eq_false_iff, decide_eq_false_iff_not, beq_eq_false_iff_ne] at below
    simp only [le, lt, eq, or_eq_true, decide_eq_true_eq, beq_iff_eq]
    omega
  | float x =>
    simp only [le, lt, eq, exact, or_eq_false_iff, decide_eq_false_iff_not,
      beq_eq_false_iff_ne] at below
    simp only [le, lt, eq, exact, or_eq_true, decide_eq_true_eq, beq_iff_eq]
    rw [float_of_isIntegral integral] at below ⊢
    simp only [ofInt_lt, ne_eq, ofInt_inj] at below ⊢
    omega
  | inf negative =>
    cases negative with
    | true => simp [lt] at positive
    | false => rfl
  | nan => simp [isIntegral, floor, eq, exact] at integral

theorem nat_le_of_not_lt {bound : Number} {count ceiling : Nat} (integral : bound.isIntegral = true)
    (capped : lt (.int ceiling) bound = false) (reached : lt bound (.int count) = false) :
    count ≤ ceiling := by
  cases bound with
  | int b =>
    simp only [lt, decide_eq_false_iff_not] at capped reached
    omega
  | float x =>
    simp only [lt, exact, decide_eq_false_iff_not] at capped reached
    rw [float_of_isIntegral integral] at capped reached
    simp only [ofInt_lt] at capped reached
    omega
  | inf negative => cases negative <;> simp [lt] at capped reached
  | nan => simp [isIntegral, floor, eq, exact] at integral

theorem le_of_le_nat {few many : Nat} (fewer : few ≤ many)
    (within : le (.int many) max = true) : le (.int few) max = true := by
  cases max with
  | int m =>
    simp only [le, lt, eq, or_eq_true, decide_eq_true_eq, beq_iff_eq] at within ⊢
    omega
  | float x =>
    simp only [le, lt, eq, exact, or_eq_true, decide_eq_true_eq, beq_iff_eq] at within ⊢
    have reached : Dyadic.ofInt many ≤ x := by
      rcases within with below | rfl
      · exact Std.le_of_lt below
      · exact Dyadic.le_refl _
    rcases Nat.lt_or_eq_of_le fewer with less | rfl
    · left
      have below : Dyadic.ofInt few < Dyadic.ofInt many := (ofInt_lt _ _).mpr (by omega)
      exact Std.lt_of_lt_of_le below reached
    · exact within
  | inf negative => exact within
  | nan => simp [le, lt, eq, exact] at within

/-! ## Text forms -/

/-- `num / den` rounded to the nearest natural number, ties to even. -/
def divEven (num den : Nat) : Nat :=
  let q := num / den
  let twice := 2 * (num % den)
  if twice < den then q
  else if den < twice then q + 1
  else if q % 2 = 0 then q else q + 1

/-- The decimal exponent of the positive quotient `num / den`. -/
def decimalExponent (num den : Nat) : Int :=
  if den ≤ num then ((Nat.toDigits 10 (num / den)).length : Int) - 1
  else -(((List.range 400).find? fun j => den ≤ num * 10 ^ j).getD 400 : Nat)

def stripZeros (digits : List Char) : List Char :=
  (digits.reverse.dropWhile (· = '0')).reverse

/-- C's `%.14g` of the positive quotient `num / den`. -/
def formatG (num den : Nat) : List Char :=
  let e := decimalExponent num den
  let m :=
    if e ≤ 13 then divEven (num * 10 ^ (13 - e).toNat) den
    else divEven num (den * 10 ^ (e - 13).toNat)
  -- rounding up to fifteen digits moves the exponent
  let (m, e) := if m = 10 ^ 14 then (10 ^ 13, e + 1) else (m, e)
  let digits := stripZeros (Nat.toDigits 10 m)
  if e < -4 ∨ 14 ≤ e then
    let exponent := Nat.toDigits 10 e.natAbs
    digits.take 1
      ++ (if digits.length ≤ 1 then [] else '.' :: digits.drop 1)
      ++ ['e', if e < 0 then '-' else '+']
      ++ (if exponent.length < 2 then '0' :: exponent else exponent)
  else if 0 ≤ e then
    let whole := e.toNat + 1
    digits.take whole ++ List.replicate (whole - digits.length) '0'
      ++ (if digits.length ≤ whole then [] else '.' :: digits.drop whole)
  else
    ['0', '.'] ++ List.replicate ((-e).toNat - 1) '0' ++ digits

/-- A float that prints as an integer gets `.0` appended. -/
def markFloat (text : List Char) : List Char :=
  if text.all fun c => c = '-' || c.isDigit then text ++ ['.', '0'] else text

def tostring : Number → String
  | .int i => toString i
  | .float .zero => "0.0"
  | .float (.ofOdd n k _) =>
    let (num, den) := if k ≤ 0 then (n.natAbs * 2 ^ (-k).toNat, 1) else (n.natAbs, 2 ^ k.toNat)
    let body := formatG num den
    String.ofList (markFloat (if n < 0 then '-' :: body else body))
  | .inf negative => if negative then "-inf" else "inf"
  | .nan => "nan"

def isDigit (b : UInt8) : Bool := 48 ≤ b && b ≤ 57

def ofDigits (digits : Bytes) : Nat :=
  digits.foldl (fun acc b => acc * 10 + (b.toNat - 48)) 0

/-- `tonumber` on a string of decimal digits: an integer while it fits in 64
bits, else the nearest double. -/
def ofDecimal (digits : Bytes) : Number :=
  let n := ofDigits digits
  if n < 2 ^ 63 then .int n else ofDyadic (Dyadic.ofInt n)

def decimal (n : Nat) : Bytes := utf8 (toString n)

/-! ## Decimal texts -/

theorem digit_range (c : Char) (digit : c.isDigit = true) : 48 ≤ c.toNat ∧ c.toNat ≤ 57 := by
  simp only [Char.isDigit, and_eq_true, decide_eq_true_eq] at digit
  exact digit

theorem utf8_ascii (chars : List Char) (ascii : ∀ c ∈ chars, c.toNat < 128) :
    utf8 (String.ofList chars) = chars.map fun c => c.val.toUInt8 := by
  rw [utf8, String.toByteArray_ofList]
  induction chars with
  | nil => rfl
  | cons c rest ih =>
    have below := ascii c (by simp)
    have size : c.utf8Size = 1 := by
      rw [Char.utf8Size_eq_one_iff, UInt32.le_iff_toNat_le]
      show c.toNat ≤ 127
      omega
    have tail := ih (fun d member => ascii d (by simp [member]))
    rw [List.utf8Encode_cons, List.utf8Encode_singleton,
      String.utf8EncodeChar_eq_singleton size, ByteArray.data_append, Array.toList_append, tail]
    simp

theorem utf8_digits (chars : List Char) (digits : ∀ c ∈ chars, c.isDigit = true) :
    utf8 (String.ofList chars) = chars.map fun c => c.val.toUInt8 :=
  utf8_ascii chars fun c member => by
    have range := digit_range c (digits c member)
    omega

theorem digitByte_toNat (c : Char) (digit : c.isDigit = true) :
    (c.val.toUInt8).toNat = c.toNat := by
  have range := digit_range c digit
  rw [UInt32.toNat_toUInt8]
  exact Nat.mod_eq_of_lt (by show c.toNat < 2 ^ 8; omega)

theorem ofDigits_digits (chars : List Char) (digits : ∀ c ∈ chars, c.isDigit = true) :
    ofDigits (chars.map fun c => c.val.toUInt8) = Nat.ofDigitChars 10 chars 0 := by
  have fold : ∀ start : Nat,
      (chars.map fun c => c.val.toUInt8).foldl (fun acc b => acc * 10 + (b.toNat - 48)) start
        = Nat.ofDigitChars 10 chars start := by
    induction chars with
    | nil => intro start; rfl
    | cons c rest ih =>
      intro start
      have byte := digitByte_toNat c (digits c (by simp))
      have tail := ih (fun d member => digits d (by simp [member]))
      rw [List.map_cons, List.foldl_cons, tail, Nat.ofDigitChars_cons, byte, Nat.mul_comm]
      rfl
  exact fold 0

theorem decimal_digits (n : Nat) : (decimal n).all isDigit = true ∧ decimal n ≠ [] := by
  have digits : ∀ c ∈ Nat.toDigits 10 n, c.isDigit = true := fun c member =>
    Nat.isDigit_of_mem_toDigits (by decide) (by decide) member
  have shape : decimal n = (Nat.toDigits 10 n).map fun c => c.val.toUInt8 :=
    utf8_digits _ digits
  rw [shape]
  constructor
  · rw [List.all_map, List.all_eq_true]
    intro c member
    have range := digit_range c (digits c member)
    have byte := digitByte_toNat c (digits c member)
    simp only [Function.comp, isDigit, and_eq_true, decide_eq_true_eq, UInt8.le_iff_toNat_le, byte]
    exact range
  · simp

theorem ofDigits_decimal (n : Nat) : ofDigits (decimal n) = n := by
  have digits : ∀ c ∈ Nat.toDigits 10 n, c.isDigit = true := fun c member =>
    Nat.isDigit_of_mem_toDigits (by decide) (by decide) member
  have shape : decimal n = (Nat.toDigits 10 n).map fun c => c.val.toUInt8 :=
    utf8_digits _ digits
  rw [shape, ofDigits_digits _ digits, Nat.ofDigitChars_ten_toDigits]

end Number

end Proc17.Lua
