import Proc17.Lua.Call

/-!
# Lua coercions

`tonumber` on text, and the arithmetic and order operators on arbitrary values: a
text that reads as a number takes part in arithmetic but not in comparison with a
number.
-/

namespace Proc17.Lua

namespace Number

def isFinite : Number → Bool
  | .int _ | .float _ => true
  | _ => false

def isSpace (b : UInt8) : Bool := b = 32 || (9 ≤ b && b ≤ 13)

def trim (s : Bytes) : Bytes :=
  ((s.dropWhile isSpace).reverse.dropWhile isSpace).reverse

def hexDigit (b : UInt8) : Option Nat :=
  if isDigit b then some (b.toNat - 48)
  else if 97 ≤ b && b ≤ 102 then some (b.toNat - 87)
  else if 65 ≤ b && b ≤ 70 then some (b.toNat - 55)
  else none

def hexValue (digits : Bytes) : Nat :=
  digits.foldl (fun acc b => acc * 16 + (hexDigit b).getD 0) 0

/-- The double nearest to a quotient: enough bits of it, and one that tells whether
anything follows them. -/
def ofRatio (num den : Nat) : Number :=
  let shift := 1100 + den.log2
  let scaled := num * 2 ^ shift
  let sticky := if scaled % den = 0 then 0 else 1
  ofDyadic (Dyadic.ofIntWithPrec (2 * (scaled / den : Nat) + sticky : Nat) (shift + 1 : Nat))

def readExponent (s : Bytes) : Option Int :=
  let (negative, digits) :=
    match s with
    | 45 :: rest => (true, rest)
    | 43 :: rest => (false, rest)
    | _ => (false, s)
  if digits.isEmpty || !digits.all isDigit then none
  else some (if negative then -(ofDigits digits : Int) else ofDigits digits)

def splitNumeral (digit : UInt8 → Bool) (marks : List UInt8) (s : Bytes) :
    Option (Bytes × Option Bytes × Option Int) :=
  let whole := s.takeWhile digit
  let (fraction, rest) :=
    match s.dropWhile digit with
    | 46 :: tail => (some (tail.takeWhile digit), tail.dropWhile digit)
    | other => (none, other)
  if whole.isEmpty && (fraction.getD []).isEmpty then none
  else
    match rest with
    | [] => some (whole, fraction, none)
    | mark :: tail =>
      if mark ∈ marks then
        (readExponent tail).map fun exponent => (whole, fraction, some exponent)
      else none

/-- A hexadecimal numeral; an integer one wraps around. -/
def readHex (negative : Bool) (s : Bytes) : Option Number := do
  let (whole, fraction, exponent) ← splitNumeral (fun b => (hexDigit b).isSome) [112, 80] s
  let digits := fraction.getD []
  let value := hexValue (whole ++ digits)
  if fraction.isNone && exponent.isNone then
    some (.int (wrap (if negative then -(value : Int) else value)))
  else
    let places : Int := 4 * digits.length - exponent.getD 0
    let magnitude := ofDyadic (Dyadic.ofIntWithPrec value places)
    some (if negative then neg magnitude else magnitude)

def readDecimal (negative : Bool) (s : Bytes) : Option Number := do
  let (whole, fraction, exponent) ← splitNumeral isDigit [101, 69] s
  let digits := fraction.getD []
  let value := ofDigits (whole ++ digits)
  let signed : Int := if negative then -value else value
  if fraction.isNone && exponent.isNone && (-2 ^ 63 ≤ signed && signed < 2 ^ 63) then
    some (.int signed)
  else
    let places : Int := exponent.getD 0 - digits.length
    let magnitude :=
      if 0 ≤ places then ofRatio (value * 10 ^ places.toNat) 1
      else ofRatio value (10 ^ (-places).toNat)
    some (if negative then neg magnitude else magnitude)

/-- `tonumber(s)` for a text. -/
def ofText (s : Bytes) : Option Number :=
  let (negative, body) :=
    match trim s with
    | 45 :: rest => (true, rest)
    | 43 :: rest => (false, rest)
    | other => (false, other)
  match body with
  | 48 :: 120 :: digits | 48 :: 88 :: digits => readHex negative digits
  | _ => readDecimal negative body

end Number

namespace Value

def tonumber : Value → Option Number
  | .num n => some n
  | .str s => Number.ofText s
  | _ => none

def arith (op : Number → Number → Number) (a b : Value) : Except Failure Number :=
  match a.tonumber, b.tonumber with
  | some x, some y => .ok (op x y)
  | _, _ => .error (.fault "arithmetic")

/-- `a < b`: numbers by value, texts by their bytes. -/
def less (a b : Value) : Except Failure Bool :=
  match a, b with
  | .num x, .num y => .ok (Number.lt x y)
  | .str x, .str y => .ok (decide (x.map UInt8.toNat < y.map UInt8.toNat))
  | _, _ => .error (.fault "compare")

def atMost (a b : Value) : Except Failure Bool :=
  match a, b with
  | .num x, .num y => .ok (Number.le x y)
  | .str x, .str y => .ok (decide (List.le (x.map UInt8.toNat) (y.map UInt8.toNat)))
  | _, _ => .error (.fault "compare")

example : tonumber (text " 0x10 ") = some (.int 16) := by decide

example : tonumber (text "1e1") = some (.float 10) := by decide +kernel

end Value

end Proc17.Lua
