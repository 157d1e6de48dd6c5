import Proc17.Lua.Coerce

/-!
# Patterns

Lua patterns of one-byte classes with one capture: a repetition takes what it can and gives
back one byte at a time.
-/

namespace Proc17.Lua.Pattern

inductive Repeats where
  | once
  | optional
  | many
  | some

structure Item where
  accepts : UInt8 → Bool
  repeats : Repeats
  captured : Bool

def one (accepts : UInt8 → Bool) : Item := ⟨accepts, .once, false⟩

def isAlpha (b : UInt8) : Bool := (65 ≤ b && b ≤ 90) || (97 ≤ b && b ≤ 122)

def isAlnum (b : UInt8) : Bool := isAlpha b || Number.isDigit b

/-- How many bytes an item may take from the front of a text, in the order tried. -/
def Item.counts (item : Item) (s : Bytes) : List Nat :=
  let most := (s.takeWhile item.accepts).length
  match item.repeats with
  | .once => if most = 0 then [] else [1]
  | .optional => if most = 0 then [0] else [1, 0]
  | .many => (List.range (most + 1)).reverse
  | .some => (List.range' 1 most).reverse

/-- The capture of the match at the front of a text, and what follows the match; a closed
pattern ends in `$`. -/
def matchFront (closed : Bool) : List Item → Bytes → Option (Bytes × Bytes)
  | [], s => if closed = true ∧ s ≠ [] then none else some ([], s)
  | item :: items, s => (item.counts s).findSome? fun n =>
      (matchFront closed items (s.drop n)).map fun found =>
        (if item.captured then s.take n ++ found.1 else found.1, found.2)

/-- The captures of `gmatch`, for items that match no empty text; every round reads a byte. -/
def gmatchFrom (items : List Item) : Nat → Bytes → List Bytes
  | 0, _ => []
  | fuel + 1, s =>
    match matchFront false items s with
    | some (captured, rest) => captured :: gmatchFrom items fuel rest
    | none => if s = [] then [] else gmatchFrom items fuel s.tail

def gmatch (items : List Item) (s : Bytes) : List Bytes := gmatchFrom items (s.length + 1) s

end Proc17.Lua.Pattern
