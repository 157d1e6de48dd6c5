import Proc17.Core.Digest
import Proc17.Layout.Octets

/-!
# Digests of the native side

`native/proc17_sha256.c`: SHA-256 over 32-bit words that wrap, as a context that takes in
bytes and closes.
-/

namespace Proc17.Native.Sha256

open Lua Layout List

def roundConstants : List UInt32 := Core.Digest.constants.map UInt32.ofNat

def rotateRight (value amount : UInt32) : UInt32 := (value >>> amount) ||| (value <<< (32 - amount))

/-- `load_u32` along a block. -/
def loadWords : Bytes → List UInt32
  | a :: b :: c :: d :: rest =>
    ((a.toUInt32 <<< 24) ||| (b.toUInt32 <<< 16) ||| (c.toUInt32 <<< 8) ||| d.toUInt32)
      :: loadWords rest
  | _ => []

def storeWord (value : UInt32) : Bytes := bigEndian 4 value.toNat

def extend (words : List UInt32) : List UInt32 :=
  let left := words.getD 14 0
  let right := words.getD 1 0
  let sigma0 := rotateRight left 7 ^^^ rotateRight left 18 ^^^ (left >>> 3)
  let sigma1 := rotateRight right 17 ^^^ rotateRight right 19 ^^^ (right >>> 10)
  (words.getD 15 0 + sigma0 + words.getD 6 0 + sigma1) :: words

def extendBy : Nat → List UInt32 → List UInt32
  | 0, words => words
  | n + 1, words => extendBy n (extend words)

structure State where
  a : UInt32
  b : UInt32
  c : UInt32
  d : UInt32
  e : UInt32
  f : UInt32
  g : UInt32
  h : UInt32

def State.initial : State :=
  ⟨0x6a09e667, 0xbb67ae85, 0x3c6ef372, 0xa54ff53a, 0x510e527f, 0x9b05688c, 0x1f83d9ab,
    0x5be0cd19⟩

def State.round (s : State) (constant word : UInt32) : State :=
  let sum1 := rotateRight s.e 6 ^^^ rotateRight s.e 11 ^^^ rotateRight s.e 25
  let choose := (s.e &&& s.f) ^^^ (~~~s.e &&& s.g)
  let first := s.h + sum1 + choose + constant + word
  let sum0 := rotateRight s.a 2 ^^^ rotateRight s.a 13 ^^^ rotateRight s.a 22
  let majority := (s.a &&& s.b) ^^^ (s.a &&& s.c) ^^^ (s.b &&& s.c)
  let second := sum0 + majority
  ⟨first + second, s.a, s.b, s.c, s.d + first, s.e, s.f, s.g⟩

def State.transform (s : State) (block : Bytes) : State :=
  let words := (extendBy 48 (loadWords block).reverse).reverse
  let t := (roundConstants.zip words).foldl (fun t step => t.round step.1 step.2) s
  ⟨s.a + t.a, s.b + t.b, s.c + t.c, s.d + t.d, s.e + t.e, s.f + t.f, s.g + t.g, s.h + t.h⟩

def State.store (s : State) : Bytes :=
  [s.a, s.b, s.c, s.d, s.e, s.f, s.g, s.h].flatMap storeWord

/-- `struct proc17_sha256`; the block is the bytes it holds, less than 64. -/
structure Context where
  state : State
  totalBytes : UInt64
  block : Bytes

def Context.init : Context := ⟨.initial, 0, []⟩

/-- One byte of the copies of `proc17_sha256_update`. -/
def Context.push (c : Context) (byte : UInt8) : Context :=
  let block := c.block ++ [byte]
  if block.length = 64 then { c with state := c.state.transform block, block := [] }
  else { c with block := block }

def Context.update (c : Context) (bytes : Bytes) : Context :=
  bytes.foldl Context.push { c with totalBytes := c.totalBytes + UInt64.ofNat bytes.length }

def zeros (n : Nat) : Bytes := List.replicate n 0

def Context.final (c : Context) : Bytes :=
  let totalBits := c.totalBytes * 8
  let block := c.block ++ [0x80]
  let (state, block) :=
    if 56 < block.length then (c.state.transform (block ++ zeros (64 - block.length)), [])
    else (c.state, block)
  let last := block ++ zeros (56 - block.length) ++ bigEndian 8 totalBits.toNat
  (state.transform last).store

def bytes (input : Bytes) : Bytes := (Context.init.update input).final

/-! ## The loop of the update -/

/-- The copying loop of `proc17_sha256_update`, one turn for each unit of fuel. -/
def Context.fillBlocks : Nat → Context → Bytes → Context
  | 0, c, _ => c
  | fuel + 1, c, input =>
    if input.length = 0 then c
    else
      let available := 64 - c.block.length
      let copied := if input.length < available then input.length else available
      let block := c.block ++ input.take copied
      let next :=
        if block.length = 64 then { c with state := c.state.transform block, block := [] }
        else { c with block := block }
      fillBlocks fuel next (input.drop copied)

/-- `proc17_sha256_update` with its loop; a turn copies at least one byte. -/
def Context.updateBlocks (c : Context) (bytes : Bytes) : Context :=
  fillBlocks bytes.length { c with totalBytes := c.totalBytes + UInt64.ofNat bytes.length } bytes

variable (c : Context)

section

variable (bytes : Bytes)

theorem foldl_push_short (short : c.block.length + bytes.length < 64) :
    bytes.foldl Context.push c = { c with block := c.block ++ bytes } := by
  induction bytes generalizing c with
  | nil => simp
  | cons byte rest ih =>
    have room : (c.block ++ [byte]).length ≠ 64 := by
      simp only [length_append, length_cons, length_nil] at short ⊢
      omega
    have pushed : c.push byte = { c with block := c.block ++ [byte] } := by
      simp only [Context.push, if_neg room]
    rw [foldl_cons, pushed, ih]
    · simp
    · simp only [length_append, length_cons, length_nil] at short ⊢
      omega

theorem foldl_push_full (some : bytes ≠ [])
    (full : c.block.length + bytes.length = 64) : bytes.foldl Context.push c
      = { c with state := c.state.transform (c.block ++ bytes), block := [] } := by
  obtain ⟨front, last, rfl⟩ : ∃ front last, bytes = front ++ [last] :=
    ⟨bytes.dropLast, bytes.getLast some, (dropLast_append_getLast some).symm⟩
  simp only [length_append, length_singleton] at full
  rw [foldl_append, foldl_push_short c front (by omega)]
  have complete : (c.block ++ front ++ [last]).length = 64 := by
    simp only [length_append, length_singleton]
    omega
  simp only [foldl_cons, foldl_nil, Context.push, if_pos complete]
  rw [append_assoc]

theorem fillBlocks_eq (fuel : Nat) (c : Context) (input : Bytes) (room : c.block.length < 64)
    (enough : input.length ≤ fuel) : Context.fillBlocks fuel c input = input.foldl Context.push c := by
  induction fuel generalizing c input with
  | zero =>
    have empty : input = [] := length_eq_zero_iff.mp (Nat.le_zero.mp enough)
    rw [empty]
    rfl
  | succ fuel ih =>
    unfold Context.fillBlocks
    by_cases empty : input.length = 0
    · rw [if_pos empty, length_eq_zero_iff.mp empty]
      rfl
    · rw [if_neg empty]
      by_cases short : input.length < 64 - c.block.length
      · have rest : input.drop input.length = [] := drop_length
        have unfilled : (c.block ++ input).length ≠ 64 := by
          rw [length_append]
          omega
        simp only [if_pos short, take_length, rest, if_neg unfilled]
        rw [ih _ _ (by simp only [length_append]; omega) (by simp)]
        rw [foldl_push_short c input (by omega)]
        rfl
      · have taken : (input.take (64 - c.block.length)).length = 64 - c.block.length := by
          rw [length_take]
          omega
        have filled : (c.block ++ input.take (64 - c.block.length)).length = 64 := by
          rw [length_append, taken]
          omega
        simp only [if_neg short, if_pos filled]
        rw [ih _ _ (by simp) (by rw [length_drop]; omega)]
        have full := foldl_push_full c (input.take (64 - c.block.length))
          (fun none => by rw [none] at taken; simp at taken; omega) (by rw [taken]; omega)
        rw [← full, ← foldl_append, take_append_drop]

theorem updateBlocks_eq (room : c.block.length < 64) :
    c.updateBlocks bytes = c.update bytes := fillBlocks_eq _ _ _ room (Nat.le_refl _)

theorem foldl_push_room (room : c.block.length < 64) :
    (bytes.foldl Context.push c).block.length < 64 := by
  induction bytes generalizing c with
  | nil => exact room
  | cons byte rest ih =>
    refine ih _ ?_
    unfold Context.push
    dsimp only
    split
    · simp
    next unfilled =>
      rw [length_append, length_singleton] at unfilled ⊢
      show c.block.length + 1 < 64
      omega

theorem update_room : (Context.init.update bytes).block.length < 64 :=
  foldl_push_room _ bytes (Nat.zero_lt_succ 63)

theorem push_total (total : UInt64) (byte : UInt8) :
    ({ c with totalBytes := total } : Context).push byte
      = { c.push byte with totalBytes := total } := by
  unfold Context.push
  dsimp only
  split <;> rfl

theorem foldl_push_total (total : UInt64) (bytes : Bytes) :
    bytes.foldl Context.push { c with totalBytes := total }
      = { bytes.foldl Context.push c with totalBytes := total } := by
  induction bytes generalizing c with
  | nil => rfl
  | cons byte rest ih => rw [foldl_cons, push_total, ih, foldl_cons]

theorem foldl_push_totalBytes :
    (bytes.foldl Context.push c).totalBytes = c.totalBytes := by
  have same := foldl_push_total c c.totalBytes bytes
  have eta : ({ c with totalBytes := c.totalBytes } : Context) = c := rfl
  rw [eta] at same
  rw [same]

end

theorem update_append (first second : Bytes) :
    (c.update first).update second = c.update (first ++ second) := by
  unfold Context.update
  rw [foldl_append, foldl_push_total, foldl_push_total c, foldl_push_total c]
  simp only [length_append, UInt64.ofNat_add, foldl_push_total, ← UInt64.add_assoc]

theorem length_final : c.final.length = 32 := by
  simp [Context.final, State.store, storeWord]

@[simp] theorem length_bytes (input : Bytes) : (bytes input).length = 32 := length_final _

example : bytes (utf8 "abc") = [
    0xba, 0x78, 0x16, 0xbf, 0x8f, 0x01, 0xcf, 0xea, 0x41, 0x41, 0x40, 0xde, 0x5d, 0xae, 0x22, 0x23,
    0xb0, 0x03, 0x61, 0xa3, 0x96, 0x17, 0x7a, 0x9c, 0xb4, 0x10, 0xff, 0x61, 0xf2, 0x00, 0x15,
    0xad] := by
  decide +kernel

end Proc17.Native.Sha256
