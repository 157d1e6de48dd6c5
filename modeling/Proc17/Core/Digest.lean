import Proc17.Core.Json

/-!
# Digests

`core/digest.lua`: SHA-256 over a byte string and over the JSON text of a record.  The
words are natural numbers below `2 ^ 32`, as the mask keeps them in the source.
-/

namespace Proc17.Core.Digest

open Lua

def mask : Nat := 0xffffffff

/-- `K` -/
def constants : List Nat := [
  0x428a2f98, 0x71374491, 0xb5c0fbcf, 0xe9b5dba5,
  0x3956c25b, 0x59f111f1, 0x923f82a4, 0xab1c5ed5,
  0xd807aa98, 0x12835b01, 0x243185be, 0x550c7dc3,
  0x72be5d74, 0x80deb1fe, 0x9bdc06a7, 0xc19bf174,
  0xe49b69c1, 0xefbe4786, 0x0fc19dc6, 0x240ca1cc,
  0x2de92c6f, 0x4a7484aa, 0x5cb0a9dc, 0x76f988da,
  0x983e5152, 0xa831c66d, 0xb00327c8, 0xbf597fc7,
  0xc6e00bf3, 0xd5a79147, 0x06ca6351, 0x14292967,
  0x27b70a85, 0x2e1b2138, 0x4d2c6dfc, 0x53380d13,
  0x650a7354, 0x766a0abb, 0x81c2c92e, 0x92722c85,
  0xa2bfe8a1, 0xa81a664b, 0xc24b8b70, 0xc76c51a3,
  0xd192e819, 0xd6990624, 0xf40e3585, 0x106aa070,
  0x19a4c116, 0x1e376c08, 0x2748774c, 0x34b0bcb5,
  0x391c0cb3, 0x4ed8aa4a, 0x5b9cca4f, 0x682e6ff3,
  0x748f82ee, 0x78a5636f, 0x84c87814, 0x8cc70208,
  0x90befffa, 0xa4506ceb, 0xbef9a3f7, 0xc67178f2]

def rotr (value amount : Nat) : Nat :=
  ((value.shiftRight amount).lor (value.shiftLeft (Nat.sub 32 amount))).land mask

/-- One pass of the loop in `add`. -/
def add (value one : Nat) : Nat := (value.add one).land mask

def add2 (a b : Nat) : Nat := add (add 0 a) b

def add4 (a b c d : Nat) : Nat := add (add (add2 a b) c) d

def add5 (a b c d e : Nat) : Nat := add (add4 a b c d) e

/-- A number in `n` bytes, the most significant first. -/
def bigEndian : Nat → Nat → Bytes
  | 0, _ => []
  | n + 1, value => (value / 256 ^ n % 256).toUInt8 :: bigEndian n value

/-- The text, a one bit, zeros up to eight bytes before a block's end, and the length. -/
def pad (text : Bytes) : Bytes :=
  text ++ [128] ++ List.replicate ((56 + 64 - (text.length + 1) % 64) % 64) 0
    ++ bigEndian 8 (text.length * 8)

/-- `string.unpack(">I4", ...)` over a block. -/
def wordsOf : Bytes → List Nat
  | a :: b :: c :: d :: rest =>
    (((a.toNat * 256 + b.toNat) * 256 + c.toNat) * 256 + d.toNat) :: wordsOf rest
  | _ => []

def extend (words : List Nat) : List Nat :=
  let from2 := words.drop 1
  let from7 := from2.drop 5
  let from15 := from7.drop 8
  let w15 := from15.headD 0
  let w2 := from2.headD 0
  let s0 := ((rotr w15 7).xor (rotr w15 18)).xor (w15 >>> 3)
  let s1 := ((rotr w2 17).xor (rotr w2 19)).xor (w2 >>> 10)
  add4 (from15.tail.headD 0) s0 (from7.headD 0) s1 :: words

def extendBy : Nat → List Nat → List Nat
  | 0, words => words
  | n + 1, words => extendBy n (extend words)

def schedule (block : Bytes) : List Nat := (extendBy 48 (wordsOf block).reverse).reverse

structure Hash where
  a : Nat
  b : Nat
  c : Nat
  d : Nat
  e : Nat
  f : Nat
  g : Nat
  h : Nat

def initial : Hash :=
  ⟨0x6a09e667, 0xbb67ae85, 0x3c6ef372, 0xa54ff53a, 0x510e527f, 0x9b05688c, 0x1f83d9ab,
    0x5be0cd19⟩

def round (s : Hash) (k w : Nat) : Hash :=
  let sum1 := ((rotr s.e 6).xor (rotr s.e 11)).xor (rotr s.e 25)
  let choose := (s.e.land s.f).xor ((s.e.xor mask).land s.g)
  let temp1 := add5 s.h sum1 choose k w
  let sum0 := ((rotr s.a 2).xor (rotr s.a 13)).xor (rotr s.a 22)
  let majority := ((s.a.land s.b).xor (s.a.land s.c)).xor (s.b.land s.c)
  let temp2 := add2 sum0 majority
  ⟨add2 temp1 temp2, s.a, s.b, s.c, add2 s.d temp1, s.e, s.f, s.g⟩

def rounds : List Nat → List Nat → Hash → Hash
  | k :: ks, w :: ws, s => rounds ks ws (round s k w)
  | _, _, s => s

def compress (s : Hash) (block : Bytes) : Hash :=
  let t := rounds constants (schedule block) s
  ⟨add2 s.a t.a, add2 s.b t.b, add2 s.c t.c, add2 s.d t.d,
    add2 s.e t.e, add2 s.f t.f, add2 s.g t.g, add2 s.h t.h⟩

def blocks : Nat → Bytes → Hash → Hash
  | 0, _, s => s
  | n + 1, message, s => blocks n (message.drop 64) (compress s (message.take 64))

def hexWord (word : Nat) : Bytes :=
  (bigEndian 4 word).flatMap fun b => [Json.hexDigit (b.toNat / 16), Json.hexDigit (b.toNat % 16)]

def sha256 (text : Bytes) : Bytes :=
  let message := pad text
  let s := blocks (message.length / 64) message initial
  [s.a, s.b, s.c, s.d, s.e, s.f, s.g, s.h].flatMap hexWord

def record (value : Value) : Except Failure Bytes :=
  match Json.encode value with
  | .ok text => .ok (sha256 text)
  | .error (.raised err) =>
    .error (.refused (.str (utf8 "record encoding failed: " ++ err.tostring)))
  | .error failure => .error failure

def identify (label : String) (value : Value) : Except Failure Bytes := do
  let digest ← record value
  pure (utf8 label ++ digest)

theorem record_deepCopy (v : Value) : record v.deepCopy = record v := by
  simp only [record, Json.encode_deepCopy]

theorem identify_deepCopy (label : String) (v : Value) :
    identify label v.deepCopy = identify label v := by
  simp only [identify, record_deepCopy]

theorem encoded_of_record {v : Value} {hash : Bytes} (digest : record v = .ok hash) :
    ∃ text, Json.encode v = .ok text ∧ hash = sha256 text := by
  rw [record] at digest
  cases encoded : Json.encode v with
  | ok text =>
    rw [encoded] at digest
    cases digest
    exact ⟨text, rfl, rfl⟩
  | error failure =>
    rw [encoded] at digest
    cases failure <;> cases digest

theorem record_of_encodes {v : Value} (encodes : Json.Encodes v) : ∃ hash, record v = .ok hash := by
  obtain ⟨text, encoded⟩ := encodes
  exact ⟨sha256 text, by rw [record, encoded]⟩

end Proc17.Core.Digest
