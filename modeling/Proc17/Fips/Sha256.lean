import Proc17.Layout.Octets

/-!
# SHA-256 of FIPS 180-4

The function as the standard states it, over strings of bits, and the forms in which
programs compute it: strings of bytes, the schedule as a list with the newest word first,
the rounds as a fold along that list.
-/

namespace Proc17.Fips

open Layout List Nat

abbrev Word : Type := BitVec 32

abbrev Bits : Type := List Bool

/-! ## Functions (4.1.2) -/

def rotr (n : Nat) (x : Word) : Word := (x >>> n) ||| (x <<< (32 - n))

def shr (n : Nat) (x : Word) : Word := x >>> n

def ch (x y z : Word) : Word := (x &&& y) ^^^ (~~~x &&& z)

def maj (x y z : Word) : Word := (x &&& y) ^^^ (x &&& z) ^^^ (y &&& z)

def bigSigma0 (x : Word) : Word := rotr 2 x ^^^ rotr 13 x ^^^ rotr 22 x

def bigSigma1 (x : Word) : Word := rotr 6 x ^^^ rotr 11 x ^^^ rotr 25 x

def smallSigma0 (x : Word) : Word := rotr 7 x ^^^ rotr 18 x ^^^ shr 3 x

def smallSigma1 (x : Word) : Word := rotr 17 x ^^^ rotr 19 x ^^^ shr 10 x

/-! ## Constants (4.2.2, 5.3.3) -/

def primes : List Nat := [
  2, 3, 5, 7, 11, 13, 17, 19, 23, 29, 31, 37, 41, 43, 47, 53, 59, 61, 67, 71, 73, 79, 83, 89, 97,
  101, 103, 107, 109, 113, 127, 131, 137, 139, 149, 151, 157, 163, 167, 173, 179, 181, 191, 193,
  197, 199, 211, 223, 227, 229, 233, 239, 241, 251, 257, 263, 269, 271, 277, 281, 283, 293, 307,
  311]

def constants : List Word := [
  0x428a2f98, 0x71374491, 0xb5c0fbcf, 0xe9b5dba5, 0x3956c25b, 0x59f111f1, 0x923f82a4, 0xab1c5ed5,
  0xd807aa98, 0x12835b01, 0x243185be, 0x550c7dc3, 0x72be5d74, 0x80deb1fe, 0x9bdc06a7, 0xc19bf174,
  0xe49b69c1, 0xefbe4786, 0x0fc19dc6, 0x240ca1cc, 0x2de92c6f, 0x4a7484aa, 0x5cb0a9dc, 0x76f988da,
  0x983e5152, 0xa831c66d, 0xb00327c8, 0xbf597fc7, 0xc6e00bf3, 0xd5a79147, 0x06ca6351, 0x14292967,
  0x27b70a85, 0x2e1b2138, 0x4d2c6dfc, 0x53380d13, 0x650a7354, 0x766a0abb, 0x81c2c92e, 0x92722c85,
  0xa2bfe8a1, 0xa81a664b, 0xc24b8b70, 0xc76c51a3, 0xd192e819, 0xd6990624, 0xf40e3585, 0x106aa070,
  0x19a4c116, 0x1e376c08, 0x2748774c, 0x34b0bcb5, 0x391c0cb3, 0x4ed8aa4a, 0x5b9cca4f, 0x682e6ff3,
  0x748f82ee, 0x78a5636f, 0x84c87814, 0x8cc70208, 0x90befffa, 0xa4506ceb, 0xbef9a3f7, 0xc67178f2]

def k (t : Nat) : Word := constants.getD t 0

structure Hash where
  a : Word
  b : Word
  c : Word
  d : Word
  e : Word
  f : Word
  g : Word
  h : Word

def initial : Hash :=
  ⟨0x6a09e667, 0xbb67ae85, 0x3c6ef372, 0xa54ff53a, 0x510e527f, 0x9b05688c, 0x1f83d9ab,
    0x5be0cd19⟩

/-! ## Preprocessing (5.1.1, 5.2.1) -/

/-- The last `width` bits of a number, the highest first. -/
def binary : Nat → Nat → Bits
  | 0, _ => []
  | width + 1, n => n.testBit width :: binary width n

def value (bits : Bits) : Nat := bits.foldl (fun n bit => 2 * n + bit.toNat) 0

/-- The zero bits of the padding of a message of `l` bits. -/
def zeroBits (l : Nat) : Nat := (959 - l % 512) % 512

def pad (message : Bits) : Bits :=
  message ++ [true] ++ List.replicate (zeroBits message.length) false
    ++ binary 64 message.length

/-- The `i`-th block of 512 bits. -/
def block (message : Bits) (i : Nat) : Bits := (message.drop (512 * i)).take 512

/-- The `j`-th word of a block. -/
def word (block : Bits) (j : Nat) : Word :=
  BitVec.ofNat 32 (value ((block.drop (32 * j)).take 32))

/-! ## Hash computation (6.2.2) -/

def schedule (m : Nat → Word) (t : Nat) : Word :=
  if t < 16 then m t
  else smallSigma1 (schedule m (t - 2)) + schedule m (t - 7) + smallSigma0 (schedule m (t - 15))
    + schedule m (t - 16)

def step (s : Hash) (k w : Word) : Hash :=
  let t1 := s.h + bigSigma1 s.e + ch s.e s.f s.g + k + w
  let t2 := bigSigma0 s.a + maj s.a s.b s.c
  ⟨t1 + t2, s.a, s.b, s.c, s.d + t1, s.e, s.f, s.g⟩

def Hash.add (s t : Hash) : Hash :=
  ⟨s.a + t.a, s.b + t.b, s.c + t.c, s.d + t.d, s.e + t.e, s.f + t.f, s.g + t.g, s.h + t.h⟩

def compress (hash : Hash) (m : Nat → Word) : Hash :=
  ((List.range 64).foldl (fun s t => step s (k t) (schedule m t)) hash).add hash

def Hash.words (hash : Hash) : List Word :=
  [hash.a, hash.b, hash.c, hash.d, hash.e, hash.f, hash.g, hash.h]

def sha256 (message : Bits) : Bits :=
  let padded := pad message
  let hash := (List.range (padded.length / 512)).foldl
    (fun hash i => compress hash (word (block padded i))) initial
  hash.words.flatMap fun w => binary 32 w.toNat

/-! ## The tables -/

/-- `root` is the whole part of the cube root of `p`, scaled by `2 ^ 32`. -/
def CubeRoot (p root : Nat) : Prop := root ^ 3 ≤ p * 2 ^ 96 ∧ p * 2 ^ 96 < (root + 1) ^ 3

instance (p root : Nat) : Decidable (CubeRoot p root) := inferInstanceAs (Decidable (_ ∧ _))

theorem constants_cubeRoots : ∀ t < 64, ∃ whole < 7,
    CubeRoot (primes.getD t 0) (whole * 2 ^ 32 + (k t).toNat) := by
  decide +kernel

/-! ## Numbers and bits -/

@[simp] theorem length_binary (width n : Nat) : (binary width n).length = width := by
  induction width with
  | zero => rfl
  | succ width ih => simp [binary, ih]

theorem binary_append (high low n : Nat) :
    binary (high + low) n = binary high (n / 2 ^ low) ++ binary low n := by
  induction high with
  | zero => simp [binary]
  | succ high ih =>
    have split : high + 1 + low = high + low + 1 := by omega
    rw [split, binary, binary, ih, testBit_div_two_pow, add_comm high low]
    rfl

theorem binary_mod (width bound n : Nat) (within : width ≤ bound) :
    binary width (n % 2 ^ bound) = binary width n := by
  induction width with
  | zero => rfl
  | succ width ih =>
    rw [binary, binary, ih (by omega), testBit_mod_two_pow]
    simp [show width < bound by omega]

theorem foldl_binary (width n : Nat) : ∀ start : Nat,
    (binary width n).foldl (fun n bit => 2 * n + bit.toNat) start
      = start * 2 ^ width + n % 2 ^ width := by
  induction width with
  | zero =>
    intro start
    simp [binary, mod_one]
  | succ width ih =>
    intro start
    have bit : n % 2 ^ (width + 1) = (n.testBit width).toNat * 2 ^ width + n % 2 ^ width := by
      rw [toNat_testBit, mod_pow_succ, mul_comm, add_comm]
    rw [binary, foldl_cons, ih, bit, add_mul, pow_succ, ← add_assoc]
    congr 2
    rw [mul_comm 2 start, mul_assoc, mul_comm 2]

/-! ## Strings of bytes -/

def ofBytes (bytes : List UInt8) : Bits := bytes.flatMap fun b => binary 8 b.toNat

@[simp] theorem ofBytes_nil : ofBytes [] = [] := rfl

theorem ofBytes_cons (b : UInt8) (rest : List UInt8) :
    ofBytes (b :: rest) = binary 8 b.toNat ++ ofBytes rest := rfl

@[simp] theorem ofBytes_append (left right : List UInt8) :
    ofBytes (left ++ right) = ofBytes left ++ ofBytes right := by
  simp [ofBytes]

variable (bytes : List UInt8)

@[simp] theorem length_ofBytes : (ofBytes bytes).length = 8 * bytes.length := by
  induction bytes with
  | nil => rfl
  | cons b rest ih =>
    rw [ofBytes_cons, length_append, length_binary, ih, length_cons]
    omega

variable (n : Nat)

theorem drop_ofBytes :
    (ofBytes bytes).drop (8 * n) = ofBytes (bytes.drop n) := by
  induction n generalizing bytes with
  | zero => rfl
  | succ n ih =>
    cases bytes with
    | nil => simp
    | cons b rest =>
      have step : 8 * (n + 1) = (binary 8 b.toNat).length + 8 * n := by
        rw [length_binary]
        omega
      rw [ofBytes_cons, step, ← drop_drop, drop_left, ih, drop_succ_cons]

theorem take_ofBytes :
    (ofBytes bytes).take (8 * n) = ofBytes (bytes.take n) := by
  induction n generalizing bytes with
  | zero => rfl
  | succ n ih =>
    cases bytes with
    | nil => simp
    | cons b rest =>
      have step : 8 * (n + 1) = (binary 8 b.toNat).length + 8 * n := by
        rw [length_binary]
        omega
      have first : (binary 8 b.toNat).take ((binary 8 b.toNat).length + 8 * n)
          = binary 8 b.toNat := take_of_length_le (le_add_right _ _)
      rw [ofBytes_cons, step, take_append, first, Nat.add_sub_cancel_left, ih,
        take_succ_cons, ofBytes_cons]

theorem ofBytes_bigEndian (n value : Nat) :
    ofBytes (bigEndian n value) = binary (8 * n) value := by
  induction n with
  | zero => rfl
  | succ n ih =>
    have power : 256 ^ n = 2 ^ (8 * n) := by rw [Nat.pow_mul]
    rw [bigEndian, ofBytes_cons, ih, mul_succ, add_comm (8 * n), binary_append, power]
    congr 1
    simpa using binary_mod 8 8 (value / 2 ^ (8 * n)) (le_refl 8)

theorem foldl_ofBytes : ∀ start : Nat,
    (ofBytes bytes).foldl (fun n bit => 2 * n + bit.toNat) start
      = bytes.foldl (fun n b => n * 256 + b.toNat) start := by
  induction bytes with
  | nil => exact fun _ => rfl
  | cons b rest ih =>
    intro start
    have small : b.toNat % 2 ^ 8 = b.toNat := mod_eq_of_lt b.toNat_lt
    rw [ofBytes_cons, foldl_append, foldl_binary, small, ih]
    rfl

theorem value_ofBytes : value (ofBytes bytes) = fromBigEndian bytes :=
  foldl_ofBytes bytes 0

def padBytes (bytes : List UInt8) : List UInt8 :=
  bytes ++ [128] ++ List.replicate ((119 - bytes.length % 64) % 64) 0
    ++ bigEndian 8 (8 * bytes.length)

theorem ofBytes_zeros : ofBytes (List.replicate n 0) = List.replicate (8 * n) false := by
  induction n with
  | zero => rfl
  | succ n ih =>
    have zero : binary 8 (0 : UInt8).toNat = List.replicate 8 false := by decide
    rw [replicate_succ, ofBytes_cons, ih, zero, replicate_append_replicate]
    congr 1
    omega

theorem pad_ofBytes : pad (ofBytes bytes) = ofBytes (padBytes bytes) := by
  have mark : binary 8 (128 : UInt8).toNat = true :: List.replicate 7 false := by decide
  have zeros : zeroBits (8 * bytes.length) = 7 + 8 * ((119 - bytes.length % 64) % 64) := by
    unfold zeroBits
    omega
  simp only [pad, padBytes, ofBytes_append, ofBytes_bigEndian, ofBytes_zeros, ofBytes_cons,
    ofBytes_nil, mark, length_ofBytes, zeros, append_nil]
  rw [← replicate_append_replicate]
  simp

def byteWords (block : List UInt8) (j : Nat) : Word :=
  BitVec.ofNat 32 (fromBigEndian ((block.drop (4 * j)).take 4))

theorem word_block_ofBytes (i : Nat) :
    word (block (ofBytes bytes) i) = byteWords ((bytes.drop (64 * i)).take 64) := by
  funext j
  have start : 512 * i = 8 * (64 * i) := by omega
  have place : 32 * j = 8 * (4 * j) := by omega
  have long (bytes : List UInt8) : (ofBytes bytes).take 512 = ofBytes (bytes.take 64) :=
    take_ofBytes bytes 64
  have short (bytes : List UInt8) : (ofBytes bytes).take 32 = ofBytes (bytes.take 4) :=
    take_ofBytes bytes 4
  rw [word, byteWords, block, start, drop_ofBytes, long, place, drop_ofBytes, short, value_ofBytes]

/-- The first `n` blocks of a byte string. -/
def blocks (n : Nat) (bytes : List UInt8) (hash : Hash) : Hash :=
  (List.range n).foldl
    (fun hash i => compress hash (byteWords ((bytes.drop (64 * i)).take 64))) hash

theorem foldl_blocks (bytes : List UInt8) (hash : Hash) :
    (List.range n).foldl (fun hash i => compress hash (word (block (ofBytes bytes) i))) hash
      = blocks n bytes hash := by
  simp only [word_block_ofBytes, blocks]

theorem blocks_succ (bytes : List UInt8) (hash : Hash) :
    blocks (n + 1) bytes hash
      = blocks n (bytes.drop 64) (compress hash (byteWords (bytes.take 64))) := by
  have next (i : Nat) : (bytes.drop 64).drop (64 * i) = bytes.drop (64 * (i + 1)) := by
    rw [drop_drop]
    congr 1
    omega
  rw [blocks, range_succ_eq_map, foldl_cons, foldl_map]
  simp only [blocks, next, succ_eq_add_one, mul_zero, drop_zero]

theorem blocks_add (n m : Nat) (bytes : List UInt8) (hash : Hash) :
    blocks (n + m) bytes hash = blocks m (bytes.drop (64 * n)) (blocks n bytes hash) := by
  induction n generalizing bytes hash with
  | zero => simp [blocks]
  | succ n ih =>
    have later : bytes.drop (64 * (n + 1)) = (bytes.drop 64).drop (64 * n) := by
      rw [drop_drop]
      congr 1
      omega
    have order : n + 1 + m = n + m + 1 := by omega
    rw [order, blocks_succ (n + m), later, blocks_succ n]
    exact ih (bytes.drop 64) (compress hash (byteWords (bytes.take 64)))

/-- What follows the first `n` blocks does not matter to them. -/
theorem blocks_append (bytes more : List UInt8) (hash : Hash) (whole : 64 * n ≤ bytes.length) :
    blocks n (bytes ++ more) hash = blocks n bytes hash := by
  induction n generalizing bytes hash with
  | zero => simp [blocks]
  | succ n ih =>
    have first : 64 ≤ bytes.length := by omega
    rw [blocks_succ, blocks_succ, take_append_of_le_length first, drop_append_of_le_length first]
    exact ih _ _ (by rw [length_drop]; omega)

theorem sha256_ofBytes : sha256 (ofBytes bytes)
    = (blocks ((padBytes bytes).length / 64) (padBytes bytes) initial).words.flatMap
      fun w => binary 32 w.toNat := by
  have count : (ofBytes (padBytes bytes)).length / 512 = (padBytes bytes).length / 64 := by
    rw [length_ofBytes]
    omega
  rw [sha256, pad_ofBytes, foldl_blocks, count]

/-! ## The schedule and the rounds along lists -/

/-- The first `n` words of the schedule, the newest first. -/
def recent (m : Nat → Word) (n : Nat) : List Word := ((List.range n).map (schedule m)).reverse

def extend (words : List Word) : List Word :=
  (smallSigma1 (words.getD 1 0) + words.getD 6 0 + smallSigma0 (words.getD 14 0)
    + words.getD 15 0) :: words

def extendBy : Nat → List Word → List Word
  | 0, words => words
  | n + 1, words => extendBy n (extend words)

variable (m : Nat → Word)

theorem recent_succ (n : Nat) :
    recent m (n + 1) = schedule m n :: recent m n := by
  simp [recent, range_succ]

theorem recent_getD {n i : Nat} (within : i < n) :
    (recent m n).getD i 0 = schedule m (n - 1 - i) := by
  rw [recent, getD_eq_getElem?_getD, List.getElem?_reverse (by simpa using within)]
  simp only [length_map, length_range]
  rw [List.getElem?_map, List.getElem?_range (by omega)]
  rfl

theorem extend_recent {n : Nat} (enough : 16 ≤ n) :
    extend (recent m n) = recent m (n + 1) := by
  have older : ¬ n < 16 := not_lt.mpr enough
  rw [recent_succ, schedule, if_neg older, extend, recent_getD m (by omega), recent_getD m (by omega),
    recent_getD m (by omega), recent_getD m (by omega)]
  simp only [Nat.sub_sub]

theorem extendBy_recent (further : Nat) {n : Nat} (enough : 16 ≤ n) :
    extendBy further (recent m n) = recent m (n + further) := by
  induction further generalizing n with
  | zero => rfl
  | succ further ih =>
    rw [extendBy, extend_recent m enough, ih (by omega)]
    congr 1
    omega

theorem rounds_zip (s : Hash) :
    (List.range 64).foldl (fun s t => step s (k t) (schedule m t)) s
      = (constants.zip (recent m 64).reverse).foldl (fun s pair => step s pair.1 pair.2) s := by
  have table : constants = (List.range 64).map k := by decide
  rw [recent, reverse_reverse, table, zip_map', foldl_map]

/-! ## Words as other numbers -/

theorem load_eq {β : Type} (load : List UInt8 → List β) (of : Word → β) (none : load [] = [])
    (four : ∀ a b c d rest, load (a :: b :: c :: d :: rest)
      = of (BitVec.ofNat 32 (fromBigEndian [a, b, c, d])) :: load rest)
    (n : Nat) {block : List UInt8} (whole : block.length = 4 * n) :
    load block = ((List.range n).map (byteWords block)).map of := by
  induction n generalizing block with
  | zero =>
    rw [length_eq_zero_iff.mp whole, none]
    rfl
  | succ n ih =>
    obtain ⟨a, b, c, d, rest, rfl⟩ : ∃ a b c d rest, block = a :: b :: c :: d :: rest := by
      match block, whole with
      | a :: b :: c :: d :: rest, _ => exact ⟨a, b, c, d, rest, rfl⟩
    have later (j : Nat) : byteWords (a :: b :: c :: d :: rest) (j + 1) = byteWords rest j := by
      have place : 4 * (j + 1) = 4 * j + 4 := by omega
      rw [byteWords, byteWords, place]
      rfl
    have words : (List.range (n + 1)).map (byteWords (a :: b :: c :: d :: rest))
        = BitVec.ofNat 32 (fromBigEndian [a, b, c, d]) :: (List.range n).map (byteWords rest) := by
      rw [range_succ_eq_map, map_cons, map_map]
      exact congrArg _ (map_congr_left fun j _ => later j)
    rw [four, ih (by simp only [length_cons] at whole; omega), words, map_cons]

theorem toNat_word (a b c d : UInt8) : (BitVec.ofNat 32 (fromBigEndian [a, b, c, d])).toNat
    = ((a.toNat * 256 + b.toNat) * 256 + c.toNat) * 256 + d.toNat := by
  have ha := a.toNat_lt
  have hb := b.toNat_lt
  have hc := c.toNat_lt
  have hd := d.toNat_lt
  simp only [fromBigEndian, foldl_cons, foldl_nil, BitVec.toNat_ofNat]
  omega

theorem load_recent {β : Type} {words : List β} {of : Word → β} {block : List UInt8}
    (loaded : words = ((List.range 16).map (byteWords block)).map of) :
    words.reverse = (recent (byteWords block) 16).map of := by
  rw [loaded, ← map_reverse, recent]
  congr 2
  refine map_congr_left fun t within => ?_
  rw [schedule, if_pos (mem_range.mp within)]

structure Numerals {R : Type} [XorOp R] [AndOp R] [HShiftRight R Nat R] (of : Word → R)
    (not : R → R) (rotate : R → Nat → R) (plus : R → R → R) : Prop where
  xor (x y : Word) : of x ^^^ of y = of (x ^^^ y)
  and (x y : Word) : of x &&& of y = of (x &&& y)
  not_and (x y : Word) : not (of x) &&& of y = of (~~~x &&& y)
  shift (x : Word) (n : Nat) : of x >>> n = of (x >>> n)
  rotate (x : Word) {n : Nat} (small : n < 32) : rotate (of x) n = of (rotr n x)
  plus (x y : Word) : plus (of x) (of y) = of (x + y)

namespace Numerals

variable {R : Type} [XorOp R] [AndOp R] [HShiftRight R Nat R] {of : Word → R} {not : R → R}
  {rotate : R → Nat → R} {plus : R → R → R} (numerals : Numerals of not rotate plus)

include numerals

theorem sum (words : List Word) (start : Word) : (words.map of).foldl plus (of start)
    = of (words.foldl (fun value one => value + one) start) := by
  induction words generalizing start with
  | nil => rfl
  | cons word rest ih => rw [map_cons, foldl_cons, numerals.plus, ih, foldl_cons]

theorem two (x y : Word) : [of x, of y].foldl plus (of 0) = of (x + y) := by
  have sum := numerals.sum [x, y] 0
  simpa using sum

theorem four (x y z u : Word) :
    [of x, of y, of z, of u].foldl plus (of 0) = of (x + y + z + u) := by
  have sum := numerals.sum [x, y, z, u] 0
  simpa using sum

theorem five (x y z u v : Word) :
    [of x, of y, of z, of u, of v].foldl plus (of 0) = of (x + y + z + u + v) := by
  have sum := numerals.sum [x, y, z, u, v] 0
  simpa using sum

theorem next (w15 w2 w16 w7 : Word) : [of w16,
    rotate (of w15) 7 ^^^ rotate (of w15) 18 ^^^ (of w15 >>> 3), of w7,
    rotate (of w2) 17 ^^^ rotate (of w2) 19 ^^^ (of w2 >>> 10)].foldl plus (of 0)
      = of (smallSigma1 w2 + w7 + smallSigma0 w15 + w16) := by
  rw [numerals.rotate _ (by decide), numerals.rotate _ (by decide), numerals.rotate _ (by decide),
    numerals.rotate _ (by decide), numerals.shift, numerals.shift, numerals.xor, numerals.xor,
    numerals.xor, numerals.xor, numerals.four]
  congr 1
  simp only [smallSigma0, smallSigma1, shr]
  ac_rfl

theorem sum1 (e : Word) : rotate (of e) 6 ^^^ rotate (of e) 11 ^^^ rotate (of e) 25
    = of (bigSigma1 e) := by
  rw [numerals.rotate _ (by decide), numerals.rotate _ (by decide), numerals.rotate _ (by decide),
    numerals.xor, numerals.xor, bigSigma1]

theorem sum0 (a : Word) : rotate (of a) 2 ^^^ rotate (of a) 13 ^^^ rotate (of a) 22
    = of (bigSigma0 a) := by
  rw [numerals.rotate _ (by decide), numerals.rotate _ (by decide), numerals.rotate _ (by decide),
    numerals.xor, numerals.xor, bigSigma0]

theorem choose (e f g : Word) : (of e &&& of f) ^^^ (not (of e) &&& of g) = of (ch e f g) := by
  rw [numerals.not_and, numerals.and, numerals.xor, ch]

theorem majority (a b c : Word) : (of a &&& of b) ^^^ (of a &&& of c) ^^^ (of b &&& of c)
    = of (maj a b c) := by
  rw [numerals.and, numerals.and, numerals.and, numerals.xor, numerals.xor, maj]

end Numerals

end Proc17.Fips
