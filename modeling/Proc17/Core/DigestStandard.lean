import Mathlib.Data.List.GetD
import Proc17.Core.Digest
import Proc17.Fips.Sha256

/-!
# The Lua digest is the standard's

`digest.sha256` of `core/digest.lua` over Lua's own integers, which have 64 bits and are masked
to 32 only where the source does so, against FIPS 180-4.
-/

namespace Proc17.Core.Digest.Integers

open Lua List

/-! ## The source -/

abbrev Integer : Type := BitVec 64

def mask : Integer := 0xffffffff

def constants : List Integer := Digest.constants.map (BitVec.ofNat 64)

def rotr (value : Integer) (amount : Nat) : Integer :=
  ((value >>> amount) ||| (value <<< (32 - amount))) &&& mask

def add (values : List Integer) : Integer :=
  values.foldl (fun value one => (value + one) &&& mask) 0

/-- `string.unpack(">I4", ...)` along a chunk. -/
def unpack : Bytes → List Integer
  | a :: b :: c :: d :: rest =>
    BitVec.ofNat 64 (((a.toNat * 256 + b.toNat) * 256 + c.toNat) * 256 + d.toNat) :: unpack rest
  | _ => []

/-- One further entry of `words`, kept newest first. -/
def extend (words : List Integer) : List Integer :=
  let s0 := rotr (words.getD 14 0) 7 ^^^ rotr (words.getD 14 0) 18 ^^^ (words.getD 14 0 >>> 3)
  let s1 := rotr (words.getD 1 0) 17 ^^^ rotr (words.getD 1 0) 19 ^^^ (words.getD 1 0 >>> 10)
  add [words.getD 15 0, s0, words.getD 6 0, s1] :: words

def extendBy : Nat → List Integer → List Integer
  | 0, words => words
  | n + 1, words => extendBy n (extend words)

structure Hash where
  h0 : Integer
  h1 : Integer
  h2 : Integer
  h3 : Integer
  h4 : Integer
  h5 : Integer
  h6 : Integer
  h7 : Integer

def initial : Hash :=
  ⟨0x6a09e667, 0xbb67ae85, 0x3c6ef372, 0xa54ff53a, 0x510e527f, 0x9b05688c, 0x1f83d9ab,
    0x5be0cd19⟩

def round (s : Hash) (k word : Integer) : Hash :=
  let sum1 := rotr s.h4 6 ^^^ rotr s.h4 11 ^^^ rotr s.h4 25
  let choose := (s.h4 &&& s.h5) ^^^ (~~~s.h4 &&& s.h6)
  let temp1 := add [s.h7, sum1, choose, k, word]
  let sum0 := rotr s.h0 2 ^^^ rotr s.h0 13 ^^^ rotr s.h0 22
  let majority := (s.h0 &&& s.h1) ^^^ (s.h0 &&& s.h2) ^^^ (s.h1 &&& s.h2)
  let temp2 := add [sum0, majority]
  ⟨add [temp1, temp2], s.h0, s.h1, s.h2, add [s.h3, temp1], s.h4, s.h5, s.h6⟩

def compress (s : Hash) (chunk : Bytes) : Hash :=
  let words := (extendBy 48 (unpack chunk).reverse).reverse
  let t := (constants.zip words).foldl (fun t pair => round t pair.1 pair.2) s
  ⟨add [s.h0, t.h0], add [s.h1, t.h1], add [s.h2, t.h2], add [s.h3, t.h3], add [s.h4, t.h4],
    add [s.h5, t.h5], add [s.h6, t.h6], add [s.h7, t.h7]⟩

def pack (n : Integer) : Bytes := bigEndian 8 n.toNat

def padLength (text : Bytes) : Nat := ((56 - ((text.length : Int) + 1) % 64) % 64).toNat

def message (text : Bytes) : Bytes :=
  text ++ [128] ++ List.replicate (padLength text) 0 ++ pack (BitVec.ofNat 64 text.length * 8)

def chunks (n : Nat) (message : Bytes) (s : Hash) : Hash :=
  (List.range n).foldl (fun s i => compress s ((message.drop (64 * i)).take 64)) s

/-- The hexadecimal digits of a number, at most `fuel` of them. -/
def hexDigits : Nat → Nat → Bytes
  | 0, _ => []
  | fuel + 1, n =>
    if n < 16 then [Json.hexDigit n] else hexDigits fuel (n / 16) ++ [Json.hexDigit (n % 16)]

def format08x (n : Integer) : Bytes :=
  List.replicate (8 - (hexDigits 16 n.toNat).length) (Json.hexDigit 0) ++ hexDigits 16 n.toNat

def sha256 (text : Bytes) : Bytes :=
  let message := message text
  let s := chunks (message.length / 64) message initial
  [s.h0, s.h1, s.h2, s.h3, s.h4, s.h5, s.h6, s.h7].flatMap format08x

/-! ## Words in integers -/

def ofWord (x : Fips.Word) : Integer := x.setWidth 64

theorem mask_getLsbD (i : Nat) : mask.getLsbD i = decide (i < 32) := by
  have ones : mask = (BitVec.allOnes 32).setWidth 64 := by decide
  rw [ones, BitVec.getLsbD_setWidth, BitVec.getLsbD_allOnes]
  by_cases low : i < 32
  · simp [low, show i < 64 by omega]
  · simp [low]

section

variable (x : Fips.Word)

theorem ofWord_getLsbD (i : Nat) : (ofWord x).getLsbD i = x.getLsbD i := by
  rw [ofWord, BitVec.getLsbD_setWidth]
  by_cases inside : i < 64
  · simp [inside]
  · simp [inside, BitVec.getLsbD_of_ge x i (by omega)]

theorem ofWord_not_and (x y : Fips.Word) : ~~~(ofWord x) &&& ofWord y = ofWord (~~~x &&& y) := by
  apply BitVec.eq_of_getLsbD_eq
  intro i inside
  simp only [BitVec.getLsbD_and, BitVec.getLsbD_not, ofWord_getLsbD, inside, decide_true,
    Bool.true_and]
  by_cases low : i < 32
  · simp [low]
  · simp [BitVec.getLsbD_of_ge y i (by omega)]

theorem ofWord_shiftRight (n : Nat) : ofWord x >>> n = ofWord (x >>> n) := by
  apply BitVec.eq_of_getLsbD_eq
  intro i _
  rw [BitVec.getLsbD_ushiftRight, ofWord_getLsbD, ofWord_getLsbD, BitVec.getLsbD_ushiftRight]

theorem rotr_ofWord (n : Nat) (small : n < 32) :
    rotr (ofWord x) n = ofWord (Fips.rotr n x) := by
  apply BitVec.eq_of_getLsbD_eq
  intro i inside
  simp only [rotr, Fips.rotr, BitVec.getLsbD_and, BitVec.getLsbD_or, BitVec.getLsbD_ushiftRight,
    BitVec.getLsbD_shiftLeft, ofWord_getLsbD, mask_getLsbD, inside, decide_true, Bool.true_and]
  by_cases low : i < 32
  · simp [low]
  · have upper : x.getLsbD (n + i) = false := BitVec.getLsbD_of_ge x _ (by omega)
    simp [low, upper]

theorem ofWord_toNat : (ofWord x).toNat = x.toNat := by
  rw [ofWord, BitVec.toNat_setWidth]
  exact Nat.mod_eq_of_lt (Nat.lt_trans x.isLt (by decide))

theorem ofWord_add (x y : Fips.Word) : (ofWord x + ofWord y) &&& mask = ofWord (x + y) := by
  apply BitVec.eq_of_toNat_eq
  have whole : (x.toNat + y.toNat) % 2 ^ 64 = x.toNat + y.toNat :=
    Nat.mod_eq_of_lt (by have hx := x.isLt; have hy := y.isLt; omega)
  have ones : mask.toNat = 2 ^ 32 - 1 := by decide
  rw [BitVec.toNat_and, BitVec.toNat_add, ofWord_toNat, ofWord_toNat, whole, ones,
    Nat.and_two_pow_sub_one_eq_mod, ofWord_toNat, BitVec.toNat_add]

theorem numerals :
    Fips.Numerals ofWord (~~~·) rotr (fun value one => (value + one) &&& mask) where
  xor _ _ := BitVec.setWidth_xor.symm
  and _ _ := BitVec.setWidth_and.symm
  not_and := ofWord_not_and
  shift := ofWord_shiftRight
  rotate x n small := rotr_ofWord x n small
  plus := ofWord_add

theorem add_two (x y : Fips.Word) : add [ofWord x, ofWord y] = ofWord (x + y) :=
  numerals.two x y

theorem add_five (x y z u v : Fips.Word) :
    add [ofWord x, ofWord y, ofWord z, ofWord u, ofWord v] = ofWord (x + y + z + u + v) :=
  numerals.five x y z u v

/-! ## The schedule and the rounds -/

theorem getD_ofWord (words : List Fips.Word) (i : Nat) :
    (words.map ofWord).getD i 0 = ofWord (words.getD i 0) :=
  List.getD_map words 0 ofWord

theorem extend_ofWord (words : List Fips.Word) :
    extend (words.map ofWord) = (Fips.extend words).map ofWord := by
  have next (w15 w2 w16 w7 : Fips.Word) : add [ofWord w16,
      rotr (ofWord w15) 7 ^^^ rotr (ofWord w15) 18 ^^^ (ofWord w15 >>> 3), ofWord w7,
      rotr (ofWord w2) 17 ^^^ rotr (ofWord w2) 19 ^^^ (ofWord w2 >>> 10)]
      = ofWord (Fips.smallSigma1 w2 + w7 + Fips.smallSigma0 w15 + w16) :=
    numerals.next w15 w2 w16 w7
  simp only [extend, Fips.extend, List.map_cons, getD_ofWord, next]

theorem extendBy_ofWord (n : Nat) (words : List Fips.Word) :
    extendBy n (words.map ofWord) = (Fips.extendBy n words).map ofWord := by
  induction n generalizing words with
  | zero => rfl
  | succ n ih => rw [extendBy, extend_ofWord, ih, Fips.extendBy]

def ofHash (s : Fips.Hash) : Hash :=
  ⟨ofWord s.a, ofWord s.b, ofWord s.c, ofWord s.d, ofWord s.e, ofWord s.f, ofWord s.g, ofWord s.h⟩

theorem round_ofHash (s : Fips.Hash) (k w : Fips.Word) :
    round (ofHash s) (ofWord k) (ofWord w) = ofHash (Fips.step s k w) := by
  simp only [round, ofHash, numerals.sum1, numerals.sum0, numerals.choose, numerals.majority,
    add_two, add_five, Fips.step]

theorem rounds_ofHash (pairs : List (Fips.Word × Fips.Word)) (s : Fips.Hash) :
    (pairs.map (Prod.map ofWord ofWord)).foldl (fun t pair => round t pair.1 pair.2) (ofHash s)
      = ofHash (pairs.foldl (fun t pair => Fips.step t pair.1 pair.2) s) := by
  rw [foldl_map]
  exact foldl_hom ofHash fun t pair => round_ofHash t pair.1 pair.2

theorem constants_ofWord : constants = Fips.constants.map ofWord := by decide

theorem unpack_eq {chunk : Bytes} (whole : chunk.length = 64) :
    unpack chunk = ((List.range 16).map (Fips.byteWords chunk)).map ofWord := by
  refine Fips.load_eq unpack ofWord rfl (fun a b c d rest => ?_) 16 whole
  rw [unpack, ← Fips.toNat_word, BitVec.ofNat_toNat]
  rfl

theorem compress_ofHash (s : Fips.Hash) {chunk : Bytes} (whole : chunk.length = 64) :
    compress (ofHash s) chunk = ofHash (Fips.compress s (Fips.byteWords chunk)) := by
  have words : (extendBy 48 (unpack chunk).reverse).reverse
      = ((Fips.recent (Fips.byteWords chunk) 64).reverse).map ofWord := by
    rw [Fips.load_recent (unpack_eq whole), extendBy_ofWord,
      Fips.extendBy_recent _ 48 (Nat.le_refl 16), List.map_reverse]
  have rounds := rounds_ofHash
    (Fips.constants.zip (Fips.recent (Fips.byteWords chunk) 64).reverse) s
  rw [← zip_map, ← constants_ofWord, ← words, ← Fips.rounds_zip] at rounds
  simp only [compress, rounds]
  simp only [ofHash, add_two, Fips.compress, Fips.Hash.add, BitVec.add_comm]

theorem chunks_ofHash (n : Nat) (message : Bytes) (s : Fips.Hash) (long : 64 * n ≤ message.length) :
    chunks n message (ofHash s) = ofHash (Fips.blocks n message s) := by
  induction n with
  | zero => simp [chunks, Fips.blocks]
  | succ n ih =>
    have whole : ((message.drop (64 * n)).take 64).length = 64 := by
      rw [List.length_take, List.length_drop]
      omega
    have before := ih (by omega)
    unfold chunks at before ⊢
    unfold Fips.blocks at before ⊢
    rw [range_succ, foldl_append, foldl_append, before]
    exact compress_ofHash _ whole

/-! ## The message and the text -/

theorem bigEndian_eq (n value : Nat) : Digest.bigEndian n value = Layout.bigEndian n value := by
  induction n with
  | zero => rfl
  | succ n ih =>
    rw [Digest.bigEndian, Layout.bigEndian, ih]
    congr 1
    apply UInt8.toNat.inj
    simp

theorem message_eq {text : Bytes} (small : text.length < 2 ^ 61) :
    message text = Fips.padBytes text := by
  have gap : padLength text = (119 - text.length % 64) % 64 := by
    unfold padLength
    omega
  have bits : (BitVec.ofNat 64 text.length * 8).toNat = 8 * text.length := by
    rw [BitVec.toNat_mul, BitVec.toNat_ofNat]
    show text.length % 2 ^ 64 * 8 % 2 ^ 64 = _
    omega
  rw [message, Fips.padBytes, gap, pack, bits, bigEndian_eq]

/-- The lowest `n` hexadecimal digits of a number. -/
def lowDigits : Nat → Nat → Bytes
  | 0, _ => []
  | n + 1, value => lowDigits n (value / 16) ++ [Json.hexDigit (value % 16)]

theorem lowDigits_zero (n : Nat) : lowDigits n 0 = List.replicate n (Json.hexDigit 0) := by
  induction n with
  | zero => rfl
  | succ n ih => rw [lowDigits, Nat.zero_div, ih, ← replicate_succ']

theorem padded_hexDigits (n : Nat) : ∀ (fuel value : Nat), value < 16 ^ n → n ≤ fuel → 0 < n →
    List.replicate (n - (hexDigits fuel value).length) (Json.hexDigit 0) ++ hexDigits fuel value
      = lowDigits n value := by
  induction n with
  | zero => exact fun _ _ _ _ positive => absurd positive (Nat.lt_irrefl 0)
  | succ n ih =>
    intro fuel value small enough _
    obtain ⟨fuel, rfl⟩ : ∃ less, fuel = less + 1 := ⟨fuel - 1, by omega⟩
    by_cases digit : value < 16
    · have high : value / 16 = 0 := Nat.div_eq_of_lt digit
      have low : value % 16 = value := Nat.mod_eq_of_lt digit
      rw [hexDigits, if_pos digit, lowDigits, high, low, lowDigits_zero]
      rfl
    · have further : 0 < n := by
        by_contra none
        have zero : n = 0 := by omega
        rw [zero] at small
        omega
      have shorter : value / 16 < 16 ^ n := by
        rw [Nat.pow_succ] at small
        exact Nat.div_lt_of_lt_mul (by rw [Nat.mul_comm]; exact small)
      have rest := ih fuel (value / 16) shorter (by omega) further
      rw [hexDigits, if_neg digit, lowDigits, ← rest, ← append_assoc]
      simp only [length_append, length_singleton, Nat.add_sub_add_right]

theorem hexWord_eq (word : Nat) : hexWord word = lowDigits 8 word := by
  have digit {n m : Nat} {rest rest' : Bytes} (same : n = m) (later : rest = rest') :
      Json.hexDigit n :: rest = Json.hexDigit m :: rest' := by rw [same, later]
  have byte (n : Nat) : (n % 256).toUInt8.toNat = n % 256 := by simp
  simp only [hexWord, Digest.bigEndian, List.flatMap_cons, List.flatMap_nil, lowDigits, nil_append,
    cons_append, append_nil, byte, Nat.div_div_eq_div_mul, Nat.reducePow, Nat.reduceMul]
  refine digit (by omega) (digit (by omega) (digit (by omega) (digit (by omega) ?_)))
  exact digit (by omega) (digit (by omega) (digit (by omega) (digit (by omega) rfl)))

theorem format08x_ofWord : format08x (ofWord x) = hexWord x.toNat := by
  rw [format08x, ofWord_toNat, hexWord_eq]
  exact padded_hexDigits 8 16 x.toNat x.isLt (by decide) (by decide)

end

/-- `digest.sha256` prints the standard's digest. -/
theorem sha256_standard {text : Bytes} (small : text.length < 2 ^ 61) : sha256 text
    = (Fips.blocks ((Fips.padBytes text).length / 64) (Fips.padBytes text)
      Fips.initial).words.flatMap fun w => hexWord w.toNat := by
  have long : 64 * ((Fips.padBytes text).length / 64) ≤ (Fips.padBytes text).length :=
    Nat.mul_div_le _ _
  have run := chunks_ofHash _ _ Fips.initial long
  have start : initial = ofHash Fips.initial := by
    simp only [initial, ofHash, Fips.initial, Hash.mk.injEq]
    decide
  rw [sha256, message_eq small, start, run]
  simp only [ofHash, Fips.Hash.words, List.flatMap_cons, List.flatMap_nil, format08x_ofWord]

end Proc17.Core.Digest.Integers

/-! ## The model with natural numbers -/

namespace Proc17.Core.Digest

open Lua

theorem testBit_mask (i : Nat) : mask.testBit i = decide (i < 32) := by
  have ones : mask = 2 ^ 32 - 1 := rfl
  rw [ones, Nat.testBit_two_pow_sub_one]

theorem rotr_toNat (x : Fips.Word) (n : Nat) : rotr x.toNat n = (Fips.rotr n x).toNat := by
  apply Nat.eq_of_testBit_eq
  intro i
  change ((x.toNat >>> n ||| x.toNat <<< (32 - n)) &&& mask).testBit i = _
  simp only [Fips.rotr, Nat.testBit_and, Nat.testBit_or, Nat.testBit_shiftRight,
    Nat.testBit_shiftLeft, BitVec.testBit_toNat, testBit_mask, BitVec.getLsbD_or,
    BitVec.getLsbD_ushiftRight, BitVec.getLsbD_shiftLeft]
  by_cases low : i < 32
  · by_cases shifted : i < 32 - n
    · have inside : ¬ 32 - n ≤ i := Nat.not_le.mpr shifted
      simp [low, shifted, inside]
    · simp [low, shifted, Nat.not_lt.mp shifted]
  · have upper : x.getLsbD (n + i) = false := BitVec.getLsbD_of_ge x _ (by omega)
    simp [low, upper]

theorem not_and_toNat (x y : Fips.Word) :
    (x.toNat ^^^ mask) &&& y.toNat = (~~~x &&& y).toNat := by
  apply Nat.eq_of_testBit_eq
  intro i
  simp only [Nat.testBit_and, Nat.testBit_xor, BitVec.testBit_toNat, testBit_mask,
    BitVec.getLsbD_and, BitVec.getLsbD_not]
  by_cases low : i < 32
  · simp [low]
  · simp [BitVec.getLsbD_of_ge y i (by omega)]

theorem plus_toNat (x y : Fips.Word) : (x.toNat + y.toNat) &&& mask = (x + y).toNat := by
  have ones : mask = 2 ^ 32 - 1 := rfl
  rw [ones, Nat.and_two_pow_sub_one_eq_mod, BitVec.toNat_add]

theorem numerals :
    Fips.Numerals BitVec.toNat (· ^^^ mask) rotr (fun acc v => (acc + v) &&& mask) where
  xor _ _ := (BitVec.toNat_xor ..).symm
  and _ _ := (BitVec.toNat_and ..).symm
  not_and := not_and_toNat
  shift _ _ := (BitVec.toNat_ushiftRight ..).symm
  rotate x n _ := rotr_toNat x n
  plus := plus_toNat

theorem add2_toNat (x y : Fips.Word) : add2 x.toNat y.toNat = (x + y).toNat :=
  numerals.two x y

theorem add5_toNat (x y z u v : Fips.Word) :
    add5 x.toNat y.toNat z.toNat u.toNat v.toNat = (x + y + z + u + v).toNat :=
  numerals.five x y z u v

theorem headD_toNat (words : List Fips.Word) (i : Nat) :
    ((words.map BitVec.toNat).drop i).headD 0 = (words.getD i 0).toNat := by
  rw [List.headD_eq_head?_getD, List.head?_drop, ← List.getD_eq_getElem?_getD]
  exact List.getD_map words 0 BitVec.toNat

theorem extend_toNat (words : List Fips.Word) :
    extend (words.map BitVec.toNat) = (Fips.extend words).map BitVec.toNat := by
  have next (w15 w2 w16 w7 : Fips.Word) : add4 w16.toNat
      (rotr w15.toNat 7 ^^^ rotr w15.toNat 18 ^^^ (w15.toNat >>> 3)) w7.toNat
      (rotr w2.toNat 17 ^^^ rotr w2.toNat 19 ^^^ (w2.toNat >>> 10))
      = (Fips.smallSigma1 w2 + w7 + Fips.smallSigma0 w15 + w16).toNat :=
    numerals.next w15 w2 w16 w7
  simp only [extend, Nat.xor_eq, List.drop_drop, List.tail_drop, headD_toNat, Fips.extend,
    List.map_cons, next]

theorem extendBy_toNat (n : Nat) (words : List Fips.Word) :
    extendBy n (words.map BitVec.toNat) = (Fips.extendBy n words).map BitVec.toNat := by
  induction n generalizing words with
  | zero => rfl
  | succ n ih => rw [extendBy, extend_toNat, ih, Fips.extendBy]

def natHash (s : Fips.Hash) : Hash :=
  ⟨s.a.toNat, s.b.toNat, s.c.toNat, s.d.toNat, s.e.toNat, s.f.toNat, s.g.toNat, s.h.toNat⟩

theorem round_natHash (s : Fips.Hash) (k w : Fips.Word) :
    round (natHash s) k.toNat w.toNat = natHash (Fips.step s k w) := by
  simp only [round, Nat.xor_eq, Nat.land_eq, natHash, numerals.sum1, numerals.sum0, numerals.choose, numerals.majority,
    add2_toNat, add5_toNat, Fips.step]

theorem rounds_natHash (constants words : List Fips.Word) (s : Fips.Hash) :
    rounds (constants.map BitVec.toNat) (words.map BitVec.toNat) (natHash s)
      = natHash ((constants.zip words).foldl (fun t pair => Fips.step t pair.1 pair.2) s) := by
  induction constants generalizing words s with
  | nil => rfl
  | cons k ks ih =>
    cases words with
    | nil => rfl
    | cons w ws =>
      rw [List.map_cons, List.map_cons, rounds, round_natHash, ih, List.zip_cons_cons,
        List.foldl_cons]

theorem constants_toNat : constants = Fips.constants.map BitVec.toNat := by decide

theorem wordsOf_eq {block : Bytes} (whole : block.length = 64) :
    wordsOf block = ((List.range 16).map (Fips.byteWords block)).map BitVec.toNat := by
  refine Fips.load_eq wordsOf BitVec.toNat rfl (fun a b c d rest => ?_) 16 whole
  rw [wordsOf, Fips.toNat_word]

theorem compress_natHash (s : Fips.Hash) {block : Bytes} (whole : block.length = 64) :
    compress (natHash s) block = natHash (Fips.compress s (Fips.byteWords block)) := by
  have words : schedule block
      = ((Fips.recent (Fips.byteWords block) 64).reverse).map BitVec.toNat := by
    rw [schedule, Fips.load_recent (wordsOf_eq whole), extendBy_toNat,
      Fips.extendBy_recent _ 48 (Nat.le_refl 16), List.map_reverse]
  have run := rounds_natHash Fips.constants (Fips.recent (Fips.byteWords block) 64).reverse s
  rw [← constants_toNat, ← words, ← Fips.rounds_zip] at run
  simp only [compress, run]
  simp only [natHash, add2_toNat, Fips.compress, Fips.Hash.add, BitVec.add_comm]

theorem blocks_natHash (n : Nat) (message : Bytes) (s : Fips.Hash)
    (long : 64 * n ≤ message.length) :
    blocks n message (natHash s) = natHash (Fips.blocks n message s) := by
  induction n generalizing message s with
  | zero => simp [blocks, Fips.blocks]
  | succ n ih =>
    have whole : (message.take 64).length = 64 := by
      rw [List.length_take]
      omega
    rw [blocks, compress_natHash s whole, Fips.blocks_succ]
    exact ih _ _ (by rw [List.length_drop]; omega)

theorem sha256_eq_integers (text : Bytes) (small : text.length < 2 ^ 61) :
    sha256 text = Integers.sha256 text := by
  have padded : pad text = Fips.padBytes text := by
    have gap : (56 + 64 - (text.length + 1) % 64) % 64 = (119 - text.length % 64) % 64 := by omega
    rw [pad, Fips.padBytes, gap, Integers.bigEndian_eq, Nat.mul_comm]
  have long : 64 * ((Fips.padBytes text).length / 64) ≤ (Fips.padBytes text).length :=
    Nat.mul_div_le _ _
  have run := blocks_natHash _ _ Fips.initial long
  have start : initial = natHash Fips.initial := rfl
  rw [Integers.sha256_standard small, sha256, padded, start, run]
  simp only [natHash, Fips.Hash.words, List.flatMap_cons, List.flatMap_nil]

end Proc17.Core.Digest
