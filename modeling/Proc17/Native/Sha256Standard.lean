import Mathlib.Data.List.GetD
import Proc17.Fips.Sha256
import Proc17.Native.Sha256

/-!
# The native digest is the standard's

`native/proc17_sha256.c` against FIPS 180-4: the words, the schedule and the rounds one by
one, the block buffer of the update, and the two cases of the finaliser.
-/

namespace Proc17.Native.Sha256

open Lua Layout List Nat Fips

/-! ## Words -/

theorem rotateRight_toBitVec (value : UInt32) {amount : UInt32} (some : 0 < amount.toNat)
    (small : amount.toNat < 32) :
    (rotateRight value amount).toBitVec = Fips.rotr amount.toNat value.toBitVec := by
  have left : (32 - amount).toNat = 32 - amount.toNat :=
    UInt32.toNat_sub_of_le _ _ (UInt32.le_iff_toNat_le.mpr (le_of_lt small))
  have right : amount.toNat % 32 = amount.toNat := mod_eq_of_lt small
  have wrapped : (32 - amount.toNat) % 32 = 32 - amount.toNat := mod_eq_of_lt (by omega)
  rw [rotateRight, Fips.rotr, UInt32.toBitVec_or, UInt32.toBitVec_shiftRight,
    UInt32.toBitVec_shiftLeft, BitVec.ushiftRight_eq', BitVec.shiftLeft_eq', BitVec.toNat_umod,
    BitVec.toNat_umod]
  simp only [UInt32.toNat_toBitVec, left]
  rw [show (32 : BitVec 32).toNat = 32 from rfl, right, wrapped]

theorem smallSigma0_toBitVec (x : UInt32) :
    (rotateRight x 7 ^^^ rotateRight x 18 ^^^ (x >>> 3)).toBitVec = Fips.smallSigma0 x.toBitVec := by
  rw [UInt32.toBitVec_xor, UInt32.toBitVec_xor, rotateRight_toBitVec x (by decide) (by decide),
    rotateRight_toBitVec x (by decide) (by decide)]
  rfl

theorem smallSigma1_toBitVec (x : UInt32) :
    (rotateRight x 17 ^^^ rotateRight x 19 ^^^ (x >>> 10)).toBitVec
      = Fips.smallSigma1 x.toBitVec := by
  rw [UInt32.toBitVec_xor, UInt32.toBitVec_xor, rotateRight_toBitVec x (by decide) (by decide),
    rotateRight_toBitVec x (by decide) (by decide)]
  rfl

theorem bigSigma0_toBitVec (x : UInt32) :
    (rotateRight x 2 ^^^ rotateRight x 13 ^^^ rotateRight x 22).toBitVec
      = Fips.bigSigma0 x.toBitVec := by
  rw [UInt32.toBitVec_xor, UInt32.toBitVec_xor, rotateRight_toBitVec x (by decide) (by decide),
    rotateRight_toBitVec x (by decide) (by decide), rotateRight_toBitVec x (by decide) (by decide)]
  rfl

theorem bigSigma1_toBitVec (x : UInt32) :
    (rotateRight x 6 ^^^ rotateRight x 11 ^^^ rotateRight x 25).toBitVec
      = Fips.bigSigma1 x.toBitVec := by
  rw [UInt32.toBitVec_xor, UInt32.toBitVec_xor, rotateRight_toBitVec x (by decide) (by decide),
    rotateRight_toBitVec x (by decide) (by decide), rotateRight_toBitVec x (by decide) (by decide)]
  rfl

theorem loadWord_toBitVec (a b c d : UInt8) :
    ((a.toUInt32 <<< 24) ||| (b.toUInt32 <<< 16) ||| (c.toUInt32 <<< 8) ||| d.toUInt32).toBitVec
      = BitVec.ofNat 32 (fromBigEndian [a, b, c, d]) := by
  have ha := a.toNat_lt
  have hb := b.toNat_lt
  have hc := c.toNat_lt
  have hd := d.toNat_lt
  apply BitVec.eq_of_toNat_eq
  have joined : 2 ^ 24 * a.toNat ||| (2 ^ 16 * b.toNat ||| (2 ^ 8 * c.toNat ||| d.toNat))
      = 2 ^ 24 * a.toNat + (2 ^ 16 * b.toNat + (2 ^ 8 * c.toNat + d.toNat)) := by
    have low : 2 ^ 8 * c.toNat + d.toNat < 2 ^ 16 := by omega
    have middle : 2 ^ 16 * b.toNat + (2 ^ 8 * c.toNat + d.toNat) < 2 ^ 24 := by omega
    rw [← two_pow_add_eq_or_of_lt hd, ← two_pow_add_eq_or_of_lt low,
      ← two_pow_add_eq_or_of_lt middle]
  have shiftA : (a.toUInt32 <<< 24).toNat = 2 ^ 24 * a.toNat := by
    rw [UInt32.toNat_shiftLeft, shiftLeft_eq]
    show a.toNat * 2 ^ 24 % 2 ^ 32 = _
    omega
  have shiftB : (b.toUInt32 <<< 16).toNat = 2 ^ 16 * b.toNat := by
    rw [UInt32.toNat_shiftLeft, shiftLeft_eq]
    show b.toNat * 2 ^ 16 % 2 ^ 32 = _
    omega
  have shiftC : (c.toUInt32 <<< 8).toNat = 2 ^ 8 * c.toNat := by
    rw [UInt32.toNat_shiftLeft, shiftLeft_eq]
    show c.toNat * 2 ^ 8 % 2 ^ 32 = _
    omega
  have plain : d.toUInt32.toNat = d.toNat := rfl
  rw [UInt32.toNat_toBitVec, UInt32.toNat_or, UInt32.toNat_or, UInt32.toNat_or, shiftA, shiftB,
    shiftC, plain, Nat.or_assoc, Nat.or_assoc, joined, toNat_word]
  omega

variable {block : Bytes}

theorem loadWords_eq (whole : block.length = 64) :
    (loadWords block).map UInt32.toBitVec = ((List.range 16).map (Fips.byteWords block)).map id := by
  have four (a b c d : UInt8) (rest : Bytes) :
      (loadWords (a :: b :: c :: d :: rest)).map UInt32.toBitVec
        = BitVec.ofNat 32 (fromBigEndian [a, b, c, d]) :: (loadWords rest).map UInt32.toBitVec := by
    rw [loadWords, map_cons, loadWord_toBitVec]
  exact load_eq (fun block => (loadWords block).map UInt32.toBitVec) id rfl four 16 whole

/-! ## The schedule and the rounds -/

theorem getD_toBitVec (words : List UInt32) (i : Nat) :
    (words.map UInt32.toBitVec).getD i 0 = (words.getD i 0).toBitVec :=
  getD_map words 0 UInt32.toBitVec

theorem extend_toBitVec (words : List UInt32) :
    (extend words).map UInt32.toBitVec = Fips.extend (words.map UInt32.toBitVec) := by
  simp only [extend, Fips.extend, map_cons, getD_toBitVec]
  congr 1
  rw [UInt32.toBitVec_add, UInt32.toBitVec_add, UInt32.toBitVec_add, smallSigma0_toBitVec,
    smallSigma1_toBitVec]
  ac_rfl

theorem extendBy_toBitVec (n : Nat) (words : List UInt32) :
    (extendBy n words).map UInt32.toBitVec = Fips.extendBy n (words.map UInt32.toBitVec) := by
  induction n generalizing words with
  | zero => rfl
  | succ n ih => rw [extendBy, ih, extend_toBitVec, Fips.extendBy]

def State.hash (s : State) : Fips.Hash :=
  ⟨s.a.toBitVec, s.b.toBitVec, s.c.toBitVec, s.d.toBitVec, s.e.toBitVec, s.f.toBitVec,
    s.g.toBitVec, s.h.toBitVec⟩

theorem round_hash (s : State) (constant word : UInt32) :
    (s.round constant word).hash = Fips.step s.hash constant.toBitVec word.toBitVec := by
  have sum0 := bigSigma0_toBitVec s.a
  have sum1 := bigSigma1_toBitVec s.e
  simp only [UInt32.toBitVec_xor] at sum0 sum1
  simp only [State.round, State.hash, Fips.step, UInt32.toBitVec_add, UInt32.toBitVec_xor,
    UInt32.toBitVec_and, UInt32.toBitVec_not, Fips.ch, Fips.maj, sum0, sum1]

theorem rounds_hash (pairs : List (UInt32 × UInt32)) (s : State) :
    (pairs.foldl (fun t step => t.round step.1 step.2) s).hash
      = (pairs.map (Prod.map UInt32.toBitVec UInt32.toBitVec)).foldl
        (fun t pair => Fips.step t pair.1 pair.2) s.hash := by
  rw [foldl_map]
  exact (foldl_hom State.hash fun t pair => (round_hash t pair.1 pair.2).symm).symm

theorem roundConstants_toBitVec : roundConstants.map UInt32.toBitVec = Fips.constants := by
  decide

theorem transform_hash (s : State) (whole : block.length = 64) :
    (s.transform block).hash = Fips.compress s.hash (Fips.byteWords block) := by
  have loaded : (loadWords block).reverse.map UInt32.toBitVec
      = Fips.recent (Fips.byteWords block) 16 := by
    rw [map_reverse, load_recent (loadWords_eq whole), map_id]
  have words : ((extendBy 48 (loadWords block).reverse).reverse).map UInt32.toBitVec
      = (Fips.recent (Fips.byteWords block) 64).reverse := by
    rw [map_reverse, extendBy_toBitVec, loaded, extendBy_recent _ 48 (le_refl 16)]
  have rounds := rounds_hash
    (roundConstants.zip (extendBy 48 (loadWords block).reverse).reverse) s
  rw [← zip_map, roundConstants_toBitVec, words, ← rounds_zip] at rounds
  rw [Fips.compress, ← rounds]
  simp only [State.transform, State.hash, Fips.Hash.add, UInt32.toBitVec_add, BitVec.add_comm]

/-! ## The block buffer -/

/-- The context has hashed all whole blocks of the bytes it has seen and holds the rest. -/
def Context.Holds (c : Context) (seen : Bytes) : Prop :=
  ∃ n done, done.length = 64 * n ∧ seen = done ++ c.block ∧ c.block.length < 64
    ∧ c.state.hash = Fips.blocks n done Fips.initial

theorem push_holds {c : Context} {seen : Bytes} (holds : c.Holds seen) (byte : UInt8) :
    (c.push byte).Holds (seen ++ [byte]) := by
  obtain ⟨n, done, whole, rfl, room, hash⟩ := holds
  unfold Context.push
  dsimp only
  split
  next full =>
    refine ⟨n + 1, done ++ (c.block ++ [byte]), ?_, by simp, zero_lt_succ 63, ?_⟩
    · rw [length_append, whole, full]
      omega
    · rw [transform_hash _ full, hash, blocks_add, blocks_append _ _ _ _ (by omega),
        ← whole, drop_left, blocks_succ, ← full, take_length]
      rfl
  next short =>
    refine ⟨n, done, whole, by simp, ?_, hash⟩
    rw [length_append, length_singleton] at short ⊢
    omega

theorem update_holds (input : Bytes) : (Context.init.update input).Holds input := by
  have start (total : UInt64) : Context.Holds ⟨.initial, total, []⟩ [] :=
    ⟨0, [], rfl, rfl, zero_lt_succ 63, rfl⟩
  have run : ∀ (bytes : Bytes) (c : Context) (seen : Bytes), c.Holds seen →
      (bytes.foldl Context.push c).Holds (seen ++ bytes) := by
    intro bytes
    induction bytes with
    | nil => exact fun c seen holds => by simpa using holds
    | cons byte rest ih =>
      intro c seen holds
      have next := ih (c.push byte) (seen ++ [byte]) (push_holds holds byte)
      rw [append_assoc] at next
      exact next
  exact run input _ [] (start _)

theorem ofBytes_store (s : State) :
    Fips.ofBytes s.store = s.hash.words.flatMap fun w => Fips.binary 32 w.toNat := by
  simp only [State.store, storeWord, State.hash, Fips.Hash.words, flatMap_cons, flatMap_nil,
    ofBytes_append, ofBytes_bigEndian, ofBytes_nil, UInt32.toNat_toBitVec]

theorem final_short (c : Context) (short : c.block.length < 56) : c.final
    = (c.state.transform (c.block ++ [0x80] ++ zeros (55 - c.block.length)
      ++ bigEndian 8 (c.totalBytes * 8).toNat)).store := by
  have fits : ¬ 56 < (c.block ++ [0x80]).length := by
    rw [length_append, length_singleton]
    omega
  have room : 56 - (c.block ++ [0x80]).length = 55 - c.block.length := by
    rw [length_append, length_singleton]
    omega
  simp only [Context.final, if_neg fits, room]

theorem final_long (c : Context) (long : 56 ≤ c.block.length) : c.final
    = ((c.state.transform (c.block ++ [0x80] ++ zeros (63 - c.block.length))).transform
      (zeros 56 ++ bigEndian 8 (c.totalBytes * 8).toNat)).store := by
  have beyond : 56 < (c.block ++ [0x80]).length := by
    rw [length_append, length_singleton]
    omega
  have room : 64 - (c.block ++ [0x80]).length = 63 - c.block.length := by
    rw [length_append, length_singleton]
    omega
  simp only [Context.final, if_pos beyond, room, nil_append, length_nil]

theorem blocks_after {n : Nat} {done : Bytes} (whole : done.length = 64 * n) (m : Nat)
    (tail : Bytes) (hash : Fips.Hash) : Fips.blocks (n + m) (done ++ tail) hash
      = Fips.blocks m tail (Fips.blocks n done hash) := by
  rw [blocks_add, blocks_append _ _ _ _ (by omega), ← whole, drop_left]

theorem blocks_one (whole : block.length = 64) (hash : Fips.Hash) :
    Fips.blocks 1 block hash = Fips.compress hash (Fips.byteWords block) := by
  rw [blocks_succ, ← whole, take_length]
  rfl

theorem final_state {c : Context} {seen : Bytes} (holds : c.Holds seen)
    (total : c.totalBytes.toNat = seen.length) (small : seen.length < 2 ^ 61) :
    ∃ s : State, c.final = s.store ∧ s.hash
      = Fips.blocks ((Fips.padBytes seen).length / 64) (Fips.padBytes seen) Fips.initial := by
  obtain ⟨n, done, whole, rfl, room, hash⟩ := holds
  have bits : (c.totalBytes * 8).toNat = 8 * (done ++ c.block).length := by
    rw [UInt64.toNat_mul, total, show (8 : UInt64).toNat = 8 from rfl]
    omega
  have length : (done ++ c.block).length % 64 = c.block.length := by
    rw [length_append, whole]
    omega
  have padded : Fips.padBytes (done ++ c.block) = done ++ (c.block ++ [0x80]
      ++ zeros ((119 - c.block.length) % 64) ++ bigEndian 8 (c.totalBytes * 8).toNat) := by
    rw [Fips.padBytes, length, bits, zeros]
    simp
  rw [padded]
  by_cases short : c.block.length < 56
  · have gap : (119 - c.block.length) % 64 = 55 - c.block.length := by omega
    have full : (c.block ++ [0x80] ++ zeros (55 - c.block.length)
        ++ bigEndian 8 (c.totalBytes * 8).toNat).length = 64 := by
      simp only [length_append, zeros, length_replicate, length_singleton, length_bigEndian]
      omega
    have count : (done ++ (c.block ++ [0x80] ++ zeros (55 - c.block.length)
        ++ bigEndian 8 (c.totalBytes * 8).toNat)).length / 64 = n + 1 := by
      rw [length_append, full, whole]
      omega
    refine ⟨_, final_short c short, ?_⟩
    rw [transform_hash _ full, gap, count, blocks_after whole, blocks_one full, hash]
  · have gap : (119 - c.block.length) % 64 = (63 - c.block.length) + 56 := by omega
    have first : (c.block ++ [0x80] ++ zeros (63 - c.block.length)).length = 64 := by
      simp only [length_append, zeros, length_replicate, length_singleton]
      omega
    have second : (zeros 56 ++ bigEndian 8 (c.totalBytes * 8).toNat).length = 64 := by
      simp only [length_append, zeros, length_replicate, length_bigEndian]
    have split : c.block ++ [0x80] ++ zeros (63 - c.block.length + 56)
        ++ bigEndian 8 (c.totalBytes * 8).toNat
        = (c.block ++ [0x80] ++ zeros (63 - c.block.length))
          ++ (zeros 56 ++ bigEndian 8 (c.totalBytes * 8).toNat) := by
      simp only [zeros, ← replicate_append_replicate, append_assoc]
    have count : (done ++ ((c.block ++ [0x80] ++ zeros (63 - c.block.length))
        ++ (zeros 56 ++ bigEndian 8 (c.totalBytes * 8).toNat))).length / 64 = n + (1 + 1) := by
      rw [length_append, length_append, first, second, whole]
      omega
    refine ⟨_, final_long c (not_lt.mp short), ?_⟩
    rw [transform_hash _ second, transform_hash _ first, gap, split, count, blocks_after whole,
      blocks_after (n := 1) first, blocks_one first, blocks_one second, hash]

theorem bytes_state {input : Bytes} (small : input.length < 2 ^ 61) :
    ∃ s : State, bytes input = s.store ∧ s.hash
      = Fips.blocks ((Fips.padBytes input).length / 64) (Fips.padBytes input) Fips.initial := by
  refine final_state (update_holds input) ?_ small
  have total : (Context.init.update input).totalBytes = UInt64.ofNat input.length := by
    rw [Context.update, foldl_push_totalBytes]
    exact UInt64.zero_add _
  rw [total]
  exact UInt64.toNat_ofNat_of_lt' (lt_trans small (by decide))

theorem bytes_standard {input : Bytes} (small : input.length < 2 ^ 61) :
    Fips.ofBytes (bytes input) = Fips.sha256 (Fips.ofBytes input) := by
  obtain ⟨s, stored, hash⟩ := bytes_state small
  rw [stored, ofBytes_store, hash, sha256_ofBytes]

theorem foldl_updateBlocks (pieces : List Bytes) : ∀ seen : Bytes,
    pieces.foldl Context.updateBlocks (Context.init.update seen)
      = Context.init.update (seen ++ pieces.flatten) := by
  induction pieces with
  | nil => intro seen; simp
  | cons piece rest ih =>
    intro seen
    rw [foldl_cons, updateBlocks_eq _ piece (update_room seen), update_append, ih, flatten_cons,
      append_assoc]

/-- However a message is cut into updates, the context ends with the digest of the standard. -/
theorem updates_standard (pieces : List Bytes) (small : pieces.flatten.length < 2 ^ 61) :
    Fips.ofBytes (pieces.foldl Context.updateBlocks Context.init).final
      = Fips.sha256 (Fips.ofBytes pieces.flatten) := by
  have whole := foldl_updateBlocks pieces []
  rw [show Context.init.update [] = Context.init from rfl, nil_append] at whole
  rw [whole]
  exact bytes_standard small

theorem updates_standard_cut :
    Fips.ofBytes ([utf8 "a", utf8 "bc"].foldl Context.updateBlocks Context.init).final
      = Fips.sha256 (Fips.ofBytes (utf8 "abc")) :=
  updates_standard [utf8 "a", utf8 "bc"] (by decide)

end Proc17.Native.Sha256
