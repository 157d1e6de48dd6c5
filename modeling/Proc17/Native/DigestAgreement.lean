import Proc17.Core.DigestStandard
import Proc17.Native.Sha256Standard

/-!
# One digest on both sides

`digest.sha256` of `core/digest.lua` prints what `proc17_sha256_bytes` of
`native/proc17_sha256.c` computes.
-/

namespace Proc17.Native.Sha256

open Lua Layout

/-- The digits of `proc17_sha256_hex`. -/
def alphabet : Bytes := utf8 "0123456789abcdef"

/-- `proc17_sha256_hex`, without the closing zero. -/
def hex (digest : Bytes) : Bytes :=
  digest.flatMap fun (b : UInt8) =>
    [alphabet.getD (b >>> 4).toNat 0, alphabet.getD (b &&& 0x0f).toNat 0]

/-- `proc17_sha256_bytes` with the copying loop of the update. -/
def bytesBlocks (input : Bytes) : Bytes := (Context.init.updateBlocks input).final

theorem bytesBlocks_eq (input : Bytes) : bytesBlocks input = bytes input := by
  rw [bytesBlocks, updateBlocks_eq Context.init _ (Nat.zero_lt_succ 63), bytes]

theorem alphabet_getD {n : Nat} (digit : n < 16) : alphabet.getD n 0 = Core.Json.hexDigit n := by
  have all : ∀ n < 16, alphabet.getD n 0 = Core.Json.hexDigit n := by decide
  exact all n digit

theorem hex_eq (digest : Bytes) : hex digest = digest.flatMap fun (b : UInt8) =>
    [Core.Json.hexDigit (b.toNat / 16), Core.Json.hexDigit (b.toNat % 16)] := by
  have small (b : UInt8) := b.toNat_lt
  have high (b : UInt8) : (b >>> 4).toNat = b.toNat / 16 := by
    rw [UInt8.toNat_shiftRight, Nat.shiftRight_eq_div_pow]
    rfl
  have low (b : UInt8) : (b &&& 0x0f).toNat = b.toNat % 16 := by
    rw [UInt8.toNat_and]
    exact Nat.and_two_pow_sub_one_eq_mod b.toNat 4
  have digits (b : UInt8) : [alphabet.getD (b >>> 4).toNat 0, alphabet.getD (b &&& 0x0f).toNat 0]
      = [Core.Json.hexDigit (b.toNat / 16), Core.Json.hexDigit (b.toNat % 16)] := by
    rw [high, low, alphabet_getD (Nat.div_lt_of_lt_mul (small b)),
      alphabet_getD (Nat.mod_lt _ (by decide))]
  simp only [hex, digits]

theorem hex_append (left right : Bytes) : hex (left ++ right) = hex left ++ hex right := by
  simp [hex]

theorem hex_storeWord (word : UInt32) : hex (storeWord word) = Core.Digest.hexWord word.toNat := by
  rw [hex_eq, storeWord, Core.Digest.hexWord, Core.Digest.Integers.bigEndian_eq]

theorem hex_store (s : State) :
    hex s.store = s.hash.words.flatMap fun w => Core.Digest.hexWord w.toNat := by
  simp only [State.store, State.hash, Fips.Hash.words, List.flatMap_cons, List.flatMap_nil,
    hex_append, hex_storeWord, UInt32.toNat_toBitVec]
  simp [hex]

theorem hex_bytes {input : Bytes} (small : input.length < 2 ^ 61) : hex (bytes input)
    = (Fips.blocks ((Fips.padBytes input).length / 64) (Fips.padBytes input)
      Fips.initial).words.flatMap fun w => Core.Digest.hexWord w.toNat := by
  obtain ⟨s, stored, hash⟩ := bytes_state small
  rw [stored, hex_store, hash]

/-- Both implementations are SHA-256, and the one prints what the other computes. -/
theorem digests_agree (text : Bytes) (small : text.length < 2 ^ 61) :
    Core.Digest.Integers.sha256 text = hex (bytesBlocks text)
      ∧ Core.Digest.sha256 text = hex (bytes text)
      ∧ bytesBlocks text = bytes text
      ∧ Fips.ofBytes (bytesBlocks text) = Fips.sha256 (Fips.ofBytes text) := by
  have printed : Core.Digest.Integers.sha256 text = hex (bytes text) := by
    rw [Core.Digest.Integers.sha256_standard small, hex_bytes small]
  refine ⟨?_, ?_, bytesBlocks_eq text, ?_⟩
  · rw [printed, bytesBlocks_eq]
  · rw [Core.Digest.sha256_eq_integers text small, printed]
  · rw [bytesBlocks_eq, bytes_standard small]

theorem digests_agree_abc :
    Core.Digest.Integers.sha256 (utf8 "abc") = hex (bytesBlocks (utf8 "abc")) :=
  (digests_agree (utf8 "abc") (by decide)).1

end Proc17.Native.Sha256
