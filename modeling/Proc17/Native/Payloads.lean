import Proc17.Native.Wire

/-!
# RUN v1 payloads

The second half of `native/proc17_qa_wire.h`: what a RUN v1 payload must look like, and the
envelope functions that check it on both sides.
-/

namespace Proc17.Native.Wire

open Lua Layout

/-! ## Bytes -/

def bytesZero (bytes : Bytes) : Bool := bytes.foldl (fun combined b => combined ||| b) 0 = 0

def digestNonzero (value : Bytes) : Bool := !bytesZero value

def boolean (value : UInt8) : Bool := value = 0 || value = 1

def triState (value : UInt8) : Bool := value = 1 || value = 2 || value = 3

theorem bytesZero_iff {bytes : Bytes} : bytesZero bytes = true ↔ ∀ b ∈ bytes, b = 0 := by
  rw [bytesZero, decide_eq_true_eq, foldl_or_eq_zero]
  simp

theorem bytesZero_replicate (n : Nat) : bytesZero (List.replicate n 0) = true := by
  rw [bytesZero_iff]
  intro b member
  exact List.eq_of_mem_replicate member

theorem Laid.zero {size offset n : Nat} {layout : List (Nat × Nat)} {fields : List (Nat × Bytes)}
    {bytes : Bytes} (laid : Laid size layout fields bytes) (inside : offset + n ≤ size)
    (outside : ∀ i, i < offset + n → offset ≤ i → ¬ Covered layout i) :
    bytesZero (window bytes offset n) = true := by
  rw [laid.blank inside outside]
  exact bytesZero_replicate n

theorem bytesZero_window {input : Bytes} {offset n : Nat} (inside : offset + n ≤ input.length) :
    bytesZero (window input offset n) = true ↔ window input offset n = List.replicate n 0 := by
  rw [bytesZero_iff, List.eq_replicate_iff]
  exact ⟨fun zero => ⟨length_window inside, zero⟩, fun same => same.2⟩

/-! ## Records -/

def identityValid (payload : Bytes) : Bool :=
  digestNonzero (window payload 0 32) && digestNonzero (window payload 32 32)
    && digestNonzero (window payload 64 32) && digestNonzero (window payload 96 32)

def sourceStageValid (stage : Bytes) : Bool :=
  getU16 stage 0 = 1 && byteAt stage 2 = 0 && byteAt stage 3 = 0 && getU32 stage 4 ≠ 0
    && getU64 stage 8 ≠ 0 && getU64 stage 16 ≠ 0 && getU64 stage 24 ≠ 0 && getU64 stage 32 ≠ 0
    && getU64 stage 40 ≠ 0 && getU64 stage 48 ≠ 0 && getU64 stage 56 ≠ 0 && getU64 stage 64 ≠ 0
    && getU64 stage 72 ≠ 0 && boolean (byteAt stage 80) && boolean (byteAt stage 81)
    && byteAt stage 82 = 0 && byteAt stage 83 = 0

def streamValid (stream : Bytes) : Bool :=
  let observed := getU64 stream 0
  let hashed := getU64 stream 8
  let limit := getU64 stream 16
  limit ≠ 0 && hashed ≤ observed && hashed ≤ limit && digestNonzero (window stream 24 32)
    && boolean (byteAt stream 56) && byteAt stream 57 = 1 && byteAt stream 58 = 0
    && bytesZero (window stream 59 5)
    && decide (byteAt stream 56 ≠ 0) = decide (limit < observed)

def resourceValid (resource : Bytes) : Bool :=
  getU64 resource 32 ≠ 0 && getU64 resource 48 ≠ 0 && getU64 resource 56 ≠ 0
    && getU64 resource 64 ≠ 0 && getU64 resource 72 ≠ 0 && boolean (byteAt resource 80)
    && bytesZero (window resource 81 7)

def scratchValid (scratch : Bytes) : Bool :=
  let bytes := getU64 scratch 0
  let entries := getU64 scratch 8
  let byteLimit := getU64 scratch 16
  let entryLimit := getU64 scratch 24
  byteLimit ≠ 0 && entryLimit ≠ 0 && bytes ≤ byteLimit && entries ≤ entryLimit
    && boolean (byteAt scratch 32) && boolean (byteAt scratch 33) && byteAt scratch 34 = 1
    && bytesZero (window scratch 35 5)

/-! ## Payloads -/

def requestValid (payload : Bytes) : Bool :=
  if payload.length < runRequestFixedBytes ∨ identityValid payload = false then false
  else
    let pathBytes := (getU16 payload 236).toNat
    pathBytes ≠ 0 && pathBytes ≤ 1024 && payload.length = runRequestFixedBytes + pathBytes
      && getU32 payload 232 = 0
      && (window payload runRequestFixedBytes pathBytes).all (· ≠ 0)

def startedValid (payload : Bytes) : Bool :=
  payload.length = runStartedBytes && identityValid payload && getU16 payload 128 = 1
    && getU16 payload 130 = 1 && byteAt payload 132 = 1 && byteAt payload 133 = 1
    && byteAt payload 134 = 0 && byteAt payload 135 = 0 && digestNonzero (window payload 136 32)
    && sourceStageValid (window payload 168 sourceStageBytes)

def resultValid (payload : Bytes) : Bool :=
  if payload.length ≠ runResultBytes ∨ identityValid payload = false
      ∨ getU16 payload 128 ≠ 2 ∨ getU16 payload 130 ≠ 1 then false
  else
    let reason := getU16 payload 132
    let termination := getU16 payload 134
    if reason < 1 ∨ 9 < reason ∨ termination < 1 ∨ 3 < termination
        ∨ getU16 payload 144 ≠ reason ∨ getU16 payload 146 ≠ 0 ∨ getU64 payload 148 = 0 then false
    else
      (List.range 8).all (fun index => byteAt payload (164 + index) = 1)
        && streamValid (window payload 172 streamMeasurementBytes)
        && streamValid (window payload 236 streamMeasurementBytes)
        && resourceValid (window payload 300 resourceMeasurementBytes)
        && scratchValid (window payload 388 scratchMeasurementBytes)
        && sourceStageValid (window payload 428 sourceStageBytes)

def errorValid (payload : Bytes) : Bool :=
  if payload.length ≠ runErrorBytes ∨ identityValid payload = false then false
  else
    let phase := getU16 payload 128
    let errorClass := getU16 payload 130
    let code := getU16 payload 132
    let stage := getU16 payload 134
    if (phase ≠ 1 ∧ phase ≠ 2) ∨ errorClass < 1 ∨ 3 < errorClass ∨ code < 1 ∨ 9 < code
        ∨ stage < 1 ∨ 7 < stage ∨ triState (byteAt payload 136) = false
        ∨ triState (byteAt payload 137) = false ∨ boolean (byteAt payload 138) = false
        ∨ boolean (byteAt payload 139) = false ∨ bytesZero (window payload 140 4) = false then false
    else if (phase = 1 ∧ byteAt payload 136 = 3) ∨ (phase = 2 ∧ byteAt payload 136 ≠ 3) then false
    else if byteAt payload 138 = 0 ∧ bytesZero (window payload 144 40) = false then false
    else if byteAt payload 139 ≠ 0 then sourceStageValid (window payload 184 sourceStageBytes)
    else bytesZero (window payload 184 sourceStageBytes)

def payloadValid (kind : UInt16) (payload : Bytes) : Bool :=
  if kind = runRequestV1 then requestValid payload
  else if kind = runStartedV1 then startedValid payload
  else if kind = runResultV1 then resultValid payload
  else if kind = runErrorV1 then errorValid payload
  else false

/-! ## Frames -/

def encodeRunV1 (kind : UInt16) (nonce : Octets 32) (payload : Bytes) : Option Bytes :=
  if payloadValid kind payload then encode kind nonce payload else none

def decodeRunV1 (frame : Bytes) : Option View := do
  let view ← decode frame
  if payloadValid view.kind view.payload = true ∧ view.nonce.bytes = window view.payload 0 nonceBytes
  then some view else none

section
variable {kind : UInt16} {payload : Bytes}

theorem length_of_requestValid (valid : requestValid payload = true) : payload.length ≤ 1262 := by
  unfold requestValid at valid
  split at valid
  · cases valid
  · simp only [Bool.and_eq_true, decide_eq_true_eq] at valid
    obtain ⟨⟨⟨⟨-, short⟩, length⟩, -⟩, -⟩ := valid
    rw [length]
    exact Nat.add_le_add_left short _

theorem length_of_startedValid (valid : startedValid payload = true) : payload.length = 252 := by
  simp only [startedValid, Bool.and_eq_true, decide_eq_true_eq] at valid
  exact valid.1.1.1.1.1.1.1.1.1

theorem length_of_resultValid (valid : resultValid payload = true) : payload.length = 512 := by
  unfold resultValid at valid
  split at valid
  · cases valid
  · rename_i shaped
    exact not_not.mp fun other => shaped (.inl other)

theorem length_of_errorValid (valid : errorValid payload = true) : payload.length = 268 := by
  unfold errorValid at valid
  split at valid
  · cases valid
  · rename_i shaped
    exact not_not.mp fun other => shaped (.inl other)

theorem known_of_payloadValid (valid : payloadValid kind payload = true) :
    kindKnown kind = true ∧ payload.length ≤ 4016 := by
  unfold payloadValid at valid
  split at valid
  · rename_i named
    have length := length_of_requestValid valid
    exact ⟨by rw [named]; decide, by omega⟩
  split at valid
  · rename_i named
    have length := length_of_startedValid valid
    exact ⟨by rw [named]; decide, by omega⟩
  split at valid
  · rename_i named
    have length := length_of_resultValid valid
    exact ⟨by rw [named]; decide, by omega⟩
  split at valid
  · rename_i named
    have length := length_of_errorValid valid
    exact ⟨by rw [named]; decide, by omega⟩
  · cases valid

end

theorem encode_of_payloadValid {kind : UInt16} {payload : Bytes} (nonce : Octets 32)
    (valid : payloadValid kind payload = true) : ∃ frame, encode kind nonce payload = some frame := by
  obtain ⟨known, small⟩ := known_of_payloadValid valid
  exact ⟨_, encode_eq_some_iff.mpr ⟨known, small, rfl⟩⟩

theorem decodeRunV1_of_encode {kind : UInt16} {nonce : Octets 32} {payload frame : Bytes}
    (made : encode kind nonce payload = some frame) :
    decodeRunV1 frame
      = if payloadValid kind payload = true ∧ nonce.bytes = window payload 0 nonceBytes then
          some ⟨kind, nonce, payload⟩ else none := by
  have read : decode frame = some ⟨kind, nonce, payload⟩ := decode_eq_some_iff.mpr made
  rw [decodeRunV1, read]
  rfl

/-- The decoder takes what the encoder made exactly when the nonce is the payload's
transaction. -/
theorem encoded_run_decodes_iff (kind : UInt16) (nonce : Octets 32) (payload : Bytes) :
    (∀ frame, encodeRunV1 kind nonce payload = some frame →
        ∃ view, decodeRunV1 frame = some view ∧ view.kind = kind ∧ view.payload = payload)
      ↔ (payloadValid kind payload = true → nonce.bytes = window payload 0 nonceBytes) := by
  constructor
  · intro agree valid
    obtain ⟨frame, made⟩ := encode_of_payloadValid nonce valid
    obtain ⟨view, decoded, -, -⟩ := agree frame (by rw [encodeRunV1, if_pos valid]; exact made)
    rw [decodeRunV1_of_encode made] at decoded
    split at decoded
    · rename_i both
      exact both.2
    · cases decoded
  · intro bound frame encoded
    unfold encodeRunV1 at encoded
    split at encoded
    · rename_i valid
      refine ⟨⟨kind, nonce, payload⟩, ?_, rfl, rfl⟩
      rw [decodeRunV1_of_encode encoded, if_pos ⟨valid, bound valid⟩]
    · cases encoded

/-! ## A frame of another transaction -/

def sampleIdentity : Bytes :=
  List.replicate 32 0x11 ++ List.replicate 32 0x22 ++ List.replicate 32 0x33
    ++ List.replicate 32 0x44

def samplePreflight : Bytes :=
  fill runErrorBytes [(0, sampleIdentity), (128, putU16 1), (130, putU16 2), (132, putU16 1),
    (134, putU16 1), (136, [2]), (137, [3])]

def foreignNonce : Octets 32 := ⟨List.replicate 32 0xa5, List.length_replicate ..⟩

/-- The encoder makes a frame that the decoder refuses. -/
theorem foreign_nonce_encoded : ∃ frame,
    encodeRunV1 runErrorV1 foreignNonce samplePreflight = some frame
      ∧ decodeRunV1 frame = none := by
  have valid : payloadValid runErrorV1 samplePreflight = true := by decide +kernel
  have foreign : foreignNonce.bytes ≠ window samplePreflight 0 nonceBytes := by decide +kernel
  obtain ⟨frame, made⟩ := encode_of_payloadValid foreignNonce valid
  refine ⟨frame, ?_, ?_⟩
  · rw [encodeRunV1, if_pos valid]
    exact made
  · rw [decodeRunV1_of_encode made, if_neg fun both => foreign both.2]

end Proc17.Native.Wire
