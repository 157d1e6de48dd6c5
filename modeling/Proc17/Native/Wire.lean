import Proc17.Native.Report
import Proc17.Native.Sha256

/-!
# The wire

`native/proc17_qa_wire.h` byte by byte: the envelope of a frame, the RUN v1 payloads with
their records, and the pairs of functions that write and read them.  A pointer into a buffer
with the bytes behind it is a window.
-/

namespace Proc17.Native.Wire

open Lua Layout List Nat

def nonceBytes : Nat := 32
def digestBytes : Nat := 32
def envelopeBytes : Nat := 80
def maxFrameBytes : Nat := 4096
def version : UInt16 := 0

def runRequestFixedBytes : Nat := 238
def runStartedBytes : Nat := 252
def runResultBytes : Nat := 512
def runErrorBytes : Nat := 268
def sourceStageBytes : Nat := 84
def streamMeasurementBytes : Nat := 64
def resourceMeasurementBytes : Nat := 88
def scratchMeasurementBytes : Nat := 40
def identityBytes : Nat := 128

/-- `enum proc17_qa_wire_kind` -/
def probeRequest : UInt16 := 1
def probeResult : UInt16 := 2
def runRequest : UInt16 := 3
def runResult : UInt16 := 4
def runRequestV1 : UInt16 := 5
def runStartedV1 : UInt16 := 6
def runResultV1 : UInt16 := 7
def runErrorV1 : UInt16 := 8

def magic : Bytes := [0x50, 0x31, 0x37, 0x51, 0x41, 0x30, 0, 0]

/-! ## Numbers -/

def putU16 (value : UInt16) : Bytes := bigEndian 2 value.toNat
def putU32 (value : UInt32) : Bytes := bigEndian 4 value.toNat
def putU64 (value : UInt64) : Bytes := bigEndian 8 value.toNat

def getU16 (input : Bytes) (offset : Nat) : UInt16 :=
  UInt16.ofNat (fromBigEndian (window input offset 2))

def getU32 (input : Bytes) (offset : Nat) : UInt32 :=
  UInt32.ofNat (fromBigEndian (window input offset 4))

def getU64 (input : Bytes) (offset : Nat) : UInt64 :=
  UInt64.ofNat (fromBigEndian (window input offset 8))

def byteAt (input : Bytes) (offset : Nat) : UInt8 := input.getD offset 0

@[simp] theorem length_putU16 (value : UInt16) : (putU16 value).length = 2 := length_bigEndian _ _
@[simp] theorem length_putU32 (value : UInt32) : (putU32 value).length = 4 := length_bigEndian _ _
@[simp] theorem length_putU64 (value : UInt64) : (putU64 value).length = 8 := length_bigEndian _ _

section
variable {input : Bytes} {offset : Nat}

theorem getU16_of_window {value : UInt16} (written : window input offset 2 = putU16 value) :
    getU16 input offset = value := by
  have small : value.toNat < 256 ^ 2 := value.toNat_lt
  rw [getU16, written, putU16, fromBigEndian_bigEndian, mod_eq_of_lt small, UInt16.ofNat_toNat]

theorem getU32_of_window {value : UInt32} (written : window input offset 4 = putU32 value) :
    getU32 input offset = value := by
  have small : value.toNat < 256 ^ 4 := value.toNat_lt
  rw [getU32, written, putU32, fromBigEndian_bigEndian, mod_eq_of_lt small, UInt32.ofNat_toNat]

theorem getU64_of_window {value : UInt64} (written : window input offset 8 = putU64 value) :
    getU64 input offset = value := by
  have small : value.toNat < 256 ^ 8 := value.toNat_lt
  rw [getU64, written, putU64, fromBigEndian_bigEndian, mod_eq_of_lt small, UInt64.ofNat_toNat]

theorem putU16_getU16 (inside : offset + 2 ≤ input.length) :
    putU16 (getU16 input offset) = window input offset 2 := by
  have width := length_window inside
  have small := fromBigEndian_lt (window input offset 2)
  have whole := bigEndian_fromBigEndian (window input offset 2)
  rw [width] at small whole
  rw [putU16, getU16, UInt16.toNat_ofNat_of_lt' small, whole]

theorem putU32_getU32 (inside : offset + 4 ≤ input.length) :
    putU32 (getU32 input offset) = window input offset 4 := by
  have width := length_window inside
  have small := fromBigEndian_lt (window input offset 4)
  have whole := bigEndian_fromBigEndian (window input offset 4)
  rw [width] at small whole
  rw [putU32, getU32, UInt32.toNat_ofNat_of_lt' small, whole]

theorem putU64_getU64 (inside : offset + 8 ≤ input.length) :
    putU64 (getU64 input offset) = window input offset 8 := by
  have width := length_window inside
  have small := fromBigEndian_lt (window input offset 8)
  have whole := bigEndian_fromBigEndian (window input offset 8)
  rw [width] at small whole
  rw [putU64, getU64, UInt64.toNat_ofNat_of_lt' small, whole]

theorem byteAt_of_window {b : UInt8} (written : window input offset 1 = [b]) :
    byteAt input offset = b := by
  have first := congrArg (fun bytes => bytes[0]?) written
  simp only [getElem?_window, zero_lt_one, if_true, add_zero, List.getElem?_cons_zero] at first
  rw [byteAt, getD_eq_getElem?_getD, first, Option.getD_some]

theorem window_byteAt (inside : offset < input.length) :
    window input offset 1 = [byteAt input offset] := by
  rw [window, drop_eq_getElem_cons inside, take_succ_cons, take_zero, byteAt,
    getD_eq_getElem?_getD, List.getElem?_eq_getElem inside, Option.getD_some]

end

/-- Bytes of a size that hold fields laid out apart, and zeroes elsewhere. -/
structure Laid (size : Nat) (layout : List (Nat × Nat)) (fields : List (Nat × Bytes))
    (bytes : Bytes) : Prop where
  shape : spans fields = layout
  apart : Apart size layout
  filled : bytes = fill size fields

namespace Laid

variable {size offset n : Nat} {layout : List (Nat × Nat)} {fields : List (Nat × Bytes)}
  {bytes : Bytes} (laid : Laid size layout fields bytes)
include laid

theorem length : bytes.length = size := by
  rw [laid.filled]
  exact length_fill laid.shape laid.apart

section

variable {data : Bytes} (member : (offset, data) ∈ fields)
include member

theorem part {k : Nat} (inside : k + n ≤ data.length) :
    window bytes (offset + k) n = window data k n := by
  rw [laid.filled]
  exact window_fill laid.shape laid.apart member inside

theorem field (width : data.length = n) : window bytes offset n = data := by
  rw [laid.filled]
  exact window_fill_field laid.shape laid.apart member width

end

theorem u16 {value : UInt16} (member : (offset, putU16 value) ∈ fields) :
    getU16 bytes offset = value := getU16_of_window (laid.field member (length_putU16 _))

theorem u32 {value : UInt32} (member : (offset, putU32 value) ∈ fields) :
    getU32 bytes offset = value := getU32_of_window (laid.field member (length_putU32 _))

theorem u64 {value : UInt64} (member : (offset, putU64 value) ∈ fields) :
    getU64 bytes offset = value := getU64_of_window (laid.field member (length_putU64 _))

theorem byte {b : UInt8} (member : (offset, [b]) ∈ fields) : byteAt bytes offset = b :=
  byteAt_of_window (laid.field member rfl)

theorem blank (inside : offset + n ≤ size)
    (outside : ∀ i, i < offset + n → offset ≤ i → ¬ Covered layout i) :
    window bytes offset n = List.replicate n 0 := by
  rw [laid.filled]
  exact window_fill_outside laid.shape laid.apart inside fun i low high => outside i high low

end Laid

/-! ## The envelope -/

def kindKnown (kind : UInt16) : Bool :=
  kind = probeRequest || kind = probeResult || kind = runRequest || kind = runResult
    || kind = runRequestV1 || kind = runStartedV1 || kind = runResultV1 || kind = runErrorV1

structure View where
  kind : UInt16
  nonce : Octets 32
  payload : Bytes

/-- What `proc17_qa_wire_encode` writes before the digest. -/
def envelopeFields (kind : UInt16) (nonce : Octets 32) (payload : Bytes) : List (Nat × Bytes) :=
  [(0, magic), (8, putU16 version), (10, putU16 kind),
    (12, putU32 (UInt32.ofNat payload.length)), (16, nonce.bytes), (48, payload)]

def encode (kind : UInt16) (nonce : Octets 32) (payload : Bytes) : Option Bytes :=
  if kindKnown kind = false ∨ maxFrameBytes - envelopeBytes < payload.length then none
  else
    let body := fill (48 + payload.length) (envelopeFields kind nonce payload)
    some (body ++ Sha256.bytes body)

def mismatch (expected given : Bytes) : UInt8 :=
  (expected.zipWith (fun a b => a ^^^ b) given).foldl (fun all b => all ||| b) 0

def decode (frame : Bytes) : Option View :=
  if long : envelopeBytes ≤ frame.length then
    if maxFrameBytes < frame.length ∨ window frame 0 8 ≠ magic then none
    else
      let kind := getU16 frame 10
      let payloadBytes := (getU32 frame 12).toNat
      if getU16 frame 8 ≠ version ∨ kindKnown kind = false
          ∨ maxFrameBytes - envelopeBytes < payloadBytes
          ∨ frame.length ≠ envelopeBytes + payloadBytes then none
      else
        let beforeDigest := 48 + payloadBytes
        if mismatch (Sha256.bytes (window frame 0 beforeDigest)) (window frame beforeDigest 32) ≠ 0
        then none
        else
          some
            { kind := kind
              nonce := .read frame 16 32 (Nat.le_trans (by decide) long)
              payload := window frame 48 payloadBytes }
  else none

theorem or_eq_zero (a b : UInt8) : a ||| b = 0 ↔ a = 0 ∧ b = 0 := by
  constructor
  · intro h
    have bits := congrArg UInt8.toNat h
    rw [UInt8.toNat_or] at bits
    obtain ⟨one, two⟩ := or_eq_zero_iff.mp bits
    exact ⟨UInt8.toNat_inj.mp one, UInt8.toNat_inj.mp two⟩
  · rintro ⟨rfl, rfl⟩
    rfl

theorem foldl_or_eq_zero (bytes : Bytes) : ∀ start : UInt8,
    bytes.foldl (fun all b => all ||| b) start = 0 ↔ start = 0 ∧ ∀ b ∈ bytes, b = 0 := by
  induction bytes with
  | nil =>
    intro start
    simp
  | cons b rest ih =>
    intro start
    rw [foldl_cons, ih, or_eq_zero]
    simp only [mem_cons, forall_eq_or_imp, and_assoc]

theorem mismatch_eq_zero {expected given : Bytes} (widths : expected.length = given.length) :
    mismatch expected given = 0 ↔ expected = given := by
  rw [mismatch, foldl_or_eq_zero]
  induction expected generalizing given with
  | nil =>
    cases given with
    | nil => simp
    | cons b rest => cases widths
  | cons a rest ih =>
    cases given with
    | nil => cases widths
    | cons b rest' =>
      have tail := ih (Nat.succ.inj widths)
      simp only [true_and] at tail
      simp only [zipWith_cons_cons, mem_cons, forall_eq_or_imp, true_and, tail,
        UInt8.xor_eq_zero_iff, List.cons.injEq]

/-! ## What the envelope holds -/

section
variable (kind : UInt16) (nonce : Octets 32) (payload : Bytes)

theorem spans_envelope : spans (envelopeFields kind nonce payload)
    = [(0, 8), (8, 2), (10, 2), (12, 4), (16, 32), (48, payload.length)] := by
  simp [spans, envelopeFields, magic, nonce.width]

theorem envelope_apart (n : Nat) :
    Apart (48 + n) [(0, 8), (8, 2), (10, 2), (12, 4), (16, 32), (48, n)] := by
  constructor
  · simp
    omega
  · simp

theorem envelope_covered {n i : Nat} (small : i < 48 + n) :
    Covered [(0, 8), (8, 2), (10, 2), (12, 4), (16, 32), (48, n)] i := by
  simp only [Covered, mem_cons, not_mem_nil, or_false, exists_eq_or_imp, exists_eq_left]
  omega

end

def body (kind : UInt16) (nonce : Octets 32) (payload : Bytes) : Bytes :=
  fill (48 + payload.length) (envelopeFields kind nonce payload)

variable {frame : Bytes}

section
variable {kind : UInt16} {nonce : Octets 32} {payload : Bytes}

theorem laid_body : Laid (48 + payload.length)
    [(0, 8), (8, 2), (10, 2), (12, 4), (16, 32), (48, payload.length)]
    (envelopeFields kind nonce payload) (body kind nonce payload) :=
  ⟨spans_envelope kind nonce payload, envelope_apart _, rfl⟩

theorem encode_eq_some_iff : encode kind nonce payload = some frame
    ↔ kindKnown kind = true ∧ payload.length ≤ 4016
      ∧ frame = body kind nonce payload ++ Sha256.bytes (body kind nonce payload) := by
  unfold encode
  split
  · rename_i refused
    constructor
    · intro h
      cases h
    · rintro ⟨known, small, -⟩
      simp only [known, Bool.true_eq_false, false_or, maxFrameBytes, envelopeBytes] at refused
      omega
  · rename_i accepted
    have both : kindKnown kind = true ∧ payload.length ≤ 4016 := by
      simpa [maxFrameBytes, envelopeBytes] using accepted
    rw [Option.some.injEq]
    exact ⟨fun made => ⟨both.1, both.2, made.symm⟩, fun told => told.2.2.symm⟩

end

/-! ## What an accepted frame holds -/

/-- The frame holds the fields of the view, and after them their digest. -/
structure Holds (frame : Bytes) (view : View) : Prop where
  known : kindKnown view.kind = true
  small : view.payload.length ≤ 4016
  length : frame.length = 80 + view.payload.length
  fields : ∀ field ∈ envelopeFields view.kind view.nonce view.payload,
    window frame field.1 field.2.length = field.2
  digest : window frame (48 + view.payload.length) 32
    = Sha256.bytes (window frame 0 (48 + view.payload.length))

variable {view : View}

theorem holds_of_decode (accepted : decode frame = some view) :
    Holds frame view := by
  unfold decode at accepted
  split at accepted
  · rename_i long
    split at accepted
    · cases accepted
    · rename_i magical
      dsimp only at accepted
      split at accepted
      · cases accepted
      · rename_i shaped
        split at accepted
        · cases accepted
        · rename_i matching
          have first : frame.length ≤ 4096 ∧ window frame 0 8 = magic := by
            simpa [maxFrameBytes] using magical
          have second : getU16 frame 8 = version ∧ kindKnown (getU16 frame 10) = true
              ∧ (getU32 frame 12).toNat ≤ 4016 ∧ frame.length = 80 + (getU32 frame 12).toNat := by
            simpa [maxFrameBytes, envelopeBytes] using shaped
          obtain ⟨versioned, known, small, length⟩ := second
          have payload : (window frame 48 (getU32 frame 12).toNat).length
              = (getU32 frame 12).toNat := length_window (by omega)
          have count : UInt32.ofNat (getU32 frame 12).toNat = getU32 frame 12 := UInt32.ofNat_toNat
          cases accepted
          refine ⟨known, by rw [payload]; exact small, by rw [payload]; exact length, ?_, ?_⟩
          · intro field member
            simp only [envelopeFields, mem_cons, not_mem_nil, or_false, payload, count] at member
            rcases member with rfl | rfl | rfl | rfl | rfl | rfl
            · exact first.2
            · rw [← versioned, length_putU16, putU16_getU16 (by omega)]
            · rw [length_putU16, putU16_getU16 (by omega)]
            · rw [length_putU32, putU32_getU32 (by omega)]
            · rw [(Octets.read frame 16 32 _).width]
              rfl
            · rw [payload]
          · rw [payload]
            have widths : (window frame (48 + (getU32 frame 12).toNat) 32).length = 32 :=
              length_window (by omega)
            have zero : mismatch (Sha256.bytes (window frame 0 (48 + (getU32 frame 12).toNat)))
                (window frame (48 + (getU32 frame 12).toNat) 32) = 0 := by
              simpa using matching
            exact ((mismatch_eq_zero (by rw [widths, Sha256.length_bytes])).mp zero).symm
  · cases accepted

theorem decode_of_holds (holds : Holds frame view) :
    decode frame = some view := by
  obtain ⟨known, small, length, fields, digest⟩ := holds
  obtain ⟨kind, nonce, payload⟩ := view
  simp only at known small length fields digest
  have magical : window frame 0 8 = magic := fields (0, magic) (by simp [envelopeFields])
  have versioned : getU16 frame 8 = version :=
    getU16_of_window (fields (8, putU16 version) (by simp [envelopeFields]))
  have kinded : getU16 frame 10 = kind :=
    getU16_of_window (fields (10, putU16 kind) (by simp [envelopeFields]))
  have counted : getU32 frame 12 = UInt32.ofNat payload.length :=
    getU32_of_window (fields (12, putU32 (UInt32.ofNat payload.length)) (by simp [envelopeFields]))
  have count : (getU32 frame 12).toNat = payload.length := by
    rw [counted]
    apply UInt32.toNat_ofNat_of_lt'
    show payload.length < 4294967296
    omega
  have nonced : window frame 16 32 = nonce.bytes := by
    have whole := fields (16, nonce.bytes) (by simp [envelopeFields])
    rwa [nonce.width] at whole
  have carried : window frame 48 payload.length = payload :=
    fields (48, payload) (by simp [envelopeFields])
  have equal : mismatch (Sha256.bytes (window frame 0 (48 + payload.length)))
      (window frame (48 + payload.length) 32) = 0 := by
    rw [mismatch_eq_zero]
    · exact digest.symm
    · rw [digest, Sha256.length_bytes]
  have long : envelopeBytes ≤ frame.length := by
    rw [length]
    exact le_add_right _ _
  have bounded : ¬ (maxFrameBytes < frame.length ∨ window frame 0 8 ≠ magic) := by
    rintro (large | unlike)
    · simp only [maxFrameBytes] at large
      omega
    · exact unlike magical
  have shaped : ¬ (version ≠ version ∨ kindKnown kind = false
      ∨ maxFrameBytes - envelopeBytes < payload.length
      ∨ frame.length ≠ envelopeBytes + payload.length) := by
    rintro (other | unknown | large | long)
    · exact other rfl
    · rw [known] at unknown
      cases unknown
    · simp only [maxFrameBytes, envelopeBytes] at large
      omega
    · exact long length
  unfold decode
  rw [dif_pos long, if_neg bounded]
  dsimp only
  rw [versioned, kinded, count, if_neg shaped, if_neg (by simpa using equal)]
  congr 1
  rw [View.mk.injEq]
  exact ⟨rfl, Octets.ext nonced, carried⟩

theorem holds_encode {kind : UInt16} {nonce : Octets 32} {payload : Bytes}
    (known : kindKnown kind = true) (small : payload.length ≤ 4016) :
    Holds (body kind nonce payload ++ Sha256.bytes (body kind nonce payload))
      ⟨kind, nonce, payload⟩ := by
  have length := (@laid_body kind nonce payload).length
  refine ⟨known, small, ?_, ?_, ?_⟩
  · show (body kind nonce payload ++ Sha256.bytes (body kind nonce payload)).length
      = 80 + payload.length
    rw [length_append, length, Sha256.length_bytes]
    omega
  · intro field member
    have inside : field.1 + field.2.length ≤ 48 + payload.length := by
      have within := (envelope_apart payload.length).1
      rw [← spans_envelope kind nonce payload] at within
      exact within (field.1, field.2.length) (mem_map_of_mem member)
    rw [window_append_left _ _ (by rw [length]; exact inside)]
    exact laid_body.field member rfl
  · have digest := window_append_right (body kind nonce payload)
      (Sha256.bytes (body kind nonce payload))
    rw [length, Sha256.length_bytes] at digest
    show window _ (48 + payload.length) 32 = Sha256.bytes (window _ 0 (48 + payload.length))
    rw [digest, window_append_left _ _ (by rw [length, zero_add]), window_zero length]

theorem eq_of_holds (holds : Holds frame view) :
    frame = body view.kind view.nonce view.payload
      ++ Sha256.bytes (body view.kind view.nonce view.payload) := by
  have front : body view.kind view.nonce view.payload
      = window frame 0 (48 + view.payload.length) := by
    refine fill_eq (spans_envelope _ _ _) (envelope_apart _) (length_window ?_) ?_ ?_
    · rw [holds.length]
      omega
    · intro field member
      have within := (envelope_apart view.payload.length).1
      rw [← spans_envelope view.kind view.nonce view.payload] at within
      have inside := within (field.1, field.2.length) (mem_map_of_mem member)
      rw [window_window _ inside, zero_add]
      exact holds.fields field member
    · intro i small outside
      exact absurd (envelope_covered small) outside
  rw [front, ← holds.digest]
  have split := take_append_drop (48 + view.payload.length) frame
  have back : (frame.drop (48 + view.payload.length)).take 32
      = frame.drop (48 + view.payload.length) :=
    take_of_length_le (by rw [length_drop, holds.length]; omega)
  simp only [window, drop_zero, back, split]

theorem decode_eq_some_iff : decode frame = some view
    ↔ encode view.kind view.nonce view.payload = some frame := by
  rw [encode_eq_some_iff]
  constructor
  · intro accepted
    have holds := holds_of_decode accepted
    exact ⟨holds.known, holds.small, eq_of_holds holds⟩
  · rintro ⟨known, small, rfl⟩
    exact decode_of_holds (holds_encode known small)

/-- The two functions are inverse to each other, and nothing else is accepted. -/
theorem frames_bijective (kind : UInt16) (nonce : Octets 32) (payload frame : Bytes) :
    ((∃ written, encode kind nonce payload = some written
        ∧ decode written = some ⟨kind, nonce, payload⟩)
      ↔ kindKnown kind = true ∧ payload.length ≤ 4016)
    ∧ (∀ view, decode frame = some view
      ↔ encode view.kind view.nonce view.payload = some frame)
    ∧ (decode frame = none
      ↔ ∀ view : View, encode view.kind view.nonce view.payload ≠ some frame) := by
  refine ⟨⟨?_, ?_⟩, fun view => decode_eq_some_iff, ?_⟩
  · rintro ⟨written, made, -⟩
    obtain ⟨known, small, -⟩ := encode_eq_some_iff.mp made
    exact ⟨known, small⟩
  · rintro ⟨known, small⟩
    have made : encode kind nonce payload
        = some (body kind nonce payload ++ Sha256.bytes (body kind nonce payload)) :=
      encode_eq_some_iff.mpr ⟨known, small, rfl⟩
    exact ⟨_, made, decode_of_holds (holds_encode known small)⟩
  · constructor
    · intro refused view made
      rw [decode_eq_some_iff.mpr made] at refused
      cases refused
    · intro never
      cases accepted : decode frame with
      | none => rfl
      | some view => exact absurd (decode_eq_some_iff.mp accepted) (never view)

end Proc17.Native.Wire
