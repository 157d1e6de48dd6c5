import Proc17.Native.Payloads

/-!
# Measurements of the candidate

The records of `native/proc17_qa_stream.c`, `native/proc17_qa_scratch.c`,
`native/proc17_qa_phase.c` and `native/proc17_qa_report.c` with the widths of their fields,
what each must satisfy, and the bytes they are written in.
-/

namespace Proc17.Native.Wire

open Lua Layout List

/-! ## Records -/

@[ext]
structure StreamMeasurement where
  observedBytes : UInt64
  hashedBytes : UInt64
  limitBytes : UInt64
  prefixDigest : Octets 32
  limitCrossed : UInt8
  eofObserved : UInt8

@[ext]
structure ScratchMeasurement where
  storedRegularBytes : UInt64
  storedEntries : UInt64
  limitBytes : UInt64
  limitEntries : UInt64
  byteCapacityExhausted : UInt8
  entryCapacityExhausted : UInt8
  inventoryComplete : UInt8

structure CandidateTermination where
  kind : UInt16
  exitCode : UInt32
  signalNumber : UInt32

structure CandidateMetrics where
  wallTimeMs : UInt64
  cpuUserMs : UInt64
  cpuSystemMs : UInt64
  maxRssBytes : UInt64

structure AllocatorSnapshot where
  ceilingBytes : UInt64
  currentBytes : UInt64
  peakBytes : UInt64
  ceilingDenied : UInt8
  systemAllocationFailed : UInt8
  statusNotificationFailed : UInt8

structure PhaseIdentity where
  transaction : Octets 32
  witness : Octets 32
  profile : Octets 32
  environment : Octets 32

structure FirstCause where
  kind : UInt16
  monotonicSequence : UInt64
  observedValue : UInt64

structure PhaseState where
  nextSequence : UInt64
  firstCause : FirstCause
  finalityMask : UInt16
  startedAttested : UInt8
  candidateReleaseAuthorized : UInt8

/-! ## Vocabulary -/

/-- `enum proc17_qa_run_reason` -/
def expectedExit : UInt16 := 1
def unexpectedExit : UInt16 := 2
def signalReason : UInt16 := 3
def wallTimeout : UInt16 := 4
def cpuLimit : UInt16 := 5
def memoryLimit : UInt16 := 6
def outputLimit : UInt16 := 7
def scratchLimit : UInt16 := 8
def sandboxPolicyViolation : UInt16 := 9

def terminationExit : UInt16 := 1
def terminationSignal : UInt16 := 2
def terminationSupervisorKill : UInt16 := 3

def unset : UInt32 := 4294967295

def controllerFinalityMask : UInt16 := 127

def wallTimeMs : UInt64 := UInt64.ofNat Policy.wallTimeMs
def addressSpaceBytes : UInt64 := UInt64.ofNat Policy.addressSpaceBytes
def runtimeHeapBytes : UInt64 := UInt64.ofNat Policy.runtimeHeapBytes
def maxProcesses : UInt64 := UInt64.ofNat Policy.maxProcesses
def maxOpenFiles : UInt64 := UInt64.ofNat Policy.maxOpenFiles
def maxFileBytes : UInt64 := UInt64.ofNat Policy.maxFileBytes
def scratchBytes : UInt64 := UInt64.ofNat Policy.scratchBytes
def scratchEntries : UInt64 := UInt64.ofNat Policy.scratchEntries
def stdoutBytes : UInt64 := UInt64.ofNat Policy.stdoutBytes
def stderrBytes : UInt64 := UInt64.ofNat Policy.stderrBytes
def nsig : UInt32 := 65
def sigkill : UInt32 := 9
def sigxcpu : UInt32 := 24
def sigsys : UInt32 := 31

/-! ## Streams -/

def StreamMeasurement.expectedHashed (m : StreamMeasurement) : UInt64 :=
  if m.observedBytes < m.limitBytes then m.observedBytes else m.limitBytes

/-- `measurement_valid` of `native/proc17_qa_stream.c` -/
def StreamMeasurement.valid (m : StreamMeasurement) : Bool :=
  decide (m.limitBytes ≠ 0 ∧ m.eofObserved = 1 ∧ m.limitCrossed ≤ 1
    ∧ m.hashedBytes = m.expectedHashed
    ∧ (m.limitCrossed ≠ 0 ↔ m.limitBytes < m.observedBytes))

def StreamMeasurement.fields (m : StreamMeasurement) : List (Nat × Bytes) :=
  [(0, putU64 m.observedBytes), (8, putU64 m.hashedBytes), (16, putU64 m.limitBytes),
    (24, m.prefixDigest.bytes), (56, [m.limitCrossed]), (57, [m.eofObserved])]

def StreamMeasurement.encode (m : StreamMeasurement) : Option Bytes :=
  if m.valid then
    let output := fill streamMeasurementBytes m.fields
    if streamValid output then some output else none
  else none

def StreamMeasurement.read (stream : Octets 64) : StreamMeasurement where
  observedBytes := getU64 stream.bytes 0
  hashedBytes := getU64 stream.bytes 8
  limitBytes := getU64 stream.bytes 16
  prefixDigest := .read stream.bytes 24 32 (by rw [stream.width]; decide)
  limitCrossed := byteAt stream.bytes 56
  eofObserved := byteAt stream.bytes 57

section
variable (stream : Octets 64)

@[simp] theorem StreamMeasurement.read_observedBytes :
    (read stream).observedBytes = getU64 stream.bytes 0 := rfl
@[simp] theorem StreamMeasurement.read_hashedBytes :
    (read stream).hashedBytes = getU64 stream.bytes 8 := rfl
@[simp] theorem StreamMeasurement.read_limitBytes :
    (read stream).limitBytes = getU64 stream.bytes 16 := rfl
@[simp] theorem StreamMeasurement.read_prefixDigest :
    (read stream).prefixDigest.bytes = window stream.bytes 24 32 := rfl
@[simp] theorem StreamMeasurement.read_limitCrossed :
    (read stream).limitCrossed = byteAt stream.bytes 56 := rfl
@[simp] theorem StreamMeasurement.read_eofObserved :
    (read stream).eofObserved = byteAt stream.bytes 57 := rfl

end

/-! ## Scratch -/

/-- `measurement_valid` of `native/proc17_qa_scratch.c` -/
def ScratchMeasurement.valid (m : ScratchMeasurement) : Bool :=
  decide (m.limitBytes ≠ 0 ∧ m.limitEntries ≠ 0 ∧ m.storedRegularBytes ≤ m.limitBytes
    ∧ m.storedEntries ≤ m.limitEntries ∧ m.byteCapacityExhausted ≤ 1
    ∧ m.entryCapacityExhausted ≤ 1 ∧ m.inventoryComplete = 1)

def ScratchMeasurement.fields (m : ScratchMeasurement) : List (Nat × Bytes) :=
  [(0, putU64 m.storedRegularBytes), (8, putU64 m.storedEntries), (16, putU64 m.limitBytes),
    (24, putU64 m.limitEntries), (32, [m.byteCapacityExhausted]),
    (33, [m.entryCapacityExhausted]), (34, [m.inventoryComplete])]

def ScratchMeasurement.encode (m : ScratchMeasurement) : Option Bytes :=
  if m.valid then
    let output := fill scratchMeasurementBytes m.fields
    if scratchValid output then some output else none
  else none

def ScratchMeasurement.read (scratch : Octets 40) : ScratchMeasurement where
  storedRegularBytes := getU64 scratch.bytes 0
  storedEntries := getU64 scratch.bytes 8
  limitBytes := getU64 scratch.bytes 16
  limitEntries := getU64 scratch.bytes 24
  byteCapacityExhausted := byteAt scratch.bytes 32
  entryCapacityExhausted := byteAt scratch.bytes 33
  inventoryComplete := byteAt scratch.bytes 34

section
variable (scratch : Octets 40)

@[simp] theorem ScratchMeasurement.read_storedRegularBytes :
    (read scratch).storedRegularBytes = getU64 scratch.bytes 0 := rfl
@[simp] theorem ScratchMeasurement.read_storedEntries :
    (read scratch).storedEntries = getU64 scratch.bytes 8 := rfl
@[simp] theorem ScratchMeasurement.read_limitBytes :
    (read scratch).limitBytes = getU64 scratch.bytes 16 := rfl
@[simp] theorem ScratchMeasurement.read_limitEntries :
    (read scratch).limitEntries = getU64 scratch.bytes 24 := rfl
@[simp] theorem ScratchMeasurement.read_byteCapacityExhausted :
    (read scratch).byteCapacityExhausted = byteAt scratch.bytes 32 := rfl
@[simp] theorem ScratchMeasurement.read_entryCapacityExhausted :
    (read scratch).entryCapacityExhausted = byteAt scratch.bytes 33 := rfl
@[simp] theorem ScratchMeasurement.read_inventoryComplete :
    (read scratch).inventoryComplete = byteAt scratch.bytes 34 := rfl

end

/-! ## Resources -/

def resourceFields (metrics : CandidateMetrics) (allocator : AllocatorSnapshot) :
    List (Nat × Bytes) :=
  [(0, putU64 metrics.wallTimeMs), (8, putU64 metrics.cpuUserMs), (16, putU64 metrics.cpuSystemMs),
    (24, putU64 metrics.maxRssBytes), (32, putU64 addressSpaceBytes),
    (40, putU64 allocator.peakBytes), (48, putU64 allocator.ceilingBytes),
    (56, putU64 maxProcesses), (64, putU64 maxOpenFiles), (72, putU64 maxFileBytes),
    (80, [allocator.ceilingDenied])]

def encodeResource (metrics : CandidateMetrics) (allocator : AllocatorSnapshot) : Option Bytes :=
  let output := fill resourceMeasurementBytes (resourceFields metrics allocator)
  if resourceValid output then some output else none

def CandidateMetrics.read (resource : Bytes) : CandidateMetrics where
  wallTimeMs := getU64 resource 0
  cpuUserMs := getU64 resource 8
  cpuSystemMs := getU64 resource 16
  maxRssBytes := getU64 resource 24

/-! ## Identities and phases -/

def PhaseIdentity.bytes (identity : PhaseIdentity) : Bytes :=
  identity.transaction.bytes ++ identity.witness.bytes ++ identity.profile.bytes ++ identity.environment.bytes

def PhaseIdentity.valid (identity : PhaseIdentity) : Bool :=
  digestNonzero identity.transaction.bytes && digestNonzero identity.witness.bytes
    && digestNonzero identity.profile.bytes && digestNonzero identity.environment.bytes

section

variable (identity : PhaseIdentity)

theorem PhaseIdentity.length_bytes : identity.bytes.length = 128 := by
  simp [bytes, Octets.width]

theorem PhaseIdentity.windows :
    window identity.bytes 0 32 = identity.transaction.bytes
      ∧ window identity.bytes 32 32 = identity.witness.bytes
      ∧ window identity.bytes 64 32 = identity.profile.bytes
      ∧ window identity.bytes 96 32 = identity.environment.bytes := by
  obtain ⟨⟨transaction, one⟩, ⟨witness, two⟩, ⟨profile, three⟩, ⟨environment, four⟩⟩ := identity
  simp only [bytes, append_assoc]
  refine ⟨?_, ?_, ?_, ?_⟩
  · rw [window_append_left _ _ (by omega), window_zero one]
  · rw [window_append_beyond _ _ (by omega), one, window_append_left _ _ (by omega),
      window_zero two]
  · rw [window_append_beyond _ _ (by omega), one, window_append_beyond _ _ (by omega), two,
      window_append_left _ _ (by omega), window_zero three]
  · rw [window_append_beyond _ _ (by omega), one, window_append_beyond _ _ (by omega), two,
      window_append_beyond _ _ (by omega), three, window_zero four]

theorem PhaseIdentity.identityValid_bytes :
    identityValid identity.bytes = identity.valid := by
  obtain ⟨transaction, witness, profile, environment⟩ := identity.windows
  rw [identityValid, transaction, witness, profile, environment, valid]

end

def PhaseState.controllerReportReady (state : PhaseState) : Bool :=
  decide (state.startedAttested = 1 ∧ state.candidateReleaseAuthorized = 1
    ∧ state.firstCause.kind ≠ 0 ∧ state.firstCause.monotonicSequence ≠ 0
    ∧ state.finalityMask = controllerFinalityMask)

/-! ## What the report's evidence must satisfy -/

def CandidateTermination.shapeValid (t : CandidateTermination) : Bool :=
  if t.kind = terminationExit then decide (t.exitCode ≤ 255 ∧ t.signalNumber = unset)
  else if t.kind = terminationSignal then
    decide (t.exitCode = unset ∧ 0 < t.signalNumber ∧ t.signalNumber < nsig)
  else
    decide (t.kind = terminationSupervisorKill ∧ t.exitCode = unset ∧ t.signalNumber = sigkill)

def StreamMeasurement.shapeValid (m : StreamMeasurement) (exactLimit : UInt64) : Bool :=
  decide (m.limitBytes = exactLimit) && m.encode.isSome

def ScratchMeasurement.shapeValid (m : ScratchMeasurement) : Bool :=
  decide (m.limitBytes = scratchBytes ∧ m.limitEntries = scratchEntries) && m.encode.isSome

def AllocatorSnapshot.shapeValid (a : AllocatorSnapshot) (notifications : UInt8)
    (reason : UInt16) : Bool :=
  decide (a.ceilingBytes = runtimeHeapBytes ∧ a.currentBytes ≤ a.peakBytes
    ∧ a.peakBytes ≤ a.ceilingBytes ∧ a.ceilingDenied ≤ 1 ∧ a.systemAllocationFailed = 0
    ∧ a.statusNotificationFailed = 0 ∧ notifications ≤ 1 ∧ notifications = a.ceilingDenied
    ∧ (reason = memoryLimit ↔ a.ceilingDenied ≠ 0))

def maximumOutput (stdout stderr : StreamMeasurement) : UInt64 :=
  let first := if stdout.limitCrossed ≠ 0 then stdout.observedBytes else 0
  if stderr.limitCrossed ≠ 0 ∧ first < stderr.observedBytes then stderr.observedBytes else first

/-- The `switch` of `reason_evidence_valid`. -/
def explains (reason : UInt16) (cause : FirstCause) (t : CandidateTermination)
    (stdout stderr : StreamMeasurement) (metrics : CandidateMetrics)
    (allocator : AllocatorSnapshot) : Bool :=
  if reason = expectedExit then
    decide (t.kind = terminationExit ∧ t.exitCode = 0 ∧ cause.observedValue = 0)
  else if reason = unexpectedExit then
    decide (t.kind = terminationExit ∧ t.exitCode ≠ 0
      ∧ cause.observedValue = t.exitCode.toUInt64)
  else if reason = signalReason then
    decide (t.kind = terminationSignal ∧ t.signalNumber ≠ sigxcpu ∧ t.signalNumber ≠ sigsys
      ∧ cause.observedValue = t.signalNumber.toUInt64)
  else if reason = wallTimeout then
    decide (t.kind = terminationSupervisorKill ∧ cause.observedValue = wallTimeMs
      ∧ wallTimeMs ≤ metrics.wallTimeMs)
  else if reason = cpuLimit then
    decide (t.kind = terminationSignal ∧ t.signalNumber = sigxcpu
      ∧ cause.observedValue = sigxcpu.toUInt64)
  else if reason = memoryLimit then
    decide ((t.kind = terminationSupervisorKill ∨ (t.kind = terminationExit ∧ t.exitCode ≠ 0))
      ∧ cause.observedValue ≠ 0 ∧ cause.observedValue ≤ allocator.peakBytes)
  else if reason = outputLimit then
    decide (t.kind = terminationSupervisorKill ∧ cause.observedValue ≠ 0
      ∧ cause.observedValue ≤ maximumOutput stdout stderr)
  else if reason = sandboxPolicyViolation then
    decide (t.kind = terminationSignal ∧ t.signalNumber = sigsys
      ∧ cause.observedValue = sigsys.toUInt64)
  else false

def reasonEvidenceValid (reason : UInt16) (cause : FirstCause) (t : CandidateTermination)
    (stdout stderr : StreamMeasurement) (metrics : CandidateMetrics)
    (allocator : AllocatorSnapshot) : Bool :=
  decide (cause.kind = reason ∧ cause.monotonicSequence ≠ 0 ∧ expectedExit ≤ reason
      ∧ reason ≤ sandboxPolicyViolation ∧ reason ≠ scratchLimit)
    && t.shapeValid
    && decide (reason = outputLimit ↔ stdout.limitCrossed ≠ 0 ∨ stderr.limitCrossed ≠ 0)
    && explains reason cause t stdout stderr metrics allocator

/-! ## The records in bytes -/

theorem checked_eq_some {valid : Bool} {output encoded : Bytes} {check : Bytes → Bool}
    (made : (if valid then if check output then some output else none else none) = some encoded) :
    valid = true ∧ encoded = output ∧ check encoded = true := by
  split at made
  · rename_i sound
    split at made
    · rename_i checked
      cases made
      exact ⟨sound, rfl, checked⟩
    · cases made
  · cases made

section
variable {m : StreamMeasurement} {encoded : Bytes}

theorem StreamMeasurement.spans_fields (m : StreamMeasurement) :
    spans m.fields = [(0, 8), (8, 8), (16, 8), (24, 32), (56, 1), (57, 1)] := by
  simp [spans, fields, m.prefixDigest.width]

theorem stream_apart : Apart 64 [(0, 8), (8, 8), (16, 8), (24, 32), (56, 1), (57, 1)] := by decide

theorem StreamMeasurement.encode_eq_some (made : m.encode = some encoded) :
    m.valid = true ∧ encoded = fill 64 m.fields ∧ streamValid encoded = true := checked_eq_some made

theorem StreamMeasurement.laid (m : StreamMeasurement) :
    Laid 64 [(0, 8), (8, 8), (16, 8), (24, 32), (56, 1), (57, 1)] m.fields (fill 64 m.fields) :=
  ⟨m.spans_fields, stream_apart, rfl⟩

theorem StreamMeasurement.length_encode (made : m.encode = some encoded) : encoded.length = 64 := by
  obtain ⟨-, rfl, -⟩ := encode_eq_some made
  exact m.laid.length

theorem StreamMeasurement.fill_reads (m : StreamMeasurement) :
    getU64 (fill 64 m.fields) 0 = m.observedBytes ∧ getU64 (fill 64 m.fields) 8 = m.hashedBytes
      ∧ getU64 (fill 64 m.fields) 16 = m.limitBytes
      ∧ window (fill 64 m.fields) 24 32 = m.prefixDigest.bytes
      ∧ byteAt (fill 64 m.fields) 56 = m.limitCrossed
      ∧ byteAt (fill 64 m.fields) 57 = m.eofObserved :=
  have laid := m.laid
  ⟨laid.u64 (by simp [fields]), laid.u64 (by simp [fields]), laid.u64 (by simp [fields]),
    laid.field (by simp [fields]) m.prefixDigest.width, laid.byte (by simp [fields]),
    laid.byte (by simp [fields])⟩

theorem StreamMeasurement.read_encode (made : m.encode = some encoded) :
    read ⟨encoded, length_encode made⟩ = m := by
  obtain ⟨-, rfl, -⟩ := encode_eq_some made
  obtain ⟨observed, hashed, limit, digest, crossed, eof⟩ := m.fill_reads
  rw [StreamMeasurement.ext_iff, Octets.ext_iff, read_observedBytes, read_hashedBytes,
    read_limitBytes, read_prefixDigest, read_limitCrossed, read_eofObserved]
  exact ⟨observed, hashed, limit, digest, crossed, eof⟩

end

variable {i : Nat}

theorem stream_outside : ∀ i < 64,
    ¬ Covered [(0, 8), (8, 8), (16, 8), (24, 32), (56, 1), (57, 1)] i → 58 ≤ i := by decide

theorem getElem?_of_bytesZero {input : Bytes} {offset n : Nat} (inside : offset + n ≤ input.length)
    (zero : bytesZero (window input offset n) = true) (low : offset ≤ i)
    (high : i < offset + n) : input[i]? = some 0 := by
  obtain ⟨k, rfl⟩ := Nat.exists_eq_add_of_le low
  have here : k < n := by omega
  have same := congrArg (fun bytes => bytes[k]?) ((bytesZero_window inside).mp zero)
  simp only [getElem?_window, if_pos here, List.getElem?_replicate] at same
  exact same

theorem getElem?_of_byteAt {input : Bytes} {offset : Nat} (inside : offset < input.length) :
    input[offset]? = some (byteAt input offset) := by
  rw [byteAt, getD_eq_getElem?_getD, List.getElem?_eq_getElem inside, Option.getD_some]

theorem boolean_iff {value : UInt8} : boolean value = true ↔ value ≤ 1 := by
  have one : (1 : UInt8).toNat = 1 := rfl
  have zero : (0 : UInt8).toNat = 0 := rfl
  simp only [boolean, Bool.or_eq_true, decide_eq_true_eq, ← UInt8.toNat_inj,
    UInt8.le_iff_toNat_le, one, zero]
  omega

theorem StreamMeasurement.encode_read {stream : Octets 64} (checked : streamValid stream.bytes = true)
    (counted : (read stream).hashedBytes = (read stream).expectedHashed) :
    (read stream).encode = some stream.bytes := by
  obtain ⟨stream, length⟩ := stream
  have facts := checked
  simp only [streamValid, Bool.and_eq_true, decide_eq_true_eq, decide_eq_decide] at facts
  obtain ⟨⟨⟨⟨⟨⟨⟨⟨limited, -⟩, -⟩, -⟩, crossed⟩, ended⟩, plain⟩, zero⟩, told⟩ := facts
  have written : fill streamMeasurementBytes (read ⟨stream, length⟩).fields = stream := by
    refine fill_eq (spans_fields _) stream_apart length ?_ ?_
    · intro field member
      simp only [fields, mem_cons, not_mem_nil, or_false] at member
      rcases member with rfl | rfl | rfl | rfl | rfl | rfl
      rotate_left 3
      · rw [(read ⟨stream, length⟩).prefixDigest.width]
        rfl
      all_goals first
        | exact (putU64_getU64 (by omega)).symm
        | exact window_byteAt (by omega)
    · intro i small outside
      rcases Nat.eq_or_lt_of_le (stream_outside i small outside) with rfl | later
      · rw [getElem?_of_byteAt (by omega), plain]
      · exact getElem?_of_bytesZero (by omega) zero later (by omega)
  have valid : (read ⟨stream, length⟩).valid = true := by
    rw [StreamMeasurement.valid, decide_eq_true_eq]
    exact ⟨limited, ended, boolean_iff.mp crossed, counted, told⟩
  unfold encode
  rw [if_pos valid]
  dsimp only
  rw [written, if_pos checked]

section
variable {m : ScratchMeasurement} {encoded : Bytes}

theorem ScratchMeasurement.spans_fields (m : ScratchMeasurement) :
    spans m.fields = [(0, 8), (8, 8), (16, 8), (24, 8), (32, 1), (33, 1), (34, 1)] := by
  simp [spans, fields]

theorem scratch_apart :
    Apart 40 [(0, 8), (8, 8), (16, 8), (24, 8), (32, 1), (33, 1), (34, 1)] := by decide

theorem scratch_outside : ∀ i < 40,
    ¬ Covered [(0, 8), (8, 8), (16, 8), (24, 8), (32, 1), (33, 1), (34, 1)] i → 35 ≤ i := by decide

theorem ScratchMeasurement.encode_eq_some (made : m.encode = some encoded) :
    m.valid = true ∧ encoded = fill 40 m.fields ∧ scratchValid encoded = true :=
  checked_eq_some made

theorem ScratchMeasurement.laid (m : ScratchMeasurement) :
    Laid 40 [(0, 8), (8, 8), (16, 8), (24, 8), (32, 1), (33, 1), (34, 1)] m.fields
      (fill 40 m.fields) := ⟨m.spans_fields, scratch_apart, rfl⟩

theorem ScratchMeasurement.length_encode (made : m.encode = some encoded) :
    encoded.length = 40 := by
  obtain ⟨-, rfl, -⟩ := encode_eq_some made
  exact m.laid.length

theorem ScratchMeasurement.fill_reads (m : ScratchMeasurement) :
    getU64 (fill 40 m.fields) 0 = m.storedRegularBytes
      ∧ getU64 (fill 40 m.fields) 8 = m.storedEntries
      ∧ getU64 (fill 40 m.fields) 16 = m.limitBytes ∧ getU64 (fill 40 m.fields) 24 = m.limitEntries
      ∧ byteAt (fill 40 m.fields) 32 = m.byteCapacityExhausted
      ∧ byteAt (fill 40 m.fields) 33 = m.entryCapacityExhausted
      ∧ byteAt (fill 40 m.fields) 34 = m.inventoryComplete :=
  have laid := m.laid
  ⟨laid.u64 (by simp [fields]), laid.u64 (by simp [fields]), laid.u64 (by simp [fields]),
    laid.u64 (by simp [fields]), laid.byte (by simp [fields]), laid.byte (by simp [fields]),
    laid.byte (by simp [fields])⟩

theorem ScratchMeasurement.read_encode (made : m.encode = some encoded) :
    read ⟨encoded, length_encode made⟩ = m := by
  obtain ⟨-, rfl, -⟩ := encode_eq_some made
  obtain ⟨bytes, entries, limitBytes, limitEntries, byteFlag, entryFlag, complete⟩ := m.fill_reads
  rw [ScratchMeasurement.ext_iff, read_storedRegularBytes, read_storedEntries, read_limitBytes,
    read_limitEntries, read_byteCapacityExhausted, read_entryCapacityExhausted,
    read_inventoryComplete]
  exact ⟨bytes, entries, limitBytes, limitEntries, byteFlag, entryFlag, complete⟩

end

theorem ScratchMeasurement.encode_read {scratch : Octets 40}
    (checked : scratchValid scratch.bytes = true) :
    (read scratch).encode = some scratch.bytes := by
  obtain ⟨scratch, length⟩ := scratch
  have facts := checked
  simp only [scratchValid, Bool.and_eq_true, decide_eq_true_eq] at facts
  obtain ⟨⟨⟨⟨⟨⟨⟨limitBytes, limitEntries⟩, bytes⟩, entries⟩, exhausted⟩, exhausted'⟩, complete⟩,
    zero⟩ := facts
  have written : fill scratchMeasurementBytes (read ⟨scratch, length⟩).fields = scratch := by
    refine fill_eq (spans_fields _) scratch_apart length ?_ ?_
    · intro field member
      simp only [fields, mem_cons, not_mem_nil, or_false] at member
      rcases member with rfl | rfl | rfl | rfl | rfl | rfl | rfl <;> first
        | exact (putU64_getU64 (by omega)).symm
        | exact window_byteAt (by omega)
    · intro i small outside
      exact getElem?_of_bytesZero (by omega) zero (scratch_outside i small outside) (by omega)
  have valid : (read ⟨scratch, length⟩).valid = true := by
    rw [ScratchMeasurement.valid, decide_eq_true_eq]
    exact ⟨limitBytes, limitEntries, bytes, entries, boolean_iff.mp exhausted,
      boolean_iff.mp exhausted', complete⟩
  unfold encode
  rw [if_pos valid]
  dsimp only
  rw [written, if_pos checked]

section
variable (metrics : CandidateMetrics) (allocator : AllocatorSnapshot)

def resourceLayout : List (Nat × Nat) :=
  [(0, 8), (8, 8), (16, 8), (24, 8), (32, 8), (40, 8), (48, 8), (56, 8), (64, 8), (72, 8), (80, 1)]

theorem spans_resource : spans (resourceFields metrics allocator) = resourceLayout := by
  simp [spans, resourceFields, resourceLayout]

theorem resource_apart : Apart 88 resourceLayout := by decide

theorem resource_outside : ∀ i < 88, ¬ Covered resourceLayout i → 81 ≤ i := by decide

end

variable {allocator : AllocatorSnapshot}

theorem encodeResource_eq_some {metrics : CandidateMetrics}
    {encoded : Bytes} (made : encodeResource metrics allocator = some encoded) :
    encoded = fill 88 (resourceFields metrics allocator) ∧ resourceValid encoded = true := by
  unfold encodeResource at made
  dsimp only at made
  split at made
  · rename_i checked
    have same := Option.some.inj made
    rw [same] at checked
    exact ⟨same.symm, checked⟩
  · cases made

theorem laid_resource {metrics : CandidateMetrics} :
    Laid 88 resourceLayout (resourceFields metrics allocator)
      (fill 88 (resourceFields metrics allocator)) := ⟨spans_resource _ _, resource_apart, rfl⟩

theorem encodeResource_read {resource : Bytes}
    (length : resource.length = 88) (checked : resourceValid resource = true)
    (space : getU64 resource 32 = addressSpaceBytes) (peak : getU64 resource 40 = allocator.peakBytes)
    (ceiling : getU64 resource 48 = allocator.ceilingBytes)
    (processes : getU64 resource 56 = maxProcesses) (files : getU64 resource 64 = maxOpenFiles)
    (size : getU64 resource 72 = maxFileBytes)
    (denied : byteAt resource 80 = allocator.ceilingDenied) :
    encodeResource (.read resource) allocator = some resource := by
  have zero : bytesZero (window resource 81 7) = true := by
    simp only [resourceValid, Bool.and_eq_true] at checked
    exact checked.2
  have written : fill resourceMeasurementBytes (resourceFields (.read resource) allocator)
      = resource := by
    refine fill_eq (spans_resource _ _) resource_apart length ?_ ?_
    · intro field member
      simp only [resourceFields, ← space, ← peak, ← ceiling, ← processes, ← files, ← size, ← denied,
        mem_cons, not_mem_nil, or_false] at member
      rcases member with rfl | rfl | rfl | rfl | rfl | rfl | rfl | rfl | rfl | rfl | rfl <;> first
        | exact (putU64_getU64 (by omega)).symm
        | exact window_byteAt (by omega)
    · intro i small outside
      exact getElem?_of_bytesZero (by omega) zero (resource_outside i small outside) (by omega)
  unfold encodeResource
  dsimp only
  rw [written, if_pos checked]

end Proc17.Native.Wire
