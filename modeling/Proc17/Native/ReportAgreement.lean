import Proc17.Native.ControllerReport

/-!
# Builder and validator of the private report

Which reports the validator takes, against those that the builder makes: they differ only in
how much of a stream a report may leave unhashed.
-/

namespace Proc17.Native.Wire

open Lua Layout List Native.Wire.StreamMeasurement

/-! ## What a built report holds -/

structure Built (input : ControllerReportInput) (report : Octets 572) where
  stdout : Bytes
  stderr : Bytes
  resource : Bytes
  scratch : Bytes
  accepted : input.accepted = true
  stdoutMade : input.stdoutMeasurement.encode = some stdout
  stderrMade : input.stderrMeasurement.encode = some stderr
  resourceMade : encodeResource input.candidateMetrics input.allocator = some resource
  scratchMade : input.scratch.encode = some scratch
  filled : report.bytes = fill 572 (input.fields stdout stderr resource scratch)

variable {report : Octets 572}

theorem built_iff {input : ControllerReportInput} :
    controllerReportBuild input = some report.bytes ↔ Nonempty (Built input report) := by
  unfold controllerReportBuild
  constructor
  · intro made
    split at made
    · rename_i accepted
      simp only [Option.bind_eq_bind, Option.bind_eq_some_iff, Option.some.injEq] at made
      obtain ⟨stdout, stdoutMade, stderr, stderrMade, resource, resourceMade, scratch, scratchMade,
        filled⟩ := made
      exact ⟨⟨stdout, stderr, resource, scratch, accepted, stdoutMade, stderrMade, resourceMade,
        scratchMade, filled.symm⟩⟩
    · cases made
  · rintro ⟨built⟩
    rw [if_pos built.accepted]
    simp only [Option.bind_eq_bind, Option.bind_eq_some_iff, Option.some.injEq]
    exact ⟨_, built.stdoutMade, _, built.stderrMade, _, built.resourceMade, _, built.scratchMade,
      built.filled.symm⟩

variable {kind : UInt16} {n offset : Nat}

theorem headValid_of_laid {bytes : Bytes} {identity : PhaseIdentity} {token : Octets 32}
    {layout : List (Nat × Nat)} {rest : List (Nat × Bytes)}
    (laid : Laid 572 layout (headFields kind identity token ++ rest) bytes)
    (plain : bytesZero (window bytes 14 2) = true) (identified : identity.valid = true) (nonzero : digestNonzero token.bytes = true) :
    headValid kind bytes = true := by
  unfold headFields at laid
  have whole : window bytes 16 identityBytes = identity.bytes :=
    laid.field (by simp) identity.length_bytes
  have magical : window bytes 0 8 = reportMagic := laid.field (by simp) rfl
  have versioned : getU16 bytes 8 = reportVersion := laid.u16 (by simp)
  have sized : getU16 bytes 10 = UInt16.ofNat reportBytes := laid.u16 (by simp)
  have kinded : getU16 bytes 12 = kind := laid.u16 (by simp)
  have told : window bytes 144 digestBytes = token.bytes := laid.field (by simp) token.width
  have checked : identityValid identity.bytes = true := by
    rw [PhaseIdentity.identityValid_bytes, identified]
  simp only [headValid, whole, told, checked, nonzero, plain, magical, versioned, sized, kinded,
    and_self, decide_true, Bool.and_self]

namespace Built

def writes {input : ControllerReportInput} {report : Octets 572} (built : Built input report) :
    List (Nat × Bytes) :=
  input.fields built.stdout built.stderr built.resource built.scratch

variable {input : ControllerReportInput} (built : Built input report)
include built

theorem laid : Laid 572 resultLayout built.writes report.bytes where
  shape := by
    have resource : built.resource.length = 88 := by
      rw [(encodeResource_eq_some built.resourceMade).1]
      exact laid_resource.length
    exact spans_result (length_encode built.stdoutMade) (length_encode built.stderrMade) resource
      (ScratchMeasurement.length_encode built.scratchMade)
  apart := result_apart
  filled := built.filled

theorem stdoutWindow : window report.bytes 232 64 = built.stdout :=
  built.laid.field (by simp [writes, ControllerReportInput.fields]) (length_encode built.stdoutMade)

theorem stderrWindow : window report.bytes 296 64 = built.stderr :=
  built.laid.field (by simp [writes, ControllerReportInput.fields]) (length_encode built.stderrMade)

theorem scratchWindow : window report.bytes 448 40 = built.scratch :=
  built.laid.field (by simp [writes, ControllerReportInput.fields])
    (ScratchMeasurement.length_encode built.scratchMade)

theorem resourceWindow : window report.bytes 360 88 = built.resource := by
  refine built.laid.field (by simp [writes, ControllerReportInput.fields]) ?_
  rw [(encodeResource_eq_some built.resourceMade).1]
  exact laid_resource.length

theorem resourceLaid : Laid 88 resourceLayout
    (resourceFields input.candidateMetrics input.allocator) (window report.bytes 360 88) := by
  rw [built.resourceWindow, (encodeResource_eq_some built.resourceMade).1]
  exact laid_resource

theorem stageWindow : window report.bytes 488 84 = input.sourceStage.bytes :=
  built.laid.field (by simp [writes, ControllerReportInput.fields]) input.sourceStage.width

theorem evidence : Evidence.read report =
    { reason := input.phase.firstCause.kind
      termination := input.termination
      cause := input.phase.firstCause
      stdout := input.stdoutMeasurement
      stderr := input.stderrMeasurement
      metrics := input.candidateMetrics
      allocator := input.allocator
      notifications := input.heapDeniedNotifications } := by
  have laid := built.laid
  unfold writes ControllerReportInput.fields at laid
  have told := built.resourceLaid
  unfold resourceFields at told
  have denied : byteAt (window report.bytes 360 88) 80 = input.allocator.ceilingDenied :=
    told.byte (by simp)
  have stdout : (Octets.read report.bytes 232 64 (inside report (by decide)))
      = ⟨built.stdout, length_encode built.stdoutMade⟩ :=
    Octets.ext built.stdoutWindow
  have stderr : (Octets.read report.bytes 296 64 (inside report (by decide)))
      = ⟨built.stderr, length_encode built.stderrMade⟩ :=
    Octets.ext built.stderrWindow
  have reason : getU16 report.bytes 176
      = input.phase.firstCause.kind := laid.u16 (by simp)
  have kind : getU16 report.bytes 178
      = input.termination.kind := laid.u16 (by simp)
  have code : getU32 report.bytes 180
      = input.termination.exitCode := laid.u32 (by simp)
  have signal : getU32 report.bytes 184
      = input.termination.signalNumber := laid.u32 (by simp)
  have cause : getU16 report.bytes 188
      = input.phase.firstCause.kind := laid.u16 (by simp)
  have sequence : getU64 report.bytes 192
      = input.phase.firstCause.monotonicSequence := laid.u64 (by simp)
  have observed : getU64 report.bytes 200
      = input.phase.firstCause.observedValue := laid.u64 (by simp)
  have current : getU64 report.bytes 224
      = input.allocator.currentBytes := laid.u64 (by simp)
  have wall : getU64 (window report.bytes 360 88) 0
      = input.candidateMetrics.wallTimeMs := told.u64 (by simp)
  have user : getU64 (window report.bytes 360 88) 8
      = input.candidateMetrics.cpuUserMs := told.u64 (by simp)
  have system : getU64 (window report.bytes 360 88) 16
      = input.candidateMetrics.cpuSystemMs := told.u64 (by simp)
  have rss : getU64 (window report.bytes 360 88) 24
      = input.candidateMetrics.maxRssBytes := told.u64 (by simp)
  have peak : getU64 (window report.bytes 360 88) 40
      = input.allocator.peakBytes := told.u64 (by simp)
  have ceiling : getU64 (window report.bytes 360 88) 48
      = input.allocator.ceilingBytes := told.u64 (by simp)
  have notified : byteAt report.bytes 217 = input.heapDeniedNotifications := laid.byte (by simp)
  have failed : byteAt report.bytes 218 = input.allocator.systemAllocationFailed := laid.byte (by simp)
  have unsent : byteAt report.bytes 219 = input.allocator.statusNotificationFailed := laid.byte (by simp)
  simp only [Evidence.read, resourceMeasurementBytes, CandidateMetrics.read, reason, kind, code,
    signal, cause, sequence, observed, current, wall, user, system, rss, peak, ceiling, notified,
    failed, unsent, denied]
  rw [stdout, stderr, read_encode built.stdoutMade, read_encode built.stderrMade]

theorem head : headValid terminalResult report.bytes = true := by
  have checks := built.accepted
  simp only [ControllerReportInput.accepted, Bool.and_eq_true] at checks
  obtain ⟨⟨⟨⟨⟨⟨⟨⟨⟨-, identity⟩, token⟩, -⟩, -⟩, -⟩, -⟩, -⟩, -⟩, -⟩ := checks
  exact headValid_of_laid built.laid (built.laid.zero (by decide) (by decide +kernel)) identity token

theorem policy : policyStated report.bytes = true := by
  have checks := built.accepted
  simp only [ControllerReportInput.accepted, Bool.and_eq_true] at checks
  obtain ⟨⟨⟨⟨-, scratch⟩, -⟩, allocator⟩, -⟩ := checks
  have told := built.resourceLaid
  unfold resourceFields at told
  have read := ScratchMeasurement.read_encode built.scratchMade
  have limitBytes := congrArg ScratchMeasurement.limitBytes read
  have limitEntries := congrArg ScratchMeasurement.limitEntries read
  rw [ScratchMeasurement.read_limitBytes] at limitBytes
  rw [ScratchMeasurement.read_limitEntries] at limitEntries
  simp only [ScratchMeasurement.shapeValid, Bool.and_eq_true, decide_eq_true_eq] at scratch
  simp only [AllocatorSnapshot.shapeValid, decide_eq_true_eq] at allocator
  rw [policyStated, decide_eq_true_eq, resourceMeasurementBytes, scratchMeasurementBytes,
    built.scratchWindow]
  refine ⟨told.u64 (by simp), ?_, told.u64 (by simp), told.u64 (by simp), told.u64 (by simp),
    limitBytes.trans scratch.1.1, limitEntries.trans scratch.1.2⟩
  rw [← allocator.1]
  exact told.u64 (by simp)

theorem finality : (List.range 7).all (fun index => decide (byteAt report.bytes (208 + index) = 1))
    = true := by
  rw [all_eq_true]
  intro index member
  have small := mem_range.mp member
  have ones : window report.bytes (208 + index) 1 = [1] := by
    rw [built.laid.part (by simp [writes, ControllerReportInput.fields] :
        (208, List.replicate 7 1) ∈ built.writes) (by rw [length_replicate]; omega),
      window, drop_replicate, take_replicate, Nat.min_eq_left (by omega)]
    rfl
  rw [byteAt_of_window ones]
  rfl

theorem valid : privateResultValid report = true := by
  have checks := built.accepted
  simp only [ControllerReportInput.accepted, Bool.and_eq_true, decide_eq_true_eq] at checks
  obtain ⟨⟨⟨⟨⟨⟨⟨⟨⟨-, -⟩, -⟩, -⟩, stdout⟩, stderr⟩, -⟩, stage⟩, allocator⟩, evidence⟩ := checks
  have shape := allocator
  simp only [AllocatorSnapshot.shapeValid, decide_eq_true_eq] at shape
  obtain ⟨-, -, -, -, system, unsent, notified, -, -⟩ := shape
  simp only [StreamMeasurement.shapeValid, Bool.and_eq_true, decide_eq_true_eq] at stdout stderr
  have laid := built.laid
  unfold writes ControllerReportInput.fields at laid
  have plain : bytesZero (window report.bytes 190 2) = true :=
    laid.zero (by decide) (by decide +kernel)
  have plain' : bytesZero (window report.bytes 220 4) = true :=
    laid.zero (by decide) (by decide +kernel)
  have bytes : byteAt report.bytes 215 = 1 ∧ byteAt report.bytes 216 = 1
      ∧ byteAt report.bytes 217 ≤ 1 ∧ byteAt report.bytes 219 = 0 := by
    refine ⟨laid.byte (by simp), laid.byte (by simp), ?_, ?_⟩
    · rw [laid.byte (by simp : (217, [input.heapDeniedNotifications]) ∈ _)]
      exact notified
    · rw [laid.byte (by simp : (219, [input.allocator.statusNotificationFailed]) ∈ _)]
      exact unsent
  have failed : boolean (byteAt report.bytes 218) = true := by
    rw [laid.byte (by simp : (218, [input.allocator.systemAllocationFailed]) ∈ _), system]
    rfl
  have streams := (encode_eq_some built.stdoutMade).2.2
  have streams' := (encode_eq_some built.stderrMade).2.2
  have resource := (encodeResource_eq_some built.resourceMade).2
  have scratch := (ScratchMeasurement.encode_eq_some built.scratchMade).2.2
  simp only [privateResultValid, built.evidence, streamMeasurementBytes, resourceMeasurementBytes,
    scratchMeasurementBytes, sourceStageBytes, built.head, plain, plain', bytes, failed,
    built.finality, built.stdoutWindow, built.stderrWindow, built.resourceWindow,
    built.scratchWindow, built.stageWindow, streams, streams', resource, scratch, stage,
    built.policy, stdout.1, stderr.1, allocator, evidence, and_self, decide_true, Bool.and_self]

end Built

/-! ## From a checked report back to an input -/

def StreamsExact (report : Octets 572) : Prop :=
  let evidence := Evidence.read report
  evidence.stdout.hashedBytes = evidence.stdout.expectedHashed
    ∧ evidence.stderr.hashedBytes = evidence.stderr.expectedHashed

instance (report : Octets 572) : Decidable (StreamsExact report) :=
  inferInstanceAs (Decidable (_ ∧ _))

def PhaseIdentity.read (report : Octets 572) : PhaseIdentity where
  transaction := .read report.bytes 16 32 (inside report (by decide))
  witness := .read report.bytes 48 32 (inside report (by decide))
  profile := .read report.bytes 80 32 (inside report (by decide))
  environment := .read report.bytes 112 32 (inside report (by decide))

def ControllerReportInput.read (report : Octets 572) : ControllerReportInput :=
  let evidence := Evidence.read report
  { identity := .read report
    processToken := .read report.bytes 144 32 (inside report (by decide))
    phase :=
      { nextSequence := evidence.cause.monotonicSequence
        firstCause := evidence.cause
        finalityMask := controllerFinalityMask
        startedAttested := 1
        candidateReleaseAuthorized := 1 }
    termination := evidence.termination
    stdoutMeasurement := evidence.stdout
    stderrMeasurement := evidence.stderr
    candidateMetrics := evidence.metrics
    allocator := evidence.allocator
    scratch := .read (.read report.bytes 448 40 (inside report (by decide)))
    sourceStage := .read report.bytes 488 84 (inside report (by decide))
    statusEofObserved := 1
    allocatorObservationStable := 1
    heapDeniedNotifications := evidence.notifications }

theorem PhaseIdentity.bytes_read (report : Octets 572) :
    (PhaseIdentity.read report).bytes = window report.bytes 16 128 := by
  have split : ∀ k n : Nat, window report.bytes k (32 + n)
      = window report.bytes k 32 ++ window report.bytes (k + 32) n := by
    intro k n
    rw [window, window, window, take_add, drop_drop]
  rw [split 16 96, split 48 64, split 80 32]
  simp only [bytes, read, Octets.read, append_assoc]

theorem result_outside {i : Nat} (small : i < 572) (outside : ¬ Covered resultLayout i) :
    (14 ≤ i ∧ i < 16) ∨ (190 ≤ i ∧ i < 192) ∨ (220 ≤ i ∧ i < 224) := by
  have all : ∀ i, i < 572 → Covered resultLayout i
      ∨ (14 ≤ i ∧ i < 16) ∨ (190 ≤ i ∧ i < 192) ∨ (220 ≤ i ∧ i < 224) := by decide +kernel
  exact (all i small).resolve_left outside

theorem window_of_getU16 {value : UInt16} (told : getU16 report.bytes offset = value)
    (small : offset + 2 ≤ 572 := by simp) :
    window report.bytes offset (putU16 value).length = putU16 value := by
  rw [length_putU16, ← told, putU16_getU16 (inside report small)]

theorem window_of_getU32 {value : UInt32} (told : getU32 report.bytes offset = value)
    (small : offset + 4 ≤ 572 := by simp) :
    window report.bytes offset (putU32 value).length = putU32 value := by
  rw [length_putU32, ← told, putU32_getU32 (inside report small)]

theorem window_of_getU64 {value : UInt64} (told : getU64 report.bytes offset = value)
    (small : offset + 8 ≤ 572 := by simp) :
    window report.bytes offset (putU64 value).length = putU64 value := by
  rw [length_putU64, ← told, putU64_getU64 (inside report small)]

theorem window_of_byteAt {b : UInt8} (told : byteAt report.bytes offset = b)
    (small : offset < 572 := by simp) :
    window report.bytes offset [b].length = [b] := by
  rw [length_singleton, window_byteAt (by rw [report.width]; exact small), told]

theorem window_read (small : offset + n ≤ report.bytes.length) :
    window report.bytes offset (Octets.read report.bytes offset n small).bytes.length
      = (Octets.read report.bytes offset n small).bytes := by
  rw [Octets.width]
  rfl

theorem window_of_finality
    (ones : (List.range 7).all (fun index => decide (byteAt report.bytes (208 + index) = 1)) = true) :
    window report.bytes 208 (List.replicate 7 (1 : UInt8)).length = List.replicate 7 1 := by
  have length : (window report.bytes 208 7).length = 7 := length_window (inside report (by decide))
  rw [length_replicate, eq_replicate_iff]
  refine ⟨length, ?_⟩
  intro b member
  obtain ⟨k, small, rfl⟩ := mem_iff_getElem.mp member
  have short : k < 7 := length ▸ small
  have told : byteAt report.bytes (208 + k) = 1 :=
    of_decide_eq_true (all_eq_true.mp ones k (mem_range.mpr short))
  have here : (window report.bytes 208 7)[k]? = some 1 := by
    rw [getElem?_window, if_pos short, getElem?_of_byteAt (by rw [report.width]; omega), told]
  exact Option.some.inj ((List.getElem?_eq_getElem _).symm.trans here)

theorem window_of_head (head : headValid kind report.bytes = true) :
    ∀ field ∈ headFields kind (.read report)
        (.read report.bytes 144 32 (inside report (by decide))),
      window report.bytes field.1 field.2.length = field.2 := by
  simp only [headValid, Bool.and_eq_true, decide_eq_true_eq] at head
  obtain ⟨⟨⟨⟨magical, versioned, sized, kinded⟩, -⟩, -⟩, -⟩ := head
  intro field member
  simp only [headFields, mem_cons, not_mem_nil, or_false] at member
  rcases member with rfl | rfl | rfl | rfl | rfl | rfl
  · exact magical
  · exact window_of_getU16 versioned
  · exact window_of_getU16 sized
  · exact window_of_getU16 kinded
  · rw [PhaseIdentity.length_bytes, PhaseIdentity.bytes_read]
  · rw [(Octets.read report.bytes 144 32 _).width]
    rfl

theorem identity_of_head (head : headValid kind report.bytes = true) :
    bytesZero (window report.bytes 14 2) = true ∧ (PhaseIdentity.read report).valid = true
      ∧ digestNonzero (window report.bytes 144 32) = true := by
  simp only [headValid, Bool.and_eq_true] at head
  obtain ⟨⟨⟨-, plain⟩, identity⟩, token⟩ := head
  refine ⟨plain, ?_, token⟩
  rw [← PhaseIdentity.identityValid_bytes, PhaseIdentity.bytes_read]
  exact identity

theorem StreamMeasurement.shapeValid_read {stream : Octets 64} {limit : UInt64}
    (checked : streamValid stream.bytes = true)
    (counted : (read stream).hashedBytes = (read stream).expectedHashed)
    (limited : (read stream).limitBytes = limit) : (read stream).shapeValid limit = true := by
  have made := encode_read checked counted
  have encoded : (read stream).encode.isSome = true := Option.isSome_of_eq_some made
  rw [shapeValid, encoded, decide_eq_true limited]
  rfl

theorem records_valid (valid : privateResultValid report = true) :
    streamValid (Octets.read report.bytes 232 64 (inside report (by decide))).bytes = true
      ∧ streamValid (Octets.read report.bytes 296 64 (inside report (by decide))).bytes = true
      ∧ scratchValid (Octets.read report.bytes 448 40 (inside report (by decide))).bytes = true := by
  simp only [privateResultValid, Bool.and_eq_true] at valid
  obtain ⟨⟨⟨⟨⟨⟨⟨⟨⟨-, stdout⟩, stderr⟩, -⟩, scratch⟩, -⟩, -⟩, -⟩, -⟩, -⟩ := valid
  exact ⟨stdout, stderr, scratch⟩

theorem accepted_of_valid (valid : privateResultValid report = true)
    (counted : StreamsExact report) : (ControllerReportInput.read report).accepted = true := by
  obtain ⟨checked, checked', stored⟩ := records_valid valid
  simp only [privateResultValid, Bool.and_eq_true] at valid
  obtain ⟨⟨⟨⟨⟨⟨⟨⟨⟨⟨⟨⟨⟨⟨head, -⟩, -⟩, -⟩, -⟩, -⟩, -⟩, -⟩, -⟩, -⟩, stage⟩, policy⟩,
    limits⟩, allocator⟩, evidence⟩ := valid
  obtain ⟨limit, limit'⟩ := of_decide_eq_true limits
  obtain ⟨-, -, -, -, -, scratchLimit, scratchLimit'⟩ := of_decide_eq_true policy
  obtain ⟨-, identity, token⟩ := identity_of_head head
  have reasoned := evidence
  simp only [reasonEvidenceValid, Bool.and_eq_true, decide_eq_true_eq] at reasoned
  obtain ⟨⟨⟨⟨caused, sequenced, first, -⟩, -⟩, -⟩, -⟩ := reasoned
  have some_reason : (Evidence.read report).cause.kind ≠ 0 := by
    intro none
    rw [← caused, none] at first
    exact absurd first (by decide)
  have ready : (ControllerReportInput.read report).phase.controllerReportReady = true := by
    rw [PhaseState.controllerReportReady, decide_eq_true_eq]
    exact ⟨rfl, rfl, some_reason, sequenced, rfl⟩
  have stdoutShape : (ControllerReportInput.read report).stdoutMeasurement.shapeValid stdoutBytes
      = true := shapeValid_read checked counted.1 limit
  have stderrShape : (ControllerReportInput.read report).stderrMeasurement.shapeValid stderrBytes
      = true := shapeValid_read checked' counted.2 limit'
  have scratchShape : (ControllerReportInput.read report).scratch.shapeValid = true := by
    have made := ScratchMeasurement.encode_read stored
    have told : (ControllerReportInput.read report).scratch.limitBytes = scratchBytes
        ∧ (ControllerReportInput.read report).scratch.limitEntries = scratchEntries :=
      ⟨scratchLimit, scratchLimit'⟩
    have encoded : (ControllerReportInput.read report).scratch.encode.isSome = true :=
      Option.isSome_of_eq_some made
    rw [ScratchMeasurement.shapeValid, encoded, decide_eq_true told]
    rfl
  rw [← caused] at allocator evidence
  simp only [ControllerReportInput.accepted, Bool.and_eq_true]
  exact ⟨⟨⟨⟨⟨⟨⟨⟨⟨decide_eq_true ⟨rfl, rfl⟩, identity⟩, token⟩, ready⟩, stdoutShape⟩, stderrShape⟩,
    scratchShape⟩, stage⟩, allocator⟩, evidence⟩

theorem built_of_valid (valid : privateResultValid report = true) (counted : StreamsExact report) :
    Nonempty (Built (ControllerReportInput.read report) report) := by
  have accepted := accepted_of_valid valid counted
  obtain ⟨checked, checked', stored⟩ := records_valid valid
  simp only [privateResultValid, Bool.and_eq_true] at valid
  obtain ⟨⟨⟨⟨⟨⟨⟨⟨⟨⟨⟨⟨⟨⟨head, plain⟩, switches⟩, -⟩, plain'⟩, ones⟩, -⟩, -⟩, resource⟩, -⟩, -⟩,
    policy⟩, -⟩, -⟩, evidence⟩ := valid
  obtain ⟨ended, stable, -, unsent⟩ := of_decide_eq_true switches
  obtain ⟨space, ceiling, processes, files, size, -⟩ := of_decide_eq_true policy
  have resourceMade : encodeResource (Evidence.read report).metrics
      (Evidence.read report).allocator = some (window report.bytes 360 88) :=
    encodeResource_read (length_window (inside report (by decide))) resource space rfl rfl
      processes files size rfl
  have resourceWidth : (window report.bytes 360 88).length = 88 :=
    length_window (inside report (by decide))
  have caused : (Evidence.read report).cause.kind = (Evidence.read report).reason := by
    simp only [reasonEvidenceValid, Bool.and_eq_true, decide_eq_true_eq] at evidence
    exact evidence.1.1.1.1
  obtain ⟨plainHead, -⟩ := identity_of_head head
  refine ⟨⟨_, _, _, _, accepted, encode_read checked counted.1, encode_read checked' counted.2,
    resourceMade, ScratchMeasurement.encode_read stored, ?_⟩⟩
  refine (fill_eq (spans_result (Octets.width _) (Octets.width _) resourceWidth (Octets.width _))
    result_apart report.width ?_ ?_).symm
  · intro field member
    rcases mem_append.mp member with first | later
    · exact window_of_head head field first
    · simp only [mem_cons, not_mem_nil, or_false] at later
      rcases later with rfl | rfl | rfl | rfl | rfl | rfl | rfl | rfl | rfl | rfl | rfl | rfl | rfl
        | rfl | rfl | rfl | rfl | rfl | rfl
      · exact window_of_getU16 caused.symm
      · exact window_of_getU16 rfl
      · exact window_of_getU32 rfl
      · exact window_of_getU32 rfl
      · exact window_of_getU16 rfl
      · exact window_of_getU64 rfl
      · exact window_of_getU64 rfl
      · exact window_of_finality ones
      · exact window_of_byteAt ended
      · exact window_of_byteAt stable
      · exact window_of_byteAt rfl
      · exact window_of_byteAt rfl
      · exact window_of_byteAt rfl
      · exact window_of_getU64 rfl
      · exact window_read (inside report (by simp))
      · exact window_read (inside report (by simp))
      · exact congrArg (window report.bytes 360) resourceWidth
      · exact window_read (inside report (by simp))
      · exact window_read (inside report (by simp))
  · intro i small outside
    rcases result_outside small outside with ⟨low, high⟩ | ⟨low, high⟩ | ⟨low, high⟩
    · exact getElem?_of_bytesZero (inside report (by decide)) plainHead low high
    · exact getElem?_of_bytesZero (inside report (by decide)) plain low high
    · exact getElem?_of_bytesZero (inside report (by decide)) plain' low high

theorem StreamMeasurement.exact_of_encode {m : StreamMeasurement} {encoded : Bytes}
    (made : m.encode = some encoded) : m.hashedBytes = m.expectedHashed := by
  have valid := (encode_eq_some made).1
  simp only [StreamMeasurement.valid, decide_eq_true_eq] at valid
  exact valid.2.2.2.1

theorem Built.streamsExact {input : ControllerReportInput}
    (built : Built input report) : StreamsExact report := by
  rw [StreamsExact, built.evidence]
  exact ⟨exact_of_encode built.stdoutMade, exact_of_encode built.stderrMade⟩

theorem exists_build_iff (report : Octets 572) :
    (∃ input, controllerReportBuild input = some report.bytes)
      ↔ privateResultValid report = true ∧ StreamsExact report := by
  constructor
  · rintro ⟨input, made⟩
    obtain ⟨built⟩ := built_iff.mp made
    exact ⟨built.valid, built.streamsExact⟩
  · rintro ⟨valid, counted⟩
    exact ⟨.read report, built_iff.mpr (built_of_valid valid counted)⟩

/-! ## Error reports -/

theorem error_outside {i : Nat} (small : i < 572) (outside : ¬ Covered errorLayout i) :
    (14 ≤ i ∧ i < 16) ∨ (180 ≤ i ∧ i < 208) ∨ (216 ≤ i ∧ i < 488) := by
  have all : ∀ i, i < 572 → Covered errorLayout i
      ∨ (14 ≤ i ∧ i < 16) ∨ (180 ≤ i ∧ i < 208) ∨ (216 ≤ i ∧ i < 488) := by decide +kernel
  exact (all i small).resolve_left outside

def ControllerErrorInput.read (report : Octets 572) : ControllerErrorInput where
  identity := .read report
  processToken := .read report.bytes 144 32 (inside report (by decide))
  sourceStage := .read report.bytes 488 84 (inside report (by decide))
  errorCode := getU16 report.bytes 176
  subject := getU16 report.bytes 178
  candidateTerminalObserved := byteAt report.bytes 210
  processTreeReaped := byteAt report.bytes 211
  stdoutEofObserved := byteAt report.bytes 212
  stderrEofObserved := byteAt report.bytes 213
  scratchObservationComplete := byteAt report.bytes 214
  statusEofObserved := byteAt report.bytes 215

theorem expectedFinality_iff (code subject : UInt16) (stdout stderr scratch : UInt8) :
    (if code = outputObservationIncomplete ∧ subject = errorStdout then
        decide (stdout = 0 ∧ stderr = 1 ∧ scratch = 1)
      else if code = outputObservationIncomplete ∧ subject = errorStderr then
        decide (stdout = 1 ∧ stderr = 0 ∧ scratch = 1)
      else decide (code = scratchObservationIncomplete ∧ subject = errorScratch
        ∧ stdout = 1 ∧ stderr = 1 ∧ scratch = 0)) = true
      ↔ expectedFinality code subject = some (stdout, stderr, scratch) := by
  have apart : errorStdout ≠ errorStderr := by decide
  have codes : outputObservationIncomplete ≠ scratchObservationIncomplete := by decide
  have told : ∀ {a b c : UInt8}, decide (stdout = a ∧ stderr = b ∧ scratch = c) = true
      ↔ some (a, b, c) = some (stdout, stderr, scratch) := by
    intro a b c
    rw [decide_eq_true_eq, Option.some.injEq, Prod.mk.injEq, Prod.mk.injEq]
    exact ⟨fun ⟨one, two, three⟩ => ⟨one.symm, two.symm, three.symm⟩,
      fun ⟨one, two, three⟩ => ⟨one.symm, two.symm, three.symm⟩⟩
  unfold expectedFinality
  by_cases output : code = outputObservationIncomplete
  · subst output
    by_cases first : subject = errorStdout
    · subst first
      simp only [true_and, if_true, true_or, if_neg apart, told]
    · by_cases second : subject = errorStderr
      · subst second
        simp only [true_and, if_true, or_true, if_neg first, told]
      · simp only [true_and, first, second, or_self, if_false, codes, false_and, decide_false,
          Bool.false_eq_true, reduceCtorEq]
  · by_cases stored : code = scratchObservationIncomplete ∧ subject = errorScratch
    · simp only [stored, true_and, and_self, if_true]
      simp only [← stored.1, output, false_and, if_false, told]
    · have never : ¬ (code = scratchObservationIncomplete ∧ subject = errorScratch ∧ stdout = 1
          ∧ stderr = 1 ∧ scratch = 0) := fun all => stored ⟨all.1, all.2.1⟩
      simp only [output, false_and, if_false, stored, never, decide_false, Bool.false_eq_true,
        reduceCtorEq]

theorem privateErrorValid_of_build {input : ControllerErrorInput}
    (accepted : input.accepted = true) (filled : report.bytes = fill 572 input.fields) :
    privateErrorValid report = true := by
  simp only [ControllerErrorInput.accepted, Bool.and_eq_true, decide_eq_true_eq] at accepted
  obtain ⟨⟨⟨⟨identity, token⟩, stage⟩, terminal, reaped, ended⟩, finality⟩ := accepted
  have laid : Laid 572 errorLayout input.fields report.bytes := ⟨spans_error input, error_apart, filled⟩
  unfold ControllerErrorInput.fields at laid
  have head : headValid terminalError report.bytes = true :=
    headValid_of_laid laid (laid.zero (by decide) (by decide +kernel)) identity token
  have plain : bytesZero (window report.bytes 180 28) = true :=
    laid.zero (by decide) (by decide +kernel)
  have plain' : bytesZero (window report.bytes 216 272) = true :=
    laid.zero (by decide) (by decide +kernel)
  have staged : window report.bytes 488 sourceStageBytes = input.sourceStage.bytes :=
    laid.field (by simp) input.sourceStage.width
  have code : getU16 report.bytes 176 = input.errorCode := laid.u16 (by simp)
  have subject : getU16 report.bytes 178 = input.subject := laid.u16 (by simp)
  have ones : byteAt report.bytes 208 = 1 ∧ byteAt report.bytes 209 = 1
      ∧ byteAt report.bytes 210 = 1 ∧ byteAt report.bytes 211 = 1 :=
    ⟨laid.byte (by simp), laid.byte (by simp), (laid.byte (by simp)).trans terminal,
      (laid.byte (by simp)).trans reaped⟩
  have last : byteAt report.bytes 215 = 1 := (laid.byte (by simp)).trans ended
  have stdout : byteAt report.bytes 212 = input.stdoutEofObserved := laid.byte (by simp)
  have stderr : byteAt report.bytes 213 = input.stderrEofObserved := laid.byte (by simp)
  have scratch : byteAt report.bytes 214 = input.scratchObservationComplete := laid.byte (by simp)
  simp only [privateErrorValid, head, plain, plain', staged, stage, code, subject, ones, last,
    stdout, stderr, scratch, and_self, decide_true, Bool.and_self, Bool.true_and]
  exact (expectedFinality_iff _ _ _ _ _).mpr finality

theorem errorBuild_read (valid : privateErrorValid report = true) :
    controllerErrorBuild (.read report) = some report.bytes := by
  simp only [privateErrorValid, Bool.and_eq_true] at valid
  obtain ⟨⟨⟨⟨⟨⟨head, plain⟩, last⟩, plain'⟩, stage⟩, ones⟩, cases⟩ := valid
  obtain ⟨one, one', terminal, reaped⟩ := of_decide_eq_true ones
  obtain ⟨plainHead, identity, token⟩ := identity_of_head head
  have accepted : (ControllerErrorInput.read report).accepted = true := by
    simp only [ControllerErrorInput.accepted, Bool.and_eq_true]
    exact ⟨⟨⟨⟨identity, token⟩, stage⟩, decide_eq_true ⟨terminal, reaped, of_decide_eq_true last⟩⟩,
      decide_eq_true ((expectedFinality_iff _ _ _ _ _).mp cases)⟩
  rw [controllerErrorBuild, if_pos accepted]
  refine congrArg some (fill_eq (spans_error _) error_apart report.width ?_ ?_)
  · intro field member
    rcases mem_append.mp member with first | later
    · exact window_of_head head field first
    · simp only [mem_cons, not_mem_nil, or_false] at later
      rcases later with rfl | rfl | rfl | rfl | rfl | rfl | rfl | rfl | rfl | rfl | rfl
      · exact window_of_getU16 rfl
      · exact window_of_getU16 rfl
      · exact window_of_byteAt one
      · exact window_of_byteAt one'
      on_goal 7 => exact window_read (inside report (by simp))
      all_goals exact window_of_byteAt rfl
  · intro i small outside
    rcases error_outside small outside with ⟨low, high⟩ | ⟨low, high⟩ | ⟨low, high⟩
    · exact getElem?_of_bytesZero (inside report (by decide)) plainHead low high
    · exact getElem?_of_bytesZero (inside report (by decide)) plain low high
    · exact getElem?_of_bytesZero (inside report (by decide)) plain' low high

theorem exists_errorBuild_iff (report : Octets 572) :
    (∃ input, controllerErrorBuild input = some report.bytes)
      ↔ privateErrorValid report = true := by
  constructor
  · rintro ⟨input, made⟩
    unfold controllerErrorBuild at made
    split at made
    · rename_i accepted
      exact privateErrorValid_of_build accepted (Option.some.inj made).symm
    · cases made
  · intro valid
    exact ⟨.read report, errorBuild_read valid⟩

/-! ## Agreement -/

/-- The validators take the reports that the builders make, and no others. -/
def Agreed (report : Octets 572) : Prop :=
  (privateResultValid report = true ↔ ∃ input, controllerReportBuild input = some report.bytes)
    ∧ (privateErrorValid report = true ↔ ∃ input, controllerErrorBuild input = some report.bytes)

/-- They agree on a report unless it is a result whose streams leave bytes unhashed. -/
theorem reports_agree_iff (report : Octets 572) :
    Agreed report ↔ (privateResultValid report = true → StreamsExact report) := by
  rw [Agreed, exists_build_iff, exists_errorBuild_iff]
  constructor
  · rintro ⟨agreed, -⟩ valid
    exact (agreed.mp valid).2
  · intro counted
    exact ⟨⟨fun valid => ⟨valid, counted valid⟩, And.left⟩, Iff.rfl⟩

/-! ## A report that no controller builds -/

def sampleDigest (b : UInt8) : Octets 32 := ⟨List.replicate 32 b, List.length_replicate ..⟩

def sampleStream (limit : UInt64) : StreamMeasurement where
  observedBytes := 0
  hashedBytes := 0
  limitBytes := limit
  prefixDigest := sampleDigest 0x66
  limitCrossed := 0
  eofObserved := 1

def sampleStage : Octets 84 where
  bytes := fill 84 ([(0, putU16 1), (4, putU32 15), (80, [1]), (81, [1])]
    ++ (List.range 9).map fun index => (8 + index * 8, putU64 (UInt64.ofNat (index + 1))))
  width := by decide +kernel

def sampleReportInput : ControllerReportInput where
  identity := ⟨sampleDigest 0x11, sampleDigest 0x22, sampleDigest 0x33, sampleDigest 0x44⟩
  processToken := sampleDigest 0x55
  phase := ⟨2, ⟨expectedExit, 1, 0⟩, controllerFinalityMask, 1, 1⟩
  termination := ⟨terminationExit, 0, unset⟩
  stdoutMeasurement := sampleStream stdoutBytes
  stderrMeasurement := sampleStream stderrBytes
  candidateMetrics := ⟨2, 1, 1, 4096⟩
  allocator := ⟨runtimeHeapBytes, 0, 0, 0, 0, 0⟩
  scratch := ⟨0, 0, scratchBytes, scratchEntries, 0, 0, 1⟩
  sourceStage := sampleStage
  statusEofObserved := 1
  allocatorObservationStable := 1
  heapDeniedNotifications := 0

def looseReport : Octets 572 where
  bytes := fill 572 (sampleReportInput.fields
    (fill 64 { sampleStream stdoutBytes with observedBytes := 5 }.fields)
    (fill 64 (sampleStream stderrBytes).fields)
    (fill 88 (resourceFields sampleReportInput.candidateMetrics sampleReportInput.allocator))
    (fill 40 sampleReportInput.scratch.fields))
  width := by decide +kernel

theorem loose_report_disagrees : ¬ Agreed looseReport := by
  have valid : privateResultValid looseReport = true := by decide +kernel
  have unhashed : ¬ StreamsExact looseReport := by decide +kernel
  intro agreed
  exact unhashed ((exists_build_iff looseReport).mp (agreed.1.mp valid)).2

/-- The empty report is built. -/
example : (controllerReportBuild sampleReportInput).isSome = true := by decide +kernel

end Proc17.Native.Wire
