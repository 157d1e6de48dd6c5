import Proc17.Native.Measurements

/-!
# The private controller report

`native/proc17_qa_report.c`: the 572 bytes in which the namespace controller tells the
supervisor what it observed, the two functions that build them and the two that check them.
-/

namespace Proc17.Native.Wire

open Lua Layout

def reportBytes : Nat := 572
def reportVersion : UInt16 := 2
def terminalResult : UInt16 := 1
def terminalError : UInt16 := 2

def reportMagic : Bytes := [0x50, 0x31, 0x37, 0x51, 0x41, 0x43, 0x52, 0]

def errorStdout : UInt16 := 1
def errorStderr : UInt16 := 2
def errorScratch : UInt16 := 3

def outputObservationIncomplete : UInt16 := 7
def scratchObservationIncomplete : UInt16 := 8
def namespaceCleanupIncomplete : UInt16 := 9

/-! ## Building -/

structure ControllerReportInput where
  identity : PhaseIdentity
  processToken : Octets 32
  phase : PhaseState
  termination : CandidateTermination
  stdoutMeasurement : StreamMeasurement
  stderrMeasurement : StreamMeasurement
  candidateMetrics : CandidateMetrics
  allocator : AllocatorSnapshot
  scratch : ScratchMeasurement
  sourceStage : Octets 84
  statusEofObserved : UInt8
  allocatorObservationStable : UInt8
  heapDeniedNotifications : UInt8

def stageSettled (stage : Bytes) : Bool :=
  sourceStageValid stage && decide (byteAt stage 80 = 1 ∧ byteAt stage 81 = 1)

/-- The checks of `proc17_qa_controller_report_build`. -/
def ControllerReportInput.accepted (input : ControllerReportInput) : Bool :=
  let reason := input.phase.firstCause.kind
  decide (input.statusEofObserved = 1 ∧ input.allocatorObservationStable = 1)
    && input.identity.valid && digestNonzero input.processToken.bytes
    && input.phase.controllerReportReady
    && input.stdoutMeasurement.shapeValid stdoutBytes
    && input.stderrMeasurement.shapeValid stderrBytes && input.scratch.shapeValid
    && stageSettled input.sourceStage.bytes
    && input.allocator.shapeValid input.heapDeniedNotifications reason
    && reasonEvidenceValid reason input.phase.firstCause input.termination
      input.stdoutMeasurement input.stderrMeasurement input.candidateMetrics input.allocator

def headFields (kind : UInt16) (identity : PhaseIdentity) (processToken : Octets 32) :
    List (Nat × Bytes) :=
  [(0, reportMagic), (8, putU16 reportVersion), (10, putU16 (UInt16.ofNat reportBytes)),
    (12, putU16 kind), (16, identity.bytes), (144, processToken.bytes)]

def ControllerReportInput.fields (input : ControllerReportInput)
    (stdout stderr resource scratch : Bytes) : List (Nat × Bytes) :=
  headFields terminalResult input.identity input.processToken
    ++ [(176, putU16 input.phase.firstCause.kind), (178, putU16 input.termination.kind),
      (180, putU32 input.termination.exitCode), (184, putU32 input.termination.signalNumber),
      (188, putU16 input.phase.firstCause.kind),
      (192, putU64 input.phase.firstCause.monotonicSequence),
      (200, putU64 input.phase.firstCause.observedValue), (208, List.replicate 7 1), (215, [1]),
      (216, [1]), (217, [input.heapDeniedNotifications]),
      (218, [input.allocator.systemAllocationFailed]),
      (219, [input.allocator.statusNotificationFailed]), (224, putU64 input.allocator.currentBytes),
      (232, stdout), (296, stderr), (360, resource), (448, scratch),
      (488, input.sourceStage.bytes)]

def controllerReportBuild (input : ControllerReportInput) : Option Bytes :=
  if input.accepted then do
    let stdout ← input.stdoutMeasurement.encode
    let stderr ← input.stderrMeasurement.encode
    let resource ← encodeResource input.candidateMetrics input.allocator
    let scratch ← input.scratch.encode
    some (fill reportBytes (input.fields stdout stderr resource scratch))
  else none

structure ControllerErrorInput where
  identity : PhaseIdentity
  processToken : Octets 32
  sourceStage : Octets 84
  errorCode : UInt16
  subject : UInt16
  candidateTerminalObserved : UInt8
  processTreeReaped : UInt8
  stdoutEofObserved : UInt8
  stderrEofObserved : UInt8
  scratchObservationComplete : UInt8
  statusEofObserved : UInt8

def expectedFinality (code subject : UInt16) : Option (UInt8 × UInt8 × UInt8) :=
  if code = outputObservationIncomplete ∧ (subject = errorStdout ∨ subject = errorStderr) then
    some (if subject = errorStdout then 0 else 1, if subject = errorStderr then 0 else 1, 1)
  else if code = scratchObservationIncomplete ∧ subject = errorScratch then some (1, 1, 0)
  else none

def ControllerErrorInput.accepted (input : ControllerErrorInput) : Bool :=
  input.identity.valid && digestNonzero input.processToken.bytes
    && stageSettled input.sourceStage.bytes
    && decide (input.candidateTerminalObserved = 1 ∧ input.processTreeReaped = 1
      ∧ input.statusEofObserved = 1)
    && decide (expectedFinality input.errorCode input.subject
      = some (input.stdoutEofObserved, input.stderrEofObserved, input.scratchObservationComplete))

def ControllerErrorInput.fields (input : ControllerErrorInput) : List (Nat × Bytes) :=
  headFields terminalError input.identity input.processToken
    ++ [(176, putU16 input.errorCode), (178, putU16 input.subject), (208, [1]), (209, [1]),
      (210, [input.candidateTerminalObserved]), (211, [input.processTreeReaped]),
      (212, [input.stdoutEofObserved]), (213, [input.stderrEofObserved]),
      (214, [input.scratchObservationComplete]), (215, [input.statusEofObserved]),
      (488, input.sourceStage.bytes)]

def controllerErrorBuild (input : ControllerErrorInput) : Option Bytes :=
  if input.accepted then some (fill reportBytes input.fields) else none

/-! ## Checking -/

/-- What `private_result_valid` reads into its structures. -/
structure Evidence where
  reason : UInt16
  termination : CandidateTermination
  cause : FirstCause
  stdout : StreamMeasurement
  stderr : StreamMeasurement
  metrics : CandidateMetrics
  allocator : AllocatorSnapshot
  notifications : UInt8

theorem inside {offset n : Nat} (report : Octets 572) (small : offset + n ≤ 572) :
    offset + n ≤ report.bytes.length := by
  rw [report.width]
  exact small

def Evidence.read (report : Octets 572) : Evidence :=
  let bytes := report.bytes
  let resource := window bytes 360 resourceMeasurementBytes
  { reason := getU16 bytes 176
    termination := ⟨getU16 bytes 178, getU32 bytes 180, getU32 bytes 184⟩
    cause := ⟨getU16 bytes 188, getU64 bytes 192, getU64 bytes 200⟩
    stdout := .read (.read bytes 232 64 (inside report (by decide)))
    stderr := .read (.read bytes 296 64 (inside report (by decide)))
    metrics := .read resource
    allocator :=
      { ceilingBytes := getU64 resource 48
        currentBytes := getU64 bytes 224
        peakBytes := getU64 resource 40
        ceilingDenied := byteAt resource 80
        systemAllocationFailed := byteAt bytes 218
        statusNotificationFailed := byteAt bytes 219 }
    notifications := byteAt bytes 217 }

def headValid (kind : UInt16) (report : Bytes) : Bool :=
  decide (window report 0 8 = reportMagic ∧ getU16 report 8 = reportVersion
      ∧ getU16 report 10 = UInt16.ofNat reportBytes ∧ getU16 report 12 = kind)
    && bytesZero (window report 14 2) && identityValid (window report 16 identityBytes)
    && digestNonzero (window report 144 digestBytes)

def policyStated (report : Bytes) : Bool :=
  let resource := window report 360 resourceMeasurementBytes
  let scratch := window report 448 scratchMeasurementBytes
  decide (getU64 resource 32 = addressSpaceBytes ∧ getU64 resource 48 = runtimeHeapBytes
    ∧ getU64 resource 56 = maxProcesses ∧ getU64 resource 64 = maxOpenFiles
    ∧ getU64 resource 72 = maxFileBytes ∧ getU64 scratch 16 = scratchBytes
    ∧ getU64 scratch 24 = scratchEntries)

def privateResultValid (report : Octets 572) : Bool :=
  let bytes := report.bytes
  let evidence := Evidence.read report
  headValid terminalResult bytes && bytesZero (window bytes 190 2)
    && decide (byteAt bytes 215 = 1 ∧ byteAt bytes 216 = 1 ∧ byteAt bytes 217 ≤ 1
      ∧ byteAt bytes 219 = 0)
    && boolean (byteAt bytes 218) && bytesZero (window bytes 220 4)
    && (List.range 7).all (fun index => decide (byteAt bytes (208 + index) = 1))
    && streamValid (window bytes 232 streamMeasurementBytes)
    && streamValid (window bytes 296 streamMeasurementBytes)
    && resourceValid (window bytes 360 resourceMeasurementBytes)
    && scratchValid (window bytes 448 scratchMeasurementBytes)
    && stageSettled (window bytes 488 sourceStageBytes) && policyStated bytes
    && decide (evidence.stdout.limitBytes = stdoutBytes ∧ evidence.stderr.limitBytes = stderrBytes)
    && evidence.allocator.shapeValid evidence.notifications evidence.reason
    && reasonEvidenceValid evidence.reason evidence.cause evidence.termination evidence.stdout
      evidence.stderr evidence.metrics evidence.allocator

def privateErrorValid (report : Octets 572) : Bool :=
  let bytes := report.bytes
  headValid terminalError bytes && bytesZero (window bytes 180 28)
    && decide (byteAt bytes 215 = 1) && bytesZero (window bytes 216 272)
    && stageSettled (window bytes 488 sourceStageBytes)
    && decide (byteAt bytes 208 = 1 ∧ byteAt bytes 209 = 1 ∧ byteAt bytes 210 = 1
      ∧ byteAt bytes 211 = 1)
    && (let code := getU16 bytes 176
        let subject := getU16 bytes 178
        if code = outputObservationIncomplete ∧ subject = errorStdout then
          decide (byteAt bytes 212 = 0 ∧ byteAt bytes 213 = 1 ∧ byteAt bytes 214 = 1)
        else if code = outputObservationIncomplete ∧ subject = errorStderr then
          decide (byteAt bytes 212 = 1 ∧ byteAt bytes 213 = 0 ∧ byteAt bytes 214 = 1)
        else
          decide (code = scratchObservationIncomplete ∧ subject = errorScratch
            ∧ byteAt bytes 212 = 1 ∧ byteAt bytes 213 = 1 ∧ byteAt bytes 214 = 0))

def privateReportKind (report : Octets 572) : UInt16 :=
  let kind := getU16 report.bytes 12
  if kind = terminalResult then if privateResultValid report then kind else 0
  else if kind = terminalError then if privateErrorValid report then kind else 0
  else 0

/-! ## The layout -/

def resultLayout : List (Nat × Nat) :=
  [(0, 8), (8, 2), (10, 2), (12, 2), (16, 128), (144, 32), (176, 2), (178, 2), (180, 4), (184, 4),
    (188, 2), (192, 8), (200, 8), (208, 7), (215, 1), (216, 1), (217, 1), (218, 1), (219, 1),
    (224, 8), (232, 64), (296, 64), (360, 88), (448, 40), (488, 84)]

def errorLayout : List (Nat × Nat) :=
  [(0, 8), (8, 2), (10, 2), (12, 2), (16, 128), (144, 32), (176, 2), (178, 2), (208, 1), (209, 1),
    (210, 1), (211, 1), (212, 1), (213, 1), (214, 1), (215, 1), (488, 84)]

theorem result_apart : Apart 572 resultLayout := by decide +kernel

theorem error_apart : Apart 572 errorLayout := by decide +kernel

theorem spans_result {input : ControllerReportInput} {stdout stderr resource scratch : Bytes}
    (stdoutWidth : stdout.length = 64) (stderrWidth : stderr.length = 64)
    (resourceWidth : resource.length = 88) (scratchWidth : scratch.length = 40) :
    spans (input.fields stdout stderr resource scratch) = resultLayout := by
  simp [spans, ControllerReportInput.fields, headFields, reportMagic, resultLayout, stdoutWidth,
    stderrWidth, resourceWidth, scratchWidth, PhaseIdentity.length_bytes, Octets.width]

theorem spans_error (input : ControllerErrorInput) : spans input.fields = errorLayout := by
  simp [spans, ControllerErrorInput.fields, headFields, reportMagic, errorLayout,
    PhaseIdentity.length_bytes, Octets.width]

end Proc17.Native.Wire
