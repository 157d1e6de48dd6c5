import Proc17.Core.Digest

/-!
# The supervisor's reports

`native/proc17_qa_stream.c`, `native/proc17_qa_report.c` and the frames of
`native/proc17_qa_wire.h`: the controller measures the candidate and builds a private
report, and the finaliser turns it into the one terminal frame that leaves the supervisor.
A digest is known by its hexadecimal text, and a field of the wire by its value.
-/

namespace Proc17.Native

open Lua Core

/-! ## Vocabulary -/

inductive Phase where
  | started
  | terminal
  deriving DecidableEq

inductive TriState where
  | unknown
  | no
  | yes
  deriving DecidableEq

inductive ErrorClass where
  | world
  | unavailable
  | ambiguous
  deriving DecidableEq

inductive ErrorCode where
  | supervisorUnavailable
  | sourceStagingFailed
  | supervisorCrashed
  | resultPipeLost
  | terminalFrameMissing
  | reapAmbiguous
  | outputObservationIncomplete
  | scratchObservationIncomplete
  | namespaceCleanupIncomplete
  deriving DecidableEq

inductive ErrorStage where
  | preflight
  | sourceStaging
  | namespaceSetup
  | launch
  | supervision
  | postflight
  | cleanup
  deriving DecidableEq

inductive Reason where
  | expectedExit
  | unexpectedExit
  | signal
  | wallTimeout
  | cpuLimit
  | memoryLimit
  | outputLimit
  | scratchLimit
  | sandboxPolicyViolation
  deriving DecidableEq

inductive TerminationKind where
  | exit
  | signal
  | supervisorKill
  deriving DecidableEq

/-! ## The policy -/

namespace Policy

def wallTimeMs : Nat := 30000
def addressSpaceBytes : Nat := 268435456
def runtimeHeapBytes : Nat := 67108864
def maxProcesses : Nat := 1
def maxOpenFiles : Nat := 64
def maxFileBytes : Nat := 16777216
def scratchBytes : Nat := 67108864
def scratchEntries : Nat := 4096
def stdoutBytes : Nat := 1048576
def stderrBytes : Nat := 1048576

end Policy

def uint32Max : Nat := 4294967295
def nsig : Nat := 65
def sigkill : Nat := 9
def sigxcpu : Nat := 24
def sigsys : Nat := 31

/-! ## Identities -/

def isNonzero (digest : Bytes) : Bool := digest.any (· ≠ 48)

structure RunIdentity where
  transaction : Bytes
  witness : Bytes
  profile : Bytes
  environment : Bytes
  deriving DecidableEq

def RunIdentity.isValid (identity : RunIdentity) : Bool :=
  isNonzero identity.transaction && isNonzero identity.witness && isNonzero identity.profile
    && isNonzero identity.environment

structure MountIdentity where
  device : Nat
  inode : Nat
  mountId : Nat
  deriving DecidableEq

def MountIdentity.isKnown (mount : MountIdentity) : Bool :=
  mount.device ≠ 0 && mount.inode ≠ 0 && mount.mountId ≠ 0

structure SourceStage where
  policy : Nat
  mountPolicyFlags : Nat
  original : MountIdentity
  detached : MountIdentity
  attached : MountIdentity
  selfBindGone : Bool
  candidateStarted : Bool
  deriving DecidableEq

def SourceStage.isValid (stage : SourceStage) : Bool :=
  stage.policy = 1 && stage.mountPolicyFlags ≠ 0 && stage.original.isKnown
    && stage.detached.isKnown && stage.attached.isKnown

def SourceStage.isSettled (stage : SourceStage) : Bool :=
  stage.isValid && stage.selfBindGone && stage.candidateStarted

/-! ## Streams -/

structure StreamObserver where
  limit : Nat
  observed : Nat
  hashed : Nat
  /-- What the hash has taken in. -/
  prefixText : Bytes
  crossed : Bool

def StreamObserver.init (limit : Nat) : StreamObserver := ⟨limit, 0, 0, [], false⟩

/-- `proc17_qa_stream_consume`; nothing when the count would overflow. -/
def StreamObserver.consume (s : StreamObserver) (chunk : Bytes) : Option StreamObserver :=
  if 2 ^ 64 ≤ s.observed + chunk.length ∨ s.limit < s.hashed then none
  else
    let hashedNow := min chunk.length (s.limit - s.hashed)
    let observed := s.observed + chunk.length
    some
      { s with
        observed := observed
        hashed := s.hashed + hashedNow
        prefixText := s.prefixText ++ chunk.take hashedNow
        crossed := s.crossed || s.limit < observed }

structure StreamMeasurement where
  observed : Nat
  hashed : Nat
  limit : Nat
  digest : Bytes
  crossed : Bool

/-- `proc17_qa_stream_snapshot` of an observer at its end of file. -/
def StreamObserver.snapshot (s : StreamObserver) : StreamMeasurement :=
  ⟨s.observed, s.hashed, s.limit, Digest.sha256 s.prefixText, s.crossed⟩

def StreamMeasurement.isExact (m : StreamMeasurement) : Bool :=
  m.limit ≠ 0 && m.hashed = min m.observed m.limit && m.crossed = decide (m.limit < m.observed)

def StreamMeasurement.isValid (m : StreamMeasurement) : Bool :=
  m.limit ≠ 0 && m.hashed ≤ m.observed && m.hashed ≤ m.limit && isNonzero m.digest
    && m.crossed = decide (m.limit < m.observed)

def measureStream (limit : Nat) (chunks : List Bytes) : Option StreamMeasurement := do
  let observer ← chunks.foldlM StreamObserver.consume (StreamObserver.init limit)
  if observer.snapshot.isExact then some observer.snapshot else none

/-! ## Measurements of the candidate -/

structure Termination where
  kind : TerminationKind
  exitCode : Nat
  signal : Nat

def Termination.isValid (t : Termination) : Bool :=
  match t.kind with
  | .exit => t.exitCode ≤ 255 && t.signal = uint32Max
  | .signal => t.exitCode = uint32Max && 0 < t.signal && t.signal < nsig
  | .supervisorKill => t.exitCode = uint32Max && t.signal = sigkill

structure FirstCause where
  kind : Reason
  sequence : Nat
  observed : Nat

structure Metrics where
  wallTimeMs : Nat
  cpuUserMs : Nat
  cpuSystemMs : Nat
  maxRssBytes : Nat

structure Allocator where
  ceiling : Nat
  current : Nat
  peak : Nat
  denied : Bool
  systemFailed : Bool
  notificationFailed : Bool

def Allocator.isValid (a : Allocator) (notifications : Nat) (reason : Reason) : Bool :=
  a.ceiling = Policy.runtimeHeapBytes && a.current ≤ a.peak && a.peak ≤ a.ceiling
    && !a.systemFailed && !a.notificationFailed
    && notifications = (if a.denied then 1 else 0)
    && (decide (reason = .memoryLimit) = a.denied)

structure Scratch where
  bytes : Nat
  entries : Nat
  limitBytes : Nat
  limitEntries : Nat
  bytesExhausted : Bool
  entriesExhausted : Bool
  complete : Bool

def Scratch.isValid (s : Scratch) : Bool :=
  s.limitBytes ≠ 0 && s.limitEntries ≠ 0 && s.bytes ≤ s.limitBytes && s.entries ≤ s.limitEntries
    && s.complete

def Scratch.isBounded (s : Scratch) : Bool :=
  s.limitBytes = Policy.scratchBytes && s.limitEntries = Policy.scratchEntries

def maximumOutput (stdout stderr : StreamMeasurement) : Nat :=
  max (if stdout.crossed then stdout.observed else 0) (if stderr.crossed then stderr.observed else 0)

/-- The part of `reason_evidence_valid` under its `switch`. -/
def Reason.explains (reason : Reason) (cause : FirstCause) (t : Termination)
    (stdout stderr : StreamMeasurement) (metrics : Metrics) (allocator : Allocator) : Bool :=
  match reason with
  | .expectedExit => t.kind = .exit && t.exitCode = 0 && cause.observed = 0
  | .unexpectedExit => t.kind = .exit && t.exitCode ≠ 0 && cause.observed = t.exitCode
  | .signal =>
    t.kind = .signal && t.signal ≠ sigxcpu && t.signal ≠ sigsys && cause.observed = t.signal
  | .wallTimeout =>
    t.kind = .supervisorKill && cause.observed = Policy.wallTimeMs
      && Policy.wallTimeMs ≤ metrics.wallTimeMs
  | .cpuLimit => t.kind = .signal && t.signal = sigxcpu && cause.observed = sigxcpu
  | .memoryLimit =>
    (t.kind = .supervisorKill || (t.kind = .exit && t.exitCode ≠ 0)) && cause.observed ≠ 0
      && cause.observed ≤ allocator.peak
  | .outputLimit =>
    t.kind = .supervisorKill && cause.observed ≠ 0
      && cause.observed ≤ maximumOutput stdout stderr
  | .scratchLimit => false
  | .sandboxPolicyViolation =>
    t.kind = .signal && t.signal = sigsys && cause.observed = sigsys

def reasonEvidenceValid (reason : Reason) (cause : FirstCause) (t : Termination)
    (stdout stderr : StreamMeasurement) (metrics : Metrics) (allocator : Allocator) : Bool :=
  cause.kind = reason && cause.sequence ≠ 0 && t.isValid
    && (decide (reason = .outputLimit) = (stdout.crossed || stderr.crossed))
    && reason.explains cause t stdout stderr metrics allocator

/-! ## Private reports -/

structure PhaseState where
  firstCause : Option FirstCause
  startedAttested : Bool
  releaseAuthorized : Bool
  /-- `finality_mask == PROC17_QA_CONTROLLER_FINALITY_MASK` -/
  finalityExact : Bool

structure ReportInput where
  identity : RunIdentity
  processToken : Bytes
  phase : PhaseState
  termination : Termination
  /-- What was read of each stream, up to its end. -/
  stdout : List Bytes
  stderr : List Bytes
  metrics : Metrics
  allocator : Allocator
  scratch : Scratch
  stage : SourceStage
  statusEof : Bool
  allocatorStable : Bool
  notifications : Nat

structure ResultReport where
  identity : RunIdentity
  processToken : Bytes
  reason : Reason
  termination : Termination
  cause : FirstCause
  stdout : StreamMeasurement
  stderr : StreamMeasurement
  metrics : Metrics
  allocator : Allocator
  notifications : Nat
  scratch : Scratch
  stage : SourceStage

inductive Subject where
  | stdout
  | stderr
  | scratch

structure ErrorReport where
  identity : RunIdentity
  processToken : Bytes
  subject : Subject
  stage : SourceStage

inductive Report where
  | result (report : ResultReport)
  | error (report : ErrorReport)

def reportBuild (input : ReportInput) : Option Report := do
  let stdout ← measureStream Policy.stdoutBytes input.stdout
  let stderr ← measureStream Policy.stderrBytes input.stderr
  let cause ← input.phase.firstCause
  if input.statusEof && input.allocatorStable && input.identity.isValid
      && isNonzero input.processToken && input.phase.startedAttested
      && input.phase.releaseAuthorized && input.phase.finalityExact && stdout.isValid
      && stderr.isValid && input.scratch.isBounded && input.scratch.isValid
      && input.stage.isSettled && input.allocator.isValid input.notifications cause.kind
      && reasonEvidenceValid cause.kind cause input.termination stdout stderr input.metrics
        input.allocator then
    some (.result ⟨input.identity, input.processToken, cause.kind, input.termination, cause,
      stdout, stderr, input.metrics, input.allocator, input.notifications, input.scratch,
      input.stage⟩)
  else none

def ResultReport.isValid (report : ResultReport) : Bool :=
  report.identity.isValid && isNonzero report.processToken && report.stdout.isValid
    && report.stderr.isValid && report.scratch.isValid && report.scratch.isBounded
    && report.stage.isSettled && report.stdout.limit = Policy.stdoutBytes
    && report.stderr.limit = Policy.stderrBytes
    && report.allocator.isValid report.notifications report.reason
    && reasonEvidenceValid report.reason report.cause report.termination report.stdout
      report.stderr report.metrics report.allocator

/-- `private_error_valid`: the finality of an error is fixed by its subject. -/
def ErrorReport.isValid (report : ErrorReport) : Bool :=
  report.identity.isValid && isNonzero report.processToken && report.stage.isSettled

def Subject.code : Subject → ErrorCode
  | .stdout => .outputObservationIncomplete
  | .stderr => .outputObservationIncomplete
  | .scratch => .scratchObservationIncomplete

/-! ## Frames -/

structure Resource where
  metrics : Metrics
  addressSpace : Nat
  heapPeak : Nat
  heapLimit : Nat
  heapDenied : Bool
  maxProcesses : Nat
  maxOpenFiles : Nat
  maxFileBytes : Nat

def Resource.encode (metrics : Metrics) (allocator : Allocator) : Resource where
  metrics := metrics
  addressSpace := Policy.addressSpaceBytes
  heapPeak := allocator.peak
  heapLimit := allocator.ceiling
  heapDenied := allocator.denied
  maxProcesses := Policy.maxProcesses
  maxOpenFiles := Policy.maxOpenFiles
  maxFileBytes := Policy.maxFileBytes

structure ResultBody where
  reason : Reason
  termination : Termination
  cause : FirstCause
  stdout : StreamMeasurement
  stderr : StreamMeasurement
  resource : Resource
  scratch : Scratch
  stage : SourceStage

structure ErrorBody where
  phase : Phase
  errorClass : ErrorClass
  code : ErrorCode
  stage : ErrorStage
  startState : TriState
  cleanupState : TriState
  costKnown : Bool
  sourceStage : Option SourceStage

inductive Payload where
  | started (token : Bytes) (stage : SourceStage)
  | result (body : ResultBody)
  | error (body : ErrorBody)

structure Frame where
  identity : RunIdentity
  payload : Payload

def Payload.bytes : Payload → Nat
  | .started _ _ => 252
  | .result _ => 512
  | .error _ => 268

def Frame.bytes (frame : Frame) : Nat := 80 + frame.payload.bytes

def ResultBody.isValid (body : ResultBody) : Bool :=
  body.cause.kind = body.reason && body.cause.sequence ≠ 0 && body.stdout.isValid
    && body.stderr.isValid && body.resource.addressSpace ≠ 0 && body.resource.heapLimit ≠ 0
    && body.resource.maxProcesses ≠ 0 && body.resource.maxOpenFiles ≠ 0
    && body.resource.maxFileBytes ≠ 0 && body.scratch.isValid && body.stage.isValid

def ErrorBody.isValid (body : ErrorBody) : Bool :=
  (decide (body.phase = .terminal) = decide (body.startState = .yes))
    && body.sourceStage.all SourceStage.isValid

/-- `proc17_qa_wire_v1_payload_valid` -/
def Frame.isValid (frame : Frame) : Bool :=
  frame.identity.isValid &&
    match frame.payload with
    | .started token stage => isNonzero token && stage.isValid
    | .result body => body.isValid
    | .error body => body.isValid

def Frame.encode (frame : Frame) : Option Frame := if frame.isValid then some frame else none

/-! ## The finaliser -/

structure NamespaceObservation where
  pidfdRetained : Bool
  recordComplete : Bool
  recordEof : Bool
  controllerReaped : Bool
  authorityClosed : Bool

def namespaceCleanup (observation : NamespaceObservation) (waitClean : Bool) : Option Bool :=
  if observation.recordComplete && (!observation.controllerReaped || waitClean) then
    some (observation.pidfdRetained && observation.recordEof && observation.controllerReaped
      && observation.authorityClosed)
  else none

def Report.identity : Report → RunIdentity
  | .result report => report.identity
  | .error report => report.identity

def Report.processToken : Report → Bytes
  | .result report => report.processToken
  | .error report => report.processToken

def Report.isValid : Report → Bool
  | .result report => report.isValid
  | .error report => report.isValid

def encodePublicError (identity : RunIdentity) (stage : SourceStage) (code : ErrorCode)
    (errorStage : ErrorStage) : Option Frame :=
  Frame.encode ⟨identity, .error
    { phase := .terminal
      errorClass := .ambiguous
      code := code
      stage := errorStage
      startState := .yes
      cleanupState := .no
      costKnown := false
      sourceStage := some stage }⟩

def publicResult (identity : RunIdentity) (report : ResultReport) : Option Frame :=
  Frame.encode ⟨identity, .result
    { reason := report.reason
      termination := report.termination
      cause := report.cause
      stdout := report.stdout
      stderr := report.stderr
      resource := Resource.encode report.metrics report.allocator
      scratch := report.scratch
      stage := report.stage }⟩

def reportFinalize (report : Report) (identity : RunIdentity) (token : Bytes) (waitClean : Bool)
    (observation : NamespaceObservation) : Option Frame :=
  if report.isValid && identity.isValid && isNonzero token && report.identity = identity
      && report.processToken = token then do
    let complete ← namespaceCleanup observation waitClean
    match report with
    | .error report =>
      if complete then encodePublicError identity report.stage report.subject.code .postflight
      else none
    | .result report =>
      if complete then publicResult identity report
      else encodePublicError identity report.stage .namespaceCleanupIncomplete .cleanup
  else none

end Proc17.Native
