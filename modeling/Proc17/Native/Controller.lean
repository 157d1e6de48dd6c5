import Proc17.Native.ReportAgreement

/-!
# The controller's loop

`proc17_qa_run_namespace_controller_v1` of `native/proc17_qa_supervisor.c` from the release
of the candidate to its private report, with the stream observers of
`native/proc17_qa_stream.c`, the epochs of `native/proc17_qa_controller.c` and the phase of
`native/proc17_qa_phase.c`.
-/

namespace Proc17.Native.Wire

open Lua Layout

/-! ## Wait statuses -/

def wifexited (status : UInt32) : Bool := decide (status &&& 0x7f = 0)

def wexitstatus (status : UInt32) : UInt32 := (status &&& 0xff00) >>> 8

def wtermsig (status : UInt32) : UInt32 := status &&& 0x7f

def wifsignaled (status : UInt32) : Bool := decide (wtermsig status ≠ 0 ∧ wtermsig status ≠ 0x7f)

def terminalCause (waitStatus : UInt32) : Option (UInt16 × UInt64) :=
  if wifexited waitStatus then
    some (if wexitstatus waitStatus = 0 then expectedExit else unexpectedExit,
      (wexitstatus waitStatus).toUInt64)
  else if wifsignaled waitStatus then
    some (if wtermsig waitStatus = sigxcpu then cpuLimit
      else if wtermsig waitStatus = sigsys then sandboxPolicyViolation else signalReason,
      (wtermsig waitStatus).toUInt64)
  else none

def terminationFromWait (waitStatus : UInt32) (firstCause : UInt16) :
    Option CandidateTermination :=
  if wifexited waitStatus then some ⟨terminationExit, wexitstatus waitStatus, unset⟩
  else if wifsignaled waitStatus then
    if firstCause = wallTimeout ∨ firstCause = memoryLimit ∨ firstCause = outputLimit then
      if wtermsig waitStatus ≠ sigkill then none
      else some ⟨terminationSupervisorKill, unset, wtermsig waitStatus⟩
    else some ⟨terminationSignal, unset, wtermsig waitStatus⟩
  else none

/-! ## Stream observers -/

def drainSliceBytes : Nat := 65536

/-- `struct proc17_qa_stream_observer`, until it has failed or was closed. -/
structure StreamObserver where
  observedBytes : Nat
  hashedBytes : Nat
  limitBytes : Nat
  hash : Sha256.Context
  limitCrossed : Bool
  eofObserved : Bool

def StreamObserver.init (limitBytes : UInt64) : StreamObserver :=
  ⟨0, 0, limitBytes.toNat, .init, false, false⟩

/-- `proc17_qa_stream_consume`; whether the limit was crossed just now. -/
def StreamObserver.consume (o : StreamObserver) (bytes : Bytes) :
    Option (StreamObserver × Bool) :=
  if o.eofObserved ∨ 2 ^ 64 - 1 - o.observedBytes < bytes.length
      ∨ o.limitBytes < o.hashedBytes then none
  else
    let hashedNow := min bytes.length (o.limitBytes - o.hashedBytes)
    let observed := o.observedBytes + bytes.length
    let crossed := !o.limitCrossed && decide (o.limitBytes < observed)
    some ({ o with
      observedBytes := observed
      hashedBytes := o.hashedBytes + hashedNow
      hash := o.hash.update (bytes.take hashedNow)
      limitCrossed := o.limitCrossed || crossed }, crossed)

/-- How a row of reads ends: nothing more, nothing more for now, or a failure. -/
inductive ReadEnding where
  | eof
  | again
  | failed

/-- What `read` gives, one chunk for each call. -/
structure Reading where
  chunks : List Bytes
  ending : ReadEnding

/-- The loop of `proc17_qa_stream_drain_nonblocking`; `none` is a drain error. -/
def StreamObserver.drainFrom (ending : ReadEnding) :
    StreamObserver → Nat → List Bytes → Option (StreamObserver × Bool)
  | o, _, [] =>
    match ending with
    | .eof => some ({ o with eofObserved := true }, false)
    | .again => some (o, false)
    | .failed => none
  | o, drained, chunk :: rest =>
    match o.consume chunk with
    | none => none
    | some (next, true) => some (next, true)
    | some (next, false) =>
      if drainSliceBytes ≤ drained + chunk.length then some (next, false)
      else drainFrom ending next (drained + chunk.length) rest

/-- `proc17_qa_stream_drain_nonblocking`; whether the limit was crossed. -/
def StreamObserver.drain (o : StreamObserver) (reading : Reading) :
    Option (StreamObserver × Bool) :=
  if o.eofObserved then some (o, false) else o.drainFrom reading.ending 0 reading.chunks

def StreamObserver.measurement (o : StreamObserver) : StreamMeasurement where
  observedBytes := UInt64.ofNat o.observedBytes
  hashedBytes := UInt64.ofNat o.hashedBytes
  limitBytes := UInt64.ofNat o.limitBytes
  prefixDigest := ⟨o.hash.final, Sha256.length_final o.hash⟩
  limitCrossed := if o.limitCrossed then 1 else 0
  eofObserved := if o.eofObserved then 1 else 0

def StreamObserver.snapshot (o : StreamObserver) : Option StreamMeasurement :=
  if o.eofObserved ∧ o.measurement.valid = true then some o.measurement else none

/-! ## The phase -/

namespace PhaseState

def init : PhaseState := ⟨0, ⟨0, 0, 0⟩, 0, 0, 0⟩

def markFinality (state : PhaseState) (member : UInt16) : PhaseState :=
  { state with finalityMask := state.finalityMask ||| (1 <<< member) }

def observeStartedReady (state : PhaseState) : Option PhaseState :=
  if state.startedAttested ≠ 0 ∨ state.candidateReleaseAuthorized ≠ 0 ∨ state.firstCause.kind ≠ 0
      ∨ state.finalityMask ≠ 0 then none
  else some (({ state with startedAttested := 1 }.markFinality 0).markFinality 1)

def authorizeCandidate (state : PhaseState) : Option PhaseState :=
  if state.startedAttested ≠ 1 ∨ state.candidateReleaseAuthorized ≠ 0 then none
  else some { state with candidateReleaseAuthorized := 1 }

def claimFirstCause (state : PhaseState) (kind : UInt16) (observedValue : UInt64) :
    Option PhaseState :=
  if kind < expectedExit ∨ sandboxPolicyViolation < kind
      ∨ state.nextSequence = 18446744073709551615 ∨ state.firstCause.kind ≠ 0 then none
  else some { state with
    nextSequence := state.nextSequence + 1
    firstCause := ⟨kind, state.nextSequence + 1, observedValue⟩ }

def released : PhaseState := ((init.observeStartedReady).bind authorizeCandidate).getD init

end PhaseState

/-! ## Epochs -/

structure ObservationEpoch where
  stdoutLimitCrossed : UInt8
  stderrLimitCrossed : UInt8
  heapDenied : UInt8
  wallTimerExpired : UInt8
  candidateTerminal : UInt8
  waitStatus : UInt32
  stdoutObservedBytes : UInt64
  stderrObservedBytes : UInt64
  heapPeakBytes : UInt64
  wallLimitMs : UInt64

inductive EpochResult where
  | invalid
  | noCause
  | causeClaimed
  | causeAlreadySet
  | ambiguous
  deriving DecidableEq

def addCause (candidate : UInt16) (value : UInt64) (found : UInt16 × UInt64) :
    Option (UInt16 × UInt64) :=
  if found.1 = 0 then some (candidate, value)
  else if found.1 ≠ candidate then none
  else some (found.1, if found.2 < value then value else found.2)

def addWhen (shown : UInt8) (candidate : UInt16) (value : UInt64) (found : UInt16 × UInt64) :
    Option (UInt16 × UInt64) :=
  if shown ≠ 0 then addCause candidate value found else some found

namespace ObservationEpoch

def flagged (shown : UInt8) (value : UInt64) : Bool := boolean shown && (shown = 0 || value ≠ 0)

/-- The first checks of `proc17_qa_controller_resolve_epoch`. -/
def valid (e : ObservationEpoch) : Bool :=
  flagged e.stdoutLimitCrossed e.stdoutObservedBytes
    && flagged e.stderrLimitCrossed e.stderrObservedBytes
    && flagged e.heapDenied e.heapPeakBytes && flagged e.wallTimerExpired e.wallLimitMs
    && boolean e.candidateTerminal
    && (e.candidateTerminal = 0 || (terminalCause e.waitStatus).isSome)

def cause (e : ObservationEpoch) : Option (UInt16 × UInt64) := do
  let terminal := (terminalCause e.waitStatus).getD (0, 0)
  let found ← addWhen e.stdoutLimitCrossed outputLimit e.stdoutObservedBytes (0, 0)
  let found ← addWhen e.stderrLimitCrossed outputLimit e.stderrObservedBytes found
  let found ← addWhen e.heapDenied memoryLimit e.heapPeakBytes found
  let found ← addWhen e.wallTimerExpired wallTimeout e.wallLimitMs found
  addWhen e.candidateTerminal terminal.1 terminal.2 found

end ObservationEpoch

def resolveEpoch (phase : PhaseState) (epoch : ObservationEpoch) : EpochResult × PhaseState :=
  if epoch.valid = false then (.invalid, phase)
  else if phase.firstCause.kind ≠ 0 then (.causeAlreadySet, phase)
  else
    match epoch.cause with
    | none => (.ambiguous, phase)
    | some (kind, value) =>
      if kind = 0 then (.noCause, phase)
      else
        match phase.claimFirstCause kind value with
        | some claimed => (.causeClaimed, claimed)
        | none => (.invalid, phase)

/-! ## The loop -/

/-- A packet of the status channel; a denied heap comes with what
`proc17_qa_allocator_snapshot` answers on it. -/
inductive StatusAnswer where
  | heapDenied (snapshot : Option AllocatorSnapshot)
  | other

/-- The packets read in one round, and whether the channel then ends. -/
structure StatusReading where
  answers : List StatusAnswer
  eof : Bool

/-- What is ready after one `poll`, with what each source then gives. -/
structure Poll where
  stdout : Option Reading
  stderr : Option Reading
  status : Option StatusReading
  timer : Bool
  waited : Option UInt32

structure Controller where
  phase : PhaseState
  stdout : StreamObserver
  stderr : StreamObserver
  statusEof : Bool
  heapNotifications : UInt8
  timerConsumed : Bool
  /-- `wait_status`, once the candidate was reaped. -/
  waited : Option UInt32

/-- Where a round ends the loop before its time. -/
inductive Halt where
  | drainError
  | status
  | timer
  | wait
  | epoch (result : EpochResult)
  | waiting

namespace Controller

def released : Controller where
  phase := .released
  stdout := .init stdoutBytes
  stderr := .init stderrBytes
  statusEof := false
  heapNotifications := 0
  timerConsumed := false
  waited := none

def finished (s : Controller) : Bool :=
  s.waited.isSome && s.stdout.eofObserved && s.stderr.eofObserved && s.statusEof

def drainEpochStream (o : StreamObserver) (reading : Option Reading) :
    Except Halt (StreamObserver × UInt8) :=
  match reading with
  | none => .ok (o, 0)
  | some reading =>
    match o.drain reading with
    | none => .error .drainError
    | some (next, crossed) => .ok (next, if crossed then 1 else 0)

def receiveStatus : UInt8 → Option UInt64 → List StatusAnswer →
    Except Halt (UInt8 × Option UInt64)
  | notifications, peak, [] => .ok (notifications, peak)
  | notifications, _, .heapDenied (some snapshot) :: rest =>
    if notifications ≠ 0 ∨ snapshot.ceilingDenied ≠ 1 ∨ snapshot.systemAllocationFailed ≠ 0 then
      .error .status
    else receiveStatus 1 (some snapshot.peakBytes) rest
  | _, _, _ :: _ => .error .status

def readStatus (s : Controller) (reading : Option StatusReading) :
    Except Halt (UInt8 × Option UInt64 × Bool) :=
  match reading with
  | none => .ok (s.heapNotifications, none, s.statusEof)
  | some reading => do
      let (notifications, peak) ← receiveStatus s.heapNotifications none reading.answers
      pure (notifications, peak, s.statusEof || reading.eof)

/-- `proc17_qa_candidate_clock_consume_timer`; the timer is asked for until the candidate
was reaped, and can be read once. -/
def consumeTimer (s : Controller) (ready : Bool) : Except Halt Bool :=
  if s.waited.isSome || !ready then .ok false
  else if s.timerConsumed then .error .timer else .ok true

/-- `proc17_qa_wait_candidate`, while the candidate was not reaped. -/
def waitCandidate (s : Controller) (waited : Option UInt32) : Except Halt (Option UInt32) :=
  match s.waited, waited with
  | none, some status =>
    if wifexited status || wifsignaled status then .ok (some status) else .error .wait
  | _, _ => .ok none

def observe (s : Controller) (p : Poll) : Except Halt (Controller × ObservationEpoch) := do
  let (stdout, stdoutCrossed) ← drainEpochStream s.stdout p.stdout
  let (stderr, stderrCrossed) ← drainEpochStream s.stderr p.stderr
  let (notifications, peak, statusEof) ← s.readStatus p.status
  let expired ← s.consumeTimer p.timer
  let waited ← s.waitCandidate p.waited
  pure
    ({ s with
        stdout := stdout
        stderr := stderr
        statusEof := statusEof
        heapNotifications := notifications
        timerConsumed := s.timerConsumed || expired
        waited := s.waited.or waited },
      { stdoutLimitCrossed := stdoutCrossed
        stderrLimitCrossed := stderrCrossed
        heapDenied := if peak.isSome then 1 else 0
        wallTimerExpired := if expired then 1 else 0
        candidateTerminal := if waited.isSome then 1 else 0
        waitStatus := waited.getD 0
        stdoutObservedBytes := UInt64.ofNat stdout.observedBytes
        stderrObservedBytes := UInt64.ofNat stderr.observedBytes
        heapPeakBytes := peak.getD 0
        wallLimitMs := if expired then wallTimeMs else 0 })

def round (s : Controller) (p : Poll) : Except Halt Controller := do
  let (observed, epoch) ← s.observe p
  match resolveEpoch observed.phase epoch with
  | (.invalid, _) => .error (.epoch .invalid)
  | (.ambiguous, _) => .error (.epoch .ambiguous)
  | (_, phase) => .ok { observed with phase := phase }

def loop : Controller → List Poll → Except Halt Controller
  | s, [] => if s.finished then .ok s else .error .waiting
  | s, p :: rest =>
    if s.finished then .ok s
    else do
      let next ← s.round p
      loop next rest

end Controller

/-! ## The report -/

structure Aftermath where
  identity : PhaseIdentity
  processToken : Octets 32
  sourceStage : Octets 84
  scratch : ScratchMeasurement
  startedNs : UInt64
  finishedNs : UInt64
  cpuUserMs : UInt64
  cpuSystemMs : UInt64
  maxRssBytes : UInt64
  allocator : AllocatorSnapshot

def Aftermath.clockFinish (a : Aftermath) : Option CandidateMetrics :=
  if a.finishedNs < a.startedNs then none
  else some ⟨(a.finishedNs - a.startedNs) / 1000000, a.cpuUserMs, a.cpuSystemMs, a.maxRssBytes⟩

def PhaseState.settled (state : PhaseState) : PhaseState :=
  ((((state.markFinality 2).markFinality 3).markFinality 4).markFinality 5).markFinality 6

def Controller.reportInput (s : Controller) (a : Aftermath) (termination : CandidateTermination)
    (stdout stderr : StreamMeasurement) (metrics : CandidateMetrics) : ControllerReportInput where
  identity := a.identity
  processToken := a.processToken
  phase := s.phase.settled
  termination := termination
  stdoutMeasurement := stdout
  stderrMeasurement := stderr
  candidateMetrics := metrics
  allocator := a.allocator
  scratch := a.scratch
  sourceStage := a.sourceStage
  statusEofObserved := if s.statusEof then 1 else 0
  allocatorObservationStable := 1
  heapDeniedNotifications := s.heapNotifications

/-- The end of `proc17_qa_run_namespace_controller_v1` when no stream was lost. -/
def Controller.report (s : Controller) (a : Aftermath) : Option Bytes := do
  let stdout ← s.stdout.snapshot
  let stderr ← s.stderr.snapshot
  let metrics ← a.clockFinish
  let waitStatus ← s.waited
  let termination ← terminationFromWait waitStatus s.phase.firstCause.kind
  controllerReportBuild (s.reportInput a termination stdout stderr metrics)

end Proc17.Native.Wire
