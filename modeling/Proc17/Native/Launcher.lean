import Proc17.Native.Report
import Proc17.Runtime.Qa.Process

/-!
# The launcher

`native/proc17_qa_launcher_v1.c` and the RUN half of `native/proc17_qa_launcher.c`: the
launcher reads the supervisor's frames from a pipe, waits for the supervisor and arms a
watchdog, and pushes what came of it to Lua.  Everything the kernel answers is an input: a
round of the loop is one `poll` with the answers of the calls that follow it.
-/

namespace Proc17.Native

open Lua Core Proc17.Runtime Runtime.Repository

/-! ## The request -/

/-- `struct proc17_qa_launcher_run`; the limits are the policy's. -/
structure Run where
  transaction : Bytes
  witness : Bytes
  profile : Bytes
  environment : Bytes

/-- What `strcmp` sees of a string. -/
def cString (text : Bytes) : Bytes := text.takeWhile (· ≠ 0)

def exactTableKeys (value : Value) (keys : List String) : Bool :=
  value.isTable && !value.hasMetatable
    && value.keys.all (fun key =>
      match key with
      | .str text => keys.any fun name => cString text = utf8 name
      | _ => false)
    && value.keys.length = keys.length
    && keys.all fun name => value.get name ≠ .nil

def exactString (value : Value) (field expected : String) : Bool :=
  value.get field = .text expected

def taggedDigestField (value : Value) (field tag : String) : Option Bytes :=
  match value.get field with
  | .str text =>
    if Qa.taggedDigest (.str text) tag then some (text.drop (utf8 tag).length) else none
  | _ => none

def limitKeys : List String := "protocol_version" :: Qa.limitCeilings.map Prod.fst

/-- The limits that `parse_native_run` takes. -/
def limitsExact (limits : Value) : Bool :=
  exactTableKeys limits limitKeys
    && exactString limits "protocol_version" "qa.resource_limits.v0"
    && Qa.limitCeilings.all fun limit => limits.get limit.1 = .num (.int limit.2)

def Run.parse (request : Value) : Option Run :=
  if exactTableKeys request Qa.Process.requestKeys
      && exactString request "protocol_version" "qa.native_run_request.v1"
      && exactString request "operation" "run_lua54_test_suite" then do
    let transaction ← taggedDigestField request "transaction_id" "qa-provider-transaction:"
    let witness ← taggedDigestField request "witness_id" "qa-provider-witness:"
    let environment ← taggedDigestField request "environment_id" "qa-environment:"
    if exactString request "profile_id" "qa.profile.lua54_test_suite.v0"
        && exactString request "entrypoint_relative_path" "tests/run.lua"
        && request.get "expected_exit_code" = .num (.int 0)
        && limitsExact (request.get "resource_limits") then
      some ⟨transaction, witness, Digest.sha256 (utf8 "qa.profile.lua54_test_suite.v0"),
        environment⟩
    else none
  else none

def Run.identity (run : Run) : RunIdentity :=
  ⟨run.transaction, run.witness, run.profile, run.environment⟩

/-! ## Frames from the supervisor -/

structure Expectation where
  identity : RunIdentity
  source : MountIdentity
  mountPolicyFlags : Nat

def Expectation.isValid (expectation : Expectation) : Bool :=
  expectation.identity.isValid && expectation.source.isKnown && expectation.mountPolicyFlags ≠ 0

def Expectation.stageMatches (expectation : Expectation) (stage : SourceStage) : Bool :=
  stage.isValid && stage.mountPolicyFlags = expectation.mountPolicyFlags
    && stage.original = expectation.source
    && stage.detached.device = expectation.source.device
    && stage.detached.inode = expectation.source.inode
    && stage.attached = stage.detached && stage.selfBindGone && stage.candidateStarted

/-- `struct proc17_qa_launcher_v1_machine`, with the frames the supervisor has still to send:
the first of them is the one whose bytes are pending. -/
structure Machine where
  incoming : List Frame
  pending : Nat
  started : Option SourceStage
  terminal : Option Frame
  failed : Bool

def Machine.init (frames : List Frame) : Machine := ⟨frames, 0, none, none, false⟩

/-- `accept_complete_frame`; nothing when the frame is refused. -/
def Machine.accept (expectation : Expectation) (m : Machine) (frame : Frame) : Option Machine :=
  if m.terminal.isSome || !frame.isValid || frame.identity ≠ expectation.identity then none
  else
    match frame.payload with
    | .started _ stage =>
      if m.started.isNone && expectation.stageMatches stage then
        some { m with started := some stage }
      else none
    | .result body =>
      if expectation.stageMatches body.stage && m.started = some body.stage then
        some { m with terminal := some frame }
      else none
    | .error body =>
      match body.phase with
      | .started =>
        if m.started.isNone && body.sourceStage.all expectation.stageMatches then
          some { m with terminal := some frame }
        else none
      | .terminal =>
        if body.sourceStage.any expectation.stageMatches && m.started = body.sourceStage then
          some { m with terminal := some frame }
        else none

def Machine.feedByte (expectation : Expectation) (m : Machine) : Machine :=
  match m.incoming with
  | [] => m
  | frame :: rest =>
    if m.failed || m.terminal.isSome then { m with failed := true }
    else if m.pending + 1 < frame.bytes then { m with pending := m.pending + 1 }
    else
      match m.accept expectation frame with
      | some next => { next with incoming := rest, pending := 0 }
      | none => { m with failed := true }

def Machine.feed (expectation : Expectation) : Nat → Machine → Machine
  | 0, m => m
  | n + 1, m => Machine.feed expectation n (m.feedByte expectation)

/-! ## What the kernel answers -/

/-- One `read` of the result pipe that is followed by another. -/
inductive Attempt where
  | bytes (count : Nat)
  | interrupted

/-- The `read` that ends the loop over the result pipe. -/
inductive ReadEnd where
  | endOfFile
  | wouldBlock
  | failed
  deriving DecidableEq

structure Reading where
  attempts : List Attempt
  ending : ReadEnd

/-- `waitpid` without blocking; a supervisor is reaped with a clean status or not. -/
inductive WaitOutcome where
  | reaped (clean : Bool)
  | running
  | interrupted
  | failed

/-- What one turn of the loop meets.  A descriptor that is not polled is not ready: the parts
below are looked at only while their descriptor is polled. -/
inductive Round where
  | interrupted
  | pollFailed
  | ready (timer : Option Bool) (reading : Option Reading) (wait : Option WaitOutcome)

/-! ## Terminals -/

/-- The fields of `struct proc17_qa_launcher_v1_terminal` that an error is pushed from. -/
structure TerminalError where
  phase : Phase
  errorClass : ErrorClass
  code : ErrorCode
  stage : ErrorStage
  startState : TriState
  cleanupState : TriState
  reapState : TriState
  eofState : TriState
  deriving DecidableEq

inductive Terminal where
  | result (body : ResultBody) (startedAttested : Bool)
  | error (frame : ErrorBody) (error : TerminalError)
  | derived (error : TerminalError)

inductive Collected where
  | invalidArgument
  | systemFailure
  | trustedInvariant
  | ok (terminal : Terminal)

/-! ## The loop -/

structure Collector where
  machine : Machine
  waitComplete : Bool
  childReaped : Bool
  waitClean : Bool
  eof : Bool
  watchdog : Bool
  invariantFailed : Bool
  infrastructure : Option ErrorCode

def Collector.init (frames : List Frame) : Collector :=
  ⟨Machine.init frames, false, false, false, false, false, false, none⟩

def Collector.pipeClosed (c : Collector) : Bool :=
  c.eof || c.infrastructure = some .resultPipeLost

def Collector.isDone (c : Collector) : Bool := c.waitComplete && c.pipeClosed

def Collector.attempt (expectation : Expectation) (c : Collector) : Attempt → Collector
  | .interrupted => c
  | .bytes count =>
    if c.invariantFailed then c
    else
      let machine := c.machine.feed expectation count
      { c with machine := machine, invariantFailed := machine.failed }

def Collector.endReading (c : Collector) : ReadEnd → Collector
  | .endOfFile => { c with eof := true }
  | .wouldBlock => c
  | .failed => { c with infrastructure := c.infrastructure.or (some .resultPipeLost) }

def Collector.read (expectation : Expectation) (c : Collector) (reading : Reading) : Collector :=
  (reading.attempts.foldl (Collector.attempt expectation) c).endReading reading.ending

def Collector.wait (c : Collector) : WaitOutcome → Collector
  | .reaped clean => { c with childReaped := true, waitComplete := true, waitClean := clean }
  | .running => c
  | .interrupted => c
  | .failed =>
    { c with
      waitComplete := true
      infrastructure := c.infrastructure.or (some .reapAmbiguous) }

def Collector.readReady (expectation : Expectation) (c : Collector) :
    Option Reading → Collector
  | some reading => if c.pipeClosed then c else c.read expectation reading
  | none => c

def Collector.waitReady (c : Collector) : Option WaitOutcome → Collector
  | some outcome => if c.waitComplete then c else c.wait outcome
  | none => c

def Collector.observe (expectation : Expectation) (c : Collector) (reading : Option Reading)
    (wait : Option WaitOutcome) : Collector :=
  (c.readReady expectation reading).waitReady wait

/-- One turn of the loop; nothing when it leaves for `cleanup_kill`. -/
def Collector.turn (expectation : Expectation) (c : Collector) : Round → Option Collector
  | .interrupted => some c
  | .pollFailed => none
  | .ready timer reading wait =>
    match timer with
    | none => some (c.observe expectation reading wait)
    | some expired =>
      if c.watchdog then some (c.observe expectation reading wait)
      else if expired then
        some (Collector.observe expectation { c with watchdog := true } reading wait)
      else none

def finishMachine (c : Collector) : Collected :=
  if c.machine.failed || c.machine.pending ≠ 0 || !c.childReaped || !c.eof then
    .trustedInvariant
  else
    match c.machine.terminal with
    | some frame =>
      if !c.waitClean || !frame.isValid then .trustedInvariant
      else
        match frame.payload with
        | .result body => .ok (.result body c.machine.started.isSome)
        | .error body =>
          .ok (.error body
            ⟨body.phase, body.errorClass, body.code, body.stage, body.startState,
              body.cleanupState, .yes, .yes⟩)
        | .started _ _ => .trustedInvariant
    | none =>
      let phase := if c.machine.started.isSome then Phase.terminal else .started
      let start := if c.machine.started.isSome then TriState.yes else .no
      if c.watchdog || !c.waitClean then
        .ok (.derived ⟨phase, .unavailable, .supervisorCrashed, .supervision, start, .unknown,
          .yes, .yes⟩)
      else
        .ok (.derived ⟨phase, .ambiguous, .terminalFrameMissing, .postflight, start, .unknown,
          .yes, .yes⟩)

def infrastructureError (c : Collector) (code : ErrorCode) : TerminalError where
  phase := if c.machine.started.isSome then .terminal else .started
  errorClass := .ambiguous
  code := code
  stage := if code = .reapAmbiguous then .cleanup else .supervision
  startState := if c.machine.started.isSome then .yes else .no
  cleanupState := .unknown
  reapState := if c.childReaped then .yes else .unknown
  eofState := if c.eof then .yes else .unknown

def Collector.finish (c : Collector) : Collected :=
  if c.invariantFailed then .trustedInvariant
  else
    match c.infrastructure with
    | some code => .ok (.derived (infrastructureError c code))
    | none => finishMachine c

def Collector.loop (expectation : Expectation) (c : Collector) : List Round → Option Collected
  | [] => if c.isDone then some c.finish else none
  | round :: rest =>
    if c.isDone then some c.finish
    else
      match c.turn expectation round with
      | some next => Collector.loop expectation next rest
      | none => some .systemFailure

/-- `proc17_qa_launcher_collect_v1`; `prepared` says whether the pipe and the timer could be
set up. -/
def collectV1 (expectation : Expectation) (prepared : Bool) (frames : List Frame)
    (rounds : List Round) : Option Collected :=
  if !expectation.isValid then some .invalidArgument
  else if !prepared then some .systemFailure
  else (Collector.init frames).loop expectation rounds

/-! ## Errors of the launch -/

def derivedLauncherError (errorClass : ErrorClass) (code : ErrorCode) (stage : ErrorStage)
    (start cleanup reap eof : TriState) : Terminal :=
  .derived ⟨if start = .yes then .terminal else .started, errorClass, code, stage, start, cleanup,
    reap, eof⟩

/-- Why `run_source_consumer` and `run_lua54_test_suite` set an error of their own: the source
has no mount identity, the source is not available, or no supervisor was started. -/
inductive LaunchFailure where
  | mountIdentity
  | source
  | launch

def LaunchFailure.terminal : LaunchFailure → Terminal
  | .mountIdentity =>
    derivedLauncherError .world .sourceStagingFailed .sourceStaging .no .yes .yes .yes
  | .source => derivedLauncherError .world .sourceStagingFailed .sourceStaging .no .yes .yes .yes
  | .launch =>
    derivedLauncherError .unavailable .supervisorUnavailable .launch .no .yes .yes .yes

/-! ## Pushing to Lua -/

/-- `set_integer`: the cast to `lua_Integer` wraps. -/
def luaInteger (n : Nat) : Value := .num (.int (Number.wrap n))

theorem luaInteger_of_lt {n : Nat} (small : n < 2 ^ 63) : luaInteger n = .nat n := by
  have same : Number.wrap n = n := by
    unfold Number.wrap
    rw [Int.bmod_eq_of_le] <;> omega
  rw [luaInteger, same]
  rfl

def Phase.ordinal : Phase → Nat
  | .started => 1
  | .terminal => 2

def TerminationKind.ordinal : TerminationKind → Nat
  | .exit => 1
  | .signal => 2
  | .supervisorKill => 3

def Reason.name : Reason → String
  | .expectedExit => "expected_exit"
  | .unexpectedExit => "unexpected_exit"
  | .signal => "signal"
  | .wallTimeout => "wall_timeout"
  | .cpuLimit => "cpu_limit"
  | .memoryLimit => "memory_limit"
  | .outputLimit => "output_limit"
  | .scratchLimit => "scratch_limit"
  | .sandboxPolicyViolation => "sandbox_policy_violation"

def ErrorClass.name : ErrorClass → String
  | .world => "world"
  | .unavailable => "unavailable"
  | .ambiguous => "ambiguous"

def ErrorCode.name : ErrorCode → String
  | .supervisorUnavailable => "supervisor_unavailable"
  | .sourceStagingFailed => "source_staging_failed"
  | .supervisorCrashed => "supervisor_crashed"
  | .resultPipeLost => "result_pipe_lost"
  | .terminalFrameMissing => "terminal_frame_missing"
  | .reapAmbiguous => "reap_ambiguous"
  | .outputObservationIncomplete => "output_observation_incomplete"
  | .scratchObservationIncomplete => "scratch_observation_incomplete"
  | .namespaceCleanupIncomplete => "namespace_cleanup_incomplete"

def ErrorStage.name : ErrorStage → String
  | .preflight => "preflight"
  | .sourceStaging => "source_staging"
  | .namespaceSetup => "namespace"
  | .launch => "launch"
  | .supervision => "supervision"
  | .postflight => "postflight"
  | .cleanup => "cleanup"

def TriState.startName : TriState → String
  | .unknown => "unknown"
  | .no => "not_started"
  | .yes => "started"

def TriState.completionName : TriState → String
  | .unknown => "unknown"
  | .no => "incomplete"
  | .yes => "complete"

def taggedText (tag : String) (digest : Bytes) : Value := .str (utf8 tag ++ digest)

def Run.identityFields (run : Run) : List (String × Value) := [
  ("transaction_id", taggedText "qa-provider-transaction:" run.transaction),
  ("witness_id", taggedText "qa-provider-witness:" run.witness),
  ("profile_id", .text "qa.profile.lua54_test_suite.v0"),
  ("environment_id", taggedText "qa-environment:" run.environment)]

def pushV1Stream (m : StreamMeasurement) : Value := .record [
  ("protocol_version", .text "qa.stream_measurement.v1"),
  ("observed_bytes", luaInteger m.observed),
  ("hashed_bytes", luaInteger m.hashed),
  ("sha256", taggedText "sha256:" m.digest),
  ("limit_bytes", luaInteger m.limit),
  ("limit_reached", .bool m.crossed),
  ("eof_observed", .bool true),
  ("raw_retained", .bool false)]

def pushV1Resources (r : Resource) : Value := .record [
  ("protocol_version", .text "qa.resource_measurement.v1"),
  ("wall_time_ms", luaInteger r.metrics.wallTimeMs),
  ("cpu_user_ms", luaInteger r.metrics.cpuUserMs),
  ("cpu_system_ms", luaInteger r.metrics.cpuSystemMs),
  ("max_rss_bytes", luaInteger r.metrics.maxRssBytes),
  ("address_space_limit_bytes", luaInteger r.addressSpace),
  ("runtime_heap_peak_bytes", luaInteger r.heapPeak),
  ("runtime_heap_limit_bytes", luaInteger r.heapLimit),
  ("runtime_heap_denied", .bool r.heapDenied),
  ("max_processes", luaInteger r.maxProcesses),
  ("max_open_files", luaInteger r.maxOpenFiles),
  ("max_file_bytes", luaInteger r.maxFileBytes)]

def pushV1Scratch (s : Scratch) : Value := .record [
  ("protocol_version", .text "qa.scratch_measurement.v1"),
  ("stored_regular_bytes", luaInteger s.bytes),
  ("stored_entries", luaInteger s.entries),
  ("limit_bytes", luaInteger s.limitBytes),
  ("limit_entries", luaInteger s.limitEntries),
  ("byte_capacity_exhausted", .bool s.bytesExhausted),
  ("entry_capacity_exhausted", .bool s.entriesExhausted),
  ("inventory_complete", .bool s.complete)]

def pushTermination (t : Termination) : Value := .record [
  ("kind", luaInteger t.kind.ordinal),
  ("exit_code", luaInteger t.exitCode),
  ("signal", luaInteger t.signal)]

def pushCause (cause : FirstCause) (reason : Reason) : Value := .record [
  ("protocol_version", .text "qa.first_cause.v1"),
  ("kind", .text reason.name),
  ("monotonic_sequence", luaInteger cause.sequence),
  ("observed_value", luaInteger cause.observed)]

def pushFinality : Value := .record (Qa.Process.finalityKeys.map fun key => (key, .bool true))

def resultRecord (run : Run) (body : ResultBody) : Value :=
  .record (("protocol_version", .text "qa.native_run_result.v1") :: run.identityFields ++ [
    ("phase_ordinal", luaInteger Phase.terminal.ordinal),
    ("disposition", .text "contained_candidate"),
    ("start_attested", .bool true),
    ("source_staging_policy", .text "qa.source_staging.detached_mount.v0"),
    ("source_staging_complete", .bool true),
    ("reason", .text body.reason.name),
    ("termination", pushTermination body.termination),
    ("cause", pushCause body.cause body.reason),
    ("finality", pushFinality),
    ("stdout", pushV1Stream body.stdout),
    ("stderr", pushV1Stream body.stderr),
    ("resources", pushV1Resources body.resource),
    ("scratch", pushV1Scratch body.scratch),
    ("event_truth_status", .text "runtime_confirmed")])

def pushV1Result (run : Run) (body : ResultBody) (startedAttested : Bool) :
    Except Failure Value :=
  if !startedAttested then .error (raise "trusted RUN v1 result invariant failed")
  else .ok (resultRecord run body)

def errorRecord (run : Run) (e : TerminalError) : Value :=
  .record (("protocol_version", .text "qa.native_run_error.v1") :: run.identityFields ++ [
    ("phase_ordinal", luaInteger e.phase.ordinal),
    ("class", .text e.errorClass.name),
    ("code", .text e.code.name),
    ("stage", .text e.stage.name),
    ("candidate_start_state", .text e.startState.startName),
    ("cleanup_state", .text e.cleanupState.completionName),
    ("launcher_reaped", .text e.reapState.completionName),
    ("result_eof", .text e.eofState.completionName),
    ("event_truth_status", .text "runtime_confirmed")])

/-- `push_v1_error`; `frame` is the frame of an error that the supervisor sent. -/
def pushV1Error (run : Run) (frame : Option ErrorBody) (e : TerminalError) :
    Except Failure Value :=
  if frame.any ErrorBody.costKnown then
    .error (raise "trusted RUN v1 error or measured-cost invariant failed")
  else .ok (errorRecord run e)

/-- The end of `run_lua54_test_suite` and of `qa_provider.run`: the terminal is pushed and
normalised against the request. -/
def Terminal.answer (terminal : Terminal) (run : Run) (request : Value) : Except Failure Value :=
  match terminal with
  | .result body startedAttested => do
      Qa.Process.normalizeResultV1 (← pushV1Result run body startedAttested) request
  | .error frame e => do
      Qa.Process.normalizeErrorV1 (← pushV1Error run (some frame) e) request
  | .derived e => do
      Qa.Process.normalizeErrorV1 (← pushV1Error run none e) request

/-- The terminal is inside the vocabulary of `qa_process`. -/
def Terminal.Accepted (terminal : Terminal) (run : Run) (request : Value) : Prop :=
  ∃ answer, terminal.answer run request = .ok answer

end Proc17.Native
