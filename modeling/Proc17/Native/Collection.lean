import Proc17.Native.Acceptance

/-!
# Launcher terminals

Which terminals of the launcher stay inside the vocabulary of `runtime/qa_process.lua`.  The
loop ends with what it knows of the start, of the reap and of the end of the pipe.  A reaped
supervisor always gives an accepted terminal.  A supervisor whose `waitpid` failed gives one
only if the pipe was never lost and the start had been attested: the list of topologies has
no entry for the other two.
-/

namespace Proc17.Native

open Lua Core Proc17.Runtime Runtime.Repository List Option Collector Machine

/-! ## What the supervisor writes -/

def preflightError : ErrorBody where
  phase := .started
  errorClass := .unavailable
  code := .supervisorUnavailable
  stage := .preflight
  startState := .no
  cleanupState := .yes
  costKnown := false
  sourceStage := none

inductive Report.Built : Report → Prop
  | result {input : ReportInput} {report : ResultReport}
      (built : reportBuild input = some (.result report)) : Built (.result report)
  | error (report : ErrorReport) : Built (.error report)

/-- A frame that the supervisor writes: the refusal to start, the attestation of the start, and
the terminal frame of the finaliser. -/
inductive Writes : Frame → Prop
  | preflight {identity : RunIdentity} {frame : Frame}
      (encoded : Frame.encode ⟨identity, .error preflightError⟩ = some frame) : Writes frame
  | started {identity : RunIdentity} {token : Bytes} {stage : SourceStage} {frame : Frame}
      (encoded : Frame.encode ⟨identity, .started token stage⟩ = some frame) : Writes frame
  | terminal {report : Report} {identity : RunIdentity} {token : Bytes} {waitClean : Bool}
      {observation : NamespaceObservation} {frame : Frame} (built : report.Built)
      (final : reportFinalize report identity token waitClean observation = some frame) :
      Writes frame

/-- The counters of a result are below `2 ^ 63`. -/
def Frame.CountersFit (frame : Frame) : Prop :=
  match frame.payload with
  | .result body =>
    body.resource.metrics.Fit ∧ body.stdout.observed < 2 ^ 63 ∧ body.stderr.observed < 2 ^ 63
      ∧ body.cause.sequence < 2 ^ 63 ∧ body.cause.observed < 2 ^ 63
  | _ => True

/-! ## Results of the finaliser -/

theorem StreamObserver.consume_kept {s next : StreamObserver} {chunk : Bytes}
    (consumed : s.consume chunk = some next) (kept : s.prefixText.length = s.hashed) :
    next.limit = s.limit ∧ next.prefixText.length = next.hashed := by
  unfold StreamObserver.consume at consumed
  split at consumed
  · cases consumed
  · cases consumed
    refine ⟨rfl, ?_⟩
    simp only [length_append, length_take, kept]
    omega

theorem StreamObserver.consumeAll_kept : ∀ (chunks : List Bytes) {s last : StreamObserver},
    chunks.foldlM StreamObserver.consume s = some last → s.prefixText.length = s.hashed →
      last.limit = s.limit ∧ last.prefixText.length = last.hashed := by
  intro chunks
  induction chunks with
  | nil =>
    intro s last consumed kept
    cases consumed
    exact ⟨rfl, kept⟩
  | cons chunk rest ih =>
    intro s last consumed kept
    rw [foldlM_cons, bind_eq_bind, bind_eq_some_iff] at consumed
    obtain ⟨next, first, later⟩ := consumed
    obtain ⟨sameLimit, nextKept⟩ := StreamObserver.consume_kept first kept
    obtain ⟨lastLimit, lastKept⟩ := ih later nextKept
    exact ⟨lastLimit.trans sameLimit, lastKept⟩

theorem measureStream_sound {limit : Nat} {chunks : List Bytes} {m : StreamMeasurement}
    (measured : measureStream limit chunks = some m) (small : m.observed < 2 ^ 63) :
    m.Sound limit := by
  simp only [measureStream, bind_eq_bind, bind_eq_some_iff] at measured
  obtain ⟨observer, read, measured⟩ := measured
  split at measured
  · rename_i exact
    cases measured
    obtain ⟨limited, kept⟩ := StreamObserver.consumeAll_kept chunks read rfl
    simp only [StreamMeasurement.isExact, Bool.and_eq_true, decide_eq_true_eq] at exact
    obtain ⟨⟨_, hashed⟩, crossed⟩ := exact
    exact
      { limited := limited
        observed := small
        within := by omega
        bounded := by omega
        crossed := crossed
        digest := ⟨observer.prefixText, rfl, kept⟩ }
  · cases measured

variable {report : ResultReport}

theorem reportBuild_spec {input : ReportInput}
    (built : reportBuild input = some (.result report)) :
    measureStream Policy.stdoutBytes input.stdout = some report.stdout
      ∧ measureStream Policy.stderrBytes input.stderr = some report.stderr := by
  simp only [reportBuild, bind_eq_bind, bind_eq_some_iff] at built
  obtain ⟨stdout, outRead, stderr, errRead, cause, _, built⟩ := built
  split at built
  · cases built
    exact ⟨outRead, errRead⟩
  · cases built

theorem ResultReport.evidence (valid : report.isValid = true) :
    reasonEvidenceValid report.reason report.cause report.termination report.stdout report.stderr
        report.metrics report.allocator = true
      ∧ report.allocator.isValid report.notifications report.reason = true
      ∧ report.scratch.isValid = true ∧ report.scratch.isBounded = true := by
  simp only [ResultReport.isValid, Bool.and_eq_true] at valid
  obtain ⟨⟨⟨⟨⟨⟨⟨_, scratchValid⟩, scratchBounded⟩, _⟩, _⟩, _⟩, allocator⟩, evidence⟩ := valid
  exact ⟨evidence, allocator, scratchValid, scratchBounded⟩

theorem resource_sound {metrics : Metrics} {allocator : Allocator} {notifications : Nat}
    {reason : Reason} (fit : metrics.Fit) (valid : allocator.isValid notifications reason = true) :
    (Resource.encode metrics allocator).Sound ∧ decide (reason = .memoryLimit) = allocator.denied := by
  simp only [Allocator.isValid, Bool.and_eq_true, decide_eq_true_eq] at valid
  obtain ⟨⟨⟨⟨⟨⟨ceiling, _⟩, peak⟩, _⟩, _⟩, _⟩, denied⟩ := valid
  exact ⟨⟨fit, rfl, ceiling, peak, rfl, rfl, rfl⟩, denied⟩

variable {frame : Frame} {request : Value} {run : Run} {m : Machine} {frames : List Frame}
  {c last : Collector} {rounds rest : List Round} {outcome : Option WaitOutcome}
  {reading : Option Reading} {timer : Option Bool}

theorem result_sound {input : ReportInput}
    (built : reportBuild input = some (.result report)) (valid : report.isValid = true)
    {identity : RunIdentity} (published : publicResult identity report = some frame)
    (fit : frame.CountersFit) : ∃ body, frame.payload = .result body ∧ body.Sound := by
  obtain ⟨evidence, allocator, scratchValid, scratchBounded⟩ := report.evidence valid
  obtain ⟨outRead, errRead⟩ := reportBuild_spec built
  simp only [publicResult, Frame.encode] at published
  split at published
  · cases published
    obtain ⟨metrics, outFit, errFit, sequenceFit, observedFit⟩ := fit
    obtain ⟨resource, memory⟩ := resource_sound metrics allocator
    simp only [reasonEvidenceValid, Bool.and_eq_true, decide_eq_true_eq] at evidence
    obtain ⟨⟨⟨⟨_, sequence⟩, termination⟩, output⟩, explained⟩ := evidence
    refine ⟨_, rfl, ?_⟩
    constructor
    · exact termination
    · exact sequence
    · exact sequenceFit
    · exact observedFit
    · exact measureStream_sound outRead outFit
    · exact measureStream_sound errRead errFit
    · exact resource
    · exact scratchValid
    · exact scratchBounded
    · intro reserved
      simp only at reserved
      rw [reserved] at explained
      cases explained
    · intro expected
      simp only at expected
      rw [expected] at explained
      simp only [Reason.explains, Bool.and_eq_true, decide_eq_true_eq] at explained
      exact explained.1
    · intro unexpected
      simp only at unexpected
      rw [unexpected] at explained
      simp only [Reason.explains, Bool.and_eq_true, decide_eq_true_eq] at explained
      exact explained.1
    · intro signalled
      simp only at signalled
      rcases signalled with signal | violation
      · rw [signal] at explained
        simp only [Reason.explains, Bool.and_eq_true, decide_eq_true_eq] at explained
        exact explained.1.1.1
      · rw [violation] at explained
        simp only [Reason.explains, Bool.and_eq_true, decide_eq_true_eq] at explained
        exact explained.1.1
    · rw [← output]
      exact decide_eq_true_iff.symm
    · show report.reason = .memoryLimit ↔ report.allocator.denied = true
      rw [← memory]
      exact decide_eq_true_iff.symm
  · cases published

/-! ## Frames that end a run -/

/-- The terminal that `finish_machine` makes of a frame. -/
def Frame.terminal (frame : Frame) : Option Terminal :=
  match frame.payload with
  | .result body => some (.result body true)
  | .error body =>
    some (.error body ⟨body.phase, body.errorClass, body.code, body.stage, body.startState,
      body.cleanupState, .yes, .yes⟩)
  | .started _ _ => none

theorem encode_eq {encoded : Frame} (made : frame.encode = some encoded) :
    encoded = frame := by
  unfold Frame.encode at made
  split at made
  · cases made
    rfl
  · cases made

variable {terminal : Terminal}

theorem publicError_accepted (parsed : Run.parse request = some run) {identity : RunIdentity}
    {stage : SourceStage} {code : ErrorCode} {errorStage : ErrorStage}
    (made : encodePublicError identity stage code errorStage = some frame)
    (pair : (code = .outputObservationIncomplete ∨ code = .scratchObservationIncomplete)
        ∧ errorStage = .postflight
      ∨ code = .namespaceCleanupIncomplete ∧ errorStage = .cleanup)
    (ends : frame.terminal = some terminal) : terminal.Accepted run request := by
  cases encode_eq made
  cases ends
  apply error_accepted parsed rfl
  rcases pair with ⟨rfl | rfl, rfl⟩ | ⟨rfl, rfl⟩
  · rfl
  · rfl
  · rfl

theorem written_accepted (parsed : Run.parse request = some run) (written : Writes frame)
    (fit : frame.CountersFit) (ends : frame.terminal = some terminal) :
    terminal.Accepted run request := by
  cases written with
  | preflight encoded =>
    cases encode_eq encoded
    cases ends
    exact error_accepted parsed rfl (by decide)
  | started encoded =>
    cases encode_eq encoded
    cases ends
  | @terminal report identity token waitClean observation _ built final =>
    simp only [reportFinalize] at final
    split at final
    · rename_i checked
      simp only [Bool.and_eq_true] at checked
      obtain ⟨⟨⟨⟨valid, _⟩, _⟩, _⟩, _⟩ := checked
      rw [bind_eq_bind, bind_eq_some_iff] at final
      obtain ⟨complete, _, final⟩ := final
      cases built with
      | @result input report built =>
        cases complete with
        | true =>
          obtain ⟨body, isResult, sound⟩ := result_sound built valid final fit
          rw [Frame.terminal, isResult] at ends
          cases ends
          exact result_accepted parsed sound
        | false => exact publicError_accepted parsed final (.inr ⟨rfl, rfl⟩) ends
      | error report =>
        cases complete with
        | true =>
          have code : report.subject.code = .outputObservationIncomplete
              ∨ report.subject.code = .scratchObservationIncomplete := by
            cases report.subject
            · exact .inl rfl
            · exact .inl rfl
            · exact .inr rfl
          exact publicError_accepted parsed final (.inl ⟨code, rfl⟩) ends
        | false => cases final
    · cases final

/-! ## The machine -/

variable (expectation : Expectation)

/-- The machine's terminal is one of the supervisor's frames, and a result follows the start. -/
structure Machine.Sound (frames : List Frame) (m : Machine) : Prop where
  incoming : ∀ frame ∈ m.incoming, frame ∈ frames
  terminal : ∀ frame, m.terminal = some frame → frame ∈ frames
  attested : ∀ frame body, m.terminal = some frame → frame.payload = .result body →
    m.started.isSome = true

theorem Machine.init_sound (frames : List Frame) : (Machine.init frames).Sound frames := by
  refine ⟨fun _ member => member, ?_, ?_⟩
  · intro frame ended
    cases ended
  · intro frame body ended
    cases ended

theorem Machine.accept_cases {next : Machine} (accepted : m.accept expectation frame = some next) :
    m.terminal = none ∧
      ((∃ token stage, frame.payload = .started token stage
          ∧ next = { m with started := some stage })
        ∨ ((∀ token stage, frame.payload ≠ .started token stage)
          ∧ (∀ body, frame.payload = .result body → m.started.isSome = true)
          ∧ next = { m with terminal := some frame })) := by
  unfold Machine.accept at accepted
  split at accepted
  · cases accepted
  · rename_i refused
    have open_ : m.terminal = none := by
      cases equation : m.terminal with
      | none => rfl
      | some frame => simp [equation] at refused
    refine ⟨open_, ?_⟩
    split at accepted
    · rename_i token stage isStarted
      split at accepted
      · cases accepted
        exact .inl ⟨token, stage, isStarted, rfl⟩
      · cases accepted
    · rename_i body isResult
      split at accepted
      · rename_i matched
        cases accepted
        simp only [Bool.and_eq_true, decide_eq_true_eq] at matched
        refine .inr ⟨by simp [isResult], ?_, rfl⟩
        intro _ _
        rw [matched.2]
        rfl
      · cases accepted
    · rename_i body isError
      right
      refine ⟨by simp [isError], by simp [isError], ?_⟩
      split at accepted
      · split at accepted
        · cases accepted
          rfl
        · cases accepted
      · split at accepted
        · cases accepted
          rfl
        · cases accepted

theorem Machine.feedByte_cases (m : Machine) :
    (m.incoming = [] ∧ m.feedByte expectation = m)
      ∨ (m.feedByte expectation = { m with failed := true })
      ∨ (∃ frame rest, m.incoming = frame :: rest ∧ m.failed = false ∧ m.terminal = none
          ∧ ((m.pending + 1 < frame.bytes
              ∧ m.feedByte expectation = { m with pending := m.pending + 1 })
            ∨ (frame.bytes ≤ m.pending + 1 ∧ ∃ next, m.accept expectation frame = some next
              ∧ m.feedByte expectation = { next with incoming := rest, pending := 0 }))) := by
  unfold Machine.feedByte
  cases arriving : m.incoming with
  | nil => exact .inl ⟨rfl, rfl⟩
  | cons frame rest =>
    right
    by_cases stopped : (m.failed || m.terminal.isSome) = true
    · left
      simp only [stopped, if_true]
    · simp only [stopped, Bool.false_eq_true, if_false]
      simp only [Bool.or_eq_true, not_or, Bool.not_eq_true, isSome_eq_false_iff,
        isNone_iff_eq_none] at stopped
      by_cases short : m.pending + 1 < frame.bytes
      · right
        exact ⟨frame, rest, rfl, stopped.1, stopped.2, .inl ⟨short, by rw [if_pos short]⟩⟩
      · rw [if_neg short]
        cases taken : m.accept expectation frame with
        | none => exact .inl rfl
        | some next =>
          right
          exact ⟨frame, rest, rfl, stopped.1, stopped.2,
            .inr ⟨by omega, next, taken, rfl⟩⟩

theorem Machine.feedByte_sound (sound : m.Sound frames) :
    (m.feedByte expectation).Sound frames := by
  rcases m.feedByte_cases expectation with ⟨_, same⟩ | failed | ⟨frame, rest, arriving, _, _, step⟩
  · rw [same]
    exact sound
  · rw [failed]
    exact ⟨sound.incoming, sound.terminal, sound.attested⟩
  · rcases step with ⟨_, waiting⟩ | ⟨_, next, accepted, fed⟩
    · rw [waiting]
      exact ⟨sound.incoming, sound.terminal, sound.attested⟩
    · have later : ∀ other ∈ rest, other ∈ frames := by
        intro other member
        apply sound.incoming
        rw [arriving]
        exact mem_cons_of_mem _ member
      have here : frame ∈ frames := by
        apply sound.incoming
        rw [arriving]
        exact mem_cons_self
      obtain ⟨none, taken⟩ := m.accept_cases expectation accepted
      rcases taken with ⟨token, stage, _, rfl⟩ | ⟨_, attested, rfl⟩
      · rw [fed]
        refine ⟨later, ?_, ?_⟩
        · intro other same
          exact sound.terminal other same
        · intro other body same
          rw [none] at same
          cases same
      · rw [fed]
        refine ⟨later, ?_, ?_⟩
        · intro other same
          cases same
          exact here
        · intro other body same isResult
          cases same
          exact attested body isResult

theorem Machine.feed_sound : ∀ (n : Nat) {m : Machine}, m.Sound frames →
    (m.feed expectation n).Sound frames := by
  intro n
  induction n with
  | zero => intro m sound; exact sound
  | succ n ih => intro m sound; exact ih (m.feedByte_sound expectation sound)

theorem Machine.feed_add : ∀ (a b : Nat) (m : Machine),
    m.feed expectation (a + b) = (m.feed expectation a).feed expectation b := by
  intro a b
  induction a with
  | zero => intro m; rw [Nat.zero_add]; rfl
  | succ a ih =>
    intro m
    rw [Nat.succ_add]
    exact ih (m.feedByte expectation)

theorem Machine.feedByte_failed (failed : m.failed = true) :
    (m.feedByte expectation).failed = true := by
  rcases m.feedByte_cases expectation with ⟨_, same⟩ | stopped | ⟨_, _, _, running, _⟩
  · rw [same]
    exact failed
  · rw [stopped]
  · rw [failed] at running
    cases running

theorem Machine.feed_failed : ∀ (n : Nat) {m : Machine}, m.failed = true →
    (m.feed expectation n).failed = true := by
  intro n
  induction n with
  | zero => intro m failed; exact failed
  | succ n ih => intro m failed; exact ih (m.feedByte_failed expectation failed)

/-! The first frame decides whether the start is attested. -/

theorem Machine.feed_part {rest : List Frame} : ∀ (n : Nat) {m : Machine},
    m.incoming = frame :: rest → m.failed = false → m.terminal = none →
      m.pending + n < frame.bytes →
        m.feed expectation n = { m with pending := m.pending + n } := by
  intro n
  induction n with
  | zero => intro m _ _ _ _; rfl
  | succ n ih =>
    intro m arriving running none short
    have stays : m.feedByte expectation = { m with pending := m.pending + 1 } := by
      have one : m.pending + 1 < frame.bytes := by omega
      simp only [Machine.feedByte, arriving, running, none, isSome_none, Bool.or_self,
        Bool.false_eq_true, if_false, if_pos one]
    rw [Machine.feed, stays]
    rw [ih (m := { m with pending := m.pending + 1 }) arriving running none (by simp only; omega)]
    simp only [Machine.mk.injEq, true_and, and_true]
    omega

theorem Machine.feed_started : ∀ (n : Nat) {m : Machine}, m.started.isSome = true →
    (m.feed expectation n).started.isSome = true := by
  intro n
  induction n with
  | zero => intro m started; exact started
  | succ n ih =>
    intro m started
    apply ih
    rcases m.feedByte_cases expectation with ⟨_, same⟩ | stopped | ⟨_, _, _, _, _, step⟩
    · rw [same]
      exact started
    · rw [stopped]
      exact started
    · rcases step with ⟨_, waiting⟩ | ⟨_, next, accepted, fed⟩
      · rw [waiting]
        exact started
      · rw [fed]
        rcases (m.accept_cases expectation accepted).2 with ⟨_, _, _, rfl⟩ | ⟨_, _, rfl⟩
        · rfl
        · exact started

theorem Machine.feed_ended : ∀ (n : Nat) {m : Machine}, m.terminal.isSome = true →
    (m.feed expectation n).started = m.started := by
  intro n
  induction n with
  | zero => intro m _; rfl
  | succ n ih =>
    intro m ended
    rcases m.feedByte_cases expectation with ⟨_, same⟩ | stopped | ⟨_, _, _, _, open_, _⟩
    · rw [Machine.feed, same]
      exact ih ended
    · rw [Machine.feed, stopped]
      exact ih (m := { m with failed := true }) ended
    · rw [open_] at ended
      cases ended

def Frame.isStarted (frame : Frame) : Bool :=
  match frame.payload with
  | .started _ _ => true
  | _ => false

theorem Frame.bytes_pos (frame : Frame) : 0 < frame.bytes := by
  unfold Frame.bytes
  omega

theorem Machine.feed_started_iff (frames : List Frame) (n : Nat)
    (running : ((Machine.init frames).feed expectation n).failed = false) :
    ((Machine.init frames).feed expectation n).started.isSome = true ↔
      ∃ frame, frames.head? = some frame ∧ frame.isStarted = true ∧ frame.bytes ≤ n := by
  cases frames with
  | nil =>
    have idle : ∀ n, (Machine.init []).feed expectation n = Machine.init [] := by
      intro n
      induction n with
      | zero => rfl
      | succ n ih => exact ih
    rw [idle]
    simp [Machine.init]
  | cons frame rest =>
    have positive := frame.bytes_pos
    by_cases short : n < frame.bytes
    · rw [feed_part expectation n rfl rfl rfl (by simpa [Machine.init] using short)]
      have notWhole : ¬ frame.bytes ≤ n := by omega
      simp [Machine.init, notWhole]
    · obtain ⟨more, rfl⟩ : ∃ more, n = (frame.bytes - 1) + (1 + more) := ⟨n - frame.bytes, by omega⟩
      rw [feed_add, feed_add] at running ⊢
      have waited : (Machine.init (frame :: rest)).feed expectation (frame.bytes - 1)
          = { Machine.init (frame :: rest) with pending := 0 + (frame.bytes - 1) } :=
        feed_part expectation _ rfl rfl rfl (by simp only [Machine.init]; omega)
      rw [waited] at running ⊢
      set m : Machine := { Machine.init (frame :: rest) with pending := 0 + (frame.bytes - 1) }
      have whole : frame.bytes ≤ frame.bytes - 1 + (1 + more) := by omega
      rcases m.feedByte_cases expectation with ⟨gone, _⟩ | stopped | ⟨first, others, arriving, _, _, step⟩
      · cases gone
      · have failed : (m.feed expectation 1).failed = true := by
          rw [show m.feed expectation 1 = m.feedByte expectation from rfl, stopped]
        rw [feed_failed expectation more failed] at running
        cases running
      · cases arriving
        rcases step with ⟨short, _⟩ | ⟨_, next, accepted, fed⟩
        · exact absurd short (by simp only [m]; omega)
        · have after : m.feed expectation 1 = { next with incoming := rest, pending := 0 } := fed
          rw [after]
          rcases (m.accept_cases expectation accepted).2 with
            ⟨token, stage, isStarted, rfl⟩ | ⟨notStarted, _, rfl⟩
          · have attested : frame.isStarted = true := by rw [Frame.isStarted, isStarted]
            simp only [List.head?_cons, Option.some.injEq, exists_eq_left', attested, whole,
              and_self, iff_true]
            exact feed_started expectation more rfl
          · have unattested : frame.isStarted = false := by
              unfold Frame.isStarted
              split
              · rename_i token stage isStarted
                exact absurd isStarted (notStarted token stage)
              · rfl
            rw [feed_ended expectation more rfl]
            simp [m, Machine.init, unattested]

/-! ## The loop -/

inductive Settles : Collector → List Round → Collector → Prop
  | done {c : Collector} (rounds : List Round) (done : c.isDone = true) : Settles c rounds c
  | turn {c next last : Collector} {round : Round} {rest : List Round}
      (taken : c.turn expectation round = some next) (later : Settles next rest last) :
      Settles c (round :: rest) last

theorem loop_settles : ∀ (rounds : List Round) {c : Collector} {terminal : Terminal},
    c.loop expectation rounds = some (.ok terminal) →
      ∃ last, Settles expectation c rounds last ∧ last.finish = .ok terminal := by
  intro rounds
  induction rounds with
  | nil =>
    intro c terminal ended
    unfold Collector.loop at ended
    split at ended
    · rename_i done
      exact ⟨c, .done [] done, by simpa using ended⟩
    · cases ended
  | cons round rest ih =>
    intro c terminal ended
    unfold Collector.loop at ended
    split at ended
    · rename_i done
      exact ⟨c, .done _ done, by simpa using ended⟩
    · split at ended
      · rename_i next taken
        obtain ⟨last, settles, finished⟩ := ih ended
        exact ⟨last, .turn taken settles, finished⟩
      · cases ended

theorem Settles.isDone (settles : Settles expectation c rounds last) : last.isDone = true := by
  induction settles with
  | done _ done => exact done
  | turn _ _ ih => exact ih

theorem Collector.turn_cases {next : Collector} {round : Round}
    (taken : c.turn expectation round = some next) :
    round = .interrupted ∧ next = c
      ∨ ∃ timer reading wait fired, round = .ready timer reading wait
        ∧ next = Collector.observe expectation { c with watchdog := fired } reading wait := by
  cases round with
  | interrupted =>
    cases taken
    exact .inl ⟨rfl, rfl⟩
  | pollFailed => cases taken
  | ready timer reading wait =>
    right
    refine ⟨timer, reading, wait, ?_⟩
    cases timer with
    | none =>
      cases taken
      exact ⟨c.watchdog, rfl, rfl⟩
    | some expired =>
      simp only [Collector.turn] at taken
      split at taken
      · cases taken
        exact ⟨c.watchdog, rfl, rfl⟩
      · split at taken
        · cases taken
          exact ⟨true, rfl, rfl⟩
        · cases taken

theorem Settles.invariant {P : Collector → Prop}
    (watchdog : ∀ c fired, P c → P { c with watchdog := fired })
    (read : ∀ c reading, P c → P (c.readReady expectation reading))
    (wait : ∀ c outcome, P c → P (c.waitReady outcome))
    (settles : Settles expectation c rounds last) (holds : P c) : P last := by
  induction settles with
  | done => exact holds
  | @turn c next last round rest taken _ ih =>
    apply ih
    rcases c.turn_cases expectation taken with ⟨_, rfl⟩ | ⟨_, reading, outcome, fired, _, rfl⟩
    · exact holds
    · exact wait _ outcome (read _ reading (watchdog c fired holds))

variable {motive : Collector → Prop}

theorem Collector.attempt_rule (attempt : Attempt) (idle : motive c)
    (feeds : ∀ count, c.invariantFailed = false → motive { c with
      machine := c.machine.feed expectation count
      invariantFailed := (c.machine.feed expectation count).failed }) :
    motive (c.attempt expectation attempt) := by
  cases attempt with
  | interrupted => exact idle
  | bytes count =>
    by_cases stopped : c.invariantFailed = true
    · rw [Collector.attempt, if_pos stopped]
      exact idle
    · rw [Collector.attempt, if_neg stopped]
      exact feeds count (Bool.eq_false_iff.mpr stopped)

theorem Collector.readReady_rule (reading : Option Reading)
    (idle : motive c) (reads : ∀ reading : Reading, c.pipeClosed = false →
      motive ((reading.attempts.foldl (Collector.attempt expectation) c).endReading
        reading.ending)) : motive (c.readReady expectation reading) := by
  cases reading with
  | none => exact idle
  | some reading =>
    by_cases closed : c.pipeClosed = true
    · rw [Collector.readReady, if_pos closed]
      exact idle
    · rw [Collector.readReady, if_neg closed]
      exact reads reading (Bool.eq_false_iff.mpr closed)

theorem Collector.waitReady_rule (outcome : Option WaitOutcome)
    (idle : motive c) (waits : ∀ outcome, c.waitComplete = false → motive (c.wait outcome)) :
    motive (c.waitReady outcome) := by
  cases outcome with
  | none => exact idle
  | some outcome =>
    by_cases complete : c.waitComplete = true
    · rw [Collector.waitReady, if_pos complete]
      exact idle
    · rw [Collector.waitReady, if_neg complete]
      exact waits outcome (Bool.eq_false_iff.mpr complete)

variable (attempts : List Attempt)

theorem Collector.attempts_kept (c : Collector) :
    ∃ machine failed, attempts.foldl (Collector.attempt expectation) c
      = { c with machine := machine, invariantFailed := failed } := by
  refine List.foldlRecOn (motive := fun d => ∃ machine failed,
    d = { c with machine := machine, invariantFailed := failed }) attempts _
    ⟨c.machine, c.invariantFailed, rfl⟩ ?_
  rintro _ ⟨machine, failed, rfl⟩ attempt -
  exact attempt_rule expectation (motive := fun d => ∃ machine failed,
    d = { c with machine := machine, invariantFailed := failed }) attempt
    ⟨machine, failed, rfl⟩ fun _ _ => ⟨_, _, rfl⟩

/-- The collector's fields agree with each other, and its machine with the frames. -/
structure Consistent (frames : List Frame) (c : Collector) : Prop where
  reaped : c.childReaped = true → c.waitComplete = true
  causes : ∀ code, c.infrastructure = some code → code = .resultPipeLost ∨ code = .reapAmbiguous
  ambiguous : c.infrastructure = some .reapAmbiguous →
    c.waitComplete = true ∧ c.childReaped = false
  explained : c.waitComplete = true → c.childReaped = false → c.infrastructure ≠ none
  lost : c.infrastructure = some .resultPipeLost → c.eof = false
  failed : c.invariantFailed = c.machine.failed
  machine : c.machine.Sound frames

theorem init_consistent (frames : List Frame) : Consistent frames (Collector.init frames) where
  reaped := fun reaped => by cases reaped
  causes := fun code cause => by cases cause
  ambiguous := fun cause => by cases cause
  explained := fun complete => by cases complete
  lost := fun cause => by cases cause
  failed := rfl
  machine := init_sound frames

section
variable (consistent : Consistent frames c)
include consistent

theorem attempt_consistent (attempt : Attempt) :
    Consistent frames (c.attempt expectation attempt) := by
  exact attempt_rule expectation attempt consistent fun count _ =>
    ⟨consistent.reaped, consistent.causes, consistent.ambiguous, consistent.explained,
      consistent.lost, rfl, feed_sound expectation count consistent.machine⟩

theorem attempts_consistent :
    Consistent frames (attempts.foldl (Collector.attempt expectation) c) :=
  List.foldlRecOn attempts _ consistent fun _ kept attempt _ =>
    attempt_consistent expectation kept attempt

theorem endReading_consistent (opened : c.pipeClosed = false) (ending : ReadEnd) :
    Consistent frames (c.endReading ending) := by
  simp only [Collector.pipeClosed, Bool.or_eq_false_iff, decide_eq_false_iff_not] at opened
  cases ending with
  | endOfFile =>
    exact ⟨consistent.reaped, consistent.causes, consistent.ambiguous, consistent.explained,
      fun cause => absurd cause opened.2, consistent.failed, consistent.machine⟩
  | wouldBlock => exact consistent
  | failed =>
    have cause : ∀ code, c.infrastructure.or (some .resultPipeLost) = some code →
        c.infrastructure = some code ∨ c.infrastructure = none ∧ code = .resultPipeLost := by
      intro code same
      cases known : c.infrastructure with
      | none =>
        rw [known] at same
        cases same
        exact .inr ⟨rfl, rfl⟩
      | some other =>
        rw [known] at same
        cases same
        exact .inl rfl
    refine ⟨consistent.reaped, ?_, ?_, ?_, ?_, consistent.failed, consistent.machine⟩
    · intro code same
      rcases cause code same with before | ⟨_, rfl⟩
      · exact consistent.causes code before
      · exact .inl rfl
    · intro same
      rcases cause _ same with before | ⟨_, impossible⟩
      · exact consistent.ambiguous before
      · cases impossible
    · intro _ _ same
      cases known : c.infrastructure with
      | none | some => simp [Collector.endReading, known] at same
    · intro _
      exact opened.1

theorem readReady_consistent (reading : Option Reading) :
    Consistent frames (c.readReady expectation reading) := by
  refine readReady_rule expectation reading consistent fun reading opened => ?_
  apply endReading_consistent (attempts_consistent expectation _ consistent)
  obtain ⟨machine, failed, equation⟩ := c.attempts_kept expectation reading.attempts
  rw [equation]
  exact opened

theorem waitReady_consistent (outcome : Option WaitOutcome) :
    Consistent frames (c.waitReady outcome) := by
  refine waitReady_rule outcome consistent fun outcome waiting => ?_
  have unreaped : c.childReaped = false := by
    rw [Bool.eq_false_iff]
    intro reaped
    rw [consistent.reaped reaped] at waiting
    cases waiting
  have unambiguous : c.infrastructure ≠ some .reapAmbiguous := by
    intro cause
    rw [(consistent.ambiguous cause).1] at waiting
    cases waiting
  cases outcome with
  | reaped clean =>
    exact ⟨fun _ => rfl, consistent.causes, fun cause => absurd cause unambiguous,
      fun _ reaped => (by cases reaped), consistent.lost, consistent.failed,
      consistent.machine⟩
  | running => exact consistent
  | interrupted => exact consistent
  | failed =>
    cases known : c.infrastructure with
    | none =>
      refine ⟨fun _ => rfl, ?_, ?_, ?_, ?_, consistent.failed, consistent.machine⟩
      · intro code same
        simp only [Collector.wait, known, none_or, Option.some.injEq] at same
        exact .inr same.symm
      · intro _
        exact ⟨rfl, unreaped⟩
      · intro _ _ same
        simp [Collector.wait, known] at same
      · intro same
        simp [Collector.wait, known] at same
    | some code =>
      have unchanged : (c.wait .failed).infrastructure = c.infrastructure := by
        simp [Collector.wait, known]
      refine ⟨fun _ => rfl, ?_, ?_, ?_, ?_, consistent.failed, consistent.machine⟩
      · rw [unchanged]
        exact consistent.causes
      · rw [unchanged]
        exact fun cause => absurd cause unambiguous
      · rw [unchanged, known]
        exact fun _ _ same => by cases same
      · rw [unchanged]
        exact consistent.lost

end

theorem Settles.consistent {frames : List Frame} {c last : Collector} {rounds : List Round}
    (settles : Settles expectation c rounds last) (consistent : Consistent frames c) :
    Consistent frames last := by
  apply Settles.invariant expectation _ _ _ settles consistent
  · intro c fired kept
    exact ⟨kept.reaped, kept.causes, kept.ambiguous, kept.explained, kept.lost, kept.failed,
      kept.machine⟩
  · intro c reading kept
    exact readReady_consistent expectation kept reading
  · intro c outcome kept
    exact waitReady_consistent kept outcome

/-! ## What the loop ends with -/

/-- The terminal of a settled loop is accepted exactly when the supervisor was reaped, or the
reap alone is in doubt and the start was attested. -/
theorem finish_accepted_iff (parsed : Run.parse request = some run)
    (written : ∀ frame ∈ frames, Writes frame ∧ frame.CountersFit)
    (consistent : Consistent frames c) (done : c.isDone = true)
    (finished : c.finish = .ok terminal) :
    terminal.Accepted run request ↔
      c.childReaped = true
        ∨ c.infrastructure = some .reapAmbiguous ∧ c.machine.started.isSome = true := by
  simp only [Collector.isDone, Collector.pipeClosed, Bool.and_eq_true, Bool.or_eq_true,
    decide_eq_true_eq] at done
  unfold Collector.finish at finished
  split at finished
  · cases finished
  · cases known : c.infrastructure with
    | some code =>
      rw [known] at finished
      cases finished
      rw [derived_accepted_iff parsed]
      rcases consistent.causes code known with rfl | rfl
      · simp only [infrastructureError, consistent.lost known]
        generalize c.childReaped = reaped
        generalize c.machine.started.isSome = started
        revert reaped started
        decide
      · have eof : c.eof = true := by
          rcases done.2 with eof | lost
          · exact eof
          · rw [known] at lost
            cases lost
        simp only [infrastructureError, (consistent.ambiguous known).2, eof]
        generalize c.machine.started.isSome = started
        revert started
        decide
    | none =>
      rw [known] at finished
      have reaped : c.childReaped = true := by
        by_contra unreaped
        exact consistent.explained done.1 (Bool.eq_false_iff.mpr unreaped) known
      simp only [reaped, true_or, iff_true]
      simp only [finishMachine] at finished
      split at finished
      · cases finished
      · split at finished
        · rename_i frame ended
          have member := consistent.machine.terminal frame ended
          have ends : frame.terminal = some terminal := by
            split at finished
            · cases finished
            · split at finished
              · rename_i body isResult
                have attested := consistent.machine.attested frame body ended isResult
                rw [attested] at finished
                cases finished
                rw [Frame.terminal, isResult]
              · rename_i body isError
                cases finished
                rw [Frame.terminal, isError]
              · cases finished
          exact written_accepted parsed (written frame member).1 (written frame member).2 ends
        · cases started : c.machine.started with
          | none =>
            rw [started] at finished
            split at finished
            · cases finished
              exact (derived_accepted_iff parsed _).mpr (by decide)
            · cases finished
              exact (derived_accepted_iff parsed _).mpr (by decide)
          | some stage =>
            rw [started] at finished
            split at finished
            · cases finished
              exact (derived_accepted_iff parsed _).mpr rfl
            · cases finished
              exact (derived_accepted_iff parsed _).mpr rfl

/-! ## What the rounds say -/

/-- The first conclusive `waitpid` reaped the supervisor. -/
def reaps : List Round → Bool
  | [] => false
  | .ready _ _ (some (.reaped _)) :: _ => true
  | .ready _ _ (some .failed) :: _ => false
  | _ :: rest => reaps rest

/-- A `read` of the pipe failed before its end was seen, and not after the first conclusive
`waitpid`. -/
def losesPipe : List Round → Bool
  | [] => false
  | .ready _ (some ⟨_, .failed⟩) _ :: _ => true
  | .ready _ (some ⟨_, .endOfFile⟩) _ :: _ => false
  | .ready _ _ (some (.reaped _)) :: _ => false
  | .ready _ _ (some .failed) :: _ => false
  | _ :: rest => losesPipe rest

def Attempt.count : Attempt → Nat
  | .bytes count => count
  | .interrupted => 0

def Reading.count (reading : Reading) : Nat := (reading.attempts.map Attempt.count).sum

def delivered : List Round → Nat
  | [] => 0
  | .ready _ (some reading) _ :: rest =>
    reading.count + if reading.ending = .endOfFile then 0 else delivered rest
  | _ :: rest => delivered rest

def attestsStart (frames : List Frame) (rounds : List Round) : Bool :=
  frames.head?.any fun frame => frame.isStarted && frame.bytes ≤ delivered rounds

/-- The supervisor was reaped; or `waitpid` failed on it with the pipe intact and the start
attested. -/
def Reportable (frames : List Frame) (rounds : List Round) : Prop :=
  reaps rounds = true ∨ losesPipe rounds = false ∧ attestsStart frames rounds = true

instance (frames : List Frame) (rounds : List Round) : Decidable (Reportable frames rounds) :=
  inferInstanceAs (Decidable (_ ∨ _))

theorem Collector.readReady_kept (c : Collector) (reading : Option Reading) :
    (c.readReady expectation reading).waitComplete = c.waitComplete
      ∧ (c.readReady expectation reading).childReaped = c.childReaped := by
  refine readReady_rule expectation (motive := fun d =>
    d.waitComplete = c.waitComplete ∧ d.childReaped = c.childReaped) reading ⟨rfl, rfl⟩
    fun reading _ => ?_
  obtain ⟨machine, failed, equation⟩ := c.attempts_kept expectation reading.attempts
  rw [equation]
  cases reading.ending with
  | _ => exact ⟨rfl, rfl⟩

theorem Settles.childReaped (settles : Settles expectation c rounds last) :
    last.childReaped = (c.childReaped || (!c.waitComplete && reaps rounds)) := by
  induction settles with
  | @done c rounds done =>
    simp only [Collector.isDone, Bool.and_eq_true] at done
    simp [done.1]
  | @turn c next last round rest taken _ ih =>
    rw [ih]
    rcases c.turn_cases expectation taken with ⟨rfl, rfl⟩ | ⟨timer, reading, outcome, fired, rfl, rfl⟩
    · rfl
    · obtain ⟨complete, reaped⟩ :=
        readReady_kept expectation { c with watchdog := fired } reading
      rw [Collector.observe]
      generalize Collector.readReady expectation { c with watchdog := fired } reading = d
        at complete reaped
      simp only at complete reaped
      rw [← complete, ← reaped]
      cases outcome with
      | none => cases reading <;> rfl
      | some outcome =>
        rw [Collector.waitReady]
        cases waited : d.waitComplete with
        | true => simp [waited]
        | false =>
          cases outcome with
          | reaped | failed => simp [Collector.wait, reaps]
          | running | interrupted => simp [Collector.wait, waited, reaps]

theorem Settles.infrastructure_kept (settles : Settles expectation c rounds last) {code : ErrorCode}
    (known : c.infrastructure = some code) : last.infrastructure = some code := by
  apply Settles.invariant expectation (P := fun d => d.infrastructure = some code) _ _ _ settles known
  · intro c fired known
    exact known
  · intro c reading known
    refine readReady_rule expectation (motive := fun d => d.infrastructure = some code)
      reading known fun reading _ => ?_
    obtain ⟨machine, failed, equation⟩ := c.attempts_kept expectation reading.attempts
    rw [equation]
    cases reading.ending with
    | endOfFile => exact known
    | wouldBlock => exact known
    | failed => simp [Collector.endReading, known]
  · intro c outcome known
    refine waitReady_rule (motive := fun d => d.infrastructure = some code) outcome known
      fun outcome _ => ?_
    cases outcome with
    | reaped | running | interrupted => exact known
    | failed => simp [Collector.wait, known]

theorem Collector.read_ending (opened : c.pipeClosed = false) (reading : Reading) :
    ∃ machine failed, c.readReady expectation (some reading)
      = ({ c with machine := machine, invariantFailed := failed } : Collector).endReading
        reading.ending := by
  obtain ⟨machine, failed, equation⟩ := c.attempts_kept expectation reading.attempts
  refine ⟨machine, failed, ?_⟩
  rw [Collector.readReady, if_neg (by simp [opened]), Collector.read, equation]

def WaitOutcome.hasFailed : WaitOutcome → Bool
  | .failed => true
  | _ => false

theorem losesPipe_wait (blocked : reading.all fun reading => reading.ending = .wouldBlock)
    (unreaped : reaps (.ready timer reading outcome :: rest) = false) :
    outcome.any WaitOutcome.hasFailed = false ∧ losesPipe rest = true
      ↔ losesPipe (.ready timer reading outcome :: rest) = true := by
  rcases reading with _ | ⟨attempts, _ | _ | _⟩ <;>
    rcases outcome with _ | _ | _ | _ | _ <;>
    simp_all [losesPipe, reaps, WaitOutcome.hasFailed]

section LostPipe

def LosesFrom (rest : List Round) (last c : Collector) : Prop :=
  c.waitComplete = false → c.infrastructure = none → reaps rest = false →
    (last.infrastructure = some .resultPipeLost ↔ c.eof = false ∧ losesPipe rest = true)

theorem lost_iff_wait (later : Settles expectation (c.waitReady outcome) rest last)
    (ih : LosesFrom rest last (c.waitReady outcome)) (waiting : c.waitComplete = false)
    (clear : c.infrastructure = none)
    (unreaped : reaps (.ready timer reading outcome :: rest) = false) :
    last.infrastructure = some .resultPipeLost
      ↔ outcome.any WaitOutcome.hasFailed = false ∧ c.eof = false ∧ losesPipe rest = true := by
  have stays : c.waitReady outcome = c → reaps rest = false →
      (last.infrastructure = some .resultPipeLost ↔ c.eof = false ∧ losesPipe rest = true) := by
    intro unchanged none
    rw [unchanged] at ih
    exact ih waiting clear none
  cases outcome with
  | none => simpa [Option.any] using stays rfl (by simpa [reaps] using unreaped)
  | some outcome =>
    cases outcome with
    | reaped clean => simp [reaps] at unreaped
    | running =>
      have idle : c.waitReady (some .running) = c := by
        simp [Collector.waitReady, Collector.wait]
      simpa [WaitOutcome.hasFailed] using stays idle (by simpa [reaps] using unreaped)
    | interrupted =>
      have idle : c.waitReady (some .interrupted) = c := by
        simp [Collector.waitReady, Collector.wait]
      simpa [WaitOutcome.hasFailed] using stays idle (by simpa [reaps] using unreaped)
    | failed =>
      have doubted : (c.waitReady (some .failed)).infrastructure = some .reapAmbiguous := by
        simp [Collector.waitReady, waiting, Collector.wait, clear]
      rw [later.infrastructure_kept expectation doubted]
      simp [WaitOutcome.hasFailed]

theorem lost_iff_turn
    (later : Settles expectation (c.observe expectation reading outcome) rest last)
    (ih : LosesFrom rest last (c.observe expectation reading outcome))
    (waiting : c.waitComplete = false) (clear : c.infrastructure = none)
    (unreaped : reaps (.ready timer reading outcome :: rest) = false) :
    last.infrastructure = some .resultPipeLost
      ↔ c.eof = false ∧ losesPipe (.ready timer reading outcome :: rest) = true := by
  rw [Collector.observe] at later ih
  cases ended : c.eof with
  | true =>
    have closed : c.readReady expectation reading = c := by
      cases reading with
      | none => rfl
      | some reading => rw [Collector.readReady, if_pos (by simp [Collector.pipeClosed, ended])]
    rw [closed] at later ih
    rw [lost_iff_wait expectation later ih waiting clear unreaped]
    simp [ended]
  | false =>
    have opened : c.pipeClosed = false := by
      simp [Collector.pipeClosed, ended, clear]
    cases reading with
    | none =>
      rw [lost_iff_wait expectation later ih waiting clear unreaped]
      simp only [Collector.readReady, ended, true_and]
      exact losesPipe_wait rfl unreaped
    | some reading =>
      obtain ⟨machine, failed, equation⟩ := c.read_ending expectation opened reading
      obtain ⟨attempts, ending⟩ := reading
      rw [equation] at later ih
      cases ending with
      | endOfFile =>
        rw [lost_iff_wait expectation later ih waiting clear unreaped]
        simp [Collector.endReading, losesPipe]
      | wouldBlock =>
        rw [lost_iff_wait expectation later ih waiting clear unreaped]
        simp only [Collector.endReading, ended, true_and]
        exact losesPipe_wait rfl unreaped
      | failed =>
        have lost : (Collector.waitReady (Collector.endReading
            { c with machine := machine, invariantFailed := failed } .failed)
            outcome).infrastructure = some .resultPipeLost := by
          cases outcome with
          | none => simp [Collector.waitReady, Collector.endReading, clear]
          | some outcome =>
            cases outcome <;>
              simp [Collector.waitReady, Collector.endReading, Collector.wait, clear, waiting]
        rw [later.infrastructure_kept expectation lost]
        simp [losesPipe]

theorem Settles.lost_iff (settles : Settles expectation c rounds last) :
    LosesFrom rounds last c := by
  induction settles with
  | @done c rounds done =>
    intro waiting
    simp only [Collector.isDone, Bool.and_eq_true] at done
    rw [waiting] at done
    cases done.1
  | @turn c next last round rest taken later ih =>
    intro waiting clear unreaped
    rcases c.turn_cases expectation taken with
      ⟨rfl, rfl⟩ | ⟨timer, reading, outcome, fired, rfl, rfl⟩
    · exact ih waiting clear unreaped
    · have step := lost_iff_turn expectation later ih waiting clear unreaped
      exact step

end LostPipe

section Delivery

theorem Collector.attempts_failed (failed : c.invariantFailed = true) :
    attempts.foldl (Collector.attempt expectation) c = c := by
  refine List.foldlRecOn (motive := fun d => d = c) attempts _ rfl ?_
  rintro _ rfl attempt -
  refine attempt_rule expectation (motive := fun d => d = _) attempt rfl
    fun _ running => ?_
  rw [failed] at running
  cases running

theorem Collector.attempts_machine : ∀ {c : Collector},
    c.invariantFailed = c.machine.failed →
      (attempts.foldl (Collector.attempt expectation) c).invariantFailed = false →
        (attempts.foldl (Collector.attempt expectation) c).machine
          = c.machine.feed expectation (attempts.map Attempt.count).sum := by
  induction attempts with
  | nil => intro c _ _; rfl
  | cons attempt rest ih =>
    intro c agrees running
    cases attempt with
    | interrupted =>
      rw [map_cons, sum_cons, Attempt.count, Nat.zero_add]
      exact ih agrees running
    | bytes count =>
      by_cases failed : c.invariantFailed = true
      · rw [attempts_failed expectation _ failed, failed] at running
        cases running
      · have step : c.attempt expectation (.bytes count)
            = { c with
                machine := c.machine.feed expectation count
                invariantFailed := (c.machine.feed expectation count).failed } := by
          rw [Collector.attempt, if_neg failed]
        rw [foldl_cons, step] at running ⊢
        rw [ih rfl running, map_cons, sum_cons, Attempt.count, feed_add]

theorem Collector.waitReady_kept (c : Collector) (outcome : Option WaitOutcome) :
    (c.waitReady outcome).machine = c.machine ∧ (c.waitReady outcome).eof = c.eof
      ∧ (c.waitReady outcome).invariantFailed = c.invariantFailed := by
  refine waitReady_rule (motive := fun d => d.machine = c.machine ∧ d.eof = c.eof
    ∧ d.invariantFailed = c.invariantFailed) outcome ⟨rfl, rfl, rfl⟩ fun outcome _ => ?_
  cases outcome with
  | _ => exact ⟨rfl, rfl, rfl⟩

theorem Settles.failed_kept (settles : Settles expectation c rounds last)
    (failed : c.invariantFailed = true) :
    last.invariantFailed = true := by
  apply Settles.invariant expectation (P := fun d => d.invariantFailed = true) _ _ _ settles failed
  · intro c fired failed
    exact failed
  · intro c reading failed
    refine readReady_rule expectation (motive := fun d => d.invariantFailed = true)
      reading failed fun reading _ => ?_
    rw [attempts_failed expectation _ failed]
    cases reading.ending with
    | _ => exact failed
  · intro c outcome failed
    exact (c.waitReady_kept outcome).2.2.trans failed

theorem Settles.machine_ended (settles : Settles expectation c rounds last) (ended : c.eof = true) :
    last.machine = c.machine := by
  have kept : last.eof = true ∧ last.machine = c.machine := by
    apply Settles.invariant expectation (P := fun d => d.eof = true ∧ d.machine = c.machine) _ _ _
      settles ⟨ended, rfl⟩
    · intro d fired kept
      exact kept
    · intro d reading kept
      cases reading with
      | none => exact kept
      | some reading =>
        rw [Collector.readReady, if_pos (by simp [Collector.pipeClosed, kept.1])]
        exact kept
    · intro d outcome kept
      obtain ⟨machine, eof, _⟩ := d.waitReady_kept outcome
      rw [machine, eof]
      exact kept
  exact kept.2

theorem Collector.attempts_agree (agrees : c.invariantFailed = c.machine.failed) :
    (attempts.foldl (Collector.attempt expectation) c).invariantFailed
      = (attempts.foldl (Collector.attempt expectation) c).machine.failed := by
  refine List.foldlRecOn (motive := fun d : Collector => d.invariantFailed = d.machine.failed)
    attempts _ agrees fun d kept attempt _ => ?_
  exact attempt_rule expectation
    (motive := fun d => d.invariantFailed = d.machine.failed) attempt kept fun _ _ => rfl

def FedFrom (rest : List Round) (last c : Collector) : Prop :=
  c.eof = false → c.invariantFailed = c.machine.failed →
    last.infrastructure ≠ some .resultPipeLost → last.invariantFailed = false →
      last.machine = c.machine.feed expectation (delivered rest)

theorem machine_fed_turn (timer : Option Bool)
    (later : Settles expectation (c.observe expectation reading outcome) rest last)
    (opened : c.eof = false) (agrees : c.invariantFailed = c.machine.failed)
    (intact : last.infrastructure ≠ some .resultPipeLost) (running : last.invariantFailed = false)
    (ih : FedFrom expectation rest last (c.observe expectation reading outcome)) :
    last.machine
      = c.machine.feed expectation (delivered (.ready timer reading outcome :: rest)) := by
  have whole : Settles expectation c (.ready none reading outcome :: rest) last := .turn rfl later
  rw [Collector.observe] at later ih
  obtain ⟨machine, eof, failed⟩ := waitReady_kept (c.readReady expectation reading) outcome
  rw [FedFrom, machine, eof, failed] at ih
  cases reading with
  | none => exact ih opened agrees intact running
  | some reading =>
    have unlost : c.infrastructure ≠ some .resultPipeLost := by
      intro lost
      exact intact (whole.infrastructure_kept expectation lost)
    have read : c.readReady expectation (some reading)
        = (reading.attempts.foldl (Collector.attempt expectation) c).endReading
          reading.ending := by
      rw [Collector.readReady, if_neg (by simp [Collector.pipeClosed, opened, unlost]),
        Collector.read]
    have readRunning : (c.readReady expectation (some reading)).invariantFailed = false := by
      rw [← failed, Bool.eq_false_iff]
      intro stopped
      rw [later.failed_kept expectation stopped] at running
      cases running
    have fed := attempts_machine expectation reading.attempts agrees
    have agreed := attempts_agree expectation reading.attempts agrees
    obtain ⟨_, _, kept⟩ := c.attempts_kept expectation reading.attempts
    have stillOpen : (reading.attempts.foldl (Collector.attempt expectation) c).eof = false := by
      rw [kept]
      exact opened
    rw [read] at ih later machine eof readRunning
    generalize reading.attempts.foldl (Collector.attempt expectation) c = d
      at fed agreed stillOpen ih later machine eof readRunning
    have count : c.machine.feed expectation reading.count
        = (d.endReading reading.ending).machine := by
      cases ending : reading.ending with
      | _ =>
        rw [ending] at readRunning
        exact (fed readRunning).symm
    have total : ∀ more, c.machine.feed expectation (reading.count + more)
        = (d.endReading reading.ending).machine.feed expectation more := by
      intro more
      rw [feed_add, count]
    show last.machine = c.machine.feed expectation
      (reading.count + if reading.ending = .endOfFile then 0 else delivered rest)
    rw [total]
    cases ending : reading.ending with
    | endOfFile =>
      rw [ending] at later machine eof
      rw [later.machine_ended expectation eof, machine]
      rfl
    | wouldBlock | failed =>
      rw [ending] at ih
      exact ih stillOpen agreed intact running

theorem Settles.machine_fed (settles : Settles expectation c rounds last) (opened : c.eof = false)
    (agrees : c.invariantFailed = c.machine.failed)
    (intact : last.infrastructure ≠ some .resultPipeLost) (running : last.invariantFailed = false) :
    last.machine = c.machine.feed expectation (delivered rounds) := by
  induction settles with
  | @done c rounds done =>
    simp only [Collector.isDone, Collector.pipeClosed, Bool.and_eq_true, Bool.or_eq_true,
      decide_eq_true_eq] at done
    rcases done.2 with ended | lost
    · rw [opened] at ended
      cases ended
    · exact absurd lost intact
  | @turn c next last round rest taken later ih =>
    rcases c.turn_cases expectation taken with
      ⟨rfl, rfl⟩ | ⟨timer, reading, outcome, fired, rfl, rfl⟩
    · exact ih opened agrees intact running
    · have step := machine_fed_turn expectation timer later opened agrees intact running ih
      exact step

end Delivery

theorem attestsStart_iff (frames : List Frame) (rounds : List Round) :
    attestsStart frames rounds = true ↔
      ∃ frame, frames.head? = some frame ∧ frame.isStarted = true
        ∧ frame.bytes ≤ delivered rounds := by
  unfold attestsStart
  cases frames.head? with
  | none => simp
  | some frame => simp

/-- Where the loop ends: the supervisor was reaped as the rounds say, and without a reap the
pipe and the start are as the rounds say. -/
theorem settled_iff (settles : Settles expectation (Collector.init frames) rounds last)
    (running : last.invariantFailed = false) :
    (last.childReaped = true ∨ last.infrastructure = some .reapAmbiguous
        ∧ last.machine.started.isSome = true) ↔ Reportable frames rounds := by
  have consistent := settles.consistent expectation (init_consistent frames)
  have reaped : last.childReaped = reaps rounds := by
    simpa [Collector.init] using settles.childReaped expectation
  unfold Reportable
  rw [reaped]
  cases verdict : reaps rounds with
  | true => simp
  | false =>
    have lost : last.infrastructure = some .resultPipeLost ↔ losesPipe rounds = true := by
      simpa [Collector.init] using settles.lost_iff expectation rfl rfl verdict
    have complete : last.waitComplete = true := by
      have done := settles.isDone expectation
      simp only [Collector.isDone, Bool.and_eq_true] at done
      exact done.1
    have ambiguous : last.infrastructure = some .reapAmbiguous ↔ losesPipe rounds = false := by
      rw [← Bool.not_eq_true, ← lost]
      cases known : last.infrastructure with
      | none => exact absurd known (consistent.explained complete (reaped.trans verdict))
      | some code =>
        rcases consistent.causes code known with rfl | rfl
        · simp
        · simp
    simp only [Bool.false_eq_true, false_or, ambiguous]
    refine and_congr_right fun intact => ?_
    have unlost : last.infrastructure ≠ some .resultPipeLost := by
      rw [Ne, lost, intact]
      exact Bool.false_ne_true
    have fed : last.machine = (Machine.init frames).feed expectation (delivered rounds) :=
      settles.machine_fed expectation rfl rfl unlost running
    have whole : ((Machine.init frames).feed expectation (delivered rounds)).failed = false := by
      rw [← fed, ← consistent.failed]
      exact running
    rw [fed, attestsStart_iff]
    exact feed_started_iff expectation frames (delivered rounds) whole

theorem finish_running (finished : c.finish = .ok terminal) :
    c.invariantFailed = false := by
  unfold Collector.finish at finished
  split at finished
  · cases finished
  · rename_i running
    exact Bool.eq_false_iff.mpr running

/-- The launcher's own errors are always accepted; a terminal of the collection is accepted
exactly when the supervisor was reaped, or its `waitpid` failed with the pipe intact and the
start attested. -/
theorem launcher_terminals_accepted_iff {request : Value} {run : Run}
    (parsed : Run.parse request = some run) :
    (∀ failure : LaunchFailure, failure.terminal.Accepted run request)
      ∧ ∀ (expectation : Expectation) (prepared : Bool) (frames : List Frame)
          (rounds : List Round) (terminal : Terminal),
        (∀ frame ∈ frames, Writes frame ∧ frame.CountersFit) →
          collectV1 expectation prepared frames rounds = some (.ok terminal) →
            (terminal.Accepted run request ↔ Reportable frames rounds) := by
  constructor
  · intro failure
    cases failure with
    | mountIdentity | source | launch => exact (derived_accepted_iff parsed _).mpr rfl
  · intro expectation prepared frames rounds terminal written collected
    have ended : (Collector.init frames).loop expectation rounds = some (.ok terminal) := by
      unfold collectV1 at collected
      split at collected
      · cases collected
      · split at collected
        · cases collected
        · exact collected
    obtain ⟨last, settles, finished⟩ := loop_settles expectation rounds ended
    have consistent := settles.consistent expectation (init_consistent frames)
    rw [finish_accepted_iff parsed written consistent (settles.isDone expectation) finished]
    exact settled_iff expectation settles (finish_running finished)

/-! ## Samples -/

def sampleDigest (b : UInt8) : Bytes := List.replicate 64 b

def sampleRequest : Value := .record [
  ("protocol_version", .text "qa.native_run_request.v1"),
  ("operation", .text "run_lua54_test_suite"),
  ("transaction_id", taggedText "qa-provider-transaction:" (sampleDigest 97)),
  ("witness_id", taggedText "qa-provider-witness:" (sampleDigest 98)),
  ("profile_id", .text "qa.profile.lua54_test_suite.v0"),
  ("environment_id", taggedText "qa-environment:" (sampleDigest 99)),
  ("entrypoint_relative_path", .text "tests/run.lua"),
  ("expected_exit_code", .num (.int 0)),
  ("resource_limits", Qa.hardLimits)]

def sampleRun : Run :=
  ⟨sampleDigest 97, sampleDigest 98, Digest.sha256 (utf8 "qa.profile.lua54_test_suite.v0"),
    sampleDigest 99⟩

def sampleMount : MountIdentity := ⟨1, 2, 3⟩

def sampleStage : SourceStage := ⟨1, 15, sampleMount, sampleMount, sampleMount, true, true⟩

def sampleExpectation : Expectation := ⟨sampleRun.identity, sampleMount, 15⟩

def sampleStarted : Frame := ⟨sampleRun.identity, .started (sampleDigest 100) sampleStage⟩

/-- The pipe ends after the given bytes, and `waitpid` fails. -/
def unreapedAfter (count : Nat) : List Round :=
  [.ready none (some ⟨[.bytes count], .endOfFile⟩) (some .failed)]

def doubtedReap (phase : Phase) (start : TriState) : TerminalError :=
  ⟨phase, .ambiguous, .reapAmbiguous, .cleanup, start, .unknown, .unknown, .yes⟩

theorem sampleRequest_parsed : Run.parse sampleRequest = some sampleRun := rfl

theorem sampleStarted_written : Writes sampleStarted ∧ sampleStarted.CountersFit := by
  have valid : sampleStarted.isValid = true := by decide +kernel
  have encoded : Frame.encode sampleStarted = some sampleStarted := if_pos valid
  exact ⟨.started encoded, trivial⟩

def isDerived (answer : Option Collected) (e : TerminalError) : Bool :=
  match answer with
  | some (.ok (.derived other)) => other = e
  | _ => false

theorem eq_of_isDerived {answer : Option Collected} {e : TerminalError}
    (derived : isDerived answer e = true) : answer = some (.ok (.derived e)) := by
  unfold isDerived at derived
  split at derived
  · rw [of_decide_eq_true derived]
  · cases derived

theorem attested_collected : collectV1 sampleExpectation true [sampleStarted] (unreapedAfter 332)
    = some (.ok (.derived (doubtedReap .terminal .yes))) :=
  eq_of_isDerived (by decide +kernel)

theorem unattested_collected : collectV1 sampleExpectation true [] (unreapedAfter 0)
    = some (.ok (.derived (doubtedReap .started .no))) :=
  eq_of_isDerived (by decide +kernel)

/-- A supervisor that attested its start before `waitpid` failed. -/
theorem launcher_terminals_attested :
    (Terminal.derived (doubtedReap .terminal .yes)).Accepted sampleRun sampleRequest := by
  have written : ∀ frame ∈ [sampleStarted], Writes frame ∧ frame.CountersFit := by
    intro frame member
    cases mem_singleton.mp member
    exact sampleStarted_written
  apply ((launcher_terminals_accepted_iff sampleRequest_parsed).2 sampleExpectation true
    [sampleStarted] (unreapedAfter 332) _ written attested_collected).mpr
  decide

/-- A supervisor that never attested its start: `waitpid` fails on it, and what the launcher
pushes is outside the list. -/
theorem unattested_reap_refused :
    Run.parse sampleRequest = some sampleRun
      ∧ collectV1 sampleExpectation true [] (unreapedAfter 0)
        = some (.ok (.derived (doubtedReap .started .no)))
      ∧ ¬ (Terminal.derived (doubtedReap .started .no)).Accepted sampleRun sampleRequest := by
  refine ⟨sampleRequest_parsed, unattested_collected, ?_⟩
  rw [derived_accepted_iff sampleRequest_parsed]
  decide

end Proc17.Native
