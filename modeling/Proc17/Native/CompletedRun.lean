import Proc17.Native.Controller

/-!
# Completed runs and their report

A run that ends with the candidate reaped and every channel at its end is reported under its
first cause exactly when nothing observed after that cause speaks against it.
-/

namespace Proc17.Native.Wire

open Lua Layout List Option Nat UInt64 Native.Wire.StreamMeasurement Native.Wire.StreamObserver

/-! ## Streams -/

namespace StreamObserver

structure Counted (o : StreamObserver) (limit : Nat) : Prop where
  bound : o.limitBytes = limit
  hashed : o.hashedBytes = min o.observedBytes limit
  crossed : o.limitCrossed = decide (limit < o.observedBytes)
  small : o.observedBytes < 2 ^ 64

structure Drained (o next : StreamObserver) (crossed : Bool) : Prop where
  grows : o.observedBytes ≤ next.observedBytes
  crossed : next.limitCrossed = (o.limitCrossed || crossed)

variable {o next : StreamObserver} {limit : Nat} {crossed : Bool}

theorem Drained.refl (o : StreamObserver) : Drained o o false := ⟨le_refl _, by simp⟩

theorem Drained.trans {middle : StreamObserver} (first : Drained o middle false)
    (second : Drained middle next crossed) : Drained o next crossed := by
  refine ⟨le_trans first.grows second.grows, ?_⟩
  rw [second.crossed, first.crossed, Bool.or_false]

theorem consume_facts {bytes : Bytes} (counted : o.Counted limit)
    (consumed : o.consume bytes = some (next, crossed)) :
    next.Counted limit ∧ Drained o next crossed := by
  obtain ⟨same, hashed, flag, small⟩ := counted
  unfold consume at consumed
  split at consumed
  · cases consumed
  · rename_i room
    have fits : ¬ (2 ^ 64 - 1 - o.observedBytes < bytes.length) := fun h => room (.inr (.inl h))
    cases consumed
    refine ⟨⟨same, ?_, ?_, ?_⟩, ⟨le_add_right _ _, rfl⟩⟩
    · show o.hashedBytes + min bytes.length (o.limitBytes - o.hashedBytes)
        = min (o.observedBytes + bytes.length) limit
      omega
    · show (o.limitCrossed || (!o.limitCrossed
        && decide (o.limitBytes < o.observedBytes + bytes.length)))
        = decide (limit < o.observedBytes + bytes.length)
      rw [flag, same]
      by_cases before : limit < o.observedBytes
      · have after : limit < o.observedBytes + bytes.length := by omega
        simp [before, after]
      · simp [before]
    · show o.observedBytes + bytes.length < 2 ^ 64
      omega

theorem drainFrom_facts (ending : ReadEnding) : ∀ (chunks : List Bytes) {o : StreamObserver}
    (drained : Nat), o.Counted limit → o.drainFrom ending drained chunks = some (next, crossed) →
    next.Counted limit ∧ Drained o next crossed := by
  intro chunks
  induction chunks with
  | nil =>
    intro o drained counted answer
    cases ending with
    | eof =>
      cases answer
      exact ⟨⟨counted.bound, counted.hashed, counted.crossed, counted.small⟩,
        ⟨le_refl _, (Bool.or_false _).symm⟩⟩
    | again =>
      cases answer
      exact ⟨counted, Drained.refl _⟩
    | failed => cases answer
  | cons chunk rest ih =>
    intro o drained counted answer
    unfold drainFrom at answer
    split at answer
    · cases answer
    · rename_i middle consumed
      cases answer
      exact consume_facts counted consumed
    · rename_i middle consumed
      obtain ⟨counted', first⟩ := consume_facts counted consumed
      split at answer
      · cases answer
        exact ⟨counted', first⟩
      · obtain ⟨counted'', second⟩ := ih (drained + chunk.length) counted' answer
        exact ⟨counted'', first.trans second⟩

theorem drain_facts {reading : Reading} (counted : o.Counted limit)
    (answer : o.drain reading = some (next, crossed)) :
    next.Counted limit ∧ Drained o next crossed := by
  unfold drain at answer
  split at answer
  · cases answer
    exact ⟨counted, Drained.refl _⟩
  · exact drainFrom_facts reading.ending reading.chunks 0 counted answer

def crossedBytes (o : StreamObserver) : Nat := if o.limitCrossed then o.observedBytes else 0

theorem Drained.crossedBytes_le (drained : Drained o next crossed) :
    o.crossedBytes ≤ next.crossedBytes := by
  unfold crossedBytes
  rw [drained.crossed]
  cases o.limitCrossed with
  | false => simp
  | true => simpa using drained.grows

end StreamObserver

variable {p : Poll} {value : UInt64} {status : UInt32} {metrics : CandidateMetrics} {a : Aftermath}

variable {s : Controller} {e : ObservationEpoch} {next : Controller} {o : StreamObserver}

namespace Controller

/-! ## One round of observations -/

/-- What the sources really give: the heap's peak only grows, the timer is ready from its
deadline on, and signals have the numbers of signals. -/
structure Honest (a : Aftermath) (p : Poll) : Prop where
  peaks : ∀ reading, p.status = some reading → ∀ snapshot,
    StatusAnswer.heapDenied (some snapshot) ∈ reading.answers →
      snapshot.peakBytes ≤ a.allocator.peakBytes
  timed : p.timer = true → a.startedNs.toNat + wallTimeMs.toNat * 1000000 ≤ a.finishedNs.toNat
  signals : ∀ status, p.waited = some status → wtermsig status < nsig

/-- What a round's observations do to the controller, against the epoch they make. -/
structure Observed (a : Aftermath) (s next : Controller) (e : ObservationEpoch) : Prop where
  phase : next.phase = s.phase
  stdout : next.stdout.Counted stdoutBytes.toNat
  stderr : next.stderr.Counted stderrBytes.toNat
  stdoutDrained : StreamObserver.Drained s.stdout next.stdout (decide (e.stdoutLimitCrossed ≠ 0))
  stderrDrained : StreamObserver.Drained s.stderr next.stderr (decide (e.stderrLimitCrossed ≠ 0))
  stdoutCount : e.stdoutObservedBytes.toNat = next.stdout.observedBytes
  stderrCount : e.stderrObservedBytes.toNat = next.stderr.observedBytes
  quietHeap : e.heapDenied = 0 → next.heapNotifications = s.heapNotifications
  deniedHeap : e.heapDenied ≠ 0 → s.heapNotifications = 0 ∧ next.heapNotifications = 1
    ∧ e.heapPeakBytes ≤ a.allocator.peakBytes
  timer : e.wallTimerExpired ≠ 0 → e.wallLimitMs = wallTimeMs
    ∧ a.startedNs.toNat + wallTimeMs.toNat * 1000000 ≤ a.finishedNs.toNat
  unreaped : e.candidateTerminal = 0 → next.waited = s.waited
  reaped : e.candidateTerminal ≠ 0 → s.waited = none ∧ next.waited = some e.waitStatus
    ∧ wtermsig e.waitStatus < nsig

theorem drainEpochStream_facts {o next : StreamObserver} {limit : Nat} {reading : Option Reading}
    {crossed : UInt8} (counted : o.Counted limit)
    (drained : drainEpochStream o reading = .ok (next, crossed)) :
    next.Counted limit ∧ StreamObserver.Drained o next (decide (crossed ≠ 0)) := by
  unfold drainEpochStream at drained
  split at drained
  · cases drained
    exact ⟨counted, StreamObserver.Drained.refl _⟩
  · split at drained
    · cases drained
    · rename_i middle flag answer
      cases drained
      obtain ⟨counted', step⟩ := drain_facts counted answer
      refine ⟨counted', ?_⟩
      cases flag with
      | false => exact step
      | true => exact step

theorem receiveStatus_facts {bound : UInt64} : ∀ (answers : List StatusAnswer)
    {notifications result : UInt8} {peak found : Option UInt64},
    (∀ snapshot, StatusAnswer.heapDenied (some snapshot) ∈ answers →
      snapshot.peakBytes ≤ bound) →
    receiveStatus notifications peak answers = .ok (result, found) →
    (found = peak ∧ result = notifications)
      ∨ (notifications = 0 ∧ result = 1 ∧ ∃ value, found = some value ∧ value ≤ bound) := by
  intro answers
  induction answers with
  | nil =>
    intro notifications result peak found _ read
    cases read
    exact .inl ⟨rfl, rfl⟩
  | cons answer rest ih =>
    intro notifications result peak found peaks read
    cases answer with
    | other => cases read
    | heapDenied snapshot =>
      cases snapshot with
      | none => cases read
      | some snapshot =>
        simp only [receiveStatus] at read
        split at read
        · cases read
        · rename_i proper
          have fresh : notifications = 0 := by
            by_contra twice
            exact proper (.inl twice)
          have first := peaks snapshot mem_cons_self
          rcases ih (fun other member => peaks other (mem_cons_of_mem _ member)) read with
            ⟨rfl, rfl⟩ | ⟨impossible, -⟩
          · exact .inr ⟨fresh, rfl, _, rfl, first⟩
          · cases impossible

theorem readStatus_facts (honest : Honest a p)
    {notifications : UInt8} {peak : Option UInt64} {eof : Bool}
    (read : s.readStatus p.status = .ok (notifications, peak, eof)) :
    (peak = none ∧ notifications = s.heapNotifications)
      ∨ (s.heapNotifications = 0 ∧ notifications = 1
        ∧ ∃ value, peak = some value ∧ value ≤ a.allocator.peakBytes) := by
  unfold readStatus at read
  split at read
  · cases read
    exact .inl ⟨rfl, rfl⟩
  · rename_i reading ready
    simp only [bind_eq_ok, pure_eq_ok, Prod.exists, Prod.mk.injEq] at read
    obtain ⟨result, found, received, rfl, rfl, -⟩ := read
    exact receiveStatus_facts reading.answers (honest.peaks reading ready) received

theorem waitCandidate_facts {ready waited : Option UInt32}
    (told : s.waitCandidate ready = .ok waited) :
    waited = none ∨ (s.waited = none ∧ waited = ready) := by
  unfold waitCandidate at told
  split at told
  · rename_i status unreaped
    split at told
    · cases told
      exact .inr ⟨unreaped, rfl⟩
    · cases told
  · cases told
    exact .inl rfl

theorem consumeTimer_facts {ready expired : Bool}
    (told : s.consumeTimer ready = .ok expired) : expired = true → ready = true := by
  intro now
  subst now
  unfold consumeTimer at told
  split at told
  · cases told
  · rename_i asked
    simp only [Bool.or_eq_true, Bool.not_eq_true', not_or, Bool.not_eq_false] at asked
    exact asked.2

theorem flag_ne {b : Bool} : (if b then 1 else 0 : UInt8) ≠ 0 ↔ b = true := by
  cases b <;> decide

theorem count_toNat {limit : Nat} (counted : o.Counted limit) :
    (UInt64.ofNat o.observedBytes).toNat = o.observedBytes :=
  toNat_ofNat_of_lt' counted.small

theorem observe_facts
    (honest : Honest a p) (stdoutCounted : s.stdout.Counted stdoutBytes.toNat)
    (stderrCounted : s.stderr.Counted stderrBytes.toNat) (observed : s.observe p = .ok (next, e)) :
    Observed a s next e := by
  unfold observe at observed
  simp only [bind_eq_ok, pure_eq_ok, Prod.exists, Prod.mk.injEq] at observed
  obtain ⟨stdout, stdoutFlag, stdoutRead, stderr, stderrFlag, stderrRead, notifications, peak, eof,
    statusRead, expired, timerRead, waited, waitRead, rfl, rfl⟩ := observed
  obtain ⟨stdoutCounted', stdoutDrained⟩ := drainEpochStream_facts stdoutCounted stdoutRead
  obtain ⟨stderrCounted', stderrDrained⟩ := drainEpochStream_facts stderrCounted stderrRead
  exact
    { phase := rfl
      stdout := stdoutCounted'
      stderr := stderrCounted'
      stdoutDrained := stdoutDrained
      stderrDrained := stderrDrained
      stdoutCount := count_toNat stdoutCounted'
      stderrCount := count_toNat stderrCounted'
      quietHeap := by
        intro quiet
        rcases readStatus_facts honest statusRead with ⟨-, same⟩ | ⟨-, -, value, rfl, -⟩
        · exact same
        · cases quiet
      deniedHeap := by
        intro denied
        rcases readStatus_facts honest statusRead with ⟨rfl, -⟩ | ⟨fresh, told, value, rfl, below⟩
        · exact absurd rfl denied
        · exact ⟨fresh, told, below⟩
      timer := by
        intro late
        have now : expired = true := flag_ne.mp late
        have ready := consumeTimer_facts timerRead now
        subst now
        exact ⟨rfl, honest.timed ready⟩
      unreaped := by
        intro still
        cases waited with
        | none => exact or_none
        | some status => cases still
      reaped := by
        intro ended
        rcases waitCandidate_facts waitRead with rfl | ⟨unreaped, rfl⟩
        · exact absurd rfl ended
        · cases ready : p.waited with
          | none =>
            rw [ready] at ended
            exact absurd rfl ended
          | some status =>
            refine ⟨unreaped, ?_, honest.signals status ready⟩
            show s.waited.or (some status) = some status
            rw [unreaped]
            rfl }

end Controller

/-! ## The cause of an epoch -/

theorem addWhen_facts {shown : UInt8} {candidate : UInt16} {found next : UInt16 × UInt64}
    (added : addWhen shown candidate value found = some next) :
    (found.1 ≠ 0 → next.1 = found.1) ∧ (shown ≠ 0 → next.1 = candidate)
      ∧ (next = found ∨ (shown ≠ 0 ∧ next = (candidate, value))) := by
  unfold addWhen addCause at added
  split at added
  · rename_i present
    split at added
    · rename_i first
      cases added
      exact ⟨fun other => absurd first other, fun _ => rfl, .inr ⟨present, rfl⟩⟩
    · split at added
      · cases added
      · rename_i same
        have kind : found.1 = candidate := by
          by_contra differ
          exact same differ
        cases added
        refine ⟨fun _ => rfl, fun _ => kind, ?_⟩
        by_cases larger : found.2 < value
        · right
          rw [if_pos larger, kind]
          exact ⟨present, rfl⟩
        · left
          rw [if_neg larger]
  · rename_i absent
    cases added
    exact ⟨fun _ => rfl, fun present => absurd present absent, .inl rfl⟩

namespace ObservationEpoch

variable {found : UInt16 × UInt64}

def Source (e : ObservationEpoch) (found : UInt16 × UInt64) : Prop :=
  found = (0, 0) ∨ (e.stdoutLimitCrossed ≠ 0 ∧ found = (outputLimit, e.stdoutObservedBytes))
    ∨ (e.stderrLimitCrossed ≠ 0 ∧ found = (outputLimit, e.stderrObservedBytes))
    ∨ (e.heapDenied ≠ 0 ∧ found = (memoryLimit, e.heapPeakBytes))
    ∨ (e.wallTimerExpired ≠ 0 ∧ found = (wallTimeout, e.wallLimitMs))
    ∨ (e.candidateTerminal ≠ 0 ∧ found = (terminalCause e.waitStatus).getD (0, 0))

/-- Every observation of an epoch has the kind of its cause. -/
structure Forced (e : ObservationEpoch) (kind : UInt16) : Prop where
  stdout : e.stdoutLimitCrossed ≠ 0 → kind = outputLimit
  stderr : e.stderrLimitCrossed ≠ 0 → kind = outputLimit
  heap : e.heapDenied ≠ 0 → kind = memoryLimit
  timer : e.wallTimerExpired ≠ 0 → kind = wallTimeout
  terminal : e.candidateTerminal ≠ 0 → kind = ((terminalCause e.waitStatus).getD (0, 0)).1

theorem cause_facts (told : e.cause = some found) : e.Source found ∧ e.Forced found.1 := by
  unfold cause at told
  simp only [bind_eq_bind, bind_eq_some_iff] at told
  obtain ⟨first, added₁, second, added₂, third, added₃, fourth, added₄, added₅⟩ := told
  obtain ⟨-, shown₁, from₁⟩ := addWhen_facts added₁
  obtain ⟨kept₂, shown₂, from₂⟩ := addWhen_facts added₂
  obtain ⟨kept₃, shown₃, from₃⟩ := addWhen_facts added₃
  obtain ⟨kept₄, shown₄, from₄⟩ := addWhen_facts added₄
  obtain ⟨kept₅, shown₅, from₅⟩ := addWhen_facts added₅
  -- a kind that was found stays to the end
  have keep {a b : UInt16} (kept : a ≠ 0 → b = a) (later : b ≠ 0 → found.1 = b) (set : a ≠ 0) :
      found.1 = a := by
    have same := kept set
    rw [← same] at set
    exact (later set).trans same
  have keep₄ : fourth.1 ≠ 0 → found.1 = fourth.1 := kept₅
  have keep₃ : third.1 ≠ 0 → found.1 = third.1 := keep kept₄ keep₄
  have keep₂ : second.1 ≠ 0 → found.1 = second.1 := keep kept₃ keep₃
  have keep₁ : first.1 ≠ 0 → found.1 = first.1 := keep kept₂ keep₂
  constructor
  · unfold Source
    rcases from₅ with rfl | ⟨present, rfl⟩
    · rcases from₄ with rfl | ⟨present, rfl⟩
      · rcases from₃ with rfl | ⟨present, rfl⟩
        · rcases from₂ with rfl | ⟨present, rfl⟩
          · rcases from₁ with rfl | ⟨present, rfl⟩
            · exact .inl rfl
            · exact .inr (.inl ⟨present, rfl⟩)
          · exact .inr (.inr (.inl ⟨present, rfl⟩))
        · exact .inr (.inr (.inr (.inl ⟨present, rfl⟩)))
      · exact .inr (.inr (.inr (.inr (.inl ⟨present, rfl⟩))))
    · exact .inr (.inr (.inr (.inr (.inr ⟨present, rfl⟩))))
  · constructor
    · intro shown
      rw [keep₁ (by rw [shown₁ shown]; decide), shown₁ shown]
    · intro shown
      rw [keep₂ (by rw [shown₂ shown]; decide), shown₂ shown]
    · intro shown
      rw [keep₃ (by rw [shown₃ shown]; decide), shown₃ shown]
    · intro shown
      rw [keep₄ (by rw [shown₄ shown]; decide), shown₄ shown]
    · exact shown₅

end ObservationEpoch

theorem terminalCause_kind {kind : UInt16} (told : terminalCause status = some (kind, value)) :
    kind = expectedExit ∨ kind = unexpectedExit ∨ kind = cpuLimit ∨ kind = sandboxPolicyViolation
      ∨ kind = signalReason := by
  unfold terminalCause at told
  split at told
  · have same := congrArg Prod.fst (Option.some.inj told)
    dsimp only at same
    rw [← same]
    split
    · exact .inl rfl
    · exact .inr (.inl rfl)
  split at told
  · have same := congrArg Prod.fst (Option.some.inj told)
    dsimp only at same
    rw [← same]
    split
    · exact .inr (.inr (.inl rfl))
    split
    · exact .inr (.inr (.inr (.inl rfl)))
    · exact .inr (.inr (.inr (.inr rfl)))
  · cases told

theorem terminalCause_apart {kind : UInt16} (told : terminalCause status = some (kind, value)) :
    kind ≠ 0 ∧ kind ≠ outputLimit ∧ kind ≠ memoryLimit ∧ kind ≠ wallTimeout := by
  rcases terminalCause_kind told with rfl | rfl | rfl | rfl | rfl <;> decide

/-- How the phase answers an epoch that is neither invalid nor ambiguous. -/
inductive Resolved (phase : PhaseState) (e : ObservationEpoch) : PhaseState → Prop where
  | already (set : phase.firstCause.kind ≠ 0) : Resolved phase e phase
  | quiet (unset : phase.firstCause.kind = 0) (value : UInt64) (empty : e.cause = some (0, value)) :
      Resolved phase e phase
  | claimed (unset : phase.firstCause.kind = 0) (kind : UInt16) (value : UInt64) (next : PhaseState)
      (shown : kind ≠ 0) (cause : e.cause = some (kind, value))
      (claim : phase.claimFirstCause kind value = some next) : Resolved phase e next

theorem resolveEpoch_facts {phase next : PhaseState} {result : EpochResult}
    (resolved : resolveEpoch phase e = (result, next)) (proper : result ≠ .invalid)
    (certain : result ≠ .ambiguous) : e.valid = true ∧ Resolved phase e next := by
  unfold resolveEpoch at resolved
  split at resolved
  · cases resolved
    exact absurd rfl proper
  rename_i valid
  refine ⟨by simpa using valid, ?_⟩
  split at resolved
  · rename_i set
    cases resolved
    exact .already set
  · rename_i unset
    have free : phase.firstCause.kind = 0 := by
      by_contra set
      exact unset set
    split at resolved
    · cases resolved
      exact absurd rfl certain
    · rename_i kind value cause
      split at resolved
      · rename_i zero
        cases resolved
        rw [zero] at cause
        exact .quiet free value cause
      · rename_i shown
        split at resolved
        · rename_i claimed claim
          cases resolved
          exact .claimed free kind value _ shown cause claim
        · cases resolved
          exact absurd rfl proper

theorem ObservationEpoch.terminal_of_valid (valid : e.valid = true)
    (ended : e.candidateTerminal ≠ 0) :
    ∃ kind value, terminalCause e.waitStatus = some (kind, value) := by
  simp only [ObservationEpoch.valid, Bool.and_eq_true, Bool.or_eq_true, decide_eq_true_eq] at valid
  rcases valid.2 with alive | told
  · exact absurd alive ended
  · obtain ⟨⟨kind, value⟩, told⟩ := isSome_iff_exists.mp told
    exact ⟨kind, value, told⟩

theorem ObservationEpoch.value_of_flagged {shown : UInt8} (valid : flagged shown value = true)
    (present : shown ≠ 0) : value ≠ 0 := by
  simp only [flagged, Bool.and_eq_true, Bool.or_eq_true, decide_eq_true_eq] at valid
  exact valid.2.resolve_left present

/-! ## The invariant of the loop -/

/-- The wait status does not speak against a cause that was set before. -/
def Ended (kind : UInt16) (status : UInt32) : Bool :=
  if kind = wallTimeout ∨ kind = outputLimit then
    wifsignaled status && decide (wtermsig status = sigkill)
  else if kind = memoryLimit then
    (wifsignaled status && decide (wtermsig status = sigkill))
      || (wifexited status && decide (wexitstatus status ≠ 0))
  else true

namespace Controller

def Crossed (s : Controller) : Prop := s.stdout.limitCrossed = true ∨ s.stderr.limitCrossed = true

def Evidenced (a : Aftermath) (s : Controller) : Prop :=
  let cause := s.phase.firstCause
  (cause.kind = outputLimit ∧ cause.observedValue ≠ 0
      ∧ cause.observedValue.toNat ≤ max s.stdout.crossedBytes s.stderr.crossedBytes)
    ∨ (cause.kind = memoryLimit ∧ cause.observedValue ≠ 0
      ∧ cause.observedValue ≤ a.allocator.peakBytes ∧ s.heapNotifications = 1)
    ∨ (cause.kind = wallTimeout ∧ cause.observedValue = wallTimeMs
      ∧ a.startedNs.toNat + wallTimeMs.toNat * 1000000 ≤ a.finishedNs.toNat)
    ∨ ∃ status, s.waited = some status
      ∧ terminalCause status = some (cause.kind, cause.observedValue)

structure Watching (a : Aftermath) (s : Controller) : Prop where
  attested : s.phase.startedAttested = 1
  authorized : s.phase.candidateReleaseAuthorized = 1
  mask : s.phase.finalityMask = 3
  stdout : s.stdout.Counted stdoutBytes.toNat
  stderr : s.stderr.Counted stderrBytes.toNat
  quiet : s.phase.firstCause.kind = 0 → s.phase.nextSequence = 0 ∧ ¬ s.Crossed
    ∧ s.heapNotifications = 0 ∧ s.waited = none
  caused : s.phase.firstCause.kind ≠ 0 → s.phase.firstCause.monotonicSequence ≠ 0 ∧ s.Evidenced a
  notified : s.heapNotifications = 0 ∨ s.heapNotifications = 1
  ended : ∀ status, s.waited = some status → wtermsig status < nsig

/-- Nothing that was observed speaks against the first cause. -/
structure Clean (s : Controller) : Prop where
  crossed : s.Crossed ↔ s.phase.firstCause.kind = outputLimit
  denied : s.heapNotifications = 1 ↔ s.phase.firstCause.kind = memoryLimit
  ended : ∀ status, s.waited = some status → Ended s.phase.firstCause.kind status = true

def agrees (kind : UInt16) (e : ObservationEpoch) : Bool :=
  decide ((e.stdoutLimitCrossed = 0 ∧ e.stderrLimitCrossed = 0) ∨ kind = outputLimit)
    && decide (e.heapDenied = 0 ∨ kind = memoryLimit)
    && (decide (e.candidateTerminal = 0) || Ended kind e.waitStatus)

def Agrees (s : Controller) (p : Poll) : Prop :=
  ∀ next e, s.observe p = .ok (next, e) → s.phase.firstCause.kind ≠ 0 →
    agrees s.phase.firstCause.kind e = true

theorem round_cases (ran : s.round p = .ok next) :
    ∃ observed e phase, s.observe p = .ok (observed, e) ∧ e.valid = true
      ∧ Resolved observed.phase e phase ∧ next = { observed with phase := phase } := by
  unfold round at ran
  simp only [bind_eq_ok, Prod.exists] at ran
  obtain ⟨observed, e, seen, ran⟩ := ran
  split at ran
  · cases ran
  · cases ran
  · rename_i result phase proper certain resolved
    cases ran
    obtain ⟨valid, answer⟩ := resolveEpoch_facts resolved
      (fun same => proper same) (fun same => certain same)
    exact ⟨observed, e, phase, seen, valid, answer, rfl⟩

section
variable (seen : Observed a s next e)
include seen

theorem Observed.crossed_iff :
    next.Crossed ↔ s.Crossed ∨ e.stdoutLimitCrossed ≠ 0 ∨ e.stderrLimitCrossed ≠ 0 := by
  unfold Crossed
  rw [seen.stdoutDrained.crossed, seen.stderrDrained.crossed]
  simp only [Bool.or_eq_true, decide_eq_true_eq]
  tauto

theorem Observed.denied_iff :
    next.heapNotifications = 1 ↔ s.heapNotifications = 1 ∨ e.heapDenied ≠ 0 := by
  by_cases denied : e.heapDenied = 0
  · rw [seen.quietHeap denied]
    simp [denied]
  · obtain ⟨-, now, -⟩ := seen.deniedHeap denied
    simp [now, denied]

theorem Observed.waited_iff (status : UInt32) : next.waited = some status
      ↔ s.waited = some status ∨ (e.candidateTerminal ≠ 0 ∧ e.waitStatus = status) := by
  by_cases alive : e.candidateTerminal = 0
  · rw [seen.unreaped alive]
    simp [alive]
  · obtain ⟨before, now, -⟩ := seen.reaped alive
    simp [before, now, alive]

theorem Observed.notified (before : s.heapNotifications = 0 ∨ s.heapNotifications = 1) :
    next.heapNotifications = 0 ∨ next.heapNotifications = 1 := by
  by_cases denied : e.heapDenied = 0
  · rw [seen.quietHeap denied]
    exact before
  · exact .inr (seen.deniedHeap denied).2.1

theorem Observed.ended (before : ∀ status, s.waited = some status → wtermsig status < nsig) :
    ∀ status, next.waited = some status → wtermsig status < nsig := by
  intro status waited
  rcases (seen.waited_iff status).mp waited with old | ⟨ended, rfl⟩
  · exact before status old
  · exact (seen.reaped ended).2.2

end

theorem crossedBytes_eq (crossed : o.limitCrossed = true) :
    o.crossedBytes = o.observedBytes := by
  rw [StreamObserver.crossedBytes, if_pos crossed]

theorem Evidenced.observed (evidenced : s.Evidenced a) (seen : Observed a s next e) :
    next.Evidenced a := by
  unfold Evidenced at evidenced ⊢
  rw [seen.phase]
  rcases evidenced with ⟨kind, nonzero, below⟩ | ⟨kind, nonzero, below, told⟩ | wall
    | ⟨status, waited, told⟩
  · left
    refine ⟨kind, nonzero, le_trans below ?_⟩
    have stdout := seen.stdoutDrained.crossedBytes_le
    have stderr := seen.stderrDrained.crossedBytes_le
    omega
  · exact .inr (.inl ⟨kind, nonzero, below, seen.denied_iff.mpr (.inl told)⟩)
  · exact .inr (.inr (.inl wall))
  · exact .inr (.inr (.inr ⟨status, (seen.waited_iff status).mpr (.inl waited), told⟩))

theorem Evidenced.crossed (evidenced : s.Evidenced a)
    (kind : s.phase.firstCause.kind = outputLimit) : s.Crossed := by
  rcases evidenced with ⟨-, nonzero, below⟩ | ⟨other, -⟩ | ⟨other, -⟩ | ⟨status, -, told⟩
  · have positive : s.phase.firstCause.observedValue.toNat ≠ 0 := fun zero =>
      nonzero (UInt64.toNat_inj.mp zero)
    unfold Crossed
    unfold StreamObserver.crossedBytes at below
    by_contra quiet
    simp only [not_or, Bool.not_eq_true] at quiet
    rw [quiet.1, quiet.2] at below
    simp only [Bool.false_eq_true, if_false, Nat.max_self] at below
    omega
  · exact absurd (kind.symm.trans other) (by decide)
  · exact absurd (kind.symm.trans other) (by decide)
  · exact absurd kind (terminalCause_apart told).2.1

theorem Evidenced.denied (evidenced : s.Evidenced a)
    (kind : s.phase.firstCause.kind = memoryLimit) : s.heapNotifications = 1 := by
  rcases evidenced with ⟨other, -⟩ | ⟨-, -, -, told⟩ | ⟨other, -⟩ | ⟨status, -, told⟩
  · exact absurd (kind.symm.trans other) (by decide)
  · exact told
  · exact absurd (kind.symm.trans other) (by decide)
  · exact absurd kind (terminalCause_apart told).2.2.1

theorem clean_of_quiet (unset : s.phase.firstCause.kind = 0) (uncrossed : ¬ s.Crossed)
    (undenied : s.heapNotifications = 0) (unreaped : s.waited = none) : Clean s where
  crossed := by
    rw [unset]
    exact ⟨fun crossed => absurd crossed uncrossed, fun kind => absurd kind (by decide)⟩
  denied := by
    rw [unset, undenied]
    decide
  ended := by
    intro status waited
    rw [unreaped] at waited
    cases waited

theorem Observed.clean_iff (seen : Observed a s next e) (evidenced : s.Evidenced a) :
    Clean next ↔ Clean s ∧ agrees s.phase.firstCause.kind e = true := by
  constructor
  · intro clean
    obtain ⟨crossed, denied, ended⟩ := clean
    rw [seen.phase] at crossed denied ended
    refine ⟨⟨⟨fun old => ?_, evidenced.crossed⟩, ⟨fun old => ?_, evidenced.denied⟩, ?_⟩, ?_⟩
    · exact crossed.mp (seen.crossed_iff.mpr (.inl old))
    · exact denied.mp (seen.denied_iff.mpr (.inl old))
    · exact fun status old => ended status ((seen.waited_iff status).mpr (.inl old))
    · simp only [agrees, Bool.and_eq_true, Bool.or_eq_true, decide_eq_true_eq]
      refine ⟨⟨?_, ?_⟩, ?_⟩
      · by_cases flags : e.stdoutLimitCrossed = 0 ∧ e.stderrLimitCrossed = 0
        · exact .inl flags
        · refine .inr (crossed.mp (seen.crossed_iff.mpr (.inr ?_)))
          by_cases first : e.stdoutLimitCrossed = 0
          · exact .inr fun second => flags ⟨first, second⟩
          · exact .inl first
      · by_cases flag : e.heapDenied = 0
        · exact .inl flag
        · exact .inr (denied.mp (seen.denied_iff.mpr (.inr flag)))
      · by_cases alive : e.candidateTerminal = 0
        · exact .inl alive
        · exact .inr (ended e.waitStatus ((seen.waited_iff _).mpr (.inr ⟨alive, rfl⟩)))
  · rintro ⟨⟨crossed, denied, ended⟩, agreed⟩
    simp only [agrees, Bool.and_eq_true, Bool.or_eq_true, decide_eq_true_eq] at agreed
    obtain ⟨⟨output, memory⟩, wait⟩ := agreed
    constructor
    · rw [seen.phase, seen.crossed_iff]
      refine ⟨?_, fun kind => .inl (crossed.mpr kind)⟩
      rintro (old | flags)
      · exact crossed.mp old
      · rcases output with ⟨first, second⟩ | kind
        · exact (flags.elim (· first) (· second)).elim
        · exact kind
    · rw [seen.phase, seen.denied_iff]
      refine ⟨?_, fun kind => .inl (denied.mpr kind)⟩
      rintro (old | flag)
      · exact denied.mp old
      · exact memory.resolve_left flag
    · intro status waited
      rw [seen.phase]
      rcases (seen.waited_iff status).mp waited with old | ⟨reaped, rfl⟩
      · exact ended status old
      · exact wait.resolve_left reaped

theorem flags_of_quiet (valid : e.valid = true) (told : e.cause = some (0, value)) :
    e.stdoutLimitCrossed = 0 ∧ e.stderrLimitCrossed = 0 ∧ e.heapDenied = 0
      ∧ e.candidateTerminal = 0 := by
  obtain ⟨-, forced⟩ := ObservationEpoch.cause_facts told
  have forced : e.Forced 0 := forced
  refine ⟨?_, ?_, ?_, ?_⟩
  · by_contra shown
    exact absurd (forced.stdout shown) (by decide)
  · by_contra shown
    exact absurd (forced.stderr shown) (by decide)
  · by_contra shown
    exact absurd (forced.heap shown) (by decide)
  · by_contra shown
    obtain ⟨kind, value', terminal⟩ := ObservationEpoch.terminal_of_valid valid shown
    have same := forced.terminal shown
    rw [terminal] at same
    exact (terminalCause_apart terminal).1 same.symm

theorem evidenced_of_source {phase : PhaseState} (seen : Observed a s next e)
    (valid : e.valid = true)
    (source : e.Source (phase.firstCause.kind, phase.firstCause.observedValue))
    (shown : phase.firstCause.kind ≠ 0) : ({ next with phase := phase } : Controller).Evidenced a := by
  have facts := valid
  simp only [ObservationEpoch.valid, Bool.and_eq_true] at facts
  obtain ⟨⟨⟨⟨⟨stdout, stderr⟩, heap⟩, -⟩, -⟩, -⟩ := facts
  unfold Evidenced
  dsimp only
  rcases source with none | ⟨flag, same⟩ | ⟨flag, same⟩ | ⟨flag, same⟩ | ⟨flag, same⟩ | ⟨flag, same⟩
  · exact absurd (congrArg Prod.fst none) shown
  · obtain ⟨kind, value⟩ := Prod.mk.inj same
    have crossed : next.stdout.limitCrossed = true := by
      rw [seen.stdoutDrained.crossed]
      simp [flag]
    rw [kind, value]
    refine .inl ⟨rfl, ObservationEpoch.value_of_flagged stdout flag, ?_⟩
    rw [seen.stdoutCount, ← crossedBytes_eq crossed]
    exact le_max_left _ _
  · obtain ⟨kind, value⟩ := Prod.mk.inj same
    have crossed : next.stderr.limitCrossed = true := by
      rw [seen.stderrDrained.crossed]
      simp [flag]
    rw [kind, value]
    refine .inl ⟨rfl, ObservationEpoch.value_of_flagged stderr flag, ?_⟩
    rw [seen.stderrCount, ← crossedBytes_eq crossed]
    exact le_max_right _ _
  · obtain ⟨kind, value⟩ := Prod.mk.inj same
    obtain ⟨-, told, below⟩ := seen.deniedHeap flag
    rw [kind, value]
    exact .inr (.inl ⟨rfl, ObservationEpoch.value_of_flagged heap flag, below, told⟩)
  · obtain ⟨kind, value⟩ := Prod.mk.inj same
    rw [kind, value]
    exact .inr (.inr (.inl ⟨rfl, seen.timer flag⟩))
  · obtain ⟨kind, value, terminal⟩ := ObservationEpoch.terminal_of_valid valid flag
    rw [terminal, getD_some] at same
    rw [← same] at terminal
    exact .inr (.inr (.inr ⟨e.waitStatus, (seen.reaped flag).2.1, terminal⟩))

theorem clean_of_claimed {phase : PhaseState} (seen : Observed a s next e) (valid : e.valid = true)
    (forced : e.Forced phase.firstCause.kind)
    (evidenced : ({ next with phase := phase } : Controller).Evidenced a) (uncrossed : ¬ s.Crossed)
    (undenied : s.heapNotifications = 0) (unreaped : s.waited = none) :
    Clean { next with phase := phase } := by
  refine ⟨⟨?_, evidenced.crossed⟩, ⟨?_, evidenced.denied⟩, ?_⟩
  · intro crossed
    rcases seen.crossed_iff.mp crossed with old | flag | flag
    · exact absurd old uncrossed
    · exact forced.stdout flag
    · exact forced.stderr flag
  · intro denied
    rcases seen.denied_iff.mp denied with old | flag
    · rw [undenied] at old
      cases old
    · exact forced.heap flag
  · intro status waited
    rcases (seen.waited_iff status).mp waited with old | ⟨flag, -⟩
    · rw [unreaped] at old
      cases old
    · obtain ⟨kind, value, terminal⟩ := ObservationEpoch.terminal_of_valid valid flag
      have same := forced.terminal flag
      rw [terminal, getD_some] at same
      obtain ⟨-, output, memory, wall⟩ := terminalCause_apart terminal
      show Ended phase.firstCause.kind status = true
      rw [same, Ended, if_neg fun h => h.elim wall output, if_neg memory]

theorem claimFirstCause_facts {phase claimed : PhaseState} {kind : UInt16}
    (claim : phase.claimFirstCause kind value = some claimed) :
    claimed = { phase with
      nextSequence := phase.nextSequence + 1
      firstCause := ⟨kind, phase.nextSequence + 1, value⟩ } := by
  unfold PhaseState.claimFirstCause at claim
  split at claim
  · cases claim
  · exact (Option.some.inj claim).symm

theorem round_clean (watching : Watching a s) (honest : Honest a p) (ran : s.round p = .ok next) :
    Watching a next ∧ (Clean next ↔ Clean s ∧ Agrees s p) := by
  obtain ⟨observed, e, phase, told, valid, answer, rfl⟩ := round_cases ran
  have seen := observe_facts honest watching.stdout watching.stderr told
  have agrees_iff : Agrees s p ↔ (s.phase.firstCause.kind ≠ 0 →
      agrees s.phase.firstCause.kind e = true) := by
    constructor
    · exact fun agreed => agreed observed e told
    · intro agreed other e' told'
      rw [told] at told'
      cases told'
      exact agreed
  have phased := seen.phase
  cases answer with
  | already set =>
    rw [phased] at set
    obtain ⟨sequenced, evidenced⟩ := watching.caused set
    refine ⟨⟨?_, ?_, ?_, seen.stdout, seen.stderr, ?_, ?_, seen.notified watching.notified,
      seen.ended watching.ended⟩, ?_⟩
    · rw [phased]
      exact watching.attested
    · rw [phased]
      exact watching.authorized
    · rw [phased]
      exact watching.mask
    · intro unset
      rw [phased] at unset
      exact absurd unset set
    · intro _
      refine ⟨?_, evidenced.observed seen⟩
      rw [phased]
      exact sequenced
    · rw [agrees_iff]
      have clean := seen.clean_iff evidenced
      exact ⟨fun h => ⟨(clean.mp h).1, fun _ => (clean.mp h).2⟩,
        fun h => clean.mpr ⟨h.1, h.2 set⟩⟩
  | quiet unset value empty =>
    rw [phased] at unset
    obtain ⟨sequence, uncrossed, undenied, unreaped⟩ := watching.quiet unset
    obtain ⟨stdout, stderr, heap, alive⟩ := flags_of_quiet valid empty
    have uncrossed' : ¬ observed.Crossed := by
      rw [seen.crossed_iff]
      rintro (old | flag | flag)
      · exact uncrossed old
      · exact flag stdout
      · exact flag stderr
    have undenied' : observed.heapNotifications = 0 := (seen.quietHeap heap).trans undenied
    have unreaped' : observed.waited = none := (seen.unreaped alive).trans unreaped
    have unset' : observed.phase.firstCause.kind = 0 := by
      rw [phased]
      exact unset
    refine ⟨⟨?_, ?_, ?_, seen.stdout, seen.stderr, ?_, ?_, .inl undenied',
      seen.ended watching.ended⟩, ?_⟩
    · rw [phased]
      exact watching.attested
    · rw [phased]
      exact watching.authorized
    · rw [phased]
      exact watching.mask
    · intro _
      refine ⟨?_, uncrossed', undenied', unreaped'⟩
      rw [phased]
      exact sequence
    · exact fun set => absurd unset' set
    · have before := clean_of_quiet unset uncrossed undenied unreaped
      have after := clean_of_quiet unset' uncrossed' undenied' unreaped'
      rw [agrees_iff]
      exact ⟨fun _ => ⟨before, fun set => absurd unset set⟩, fun _ => after⟩
  | claimed unset kind value _ shown cause claim =>
    rw [phased] at unset claim
    obtain ⟨sequence, uncrossed, undenied, unreaped⟩ := watching.quiet unset
    obtain ⟨source, forced⟩ := ObservationEpoch.cause_facts cause
    have facts := claimFirstCause_facts claim
    subst facts
    have evidenced : ({ observed with phase := { s.phase with
        nextSequence := s.phase.nextSequence + 1
        firstCause := ⟨kind, s.phase.nextSequence + 1, value⟩ } } : Controller).Evidenced a :=
      evidenced_of_source seen valid source shown
    refine ⟨⟨watching.attested, watching.authorized, watching.mask, seen.stdout, seen.stderr,
      ?_, ?_, seen.notified watching.notified, seen.ended watching.ended⟩, ?_⟩
    · exact fun unset' => absurd unset' shown
    · intro _
      refine ⟨?_, evidenced⟩
      show s.phase.nextSequence + 1 ≠ 0
      rw [sequence]
      decide
    · have before := clean_of_quiet unset uncrossed undenied unreaped
      rw [agrees_iff]
      exact ⟨fun _ => ⟨before, fun set => absurd unset set⟩,
        fun _ => clean_of_claimed seen valid forced evidenced uncrossed undenied unreaped⟩

/-! ## Whole runs -/

def Steady : Controller → List Poll → Prop
  | _, [] => True
  | s, p :: rest =>
    s.finished = true ∨ (Agrees s p ∧ ∀ next, s.round p = .ok next → Steady next rest)

def claims : Controller → List Poll → List UInt16
  | _, [] => []
  | s, p :: rest =>
    if s.finished then []
    else
      match s.round p with
      | .error _ => []
      | .ok next =>
        if s.phase.firstCause.kind = 0 ∧ next.phase.firstCause.kind ≠ 0 then
          next.phase.firstCause.kind :: claims next rest
        else claims next rest

theorem released_watching (a : Aftermath) : Watching a released where
  attested := rfl
  authorized := rfl
  mask := by decide
  stdout := ⟨rfl, by decide, by decide, by decide⟩
  stderr := ⟨rfl, by decide, by decide, by decide⟩
  quiet := by
    intro _
    refine ⟨rfl, ?_, rfl, rfl⟩
    rintro (crossed | crossed) <;> cases crossed
  caused := fun set => absurd rfl set
  notified := .inl rfl
  ended := fun status waited => by cases waited

theorem loop_clean : ∀ (polls : List Poll) {s final : Controller}, Watching a s →
    (∀ p ∈ polls, Honest a p) → s.loop polls = .ok final →
    Watching a final ∧ final.finished = true ∧ (Clean final ↔ Clean s ∧ Steady s polls) := by
  intro polls
  induction polls with
  | nil =>
    intro s final watching _ ran
    unfold loop at ran
    split at ran
    · rename_i over_now
      cases ran
      exact ⟨watching, over_now, fun clean => ⟨clean, trivial⟩, And.left⟩
    · cases ran
  | cons p rest ih =>
    intro s final watching honest ran
    unfold loop at ran
    split at ran
    · rename_i over_now
      cases ran
      exact ⟨watching, over_now, fun clean => ⟨clean, .inl over_now⟩, And.left⟩
    · rename_i running
      simp only [bind_eq_ok] at ran
      obtain ⟨next, stepped, ran⟩ := ran
      obtain ⟨watching', step⟩ := round_clean watching (honest p mem_cons_self) stepped
      obtain ⟨watching'', ended, later⟩ :=
        ih watching' (fun q member => honest q (mem_cons_of_mem _ member)) ran
      refine ⟨watching'', ended, ?_⟩
      rw [later, step, and_assoc]
      refine and_congr_right fun _ => ?_
      constructor
      · rintro ⟨agrees, steady⟩
        refine .inr ⟨agrees, fun other stepped' => ?_⟩
        rw [stepped] at stepped'
        cases stepped'
        exact steady
      · rintro (over_now | ⟨agrees, steady⟩)
        · exact absurd over_now running
        · exact ⟨agrees, steady next stepped⟩

theorem round_cause (set : s.phase.firstCause.kind ≠ 0)
    (ran : s.round p = .ok next) : next.phase.firstCause = s.phase.firstCause := by
  obtain ⟨observed, e, phase, told, valid, answer, rfl⟩ := round_cases ran
  have phased : observed.phase = s.phase := by
    unfold observe at told
    simp only [bind_eq_ok, pure_eq_ok, Prod.exists, Prod.mk.injEq] at told
    obtain ⟨-, -, -, -, -, -, -, -, -, -, -, -, -, -, rfl, -⟩ := told
    rfl
  cases answer with
  | already | quiet => rw [phased]
  | claimed unset =>
    rw [phased] at unset
    exact absurd unset set

theorem loop_claims : ∀ (polls : List Poll) {s final : Controller}, s.loop polls = .ok final →
    (s.phase.firstCause.kind ≠ 0 → final.phase.firstCause = s.phase.firstCause)
      ∧ (s.phase.firstCause.kind = 0 → final.phase.firstCause.kind ≠ 0 →
        (claims s polls).head? = some final.phase.firstCause.kind) := by
  intro polls
  induction polls with
  | nil =>
    intro s final ran
    unfold loop at ran
    split at ran
    · cases ran
      exact ⟨fun _ => rfl, fun unset set => absurd unset set⟩
    · cases ran
  | cons p rest ih =>
    intro s final ran
    unfold loop at ran
    split at ran
    · cases ran
      exact ⟨fun _ => rfl, fun unset set => absurd unset set⟩
    · rename_i running
      simp only [bind_eq_ok] at ran
      obtain ⟨next, stepped, ran⟩ := ran
      obtain ⟨kept, first⟩ := ih ran
      constructor
      · intro set
        have same := round_cause set stepped
        rw [← same] at set ⊢
        exact kept set
      · intro unset set
        unfold claims
        rw [if_neg running, stepped]
        dsimp only
        by_cases claimed : next.phase.firstCause.kind = 0
        · rw [if_neg fun both => both.2 claimed]
          exact first claimed set
        · rw [if_pos ⟨unset, claimed⟩, List.head?_cons, kept claimed]

end Controller

/-! ## The records of a report -/

theorem StreamMeasurement.isSome_encode {m : StreamMeasurement} (valid : m.valid = true) :
    m.encode.isSome = digestNonzero m.prefixDigest.bytes := by
  obtain ⟨observed, hashed, limit, digest, crossed, eof⟩ := m.fill_reads
  have byte : byteAt (fill 64 m.fields) 58 = 0 :=
    byteAt_of_window (m.laid.blank (by decide) (by decide))
  have zero : bytesZero (window (fill 64 m.fields) 59 5) = true :=
    m.laid.zero (by decide) (by decide)
  have checked : streamValid (fill 64 m.fields) = digestNonzero m.prefixDigest.bytes := by
    have facts := of_decide_eq_true valid
    obtain ⟨positive, ended, flag, counted, exactly⟩ := facts
    have within : m.hashedBytes ≤ m.observedBytes ∧ m.hashedBytes ≤ m.limitBytes := by
      rw [counted, expectedHashed]
      split
      · rename_i below
        exact ⟨UInt64.le_refl _, UInt64.le_of_lt below⟩
      · rename_i above
        exact ⟨UInt64.not_lt.mp above, UInt64.le_refl _⟩
    unfold streamValid
    dsimp only
    rw [observed, hashed, limit, digest, crossed, eof, byte, zero, boolean_iff.mpr flag]
    simp [positive, ended, within.1, within.2, exactly]
  unfold encode
  rw [if_pos valid]
  dsimp only
  rw [show streamMeasurementBytes = 64 from rfl, checked]
  cases digestNonzero m.prefixDigest.bytes <;> rfl

theorem ScratchMeasurement.isSome_encode {m : ScratchMeasurement} (valid : m.valid = true) :
    m.encode.isSome = true := by
  obtain ⟨bytes, entries, limitBytes, limitEntries, byteFlag, entryFlag, complete⟩ := m.fill_reads
  have zero : bytesZero (window (fill 40 m.fields) 35 5) = true :=
    m.laid.zero (by decide) (by decide)
  have checked : scratchValid (fill 40 m.fields) = true := by
    obtain ⟨someBytes, someEntries, fewBytes, fewEntries, flag, flag', inventory⟩ :=
      of_decide_eq_true valid
    unfold scratchValid
    dsimp only
    rw [bytes, entries, limitBytes, limitEntries, byteFlag, entryFlag, complete, zero,
      boolean_iff.mpr flag, boolean_iff.mpr flag']
    simp [someBytes, someEntries, fewBytes, fewEntries, inventory]
  unfold encode
  rw [if_pos valid]
  dsimp only
  rw [show scratchMeasurementBytes = 40 from rfl, checked]
  rfl

theorem isSome_encodeResource (metrics : CandidateMetrics) {allocator : AllocatorSnapshot}
    (ceiling : allocator.ceilingBytes = runtimeHeapBytes) (flag : allocator.ceilingDenied ≤ 1) :
    (encodeResource metrics allocator).isSome = true := by
  have laid := @laid_resource allocator metrics
  have checked : resourceValid (fill 88 (resourceFields metrics allocator)) = true := by
    generalize fill 88 (resourceFields metrics allocator) = resource at laid
    unfold resourceFields at laid
    have space : getU64 resource 32 = addressSpaceBytes := laid.u64 (by simp)
    have heap : getU64 resource 48 = allocator.ceilingBytes := laid.u64 (by simp)
    have processes : getU64 resource 56 = maxProcesses := laid.u64 (by simp)
    have files : getU64 resource 64 = maxOpenFiles := laid.u64 (by simp)
    have size : getU64 resource 72 = maxFileBytes := laid.u64 (by simp)
    have denied : byteAt resource 80 = allocator.ceilingDenied := laid.byte (by simp)
    have zero : bytesZero (window resource 81 7) = true := laid.zero (by decide) (by decide)
    unfold resourceValid
    rw [space, heap, processes, files, size, denied, zero, boolean_iff.mpr flag, ceiling]
    decide
  unfold encodeResource
  dsimp only
  rw [show resourceMeasurementBytes = 88 from rfl, checked]
  rfl

/-! ## Causes and terminations -/

theorem wexitstatus_le (status : UInt32) : wexitstatus status ≤ 255 := by
  rw [UInt32.le_iff_toNat_le, wexitstatus, UInt32.toNat_shiftRight, UInt32.toNat_and]
  have masked : status.toNat &&& 65280 ≤ 65280 := and_le_right
  show (status.toNat &&& 65280) >>> 8 ≤ 255
  rw [shiftRight_eq_div_pow]
  omega

theorem wifsignaled_of_exited (exited : wifexited status = true) :
    wifsignaled status = false := by
  have zero : wtermsig status = 0 := of_decide_eq_true exited
  rw [wifsignaled, zero]
  rfl

theorem terminationFromWait_exited {kind : UInt16} (exited : wifexited status = true) :
    terminationFromWait status kind = some ⟨terminationExit, wexitstatus status, unset⟩ := by
  rw [terminationFromWait, if_pos exited]

theorem terminationFromWait_killed {kind : UInt16}
    (early : kind = wallTimeout ∨ kind = memoryLimit ∨ kind = outputLimit)
    (alive : wifexited status = false) :
    terminationFromWait status kind
      = if wifsignaled status && decide (wtermsig status = sigkill)
        then some ⟨terminationSupervisorKill, unset, sigkill⟩ else none := by
  unfold terminationFromWait
  rw [if_neg (by rw [alive]; decide), if_pos early]
  cases wifsignaled status with
  | false => rfl
  | true =>
    by_cases kill : wtermsig status = sigkill
    · simp [kill]
    · simp [kill]

theorem exit_shape (status : UInt32) :
    (⟨terminationExit, wexitstatus status, unset⟩ : CandidateTermination).shapeValid = true := by
  have small := wexitstatus_le status
  unfold CandidateTermination.shapeValid
  rw [if_pos rfl]
  exact decide_eq_true ⟨small, rfl⟩

theorem kill_shape :
    (⟨terminationSupervisorKill, unset, sigkill⟩ : CandidateTermination).shapeValid = true := by
  decide

theorem early_explained {kind : UInt16} {explained : CandidateTermination → Bool}
    (early : kind = wallTimeout ∨ kind = memoryLimit ∨ kind = outputLimit)
    (killed : explained ⟨terminationSupervisorKill, unset, sigkill⟩ = true)
    (exit : wifexited status = true →
      explained ⟨terminationExit, wexitstatus status, unset⟩ = Ended kind status)
    (signal : wifexited status = false →
      Ended kind status = (wifsignaled status && decide (wtermsig status = sigkill))) :
    (∃ t, terminationFromWait status kind = some t ∧ t.shapeValid = true ∧ explained t = true)
      ↔ Ended kind status = true := by
  cases exited : wifexited status with
  | true =>
    rw [terminationFromWait_exited exited, ← exit exited]
    constructor
    · rintro ⟨t, same, -, holds⟩
      rw [← Option.some.inj same] at holds
      exact holds
    · intro holds
      exact ⟨_, rfl, exit_shape status, holds⟩
  | false =>
    rw [terminationFromWait_killed early exited, signal exited]
    cases wifsignaled status && decide (wtermsig status = sigkill) with
    | true => exact ⟨fun _ => rfl, fun _ => ⟨_, rfl, kill_shape, killed⟩⟩
    | false =>
      constructor
      · rintro ⟨t, same, -⟩
        cases same
      · intro impossible
        cases impossible

theorem toNat_maximumOutput {stdout stderr : StreamObserver} {limit limit' : Nat}
    (stdoutCounted : stdout.Counted limit) (stderrCounted : stderr.Counted limit') :
    (maximumOutput stdout.measurement stderr.measurement).toNat
      = max stdout.crossedBytes stderr.crossedBytes := by
  have first := Controller.count_toNat stdoutCounted
  have second := Controller.count_toNat stderrCounted
  have zero : (0 : UInt64).toNat = 0 := rfl
  have one : (1 : UInt8) ≠ 0 := by decide
  unfold maximumOutput StreamObserver.crossedBytes StreamObserver.measurement
  dsimp only
  cases stdout.limitCrossed <;> cases stderr.limitCrossed <;>
    simp only [if_true, if_false, Bool.false_eq_true, ne_eq, not_true_eq_false, one,
      not_false_eq_true, true_and, false_and, lt_iff_toNat_lt, first, second, zero,
      Nat.max_self, Nat.zero_max, Nat.max_zero]
  · split
    · exact second
    · rename_i none
      rw [zero]
      omega
  · split
    · rw [second]
      omega
    · rw [first]
      omega

namespace Controller

theorem wall_of_timed (measured : a.clockFinish = some metrics)
    (timed : a.startedNs.toNat + wallTimeMs.toNat * 1000000 ≤ a.finishedNs.toNat) :
    wallTimeMs ≤ metrics.wallTimeMs := by
  unfold Aftermath.clockFinish at measured
  split at measured
  · cases measured
  · rename_i ordered
    rw [← Option.some.inj measured, le_iff_toNat_le, UInt64.toNat_div,
      UInt64.toNat_sub_of_le _ _ (UInt64.not_lt.mp ordered),
      show (1000000 : UInt64).toNat = 1000000 from rfl, le_div_iff_mul_le (by decide)]
    exact le_sub_of_add_le (by rw [add_comm]; exact timed)

theorem exit_unexplained {kind : UInt16} (killed : kind = wallTimeout ∨ kind = outputLimit)
    (exited : wifexited status = true) (cause : FirstCause) (stdout stderr : StreamMeasurement)
    (metrics : CandidateMetrics) (allocator : AllocatorSnapshot) :
    explains kind cause ⟨terminationExit, wexitstatus status, unset⟩ stdout stderr metrics allocator
      = Ended kind status := by
  rw [Ended, if_pos killed, wifsignaled_of_exited exited, Bool.false_and]
  rcases killed with rfl | rfl
  · have rule : explains wallTimeout cause ⟨terminationExit, wexitstatus status, unset⟩ stdout stderr
        metrics allocator = decide (terminationExit = terminationSupervisorKill
          ∧ cause.observedValue = wallTimeMs ∧ wallTimeMs ≤ metrics.wallTimeMs) := rfl
    rw [rule]
    exact decide_eq_false fun holds => absurd holds.1 (by decide)
  · have rule : explains outputLimit cause ⟨terminationExit, wexitstatus status, unset⟩ stdout stderr
        metrics allocator = decide (terminationExit = terminationSupervisorKill
          ∧ cause.observedValue ≠ 0 ∧ cause.observedValue ≤ maximumOutput stdout stderr) := rfl
    rw [rule]
    exact decide_eq_false fun holds => absurd holds.1 (by decide)

theorem terminal_explained {cause : FirstCause} (stdout stderr : StreamMeasurement)
    (metrics : CandidateMetrics) (allocator : AllocatorSnapshot) (small : wtermsig status < nsig)
    (told : terminalCause status = some (cause.kind, cause.observedValue)) :
    ∃ t, terminationFromWait status cause.kind = some t ∧ t.shapeValid = true
      ∧ explains cause.kind cause t stdout stderr metrics allocator = true := by
  obtain ⟨-, output, memory, wall⟩ := terminalCause_apart told
  cases exited : wifexited status with
  | true =>
    refine ⟨_, terminationFromWait_exited exited, exit_shape status, ?_⟩
    rw [terminalCause, if_pos exited] at told
    obtain ⟨kind, value⟩ := Prod.mk.inj (Option.some.inj told)
    rw [← kind]
    split
    · rename_i zero
      show decide _ = true
      rw [zero] at value
      exact decide_eq_true ⟨rfl, zero, value.symm⟩
    · rename_i nonzero
      show decide _ = true
      exact decide_eq_true ⟨rfl, nonzero, value.symm⟩
  | false =>
    rw [terminalCause, if_neg (by rw [exited]; decide)] at told
    split at told
    · rename_i signaled
      obtain ⟨kind, value⟩ := Prod.mk.inj (Option.some.inj told)
      refine ⟨⟨terminationSignal, unset, wtermsig status⟩, ?_, ?_, ?_⟩
      · rw [terminationFromWait, if_neg (by rw [exited]; decide), if_pos signaled,
          if_neg fun early => early.elim wall fun other => other.elim memory output]
      · have positive : wtermsig status ≠ 0 := (of_decide_eq_true signaled).1
        show decide _ = true
        refine decide_eq_true ⟨rfl, ?_, small⟩
        rw [UInt32.lt_iff_toNat_lt]
        exact Nat.pos_of_ne_zero fun zero => positive (UInt32.toNat_inj.mp zero)
      · rw [← kind]
        split
        · rename_i xcpu
          rw [xcpu] at value ⊢
          show decide _ = true
          exact decide_eq_true ⟨rfl, rfl, value.symm⟩
        split
        · rename_i sys
          rw [sys] at value ⊢
          show decide _ = true
          exact decide_eq_true ⟨rfl, rfl, value.symm⟩
        · rename_i xcpu sys
          show decide _ = true
          exact decide_eq_true ⟨rfl, xcpu, sys, value.symm⟩
    · cases told

theorem explained_iff (watching : Watching a s)
    (waited : s.waited = some status) (measured : a.clockFinish = some metrics)
    (set : s.phase.firstCause.kind ≠ 0) :
    (∃ t, terminationFromWait status s.phase.firstCause.kind = some t ∧ t.shapeValid = true
      ∧ explains s.phase.firstCause.kind s.phase.firstCause t s.stdout.measurement
        s.stderr.measurement metrics a.allocator = true)
      ↔ Ended s.phase.firstCause.kind status = true := by
  obtain ⟨-, evidenced⟩ := watching.caused set
  rcases evidenced with ⟨kind, nonzero, below⟩ | ⟨kind, nonzero, below, -⟩ | ⟨kind, value, timed⟩
    | ⟨status', waited', told⟩
  · rw [kind]
    refine early_explained (.inr (.inr rfl)) ?_ ?_ fun _ => rfl
    · show decide _ = true
      refine decide_eq_true ⟨rfl, nonzero, ?_⟩
      rw [le_iff_toNat_le, toNat_maximumOutput watching.stdout watching.stderr]
      exact below
    · exact fun exited => exit_unexplained (.inr rfl) exited _ _ _ _ _
  · rw [kind]
    refine early_explained (.inr (.inl rfl)) ?_ ?_ ?_
    · show decide _ = true
      exact decide_eq_true ⟨.inl rfl, nonzero, below⟩
    · intro exited
      have told : Ended memoryLimit status = decide (wexitstatus status ≠ 0) := by
        rw [Ended, if_neg (by decide), if_pos rfl, wifsignaled_of_exited exited, exited]
        simp
      rw [told]
      refine decide_eq_decide.mpr ⟨?_, fun code => ⟨.inr ⟨rfl, code⟩, nonzero, below⟩⟩
      rintro ⟨impossible | ⟨-, code⟩, -⟩
      · exact absurd impossible (show terminationExit ≠ terminationSupervisorKill by decide)
      · exact code
    · intro alive
      rw [Ended, if_neg (by decide), if_pos rfl, alive, Bool.false_and, Bool.or_false]
  · rw [kind]
    refine early_explained (.inl rfl) ?_ ?_ fun _ => rfl
    · show decide _ = true
      exact decide_eq_true ⟨rfl, value, wall_of_timed measured timed⟩
    · exact fun exited => exit_unexplained (.inl rfl) exited _ _ _ _ _
  · rw [waited] at waited'
    cases waited'
    obtain ⟨-, output, memory, wall⟩ := terminalCause_apart told
    refine ⟨fun _ => ?_, fun _ => ?_⟩
    · rw [Ended, if_neg fun early => early.elim wall output, if_neg memory]
    · exact terminal_explained _ _ metrics a.allocator (watching.ended status waited) told

/-! ## The report of a run -/

/-- What the claimed run is promised: a prepared candidate, a complete scratch inventory and an
allocator whose record agrees with what was notified. -/
structure Consistent (a : Aftermath) (final : Controller) : Prop where
  identified : a.identity.valid = true
  token : digestNonzero a.processToken.bytes = true
  staged : stageSettled a.sourceStage.bytes = true
  scratchLimits : a.scratch.limitBytes = scratchBytes ∧ a.scratch.limitEntries = scratchEntries
  inventory : a.scratch.valid = true
  clock : a.startedNs ≤ a.finishedNs
  ceiling : a.allocator.ceilingBytes = runtimeHeapBytes
  peak : a.allocator.currentBytes ≤ a.allocator.peakBytes
    ∧ a.allocator.peakBytes ≤ a.allocator.ceilingBytes
  unfailed : a.allocator.systemAllocationFailed = 0 ∧ a.allocator.statusNotificationFailed = 0
  notified : a.allocator.ceilingDenied = final.heapNotifications

end Controller

theorem exists_report_iff (input : ControllerReportInput) :
    (∃ report : Octets 572, controllerReportBuild input = some report.bytes)
      ↔ input.accepted = true := by
  constructor
  · rintro ⟨report, made⟩
    obtain ⟨built⟩ := built_iff.mp made
    exact built.accepted
  · intro accepted
    have facts := accepted
    simp only [ControllerReportInput.accepted, StreamMeasurement.shapeValid,
      ScratchMeasurement.shapeValid, AllocatorSnapshot.shapeValid, Bool.and_eq_true,
      decide_eq_true_eq] at facts
    obtain ⟨⟨⟨⟨⟨⟨-, -, stdoutMade⟩, -, stderrMade⟩, -, scratchMade⟩, -⟩, allocator⟩, -⟩ := facts
    obtain ⟨stdout, stdoutMade⟩ := isSome_iff_exists.mp stdoutMade
    obtain ⟨stderr, stderrMade⟩ := isSome_iff_exists.mp stderrMade
    obtain ⟨scratch, scratchMade⟩ := isSome_iff_exists.mp scratchMade
    obtain ⟨ceiling, -, -, flag, -⟩ := allocator
    obtain ⟨resource, resourceMade⟩ := isSome_iff_exists.mp
      (isSome_encodeResource input.candidateMetrics ceiling flag)
    have resourceWidth : resource.length = 88 := by
      rw [(encodeResource_eq_some resourceMade).1]
      exact laid_resource.length
    have shape : spans (input.fields stdout stderr resource scratch) = resultLayout :=
      spans_result (length_encode stdoutMade)
        (length_encode stderrMade) resourceWidth
        (ScratchMeasurement.length_encode scratchMade)
    refine ⟨⟨fill 572 (input.fields stdout stderr resource scratch), length_fill shape result_apart⟩,
      built_iff.mpr ⟨⟨stdout, stderr, resource, scratch, accepted, stdoutMade, stderrMade,
        resourceMade, scratchMade, rfl⟩⟩⟩

theorem StreamObserver.snapshot_eq {limit : UInt64}
    (counted : o.Counted limit.toNat) (ended : o.eofObserved = true) (positive : limit ≠ 0) :
    o.snapshot = some o.measurement ∧ o.measurement.valid = true
      ∧ o.measurement.limitBytes = limit := by
  obtain ⟨bound, hashed, crossed, small⟩ := counted
  have limited : o.measurement.limitBytes = limit := by
    show UInt64.ofNat o.limitBytes = limit
    rw [bound, UInt64.ofNat_toNat]
  have observed : o.measurement.observedBytes.toNat = o.observedBytes :=
    toNat_ofNat_of_lt' small
  have valid : o.measurement.valid = true := by
    refine decide_eq_true ⟨?_, ?_, ?_, ?_, ?_⟩
    · rw [limited]
      exact positive
    · show (if o.eofObserved then 1 else 0 : UInt8) = 1
      rw [if_pos ended]
    · show (if o.limitCrossed then 1 else 0 : UInt8) ≤ 1
      cases o.limitCrossed <;> decide
    · rw [StreamMeasurement.expectedHashed, limited]
      show UInt64.ofNat o.hashedBytes = _
      rw [hashed]
      split
      · rename_i below
        rw [lt_iff_toNat_lt, observed] at below
        rw [min_eq_left (le_of_lt below)]
        rfl
      · rename_i above
        rw [lt_iff_toNat_lt, observed] at above
        rw [min_eq_right (not_lt.mp above), UInt64.ofNat_toNat]
    · rw [limited, lt_iff_toNat_lt, observed]
      show (if o.limitCrossed then 1 else 0 : UInt8) ≠ 0 ↔ _
      rw [Controller.flag_ne, crossed, decide_eq_true_eq]
  refine ⟨?_, valid, limited⟩
  rw [snapshot, if_pos ⟨ended, valid⟩]

namespace Controller

variable {final : Controller}

theorem settled_ready (watching : Watching a final) (set : final.phase.firstCause.kind ≠ 0) :
    final.phase.settled.controllerReportReady = true := by
  obtain ⟨sequenced, -⟩ := watching.caused set
  refine decide_eq_true ⟨watching.attested, watching.authorized, set, sequenced, ?_⟩
  simp only [PhaseState.settled, PhaseState.markFinality, watching.mask]
  decide

theorem Evidenced.kind (evidenced : final.Evidenced a) :
    expectedExit ≤ final.phase.firstCause.kind
      ∧ final.phase.firstCause.kind ≤ sandboxPolicyViolation
      ∧ final.phase.firstCause.kind ≠ scratchLimit := by
  rcases evidenced with ⟨kind, -⟩ | ⟨kind, -⟩ | ⟨kind, -⟩ | ⟨status, -, told⟩
  · rw [kind]
    decide
  · rw [kind]
    decide
  · rw [kind]
    decide
  · rcases terminalCause_kind told with kind | kind | kind | kind | kind <;> rw [kind] <;> decide

theorem crossed_flag (o : StreamObserver) :
    o.measurement.limitCrossed ≠ 0 ↔ o.limitCrossed = true := flag_ne

theorem accepted_iff {t : CandidateTermination} (watching : Watching a final)
    (finished : final.finished = true) (consistent : Consistent a final)
    (set : final.phase.firstCause.kind ≠ 0) :
    (final.reportInput a t final.stdout.measurement final.stderr.measurement metrics).accepted = true
      ↔ (digestNonzero final.stdout.hash.final = true ∧ digestNonzero final.stderr.hash.final = true)
        ∧ ((final.Crossed ↔ final.phase.firstCause.kind = outputLimit)
          ∧ (final.heapNotifications = 1 ↔ final.phase.firstCause.kind = memoryLimit))
        ∧ t.shapeValid = true
        ∧ explains final.phase.firstCause.kind final.phase.firstCause t final.stdout.measurement
          final.stderr.measurement metrics a.allocator = true := by
  simp only [Controller.finished, Bool.and_eq_true] at finished
  obtain ⟨⟨⟨-, stdoutEof⟩, stderrEof⟩, statusEof⟩ := finished
  obtain ⟨-, stdoutValid, stdoutLimit⟩ :=
    snapshot_eq watching.stdout stdoutEof (by decide)
  obtain ⟨-, stderrValid, stderrLimit⟩ :=
    snapshot_eq watching.stderr stderrEof (by decide)
  obtain ⟨sequenced, evidenced⟩ := watching.caused set
  have stdoutShape : final.stdout.measurement.shapeValid stdoutBytes
      = digestNonzero final.stdout.hash.final := by
    rw [StreamMeasurement.shapeValid, isSome_encode stdoutValid, stdoutLimit]
    simp [StreamObserver.measurement]
  have stderrShape : final.stderr.measurement.shapeValid stderrBytes
      = digestNonzero final.stderr.hash.final := by
    rw [StreamMeasurement.shapeValid, isSome_encode stderrValid, stderrLimit]
    simp [StreamObserver.measurement]
  have scratchShape : a.scratch.shapeValid = true := by
    rw [ScratchMeasurement.shapeValid, ScratchMeasurement.isSome_encode consistent.inventory]
    simp [consistent.scratchLimits]
  have ready := settled_ready watching set
  have range : expectedExit ≤ final.phase.firstCause.kind
      ∧ final.phase.firstCause.kind ≤ sandboxPolicyViolation
      ∧ final.phase.firstCause.kind ≠ scratchLimit := evidenced.kind
  have denied : a.allocator.ceilingDenied ≤ 1 ∧ (a.allocator.ceilingDenied ≠ 0
      ↔ final.heapNotifications = 1) := by
    rw [consistent.notified]
    rcases watching.notified with zero | one
    · rw [zero]
      decide
    · rw [one]
      decide
  have crossed : (final.stdout.measurement.limitCrossed ≠ 0
      ∨ final.stderr.measurement.limitCrossed ≠ 0) ↔ final.Crossed :=
    or_congr (crossed_flag final.stdout) (crossed_flag final.stderr)
  have below : a.allocator.peakBytes ≤ runtimeHeapBytes := by
    rw [← consistent.ceiling]
    exact consistent.peak.2
  have told : final.phase.settled.firstCause = final.phase.firstCause := rfl
  simp only [ControllerReportInput.accepted, reportInput, told, stdoutShape, stderrShape,
    scratchShape, ready, AllocatorSnapshot.shapeValid, reasonEvidenceValid, crossed, statusEof,
    consistent.identified, consistent.token, consistent.staged, consistent.ceiling,
    consistent.unfailed, denied.1, denied.2, below, range.1, range.2.1, range.2.2, sequenced,
    consistent.notified.symm, Bool.and_eq_true, decide_eq_true_eq, if_true, and_true, true_and,
    ne_eq, not_false_eq_true, consistent.peak.1]
  -- the builder tests the output rule as a Boolean
  constructor
  · rintro ⟨⟨digests, memory⟩, ⟨shaped, output⟩, explained⟩
    have output := (@of_decide_eq_true _ _ output).trans crossed
    exact ⟨digests, ⟨output.symm, memory.symm⟩, shaped, explained⟩
  · rintro ⟨digests, ⟨output, memory⟩, shaped, explained⟩
    exact ⟨⟨digests, memory.symm⟩, ⟨shaped, @decide_eq_true _ _ (output.symm.trans crossed.symm)⟩,
      explained⟩

theorem reportInput_built {t : CandidateTermination} {report : Octets 572}
    (built : Built (final.reportInput a t final.stdout.measurement final.stderr.measurement metrics)
      report) : (Evidence.read report).reason = final.phase.firstCause.kind := by
  rw [built.evidence]
  rfl

def Reported (a : Aftermath) (polls : List Poll) (final : Controller) : Prop :=
  ∃ report : Octets 572, final.report a = some report.bytes
    ∧ (claims released polls).head? = some (Evidence.read report).reason

/-- A completed run is reported under the cause it claimed first exactly when, after that cause,
no stream crosses its limit unless the cause is an output limit, no heap is denied unless it is a
memory limit, and the candidate then ends as the cause makes it end; and when the digests of
both streams are digests to the report. -/
theorem completed_run_reported_iff (a : Aftermath) (polls : List Poll) (final : Controller)
    (ran : released.loop polls = .ok final) (honest : ∀ p ∈ polls, Honest a p)
    (consistent : Consistent a final) :
    Reported a polls final ↔ Steady released polls
      ∧ digestNonzero final.stdout.hash.final = true
      ∧ digestNonzero final.stderr.hash.final = true := by
  obtain ⟨watching, finished, clean⟩ := loop_clean polls (released_watching a) honest ran
  have fresh : Clean released := by
    refine clean_of_quiet rfl ?_ rfl rfl
    rintro (crossed | crossed) <;> cases crossed
  have ends := finished
  simp only [Controller.finished, Bool.and_eq_true] at ends
  obtain ⟨⟨⟨reaped, stdoutEof⟩, stderrEof⟩, -⟩ := ends
  obtain ⟨status, waited⟩ := isSome_iff_exists.mp reaped
  have set : final.phase.firstCause.kind ≠ 0 := by
    intro unset
    obtain ⟨-, -, -, unreaped⟩ := watching.quiet unset
    rw [unreaped] at waited
    cases waited
  have claimed : (claims released polls).head? = some final.phase.firstCause.kind :=
    (loop_claims polls ran).2 rfl set
  obtain ⟨stdoutTaken, -⟩ := snapshot_eq watching.stdout stdoutEof (by decide)
  obtain ⟨stderrTaken, -⟩ := snapshot_eq watching.stderr stderrEof (by decide)
  obtain ⟨metrics, measured⟩ : ∃ metrics, a.clockFinish = some metrics := by
    unfold Aftermath.clockFinish
    rw [if_neg (UInt64.not_lt.mpr consistent.clock)]
    exact ⟨_, rfl⟩
  have made : ∀ bytes, final.report a = some bytes ↔ ∃ t,
      terminationFromWait status final.phase.firstCause.kind = some t
        ∧ controllerReportBuild (final.reportInput a t final.stdout.measurement
          final.stderr.measurement metrics) = some bytes := by
    intro bytes
    unfold report
    rw [stdoutTaken, stderrTaken, measured, waited]
    simp only [bind_eq_bind, bind_some, bind_eq_some_iff]
  have reported : Reported a polls final ↔ ∃ t,
      terminationFromWait status final.phase.firstCause.kind = some t
        ∧ (final.reportInput a t final.stdout.measurement final.stderr.measurement
          metrics).accepted = true := by
    constructor
    · rintro ⟨report, told, -⟩
      obtain ⟨t, ended, build⟩ := (made _).mp told
      exact ⟨t, ended, (exists_report_iff _).mp ⟨report, build⟩⟩
    · rintro ⟨t, ended, accepted⟩
      obtain ⟨report, build⟩ := (exists_report_iff _).mpr accepted
      obtain ⟨built⟩ := built_iff.mp build
      refine ⟨report, (made _).mpr ⟨t, ended, build⟩, ?_⟩
      rw [claimed, reportInput_built built]
  have explained := explained_iff watching waited measured set
  have steady : Steady released polls ↔ Clean final :=
    ⟨fun steady => clean.mpr ⟨fresh, steady⟩, fun clean' => (clean.mp clean').2⟩
  rw [reported, steady]
  constructor
  · rintro ⟨t, ended, accepted⟩
    obtain ⟨digests, ⟨crossed, denied⟩, shaped, told⟩ :=
      (accepted_iff watching finished consistent set).mp accepted
    refine ⟨⟨crossed, denied, fun status' waited' => ?_⟩, digests⟩
    rw [waited] at waited'
    cases waited'
    exact explained.mp ⟨t, ended, shaped, told⟩
  · rintro ⟨clean', digests⟩
    obtain ⟨t, ended, shaped, told⟩ := explained.mpr (clean'.ended status waited)
    exact ⟨t, ended, (accepted_iff watching finished consistent set).mpr
      ⟨digests, ⟨clean'.crossed, clean'.denied⟩, shaped, told⟩⟩

/-! ## A run that is reported, and one that is lost -/

/-- The candidate ends, and every channel is at its end. -/
def endPoll (status : UInt32) : Poll :=
  ⟨some ⟨[], .eof⟩, some ⟨[], .eof⟩, some ⟨[], true⟩, false, some status⟩

def timerPoll : Poll := ⟨none, none, none, true, none⟩

/-- The controller after `endPoll`, with its first cause. -/
def ended (cause : FirstCause) (timerConsumed : Bool) (status : UInt32) : Controller where
  phase := { PhaseState.released with nextSequence := 1, firstCause := cause }
  stdout := { StreamObserver.init stdoutBytes with eofObserved := true }
  stderr := { StreamObserver.init stderrBytes with eofObserved := true }
  statusEof := true
  heapNotifications := 0
  timerConsumed := timerConsumed
  waited := some status

def sampleAftermath : Aftermath where
  identity := sampleReportInput.identity
  processToken := sampleReportInput.processToken
  sourceStage := sampleStage
  scratch := sampleReportInput.scratch
  startedNs := 0
  finishedNs := (wallTimeMs + 2) * 1000000
  cpuUserMs := 1
  cpuSystemMs := 1
  maxRssBytes := 4096
  allocator := sampleReportInput.allocator

theorem sampleAftermath_consistent (cause : FirstCause) (timerConsumed : Bool)
    (status : UInt32) : Consistent sampleAftermath (ended cause timerConsumed status) where
  identified := by decide
  token := by decide
  staged := by decide +kernel
  scratchLimits := ⟨rfl, rfl⟩
  inventory := by decide
  clock := by decide
  ceiling := rfl
  peak := by decide
  unfailed := ⟨rfl, rfl⟩
  notified := rfl

theorem endPoll_honest {status : UInt32} (known : status ∈ [0, sigkill]) :
    Honest sampleAftermath (endPoll status) where
  peaks := by
    intro reading given snapshot told
    cases given
    cases told
  timed := nofun
  signals := by
    intro status waited
    cases waited
    rcases List.mem_pair.mp known with rfl | rfl <;> decide

theorem timerPoll_honest : Honest sampleAftermath timerPoll where
  peaks := nofun
  timed := by decide
  signals := nofun

theorem polls_honest {status : UInt32} (known : status ∈ [0, sigkill]) :
    ∀ p ∈ [timerPoll, endPoll status], Honest sampleAftermath p := by
  intro p member
  rcases mem_cons.mp member with rfl | member
  · exact timerPoll_honest
  · rw [mem_singleton.mp member]
    exact endPoll_honest known

/-- The wall time ends, and the candidate is killed in the next round. -/
theorem completed_run_reported_killed :
    Reported sampleAftermath [timerPoll, endPoll sigkill]
      (ended ⟨wallTimeout, 1, wallTimeMs⟩ true sigkill) := by
  refine (completed_run_reported_iff sampleAftermath _ _ rfl (polls_honest (by decide))
    (sampleAftermath_consistent ..)).mpr ⟨.inr ⟨?_, ?_⟩, ?_, ?_⟩
  · exact fun _ _ _ set => absurd rfl set
  · rintro next ⟨⟩
    refine .inr ⟨?_, fun _ _ => trivial⟩
    rintro _ _ ⟨⟩ -
    decide
  · decide +kernel
  · decide +kernel

/-- The wall time ends, and the candidate exits with status zero before it is killed. -/
theorem late_exit_lost :
    ¬ ∀ (a : Aftermath) (polls : List Poll) (final : Controller), released.loop polls = .ok final →
      (∀ p ∈ polls, Honest a p) → Consistent a final → Reported a polls final := by
  intro reported
  obtain ⟨report, told, -⟩ := reported sampleAftermath [timerPoll, endPoll 0]
    (ended ⟨wallTimeout, 1, wallTimeMs⟩ true 0) rfl (polls_honest (by decide))
    (sampleAftermath_consistent ..)
  have lost : (ended ⟨wallTimeout, 1, wallTimeMs⟩ true 0).report sampleAftermath = none := by
    decide +kernel
  rw [lost] at told
  cases told

end Controller

end Proc17.Native.Wire
