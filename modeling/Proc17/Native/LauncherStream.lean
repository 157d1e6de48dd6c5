import Proc17.Native.Controller

/-!
# The launcher's frame machine

`accept_complete_frame`, `feed_public_bytes` and `finish_machine` of
`native/proc17_qa_launcher_v1.c`, over the bytes that `read` delivers.
-/

namespace Proc17.Native.Wire.Launcher

open Lua Layout List Bool Nat

/-! ## The machine -/

structure Expectation where
  identity : Octets 128
  sourceDevice : UInt64
  sourceInode : UInt64
  sourceMountId : UInt64
  sourceMountPolicyFlags : UInt32

def stageMatchesSource (e : Expectation) (stage : Bytes) : Bool :=
  sourceStageValid stage && getU32 stage 4 = e.sourceMountPolicyFlags
    && getU64 stage 8 = e.sourceDevice && getU64 stage 16 = e.sourceInode
    && getU64 stage 24 = e.sourceMountId && getU64 stage 32 = e.sourceDevice
    && getU64 stage 40 = e.sourceInode && getU64 stage 56 = getU64 stage 32
    && getU64 stage 64 = getU64 stage 40 && getU64 stage 72 = getU64 stage 48
    && byteAt stage 80 = 1 && byteAt stage 81 = 1

/-- `struct proc17_qa_launcher_v1_machine`; of its two buffers the bytes in use. -/
structure Machine where
  pending : Bytes
  expectedFrameBytes : Nat
  startedToken : Bytes
  startedStage : Bytes
  terminalFrame : Bytes
  terminalKind : UInt16
  startedSeen : Bool
  terminalSeen : Bool
  invariantFailed : Bool

def Machine.init : Machine := ⟨[], 0, [], [], [], 0, false, false, false⟩

def Machine.fail (m : Machine) : Machine := { m with invariantFailed := true }

def Machine.keepTerminal (m : Machine) (kind : UInt16) : Machine :=
  { m with terminalFrame := m.pending, terminalKind := kind, terminalSeen := true }

/-- `accept_complete_frame`; nothing when it answers -1. -/
def Machine.acceptCompleteFrame (e : Expectation) (m : Machine) : Option Machine :=
  if m.terminalSeen then none
  else
    match decodeRunV1 m.pending with
    | none => none
    | some view =>
      if window view.payload 0 identityBytes ≠ e.identity.bytes then none
      else
        let phase := getU16 view.payload 128
        if view.kind = runStartedV1 then
          let stage := window view.payload 168 sourceStageBytes
          if m.startedSeen ∨ phase ≠ 1 ∨ stageMatchesSource e stage = false then none
          else some { m with
            startedToken := window view.payload 136 32
            startedStage := stage
            startedSeen := true }
        else if view.kind = runResultV1 then
          let stage := window view.payload 428 sourceStageBytes
          if m.startedSeen = false ∨ phase ≠ 2 ∨ stageMatchesSource e stage = false
              ∨ stage ≠ m.startedStage then none
          else some (m.keepTerminal view.kind)
        else if view.kind = runErrorV1 then
          let sourceKnown := decide (byteAt view.payload 139 ≠ 0)
          let stage := window view.payload 184 sourceStageBytes
          if phase = 1 then
            if m.startedSeen then none
            else if sourceKnown = true ∧ stageMatchesSource e stage = false then none
            else some (m.keepTerminal view.kind)
          else if m.startedSeen = false ∨ sourceKnown = false ∨ stageMatchesSource e stage = false
              ∨ stage ≠ m.startedStage then none
          else some (m.keepTerminal view.kind)
        else none

def Machine.target (m : Machine) : Nat :=
  if m.expectedFrameBytes = 0 then 16 else m.expectedFrameBytes

def Machine.complete (e : Expectation) (m : Machine) : Machine × Bool :=
  if m.expectedFrameBytes ≠ 0 ∧ m.pending.length = m.expectedFrameBytes then
    match m.acceptCompleteFrame e with
    | none => (m.fail, false)
    | some next => ({ next with pending := [], expectedFrameBytes := 0 }, true)
  else (m, true)

def Machine.settle (e : Expectation) (m : Machine) : Machine × Bool :=
  if m.expectedFrameBytes = 0 ∧ m.pending.length = 16 then
    let payloadBytes := (getU32 m.pending 12).toNat
    if maxFrameBytes - envelopeBytes < payloadBytes then (m.fail, false)
    else { m with expectedFrameBytes := envelopeBytes + payloadBytes }.complete e
  else m.complete e

/-- What a call leaves, whether it answered 0, and where the buffer's index stood after each
copy. -/
structure Fed where
  machine : Machine
  accepted : Bool
  reached : List Nat

/-- The loop of `feed_public_bytes`, one turn for each unit of fuel. -/
def Machine.feedLoop (e : Expectation) : Nat → Machine → Bytes → Option Fed
  | _, m, [] => some ⟨m, true, []⟩
  | 0, _, _ :: _ => none
  | fuel + 1, m, b :: rest =>
    if m.invariantFailed ∨ m.terminalSeen then some ⟨m.fail, false, []⟩
    else
      let take := min (m.target - m.pending.length) (b :: rest).length
      let copied := { m with pending := m.pending ++ (b :: rest).take take }
      match copied.settle e with
      | (next, false) => some ⟨next, false, [copied.pending.length]⟩
      | (next, true) =>
        (feedLoop e fuel next ((b :: rest).drop take)).map fun fed =>
          { fed with reached := copied.pending.length :: fed.reached }

/-- `feed_public_bytes`; every turn copies at least one byte. -/
def Machine.feedPublicBytes (e : Expectation) (m : Machine) (bytes : Bytes) : Option Fed :=
  m.feedLoop e bytes.length bytes

def Machine.feedChunks (e : Expectation) : Machine → List Bytes → Option (Machine × List Nat)
  | m, [] => some (m, [])
  | m, chunk :: rest => do
      let fed ← m.feedPublicBytes e chunk
      let (last, reached) ← feedChunks e fed.machine rest
      return (last, fed.reached ++ reached)

/-! ## The end of the stream -/

inductive TerminalKind where
  | result
  | error
  | derivedError

structure Terminal where
  kind : TerminalKind
  frame : Bytes
  phase : UInt16
  errorClass : UInt16
  errorCode : UInt16
  errorStage : UInt16
  candidateStartState : UInt8
  cleanupState : UInt8
  startedAttested : Bool
  launcherReapState : UInt8
  resultEofState : UInt8
  supervisorWaitStatus : UInt32

def childWaitIsClean (waitStatus : UInt32) : Bool :=
  wifexited waitStatus && wexitstatus waitStatus = 0

def Machine.frameTerminal (m : Machine) (waitStatus : UInt32) (view : View) : Terminal where
  kind := if m.terminalKind = runResultV1 then .result else .error
  frame := m.terminalFrame
  phase := getU16 view.payload 128
  errorClass := if view.kind = runErrorV1 then getU16 view.payload 130 else 0
  errorCode := if view.kind = runErrorV1 then getU16 view.payload 132 else 0
  errorStage := if view.kind = runErrorV1 then getU16 view.payload 134 else 0
  candidateStartState := if view.kind = runErrorV1 then byteAt view.payload 136 else 0
  cleanupState := if view.kind = runErrorV1 then byteAt view.payload 137 else 0
  startedAttested := m.startedSeen
  launcherReapState := 3
  resultEofState := 3
  supervisorWaitStatus := waitStatus

def Machine.derivedTerminal (m : Machine) (waitStatus : UInt32) (watchdogFired : Bool) :
    Terminal where
  kind := .derivedError
  frame := []
  phase := if m.startedSeen then 2 else 1
  errorClass := if watchdogFired = true ∨ childWaitIsClean waitStatus = false then 2 else 3
  errorCode := if watchdogFired = true ∨ childWaitIsClean waitStatus = false then 3 else 5
  errorStage := if watchdogFired = true ∨ childWaitIsClean waitStatus = false then 5 else 6
  candidateStartState := if m.startedSeen then 3 else 2
  cleanupState := 1
  startedAttested := m.startedSeen
  launcherReapState := 3
  resultEofState := 3
  supervisorWaitStatus := waitStatus

/-- `finish_machine`; nothing for `TRUSTED_INVARIANT`. -/
def Machine.finish (m : Machine) (waitStatus : UInt32)
    (supervisorReaped resultEof watchdogFired : Bool) : Option Terminal :=
  if m.invariantFailed = true ∨ m.pending ≠ [] ∨ supervisorReaped = false ∨ resultEof = false then
    none
  else if m.terminalSeen then
    if childWaitIsClean waitStatus = false then none
    else (decodeRunV1 m.terminalFrame).map (m.frameTerminal waitStatus)
  else some (m.derivedTerminal waitStatus watchdogFired)

/-! ## One byte at a time -/

def Machine.push (e : Expectation) (m : Machine) (b : UInt8) : Machine :=
  if m.invariantFailed ∨ m.terminalSeen then m.fail
  else ({ m with pending := m.pending ++ [b] }.settle e).1

/-- What holds at the head of the loop, unless the stream is already refused. -/
structure Machine.Ready (m : Machine) : Prop where
  room : m.pending.length < m.target
  framed : m.expectedFrameBytes = 0
    ∨ 80 ≤ m.expectedFrameBytes ∧ m.expectedFrameBytes ≤ 4096 ∧ 16 ≤ m.pending.length

variable {m : Machine}

theorem Machine.Ready.target_le (ready : m.Ready) : m.target ≤ 4096 := by
  unfold Machine.target
  rcases ready.framed with zero | ⟨-, most, -⟩
  · rw [if_pos zero]
    decide
  · split <;> omega

theorem ready_of_empty (empty : m.pending = []) (zero : m.expectedFrameBytes = 0) :
    m.Ready := by
  refine ⟨?_, Or.inl zero⟩
  rw [Machine.target, if_pos zero, empty]
  exact zero_lt_succ 15

variable {e : Expectation}

theorem settle_short (short : m.pending.length < m.target) :
    m.settle e = (m, true) := by
  unfold Machine.target at short
  unfold Machine.settle Machine.complete
  by_cases zero : m.expectedFrameBytes = 0
  · rw [if_pos zero] at short
    rw [if_neg (fun both => absurd both.2 (by omega)), if_neg (fun both => both.1 zero)]
  · rw [if_neg zero] at short
    rw [if_neg (fun both => zero both.1), if_neg (fun both => absurd both.2 (by omega))]

theorem push_dead
    (dead : m.invariantFailed = true ∨ m.terminalSeen = true) (b : UInt8) : m.push e b = m.fail := by
  rw [Machine.push, if_pos dead]

theorem push_live
    (live : ¬ (m.invariantFailed = true ∨ m.terminalSeen = true)) (b : UInt8) :
    m.push e b = ({ m with pending := m.pending ++ [b] }.settle e).1 := by
  rw [Machine.push, if_neg live]

theorem foldl_push_failed (failed : m.invariantFailed = true)
    (bytes : Bytes) : bytes.foldl (Machine.push e) m = m := by
  induction bytes with
  | nil => rfl
  | cons b rest ih =>
    have same : m.push e b = m := by
      rw [push_dead (Or.inl failed), Machine.fail, ← failed]
    rw [foldl_cons, same, ih]

theorem foldl_push_copy (bytes : Bytes)
    (live : ¬ (m.invariantFailed = true ∨ m.terminalSeen = true)) (given : bytes ≠ [])
    (within : m.pending.length + bytes.length ≤ m.target) :
    bytes.foldl (Machine.push e) m = ({ m with pending := m.pending ++ bytes }.settle e).1 := by
  induction bytes generalizing m with
  | nil => exact absurd rfl given
  | cons b rest ih =>
    rw [foldl_cons, push_live live]
    cases rest with
    | nil => rfl
    | cons c further =>
      have short : ({ m with pending := m.pending ++ [b] } : Machine).pending.length
          < ({ m with pending := m.pending ++ [b] } : Machine).target := by
        show (m.pending ++ [b]).length < m.target
        simp only [length_append, length_cons, length_nil] at within ⊢
        omega
      have room : (m.pending ++ [b]).length + (c :: further).length ≤ m.target := by
        simp only [length_append, length_cons, length_nil] at within ⊢
        omega
      rw [settle_short short, ih (m := { m with pending := m.pending ++ [b] }) live
        (cons_ne_nil c further) room]
      simp

def Machine.Sound (m : Machine) : Prop :=
  m.invariantFailed = true ∨ m.terminalSeen = true ∨ m.Ready

theorem Machine.Sound.ready (sound : m.Sound)
    (live : ¬ (m.invariantFailed = true ∨ m.terminalSeen = true)) : m.Ready := by
  rcases sound with failed | done | ready
  · exact absurd (Or.inl failed) live
  · exact absurd (Or.inr done) live
  · exact ready

theorem complete_facts
    (framed : 80 ≤ m.expectedFrameBytes ∧ m.expectedFrameBytes ≤ 4096)
    (header : 16 ≤ m.pending.length) (within : m.pending.length ≤ m.expectedFrameBytes) :
    (m.complete e).1.Sound ∧ ((m.complete e).2 = false → (m.complete e).1.invariantFailed = true) := by
  have set : m.expectedFrameBytes ≠ 0 := by omega
  unfold Machine.complete
  by_cases whole : m.pending.length = m.expectedFrameBytes
  · rw [if_pos ⟨set, whole⟩]
    cases m.acceptCompleteFrame e with
    | none => exact ⟨Or.inl rfl, fun _ => rfl⟩
    | some next =>
      exact ⟨Or.inr (Or.inr (ready_of_empty rfl rfl)), fun refused => nomatch refused⟩
  · rw [if_neg (fun both => whole both.2)]
    refine ⟨Or.inr (Or.inr ⟨?_, Or.inr ⟨framed.1, framed.2, header⟩⟩), fun refused => nomatch refused⟩
    show m.pending.length < m.target
    rw [Machine.target, if_neg set]
    omega

theorem settle_facts
    (framed : m.expectedFrameBytes = 0
      ∨ 80 ≤ m.expectedFrameBytes ∧ m.expectedFrameBytes ≤ 4096 ∧ 16 ≤ m.pending.length)
    (within : m.pending.length ≤ m.target) :
    (m.settle e).1.Sound ∧ ((m.settle e).2 = false → (m.settle e).1.invariantFailed = true) := by
  by_cases short : m.pending.length < m.target
  · rw [settle_short short]
    exact ⟨Or.inr (Or.inr ⟨short, framed⟩), fun refused => nomatch refused⟩
  · have full : m.pending.length = m.target := by omega
    unfold Machine.settle
    rcases framed with zero | ⟨least, most, header⟩
    · have sixteen : m.pending.length = 16 := by rw [full, Machine.target, if_pos zero]
      rw [if_pos ⟨zero, sixteen⟩]
      dsimp only
      by_cases large : maxFrameBytes - envelopeBytes < (getU32 m.pending 12).toNat
      · rw [if_pos large]
        exact ⟨Or.inl rfl, fun _ => rfl⟩
      · rw [if_neg large]
        have small : (getU32 m.pending 12).toNat ≤ 4016 := not_lt.mp large
        exact complete_facts (m := { m with
          expectedFrameBytes := envelopeBytes + (getU32 m.pending 12).toNat })
          ⟨le_add_right 80 _, Nat.add_le_add_left small 80⟩ (le_of_eq sixteen.symm)
          (by rw [sixteen]; exact le_trans (by decide) (le_add_right 80 _))
    · rw [if_neg (fun both => absurd both.1 (by omega))]
      refine complete_facts ⟨least, most⟩ header ?_
      rw [Machine.target, if_neg (by omega)] at within
      exact within

theorem feedLoop_eq (fuel : Nat) (sound : m.Sound) (bytes : Bytes)
    (enough : bytes.length ≤ fuel) : ∃ fed, m.feedLoop e fuel bytes = some fed
      ∧ fed.machine = bytes.foldl (Machine.push e) m ∧ fed.machine.Sound
      ∧ ∀ n ∈ fed.reached, n ≤ 4096 := by
  induction fuel generalizing m bytes with
  | zero =>
    rw [length_eq_zero_iff.mp (le_zero.mp enough)]
    exact ⟨⟨m, true, []⟩, rfl, rfl, sound, fun _ member => absurd member not_mem_nil⟩
  | succ fuel ih =>
    cases bytes with
    | nil => exact ⟨⟨m, true, []⟩, rfl, rfl, sound, fun _ member => absurd member not_mem_nil⟩
    | cons b rest =>
      by_cases dead : m.invariantFailed = true ∨ m.terminalSeen = true
      · refine ⟨⟨m.fail, false, []⟩, ?_, ?_, Or.inl rfl, fun _ member => absurd member not_mem_nil⟩
        · rw [Machine.feedLoop, if_pos dead]
        · rw [foldl_cons, push_dead dead, foldl_push_failed rfl]
      · have ready := sound.ready dead
        have room := ready.room
        have most := ready.target_le
        generalize all : b :: rest = bytes at enough ⊢
        have positive : 0 < bytes.length :=
          length_pos_iff.mpr (all ▸ cons_ne_nil b rest)
        generalize amount : min (m.target - m.pending.length) bytes.length = take
        have taken : (bytes.take take).length = take := by
          rw [length_take]
          omega
        have nonempty : bytes.take take ≠ [] := length_pos_iff.mp (by omega)
        have copy : m.pending.length + (bytes.take take).length ≤ m.target := by omega
        have copied := foldl_push_copy (e := e) (bytes.take take) dead nonempty copy
        have indexed : (m.pending ++ bytes.take take).length ≤ m.target := by
          rw [length_append]
          exact copy
        obtain ⟨settled, refused⟩ := settle_facts (e := e)
          (m := { m with pending := m.pending ++ bytes.take take })
          (ready.framed.imp_right fun framed => ⟨framed.1, framed.2.1, by
            rw [length_append]
            omega⟩) indexed
        have unfolded : m.feedLoop e (fuel + 1) bytes
            = match { m with pending := m.pending ++ bytes.take take }.settle e with
              | (next, false) => some ⟨next, false, [(m.pending ++ bytes.take take).length]⟩
              | (next, true) => (next.feedLoop e fuel (bytes.drop take)).map fun fed =>
                { fed with reached := (m.pending ++ bytes.take take).length :: fed.reached } := by
          subst all
          rw [Machine.feedLoop, if_neg dead]
          dsimp only
          rw [amount]
        have joined : bytes.foldl (Machine.push e) m
            = (bytes.drop take).foldl (Machine.push e) ((bytes.take take).foldl (Machine.push e) m) := by
          rw [← foldl_append, take_append_drop]
        rw [unfolded, joined, copied]
        rcases answer : { m with pending := m.pending ++ bytes.take take }.settle e with ⟨next, ok⟩
        rw [answer] at settled refused ⊢
        dsimp only at settled refused ⊢
        cases ok with
        | false =>
          refine ⟨⟨next, false, _⟩, rfl, (foldl_push_failed (refused rfl) _).symm, settled, ?_⟩
          intro n member
          rw [mem_singleton.mp member]
          exact le_trans indexed most
        | true =>
          obtain ⟨fed, run, same, sound', bounded⟩ := ih settled (bytes.drop take)
            (by rw [length_drop]; omega)
          refine ⟨{ fed with reached := (m.pending ++ bytes.take take).length :: fed.reached },
            ?_, same, sound', ?_⟩
          · dsimp only
            rw [run]
            rfl
          · exact forall_mem_cons.mpr ⟨le_trans indexed most, bounded⟩

theorem feedChunks_eq (chunks : List Bytes) (sound : m.Sound) :
    ∃ reached, m.feedChunks e chunks = some (chunks.flatten.foldl (Machine.push e) m, reached)
      ∧ ∀ n ∈ reached, n ≤ 4096 := by
  induction chunks generalizing m with
  | nil => exact ⟨[], rfl, fun _ member => absurd member not_mem_nil⟩
  | cons chunk rest ih =>
    obtain ⟨fed, run, same, sound', bounded⟩ :=
      feedLoop_eq (e := e) chunk.length sound chunk (le_refl _)
    obtain ⟨reached, later, bounded'⟩ := ih sound'
    refine ⟨fed.reached ++ reached, ?_, ?_⟩
    · have first : m.feedPublicBytes e chunk = some fed := run
      rw [Machine.feedChunks, first, flatten_cons, foldl_append, ← same]
      simp only [Option.bind_eq_bind, Option.bind_some, later, Option.pure_def]
    · exact forall_mem_append.mpr ⟨bounded, bounded'⟩

/-! ## One frame at a time -/

variable {next : Machine}

section
variable {frame : Bytes}

theorem length_of_decodeRunV1 {view : View} (decoded : decodeRunV1 frame = some view) :
    (getU32 frame 12).toNat ≤ 4016 ∧ frame.length = 80 + (getU32 frame 12).toNat := by
  rw [decodeRunV1] at decoded
  obtain ⟨inner, read, -⟩ := Option.bind_eq_some_iff.mp decoded
  have holds := holds_of_decode read
  have small := holds.small
  have counted : getU32 frame 12 = UInt32.ofNat inner.payload.length := by
    apply getU32_of_window
    have written := holds.fields (12, putU32 (UInt32.ofNat inner.payload.length))
      (by simp [envelopeFields])
    rwa [length_putU32] at written
  have count : (getU32 frame 12).toNat = inner.payload.length := by
    rw [counted]
    apply UInt32.toNat_ofNat_of_lt'
    show inner.payload.length < 4294967296
    omega
  rw [count]
  exact ⟨small, holds.length⟩

/-- Between frames: nothing pending, and neither refused nor done. -/
structure Machine.Between (m : Machine) : Prop where
  empty : m.pending = []
  unframed : m.expectedFrameBytes = 0
  sound : m.invariantFailed = false
  running : m.terminalSeen = false

section

variable (between : m.Between)
include between

theorem Machine.Between.live :
    ¬ (m.invariantFailed = true ∨ m.terminalSeen = true) := by
  rw [between.sound, between.running]
  rintro (failed | done)
  · cases failed
  · cases done

def Machine.filled (m : Machine) (frame : Bytes) : Machine :=
  { m with pending := frame, expectedFrameBytes := frame.length }

theorem foldl_push_header {header : Bytes} (sixteen : header.length = 16) :
    header.foldl (Machine.push e) m
      = if 4016 < (getU32 header 12).toNat then { m with pending := header, invariantFailed := true }
        else { m with
          pending := header
          expectedFrameBytes := 80 + (getU32 header 12).toNat } := by
  have target : m.target = 16 := by rw [Machine.target, if_pos between.unframed]
  have given : header ≠ [] := length_pos_iff.mp (by omega)
  rw [foldl_push_copy header between.live given (by rw [target, between.empty]; simp [sixteen]),
    between.empty, nil_append, Machine.settle]
  dsimp only
  rw [if_pos ⟨between.unframed, sixteen⟩]
  by_cases large : 4016 < (getU32 header 12).toNat
  · have beyond : maxFrameBytes - envelopeBytes < (getU32 header 12).toNat := large
    rw [if_pos large, if_pos beyond]
    rfl
  · have within : ¬ maxFrameBytes - envelopeBytes < (getU32 header 12).toNat := large
    rw [if_neg large, if_neg within, Machine.complete, if_neg]
    · rfl
    · rintro ⟨-, whole⟩
      have eighty : 16 = 80 + (getU32 header 12).toNat := sixteen.symm.trans whole
      omega

theorem foldl_push_frame
    (small : (getU32 frame 12).toNat ≤ 4016)
    (whole : frame.length = 80 + (getU32 frame 12).toNat) :
    frame.foldl (Machine.push e) m = ((m.filled frame).complete e).1 := by
  have sixteen : (frame.take 16).length = 16 := by
    rw [length_take]
    omega
  have announced : getU32 (frame.take 16) 12 = getU32 frame 12 := by
    have same : window (frame.take 16) 12 4 = window frame 12 4 := by
      conv_rhs => rw [← take_append_drop 16 frame]
      exact (window_append_left _ _ (by omega)).symm
    rw [getU32, getU32, same]
  have rest : (frame.drop 16).length = 64 + (getU32 frame 12).toNat := by
    rw [length_drop]
    omega
  have first := foldl_push_header (e := e) between sixteen
  rw [announced, if_neg (by omega)] at first
  conv_lhs => rw [← take_append_drop 16 frame]
  rw [foldl_append, first,
    foldl_push_copy (frame.drop 16) (m := { m with
      pending := frame.take 16
      expectedFrameBytes := 80 + (getU32 frame 12).toNat }) between.live
      (length_pos_iff.mp (by omega))]
  · dsimp only
    rw [take_append_drop, Machine.settle, if_neg]
    · rw [Machine.filled, whole]
    · rintro ⟨zero, -⟩
      exact absurd zero (by simp)
  · rw [Machine.target, if_neg (by simp)]
    dsimp only
    omega

theorem foldl_push_accepted {view : View}
    (decoded : decodeRunV1 frame = some view)
    (accepted : (m.filled frame).acceptCompleteFrame e = some next) :
    frame.foldl (Machine.push e) m = { next with pending := [], expectedFrameBytes := 0 } := by
  obtain ⟨small, whole⟩ := length_of_decodeRunV1 decoded
  have given : (m.filled frame).expectedFrameBytes ≠ 0 := by
    show frame.length ≠ 0
    omega
  rw [foldl_push_frame between small whole, Machine.complete, if_pos ⟨given, rfl⟩, accepted]

/-- `finish_machine` asks this of the machine, besides the child. -/
def Machine.Clean (m : Machine) : Prop := m.invariantFailed = false ∧ m.pending = []

theorem frame_of_clean {bytes : Bytes} (given : bytes ≠ [])
    (clean : (bytes.foldl (Machine.push e) m).Clean) :
    ∃ frame rest next, bytes = frame ++ rest ∧ (m.filled frame).acceptCompleteFrame e = some next
      ∧ frame.foldl (Machine.push e) m = { next with pending := [], expectedFrameBytes := 0 } := by
  have target : m.target = 16 := by rw [Machine.target, if_pos between.unframed]
  by_cases short : bytes.length < 16
  · -- a header is missing, so the bytes stay pending
    rw [foldl_push_copy bytes between.live given (by rw [target, between.empty]; simp; omega),
      between.empty, nil_append, settle_short] at clean
    · exact absurd clean.2 given
    · show bytes.length < m.target
      omega
  have sixteen : (bytes.take 16).length = 16 := by
    rw [length_take]
    omega
  have split : bytes.foldl (Machine.push e) m
      = (bytes.drop 16).foldl (Machine.push e) ((bytes.take 16).foldl (Machine.push e) m) := by
    rw [← foldl_append, take_append_drop]
  rw [split, foldl_push_header between sixteen] at clean
  generalize announced : (getU32 (bytes.take 16) 12).toNat = payload at clean
  by_cases large : 4016 < payload
  · rw [if_pos large, foldl_push_failed rfl] at clean
    cases clean.1
  rw [if_neg large] at clean
  by_cases partly : bytes.length < 80 + payload
  · -- the frame is cut off, so its bytes stay pending
    by_cases bare : bytes.drop 16 = []
    · rw [bare] at clean
      have none : bytes.take 16 = [] := clean.2
      rw [none] at sixteen
      cases sixteen
    · have most : bytes.length - 16 < 64 + payload := by omega
      have target' : ({ m with
          pending := bytes.take 16
          expectedFrameBytes := 80 + payload } : Machine).target = 80 + payload := by
        rw [Machine.target, if_neg (by simp)]
      rw [foldl_push_copy (bytes.drop 16) (m := { m with
          pending := bytes.take 16
          expectedFrameBytes := 80 + payload }) between.live bare] at clean
      · dsimp only at clean
        rw [take_append_drop, settle_short] at clean
        · exact absurd clean.2 given
        · show bytes.length < _
          rw [Machine.target, if_neg (by simp)]
          exact partly
      · rw [target', length_drop]
        dsimp only
        omega
  have framed : (bytes.take (80 + payload)).length = 80 + payload := by
    rw [length_take]
    omega
  have counted : (getU32 (bytes.take (80 + payload)) 12).toNat = payload := by
    have same : window (bytes.take (80 + payload)) 12 4 = window (bytes.take 16) 12 4 := by
      have shorter : bytes.take 16 = (bytes.take (80 + payload)).take 16 := by
        rw [take_take, min_eq_left (by omega)]
      rw [shorter]
      conv_lhs => rw [← take_append_drop 16 (bytes.take (80 + payload))]
      exact window_append_left _ _ (by rw [← shorter]; omega)
    rw [getU32, same]
    exact announced
  have run : (bytes.take (80 + payload)).foldl (Machine.push e) m = _ :=
    foldl_push_frame between (by omega) (by omega)
  rw [Machine.complete, if_pos ⟨by show (bytes.take (80 + payload)).length ≠ 0; omega, rfl⟩] at run
  refine ⟨bytes.take (80 + payload), bytes.drop (80 + payload), ?_⟩
  cases accepted : (m.filled (bytes.take (80 + payload))).acceptCompleteFrame e with
  | none =>
    rw [accepted] at run
    have whole : bytes.foldl (Machine.push e) m = (bytes.drop (80 + payload)).foldl (Machine.push e)
        ((bytes.take (80 + payload)).foldl (Machine.push e) m) := by
      rw [← foldl_append, take_append_drop]
    have refused : (bytes.foldl (Machine.push e) m).invariantFailed = true := by
      rw [whole, run, foldl_push_failed rfl]
      rfl
    rw [split, foldl_push_header between sixteen, announced, if_neg large] at refused
    rw [clean.1] at refused
    cases refused
  | some next =>
    rw [accepted] at run
    exact ⟨next, (take_append_drop _ _).symm, rfl, run⟩

end

end

/-! ## The language of the stream -/

structure Carries (e : Expectation) (frame : Bytes) (view : View) : Prop where
  decoded : decodeRunV1 frame = some view
  identity : window view.payload 0 identityBytes = e.identity.bytes

def StartedFrame (e : Expectation) (stage frame : Bytes) : Prop :=
  ∃ view, Carries e frame view ∧ view.kind = runStartedV1
    ∧ window view.payload 168 sourceStageBytes = stage ∧ stageMatchesSource e stage = true

/-- A `RESULT` frame that repeats a stage. -/
def ResultFrame (e : Expectation) (stage frame : Bytes) : Prop :=
  ∃ view, Carries e frame view ∧ view.kind = runResultV1
    ∧ window view.payload 428 sourceStageBytes = stage ∧ stageMatchesSource e stage = true

/-- An `ERROR` frame of the terminal phase that repeats a stage. -/
def TerminalErrorFrame (e : Expectation) (stage frame : Bytes) : Prop :=
  ∃ view, Carries e frame view ∧ view.kind = runErrorV1 ∧ getU16 view.payload 128 = 2
    ∧ byteAt view.payload 139 ≠ 0 ∧ window view.payload 184 sourceStageBytes = stage
    ∧ stageMatchesSource e stage = true

/-- An `ERROR` frame of the start phase; the stage, where it is known, is the expected one. -/
def StartErrorFrame (e : Expectation) (frame : Bytes) : Prop :=
  ∃ view, Carries e frame view ∧ view.kind = runErrorV1 ∧ getU16 view.payload 128 = 1
    ∧ (byteAt view.payload 139 ≠ 0 →
      stageMatchesSource e (window view.payload 184 sourceStageBytes) = true)

/-- The streams that a supervisor may leave. -/
inductive Language (e : Expectation) : Bytes → Prop
  | empty : Language e []
  | started {stage frame : Bytes} : StartedFrame e stage frame → Language e frame
  | result {stage first last : Bytes} :
      StartedFrame e stage first → ResultFrame e stage last → Language e (first ++ last)
  | terminalError {stage first last : Bytes} :
      StartedFrame e stage first → TerminalErrorFrame e stage last → Language e (first ++ last)
  | startError {frame : Bytes} : StartErrorFrame e frame → Language e frame

/-! ## What the machine accepts -/

variable {stage : Bytes}

section
variable {frame : Bytes} {view : View}

section
variable (decoded : decodeRunV1 frame = some view)
include decoded

theorem payloadValid_of_decodeRunV1 : payloadValid view.kind view.payload = true := by
  rw [decodeRunV1] at decoded
  obtain ⟨inner, -, checked⟩ := Option.bind_eq_some_iff.mp decoded
  split at checked
  · rename_i valid
    cases checked
    exact valid.1
  · cases checked

theorem phase_of_started (kind : view.kind = runStartedV1) : getU16 view.payload 128 = 1 := by
  have valid := payloadValid_of_decodeRunV1 decoded
  rw [kind] at valid
  have started : startedValid view.payload = true := valid
  simp only [startedValid, and_eq_true, decide_eq_true_eq] at started
  exact started.1.1.1.1.1.1.1.2

theorem phase_of_result (kind : view.kind = runResultV1) : getU16 view.payload 128 = 2 := by
  have valid := payloadValid_of_decodeRunV1 decoded
  rw [kind] at valid
  have result : resultValid view.payload = true := valid
  unfold resultValid at result
  split at result
  · cases result
  · rename_i shaped
    by_contra other
    exact shaped (Or.inr (Or.inr (Or.inl other)))

theorem phase_of_error (kind : view.kind = runErrorV1) (later : getU16 view.payload 128 ≠ 1) :
    getU16 view.payload 128 = 2 := by
  have valid := payloadValid_of_decodeRunV1 decoded
  rw [kind] at valid
  have error : errorValid view.payload = true := valid
  unfold errorValid at error
  split at error
  · cases error
  · dsimp only at error
    split at error
    · cases error
    · rename_i ranged
      by_contra other
      exact ranged (Or.inl ⟨later, other⟩)

end

theorem acceptCompleteFrame_of_carries (running : m.terminalSeen = false)
    (carried : Carries e m.pending view) :
    m.acceptCompleteFrame e
      = if view.kind = runStartedV1 then
          if m.startedSeen ∨ getU16 view.payload 128 ≠ 1
              ∨ stageMatchesSource e (window view.payload 168 sourceStageBytes) = false then none
          else some { m with
            startedToken := window view.payload 136 32
            startedStage := window view.payload 168 sourceStageBytes
            startedSeen := true }
        else if view.kind = runResultV1 then
          if m.startedSeen = false ∨ getU16 view.payload 128 ≠ 2
              ∨ stageMatchesSource e (window view.payload 428 sourceStageBytes) = false
              ∨ window view.payload 428 sourceStageBytes ≠ m.startedStage then none
          else some (m.keepTerminal view.kind)
        else if view.kind = runErrorV1 then
          if getU16 view.payload 128 = 1 then
            if m.startedSeen then none
            else if decide (byteAt view.payload 139 ≠ 0) = true
                ∧ stageMatchesSource e (window view.payload 184 sourceStageBytes) = false then none
            else some (m.keepTerminal view.kind)
          else if m.startedSeen = false ∨ decide (byteAt view.payload 139 ≠ 0) = false
              ∨ stageMatchesSource e (window view.payload 184 sourceStageBytes) = false
              ∨ window view.payload 184 sourceStageBytes ≠ m.startedStage then none
          else some (m.keepTerminal view.kind)
        else none := by
  have active : ¬ m.terminalSeen = true := by rw [running]; exact false_ne_true
  rw [Machine.acceptCompleteFrame, if_neg active, carried.decoded]
  dsimp only
  rw [if_neg (not_not.mpr carried.identity)]

theorem carries_of_acceptCompleteFrame
    (accepted : m.acceptCompleteFrame e = some next) : ∃ view, Carries e m.pending view := by
  unfold Machine.acceptCompleteFrame at accepted
  split at accepted
  · cases accepted
  · cases decoded : decodeRunV1 m.pending with
    | none =>
      rw [decoded] at accepted
      cases accepted
    | some view =>
      rw [decoded] at accepted
      dsimp only at accepted
      by_cases same : window view.payload 0 identityBytes = e.identity.bytes
      · exact ⟨view, decoded, same⟩
      · rw [if_pos same] at accepted
        cases accepted

/-- After a `STARTED` frame. -/
structure Machine.Started (stage : Bytes) (m : Machine) : Prop where
  between : m.Between
  seen : m.startedSeen = true
  stage : m.startedStage = stage

structure Machine.Done (kind : UInt16) (m : Machine) : Prop where
  clean : m.Clean
  finished : m.terminalSeen = true
  kind : m.terminalKind = kind
  kept : ∃ view, decodeRunV1 m.terminalFrame = some view

theorem done_of_keepTerminal {kind : UInt16} (between : m.Between) (carried : Carries e frame view) :
    ({ (m.filled frame).keepTerminal kind with
      pending := [], expectedFrameBytes := 0 } : Machine).Done kind :=
  ⟨⟨between.sound, rfl⟩, rfl, rfl, view, carried.decoded⟩

theorem foldl_push_started (between : m.Between) (fresh : m.startedSeen = false)
    (started : StartedFrame e stage frame) : (frame.foldl (Machine.push e) m).Started stage := by
  obtain ⟨view, carried, kind, staged, matched⟩ := started
  have accepted := acceptCompleteFrame_of_carries (m := m.filled frame) between.running carried
  rw [if_pos kind, staged, if_neg] at accepted
  · rw [foldl_push_accepted between carried.decoded accepted]
    exact ⟨⟨rfl, rfl, between.sound, between.running⟩, rfl, rfl⟩
  · rintro (seen | other | foreign)
    · exact absurd (fresh.symm.trans seen) false_ne_true
    · exact other (phase_of_started carried.decoded kind)
    · exact absurd (foreign.symm.trans matched) false_ne_true

theorem foldl_push_result (started : m.Started stage)
    (result : ResultFrame e stage frame) :
    (frame.foldl (Machine.push e) m).Done runResultV1 := by
  obtain ⟨view, carried, kind, staged, matched⟩ := result
  have accepted := acceptCompleteFrame_of_carries (m := m.filled frame) started.between.running carried
  rw [kind, if_neg (by decide), if_pos rfl, staged, if_neg] at accepted
  · rw [foldl_push_accepted started.between carried.decoded accepted]
    exact done_of_keepTerminal started.between carried
  · rintro (unseen | other | foreign | changed)
    · exact absurd (started.seen.symm.trans unseen) (by decide)
    · exact other (phase_of_result carried.decoded kind)
    · exact absurd (foreign.symm.trans matched) false_ne_true
    · exact changed started.stage.symm

theorem foldl_push_terminalError (started : m.Started stage)
    (error : TerminalErrorFrame e stage frame) :
    (frame.foldl (Machine.push e) m).Done runErrorV1 := by
  obtain ⟨view, carried, kind, phase, known, staged, matched⟩ := error
  have accepted := acceptCompleteFrame_of_carries (m := m.filled frame) started.between.running carried
  rw [kind, if_neg (by decide), if_neg (by decide), if_pos rfl, phase, if_neg (by decide), staged,
    if_neg] at accepted
  · rw [foldl_push_accepted started.between carried.decoded accepted]
    exact done_of_keepTerminal started.between carried
  · rintro (unseen | unknown | foreign | changed)
    · exact absurd (started.seen.symm.trans unseen) (by decide)
    · exact of_decide_eq_false unknown known
    · exact absurd (foreign.symm.trans matched) false_ne_true
    · exact changed started.stage.symm

theorem foldl_push_startError (between : m.Between) (fresh : m.startedSeen = false)
    (error : StartErrorFrame e frame) : (frame.foldl (Machine.push e) m).Done runErrorV1 := by
  obtain ⟨view, carried, kind, phase, staged⟩ := error
  have accepted := acceptCompleteFrame_of_carries (m := m.filled frame) between.running carried
  rw [kind, if_neg (by decide), if_neg (by decide), if_pos rfl, phase, if_pos rfl, if_neg, if_neg]
    at accepted
  · rw [foldl_push_accepted between carried.decoded accepted]
    exact done_of_keepTerminal between carried
  · rintro ⟨known, foreign⟩
    exact absurd (foreign.symm.trans (staged (of_decide_eq_true known))) false_ne_true
  · intro seen
    exact absurd (fresh.symm.trans seen) false_ne_true

theorem frame_of_accepted_fresh (between : m.Between)
    (fresh : m.startedSeen = false) (accepted : (m.filled frame).acceptCompleteFrame e = some next) :
    (∃ stage, StartedFrame e stage frame) ∨ StartErrorFrame e frame := by
  obtain ⟨view, carried⟩ := carries_of_acceptCompleteFrame accepted
  have unseen : (m.filled frame).startedSeen = false := fresh
  rw [acceptCompleteFrame_of_carries (m := m.filled frame) between.running carried] at accepted
  by_cases started : view.kind = runStartedV1
  · rw [if_pos started] at accepted
    by_cases refused : (m.filled frame).startedSeen = true ∨ getU16 view.payload 128 ≠ 1
        ∨ stageMatchesSource e (window view.payload 168 sourceStageBytes) = false
    · rw [if_pos refused] at accepted
      cases accepted
    · refine Or.inl ⟨_, view, carried, started, rfl, ?_⟩
      exact eq_true_of_not_eq_false fun foreign => refused (Or.inr (Or.inr foreign))
  rw [if_neg started] at accepted
  by_cases result : view.kind = runResultV1
  · rw [if_pos result, if_pos (Or.inl unseen)] at accepted
    cases accepted
  rw [if_neg result] at accepted
  by_cases error : view.kind = runErrorV1
  · rw [if_pos error] at accepted
    by_cases phase : getU16 view.payload 128 = 1
    · refine Or.inr ⟨view, carried, error, phase, fun known => ?_⟩
      rw [if_pos phase, if_neg (by rw [unseen]; exact false_ne_true)] at accepted
      by_contra foreign
      rw [if_pos ⟨decide_eq_true known, eq_false_of_not_eq_true foreign⟩] at accepted
      cases accepted
    · rw [if_neg phase, if_pos (Or.inl unseen)] at accepted
      cases accepted
  · rw [if_neg error] at accepted
    cases accepted

theorem frame_of_accepted_started (started : m.Started stage)
    (accepted : (m.filled frame).acceptCompleteFrame e = some next) :
    ResultFrame e stage frame ∨ TerminalErrorFrame e stage frame := by
  obtain ⟨view, carried⟩ := carries_of_acceptCompleteFrame accepted
  have seen : (m.filled frame).startedSeen = true := started.seen
  have staged : (m.filled frame).startedStage = stage := started.stage
  rw [acceptCompleteFrame_of_carries (m := m.filled frame) started.between.running carried]
    at accepted
  by_cases again : view.kind = runStartedV1
  · rw [if_pos again, if_pos (Or.inl seen)] at accepted
    cases accepted
  rw [if_neg again] at accepted
  by_cases result : view.kind = runResultV1
  · rw [if_pos result] at accepted
    split at accepted
    · cases accepted
    · rename_i kept
      rw [staged] at kept
      have same : window view.payload 428 sourceStageBytes = stage := by
        by_contra changed
        exact kept (Or.inr (Or.inr (Or.inr changed)))
      refine Or.inl ⟨view, carried, result, same, ?_⟩
      rw [← same]
      exact eq_true_of_not_eq_false fun foreign => kept (Or.inr (Or.inr (Or.inl foreign)))
  rw [if_neg result] at accepted
  by_cases error : view.kind = runErrorV1
  · rw [if_pos error] at accepted
    by_cases phase : getU16 view.payload 128 = 1
    · rw [if_pos phase, if_pos seen] at accepted
      cases accepted
    · rw [if_neg phase] at accepted
      split at accepted
      · cases accepted
      · rename_i kept
        rw [staged] at kept
        have same : window view.payload 184 sourceStageBytes = stage := by
          by_contra changed
          exact kept (Or.inr (Or.inr (Or.inr changed)))
        refine Or.inr ⟨view, carried, error, phase_of_error carried.decoded error phase, ?_, same, ?_⟩
        · intro zero
          exact kept (Or.inr (Or.inl (decide_eq_false (not_not.mpr zero))))
        · rw [← same]
          exact eq_true_of_not_eq_false fun foreign =>
            kept (Or.inr (Or.inr (Or.inl foreign)))
  · rw [if_neg error] at accepted
    cases accepted

end

/-! ## Streams and terminals -/

section
variable {bytes : Bytes}

theorem eq_nil_of_done {kind : UInt16} (done : m.Done kind)
    (clean : (bytes.foldl (Machine.push e) m).Clean) : bytes = [] := by
  cases bytes with
  | nil => rfl
  | cons b rest =>
    rw [foldl_cons, push_dead (Or.inr done.finished), foldl_push_failed rfl] at clean
    cases clean.1

theorem rest_of_started (started : m.Started stage)
    (clean : (bytes.foldl (Machine.push e) m).Clean) :
    bytes = [] ∨ ResultFrame e stage bytes ∨ TerminalErrorFrame e stage bytes := by
  by_cases given : bytes = []
  · exact Or.inl given
  obtain ⟨frame, rest, next, rfl, accepted, -⟩ := frame_of_clean started.between given clean
  right
  rw [foldl_append] at clean
  rcases frame_of_accepted_started started accepted with result | error
  · rw [eq_nil_of_done (foldl_push_result started result) clean, append_nil]
    exact Or.inl result
  · rw [eq_nil_of_done (foldl_push_terminalError started error) clean, append_nil]
    exact Or.inr error

theorem init_between : Machine.init.Between := ⟨rfl, rfl, rfl, rfl⟩

/-- How the machine ends on a stream of the language. -/
inductive Ending (e : Expectation) : Bytes → Machine → Prop
  | empty : Ending e [] Machine.init
  | started {stage frame : Bytes} {m : Machine} :
      StartedFrame e stage frame → m.Started stage → Ending e frame m
  | result {stage first last : Bytes} {m : Machine} : StartedFrame e stage first →
      ResultFrame e stage last → m.Done runResultV1 → Ending e (first ++ last) m
  | terminalError {stage first last : Bytes} {m : Machine} : StartedFrame e stage first →
      TerminalErrorFrame e stage last → m.Done runErrorV1 → Ending e (first ++ last) m
  | startError {frame : Bytes} {m : Machine} :
      StartErrorFrame e frame → m.Done runErrorV1 → Ending e frame m

theorem Ending.clean (ending : Ending e bytes m) : m.Clean := by
  cases ending with
  | empty => exact ⟨rfl, rfl⟩
  | started _ reached => exact ⟨reached.between.sound, reached.between.empty⟩
  | result _ _ done | terminalError _ _ done | startError _ done => exact done.clean

theorem ending_of_language (told : Language e bytes) :
    Ending e bytes (bytes.foldl (Machine.push e) Machine.init) := by
  cases told with
  | empty => exact .empty
  | started started => exact .started started (foldl_push_started init_between rfl started)
  | result started result =>
    refine .result started result ?_
    rw [foldl_append]
    exact foldl_push_result (foldl_push_started init_between rfl started) result
  | terminalError started error =>
    refine .terminalError started error ?_
    rw [foldl_append]
    exact foldl_push_terminalError (foldl_push_started init_between rfl started) error
  | startError error => exact .startError error (foldl_push_startError init_between rfl error)

theorem language_of_clean (clean : (bytes.foldl (Machine.push e) Machine.init).Clean) :
    Language e bytes := by
  by_cases given : bytes = []
  · rw [given]
    exact .empty
  obtain ⟨frame, rest, next, rfl, accepted, -⟩ := frame_of_clean init_between given clean
  rw [foldl_append] at clean
  rcases frame_of_accepted_fresh init_between rfl accepted with ⟨stage, started⟩ | error
  · rcases rest_of_started (foldl_push_started init_between rfl started) clean with
      rfl | result | error
    · rw [append_nil]
      exact .started started
    · exact .result started result
    · exact .terminalError started error
  · rw [eq_nil_of_done (foldl_push_startError init_between rfl error) clean, append_nil]
    exact .startError error

theorem clean_of_finish {waitStatus : UInt32} {reaped eof watchdog : Bool}
    (answered : m.finish waitStatus reaped eof watchdog ≠ none) : m.Clean := by
  unfold Machine.finish at answered
  split at answered
  · exact absurd rfl answered
  · rename_i through
    exact ⟨eq_false_of_not_eq_true fun failed => through (Or.inl failed),
      not_not.mp fun left => through (Or.inr (Or.inl left))⟩

theorem finish_ne_none_of_ending {waitStatus : UInt32} (exited : childWaitIsClean waitStatus = true)
    (ending : Ending e bytes m) : ∃ terminal, m.finish waitStatus true true false = some terminal
      ∧ (terminal.kind = .result ↔ m.terminalSeen = true ∧ m.terminalKind = runResultV1) := by
  obtain ⟨sound, empty⟩ := ending.clean
  have through : ¬ (m.invariantFailed = true ∨ m.pending ≠ [] ∨ true = false ∨ true = false) := by
    simp [sound, empty]
  have derived : m.terminalSeen = false → ∃ terminal,
      m.finish waitStatus true true false = some terminal
        ∧ (terminal.kind = .result ↔ m.terminalSeen = true ∧ m.terminalKind = runResultV1) := by
    intro running
    refine ⟨m.derivedTerminal waitStatus false, ?_, ?_⟩
    · rw [Machine.finish, if_neg through, if_neg (by rw [running]; exact false_ne_true)]
    · rw [running]
      exact ⟨fun named => (nomatch named), fun told => absurd told.1 false_ne_true⟩
  have kept : ∀ kind, m.Done kind → ∃ terminal,
      m.finish waitStatus true true false = some terminal
        ∧ (terminal.kind = .result ↔ m.terminalSeen = true ∧ m.terminalKind = runResultV1) := by
    intro kind done
    obtain ⟨view, decoded⟩ := done.kept
    refine ⟨m.frameTerminal waitStatus view, ?_, ?_⟩
    · rw [Machine.finish, if_neg through, if_pos done.finished, if_neg (by rw [exited]; decide),
        decoded, Option.map_some]
    · show (if m.terminalKind = runResultV1 then TerminalKind.result else TerminalKind.error)
        = .result ↔ _
      by_cases named : m.terminalKind = runResultV1
      · rw [if_pos named]
        exact ⟨fun _ => ⟨done.finished, named⟩, fun _ => rfl⟩
      · rw [if_neg named]
        exact ⟨fun same => (nomatch same), fun told => absurd told.2 named⟩
  cases ending with
  | empty => exact derived rfl
  | started _ reached => exact derived reached.between.running
  | result _ _ done | terminalError _ _ done | startError _ done => exact kept _ done

end

/-- However the stream is cut into reads, `finish_machine` gives one answer; it is a terminal for
the streams of the language, and a result for `STARTED RESULT`. -/
theorem stream_language (e : Expectation) (chunks : List Bytes) (waitStatus : UInt32)
    (exited : childWaitIsClean waitStatus = true) :
    ∃ m reached, Machine.init.feedChunks e chunks = some (m, reached)
      ∧ (∀ index ∈ reached, index ≤ 4096)
      ∧ (∀ others : List Bytes, others.flatten = chunks.flatten →
        ∃ m' reached', Machine.init.feedChunks e others = some (m', reached')
          ∧ m'.finish waitStatus true true false = m.finish waitStatus true true false)
      ∧ (m.finish waitStatus true true false ≠ none ↔ Language e chunks.flatten)
      ∧ ((∃ terminal, m.finish waitStatus true true false = some terminal
          ∧ terminal.kind = .result)
        ↔ ∃ stage first last, StartedFrame e stage first ∧ ResultFrame e stage last
          ∧ chunks.flatten = first ++ last) := by
  have sound : Machine.init.Sound := Or.inr (Or.inr (ready_of_empty rfl rfl))
  obtain ⟨reached, run, bounded⟩ := feedChunks_eq (e := e) chunks sound
  generalize bytes : chunks.flatten = stream at run ⊢
  refine ⟨_, reached, run, bounded, ?_, ?_, ?_⟩
  · intro others same
    obtain ⟨reached', run', -⟩ := feedChunks_eq (e := e) others sound
    rw [same] at run'
    exact ⟨_, reached', run', rfl⟩
  · constructor
    · intro answered
      apply language_of_clean
      exact clean_of_finish answered
    · intro told none
      obtain ⟨terminal, answer, -⟩ := finish_ne_none_of_ending exited (ending_of_language told)
      rw [none] at answer
      cases answer
  · constructor
    · rintro ⟨terminal, answer, named⟩
      have clean := clean_of_finish (by rw [answer]; exact Option.some_ne_none terminal)
      have ending := ending_of_language (language_of_clean clean)
      obtain ⟨terminal', answer', kinded⟩ := finish_ne_none_of_ending exited ending
      rw [answer] at answer'
      cases answer'
      obtain ⟨seen, result⟩ := kinded.mp named
      generalize stream.foldl (Machine.push e) Machine.init = m at ending seen result
      cases ending with
      | empty => cases seen
      | started _ reached => exact absurd (reached.between.running.symm.trans seen) (by decide)
      | result started result _ => exact ⟨_, _, _, started, result, rfl⟩
      | terminalError _ _ done | startError _ done =>
        exact absurd (done.kind.symm.trans result) (by decide)
    · rintro ⟨stage, first, last, started, result, rfl⟩
      have done := foldl_push_result (foldl_push_started init_between rfl started) result
      obtain ⟨terminal, answer, kinded⟩ := finish_ne_none_of_ending exited
        (ending_of_language (.result started result))
      rw [← foldl_append] at done
      exact ⟨terminal, answer, kinded.mpr ⟨done.finished, done.kind⟩⟩

def sampleExpectation : Expectation := ⟨⟨sampleIdentity, rfl⟩, 1, 2, 3, 4⟩

def sampleStage : Bytes :=
  fill sourceStageBytes [(0, putU16 1), (4, putU32 4),
    (8, [1, 2, 3, 1, 2, 5, 1, 2, 5].flatMap putU64), (80, [1, 1])]

def sampleStarted : Bytes :=
  fill runStartedBytes [(0, sampleIdentity), (128, putU16 1 ++ putU16 1 ++ [1, 1]),
    (136, replicate 32 5), (168, sampleStage)]

def sampleMeasured : Bytes := fill streamMeasurementBytes
  [(16, putU64 1), (24, replicate 32 9), (57, [1])]

def sampleResult : Bytes :=
  fill runResultBytes [(0, sampleIdentity), (128, [2, 1, 1, 1].flatMap putU16), (144, putU16 1),
    (148, putU64 1), (164, replicate 8 1), (172, sampleMeasured), (236, sampleMeasured),
    (300, replicate 80 1), (388, fill scratchMeasurementBytes [(16, putU64 1 ++ putU64 1),
    (34, [1])]), (428, sampleStage)]

theorem sample_stage : stageMatchesSource sampleExpectation sampleStage = true := by
  decide +kernel

/-- A stream `STARTED RESULT`, read in three pieces. -/
theorem stream_language_cut : ∃ first last m reached terminal,
    StartedFrame sampleExpectation sampleStage first
      ∧ ResultFrame sampleExpectation sampleStage last
      ∧ Machine.init.feedChunks sampleExpectation
        [first.take 100, first.drop 100 ++ last.take 7, last.drop 7] = some (m, reached)
      ∧ m.finish 0 true true false = some terminal ∧ terminal.kind = .result := by
  have startedValid : payloadValid runStartedV1 sampleStarted = true := by decide +kernel
  have resultValid : payloadValid runResultV1 sampleResult = true := by decide +kernel
  let nonce : Octets 32 := ⟨replicate 32 0x11, rfl⟩
  obtain ⟨first, madeFirst⟩ := encode_of_payloadValid nonce startedValid
  obtain ⟨last, madeLast⟩ := encode_of_payloadValid nonce resultValid
  have started : StartedFrame sampleExpectation sampleStage first := by
    refine ⟨⟨runStartedV1, nonce, sampleStarted⟩, ⟨?_, by decide +kernel⟩, rfl,
      by decide +kernel, sample_stage⟩
    rw [decodeRunV1_of_encode madeFirst, if_pos ⟨startedValid, by decide +kernel⟩]
  have result : ResultFrame sampleExpectation sampleStage last := by
    refine ⟨⟨runResultV1, nonce, sampleResult⟩, ⟨?_, by decide +kernel⟩, rfl,
      by decide +kernel, sample_stage⟩
    rw [decodeRunV1_of_encode madeLast, if_pos ⟨resultValid, by decide +kernel⟩]
  obtain ⟨m, reached, run, -, -, -, language⟩ := stream_language sampleExpectation
    [first.take 100, first.drop 100 ++ last.take 7, last.drop 7] 0 (by decide)
  have whole : [first.take 100, first.drop 100 ++ last.take 7, last.drop 7].flatten
      = first ++ last := by
    simp [← append_assoc (first.take 100)]
  obtain ⟨terminal, answer, kind⟩ := language.mpr ⟨_, _, _, started, result, whole⟩
  exact ⟨first, last, m, reached, terminal, started, result, run, answer, kind⟩

end Proc17.Native.Wire.Launcher
