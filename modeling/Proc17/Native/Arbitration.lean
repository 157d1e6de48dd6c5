import Proc17.Native.CompletedRun

/-!
# Arbitration of the first cause

`proc17_qa_phase_claim_first_cause` of `native/proc17_qa_phase.c` with all its answers, and
`proc17_qa_controller_resolve_epoch` of `native/proc17_qa_controller.c` seen as a merge of the
observations an epoch shows.
-/

namespace Proc17.Native.Wire

open List Option

/-! ## Claims -/

inductive CauseResult where
  | invalid
  | set
  | alreadySet
  deriving DecidableEq

/-- `proc17_qa_phase_claim_first_cause` -/
def PhaseState.claim (state : PhaseState) (kind : UInt16) (observedValue : UInt64) :
    CauseResult × PhaseState :=
  if kind < expectedExit ∨ sandboxPolicyViolation < kind
      ∨ state.nextSequence = 18446744073709551615 then (.invalid, state)
  else
    let counted := { state with nextSequence := state.nextSequence + 1 }
    if state.firstCause.kind ≠ 0 then (.alreadySet, counted)
    else (.set, { counted with
      firstCause := ⟨kind, state.nextSequence + 1, observedValue⟩ })

variable {phase : PhaseState} {e : ObservationEpoch}

theorem claim_unset (unset : phase.firstCause.kind = 0) (kind : UInt16) (value : UInt64) :
    phase.claim kind value = match phase.claimFirstCause kind value with
      | some claimed => (.set, claimed)
      | none => (.invalid, phase) := by
  have free : ¬ phase.firstCause.kind ≠ 0 := not_not.mpr unset
  unfold PhaseState.claim PhaseState.claimFirstCause
  by_cases refused : kind < expectedExit ∨ sandboxPolicyViolation < kind
      ∨ phase.nextSequence = 18446744073709551615
  · have refused' : kind < expectedExit ∨ sandboxPolicyViolation < kind
        ∨ phase.nextSequence = 18446744073709551615 ∨ phase.firstCause.kind ≠ 0 :=
      refused.imp_right fun rest => rest.imp_right Or.inl
    rw [if_pos refused, if_pos refused']
  · have accepted : ¬ (kind < expectedExit ∨ sandboxPolicyViolation < kind
        ∨ phase.nextSequence = 18446744073709551615 ∨ phase.firstCause.kind ≠ 0) := by
      rintro (low | high | spent | set)
      · exact refused (Or.inl low)
      · exact refused (Or.inr (Or.inl high))
      · exact refused (Or.inr (Or.inr spent))
      · exact free set
    rw [if_neg refused, if_neg accepted, if_neg free]

/-! ## What an epoch shows -/

namespace ObservationEpoch

def shownAs (shown : UInt8) (kind : UInt16) (value : UInt64) : List (UInt16 × UInt64) :=
  if shown ≠ 0 then [(kind, value)] else []

/-- The observations of an epoch, as cause kinds with their values. -/
def observations (e : ObservationEpoch) : List (UInt16 × UInt64) :=
  shownAs e.stdoutLimitCrossed outputLimit e.stdoutObservedBytes
    ++ shownAs e.stderrLimitCrossed outputLimit e.stderrObservedBytes
    ++ shownAs e.heapDenied memoryLimit e.heapPeakBytes
    ++ shownAs e.wallTimerExpired wallTimeout e.wallLimitMs
    ++ shownAs e.candidateTerminal ((terminalCause e.waitStatus).getD (0, 0)).1
      ((terminalCause e.waitStatus).getD (0, 0)).2

end ObservationEpoch

def merge (found : UInt16 × UInt64) (shown : List (UInt16 × UInt64)) : Option (UInt16 × UInt64) :=
  shown.foldlM (fun found one => addCause one.1 one.2 found) found

theorem merge_append (found : UInt16 × UInt64) (first second : List (UInt16 × UInt64)) :
    merge found (first ++ second) = (merge found first).bind fun next => merge next second := by
  simp [merge, foldlM_append]

theorem addWhen_eq_merge (shown : UInt8) (kind : UInt16) (value : UInt64)
    (found : UInt16 × UInt64) :
    addWhen shown kind value found = merge found (ObservationEpoch.shownAs shown kind value) := by
  unfold addWhen ObservationEpoch.shownAs
  split
  · simp [merge]
  · rfl

theorem cause_eq_merge (e : ObservationEpoch) : e.cause = merge (0, 0) e.observations := by
  simp only [ObservationEpoch.cause, ObservationEpoch.observations, merge_append,
    addWhen_eq_merge, bind_eq_bind, bind_assoc]

theorem merge_onto {found : UInt16 × UInt64} (real : found.1 ≠ 0)
    (shown : List (UInt16 × UInt64)) :
    (merge found shown = none ↔ ∃ one ∈ shown, one.1 ≠ found.1)
      ∧ ∀ merged, merge found shown = some merged → merged.1 = found.1
        ∧ merged ∈ found :: shown ∧ ∀ one ∈ found :: shown, one.2 ≤ merged.2 := by
  induction shown generalizing found with
  | nil =>
    refine ⟨⟨(fun stuck => nomatch stuck), fun ⟨_, member, _⟩ => absurd member not_mem_nil⟩, ?_⟩
    intro merged same
    cases same
    exact ⟨rfl, mem_cons_self, fun one member =>
      mem_singleton.mp member ▸ UInt64.le_refl _⟩
  | cons one rest ih =>
    have unfolded : merge found (one :: rest)
        = (addCause one.1 one.2 found).bind fun next => merge next rest := rfl
    by_cases alike : found.1 = one.1
    · have added : addCause one.1 one.2 found
          = some (found.1, if found.2 < one.2 then one.2 else found.2) := by
        rw [addCause, if_neg real, if_neg (not_not.mpr alike)]
      rw [unfolded, added, bind_some]
      obtain ⟨stuck, gives⟩ := @ih (found.1, if found.2 < one.2 then one.2 else found.2) real
      refine ⟨stuck.trans ?_, fun merged same => ?_⟩
      · simp [alike]
      · obtain ⟨kind, member, largest⟩ := gives merged same
        have atLeast := largest _ mem_cons_self
        dsimp only at atLeast
        refine ⟨kind, ?_, ?_⟩
        · rcases mem_cons.mp member with here | further
          · rw [here]
            split
            · rw [alike]
              exact mem_cons_of_mem _ mem_cons_self
            · exact mem_cons_self
          · exact mem_cons_of_mem _ (mem_cons_of_mem _ further)
        · intro other among
          rcases mem_cons.mp among with rfl | among
          · refine UInt64.le_trans ?_ atLeast
            split
            next less => exact UInt64.le_of_lt less
            next => exact UInt64.le_refl _
          · rcases mem_cons.mp among with rfl | among
            · refine UInt64.le_trans ?_ atLeast
              split
              next => exact UInt64.le_refl _
              next above => exact UInt64.not_lt.mp above
            · exact largest other (mem_cons_of_mem _ among)
    · have refused : addCause one.1 one.2 found = none := by
        rw [addCause, if_neg real, if_pos alike]
      rw [unfolded, refused, bind_none]
      refine ⟨⟨fun _ => ⟨one, mem_cons_self, fun same => alike same.symm⟩, fun _ => rfl⟩, ?_⟩
      intro merged same
      cases same

def Mixed (shown : List (UInt16 × UInt64)) : Prop :=
  ∃ one ∈ shown, ∃ other ∈ shown, one.1 ≠ other.1

theorem merge_facts {shown : List (UInt16 × UInt64)} (real : ∀ one ∈ shown, one.1 ≠ 0) :
    (merge (0, 0) shown = none ↔ Mixed shown)
      ∧ (shown = [] → merge (0, 0) shown = some (0, 0))
      ∧ ∀ merged, shown ≠ [] → merge (0, 0) shown = some merged →
        merged ∈ shown ∧ ∀ one ∈ shown, one.1 = merged.1 ∧ one.2 ≤ merged.2 := by
  cases shown with
  | nil =>
    refine ⟨⟨(fun stuck => nomatch stuck), fun ⟨_, member, _⟩ => absurd member not_mem_nil⟩,
      fun _ => rfl, fun _ shown => absurd rfl shown⟩
  | cons one rest =>
    have first : merge (0, 0) (one :: rest) = merge one rest := rfl
    obtain ⟨stuck, gives⟩ := merge_onto (real one mem_cons_self) rest
    rw [first]
    refine ⟨stuck.trans ⟨?_, ?_⟩, (fun empty => nomatch empty), fun merged _ same => ?_⟩
    · rintro ⟨other, member, differ⟩
      exact ⟨other, mem_cons_of_mem _ member, one, mem_cons_self, differ⟩
    · rintro ⟨left, leftIn, right, rightIn, differ⟩
      by_cases same : left.1 = one.1
      · refine ⟨right, ?_, fun equal => differ (same.trans equal.symm)⟩
        rcases mem_cons.mp rightIn with rfl | member
        · exact absurd same differ
        · exact member
      · refine ⟨left, ?_, same⟩
        rcases mem_cons.mp leftIn with rfl | member
        · exact absurd rfl same
        · exact member
    · obtain ⟨kind, member, largest⟩ := gives merged same
      refine ⟨member, fun other among => ⟨?_, largest other among⟩⟩
      rcases mem_cons.mp among with rfl | among
      · exact kind.symm
      · by_contra differ
        have mixed := stuck.mpr ⟨other, among, fun alike => differ (alike.trans kind.symm)⟩
        rw [mixed] at same
        cases same

theorem ObservationEpoch.observations_ranged (valid : e.valid = true) :
    ∀ one ∈ e.observations, ¬ (one.1 < expectedExit ∨ sandboxPolicyViolation < one.1) := by
  have ranged : ∀ {shown : UInt8} {kind : UInt16} {value : UInt64},
      (shown ≠ 0 → ¬ (kind < expectedExit ∨ sandboxPolicyViolation < kind)) →
      ∀ one ∈ shownAs shown kind value,
        ¬ (one.1 < expectedExit ∨ sandboxPolicyViolation < one.1) := by
    intro shown kind value within one member
    unfold shownAs at member
    split at member
    next present => exact mem_singleton.mp member ▸ within present
    next => cases member
  intro one member
  simp only [observations, mem_append] at member
  rcases member with (((member | member) | member) | member) | member
  · exact ranged (fun _ => by decide) one member
  · exact ranged (fun _ => by decide) one member
  · exact ranged (fun _ => by decide) one member
  · exact ranged (fun _ => by decide) one member
  · refine ranged (fun shown => ?_) one member
    obtain ⟨kind, value, terminal⟩ := terminal_of_valid valid shown
    rw [terminal, getD_some]
    show ¬ (kind < expectedExit ∨ sandboxPolicyViolation < kind)
    rcases terminalCause_kind terminal with rfl | rfl | rfl | rfl | rfl <;> decide

theorem ObservationEpoch.observations_real (valid : e.valid = true) :
    ∀ one ∈ e.observations, one.1 ≠ 0 := by
  intro one member zero
  refine observations_ranged valid one member (Or.inl ?_)
  rw [zero]
  decide

/-! ## Resolving an epoch -/

theorem resolveEpoch_claim (valid : e.valid = true) (unset : phase.firstCause.kind = 0)
    {kind : UInt16} {value : UInt64} (cause : e.cause = some (kind, value)) (shown : kind ≠ 0) :
    resolveEpoch phase e = (if (phase.claim kind value).1 = .set then .causeClaimed else .invalid,
      (phase.claim kind value).2) := by
  have proper : ¬ e.valid = false := by simp [valid]
  rw [resolveEpoch, if_neg proper, if_neg (not_not.mpr unset), claim_unset unset]
  simp only [cause, if_neg shown]
  cases phase.claimFirstCause kind value with
  | none => rfl
  | some claimed => rfl

theorem resolveEpoch_unclaimed (answer : (resolveEpoch phase e).1 ≠ .causeClaimed) :
    (resolveEpoch phase e).2 = phase := by
  unfold resolveEpoch at answer ⊢
  split
  · rfl
  split
  · rfl
  cases cause : e.cause with
  | none => rfl
  | some found =>
    obtain ⟨kind, value⟩ := found
    dsimp only
    split
    · rfl
    next shown =>
      cases claim : phase.claimFirstCause kind value with
      | none => rfl
      | some claimed => simp_all

theorem claim_keeps (held : phase.firstCause.kind ≠ 0) (kind : UInt16) (value : UInt64) :
    (phase.claim kind value).2.firstCause = phase.firstCause := by
  unfold PhaseState.claim
  split
  · rfl
  · rfl

theorem claim_sequenced
    (sequenced : phase.firstCause.kind ≠ 0 → phase.firstCause.monotonicSequence ≠ 0) (kind : UInt16)
    (value : UInt64) :
    (phase.claim kind value).2.firstCause.kind ≠ 0 →
      (phase.claim kind value).2.firstCause.monotonicSequence ≠ 0 := by
  unfold PhaseState.claim
  split
  · exact sequenced
  next accepted =>
    split
    · exact sequenced
    · intro _ zero
      have spent : phase.nextSequence = 18446744073709551615 := by
        have counted : (phase.nextSequence + 1).toNat = 0 := congrArg UInt64.toNat zero
        rw [UInt64.toNat_add] at counted
        have bound := UInt64.toNat_lt phase.nextSequence
        refine UInt64.toNat.inj ?_
        have one : (1 : UInt64).toNat = 1 := rfl
        have most : (18446744073709551615 : UInt64).toNat = 18446744073709551615 := rfl
        omega
      exact accepted (Or.inr (Or.inr spent))

/-! ## Sequences of epochs and claims -/

/-- What reaches the phase. -/
inductive Deed where
  | epoch (e : ObservationEpoch)
  | claim (kind : UInt16) (value : UInt64)

def Deed.act (phase : PhaseState) : Deed → PhaseState
  | .epoch e => (resolveEpoch phase e).2
  | .claim kind value => (phase.claim kind value).2

def PhaseState.run (phase : PhaseState) (deeds : List Deed) : PhaseState := deeds.foldl Deed.act phase

theorem act_epoch (phase : PhaseState) (e : ObservationEpoch) :
    Deed.act phase (.epoch e) = phase
      ∨ ∃ kind value, Deed.act phase (.epoch e) = (phase.claim kind value).2 := by
  rcases resolved : resolveEpoch phase e with ⟨answer, next⟩
  have acted : Deed.act phase (.epoch e) = next := congrArg Prod.snd resolved
  by_cases claimed : answer = .causeClaimed
  · obtain ⟨valid, kept⟩ := resolveEpoch_facts resolved (by rw [claimed]; decide)
      (by rw [claimed]; decide)
    cases kept with
    | already | quiet => exact Or.inl acted
    | claimed unset kind value next shown cause claim =>
      refine Or.inr ⟨kind, value, ?_⟩
      rw [Deed.act, resolveEpoch_claim valid unset cause shown]
  · refine Or.inl (resolveEpoch_unclaimed ?_)
    rw [resolved]
    exact claimed

theorem run_keeps (held : phase.firstCause.kind ≠ 0) (deeds : List Deed) :
    (phase.run deeds).firstCause = phase.firstCause := by
  induction deeds generalizing phase with
  | nil => rfl
  | cons deed rest ih =>
    have step : (deed.act phase).firstCause = phase.firstCause := by
      cases deed with
      | claim kind value => exact claim_keeps held kind value
      | epoch e =>
        rcases act_epoch phase e with same | ⟨kind, value, same⟩
        · rw [same]
        · rw [same]
          exact claim_keeps held kind value
    have later := @ih (deed.act phase) (by rw [step]; exact held)
    exact later.trans step

theorem run_sequenced
    (sequenced : phase.firstCause.kind ≠ 0 → phase.firstCause.monotonicSequence ≠ 0)
    (deeds : List Deed) : (phase.run deeds).firstCause.kind ≠ 0 →
      (phase.run deeds).firstCause.monotonicSequence ≠ 0 := by
  induction deeds generalizing phase with
  | nil => exact sequenced
  | cons deed rest ih =>
    refine @ih (deed.act phase) ?_
    cases deed with
    | claim kind value => exact claim_sequenced sequenced kind value
    | epoch e =>
      rcases act_epoch phase e with same | ⟨kind, value, same⟩
      · rw [same]
        exact sequenced
      · rw [same]
        exact claim_sequenced sequenced kind value

theorem run_unclaimed {deeds : List Deed} (unset : (phase.run deeds).firstCause.kind = 0) :
    (phase.run deeds).nextSequence = phase.nextSequence := by
  induction deeds generalizing phase with
  | nil => rfl
  | cons deed rest ih =>
    have before : phase.firstCause.kind = 0 := by
      by_contra held
      have kept := run_keeps held (deed :: rest)
      rw [kept] at unset
      exact held unset
    have after : (deed.act phase).firstCause.kind = 0 := by
      by_contra held
      have kept := run_keeps held rest
      exact held (kept ▸ unset)
    have claimed : ∀ kind value, (phase.claim kind value).2.firstCause.kind = 0 →
        (phase.claim kind value).2.nextSequence = phase.nextSequence := by
      intro kind value
      unfold PhaseState.claim
      split
      · exact fun _ => rfl
      next accepted =>
        rw [if_neg (not_not.mpr before)]
        intro zero
        refine absurd (show kind = 0 from zero) fun none => accepted (Or.inl ?_)
        rw [none]
        decide
    have step : (deed.act phase).nextSequence = phase.nextSequence := by
      cases deed with
      | claim kind value => exact claimed kind value after
      | epoch e =>
        rcases act_epoch phase e with same | ⟨kind, value, same⟩
        · rw [same]
        · rw [same] at after ⊢
          exact claimed kind value after
    exact (@ih (deed.act phase) unset).trans step

/-! ## The arbitration -/

/-- The observations agree on one kind, and this is their largest value. -/
structure ObservationEpoch.Single (e : ObservationEpoch) (kind : UInt16) (value : UInt64) : Prop where
  member : (kind, value) ∈ e.observations
  kind : ∀ one ∈ e.observations, one.1 = kind
  largest : ∀ one ∈ e.observations, one.2 ≤ value

structure Arbitrated (phase : PhaseState) : Prop where
  unchanged : ∀ e, (resolveEpoch phase e).1 ≠ .causeClaimed → (resolveEpoch phase e).2 = phase
  kept : ∀ past later, (phase.run past).firstCause.kind ≠ 0 →
    (phase.run (past ++ later)).firstCause = (phase.run past).firstCause
  sequenced : phase.firstCause.kind = 0 → ∀ past, (phase.run past).firstCause.kind ≠ 0 →
    (phase.run past).firstCause.monotonicSequence ≠ 0
  counted : ∀ past, (phase.run past).firstCause.kind = 0 →
    (phase.run past).nextSequence = phase.nextSequence
  ambiguous : phase.firstCause.kind = 0 → ∀ e : ObservationEpoch, e.valid = true →
    ((resolveEpoch phase e).1 = .ambiguous ↔ Mixed e.observations)
  quiet : phase.firstCause.kind = 0 → ∀ e : ObservationEpoch, e.valid = true →
    e.observations = [] → (resolveEpoch phase e).1 = .noCause
  claimed : phase.firstCause.kind = 0 → ∀ e : ObservationEpoch, e.valid = true →
    e.observations ≠ [] → ¬ Mixed e.observations → ∃ kind value, e.Single kind value
      ∧ resolveEpoch phase e = if phase.nextSequence = 18446744073709551615 then (.invalid, phase)
        else (.causeClaimed, { phase with
          nextSequence := phase.nextSequence + 1
          firstCause := ⟨kind, phase.nextSequence + 1, value⟩ })

theorem phase_arbitrated (phase : PhaseState) : Arbitrated phase where
  unchanged := fun _ answer => resolveEpoch_unclaimed answer
  kept := by
    intro past later held
    have split : phase.run (past ++ later) = (phase.run past).run later := foldl_append
    rw [split]
    exact run_keeps held later
  sequenced := fun unset past => run_sequenced (fun held => absurd unset held) past
  counted := fun _ unset => run_unclaimed unset
  ambiguous := by
    intro unset e valid
    have merged := merge_facts (e.observations_real valid)
    rw [← merged.1, ← cause_eq_merge]
    have proper : ¬ e.valid = false := by simp [valid]
    rw [resolveEpoch, if_neg proper, if_neg (not_not.mpr unset)]
    cases e.cause with
    | none => exact ⟨fun _ => rfl, fun _ => rfl⟩
    | some found =>
      obtain ⟨kind, value⟩ := found
      dsimp only
      refine ⟨fun answer => ?_, fun impossible => nomatch impossible⟩
      split at answer
      · cases answer
      · split at answer <;> cases answer
  quiet := by
    intro unset e valid empty
    have cause : e.cause = some (0, 0) := by rw [cause_eq_merge, empty]; rfl
    have proper : ¬ e.valid = false := by simp [valid]
    rw [resolveEpoch, if_neg proper, if_neg (not_not.mpr unset)]
    simp [cause]
  claimed := by
    intro unset e valid shown alike
    have merged := merge_facts (e.observations_real valid)
    rw [← cause_eq_merge] at merged
    cases cause : e.cause with
    | none => exact absurd (merged.1.mp cause) alike
    | some found =>
      obtain ⟨kind, value⟩ := found
      obtain ⟨member, all⟩ := merged.2.2 _ shown cause
      refine ⟨kind, value, ⟨member, fun one among => (all one among).1,
        fun one among => (all one among).2⟩, ?_⟩
      rw [resolveEpoch_claim valid unset cause (e.observations_real valid _ member)]
      have ranged := e.observations_ranged valid _ member
      unfold PhaseState.claim
      by_cases spent : phase.nextSequence = 18446744073709551615
      · rw [if_pos (Or.inr (Or.inr spent)), if_pos spent]
        rfl
      · have accepted : ¬ (kind < expectedExit ∨ sandboxPolicyViolation < kind
            ∨ phase.nextSequence = 18446744073709551615) := by
          rintro (low | high | last)
          · exact ranged (Or.inl low)
          · exact ranged (Or.inr high)
          · exact spent last
        rw [if_neg accepted, if_neg spent, if_neg (not_not.mpr unset)]
        rfl

example : (resolveEpoch .init ⟨1, 1, 0, 0, 0, 0, 5, 9, 0, 0⟩).2.firstCause.observedValue = 9 := by
  decide

theorem spent_sequence_unclaimed : ¬ ∀ (phase : PhaseState) (e : ObservationEpoch),
    phase.firstCause.kind = 0 → e.valid = true →
    ((resolveEpoch phase e).1 = .ambiguous ↔ Mixed e.observations)
      ∧ (∀ kind value, e.Single kind value → (resolveEpoch phase e).1 = .causeClaimed) := by
  intro all
  have claims := (all ⟨18446744073709551615, ⟨0, 0, 0⟩, 0, 0, 0⟩ ⟨1, 0, 0, 0, 0, 0, 5, 0, 0, 0⟩
    rfl (by decide)).2 outputLimit 5
    ⟨mem_singleton.mpr rfl, fun one here => by rw [mem_singleton.mp here],
      fun one here => by rw [mem_singleton.mp here]; exact UInt64.le_refl 5⟩
  exact absurd claims (by decide)

end Proc17.Native.Wire
