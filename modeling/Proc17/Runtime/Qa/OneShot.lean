import Proc17.Layout.Counter
import Proc17.Lua.Dictionary
import Proc17.Runtime.Qa.Capability

/-!
# One-shot execution authority

Every call on the registry is one of a few changes of one grant; each law is kept by every
change, and so by every run, whatever the consumer does in between.
-/

namespace Proc17.Runtime.Qa

open Lua Core Runtime.Repository List Function

namespace Capability

/-! ## What the log says -/

def entriesOf (log : List Happening) : List Nat :=
  log.filterMap fun
    | .entered i => some i
    | _ => none

def revisionsOf (log : List Happening) : List Nat :=
  log.filterMap fun
    | .revised n => some n
    | _ => none

def bears (c : Capability) (i : Nat) : Option (Nat × GrantState) :=
  (c.grants[i]?).map fun g => (g.revision, g.state)

def book (c : Capability) : Counter.Book Nat GrantState :=
  ⟨(revisionsOf c.log).reverse, c.nextRevision, c.bears⟩

def Returned (c : Capability) (i : Nat) (v : Value) : Prop := Happening.returned i v ∈ c.log

/-! ## What a call can do -/

structure Blank (grant : Grant) : Prop where
  state : grant.state = .active
  unentered : grant.executionEntered = false
  pending : grant.pendingResult = none
  unpaid : grant.executionReceipt = none

inductive Change (c : Capability) (call : Call) : Capability → Prop where
  | unchanged : Change c call c
  | minted (grant : Grant) (blank : Blank grant) (revision : grant.revision = c.nextRevision)
      (fresh : c.grantFor (.str grant.requestId) = none) : Change c call (c.addGrant grant)
  | began (i : Nat) (grant : Grant) (transaction witness : Value)
      (held : c.grants[i]? = some grant) (active : grant.state = .active) :
      Change c call (c.startGrant i { grant with
        physicalTransactionId := transaction, physicalWitnessId := witness })
  | refusedEntry (i : Nat) (grant : Grant) (held : c.grants[i]? = some grant)
      (running : grant.state = .running) (unentered : grant.executionEntered = false) :
      Change c call (c.enter i grant)
  | entered (i : Nat) (grant : Grant) (held : c.grants[i]? = some grant)
      (running : grant.state = .running) (unentered : grant.executionEntered = false) :
      Change c call (({ c.enter i grant with frames := i :: c.frames }).note (.entered i))
  | failed (i : Nat) (rest : List Nat) (grant : Grant) (held : c.grants[i]? = some grant)
      (open_ : c.frames = i :: rest) :
      Change c call (({ c with frames := rest }).moveGrant i grant .quarantined)
  | returned (i : Nat) (rest : List Nat) (grant : Grant) (result : Value) (id : Bytes)
      (held : c.grants[i]? = some grant) (open_ : c.frames = i :: rest)
      (identified : Digest.identify "qa-provider-result:" result = .ok id) :
      Change c call (({ c with frames := rest }).keepResult i grant result id)
  | committed (place : Nat) (supplied : Value) (lease : Lease) (grant : Grant) (plan : CommitPlan)
      (asked : call = .commit place supplied) (leased : c.leases[place]? = some lease)
      (held : c.grants[lease.grant]? = some grant) (unpaid : grant.executionReceipt = none)
      (planned : newReceipt lease.grant grant supplied = .ok plan) :
      Change c call (c.keepReceipt plan)
  | quarantined (i : Nat) (grant : Grant) (reason : Bytes) (held : c.grants[i]? = some grant)
      (running : grant.state = .running) :
      Change c call (c.moveGrant i { grant with quarantineReason := some reason } .quarantined)

variable {c : Capability} {grant : Grant}

theorem newGrant_blank {request : Value} {facts : MintFacts} {plan : MintPlan}
    (made : c.newGrant request facts plan = .ok grant) :
    Blank grant ∧ grant.requestId = plan.requestId ∧ grant.revision = c.nextRevision := by
  simp only [newGrant, bind_eq_ok, pure_eq_ok] at made
  obtain ⟨-, -, -, -, -, -, -, -, rfl⟩ := made
  exact ⟨⟨rfl, rfl, rfl, rfl⟩, rfl, rfl⟩

theorem mintPlan_fresh {inst request requestRef : Value} {facts : MintFacts}
    {plan : MintPlan} (planned : c.mintPlan inst request requestRef facts = .ok plan)
    (none : plan.existing = none) : c.grantFor (.str plan.requestId) = .none := by
  simp only [mintPlan, bind_eq_ok] at planned
  obtain ⟨-, -, -, -, -, -, -, -, found, -, -, -, rest⟩ := planned
  split at rest
  · rename_i requestId named
    split at rest
    · simp only [bind_eq_ok, pure_eq_ok] at rest
      obtain ⟨-, -, rfl⟩ := rest
      cases none
    · rename_i missing
      cases rest
      exact missing
  · cases rest

theorem mint_change (c : Capability) (call : Call) (inst request requestRef : Value)
    (facts : MintFacts) : Change c call (c.mint inst request requestRef facts).2 := by
  refine transact_state (motive := Change c call) .unchanged fun plan planned => ?_
  cases existing : plan.existing with
  | some pair => exact .unchanged
  | none =>
    cases made : c.newGrant request facts plan with
    | error failure => exact .unchanged
    | ok grant =>
      obtain ⟨blank, named, revision⟩ := newGrant_blank made
      exact .minted grant blank revision (named ▸ mintPlan_fresh planned existing)

variable {i : Nat}

theorem grantFor_held {requestId : Value}
    (found : c.grantFor requestId = some (i, grant)) : c.grants[i]? = some grant := by
  cases requestId with
  | str id =>
    simp only [grantFor, Option.bind_eq_some_iff, Option.map_eq_some_iff, Prod.mk.injEq] at found
    obtain ⟨j, -, g, held, rfl, rfl⟩ := found
    exact held
  | _ => cases found

theorem beginPlan_spec {requestId requestRef : Value}
    {measured : Except Failure Value} {started : Grant}
    (planned : c.beginPlan requestId requestRef measured = .ok (i, started)) :
    ∃ grant transaction witness, c.grants[i]? = some grant ∧ grant.state = .active ∧
      started = { grant with
        physicalTransactionId := transaction, physicalWitnessId := witness } := by
  unfold beginPlan at planned
  split at planned
  · cases planned
  · rename_i j grant found
    simp only [bind_eq_ok, require_eq_ok, pure_eq_ok, Prod.mk.injEq] at planned
    obtain ⟨-, -, -, active, -, -, ids, -, rfl, rfl⟩ := planned
    exact ⟨grant, .str ids.1, .str ids.2, grantFor_held found, active, rfl⟩

theorem executionLease_spec {place i : Nat} {allowTerminal : Bool}
    (held : c.executionLease place allowTerminal = .ok (i, grant)) :
    ∃ lease, c.leases[place]? = some lease ∧ lease.grant = i ∧ c.grants[i]? = some grant ∧
      (grant.state = .running ∨ allowTerminal = true ∧ grant.state.isTerminal = true) := by
  unfold executionLease at held
  cases leased : c.leases[place]? with
  | none => simp [leased] at held
  | some lease =>
    simp only [leased] at held
    cases found : c.grants[lease.grant]? with
    | none => simp [found] at held
    | some g =>
      simp only [found, bind_eq_ok, require_eq_ok, pure_eq_ok, Prod.mk.injEq] at held
      obtain ⟨-, -, -, state, rfl, rfl⟩ := held
      exact ⟨lease, rfl, rfl, found, state⟩

section

variable (c : Capability)

section

variable (call : Call)

theorem begin_change (requestId requestRef : Value)
    (measured : Except Failure Value) :
    Change c call (c.beginExecution requestId requestRef measured).2 := by
  refine transact_state (motive := Change c call) .unchanged fun plan planned => ?_
  obtain ⟨i, started⟩ := plan
  obtain ⟨grant, transaction, witness, held, active, rfl⟩ := beginPlan_spec planned
  exact .began i grant transaction witness held active

theorem enter_change (place : Nat) (consumer : Value) :
    Change c call (c.enterExecution place consumer).2 := by
  refine transact_state (motive := Change c call) .unchanged fun plan planned => ?_
  simp only [enterPlan, bind_eq_ok, require_eq_ok, pure_eq_ok, Prod.exists] at planned
  obtain ⟨j, g, leased, -, unentered, -, -, rfl⟩ := planned
  obtain ⟨lease, -, -, held, state⟩ := executionLease_spec leased
  have running : g.state = .running := by simpa using state
  dsimp only
  cases nativeRequest g with
  | error failure => exact .refusedEntry j g held running unentered
  | ok request => exact .entered j g held running unentered

theorem leave_change (outcome : Outcome) :
    Change c call (c.leaveExecution outcome).2 := by
  unfold leaveExecution
  cases frames : c.frames with
  | nil => exact .unchanged
  | cons i rest =>
    cases held : c.grants[i]? with
    | none =>
      simp only [held]
      exact .unchanged
    | some grant =>
      simp only [held]
      cases answer : c.consumerResult grant outcome with
      | error failure => exact .failed i rest grant held frames
      | ok pair =>
        obtain ⟨result, id⟩ := pair
        refine .returned i rest grant result id held frames ?_
        cases outcome with
        | raised err => cases answer
        | returned values =>
          simp only [consumerResult, bind_eq_ok, pure_eq_ok, Prod.mk.injEq] at answer
          obtain ⟨-, -, -, -, detached, -, -, -, id', identified, rfl, rfl⟩ := answer
          exact identified

theorem commit_change (place : Nat) (supplied : Value) :
    Change c (.commit place supplied) (c.commit place supplied).2 := by
  refine transact_state (motive := Change c (.commit place supplied)) .unchanged
    fun found leased => ?_
  obtain ⟨i, grant⟩ := found
  obtain ⟨lease, found, rfl, held, -⟩ := executionLease_spec leased
  dsimp only
  cases paid : grant.executionReceipt with
  | some receipt => exact .unchanged
  | none =>
    exact transact_state (motive := Change c (.commit place supplied)) .unchanged
      fun plan planned => .committed place supplied lease grant plan rfl found held paid planned

theorem quarantine_change (place : Nat) (reason : Value) :
    Change c call (c.quarantine place reason).2 := by
  refine transact_state (motive := Change c call) .unchanged fun plan planned => ?_
  simp only [quarantinePlan, bind_eq_ok, require_eq_ok, pure_eq_ok, Prod.exists] at planned
  obtain ⟨j, g, leased, written, -, -, open_, rfl⟩ := planned
  obtain ⟨lease, -, -, held, state⟩ := executionLease_spec leased
  dsimp only
  by_cases ended : g.state = .quarantined
  · simp only [ended, if_true]
    exact .unchanged
  · simp only [ended, if_false]
    refine .quarantined j g written held ?_
    rcases state with running | ⟨-, terminal⟩
    · exact running
    · cases at_ : g.state <;> simp_all [GrantState.isTerminal]

theorem step_change : Change c call (c.step call).2 := by
  cases call with
  | mint inst request requestRef facts => exact mint_change c _ inst request requestRef facts
  | beginExecution requestId requestRef measured =>
    exact begin_change c _ requestId requestRef measured
  | enter lease consumer => exact enter_change c _ lease consumer
  | leave outcome => exact leave_change c _ outcome
  | commit lease result => exact commit_change c lease result
  | quarantine lease reason => exact quarantine_change c _ lease reason

end

end

/-! ## The invariant -/

structure GrantSound (c : Capability) (i : Nat) (g : Grant) : Prop where
  unentered : g.executionEntered = false →
    i ∉ entriesOf c.log ∧ i ∉ c.frames ∧ g.pendingResult = none
  active : g.state = .active → g.executionEntered = false
  framed : i ∈ c.frames →
    g.pendingResult = none ∧ (g.state = .running ∨ g.state = .quarantined)
  returned : ∀ v, c.Returned i v → g.pendingResult.isSome = true ∧
    ∃ id, g.pendingResultId = some id ∧ Digest.identify "qa-provider-result:" v = .ok id
  pending : g.executionReceipt = none → ∀ p, g.pendingResult = some p → c.Returned i p
  unpaid : g.state.isTerminal = false → g.executionReceipt = none
  paid : ∀ r, g.executionReceipt = some r →
    (∃ v, c.Returned i v) ∧ ∃ k, c.receipts g.requestId = some k ∧ k.receipt = r

structure Sound (c : Capability) : Prop where
  indexed : ∀ id i, c.byRequest id = some i ↔ ∃ g, c.grants[i]? = some g ∧ g.requestId = id
  grants : ∀ i g, c.grants[i]? = some g → GrantSound c i g
  bounded : ∀ i, c.grants[i]? = none →
    i ∉ entriesOf c.log ∧ i ∉ c.frames ∧ ∀ v, ¬ c.Returned i v
  leased : ∀ l ∈ c.leases, ∃ g, c.grants[l.grant]? = some g ∧ g.state ≠ .active
  oneLease : (c.leases.map Lease.grant).Nodup
  oneEntry : (entriesOf c.log).Nodup
  oneFrame : c.frames.Nodup
  receipted : ∀ id k, c.receipts id = some k →
    ∃ g, c.grants[k.grant]? = some g ∧ g.requestId = id ∧ g.executionReceipt = some k.receipt
  numbered : Counter.Sound c.book

theorem new_sound (sessionId : Bytes) (self environmentRegistry repositoryRegistry : Value) :
    Sound (new sessionId self environmentRegistry repositoryRegistry) where
  indexed := by simp [new]
  grants := by simp [new]
  bounded := by simp [new, entriesOf, Returned]
  leased := by simp [new]
  oneLease := by simp [new]
  oneEntry := by simp [new, entriesOf]
  oneFrame := by simp [new]
  receipted := by simp [new]
  numbered := by constructor <;> simp [new, book, bears, revisionsOf]

variable {g : Grant}

theorem GrantSound.transfer {c c' : Capability} (sound : GrantSound c i g)
    (entries : i ∈ entriesOf c'.log → i ∈ entriesOf c.log)
    (frames : i ∈ c'.frames → i ∈ c.frames)
    (results : ∀ v, c'.Returned i v ↔ c.Returned i v)
    (receipts : c'.receipts g.requestId = c.receipts g.requestId) : GrantSound c' i g where
  unentered := by
    intro no
    obtain ⟨unlogged, unframed, none⟩ := sound.unentered no
    exact ⟨fun member => unlogged (entries member), fun member => unframed (frames member), none⟩
  active := sound.active
  framed := fun member => sound.framed (frames member)
  returned := fun v here => sound.returned v ((results v).mp here)
  pending := fun none p here => (results p).mpr (sound.pending none p here)
  unpaid := sound.unpaid
  paid := by
    intro r here
    obtain ⟨⟨v, result⟩, k, found, same⟩ := sound.paid r here
    exact ⟨⟨v, (results v).mpr result⟩, k, receipts.trans found, same⟩

structure Touch (c c' : Capability) (i : Nat) (g g' : Grant) : Prop where
  held : c.grants[i]? = some g
  grants : c'.grants = c.grants.set i g'
  index : c'.byRequest = c.byRequest
  named : g'.requestId = g.requestId
  begun : g.state ≠ .active → g'.state ≠ .active
  leases : c'.leases = c.leases ∨
    g.state = .active ∧ g'.state ≠ .active ∧ ∃ revision, c'.leases = c.leases ++ [⟨i, revision⟩]
  entries : entriesOf c'.log = entriesOf c.log ∨
    g.executionEntered = false ∧ entriesOf c'.log = entriesOf c.log ++ [i]
  frames : c'.frames = c.frames ∨ (g.executionEntered = false ∧ c'.frames = i :: c.frames) ∨
    c.frames = i :: c'.frames
  results : ∀ j, j ≠ i → ∀ v, c'.Returned j v ↔ c.Returned j v
  receipts : (c'.receipts = c.receipts ∧ g'.executionReceipt = g.executionReceipt) ∨
    ∃ k : Committed, k.grant = i ∧ g'.executionReceipt = some k.receipt ∧
      c'.receipts = Function.update c.receipts g.requestId (some k)
  revisions : (revisionsOf c'.log = revisionsOf c.log ∧ c'.nextRevision = c.nextRevision ∧
      g'.revision = g.revision ∧ g'.state = g.state) ∨
    (revisionsOf c'.log = revisionsOf c.log ++ [c.nextRevision] ∧
      c'.nextRevision = c.nextRevision + 1 ∧ g'.revision = c.nextRevision)
  after : GrantSound c' i g'

variable {id : Bytes} {j : Nat}

section Touch

variable {c' : Capability} {g' : Grant}

theorem Sound.oneGrant (sound : Sound c) {i j : Nat} {g h : Grant} (left : c.grants[i]? = some g)
    (right : c.grants[j]? = some h) (named : g.requestId = h.requestId) : i = j := by
  have first := (sound.indexed h.requestId i).mpr ⟨g, left, named⟩
  have second := (sound.indexed h.requestId j).mpr ⟨h, right, rfl⟩
  rw [first, Option.some.injEq] at second
  exact second

variable (touch : Touch c c' i g g')
include touch

theorem Touch.here : c'.grants[i]? = some g' := by
  have inside : i < c.grants.length := (List.getElem?_eq_some_iff.mp touch.held).1
  rw [touch.grants, List.getElem?_set_self inside]

theorem Touch.elsewhere (other : j ≠ i) : c'.grants[j]? = c.grants[j]? := by
  rw [touch.grants, List.getElem?_set_ne other.symm]

theorem Touch.book : Counter.Steps c.book c'.book := by
  have bears : c'.bears = update c.bears i (some (g'.revision, g'.state)) := by
    funext j
    by_cases here : j = i
    · subst here
      rw [update_self, Capability.bears, touch.here]
      rfl
    · rw [update_of_ne here, Capability.bears, touch.elsewhere here]
      rfl
  rcases touch.revisions with ⟨same, next, revision, state⟩ | ⟨grown, next, revision⟩
  · have kept : c'.bears = c.bears := by
      rw [bears, revision, state, update_eq_self_iff, Capability.bears, touch.held]
      rfl
    unfold Capability.book
    rw [same, next, kept]
  · unfold Capability.book
    rw [grown, next, bears, revision, reverse_append]
    exact .single (.taken _ _)

variable (sound : Sound c)
include sound

theorem Touch.other {h : Grant} (other : j ≠ i) (held : c.grants[j]? = some h) :
    GrantSound c' j h := by
  apply (sound.grants j h held).transfer
  · intro member
    rcases touch.entries with same | ⟨-, grown⟩
    · exact same ▸ member
    · rw [grown, mem_append, mem_singleton] at member
      exact member.resolve_right other
  · intro member
    rcases touch.frames with same | ⟨-, pushed⟩ | popped
    · exact same ▸ member
    · rw [pushed, mem_cons] at member
      exact member.resolve_left other
    · rw [popped]
      exact mem_cons_of_mem i member
  · exact touch.results j other
  · rcases touch.receipts with ⟨same, -⟩ | ⟨k, -, -, updated⟩
    · rw [same]
    · have different : h.requestId ≠ g.requestId :=
        fun named => other (sound.oneGrant held touch.held named)
      rw [updated, update_of_ne different]

theorem Touch.sound_indexed (id : Bytes) (j : Nat) :
    c'.byRequest id = some j ↔ ∃ h, c'.grants[j]? = some h ∧ h.requestId = id := by
  rw [touch.index, sound.indexed]
  by_cases here : j = i
  · subst here
    rw [touch.here, touch.held]
    simp [touch.named]
  · rw [touch.elsewhere here]

theorem Touch.sound_leased :
    ∀ l ∈ c'.leases, ∃ h, c'.grants[l.grant]? = some h ∧ h.state ≠ .active := by
  have kept : ∀ l ∈ c.leases, ∃ h, c'.grants[l.grant]? = some h ∧ h.state ≠ .active := by
    intro l member
    obtain ⟨h, held, started⟩ := sound.leased l member
    by_cases here : l.grant = i
    · rw [here, touch.held, Option.some.injEq] at held
      rw [here]
      exact ⟨g', touch.here, touch.begun (held ▸ started)⟩
    · exact ⟨h, (touch.elsewhere here).trans held, started⟩
  intro l member
  rcases touch.leases with same | ⟨-, started, revision, grown⟩
  · exact kept l (same ▸ member)
  · rw [grown, mem_append, mem_singleton] at member
    rcases member with old | new
    · exact kept l old
    · rw [new]
      exact ⟨g', touch.here, started⟩

theorem Touch.sound_oneLease : (c'.leases.map Lease.grant).Nodup := by
  rcases touch.leases with same | ⟨active, -, revision, grown⟩
  · rw [same]
    exact sound.oneLease
  · rw [grown]
    apply Dictionary.nodup_append_fresh Lease.grant sound.oneLease
    intro l member named
    -- the grant of an issued lease is not active any more
    obtain ⟨h, held, started⟩ := sound.leased l member
    rw [named, touch.held, Option.some.injEq] at held
    exact started (held ▸ active)

theorem Touch.sound_oneEntry : (entriesOf c'.log).Nodup := by
  rcases touch.entries with same | ⟨unentered, grown⟩
  · rw [same]
    exact sound.oneEntry
  · have absent := ((sound.grants i g touch.held).unentered unentered).1
    rw [grown, nodup_append]
    refine ⟨sound.oneEntry, by simp, ?_⟩
    intro j member k here same
    rw [mem_singleton] at here
    exact absent (here ▸ same ▸ member)

theorem Touch.sound_oneFrame : c'.frames.Nodup := by
  rcases touch.frames with same | ⟨unentered, pushed⟩ | popped
  · rw [same]
    exact sound.oneFrame
  · rw [pushed, nodup_cons]
    exact ⟨((sound.grants i g touch.held).unentered unentered).2.1, sound.oneFrame⟩
  · have distinct := sound.oneFrame
    rw [popped, nodup_cons] at distinct
    exact distinct.2

theorem Touch.sound_bounded (absent : c'.grants[j]? = none) :
    j ∉ entriesOf c'.log ∧ j ∉ c'.frames ∧ ∀ v, ¬ c'.Returned j v := by
  have other : j ≠ i := by
    intro here
    rw [here, touch.here] at absent
    cases absent
  rw [touch.elsewhere other] at absent
  obtain ⟨unlogged, unframed, unreturned⟩ := sound.bounded j absent
  refine ⟨?_, ?_, fun v here => unreturned v ((touch.results j other v).mp here)⟩
  · rcases touch.entries with same | ⟨-, grown⟩
    · rw [same]
      exact unlogged
    · rw [grown, mem_append, mem_singleton]
      exact fun member => member.elim unlogged other
  · rcases touch.frames with same | ⟨-, pushed⟩ | popped
    · rw [same]
      exact unframed
    · rw [pushed, mem_cons]
      exact fun member => member.elim other unframed
    · rw [popped] at unframed
      exact fun member => unframed (mem_cons_of_mem i member)

theorem Touch.sound_receipted {k : Committed} (found : c'.receipts id = some k) :
    ∃ h, c'.grants[k.grant]? = some h ∧ h.requestId = id ∧
      h.executionReceipt = some k.receipt := by
  have kept : ∀ id k, c.receipts id = some k → k.grant ≠ i →
      ∃ h, c'.grants[k.grant]? = some h ∧ h.requestId = id ∧
        h.executionReceipt = some k.receipt := by
    intro id k found other
    rw [touch.elsewhere other]
    exact sound.receipted id k found
  rcases touch.receipts with ⟨same, receipt⟩ | ⟨new, place, receipt, updated⟩
  · rw [same] at found
    by_cases here : k.grant = i
    · obtain ⟨h, held, named, paid⟩ := sound.receipted id k found
      rw [here, touch.held, Option.some.injEq] at held
      rw [here]
      exact ⟨g', touch.here, by rw [touch.named, held, named], by rw [receipt, held, paid]⟩
    · exact kept id k found here
  · rw [updated] at found
    by_cases mine : id = g.requestId
    · rw [mine, update_self, Option.some.injEq] at found
      rw [← found, place, mine]
      exact ⟨g', touch.here, touch.named, receipt⟩
    · rw [update_of_ne mine] at found
      apply kept id k found
      intro here
      obtain ⟨h, held, named, -⟩ := sound.receipted id k found
      rw [here, touch.held, Option.some.injEq] at held
      exact mine (by rw [held, named])

end Touch

theorem Touch.sound {c c' : Capability} {g g' : Grant} (touch : Touch c c' i g g')
    (sound : Sound c) : Sound c' where
  indexed := touch.sound_indexed sound
  grants := by
    intro j h held
    by_cases here : j = i
    · subst here
      rw [touch.here, Option.some.injEq] at held
      exact held ▸ touch.after
    · exact touch.other sound here ((touch.elsewhere here).symm.trans held)
  bounded := fun _ absent => touch.sound_bounded sound absent
  leased := touch.sound_leased sound
  oneLease := touch.sound_oneLease sound
  oneEntry := touch.sound_oneEntry sound
  oneFrame := touch.sound_oneFrame sound
  receipted := fun _ _ found => touch.sound_receipted sound found
  numbered := (touch.book.sound sound.numbered).1

/-! ## Every change keeps the invariant -/

theorem moveGrant_log (c : Capability) (i : Nat) (g : Grant) (state : GrantState) :
    (c.moveGrant i g state).log = c.log ++ [.revised c.nextRevision] := rfl

theorem moveGrant_returned (c : Capability) (i : Nat) (g : Grant) (state : GrantState) (j : Nat)
    (v : Value) : (c.moveGrant i g state).Returned j v ↔ c.Returned j v := by
  simp [Returned, moveGrant_log]

theorem minted_book (c : Capability) (grant : Grant) (revision : grant.revision = c.nextRevision) :
    Counter.Step c.book (c.addGrant grant).book := by
  have bears : (c.addGrant grant).bears
      = update c.bears c.grants.length (some (c.nextRevision, grant.state)) := by
    funext j
    show ((c.grants ++ [grant])[j]?).map _ = _
    by_cases here : j = c.grants.length
    · subst here
      simp [revision]
    · rw [update_of_ne here, getElem?_append]
      split
      · rfl
      · rename_i beyond
        have past : c.grants.length < j := by omega
        simp [bears, Nat.le_of_lt past, Nat.sub_ne_zero_of_lt past]
  have logged : revisionsOf (c.addGrant grant).log = revisionsOf c.log ++ [c.nextRevision] := by
    simp [addGrant, advance, note, revisionsOf]
  unfold book
  rw [bears, logged, reverse_append]
  exact .taken _ _

theorem minted_sound (sound : Sound c) (blank : Blank grant)
    (revision : grant.revision = c.nextRevision)
    (fresh : c.grantFor (.str grant.requestId) = none) : Sound (c.addGrant grant) := by
  have unnamed : c.byRequest grant.requestId = none := by
    cases found : c.byRequest grant.requestId with
    | none => rfl
    | some i =>
      obtain ⟨h, held, -⟩ := (sound.indexed grant.requestId i).mp found
      simp [grantFor, found, held] at fresh
  have old : ∀ (i : Nat) (g : Grant), c.grants[i]? = some g → (c.addGrant grant).grants[i]? = some g := by
    intro i g held
    have inside := (List.getElem?_eq_some_iff.mp held).1
    exact (List.getElem?_append_left inside).trans held
  have new : (c.addGrant grant).grants[c.grants.length]? = some grant := by
    simp [addGrant, advance, note]
  have cases_ : ∀ (i : Nat) (g : Grant), (c.addGrant grant).grants[i]? = some g →
      c.grants[i]? = some g ∨ i = c.grants.length ∧ g = grant := by
    intro i g held
    by_cases inside : i < c.grants.length
    · left
      rw [← held]
      exact (List.getElem?_append_left inside).symm
    · have total := (List.getElem?_eq_some_iff.mp held).1
      simp only [addGrant, length_append, length_singleton] at total
      have here : i = c.grants.length := by omega
      rw [here, new, Option.some.injEq] at held
      exact Or.inr ⟨here, held.symm⟩
  have entries : entriesOf (c.addGrant grant).log = entriesOf c.log := by
    simp [addGrant, advance, note, entriesOf]
  have results : ∀ i v, (c.addGrant grant).Returned i v ↔ c.Returned i v := by
    intro i v
    simp [Returned, addGrant, advance, note]
  have outside := sound.bounded c.grants.length (by simp)
  refine
    { indexed := ?_, grants := ?_, bounded := ?_, leased := ?_, oneLease := sound.oneLease
      oneEntry := by rw [entries]; exact sound.oneEntry, oneFrame := sound.oneFrame
      receipted := ?_, numbered := (minted_book c grant revision).sound sound.numbered }
  · intro id i
    by_cases mine : id = grant.requestId
    · subst mine
      simp only [addGrant, update_self, Option.some.injEq]
      constructor
      · intro here
        subst here
        exact ⟨grant, new, rfl⟩
      · rintro ⟨g, held, named⟩
        rcases cases_ i g held with before | ⟨here, -⟩
        · have found := (sound.indexed grant.requestId i).mpr ⟨g, before, named⟩
          rw [unnamed] at found
          cases found
        · exact here.symm
    · simp only [addGrant, update_of_ne mine]
      rw [sound.indexed]
      constructor
      · rintro ⟨g, held, named⟩
        exact ⟨g, old i g held, named⟩
      · rintro ⟨g, held, named⟩
        rcases cases_ i g held with before | ⟨-, here⟩
        · exact ⟨g, before, named⟩
        · exact absurd (by rw [← named, here]) mine
  · intro i g held
    rcases cases_ i g held with before | ⟨here, made⟩
    · exact (sound.grants i g before).transfer (fun member => entries ▸ member)
        (fun member => member) (results i) rfl
    · subst here
      subst made
      refine ⟨fun _ => ⟨entries ▸ outside.1, outside.2.1, blank.pending⟩,
        fun _ => blank.unentered, fun member => absurd member outside.2.1, ?_, ?_,
        fun _ => blank.unpaid, ?_⟩
      · exact fun v here => absurd ((results _ v).mp here) (outside.2.2 v)
      · intro _ p here
        rw [blank.pending] at here
        cases here
      · intro r here
        rw [blank.unpaid] at here
        cases here
  · intro i absent
    have beyond : c.grants[i]? = none := by
      cases held : c.grants[i]? with
      | none => rfl
      | some g =>
        rw [old i g held] at absent
        cases absent
    obtain ⟨unlogged, unframed, unreturned⟩ := sound.bounded i beyond
    exact ⟨entries ▸ unlogged, unframed, fun v here => unreturned v ((results i v).mp here)⟩
  · intro l member
    obtain ⟨g, held, started⟩ := sound.leased l member
    exact ⟨g, old _ g held, started⟩
  · intro id k found
    obtain ⟨g, held, named, paid⟩ := sound.receipted id k found
    exact ⟨g, old _ g held, named, paid⟩

section Changes

theorem newReceipt_spec {supplied : Value} {plan : CommitPlan}
    (planned : newReceipt i g supplied = .ok plan) :
    ∃ pending, g.pendingResult = some pending ∧ plan.place = i ∧ plan.grant = g ∧
      g.state = .running ∧ g.executionEntered = true ∧ same supplied pending = true ∧
      plan.disposition.isTerminal = true := by
  unfold newReceipt at planned
  split at planned
  · rename_i pending resultId given _
    simp only [bind_eq_ok, require_eq_ok, pure_eq_ok] at planned
    obtain ⟨-, ready, -, equal, normalized, -, -, -, source, -, id, -, rfl⟩ := planned
    refine ⟨pending, given, rfl, rfl, ready.1, ready.2, equal, ?_⟩
    simp only [dispositionOf]
    split
    · rfl
    · split <;> rfl
  · cases planned

theorem keepReceipt_returned (c : Capability) (plan : CommitPlan) (j : Nat) (v : Value) :
    (c.keepReceipt plan).Returned j v ↔ c.Returned j v := moveGrant_returned c _ _ _ j v

variable (sound : Sound c) (held : c.grants[i]? = some g)
include sound held

theorem began_touch (active : g.state = .active) (transaction witness : Value) :
    Touch c (c.startGrant i { g with
        physicalTransactionId := transaction, physicalWitnessId := witness }) i g
      { g with
        physicalTransactionId := transaction, physicalWitnessId := witness
        state := .running, revision := c.nextRevision } where
  held := held
  grants := rfl
  index := rfl
  named := rfl
  begun := fun _ => by simp
  leases := Or.inr ⟨active, by simp, c.nextRevision, rfl⟩
  entries := Or.inl (by simp [startGrant, moveGrant_log, entriesOf])
  frames := Or.inl rfl
  results := fun j _ v => moveGrant_returned c i _ _ j v
  receipts := Or.inl ⟨rfl, rfl⟩
  revisions := Or.inr ⟨by simp [startGrant, moveGrant_log, revisionsOf], rfl, rfl⟩
  after := by
    have before := sound.grants i g held
    have unentered := before.active active
    have unpaid := before.unpaid (by rw [active]; rfl)
    obtain ⟨unlogged, unframed, none⟩ := before.unentered unentered
    have noResult : ∀ v, ¬ c.Returned i v := by
      intro v here
      have some := (before.returned v here).1
      rw [none] at some
      cases some
    refine ⟨?_, ?_, ?_, ?_, ?_, fun _ => unpaid, ?_⟩
    · intro _
      exact ⟨by simpa [startGrant, moveGrant_log, entriesOf] using unlogged, unframed, none⟩
    · intro running
      cases running
    · exact fun member => absurd member unframed
    · exact fun v here => absurd ((moveGrant_returned c i _ _ i v).mp here) (noResult v)
    · intro _ p here
      rw [none] at here
      cases here
    · intro r here
      rw [unpaid] at here
      cases here

theorem entry_unreturned (unentered : g.executionEntered = false) (v : Value) :
    ¬ c.Returned i v := by
  intro here
  have before := sound.grants i g held
  have some := (before.returned v here).1
  rw [(before.unentered unentered).2.2] at some
  cases some

theorem refusedEntry_touch (running : g.state = .running) :
    Touch c (c.enter i g) i g { g with executionEntered := true } where
  held := held
  grants := rfl
  index := rfl
  named := rfl
  begun := fun started => started
  leases := Or.inl rfl
  entries := Or.inl rfl
  frames := Or.inl rfl
  results := fun _ _ _ => Iff.rfl
  receipts := Or.inl ⟨rfl, rfl⟩
  revisions := Or.inl ⟨rfl, rfl, rfl, rfl⟩
  after := by
    have before := sound.grants i g held
    refine ⟨?_, ?_, before.framed, before.returned, before.pending, before.unpaid, before.paid⟩
    · intro no
      cases no
    · intro active
      rw [running] at active
      cases active

theorem entered_touch (running : g.state = .running) (unentered : g.executionEntered = false) :
    Touch c (({ c.enter i g with frames := i :: c.frames }).note (.entered i)) i g
      { g with executionEntered := true } where
  held := held
  grants := rfl
  index := rfl
  named := rfl
  begun := fun started => started
  leases := Or.inl rfl
  entries := Or.inr ⟨unentered, by simp [note, enter, setGrant, entriesOf]⟩
  frames := Or.inr (Or.inl ⟨unentered, rfl⟩)
  results := fun j _ v => by simp [Returned, note, enter, setGrant]
  receipts := Or.inl ⟨rfl, rfl⟩
  revisions := Or.inl ⟨by simp [note, enter, setGrant, revisionsOf], rfl, rfl, rfl⟩
  after := by
    have before := sound.grants i g held
    obtain ⟨-, -, none⟩ := before.unentered unentered
    have noResult : ∀ v, ¬ Returned (({ c.enter i g with frames := i :: c.frames }).note
        (.entered i)) i v := by
      intro v here
      exact entry_unreturned sound held unentered v
        (by simpa [Returned, note, enter, setGrant] using here)
    have unpaid := before.unpaid (by rw [running]; rfl)
    refine ⟨?_, ?_, fun _ => ⟨none, Or.inl running⟩, fun v here => absurd here (noResult v), ?_,
      before.unpaid, ?_⟩
    · intro no
      cases no
    · intro active
      rw [running] at active
      cases active
    · intro _ p here
      rw [none] at here
      cases here
    · intro r here
      rw [unpaid] at here
      cases here

theorem framed_blank (member : i ∈ c.frames) :
    g.pendingResult = none ∧ g.executionReceipt = none ∧ g.executionEntered = true ∧
      (g.state = .running ∨ g.state = .quarantined) ∧ ∀ v, ¬ c.Returned i v := by
  have before := sound.grants i g held
  obtain ⟨none, state⟩ := before.framed member
  have noResult : ∀ v, ¬ c.Returned i v := by
    intro v here
    have some := (before.returned v here).1
    rw [none] at some
    cases some
  refine ⟨none, ?_, ?_, state, noResult⟩
  · cases paid : g.executionReceipt with
    | none => rfl
    | some r =>
      obtain ⟨⟨v, here⟩, -⟩ := before.paid r paid
      exact absurd here (noResult v)
  · cases entered : g.executionEntered with
    | true => rfl
    | false => exact absurd member (before.unentered entered).2.1

theorem failed_touch {rest : List Nat} (framed : c.frames = i :: rest) :
    Touch c (({ c with frames := rest }).moveGrant i g .quarantined) i g
      { g with state := .quarantined, revision := c.nextRevision } where
  held := held
  grants := rfl
  index := rfl
  named := rfl
  begun := fun _ => by simp
  leases := Or.inl rfl
  entries := Or.inl (by simp [moveGrant_log, entriesOf])
  frames := Or.inr (Or.inr framed)
  results := fun j _ v => by simp [Returned, moveGrant_log]
  receipts := Or.inl ⟨rfl, rfl⟩
  revisions := Or.inr ⟨by simp [moveGrant_log, revisionsOf], rfl, rfl⟩
  after := by
    have member : i ∈ c.frames := by simp [framed]
    obtain ⟨none, unpaid, entered, -, noResult⟩ := framed_blank sound held member
    have noLater : ∀ v, ¬ (({ c with frames := rest }).moveGrant i g .quarantined).Returned i v :=
      fun v here => noResult v (by simpa [Returned, moveGrant_log] using here)
    have popped := sound.oneFrame
    rw [framed, nodup_cons] at popped
    refine ⟨?_, ?_, fun again => absurd again popped.1, fun v here => absurd here (noLater v), ?_,
      ?_, ?_⟩
    · intro no
      rw [entered] at no
      cases no
    · intro active
      cases active
    · intro _ p here
      rw [none] at here
      cases here
    · intro _
      exact unpaid
    · intro r here
      rw [unpaid] at here
      cases here

theorem quarantined_touch (running : g.state = .running) (reason : Bytes) :
    Touch c (c.moveGrant i { g with quarantineReason := some reason } .quarantined) i g
      { g with
        quarantineReason := some reason, state := .quarantined, revision := c.nextRevision } where
  held := held
  grants := rfl
  index := rfl
  named := rfl
  begun := fun _ => by simp
  leases := Or.inl rfl
  entries := Or.inl (by simp [moveGrant_log, entriesOf])
  frames := Or.inl rfl
  results := fun j _ v => moveGrant_returned c i _ _ j v
  receipts := Or.inl ⟨rfl, rfl⟩
  revisions := Or.inr ⟨by simp [moveGrant_log, revisionsOf], rfl, rfl⟩
  after := by
    have before := sound.grants i g held
    have unpaid := before.unpaid (by rw [running]; rfl)
    have entries : entriesOf (c.moveGrant i { g with quarantineReason := some reason }
        .quarantined).log = entriesOf c.log := by simp [moveGrant_log, entriesOf]
    refine ⟨?_, ?_, ?_, ?_, ?_, fun _ => unpaid, ?_⟩
    · intro no
      obtain ⟨unlogged, unframed, none⟩ := before.unentered no
      exact ⟨entries ▸ unlogged, unframed, none⟩
    · intro active
      cases active
    · exact fun member => ⟨(before.framed member).1, Or.inr rfl⟩
    · exact fun v here => before.returned v ((moveGrant_returned c i _ _ i v).mp here)
    · exact fun none p here => (moveGrant_returned c i _ _ i p).mpr (before.pending none p here)
    · intro r here
      rw [unpaid] at here
      cases here

theorem returned_touch {rest : List Nat} (framed : c.frames = i :: rest) (result : Value)
    (id : Bytes) (identified : Digest.identify "qa-provider-result:" result = .ok id) :
    Touch c (({ c with frames := rest }).keepResult i g result id) i g
      { g with pendingResult := some result.deepCopy, pendingResultId := some id } where
  held := held
  grants := rfl
  index := rfl
  named := rfl
  begun := fun started => started
  leases := Or.inl rfl
  entries := Or.inl (by simp [keepResult, note, setGrant, entriesOf])
  frames := Or.inr (Or.inr framed)
  results := by
    intro j other v
    simp [Returned, keepResult, note, setGrant, other]
  receipts := Or.inl ⟨rfl, rfl⟩
  revisions := Or.inl ⟨by simp [keepResult, note, setGrant, revisionsOf], rfl, rfl, rfl⟩
  after := by
    have member : i ∈ c.frames := by simp [framed]
    obtain ⟨none, unpaid, entered, state, noResult⟩ := framed_blank sound held member
    have only : ∀ v, (({ c with frames := rest }).keepResult i g result id).Returned i v ↔
        v = result.deepCopy := by
      intro v
      constructor
      · intro here
        have cases_ : c.Returned i v ∨ v = result.deepCopy := by
          simpa [Returned, keepResult, note, setGrant] using here
        exact cases_.resolve_left (noResult v)
      · intro here
        simp [Returned, keepResult, note, setGrant, here]
    have popped := sound.oneFrame
    rw [framed, nodup_cons] at popped
    refine ⟨?_, ?_, fun again => absurd again popped.1, ?_, ?_, ?_, ?_⟩
    · intro no
      rw [entered] at no
      cases no
    · intro active
      rcases state with running | ended
      · rw [running] at active
        cases active
      · rw [ended] at active
        cases active
    · intro v here
      rw [(only v).mp here, Digest.identify_deepCopy]
      exact ⟨rfl, id, rfl, identified⟩
    · intro _ p here
      injection here with here
      exact (only p).mpr here.symm
    · intro _
      exact unpaid
    · intro r here
      rw [unpaid] at here
      cases here

theorem committed_touch (unpaid : g.executionReceipt = none) {supplied : Value} {plan : CommitPlan}
    (planned : newReceipt i g supplied = .ok plan) : Touch c (c.keepReceipt plan) i g
      { g with
        pendingResult := some plan.result.deepCopy
        executionReceipt := some plan.receipt.deepCopy
        state := plan.disposition
        revision := c.nextRevision } := by
  obtain ⟨pending, given, place, grant, running, entered, -, terminal⟩ := newReceipt_spec planned
  have before := sound.grants i g held
  have result := before.pending unpaid pending given
  have unframed : i ∉ c.frames := by
    intro member
    have none := (before.framed member).1
    rw [given] at none
    cases none
  have started : plan.disposition ≠ .active := by
    intro active
    rw [active] at terminal
    cases terminal
  have kept : (c.keepReceipt plan).receipts =
      Function.update c.receipts g.requestId (some (committedOf plan)) := by
    simp only [keepReceipt, grant]
  refine
    { held := held, grants := ?_, index := rfl, named := rfl, begun := fun _ => started
      leases := Or.inl rfl, entries := Or.inl ?_, frames := Or.inl rfl
      results := fun j _ v => keepReceipt_returned c plan j v
      receipts := Or.inr ⟨committedOf plan, place, rfl, kept⟩, revisions := Or.inr ⟨?_, rfl, rfl⟩
      after := ?_ }
  · simp only [keepReceipt, moveGrant, advance, note, setGrant, place, grant]
  · simp [keepReceipt, moveGrant_log, entriesOf]
  · simp [keepReceipt, moveGrant_log, revisionsOf]
  · refine ⟨?_, fun active => absurd active started, fun member => absurd member unframed, ?_, ?_,
      ?_, ?_⟩
    · intro no
      simp only [entered] at no
      cases no
    · intro v here
      exact ⟨rfl, (before.returned v ((keepReceipt_returned c plan i v).mp here)).2⟩
    · intro none
      cases none
    · intro open_
      simp only [terminal] at open_
      cases open_
    · intro r here
      injection here with here
      refine ⟨⟨pending, (keepReceipt_returned c plan i pending).mpr result⟩, committedOf plan, ?_,
        here⟩
      rw [kept, update_self]

end Changes

/-! ## Progress -/

inductive Moves : GrantState → GrantState → Prop where
  | stay (state : GrantState) : Moves state state
  | start : Moves .active .running
  | finish (state : GrantState) (terminal : state.isTerminal = true) : Moves .running state

theorem Moves.begun {a b : GrantState} (moves : Moves a b) (started : a ≠ .active) :
    b ≠ .active := by
  cases moves with
  | stay => exact started
  | start => exact absurd rfl started
  | finish _ terminal =>
    intro active
    rw [active] at terminal
    cases terminal

theorem Moves.ended {a b : GrantState} (moves : Moves a b) (terminal : a.isTerminal = true) :
    b = a := by
  cases moves with
  | stay => rfl
  | start => cases terminal
  | finish => cases terminal

def IsResult (c : Capability) (i : Nat) (v : Value) : Prop :=
  ∃ p, c.Returned i p ∧ same v p = true

structure Progress (c : Capability) (call : Call) (i : Nat) (g g' : Grant) : Prop where
  named : g'.requestId = g.requestId
  moved : Moves g.state g'.state
  kept : ∀ r, g.executionReceipt = some r → g'.executionReceipt = some r
  created : ∀ r, g.executionReceipt = none → g'.executionReceipt = some r →
    g.state = .running ∧ ∃ place supplied lease, call = .commit place supplied ∧
      c.leases[place]? = some lease ∧ lease.grant = i ∧ c.IsResult i supplied

section Progress

variable {call : Call}

theorem Progress.refl (c : Capability) (call : Call) (i : Nat) (g : Grant) :
    Progress c call i g g where
  named := rfl
  moved := .stay _
  kept := fun _ here => here
  created := by
    intro r none some
    rw [none] at some
    cases some

theorem Progress.of_receipt {g' : Grant} (named : g'.requestId = g.requestId)
    (moved : Moves g.state g'.state) (receipt : g'.executionReceipt = g.executionReceipt) :
    Progress c call i g g' where
  named := named
  moved := moved
  kept := fun _ here => receipt.trans here
  created := by
    intro r none some
    rw [receipt, none] at some
    cases some

theorem Touch.progress {c' : Capability} {h : Grant} {g' : Grant}
    (touch : Touch c c' i g g') (progress : Progress c call i g g')
    (held : c.grants[j]? = some h) :
    ∃ h', c'.grants[j]? = some h' ∧ Progress c call j h h' := by
  by_cases here : j = i
  · subst here
    rw [touch.held, Option.some.injEq] at held
    exact ⟨g', touch.here, held ▸ progress⟩
  · exact ⟨h, (touch.elsewhere here).trans held, .refl c call j h⟩

theorem Change.sound {c' : Capability} (change : Change c call c') (sound : Sound c) :
    Sound c' ∧ Counter.Steps c.book c'.book ∧ ∀ (j : Nat) (h : Grant), c.grants[j]? = some h →
      ∃ h', c'.grants[j]? = some h' ∧ Progress c call j h h' := by
  cases change with
  | unchanged => exact ⟨sound, .refl, fun j h held => ⟨h, held, .refl c call j h⟩⟩
  | minted grant blank revision fresh =>
    refine ⟨minted_sound sound blank revision fresh, .single (minted_book c grant revision), ?_⟩
    intro j h held
    have inside := (List.getElem?_eq_some_iff.mp held).1
    exact ⟨h, (List.getElem?_append_left inside).trans held, .refl c call j h⟩
  | began i g transaction witness held active =>
    have touch := began_touch sound held active transaction witness
    refine ⟨touch.sound sound, touch.book, fun j h => touch.progress (.of_receipt rfl ?_ rfl)⟩
    rw [active]
    exact .start
  | refusedEntry i g held running unentered =>
    have touch := refusedEntry_touch sound held running
    exact ⟨touch.sound sound, touch.book, fun j h => touch.progress (.of_receipt rfl (.stay _) rfl)⟩
  | entered i g held running unentered =>
    have touch := entered_touch sound held running unentered
    exact ⟨touch.sound sound, touch.book, fun j h => touch.progress (.of_receipt rfl (.stay _) rfl)⟩
  | failed i rest g held framed =>
    have touch := failed_touch sound held framed
    refine ⟨touch.sound sound, touch.book, fun j h => touch.progress (.of_receipt rfl ?_ rfl)⟩
    -- the consumer may itself have quarantined the grant before it failed
    rcases (framed_blank sound held (by simp [framed])).2.2.2.1 with running | ended
    · rw [running]
      exact .finish _ rfl
    · rw [ended]
      exact .stay _
  | returned i rest g result id held framed identified =>
    have touch := returned_touch sound held framed result id identified
    exact ⟨touch.sound sound, touch.book, fun j h => touch.progress (.of_receipt rfl (.stay _) rfl)⟩
  | committed place supplied lease g plan asked leased held unpaid planned =>
    have touch := committed_touch sound held unpaid planned
    obtain ⟨pending, given, -, -, running, -, equal, terminal⟩ := newReceipt_spec planned
    have result := (sound.grants _ g held).pending unpaid pending given
    refine ⟨touch.sound sound, touch.book, fun j h => touch.progress ⟨rfl, ?_, ?_, ?_⟩⟩
    · rw [running]
      exact .finish _ terminal
    · intro r here
      rw [unpaid] at here
      cases here
    · intro r _ _
      exact ⟨running, place, supplied, lease, asked, leased, rfl, pending, result, equal⟩
  | quarantined i g reason held running =>
    have touch := quarantined_touch sound held running reason
    refine ⟨touch.sound sound, touch.book, fun j h => touch.progress (.of_receipt rfl ?_ rfl)⟩
    rw [running]
    exact .finish _ rfl

end Progress

theorem step_sound (c : Capability) (call : Call) (sound : Sound c) :
    Sound (capabilityMachine.after c call) := ((step_change c call).sound sound).1

theorem run_sound (calls : List Call) (c : Capability) (sound : Sound c) :
    Sound (capabilityMachine.run c calls) :=
  capabilityMachine.run_invariant Sound step_sound calls c sound

structure Later (g g' : Grant) : Prop where
  named : g'.requestId = g.requestId
  begun : g.state ≠ .active → g'.state ≠ .active
  ended : g.state.isTerminal = true → g'.state = g.state ∧ g'.executionReceipt = g.executionReceipt
  kept : ∀ r, g.executionReceipt = some r → g'.executionReceipt = some r

theorem Later.refl (g : Grant) : Later g g :=
  ⟨rfl, fun started => started, fun _ => ⟨rfl, rfl⟩, fun _ here => here⟩

theorem Later.trans {g h k : Grant} (first : Later g h) (second : Later h k) : Later g k where
  named := second.named.trans first.named
  begun := fun started => second.begun (first.begun started)
  ended := by
    intro terminal
    obtain ⟨state, receipt⟩ := first.ended terminal
    obtain ⟨state', receipt'⟩ := second.ended (state ▸ terminal)
    exact ⟨state'.trans state, receipt'.trans receipt⟩
  kept := fun r here => second.kept r (first.kept r here)

theorem Progress.later {call : Call} {g g' : Grant}
    (progress : Progress c call i g g') : Later g g' where
  named := progress.named
  begun := progress.moved.begun
  ended := by
    intro terminal
    refine ⟨progress.moved.ended terminal, ?_⟩
    cases before : g.executionReceipt with
    | some r => exact progress.kept r before
    | none =>
      cases after : g'.executionReceipt with
      | none => rfl
      | some r =>
        -- a receipt is created for a running grant only
        have running := (progress.created r before after).1
        rw [running] at terminal
        cases terminal
  kept := progress.kept

theorem run_later (calls : List Call) : ∀ (c : Capability), Sound c →
    ∀ (i : Nat) (g : Grant), c.grants[i]? = some g →
      ∃ g', (capabilityMachine.run c calls).grants[i]? = some g' ∧ Later g g' := by
  induction calls with
  | nil => exact fun c _ i g held => ⟨g, held, .refl g⟩
  | cons call rest ih =>
    intro c sound i g held
    obtain ⟨h, there, progress⟩ := ((step_change c call).sound sound).2.2 i g held
    obtain ⟨k, last, later⟩ := ih _ (step_sound c call sound) i h there
    exact ⟨k, last, progress.later.trans later⟩

theorem run_book (calls : List Call) : ∀ (c : Capability), Sound c →
    Counter.Steps c.book (capabilityMachine.run c calls).book := by
  induction calls with
  | nil => exact fun _ _ => .refl
  | cons call rest ih =>
    intro c sound
    exact ((step_change c call).sound sound).2.1.trans (ih _ (step_sound c call sound))

/-! ## Commits -/

def SameAddress (v p : Value) : Prop := ∃ d, Digest.record v = .ok d ∧ Digest.record p = .ok d

/-- A commit supplies a result that equals the consumer's exactly when it has its address. -/
def Tame (c : Capability) : Call → Prop
  | .commit place supplied => ∀ lease, c.leases[place]? = some lease →
      ∀ p, c.Returned lease.grant p → (same supplied p = true ↔ SameAddress supplied p)
  | _ => True

theorem identify_eq_ok {label : String} {v : Value} :
    Digest.identify label v = .ok id ↔ ∃ d, Digest.record v = .ok d ∧ utf8 label ++ d = id := by
  simp only [Digest.identify, bind_eq_ok, pure_eq_ok]

theorem repeatedCommit_eq_ok {receipt supplied answer : Value}
    (kept : g.pendingResultId = some id) :
    repeatedCommit g receipt supplied = .ok answer ↔
      Digest.identify "qa-provider-result:" supplied = .ok id ∧ answer = receipt.deepCopy := by
  unfold repeatedCommit
  cases identified : Digest.identify "qa-provider-result:" supplied with
  | error failure => cases failure <;> simp
  | ok other =>
    by_cases same : other = id
    · simp [kept, same, eq_comm]
    · simp [kept, same]

/-- The first commit that succeeds supplied exactly the consumer's result; a commit of that
result on a grant that has its receipt gives the receipt, a commit of any other result is
refused, and neither changes anything. -/
structure CommitLaw (c : Capability) (place : Nat) (supplied : Value) : Prop where
  first : ∀ lease g, c.leases[place]? = some lease → c.grants[lease.grant]? = some g →
    g.executionReceipt = none → (c.commit place supplied).Succeeds →
      ∃ p, c.Returned lease.grant p ∧ same supplied p = true ∧ SameAddress supplied p
  again : ∀ lease g r, c.leases[place]? = some lease → c.grants[lease.grant]? = some g →
    g.executionReceipt = some r →
      (c.commit place supplied).2 = c ∧
        (c.IsResult lease.grant supplied →
          (c.commit place supplied).1 = .ok (.value r.deepCopy))
  other : ∀ lease, c.leases[place]? = some lease → ¬ c.IsResult lease.grant supplied →
    ¬ (c.commit place supplied).Succeeds ∧ (c.commit place supplied).2 = c

theorem commit_of_lease (sound : Sound c) {place : Nat} {lease : Lease}
    (leased : c.leases[place]? = some lease) (held : c.grants[lease.grant]? = some g) :
    c.executionLease place true = .ok (lease.grant, g) := by
  have indexed := (sound.indexed g.requestId lease.grant).mpr ⟨g, held, rfl⟩
  obtain ⟨h, there, started⟩ := sound.leased lease (mem_of_getElem? leased)
  rw [held, Option.some.injEq] at there
  subst there
  have state : g.state = .running ∨ true = true ∧ g.state.isTerminal = true := by
    cases at_ : g.state <;> simp_all [GrantState.isTerminal]
  rw [executionLease]
  simp only [leased, held]
  rw [bind_eq_ok]
  exact ⟨(), (require_eq_ok ..).mpr indexed,
    (bind_eq_ok ..).mpr ⟨(), (require_eq_ok ..).mpr (by simpa using state), rfl⟩⟩

theorem paid_address (sound : Sound c) {r : Value}
    (held : c.grants[i]? = some g) (paid : g.executionReceipt = some r) :
    ∃ p id, c.Returned i p ∧ g.pendingResultId = some id ∧
      Digest.identify "qa-provider-result:" p = .ok id := by
  have before := sound.grants i g held
  obtain ⟨⟨p, result⟩, -⟩ := before.paid r paid
  obtain ⟨-, id, kept, identified⟩ := before.returned p result
  exact ⟨p, id, result, kept, identified⟩

theorem sameAddress_iff {label : String} {v p : Value}
    (identified : Digest.identify label p = .ok id) :
    SameAddress v p ↔ Digest.identify label v = .ok id := by
  obtain ⟨d, digest, rfl⟩ := identify_eq_ok.mp identified
  rw [identify_eq_ok]
  constructor
  · rintro ⟨d', left, right⟩
    rw [digest] at right
    cases right
    exact ⟨d, left, rfl⟩
  · rintro ⟨d', left, equal⟩
    rw [append_cancel_left equal] at left
    exact ⟨d, left, digest⟩

theorem commit_law (sound : Sound c) (place : Nat) (supplied : Value)
    (tame : Tame c (.commit place supplied)) : CommitLaw c place supplied where
  first := by
    intro lease g leased held unpaid succeeded
    cases planned : newReceipt lease.grant g supplied with
    | ok plan =>
      obtain ⟨pending, given, -, -, -, -, equal, -⟩ := newReceipt_spec planned
      have result := (sound.grants _ g held).pending unpaid pending given
      exact ⟨pending, result, equal, (tame lease leased pending result).mp equal⟩
    | error failure =>
      have answer : c.commit place supplied = (.error failure, c) := by
        simp only [commit, commit_of_lease sound leased held, transact_ok, unpaid, planned,
          transact_error]
      rw [answer] at succeeded
      exact absurd succeeded (Reply.not_succeeds_error failure c)
  again := by
    intro lease g r leased held paid
    have answer : c.commit place supplied =
        ((repeatedCommit g r supplied).map Answer.value, c) := by
      simp only [commit, commit_of_lease sound leased held, transact_ok, paid]
    refine ⟨by rw [answer], ?_⟩
    rintro ⟨p, result, equal⟩
    obtain ⟨-, id, kept, identified⟩ := (sound.grants _ g held).returned p result
    have address := (sameAddress_iff identified).mp ((tame lease leased p result).mp equal)
    rw [answer, (repeatedCommit_eq_ok kept).mpr ⟨address, rfl⟩]
    rfl
  other := by
    intro lease leased notResult
    obtain ⟨g, held, -⟩ := sound.leased lease (mem_of_getElem? leased)
    cases paid : g.executionReceipt with
    | some r =>
      have answer : c.commit place supplied =
          ((repeatedCommit g r supplied).map Answer.value, c) := by
        simp only [commit, commit_of_lease sound leased held, transact_ok, paid]
      rw [answer]
      refine ⟨?_, rfl⟩
      rintro ⟨a, succeeded⟩
      obtain ⟨p, id, result, kept, identified⟩ := paid_address sound held paid
      cases repeated : repeatedCommit g r supplied with
      | error failure =>
        rw [repeated] at succeeded
        cases succeeded
      | ok receipt =>
        have address := ((repeatedCommit_eq_ok kept).mp repeated).1
        have equal := (tame lease leased p result).mpr ((sameAddress_iff identified).mpr address)
        exact notResult ⟨p, result, equal⟩
    | none =>
      cases planned : newReceipt lease.grant g supplied with
      | ok plan =>
        obtain ⟨pending, given, -, -, -, -, equal, -⟩ := newReceipt_spec planned
        have result := (sound.grants _ g held).pending paid pending given
        exact absurd ⟨pending, result, equal⟩ notResult
      | error failure =>
        have answer : c.commit place supplied = (.error failure, c) := by
          simp only [commit, commit_of_lease sound leased held, transact_ok, paid, planned,
            transact_error]
        rw [answer]
        exact ⟨Reply.not_succeeds_error failure c, rfl⟩

/-! ## The authority is one-shot -/

/-- At most one grant for each request, one lease and one consumer entry for each grant, one
receipt for each request; and revisions that ascend, each borne by one grant at most. -/
structure OneShot (c : Capability) : Prop where
  oneGrant : ∀ (i j : Nat) (g h : Grant), c.grants[i]? = some g → c.grants[j]? = some h →
    g.requestId = h.requestId → i = j
  oneLease : (c.leases.map Lease.grant).Nodup
  oneEntry : (entriesOf c.log).Nodup
  oneReceipt : ∀ id k, c.receipts id = some k →
    ∃ g, c.grants[k.grant]? = some g ∧ g.requestId = id ∧ g.executionReceipt = some k.receipt
  recorded : ∀ (i : Nat) (g : Grant) (r : Value), c.grants[i]? = some g →
    g.executionReceipt = some r → ∃ k, c.receipts g.requestId = some k ∧ k.receipt = r
  numbered : Counter.Sound c.book

theorem Sound.oneShot (sound : Sound c) : OneShot c where
  oneGrant := fun _ _ _ _ left right named => sound.oneGrant left right named
  oneLease := sound.oneLease
  oneEntry := sound.oneEntry
  oneReceipt := sound.receipted
  recorded := fun i g r held paid => ((sound.grants i g held).paid r paid).2
  numbered := sound.numbered

structure Obeys (c : Capability) (call : Call) : Prop where
  progress : ∀ (i : Nat) (g : Grant), c.grants[i]? = some g →
    ∃ g', (capabilityMachine.after c call).grants[i]? = some g' ∧ Progress c call i g g'
  commits : ∀ place supplied, call = .commit place supplied → CommitLaw c place supplied

/-- In every run whose commits are tame, the authority is one-shot in every state reached, every
call made obeys the laws, and nothing made later loses a grant, a terminal state or a
receipt; a grant whose state or revision changes bears a revision handed out since. -/
theorem execution_authority_one_shot (sessionId : Bytes)
    (self environmentRegistry repositoryRegistry : Value) (calls : List Call)
    (tame : capabilityMachine.Along Tame
      (new sessionId self environmentRegistry repositoryRegistry) calls)
    (before after : List Call) (split : calls = before ++ after) :
    let c := capabilityMachine.run (new sessionId self environmentRegistry repositoryRegistry) before
    OneShot c ∧
      (∀ call rest, after = call :: rest → Obeys c call) ∧
      (∀ (i : Nat) (g : Grant), c.grants[i]? = some g →
        ∃ g', (capabilityMachine.run c after).grants[i]? = some g' ∧ Later g g') ∧
      Counter.Later c.book (capabilityMachine.run c after).book := by
  intro c
  have sound : Sound c := run_sound before _
    (new_sound sessionId self environmentRegistry repositoryRegistry)
  refine ⟨sound.oneShot, ?_, run_later after c sound,
    ((run_book after c sound).sound sound.numbered).2⟩
  intro call rest here
  refine ⟨((step_change c call).sound sound).2.2, ?_⟩
  intro place supplied asked
  rw [split] at tame
  have later := ((capabilityMachine.along_append before after _).mp tame).2
  rw [here] at later
  exact commit_law sound place supplied (asked ▸ later.1)

/-! ## A number written in two ways -/

def sampleRequest : Value :=
  .record [
    ("request_id", .text "request"),
    ("profile_id", profileId),
    ("environment_id", .str (utf8 "qa-environment:" ++ Digest.sha256 [])),
    ("entrypoint", .record [("relative_path", .text "tests/run.lua")]),
    ("expected_exit_codes", .array [.nat 0]),
    ("resource_limits", hardLimits)]

def sampleEvent : Value :=
  .record [
    ("id", .text "event"),
    ("operator", .text "☶"),
    ("truth_status", .text "runtime_confirmed")]

def samplePacket : Value :=
  .record [
    ("session_id", .text "session"),
    ("status", .text "running"),
    ("regime", .record [("work", .record [("mode", .text "build")])])]

def sampleMeasured : Value :=
  .record [
    ("environment_id", sampleRequest.get "environment_id"),
    ("profile_id", profileId)]

def sampleFacts : MintFacts where
  mutable := .ok ()
  actor := .ok ()
  verified := .ok ()
  found := .ok (sampleRequest, sampleEvent)
  sealed := .ok (.record [("inventory_id", .text "inventory")], .record [])
  resolved := .ok (.record [])
  measured := .ok sampleMeasured

def sampleRegistry : Capability :=
  new (utf8 "session") (.table ⟨1, false⟩ []) (.table ⟨2, false⟩ []) (.table ⟨3, false⟩ [])

def sampleBegun : List Call :=
  [.mint samplePacket sampleRequest (.text "event") sampleFacts,
    .beginExecution (.text "request") (.text "event") (.ok sampleMeasured)]

def sampleError (g : Grant) (cost : Number) : Value :=
  .record [
    ("protocol_version", .text "qa.provider_error.v1"),
    ("request_id", .str g.requestId),
    ("physical_transaction_id", g.physicalTransactionId),
    ("physical_witness_id", g.physicalWitnessId),
    ("profile_id", g.request.get "profile_id"),
    ("environment_id", g.request.get "environment_id"),
    ("class", .text "ambiguous"),
    ("code", .text "source_drift"),
    ("stage", .text "postflight"),
    ("candidate_start_state", .text "started"),
    ("source_acquisition", .text "acquired"),
    ("source_stable", .bool false),
    ("source_disposition", .text "quarantined"),
    ("cleanup_state", .text "complete"),
    ("launcher_reaped", .text "complete"),
    ("result_eof", .text "complete"),
    ("measured_cost", .num cost),
    ("event_truth_status", .text "runtime_confirmed")]

def sampleEntered : Capability :=
  capabilityMachine.run sampleRegistry (sampleBegun ++ [.enter 0 (.ref .function 4)])

def sampleResult (cost : Number) : Value :=
  match sampleEntered.grants with
  | g :: _ => sampleError g cost
  | [] => .nil

def sampleReturned : Capability :=
  capabilityMachine.run sampleEntered [.leave (.returned [sampleResult (.int 1)])]

def returnsOnly (c : Capability) (v : Value) : Bool :=
  c.log.all fun
    | .returned _ p => decide (p = v)
    | _ => true

theorem tame_of_returnsOnly {v : Value} {place : Nat} (only : c.returnsOnly v.deepCopy = true)
    (equal : same v v.deepCopy = true) {d : Bytes} (digest : Digest.record v = .ok d) :
    Tame c (.commit place v) := by
  intro lease leased p result
  have copied : p = v.deepCopy := of_decide_eq_true (List.all_eq_true.mp only _ result)
  rw [copied]
  exact ⟨fun _ => ⟨d, digest, (Digest.record_deepCopy v).trans digest⟩, fun _ => equal⟩

def sampleCommit : Call := .commit 0 (sampleResult (.int 1))

def sampleCommitted : Capability := capabilityMachine.run sampleReturned [sampleCommit]

set_option maxRecDepth 20000 in
theorem sample_outcomes :
    (sampleReturned.returnsOnly (sampleResult (.int 1)).deepCopy = true
      ∧ sampleCommitted.returnsOnly (sampleResult (.int 1)).deepCopy = true
      ∧ same (sampleResult (.int 1)) (sampleResult (.int 1)).deepCopy = true
      ∧ (Digest.record (sampleResult (.int 1))).isOk = true)
    ∧ ((sampleCommitted.grants.map fun g => (g.revision, g.state, g.executionReceipt.isSome))
        = [(3, .quarantined, true)]
      ∧ (sampleCommitted.commit 0 (sampleResult (.int 1))).Succeeds)
    ∧ (let written := sampleResult (.float (Dyadic.ofInt 1))
      (sampleReturned.commit 0 written).Succeeds ∧
        ¬ ((sampleReturned.commit 0 written).2.commit 0 written).Succeeds) := by
  decide +kernel

def sampleConsumed : List Call :=
  sampleBegun ++ [.enter 0 (.ref .function 4), .leave (.returned [sampleResult (.int 1)])]

theorem run_sampleConsumed : capabilityMachine.run sampleRegistry sampleConsumed = sampleReturned := by
  rw [sampleReturned, sampleEntered, ← Machine.run_append]
  rfl

/-- The consumer's result is committed and paid for, and committed again. -/
theorem execution_authority_one_shot_committed :
    ((sampleCommitted.grants.map fun g => (g.revision, g.state, g.executionReceipt.isSome))
        = [(3, .quarantined, true)]
      ∧ (sampleCommitted.commit 0 (sampleResult (.int 1))).Succeeds)
    ∧ OneShot sampleCommitted ∧ Obeys sampleReturned sampleCommit
    ∧ Obeys sampleCommitted sampleCommit
    ∧ Counter.Later sampleReturned.book
      (capabilityMachine.run sampleReturned [sampleCommit, sampleCommit]).book := by
  obtain ⟨⟨only, still, equal, addressed⟩, paid, -⟩ := sample_outcomes
  obtain ⟨d, digest⟩ : ∃ d, Digest.record (sampleResult (.int 1)) = .ok d := by
    cases read : Digest.record (sampleResult (.int 1)) with
    | ok d => exact ⟨d, rfl⟩
    | error failure =>
      rw [read] at addressed
      cases addressed
  have along : capabilityMachine.Along Tame sampleRegistry
      (sampleConsumed ++ [sampleCommit, sampleCommit]) := by
    refine (capabilityMachine.along_append _ _ _).mpr ⟨⟨trivial, trivial, trivial, trivial,
      trivial⟩, ?_⟩
    rw [run_sampleConsumed]
    exact ⟨tame_of_returnsOnly only equal digest, tame_of_returnsOnly still equal digest, trivial⟩
  have law := execution_authority_one_shot (utf8 "session") (.table ⟨1, false⟩ [])
    (.table ⟨2, false⟩ []) (.table ⟨3, false⟩ []) (sampleConsumed ++ [sampleCommit, sampleCommit])
    along
  have first := law sampleConsumed [sampleCommit, sampleCommit] rfl
  have second := law (sampleConsumed ++ [sampleCommit]) [sampleCommit] (by simp)
  have returned : capabilityMachine.run (new (utf8 "session") (.table ⟨1, false⟩ [])
      (.table ⟨2, false⟩ []) (.table ⟨3, false⟩ [])) sampleConsumed = sampleReturned :=
    run_sampleConsumed
  rw [Machine.run_append, returned] at second
  rw [returned] at first
  exact ⟨paid, second.1, first.2.1 _ _ rfl, second.2.1 _ _ rfl, first.2.2.2⟩

/-- The result with its cost written as a float is committed, and refused when it is committed
again. -/
theorem same_result_refused_again :
    let written := sampleResult (.float (Dyadic.ofInt 1))
    (sampleReturned.commit 0 written).Succeeds ∧
      ¬ ((sampleReturned.commit 0 written).2.commit 0 written).Succeeds :=
  sample_outcomes.2.2

end Capability

end Proc17.Runtime.Qa
