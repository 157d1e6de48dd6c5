import Proc17.Runtime.Qa.CandidateTransaction
import Proc17.Runtime.Repository.Lifecycle

/-!
# Safety of the candidate transaction

Whatever the inventory provider, the environment callback and the process provider do, the
lent source is finished under one disposition and closed once, the candidate runs only on
the sealed inventory, and what is reported ran between two equal inventories.
-/

namespace Proc17.Runtime.Qa.CandidateTransaction

open Lua Core Runtime.Repository Runtime.Repository.Registry List
open Process

/-! ## What is stated -/

def Step.isRun : Step → Bool
  | .run _ => true
  | .inventory _ => false

structure Observed (root : Root) (plan : Plan) (answer : Outcome) (inventory : Inventory) :
    Prop where
  answered : ∃ raw rest observation, answer = .returned (raw :: rest)
    ∧ isAt root.identity (raw.get "root_before") = true
    ∧ isAt root.identity (raw.get "root_after") = true
    ∧ Inventory.normalizeProviderResult raw plan.coordinates = .ok observation
    ∧ observation.verdict = .observed inventory

structure Sealed (root : Root) (inventory : Inventory) : Prop where
  id : root.closureProjection.get "inventory_id" = .str inventory.inventoryId
  digest : root.closureProjection.get "inventory_digest" = .str inventory.inventoryDigest
  bounds : Json.same inventory.bounds (root.closureProjection.get "inventory_bounds") = .ok true

/-- The candidate ran between two equal inventories: every run comes after the first and
before the second. -/
def Stable (root : Root) (plan : Plan) (f : Foreign) (steps : List Step) : Prop :=
  ∃ (pre post : Inventory) (entered : List Entry), Observed root plan f.first pre
    ∧ Observed root plan f.second post
    ∧ Json.same pre.table post.table = .ok true
    ∧ steps = .inventory f.first :: (entered.map .run ++ [.inventory f.second])

def Joined (plan : Plan) (f : Foreign) (joined : Value) : Prop :=
  ∃ rest, f.callback.answer (f.callback.entries.map fun entry => entry.reply plan)
    = .returned (joined :: rest)

structure Finished (r r' : Registry) (i : Nat) (live : LiveSource) (verdict : Repository.Verdict) :
    Prop where
  lease : r'.qaLeases[i]? = some
    { live.lease with attempted := true, finished := true, disposition := some verdict }
  root : r'.roots live.lease.rootId = some { live.root with
    qaSource := some
      { live.source with state := verdict.state, disposition := some verdict, handle := none } }
  log : r'.log = .closed live.handle :: .consumed live.lease.rootId live.handle :: r.log

structure Plan.Names (plan : Plan) (live : LiveSource) : Prop where
  transaction : plan.get "physical_transaction_id" = .str live.lease.transactionId
  id : plan.get "inventory_id" = live.root.closureProjection.get "inventory_id"
  digest : plan.get "inventory_digest" = live.root.closureProjection.get "inventory_digest"
  bounds : Json.same plan.bounds (live.root.closureProjection.get "inventory_bounds") = .ok true

/-- What may have happened to a source that is left consumed: the candidate was never run,
or it ran between equal inventories and was observed or failed before it started. -/
def Harmless (root : Root) (plan : Plan) (f : Foreign) (steps : List Step) : Prop :=
  (∀ entry, .run entry ∉ steps)
    ∨ Stable root plan f steps ∧ ∃ joined, Joined plan f joined
      ∧ ((joined.get "process").truthy = true
        ∨ errorReuseClassV1 (joined.get "process_error") = .ok .cleanPrestart)

structure Safe (r : Registry) (i : Nat) (live : LiveSource) (plan : Plan) (f : Foreign)
    (c : Conclusion) (verdict : Repository.Verdict) : Prop where
  finished : Finished r c.registry i live verdict
  runOnce : c.steps.countP Step.isRun ≤ 1
  runSealed : ∀ entry, .run entry ∈ c.steps →
    ∃ pre rest, c.steps = .inventory f.first :: rest ∧ Observed live.root plan f.first pre
      ∧ Sealed live.root pre
  reported : ∀ v, c.answer = .ok v → v.get "kind" = .text "report" →
    Stable live.root plan f c.steps
  consumed : verdict = .consumed → Harmless live.root plan f c.steps

/-! ## The registry while the source is lent -/

section Lent

variable {r : Registry} {i : Nat} {live : LiveSource}

/-- What `with_qa_source` has checked of a fresh lease. -/
structure Fresh (r : Registry) (i : Nat) (live : LiveSource) : Prop where
  leased : r.qaLeases[i]? = some live.lease
  unfinished : live.lease.finished = false
  held : LiveHeld r live.lease live
  checked : r.liveSource live.lease = .ok live

theorem withPlan_fresh {consumer : Value} (lent : r.withPlan i consumer = .ok live) :
    Fresh r i live := by
  simp only [withPlan, bind_eq_ok, require_eq_ok, pure_eq_ok] at lent
  obtain ⟨lease, found, _, unfinished, live', checked, _, _, _, _, rfl⟩ := lent
  have held := liveSource_facts checked
  obtain ⟨own, -, -, -⟩ := held
  subst own
  exact ⟨qaLeaseAt_facts found, unfinished, liveSource_facts checked, checked⟩

def usedLive (live : LiveSource) (state : SourceState) : LiveSource where
  lease := { live.lease with attempted := true }
  root := { live.root with qaSource := some { live.source with state := state } }
  source := { live.source with state := state }
  handle := live.handle

def usedRegistry (r : Registry) (i : Nat) (live : LiveSource) : Registry :=
  (r.consume i live).setSource live.lease.rootId live.root { live.source with state := .used }

section

variable (fresh : Fresh r i live)
include fresh

theorem lent_lease {r' : Registry} {state : SourceState}
    (leases : r'.qaLeases = r.qaLeases.set i { live.lease with attempted := true }) :
    r'.qaLeaseAt i = .ok (usedLive live state).lease := by
  have bound : i < r.qaLeases.length := (List.getElem?_eq_some_iff.mp fresh.leased).1
  simp [qaLeaseAt, leases, usedLive, bound]

theorem lent_live {r' : Registry} {state : SourceState}
    (roots : r'.roots live.lease.rootId = some (usedLive live state).root)
    (provider : r'.provider = r.provider) :
    r'.liveSource (usedLive live state).lease = .ok (usedLive live state) := by
  have checked := fresh.checked
  have held := fresh.held
  simp only [liveSource, held.root, held.source, held.handle, bind_eq_ok, require_eq_ok,
    pure_eq_ok] at checked
  obtain ⟨_, facts, -⟩ := checked
  have rooted : r'.roots (usedLive live state).lease.rootId = some (usedLive live state).root :=
    roots
  simp only [liveSource, rooted]
  simp only [usedLive, held.handle, provider, bind_eq_ok, require_eq_ok, pure_eq_ok]
  exact ⟨(), facts, trivial⟩

theorem consume_live :
    (r.consume i live).liveSource (usedLive live .inUse).lease = .ok (usedLive live .inUse) := by
  apply lent_live fresh
  · simp [consume, setSource, setRoot, note, usedLive]
  · rfl

theorem usedRegistry_live :
    (usedRegistry r i live).liveSource (usedLive live .used).lease = .ok (usedLive live .used) := by
  apply lent_live fresh
  · simp [usedRegistry, consume, setSource, setRoot, note, usedLive]
  · rfl

end

end Lent

/-! ## Observations -/

variable {inventory pre : Inventory} {joined pending : Value} {verdict : Repository.Verdict}

section Observations

variable {r : Registry} {i : Nat} {live : LiveSource} {plan : Plan} {answer : Outcome}

theorem inventoryRootMatches_lent (fresh : Fresh r i live) (before after : Value) :
    inventoryRootMatches (r.consume i live) i before after
      = .ok (isAt live.root.identity before && isAt live.root.identity after) := by
  have leased : (r.consume i live).qaLeaseAt i = .ok (usedLive live .inUse).lease :=
    lent_lease fresh rfl
  have running : require ((usedLive live .inUse).lease.finished = false)
      (refuse "repository QA source lease already finished") = .ok () := by
    rw [require_eq_ok]
    exact fresh.unfinished
  simp only [inventoryRootMatches, leased, bind, Except.bind, running, consume_live fresh]
  rfl

theorem normalized_observed {raw : Value} (found : normalized plan raw = .ok (.ok inventory)) :
    ∃ observation, Inventory.normalizeProviderResult raw plan.coordinates = .ok observation
      ∧ observation.verdict = .observed inventory := by
  unfold normalized at found
  split at found
  · cases found
  · cases found
  · next observation made =>
      refine ⟨observation, made, ?_⟩
      split at found
      · next same =>
          cases found
          exact same
      · cases found

theorem inventoryObservation_observed (fresh : Fresh r i live)
    (found : inventoryObservation (r.consume i live) i plan answer = .ok (.ok inventory)) :
    Observed live.root plan answer inventory := by
  cases answer with
  | raised err => cases found
  | returned values =>
    cases values with
    | nil => simp [inventoryObservation, Value.truthy] at found
    | cons raw rest =>
      simp only [inventoryObservation, getD_cons_zero] at found
      split at found
      · cases found
      · cases raw with
        | table tag entries =>
          simp only [Value.index, bind, Except.bind, inventoryRootMatches_lent fresh] at found
          split at found
          · next refused => cases refused
          · next failed => cases failed
          · cases found
          · next matched =>
              rw [Except.ok.injEq, Bool.and_eq_true] at matched
              obtain ⟨observation, made, verdict⟩ := normalized_observed found
              exact ⟨_, rest, observation, rfl, matched.1, matched.2, made, verdict⟩
        | str s =>
          simp [Value.index, bind, Except.bind, inventoryRootMatches_lent fresh, isAt,
            Value.isTable, pure, Except.pure] at found
        | _ => simp [Value.index, bind, Except.bind] at found

theorem matchesSeal_sealed (names : plan.Names live)
    (matched : matchesSeal inventory plan = .ok true) : Sealed live.root inventory := by
  unfold matchesSeal at matched
  split at matched
  · next same =>
      refine ⟨?_, ?_, ?_⟩
      · rw [← names.id, same.1]
      · rw [← names.digest, same.2]
      · exact Json.same_trans matched names.bounds
  · cases matched

end Observations

/-! ## Every way through the consumer -/

def Admitted (r : Registry) (i : Nat) (plan : Plan) (f : Foreign) (pre : Inventory) : Prop :=
  inventoryObservation r i plan f.first = .ok (.ok pre) ∧ matchesSeal pre plan = .ok true

structure Quiet (r : Registry) (i : Nat) (plan : Plan) (f : Foreign) (pre post : Inventory)
    (joined : Value) : Prop where
  admitted : Admitted r i plan f pre
  second : inventoryObservation r i plan f.second = .ok (.ok post)
  same : Json.same pre.table post.table = .ok true
  joined : Joined plan f joined

def ranSteps (f : Foreign) (entered : List Entry) : List Step :=
  .inventory f.first :: (entered.map .run ++ [.inventory f.second])

inductive Course (r : Registry) (i : Nat) (plan : Plan) (f : Foreign) :
    Except Failure Value → List Step → Prop where
  | unobserved (failure : Failure) : Course r i plan f (.error failure) [.inventory f.first]
  | missed (miss : Miss) : Course r i plan f (.ok (preflightMissed miss)) [.inventory f.first]
  | mismatched : Course r i plan f (.ok preflightMismatch) [.inventory f.first]
  | unjoined {pre : Inventory} {entered : List Entry} (failure : Failure)
      (admitted : Admitted r i plan f pre) (few : entered.length ≤ f.callback.entries.length) :
      Course r i plan f (.error failure) (.inventory f.first :: entered.map .run)
  | unconcluded {pre : Inventory} {entered : List Entry} (failure : Failure)
      (admitted : Admitted r i plan f pre) (few : entered.length ≤ f.callback.entries.length) :
      Course r i plan f (.error failure) (ranSteps f entered)
  | drifted {pre : Inventory} {entered : List Entry} (contradicts : Bool) (process detail : Value)
      (admitted : Admitted r i plan f pre) (few : entered.length ≤ f.callback.entries.length) :
      Course r i plan f (.ok (postflightFailed contradicts process detail)) (ranSteps f entered)
  | reported {pre post : Inventory} {joined : Value} {entered : List Entry}
      (quiet : Quiet r i plan f pre post joined)
      (few : entered.length ≤ f.callback.entries.length)
      (observed : (joined.get "process").truthy = true) :
      Course r i plan f (.ok (report (joined.get "process") pre post)) (ranSteps f entered)
  | broken {pre post : Inventory} {joined : Value} {entered : List Entry} {reuse : ReuseClass}
      (quiet : Quiet r i plan f pre post joined)
      (few : entered.length ≤ f.callback.entries.length)
      (classed : errorReuseClassV1 (joined.get "process_error") = .ok reuse) :
      Course r i plan f (.ok (processFailed reuse (joined.get "process_error")))
        (ranSteps f entered)

section Courses

variable {r : Registry} {i : Nat} {plan : Plan} {f : Foreign} {withEnvironment : Value}

theorem concludeError_cases {err : Value} (made : concludeError err = .ok pending) :
    ∃ reuse, errorReuseClassV1 err = .ok reuse ∧ pending = processFailed reuse err := by
  simp only [concludeError, bind_eq_ok, require_eq_ok] at made
  obtain ⟨_, -, made⟩ := made
  split at made
  · cases made
  · cases made
  · next reuse classed => exact ⟨reuse, classed, ((pure_eq_ok _ _).mp made).symm⟩

theorem conclude_course {entered : List Entry} {post : Except Miss Inventory}
    (admitted : Admitted r i plan f pre) (few : entered.length ≤ f.callback.entries.length)
    (second : inventoryObservation r i plan f.second = .ok post) (handed : Joined plan f joined) :
    Course r i plan f (conclude pre joined post) (ranSteps f entered) := by
  cases post with
  | error miss => exact .drifted _ _ _ admitted few
  | ok post =>
    simp only [conclude]
    cases compared : Json.same pre.table post.table with
    | error failure => exact .unconcluded failure admitted few
    | ok stable =>
      cases stable with
      | false => exact .drifted false _ _ admitted few
      | true =>
        have quiet : Quiet r i plan f pre post joined := ⟨admitted, second, compared, handed⟩
        simp only [bind, Except.bind, Bool.true_eq_false, if_false]
        by_cases observed : (joined.get "process").truthy = true
        · rw [if_pos observed]
          exact .reported quiet few observed
        · rw [if_neg observed]
          cases ended : concludeError (joined.get "process_error") with
          | error failure => exact .unconcluded failure admitted few
          | ok pending =>
            obtain ⟨reuse, classed, rfl⟩ := concludeError_cases ended
            exact .broken quiet few classed

theorem runCandidate_cases (plan : Plan) (withEnvironment : Value) (f : Foreign)
    (steps : List Step) :
    ∃ entered : List Entry, entered.length ≤ f.callback.entries.length
      ∧ (runCandidate plan withEnvironment f.callback steps).2 = steps ++ entered.map .run
      ∧ ∀ joined, (runCandidate plan withEnvironment f.callback steps).1 = .ok joined →
        Joined plan f joined := by
  unfold runCandidate
  split
  · refine ⟨_, length_filter_le _ _, rfl, ?_⟩
    intro joined answered
    cases given : f.callback.answer (f.callback.entries.map fun entry => entry.reply plan) with
    | raised err => simp [given] at answered
    | returned values =>
      simp only [given] at answered
      split at answered
      · cases answered
      · split at answered
        · cases answered
        · next truthy _ =>
            cases values with
            | nil => exact absurd rfl truthy
            | cons first rest =>
              cases answered
              exact ⟨rest, given⟩
  · refine ⟨[], Nat.zero_le _, (append_nil _).symm, ?_⟩
    intro joined answered
    cases answered

theorem consumer_course (withEnvironment : Value)
    (equipped : ∀ answer steps, takeInventory r i plan answer steps
      = (inventoryObservation r i plan answer, steps ++ [.inventory answer])) :
    Course r i plan f (consumer r i plan withEnvironment f).1
      (consumer r i plan withEnvironment f).2 := by
  simp only [consumer, equipped, nil_append]
  cases first : inventoryObservation r i plan f.first with
  | error failure => exact .unobserved failure
  | ok observed =>
    cases observed with
    | error miss => exact .missed miss
    | ok pre =>
      simp only [Reply.andThen]
      cases matched : matchesSeal pre plan with
      | error failure => exact .unobserved failure
      | ok exact =>
        cases exact with
        | false => exact .mismatched
        | true =>
          have admitted : Admitted r i plan f pre := ⟨first, matched⟩
          obtain ⟨entered, few, steps, handed⟩ :=
            runCandidate_cases plan withEnvironment f [.inventory f.first]
          cases ran : runCandidate plan withEnvironment f.callback [.inventory f.first] with
          | mk answer entries =>
            rw [ran] at steps handed
            simp only at steps handed ⊢
            subst steps
            cases answer with
            | error failure => exact .unjoined failure admitted few
            | ok joined =>
              cases second : inventoryObservation r i plan f.second with
              | error failure => exact .unconcluded failure admitted few
              | ok post =>
                exact conclude_course admitted few second (handed joined rfl)

end Courses

/-! ## Finishing -/

section Finishing

variable {r : Registry} {i : Nat} {live : LiveSource} {plan : Plan}

theorem finishQaSource_used (fresh : Fresh r i live) (w : World) {disposition : Value}
    (valid : validateQaSourceDisposition disposition live.lease.transactionId = .ok verdict) :
    Finished r ((usedRegistry r i live).finishQaSource w i disposition).2 i live verdict := by
  have bound : i < r.qaLeases.length := (List.getElem?_eq_some_iff.mp fresh.leased).1
  have leased : (usedRegistry r i live).qaLeaseAt i = .ok (usedLive live .used).lease :=
    lent_lease fresh rfl
  have unfinished : (usedLive live .used).lease.finished = false := fresh.unfinished
  have judged : validateQaSourceDisposition disposition
      (usedLive live .used).lease.transactionId = .ok verdict := valid
  have planned : (usedRegistry r i live).finishPlan i disposition
      = .ok ⟨(usedLive live .used).lease, verdict, some (usedLive live .used)⟩ := by
    simp only [finishPlan, leased, bind, Except.bind, unfinished, Bool.false_eq_true, if_false,
      usedRegistry_live fresh, judged]
    rfl
  simp only [finishQaSource, planned, transact_ok]
  refine ⟨?_, ?_, ?_⟩
  · simp [Registry.finish, usedRegistry, consume, setSource, setRoot, setQaLease, note, usedLive,
      bound]
  · simp [Registry.finish, usedRegistry, consume, setSource, setRoot, setQaLease, note, usedLive]
  · rfl

variable {transaction : Bytes}

theorem validate_consumed (named : plan.get "physical_transaction_id" = .str transaction) :
    validateQaSourceDisposition (sourceDisposition plan (.text "consumed") .nil) transaction
      = .ok .consumed := by
  unfold sourceDisposition
  rw [named]
  unfold validateQaSourceDisposition
  simp only [bind_eq_ok, require_eq_ok]
  refine ⟨(), rfl, (), rfl, (), ⟨rfl, rfl, rfl⟩, ?_⟩
  rw [if_pos ⟨rfl, rfl⟩]
  rfl

theorem validate_quarantined {b : UInt8} {rest : Bytes}
    (named : plan.get "physical_transaction_id" = .str transaction) :
    validateQaSourceDisposition
        (sourceDisposition plan (.text "quarantined") (.str (b :: rest))) transaction
      = .ok (.quarantined (b :: rest)) := by
  unfold sourceDisposition
  rw [named]
  unfold validateQaSourceDisposition
  simp only [bind_eq_ok, require_eq_ok]
  refine ⟨(), rfl, (), rfl, (), ⟨rfl, rfl, rfl⟩, ?_⟩
  rw [if_neg (by rintro ⟨-, absent⟩; cases absent)]
  rfl

inductive Asks (pending : Value) : Repository.Verdict → Prop where
  | consumed (asked : pending.get "disposition" = .text "consumed") : Asks pending .consumed
  | quarantined {b : UInt8} {rest : Bytes}
      (asked : pending.get "disposition" = .text "quarantined")
      (code : pending.get "code" = .str (b :: rest)) : Asks pending (.quarantined (b :: rest))

theorem Asks.detached {gate : Gate} {out : Value} {seen : List Nat} (asks : Asks pending verdict)
    (copied : gate.detach seen pending = .ok out) : Asks out verdict := by
  cases asks with
  | consumed asked => exact .consumed (Gate.detach_get_str copied asked)
  | quarantined asked code =>
    exact .quarantined (Gate.detach_get_str copied asked) (Gate.detach_get_str copied code)

theorem Asks.valid (asks : Asks pending verdict)
    (named : plan.get "physical_transaction_id" = .str transaction) :
    validateQaSourceDisposition
        (sourceDisposition plan (pending.get "disposition") (finishReason pending)) transaction
      = .ok verdict := by
  cases asks with
  | consumed asked =>
    have reason : finishReason pending = .nil := by
      rw [finishReason, asked]
      rfl
    rw [asked, reason]
    exact validate_consumed named
  | quarantined asked code =>
    have reason : finishReason pending = pending.get "code" := by
      rw [finishReason, if_pos asked, code]
      rfl
    rw [asked, reason, code]
    exact validate_quarantined named

end Finishing

/-! ## What each way through asks for -/

section Told

variable {r : Registry} {i : Nat} {live : LiveSource} {plan : Plan} {f : Foreign}
  {steps : List Step}

structure Told (root : Root) (plan : Plan) (f : Foreign) (pending : Value) (steps : List Step)
    (verdict : Repository.Verdict) : Prop where
  asks : Asks pending verdict
  table : pending.isTable = true
  kind : pending.get "kind" = .text "error"
    ∨ pending.get "kind" = .text "report" ∧ Stable root plan f steps
  consumed : verdict = .consumed → Harmless root plan f steps

section

variable (root : Root)

theorem harmless_first (plan : Plan) (f : Foreign) :
    Harmless root plan f [.inventory f.first] := by
  refine Or.inl fun entry member => ?_
  simp at member

theorem preflightMissed_told (plan : Plan) (f : Foreign) (miss : Miss) :
    ∃ verdict, Told root plan f (preflightMissed miss) [.inventory f.first] verdict := by
  unfold preflightMissed
  split
  · exact ⟨_, .quarantined rfl rfl, rfl, Or.inl rfl, fun _ => harmless_first root plan f⟩
  · exact ⟨_, .consumed rfl, rfl, Or.inl rfl, fun _ => harmless_first root plan f⟩

theorem preflightMismatch_told (plan : Plan) (f : Foreign) :
    Told root plan f preflightMismatch [.inventory f.first] .consumed :=
  ⟨.consumed rfl, rfl, Or.inl rfl, fun _ => harmless_first root plan f⟩

theorem postflightFailed_told (contradicts : Bool) (process detail : Value)
    (steps : List Step) :
    ∃ verdict, Told root plan f (postflightFailed contradicts process detail) steps verdict := by
  cases contradicts with
  | false =>
    refine ⟨.quarantined (utf8 "source_drift"), .quarantined rfl rfl, rfl, Or.inl rfl, ?_⟩
    intro same
    cases same
  | true =>
    refine ⟨.quarantined (utf8 "trusted_inventory_contradiction"), .quarantined rfl rfl, rfl,
      Or.inl rfl, ?_⟩
    intro same
    cases same

theorem errorReuseClassV1_code {err : Value} {reuse : ReuseClass}
    (classed : errorReuseClassV1 err = .ok reuse) :
    ∃ b rest, err.get "code" = .str (b :: rest) := by
  have coded : ∀ rule ∈ topologies, utf8 rule.code ≠ [] := by decide
  simp only [errorReuseClassV1, errorTopology, bind_eq_ok, require_eq_ok] at classed
  obtain ⟨_, _, _, _, rule, found, -⟩ := classed
  split at found
  · cases found
  · next other searched =>
      have named := List.find?_some searched
      have member := mem_of_find?_eq_some searched
      obtain ⟨b, rest, split⟩ := exists_cons_of_ne_nil (coded other member)
      refine ⟨b, rest, ?_⟩
      rw [← split]
      simpa using named

theorem processFailed_told {root : Root} {reuse : ReuseClass} (stable : Stable root plan f steps)
    (handed : Joined plan f joined)
    (classed : errorReuseClassV1 (joined.get "process_error") = .ok reuse) :
    ∃ verdict, Told root plan f (processFailed reuse (joined.get "process_error")) steps
      verdict := by
  obtain ⟨b, rest, code⟩ := errorReuseClassV1_code classed
  cases reuse with
  | cleanPrestart =>
    exact ⟨.consumed, .consumed rfl, rfl, Or.inl rfl,
      fun _ => Or.inr ⟨stable, joined, handed, Or.inr classed⟩⟩
  | nonReusable =>
    refine ⟨.quarantined (b :: rest), .quarantined rfl ?_, rfl, Or.inl rfl, ?_⟩
    · rw [← code]
      exact Value.get_record (by simp only [List.map]; decide) (by simp)
    · intro same
      cases same

theorem Quiet.stable {post : Inventory} (fresh : Fresh r i live)
    (quiet : Quiet (r.consume i live) i plan f pre post joined) (entered : List Entry) :
    Stable live.root plan f (ranSteps f entered) :=
  ⟨pre, post, entered, inventoryObservation_observed fresh quiet.admitted.1,
    inventoryObservation_observed fresh quiet.second, quiet.same, rfl⟩

theorem Course.told (fresh : Fresh r i live)
    (course : Course (r.consume i live) i plan f (.ok pending) steps) :
    ∃ verdict, Told live.root plan f pending steps verdict := by
  cases course with
  | missed miss => exact preflightMissed_told live.root plan f miss
  | mismatched => exact ⟨_, preflightMismatch_told live.root plan f⟩
  | drifted contradicts process detail _ _ =>
    exact postflightFailed_told live.root contradicts process detail _
  | reported quiet few observed =>
    have stable := quiet.stable fresh ‹List Entry›
    exact ⟨.consumed, .consumed rfl, rfl, Or.inr ⟨rfl, stable⟩,
      fun _ => Or.inr ⟨stable, _, quiet.joined, Or.inl observed⟩⟩
  | broken quiet few classed =>
    exact processFailed_told (quiet.stable fresh ‹List Entry›) quiet.joined classed

/-- The candidate ran no more often than the callback entered, and only after the sealed
inventory had been seen. -/
structure Cautious (root : Root) (plan : Plan) (f : Foreign) (steps : List Step) : Prop where
  few : steps.countP Step.isRun ≤ f.callback.entries.length
  sealed : ∀ entry, .run entry ∈ steps →
    ∃ pre rest, steps = .inventory f.first :: rest ∧ Observed root plan f.first pre
      ∧ Sealed root pre

theorem cautious_first (plan : Plan) (f : Foreign) :
    Cautious root plan f [.inventory f.first] := by
  refine ⟨Nat.zero_le _, fun entry member => ?_⟩
  simp at member

end

theorem cautious_ran {entered : List Entry} {tail : List Step} (fresh : Fresh r i live)
    (names : plan.Names live) (admitted : Admitted (r.consume i live) i plan f pre)
    (few : entered.length ≤ f.callback.entries.length) (quiet : tail.countP Step.isRun = 0) :
    Cautious live.root plan f (.inventory f.first :: (entered.map .run ++ tail)) where
  few := by
    have counted : (entered.map Step.run).countP Step.isRun = entered.length := by
      rw [countP_map]
      exact countP_eq_length.mpr fun _ _ => rfl
    rw [countP_cons_of_neg (by simp [Step.isRun]), countP_append, counted, quiet]
    omega
  sealed := fun _ _ => ⟨pre, _, rfl, inventoryObservation_observed fresh admitted.1,
    matchesSeal_sealed names admitted.2⟩

theorem Course.cautious {answer : Except Failure Value} (fresh : Fresh r i live)
    (names : plan.Names live) (course : Course (r.consume i live) i plan f answer steps) :
    Cautious live.root plan f steps := by
  cases course with
  | unobserved | missed | mismatched => exact cautious_first live.root plan f
  | unjoined failure admitted few =>
    have ran := cautious_ran fresh names admitted few (show List.countP Step.isRun [] = 0 from rfl)
    rwa [append_nil] at ran
  | unconcluded failure admitted few | drifted contradicts process detail admitted few =>
    exact cautious_ran fresh names admitted few rfl
  | reported quiet few | broken quiet few => exact cautious_ran fresh names quiet.admitted few rfl

end Told

/-! ## The transaction -/

section Transaction

variable {r : Registry} {i : Nat} {live : LiveSource} {plan : Plan} {f : Foreign}
  {withEnvironment : Value}

theorem takeInventory_lent (fresh : Fresh r i live) (answer : Outcome) (steps : List Step) :
    takeInventory (r.consume i live) i plan answer steps
      = (inventoryObservation (r.consume i live) i plan answer, steps ++ [.inventory answer]) := by
  have held := fresh.held
  have checked := fresh.checked
  simp only [liveSource, held.root, held.source, held.handle, bind_eq_ok, require_eq_ok,
    pure_eq_ok] at checked
  obtain ⟨_, ⟨-, -, -, -, equipped, -⟩, -⟩ := checked
  have provider : (r.consume i live).provider = r.provider := rfl
  cases given : r.provider with
  | none => simp [given] at equipped
  | some value =>
    rw [given, Option.any_some] at equipped
    simp only [takeInventory, provider, given, Option.getD_some, equipped, if_true]

theorem consumerAnswer_error (handle provider : Value) (failure : Failure) :
    ∃ err, consumerAnswer handle provider (outcomeOf (.error failure)) = .error (.refused err) := by
  cases failure with
  | raised | fault => exact ⟨_, rfl⟩
  | refused err =>
    have absent : [Value.nil, err].getD 0 .nil = .nil := rfl
    have reason : [Value.nil, err].getD 1 .nil = err := rfl
    simp only [outcomeOf, consumerAnswer, reason]
    rw [if_neg (by simp), if_pos absent]
    cases copied : detach handle provider [] err with
    | error other =>
      obtain ⟨reason, rfl⟩ := Gate.detach_refusing _ _ _ other copied
      exact ⟨reason, rfl⟩
    | ok out => exact ⟨_, rfl⟩

theorem consumerAnswer_pending (handle provider : Value) (table : pending.isTable = true) :
    consumerAnswer handle provider (outcomeOf (.ok pending)) = detach handle provider [] pending := by
  cases pending with
  | table tag entries =>
    simp only [outcomeOf, consumerAnswer, getD_cons_zero]
    rw [if_neg (by simp), if_neg (by simp)]
  | _ => cases table

theorem abandon_safe (fresh : Fresh r i live) (names : plan.Names live) (w : World) (err : Value)
    (steps : List Step) (cautious : Cautious live.root plan f steps)
    (single : f.callback.entries.length ≤ 1) :
    ∃ verdict, Safe r i live plan f
      ⟨(abandon (usedRegistry r i live) w i plan err).1,
        (abandon (usedRegistry r i live) w i plan err).2, steps⟩ verdict := by
  refine ⟨.quarantined (utf8 "candidate_transaction_callback_failed"), ?_, ?_, cautious.sealed,
    ?_, ?_⟩
  · exact finishQaSource_used fresh w (validate_quarantined names.transaction)
  · exact cautious.few.trans single
  · intro v answered
    simp [abandon, bind_eq_ok] at answered
  · intro same
    cases same

theorem settle_safe (fresh : Fresh r i live) (names : plan.Names live) (w : World) {gate : Gate}
    {out : Value} {seen : List Nat} {steps : List Step}
    (told : Told live.root plan f pending steps verdict)
    (copied : gate.detach seen pending = .ok out) (cautious : Cautious live.root plan f steps)
    (single : f.callback.entries.length ≤ 1) :
    Safe r i live plan f
      ⟨(settle (usedRegistry r i live) w i plan out).1,
        (settle (usedRegistry r i live) w i plan out).2, steps⟩ verdict := by
  refine ⟨?_, cautious.few.trans single, cautious.sealed, ?_, told.consumed⟩
  · exact finishQaSource_used fresh w ((told.asks.detached copied).valid names.transaction)
  · intro v answered reported
    simp only [settle, bind_eq_ok, pure_eq_ok] at answered
    obtain ⟨_, -, _, -, rfl⟩ := answered
    rcases told.kind with error | ⟨-, stable⟩
    · rw [Value.get_deepCopy, Gate.detach_get_str copied error] at reported
      cases reported
    · exact stable

end Transaction

/-- Whatever the foreign parties answer, a plan for the lent source leaves it finished once
and closed once; the candidate ran at most once, only on the sealed inventory; a report
stands between equal inventories; and a consumed source was left harmless. -/
theorem candidate_transaction_safe (r : Registry) (w : World) (i : Nat)
    (supplied withEnvironment : Value) (f : Foreign) (plan : Plan) (live : LiveSource)
    (valid : exactPlan supplied = .ok plan) (fresh : r.withPlan i consumerValue = .ok live)
    (names : plan.Names live) (single : f.callback.entries.length ≤ 1) :
    ∃ verdict, Safe r i live plan f (execute r w i supplied withEnvironment f) verdict := by
  have lending := withPlan_fresh fresh
  have course : Course (r.consume i live) i plan f _ _ :=
    consumer_course withEnvironment (takeInventory_lent lending)
  have cautious := course.cautious lending names
  simp only [execute, valid, lent, fresh, withQaSource, transact_ok]
  change ∃ verdict, Safe r i live plan f _ verdict
  cases ended : consumer (r.consume i live) i plan withEnvironment f with
  | mk answer steps =>
    rw [ended] at course cautious
    cases answer with
    | error failure =>
      obtain ⟨err, refused⟩ := consumerAnswer_error (handleValue live.handle)
        (r.provider.getD .nil) failure
      simp only [refused]
      exact abandon_safe lending names w err steps cautious single
    | ok pending =>
      obtain ⟨verdict, told⟩ := course.told lending
      simp only [consumerAnswer_pending _ _ told.table]
      cases copied : detach (handleValue live.handle) (r.provider.getD .nil) [] pending with
      | error failure =>
        obtain ⟨err, rfl⟩ := Gate.detach_refusing _ _ _ failure copied
        exact abandon_safe lending names w err steps cautious single
      | ok out =>
        have truthy := Gate.detach_truthy copied told.table
        simp only [truthy, if_true]
        exact ⟨verdict, settle_safe lending names w told copied cautious single⟩

/-! ## A sample source -/

def sampleTransaction (digit : UInt8) : Bytes :=
  utf8 "qa-provider-transaction:" ++ List.replicate 64 digit

def samplePlan (transaction inventoryId inventoryDigest : Value) : Value :=
  let witness := .str (utf8 "qa-provider-witness:" ++ List.replicate 64 48)
  let environment := .str (utf8 "qa-environment:" ++ List.replicate 64 48)
  .record [
    ("protocol_version", .text "qa.candidate_transaction_plan.v0"),
    ("transaction_kind", .text "body_execution"),
    ("physical_transaction_id", transaction),
    ("physical_witness_id", witness),
    ("profile_id", profileId),
    ("environment_id", environment),
    ("repository_id", .text "repo"),
    ("root_authority_id", .text "root"),
    ("lifecycle_id", .text "life"),
    ("root_fingerprint", .text "print"),
    ("closure_id", .text "closure"),
    ("closure_request_id", .text "request"),
    ("candidate_seal_id", .text "seal"),
    ("candidate_seal_event_ref", .text "event"),
    ("inventory_id", inventoryId),
    ("inventory_digest", inventoryDigest),
    ("inventory_bounds", defaultInventoryBounds),
    ("native_request", .record [
      ("protocol_version", .text "qa.native_run_request.v1"),
      ("operation", .text "run_lua54_test_suite"),
      ("transaction_id", transaction),
      ("witness_id", witness),
      ("profile_id", profileId),
      ("environment_id", environment),
      ("entrypoint_relative_path", .text "tests/run.lua"),
      ("expected_exit_code", .nat 0),
      ("resource_limits", hardLimits)])]

def sampleSource : QaSource where
  handle := some 1
  grantId := utf8 "grant"
  state := .reserved
  transactionId := some (sampleTransaction 48)
  disposition := none

def sampleRoot (inventoryId inventoryDigest : Value) : Root where
  rootAuthorityId := utf8 "root"
  identity := ⟨.int 1, .int 2, utf8 "/p/r", .int 1, .int 3, utf8 "print"⟩
  lineageId := utf8 "l"
  repositoryId := utf8 "repo"
  state := .sealed
  revision := 4
  claim := none
  grantIds := []
  inFlight := []
  sealTransactionId := none
  sealRequestId := none
  closureId := some (utf8 "closure")
  inventoryId := none
  inventoryDigest := none
  inventoryBounds := defaultInventoryBounds
  closureProjection := .record [
    ("inventory_id", inventoryId),
    ("inventory_digest", inventoryDigest),
    ("inventory_bounds", defaultInventoryBounds)]
  quarantineReason := .nil
  qaSource := some sampleSource

def sampleLease : QaLease where
  rootId := utf8 "root"
  rootRevision := 4
  closureId := some (utf8 "closure")
  transactionId := sampleTransaction 48
  attempted := false
  finished := false
  disposition := none

def sampleLive (inventoryId inventoryDigest : Value) : LiveSource :=
  ⟨sampleLease, sampleRoot inventoryId inventoryDigest, sampleSource, 1⟩

def sampleHolding (inventoryId inventoryDigest : Value) : Registry :=
  { Registry.sampleRegistry with
    roots := fun id =>
      if id = utf8 "root" then some (sampleRoot inventoryId inventoryDigest) else none
    qaLeases := [sampleLease] }

def sampleIdentity : Value := .record [("device", .nat 1), ("inode", .nat 3)]

def sampleTree : Value :=
  .record [
    ("protocol_version", .text "repository.provider_inventory_result.v0"),
    ("operation", .text "inventory_tree"),
    ("outcome", .text "observed"),
    ("root_before", sampleIdentity),
    ("root_after", sampleIdentity),
    ("stable", .bool true),
    ("entries", .emptyTable),
    ("bounds_observed", .record
      (Inventory.boundNames.map (fun name => (name, defaultInventoryBounds.get name))
        ++ [("observed_entries", .nat 0), ("observed_total_bytes", .nat 0)])),
    ("mutation_primitive_entered", .bool false),
    ("published", .bool false),
    ("cost", .record [("tool_calls", .nat 1), ("file_writes", .nat 0), ("time_ms", .nat 1)])]

def sampleEntry : Entry where
  provider := .record [("run", .ref .function 9)]
  measured := .record [
    ("environment_id", .str (utf8 "qa-environment:" ++ List.replicate 64 48)),
    ("profile_id", profileId),
    ("provider_id", providerId),
    ("supervisor_abi", supervisorAbi)]
  run := .raised (.text "killed")

def sampleForeign (entries : List Entry) : Foreign where
  first := .returned [sampleTree]
  callback := ⟨entries, fun replies => replies.headD (.raised .nil)⟩
  second := .returned [sampleTree]

def samplePlanned (digit : UInt8) (inventoryId inventoryDigest : Bytes) : Plan :=
  let table := samplePlan (.str (sampleTransaction digit)) (.str inventoryId)
    (.str inventoryDigest)
  ⟨table.deepCopy, defaultInventoryBounds.deepCopy, (table.get "native_request").deepCopy⟩

theorem samplePlan_valid (a b : UInt8) (id digest : Bytes) :
    exactPlan (samplePlan (.str (sampleTransaction 48)) (.str (a :: id)) (.str (b :: digest)))
      = .ok (samplePlanned 48 (a :: id) (b :: digest)) := by
  rfl

theorem samplePlan_valid_other (a b : UInt8) (id digest : Bytes) :
    exactPlan (samplePlan (.str (sampleTransaction 49)) (.str (a :: id)) (.str (b :: digest)))
      = .ok (samplePlanned 49 (a :: id) (b :: digest)) := by
  rfl

theorem sampleHolding_fresh (inventoryId inventoryDigest : Value) :
    (sampleHolding inventoryId inventoryDigest).withPlan 0 consumerValue
      = .ok (sampleLive inventoryId inventoryDigest) := by
  rfl

set_option maxRecDepth 4000 in
theorem defaultInventoryBounds_same :
    Json.same defaultInventoryBounds.deepCopy defaultInventoryBounds = .ok true := by
  rfl

theorem samplePlanned_names (a b : UInt8) (id digest : Bytes) :
    (samplePlanned 48 (a :: id) (b :: digest)).Names
      (sampleLive (.str (a :: id)) (.str (b :: digest))) :=
  ⟨rfl, rfl, rfl, defaultInventoryBounds_same⟩

def sampleObserved : Except Failure (Except Miss Inventory) :=
  normalized (samplePlanned 48 [] []) sampleTree

theorem sampleObserved_inventory : ∃ inventory, sampleObserved = .ok (.ok inventory)
    ∧ (∃ id, inventory.inventoryId = 114 :: id) ∧ (∃ b digest, inventory.inventoryDigest = b :: digest)
    ∧ inventory.bounds = defaultInventoryBounds.deepCopy := by
  have checked : ((sampleObserved.toOption.bind Except.toOption).any fun inventory =>
      inventory.inventoryId.head? = some 114 && inventory.inventoryDigest.length = 64
        && inventory.bounds = defaultInventoryBounds.deepCopy) = true := by
    decide +kernel
  obtain ⟨inventory, found, checked⟩ := (Option.any_eq_true _ _).mp checked
  have observed : sampleObserved = .ok (.ok inventory) := by
    generalize sampleObserved = answer at found ⊢
    rcases answer with failure | refused | seen
    · cases found
    · cases found
    · cases found
      rfl
  simp only [Bool.and_eq_true, decide_eq_true_eq] at checked
  obtain ⟨⟨headed, long⟩, bounds⟩ := checked
  refine ⟨inventory, observed, ?_, ?_, bounds⟩
  · obtain ⟨id, split⟩ := List.head?_eq_some_iff.mp headed
    exact ⟨id, split⟩
  · exact exists_cons_of_length_pos (by omega)

theorem consumer_runs {r : Registry} {i : Nat} {plan : Plan} {f : Foreign}
    (equipped : ∀ answer steps, takeInventory r i plan answer steps
      = (inventoryObservation r i plan answer, steps ++ [.inventory answer]))
    (admitted : Admitted r i plan f pre) (addr : Nat)
    (measured : ∀ entry ∈ f.callback.entries, entry.isMeasured plan = true) :
    ∃ tail, (consumer r i plan (.ref .function addr) f).2
      = .inventory f.first :: (f.callback.entries.map .run ++ tail) := by
  have all : (f.callback.entries.filter fun entry => entry.isMeasured plan) = f.callback.entries :=
    filter_eq_self.mpr measured
  simp only [consumer, equipped, admitted.1, admitted.2, Reply.andThen, nil_append]
  have entered : (runCandidate plan (.ref .function addr) f.callback [.inventory f.first]).2
      = [.inventory f.first] ++ f.callback.entries.map .run := by
    rw [← congrArg (List.map Step.run) all]
    rfl
  cases ran : runCandidate plan (.ref .function addr) f.callback [.inventory f.first] with
  | mk answer entries =>
    rw [ran] at entered
    simp only at entered
    subst entered
    cases answer with
    | error failure => exact ⟨[], by simp⟩
    | ok joined =>
      cases inventoryObservation r i plan f.second with
      | error | ok => exact ⟨[.inventory f.second], by simp⟩

theorem sample_admitted (observed : sampleObserved = .ok (.ok inventory))
    (bounds : inventory.bounds = defaultInventoryBounds.deepCopy)
    (inventoryId inventoryDigest : Value) (entries : List Entry) :
    Admitted ((sampleHolding inventoryId inventoryDigest).consume 0
        (sampleLive inventoryId inventoryDigest)) 0
      (samplePlanned 48 inventory.inventoryId inventory.inventoryDigest) (sampleForeign entries)
      inventory := by
  have fresh := withPlan_fresh (sampleHolding_fresh inventoryId inventoryDigest)
  refine ⟨?_, ?_⟩
  · have stands : isAt (sampleLive inventoryId inventoryDigest).root.identity sampleIdentity
        = true := rfl
    have placed := inventoryRootMatches_lent fresh sampleIdentity sampleIdentity
    rw [stands] at placed
    have truthy : (sampleTree.truthy = false) = False := by
      rw [eq_iff_iff]
      exact ⟨fun absent => Bool.noConfusion absent, False.elim⟩
    have before : sampleTree.index "root_before" = .ok sampleIdentity := rfl
    have after : sampleTree.index "root_after" = .ok sampleIdentity := rfl
    simp only [sampleForeign, inventoryObservation, getD_cons_zero, truthy, if_false,
      before, after, bind, Except.bind, placed, Bool.and_self]
    have asked : (samplePlanned 48 inventory.inventoryId inventory.inventoryDigest).coordinates
        = (samplePlanned 48 [] []).coordinates := rfl
    rw [sampleObserved, normalized] at observed
    rw [normalized, asked]
    exact observed
  · have named : Value.str inventory.inventoryId
        = (samplePlanned 48 inventory.inventoryId inventory.inventoryDigest).get "inventory_id" :=
      rfl
    have digested : Value.str inventory.inventoryDigest
        = (samplePlanned 48 inventory.inventoryId inventory.inventoryDigest).get
          "inventory_digest" := rfl
    have bounded : (samplePlanned 48 inventory.inventoryId inventory.inventoryDigest).bounds
        = defaultInventoryBounds.deepCopy := rfl
    have same := defaultInventoryBounds_same
    rw [matchesSeal, if_pos ⟨named, digested⟩, bounds, bounded]
    simp only [Json.same, Json.encode_deepCopy] at same ⊢
    exact same

theorem sample_runs (observed : sampleObserved = .ok (.ok inventory))
    (bounds : inventory.bounds = defaultInventoryBounds.deepCopy)
    (valid : exactPlan (samplePlan (.str (sampleTransaction 48)) (.str inventory.inventoryId)
      (.str inventory.inventoryDigest))
        = .ok (samplePlanned 48 inventory.inventoryId inventory.inventoryDigest))
    (inventoryId inventoryDigest : Value) (entries : List Entry)
    (measured : ∀ entry ∈ entries, entry = sampleEntry) :
    ∃ tail, (execute (sampleHolding inventoryId inventoryDigest) Registry.sampleWorld 0
        (samplePlan (.str (sampleTransaction 48)) (.str inventory.inventoryId)
          (.str inventory.inventoryDigest)) (.ref .function 2) (sampleForeign entries)).steps
      = .inventory (sampleForeign entries).first :: (entries.map .run ++ tail) := by
  have fresh := sampleHolding_fresh inventoryId inventoryDigest
  have admitted := sample_admitted observed bounds inventoryId inventoryDigest entries
  have ran := consumer_runs (takeInventory_lent (withPlan_fresh fresh)) admitted 2 (by
    intro entry member
    rw [measured entry member]
    rfl)
  obtain ⟨tail, steps⟩ := ran
  refine ⟨tail, ?_⟩
  simp only [execute, valid, lent, fresh]
  exact steps

theorem sample_valid (named : ∃ id, inventory.inventoryId = 114 :: id)
    (digested : ∃ b digest, inventory.inventoryDigest = b :: digest) :
    exactPlan (samplePlan (.str (sampleTransaction 48)) (.str inventory.inventoryId)
        (.str inventory.inventoryDigest))
        = .ok (samplePlanned 48 inventory.inventoryId inventory.inventoryDigest)
      ∧ (samplePlanned 48 inventory.inventoryId inventory.inventoryDigest).Names
        (sampleLive (.str inventory.inventoryId) (.str inventory.inventoryDigest)) := by
  obtain ⟨id, named⟩ := named
  obtain ⟨b, digest, digested⟩ := digested
  rw [named, digested]
  exact ⟨samplePlan_valid 114 b id digest, samplePlanned_names 114 b id digest⟩

/-- The candidate is run on the inventory that was sealed, and raises. -/
theorem candidate_transaction_safe_sample : ∃ id digest : Bytes,
    let r := sampleHolding (.str id) (.str digest)
    let ended := execute r Registry.sampleWorld 0
      (samplePlan (.str (sampleTransaction 48)) (.str id) (.str digest)) (.ref .function 2)
      (sampleForeign [sampleEntry])
    .run sampleEntry ∈ ended.steps
      ∧ ∃ verdict, Safe r 0 (sampleLive (.str id) (.str digest)) (samplePlanned 48 id digest)
        (sampleForeign [sampleEntry]) ended verdict := by
  obtain ⟨inventory, observed, named, digested, bounds⟩ := sampleObserved_inventory
  obtain ⟨valid, names⟩ := sample_valid named digested
  obtain ⟨tail, steps⟩ := sample_runs observed bounds valid (.str inventory.inventoryId)
    (.str inventory.inventoryDigest) [sampleEntry] (by simp)
  refine ⟨inventory.inventoryId, inventory.inventoryDigest, by rw [steps]; simp, ?_⟩
  exact candidate_transaction_safe _ _ _ _ _ _ _ _ valid (sampleHolding_fresh _ _) names
    (by decide)

/-! ## Plans and callbacks the transaction is not safe for -/

theorem sample_unfinished :
    (execute (sampleHolding (.text "inventory") (.text "digest")) Registry.sampleWorld 0
        (samplePlan (.str (sampleTransaction 49)) (.text "inventory") (.text "digest"))
        (.ref .function 2) (sampleForeign [])).registry.qaLeases.map QaLease.finished = [false] := by
  decide +kernel

/-- A valid plan and a fresh lease with which the transaction is not safe. -/
def ViolatedAt (r : Registry) (live : LiveSource) (supplied : Value) (plan : Plan) (f : Foreign) :
    Prop :=
  exactPlan supplied = .ok plan ∧ r.withPlan 0 consumerValue = .ok live
    ∧ ¬ ∃ verdict, Safe r 0 live plan f
      (execute r Registry.sampleWorld 0 supplied (.ref .function 2) f) verdict

/-- Under a plan of another transaction the source is never finished; under a plan of another
inventory the candidate is run on a tree that was not sealed; and a callback that enters
twice runs the candidate twice. -/
theorem unnamed_plan_violates :
    ViolatedAt (sampleHolding (.text "inventory") (.text "digest"))
        (sampleLive (.text "inventory") (.text "digest"))
        (samplePlan (.str (sampleTransaction 49)) (.text "inventory") (.text "digest"))
        (samplePlanned 49 (utf8 "inventory") (utf8 "digest")) (sampleForeign [])
      ∧ ∃ id digest : Bytes,
        ViolatedAt (sampleHolding (.text "other") (.str digest))
            (sampleLive (.text "other") (.str digest))
            (samplePlan (.str (sampleTransaction 48)) (.str id) (.str digest))
            (samplePlanned 48 id digest) (sampleForeign [sampleEntry])
          ∧ ViolatedAt (sampleHolding (.str id) (.str digest)) (sampleLive (.str id) (.str digest))
            (samplePlan (.str (sampleTransaction 48)) (.str id) (.str digest))
            (samplePlanned 48 id digest) (sampleForeign [sampleEntry, sampleEntry]) := by
  obtain ⟨inventory, observed, named, digested, bounds⟩ := sampleObserved_inventory
  obtain ⟨valid, -⟩ := sample_valid named digested
  refine ⟨⟨samplePlan_valid_other _ _ _ _, sampleHolding_fresh _ _, ?_⟩, inventory.inventoryId,
    inventory.inventoryDigest, ⟨valid, sampleHolding_fresh _ _, ?_⟩,
    ⟨valid, sampleHolding_fresh _ _, ?_⟩⟩
  · rintro ⟨verdict, safe⟩
    have finished := congrArg (Option.map QaLease.finished) safe.finished.lease
    rw [← List.getElem?_map, sample_unfinished] at finished
    cases finished
  · rintro ⟨verdict, safe⟩
    obtain ⟨tail, steps⟩ := sample_runs observed bounds valid (.text "other")
      (.str inventory.inventoryDigest) [sampleEntry] (by simp)
    obtain ⟨pre, rest, -, seen, sealed⟩ := safe.runSealed sampleEntry (by rw [steps]; simp)
    obtain ⟨raw, others, observation, answered, -, -, made, verdict⟩ := seen.answered
    cases answered
    have asked : (samplePlanned 48 inventory.inventoryId inventory.inventoryDigest).coordinates
        = (samplePlanned 48 [] []).coordinates := rfl
    rw [asked] at made
    have again : sampleObserved = .ok (.ok pre) := by
      simp only [sampleObserved, normalized, made, verdict]
    rw [observed] at again
    cases again
    have closed := sealed.id
    obtain ⟨id, named⟩ := named
    rw [named] at closed
    cases closed
  · rintro ⟨verdict, safe⟩
    obtain ⟨tail, steps⟩ := sample_runs observed bounds valid (.str inventory.inventoryId)
      (.str inventory.inventoryDigest) [sampleEntry, sampleEntry] (by simp)
    have once := safe.runOnce
    rw [steps] at once
    simp [Step.isRun, countP_cons] at once

end Proc17.Runtime.Qa.CandidateTransaction
