import Proc17.Runtime.Repository.Change

/-!
# Every call is a course of changes

The remaining entry points, and the step function.
-/

namespace Proc17.Runtime.Repository.Registry

open Lua Core Relation

variable {asked : Value → Prop}

/-! ## Revocation -/

theorem answerGrant_state (reply : Reply Registry Unit) (id : Bytes) :
    (answerGrant reply id).2 = reply.2 := by
  obtain ⟨answer, r⟩ := reply
  cases answer with
  | error failure => rfl
  | ok u =>
    simp only [answerGrant, Reply.andThen]
    split
    · rfl
    · split <;> rfl

theorem revoke_changes (r : Registry) (w : World) (grantId : Value) :
    Changes asked r (r.revoke w grantId).2 := by
  unfold revoke
  cases grantId with
  | str id =>
    cases found : r.grants id with
    | none =>
      simp only [found]
      exact .refl
    | some grant =>
      by_cases ends : endsByRevocation grant.state = true
      · simp only [found, ends, if_true, answerGrant_state]
        exact .head (.ended id grant .revoked found (by decide))
          (closeHandle_changes _ w id)
      · simp only [found, ends, Bool.false_eq_true, if_false, answerGrant_state]
        exact .refl
  | _ => exact .refl

/-! ## Beginning an effect -/

structure Exact (r : Registry) (action : Value) (exact : ExactGrant) : Prop where
  grant : r.grants exact.grantId = some exact.grant
  root : r.roots exact.grant.rootAuthorityId = some exact.root
  admits : exact.root.state = .unclaimed
    ∨ claimAdmits exact.root exact.envelope exact.grant.repositoryId = true
  isOpen : closedRoot exact.root.state = none
  envelope : envelopeOf action = some exact.envelope
  integral : exact.envelope.generation.isIntegral = true
  named : (action.get "capability").get "grant_id" = .str exact.grantId
  path : Number.lt exact.grant.bounds.maxRelativePathBytes
    (.int exact.envelope.relativePath.length) = false
  bytes : Number.lt exact.grant.bounds.maxContentBytes exact.envelope.contentBytes = false

variable {action : Value} {envelope : Envelope} {r : Registry} {i : Nat} {live : LiveLease}

theorem envelopeOf_facts (read : envelopeOf action = some envelope) :
    action.get "action_id" = .str envelope.actionId
      ∧ action.get "generation" = .num envelope.generation := by
  unfold envelopeOf at read
  split at read
  · next actionId _ generation _ _ _ =>
      cases read
      exact ⟨actionId, generation⟩
  · cases read

theorem requireEnvelope_facts (checked : requireEnvelope action = .ok envelope) :
    envelopeOf action = some envelope ∧ envelope.generation.isIntegral = true := by
  unfold requireEnvelope at checked
  cases read : envelopeOf action with
  | none => simp [read] at checked
  | some given =>
    simp only [read, bind_eq_ok, require_eq_ok, pure_eq_ok] at checked
    obtain ⟨-, ⟨-, -, -, -, -, -, -, positive, -⟩, rfl⟩ := checked
    rw [(envelopeOf_facts read).2] at positive
    simp only [Value.isPositiveInteger, Bool.and_eq_true] at positive
    exact ⟨rfl, positive.2⟩

theorem requireOpen_eq_ok (state : RootState) (u : Unit) :
    requireOpen state = .ok u ↔ closedRoot state = none := by
  unfold requireOpen
  cases closedRoot state <;> simp

theorem exactActionGrant_ok {exact : ExactGrant} (found : r.exactActionGrant action = .ok exact) :
    Exact r action exact ∧ r.fixedGrantIdentity exact.grant action = true := by
  simp only [exactActionGrant, bind_eq_ok] at found
  obtain ⟨envelope, checked, found⟩ := found
  cases named : (action.get "capability").get "grant_id" with
  | str grantId =>
    simp only [named] at found
    cases granted : r.grants grantId with
    | none => simp [granted] at found
    | some grant =>
      simp only [granted, bind_eq_ok, require_eq_ok] at found
      obtain ⟨-, -, -, ⟨identity, -⟩, found⟩ := found
      cases rooted : r.roots grant.rootAuthorityId with
      | none => simp [rooted] at found
      | some root =>
        simp only [rooted, bind_eq_ok, require_eq_ok, requireOpen_eq_ok, pure_eq_ok] at found
        obtain ⟨-, isOpen, -, admits, -, ⟨path, bytes⟩, rfl⟩ := found
        obtain ⟨read, integral⟩ := requireEnvelope_facts checked
        exact ⟨⟨granted, rooted, admits, isOpen, read, integral, named, path, bytes⟩, identity⟩
  | _ => simp [named] at found

theorem exactActionGrant_facts {exact : ExactGrant} (found : r.exactActionGrant action = .ok exact) :
    Exact r action exact :=
  (exactActionGrant_ok found).1

theorem claimAdmits_facts {root : Root} {repositoryId : Bytes}
    (admits : claimAdmits root envelope repositoryId = true) :
    ∃ claim, root.claim = some claim ∧ claim.lineageId = envelope.lineageId
      ∧ Number.eq claim.generation envelope.generation = true
      ∧ claim.repositoryId = repositoryId := by
  unfold claimAdmits at admits
  cases known : root.claim with
  | none => simp [known] at admits
  | some claim =>
    simp only [known, Bool.and_eq_true, decide_eq_true_eq] at admits
    exact ⟨claim, rfl, admits.1.1, admits.1.2, admits.2⟩

theorem requireUnspent_facts {grant : Grant} (read : envelopeOf action = some envelope) {u : Unit}
    (unspent : requireUnspent grant action = .ok u) :
    grant.actionDispatches envelope.actionId = false
      ∧ limitExhausted grant (.num envelope.generation) = false := by
  have ⟨named, generation⟩ := envelopeOf_facts read
  simp only [requireUnspent, named, generation, bind_eq_ok, require_eq_ok] at unspent
  exact ⟨unspent.choose_spec.1, unspent.choose_spec.2⟩

theorem beginEffect_changes (r : Registry) (derive : DeriveIntent) (action inst : Value)
    (called : asked action) :
    Changes asked r (r.beginEffect derive action inst).2 := by
  unfold beginEffect
  refine transact_state .refl fun plan planned => ?_
  simp only [beginEffectPlan, bind_eq_ok, pure_eq_ok] at planned
  obtain ⟨_, -, _, -, exact, found, _, unspent, ⟨root, claim⟩, claimed, rfl⟩ := planned
  have facts := exactActionGrant_facts found
  obtain ⟨free, within⟩ := requireUnspent_facts facts.envelope unspent
  unfold claimedRoot at claimed
  cases state : exact.root.state with
  | unclaimed =>
    simp only [state, bind_eq_ok, pure_eq_ok, Prod.mk.injEq] at claimed
    obtain ⟨claim', made, rfl, rfl⟩ := claimed
    simp only [newClaim, bind_eq_ok, pure_eq_ok] at made
    obtain ⟨lifecycleId, -, rfl⟩ := made
    simp only [claimRoot, state, if_true]
    refine ReflTransGen.tail (.single (.rootMoved _ exact.root _ facts.root ?_))
      (.leased _ action ?_ called)
    · exact ⟨by rw [state]; exact .claimed, rfl, .inr state, rfl, rfl, rfl⟩
    exact ⟨facts.grant, setRoot_roots_self r _ _, rfl, rfl, rfl,
      Number.eq_self_of_isIntegral facts.integral, rfl, facts.envelope, facts.named, free,
      within, facts.path, facts.bytes⟩
  | materializing =>
    obtain ⟨claim', known, lineage, generation, repository⟩ :=
      claimAdmits_facts (facts.admits.resolve_left (by simp [state]))
    simp only [state, known, pure_eq_ok, Prod.mk.injEq] at claimed
    obtain ⟨rfl, rfl⟩ := claimed
    simp only [claimRoot, state, reduceCtorEq, if_false]
    exact .single (.leased _ _ ⟨facts.grant, facts.root, state, known, lineage, generation,
      repository, facts.envelope, facts.named, free, within, facts.path, facts.bytes⟩ called)
  | _ =>
    have isOpen := facts.isOpen
    simp [closedRoot, state] at isOpen

/-! ## Exercising a lease -/

structure Standing (r : Registry) (i : Nat) (live : LiveLease) : Prop where
  lease : r.effectLeases[i]? = some live.lease
  root : r.roots live.lease.rootId = some live.root
  grant : r.grants live.lease.grantId = some live.grant
  handle : live.grant.handle = some live.handle
  active : live.grant.state = .active ∧ live.grant.revision = live.lease.grantRevision
  materializing : live.root.state = .materializing ∧ live.root.revision = live.lease.rootRevision
    ∧ (live.root.claim.any fun claim => claim.lifecycleId = live.lease.lifecycleId
      && Number.eq claim.generation live.lease.generation) = true

theorem leaseState_eq_ok : r.leaseState i = .ok live ↔ Standing r i live := by
  constructor
  · intro checked
    unfold leaseState at checked
    cases leased : r.effectLeases[i]? with
    | none => simp [leased] at checked
    | some lease =>
      simp only [leased] at checked
      cases rooted : r.roots lease.rootId with
      | none => simp [rooted] at checked
      | some root =>
        cases granted : r.grants lease.grantId with
        | none => simp [rooted, granted] at checked
        | some grant =>
          simp only [rooted, granted, bind_eq_ok] at checked
          obtain ⟨-, -, checked⟩ := checked
          cases held : grant.handle with
          | none => split at checked <;> simp [held] at checked
          | some handle =>
            split at checked
            · cases checked
            · cases checked
            · simp only [held, bind_eq_ok, require_eq_ok, pure_eq_ok] at checked
              obtain ⟨-, active, -, materializing, rfl⟩ := checked
              exact ⟨leased, rooted, granted, held, active, materializing⟩
  · intro standing
    obtain ⟨leased, rooted, granted, held, active, materializing⟩ := standing
    simp [leaseState, leased, rooted, granted, active.1, held, active.2, materializing,
      requireOpen, closedRoot, require]

theorem Standing.marked (facts : Standing r i live) (marks : List Bytes) :
    Entered (r.setRoot live.lease.rootId { live.root with inFlight := marks }) i live.lease
      live.handle :=
  ⟨facts.lease, ⟨_, setRoot_roots_self r _ _, facts.materializing.1, facts.materializing.2.1⟩,
    live.grant, facts.grant, facts.handle⟩

theorem Standing.touched (facts : Standing r i live) (marks : List Bytes) :
    Change asked r (r.setRoot live.lease.rootId { live.root with inFlight := marks }) :=
  .rootTouched _ live.root _ facts.root (kept_marks live.root live.root.inFlight marks)

theorem createPlan_facts {request : Value} {plan : CreatePlan}
    (planned : r.createPlan i request = .ok plan) :
    Standing r i plan.live ∧ plan.live.lease.createCalled = false
      ∧ Fits plan.live.lease (providerRequest plan) := by
  simp only [createPlan, bind_eq_ok, require_eq_ok] at planned
  obtain ⟨live, checked, -, uncalled, -, -, planned⟩ := planned
  cases given : request.get "content" with
  | str content =>
    simp only [given, bind_eq_ok, require_eq_ok, pure_eq_ok] at planned
    obtain ⟨-, ⟨-, -, -, -, -, -, -, -, -, length, sha256⟩, rfl⟩ := planned
    exact ⟨leaseState_eq_ok.mp checked, uncalled, rfl, rfl, rfl, length, sha256⟩
  | _ => simp [given] at planned

theorem effectCreate_changes (r : Registry) (w : World) (i : Nat) (request : Value) :
    Changes asked r (r.effectCreate w i request).2 := by
  unfold effectCreate
  refine transact_state .refl fun plan planned => ?_
  obtain ⟨facts, uncalled, fits⟩ := createPlan_facts planned
  simp only
  set lease := { plan.live.lease with createCalled := true }
  have refused : Changes asked r (r.setEffectLease i lease) :=
    .single (.createRefused i plan.live.lease facts.lease)
  have enters : ∀ root dispatch, (r.setEffectLease i lease).roots lease.rootId = some root →
      Changes asked r ((r.setEffectLease i lease).enterProvider lease.rootId root dispatch
        (.created (lease.warrant i) plan.live.handle (providerRequest plan))) := by
    intro root dispatch found
    have same : plan.live.root = root := Option.some.inj (facts.root.symm.trans found)
    subst same
    exact .head (facts.touched _)
      (.single (.created i plan.live.lease plan.live.handle _ (facts.marked _) uncalled fits))
  have whole := withProviderDispatch_changes r _ w lease.rootId lease.lifecycleId
    lease.actionId "create_text_file" _ refused enters
  obtain ⟨failure, same⟩ | ⟨root, dispatch, found, ⟨values, -, same⟩ | ⟨err, failure, -, -, same⟩⟩ :=
    withProviderDispatch_cases (r.setEffectLease i lease) w lease.rootId lease.lifecycleId
      lease.actionId "create_text_file"
      (.created (lease.warrant i) plan.live.handle (providerRequest plan))
  · rw [same] at whole ⊢
    exact whole
  · rw [same] at whole ⊢
    simp only [Reply.andThen, recordCreate]
    split
    · exact whole
    · refine whole.tail (.createReturned i lease ?_ ⟨_, _, List.mem_cons_self ..⟩)
      exact List.getElem?_set_self (List.getElem?_eq_some_iff.mp facts.lease).1
  · rw [same] at whole ⊢
    exact whole

theorem effectReadBack_changes (r : Registry) (w : World) (i : Nat) :
    Changes asked r (r.effectReadBack w i).2 := by
  unfold effectReadBack
  refine transact_state .refl fun live planned => ?_
  simp only [readPlan, bind_eq_ok, require_eq_ok, pure_eq_ok] at planned
  obtain ⟨live', checked, -, written, -, unread, rfl⟩ := planned
  have facts := leaseState_eq_ok.mp checked
  refine withProviderDispatch_changes r _ w _ _ _ _ _
    (.single (.readRefused i live'.lease facts.lease)) ?_
  intro root dispatch found
  have same : live'.root = root := Option.some.inj (facts.root.symm.trans found)
  subst same
  exact .head (facts.touched _)
    (.single (.readBack i live'.lease live'.handle (facts.marked _) written unread))

theorem quarantineEffect_changes (r : Registry) (w : World) (i : Nat) (reason : Value) :
    Changes asked r (r.quarantineEffect w i reason).2 := by
  unfold quarantineEffect
  cases r.effectLeases[i]? with
  | none => exact .refl
  | some lease => exact quarantineRoot_changes r w lease.rootId reason

/-! ## Seals -/

theorem beginCandidateSeal_changes (r : Registry) (request : Value) :
    Changes asked r (r.beginCandidateSeal request).2 := by
  unfold beginCandidateSeal
  refine transact_state .refl fun plan planned => ?_
  simp only [sealPlan, bind_eq_ok] at planned
  obtain ⟨requestId, -, planned⟩ := planned
  cases named : request.get "root_authority_id" with
  | str rootId =>
    simp only [named] at planned
    cases found : r.roots rootId with
    | none => simp [found] at planned
    | some root =>
      simp only [found, sealPlanFor, bind_eq_ok, pure_eq_ok] at planned
      obtain ⟨_, -, claim, claimed, _, -, _, -, _, -, _, -, ⟨grantId, grant⟩, -, _, -, rfl⟩ :=
        planned
      have state : root.state = .materializing := by
        cases state : root.state <;> simp_all [materializingClaim]
      refine .head (.rootMoved rootId root _ found ?_) (.single (.sealMarked _))
      exact ⟨by rw [state]; exact .pending, rfl, .inl rfl, rfl, rfl, rfl⟩
  | _ => simp [named] at planned

structure LivePending (r : Registry) (live : LiveSeal) : Prop where
  root : r.roots live.lease.rootId = some live.root
  pending : live.root.state = .sealPending
  grant : r.grants live.lease.grantId = some live.grant
  handle : live.grant.handle = some live.handle

theorem sealLeaseState_facts {live : LiveSeal} (checked : r.sealLeaseState i = .ok live) :
    LivePending r live := by
  unfold sealLeaseState at checked
  cases leased : r.sealLeases[i]? with
  | none => simp [leased] at checked
  | some lease =>
    simp only [leased, bind_eq_ok] at checked
    obtain ⟨-, -, checked⟩ := checked
    cases rooted : r.roots lease.rootId with
    | none => simp [rooted] at checked
    | some root =>
      cases granted : r.grants lease.grantId with
      | none => simp [rooted, granted] at checked
      | some grant =>
        simp only [rooted, granted, bind_eq_ok] at checked
        obtain ⟨-, -, checked⟩ := checked
        cases claimed : root.claim with
        | none => simp [claimed] at checked
        | some claim =>
          simp only [claimed, bind_eq_ok, require_eq_ok] at checked
          obtain ⟨-, ⟨pending, -⟩, checked⟩ := checked
          cases held : grant.handle with
          | none => simp [held] at checked
          | some handle =>
            simp only [held, bind_eq_ok, pure_eq_ok] at checked
            obtain ⟨-, -, rfl⟩ := checked
            exact ⟨rooted, pending, granted, held⟩

section

variable (r : Registry)

theorem inventoryCandidate_changes (w : World) (i : Nat) (input : Value) :
    Changes asked r (r.inventoryCandidate w i input).2 := by
  unfold inventoryCandidate
  refine transact_state .refl fun live _ => ?_
  have marked : Changes asked r (r.setSealLease i { live.lease with inventoryCalled := true }) :=
    .single (.sealMarked _)
  refine withProviderDispatch_changes r _ w _ _ _ _ _ marked ?_
  intro root dispatch found
  refine marked.trans (.head (.rootTouched _ root _ found ?_) (.single (.inventoried i live.handle)))
  exact kept_marks root root.inFlight _

theorem abortCandidateSeal_changes (i : Nat) (proof : Value) :
    Changes asked r (r.abortCandidateSeal i proof).2 := by
  unfold abortCandidateSeal
  refine transact_state .refl fun live planned => ?_
  rw [answerRoot_state]
  simp only [abortPlan, bind_eq_ok, pure_eq_ok] at planned
  obtain ⟨live', checked, _, -, _, -, _, -, _, -, rfl⟩ := planned
  have facts := sealLeaseState_facts checked
  refine .head (.rootMoved live'.lease.rootId live'.root _ facts.root ?_)
    (.single (.sealMarked _))
  exact ⟨by rw [facts.pending]; exact .aborted, rfl, .inl rfl, rfl, rfl, rfl⟩

theorem commitSeal_changes (w : World) (i : Nat) (plan : CommitPlan)
    (facts : LivePending r plan.live) : Changes asked r (r.commitSeal w i plan).2 := by
  unfold commitSeal
  simp only
  split
  · refine .head (.rootMoved plan.live.lease.rootId plan.live.root (r.sealedRoot plan)
      facts.root ?_) (.single (.sealMarked _))
    exact ⟨by rw [facts.pending]; exact .sealed, rfl, .inl rfl, rfl, rfl, rfl⟩
  · next bare =>
      have unsourced : plan.live.root.qaSource = none := by simpa [sealedRoot] using bare
      have shape : (r.sealRoot i plan).retainSource (r.sealedRoot plan) plan
          = { ((r.moveRoot plan.live.lease.rootId
                { r.sealedRoot plan with qaSource := some (newSource plan) }).advance.setGrant
              plan.live.lease.grantId { plan.live.grant with handle := none }) with
              sealLeases := r.sealLeases.set i { plan.live.lease with consumed := true } } := by
        simp [sealRoot, retainSource, moveRoot, setRoot, setGrant, note, advance, setSealLease,
          Function.update_idem, sealedRoot]
      rw [shape]
      refine .head (.committed plan.live.lease.rootId plan.live.lease.grantId plan.live.root
        { r.sealedRoot plan with qaSource := some (newSource plan) } plan.live.grant
        plan.live.handle (newSource plan) facts.root facts.pending unsourced facts.grant facts.handle
        rfl rfl rfl rfl rfl rfl rfl rfl rfl) ?_
      exact .head (.sealMarked _) (endGrants_changes w .sealed (by decide) _ _)

theorem commitCandidateSeal_changes (w : World) (i : Nat) (input : Value) :
    Changes asked r (r.commitCandidateSeal w i input).2 := by
  unfold commitCandidateSeal
  refine transact_state .refl fun plan planned => ?_
  simp only [commitPlan, bind_eq_ok, pure_eq_ok] at planned
  obtain ⟨live, checked, _, -, _, -, _, -, _, -, _, -, _, -, _, -, _, -, _, -, _, -, rfl⟩ :=
    planned
  exact commitSeal_changes r w i _ (sealLeaseState_facts checked)

theorem quarantineCandidateSeal_changes (w : World) (i : Nat) (reason : Value) :
    Changes asked r (r.quarantineCandidateSeal w i reason).2 := by
  unfold quarantineCandidateSeal
  cases r.sealLeases[i]? with
  | none => exact .refl
  | some lease =>
    have whole : Changes asked r (r.quarantineRoot w lease.rootId reason).2 :=
      quarantineRoot_changes r w lease.rootId reason
    simp only
    cases answer : (r.quarantineRoot w lease.rootId reason) with
    | mk result s =>
      rw [answer] at whole
      cases result with
      | error failure => exact whole
      | ok projection => exact whole.tail (.sealMarked _)

/-! ## QA sources -/

theorem reserveQaSource_changes (binding : Value) :
    Changes asked r (r.reserveQaSource binding).2 := by
  unfold reserveQaSource
  refine transact_state .refl fun plan planned => ?_
  simp only [reservePlan, bind_eq_ok] at planned
  obtain ⟨⟨bounds, kind⟩, -, planned⟩ := planned
  cases named : binding.get "root_authority_id" with
  | str rootId =>
    simp only [named] at planned
    cases found : r.roots rootId with
    | none => simp [found] at planned
    | some root =>
      simp only [found, reservePlanFor, bind_eq_ok, require_eq_ok] at planned
      obtain ⟨-, sealed, planned⟩ := planned
      cases claimed : root.claim with
      | none => simp [claimed] at planned
      | some claim =>
        cases sourced : root.qaSource with
        | none => simp [claimed, sourced] at planned
        | some source =>
          simp only [claimed, sourced, bind_eq_ok, require_eq_ok] at planned
          obtain ⟨_, -, _, -, _, -, _, -, planned⟩ := planned
          split at planned
          · next free =>
              simp only [bind_eq_ok, pure_eq_ok] at planned
              obtain ⟨_, -, transactionId, -, rfl⟩ := planned
              exact .single (.reserved _ found sealed sourced free.2)
          · cases planned
  | _ => simp [named] at planned

end

structure LiveHeld (r : Registry) (lease : QaLease) (live : LiveSource) : Prop where
  own : live.lease = lease
  root : r.roots lease.rootId = some live.root
  source : live.root.qaSource = some live.source
  handle : live.source.handle = some live.handle

theorem liveSource_facts {lease : QaLease} {live : LiveSource}
    (checked : r.liveSource lease = .ok live) : LiveHeld r lease live := by
  unfold liveSource at checked
  cases rooted : r.roots lease.rootId with
  | none => simp [rooted] at checked
  | some root =>
    cases sourced : root.qaSource with
    | none => simp [rooted, sourced] at checked
    | some source =>
      cases held : source.handle with
      | none => simp [rooted, sourced, held] at checked
      | some handle =>
        simp only [rooted, sourced, held, bind_eq_ok, pure_eq_ok] at checked
        obtain ⟨_, -, rfl⟩ := checked
        exact ⟨rfl, rooted, sourced, held⟩

theorem qaLeaseAt_facts {lease : QaLease} (found : r.qaLeaseAt i = .ok lease) :
    r.qaLeases[i]? = some lease := by
  unfold qaLeaseAt at found
  split at found
  · cases found
  · next leased =>
      cases found
      exact leased

theorem withQaSource_changes (r : Registry) (w : World) (i : Nat) (consumer : Value) :
    Changes asked r (r.withQaSource w i consumer).2 := by
  unfold withQaSource
  refine transact_state .refl fun live planned => ?_
  simp only [withPlan, bind_eq_ok, require_eq_ok, pure_eq_ok] at planned
  obtain ⟨lease, leased, -, -, live', checked, -, -, -, untried, rfl⟩ := planned
  obtain ⟨rfl, rooted, sourced, held⟩ := liveSource_facts checked
  refine .head (.consumed i live' (qaLeaseAt_facts leased) rooted sourced untried)
    (.single (.rootTouched live'.lease.rootId
      { live'.root with qaSource := some { live'.source with state := .inUse } } _
      (setRoot_roots_self _ _ _) ?_))
  exact ⟨rfl, rfl, rfl, rfl, rfl, rfl, rfl, rfl, .inr ⟨_, .used, rfl, rfl⟩⟩

theorem finishQaSource_changes (r : Registry) (w : World) (i : Nat) (disposition : Value) :
    Changes asked r (r.finishQaSource w i disposition).2 := by
  unfold finishQaSource
  refine transact_state .refl fun plan planned => ?_
  simp only [finishPlan, bind_eq_ok] at planned
  obtain ⟨lease, leased, planned⟩ := planned
  by_cases finished : lease.finished = true
  · simp only [finished, if_true, bind_eq_ok, pure_eq_ok] at planned
    obtain ⟨_, -, _, -, rfl⟩ := planned
    exact .refl
  · simp only [finished, Bool.false_eq_true, if_false, bind_eq_ok, pure_eq_ok] at planned
    obtain ⟨live, checked, verdict, -, _, -, rfl⟩ := planned
    obtain ⟨rfl, rooted, sourced, held⟩ := liveSource_facts checked
    exact .single (.finished i live verdict (qaLeaseAt_facts leased) rooted sourced held
      (by simpa using finished))

/-! ## Steps -/

theorem step_changes (derive : DeriveIntent) (r : Registry) (s : Step)
    (called : ∀ action inst, s.call = .beginEffect action inst → asked action) :
    Changes asked r ((machine derive).after r s) := by
  obtain ⟨call, w⟩ := s
  cases call with
  | mint input => exact mint_changes r w input
  | revoke grantId => exact revoke_changes r w grantId
  | beginEffect action inst =>
    exact beginEffect_changes r derive action inst (called action inst rfl)
  | effectCreate i request => exact effectCreate_changes r w i request
  | effectReadBack i => exact effectReadBack_changes r w i
  | quarantineEffect i reason => exact quarantineEffect_changes r w i reason
  | beginCandidateSeal request => exact beginCandidateSeal_changes r request
  | inventoryCandidate i input => exact inventoryCandidate_changes r w i input
  | abortCandidateSeal i proof => exact abortCandidateSeal_changes r i proof
  | commitCandidateSeal i input => exact commitCandidateSeal_changes r w i input
  | quarantineCandidateSeal i reason => exact quarantineCandidateSeal_changes r w i reason
  | reserveQaSource binding => exact reserveQaSource_changes r binding
  | withQaSource i consumer => exact withQaSource_changes r w i consumer
  | finishQaSource i disposition => exact finishQaSource_changes r w i disposition

theorem run_changes (derive : DeriveIntent) (steps : List Step) (r : Registry) :
    Changes (fun _ => True) r ((machine derive).run r steps) := by
  induction steps generalizing r with
  | nil => exact .refl
  | cons s rest ih => exact (step_changes derive r s fun _ _ _ => trivial).trans (ih _)

theorem changes_keep (inv : Registry → Prop) (change : ∀ r r', Change asked r r' → inv r → inv r')
    {r' : Registry} (course : Changes asked r r') (holds : inv r) : inv r' := by
  induction course with
  | refl => exact holds
  | tail _ last ih => exact change _ _ last ih

theorem run_keeps (derive : DeriveIntent) (inv : Registry → Prop)
    (change : ∀ r r', Change (fun _ => True) r r' → inv r → inv r') (steps : List Step) (r : Registry)
    (holds : inv r) : inv ((machine derive).run r steps) :=
  changes_keep inv change (run_changes derive steps r) holds

end Proc17.Runtime.Repository.Registry
