import Mathlib.Logic.Relation
import Proc17.Runtime.Repository.Machine

/-!
# What a call can do to the registry

Every call is a finite course of changes, and a change carries the checks the source
made before it.  The invariants of the registry are proved once for each kind of change.
-/

namespace Proc17.Runtime.Repository.Registry

open Lua Core Relation Option

/-! ## Changes of a root -/

inductive Move : RootState → RootState → Prop where
  | claimed : Move .unclaimed .materializing
  | pending : Move .materializing .sealPending
  | aborted : Move .sealPending .materializing
  | sealed : Move .sealPending .sealed
  | quarantined {state : RootState} (unsealed : state ≠ .sealed)
      (fresh : state ≠ .quarantined) : Move state .quarantined

/-- A root takes another state, and a new revision with it. -/
structure Moved (r : Registry) (root root' : Root) : Prop where
  move : Move root.state root'.state
  revision : root'.revision = r.nextRevision
  claim : root'.claim = root.claim ∨ root.state = .unclaimed
  lineageId : root'.lineageId = root.lineageId
  repositoryId : root'.repositoryId = root.repositoryId
  qaSource : root'.qaSource = root.qaSource

structure Kept (root root' : Root) : Prop where
  state : root'.state = root.state
  revision : root'.revision = root.revision
  claim : root'.claim = root.claim
  lineageId : root'.lineageId = root.lineageId
  repositoryId : root'.repositoryId = root.repositoryId
  closureId : root'.closureId = root.closureId
  inventoryDigest : root'.inventoryDigest = root.inventoryDigest
  closureProjection : root'.closureProjection = root.closureProjection
  qaSource : root'.qaSource = root.qaSource ∨ ∃ source use, root.qaSource = some source
    ∧ root'.qaSource = some { source with state := use }

/-! ## Changes of grants and leases -/

/-- A grant as `mint` makes it. -/
structure Fresh (r : Registry) (grant : Grant) : Prop where
  handle : grant.handle = some r.nextHandle
  counts : grant.effectCounts = fun _ => 0
  dispatches : grant.actionDispatches = fun _ => false
  positive : Number.lt grant.bounds.maxEffectsPerGeneration (.int 1) = false
  integral : grant.bounds.maxEffectsPerGeneration.isIntegral = true
  ceiling : Number.lt (.int 1024) grant.bounds.maxRelativePathBytes = false
  whole : grant.bounds.maxRelativePathBytes.isIntegral = true

structure Admitted (r : Registry) (plan : EffectPlan) (action : Value) : Prop where
  grant : r.grants plan.exact.grantId = some plan.exact.grant
  root : r.roots plan.exact.grant.rootAuthorityId = some plan.root
  materializing : plan.root.state = .materializing
  claim : plan.root.claim = some plan.claim
  lineage : plan.claim.lineageId = plan.exact.envelope.lineageId
  generation : Number.eq plan.claim.generation plan.exact.envelope.generation = true
  repository : plan.claim.repositoryId = plan.exact.grant.repositoryId
  envelope : envelopeOf action = some plan.exact.envelope
  named : (action.get "capability").get "grant_id" = .str plan.exact.grantId
  unspent : plan.exact.grant.actionDispatches plan.exact.envelope.actionId = false
  within : limitExhausted plan.exact.grant (.num plan.exact.envelope.generation) = false
  path : Number.lt plan.exact.grant.bounds.maxRelativePathBytes
    (.int plan.exact.envelope.relativePath.length) = false
  bytes : Number.lt plan.exact.grant.bounds.maxContentBytes
    plan.exact.envelope.contentBytes = false

structure Entered (r : Registry) (i : Nat) (lease : EffectLease) (handle : Nat) : Prop where
  found : r.effectLeases[i]? = some lease
  root : ∃ root, r.roots lease.rootId = some root ∧ root.state = .materializing
    ∧ root.revision = lease.rootRevision
  grant : ∃ grant, r.grants lease.grantId = some grant ∧ grant.handle = some handle

structure Fits (lease : EffectLease) (request : CreateRequest) : Prop where
  relativePath : request.relativePath = lease.relativePath
  contentBytes : request.contentBytes = lease.contentBytes
  precondition : request.precondition = lease.precondition
  length : Number.eq (.int request.content.length) lease.contentBytes = true
  sha256 : Digest.sha256 request.content = lease.contentSha256

/-- A handle opened by `mint`, with the revision a new root takes. -/
def counted (r : Registry) (fresh : Bool) (serial : Nat) : Registry :=
  { (if fresh then r.opened.advance else r.opened) with nextSerial := serial }

/-! ## The changes

Leases are issued only for the actions that the call asks for. -/

inductive Change (asked : Value → Prop) (r : Registry) : Registry → Prop where
  | abandoned (fresh : Bool) (serial : Nat) :
      Change asked r ((r.counted fresh serial).note (.closed r.nextHandle))
  | granted (serial : Nat) (id : Bytes) (grant : Grant) (absent : r.grants id = none)
      (new : Fresh r grant) (revision : grant.revision = r.nextRevision) :
      Change asked r ((r.counted false serial).advance.setGrant id grant)
  | rooted (serial : Nat) (id : Bytes) (grant : Grant) (absent : r.grants id = none)
      (new : Fresh r grant) (revision : grant.revision = r.nextRevision + 1) (rootId : Bytes)
      (root : Root) (unrooted : r.roots rootId = none) (state : root.state = .unclaimed)
      (claim : root.claim = none) (qaSource : root.qaSource = none)
      (first : root.revision = r.nextRevision) :
      Change asked r (((r.counted true serial).advance.setGrant id grant).moveRoot rootId root)
  | ended (id : Bytes) (grant : Grant) (state : GrantState) (found : r.grants id = some grant)
      (inactive : state ≠ .active) :
      Change asked r
        (r.setGrant id { grant with state := state, revision := r.nextRevision }).advance
  | closedGrant (id : Bytes) (grant : Grant) (handle : Nat) (found : r.grants id = some grant)
      (held : grant.handle = some handle) :
      Change asked r ((r.setGrant id { grant with handle := none }).note (.closed handle))
  | rootMoved (id : Bytes) (root root' : Root) (found : r.roots id = some root)
      (moved : Moved r root root') : Change asked r (r.moveRoot id root').advance
  | rootTouched (id : Bytes) (root root' : Root) (found : r.roots id = some root)
      (kept : Kept root root') : Change asked r (r.setRoot id root')
  | leased (plan : EffectPlan) (action : Value) (admitted : Admitted r plan action)
      (called : asked action) :
      Change asked r (r.issueLease plan action)
  | created (i : Nat) (lease : EffectLease) (handle : Nat) (request : CreateRequest)
      (entered : Entered r i lease handle) (uncalled : lease.createCalled = false)
      (fits : Fits lease request) :
      Change asked r ((r.setEffectLease i { lease with createCalled := true }).note
        (.created (lease.warrant i) handle request))
  | createRefused (i : Nat) (lease : EffectLease) (found : r.effectLeases[i]? = some lease) :
      Change asked r (r.setEffectLease i { lease with createCalled := true })
  | createReturned (i : Nat) (lease : EffectLease) (found : r.effectLeases[i]? = some lease)
      (entry : ∃ handle request, .created (lease.warrant i) handle request ∈ r.log) :
      Change asked r ((r.setEffectLease i { lease with createSucceeded := true }).note
        (.createReturned (lease.warrant i)))
  | readBack (i : Nat) (lease : EffectLease) (handle : Nat) (entered : Entered r i lease handle)
      (written : lease.createSucceeded = true) (unread : lease.readCalled = false) :
      Change asked r ((r.setEffectLease i { lease with readCalled := true }).note
        (.readBack (lease.warrant i) handle))
  | readRefused (i : Nat) (lease : EffectLease) (found : r.effectLeases[i]? = some lease) :
      Change asked r (r.setEffectLease i { lease with readCalled := true })
  | inventoried (i handle : Nat) : Change asked r (r.note (.inventoried i handle))
  | sealMarked (leases : List SealLease) : Change asked r { r with sealLeases := leases }
  | committed (id grantId : Bytes) (root root' : Root) (grant : Grant) (handle : Nat)
      (source : QaSource) (found : r.roots id = some root) (pending : root.state = .sealPending)
      (bare : root.qaSource = none) (granted : r.grants grantId = some grant)
      (held : grant.handle = some handle) (taken : source.handle = some handle)
      (free : source.transactionId = none) (undisposed : source.disposition = none)
      (sealed : root'.state = .sealed) (revision : root'.revision = r.nextRevision)
      (claim : root'.claim = root.claim) (lineageId : root'.lineageId = root.lineageId)
      (repositoryId : root'.repositoryId = root.repositoryId)
      (qaSource : root'.qaSource = some source) :
      Change asked r ((r.moveRoot id root').advance.setGrant grantId { grant with handle := none })
  | reserved (plan : ReservePlan) (found : r.roots plan.rootId = some plan.root)
      (sealed : plan.root.state = .sealed) (source : plan.root.qaSource = some plan.source)
      (free : plan.source.transactionId = none) : Change asked r (r.reserve plan)
  | consumed (i : Nat) (live : LiveSource) (lease : r.qaLeases[i]? = some live.lease)
      (found : r.roots live.lease.rootId = some live.root)
      (source : live.root.qaSource = some live.source)
      (untried : live.lease.attempted = false) : Change asked r (r.consume i live)
  | finished (i : Nat) (live : LiveSource) (verdict : Verdict)
      (lease : r.qaLeases[i]? = some live.lease)
      (found : r.roots live.lease.rootId = some live.root)
      (source : live.root.qaSource = some live.source)
      (held : live.source.handle = some live.handle)
      (unfinished : live.lease.finished = false) : Change asked r (r.finish i live verdict)

abbrev Changes (asked : Value → Prop) (r r' : Registry) : Prop :=
  ReflTransGen (Change asked) r r'

variable {asked : Value → Prop}

/-! ## Closing and quarantine -/

variable (r : Registry)

@[simp] theorem setRoot_roots_self (id : Bytes) (root : Root) :
    (r.setRoot id root).roots id = some root := Function.update_self ..

@[simp] theorem setGrant_grants_self (id : Bytes) (grant : Grant) :
    (r.setGrant id grant).grants id = some grant := Function.update_self ..

variable (w : World)

theorem closeHandle_changes (id : Bytes) :
    Changes asked r (r.closeHandle w id).2 := by
  unfold closeHandle
  cases found : r.grants id with
  | none => exact .refl
  | some grant =>
    cases held : grant.handle with
    | none => simpa only [held] using ReflTransGen.refl
    | some handle =>
      simp only [held]
      exact .single (.closedGrant id grant handle found held)

theorem endGrant_changes (state : GrantState) (inactive : state ≠ .active) (id : Bytes) :
    Changes asked r (r.endGrant state id) := by
  unfold endGrant
  cases found : r.grants id with
  | none => exact .refl
  | some grant =>
    by_cases active : grant.state = .active
    · simp only [active, if_true]
      exact .single (.ended id grant state found inactive)
    · simp only [active, if_false]
      exact .refl

theorem endGrants_changes (state : GrantState) (inactive : state ≠ .active) (ids : List Bytes)
    (r : Registry) : Changes asked r (r.endGrants w state ids).2 := by
  induction ids generalizing r with
  | nil => exact .refl
  | cons id rest ih =>
    exact ((endGrant_changes r state inactive id).trans (closeHandle_changes _ w id)).trans
      (ih _)

theorem answerRoot_state (reply : Reply Registry Unit) (id : Bytes) :
    (answerRoot reply id).2 = reply.2 := by
  obtain ⟨answer, r⟩ := reply
  cases answer with
  | error failure => rfl
  | ok u =>
    simp only [answerRoot, Reply.andThen]
    split <;> rfl

theorem quarantinePlan_open {r : Registry} {root : Root} {reason normalized : Value}
    (planned : r.quarantinePlan root reason = .ok (.inl normalized)) :
    root.state ≠ .sealed ∧ root.state ≠ .quarantined := by
  unfold quarantinePlan at planned
  simp only at planned
  split at planned
  · cases planned
  · cases planned
  · cases state : root.state <;> simp_all
    split at planned <;> cases planned

theorem quarantineRoot_changes (id : Bytes) (reason : Value) :
    Changes asked r (r.quarantineRoot w id reason).2 := by
  unfold quarantineRoot
  cases found : r.roots id with
  | none => exact .refl
  | some root =>
    simp only
    refine transact_state .refl fun plan planned => ?_
    cases plan with
    | inr projection => exact .refl
    | inl normalized =>
      obtain ⟨unsealed, unquarantined⟩ := quarantinePlan_open planned
      rw [answerRoot_state]
      refine .head (.rootMoved id root _ found ?_)
        (endGrants_changes w .quarantined (by decide) _ _)
      exact ⟨.quarantined unsealed unquarantined, rfl, .inl rfl, rfl, rfl, rfl⟩

/-! ## Dispatch -/

theorem kept_marks (root : Root) (marks marks' : List Bytes) :
    Kept { root with inFlight := marks } { root with inFlight := marks' } :=
  ⟨rfl, rfl, rfl, rfl, rfl, rfl, rfl, rfl, .inl rfl⟩

theorem leaveProvider_change (id : Bytes) (root : Root) (dispatch : Bytes) (entry : Happening) :
    Change asked (r.enterProvider id root dispatch entry)
      ((r.enterProvider id root dispatch entry).leaveProvider id root dispatch) :=
  .rootTouched id { root with inFlight := dispatch :: root.inFlight } _
    (setRoot_roots_self r id _) (kept_marks root _ _)

theorem panicFailure_raised (answer : Except Failure Value) (err text : Value) :
    panicFailure answer err ≠ .refused text := by
  cases answer with
  | ok projection => exact Failure.noConfusion
  | error failure =>
    cases failure with
    | refused | raised | fault => exact Failure.noConfusion

theorem withProviderDispatch_cases (id lifecycleId actionId : Bytes) (phase : String)
    (entry : Happening) :
    (∃ failure, r.withProviderDispatch w id lifecycleId actionId phase entry
        = (.error failure, r)) ∨
      ∃ root dispatch, r.roots id = some root ∧
        ((∃ values, w.dispatch = .returned values
          ∧ r.withProviderDispatch w id lifecycleId actionId phase entry = (.ok values,
            (r.enterProvider id root dispatch entry).leaveProvider id root dispatch)) ∨
        ∃ err failure, w.dispatch = .raised err ∧ (∀ text, failure ≠ .refused text)
          ∧ r.withProviderDispatch w id lifecycleId actionId phase entry = (.error failure,
            (((r.enterProvider id root dispatch entry).leaveProvider id root
              dispatch).quarantineRoot w id (panicReason phase err)).2)) := by
  unfold withProviderDispatch
  cases found : r.roots id with
  | none => exact .inl ⟨_, rfl⟩
  | some root =>
    simp only
    obtain ⟨failure, -, refused⟩ | ⟨dispatch, -, done⟩ :=
      transact_cases (dispatchPlan root lifecycleId actionId phase) _ r
    · exact .inl ⟨failure, refused⟩
    · refine .inr ⟨root, dispatch, rfl, ?_⟩
      rw [done]
      cases w.dispatch with
      | returned values => exact .inl ⟨values, rfl, rfl⟩
      | raised err => exact .inr ⟨err, _, rfl, panicFailure_raised _ err, rfl⟩

theorem withProviderDispatch_changes (r s : Registry) (w : World)
    (id lifecycleId actionId : Bytes) (phase : String) (entry : Happening)
    (refused : Changes asked r s)
    (enters : ∀ root dispatch, s.roots id = some root →
      Changes asked r (s.enterProvider id root dispatch entry)) :
    Changes asked r (s.withProviderDispatch w id lifecycleId actionId phase entry).2 := by
  obtain ⟨failure, same⟩ | ⟨root, dispatch, found, ⟨values, -, same⟩ | ⟨err, failure, -, -, same⟩⟩ :=
    withProviderDispatch_cases s w id lifecycleId actionId phase entry
  · rw [same]
    exact refused
  · rw [same]
    exact (enters root dispatch found).tail (leaveProvider_change s id root dispatch entry)
  · rw [same]
    exact ((enters root dispatch found).tail
      (leaveProvider_change s id root dispatch entry)).trans (quarantineRoot_changes _ w id _)

/-! ## Grants -/

theorem integerFrom_facts {least : Int} {value : Value} {failure : Failure} {n : Number}
    (checked : integerFrom least value failure = .ok n) :
    Number.lt n (.int least) = false ∧ n.isIntegral = true := by
  unfold integerFrom at checked
  cases value with
  | num m =>
    simp only at checked
    split at checked
    · cases checked
    · next sound =>
        cases checked
        simpa using sound
  | _ => cases checked

variable {plan : MintPlan}

theorem mintPlan_bounds {r : Registry} {input : Value}
    (planned : r.mintPlan input = .ok plan) :
    Number.lt plan.bounds.maxEffectsPerGeneration (.int 1) = false
      ∧ plan.bounds.maxEffectsPerGeneration.isIntegral = true
      ∧ Number.lt (.int 1024) plan.bounds.maxRelativePathBytes = false
      ∧ plan.bounds.maxRelativePathBytes.isIntegral = true := by
  simp only [mintPlan, bind_eq_ok, require_eq_ok, pure_eq_ok] at planned
  obtain ⟨_, -, _, -, _, -, _, -, _, -, _, -, _, -, bounds, normalized, _, -, _, -, _, ceiling, _,
    -, rfl⟩ := planned
  simp only [normalizeBounds, bind_eq_ok, pure_eq_ok] at normalized
  obtain ⟨_, -, path, pathChecked, _, -, effects, checked, rfl⟩ := normalized
  exact ⟨(integerFrom_facts checked).1, (integerFrom_facts checked).2, ceiling,
    (integerFrom_facts pathChecked).2⟩

theorem locate_root {r : Registry} {identity : Value} {found : Located}
    (located : r.locate plan identity = .ok found) : found.root = r.roots found.rootId := by
  simp only [locate, bind_eq_ok] at located
  obtain ⟨_, _, _, _, rootId, _, located⟩ := located
  cases known : r.roots rootId with
  | none =>
    simp only [known, pure_eq_ok] at located
    rw [← located, known]
  | some root =>
    simp only [known, bind_eq_ok, pure_eq_ok] at located
    obtain ⟨_, _, _, _, located⟩ := located
    rw [← located, known]

theorem grantIdentity_absent {r : Registry} {w : World} {serial : Nat}
    {found : Located} {id : Bytes} (named : r.grantIdentity w serial plan found = .ok id) :
    r.grants id = none := by
  simp only [grantIdentity, bind_eq_ok, require_eq_ok, pure_eq_ok] at named
  obtain ⟨id', -, -, absent, rfl⟩ := named
  exact isNone_iff_eq_none.mp absent

theorem kept_withGrant (root : Root) (id : Bytes) : Kept root (withGrant root id) :=
  ⟨rfl, rfl, rfl, rfl, rfl, rfl, rfl, rfl, .inl rfl⟩

theorem mint_changes (input : Value) :
    Changes asked r (r.mint w input).2 := by
  unfold mint
  refine transact_state .refl fun plan planned => ?_
  refine transact_state .refl fun identity _ => ?_
  unfold mintOpened
  cases located : r.opened.locate plan identity with
  | error failure => exact .single (.abandoned false r.nextSerial)
  | ok found =>
    simp only
    cases named : (r.opened.numbered found).grantIdentity w r.opened.nextSerial plan found with
    | error failure => exact .single (.abandoned found.root.isNone _)
    | ok id =>
      have absent : (r.opened.numbered found).grants id = none := grantIdentity_absent named
      have known : found.root = r.roots found.rootId := locate_root located
      have positive := mintPlan_bounds planned
      have same : r.opened.numbered found
          = r.counted found.root.isNone (r.opened.numbered found).nextSerial := rfl
      generalize (r.opened.numbered found).nextSerial = serial at same
      rw [same] at absent ⊢
      have unknown : r.grants id = none := by
        cases isNew : found.root.isNone <;> rw [isNew] at absent <;> exact absent
      have new : Fresh r ((r.counted found.root.isNone serial).newGrant plan found id
          r.nextHandle) :=
        ⟨rfl, rfl, rfl, positive.1, positive.2.1, positive.2.2.1, positive.2.2.2⟩
      cases isKnown : found.root with
      | none =>
        rw [isKnown] at known new
        simp only [addGrant, storeRoot, isKnown, isNone_none, if_true, getD_none]
        exact .single (.rooted serial id _ unknown new rfl found.rootId _ known.symm rfl rfl rfl rfl)
      | some root =>
        rw [isKnown] at known new
        simp only [addGrant, storeRoot, isKnown, isNone_some, if_false, getD_some,
          Bool.false_eq_true]
        exact .head (.granted serial id _ unknown new rfl)
          (.single (.rootTouched found.rootId root _ known.symm (kept_withGrant root id)))

end Proc17.Runtime.Repository.Registry
