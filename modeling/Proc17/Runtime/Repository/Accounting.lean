import Mathlib.Data.List.Dedup
import Proc17.Runtime.Repository.Effect
import Proc17.Runtime.Repository.Exercise

/-!
# What becomes of a mutation

Once `repository_effect.execute` has entered the provider's `create_text_file`, a file may exist.
The call then leaves a receipt, or the provider has said that nothing was published, or the root is
quarantined; this file proves for which answers of the provider that is so.
-/

namespace Proc17.Runtime.Repository.Registry

open Lua Core

/-! ## Entries into the provider -/

def isCreation : Happening → Bool
  | .created _ _ _ => true
  | _ => false

/-- The entries into `create_text_file`, the last first. -/
def creations (r : Registry) : List Happening := r.log.filter isCreation

section

variable (r : Registry)

theorem closeHandle_kept (w : World) (id : Bytes) :
    (r.closeHandle w id).2.creations = r.creations ∧ (r.closeHandle w id).2.roots = r.roots := by
  unfold closeHandle
  cases r.grants id with
  | none => exact ⟨rfl, rfl⟩
  | some grant =>
    cases held : grant.handle with
    | none => simp [held]
    | some handle =>
      simp only [held]
      exact ⟨rfl, rfl⟩

theorem endGrant_kept (state : GrantState) (id : Bytes) :
    (r.endGrant state id).creations = r.creations ∧ (r.endGrant state id).roots = r.roots := by
  unfold endGrant
  cases r.grants id with
  | none => exact ⟨rfl, rfl⟩
  | some grant =>
    by_cases active : grant.state = .active
    · simp only [active, if_true]
      exact ⟨rfl, rfl⟩
    · simp [active]

theorem endGrants_kept (w : World) (state : GrantState) (ids : List Bytes) (r : Registry) :
    (r.endGrants w state ids).2.creations = r.creations
      ∧ (r.endGrants w state ids).2.roots = r.roots := by
  induction ids generalizing r with
  | nil => exact ⟨rfl, rfl⟩
  | cons id rest ih =>
    have ended := endGrant_kept r state id
    have closed := closeHandle_kept (r.endGrant state id) w id
    have others := ih ((r.endGrant state id).closeHandle w id).2
    exact ⟨others.1.trans (closed.1.trans ended.1), others.2.trans (closed.2.trans ended.2)⟩

theorem quarantineRoot_creations (w : World) (id : Bytes) (reason : Value) :
    (r.quarantineRoot w id reason).2.creations = r.creations := by
  unfold quarantineRoot
  cases r.roots id with
  | none => rfl
  | some root =>
    simp only
    obtain ⟨failure, -, refused⟩ | ⟨plan, -, done⟩ :=
      transact_cases (r.quarantinePlan root reason) _ r
    · rw [refused]
    · rw [done]
      cases plan with
      | inr projection => rfl
      | inl normalized =>
        rw [answerRoot_state, (endGrants_kept w .quarantined _ _).1]
        rfl

theorem quarantineRoot_quarantined {r : Registry} (w : World) {id : Bytes} {root : Root}
    {reason : Value} (found : r.roots id = some root) (unsealed : root.state ≠ .sealed)
    (fresh : root.state ≠ .quarantined) (digestible : Json.Encodes reason) :
    ∃ after, (r.quarantineRoot w id reason).2.roots id = some after
      ∧ after.state = .quarantined := by
  have normal : Json.Encodes (reason.orElse
      (.record [("code", .text "repository_root_quarantined")])).deepCopy := by
    apply Json.encodes_deepCopy
    apply Json.encodes_orElse digestible
    exact Json.encodes_record (by simpa using Json.encodes_str _)
  have whole : Json.Encodes (.record [("reason", (reason.orElse
      (.record [("code", .text "repository_root_quarantined")])).deepCopy)]) :=
    Json.encodes_record (by simpa using normal)
  obtain ⟨digest, digested⟩ := Digest.record_of_encodes whole
  have planned : ∃ normalized, r.quarantinePlan root reason = .ok (.inl normalized) := by
    rw [quarantinePlan]
    simp only [reasonDigest, digested]
    cases state : root.state with
    | sealed => exact absurd state unsealed
    | quarantined => exact absurd state fresh
    | _ => exact ⟨_, rfl⟩
  obtain ⟨normalized, plan⟩ := planned
  rw [quarantineRoot, found]
  simp only [plan, transact_ok]
  rw [answerRoot_state, (endGrants_kept w .quarantined _ _).2]
  exact ⟨_, setRoot_roots_self _ _ _, rfl⟩

/-! ## Taking a lease and creating through it -/

theorem exactActionGrant_names {r : Registry} {action : Value} {exact : ExactGrant}
    (found : r.exactActionGrant action = .ok exact) :
    (action.get "capability").get "grant_id" = .str exact.grantId
      ∧ r.grants exact.grantId = some exact.grant
      ∧ (action.get "capability").get "root_authority_id" = .str exact.grant.rootAuthorityId := by
  obtain ⟨facts, identity⟩ := exactActionGrant_ok found
  simp only [fixedGrantIdentity, Bool.and_eq_true, decide_eq_true_eq] at identity
  exact ⟨facts.named, facts.grant, identity.1.1.2⟩

theorem claimRoot_kept (plan : EffectPlan) :
    (r.claimRoot plan).creations = r.creations
      ∧ (r.claimRoot plan).effectLeases = r.effectLeases := by
  unfold claimRoot
  split
  · exact ⟨rfl, rfl⟩
  · exact ⟨rfl, rfl⟩

theorem beginEffect_creations (derive : DeriveIntent) (action inst : Value) :
    (r.beginEffect derive action inst).2.creations = r.creations := by
  exact transact_state (motive := fun s : Registry => s.creations = r.creations) rfl
    fun plan _ => (claimRoot_kept r plan).1

theorem beginEffect_begun {r : Registry} {derive : DeriveIntent} {action inst : Value}
    {lease : Nat} (called : (r.beginEffect derive action inst).1 = .ok lease) :
    Action.validate derive inst action = .ok ()
      ∧ ∃ issued grant after, (r.beginEffect derive action inst).2.effectLeases[lease]?
          = some issued
        ∧ (action.get "capability").get "root_authority_id" = .str issued.rootId
        ∧ (action.get "capability").get "grant_id" = .str issued.grantId
        ∧ r.grants issued.grantId = some grant
        ∧ (r.beginEffect derive action inst).2.grants issued.grantId = some after
        ∧ after.identity = grant.identity := by
  unfold beginEffect at called ⊢
  obtain ⟨failure, -, refused⟩ | ⟨plan, planned, done⟩ :=
    transact_cases (r.beginEffectPlan derive action inst) _ r
  · rw [refused] at called
    cases called
  rw [done] at called ⊢
  cases called
  simp only [beginEffectPlan, bind_eq_ok, pure_eq_ok] at planned
  obtain ⟨_, validated, _, -, exact, found, _, -, ⟨root, claim⟩, -, rfl⟩ := planned
  obtain ⟨named, granted, rooted⟩ := exactActionGrant_names found
  refine ⟨validated, newLease ⟨exact, root, claim⟩, exact.grant, spend exact.grant exact.envelope,
    ?_, rooted, named, granted, setGrant_grants_self _ _ _, rfl⟩
  simp [issueLease, (claimRoot_kept r ⟨exact, root, claim⟩).2]

theorem Standing.carried {r r' : Registry} {i : Nat} {live : LiveLease} (standing : Standing r i live)
    {lease : EffectLease} {marks : List Bytes} (leased : r'.effectLeases[i]? = some lease)
    (sameLease : lease.rootId = live.lease.rootId ∧ lease.grantId = live.lease.grantId
      ∧ lease.grantRevision = live.lease.grantRevision
      ∧ lease.rootRevision = live.lease.rootRevision
      ∧ lease.lifecycleId = live.lease.lifecycleId ∧ lease.generation = live.lease.generation)
    (rooted : r'.roots live.lease.rootId = some { live.root with inFlight := marks })
    (granted : r'.grants = r.grants) :
    Standing r' i ⟨lease, live.grant, { live.root with inFlight := marks }, live.handle⟩ := by
  obtain ⟨rootId, grantId, grantRevision, rootRevision, lifecycleId, generation⟩ := sameLease
  refine ⟨leased, ?_, ?_, standing.handle, ?_, ?_⟩
  · rw [rootId]
    exact rooted
  · rw [granted, grantId]
    exact standing.grant
  · rw [grantRevision]
    exact standing.active
  · rw [rootRevision, lifecycleId, generation]
    exact standing.materializing

theorem panicReason_encodes (phase : String) (err : Value) :
    Json.Encodes (panicReason phase err) := by
  apply Json.encodes_record
  simp only [List.forall_mem_cons]
  exact ⟨Json.encodes_str _, Json.encodes_str _, Json.encodes_str _, List.forall_mem_nil _⟩

def visited (r : Registry) (id : Bytes) (root : Root) (dispatch : Bytes) (entry : Happening) :
    Registry :=
  (r.enterProvider id root dispatch entry).leaveProvider id root dispatch

theorem visited_roots (id : Bytes) (root : Root) (dispatch : Bytes)
    (entry : Happening) : (r.visited id root dispatch entry).roots id
      = some { root with inFlight := (dispatch :: root.inFlight).erase dispatch } :=
  setRoot_roots_self _ _ _

theorem createPlan_leaseState {r : Registry} {i : Nat} {request : Value} {plan : CreatePlan}
    (planned : r.createPlan i request = .ok plan) : r.leaseState i = .ok plan.live := by
  simp only [createPlan, bind_eq_ok] at planned
  obtain ⟨live, checked, -, -, -, -, planned⟩ := planned
  cases given : request.get "content" with
  | str content =>
    simp only [given, bind_eq_ok, pure_eq_ok] at planned
    obtain ⟨-, -, rfl⟩ := planned
    exact checked
  | _ => simp [given] at planned

theorem recordCreate_standing {r : Registry} {i : Nat} {live : LiveLease}
    (standing : Standing r i live) (dispatch : Bytes) (entry : Happening) (values : List Value) :
    ∃ after, Standing
        (((r.setEffectLease i { live.lease with createCalled := true }).visited
          live.lease.rootId live.root dispatch entry).recordCreate i
            { live.lease with createCalled := true } values) i after
      ∧ after.grant = live.grant ∧ after.lease.rootId = live.lease.rootId := by
  have inside : i < r.effectLeases.length := (List.getElem?_eq_some_iff.mp standing.lease).1
  unfold recordCreate
  split
  · refine ⟨_, standing.carried (List.getElem?_set_self inside) ?_ (setRoot_roots_self _ _ _) rfl,
      rfl, rfl⟩
    exact ⟨rfl, rfl, rfl, rfl, rfl, rfl⟩
  · have again : i < (r.effectLeases.set i { live.lease with createCalled := true }).length := by
      rw [List.length_set]
      exact inside
    refine ⟨_, standing.carried (List.getElem?_set_self again) ?_ (setRoot_roots_self _ _ _) rfl,
      rfl, rfl⟩
    exact ⟨rfl, rfl, rfl, rfl, rfl, rfl⟩

/-- How `effect_create` ends: without an entry, with the provider's values while the lease stays
live, or with a panic that has quarantined the root. -/
theorem effectCreate_cases (w : World) (i : Nat) (request : Value) :
    (∃ failure, (r.effectCreate w i request).1 = .error failure
      ∧ (r.effectCreate w i request).2.creations = r.creations)
    ∨ (∃ live values after, r.leaseState i = .ok live ∧ w.dispatch = .returned values
      ∧ (r.effectCreate w i request).1 = .ok [values.getD 0 .nil, values.getD 1 .nil]
      ∧ Standing (r.effectCreate w i request).2 i after
      ∧ after.grant = live.grant ∧ after.lease.rootId = live.lease.rootId)
    ∨ ∃ live err failure after, r.leaseState i = .ok live ∧ w.dispatch = .raised err
      ∧ (r.effectCreate w i request).1 = .error failure ∧ (∀ text, failure ≠ .refused text)
      ∧ (r.effectCreate w i request).2.roots live.lease.rootId = some after
      ∧ after.state = .quarantined := by
  unfold effectCreate
  obtain ⟨failure, -, refused⟩ | ⟨plan, planned, done⟩ :=
    transact_cases (r.createPlan i request) _ r
  · rw [refused]
    exact .inl ⟨failure, rfl, rfl⟩
  rw [done]
  have checked := createPlan_leaseState planned
  have standing := leaseState_eq_ok.mp checked
  have rooted : (r.setEffectLease i { plan.live.lease with createCalled := true }).roots
      plan.live.lease.rootId = some plan.live.root := standing.root
  simp only
  obtain ⟨failure, refused⟩ | ⟨root, dispatch, found, ⟨values, ends, returned⟩
      | ⟨err, failure, ends, unrefused, panicked⟩⟩ :=
    withProviderDispatch_cases (r.setEffectLease i { plan.live.lease with createCalled := true }) w
      plan.live.lease.rootId plan.live.lease.lifecycleId plan.live.lease.actionId
      "create_text_file" (.created (EffectLease.warrant
        { plan.live.lease with createCalled := true } i) plan.live.handle (providerRequest plan))
  · rw [refused]
    exact .inl ⟨failure, rfl, rfl⟩
  · cases rooted.symm.trans found
    rw [returned]
    obtain ⟨after, stands, grant, rootId⟩ := recordCreate_standing standing dispatch
      (.created (EffectLease.warrant { plan.live.lease with createCalled := true } i)
        plan.live.handle (providerRequest plan)) values
    exact .inr (.inl ⟨plan.live, values, after, checked, ends, rfl, stands, grant, rootId⟩)
  · cases rooted.symm.trans found
    rw [panicked]
    have state := standing.materializing.1
    obtain ⟨after, found, quarantined⟩ := quarantineRoot_quarantined w
      (visited_roots _ _ plan.live.root _ _) (by rw [state]; decide) (by rw [state]; decide)
      (panicReason_encodes "create_text_file" err)
    exact .inr (.inr ⟨plan.live, err, failure, after, checked, ends, rfl, unrefused, found,
      quarantined⟩)

end

end Proc17.Runtime.Repository.Registry

namespace Proc17.Runtime.Repository.Effect

open Lua Core Runtime.Body Runtime.Repository.Registry

/-! ## What a call leaves behind -/

/-- The provider's `create_text_file` was entered. -/
def Entered (before after : Site) : Prop := after.registry.creations ≠ before.registry.creations

def Returned (answer : Except Failure Value) : Prop :=
  OnError (fun failure => ∃ err, failure = .refused err) answer

def Receipted (p : Packet) (action : Value) : Prop :=
  ∃ event ∈ p.trace, event.type = .repositoryEffectReceipt
    ∧ event.payload.get "action_id" = action.get "action_id"

def Quarantined (r : Registry) (action : Value) : Prop :=
  ∃ id root, (action.get "capability").get "root_authority_id" = .str id
    ∧ r.roots id = some root ∧ root.state = .quarantined

/-- The answer to `create_text_file` is a well-formed error of the world, with nothing published. -/
def Unpublished (w : World) : Prop :=
  ∃ values err, w.dispatch = .returned values ∧ (values.getD 0 .nil).truthy = false
    ∧ validateProviderError (values.getD 1 .nil) = .ok err
    ∧ err.get "class" = .text "world" ∧ err.get "published" = .bool false

def Accounted (order : Order) (after : Site) : Prop :=
  Receipted after.packet order.action ∨ Unpublished order.create
    ∨ Quarantined after.registry order.action

/-! ## Confirmed creations -/

/-- The value is what `validate_create_result` accepts from the root of that identity. -/
structure Confirms (identity : Identity) (action value : Value) : Prop where
  keys : exactKeys value createResultKeys createResultKeys "repository create result" = .ok ()
  rootKeys : exactKeys (value.get "root") rootKeys rootKeys "repository create root" = .ok ()
  rootNumbers : isNonNegativeInteger ((value.get "root").get "device") = true
    ∧ isNonNegativeInteger ((value.get "root").get "inode") = true
  sameRoot : ((value.get "root").get "device").eq (.num identity.device) = true
    ∧ ((value.get "root").get "inode").eq (.num identity.inode) = true
  cost : validateCost (value.get "cost") (.nat 1) (.nat 1) "repository create cost" = .ok ()
  exact : value.get "protocol_version" = .text "repository.provider_result.v0"
    ∧ value.get "operation" = .text "create_text_file"
    ∧ value.get "outcome" = .text "created"
    ∧ (value.get "bytes").eq ((action.get "content").get "bytes") = true
    ∧ value.get "mutation_primitive_entered" = .bool true
    ∧ value.get "published" = .bool true

theorem validateCreateResult_eq_ok {r : Registry} {i : Nat} {live : LiveLease}
    (standing : Standing r i live) (action value writer : Value) :
    validateCreateResult r i action value = .ok writer
      ↔ Confirms live.grant.identity action value ∧ writer = value.deepCopy := by
  have checked := leaseState_eq_ok.mpr standing
  simp only [validateCreateResult, validateRoot, effectRootMatches, checked, bind_eq_ok,
    require_eq_ok, pure_eq_ok]
  constructor
  · intro accepted
    obtain ⟨_, keys, _, ⟨_, rootKeys, _, rootNumbers, same, ⟨_, ⟨⟩, matched⟩, root⟩, _, cost, _,
      exact, rfl⟩ := accepted
    simp only [← matched, Bool.and_eq_true] at root
    exact ⟨⟨keys, rootKeys, rootNumbers, ⟨root.1.2, root.2⟩, cost, exact⟩, rfl⟩
  · intro confirmed
    obtain ⟨⟨keys, rootKeys, rootNumbers, sameRoot, cost, exact⟩, rfl⟩ := confirmed
    refine ⟨(), keys, (), ⟨(), rootKeys, (), rootNumbers, true, ⟨live, rfl, ?_⟩, rfl⟩, (), cost, (),
      exact, rfl⟩
    have table : (value.get "root").isTable = true := by
      simp only [exactKeys, bind_eq_ok, require_eq_ok] at rootKeys
      exact rootKeys.choose_spec.1.1
    rw [table, sameRoot.1, sameRoot.2]
    rfl

/-- The value is a confirmed creation under the grant that the action names. -/
def Confirmed (r : Registry) (action value : Value) : Prop :=
  ∃ id grant, (action.get "capability").get "grant_id" = .str id ∧ r.grants id = some grant
    ∧ Confirms grant.identity action value

/-- The answers to `create_text_file` that the call accounts for: a panic, a creation that is not
confirmed or that can be written into a receipt, and an error of a class that is decided on. -/
def Answered (r : Registry) (order : Order) : Prop :=
  match order.create.dispatch with
  | .raised _ => True
  | .returned values =>
    if (values.getD 0 .nil).truthy then
      Confirmed r order.action (values.getD 0 .nil) →
        Json.Encodes (values.getD 0 .nil)
          ∧ (order.action.get "content_truth_status").isNonEmptyString = true
    else ∃ err, validateProviderError (values.getD 1 .nil) = .ok err
      ∧ (err.get "class" = .text "world" ∧ err.get "published" = .bool false
        ∨ err.get "class" = .text "ambiguous" ∧ Json.Encodes err)

/-! ## Quarantine under a live lease -/

theorem quarantineEffect_creations (r : Registry) (w : World) (i : Nat) (reason : Value) :
    (r.quarantineEffect w i reason).2.creations = r.creations := by
  unfold quarantineEffect
  cases r.effectLeases[i]? with
  | none => rfl
  | some lease => exact quarantineRoot_creations r w lease.rootId reason

theorem quarantine_site (site : Site) (w : World) (lease : Nat) (reason : Value) (text : String)
    (answer : Value) : (quarantine site w lease reason text answer).2
      = ⟨site.packet, (site.registry.quarantineEffect w lease reason).2⟩ := by
  unfold quarantine
  simp only
  split <;> rfl

section

variable {r : Registry} {i : Nat} {live : LiveLease} {action : Value}

theorem unquarantined (standing : Standing r i live)
    (named : (action.get "capability").get "root_authority_id" = .str live.lease.rootId) :
    ¬ Quarantined r action := by
  intro quarantined
  obtain ⟨id, root, named', found, state⟩ := quarantined
  rw [named] at named'
  cases named'
  rw [standing.root] at found
  cases found
  rw [standing.materializing.1] at state
  cases state

theorem quarantineEffect_iff (standing : Standing r i live) (w : World) {reason : Value}
    (given : reason.truthy = true)
    (named : (action.get "capability").get "root_authority_id" = .str live.lease.rootId) :
    Quarantined (r.quarantineEffect w i reason).2 action ↔ Json.Encodes reason := by
  have state := standing.materializing.1
  simp only [quarantineEffect, standing.lease]
  constructor
  · intro quarantined
    by_contra mute
    have undigested : ∀ hash, reasonDigest reason.deepCopy ≠ .ok hash := by
      intro hash digested
      obtain ⟨text, encoded, -⟩ := Digest.encoded_of_record digested
      have copied : Json.Encodes reason.deepCopy :=
        Json.encodes_record_iff.mp ⟨text, encoded⟩ ("reason", reason.deepCopy) (by simp)
      obtain ⟨inner, shown⟩ := copied
      exact mute ⟨inner, (Json.encode_deepCopy reason).symm.trans shown⟩
    have kept : (r.quarantineRoot w live.lease.rootId reason).2 = r := by
      rw [quarantineRoot, standing.root]
      simp only [quarantinePlan, Value.orElse, given, if_true]
      cases digested : reasonDigest reason.deepCopy with
      | ok hash => exact absurd digested (undigested hash)
      | error failure => cases failure <;> rfl
    rw [kept] at quarantined
    exact unquarantined standing named quarantined
  · intro digestible
    obtain ⟨after, found, done⟩ := quarantineRoot_quarantined w standing.root
      (by rw [state]; decide) (by rw [state]; decide) digestible
    exact ⟨live.lease.rootId, after, named, found, done⟩

end

/-! ## The receipt -/

theorem receipted_push (p : Packet) (event : Event) (action : Value)
    (other : event.type ≠ .repositoryEffectReceipt) :
    Receipted (p.push event) action ↔ Receipted p action := by
  constructor
  · intro receipted
    obtain ⟨found, member, type, named⟩ := receipted
    rcases List.mem_append.mp member with before | last
    · exact ⟨found, before, type, named⟩
    · rw [List.mem_singleton.mp last] at type
      exact absurd type other
  · intro receipted
    obtain ⟨found, member, facts⟩ := receipted
    exact ⟨found, List.mem_append_left _ member, facts⟩

theorem receipted_record {p : Packet} {now : Int} {actor : Operator} {type : EventType}
    {payload : Value} {validator : Value → Except Failure Unit} {count : Packet → Packet}
    (counts : ∀ q, (count q).trace = q.trace) {action : Value} (receipted : Receipted p action) :
    Receipted (recordRepositoryEvent p now actor type payload validator count).2 action := by
  obtain ⟨failure, refused⟩ | ⟨recorded, lease, done, -⟩ := @recordRepositoryEvent_cases
    p now actor type payload validator count
  · rw [refused]
    exact receipted
  · rw [done]
    obtain ⟨found, member, facts⟩ := receipted
    refine ⟨found, ?_, facts⟩
    rw [counts]
    exact List.mem_append_left _ member

theorem validateCost_validEffectCost {cost : Value} {calls writes : Nat} {name : String}
    (valid : validateCost cost (.nat calls) (.nat writes) name = .ok ()) :
    validEffectCost cost calls writes = true := by
  simp only [validateCost, bind_eq_ok, require_eq_ok] at valid
  obtain ⟨_, keys, calls, writes, -, -, time⟩ := valid
  have known : (exactKeys cost effectCostKeys [] "repository effect cost").isOk = true := by
    have allowed : exactKeys cost effectCostKeys [] "repository effect cost" = .ok () :=
      exactKeys_known keys "repository effect cost"
    rw [allowed]
    rfl
  simp [validEffectCost, known, calls, writes, time]

structure Names (action : Value) : Prop where
  texts : ∀ v ∈ [action.get "action_id", (action.get "capability").get "grant_id",
    (action.get "capability").get "provider_id", (action.get "target").get "relative_path"],
    v.isNonEmptyString = true
  revision : ((action.get "capability").get "revision").isPositiveInteger = true
  content : ∃ content : Bytes, ((action.get "content").get "bytes").eq (.nat content.length) = true
    ∧ (action.get "content").get "sha256" = .str (Digest.sha256 content)

theorem requireTexts_named {v : Value} {keys : List String} {label key : String}
    (texts : requireTexts v keys label = .ok ()) (member : key ∈ keys) :
    (v.get key).isNonEmptyString = true := by
  have each := mem_of_forM_ok texts key member
  simp only [bind_eq_ok, pure_eq_ok] at each
  obtain ⟨text, read, -⟩ := each
  unfold nonEmpty at read
  split at read
  · rename_i same
    rw [same]
    rfl
  · cases read

theorem positiveInteger_named {v : Value} {name : String} {n : Number}
    (positive : positiveInteger v name = .ok n) : v.isPositiveInteger = true := by
  simp only [positiveInteger, integerFrom] at positive
  split at positive
  · split at positive
    · cases positive
    · rename_i given outside
      rw [not_or, Bool.not_eq_true, Bool.not_eq_false] at outside
      simp [Value.isPositiveInteger, outside.1, outside.2]
  · cases positive

theorem validate_names {derive : DeriveIntent} {inst action : Value}
    (valid : Action.validate derive inst action = .ok ()) : Names action := by
  simp only [Action.validate, bind_eq_ok, require_eq_ok] at valid
  obtain ⟨_, projected, ⟨unit, scope, provenance⟩, claimed, _, -, _, -, _, -, content, -, _,
    digested, -⟩ := valid
  simp only [Action.validateProjection, bind_eq_ok, require_eq_ok] at projected
  obtain ⟨_, -, _, ⟨-, identified, -⟩, -⟩ := projected
  simp only [Action.validateClaims, bind_eq_ok, require_eq_ok] at claimed
  obtain ⟨_, -, _, -, _, -, _, -, _, -, _, -, _, -, _, -, _, -, _, -, _, -, _, texts, _, revision, _,
    -, _, path, -⟩ := claimed
  have named : ((action.get "target").get "relative_path").isNonEmptyString = true := by
    unfold Action.validateRelativePath at path
    split at path
    · rename_i given text
      simp only [bind_eq_ok, require_eq_ok] at path
      obtain ⟨_, ⟨present, -⟩, -⟩ := path
      rw [text]
      cases given with
      | nil => exact absurd rfl present
      | cons b rest => rfl
    · cases path
  refine ⟨?_, positiveInteger_named revision, _, digested⟩
  simp only [List.forall_mem_cons]
  exact ⟨identified, requireTexts_named texts (by simp), requireTexts_named texts (by simp), named,
    List.forall_mem_nil _⟩

theorem uniqueRefs_refs (refs : List Value) : ∃ texts, uniqueRefs refs = textArray texts
    ∧ ∀ text ∈ texts, text ≠ [] := by
  refine ⟨_, rfl, ?_⟩
  intro text member
  rw [List.mem_reverse, List.mem_dedup, List.mem_reverse, List.mem_filterMap] at member
  obtain ⟨ref, -, kept⟩ := member
  split at kept
  · cases kept
    exact List.cons_ne_nil _ _
  · cases kept

theorem Confirms.counted {identity : Identity} {action value : Value}
    (confirmed : Confirms identity action value) (names : Names action) :
    isNonNegativeInteger (value.get "bytes") = true := by
  obtain ⟨content, bytes, -⟩ := names.content
  have same := confirmed.exact.2.2.2.1
  cases read : value.get "bytes" with
  | num n =>
    cases held : (action.get "content").get "bytes" with
    | num m =>
      rw [read, held] at same
      rw [held] at bytes
      have equal := Number.eq_euclidean (Number.eq_symm same) bytes
      obtain ⟨integral, atLeast⟩ := Number.integral_of_eq_nat equal
      simp [isNonNegativeInteger, integral, atLeast]
    | _ =>
      rw [held] at bytes
      cases bytes
  | _ =>
    rw [read] at same
    cases held : (action.get "content").get "bytes" with
    | num m => rw [held] at same; cases same
    | _ => rw [held] at bytes; cases bytes

section

variable {order : Order} {prepared : Prepared} {attempt : Recorded} {value payload : Value}

theorem receiptPayload_proper {identity : Identity} {attemptId : Bytes}
    (names : Names order.action) (confirmed : Confirms identity order.action value)
    (attempted : attempt.payload.get "attempt_id" = .str attemptId) (named : attemptId ≠ [])
    (planned : receiptPayload order prepared attempt value.deepCopy = .ok payload) :
    ∃ receipt : Receipt, receipt.Proper ∧ receipt.copied.Proper ∧ payload = receipt.table
      ∧ receipt.truth = order.action.get "content_truth_status"
      ∧ receipt.actionId = order.action.get "action_id" := by
  simp only [receiptPayload, Digest.identify, bind_eq_ok, pure_eq_ok] at planned
  obtain ⟨receiptId, ⟨digest, -, rfl⟩, rfl⟩ := planned
  obtain ⟨texts, listed, referred⟩ := uniqueRefs_refs [attempt.event.id,
    attempt.payload.get "attempt_id", order.action.get "action_id", .str prepared.targetRef]
  obtain ⟨content, -, hashed⟩ := names.content
  have counted := confirmed.counted names
  have cost := validEffectCost_deepCopy (validEffectCost_deepCopy
    (validateCost_validEffectCost confirmed.cost))
  have each := names.texts
  simp only [List.forall_mem_cons] at each
  obtain ⟨actionId, grantId, providerId, path, -⟩ := each
  let receipt : Receipt := {
    receiptId := .str (utf8 "repository-receipt:" ++ digest)
    attemptId := attempt.payload.get "attempt_id"
    actionId := order.action.get "action_id"
    grantId := (order.action.get "capability").get "grant_id"
    revision := (order.action.get "capability").get "revision"
    providerId := (order.action.get "capability").get "provider_id"
    path := (order.action.get "target").get "relative_path"
    bytes := value.deepCopy.get "bytes"
    sha256 := (order.action.get "content").get "sha256"
    cost := (value.deepCopy.get "cost").deepCopy
    refs := uniqueRefs [attempt.event.id, attempt.payload.get "attempt_id",
      order.action.get "action_id", .str prepared.targetRef]
    truth := order.action.get "content_truth_status" }
  have proper : receipt.Proper := by
    refine ⟨?_, names.revision, ?_, ?_, ?_, ?_⟩
    · simp only [receipt, List.forall_mem_cons]
      refine ⟨rfl, ?_, actionId, grantId, providerId, path, List.forall_mem_nil _⟩
      rw [attempted]
      cases attemptId with
      | nil => exact absurd rfl named
      | cons b rest => rfl
    · show isNonNegativeInteger (value.deepCopy.get "bytes") = true
      rw [Value.get_deepCopy]
      cases read : value.get "bytes" <;> simp_all [Value.deepCopy, isNonNegativeInteger]
    · show isDigestText ((order.action.get "content").get "sha256") = true
      rw [hashed]
      rfl
    · show validEffectCost (value.deepCopy.get "cost").deepCopy 1 1 = true
      rw [Value.get_deepCopy]
      exact cost
    · show repositoryRefs (uniqueRefs _) = true
      rw [listed]
      exact repositoryRefs_textArray referred
  exact ⟨receipt, proper, proper.copied listed, rfl, rfl, rfl⟩

end

theorem quarantine_packet (site : Site) (w : World) (lease : Nat) (reason : Value) (text : String)
    (answer : Value) : (quarantine site w lease reason text answer).2.packet = site.packet := by
  rw [quarantine_site]

theorem providerRefused_packet (site : Site) (w : World) (lease : Nat) (err prior : Value)
    (doubtful : Value → Bool) :
    (providerRefused site w lease err prior doubtful).2.packet = site.packet := by
  unfold providerRefused
  split
  · split
    · rfl
    · split
      · exact quarantine_packet _ _ _ _ _ _
      · rfl
  · rfl

theorem readBack_receipted (site : Site) (order : Order) (lease : Nat)
    (attempt receipt : Recorded) (writer : Value)
    (receipted : Receipted site.packet order.action) :
    Receipted (readBack site order lease attempt receipt writer).2.packet order.action := by
  unfold readBack
  simp only
  split
  · exact receipted
  · split
    · split
      · rw [quarantineInvariant, quarantine_packet]
        exact receipted
      · exact receipted
      · rename_i observed _
        unfold verifyWritten
        obtain ⟨failure, -, refused⟩ | ⟨payload, -, done⟩ := transact_cases
          (verificationPayload order attempt receipt observed) _ _
        · rw [refused]
          exact receipted
        · rw [done]
          have kept := @receipted_record site.packet (order.clock 2) .logic
            .repositoryVerification payload validateRepositoryVerification Packet.countEvidence
            (fun _ => rfl) order.action receipted
          simp only
          split
          · exact kept
          · exact kept
    · rw [providerRefused_packet]
      exact receipted

section

variable {site : Site} {order : Order} {prepared : Prepared} {lease : Nat} {attempt : Recorded}
  {value : Value} {identity : Identity} {attemptId : Bytes}

theorem receiveWritten_receipted {tick : Trace.Lease}
    (held : site.packet.assertActorTick (Topology.value .logic)
      ("record " ++ EventType.repositoryEffectReceipt.name) = .ok tick)
    (names : Names order.action) (confirmed : Confirms identity order.action value)
    (attempted : attempt.payload.get "attempt_id" = .str attemptId) (named : attemptId ≠ [])
    (identified : ∃ written, attempt.event.id = .str written) (digestible : Json.Encodes value)
    (truth : (order.action.get "content_truth_status").isNonEmptyString = true)
    (returned : Returned (receiveWritten site order prepared lease attempt value.deepCopy).1) :
    Receipted (receiveWritten site order prepared lease attempt value.deepCopy).2.packet
      order.action := by
  obtain ⟨written, identified⟩ := identified
  obtain ⟨content, -, hashed⟩ := names.content
  have whole : Json.Encodes (.record [("attempt_ref", attempt.event.id),
      ("result", value.deepCopy), ("content_sha256", (order.action.get "content").get "sha256")]) := by
    apply Json.encodes_record
    simp only [List.forall_mem_cons, identified, hashed]
    exact ⟨Json.encodes_str _, Json.encodes_deepCopy digestible, Json.encodes_str _,
      List.forall_mem_nil _⟩
  obtain ⟨digest, digested⟩ := Digest.record_of_encodes whole
  have planned : ∃ payload, receiptPayload order prepared attempt value.deepCopy = .ok payload := by
    simp only [receiptPayload, Digest.identify, digested]
    exact ⟨_, rfl⟩
  obtain ⟨payload, planned⟩ := planned
  obtain ⟨receipt, proper, copied, rfl, truths, actionIds⟩ :=
    receiptPayload_proper names confirmed attempted named planned
  have valid := (receipt.validate_iff proper).mpr (by rw [truths]; exact truth)
  have validCopy : validateRepositoryReceipt receipt.table.deepCopy = .ok () := by
    rw [receipt.deepCopy_table]
    apply (receipt.copied.validate_iff copied).mpr
    show receipt.truth.deepCopy.isNonEmptyString = true
    rw [truths, Value.deepCopy_of_isNonEmptyString truth]
    exact truth
  unfold receiveWritten at returned ⊢
  rw [planned, transact_ok] at returned ⊢
  obtain ⟨failure, refused⟩ | ⟨recorded, _, done, -, -, typed, -, stored, -⟩ :=
    @recordRepositoryEvent_cases site.packet (order.clock 1) .logic .repositoryEffectReceipt
      receipt.table validateRepositoryReceipt id
  · have unrefused := @recordRepositoryEvent_unrefused site.packet (order.clock 1) .logic
      .repositoryEffectReceipt receipt.table validateRepositoryReceipt id tick held
      ⟨rfl, rfl⟩ valid validCopy
    rw [refused] at unrefused
    simp only [recordRepositoryEffectReceipt, refused] at returned
    obtain ⟨err, rfl⟩ := returned failure rfl
    exact absurd rfl (unrefused err)
  · simp only [recordRepositoryEffectReceipt, done]
    apply readBack_receipted
    refine ⟨recorded.event, List.mem_append_right _ (List.mem_singleton.mpr rfl), typed, ?_⟩
    have read : receipt.copied.table.get "action_id" = receipt.actionId.deepCopy :=
      receipt.copied.get_table (by simp [Receipt.fields, Receipt.copied])
    have filled : receipt.copied.table.orElse .emptyTable = receipt.copied.table := rfl
    have plain := Value.deepCopy_of_isNonEmptyString (names.texts (order.action.get "action_id") (by simp))
    rw [stored, receipt.deepCopy_table, filled, Value.get_deepCopy, read, actionIds, plain, plain]

theorem receiveWritten_unreceived
    (names : Names order.action) (confirmed : Confirms identity order.action value)
    (attempted : attempt.payload.get "attempt_id" = .str attemptId) (named : attemptId ≠ [])
    (short : ¬ (Json.Encodes value
      ∧ (order.action.get "content_truth_status").isNonEmptyString = true)) :
    (receiveWritten site order prepared lease attempt value.deepCopy).2 = site := by
  unfold receiveWritten
  obtain ⟨failure, -, refused⟩ | ⟨payload, planned, done⟩ := transact_cases
    (receiptPayload order prepared attempt value.deepCopy) _ site
  · rw [refused]
  rw [done]
  obtain ⟨receipt, proper, -, rfl, truths, -⟩ :=
    receiptPayload_proper names confirmed attempted named planned
  have digestible : Json.Encodes value := by
    simp only [receiptPayload, Digest.identify, bind_eq_ok, pure_eq_ok] at planned
    obtain ⟨_, ⟨digest, digested, -⟩, -⟩ := planned
    obtain ⟨text, encoded, -⟩ := Digest.encoded_of_record digested
    have copied : Json.Encodes value.deepCopy :=
      Json.encodes_record_iff.mp ⟨text, encoded⟩ ("result", value.deepCopy) (by simp)
    obtain ⟨inner, shown⟩ := copied
    exact ⟨inner, (Json.encode_deepCopy value).symm.trans shown⟩
  have untrue : ¬ receipt.truth.isNonEmptyString = true := by
    rw [truths]
    exact fun truth => short ⟨digestible, truth⟩
  obtain ⟨failure, refused⟩ | ⟨recorded, _, -, -, valid, -⟩ :=
    @recordRepositoryEvent_cases site.packet (order.clock 1) .logic .repositoryEffectReceipt
      receipt.table validateRepositoryReceipt id
  · simp only [recordRepositoryEffectReceipt, refused]
  · exact absurd ((receipt.validate_iff proper).mp valid) untrue

end

/-! ## The whole call -/

structure Ready (before : Registry) (site : Site) (order : Order) (attempt : Recorded)
    (lease : Nat) (issued : EffectLease) : Prop where
  names : Names order.action
  tick : ∃ tick, site.packet.assertActorTick (Topology.value .logic)
    ("record " ++ EventType.repositoryEffectReceipt.name) = .ok tick
  attempted : ∃ id, attempt.payload.get "attempt_id" = .str id ∧ id ≠ []
  identified : ∃ written, attempt.event.id = .str written
  leased : site.registry.effectLeases[lease]? = some issued
  rooted : (order.action.get "capability").get "root_authority_id" = .str issued.rootId
  named : (order.action.get "capability").get "grant_id" = .str issued.grantId
  granted : ∃ grant after, before.grants issued.grantId = some grant
    ∧ site.registry.grants issued.grantId = some after ∧ after.identity = grant.identity

theorem providerRefused_creations (site : Site) (w : World) (lease : Nat) (err prior : Value)
    (doubtful : Value → Bool) :
    (providerRefused site w lease err prior doubtful).2.registry.creations
      = site.registry.creations := by
  unfold providerRefused
  split
  · split
    · rfl
    · split
      · rw [quarantine_site]
        exact quarantineEffect_creations _ _ _ _
      · rfl
  · rfl

theorem validateProviderError_facts {value err : Value}
    (valid : validateProviderError value = .ok err) :
    value.isTable = true ∧ err = value.deepCopy
      ∧ (createDoubtful err = true ↔ err.get "class" = .text "ambiguous") := by
  simp only [validateProviderError, bind_eq_ok, require_eq_ok, pure_eq_ok] at valid
  obtain ⟨_, keys, _, ⟨-, -, -, -, -, published⟩, _, -, _, -, _, -, _, -, _, -, rfl⟩ := valid
  simp only [exactKeys, bind_eq_ok, require_eq_ok] at keys
  obtain ⟨_, ⟨table, -⟩, -⟩ := keys
  refine ⟨table, rfl, ?_⟩
  simp only [createDoubtful, Value.get_deepCopy, Bool.or_eq_true, decide_eq_true_eq]
  constructor
  · intro doubtful
    rcases doubtful with ambiguous | unknown
    · exact ambiguous
    · rw [Value.eq_str_of_deepCopy unknown] at published
      rcases published with boolean | ⟨ambiguous, -⟩
      · cases boolean
      · rw [ambiguous]
        rfl
  · exact Or.inl

theorem providerFailure_unrefused {value validated : Value}
    (valid : validateProviderError value = .ok validated) (prior : Value) :
    OnError (fun failure => ∀ text, failure ≠ .refused text) (providerFailure value prior) := by
  have arith : ∀ a b, OnError (fun failure : Failure => ∀ text, failure ≠ .refused text)
      (Value.arith Number.add a b) := by
    intro a b
    unfold Value.arith
    split
    · exact OnError.ok _
    · exact OnError.error fun _ => Failure.noConfusion
  have amount : ∀ x, OnError (fun failure : Failure => ∀ text, failure ≠ .refused text)
      (effectAmount x) := by
    intro x
    unfold effectAmount
    split
    · exact OnError.ite (OnError.error fun _ => Failure.noConfusion) (OnError.ok _)
    · exact OnError.error fun _ => Failure.noConfusion
  unfold providerFailure
  rw [valid]
  refine OnError.bind (OnError.ok validated) fun _ => ?_
  refine OnError.bind (OnError.mapM (fun axis => ?_) _) fun cost => ?_
  · exact (arith _ _).bind fun _ => OnError.ok _
  refine OnError.bind ?_ fun _ => OnError.ok _
  unfold effectFailure
  refine OnError.bind (OnError.require fun _ => Failure.noConfusion) fun _ => ?_
  refine OnError.bind (OnError.require fun _ => Failure.noConfusion) fun _ => ?_
  exact (OnError.mapM amount _).bind fun _ => OnError.ok _

variable {site : Site}

theorem providerRefused_iff {i : Nat} {live : LiveLease} {action : Value}
    (standing : Standing site.registry i live)
    (named : (action.get "capability").get "root_authority_id" = .str live.lease.rootId)
    (w : World) (err : Value)
    (returned : Returned (providerRefused site w i err .nil createDoubtful).1) :
    Quarantined (providerRefused site w i err .nil createDoubtful).2.registry action
      ↔ ∃ validated, validateProviderError err = .ok validated
        ∧ validated.get "class" = .text "ambiguous" ∧ Json.Encodes validated := by
  unfold providerRefused at returned ⊢
  by_cases table : err.isTable = true
  · rw [if_pos table] at returned ⊢
    cases judged : providerFailure err .nil with
    | error failure =>
      constructor
      · exact fun quarantined => absurd quarantined (unquarantined standing named)
      · intro given
        obtain ⟨validated, valid, -⟩ := given
        rw [judged] at returned
        obtain ⟨text, rfl⟩ := returned failure rfl
        exact absurd rfl (providerFailure_unrefused valid .nil _ judged text)
    | ok both =>
      obtain ⟨failure, validated⟩ := both
      simp only [providerFailure, bind_eq_ok, pure_eq_ok, Prod.mk.injEq] at judged
      obtain ⟨_, valid, _, -, _, -, -, rfl⟩ := judged
      obtain ⟨-, rfl, doubtful⟩ := validateProviderError_facts valid
      have only : ∀ other, validateProviderError err = .ok other → other = err.deepCopy := by
        intro other again
        rw [valid] at again
        cases again
        rfl
      simp only
      have truthy : err.deepCopy.truthy = true := by
        rw [Value.truthy_deepCopy]
        cases err with
        | table tag entries => rfl
        | _ => cases table
      by_cases ambiguous : createDoubtful err.deepCopy = true
      · rw [if_pos ambiguous, quarantine_site]
        rw [quarantineEffect_iff standing w truthy named]
        constructor
        · exact fun digestible => ⟨_, valid, doubtful.mp ambiguous, digestible⟩
        · intro given
          obtain ⟨other, again, -, digestible⟩ := given
          rw [← only other again]
          exact digestible
      · rw [if_neg ambiguous]
        constructor
        · exact fun quarantined => absurd quarantined (unquarantined standing named)
        · intro given
          obtain ⟨other, again, class_, -⟩ := given
          rw [only other again] at class_
          exact absurd (doubtful.mpr class_) ambiguous
  · rw [if_neg table]
    constructor
    · exact fun quarantined => absurd quarantined (unquarantined standing named)
    · intro valid
      obtain ⟨validated, valid, -⟩ := valid
      exact absurd (validateProviderError_facts valid).1 table

section

variable {before : Registry} {order : Order} {prepared : Prepared}
  {attempt : Recorded} {lease : Nat} {issued : EffectLease}

section

variable (ready : Ready before site order attempt lease issued)
include ready

theorem Ready.confirmed_iff
    {live : LiveLease} (standing : Standing site.registry lease live) (value : Value) :
    Confirmed before order.action value ↔ Confirms live.grant.identity order.action value := by
  obtain ⟨grant, after, granted, held, same⟩ := ready.granted
  have leased := standing.lease
  rw [ready.leased] at leased
  cases leased
  have grantHeld := standing.grant
  rw [held] at grantHeld
  cases grantHeld
  rw [same]
  constructor
  · intro confirmed
    obtain ⟨id, other, named, found, confirms⟩ := confirmed
    rw [ready.named] at named
    cases named
    rw [granted] at found
    cases found
    exact confirms
  · exact fun confirms => ⟨_, grant, ready.named, granted, confirms⟩

theorem written_accounted_iff
    {r : Registry} {after : LiveLease} (standing : Standing r lease after)
    (named : (order.action.get "capability").get "root_authority_id" = .str after.lease.rootId)
    {value : Value} {reply : Reply Site Value} (told : ¬ Unpublished order.create)
    (replied : reply = match validateCreateResult r lease order.action value with
      | .error (.refused wrong) =>
        quarantineInvariant ⟨site.packet, r⟩ order.create lease "create_result" wrong
      | .error failure => (.error failure, ⟨site.packet, r⟩)
      | .ok writer => receiveWritten ⟨site.packet, r⟩ order prepared lease attempt writer)
    (returned : Returned reply.1) :
    Accounted order reply.2 ↔ Receipted site.packet order.action
      ∨ (Confirms after.grant.identity order.action value → Json.Encodes value
        ∧ (order.action.get "content_truth_status").isNonEmptyString = true) := by
  obtain ⟨tick, held⟩ := ready.tick
  obtain ⟨attemptId, attempted, texted⟩ := ready.attempted
  cases accepted : validateCreateResult r lease order.action value with
  | ok writer =>
    obtain ⟨confirms, rfl⟩ := (validateCreateResult_eq_ok standing _ _ _).mp accepted
    rw [accepted] at replied
    subst replied
    by_cases short : Json.Encodes value
        ∧ (order.action.get "content_truth_status").isNonEmptyString = true
    · have receipted := @receiveWritten_receipted ⟨site.packet, r⟩ order prepared lease attempt
        value _ _ tick held ready.names confirms attempted texted ready.identified short.1 short.2
        returned
      exact ⟨fun _ => .inr fun _ => short, fun _ => .inl receipted⟩
    · rw [receiveWritten_unreceived ready.names confirms attempted texted short]
      constructor
      · intro accounted
        rcases accounted with receipted | unpublished | quarantined
        · exact .inl receipted
        · exact absurd unpublished told
        · exact absurd quarantined (unquarantined standing named)
      · intro either
        rcases either with receipted | fits
        · exact .inl receipted
        · exact absurd (fits confirms) short
  | error failure =>
    rw [accepted] at replied
    have unconfirmed : ¬ Confirms after.grant.identity order.action value := by
      intro confirms
      have valid := (validateCreateResult_eq_ok standing order.action value _).mpr
        ⟨confirms, rfl⟩
      rw [accepted] at valid
      cases valid
    cases failure with
    | refused wrong =>
      subst replied
      have quarantined : Quarantined
          (quarantineInvariant ⟨site.packet, r⟩ order.create lease "create_result"
            wrong).2.registry order.action := by
        rw [quarantineInvariant, quarantine_site]
        refine (quarantineEffect_iff standing _ rfl named).mpr (Json.encodes_record ?_)
        simp only [List.forall_mem_cons]
        exact ⟨Json.encodes_str _, Json.encodes_str _, Json.encodes_str _, List.forall_mem_nil _⟩
      exact ⟨fun _ => .inr fun confirms => absurd confirms unconfirmed,
        fun _ => .inr (.inr quarantined)⟩
    | raised err =>
      subst replied
      obtain ⟨text, same⟩ := returned (.raised err) rfl
      cases same
    | fault operation =>
      subst replied
      obtain ⟨text, same⟩ := returned (.fault operation) rfl
      cases same

theorem write_accounted_iff
    (entered : Entered site (write site order prepared attempt lease).2)
    (returned : Returned (write site order prepared attempt lease).1) :
    Accounted order (write site order prepared attempt lease).2
      ↔ Receipted site.packet order.action ∨ Answered before order := by
  obtain ⟨failure, refused, unentered⟩ | ⟨live, values, after, checked, ends, answered, standing,
      grant, rootId⟩ | ⟨live, err, failure, root, checked, ends, refused, raised, found, state⟩ :=
    effectCreate_cases site.registry order.create lease prepared.request
  · exfalso
    apply entered
    cases failure with
    | refused err =>
      simp only [write, refused, callBoundary, Value.truthy]
      exact (providerRefused_creations _ _ _ _ _ _).trans unentered
    | raised | fault =>
      simp only [write, refused, callBoundary]
      exact unentered
  · have previous := leaseState_eq_ok.mp checked
    have leased := previous.lease
    rw [ready.leased] at leased
    obtain rfl := Option.some.inj leased
    have named := ready.rooted
    rw [← rootId] at named
    by_cases truthy : (values.getD 0 .nil).truthy = true
    · have told : ¬ Unpublished order.create := by
        intro unpublished
        obtain ⟨others, _, ends', falsy, -⟩ := unpublished
        rw [ends] at ends'
        cases ends'
        rw [truthy] at falsy
        cases falsy
      let after := (site.registry.effectCreate order.create lease prepared.request).2
      have replied : write site order prepared attempt lease
          = match validateCreateResult after lease order.action (values.getD 0 .nil) with
            | .error (.refused wrong) =>
                quarantineInvariant ⟨site.packet, after⟩ order.create lease "create_result" wrong
            | .error failure => (.error failure, ⟨site.packet, after⟩)
            | .ok writer =>
                receiveWritten ⟨site.packet, after⟩ order prepared lease attempt writer := by
        have boundary : callBoundary (site.registry.effectCreate order.create lease
            prepared.request).1 = .answered (values.getD 0 .nil) (values.getD 1 .nil) := by
          rw [answered]
          rfl
        simp only [write, boundary]
        exact if_pos truthy
      rw [written_accounted_iff ready standing named told replied returned]
      simp only [Answered, ends, truthy, if_true]
      rw [grant, ready.confirmed_iff previous]
    · have replied : write site order prepared attempt lease = providerRefused
          ⟨site.packet, (site.registry.effectCreate order.create lease prepared.request).2⟩
          order.create lease (values.getD 1 .nil) .nil createDoubtful := by
        simp only [write, answered, callBoundary, List.getD_cons_zero, List.getD_cons_succ, truthy]
        rfl
      rw [replied] at returned ⊢
      simp only [Accounted, providerRefused_packet, Answered, ends, if_neg truthy]
      rw [providerRefused_iff standing named order.create (values.getD 1 .nil) returned]
      constructor
      · intro accounted
        rcases accounted with receipted | unpublished | ⟨err, valid, ambiguous⟩
        · exact .inl receipted
        · obtain ⟨others, err, ends', -, valid, world⟩ := unpublished
          rw [ends] at ends'
          cases ends'
          exact .inr ⟨err, valid, .inl world⟩
        · exact .inr ⟨err, valid, .inr ambiguous⟩
      · intro either
        rcases either with receipted | ⟨err, valid, world | ambiguous⟩
        · exact .inl receipted
        · exact .inr (.inl ⟨values, err, ends, eq_false_of_ne_true truthy, valid, world⟩)
        · exact .inr (.inr ⟨err, valid, ambiguous⟩)
  · have leased := (leaseState_eq_ok.mp checked).lease
    rw [ready.leased] at leased
    obtain rfl := Option.some.inj leased
    have reached : (write site order prepared attempt lease).2.registry
        = (site.registry.effectCreate order.create lease prepared.request).2 := by
      cases failure with
      | refused text => exact absurd rfl (raised text)
      | raised | fault => simp only [write, refused, callBoundary]
    constructor
    · intro _
      simp only [Answered, ends]
      exact .inr trivial
    · intro _
      refine .inr (.inr ⟨live.lease.rootId, root, ready.rooted, ?_, state⟩)
      rw [reached]
      exact found

end

end

theorem prepare_attempt {order : Order} {prepared : Prepared}
    (planned : prepare site order = .ok prepared) :
    ∃ id, prepared.attempt.get "attempt_id" = .str id ∧ id ≠ [] := by
  simp only [prepare, Digest.identify, bind_eq_ok, pure_eq_ok] at planned
  obtain ⟨tick, -, request, -, targetRef, -, attemptId, ⟨digest, -, rfl⟩, scope, -, provenance, -,
    rfl⟩ := planned
  refine ⟨utf8 "repository-attempt:" ++ digest, Value.get_record (by simp) (by simp), ?_⟩
  exact fun empty => absurd (List.append_eq_nil_iff.mp empty).1 (by decide)

theorem execute_ready {order : Order}
    (entered : Entered site (execute site order).2) :
    ∃ prepared attempt lease issued after, execute site order
        = write after order prepared attempt lease
      ∧ Ready site.registry after order attempt lease issued
      ∧ after.registry.creations = site.registry.creations
      ∧ (Receipted after.packet order.action ↔ Receipted site.packet order.action) := by
  unfold execute at entered ⊢
  obtain ⟨failure, -, refused⟩ | ⟨prepared, planned, done⟩ :=
    transact_cases (prepare site order) _ site
  · rw [refused] at entered
    exact absurd rfl entered
  rw [done] at entered ⊢
  obtain ⟨failure, refused⟩ | ⟨attempt, tick, recorded, held, -, typed, stored, -, identified⟩ :=
    @recordRepositoryEvent_cases site.packet (order.clock 0) .logic .repositoryEffectAttempt
      prepared.attempt validateRepositoryAttempt id
  · simp only [recordRepositoryEffectAttempt, refused] at entered
    exact absurd rfl entered
  simp only [recordRepositoryEffectAttempt, recorded] at entered ⊢
  cases begun : (site.registry.beginEffect order.derive order.action order.inst).1 with
  | error failure =>
    simp only [begun] at entered
    exact absurd (beginEffect_creations _ _ _ _) entered
  | ok lease =>
    obtain ⟨validated, issued, grant, after, leased, rooted, named, granted, held', same⟩ :=
      beginEffect_begun begun
    obtain ⟨id, attemptId, texted⟩ := prepare_attempt planned
    simp only
    refine ⟨prepared, attempt, lease, issued, _, rfl, ?_, beginEffect_creations _ _ _ _,
      receipted_push _ _ _ (by rw [typed]; exact EventType.noConfusion)⟩
    refine ⟨validate_names validated, ⟨tick, ?_⟩, ⟨id, ?_, texted⟩, ?_, leased, rooted, named,
      grant, after, granted, held', same⟩
    · exact assertActorTick_push held (by rw [typed]; exact EventType.noConfusion)
        (by rw [typed]; exact EventType.noConfusion) (by rw [typed]; exact EventType.noConfusion) _
    · rw [stored, Value.get_deepCopy, Value.get_deepCopy, attemptId]
      rfl
    · rw [identified]
      exact ⟨_, rfl⟩

/-- No mutation is unaccounted for exactly under the answers that the call decides on. -/
theorem execute_accounted_iff (site : Site) (order : Order)
    (entered : Entered site (execute site order).2)
    (returned : Returned (execute site order).1) :
    Accounted order (execute site order).2
      ↔ Receipted site.packet order.action ∨ Answered site.registry order := by
  obtain ⟨prepared, attempt, lease, issued, after, written, ready, unentered, receipted⟩ :=
    execute_ready entered
  rw [written] at entered returned ⊢
  rw [write_accounted_iff ready _ returned, receipted]
  rw [Entered, unentered]
  exact entered

def samplePacket : Packet :=
  { Packet.unborn (.text "p") (utf8 "task") .nil .nil .build
      ⟨.text "s", .text "l", .int 1, .nil, .user, .nil, .nil⟩ ⟨.nil, .nil, .nil, .nil⟩ .nil
      ⟨.nil, .nil, .nil, .nil, .nil, .nil⟩ .nil with
    operator := .logic
    trace := [{
      id := .text "event-000001"
      packetId := .text "p"
      lineageId := .text "l"
      generation := .int 1
      tick := .nat 1
      type := .operatorTick
      operator := .logic
      payload := .emptyTable
      truthStatus := .runtimeConfirmed
      cost := ⟨.nil, .nil, .nil, .nil, .nil, .nil⟩
      time := .nat 0
      observer := false }] }

def sampleSite : Site := ⟨samplePacket, (sampleRegistry.mint sampleWorld sampleMint).2⟩

def sampleOrder (create : Outcome) : Order where
  inst := sampleInstance
  action := sampleAction (.int 1)
  derive := sampleDerive
  resolved := .ok sampleGrant
  clock := fun _ => 0
  create := { sampleWorld with dispatch := create }
  read := sampleWorld

def cameBack (before : Site) : Reply Site Value → Bool
  | (.error (.raised _), _) => false
  | (.error (.fault _), _) => false
  | (_, after) => before.registry.creations.length < after.registry.creations.length

theorem entered_of_cameBack {before : Site} {reply : Reply Site Value}
    (came : cameBack before reply = true) : Entered before reply.2 ∧ Returned reply.1 := by
  obtain ⟨answer, after⟩ := reply
  have entered : before.registry.creations.length < after.registry.creations.length →
      Entered before after := fun longer same => absurd (congrArg List.length same) longer.ne'
  cases answer with
  | ok result => exact ⟨entered (of_decide_eq_true came), OnError.ok _⟩
  | error failure =>
    cases failure with
    | refused err => exact ⟨entered (of_decide_eq_true came), OnError.error ⟨err, rfl⟩⟩
    | raised | fault => cases came

def contractFailure : Value := .record [
  ("protocol_version", .text "repository.provider_error.v0"),
  ("class", .text "contract"),
  ("code", .text "provider_contract"),
  ("stage", .text "create"),
  ("mutation_primitive_entered", .bool true),
  ("published", .bool true),
  ("cost", .record [("tool_calls", .nat 1), ("file_writes", .nat 1), ("time_ms", .nat 0)])]

theorem sample_came :
    cameBack sampleSite (execute sampleSite (sampleOrder (.raised (.text "panic")))) = true
      ∧ cameBack sampleSite
        (execute sampleSite (sampleOrder (.returned [.nil, contractFailure]))) = true := by
  decide +kernel

theorem provider_panic_accounted :
    Entered sampleSite (execute sampleSite (sampleOrder (.raised (.text "panic")))).2
      ∧ Accounted (sampleOrder (.raised (.text "panic")))
        (execute sampleSite (sampleOrder (.raised (.text "panic")))).2 := by
  obtain ⟨entered, returned⟩ := entered_of_cameBack sample_came.1
  exact ⟨entered, (execute_accounted_iff _ _ entered returned).mpr (.inr trivial)⟩

theorem contract_failure_unaccounted :
    ¬ ∀ site order, Entered site (execute site order).2 → Returned (execute site order).1 →
      Accounted order (execute site order).2 := by
  intro accounted
  obtain ⟨entered, returned⟩ := entered_of_cameBack sample_came.2
  rcases (execute_accounted_iff _ _ entered returned).mp (accounted _ _ entered returned) with
    receipted | ⟨err, valid, -⟩
  · obtain ⟨event, member, typed, -⟩ := receipted
    rw [List.mem_singleton.mp member] at typed
    cases typed
  · have refused : (validateProviderError contractFailure).isOk = false := by decide +kernel
    have valid' : validateProviderError contractFailure = .ok err := valid
    rw [valid'] at refused
    cases refused

end Proc17.Runtime.Repository.Effect
