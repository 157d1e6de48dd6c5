import Proc17.Runtime.Credit.Ledger

/-!
# The steps of edge credit

The low-level steps of `runtime/edge_credit.lua` on a credit state, and the strict operations,
which check the whole ledger before and after.
-/

namespace Proc17.Runtime.Credit

open Lua Core
open Runtime.Epoch (isTaggedHash exactNames texts sameValue Definition)

/-- Lua's `==` with a value of a stored record; a stored table is a copy, which no argument is. -/
def sameAsStored (given stored : Value) : Bool := !stored.isTable && given.eq stored

/-! ## Eligibility -/

def qualifiedTreePolicy (epoch : Option Value) : Bool :=
  match epoch with
  | none => false
  | some epoch =>
    let physics := epoch.get "physics"
    let policy := physics.get "live_policy"
    let pressure := policy.get "pressure"
    decide (physics.get "movement_owner" = .text "tree" ∧ policy.isTable = true
      ∧ policy.get "kind" = .text "tree_policy_descriptor" ∧ pressure.isTable = true
      ∧ pressure.get "pressure_policy" = .text "qualified_need_v0"
      ∧ pressure.get "witness_protocol" = .text "pressure.witness.v1"
      ∧ pressure.get "action_protocol" = .text "pressure.action_plan.v0")

def anyConsumerAblation (epoch : Option Value) : Bool :=
  match epoch with
  | none => false
  | some epoch =>
    match (((epoch.get "physics").get "live_policy").get "pressure").get "ablation_vector" with
    | .table _ entries => entries.any fun entry => decide (entry.2 = .bool true)
    | _ => false

/-- `append_unique` under a condition. -/
def addWhen (condition : Bool) (reason : Reason) (reasons : List Reason) : List Reason :=
  if condition then appendUnique Reason.text reasons reason else reasons

def evaluatedReasons (s : State) (authority : RouteAuthority) (body : BodyEligibility)
    (selectedActionPlanId : Value) : List Reason :=
  let tree := decide (authority = .tree)
  let qualified := qualifiedTreePolicy s.authorityEpoch
  body.reasons
    |> addWhen (!tree) .nonTreeAuthority
    |> addWhen (decide (authority = .harnessOverride)) .harnessOverride
    |> addWhen (tree && decide (s.authorityEpoch.map State.configuredOwner ≠ some (.text "tree")))
      .epochMismatch
    |> addWhen s.tainted .authorityTainted
    |> addWhen (tree && !qualified) .binaryPolicyControl
    |> addWhen (tree && qualified && anyConsumerAblation s.authorityEpoch) .consumerAblationActive
    |> addWhen (tree && qualified && (nonEmpty selectedActionPlanId).isNone) .missingActionContract

def makeEligibility (s : State) (routeEvidenceId : Bytes) (authority : RouteAuthority)
    (body : BodyEligibility) (selectedActionPlanId : Value) (authorityBasisRef : Bytes)
    (pressureSnapshotRef : Value) : Except Failure Eligibility := do
  let record : Eligibility :=
    { eligibilityRef := []
      routeEvidenceId := routeEvidenceId
      physicsEpochId := s.epochField "physics_epoch_id"
      evidenceEpochId := s.epochField "evidence_epoch_id"
      reasons := evaluatedReasons s authority body selectedActionPlanId
      basisRefs := normalizedSet id
        (if authority = .tree then eligibilityBasisRefs body pressureSnapshotRef
          else [authorityBasisRef]) }
  let ref ← taggedDigest record.seed
  pure { record with eligibilityRef := ref }

def makeInstrumentError (code : ClassificationError) (routeEvidenceId : Bytes)
    (refs : List Bytes) : Except Failure ErrorRecord := do
  let record : ErrorRecord := ⟨[], code, routeEvidenceId, normalizedSet id refs⟩
  let ref ← taggedDigest record.seed
  pure { record with errorId := ref }

/-! ## Selection -/

/-- The first checks of `prepare_on`, with the ordinal and the authority they read. -/
def selectionInput (decision context : Value) : Option (Number × RouteAuthority) := do
  guard (decision.isTable = true ∧ context.isTable = true)
  let ordinal ← positiveInteger (context.get "route_ordinal")
  let authority ← Value.parse RouteAuthority.all RouteAuthority.name (decision.get "authority")
  guard (decision.get "truth_status" = runtimeConfirmed)
  pure (ordinal, authority)

def requestRecord (s : State) (decision : Value) (ordinal : Number) (fromOp toOp : Operator)
    (authority : RouteAuthority) : Except Failure Request := do
  let record : Request :=
    { recordId := []
      sequence := s.nextSequence
      lifeId := s.identity.lifeId
      packetId := s.identity.packetId
      routeOrdinal := ordinal
      fromOp := fromOp
      toOp := toOp
      routeAuthority := authority
      reason := (nonEmpty (decision.get "reason")).getD (utf8 "unspecified_route_request") }
  let id ← taggedDigest record.seed
  pure { record with recordId := id }

def foreignBody : BodyEligibility := ⟨false, [.nonTreeAuthority], [], false, []⟩

/-- The body's eligibility that `prepare_on` reads. -/
def readBody (authority : RouteAuthority) (decision context : Value) (fromOp toOp : Operator) :
    Except ClassificationError BodyEligibility :=
  if authority = .tree then
    let event := context.get "derivation_event"
    if nonEmpty (decision.get "derivation_ref") = none
        ∨ nonEmpty (decision.get "pressure_snapshot_ref") = none ∨ event.isTable = false
        ∨ (event.get "id").eq (decision.get "derivation_ref") = false then
      .error .basisMissing
    else bodyEligibilityChain decision event fromOp toOp
  else .ok foreignBody

/-- `error_codes` of `prepare_on` -/
def classificationCodes (s : State) (body : Except ClassificationError BodyEligibility) :
    List ClassificationError :=
  normalizedSet ClassificationError.text
    ((if s.authorityEpoch.isNone then [.epochInvalid] else [])
      ++ match body with
        | .ok _ => []
        | .error code => [code])

def authorityBasis (s : State) (decision : Value) (ordinal : Number) (fromOp toOp : Operator)
    (authority : RouteAuthority) : Except Failure (State × Bytes) :=
  if authority = .tree then
    .ok (s, (nonEmpty (decision.get "derivation_ref")).getD (utf8 "none"))
  else
    match requestRecord s decision ordinal fromOp toOp authority with
    | .ok request => .ok (s.append (.request request), request.recordId)
    | .error _ => .error (instrumentError "route_request_identity_failure" [])

def treeField (authority : RouteAuthority) (decision : Value) (name : String) : Value :=
  if authority = .tree ∧ (decision.get name).truthy = true then (decision.get name).deepCopy
  else .nil

/-- What `prepare_on` evaluates of a body without classification errors. -/
def prepareEligibility (s : State) (routeEvidenceId : Bytes) (authority : RouteAuthority)
    (codes : List ClassificationError) (body : Except ClassificationError BodyEligibility)
    (decision : Value) (basisRef : Bytes) : Except Failure (Option Eligibility) :=
  match codes, body with
  | [], .ok body =>
    match makeEligibility s routeEvidenceId authority body
        (decision.get "selected_action_plan_id") basisRef
        (decision.get "pressure_snapshot_ref") with
    | .ok eligibility => .ok (some eligibility)
    | .error _ => .error (instrumentError "eligibility_identity_failure" [])
  | _, _ => .ok none

def followUp (decision : Value) (routeEvidenceId : Bytes) (codes : List ClassificationError) :
    Option Eligibility → Except Failure (List Event)
  | some eligibility => .ok [.eligibility eligibility]
  | none => do
      let refs := (nonEmpty (decision.get "derivation_ref")).toList
        ++ (nonEmpty (decision.get "pressure_snapshot_ref")).toList
      let errors ← codes.mapM fun code => makeInstrumentError code routeEvidenceId refs
      pure (errors.map Event.error)

/-- `prepare_on` from the route's request on. -/
def selectRoute (s : State) (decision context : Value) (ordinal : Number)
    (authority : RouteAuthority) (definition : Definition) (fromOp toOp : Operator) :
    Except Failure (State × Selection) := do
  let (s, basisRef) ← authorityBasis s decision ordinal fromOp toOp authority
  let route : Route :=
    { evidenceEpochId := s.epochField "evidence_epoch_id"
      identity := s.identity
      routeOrdinal := ordinal
      fromOp := fromOp
      toOp := toOp
      routeAuthority := authority
      authorityBasisRef := basisRef
      derivationRef := treeField authority decision "derivation_ref"
      pressureSnapshotRef := treeField authority decision "pressure_snapshot_ref"
      selectedActionPlanId := treeField authority decision "selected_action_plan_id" }
  let routeEvidenceId ← taggedDigest route.seed
  let body := readBody authority decision context fromOp toOp
  let codes := classificationCodes s body
  let eligibility ← prepareEligibility s routeEvidenceId authority codes body decision basisRef
  let record : Selection :=
    { recordId := []
      routeEvidenceId := routeEvidenceId
      sequence := s.nextSequence
      physicsEpochId := s.epochField "physics_epoch_id"
      route := route
      edgeId := definition.id
      classificationErrorCodes := codes
      eligibility := eligibility }
  let id ← taggedDigest record.seed
  let selection := { record with recordId := id }
  let following ← followUp decision routeEvidenceId codes eligibility
  pure (following.foldl State.append (s.append (.selection selection)), selection)

def prepareOn (s : State) (decision context : Value) : Except Failure (State × Selection) :=
  match selectionInput decision context with
  | none => .error (instrumentError "invalid_route_selection_input" [])
  | some (ordinal, authority) =>
    match routeDefinition (decision.get "from") (decision.get "to") with
    | none => .error (instrumentError "route_outside_authority_surface" [])
    | some (definition, fromOp, toOp) => do
        require (decision.get "from" = Topology.value fromOp
          ∧ decision.get "to" = Topology.value toOp)
          (instrumentError "route_identity_mismatch" [])
        require (∀ r ∈ s.events.filterMap Event.asSelection,
          Number.eq r.route.routeOrdinal ordinal = false)
          (instrumentError "route_ordinal_replayed" [])
        selectRoute s decision context ordinal authority definition fromOp toOp

/-! ## Commit -/

/-- `stored_selection` and `stored_commit`: the record that the argument is a copy of. -/
def stored {α : Type} (records : List α) (recordId : α → Bytes) (toValue : α → Value)
    (malformed unresolved : String) (supplied : Value) : Except Failure α :=
  if supplied.isTable = false ∨ isTaggedHash (supplied.get "record_id") = false then
    .error (instrumentError malformed [])
  else
    match records.find? fun record => supplied.get "record_id" = .str (recordId record) with
    | none => .error (instrumentError unresolved [])
    | some record =>
      if sameValue (toValue record) supplied then .ok record
      else .error (instrumentError "route_identity_mismatch" [])

def storedSelection (s : State) : Value → Except Failure Selection :=
  stored (s.events.filterMap Event.asSelection) Selection.recordId Selection.toValue
    "invalid_selection_reference" "selection_ref_unresolved"

def storedCommit (s : State) : Value → Except Failure Commit :=
  stored (s.events.filterMap Event.asCommit) Commit.recordId Commit.toValue
    "invalid_commit_reference" "commit_ref_unresolved"

/-- What `route_event_matches` asks of a classified selection of the tree. -/
def eligibilityMatches (s : State) (selection : Selection) (payload : Value) : Bool :=
  let route := selection.route
  match normalizeBodyEligibility payload with
  | .error _ => false
  | .ok body =>
    match makeEligibility s selection.routeEvidenceId route.routeAuthority body
        route.selectedActionPlanId route.authorityBasisRef route.pressureSnapshotRef with
    | .error _ => false
    | .ok expected => selection.eligibility.any fun e => sameValue expected.toValue e.toValue

def routeEventMatches (s : State) (selection : Selection) (routeEvent : Value) : Bool :=
  let route := selection.route
  let payload := routeEvent.get "payload"
  routeEvent.isTable && (nonEmpty (routeEvent.get "id")).isSome
    && decide (routeEvent.get "type" = .text "route")
    && decide (routeEvent.get "truth_status" = runtimeConfirmed)
    && decide (Topology.resolve (routeEvent.get "operator") = some route.toOp)
    && payload.isTable && decide (Topology.resolve (payload.get "from") = some route.fromOp)
    && decide (Topology.resolve (payload.get "to") = some route.toOp)
    && decide (payload.get "authority" = route.routeAuthority.value)
    && sameAsStored (payload.get "derivation_ref") route.derivationRef
    && sameAsStored (payload.get "pressure_snapshot_ref") route.pressureSnapshotRef
    && sameAsStored (payload.get "selected_action_plan_id") route.selectedActionPlanId
    && (!decide (route.routeAuthority = .tree) || !selection.classified
      || eligibilityMatches s selection payload)

def makeTaint (s : State) (selection : Selection) (commit : Commit) :
    Except Failure (Option Taint) :=
  match s.authorityEpoch with
  | none => .ok none
  | some epoch =>
    let owner := State.configuredOwner epoch
    if s.tainted = true ∨ selection.route.routeAuthority.value = owner then .ok none
    else do
      let record : Taint :=
        { recordId := []
          routeEvidenceId := selection.routeEvidenceId
          commitRef := commit.recordId
          sequence := s.nextSequence
          configuredOwner := owner
          observedOwner := selection.route.routeAuthority }
      let id ← taggedDigest record.seed
      pure (some { record with recordId := id })

def recordCommitOn (s : State) (suppliedSelection routeEvent : Value) :
    Except Failure (State × Commit × Option Taint) := do
  let selection ← storedSelection s suppliedSelection
  require (commitOf s.events selection.routeEvidenceId = none)
    (instrumentError "route_commit_replayed" [])
  require (routeEventMatches s selection routeEvent = true)
    (instrumentError "route_identity_mismatch"
      [("route_evidence_id", .str selection.routeEvidenceId)])
  let record : Commit :=
    { recordId := []
      routeEvidenceId := selection.routeEvidenceId
      selectionRef := selection.recordId
      routeTraceRef := (nonEmpty (routeEvent.get "id")).getD []
      fromOp := selection.route.fromOp
      toOp := selection.route.toOp
      routeAuthority := selection.route.routeAuthority }
  let id ← taggedDigest record.seed
  let commit := { record with recordId := id }
  let s := s.append (.commit commit)
  let taint ← makeTaint s selection commit
  pure ((taint.map Event.taint).toList.foldl State.append s, commit, taint)

/-! ## Endings -/

def openCommit (s : State) (suppliedCommit : Value) : Except Failure Commit := do
  let commit ← storedCommit s suppliedCommit
  require (ended s.events commit.routeEvidenceId = false)
    (instrumentError "route_phase_replayed" [("route_evidence_id", .str commit.routeEvidenceId)])
  pure commit

def selectionForCommit (s : State) (commit : Commit) : Option Selection :=
  (s.events.filterMap Event.asSelection).find? fun r => r.recordId = commit.selectionRef

def makeDecision (commit : Commit) (arrival : Arrival) (eligibility : Eligibility) :
    Except Failure Decision := do
  let record : Decision :=
    { creditDecisionRef := []
      routeEvidenceId := commit.routeEvidenceId
      selectionEligibilityRef := eligibility.eligibilityRef
      commitRef := commit.recordId
      arrivalRef := arrival.recordId
      credited := eligibility.eligible
      reasons := eligibility.reasons
      basisRefs := normalizedSet id
        [eligibility.eligibilityRef, commit.recordId, arrival.recordId] }
  let id ← taggedDigest record.seed
  pure { record with creditDecisionRef := id }

def recordArrivalOn (s : State) (suppliedCommit input : Value) :
    Except Failure (State × Arrival × Option Decision) := do
  let commit ← openCommit s suppliedCommit
  match nonEmpty (input.get "destination_tick_ref"), nonEmpty (input.get "payload_kind") with
  | some destination, some payloadKind =>
    match textSet (input.get "effect_refs") with
    | none => .error (instrumentError "invalid_arrival_effect_refs" [])
    | some effectRefs => do
        let record : Arrival :=
          ⟨[], commit.routeEvidenceId, commit.recordId, destination, effectRefs, payloadKind⟩
        let id ← taggedDigest record.seed
        let arrival := { record with recordId := id }
        let s := s.append (.arrival arrival)
        match selectionForCommit s commit with
        | none => .error (instrumentError "selection_ref_unresolved" [])
        | some selection =>
          match selection.eligibility with
          | none => pure (s, arrival, none)
          | some eligibility => do
              let decision ← makeDecision commit arrival eligibility
              pure (s.append (.decision decision), arrival, some decision)
  | _, _ => .error (instrumentError "invalid_arrival_input" [])

def recordFailureOn (s : State) (suppliedCommit input : Value) :
    Except Failure (State × RouteFailure) := do
  let commit ← openCommit s suppliedCommit
  match nonEmpty (input.get "destination_tick_ref"), nonEmpty (input.get "failure_ref"),
      nonEmpty (input.get "failure_kind") with
  | some destination, some failureRef, some failureKind => do
      let record : RouteFailure :=
        ⟨[], commit.routeEvidenceId, commit.recordId, destination, failureRef, failureKind⟩
      let id ← taggedDigest record.seed
      let failure := { record with recordId := id }
      pure (s.append (.failure failure), failure)
  | _, _, _ => .error (instrumentError "invalid_failure_input" [])

def recordPendingOn (s : State) (suppliedCommit input : Value) :
    Except Failure (State × Pending) := do
  let commit ← openCommit s suppliedCommit
  require (input.get "stop_reason" = .text "tick_limit")
    (instrumentError "invalid_pending_input" [])
  let record : Pending := ⟨[], commit.routeEvidenceId, commit.recordId⟩
  let id ← taggedDigest record.seed
  let pending := { record with recordId := id }
  pure (s.append (.pending pending), pending)

/-! ## Operations -/

inductive Call where
  | prepare (decision context : Value)
  | commit (selection routeEvent : Value)
  | arrival (commit input : Value)
  | failure (commit input : Value)
  | pending (commit input : Value)

inductive Answer where
  | selection (r : Selection)
  | commit (c : Commit) (taint : Option Taint)
  | arrival (a : Arrival) (decision : Option Decision)
  | failure (f : RouteFailure)
  | pending (p : Pending)

def Call.on (s : State) : Call → Except Failure (State × Answer)
  | .prepare decision context => do
      let (next, r) ← prepareOn s decision context
      pure (next, .selection r)
  | .commit supplied routeEvent => do
      let (next, c, taint) ← recordCommitOn s supplied routeEvent
      pure (next, .commit c taint)
  | .arrival supplied input => do
      let (next, a, decision) ← recordArrivalOn s supplied input
      pure (next, .arrival a decision)
  | .failure supplied input => do
      let (next, f) ← recordFailureOn s supplied input
      pure (next, .failure f)
  | .pending supplied input => do
      let (next, p) ← recordPendingOn s supplied input
      pure (next, .pending p)

/-- `credit.prepare`, `credit.record_commit`, `credit.record_arrival`, `credit.record_failure` and
`credit.record_pending`: a working copy that the ledger's check has to accept. -/
def Call.strict (call : Call) (s : State) : Reply State Answer :=
  match verify s with
  | .error err => (.error err, s)
  | .ok _ =>
    match call.on s with
    | .error err => (.error err, s)
    | .ok (working, answer) =>
      match verify working with
      | .error err => (.error err, s)
      | .ok _ => (.ok answer, working)

def readIdentity (identity : Value) : Option Identity := do
  guard (exactNames identity ["life_id", "packet_id", "lineage_id", "generation"] [] = true)
  let life ← nonEmpty (identity.get "life_id")
  let packet ← nonEmpty (identity.get "packet_id")
  let lineage ← nonEmpty (identity.get "lineage_id")
  let generation ← positiveInteger (identity.get "generation")
  pure ⟨life, packet, lineage, generation⟩

def new (epochRecord identity : Value) : Except Failure State := do
  let given := if epochRecord = .nil then none else some epochRecord
  verifyEpoch given
  match readIdentity identity with
  | none => .error (instrumentError "invalid_edge_credit_identity" [])
  | some identity => do
      let s : State := ⟨given.map Value.deepCopy, identity, []⟩
      verify s
      pure s

def strictRun (s : State) (calls : List Call) : State :=
  calls.foldl (fun s call => (call.strict s).2) s

end Proc17.Runtime.Credit
