import Proc17.Runtime.Epoch.Resolve

/-!
# Edge-credit records

The records of `runtime/edge_credit.lua` with the seeds their ids are digests of, and the
reading of the body's eligibility.
-/

namespace Proc17.Runtime.Credit

open Lua Core
open Runtime.Epoch (isTaggedHash exactNames texts sameValue Definition definitions direction
  edge isPositiveInteger)

def instrumentError (code : String) (extra : List (String × Value)) : Failure :=
  .refused (.record ([("class", .text "instrument_contract"), ("code", .text code),
    ("stage", .text "edge_credit")] ++ extra))

def invalid (path : String) : Failure :=
  instrumentError "edge_credit_invalid" [("path", .text path)]

def taggedDigest (seed : Value) : Except Failure Bytes :=
  match Digest.record seed with
  | .ok hash => .ok (utf8 "sha256:" ++ hash)
  | .error (.refused err) =>
    .error (instrumentError "edge_credit_digest_failure" [("detail", err)])
  | .error failure => .error failure

def optionalIdentity (v : Value) : Value := if v = .nil then .text "none" else v

def protocolVersion : Value := .text "edge-credit.v0"
def routeProtocolVersion : Value := .text "route-evidence.v0"
def errorProtocolVersion : Value := .text "authority-instrument-error.v0"
def runtimeConfirmed : Value := .text "runtime_confirmed"

/-! ## Vocabularies -/

/-- `eligibility_reasons` -/
inductive Reason where
  | nonTreeAuthority
  | harnessOverride
  | authorityTainted
  | binaryPolicyControl
  | candidateUnqualified
  | fixtureWitness
  | consumerAblationActive
  | controlFallback
  | tieOnlySelection
  | missingActionContract
  | unresolvedSourceRef
  | epochMismatch
  | routeIdentityMismatch
  | instrumentationError
  deriving DecidableEq

namespace Reason

def all : List Reason :=
  [nonTreeAuthority, harnessOverride, authorityTainted, binaryPolicyControl, candidateUnqualified,
    fixtureWitness, consumerAblationActive, controlFallback, tieOnlySelection,
    missingActionContract, unresolvedSourceRef, epochMismatch, routeIdentityMismatch,
    instrumentationError]

def name : Reason → String
  | nonTreeAuthority => "non_tree_authority"
  | harnessOverride => "harness_override"
  | authorityTainted => "authority_tainted"
  | binaryPolicyControl => "binary_policy_control"
  | candidateUnqualified => "candidate_unqualified"
  | fixtureWitness => "fixture_witness"
  | consumerAblationActive => "consumer_ablation_active"
  | controlFallback => "control_fallback"
  | tieOnlySelection => "tie_only_selection"
  | missingActionContract => "missing_action_contract"
  | unresolvedSourceRef => "unresolved_source_ref"
  | epochMismatch => "epoch_mismatch"
  | routeIdentityMismatch => "route_identity_mismatch"
  | instrumentationError => "instrumentation_error"

def text (reason : Reason) : Bytes := utf8 reason.name

end Reason

inductive ClassificationError where
  | chainMissing
  | chainMismatch
  | basisMissing
  | epochInvalid
  deriving DecidableEq

namespace ClassificationError

def name : ClassificationError → String
  | chainMissing => "eligibility_chain_missing"
  | chainMismatch => "eligibility_chain_mismatch"
  | basisMissing => "authority_basis_missing"
  | epochInvalid => "authority_epoch_invalid"

def text (code : ClassificationError) : Bytes := utf8 code.name

end ClassificationError

inductive RouteAuthority where
  | legacyControl
  | tree
  | harnessOverride
  deriving DecidableEq

namespace RouteAuthority

def all : List RouteAuthority := [legacyControl, tree, harnessOverride]

def name : RouteAuthority → String
  | legacyControl => "legacy_control"
  | tree => "tree"
  | harnessOverride => "harness_override"

def value (authority : RouteAuthority) : Value := .text authority.name

end RouteAuthority

/-! ## Sets of texts -/

def nonEmpty (v : Value) : Option Bytes :=
  match v with
  | .str (b :: rest) => some (b :: rest)
  | _ => none

def positiveInteger (v : Value) : Option Number :=
  match v with
  | .num n => if isPositiveInteger (.num n) then some n else none
  | _ => none

section
variable {α : Type} [DecidableEq α] (text : α → Bytes)

def sortTexts (items : List α) : List α :=
  items.insertionSort fun a b => Json.TextLe (text a) (text b)

def inOrder (items : List α) : Bool :=
  sameValue (texts (items.map text)) (texts ((sortTexts text items).map text))

/-- `strict_sorted_unique`, with what the vocabulary reads of a text. -/
def strictSortedUnique (read : Value → Option α) (values : Value) : Option (List α) := do
  guard (values.isTable = true)
  let items ← values.ipairs.toOption
  let result ← items.mapM read
  guard (result.Nodup)
  guard (values.keys.all (fun key =>
    match key with
    | .num n => !Number.lt n (.int 1) && !Number.lt (.int items.length) n && n.isIntegral
    | _ => false) = true)
  guard (inOrder text result = true)
  pure result

/-- `normalized_set`, over texts none of which is empty. -/
def normalizedSet (items : List α) : List α := sortTexts text items.dedup

def appendUnique (items : List α) (item : α) : List α :=
  if item ∈ items then items else sortTexts text (items ++ [item])

end

def textSet (values : Value) : Option (List Bytes) := strictSortedUnique id nonEmpty values

def reasonTexts (reasons : List Reason) : Value := texts (reasons.map Reason.text)

/-! ## Routes of the catalog -/

def routeDefinition (fromOp toOp : Value) : Option (Definition × Operator × Operator) := do
  let left ← Topology.resolve fromOp
  let right ← Topology.resolve toOp
  let definition ← definitions.find? fun d => edge d.left d.right = edge left right
  guard ((left, right) ∈ definition.directions)
  pure (definition, left, right)

/-! ## The body's eligibility -/

structure BodyEligibility where
  promotionEligible : Bool
  reasons : List Reason
  witnessIds : List Bytes
  unqualifiedSnapshot : Bool
  fixtureWitnessIds : List Bytes

def BodyEligibility.toValue (body : BodyEligibility) : Value :=
  .record [("promotion_eligible", .bool body.promotionEligible),
    ("promotion_ineligibility_reasons", reasonTexts body.reasons),
    ("promotion_eligibility_basis", .record [("witness_ids", texts body.witnessIds),
      ("unqualified_snapshot", .bool body.unqualifiedSnapshot),
      ("fixture_witness_ids", texts body.fixtureWitnessIds)])]

def BodyEligibility.wellFormed (body : BodyEligibility) : Bool :=
  body.fixtureWitnessIds.all (fun id => body.witnessIds.contains id)
    && (if body.promotionEligible then
        body.reasons.isEmpty && !body.unqualifiedSnapshot && body.fixtureWitnessIds.isEmpty
      else !body.reasons.isEmpty)
    && (!body.unqualifiedSnapshot || body.reasons.contains .candidateUnqualified)
    && (body.fixtureWitnessIds.isEmpty || body.reasons.contains .fixtureWitness)

inductive ChainFault where
  | missing
  | malformed

def asBoolean : Value → Option Bool
  | .bool b => some b
  | _ => none

/-- The parts that `normalize_body_eligibility` reads. -/
def bodyParts (eligible : Bool) (value : Value) : Option BodyEligibility := do
  let reasons ← strictSortedUnique Reason.text (Value.parse Reason.all Reason.name)
    (value.get "promotion_ineligibility_reasons")
  let basis := value.get "promotion_eligibility_basis"
  guard (exactNames basis ["witness_ids", "unqualified_snapshot", "fixture_witness_ids"] [] = true)
  let unqualified ← asBoolean (basis.get "unqualified_snapshot")
  let witnesses ← textSet (basis.get "witness_ids")
  let fixtures ← textSet (basis.get "fixture_witness_ids")
  let body : BodyEligibility := ⟨eligible, reasons, witnesses, unqualified, fixtures⟩
  guard (body.wellFormed = true)
  pure body

def normalizeBodyEligibility (value : Value) : Except ChainFault BodyEligibility :=
  match value.get "promotion_eligible" with
  | .bool eligible =>
    match bodyParts eligible value with
    | some body => .ok body
    | none => .error .malformed
  | _ => .error .missing

def eligibilityBasisRefs (body : BodyEligibility) (pressureSnapshotRef : Value) : List Bytes :=
  normalizedSet id (body.witnessIds ++ body.fixtureWitnessIds
    ++ if body.unqualifiedSnapshot then (nonEmpty pressureSnapshotRef).toList else [])

def bothBodies (first second : Except ChainFault BodyEligibility) :
    Except ClassificationError (BodyEligibility × BodyEligibility) :=
  match first, second with
  | .error .missing, _ => .error .chainMissing
  | _, .error .missing => .error .chainMissing
  | .ok a, .ok b => .ok (a, b)
  | _, _ => .error .chainMismatch

def bodyEligibilityChain (decision derivationEvent : Value) (fromOp toOp : Operator) :
    Except ClassificationError BodyEligibility := do
  let (decided, selected) ← bothBodies (normalizeBodyEligibility decision)
    (normalizeBodyEligibility (decision.get "selected_candidate"))
  if derivationEvent.isTable = false
      ∨ derivationEvent.get "type" ≠ .text "route_derivation"
      ∨ derivationEvent.get "truth_status" ≠ runtimeConfirmed
      ∨ nonEmpty (derivationEvent.get "id") = none
      ∨ (derivationEvent.get "id").eq (decision.get "derivation_ref") = false then
    .error .basisMissing
  let payload := derivationEvent.get "payload"
  if payload.isTable = false
      ∨ Topology.resolve (payload.get "current_operator") ≠ some fromOp
      ∨ Topology.resolve (payload.get "selected_to") ≠ some toOp
      ∨ payload.get "outcome" ≠ .text "selected"
      ∨ (payload.get "pressure_snapshot_ref").eq (decision.get "pressure_snapshot_ref") = false
      ∨ (payload.get "selected_action_plan_id").eq (decision.get "selected_action_plan_id")
        = false then
    .error .chainMismatch
  let (derived, recorded) ← bothBodies (normalizeBodyEligibility payload)
    (normalizeBodyEligibility (payload.get "selected_candidate"))
  if sameValue decided.toValue selected.toValue && sameValue decided.toValue derived.toValue
      && sameValue decided.toValue recorded.toValue then
    pure decided
  else .error .chainMismatch

/-! ## Records -/

structure Identity where
  lifeId : Bytes
  packetId : Bytes
  lineageId : Bytes
  generation : Number
  deriving DecidableEq

structure Request where
  recordId : Bytes
  sequence : Nat
  lifeId : Bytes
  packetId : Bytes
  routeOrdinal : Number
  fromOp : Operator
  toOp : Operator
  routeAuthority : RouteAuthority
  reason : Bytes
  deriving DecidableEq

def Request.seed (r : Request) : Value :=
  .record [("kind", .text "route_evidence_request"), ("protocol_version", routeProtocolVersion),
    ("sequence", .nat r.sequence), ("life_id", .str r.lifeId), ("packet_id", .str r.packetId),
    ("route_ordinal", .num r.routeOrdinal), ("from", Topology.value r.fromOp),
    ("to", Topology.value r.toOp), ("route_authority", r.routeAuthority.value),
    ("reason", .str r.reason), ("event_truth_status", runtimeConfirmed)]

structure Eligibility where
  eligibilityRef : Bytes
  routeEvidenceId : Bytes
  physicsEpochId : Value
  evidenceEpochId : Value
  reasons : List Reason
  basisRefs : List Bytes
  deriving DecidableEq

namespace Eligibility

def eligible (e : Eligibility) : Bool := e.reasons.isEmpty

def fields (e : Eligibility) (physics evidence : Value) : List (String × Value) :=
  [("kind", .text "edge_credit_selection_eligibility"), ("protocol_version", protocolVersion),
    ("route_evidence_id", .str e.routeEvidenceId), ("physics_epoch_id", physics),
    ("evidence_epoch_id", evidence),
    ("status", .text (if e.eligible then "eligible" else "ineligible")),
    ("reasons", reasonTexts e.reasons), ("basis_refs", texts e.basisRefs),
    ("policy_rule_ref", .text "edge-credit.policy.v0"),
    ("policy_rule_status", .text "document_decision"),
    ("evaluation_truth_status", runtimeConfirmed)]

def seed (e : Eligibility) : Value :=
  .record (e.fields (optionalIdentity e.physicsEpochId) (optionalIdentity e.evidenceEpochId))

def toValue (e : Eligibility) : Value :=
  .record (e.fields e.physicsEpochId e.evidenceEpochId ++ [("eligibility_ref", .str e.eligibilityRef)])

end Eligibility

/-- What names a route: the fields of `route_evidence_seed`. -/
structure Route where
  evidenceEpochId : Value
  identity : Identity
  routeOrdinal : Number
  fromOp : Operator
  toOp : Operator
  routeAuthority : RouteAuthority
  authorityBasisRef : Bytes
  derivationRef : Value
  pressureSnapshotRef : Value
  selectedActionPlanId : Value
  deriving DecidableEq

namespace Route

def fields (r : Route) (optional : Value → Value) : List (String × Value) :=
  [("evidence_epoch_id", optional r.evidenceEpochId), ("life_id", .str r.identity.lifeId),
    ("packet_id", .str r.identity.packetId), ("lineage_id", .str r.identity.lineageId),
    ("generation", .num r.identity.generation), ("route_ordinal", .num r.routeOrdinal),
    ("from", Topology.value r.fromOp), ("to", Topology.value r.toOp),
    ("route_authority", r.routeAuthority.value), ("authority_basis_ref", .str r.authorityBasisRef),
    ("derivation_ref", optional r.derivationRef),
    ("pressure_snapshot_ref", optional r.pressureSnapshotRef),
    ("selected_action_plan_id", optional r.selectedActionPlanId)]

def seed (r : Route) : Value :=
  .record (("protocol_version", routeProtocolVersion) :: r.fields optionalIdentity)

end Route

structure Selection where
  recordId : Bytes
  routeEvidenceId : Bytes
  sequence : Nat
  physicsEpochId : Value
  route : Route
  edgeId : String
  classificationErrorCodes : List ClassificationError
  eligibility : Option Eligibility
  deriving DecidableEq

namespace Selection

def classified (s : Selection) : Bool := s.eligibility.isSome

def fields (s : Selection) (optional : Value → Value) : List (String × Value) :=
  [("kind", .text "route_evidence_selection"), ("protocol_version", routeProtocolVersion),
    ("route_evidence_id", .str s.routeEvidenceId), ("sequence", .nat s.sequence),
    ("physics_epoch_id", optional s.physicsEpochId), ("edge_id", .text s.edgeId),
    ("classification_status", .text (if s.classified then "classified" else "unclassified")),
    ("classification_error_codes",
      texts (s.classificationErrorCodes.map ClassificationError.text)),
    ("event_truth_status", runtimeConfirmed)] ++ s.route.fields optional

def seed (s : Selection) : Value :=
  .record (s.fields optionalIdentity ++ [("eligibility_ref",
    match s.eligibility with
    | some e => .str e.eligibilityRef
    | none => .text "none")])

def toValue (s : Selection) : Value :=
  .record (s.fields id ++ [("record_id", .str s.recordId),
    ("eligibility",
      match s.eligibility with
      | some e => e.toValue
      | none => .nil)])

end Selection

structure Commit where
  recordId : Bytes
  routeEvidenceId : Bytes
  selectionRef : Bytes
  routeTraceRef : Bytes
  fromOp : Operator
  toOp : Operator
  routeAuthority : RouteAuthority
  deriving DecidableEq

namespace Commit

def fields (c : Commit) : List (String × Value) :=
  [("kind", .text "route_evidence_commit"), ("protocol_version", routeProtocolVersion),
    ("route_evidence_id", .str c.routeEvidenceId), ("selection_ref", .str c.selectionRef),
    ("route_trace_ref", .str c.routeTraceRef), ("from", Topology.value c.fromOp),
    ("to", Topology.value c.toOp), ("route_authority", c.routeAuthority.value),
    ("event_truth_status", runtimeConfirmed)]

def seed (c : Commit) : Value := .record c.fields

def toValue (c : Commit) : Value := .record (c.fields ++ [("record_id", .str c.recordId)])

end Commit

structure Taint where
  recordId : Bytes
  routeEvidenceId : Bytes
  commitRef : Bytes
  sequence : Nat
  configuredOwner : Value
  observedOwner : RouteAuthority
  deriving DecidableEq

def Taint.seed (t : Taint) : Value :=
  .record [("kind", .text "authority_taint"), ("protocol_version", protocolVersion),
    ("route_evidence_id", .str t.routeEvidenceId), ("commit_ref", .str t.commitRef),
    ("sequence", .nat t.sequence), ("configured_owner", t.configuredOwner),
    ("observed_owner", t.observedOwner.value), ("cause", .text "authority_owner_mismatch"),
    ("event_truth_status", runtimeConfirmed)]

structure Arrival where
  recordId : Bytes
  routeEvidenceId : Bytes
  commitRef : Bytes
  destinationTickRef : Bytes
  effectRefs : List Bytes
  payloadKind : Bytes
  deriving DecidableEq

def Arrival.seed (a : Arrival) : Value :=
  .record [("kind", .text "route_evidence_arrival"), ("protocol_version", routeProtocolVersion),
    ("route_evidence_id", .str a.routeEvidenceId), ("commit_ref", .str a.commitRef),
    ("destination_tick_ref", .str a.destinationTickRef), ("effect_refs", texts a.effectRefs),
    ("payload_kind", .str a.payloadKind), ("event_truth_status", runtimeConfirmed)]

structure Decision where
  creditDecisionRef : Bytes
  routeEvidenceId : Bytes
  selectionEligibilityRef : Bytes
  commitRef : Bytes
  arrivalRef : Bytes
  credited : Bool
  reasons : List Reason
  basisRefs : List Bytes
  deriving DecidableEq

def Decision.seed (d : Decision) : Value :=
  .record [("kind", .text "edge_credit_decision"), ("protocol_version", protocolVersion),
    ("route_evidence_id", .str d.routeEvidenceId),
    ("selection_eligibility_ref", .str d.selectionEligibilityRef), ("commit_ref", .str d.commitRef),
    ("arrival_ref", .str d.arrivalRef),
    ("status", .text (if d.credited then "credited" else "rejected")),
    ("reasons", reasonTexts d.reasons), ("basis_refs", texts d.basisRefs),
    ("event_truth_status", runtimeConfirmed)]

structure RouteFailure where
  recordId : Bytes
  routeEvidenceId : Bytes
  commitRef : Bytes
  destinationTickRef : Bytes
  failureRef : Bytes
  failureKind : Bytes
  deriving DecidableEq

def RouteFailure.seed (f : RouteFailure) : Value :=
  .record [("kind", .text "route_evidence_failure"), ("protocol_version", routeProtocolVersion),
    ("route_evidence_id", .str f.routeEvidenceId), ("commit_ref", .str f.commitRef),
    ("destination_tick_ref", .str f.destinationTickRef), ("failure_ref", .str f.failureRef),
    ("failure_kind", .str f.failureKind), ("event_truth_status", runtimeConfirmed)]

structure Pending where
  recordId : Bytes
  routeEvidenceId : Bytes
  commitRef : Bytes
  deriving DecidableEq

def Pending.seed (p : Pending) : Value :=
  .record [("kind", .text "route_evidence_pending"), ("protocol_version", routeProtocolVersion),
    ("route_evidence_id", .str p.routeEvidenceId), ("commit_ref", .str p.commitRef),
    ("stop_reason", .text "tick_limit"), ("event_truth_status", runtimeConfirmed)]

/-- `authority_instrument_error` -/
structure ErrorRecord where
  errorId : Bytes
  code : ClassificationError
  routeEvidenceId : Bytes
  sourceRefs : List Bytes
  deriving DecidableEq

def ErrorRecord.seed (e : ErrorRecord) : Value :=
  .record [("kind", .text "authority_instrument_error"), ("protocol_version", errorProtocolVersion),
    ("class", .text "identity"), ("code", .text e.code.name),
    ("stage", .text "edge_credit.prepare"), ("route_evidence_id", .str e.routeEvidenceId),
    ("source_refs", texts e.sourceRefs), ("event_truth_status", runtimeConfirmed)]

inductive Event where
  | request (r : Request)
  | selection (s : Selection)
  | eligibility (e : Eligibility)
  | commit (c : Commit)
  | taint (t : Taint)
  | arrival (a : Arrival)
  | decision (d : Decision)
  | failure (f : RouteFailure)
  | pending (p : Pending)
  | error (e : ErrorRecord)
  deriving DecidableEq

def Event.isTaint : Event → Bool
  | .taint _ => true
  | _ => false

/-- `edge_credit_state`; the next sequence is one past the events. -/
structure State where
  authorityEpoch : Option Value
  identity : Identity
  events : List Event
  deriving DecidableEq

namespace State

def nextSequence (s : State) : Nat := s.events.length + 1

def append (s : State) (event : Event) : State := { s with events := s.events ++ [event] }

def epochField (s : State) (name : String) : Value :=
  match s.authorityEpoch with
  | some epoch => epoch.get name
  | none => .nil

def configuredOwner (epoch : Value) : Value :=
  (epoch.get "configured").get "configured_movement_owner"

/-- `first_taint`, as whether there is one. -/
def tainted (s : State) : Bool := s.events.any Event.isTaint

end State

end Proc17.Runtime.Credit
