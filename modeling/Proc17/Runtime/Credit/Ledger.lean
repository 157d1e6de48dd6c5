import Proc17.Runtime.Credit.Records

/-!
# Checking an edge-credit ledger

`credit.verify` of `runtime/edge_credit.lua`: each record by itself, then against the records
before it, then the joins between routes.  The tables that the source fills while it reads are
read off the events so far.
-/

namespace Proc17.Runtime.Credit

open Lua Core
open Runtime.Epoch (isTaggedHash texts sameValue)

/-! ## Single records -/

def tagged (id : Bytes) : Bool := isTaggedHash (.str id)

def verifyId (actual : Bytes) (seed : Value) : Bool :=
  tagged actual && match taggedDigest seed with
    | .ok expected => decide (actual = expected)
    | .error _ => false

/-- `strict_sorted_unique` on a list the ledger built itself. -/
def sortedSet {α : Type} [DecidableEq α] (text : α → Bytes) (items : List α) : Bool :=
  items.all (fun item => !(text item).isEmpty) && decide items.Nodup && inOrder text items

def Identity.valid (identity : Identity) : Bool :=
  !identity.lifeId.isEmpty && !identity.packetId.isEmpty && !identity.lineageId.isEmpty
    && (positiveInteger (.num identity.generation)).isSome

def routed (fromOp toOp : Operator) : Bool :=
  (routeDefinition (Topology.value fromOp) (Topology.value toOp)).isSome

def verifyRequest (s : State) (index : Nat) (r : Request) : Except Failure Unit :=
  require (r.sequence = index ∧ r.lifeId = s.identity.lifeId ∧ r.packetId = s.identity.packetId
    ∧ (positiveInteger (.num r.routeOrdinal)).isSome = true ∧ r.routeAuthority ≠ .tree
    ∧ r.reason ≠ [] ∧ routed r.fromOp r.toOp = true ∧ verifyId r.recordId r.seed = true)
    (invalid "events.request")

def verifyEligibility (e : Eligibility) : Except Failure Unit := do
  require (tagged e.routeEvidenceId = true ∧ sortedSet Reason.text e.reasons = true
    ∧ sortedSet id e.basisRefs = true ∧ verifyId e.eligibilityRef e.seed = true)
    (invalid "events.eligibility")
  require (e.physicsEpochId = .nil ∨ isTaggedHash e.physicsEpochId = true)
    (invalid "events.eligibility.physics_epoch_id")
  require (e.evidenceEpochId = .nil ∨ isTaggedHash e.evidenceEpochId = true)
    (invalid "events.eligibility.evidence_epoch_id")

def verifySelection (s : State) (index : Nat) (r : Selection) : Except Failure Unit := do
  let route := r.route
  let definition := routeDefinition (Topology.value route.fromOp) (Topology.value route.toOp)
  require (r.sequence = index ∧ (positiveInteger (.num route.routeOrdinal)).isSome = true
    ∧ route.identity.lifeId = s.identity.lifeId ∧ route.identity.packetId = s.identity.packetId
    ∧ route.identity.lineageId = s.identity.lineageId
    ∧ Number.eq route.identity.generation s.identity.generation = true
    ∧ definition.map (fun d => d.1.id) = some r.edgeId ∧ route.authorityBasisRef ≠ []
    ∧ sortedSet ClassificationError.text r.classificationErrorCodes = true
    ∧ tagged r.routeEvidenceId = true) (invalid "events.selection")
  match r.eligibility with
  | some e => do
      require (r.classificationErrorCodes = []) (invalid "events.selection.classification")
      match verifyEligibility e with
      | .ok _ => pure ()
      | .error _ => .error (invalid "events.selection.eligibility")
  | none => require (r.classificationErrorCodes ≠ []) (invalid "events.selection.classification")
  require (r.physicsEpochId = s.epochField "physics_epoch_id"
    ∧ route.evidenceEpochId = s.epochField "evidence_epoch_id") (invalid "events.selection.epoch")
  if route.routeAuthority = .tree then
    require ((nonEmpty route.derivationRef).isSome = true
      ∧ .str route.authorityBasisRef = route.derivationRef
      ∧ (nonEmpty route.pressureSnapshotRef).isSome = true)
      (invalid "events.selection.authority_basis")
  else
    require (route.derivationRef = .nil ∧ route.pressureSnapshotRef = .nil
      ∧ route.selectedActionPlanId = .nil) (invalid "events.selection.non_tree_refs")
  require (verifyId r.routeEvidenceId route.seed = true ∧ verifyId r.recordId r.seed = true)
    (invalid "events.selection.identity")

def verifyCommit (c : Commit) : Except Failure Unit :=
  require (tagged c.routeEvidenceId = true ∧ tagged c.selectionRef = true ∧ c.routeTraceRef ≠ []
    ∧ routed c.fromOp c.toOp = true ∧ verifyId c.recordId c.seed = true) (invalid "events.commit")

def verifyTaint (index : Nat) (t : Taint) : Except Failure Unit :=
  require (t.sequence = index ∧ tagged t.routeEvidenceId = true ∧ tagged t.commitRef = true
    ∧ (Value.parse RouteAuthority.all RouteAuthority.name t.configuredOwner).isSome = true
    ∧ t.configuredOwner ≠ t.observedOwner.value ∧ verifyId t.recordId t.seed = true)
    (invalid "events.authority_taint")

def verifyArrival (a : Arrival) : Except Failure Unit :=
  require (tagged a.routeEvidenceId = true ∧ tagged a.commitRef = true
    ∧ a.destinationTickRef ≠ [] ∧ sortedSet id a.effectRefs = true ∧ a.payloadKind ≠ []
    ∧ verifyId a.recordId a.seed = true) (invalid "events.arrival")

def verifyDecision (d : Decision) : Except Failure Unit :=
  require (tagged d.routeEvidenceId = true ∧ tagged d.selectionEligibilityRef = true
    ∧ tagged d.commitRef = true ∧ tagged d.arrivalRef = true
    ∧ sortedSet Reason.text d.reasons = true ∧ sortedSet id d.basisRefs = true
    ∧ (d.credited = true ↔ d.reasons = []) ∧ verifyId d.creditDecisionRef d.seed = true)
    (invalid "events.credit_decision")

def verifyFailure (f : RouteFailure) : Except Failure Unit :=
  require (tagged f.routeEvidenceId = true ∧ tagged f.commitRef = true
    ∧ f.destinationTickRef ≠ [] ∧ f.failureRef ≠ [] ∧ f.failureKind ≠ []
    ∧ verifyId f.recordId f.seed = true) (invalid "events.failure")

def verifyPending (p : Pending) : Except Failure Unit :=
  require (tagged p.routeEvidenceId = true ∧ tagged p.commitRef = true
    ∧ verifyId p.recordId p.seed = true) (invalid "events.pending")

def verifyErrorRecord (e : ErrorRecord) : Except Failure Unit :=
  require (sortedSet id e.sourceRefs = true ∧ tagged e.routeEvidenceId = true
    ∧ verifyId e.errorId e.seed = true) (invalid "events.instrument_error")

def verifyEvent (s : State) (index : Nat) : Event → Except Failure Unit
  | .request r => verifyRequest s index r
  | .selection r => verifySelection s index r
  | .eligibility e => verifyEligibility e
  | .commit c => verifyCommit c
  | .taint t => verifyTaint index t
  | .arrival a => verifyArrival a
  | .decision d => verifyDecision d
  | .failure f => verifyFailure f
  | .pending p => verifyPending p
  | .error e => verifyErrorRecord e

/-! ## The tables -/

def Event.identity : Event → Bytes
  | .request r => r.recordId
  | .selection r => r.recordId
  | .eligibility e => e.eligibilityRef
  | .commit c => c.recordId
  | .taint t => t.recordId
  | .arrival a => a.recordId
  | .decision d => d.creditDecisionRef
  | .failure f => f.recordId
  | .pending p => p.recordId
  | .error e => e.errorId

namespace Event

def asRequest : Event → Option Request
  | .request r => some r
  | _ => none

def asSelection : Event → Option Selection
  | .selection r => some r
  | _ => none

def asEligibility : Event → Option Eligibility
  | .eligibility e => some e
  | _ => none

def asCommit : Event → Option Commit
  | .commit c => some c
  | _ => none

def asTaint : Event → Option Taint
  | .taint t => some t
  | _ => none

def asArrival : Event → Option Arrival
  | .arrival a => some a
  | _ => none

def asDecision : Event → Option Decision
  | .decision d => some d
  | _ => none

def asError : Event → Option ErrorRecord
  | .error e => some e
  | _ => none

def asTerminal : Event → Option (Bytes × Bytes)
  | .arrival a => some (a.routeEvidenceId, a.commitRef)
  | .failure f => some (f.routeEvidenceId, f.commitRef)
  | .pending p => some (p.routeEvidenceId, p.commitRef)
  | _ => none

end Event

def indexOf (events : List Event) (id : Bytes) : Nat := events.findIdx fun e => e.identity = id

section
variable (events : List Event)

def requestAt (id : Bytes) : Option Request :=
  (events.filterMap Event.asRequest).find? fun r => r.recordId = id

def selectionOf (routeId : Bytes) : Option Selection :=
  (events.filterMap Event.asSelection).find? fun r => r.routeEvidenceId = routeId

def eligibilityAt (id : Bytes) : Option Eligibility :=
  (events.filterMap Event.asEligibility).find? fun e => e.eligibilityRef = id

def commitOf (routeId : Bytes) : Option Commit :=
  (events.filterMap Event.asCommit).find? fun c => c.routeEvidenceId = routeId

def arrivalAt (id : Bytes) : Option Arrival :=
  (events.filterMap Event.asArrival).find? fun a => a.recordId = id

def decisionOf (routeId : Bytes) : Option Decision :=
  (events.filterMap Event.asDecision).find? fun d => d.routeEvidenceId = routeId

/-- Whether `terminals[route_id]` is there. -/
def ended (routeId : Bytes) : Bool :=
  (events.filterMap Event.asTerminal).any fun terminal => decide (terminal.1 = routeId)

def replays : Event → Option String
  | .selection r =>
    if (selectionOf events r.routeEvidenceId).isSome = true
        ∨ ∃ other ∈ events.filterMap Event.asSelection,
          Number.eq other.route.routeOrdinal r.route.routeOrdinal = true then
      some "events.selection.replay"
    else none
  | .commit c =>
    if (commitOf events c.routeEvidenceId).isSome then some "events.commit.replay" else none
  | .arrival a => if ended events a.routeEvidenceId then some "events.terminal.replay" else none
  | .failure f => if ended events f.routeEvidenceId then some "events.terminal.replay" else none
  | .pending p => if ended events p.routeEvidenceId then some "events.terminal.replay" else none
  | .decision d =>
    if (decisionOf events d.routeEvidenceId).isSome then some "events.credit_decision.replay"
    else none
  | _ => none

end

/-- The first loop of `credit.verify`, past the events seen so far. -/
def verifyEvents (s : State) : List Event → List Event → Except Failure Unit
  | _, [] => .ok ()
  | seen, event :: rest => do
      verifyEvent s (seen.length + 1) event
      require (∀ other ∈ seen, other.identity ≠ event.identity) (invalid "events.identity")
      match replays seen event with
      | some path => .error (invalid path)
      | none => verifyEvents s (seen ++ [event]) rest

/-! ## The joins -/

section
variable (s : State)

def verifySelectionBasis (r : Selection) : Except Failure Unit :=
  if r.route.routeAuthority = .tree then
    require (.str r.route.authorityBasisRef = r.route.derivationRef) (invalid "selection.tree_basis")
  else
    match requestAt s.events r.route.authorityBasisRef with
    | none => .error (invalid "selection.request_basis")
    | some request =>
      require (indexOf s.events request.recordId < indexOf s.events r.recordId
        ∧ Number.eq request.routeOrdinal r.route.routeOrdinal = true
        ∧ request.fromOp = r.route.fromOp ∧ request.toOp = r.route.toOp
        ∧ request.routeAuthority = r.route.routeAuthority) (invalid "selection.request_basis")

def verifySelectionClass (r : Selection) : Except Failure Unit :=
  match r.eligibility with
  | some embedded =>
    match eligibilityAt s.events embedded.eligibilityRef with
    | none => .error (invalid "selection.eligibility_ref")
    | some standalone => do
        require (sameValue embedded.toValue standalone.toValue = true
          ∧ standalone.routeEvidenceId = r.routeEvidenceId
          ∧ indexOf s.events r.recordId < indexOf s.events standalone.eligibilityRef)
          (invalid "selection.eligibility_ref")
        require (s.authorityEpoch = none
          ∨ (embedded.physicsEpochId = s.epochField "physics_epoch_id"
            ∧ embedded.evidenceEpochId = s.epochField "evidence_epoch_id"))
          (invalid "selection.eligibility_epoch")
  | none =>
    require (∀ code ∈ r.classificationErrorCodes,
      ∃ error ∈ s.events.filterMap Event.asError,
        error.routeEvidenceId = r.routeEvidenceId ∧ error.code = code)
      (invalid "selection.instrument_error")

def verifySelectionJoin (r : Selection) : Except Failure Unit := do
  verifySelectionBasis s r
  verifySelectionClass s r

def verifyCommitJoin (c : Commit) : Except Failure Unit :=
  match selectionOf s.events c.routeEvidenceId with
  | none => .error (invalid "commit.selection_ref")
  | some r =>
    require (c.selectionRef = r.recordId
      ∧ indexOf s.events r.recordId < indexOf s.events c.recordId
      ∧ c.fromOp = r.route.fromOp ∧ c.toOp = r.route.toOp
      ∧ c.routeAuthority = r.route.routeAuthority) (invalid "commit.selection_ref")

def verifyArrivalDecision (a : Arrival) : Except Failure Unit :=
  let classified := (selectionOf s.events a.routeEvidenceId).any Selection.classified
  match classified, decisionOf s.events a.routeEvidenceId with
  | true, some d => require (d.arrivalRef = a.recordId) (invalid "arrival.credit_decision")
  | true, none => .error (invalid "arrival.credit_decision")
  | false, some _ => .error (invalid "arrival.unclassified_decision")
  | false, none => .ok ()

def verifyTerminalJoin (event : Event) : Except Failure Unit :=
  match event.asTerminal with
  | none => .ok ()
  | some (routeId, commitRef) =>
    match commitOf s.events routeId with
    | none => .error (invalid "terminal.commit_ref")
    | some c => do
        require (commitRef = c.recordId
          ∧ indexOf s.events c.recordId < indexOf s.events event.identity)
          (invalid "terminal.commit_ref")
        match event.asArrival with
        | some a => verifyArrivalDecision s a
        | none =>
          require (decisionOf s.events routeId = none)
            (invalid "terminal.non_arrival_decision")

def verifyDecisionJoin (d : Decision) : Except Failure Unit :=
  match selectionOf s.events d.routeEvidenceId, commitOf s.events d.routeEvidenceId,
      arrivalAt s.events d.arrivalRef with
  | some r, some c, some a =>
    match r.eligibility with
    | none => .error (invalid "credit_decision.causal_chain")
    | some e => do
        require (d.selectionEligibilityRef = e.eligibilityRef ∧ d.commitRef = c.recordId
          ∧ sameValue (reasonTexts d.reasons) (reasonTexts e.reasons) = true
          ∧ d.credited = e.eligible) (invalid "credit_decision.causal_chain")
        require (sameValue (texts d.basisRefs)
          (texts (normalizedSet id [e.eligibilityRef, c.recordId, a.recordId])) = true)
          (invalid "credit_decision.basis_refs")
  | _, _, _ => .error (invalid "credit_decision.causal_chain")

/-- `expected_mismatch`: the first commit under another owner than the configured one. -/
def firstMismatch (owner : Value) : Option (Nat × Commit × Selection) :=
  s.events.zipIdx.findSome? fun (event, i) => do
    let c ← event.asCommit
    let r ← selectionOf s.events c.routeEvidenceId
    if r.route.routeAuthority.value ≠ owner then some (i, c, r) else none

def expectedMismatch : Option (Value × Nat × Commit × Selection) := do
  let epoch ← s.authorityEpoch
  let found ← firstMismatch s (State.configuredOwner epoch)
  pure (State.configuredOwner epoch, found)

def verifyTaints : Except Failure Unit :=
  let taints := s.events.filterMap Event.asTaint
  match expectedMismatch s, taints with
  | some (owner, i, c, r), [t] =>
    require (t.routeEvidenceId = r.routeEvidenceId ∧ t.commitRef = c.recordId
      ∧ t.configuredOwner = owner ∧ t.observedOwner = r.route.routeAuthority
      ∧ i < indexOf s.events t.recordId) (invalid "authority_taint.identity")
  | some _, _ => .error (invalid "authority_taint.count")
  | none, [] => .ok ()
  | none, _ => .error (invalid "authority_taint.unexpected")

def verifyTaintKept : Except Failure Unit :=
  match s.events.filterMap Event.asTaint with
  | [t] =>
    require (∀ r ∈ s.events.filterMap Event.asSelection,
      indexOf s.events t.recordId < indexOf s.events r.recordId → ∀ e, r.eligibility = some e →
        .authorityTainted ∈ e.reasons) (invalid "authority_taint.monotonicity")
  | _ => .ok ()

end

def verifyEpoch : Option Value → Except Failure Unit
  | some epoch => Epoch.verify epoch
  | none => .ok ()

/-- `credit.verify` past the identity and the epoch. -/
def verifyLedger (s : State) : Except Failure Unit := do
  verifyEvents s [] s.events
  (s.events.filterMap Event.asSelection).forM (verifySelectionJoin s)
  (s.events.filterMap Event.asCommit).forM (verifyCommitJoin s)
  s.events.forM (verifyTerminalJoin s)
  (s.events.filterMap Event.asDecision).forM (verifyDecisionJoin s)
  verifyTaints s
  verifyTaintKept s

def verify (s : State) : Except Failure Unit := do
  require (s.identity.valid = true) (invalid "state")
  verifyEpoch s.authorityEpoch
  verifyLedger s

end Proc17.Runtime.Credit
