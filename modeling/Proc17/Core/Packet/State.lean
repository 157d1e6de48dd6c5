import Proc17.Core.Topology

/-!
# The Packet record

The vocabularies and the mutable record of `core/packet.lua`.  A field that the
source validates before storing it has the validated type; a field that takes
whatever the caller gives is a Lua value.
-/

namespace Proc17.Core

open Lua

inductive BirthKind where
  | user
  | networkReentry
  | recovery
  deriving DecidableEq

namespace BirthKind

def all : List BirthKind := [.user, .networkReentry, .recovery]

def name : BirthKind → String
  | .user => "user"
  | .networkReentry => "network_reentry"
  | .recovery => "recovery"

end BirthKind

inductive Status where
  | born
  | running
  | dying
  | dead
  | manifested
  deriving DecidableEq

inductive TruthStatus where
  | runtimeConfirmed
  | semanticProposal
  | unsupported
  | rejected
  | unknown
  deriving DecidableEq

namespace TruthStatus

def all : List TruthStatus :=
  [.runtimeConfirmed, .semanticProposal, .unsupported, .rejected, .unknown]

def name : TruthStatus → String
  | .runtimeConfirmed => "runtime_confirmed"
  | .semanticProposal => "semantic_proposal"
  | .unsupported => "unsupported"
  | .rejected => "rejected"
  | .unknown => "unknown"

def parse (v : Value) : Option TruthStatus := Value.parse all name v

end TruthStatus

inductive EventType where
  | birth
  | operatorTick
  | operatorFailure
  | routeDerivation
  | route
  | chaosAppend
  | crystallization
  | identityMap
  | relationSnapshot
  | relationMutation
  | relationFormation
  | structureFormation
  | observation
  | choice
  | validation
  | repositoryActionReview
  | repositoryEffectAttempt
  | repositoryEffectReceipt
  | repositoryVerification
  | workCompletion
  | candidateSeal
  | qaCheckRequest
  | qaCheck
  | qaExecutionFailure
  | qaCandidateVerdict
  | cycle
  | runtimeFrame
  | runtimeReconciliation
  | planCompletionAssessment
  | tensionMeasure
  | manifest
  | death
  | terminal
  | unitDissolution
  deriving DecidableEq

namespace EventType

def all : List EventType :=
  [.birth, .operatorTick, .operatorFailure, .routeDerivation, .route, .chaosAppend,
    .crystallization, .identityMap, .relationSnapshot, .relationMutation,
    .relationFormation, .structureFormation, .observation, .choice, .validation,
    .repositoryActionReview, .repositoryEffectAttempt, .repositoryEffectReceipt,
    .repositoryVerification, .workCompletion, .candidateSeal, .qaCheckRequest, .qaCheck,
    .qaExecutionFailure, .qaCandidateVerdict, .cycle, .runtimeFrame,
    .runtimeReconciliation, .planCompletionAssessment, .tensionMeasure, .manifest,
    .death, .terminal, .unitDissolution]

def name : EventType → String
  | .birth => "birth"
  | .operatorTick => "operator_tick"
  | .operatorFailure => "operator_failure"
  | .routeDerivation => "route_derivation"
  | .route => "route"
  | .chaosAppend => "chaos_append"
  | .crystallization => "crystallization"
  | .identityMap => "identity_map"
  | .relationSnapshot => "relation_snapshot"
  | .relationMutation => "relation_mutation"
  | .relationFormation => "relation_formation"
  | .structureFormation => "structure_formation"
  | .observation => "observation"
  | .choice => "choice"
  | .validation => "validation"
  | .repositoryActionReview => "repository_action_review"
  | .repositoryEffectAttempt => "repository_effect_attempt"
  | .repositoryEffectReceipt => "repository_effect_receipt"
  | .repositoryVerification => "repository_verification"
  | .workCompletion => "work_completion"
  | .candidateSeal => "candidate_seal"
  | .qaCheckRequest => "qa_check_request"
  | .qaCheck => "qa_check"
  | .qaExecutionFailure => "qa_execution_failure"
  | .qaCandidateVerdict => "qa_candidate_verdict"
  | .cycle => "cycle"
  | .runtimeFrame => "runtime_frame"
  | .runtimeReconciliation => "runtime_reconciliation"
  | .planCompletionAssessment => "plan_completion_assessment"
  | .tensionMeasure => "tension_measure"
  | .manifest => "manifest"
  | .death => "death"
  | .terminal => "terminal"
  | .unitDissolution => "unit_dissolution"

def parse (v : Value) : Option EventType := Value.parse all name v

/-- `dedicated_event_types` -/
def dedicated : EventType → Bool
  | .birth | .operatorTick | .route | .chaosAppend | .crystallization | .manifest | .death
  | .terminal | .repositoryActionReview | .repositoryEffectAttempt
  | .repositoryEffectReceipt | .repositoryVerification | .workCompletion | .candidateSeal
  | .qaCheckRequest | .qaCheck | .qaExecutionFailure | .qaCandidateVerdict
  | .unitDissolution => true
  | _ => false

def repositoryBody : EventType → Bool
  | .repositoryActionReview | .repositoryEffectAttempt | .repositoryEffectReceipt
  | .repositoryVerification | .workCompletion | .candidateSeal => true
  | _ => false

def qaBody : EventType → Bool
  | .qaCheckRequest | .qaCheck | .qaExecutionFailure | .qaCandidateVerdict => true
  | _ => false

def actorRights : EventType → Option (List Operator)
  | .identityMap => some [.encode]
  | .relationSnapshot => some [.connect]
  | .relationMutation => some [.dissolve, .logic, .runtime]
  | .relationFormation => some [.encode]
  | .structureFormation => some [.encode]
  | .observation => some [.observe, .runtime]
  | .choice => some [.choose]
  | .validation => some [.logic]
  | .repositoryActionReview => some [.runtime]
  | .repositoryEffectAttempt => some [.logic]
  | .repositoryEffectReceipt => some [.logic]
  | .repositoryVerification => some [.logic]
  | .workCompletion => some [.runtime]
  | .candidateSeal => some [.logic]
  | .qaCheckRequest => some [.logic]
  | .qaCheck => some [.logic]
  | .qaExecutionFailure => some [.logic]
  | .qaCandidateVerdict => some [.runtime]
  | .unitDissolution => some [.dissolve]
  | .cycle => some [.cycle]
  | .runtimeReconciliation => some [.runtime]
  | .planCompletionAssessment => some [.runtime]
  | _ => none

end EventType

inductive DeathCause where
  | complete
  | blocked
  | budgetExhausted
  | identityLoss
  | invalidTopology
  | unsafeScope
  | stalled
  | effectFailure
  | cancelled
  deriving DecidableEq

namespace DeathCause

def all : List DeathCause :=
  [.complete, .blocked, .budgetExhausted, .identityLoss, .invalidTopology, .unsafeScope,
    .stalled, .effectFailure, .cancelled]

def name : DeathCause → String
  | .complete => "complete"
  | .blocked => "blocked"
  | .budgetExhausted => "budget_exhausted"
  | .identityLoss => "identity_loss"
  | .invalidTopology => "invalid_topology"
  | .unsafeScope => "unsafe_scope"
  | .stalled => "stalled"
  | .effectFailure => "effect_failure"
  | .cancelled => "cancelled"

def parse (v : Value) : Option DeathCause := Value.parse all name v

theorem name_injective (a b : DeathCause) (same : name a = name b) : a = b := by
  cases a <;> cases b <;> first | rfl | (simp [name] at same)

end DeathCause

inductive Lane where
  | body
  | observerInstrumentation
  deriving DecidableEq

structure Cost where
  steps : Value
  substrateCalls : Value
  toolCalls : Value
  fileWrites : Value
  testRuns : Value
  loss : Value
  deriving DecidableEq

/-- A stored trace event; `observer` is the tag `identity_lane =
"observer_instrumentation"`, the only lane the source stores. -/
structure Event where
  id : Value
  packetId : Value
  lineageId : Value
  generation : Number
  tick : Value
  type : EventType
  operator : Operator
  payload : Value
  truthStatus : TruthStatus
  cost : Cost
  time : Value
  observer : Bool
  deriving DecidableEq

structure Revisions where
  potential : Nat
  relationsRaw : Nat
  relationsActive : Nat
  momentum : Nat
  calm : Nat
  constraints : Nat
  evidence : Nat
  history : Nat
  scalars : Nat
  budget : Nat
  loss : Nat

structure Physis where
  budget : Value
  ticks : Value

structure Chaos where
  rawPrompt : Bytes
  fragments : List Value

structure Crystal where
  sourceChaosRefs : Value
  calmDelta : Value
  loss : Value
  status : Value
  traceEventId : Value

structure LossRecord where
  loss : Value
  traceEventId : Value

structure Boundary where
  crystallizations : List Crystal
  lossRecords : List LossRecord

structure Calm where
  structures : List Value
  workUnits : Value
  current : Value
  status : Value

inductive WorkMode where
  | plan
  | build
  deriving DecidableEq

namespace WorkMode

def all : List WorkMode := [.plan, .build]

def name : WorkMode → String
  | .plan => "plan"
  | .build => "build"

end WorkMode

/-! ## The field area -/

inductive Activation where
  | live
  | selected
  | suppressed
  | dissolved
  deriving DecidableEq

inductive RelationState where
  | raw
  | active
  | weakened
  | locked
  | dissolved
  deriving DecidableEq

structure ActivationSource where
  eventId : Value
  actor : Operator
  reason : Value

structure FieldUnit where
  id : Bytes
  kind : Bytes
  carrier : Value
  carrierRef : Value
  sourceRefs : List Value
  eventTruthStatus : TruthStatus
  contentTruthStatus : Value
  activation : Activation
  createdBy : Operator
  createdEventId : Value
  generation : Number
  version : Number
  density : Value
  migration : Value
  activationSource : Option ActivationSource

structure Relation where
  id : Bytes
  source : Bytes
  target : Bytes
  kind : Bytes
  weight : Value
  confidence : Value
  state : RelationState
  sourceRefs : List Value
  predicateId : Value
  provenanceRefs : List Value
  promotionSource : Value
  contentTruthStatus : Value
  observedTick : Value
  endpointVersions : List (Bytes × Number)
  selfRelation : Bool
  version : Nat
  epoch : Nat
  originEventId : Value
  activatedFromEpoch : Value
  activationEventId : Value
  lastMutationReason : Value
  lastReasonEventId : Value
  lastMutationEventId : Value

structure RawSnapshot where
  epoch : Nat
  sourceRevision : Nat
  sourceRefs : List Value
  probePolicy : Value
  objectCoverage : Value
  outcome : Value
  items : List Relation
  coverage : Value
  contentTruthStatus : Value
  omittedRelations : Value
  truncated : Bool
  traceEventId : Value

structure IdentityMap where
  id : Bytes
  encodeEventId : Value
  oldIds : List Value
  newIds : List Value
  mapping : Value
  mappingKind : Value
  sourceEventRefs : List Value
  sourceVersions : Value
  receiverContractId : Value
  requestedShape : Value
  envelopeFingerprint : Value
  invalidatedRelationIds : List Bytes
  invalidatedObservationIds : List Value
  shadowOnly : Bool
  traceEventId : Value

/-- The field area.  The tables `units` and `relations.active` are association
lists over their string keys. -/
structure Field where
  nextUnitId : Nat
  nextRelationId : Nat
  unitOrder : List Bytes
  units : List (Bytes × FieldUnit)
  raw : RawSnapshot
  active : List (Bytes × Relation)
  identityMaps : List IdentityMap

/-! ## Budget, ingress and the end of a life -/

structure BudgetRecord where
  status : String
  operator : Value
  eventId : Value
  cost : List (String × Number)
  source : Value
  truthStatus : Value
  spentAfter : List (String × Number)
  remainingAfter : List (String × Number)
  exhausted : Bool
  exhaustedKeys : List String

structure RuntimeBudget where
  spent : List (String × Number)
  remaining : List (String × Number)
  events : List BudgetRecord
  exhausted : Bool
  exhaustedKeys : List String

structure Ingress where
  integrationProtocol : Value
  flowMark : Value
  l1Projection : Value
  carrierRef : Value
  inheritedGraveRefs : Value
  networkProjection : Value

inductive TerminalKind where
  | manifest
  | internalDeath
  deriving DecidableEq

namespace TerminalKind

def all : List TerminalKind := [.manifest, .internalDeath]

def name : TerminalKind → String
  | .manifest => "manifest"
  | .internalDeath => "internal_death"

end TerminalKind

structure Terminal where
  kind : TerminalKind
  cause : DeathCause
  operator : Operator
  manifestRef : Value
  residueRef : Value
  lossSnapshot : Value
  budgetSnapshot : Value
  traceTailRef : Value
  eventId : Value

structure Death where
  cause : DeathCause
  time : Int
  terminalKind : TerminalKind
  terminalEventId : Value

structure Packet where
  id : Value
  sessionId : Value
  lineageId : Value
  generation : Number
  parentId : Value
  parentCorpseId : Value
  birthKind : BirthKind
  carrierId : Value
  substrateSessionId : Value
  status : Status
  operator : Operator
  revisions : Revisions
  physis : Physis
  chaos : Chaos
  field : Field
  boundary : Boundary
  calm : Calm
  workMode : WorkMode
  processContractId : Value
  workContext : Value
  stageId : Value
  repositoryId : Value
  qaContractId : Value
  qaContract : Value
  tension : List (Value × Value)
  runtimeBudget : Option RuntimeBudget
  inheritedResidue : Value
  trace : List Event
  residue : Value
  death : Option Death
  manifest : Value
  terminal : Option Terminal
  metadata : Value
  ingress : Ingress

end Proc17.Core
