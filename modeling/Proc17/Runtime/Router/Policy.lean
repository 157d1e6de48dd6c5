import Proc17.Runtime.Epoch.Descriptors
import Proc17.Runtime.Router.Shadow

/-!
# The policy of an option table

`pressure.derive` and `tree_router.predict` as functions of the options: which policy
derives, which consumers are switched off, how candidates are selected.  What reads the
Packet itself (the readers of pressure, the witnesses, the readiness of the organs) is
given; it sees the options without the keys of the policy, which it never reads.
-/

namespace Proc17.Runtime.Router

open Lua
open Core
open Runtime.Epoch (Consumer PressurePolicy)

/-! ## Options as the organs see them -/

def policyKeys : List String :=
  ["router_mode", "pressure_policy", "tree_router"] ++ Consumer.all.map Consumer.option

def isPolicyKey (key : Value) : Bool := policyKeys.any fun name => key = .text name

def entryOf (options key : Value) : Value :=
  match options with
  | .table _ entries => Value.lookup entries key
  | _ => .nil

/-- An option table as a reader that never asks for the policy sees it. -/
abbrev Seen : Type := Value → Value

def elsewhere (options : Value) : Seen :=
  fun key => if isPolicyKey key then .nil else entryOf options key

/-- What `registry.available` and `registry.readiness` are handed. -/
structure RegistryContext where
  substrate : Value
  capabilities : Value
  options : Seen
  result : Value

def Context.registry (context : Context) : RegistryContext where
  substrate := context.substrate
  capabilities := context.capabilities
  options := elsewhere context.options
  result := context.result

/-- A visit: the Packet, the tick's result, the operator and the options. -/
structure Visit where
  packet : Instance
  tick : Value
  current : Operator
  options : Seen

/-- The parts of the qualified policy, in the order `qualified_pressure.derive` asks them. -/
inductive Witness where
  | relation
  | upper
  | inherited
  | form
  | choice
  | plan
  | repository

def Witness.all : List Witness :=
  [.relation, .upper, .inherited, .form, .choice, .plan, .repository]

/-- What reads the Packet: `pressure.read`, the parts of the qualified policy with their
witnesses and diagnostics, the candidates of `tree_router` and `pressure_composition`, and
the fields of a snapshot that are copied off the Packet. -/
structure Organs where
  read : String → Visit → Except Failure (List Value)
  witnesses : Witness → (Consumer → Bool) → Bool → Visit → Except Failure (List Value × List Value)
  binaryCandidates : Instance → Value → RegistryContext → Except Failure (List Value)
  qualifiedCandidates : Instance → Value → RegistryContext → Except Failure (List Value)
  header : Instance → List (String × Value)

/-! ## Deriving pressure -/

def readerOrder : List String :=
  ["relation_debt", "rigidity", "upper_observation_debt", "encoding_debt", "choice_pressure",
    "runtime_reconciliation_debt", "runtime_mismatch", "validation_debt", "continuation",
    "manifest", "karma_help", "karma_resistance"]

def sampledReaderOrder : List String :=
  ["relation_debt", "rigidity", "sampled_upper_observation_debt", "encoding_debt",
    "choice_pressure", "sampled_runtime_mismatch", "lower_observation_debt", "validation_debt",
    "continuation", "manifest", "karma_help", "karma_resistance"]

/-- `current_operator`: the operator asked for, the tick's or the Packet's. -/
def currentOperator (i : Instance) (tick operator : Value) : Except Failure Operator :=
  let named := operator.orElse
    (((tick.orElse .emptyTable).get "operator").orElse (Topology.value i.packet.operator))
  match Topology.resolve named with
  | some current => .ok current
  | none => .error (refuse "invalid current operator")

/-- An operand of `..` -/
def concatText : Value → Except Failure Bytes
  | .str s => .ok s
  | .num n => .ok (utf8 n.tostring)
  | _ => .error (.fault "concat")

def contributionKey (contribution : Value) : Except Failure Bytes := do
  let kind ← concatText (contribution.get "kind")
  let edge ← concatText (contribution.get "target_edge")
  let direction ← concatText (contribution.get "direction")
  pure (kind ++ utf8 "|" ++ edge ++ utf8 "|" ++ direction)

def unseen : List Bytes → List Value → Except Failure (List Bytes × List Value)
  | seen, [] => .ok (seen, [])
  | seen, contribution :: rest => do
      let key ← contributionKey contribution
      if key ∈ seen then unseen seen rest
      else do
        let (all, kept) ← unseen (key :: seen) rest
        pure (all, contribution :: kept)

def readAll (organs : Organs) (visit : Visit) :
    List Bytes → List String → Except Failure (List Value)
  | _, [] => .ok []
  | seen, kind :: rest => do
      let values ← organs.read kind visit
      let (seen, kept) ← unseen seen values
      let others ← readAll organs visit seen rest
      pure (kept ++ others)

def binarySnapshot (organs : Organs) (visit : Visit) (policy : PressurePolicy)
    (contributions : List Value) : Value :=
  .record ([("kind", .text "edge_pressure_snapshot")] ++ organs.header visit.packet ++
    [("current_operator", Topology.value visit.current),
      ("derivation_version", .text "pressure.binary.v0"),
      ("calibration_status", .text "vibed_control"), ("runtime_policy", .text policy.name),
      ("contributions", .array contributions), ("event_truth_status", .text "runtime_confirmed")])

def qualifiedSnapshot (organs : Organs) (visit : Visit) (witnesses unqualified : List Value) :
    Value :=
  .record ([("kind", .text "qualified_pressure_snapshot")] ++ organs.header visit.packet ++
    [("current_operator", Topology.value visit.current),
      ("derivation_version", .text "pressure.qualified_need.v0"),
      ("calibration_status", .text "unmeasured_qualified"),
      ("runtime_policy", .text "qualified_need_v0"),
      ("witnesses", .array (witnesses.insertionSort fun a b =>
        Json.TextLe (a.get "witness_id").tostring (b.get "witness_id").tostring)),
      ("unqualified", .array unqualified), ("event_truth_status", .text "runtime_confirmed")])

/-- `options.ablate_... == true` for each consumer. -/
def switches (options : Value) : Consumer → Bool :=
  fun consumer => options.get consumer.option = .bool true

def qualifiedDerive (organs : Organs) (visit : Visit) (ablated : Consumer → Bool)
    (treeMode : Bool) : Except Failure Value := do
  let parts ← Witness.all.mapM fun part => organs.witnesses part ablated treeMode visit
  pure (qualifiedSnapshot organs visit (parts.flatMap Prod.fst) (parts.flatMap Prod.snd))

def pressureDerive (organs : Organs) (i : Instance) (tick operator options : Value) :
    Except Failure Value := do
  let current ← currentOperator i tick operator
  let named ← options.index "pressure_policy"
  let visit : Visit := ⟨i, tick.orElse .emptyTable, current, elsewhere options⟩
  match Value.parse PressurePolicy.all PressurePolicy.name
      (named.orElse (.text "camera_reconciliation")) with
  | none => .error (refuse "invalid pressure policy")
  | some .qualifiedNeed =>
    qualifiedDerive organs visit (switches options) (options.get "router_mode" = .text "tree")
  | some .sampled => do
      let contributions ← readAll organs visit [] sampledReaderOrder
      pure (binarySnapshot organs visit .sampled contributions)
  | some .cameraReconciliation => do
      let contributions ← readAll organs visit [] readerOrder
      pure (binarySnapshot organs visit .cameraReconciliation contributions)

/-! ## Selecting under binary pressure -/

def canonicalIndex (target : Value) : Nat :=
  Topology.order.findIdx fun op => target = Topology.value op

structure Race where
  winner : Option Value
  tied : Bool

/-- One candidate in the loop of `tree_router.select`. -/
def Race.enter (threshold : Value) (race : Race) (candidate : Value) : Except Failure Race := do
  let excluded ← candidate.index "excluded"
  if excluded.truthy then pure race
  else do
    let total ← candidate.index "total"
    let above ← Value.less threshold total
    if !above then pure race
    else
      match race.winner with
      | none => pure ⟨some candidate, false⟩
      | some winner => do
          let best ← winner.index "total"
          let better ← Value.less best total
          if better then pure ⟨some candidate, false⟩
          else if total.eq best then
            if canonicalIndex (candidate.get "to") < canonicalIndex (winner.get "to") then
              pure ⟨some candidate, true⟩
            else pure ⟨some winner, true⟩
          else pure race

def Race.run (threshold : Value) : Race → List Value → Except Failure Race
  | race, [] => .ok race
  | race, candidate :: rest => do
      let next ← race.enter threshold candidate
      next.run threshold rest

/-- Whether an exclusion is for a missing capability, and whether it is one of safety. -/
def readExclusion (exclusion : Value) : Except Failure (Bool × Bool) := do
  let reason ← exclusion.index "reason"
  if reason = .text "missing_capability" then return (true, false)
  let kind ← exclusion.index "kind"
  pure (false, kind = .text "safety")

/-- One turn of the loop of `no_viable_cause`: whether the candidate is ready, and its exclusions. -/
def readCandidate (candidate : Value) : Except Failure (Bool × List (Bool × Bool)) := do
  let readiness ← candidate.index "readiness"
  let ready ← if readiness.truthy then readiness.index "ready" else pure .nil
  let listed ← candidate.index "exclusions"
  let exclusions ← (listed.orElse .emptyTable).ipairs
  let found ← exclusions.mapM readExclusion
  pure (ready.truthy, found)

def noViableCause (candidates : List Value) : Except Failure String := do
  let found ← candidates.mapM readCandidate
  let missing := found.any fun one => one.2.any Prod.fst
  let safety := found.any fun one => one.2.any Prod.snd
  let ready := found.any Prod.fst
  pure (if safety then "unsafe" else if missing && !ready then "missing_capability"
    else if ready then "below_threshold" else "stalled")

/-- The threshold of `tree_router.select` -/
def selectThreshold (options : Value) : Except Failure Value := do
  let threshold ← options.index "threshold"
  match threshold with
  | .nil => pure (.nat 0)
  | .num n => pure (.num n)
  | _ => .error (refuse "movement threshold must be number")

/-- `tree_router.select` -/
def binarySelect (i : Instance) (candidates : List Value) (options : Value) :
    Except Failure Value := do
  let threshold ← selectThreshold options
  let race ← Race.run threshold ⟨none, false⟩ candidates
  match race.winner with
  | none => do
      let cause ← noViableCause candidates
      pure (.record [("kind", .text "no_viable_edge"), ("cause", .text cause),
        ("candidates", .array candidates), ("threshold", threshold), ("policy", treePolicy),
        ("policy_status", treePolicyStatus), ("event_truth_status", .text "runtime_confirmed")])
  | some winner =>
    pure (.record [("kind", .text "tree_route_decision"), ("policy", treePolicy),
      ("policy_status", treePolicyStatus), ("from", Topology.value i.packet.operator),
      ("to", winner.get "to"), ("candidates", .array candidates),
      ("reason", .text (if race.tied then "highest_pressure_canonical_tie_break"
        else "highest_positive_pressure")),
      ("winning_total", winner.get "total"), ("threshold", threshold),
      ("event_truth_status", .text "runtime_confirmed")])

/-! ## Selecting under qualified pressure -/

def compositionPolicy : Value := .text "pressure.class_order.v0"

def classRank (named : Value) : Nat :=
  if named = .text "causal_affordance" then 1
  else if named = .text "blocking_demand" then 2
  else if named = .text "terminal_boundary" then 3 else 0

def emptyEligibilityBasis : Value :=
  .record [("witness_ids", .emptyTable), ("unqualified_snapshot", .bool false),
    ("fixture_witness_ids", .emptyTable)]

/-- `outcome`, where a field given stands in place of the default. -/
def compositionOutcome (kind : String) (candidates : List Value)
    (eligibility extra : List (String × Value)) : Value :=
  .record ([("kind", .text kind), ("cause", .text kind), ("candidates", .array candidates),
    ("policy", compositionPolicy), ("policy_status", .text "shadow_treatment"),
    ("event_truth_status", .text "runtime_confirmed")] ++ eligibility ++ extra)

def noEligibility : List (String × Value) :=
  [("promotion_eligible", .bool false), ("promotion_ineligibility_reasons", .emptyTable),
    ("promotion_eligibility_basis", emptyEligibilityBasis)]

/-- `candidate.witness_count or #(candidate.witnesses or {})` is positive. -/
def hasWitnesses (candidate : Value) : Except Failure Bool := do
  let count ← candidate.index "witness_count"
  if count.truthy then Value.less (.nat 0) count
  else do
    let witnesses ← ((candidate.get "witnesses").orElse .emptyTable).length
    pure (decide (0 < witnesses))

/-- The candidates of the highest class that may be executed or are ambiguous. -/
def relevantCandidates (candidates : List Value) : List Value :=
  let standing := candidates.filter fun candidate =>
    candidate.get "action_status" = .text "ambiguous_action" || !(candidate.get "excluded").truthy
  let highest := (standing.map fun candidate => classRank (candidate.get "highest_class")).foldl max 0
  standing.filter fun candidate => classRank (candidate.get "highest_class") = highest

def carryEligibility (candidate : Value) : List (String × Value) :=
  [("promotion_eligible", .bool (candidate.get "promotion_eligible" = .bool true)),
    ("promotion_ineligibility_reasons",
      ((candidate.get "promotion_ineligibility_reasons").orElse .emptyTable).deepCopy),
    ("promotion_eligibility_basis",
      ((candidate.get "promotion_eligibility_basis").orElse emptyEligibilityBasis).deepCopy)]

def addReason (reasons : Value) (reason : String) : Except Failure Value := do
  let items ← (reasons.orElse .emptyTable).ipairs
  let kept := (items.filterMap textOf ++ [utf8 reason]).dedup
  pure (texts (kept.insertionSort Json.TextLe))

def ambiguousPressure (candidates relevant : List Value) (first : Value) : Value :=
  compositionOutcome "ambiguous_pressure" candidates noEligibility
    [("causal_class", first.get "highest_class"),
      ("ambiguous_targets", .array (relevant.map fun candidate => candidate.get "to"))]

def controlSelected (i : Instance) (candidates relevant : List Value) (first : Value) :
    Except Failure Value := do
  let sorted := relevant.insertionSort fun a b =>
    canonicalIndex (a.get "to") ≤ canonicalIndex (b.get "to")
  let selected := sorted.headD first
  let reasons ← addReason
    ((selected.get "promotion_ineligibility_reasons").orElse .emptyTable) "control_fallback"
  pure (compositionOutcome "control_selected" candidates
    [("promotion_eligible", .bool false), ("promotion_ineligibility_reasons", reasons),
      ("promotion_eligibility_basis",
        ((selected.get "promotion_eligibility_basis").orElse emptyEligibilityBasis).deepCopy)]
    [("from", Topology.value i.packet.operator), ("to", selected.get "to"),
      ("selected_candidate", selected),
      ("original_outcome", ambiguousPressure candidates relevant first),
      ("selection_reason", .text "canonical_control_fallback")])

def classDecision (i : Instance) (candidates : List Value) (selected : Value) : Value :=
  .record ([("kind", .text "tree_route_decision"), ("composition_outcome", .text "selected"),
    ("policy", compositionPolicy), ("policy_status", .text "shadow_treatment"),
    ("from", Topology.value i.packet.operator), ("to", selected.get "to"),
    ("candidates", .array candidates), ("selected_candidate", selected),
    ("reason", .text "highest_causal_class_unique_executable_need"),
    ("causal_class", selected.get "highest_class"),
    ("event_truth_status", .text "runtime_confirmed")] ++ carryEligibility selected)

/-- `pressure_composition.select` -/
def qualifiedSelect (i : Instance) (candidates : List Value) (options : Value) :
    Except Failure Value := do
  let named ← options.index "policy"
  require (named = .nil ∨ named = compositionPolicy)
    (refuse "invalid pressure composition policy")
  let witnessed ← candidates.filterM hasWitnesses
  if witnessed = [] then pure (compositionOutcome "no_qualified_need" candidates noEligibility [])
  else
    let relevant := relevantCandidates witnessed
    match relevant with
    | [] => pure (compositionOutcome "no_viable_edge" candidates noEligibility [])
    | first :: others =>
      match relevant.find? fun candidate =>
          candidate.get "action_status" = .text "ambiguous_action" with
      | some candidate =>
        pure (compositionOutcome "ambiguous_action" candidates noEligibility
          [("causal_class", candidate.get "highest_class"),
            ("ambiguous_target", candidate.get "to"),
            ("ambiguity", candidate.get "action_error")])
      | none =>
        if others = [] then pure (classDecision i candidates first)
        else if options.get "allow_control_fallback" = .bool true then
          controlSelected i candidates relevant first
        else pure (ambiguousPressure candidates relevant first)

/-! ## Predicting -/

def withSource (snapshot prediction : Value) : Except Failure Value := do
  let prediction ← prediction.setField "from" (snapshot.get "current_operator")
  prediction.setField "source_snapshot_ref"
    ((snapshot.get "trace_event_id").orElse (snapshot.get "id"))

def treePredict (organs : Organs) (i : Instance) (snapshot : Value) (context : Context) :
    Except Failure Value := do
  let options := context.tree.orElse .emptyTable
  if snapshot.get "kind" = .text "qualified_pressure_snapshot" then do
    let candidates ← organs.qualifiedCandidates i snapshot context.registry
    let prediction ← qualifiedSelect i candidates options
    withSource snapshot prediction
  else do
    let candidates ← organs.binaryCandidates i snapshot context.registry
    let prediction ← binarySelect i candidates options
    withSource snapshot prediction

def Organs.policy (organs : Organs) : TreePolicy where
  derive := pressureDerive organs
  predict := treePredict organs

end Proc17.Runtime.Router
