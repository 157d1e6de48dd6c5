import Proc17.Runtime.Router.Legacy

/-!
# The tree authority

`derive_tree_authority` of `runtime/router.lua`: the pressure snapshot and the
derivation it records, the eligibility it writes over a prediction, and the decision it
gives.  How pressure is derived and a route predicted is given: both only read.
-/

namespace Proc17.Runtime.Router

open Lua
open Core

/-- The option table of `router.after_tick`. -/
structure Options where
  mode : Value
  legacyShadow : Value
  options : Value
  substrate : Value
  capabilities : Value
  result : Value
  tree : Value

def Options.body (o : Options) : Value := o.options.orElse .emptyTable

/-- What `tree_router.predict` is handed beside the snapshot. -/
structure Context where
  substrate : Value
  capabilities : Value
  options : Value
  result : Value
  tree : Value

def Options.context (o : Options) : Context where
  substrate := o.substrate
  capabilities := o.capabilities
  options := o.body
  result := o.result
  tree := o.tree

/-- `pressure.derive` at an operator under options, and `tree_router.predict`. -/
structure TreePolicy where
  derive : Instance → Value → Value → Value → Except Failure Value
  predict : Instance → Value → Context → Except Failure Value

/-- A call's result, where `nil` or `false` counts as a refusal without a reason. -/
def given (answer : Except Failure Value) : Except Failure Value := do
  let v ← answer
  if v.truthy then pure v else .error (.refused .nil)

/-! ## Records -/

def routerEvent (type : EventType) (operator payload lane : Value) : Value :=
  .record [("type", .text type.name), ("operator", operator),
    ("truth_status", .text "runtime_confirmed"), ("payload", payload), ("cost", .emptyTable),
    ("identity_lane", lane)]

def Instance.appendTrace (i : Instance) (now : Int) (event : Value) : Reply Instance Event :=
  let reply := i.packet.appendTrace now event
  (reply.1, { i with packet := reply.2 })

def observerLane : Value := .text "observer_instrumentation"

def recordPressureSnapshot (i : Instance) (now : Int) (snapshot : Value) (observer : Bool) :
    Reply Instance Value :=
  match snapshot.index "current_operator" with
  | .error failure => (.error failure, i)
  | .ok operator =>
    (i.appendTrace now (routerEvent .tensionMeasure operator snapshot
      (if observer then observerLane else .nil))).andThen fun event j =>
        (snapshot.setField "trace_event_id" event.id, j)

def recordShadow (i : Instance) (now : Int) (shadow : Value) : Reply Instance Value :=
  match shadow.index "current_operator" with
  | .error failure => (.error failure, i)
  | .ok operator =>
    (i.appendTrace now (routerEvent .tensionMeasure operator shadow observerLane)).andThen
      fun event j => (shadow.setField "trace_event_id" event.id, j)

/-! ## Eligibility -/

def candidateFrom (target : Value) : Nat → List Value → Except Failure (Option Nat)
  | _, [] => .ok none
  | k, candidate :: rest => do
      let reached ← candidate.index "to"
      if reached.eq target then pure (some k) else candidateFrom target (k + 1) rest

def selectedCandidate (prediction : Value) : Except Failure (Option (Nat × Value)) := do
  let candidates ← prediction.index "candidates"
  let items ← (candidates.orElse .emptyTable).ipairs
  let target ← prediction.index "to"
  let found ← candidateFrom target 1 items
  pure (found.bind fun k => (items[k - 1]?).map fun candidate => (k, candidate))

structure EligibilityBasis where
  witnessIds : List Bytes
  unqualifiedSnapshot : Bool
  fixtureWitnessIds : List Bytes

structure Eligibility where
  eligible : Bool
  reasons : List Bytes
  basis : EligibilityBasis

def texts (items : List Bytes) : Value := .array (items.map .str)

def EligibilityBasis.toValue (basis : EligibilityBasis) : Value :=
  .record [("witness_ids", texts basis.witnessIds),
    ("unqualified_snapshot", .bool basis.unqualifiedSnapshot),
    ("fixture_witness_ids", texts basis.fixtureWitnessIds)]

def textOf : Value → Option Bytes
  | .str s => if s.isEmpty then none else some s
  | _ => none

def isPlace (count : Nat) : Value → Bool
  | .num n => !Number.lt n (.int 1) && Number.le n (.int count) && n.isIntegral
  | _ => false

def sortedUniqueStrings : Value → Option (List Bytes)
  | .table _ entries => do
      let items := Value.itemsFrom entries entries.length 1
      let found ← items.mapM textOf
      if found.Nodup ∧ (entries.map Prod.fst).all (isPlace items.length)
          ∧ found.Pairwise Json.TextLe then
        some found
      else none
  | _ => none

def basisKeys : List String := ["witness_ids", "unqualified_snapshot", "fixture_witness_ids"]

def boolOf : Value → Option Bool
  | .bool b => some b
  | _ => none

def normalizedEligibility (v : Value) : Option Eligibility := do
  let eligible ← boolOf (v.get "promotion_eligible")
  let reasons ← sortedUniqueStrings (v.get "promotion_ineligibility_reasons")
  let basis := v.get "promotion_eligibility_basis"
  let unqualified ← boolOf (basis.get "unqualified_snapshot")
  if (basis.keys.all fun key => basisKeys.any fun name => key = .text name)
      ∧ basis.keys.length = 3 then
    let witnessIds ← sortedUniqueStrings (basis.get "witness_ids")
    let fixtureIds ← sortedUniqueStrings (basis.get "fixture_witness_ids")
    some ⟨eligible, reasons, witnessIds, unqualified, fixtureIds⟩
  else none

def writeEligibility (target : Value) (eligibility : Eligibility) : Except Failure Value := do
  let target ← target.setField "promotion_eligible" (.bool eligibility.eligible)
  let target ← target.setField "promotion_ineligibility_reasons" (texts eligibility.reasons)
  target.setField "promotion_eligibility_basis" eligibility.basis.toValue

/-- `ineligible`, of reasons that stand sorted. -/
def ineligible (reasons : List String) (basis : Option EligibilityBasis) : Eligibility :=
  ⟨false, reasons.map utf8, basis.getD ⟨[], false, []⟩⟩

def writeCandidate (prediction : Value) (place : Nat) (candidate : Value) :
    Except Failure Value :=
  match prediction.get "candidates" with
  | .table tag entries =>
    prediction.setField "candidates" (.table tag (Value.assign entries (.nat place) candidate))
  | _ => .error (.fault "newindex")

def normalizeBinary (prediction : Value) (selected : Option (Nat × Value)) :
    Except Failure Value := do
  let reasons := "binary_policy_control" ::
    if prediction.get "reason" = .text "highest_pressure_canonical_tie_break" then
      ["tie_only_selection"]
    else []
  let eligibility := ineligible reasons none
  match selected with
  | none => writeEligibility prediction eligibility
  | some (place, candidate) => do
      let candidate ← writeEligibility candidate eligibility
      let prediction ← writeCandidate prediction place candidate
      writeEligibility prediction eligibility

def selectedEligibility (selected : Option (Nat × Value)) : Option Eligibility :=
  selected.bind fun entry => normalizedEligibility entry.2

def normalizeTreeEligibility (snapshot prediction : Value) : Except Failure Value := do
  let selected ← selectedCandidate prediction
  let pressureKind ← snapshot.index "kind"
  if pressureKind = .text "edge_pressure_snapshot" then
    normalizeBinary prediction selected
  else if prediction.get "kind" = .text "control_selected" then
    match normalizedEligibility prediction with
    | some existing => writeEligibility prediction existing
    | none =>
      writeEligibility prediction
        (ineligible ["control_fallback"] ((selectedEligibility selected).map Eligibility.basis))
  else
    match selectedEligibility selected, normalizedEligibility prediction with
    | some eligibility, none => writeEligibility prediction eligibility
    | _, _ => pure prediction

/-! ## The derivation -/

def selectedPlanId (selected : Option (Nat × Value)) : Except Failure Value :=
  match selected with
  | none => .ok .nil
  | some (_, candidate) => do
      let plan ← candidate.index "action_plan"
      let id ← fieldOf plan "plan_id"
      pure (id.orElse .nil)

def isDecision (prediction : Value) : Bool := prediction.get "kind" = .text "tree_route_decision"

def derivationPayload (snapshot prediction : Value) (selected : Option (Nat × Value))
    (planId : Value) : Value :=
  .record [("kind", .text "route_derivation"),
    ("current_operator", snapshot.get "current_operator"),
    ("pressure_snapshot_ref", snapshot.get "trace_event_id"),
    ("candidates", (prediction.get "candidates").orElse .emptyTable),
    ("outcome", if isDecision prediction then .text "selected" else prediction.get "kind"),
    ("selected_to", prediction.get "to"),
    ("selected_candidate", ((selected.map Prod.snd).getD .nil).deepCopy),
    ("selected_action_plan_id", planId),
    ("no_viable_cause",
      if prediction.get "kind" = .text "no_viable_edge" then
        (prediction.get "cause").orElse .nil
      else .nil),
    ("policy", prediction.get "policy"),
    ("policy_status", prediction.get "policy_status"),
    ("threshold", prediction.get "threshold"),
    ("promotion_eligible", prediction.get "promotion_eligible"),
    ("promotion_ineligibility_reasons",
      (prediction.get "promotion_ineligibility_reasons").deepCopy),
    ("promotion_eligibility_basis", (prediction.get "promotion_eligibility_basis").deepCopy)]

def derivationPlan (snapshot prediction : Value) : Except Failure Value := do
  let selected ← selectedCandidate prediction
  let planId ← selectedPlanId selected
  pure (derivationPayload snapshot prediction selected planId)

def recordDerivation (i : Instance) (now : Int) (snapshot prediction : Value) :
    Reply Instance Event :=
  transact (derivationPlan snapshot prediction)
    (fun payload => i.appendTrace now
      (routerEvent .routeDerivation (snapshot.get "current_operator") payload .nil)) i

def treeOutcome (snapshot prediction : Value) (derivation : Event) : Except Failure Value := do
  let outcome ← prediction.setField "from" (snapshot.get "current_operator")
  let outcome ← outcome.setField "authority" (.text "tree")
  let outcome ← outcome.setField "derivation_ref" derivation.id
  let outcome ← outcome.setField "pressure_snapshot_ref" (snapshot.get "trace_event_id")
  outcome.setField "truth_status" (.text "runtime_confirmed")

def decisionTable (snapshot prediction candidate planId : Value) (derivation : Event) : Value :=
  .record [("kind", .text "tree_route_decision"),
    ("from", snapshot.get "current_operator"),
    ("to", prediction.get "to"),
    ("reason", prediction.get "reason"),
    ("authority", .text "tree"),
    ("derivation_ref", derivation.id),
    ("pressure_snapshot_ref", snapshot.get "trace_event_id"),
    ("selected_candidate", candidate),
    ("selected_action_plan_id", planId),
    ("candidates", (prediction.get "candidates").orElse .emptyTable),
    ("policy", prediction.get "policy"),
    ("policy_status", prediction.get "policy_status"),
    ("threshold", prediction.get "threshold"),
    ("winning_total", prediction.get "winning_total"),
    ("promotion_eligible", prediction.get "promotion_eligible"),
    ("promotion_ineligibility_reasons",
      (prediction.get "promotion_ineligibility_reasons").deepCopy),
    ("promotion_eligibility_basis", (prediction.get "promotion_eligibility_basis").deepCopy),
    ("truth_status", .text "runtime_confirmed")]

def treeDecision (snapshot prediction : Value) (derivation : Event) : Except Failure Value := do
  let selected ← selectedCandidate prediction
  let planId ← selectedPlanId selected
  match selected with
  | none => .error (refuse "tree decision missing selected candidate")
  | some entry => .ok (decisionTable snapshot prediction entry.2 planId derivation)

def treeLive (snapshot prediction : Value) (derivation : Event) : Except Failure Value :=
  if isDecision prediction then treeDecision snapshot prediction derivation
  else treeOutcome snapshot prediction derivation

/-- `pressure_module.derive` as the router calls it. -/
def derivePressure (policy : TreePolicy) (i : Instance) (tick : Value) (o : Options) :
    Except Failure Value := do
  let operator ← tick.index "operator"
  given (policy.derive i tick operator o.body)

def treeAuthority (policy : TreePolicy) (i : Instance) (clock : Nat → Int) (tick : Value)
    (o : Options) : Reply Instance Value :=
  match derivePressure policy i tick o with
  | .error failure => (.error failure, i)
  | .ok derived =>
    (recordPressureSnapshot i (clock 0) derived false).andThen fun snapshot j =>
      match given (policy.predict j snapshot o.context) >>= normalizeTreeEligibility snapshot with
      | .error failure => (.error failure, j)
      | .ok prediction =>
        (recordDerivation j (clock 1) snapshot prediction).andThen fun derivation k =>
          (treeLive snapshot prediction derivation, k)

end Proc17.Runtime.Router
