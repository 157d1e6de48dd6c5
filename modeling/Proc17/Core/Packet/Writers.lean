import Proc17.Core.Packet.New

/-!
# The public Packet writers

Every exported writer of `core/packet.lua`, with its checks in source order.  A
writer that assigns before it appends keeps that assignment when the append
raises, as the Lua code does.
-/

namespace Proc17.Core

open Lua

def Status.wake : Status → Status
  | .born => .running
  | status => status

namespace Packet

/-- `topology.resolve(actor)` as a Lua value. -/
def resolvedValue (actor : Value) : Value :=
  match Topology.resolve actor with
  | some operator => Topology.value operator
  | none => .nil

/-! ## Ticks and routes -/

def tickDraft (operator : Operator) (inputRefs : Value) : Draft :=
  .own .operatorTick (Topology.value operator) (.text "runtime_confirmed")
    (.record [("input_refs", inputRefs.orElse .emptyTable)]) .emptyTable

def tickPlan (p : Packet) (operator inputRefs : Value) : Except Failure Draft := do
  p.assertMutable "begin tick"
  match Topology.resolve operator with
  | none => .error (refuse "invalid tick operator")
  | some resolved => do
      require (resolved = p.operator) (refuse "tick operator does not match packet position")
      require (inputRefs = .nil ∨ inputRefs.isTable = true)
        (refuse "tick input refs must be table")
      pure (tickDraft resolved inputRefs)

def wake (p : Packet) : Packet := { p with status := p.status.wake }

/-- `packet.begin_tick`: the status is written before the tick is appended. -/
def beginTick (p : Packet) (now : Int) (operator inputRefs : Value) : Reply Packet Event :=
  transact (p.tickPlan operator inputRefs) (fun draft => p.wake.emit now draft) p

def readyCandidate (target : Operator) : List Value → Except Failure Value
  | [] => .error (refuse "tree route selected candidate is absent from derivation")
  | candidate :: rest => do
      let named ← candidate.index "to"
      if Topology.resolve named = some target ∧ candidate.get "excluded" ≠ .bool true
          ∧ (candidate.get "readiness").isTable = true
          ∧ (candidate.get "readiness").get "ready" = .bool true then
        pure candidate
      else readyCandidate target rest

def matchingDerivation (p : Packet) (decision : Value) (source target : Operator) :
    Except Failure Value := do
  match Trace.eventById p.trace (decision.get "derivation_ref") with
  | none => .error (refuse "tree route derivation ref must name route_derivation event")
  | some derivation => do
      require (derivation.type = .routeDerivation)
        (refuse "tree route derivation ref must name route_derivation event")
      let payload := derivation.payload
      let current ← payload.index "current_operator"
      require (Topology.resolve current = some source
          ∧ payload.get "outcome" = .text "selected"
          ∧ Topology.resolve (payload.get "selected_to") = some target)
        (refuse "tree route does not match recorded derivation")
      require (payload.get "pressure_snapshot_ref" = decision.get "pressure_snapshot_ref")
        (refuse "tree route pressure ref does not match recorded derivation")
      pure payload

def matchingPressure (p : Packet) (decision : Value) (source : Operator) :
    Except Failure Unit := do
  match Trace.eventById p.trace (decision.get "pressure_snapshot_ref") with
  | none =>
    .error (refuse "tree route pressure ref must name matching edge pressure snapshot")
  | some pressure => do
      require (pressure.type = .tensionMeasure ∧ pressure.operator = source)
        (refuse "tree route pressure ref must name matching edge pressure snapshot")
      let kind ← pressure.payload.index "kind"
      require (kind = .text "edge_pressure_snapshot"
          ∨ kind = .text "qualified_pressure_snapshot")
        (refuse "tree route pressure ref must name matching edge pressure snapshot")

def treeCandidate (p : Packet) (decision : Value) (source target : Operator) :
    Except Failure Value := do
  require ((decision.get "derivation_ref").isNonEmptyString = true)
    (refuse "tree route requires derivation ref")
  require ((decision.get "pressure_snapshot_ref").isNonEmptyString = true)
    (refuse "tree route requires pressure snapshot ref")
  let selected := decision.get "selected_candidate"
  require (selected.isTable = true ∧ Topology.resolve (selected.get "to") = some target)
    (refuse "tree route requires matching selected candidate")
  require ((selected.get "readiness").isTable = true
      ∧ (selected.get "readiness").get "ready" = .bool true)
    (refuse "tree route cannot commit unready candidate")
  let payload ← p.matchingDerivation decision source target
  p.matchingPressure decision source
  let candidates ← ((payload.get "candidates").orElse .emptyTable).ipairs
  readyCandidate target candidates

def actionPlanId (selected : Value) : Except Failure Value :=
  if selected.truthy then do
    let plan ← selected.index "action_plan"
    if plan.truthy then do
      let planId ← plan.index "plan_id"
      pure (planId.orElse .nil)
    else pure .nil
  else pure .nil

def routeAuthority (decision : Value) : Value :=
  if decision.get "authority" = .nil then
    if decision.get "kind" = .text "tree_route_decision" then .text "tree"
    else .text "legacy_control"
  else decision.get "authority"

def routePayload (decision selected planId : Value) (source target : Operator) : Value :=
  .record [("kind", (decision.get "kind").orElse (.text "route_decision")),
    ("from", Topology.value source), ("to", Topology.value target),
    ("reason", decision.get "reason"), ("pressure", decision.get "pressure"),
    ("authority", routeAuthority decision),
    ("derivation_ref", decision.get "derivation_ref"),
    ("pressure_snapshot_ref", decision.get "pressure_snapshot_ref"),
    ("selected_candidate", selected), ("selected_action_plan_id", planId),
    ("policy", decision.get "policy"), ("policy_status", decision.get "policy_status"),
    ("threshold", decision.get "threshold"),
    ("promotion_eligible", decision.get "promotion_eligible"),
    ("promotion_ineligibility_reasons", decision.get "promotion_ineligibility_reasons"),
    ("promotion_eligibility_basis", decision.get "promotion_eligibility_basis")]

def routeEnds (p : Packet) (decision : Value) : Except Failure (Operator × Operator) := do
  match Topology.resolve (decision.get "from"), Topology.resolve (decision.get "to") with
  | some source, some target => do
      require (source = p.operator) (refuse "route source does not match packet position")
      require (source ≠ .manifest) (refuse "manifest operator has no same-life successor")
      require (target ≠ .flow) (refuse "living packet cannot return to flow")
      require (Topology.isAdjacent source target = true) (refuse "invalid operator transition")
      pure (source, target)
  | _, _ => .error (refuse "route decision requires valid operators")

def routeDraft (decision selected planId : Value) (source target : Operator) : Draft :=
  .own .route (Topology.value target) (.text "runtime_confirmed")
    (routePayload decision selected planId source target)
    ((decision.get "cost").orElse .emptyTable)

def routeCandidate (p : Packet) (decision : Value) (source target : Operator) :
    Except Failure Value :=
  if routeAuthority decision = .text "tree" then p.treeCandidate decision source target
  else .ok (decision.get "selected_candidate")

def routePlan (p : Packet) (decision : Value) : Except Failure (Operator × Draft) := do
  p.assertMutable "commit transition"
  require (decision.isTable = true) (refuse "route decision required")
  let (source, target) ← p.routeEnds decision
  let selected ← p.routeCandidate decision source target
  let planId ← actionPlanId selected
  pure (target, routeDraft decision selected planId source target)

def routed (p : Packet) (target : Operator) : Packet :=
  { p with operator := target, status := p.status.wake }

def commitTransition (p : Packet) (now : Int) (decision : Value) : Reply Packet Event :=
  transact (p.routePlan decision)
    (fun plan => p.emitThen now plan.2 fun _ q => q.routed plan.1) p

/-! ## Chaos, crystals and tension -/

def namedActor (p : Packet) (table : Value) : Except Failure Value := do
  let named ← table.index "operator"
  pure (named.orElse (Topology.value p.operator))

def actorCopy (p : Packet) (table : Value) (operation : String) : Except Failure Value := do
  let actor ← p.namedActor table
  let _ ← p.assertActorTick actor operation
  table.deepCopy.setField "operator" (resolvedValue actor)

def chaosDraft (stored : Value) : Draft :=
  .own .chaosAppend (stored.get "operator")
    ((stored.get "truth_status").orElse (.text "semantic_proposal")) stored
    ((stored.get "cost").orElse .emptyTable)

def withFragment (p : Packet) (stored : Value) : Packet :=
  { p with chaos := { p.chaos with fragments := p.chaos.fragments ++ [stored] } }

/-- `packet.append_chaos`: the fragment is stored before the event is appended. -/
def appendChaos (p : Packet) (now : Int) (fragment : Value) : Reply Packet Event :=
  transact (p.actorCopy (fragment.orElse .emptyTable) "append chaos")
    (fun stored => (p.withFragment stored).emit now (chaosDraft stored)) p

structure CrystalPlan where
  sourceRefs : Value
  calmDelta : Value
  loss : Value
  status : Value
  draft : Draft

def crystalPlan (p : Packet) (record : Value) : Except Failure CrystalPlan := do
  let _ ← p.assertActorTick (Topology.value .encode) "crystallize"
  let record := record.orElse .emptyTable
  let loss ← record.index "loss"
  require (loss.isTable = true) (refuse "crystallization requires loss table")
  require (loss.get "kind" ≠ .nil) (refuse "crystallization loss requires kind")
  let calmDelta := record.get "calm_delta"
  require (calmDelta.isTable = true) (refuse "crystallization requires calm_delta table")
  let sourceRefs := ((record.get "source_chaos_refs").orElse .emptyTable).deepCopy
  let status := (record.get "status").orElse (.text "accepted")
  pure
    { sourceRefs := sourceRefs
      calmDelta := calmDelta.deepCopy
      loss := loss.deepCopy
      status := status
      draft := .own .crystallization (Topology.value .encode)
        ((record.get "truth_status").orElse (.text "runtime_confirmed"))
        (.record [("source_chaos_refs", sourceRefs), ("calm_delta", calmDelta.deepCopy),
          ("loss", loss.deepCopy), ("status", status)])
        (.record [("loss", (loss.get "amount").orElse (.nat 0))]) }

def storeCrystal (plan : CrystalPlan) (event : Event) (p : Packet) : Packet :=
  { p with
    boundary :=
      { crystallizations := p.boundary.crystallizations
          ++ [⟨plan.sourceRefs, plan.calmDelta, plan.loss, plan.status, event.id⟩]
        lossRecords := p.boundary.lossRecords ++ [⟨plan.loss, event.id⟩] }
    calm :=
      { structures := p.calm.structures ++ [plan.calmDelta]
        workUnits :=
          if (plan.calmDelta.get "work_units").isTable then plan.calmDelta.get "work_units"
          else p.calm.workUnits
        current := plan.calmDelta
        status := plan.status }
    revisions := { p.revisions with calm := p.revisions.calm + 1 } }

def crystallize (p : Packet) (now : Int) (record : Value) : Reply Packet Event :=
  transact (p.crystalPlan record)
    (fun plan => p.emitThen now plan.draft (storeCrystal plan)) p

/-- The loop `for key, value in pairs(record) do tension[key] = copy`. -/
def writeTension (tension : List (Value × Value)) (record : Value) : List (Value × Value) :=
  match record with
  | .table _ entries =>
    entries.foldl (fun acc entry => Value.assign acc entry.1 entry.2.deepCopy) tension
  | _ => tension

def tensionDraft (stored : Value) : Draft :=
  .own .tensionMeasure (stored.get "operator")
    ((stored.get "truth_status").orElse (.text "runtime_confirmed")) stored
    ((stored.get "cost").orElse .emptyTable)

def withTension (p : Packet) (record : Value) : Packet :=
  { p with tension := writeTension p.tension record }

/-- `packet.measure_tension`: the tension is written before the event is
appended. -/
def measureTension (p : Packet) (now : Int) (record : Value) : Reply Packet Event :=
  transact (p.actorCopy (record.orElse .emptyTable) "measure tension")
    (fun stored =>
      (p.withTension (record.orElse .emptyTable)).emit now (tensionDraft stored)) p

end Packet

end Proc17.Core
