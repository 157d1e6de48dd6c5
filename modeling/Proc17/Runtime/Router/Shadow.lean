import Proc17.Runtime.Router.Tree

/-!
# The two shadows

`router.after_tick` of `runtime/router.lua`.  Under tree authority the historical policy
leaves a shadow; under the historical authority the tree leaves one.  The tree's shadow
is derived in a protected call, the historical one is not.
-/

namespace Proc17.Runtime.Router

open Lua
open Core

/-! ## Tables -/

def Progress.toValue (progress : Progress) : Value :=
  .record [("goal", .str progress.goal), ("needed_count", .nat progress.neededCount),
    ("done_count", .nat progress.done.length),
    ("remaining_count", .nat progress.remaining.length),
    ("done", texts progress.done), ("remaining", texts progress.remaining),
    ("logic_status", .text "accepted")]

def LegacyPressure.toValue (pressure : LegacyPressure) : Value :=
  .record [("loss", .record [("kind", .text "packet_loss"),
      ("exhausted", .bool pressure.loss.exhausted),
      ("near_death", .bool pressure.loss.nearDeath),
      ("records_count", .nat pressure.loss.recordsCount),
      ("current", pressure.loss.current), ("remaining", pressure.loss.remaining)]),
    ("budget", .record [("kind", .text "runtime_budget"),
      ("exhausted", .bool pressure.budget.exhausted),
      ("exhausted_keys", pressure.budget.exhaustedKeys), ("values", pressure.budget.values),
      ("spent", pressure.budget.spent)]),
    ("karma", .record [("kind", .text "grave_karma"),
      ("warning_count", .nat pressure.karma.warningCount),
      ("bequest_count", .nat pressure.karma.bequestCount),
      ("neutral_count", .nat pressure.karma.neutralCount),
      ("warnings", pressure.karma.warnings)]),
    ("progress", pressure.progress.toValue), ("payload", pressure.payload),
    ("work_mode", pressure.workMode), ("last_choice", pressure.lastChoice),
    ("last_validation", pressure.lastValidation), ("last_cycle", pressure.lastCycle),
    ("validation_status", pressure.validationStatus),
    ("cycle_decision", pressure.cycleDecision),
    ("foundation_state", pressure.foundationState),
    ("evidence_count", .nat pressure.evidenceCount), ("logic_stamp", pressure.logicStamp),
    ("evidence_fingerprint", .str pressure.evidenceFingerprint),
    ("calm_status", pressure.calmStatus), ("has_calm", .bool pressure.hasCalm)]

def LegacyDecision.toValue (decision : LegacyDecision) : Value :=
  .record [("kind", .text "route_decision"), ("from", Topology.value decision.source),
    ("to", Topology.value decision.target), ("reason", .text decision.reason),
    ("pressure", decision.pressure.toValue), ("authority", .text "legacy_control"),
    ("truth_status", .text "runtime_confirmed")]

def divergenceText (live predicted : Value) : Value :=
  .str (utf8 "live:" ++ live.tostring ++ utf8 "/shadow:" ++ predicted.tostring)

def agree (predicted live : Value) : Bool := decide (predicted ≠ .nil) && predicted.eq live

/-! ## The historical shadow of a tree decision -/

def legacyShadowTable (live predictedTo reason : Value) (agreement : Bool)
    (divergence : Value) (status : String) : Value :=
  .record [("kind", .text "shadow_route_decision"), ("observer", .text "legacy"),
    ("live_authority", .text "tree"), ("current_operator", live.get "from"),
    ("candidates", .emptyTable), ("predicted_to", predictedTo),
    ("predicted_reason", reason), ("live_to", live.get "to"),
    ("live_reason", (live.get "reason").orElse (live.get "cause")),
    ("agreement", .bool agreement), ("divergence", divergence),
    ("instrumentation_status", .text status),
    ("tree_derivation_ref", live.get "derivation_ref"),
    ("policy", .text "legacy.control.v0"), ("policy_status", .text "historical_control"),
    ("truth_status", .text "runtime_confirmed")]

def observedLegacyShadow (live : Value) (prediction : LegacyDecision) : Value :=
  let predicted := Topology.value prediction.target
  let agreement := agree predicted (live.get "to")
  legacyShadowTable live predicted (.text prediction.reason) agreement
    (if agreement then .nil else divergenceText (live.get "to") predicted) "observed"

def unavailableLegacyShadow (live : Value) : Value :=
  legacyShadowTable live .nil (.text "unsupported_route_source") false
    (.text "legacy_unavailable:unsupported_route_source") "unavailable"

def legacyShadowFromTree (world : World) (i : Instance) (now : Int) (tick live : Value)
    (o : Options) : Reply Instance Value :=
  match legacyAfterTick world i tick o.body with
  | .ok prediction => recordShadow i now (observedLegacyShadow live prediction)
  | .error (.refused err) =>
    if err = .text "unsupported_route_source" then
      recordShadow i now (unavailableLegacyShadow live)
    else (.error (.refused (.str (utf8 "legacy_shadow:" ++ err.tostring))), i)
  | .error failure => (.error failure, i)

/-! ## The tree shadow of a historical decision -/

def treePolicy : Value := .text "pressure.binary.v0"

def treePolicyStatus : Value := .text "vibed_control"

/-- `shadow_error`, with the snapshot it came after. -/
def treeShadowError (live : LegacyDecision) (err snapshotRef : Value) : Value :=
  .record [("kind", .text "shadow_route_decision"), ("observer", .text "tree"),
    ("live_authority", .text "legacy_control"),
    ("current_operator", Topology.value live.source), ("candidates", .emptyTable),
    ("predicted_reason", .text "prediction_error"),
    ("live_to", Topology.value live.target), ("agreement", .bool false),
    ("divergence", .str (utf8 "prediction_error:" ++ err.tostring)),
    ("instrumentation_status", .text "error"), ("policy", treePolicy),
    ("policy_status", treePolicyStatus), ("truth_status", .text "runtime_confirmed"),
    ("pressure_snapshot_ref", snapshotRef)]

def predictedTo (prediction : Value) : Value :=
  if isDecision prediction then (prediction.get "to").orElse .nil else .nil

def treeDivergence (prediction : Value) (live : LegacyDecision) : Value :=
  if predictedTo prediction = .nil then
    .str ((prediction.get "kind").tostring ++ utf8 ":" ++ (prediction.get "cause").tostring)
  else if agree (predictedTo prediction) (Topology.value live.target) then .nil
  else divergenceText (Topology.value live.target) (predictedTo prediction)

def observedTreeShadow (live : LegacyDecision) (snapshot prediction : Value) : Value :=
  .record [("kind", .text "shadow_route_decision"), ("observer", .text "tree"),
    ("live_authority", .text "legacy_control"),
    ("current_operator", Topology.value live.source),
    ("candidates", (prediction.get "candidates").orElse .emptyTable),
    ("predicted_to", predictedTo prediction),
    ("predicted_reason", (prediction.get "reason").orElse (prediction.get "cause")),
    ("prediction_outcome",
      if isDecision prediction then .text "selected" else prediction.get "kind"),
    ("live_to", Topology.value live.target),
    ("agreement", .bool (agree (predictedTo prediction) (Topology.value live.target))),
    ("divergence", treeDivergence prediction live),
    ("instrumentation_status", .text "observed"),
    ("no_viable_edge", if isDecision prediction then .nil else prediction),
    ("pressure_snapshot_ref", snapshot.get "trace_event_id"),
    ("policy", (prediction.get "policy").orElse treePolicy),
    ("policy_status", (prediction.get "policy_status").orElse treePolicyStatus),
    ("truth_status", .text "runtime_confirmed")]

/-- The prediction of a recorded snapshot, as `derive_shadow` reads it. -/
def predictShadow (policy : TreePolicy) (i : Instance) (snapshot : Value)
    (live : LegacyDecision) (o : Options) : Except Failure Value :=
  match given (policy.predict i snapshot o.context) with
  | .ok prediction => do
      let _ ← prediction.index "kind"
      pure (observedTreeShadow live snapshot prediction)
  | .error (.refused err) => .ok (treeShadowError live err (snapshot.get "trace_event_id"))
  | .error failure => .error failure

def deriveShadow (policy : TreePolicy) (i : Instance) (now : Int) (tick : Value)
    (live : LegacyDecision) (o : Options) : Reply Instance Value :=
  match derivePressure policy i tick o with
  | .error (.refused err) => (.ok (treeShadowError live err .nil), i)
  | .error failure => (.error failure, i)
  | .ok derived =>
    match recordPressureSnapshot i now derived true with
    | (.error (.refused err), j) => (.ok (treeShadowError live err .nil), j)
    | (.error failure, j) => (.error failure, j)
    | (.ok snapshot, j) => (predictShadow policy j snapshot live o, j)

def errorValue : Failure → Value
  | .refused err => err
  | .raised err => err
  | .fault operation => .text operation

/-- `pcall(derive_shadow, ..)`: an error becomes a shadow that names it. -/
def protectedShadow (live : LegacyDecision) (derived : Except Failure Value) : Value :=
  match derived with
  | .ok shadow => shadow
  | .error failure => treeShadowError live (errorValue failure) .nil

def shadowWithoutAuthority (policy : TreePolicy) (i : Instance) (clock : Nat → Int)
    (tick : Value) (live : LegacyDecision) (o : Options) : Reply Instance Value :=
  let derived := deriveShadow policy i (clock 0) tick live o
  let shadow := protectedShadow live derived.1
  match recordShadow derived.2 (clock 1) shadow with
  | (.error (.refused err), k) => (shadow.setField "trace_error" (.str err.tostring), k)
  | reply => reply

/-! ## After a tick -/

def treeMode : Value := .text "tree"

def shadowMode : Value := .text "shadow"

def legacyMode : Value := .text "legacy"

def withShadow (live : Value) (shadow : Reply Instance Value) : Reply Instance Value :=
  shadow.andThen fun table j => (live.setField "shadow" table, j)

/-- `router.after_tick` under tree authority. -/
def afterTreeTick (world : World) (policy : TreePolicy) (i : Instance) (clock : Nat → Int)
    (tick : Value) (o : Options) : Reply Instance Value :=
  (treeAuthority policy i clock tick o).andThen fun live j =>
    if o.legacyShadow = .bool false then (.ok live, j)
    else withShadow live (legacyShadowFromTree world j (clock 2) tick live o)

/-- `router.after_tick` under the historical authority, with or without a shadow. -/
def afterLegacyTick (world : World) (policy : TreePolicy) (i : Instance) (clock : Nat → Int)
    (tick : Value) (o : Options) (observed : Bool) : Reply Instance Value :=
  match legacyAfterTick world i tick .emptyTable with
  | .error failure => (.error failure, i)
  | .ok live =>
    if observed then
      withShadow live.toValue (shadowWithoutAuthority policy i clock tick live o)
    else (.ok live.toValue, i)

def afterTick (world : World) (policy : TreePolicy) (i : Instance) (clock : Nat → Int)
    (tick : Value) (o : Options) : Reply Instance Value :=
  let tick := tick.orElse .emptyTable
  let mode := o.mode.orElse shadowMode
  if mode = treeMode then afterTreeTick world policy i clock tick o
  else if mode = legacyMode then afterLegacyTick world policy i clock tick o false
  else if mode = shadowMode then afterLegacyTick world policy i clock tick o true
  else (.error (refuse "invalid_router_mode"), i)

end Proc17.Runtime.Router
