import Proc17.Runtime.Router.Pressure

/-!
# The historical policy

`legacy_after_tick` of `runtime/router.lua`: the mandatory eye after four operators,
the rules of OBSERVE and RUNTIME, the start operator at FLOW, and no rule elsewhere.
-/

namespace Proc17.Runtime.Router

open Lua
open Core

def hardNext : Operator → Option Operator
  | .encode => some .observe
  | .choose => some .observe
  | .cycle => some .runtime
  | .logic => some .runtime
  | _ => none

abbrev Choice := Operator × String

def pressed (payload : Value) (name : String) : Except Failure Bool := do
  let v ← payload.index name
  pure (decide (v = .bool true))

def routeObserve (pressure : LegacyPressure) : Except Failure Choice := do
  let ready ← pressed pressure.payload "runtime_ready"
  if ready then return (.runtime, "runtime_ready")
  let choice ← pressed pressure.payload "choice_pressure"
  if choice then return (.choose, "choice_pressure")
  let encoding ← pressed pressure.payload "encoding_pressure"
  if encoding then return (.encode, "encoding_pressure")
  if pressure.lastChoice ≠ .nil then return (.runtime, "choice_observed")
  if pressure.hasCalm ∧ 0 < pressure.progress.neededCount then
    return (.choose, "calm_alternatives")
  return (.encode, "missing_calm")

/-- A warning of `repeated_cycle_warning` tells of a pattern that ended in CYCLE or
RUNTIME and must not be repeated. -/
def warnsOfCycle (warning : Value) : Except Failure Bool := do
  let body ← warning.index "warning"
  let body := body.orElse .emptyTable
  let pattern ← body.index "pattern"
  let ended ← (pattern.orElse .emptyTable).index "last_operator"
  if ended = Topology.value .cycle ∨ ended = Topology.value .runtime then
    let banned ← body.index "do_not_repeat"
    pure (decide (banned ≠ .nil))
  else pure false

def anyWarning : List Value → Except Failure Bool
  | [] => .ok false
  | warning :: rest => do
      let found ← warnsOfCycle warning
      if found then pure true else anyWarning rest

def repeatedCycleWarning (pressure : LegacyPressure) : Except Failure Bool :=
  if pressure.lastCycle.isTable
      ∧ (pressure.lastCycle.get "decision" = .text "again"
        ∨ pressure.lastCycle.get "reason" = .text "remaining_work") then do
    let warnings ← pressure.karma.warnings.ipairs
    anyWarning warnings
  else .ok false

def cycleStops : List String :=
  ["stop_repetition", "stop_budget", "stop_invalid", "stop_unsafe", "needs_user_input"]

def stampCurrent (pressure : LegacyPressure) : Except Failure Bool := do
  let stamped ← fieldOf pressure.logicStamp "evidence_fingerprint"
  pure (decide (pressure.logicStamp.truthy ∧ stamped = .str pressure.evidenceFingerprint))

def routeRemaining (pressure : LegacyPressure) (build : Bool) : Except Failure Choice := do
  if pressure.progress.remaining = [] then return (.manifest, "no_remaining_work")
  let warned ← repeatedCycleWarning pressure
  if warned then return (.manifest, "karma_warning_manifest_pressure")
  if build ∧ pressure.evidenceCount = 0 then
    let current ← stampCurrent pressure
    if current then return (.manifest, "logic_stamp_no_new_evidence")
    return (.logic, "missing_build_evidence")
  return (.cycle, "remaining_work")

def routeRuntime (pressure : LegacyPressure) : Except Failure Choice := do
  let build := decide (pressure.workMode = .text "build")
  let uncertain ← pressed pressure.payload "semantic_uncertainty"
  if uncertain then return (.observe, "semantic_uncertainty")
  if pressure.loss.exhausted ∨ pressure.loss.nearDeath then
    return (.manifest, "loss_manifest_pressure")
  if pressure.budget.exhausted then return (.manifest, "budget_manifest_pressure")
  let validation ← pressed pressure.payload "validation_pressure"
  if validation then return (.logic, "validation_pressure")
  if build ∧ pressure.validationStatus = .text "rejected" then
    return (.observe, "validation_rejected_semantic_repair")
  if build ∧ cycleStops.any fun stop => pressure.cycleDecision = .text stop then
    return (.manifest, "cycle_stop_manifest_pressure")
  let ready ← pressed pressure.payload "manifest_ready"
  if ready then return (.manifest, "manifest_ready")
  routeRemaining pressure build

structure LegacyDecision where
  source : Operator
  target : Operator
  reason : String
  pressure : LegacyPressure

def startOperator (options : Value) : Except Failure (Option Operator) := do
  let start ← options.index "start_operator"
  pure (Topology.resolve (start.orElse (Topology.value .observe)))

def unsupportedRouteSource : Failure := refuse "unsupported_route_source"

/-- The branches of `legacy_after_tick` that choose a target. -/
def legacyChoice (source : Operator) (pressure : LegacyPressure) (options : Value) :
    Except Failure (Option Operator × String) :=
  match source with
  | .flow => do
      let start ← startOperator options
      pure (start, "runner_entry")
  | .observe => (routeObserve pressure).map fun choice => (some choice.1, choice.2)
  | .runtime => (routeRuntime pressure).map fun choice => (some choice.1, choice.2)
  | source =>
    match hardNext source with
    | some target => .ok (some target, "mandatory_eye_tick")
    | none => .error unsupportedRouteSource

def takeRoute (source : Operator) (pressure : LegacyPressure)
    (choice : Option Operator × String) : Except Failure LegacyDecision :=
  match choice.1 with
  | none => .error (refuse "invalid_route")
  | some target => do
      require (Topology.isAdjacent source target = true) (refuse "invalid_route")
      pure ⟨source, target, choice.2, pressure⟩

def legacyAfterTick (world : World) (i : Instance) (tick options : Value) :
    Except Failure LegacyDecision := do
  let operator ← tick.index "operator"
  match Topology.resolve operator with
  | none => .error (refuse "invalid_operator")
  | some source =>
    let pressure ← legacyPressureSnapshot world i tick
    let choice ← legacyChoice source pressure options
    takeRoute source pressure choice

/-! ## Where the policy answers -/

variable (pressure : LegacyPressure)

theorem routeObserve_adjacent :
    OnResult (fun choice => Topology.isAdjacent .observe choice.1 = true)
      (routeObserve pressure) := by
  unfold routeObserve
  refine .bind fun ready => .ite (.pure rfl) (.bind fun choice => .ite (.pure rfl) ?_)
  refine .bind fun encoding => .ite (.pure rfl) (.ite (.pure rfl) ?_)
  exact .ite (.pure rfl) (.pure rfl)

theorem routeRemaining_adjacent (build : Bool) :
    OnResult (fun choice => Topology.isAdjacent .runtime choice.1 = true)
      (routeRemaining pressure build) := by
  unfold routeRemaining
  refine .ite (.pure rfl) (.bind fun warned => .ite (.pure rfl) (.ite ?_ (.pure rfl)))
  exact .bind fun current => .ite (.pure rfl) (.pure rfl)

theorem routeRuntime_adjacent :
    OnResult (fun choice => Topology.isAdjacent .runtime choice.1 = true)
      (routeRuntime pressure) := by
  unfold routeRuntime
  refine .bind fun uncertain => .ite (.pure rfl) (.ite (.pure rfl) (.ite (.pure rfl) ?_))
  refine .bind fun validation => .ite (.pure rfl) (.ite (.pure rfl) (.ite (.pure rfl) ?_))
  exact .bind fun ready => .ite (.pure rfl) (routeRemaining_adjacent pressure _)

theorem thrown_pressed (payload : Value) (name : String) :
    OnError Thrown (pressed payload name) :=
  .bind (thrown_index payload name) fun _ => .ok _

theorem thrown_routeObserve :
    OnError Thrown (routeObserve pressure) := by
  unfold routeObserve
  refine .bind (thrown_pressed _ _) fun ready => .ite (.ok _) ?_
  refine .bind (thrown_pressed _ _) fun choice => .ite (.ok _) ?_
  refine .bind (thrown_pressed _ _) fun encoding => .ite (.ok _) (.ite (.ok _) ?_)
  exact .ite (.ok _) (.ok _)

theorem thrown_repeatedCycleWarning :
    OnError Thrown (repeatedCycleWarning pressure) := by
  have walk : ∀ warnings : List Value, OnError Thrown (anyWarning warnings) := by
    intro warnings
    induction warnings with
    | nil => exact .ok _
    | cons warning rest ih =>
      unfold anyWarning
      refine .bind ?_ fun found => .ite (.ok _) ih
      unfold warnsOfCycle
      refine .bind (thrown_index _ _) fun body => .bind (thrown_index _ _) fun pattern => ?_
      refine .bind (thrown_index _ _) fun ended => .ite ?_ (.ok _)
      exact .bind (thrown_index _ _) fun banned => .ok _
  unfold repeatedCycleWarning
  exact .ite (.bind (thrown_ipairs _) walk) (.ok _)

theorem thrown_routeRemaining (build : Bool) :
    OnError Thrown (routeRemaining pressure build) := by
  unfold routeRemaining
  refine .ite (.ok _) (.bind (thrown_repeatedCycleWarning _) fun warned => .ite (.ok _) ?_)
  refine .ite (.bind ?_ fun current => .ite (.ok _) (.ok _)) (.ok _)
  exact .bind (thrown_fieldOf _ _) fun stamped => .ok _

theorem thrown_routeRuntime :
    OnError Thrown (routeRuntime pressure) := by
  unfold routeRuntime
  refine .bind (thrown_pressed _ _) fun uncertain => .ite (.ok _) ?_
  refine .ite (.ok _) (.ite (.ok _) (.bind (thrown_pressed _ _) fun validation => ?_))
  refine .ite (.ok _) (.ite (.ok _) (.ite (.ok _) ?_))
  exact .bind (thrown_pressed _ _) fun ready => .ite (.ok _) (thrown_routeRemaining _ _)

/-- The rule for an operator can be applied: at FLOW the start operator is a neighbour,
at OBSERVE and RUNTIME the pressure can be read. -/
def Routable (source : Operator) (pressure : LegacyPressure) (options : Value) : Prop :=
  match source with
  | .flow => ∃ target, startOperator options = .ok (some target)
      ∧ Topology.isAdjacent .flow target = true
  | .observe => ∃ choice, routeObserve pressure = .ok choice
  | .runtime => ∃ choice, routeRuntime pressure = .ok choice
  | _ => True

/-- The historical policy can read the position: the tick names an operator, the Packet's
pressure can be read, and the operator's rule can be applied. -/
def LegacyReads (world : World) (i : Instance) (tick options : Value) : Prop :=
  ∃ operator source pressure, tick.index "operator" = .ok operator
    ∧ Topology.resolve operator = some source
    ∧ legacyPressureSnapshot world i tick = .ok pressure ∧ Routable source pressure options

def Answers (answer : Except Failure LegacyDecision) : Prop :=
  (∃ decision, answer = .ok decision) ∨ answer = .error unsupportedRouteSource

theorem answers_of_thrown {α : Type} {answer : Except Failure α}
    {next : α → Except Failure LegacyDecision} (thrown : OnError Thrown answer) :
    Answers (answer >>= next) ↔ ∃ a, answer = .ok a ∧ Answers (next a) := by
  cases answer with
  | ok a =>
    constructor
    · intro answers
      exact ⟨a, rfl, answers⟩
    · rintro ⟨a', same, answers⟩
      cases same
      exact answers
  | error failure =>
    constructor
    · rintro (⟨decision, same⟩ | same)
      · cases same
      · exact absurd (Except.error.inj same) (thrown failure rfl _)
    · rintro ⟨a, same, -⟩
      cases same

theorem takeRoute_answers_iff (source : Operator) (pressure : LegacyPressure)
    (choice : Option Operator × String) :
    Answers (takeRoute source pressure choice) ↔
      ∃ target, choice.1 = some target ∧ Topology.isAdjacent source target = true := by
  obtain ⟨chosen, reason⟩ := choice
  have other : refuse "invalid_route" ≠ unsupportedRouteSource := by
    simp [refuse, unsupportedRouteSource]
  cases chosen with
  | none => simp [Answers, takeRoute, other]
  | some target =>
    by_cases near : Topology.isAdjacent source target = true
    · simp [Answers, takeRoute, require, near]
    · simp [Answers, takeRoute, require, near, other, bind, Except.bind]

theorem rule_answers_iff {source : Operator} {rule : Except Failure Choice}
    (thrown : OnError Thrown rule)
    (near : OnResult (fun choice => Topology.isAdjacent source choice.1 = true) rule)
    (pressure : LegacyPressure) :
    Answers ((rule.map fun choice => (some choice.1, choice.2)) >>= takeRoute source pressure) ↔
      ∃ choice, rule = .ok choice := by
  cases rule with
  | error failure =>
    simp only [reduceCtorEq, exists_false, iff_false]
    rintro (⟨decision, same⟩ | same)
    · cases same
    · exact absurd (Except.error.inj same) (thrown failure rfl _)
  | ok choice =>
    simp only [Except.ok.injEq, exists_eq', iff_true]
    exact (takeRoute_answers_iff source pressure (some choice.1, choice.2)).mpr
      ⟨choice.1, rfl, near choice rfl⟩

theorem legacyChoice_answers_iff (source : Operator) (pressure : LegacyPressure)
    (options : Value) :
    Answers (legacyChoice source pressure options >>= takeRoute source pressure) ↔
      Routable source pressure options := by
  -- an operator with a fixed successor, or with no rule, needs nothing
  have fixed : ∀ target, Topology.isAdjacent source target = true →
      Answers (takeRoute source pressure (some target, "mandatory_eye_tick")) :=
    fun target near => (takeRoute_answers_iff source pressure _).mpr ⟨target, rfl, near⟩
  cases source with
  | flow =>
    unfold legacyChoice
    have thrown : OnError Thrown (startOperator options) :=
      .bind (thrown_index _ _) fun start => .ok _
    cases started : startOperator options with
    | error failure =>
      simp only [Routable, started, reduceCtorEq, false_and, exists_false, iff_false]
      rintro (⟨decision, same⟩ | same)
      · cases same
      · exact absurd (Except.error.inj same) (thrown failure started _)
    | ok start =>
      simp only [Routable, started, Except.ok.injEq]
      exact takeRoute_answers_iff .flow pressure (start, "runner_entry")
  | observe =>
    exact rule_answers_iff (thrown_routeObserve pressure) (routeObserve_adjacent pressure) pressure
  | runtime =>
    exact rule_answers_iff (thrown_routeRuntime pressure) (routeRuntime_adjacent pressure) pressure
  | encode | choose => exact iff_of_true (fixed .observe rfl) trivial
  | cycle | logic => exact iff_of_true (fixed .runtime rfl) trivial
  | connect | dissolve | manifest => exact iff_of_true (.inr rfl) trivial

theorem legacyAfterTick_answers_iff (world : World) (i : Instance) (tick options : Value) :
    Answers (legacyAfterTick world i tick options) ↔ LegacyReads world i tick options := by
  unfold legacyAfterTick LegacyReads
  rw [answers_of_thrown (thrown_index _ _)]
  refine exists_congr fun operator => ?_
  cases resolved : Topology.resolve operator with
  | none =>
    simp only [reduceCtorEq, false_and, and_false, exists_false, iff_false]
    rintro ⟨-, ⟨decision, same⟩ | same⟩
    · cases same
    · cases same
  | some source =>
    simp only [answers_of_thrown (thrown_legacyPressureSnapshot _ _ _), Option.some.injEq,
      exists_and_left, exists_eq_left']
    refine and_congr_right fun _ => exists_congr fun pressure => and_congr_right fun _ => ?_
    exact legacyChoice_answers_iff source pressure options

end Proc17.Runtime.Router
