import Proc17.Lua.Coerce
import Proc17.Core.Packet.Trace

/-!
# The Packet budget

`runtime/budget.lua`: cost validation, the initialisation from the birth limits and
the charge of a tick.
-/

namespace Proc17.Runtime.Budget

open Lua Core

abbrev Axes := List (String × Number)

def axes : List String :=
  ["steps", "substrate_calls", "prompt_tokens", "completion_tokens", "total_tokens",
    "estimated_tokens", "tool_calls", "file_writes", "test_runs", "time_ms", "money_units"]

def discrete (axis : String) : Bool := axis ≠ "time_ms" && axis ≠ "money_units"

def axisOf (key : Value) : Option String := axes.find? fun axis => key = .text axis

def about (subject : String) (axis : Value) : Failure :=
  .refused (.str (utf8 subject ++ axis.tostring))

/-- One entry of `validate_cost`; a zero amount is dropped. -/
def costEntry (key amount : Value) : Except Failure Axes :=
  match axisOf key with
  | none => .error (about "unknown budget cost axis: " key)
  | some axis =>
    match amount with
    | .num n =>
      if n.isFinite = false then .error (about "budget cost must be finite number: " key)
      else if Number.lt n (.int 0) then
        .error (about "budget cost must be non-negative: " key)
      else if discrete axis && !Number.isIntegral n then
        .error (about "budget cost must be integer: " key)
      else if Number.eq n (.int 0) then .ok []
      else .ok [(axis, n)]
    | _ => .error (about "budget cost must be finite number: " key)

def validateCost (cost : Value) : Except Failure Axes :=
  match cost with
  | .table _ entries => do
      let parts ← entries.mapM fun entry => costEntry entry.1 entry.2
      pure parts.flatten
  | _ => .error (refuse "budget charge requires cost table")

def amount (table : Axes) (axis : String) : Option Number := table.lookup axis

def setAmount (table : Axes) (axis : String) (n : Number) : Axes :=
  if (amount table axis).isSome then
    table.map fun entry => if entry.1 = axis then (axis, n) else entry
  else table ++ [(axis, n)]

/-- `copy_numeric_axes` of a Lua table. -/
def numericAxes (source : Value) : Axes :=
  axes.filterMap fun axis =>
    match source.get axis with
    | .num n => some (axis, n)
    | _ => none

/-- `copy_numeric_axes` of a table that holds numbers only. -/
def copyAxes (table : Axes) : Axes :=
  axes.filterMap fun axis => (amount table axis).map fun n => (axis, n)

def ensure (p : Packet) : RuntimeBudget :=
  p.runtimeBudget.getD ⟨[], [], [], false, []⟩

def exhaustedKeys (remaining : Axes) : List String :=
  axes.filter fun axis =>
    match amount remaining axis with
    | some n => Number.le n (.int 0)
    | none => false

def refreshExhaustion (budget : RuntimeBudget) : RuntimeBudget :=
  { budget with
    exhausted := !(exhaustedKeys budget.remaining).isEmpty
    exhaustedKeys := exhaustedKeys budget.remaining }

/-- One limit of `physis.budget` that `budget.init` accepts. -/
def limitEntry (key limit : Value) : Except Failure Unit :=
  match axisOf key with
  | none => .ok ()
  | some axis =>
    match limit with
    | .num n =>
      if n.isFinite = false ∨ Number.lt n (.int 0) = true then
        .error (about "budget limit must be finite number >= 0: " key)
      else if discrete axis && !Number.isIntegral n then
        .error (about "budget limit must be integer: " key)
      else .ok ()
    | _ => .error (about "budget limit must be finite number >= 0: " key)

def initPlan (p : Packet) : Except Failure Axes := do
  p.assertMutable "initialize budget"
  match p.physis.budget.orElse .emptyTable with
  | .table tag entries => do
      entries.forM fun entry => limitEntry entry.1 entry.2
      pure (numericAxes (.table tag entries))
  | _ => .error (.fault "pairs")

def limitAxis (budget : RuntimeBudget) (limit : String × Number) : RuntimeBudget :=
  let spent := (amount budget.spent limit.1).getD (.int 0)
  { budget with
    spent := setAmount budget.spent limit.1 spent
    remaining := setAmount budget.remaining limit.1 (Number.sub limit.2 spent) }

def withBudget (p : Packet) (budget : RuntimeBudget) : Packet :=
  { p with runtimeBudget := some budget }

def init (p : Packet) : Reply Packet Unit :=
  transact (initPlan p)
    (fun limits => (.ok (),
      withBudget p (refreshExhaustion (limits.foldl limitAxis (ensure p))))) p

/-- What `budget.snapshot` reports, `event_count` aside. -/
structure Snapshot where
  spent : Axes
  remaining : Axes
  exhausted : Bool
  exhaustedKeys : List String

def snapshot (p : Packet) : Except Failure Snapshot := do
  let remaining ← remainingOf
  pure ⟨copyAxes ((p.runtimeBudget.map (·.spent)).getD []), copyAxes remaining,
    !(exhaustedKeys remaining).isEmpty, exhaustedKeys remaining⟩
where
  /-- The running amounts, else the limits of the birth. -/
  remainingOf : Except Failure Axes :=
    match p.runtimeBudget with
    | some budget => .ok budget.remaining
    | none =>
      match p.physis.budget.orElse .emptyTable with
      | .table tag entries => .ok (numericAxes (.table tag entries))
      | .str _ => .ok []
      | _ => .error (.fault "index")

structure Charge where
  input : Value
  cost : Axes

def chargePlan (p : Packet) (input : Value) : Except Failure Charge := do
  p.assertMutable "charge budget"
  let input := input.orElse .emptyTable
  let cost ← input.index "cost"
  let charged ← validateCost cost
  pure ⟨input, charged⟩

def chargeAxis (budget : RuntimeBudget) (cost : String × Number) : RuntimeBudget :=
  let spent := Number.add ((amount budget.spent cost.1).getD (.int 0)) cost.2
  { budget with
    spent := setAmount budget.spent cost.1 spent
    remaining :=
      match amount budget.remaining cost.1 with
      | some left => setAmount budget.remaining cost.1 (Number.sub left cost.2)
      | none => budget.remaining }

def chargeRecord (status : String) (charge : Charge) (spent remaining : Axes)
    (exhausted : Bool) (keys : List String) : BudgetRecord where
  status := status
  operator := charge.input.get "operator"
  eventId := charge.input.get "event_id"
  cost := charge.cost
  source := (charge.input.get "source").orElse (.text "body_tick")
  truthStatus := (charge.input.get "truth_status").orElse (.text "runtime_confirmed")
  spentAfter := spent
  remainingAfter := remaining
  exhausted := exhausted
  exhaustedKeys := keys

def charged (budget : RuntimeBudget) (cost : Axes) : RuntimeBudget :=
  refreshExhaustion (cost.foldl chargeAxis budget)

def recordOf (charge : Charge) (budget : RuntimeBudget) : BudgetRecord :=
  chargeRecord "charged" charge (copyAxes budget.spent) (copyAxes budget.remaining)
    budget.exhausted budget.exhaustedKeys

def withCharge (p : Packet) (charge : Charge) : Packet :=
  let budget := charged (ensure p) charge.cost
  { p with
    runtimeBudget := some { budget with events := budget.events ++ [recordOf charge budget] }
    revisions := { p.revisions with budget := p.revisions.budget + 1 } }

def charge (p : Packet) (input : Value) : Reply Packet BudgetRecord :=
  transact (chargePlan p input)
    (fun plan =>
      if plan.cost = [] then
        transact (snapshot p)
          (fun seen => (.ok (chargeRecord "no_op" plan seen.spent seen.remaining seen.exhausted
            seen.exhaustedKeys), p)) p
      else
        (.ok (recordOf plan (charged (ensure p) plan.cost)), withCharge p plan)) p

end Proc17.Runtime.Budget
