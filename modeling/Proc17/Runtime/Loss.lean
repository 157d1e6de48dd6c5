import Proc17.Lua.Coerce
import Proc17.Core.Packet.Trace

/-!
# The Packet loss

`runtime/loss.lua`.  The loss lives in the tension table, which `measure_tension`
can overwrite with any values: an operation that Lua then rejects leaves the writes
before it in place.
-/

namespace Proc17.Runtime.Loss

open Lua Core

abbrev Tension := List (Value × Value)

def read (tension : Tension) (name : String) : Value := Value.lookup tension (.text name)

def write (tension : Tension) (name : String) (value : Value) : Tension :=
  Value.assign tension (.text name) value

/-- The literal `1.0`. -/
def wholeLoss : Value := .num (.float 1)

/-- The literal `0.2`, the double nearest to it. -/
def nearDeathAt : Value := .num (.float (Dyadic.ofIntWithPrec 3602879701896397 54))

/-- `v.name`, read only when nothing stands before it. -/
def orField (first : Value) (v : Value) (name : String) : Except Failure Value :=
  if first.truthy then .ok first else v.index name

def budgetLoss (p : Packet) : Except Failure Value :=
  if p.physis.budget.truthy then p.physis.budget.index "loss" else .ok p.physis.budget

def ensure (p : Packet) (options : Value) : Except Failure Tension := do
  let options := options.orElse .emptyTable
  let budgetLoss ← budgetLoss p
  let lossMax ← orField (read p.tension "loss_max") options "max_loss"
  let nearDeath ← orField (read p.tension "loss_near_death_at") options "near_death_at"
  let t := write p.tension "loss_max" ((lossMax.orElse budgetLoss).orElse wholeLoss)
  let t := write t "loss_near_death_at" (nearDeath.orElse nearDeathAt)
  let t := write t "loss" ((read t "loss").orElse (.nat 0))
  let t := write t "loss_remaining" ((read t "loss_remaining").orElse (read t "loss_max"))
  let t := write t "loss_near_death" (.bool (read t "loss_near_death" = .bool true))
  let t := write t "loss_exhausted" (.bool (read t "loss_exhausted" = .bool true))
  pure (write t "loss_events" ((read t "loss_events").orElse .emptyTable))

def writeResult (tension : Tension) (name : String) (value : Except Failure Value) :
    Reply Tension Unit :=
  transact value (fun v => (.ok (), write tension name v)) tension

def refresh (tension : Tension) : Reply Tension Unit :=
  let remaining := Value.arith Number.sub ((read tension "loss_max").orElse wholeLoss)
    ((read tension "loss").orElse (.nat 0))
  Reply.andThen (writeResult tension "loss_remaining" (remaining.map .num)) fun _ t =>
    let near := Value.atMost (read t "loss_remaining")
      ((read t "loss_near_death_at").orElse nearDeathAt)
    Reply.andThen (writeResult t "loss_near_death" (near.map .bool)) fun _ t =>
      writeResult t "loss_exhausted"
        ((Value.atMost (read t "loss_remaining") (.nat 0)).map .bool)

def onTension {α : Type} (p : Packet) (reply : Reply Tension α) : Reply Packet α :=
  (reply.1, { p with tension := reply.2 })

def initPlan (p : Packet) (options : Value) : Except Failure Tension := do
  p.assertMutable "initialize loss"
  ensure p options

def init (p : Packet) (options : Value) : Reply Packet Unit :=
  transact (initPlan p options) (fun tension => onTension p (refresh tension)) p

structure Application where
  input : Value
  amount : Number
  tension : Tension

def applyPlan (p : Packet) (input : Value) : Except Failure Application := do
  p.assertMutable "apply loss"
  let input := input.orElse .emptyTable
  let given ← input.index "amount"
  match given with
  | .num n => do
      require (n.isFinite = true) (refuse "loss amount must be finite number")
      require (Number.lt n (.int 0) = false) (refuse "loss amount must be non-negative")
      let tension ← ensure p .nil
      pure ⟨input, n, tension⟩
  | _ => .error (refuse "loss amount must be finite number")

/-- `clamp(amount, 0, max)` of a number that is not negative. -/
def clamp (n : Number) (most : Value) : Except Failure Value := do
  let above ← Value.less most (.num n)
  pure (if above then most else .num n)

def lossRecord (input amount : Value) (tension : Tension) : Value :=
  .record [("kind", .text "loss_accumulation"), ("operator", input.get "operator"),
    ("event_id", input.get "event_id"), ("amount", amount), ("loss_kind", input.get "kind"),
    ("source", (input.get "source").orElse (.text "manual")),
    ("detail", ((input.get "detail").orElse .emptyTable).deepCopy),
    ("loss_after", read tension "loss"),
    ("loss_remaining_after", read tension "loss_remaining"),
    ("near_death", read tension "loss_near_death"),
    ("exhausted", read tension "loss_exhausted"),
    ("truth_status", (input.get "truth_status").orElse (.text "runtime_confirmed"))]

/-- `events[#events + 1] = record` -/
def appendEvent (events record : Value) : Except Failure Value :=
  match events with
  | .table tag entries => do
      let count ← events.length
      pure (.table tag (Value.assign entries (.nat (count + 1)) record))
  | .str _ => .error (.fault "newindex")
  | _ => .error (.fault "length")

def accumulate (application : Application) : Reply Tension Value :=
  transact (clamp application.amount ((read application.tension "loss_max").orElse wholeLoss))
    (fun amount =>
      let sum := Value.arith Number.add ((read application.tension "loss").orElse (.nat 0)) amount
      Reply.andThen (writeResult application.tension "loss" (sum.map .num)) fun _ t =>
        Reply.andThen (refresh t) fun _ t => (.ok amount, t))
    application.tension

def countLoss (p : Packet) : Packet :=
  { p with revisions := { p.revisions with loss := p.revisions.loss + 1 } }

def apply (p : Packet) (input : Value) : Reply Packet Value :=
  transact (applyPlan p input)
    (fun application =>
      Reply.andThen (onTension p (accumulate application)) fun amount q =>
        let record := lossRecord application.input amount q.tension
        let stored := appendEvent (read q.tension "loss_events") record
        Reply.andThen
          (onTension (countLoss q) (writeResult q.tension "loss_events" stored)) fun _ r =>
            (.ok record.deepCopy, r)) p

end Proc17.Runtime.Loss
