import Proc17.Runtime.Field.Mutators

/-!
# The runtime camera

The frames of `runtime/camera.lua`: capturing a frame, reading the pending ones and
reconciling them up to a watermark.  Frames and reconciliations live in the trace only; the
index counts them.  What a frame reads of the budget, the loss, the progress and the evidence
is given by functions of the Packet, so that every result holds for each of their behaviours.
-/

namespace Proc17.Runtime.Camera

open Lua Core Runtime.Field

/-- `runtime.camera` of a Packet. -/
structure Index where
  headSeq : Nat
  reconciledThrough : Number
  latestFrameId : Value
  latestReconciliationId : Value

/-- The index `packet.new` makes. -/
def Index.fresh : Index := ⟨0, .int 0, .nil, .nil⟩

structure Filmed where
  living : Living
  index : Index

/-- `budget.snapshot`, `loss.snapshot`, `body.progress` and `freshness.evidence_fingerprint` -/
structure Readings where
  budgetSnapshot : Packet → Except Failure Value
  lossSnapshot : Packet → Except Failure Value
  progress : Packet → Except Failure Value
  evidenceFingerprint : Packet → Except Failure Value

inductive CompletionState where
  | incomplete
  | complete
  | usablePartial
  | blocked

namespace CompletionState

def all : List CompletionState := [.incomplete, .complete, .usablePartial, .blocked]

def name : CompletionState → String
  | .incomplete => "incomplete"
  | .complete => "complete"
  | .usablePartial => "usable_partial"
  | .blocked => "blocked"

end CompletionState

def validRefs (value : Value) (name : String) : Except Failure Unit :=
  if value = .nil then .ok ()
  else do
    require (value.isTable = true) (refuse (name ++ " must be table"))
    let refs ← value.ipairs
    require (∀ ref ∈ refs, ref.isNonEmptyString = true)
      (refuse (name ++ " must contain non-empty strings"))

/-! ## Frames -/

/-- `revision_snapshot`: the revision vector, its components sorted. -/
def revisionSnapshot (r : Revisions) : List (String × Value) :=
  [("budget", .nat r.budget), ("calm", .nat r.calm), ("constraints", .nat r.constraints),
    ("evidence", .nat r.evidence), ("history", .nat r.history), ("loss", .nat r.loss),
    ("momentum", .nat r.momentum), ("potential", .nat r.potential),
    ("relations_active", .nat r.relationsActive), ("relations_raw", .nat r.relationsRaw),
    ("scalars", .nat r.scalars)]

def changeCause (input : Value) (component : String) : String × Value :=
  if component = "budget" then ("body_tick_economics", input.get "budget_event_refs")
  else if component = "loss" then ("operator_identity_loss", input.get "loss_event_refs")
  else ("operator_effect", input.get "source_event_refs")

def changedComponents (before : Value) (after : List (String × Value)) (input : Value) : Value :=
  .array ((after.filter fun entry => !Value.eq (before.get entry.1) entry.2).map fun entry =>
    let (cause, refs) := changeCause input entry.1
    .record [("component", .text entry.1), ("before", before.get entry.1), ("after", entry.2),
      ("cause", .text cause), ("source_event_refs", (refs.orElse .emptyTable).deepCopy)])

def transition (before after : Value) (name : String) : Except Failure Value :=
  if before.isTable = true ∧ before.get name ≠ .bool true then do
    let reached ← after.index name
    pure (.bool (reached = .bool true))
  else .ok (.bool false)

def frameTable (R : Readings) (p : Packet) (seq : Nat) (operator : Operator) (input : Value) :
    Except Failure Value := do
  let after := revisionSnapshot p.revisions
  let budgetAfter ← R.budgetSnapshot p
  let lossAfter ← R.lossSnapshot p
  let progressAfter ← R.progress p
  let before := input.get "revisions_before"
  let budgetExhausted ← transition (input.get "budget_before") budgetAfter "exhausted"
  let nearDeath ← transition (input.get "loss_before") lossAfter "near_death"
  let lossExhausted ← transition (input.get "loss_before") lossAfter "exhausted"
  let fingerprint ← R.evidenceFingerprint p
  pure (.record
    [("kind", .text "runtime_frame"),
      ("seq", .nat seq),
      ("tick", p.physis.ticks.orElse (.nat 0)),
      ("operator", Topology.value operator),
      ("source_event_refs", ((input.get "source_event_refs").orElse .emptyTable).deepCopy),
      ("revisions_before", before.deepCopy),
      ("revisions_after", .record after),
      ("changed_components", changedComponents before after input),
      ("budget", .record
        [("before", ((input.get "budget_before").orElse .emptyTable).deepCopy),
          ("after", budgetAfter), ("exhausted_transition", budgetExhausted)]),
      ("loss", .record
        [("before", ((input.get "loss_before").orElse .emptyTable).deepCopy),
          ("after", lossAfter), ("near_death_transition", nearDeath),
          ("exhausted_transition", lossExhausted)]),
      ("progress", .record
        [("before", ((input.get "progress_before").orElse .emptyTable).deepCopy),
          ("after", progressAfter)]),
      ("evidence_fingerprint", .record
        [("before", input.get "evidence_fingerprint_before"), ("after", fingerprint)]),
      ("effect_refs", ((input.get "effect_refs").orElse .emptyTable).deepCopy),
      ("event_truth_status", .text "runtime_confirmed")])

def cameraEvent (type : EventType) (operator : Operator) (payload : Value) : Value :=
  .record [("type", .text type.name), ("operator", Topology.value operator),
    ("truth_status", .text "runtime_confirmed"), ("payload", payload), ("cost", .emptyTable)]

/-- The checks of `camera.capture`, and the frame it builds. -/
def capturePlan (R : Readings) (p : Packet) (index : Index) (input : Value) :
    Except Failure (Operator × Value) := do
  p.assertMutable "capture runtime frame"
  let input := input.orElse .emptyTable
  let named ← input.index "operator"
  match Topology.resolve (named.orElse (Topology.value p.operator)) with
  | none => .error (refuse "runtime frame requires valid operator")
  | some operator => do
      require (operator = p.operator)
        (refuse "runtime frame operator does not match packet position")
      require ((input.get "revisions_before").isTable = true)
        (refuse "runtime frame requires revisions_before")
      validRefs (input.get "source_event_refs") "runtime frame source_event_refs"
      validRefs (input.get "effect_refs") "runtime frame effect_refs"
      validRefs (input.get "budget_event_refs") "runtime frame budget_event_refs"
      validRefs (input.get "loss_event_refs") "runtime frame loss_event_refs"
      let frame ← frameTable R p (index.headSeq + 1) operator input
      pure (operator, frame)

abbrev Shot := Value × Option Event

def record (f : Filmed) (now : Int) (type : EventType) (operator : Operator) (payload : Value)
    (advance : Event → Index) : Reply Filmed Shot :=
  match f.living.packet.appendTrace now (cameraEvent type operator payload) with
  | (.error failure, q) => (.error failure, { f with living := { f.living with packet := q } })
  | (.ok event, q) =>
    ((payload.setField "trace_event_id" event.id).map fun shown => (shown, some event),
      { living := { f.living with packet := q }, index := advance event })

def capture (R : Readings) (now : Int) (f : Filmed) (input : Value) : Reply Filmed Shot :=
  transact (capturePlan R f.living.packet f.index input)
    (fun plan => record f now .runtimeFrame plan.1 plan.2 fun event =>
      { f.index with headSeq := f.index.headSeq + 1, latestFrameId := event.id }) f

/-! ## Pending frames -/

def frameOf (event : Event) : Except Failure Value :=
  (event.payload.orElse .emptyTable).deepCopy.setField "trace_event_id" event.id

def frameFromEvent (event : Event) : Except Failure (Option Value) :=
  if event.type = .runtimeFrame then (frameOf event).map some else .ok none

/-- The loop of `camera.pending` over the rest of the trace. -/
def collect (after through limit : Number) : List Event → List Value →
    Except Failure (List Value)
  | [], frames => .ok frames
  | event :: rest, frames => do
      match ← frameFromEvent event with
      | none => collect after through limit rest frames
      | some frame => do
          let seq := frame.get "seq"
          let late ← Value.less (.num after) seq
          let selected ← if late then Value.atMost seq (.num through) else .ok false
          if selected then
            let frames := frames ++ [frame]
            if Number.le limit (.int frames.length) then .ok frames
            else collect after through limit rest frames
          else collect after through limit rest frames

/-- The guard `type(value) == "number"`. -/
def numberOr (failure : Failure) : Value → Except Failure Number
  | .num n => .ok n
  | _ => .error failure

/-- The bounds of `camera.pending`, checked, and the frames between them. -/
def window (f : Filmed) (after through limit : Value) : Except Failure (List Value) := do
  let after ← numberOr (refuse "invalid runtime frame lower bound") after
  require (Number.lt after (.int 0) = false) (refuse "invalid runtime frame lower bound")
  let through ← numberOr (refuse "invalid runtime frame upper bound") through
  require (Number.lt through after = false) (refuse "invalid runtime frame upper bound")
  let limit ← numberOr (refuse "invalid runtime frame limit") limit
  require (Number.lt limit (.int 1) = false) (refuse "invalid runtime frame limit")
  collect after through limit f.living.packet.trace []

def pending (f : Filmed) (options : Value) : Except Failure (List Value) := do
  let options := options.orElse .emptyTable
  let after ← options.index "after_seq"
  window f (if after = .nil then .num f.index.reconciledThrough else after)
    ((options.get "through_seq").orElse (.nat f.index.headSeq))
    ((options.get "limit").orElse (.num (.inf false)))

/-! ## Reconciliation -/

def nothingToReconcile (index : Index) (state : CompletionState) : Value :=
  .record [("kind", .text "runtime_reconciliation"), ("status", .text "nothing_to_reconcile"),
    ("from_seq", .num (Number.add index.reconciledThrough (.int 1))),
    ("through_seq", .num index.reconciledThrough), ("frame_refs", .emptyTable),
    ("resolved_refs", .emptyTable), ("unresolved_refs", .emptyTable),
    ("completion_state", .text state.name), ("event_truth_status", .text "runtime_confirmed")]

def reconciliationTable (index : Index) (through : Number) (frames : List Value) (input : Value)
    (state : CompletionState) : Value :=
  .record [("kind", .text "runtime_reconciliation"), ("status", .text "reconciled"),
    ("from_seq", .num (Number.add index.reconciledThrough (.int 1))),
    ("through_seq", .num through),
    ("frame_refs", .array (frames.map fun frame => frame.get "trace_event_id")),
    ("resolved_refs", ((input.get "resolved_refs").orElse .emptyTable).deepCopy),
    ("unresolved_refs", ((input.get "unresolved_refs").orElse .emptyTable).deepCopy),
    ("momentum_updates", ((input.get "momentum_updates").orElse .emptyTable).deepCopy),
    ("foundation_updates", ((input.get "foundation_updates").orElse .emptyTable).deepCopy),
    ("completion_state", .text state.name), ("event_truth_status", .text "runtime_confirmed")]

structure ReconcilePlan where
  through : Number
  frames : List Value
  input : Value
  state : CompletionState

/-- The checks of `camera.reconcile`, and the frames below the watermark asked for. -/
def reconcilePlan (f : Filmed) (input : Value) : Except Failure ReconcilePlan := do
  let p := f.living.packet
  p.assertMutable "reconcile runtime frames"
  require (p.operator = .runtime) (refuse "runtime reconciliation requires RUNTIME operator")
  let input := input.orElse .emptyTable
  let resolved ← input.index "resolved_refs"
  validRefs resolved "runtime reconciliation resolved_refs"
  validRefs (input.get "unresolved_refs") "runtime reconciliation unresolved_refs"
  match Value.parse CompletionState.all CompletionState.name
      ((input.get "completion_state").orElse (.text "incomplete")) with
  | none => .error (refuse "invalid runtime reconciliation completion state")
  | some state => do
      let through ← numberOr (refuse "invalid runtime reconciliation watermark")
        ((input.get "through_seq").orElse (.nat f.index.headSeq))
      require (Number.lt through f.index.reconciledThrough = false
          ∧ Number.lt (.int f.index.headSeq) through = false)
        (refuse "invalid runtime reconciliation watermark")
      let frames ← pending f (.record [("after_seq", .num f.index.reconciledThrough),
        ("through_seq", .num through)])
      pure ⟨through, frames, input, state⟩

def reconcile (now : Int) (f : Filmed) (input : Value) : Reply Filmed Shot :=
  transact (reconcilePlan f input)
    (fun plan =>
      if plan.frames = [] then (.ok (nothingToReconcile f.index plan.state, none), f)
      else
        record f now .runtimeReconciliation .runtime
          (reconciliationTable f.index plan.through plan.frames plan.input plan.state)
          fun event =>
            { f.index with
              reconciledThrough := plan.through
              latestReconciliationId := event.id }) f

/-! ## Filmed lives -/

inductive Take where
  | capture (now : Int) (input : Value)
  | reconcile (now : Int) (input : Value)
  | deed (deed : Deed)

def Take.run (R : Readings) (S : Schemas) (f : Filmed) : Take → Reply Filmed Unit
  | .capture now input => (Camera.capture R now f input).map fun _ => ()
  | .reconcile now input => (Camera.reconcile now f input).map fun _ => ()
  | .deed d =>
    let reply := (lifeMachine S).step f.living d
    (reply.1, { f with living := reply.2 })

def machine (R : Readings) (S : Schemas) : Machine Filmed Take Unit := ⟨Take.run R S⟩

end Proc17.Runtime.Camera
