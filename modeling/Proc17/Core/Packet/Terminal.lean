import Proc17.Core.Packet.Writers

/-!
# The end of a life

`begin_terminal`, `freeze`, `manifest_packet` and `die` of `core/packet.lua`.  The
last two write several times; an append that raises in between leaves the
earlier writes in place.
-/

namespace Proc17.Core

open Lua

/-- The value `packet.freeze` gives back. -/
structure Corpse where
  packetId : Value
  lineageId : Value
  generation : Number
  terminal : Terminal
  death : Death
  residue : Value
  flowMark : Value

namespace Packet

/-! ## Snapshots -/

def costTable (axes : List (String × Number)) : Value :=
  .record (axes.map fun axis => (axis.1, .num axis.2))

def budgetSnapshot (p : Packet) : Value :=
  match p.runtimeBudget with
  | none =>
    .record [("spent", .emptyTable), ("remaining", .emptyTable), ("exhausted", .bool false),
      ("exhausted_keys", .emptyTable)]
  | some budget =>
    .record [("spent", costTable budget.spent), ("remaining", costTable budget.remaining),
      ("exhausted", .bool budget.exhausted),
      ("exhausted_keys", .array (budget.exhaustedKeys.map .text))]

def tensionField (p : Packet) (name : String) : Value := Value.lookup p.tension (.text name)

/-- `loss_snapshot`: `measure_tension` can leave a `loss_events` that has no
length. -/
def lossSnapshot (p : Packet) : Except Failure Value := do
  let count ← ((p.tensionField "loss_events").orElse .emptyTable).length
  pure (.record [("loss", (p.tensionField "loss").orElse (.nat 0)),
    ("loss_max", p.tensionField "loss_max"),
    ("loss_remaining", p.tensionField "loss_remaining"),
    ("near_death", .bool (p.tensionField "loss_near_death" = .bool true)),
    ("exhausted", .bool (p.tensionField "loss_exhausted" = .bool true)),
    ("event_count", .nat count)])

def lossSnapshotOr (p : Packet) (given : Value) : Except Failure Value :=
  if given.truthy then .ok given else p.lossSnapshot

/-! ## The terminal record -/

def residueRef (p : Packet) : Value :=
  .str (utf8 "packet:" ++ p.id.tostring ++ utf8 ":residue")

def normalizeTerminal (p : Packet) (input : Value) : Except Failure Terminal := do
  let input := input.orElse .emptyTable
  let declaredKind ← input.index "kind"
  match Value.parse TerminalKind.all TerminalKind.name declaredKind with
  | none => .error (refuse "invalid terminal kind")
  | some kind =>
    match DeathCause.parse (input.get "cause") with
    | none => .error (refuse "invalid death cause")
    | some cause => do
        require (Topology.resolve ((input.get "operator").orElse (Topology.value p.operator))
            = some p.operator)
          (refuse "terminal operator does not match packet position")
        require (kind = .internalDeath ∨ p.operator = .manifest)
          (refuse "manifest terminal requires manifest operator")
        let loss ← p.lossSnapshotOr (input.get "loss_snapshot")
        pure
          { kind := kind
            cause := cause
            operator := p.operator
            manifestRef := input.get "manifest_ref"
            residueRef := input.get "residue_ref"
            lossSnapshot := loss
            budgetSnapshot := (input.get "budget_snapshot").orElse p.budgetSnapshot
            traceTailRef := input.get "trace_tail_ref"
            eventId := .nil }

def terminalPayload (terminal : Terminal) : Value :=
  .record [("kind", .text terminal.kind.name), ("cause", .text terminal.cause.name),
    ("operator", Topology.value terminal.operator), ("manifest_ref", terminal.manifestRef),
    ("residue_ref", terminal.residueRef), ("loss_snapshot", terminal.lossSnapshot),
    ("budget_snapshot", terminal.budgetSnapshot), ("trace_tail_ref", terminal.traceTailRef),
    ("truth_status", .text "runtime_confirmed")]

def terminalDraft (terminal : Terminal) : Draft :=
  .own .terminal (Topology.value terminal.operator) (.text "runtime_confirmed")
    (terminalPayload terminal) .emptyTable

def storeTerminal (terminal : Terminal) (event : Event) (p : Packet) : Packet :=
  { p with
    terminal := some
      { terminal with
        traceTailRef := terminal.traceTailRef.orElse event.id
        eventId := event.id }
    status := .dying }

def appendTerminal (p : Packet) (now : Int) (terminal : Terminal) : Reply Packet Event :=
  p.emitThen now (terminalDraft terminal) (storeTerminal terminal)

def terminalPlan (p : Packet) (input : Value) : Except Failure Terminal := do
  p.assertMutable "begin terminal"
  p.normalizeTerminal input

def beginTerminal (p : Packet) (now : Int) (input : Value) : Reply Packet Event :=
  transact (p.terminalPlan input) (p.appendTerminal now) p

/-! ## Freezing -/

def freezePlan (p : Packet) (cause : Value) : Except Failure Terminal :=
  if p.status = .dead then .error (refuse "dead packet cannot freeze")
  else if p.status ≠ .dying then .error (refuse "packet terminal has not begun")
  else
    match p.terminal with
    | none => .error (refuse "packet terminal has not begun")
    | some terminal =>
      if cause = .text terminal.cause.name then .ok terminal
      else .error (refuse "freeze cause does not match terminal")

def closedTerminal (p : Packet) (terminal : Terminal) : Terminal :=
  { terminal with residueRef := terminal.residueRef.orElse p.residueRef }

def deathOf (terminal : Terminal) (now : Int) : Death where
  cause := terminal.cause
  time := now
  terminalKind := terminal.kind
  terminalEventId := terminal.eventId

def causeTable (cause : DeathCause) : Value := .record [("cause", .text cause.name)]

def frozen (p : Packet) (terminal : Terminal) (now : Int) (residue : Value) : Packet :=
  { p with
    death := some (deathOf terminal now)
    residue := (residue.orElse (causeTable terminal.cause)).deepCopy
    terminal := some (p.closedTerminal terminal)
    status := .dead }

def copyTerminal (terminal : Terminal) : Terminal :=
  { terminal with
    manifestRef := terminal.manifestRef.deepCopy
    residueRef := terminal.residueRef.deepCopy
    lossSnapshot := terminal.lossSnapshot.deepCopy
    budgetSnapshot := terminal.budgetSnapshot.deepCopy
    traceTailRef := terminal.traceTailRef.deepCopy
    eventId := terminal.eventId.deepCopy }

def corpseOf (p : Packet) (terminal : Terminal) (death : Death) : Corpse where
  packetId := p.id.deepCopy
  lineageId := p.lineageId.deepCopy
  generation := p.generation
  terminal := copyTerminal terminal
  death := { death with terminalEventId := death.terminalEventId.deepCopy }
  residue := p.residue
  flowMark := p.ingress.flowMark

def freeze (p : Packet) (now : Int) (cause residue : Value) : Reply Packet Corpse :=
  transact (p.freezePlan cause)
    (fun terminal =>
      let q := p.frozen terminal now residue
      (.ok (q.corpseOf (p.closedTerminal terminal) (deathOf terminal now)), q)) p

/-! ## Manifesting and dying -/

structure ManifestPlan where
  cause : DeathCause
  truthStatus : TruthStatus
  payload : Value
  residue : Value

def manifestTypeOr (declared output : Value) : Except Failure Value :=
  if declared.truthy then .ok declared
  else if output.truthy then output.index "type"
  else .ok output

def manifestResidue (cause : DeathCause) (payload residue : Value) : Except Failure Value := do
  let given := ((residue.orElse (payload.get "residue")).orElse .emptyTable).deepCopy
  require (given.isTable = true) (refuse "manifest residue must be table")
  require (given.get "cause" = .nil ∨ given.get "cause" = .text cause.name)
    (refuse "manifest residue cause does not match terminal")
  let caused ← given.setField "cause" (.text cause.name)
  let manifestType ← manifestTypeOr (given.get "manifest_type") (payload.get "output")
  caused.setField "manifest_type" manifestType

def manifestPlan (p : Packet) (payload residue : Value) : Except Failure ManifestPlan := do
  p.assertMutable "manifest"
  let payload := payload.orElse .emptyTable
  require (p.operator = .manifest) (refuse "manifest requires manifest operator")
  let declared ← payload.index "terminal_cause"
  match DeathCause.parse (declared.orElse (.text "complete")) with
  | none => .error (refuse "invalid death cause")
  | some cause =>
    match TruthStatus.parse
        ((payload.get "truth_status").orElse (.text "runtime_confirmed")) with
    | none => .error (refuse "invalid truth status")
    | some truthStatus => do
        let completed ← manifestResidue cause payload residue
        pure ⟨cause, truthStatus, payload.deepCopy, completed⟩

def manifestDraft (plan : ManifestPlan) : Draft :=
  .own .manifest (Topology.value .manifest) (.text plan.truthStatus.name) plan.payload
    .emptyTable

def manifestTerminalInput (p : Packet) (plan : ManifestPlan) (event : Event) : Value :=
  .record [("kind", .text "manifest"), ("cause", .text plan.cause.name),
    ("operator", Topology.value .manifest), ("manifest_ref", event.id),
    ("residue_ref", p.residueRef)]

def withManifest (p : Packet) (payload : Value) : Packet := { p with manifest := payload }

/-- The end of `manifest_packet` and `die`: freeze once the terminal event stands. -/
def closeWith (event : Event) (now : Int) (cause : DeathCause) (residue : Value)
    (ended : Reply Packet Event) : Reply Packet (Event × Event) :=
  Reply.andThen ended fun terminalEvent q =>
    Reply.andThen (q.freeze now (.text cause.name) residue) fun _ r =>
      (.ok (event, terminalEvent), r)

/-- `packet.manifest_packet`; the three clock readings are those of its two
events and of the freeze. -/
def manifestPacket (p : Packet) (clock : Nat → Int) (payload residue : Value) :
    Reply Packet (Event × Event) :=
  transact (p.manifestPlan payload residue)
    (fun plan =>
      Reply.andThen ((p.withManifest plan.payload).emit (clock 0) (manifestDraft plan))
        fun event q => closeWith event (clock 2) plan.cause plan.residue
          (q.beginTerminal (clock 1) (q.manifestTerminalInput plan event))) p

structure DeathPlan where
  cause : DeathCause
  terminal : Terminal
  residue : Value

def deathTerminalInput (p : Packet) (cause : Value) : Value :=
  .record [("kind", .text "internal_death"), ("cause", cause),
    ("operator", Topology.value p.operator), ("residue_ref", p.residueRef)]

def deathPlan (p : Packet) (cause residue : Value) : Except Failure DeathPlan := do
  p.assertMutable "die"
  match DeathCause.parse cause with
  | none => .error (refuse "invalid death cause")
  | some named => do
      let terminal ← p.normalizeTerminal (p.deathTerminalInput cause)
      pure ⟨named, terminal, (residue.orElse (causeTable named)).deepCopy⟩

def deathDraft (p : Packet) (plan : DeathPlan) : Draft :=
  .own .death (Topology.value p.operator) (.text "runtime_confirmed")
    (.record [("cause", .text plan.cause.name), ("residue", plan.residue)]) .emptyTable

def die (p : Packet) (clock : Nat → Int) (cause residue : Value) :
    Reply Packet (Event × Event) :=
  transact (p.deathPlan cause residue)
    (fun plan =>
      Reply.andThen (p.emit (clock 0) (p.deathDraft plan)) fun event q =>
        closeWith event (clock 2) plan.cause plan.residue
          (q.appendTerminal (clock 1) plan.terminal)) p

end Packet

end Proc17.Core
