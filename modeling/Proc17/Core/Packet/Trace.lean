import Proc17.Lua.Call
import Proc17.Core.Packet.State

/-!
# The Packet trace

Event identity lanes, fresh event ids, the local `append_trace` of
`core/packet.lua`, visit leases and the guards that every writer shares.
-/

namespace Proc17.Core

open Lua

theorem EventType.mem_all (type : EventType) : type ∈ EventType.all := by
  cases type <;> decide

theorem EventType.name_injective (a b : EventType) (same : a.name = b.name) : a = b := by
  have index : ∀ t : EventType, EventType.all.find? (fun u => u.name = t.name) = some t := by
    intro t
    cases t <;> decide
  have left := index a
  rw [same, index b] at left
  exact (Option.some.inj left).symm

@[simp] theorem EventType.parse_name (type : EventType) :
    EventType.parse (.text type.name) = some type :=
  Value.parse_text EventType.name_injective type type.mem_all

theorem TruthStatus.name_injective (a b : TruthStatus) (same : a.name = b.name) : a = b := by
  cases a <;> cases b <;> first | rfl | (simp [TruthStatus.name] at same)

@[simp] theorem TruthStatus.parse_name (status : TruthStatus) :
    TruthStatus.parse (.text status.name) = some status :=
  Value.parse_text TruthStatus.name_injective status (by cases status <;> decide)

/-- An event as it is handed to the local `append_trace`. -/
structure Draft where
  id : Value
  identityLane : Value
  type : Value
  operator : Value
  truthStatus : Value
  payload : Value
  cost : Value
  time : Value

def Draft.ofTable (event : Value) : Draft where
  id := event.get "id"
  identityLane := event.get "identity_lane"
  type := event.get "type"
  operator := event.get "operator"
  truthStatus := event.get "truth_status"
  payload := event.get "payload"
  cost := event.get "cost"
  time := event.get "time"

/-- An event the Packet writes itself: no id, lane or time of its own. -/
def Draft.own (type : EventType) (operator truthStatus payload cost : Value) : Draft where
  id := .nil
  identityLane := .nil
  type := .text type.name
  operator := operator
  truthStatus := truthStatus
  payload := payload
  cost := cost
  time := .nil

namespace Trace

/-! ## Identity lanes -/

def observerKind (kind : Value) : Bool :=
  kind = .text "shadow_route_decision" || kind = .text "edge_pressure_snapshot"
    || kind = .text "qualified_pressure_snapshot"

def observerEvidence (type : EventType) (payload : Value) : Bool :=
  type = .tensionMeasure && payload.isTable && observerKind (payload.get "kind")

def identityLane (draft : Draft) (type : EventType) : Except Failure Lane :=
  let lane := draft.identityLane.orElse (.text "body")
  if lane = .text "body" then .ok .body
  else if lane = .text "observer_instrumentation" then
    if observerEvidence type draft.payload then .ok .observerInstrumentation
    else .error (raise "observer trace identity lane requires observer evidence")
  else .error (raise "invalid trace identity lane")

def lanePrefix : Lane → Bytes
  | .body => utf8 "event-"
  | .observerInstrumentation => utf8 "observer-event-"

/-- The digits after a lane's prefix, when only decimal digits follow it. -/
def digits (lane : Lane) (id : Value) : Option Bytes :=
  match id with
  | .str s =>
    let suffix := s.drop (lanePrefix lane).length
    if (lanePrefix lane).isPrefixOf s && !suffix.isEmpty && suffix.all Number.isDigit then
      some suffix
    else none
  | _ => none

def ordinal (lane : Lane) (id : Value) : Option Number :=
  (digits lane id).map Number.ofDecimal

def higher (lane : Lane) (highest : Number) (id : Value) : Number :=
  match ordinal lane id with
  | some n => if Number.lt highest n then n else highest
  | none => highest

def highest (lane : Lane) (ids : List Value) : Number := ids.foldl (higher lane) (.int 0)

def nextId (lane : Lane) (ids : List Value) : Value :=
  .str (lanePrefix lane ++ utf8 (Number.add (highest lane ids) (.int 1)).tostring)

def nextTraceId (trace : List Event) (lane : Lane) : Value := nextId lane (trace.map Event.id)

/-- `stored_trace_identity_lane`: the tag, or an untagged event from before the
tag was stored. -/
def storedLane (event : Event) : Lane :=
  if event.observer then .observerInstrumentation
  else if (ordinal .observerInstrumentation event.id).isSome
      && observerEvidence event.type event.payload then .observerInstrumentation
  else .body

/-- The last `count` body events, collected from the end of the trace. -/
def collectTail (count : Number) : List Event → List Event → List Event
  | [], found => found
  | event :: earlier, found =>
    if storedLane event = .body then
      if Number.eq (.int (found.length + 1)) count then event :: found
      else collectTail count earlier (event :: found)
    else collectTail count earlier found

def bodyTraceTail (source : List Event) (count : Value) : Except Failure (List Event) :=
  match count with
  | .num n =>
    if Number.lt n (.int 0) || !Number.isIntegral n then
      .error (refuse "trace tail count must be integer >= 0")
    else if Number.eq n (.int 0) then .ok []
    else .ok (collectTail n source.reverse [])
  | _ => .error (refuse "trace tail count must be integer >= 0")

/-! ## Looking events up -/

def eventById (trace : List Event) (id : Value) : Option Event :=
  trace.find? fun event => Value.eq event.id id

def eventWithIndex (trace : List Event) (id : Value) : Option (Event × Nat) :=
  trace.zipIdx.find? fun entry => Value.eq entry.1.id id

inductive LeaseKind where
  | operatorTick
  | birth
  deriving DecidableEq

structure Lease where
  event : Event
  index : Nat
  kind : LeaseKind

/-- The scan of `current_visit_lease` over a trace read backwards. -/
def leaseFrom (actor : Operator) : List Event → Option Lease
  | [] => none
  | event :: earlier =>
    if event.type = .operatorTick then
      if event.operator = actor then some ⟨event, earlier.length, .operatorTick⟩ else none
    else if event.type = .route then none
    else if event.type = .birth ∧ actor = .flow then some ⟨event, earlier.length, .birth⟩
    else leaseFrom actor earlier

def currentVisitLease (trace : List Event) (actor : Operator) : Option Lease :=
  leaseFrom actor trace.reverse

end Trace

namespace Packet

/-! ## Appending -/

def validateEvent (draft : Draft) : Except Failure (EventType × Operator × TruthStatus) :=
  match EventType.parse draft.type with
  | none => .error (raise "invalid event type")
  | some type =>
    match Topology.resolve draft.operator with
    | none => .error (raise "invalid event operator")
    | some operator =>
      match TruthStatus.parse draft.truthStatus with
      | none => .error (raise "invalid truth status")
      | some truthStatus => .ok (type, operator, truthStatus)

def costAxis (cost : Value) (axis : String) : Except Failure Value :=
  if cost.truthy then do
    let amount ← cost.index axis
    pure (amount.orElse (.nat 0))
  else .ok (.nat 0)

def normalizeCost (cost : Value) : Except Failure Cost := do
  let steps ← costAxis cost "steps"
  let substrateCalls ← costAxis cost "substrate_calls"
  let toolCalls ← costAxis cost "tool_calls"
  let fileWrites ← costAxis cost "file_writes"
  let testRuns ← costAxis cost "test_runs"
  let loss ← costAxis cost "loss"
  pure ⟨steps, substrateCalls, toolCalls, fileWrites, testRuns, loss⟩

/-- The stored form of a draft, or the error that the local `append_trace`
raises before it touches the trace. -/
def storedEvent (p : Packet) (now : Int) (draft : Draft) : Except Failure Event := do
  let (type, operator, truthStatus) ← validateEvent draft
  let lane ← Trace.identityLane draft type
  let id := draft.id.orElse (Trace.nextTraceId p.trace lane)
  require (∀ event ∈ p.trace, Value.eq event.id id = false)
    (raise "duplicate Packet trace event id")
  let cost ← normalizeCost draft.cost
  pure
    { id := id
      packetId := p.id
      lineageId := p.lineageId
      generation := p.generation
      tick := p.physis.ticks.orElse (.nat 0)
      type := type
      operator := operator
      payload := (draft.payload.orElse .emptyTable).deepCopy
      truthStatus := truthStatus
      cost := cost
      time := draft.time.orElse (.num (.int now))
      observer := lane = .observerInstrumentation }

def push (p : Packet) (event : Event) : Packet := { p with trace := p.trace ++ [event] }

/-- The local `append_trace`, followed by the writer's own assignments. -/
def emitThen (p : Packet) (now : Int) (draft : Draft) (write : Event → Packet → Packet) :
    Reply Packet Event :=
  match p.storedEvent now draft with
  | .error failure => (.error failure, p)
  | .ok event => (.ok event, write event (p.push event))

/-- The local `append_trace`. -/
def emit (p : Packet) (now : Int) (draft : Draft) : Reply Packet Event :=
  p.emitThen now draft fun _ q => q

/-! ## Guards -/

def assertMutable (p : Packet) (operation : String) : Except Failure Unit :=
  if p.status = .dead then .error (refuse ("dead packet cannot " ++ operation))
  else if p.status = .dying ∨ p.status = .manifested ∨ p.terminal ≠ none then
    .error (refuse ("terminal packet cannot " ++ operation))
  else .ok ()

def assertActorTick (p : Packet) (actor : Value) (operation : String) :
    Except Failure Trace.Lease := do
  p.assertMutable operation
  match Topology.resolve actor with
  | none => .error (refuse "invalid mutation actor")
  | some resolved =>
    require (resolved = p.operator) (refuse "mutation actor does not match packet position")
    match Trace.currentVisitLease p.trace resolved with
    | none => .error (refuse "organ mutation requires current operator tick")
    | some lease => .ok lease

def eventInCurrentTick (p : Packet) (actor eventId : Value) : Except Failure Event := do
  let lease ← p.assertActorTick actor "use mutation source"
  require (eventId.isNonEmptyString = true) (refuse "mutation source event is required")
  match Trace.eventWithIndex p.trace eventId with
  | none => .error (refuse "mutation source event not found")
  | some (source, index) =>
    require (Topology.resolve actor = some source.operator ∧ lease.index ≤ index
        ∧ ¬ (lease.kind = .birth ∧ index = lease.index ∧ source.type ≠ .birth))
      (refuse "mutation source event is outside current operator tick")
    pure source

end Packet

end Proc17.Core
