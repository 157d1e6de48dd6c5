import Proc17.Core.Packet.Terminal

/-!
# Events of the visiting organ

`append_trace`, `append_repository_event`, `append_qa_event` and
`append_unit_dissolution` of `core/packet.lua`: the writers through which the organ
that holds the current visit records its own events.
-/

namespace Proc17.Core

open Lua

/-- The actor holds the right that `event_actor_rights` asks for, if it asks. -/
def EventType.permits (type : EventType) (actor : Option Operator) : Bool :=
  match type.actorRights with
  | none => true
  | some holders => holders.any fun holder => actor = some holder

namespace Packet

/-- `append_actor_event`, up to the append. -/
def actorPlan (p : Packet) (event : Value) : Except Failure Draft := do
  require (event.isTable = true) (refuse "valid event required")
  match EventType.parse (event.get "type") with
  | none => .error (refuse "valid event required")
  | some type => do
      require (type.permits (Topology.resolve (event.get "operator")) = true)
        (refuse "event actor has no right for event type")
      let _ ← p.assertActorTick (resolvedValue (event.get "operator")) "append trace"
      pure (.ofTable event)

def tracePlan (p : Packet) (event : Value) : Except Failure Draft := do
  require (event.isTable = true) (refuse "valid event required")
  match EventType.parse (event.get "type") with
  | none => .error (refuse "valid event required")
  | some type => do
      require (type.dedicated = false) (refuse "event type requires dedicated writer")
      p.actorPlan event

def appendTrace (p : Packet) (now : Int) (event : Value) : Reply Packet Event :=
  transact (p.tracePlan event) (p.emit now) p

def repositoryPlan (p : Packet) (event : Value) : Except Failure Draft := do
  require (event.isTable = true) (refuse "repository body event required")
  match EventType.parse (event.get "type") with
  | none => .error (refuse "repository body event required")
  | some type => do
      require (type.repositoryBody = true) (refuse "repository body event required")
      p.actorPlan event

def appendRepositoryEvent (p : Packet) (now : Int) (event : Value) : Reply Packet Event :=
  transact (p.repositoryPlan event) (p.emit now) p

/-! ## Sealed event tables -/

def sealedKeys : List String := ["type", "operator", "truth_status", "payload", "cost"]

/-- A plain table with exactly the five event keys; `subject` opens the three
messages. -/
def requireSealed (subject : String) (event : Value) : Except Failure Unit := do
  require (event.isTable = true ∧ event.hasMetatable = false)
    (refuse (subject ++ " must be a plain table"))
  match event.keys.find? fun key => !knownKey sealedKeys key with
  | some key =>
    .error (.refused (.str (utf8 (subject ++ " contains unknown key: ") ++ key.tostring)))
  | none =>
    match sealedKeys.find? fun key => event.get key = .nil with
    | some key => .error (refuse (subject ++ " is missing key: " ++ key))
    | none => .ok ()

def sealedEvent (type operator payload cost : Value) : Value :=
  .record [("type", type), ("operator", operator), ("truth_status", .text "runtime_confirmed"),
    ("payload", payload), ("cost", cost)]

def qaPayload (S : Schemas) (type : EventType) (event : Value) : Except Failure Value := do
  S.validateCost type (event.get "cost")
  let normalized ← S.normalizePayload type (event.get "payload")
  require (S.evidenceSame (event.get "payload") normalized = true)
    (refuse "QA evidence payload is not normalized")
  let copied := normalized.deepCopy
  let copiedNormalized ← S.normalizePayload type copied
  require (S.evidenceSame copied copiedNormalized = true)
    (refuse "copied QA evidence payload is not normalized")
  S.validateCost type (event.get "cost").deepCopy
  pure copied

def qaPlan (p : Packet) (S : Schemas) (event : Value) : Except Failure Draft := do
  p.assertMutable "append QA evidence"
  requireSealed "QA evidence event" event
  match EventType.parse (event.get "type") with
  | none => .error (refuse "dedicated QA evidence event required")
  | some type => do
      require (type.qaBody = true) (refuse "dedicated QA evidence event required")
      require (type.permits (Topology.resolve (event.get "operator")) = true)
        (refuse "event actor has no right for QA evidence type")
      let actor := resolvedValue (event.get "operator")
      let _ ← p.assertActorTick actor "append QA evidence"
      require (event.get "truth_status" = .text "runtime_confirmed")
        (refuse "QA evidence event must be runtime_confirmed")
      let copied ← qaPayload S type event
      p.actorPlan (sealedEvent (event.get "type") actor copied (event.get "cost").deepCopy)

def countEvidence (p : Packet) : Packet :=
  { p with revisions := { p.revisions with evidence := p.revisions.evidence + 1 } }

def appendQaEvent (p : Packet) (S : Schemas) (now : Int) (event : Value) : Reply Packet Event :=
  transact (p.qaPlan S event) (fun draft => p.emitThen now draft fun _ q => q.countEvidence) p

def releasePayload (S : Schemas) (event : Value) : Except Failure Value := do
  let normalized ← S.normalizeRelease (event.get "payload")
  require (S.releaseSame (event.get "payload") normalized = true)
    (refuse "unit dissolution payload is not normalized")
  let copied := normalized.deepCopy
  let copiedNormalized ← S.normalizeRelease copied
  require (S.releaseSame copied copiedNormalized = true)
    (refuse "copied unit dissolution payload is not normalized")
  pure copied

def isEmptyTable : Value → Bool
  | .table _ entries => entries.isEmpty
  | _ => false

def dissolutionPlan (p : Packet) (S : Schemas) (event : Value) : Except Failure Draft := do
  p.assertMutable "append unit dissolution"
  requireSealed "unit dissolution event" event
  require (event.get "type" = .text "unit_dissolution"
      ∧ event.get "operator" = Topology.value .dissolve
      ∧ event.get "truth_status" = .text "runtime_confirmed"
      ∧ isEmptyTable (event.get "cost") = true)
    (refuse "invalid unit dissolution event")
  let _ ← p.assertActorTick (Topology.value .dissolve) "append unit dissolution"
  let copied ← releasePayload S event
  p.actorPlan (sealedEvent (.text "unit_dissolution") (Topology.value .dissolve) copied
    .emptyTable)

def appendUnitDissolution (p : Packet) (S : Schemas) (now : Int) (event : Value) :
    Reply Packet Event :=
  transact (p.dissolutionPlan S event) (p.emit now) p

end Packet

end Proc17.Core
