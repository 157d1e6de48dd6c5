import Proc17.Runtime.Qa.Contract

/-!
# Current QA evidence

The readers of `runtime/qa_evidence.lua`: the request, the outcome and the verdict that a trace
holds about one candidate seal under one contract, with the contradictions among them.
-/

namespace Proc17.Runtime.Qa.Evidence

open Lua Core Runtime.Repository

def bodyCoordinates : List (String × String) :=
  [("packet_id", "id"), ("lineage_id", "lineage_id"), ("generation", "generation"),
    ("process_contract_id", "process_contract_id"), ("context", "work_context"),
    ("stage_id", "stage_id"), ("repository_id", "repository_id")]

def bodyCoordinatesMatch (inst value : Value) : Bool :=
  inst.isTable && bodyCoordinates.all fun names => (value.get names.1).eq (inst.get names.2)

def requestCoordinates : List String :=
  ["packet_id", "lineage_id", "generation", "process_contract_id", "context", "stage_id",
    "repository_id", "candidate_seal_id", "candidate_seal_event_ref", "artifact_alignment_id",
    "qa_contract_id", "check_id", "profile_id", "environment_id"]

def requestCoordinatesMatch (request value : Value) : Bool :=
  (requestCoordinates.all fun key => (request.get key).eq (value.get key))
    && (request.get "request_id").eq (value.get "request_id")

/-! ## Costs -/

def traceCostKeys : List String :=
  ["steps", "substrate_calls", "tool_calls", "file_writes", "test_runs", "loss"]

def traceCostProjection (cost : Value) : Value := .record [
  ("steps", .nat 0),
  ("substrate_calls", .nat 0),
  ("tool_calls", (cost.get "tool_calls").orElse (.nat 0)),
  ("file_writes", .nat 0),
  ("test_runs", (cost.get "qa_executions").orElse (.nat 0)),
  ("loss", .nat 0)]

def requireZeroCost (cost : Value) : Except Failure Unit :=
  match cost with
  | .table tag entries => do
      require (tag.metatable = false) (refuse "QA check request event cost is invalid")
      require ((entries.all fun entry => traceCostKeys.any fun key => entry.1 = .text key) = true)
        (refuse "QA check request event cost contains unknown axis")
      require ((traceCostKeys.all fun key => (cost.get key).eq (.nat 0)) = true)
        (refuse "QA check request event has non-zero cost")
  | _ => .error (refuse "QA check request event cost is invalid")

/-! ## Events -/

def hasEnvelope (inst event : Value) (type operator : String) : Bool :=
  event.isTable && event.get "type" = .text type && event.get "operator" = .text operator
    && event.get "truth_status" = .text "runtime_confirmed"
    && (event.get "packet_id").eq (inst.get "id")
    && (event.get "lineage_id").eq (inst.get "lineage_id")
    && (event.get "generation").eq (inst.get "generation")

def requestEventIsExact (inst event : Value) : Except Failure Unit := do
  require (hasEnvelope inst event "qa_check_request" "☶" = true)
    (refuse "QA check request event envelope is invalid")
  let payload := event.get "payload"
  EvidenceSchema.verifyRequest payload
  require (bodyCoordinatesMatch inst payload = true)
    (refuse "QA check request is foreign to Packet")
  requireZeroCost (event.get "cost")

inductive OutcomeKind where
  | check
  | failure

def OutcomeKind.type : OutcomeKind → String
  | .check => "qa_check"
  | .failure => "qa_execution_failure"

def OutcomeKind.verify : OutcomeKind → Value → Except Failure Unit
  | .check => EvidenceSchema.verifyCheck
  | .failure => EvidenceSchema.verifyFailure

def OutcomeKind.costKey : OutcomeKind → String
  | .check => "runtime_cost"
  | .failure => "measured_cost"

def outcomeEventIsExact (inst event : Value) (kind : OutcomeKind) : Except Failure Unit := do
  require (hasEnvelope inst event kind.type "☶" = true)
    (refuse "QA outcome event envelope is invalid")
  let payload := event.get "payload"
  kind.verify payload
  require (bodyCoordinatesMatch inst payload = true) (refuse "QA outcome is foreign to Packet")
  require (same (event.get "cost") (traceCostProjection (payload.get kind.costKey)) = true)
    (refuse "QA outcome event cost contradicts evidence")

/-- `for _, value in pairs(event.cost or {}) do if value ~= 0 ...` -/
def requireNoCost (cost : Value) : Except Failure Unit :=
  match cost with
  | .table _ entries =>
    require ((entries.all fun entry => entry.2.eq (.nat 0)) = true)
      (refuse "QA verdict event has non-zero cost")
  | other =>
    if other.truthy then .error (.fault "pairs") else .ok ()

def verdictEventIsExact (inst event : Value) : Except Failure Unit := do
  require (hasEnvelope inst event "qa_candidate_verdict" "☱" = true)
    (refuse "QA verdict event envelope is invalid")
  let payload := event.get "payload"
  EvidenceSchema.verifyVerdict payload
  require (bodyCoordinatesMatch inst payload = true) (refuse "QA verdict is foreign to Packet")
  requireNoCost (event.get "cost")

/-! ## The view -/

structure Stored where
  payload : Value
  ref : Value

structure View where
  request : Option Stored
  check : Option Stored
  failure : Option Stored
  verdict : Option Stored
  conflicts : List String

def View.empty : View := ⟨none, none, none, none, []⟩

inductive EventKind where
  | request
  | outcome (kind : OutcomeKind)
  | verdict

def eventKind (event : Value) : Option EventKind :=
  if event.get "type" = .text "qa_check_request" then some .request
  else if event.get "type" = .text "qa_check" then some (.outcome .check)
  else if event.get "type" = .text "qa_execution_failure" then some (.outcome .failure)
  else if event.get "type" = .text "qa_candidate_verdict" then some .verdict
  else none

/-- The event is exact; an outcome is also checked against the live Packet where asked. -/
def EventKind.isExact (kind : EventKind) (live : OutcomeKind → Value → Except Failure Unit)
    (inst event : Value) : Except Failure Unit :=
  match kind with
  | .request => requestEventIsExact inst event
  | .outcome which => do
      outcomeEventIsExact inst event which
      live which (event.get "payload")
  | .verdict => verdictEventIsExact inst event

/-- Keep the first record, and note a contradiction for each further one. -/
def keep (slot : Option Stored) (stored : Stored) (conflict : String) :
    Option Stored × List String :=
  match slot with
  | none => (some stored, [])
  | some first => (some first, [conflict])

def View.store (view : View) (kind : EventKind) (stored : Stored) : View :=
  match kind with
  | .request =>
    let kept := keep view.request stored "multiple_requests"
    { view with request := kept.1, conflicts := view.conflicts ++ kept.2 }
  | .outcome .check =>
    let kept := keep view.check stored "multiple_checks"
    { view with check := kept.1, conflicts := view.conflicts ++ kept.2 }
  | .outcome .failure =>
    let kept := keep view.failure stored "multiple_execution_failures"
    { view with failure := kept.1, conflicts := view.conflicts ++ kept.2 }
  | .verdict =>
    let kept := keep view.verdict stored "multiple_verdicts"
    { view with verdict := kept.1, conflicts := view.conflicts ++ kept.2 }

def isCurrent (payload sealId contractId : Value) : Bool :=
  payload.isTable && (payload.get "candidate_seal_id").eq sealId
    && (payload.get "qa_contract_id").eq contractId

def collectEvent (live : OutcomeKind → Value → Except Failure Unit) (inst sealId contractId : Value)
    (view : View) (event : Value) : Except Failure View := do
  let payload ← event.index "payload"
  match eventKind event with
  | none => pure view
  | some kind => do
      kind.isExact live inst event
      pure (if isCurrent payload sealId contractId then
        view.store kind ⟨payload.deepCopy, event.get "id"⟩
      else view)

def collectEvents (live : OutcomeKind → Value → Except Failure Unit) (inst sealId contractId : Value) :
    View → List Value → Except Failure View
  | view, [] => .ok view
  | view, event :: rest => do
      let next ← collectEvent live inst sealId contractId view event
      collectEvents live inst sealId contractId next rest

def outcomeConflicts (request outcome : Option Stored) (idConflict coordinateConflict : String) :
    List String :=
  match request, outcome with
  | some request, some outcome =>
    (if (request.payload.get "request_id").eq (outcome.payload.get "request_id") then []
      else [idConflict])
    ++ if requestCoordinatesMatch request.payload outcome.payload then []
      else [coordinateConflict]
  | _, _ => []

def verdictFits (verdict : Value) (request check : Stored) : Bool :=
  (EvidenceSchema.firstItem (verdict.get "check_ids")).eq (check.payload.get "qa_check_id")
    && (EvidenceSchema.firstItem (verdict.get "check_refs")).eq check.ref
    && (EvidenceSchema.firstItem (verdict.get "request_refs")).eq request.ref
    && (verdict.get "verdict").eq (check.payload.get "outcome")
    && same (verdict.get "runtime_cost") (check.payload.get "runtime_cost")

def verdictConflicts (view : View) : List String :=
  match view.verdict with
  | none => []
  | some verdict =>
    (match view.request, view.check with
      | some request, some check =>
        if verdictFits verdict.payload request check then [] else ["verdict_check_mismatch"]
      | _, _ => ["verdict_without_complete_check"])
    ++ if view.failure.isSome then ["verdict_and_execution_failure"] else []

def View.allConflicts (view : View) : List String :=
  view.conflicts
    ++ (if view.check.isSome && view.failure.isSome then ["check_and_execution_failure"] else [])
    ++ outcomeConflicts view.request view.check "check_request_mismatch"
      "check_request_coordinate_mismatch"
    ++ outcomeConflicts view.request view.failure "failure_request_mismatch"
      "failure_request_coordinate_mismatch"
    ++ verdictConflicts view

/-- `instance and instance.trace or {}` under `ipairs`. -/
def traceOf (inst : Value) : Except Failure (List Value) := do
  let trace ← Action.guarded inst "trace"
  (trace.orElse .emptyTable).ipairs

def collectCurrent (live : OutcomeKind → Value → Except Failure Unit)
    (inst sealId contractId : Value) : Except Failure View := do
  require (sealId.isNonEmptyString = true ∧ contractId.isNonEmptyString = true)
    (refuse "current QA evidence coordinates are required")
  let events ← traceOf inst
  let view ← collectEvents live inst sealId contractId .empty events
  -- the names are plain, so their order is that of their bytes
  pure { view with conflicts := view.allConflicts.dedup.insertionSort (· ≤ ·) }

def historical (inst sealId contractId : Value) : Except Failure View :=
  collectCurrent (fun _ _ => .ok ()) inst sealId contractId

end Proc17.Runtime.Qa.Evidence
