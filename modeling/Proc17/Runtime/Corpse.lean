import Proc17.Runtime.Qa.Evidence

/-!
# Corpses

`runtime/corpse.lua`: what is kept of a dead Packet.  The last events of its body go into the
corpse; everything else is taken from the Packet's own fields and from the QA evidence of the
whole trace.
-/

namespace Proc17.Runtime.Corpse

open Lua Core Runtime.Repository Runtime.Qa
open Runtime.Repository.Action (guarded)

/-! ## The tail of the trace -/

def observerKinds : List String :=
  ["shadow_route_decision", "edge_pressure_snapshot", "qualified_pressure_snapshot"]

def isObserverId : Value → Bool
  | .str id =>
    id.take 15 = utf8 "observer-event-" && !(id.drop 15).isEmpty
      && (id.drop 15).all Number.isDigit
  | _ => false

/-- `stored_trace_identity_lane(event) == "body"` -/
def isBodyEvent (event : Value) : Bool :=
  !event.isTable
    || !(event.get "identity_lane" = .text "observer_instrumentation"
      || (event.get "identity_lane" = .nil && isObserverId (event.get "id")
        && event.get "type" = .text "tension_measure" && (event.get "payload").isTable
        && isOneOf observerKinds ((event.get "payload").get "kind")))

def lastBody (events : List Value) (count : Nat) : List Value :=
  let body := events.filter isBodyEvent
  body.drop (body.length - count)

def bodyTraceTail (source : Value) (count : Nat) : Except Failure (List Value) := do
  require (source.isTable = true) (refuse "trace source must be table")
  let events ← source.ipairs
  pure ((lastBody events count).map Value.deepCopy)

/-! ## QA evidence -/

def uniqueRefs (refs : List Value) : List Bytes :=
  sortedUnique (refs.filterMap fun ref => match ref with | .str text => some text | _ => none)

def refsOf (values : Value) : Except Failure (List Value) := (values.orElse .emptyTable).ipairs

structure Named where
  contract : Value
  candidateSeal : Value

def nameEvent (named : Named) (event : Value) : Except Failure Named := do
  let type ← event.index "type"
  if isOneOf ["qa_check_request", "qa_check", "qa_execution_failure", "qa_candidate_verdict"]
      type then
    let payload := event.get "payload"
    require (payload.isTable = true) (refuse "corpse encountered malformed QA event")
    require (named.contract = .nil ∨ (payload.get "qa_contract_id").eq named.contract = true)
      (refuse "corpse QA event contradicts birth contract")
    require (named.candidateSeal = .nil
        ∨ named.candidateSeal.eq (payload.get "candidate_seal_id") = true)
      (refuse "corpse contains multiple QA candidate seals")
    pure ⟨named.contract.orElse (payload.get "qa_contract_id"), payload.get "candidate_seal_id"⟩
  else pure named

def nameEvents : Named → List Value → Except Failure Named
  | named, [] => .ok named
  | named, event :: rest => do
      let next ← nameEvent named event
      nameEvents next rest

def history (inst : Value) (named : Named) : Except Failure (Option Evidence.View) :=
  if named.candidateSeal = .nil then .ok none
  else do
    let view ← Evidence.historical inst named.candidateSeal named.contract
    require (view.conflicts = [])
      (refuse ("corpse QA evidence is contradictory: " ++ ",".intercalate view.conflicts))
    pure (some view)

def storedField (stored : Option Evidence.Stored) (name : String) : Value :=
  (stored.map fun s => s.payload.get name).getD .nil

def storedRef (stored : Option Evidence.Stored) : Value := (stored.map Evidence.Stored.ref).getD .nil

/-- The ids of the history.  `ipairs` ends at the first stage that is absent. -/
def historyIds (view : Evidence.View) : List Value :=
  [storedField view.request "request_id", storedRef view.request,
    storedField view.check "qa_check_id", storedRef view.check,
    storedField view.failure "failure_id", storedRef view.failure,
    storedField view.verdict "verdict_id", storedRef view.verdict].takeWhile (· ≠ .nil)

def historyRefs (view : Evidence.View) : Except Failure (List Value) := do
  let request ← refsOf (storedField view.request "source_refs")
  let check ← refsOf (storedField view.check "source_refs")
  let failure ← refsOf (storedField view.failure "source_refs")
  let verdict ← refsOf (storedField view.verdict "source_refs")
  pure ((historyIds view).filter Value.truthy ++ request ++ check ++ failure ++ verdict)

def projectionRefs (manifest : Value) : Except Failure (List Value) := do
  let projection ← guarded manifest "qa_terminal_projection"
  if projection = .nil then pure []
  else do
    let refs ← projection.index "source_refs"
    refsOf refs

/-- The record handed to `normalize_corpse_evidence`. -/
def envelopeTable (contract : Value) (view : Option Evidence.View) (projection : Value)
    (refs : List Value) : Value :=
  let part (pick : Evidence.View → Option Evidence.Stored) : Value :=
    (((view.bind pick).map Evidence.Stored.payload).getD .nil).deepCopy
  let ref (pick : Evidence.View → Option Evidence.Stored) : Value := storedRef (view.bind pick)
  .record [
    ("protocol_version", .text "corpse.qa_evidence.v1"),
    ("qa_contract_id", contract),
    ("request_id", storedField (view.bind Evidence.View.request) "request_id"),
    ("request_ref", ref Evidence.View.request),
    ("check", part Evidence.View.check),
    ("check_ref", ref Evidence.View.check),
    ("execution_failure", part Evidence.View.failure),
    ("execution_failure_ref", ref Evidence.View.failure),
    ("verdict", part Evidence.View.verdict),
    ("verdict_ref", ref Evidence.View.verdict),
    ("terminal_projection", projection.deepCopy),
    ("source_refs", textArray (uniqueRefs refs))]

def qaEvidenceEnvelope (inst manifest : Value) : Except Failure Value := do
  let events ← Evidence.traceOf inst
  let named ← nameEvents ⟨inst.get "qa_contract_id", .nil⟩ events
  let view ← history inst named
  let stages ← (view.map historyRefs).getD (.ok [])
  let projected ← projectionRefs manifest
  let projection ← guarded manifest "qa_terminal_projection"
  let mode ← guarded manifest "mode"
  require (¬ (manifest.truthy = true ∧ mode = .text "qa_terminal_delivery" ∧ projection = .nil))
    (refuse "QA terminal manifest omits its terminal projection")
  let contract := if named.contract.truthy then [named.contract] else []
  EvidenceSchema.normalizeCorpseEvidence
    (envelopeTable named.contract view (if manifest.truthy then projection else .nil)
      (contract ++ stages ++ projected))

/-! ## Capture -/

/-- The list `{event_id, manifest_ref, assessment_ref}` with further references appended, as
`ipairs` sees it.  A hole before a present field hides everything after it; only trailing holes
are filled by what is appended. -/
def evidenceRefs (event manifest assessment : Value) (further : List Value) : List Value :=
  if assessment ≠ .nil then
    if event = .nil then []
    else if manifest = .nil then [event]
    else event :: manifest :: assessment :: further
  else if manifest ≠ .nil then
    if event = .nil then [] else event :: manifest :: further
  else if event = .nil then further
  else event :: further

def completionRefs (terminal manifest envelope : Value) : Except Failure (List Bytes) := do
  let assembly ← guarded manifest "assembly"
  let assessment ← guarded assembly "assessment_ref"
  let scope ← guarded manifest "effect_scope_refs"
  let scopeRefs ← refsOf scope
  let sources ← refsOf (envelope.get "source_refs")
  pure (uniqueRefs (evidenceRefs (terminal.get "event_id") (terminal.get "manifest_ref")
    assessment (scopeRefs ++ sources)))

def workMode (inst : Value) : Except Failure Value := do
  let work ← guarded (inst.get "regime") "work"
  let mode ← guarded work "mode"
  pure (if mode.truthy then mode else .nil)

structure Grounds where
  envelope : Value
  refs : List Bytes

def groundsOf (inst : Value) : Except Failure Grounds := do
  let manifest := (inst.get "manifest").deepCopy
  let envelope ← qaEvidenceEnvelope inst manifest
  let refs ← completionRefs (inst.get "terminal") manifest envelope
  pure ⟨envelope, refs⟩

def frame (inst corpseId mode : Value) (grounds : Grounds) : List (String × Value) :=
  let terminal := inst.get "terminal"
  [
    ("kind", .text "proc17_corpse"),
    ("protocol_version", .text "corpse.v0"),
    ("corpse_id", corpseId),
    ("lineage_id", inst.get "lineage_id"),
    ("packet_id", inst.get "id"),
    ("generation", inst.get "generation"),
    ("work_mode", mode),
    ("process_contract_id", inst.get "process_contract_id"),
    ("context", inst.get "work_context"),
    ("stage_id", inst.get "stage_id"),
    ("repository_id", inst.get "repository_id"),
    ("qa_contract_id", inst.get "qa_contract_id"),
    ("qa_contract", (inst.get "qa_contract").deepCopy),
    ("qa_evidence", grounds.envelope),
    ("parent_packet_id", inst.get "parent_id"),
    ("parent_corpse_id", inst.get "parent_corpse_id"),
    ("ingress_carrier_id", inst.get "carrier_id"),
    ("terminal_kind", terminal.get "kind"),
    ("death_cause", (inst.get "death").get "cause"),
    ("manifest", (inst.get "manifest").deepCopy),
    ("manifest_trace_ref", terminal.get "manifest_ref"),
    ("residue", ((inst.get "residue").orElse .emptyTable).deepCopy),
    ("final_loss", ((terminal.get "loss_snapshot").orElse .emptyTable).deepCopy),
    ("final_budget", ((terminal.get "budget_snapshot").orElse .emptyTable).deepCopy),
    ("terminal_trace_ref", terminal.get "event_id"),
    ("completion_evidence_refs", textArray grounds.refs),
    ("frozen_at", (inst.get "death").get "time"),
    ("truth_status", .text "runtime_confirmed")]

def withHash (fields : List (String × Value)) (tail : List Value) : Except Failure Value := do
  let unsealed := fields ++ [("trace_tail", .array tail)]
  let hash ← Digest.record (.record unsealed)
  pure (.record (unsealed ++ [("corpse_hash", .str hash)]))

/-- `corpse.capture`; `given` is the id of the options or of their source. -/
def capture (inst given : Value) (count : Nat) : Except Failure Value := do
  require (inst.isTable = true ∧ (inst.get "id").isString = true)
    (refuse "corpse capture requires Packet")
  require (inst.get "status" = .text "dead" ∧ (inst.get "terminal").isTable = true
      ∧ (inst.get "death").isTable = true)
    (refuse "corpse capture requires terminal dead Packet")
  require (1 ≤ count) (refuse "corpse trace_tail_count must be integer >= 1")
  let corpseId := given.orElse (.str (utf8 "corpse:" ++ (inst.get "id").tostring))
  require (corpseId.isNonEmptyString = true) (refuse "corpse id is required")
  let grounds ← groundsOf inst
  let tail ← bodyTraceTail (inst.get "trace") count
  let mode ← workMode inst
  withHash (frame inst corpseId mode grounds) tail

/-! ## Verification -/

def isOptionalString (value : Value) : Bool := value = .nil || value.isString

def isHash : Value → Bool
  | .str text => text.length = 64
  | _ => false

def requireRecord (record : Value) : Except Failure Unit :=
  require (record.isTable = true
      ∧ record.get "kind" = .text "proc17_corpse"
      ∧ record.get "protocol_version" = .text "corpse.v0"
      ∧ (record.get "corpse_id").isNonEmptyString = true
      ∧ isHash (record.get "corpse_hash") = true
      ∧ (record.get "packet_id").isNonEmptyString = true
      ∧ (record.get "lineage_id").isNonEmptyString = true
      ∧ (record.get "generation").isPositiveInteger = true
      ∧ (record.get "work_mode" = .nil ∨ isOneOf ["plan", "build"] (record.get "work_mode") = true)
      ∧ (["process_contract_id", "context", "stage_id", "repository_id"].all fun key =>
        isOptionalString (record.get key)) = true
      ∧ isOneOf ["manifest", "internal_death"] (record.get "terminal_kind") = true
      ∧ (record.get "death_cause").isString = true
      ∧ (["trace_tail", "completion_evidence_refs", "final_loss", "final_budget"].all fun key =>
        (record.get key).isTable) = true
      ∧ record.get "truth_status" = .text "runtime_confirmed")
    (refuse "invalid corpse record")

def requireQaEvidence (record : Value) : Except Failure Unit :=
  match EvidenceSchema.verifyCorpseEvidence (record.get "qa_evidence") with
  | .error (.refused err) =>
    .error (.refused (.str (utf8 "invalid corpse QA evidence: " ++ err.tostring)))
  | other => other

def requireProjection (record : Value) : Except Failure Unit := do
  let manifest := record.get "manifest"
  let projection := (record.get "qa_evidence").get "terminal_projection"
  let projected ← guarded manifest "qa_terminal_projection"
  require (same (if projected.truthy then projected else .nil) projection = true)
    (refuse "corpse QA terminal projection contradicts manifest")
  let mode ← guarded manifest "mode"
  if manifest.truthy = true ∧ mode = .text "qa_terminal_delivery" then
    require (projection ≠ .nil) (refuse "corpse QA terminal projection is absent")
    require (record.get "death_cause"
        = if projection.get "verdict" = .text "accepted" then .text "complete"
          else .text "blocked")
      (refuse "corpse QA verdict contradicts death cause")

def requireContract (record : Value) : Except Failure Unit :=
  if record.get "qa_contract" = .nil then .ok ()
  else
    match Contract.normalizeContract (record.get "qa_contract") with
    | .error (.refused err) =>
      .error (.refused (.str (utf8 "invalid corpse QA contract: " ++ err.tostring)))
    | .error failure => .error failure
    | .ok normalized =>
      require (same (record.get "qa_contract") normalized = true
          ∧ (record.get "qa_contract_id").eq (normalized.get "qa_contract_id") = true
          ∧ (["lineage_id", "process_contract_id", "context", "stage_id"].all fun key =>
            (normalized.get key).eq (record.get key)) = true)
        (refuse "invalid corpse QA contract projection")

def identityProjection (record : Value) : Except Failure Value :=
  record.deepCopy.setField "corpse_hash" .nil

def verify (record : Value) : Except Failure Unit := do
  requireRecord record
  require (decide (record.get "qa_contract_id" = .nil) = decide (record.get "qa_contract" = .nil))
    (refuse "invalid corpse QA contract projection")
  requireQaEvidence record
  require (((record.get "qa_evidence").get "qa_contract_id").eq (record.get "qa_contract_id")
      = true)
    (refuse "corpse QA evidence contradicts QA contract projection")
  requireProjection record
  requireContract record
  let projected ← identityProjection record
  let actual ← Digest.record projected
  require (record.get "corpse_hash" = .str actual) (refuse "corpse hash mismatch")

end Proc17.Runtime.Corpse
