import Proc17.Runtime.Corpse

/-!
# Completion

`completion.evaluate` of `runtime/completion.lua`: whether the task of a lineage is complete,
judged from the corpse of its current Packet alone.
-/

namespace Proc17.Runtime.Completion

open Lua Core Runtime.Repository Runtime.Qa
open Runtime.Repository.Action (guarded)

def contains (values wanted : Value) : Except Failure Bool := do
  let items ← Corpse.refsOf values
  pure (items.any fun value => value.eq wanted)

/-- The walk of `event_by_id`: an event that has no fields raises. -/
def firstWithId (id : Value) : List Value → Except Failure (Option Value)
  | [] => .ok none
  | event :: rest => do
      let eventId ← event.index "id"
      if eventId.eq id then .ok (some event) else firstWithId id rest

def eventById (events id : Value) : Except Failure (Option Value) := do
  let items ← Corpse.refsOf events
  firstWithId id items

/-! ## Plans -/

def claimsPlan (corpse : Value) : Bool :=
  let manifest := corpse.get "manifest"
  let output := manifest.get "output"
  let structured := output.get "structured"
  let assembly := manifest.get "assembly"
  corpse.get "terminal_kind" = .text "manifest" && corpse.get "death_cause" = .text "complete"
    && manifest.isTable && manifest.get "mode" = .text "plan_delivery"
    && output.isTable && output.get "type" = .text "plan"
    && output.get "status" = .text "complete"
    && structured.isTable && structured.get "protocol_version" = .text "plan.result.v0"
    && assembly.isTable && assembly.get "rule" = .text "plan_delivery.v0"
    && assembly.get "input_provenance" = .text "packet_state"
    && (assembly.get "assessment_ref").isString

def isPlanAssessment (event : Value) : Bool :=
  let payload := event.get "payload"
  event.get "type" = .text "plan_completion_assessment" && event.get "operator" = .text "☱"
    && event.get "truth_status" = .text "runtime_confirmed" && payload.isTable
    && payload.get "protocol_version" = .text "plan.completion_assessment.v0"
    && payload.get "state" = .text "complete" && payload.get "work_mode" = .text "plan"
    && payload.get "event_truth_status" = .text "runtime_confirmed"

def assessmentRef (manifest : Value) : Value := (manifest.get "assembly").get "assessment_ref"

def citesPlan (corpse : Value) : Except Failure Bool := do
  let refs := corpse.get "completion_evidence_refs"
  let assessed ← contains refs (assessmentRef (corpse.get "manifest"))
  let delivered ← contains refs (corpse.get "manifest_trace_ref")
  pure (assessed && corpse.get "manifest_trace_ref" ≠ .nil && delivered)

/-- The first two values `manifest`, `output` and `assembly` are read from: a field of a value
that is neither table nor text raises. -/
def readManifest (corpse : Value) : Except Failure Unit := do
  let output ← guarded (corpse.get "manifest") "output"
  let _ ← guarded output "structured"
  let _ ← guarded (corpse.get "manifest") "assembly"
  pure ()

def exactPlan (corpse : Value) : Except Failure (Option Value) := do
  readManifest corpse
  if claimsPlan corpse then
    let cited ← citesPlan corpse
    if cited then
      let assessment ← eventById (corpse.get "trace_tail") (assessmentRef (corpse.get "manifest"))
      pure (assessment.filter isPlanAssessment)
    else pure none
  else pure none

/-! ## QA terminals -/

def requireCoordinates (lineage corpse : Value) : Except Failure Unit :=
  require (lineage.get "completion_contract_id" = .text "software.create.v0"
      ∧ lineage.get "work_mode" = .text "build"
      ∧ (lineage.get "current_generation").eq (corpse.get "generation") = true
      ∧ corpse.get "process_contract_id" = .text "software.create.v0"
      ∧ corpse.get "context" = .text "software_task.v0"
      ∧ corpse.get "work_mode" = .text "build"
      ∧ corpse.get "terminal_kind" = .text "manifest"
      ∧ (corpse.get "stage_id").isNonEmptyString = true)
    (refuse "QA terminal claim contradicts software lineage coordinates")

def normalEvidence (evidence : Value) : Except Failure Value := do
  let normalized ← EvidenceSchema.normalizeCorpseEvidence evidence
  require (same normalized evidence = true) (refuse "corpse QA evidence is not normalized")
  pure normalized

def expectedCause (projection : Value) : Value :=
  if projection.get "verdict" = .text "accepted" then .text "complete" else .text "blocked"

def requireDelivery (corpse normalized : Value) : Except Failure Unit :=
  let manifest := corpse.get "manifest"
  let check := normalized.get "check"
  let verdict := normalized.get "verdict"
  let projection := normalized.get "terminal_projection"
  let output := manifest.get "output"
  let assembly := manifest.get "assembly"
  require (isOneOf ["accepted", "rejected"] (projection.get "verdict") = true
      ∧ (check.get "outcome").eq (projection.get "verdict") = true
      ∧ (verdict.get "verdict").eq (projection.get "verdict") = true
      ∧ corpse.get "death_cause" = expectedCause projection
      ∧ manifest.get "terminal_cause" = expectedCause projection
      ∧ output.isTable = true ∧ output.get "type" = .text "qa_terminal"
      ∧ (output.get "status").eq (projection.get "verdict") = true
      ∧ assembly.isTable = true ∧ assembly.get "rule" = .text "qa.terminal_projection.v1"
      ∧ assembly.get "work_mode" = .text "build"
      ∧ assembly.get "input_provenance" = .text "packet_state"
      ∧ (assembly.get "outcome").eq (projection.get "verdict") = true
      ∧ (assembly.get "verdict_ref").eq (normalized.get "verdict_ref") = true
      ∧ same (manifest.get "qa_terminal_projection") projection = true)
    (refuse "QA terminal manifest contradicts exact evidence")

def bodyKeys : List String :=
  ["packet_id", "lineage_id", "generation", "process_contract_id", "context", "stage_id",
    "repository_id", "qa_contract_id"]

def requireBodies (corpse normalized : Value) : Except Failure Unit :=
  require ((["check", "verdict"].all fun part => bodyKeys.all fun key =>
      ((normalized.get part).get key).eq (corpse.get key)) = true)
    (refuse "QA terminal body coordinates contradict corpse")

def requireIdentityJoin (normalized : Value) : Except Failure Unit :=
  let check := normalized.get "check"
  let verdict := normalized.get "verdict"
  let projection := normalized.get "terminal_projection"
  require ((["candidate_seal_id", "candidate_seal_event_ref", "artifact_alignment_id",
      "profile_id", "environment_id"].all fun key =>
        (check.get key).eq (verdict.get key) && (check.get key).eq (projection.get key)) = true
      ∧ (check.get "request_id").eq (normalized.get "request_id") = true
      ∧ (check.get "request_ref").eq (normalized.get "request_ref") = true
      ∧ (check.get "qa_check_id").eq (projection.get "qa_check_id") = true
      ∧ (normalized.get "check_ref").eq (projection.get "qa_check_ref") = true
      ∧ (verdict.get "verdict_id").eq (projection.get "verdict_id") = true
      ∧ (normalized.get "verdict_ref").eq (projection.get "verdict_ref") = true)
    (refuse "QA terminal identity join is inconsistent")

def requireRefs (haystack : Value) (required : List Value) : Except Failure Unit :=
  required.forM fun ref =>
    if ref.isNonEmptyString then do
      let kept ← contains haystack ref
      require (kept = true)
        (.refused (.str (utf8 "QA terminal corpse omits required ref: " ++ ref.tostring)))
    else pure ()

def requireRetention (corpse normalized : Value) : Except Failure Unit := do
  let retained := (corpse.get "completion_evidence_refs").orElse .emptyTable
  requireRefs retained
    ([corpse.get "terminal_trace_ref", corpse.get "manifest_trace_ref"].takeWhile (· ≠ .nil))
  let sources ← Corpse.refsOf (normalized.get "source_refs")
  requireRefs retained sources
  let projected ← Corpse.refsOf ((normalized.get "terminal_projection").get "source_refs")
  requireRefs retained projected

def exactSoftwareQaTerminal (lineage corpse : Value) : Except Failure (Option Value) := do
  let manifest := corpse.get "manifest"
  let evidence := corpse.get "qa_evidence"
  let manifestClaim := manifest.isTable && manifest.get "mode" = .text "qa_terminal_delivery"
  let evidenceClaim := evidence.isTable && evidence.get "terminal_projection" ≠ .nil
  if !manifestClaim && !evidenceClaim then pure none
  else do
    require (manifestClaim = true ∧ evidenceClaim = true)
      (refuse "QA terminal claim is incomplete")
    requireCoordinates lineage corpse
    let normalized ← normalEvidence evidence
    require (normalized.get "execution_failure" = .nil ∧ normalized.get "check" ≠ .nil
        ∧ normalized.get "verdict" ≠ .nil ∧ normalized.get "terminal_projection" ≠ .nil)
      (refuse "QA terminal claim lacks exact check/verdict projection")
    requireDelivery corpse normalized
    requireBodies corpse normalized
    requireIdentityJoin normalized
    requireRetention corpse normalized
    pure (some normalized)

/-- `qa_assessment_refs`: an absent id ends the walk of `unique_refs`. -/
def qaAssessmentRefs (corpse evidence : Value) : Except Failure (List Bytes) := do
  let check := evidence.get "check"
  let verdict := evidence.get "verdict"
  let ids := [corpse.get "corpse_id", corpse.get "corpse_hash", corpse.get "terminal_trace_ref",
    corpse.get "manifest_trace_ref", evidence.get "qa_contract_id", evidence.get "request_id",
    evidence.get "request_ref", check.get "candidate_seal_id",
    check.get "candidate_seal_event_ref", check.get "artifact_alignment_id",
    check.get "qa_check_id", evidence.get "check_ref", verdict.get "verdict_id",
    evidence.get "verdict_ref"]
  let sources ← Corpse.refsOf (evidence.get "source_refs")
  let projected ← Corpse.refsOf ((evidence.get "terminal_projection").get "source_refs")
  pure (Corpse.uniqueRefs
    (if .nil ∈ ids then ids.takeWhile (· ≠ .nil) else ids ++ sources ++ projected))

def qaBasisTruthStatuses (evidence : Value) : Value :=
  let statuses := ["check", "verdict", "terminal_projection"].map fun part =>
    (evidence.get part).get "content_truth_status"
  .array ((statuses.takeWhile (· ≠ .nil)).foldl
    (fun kept status => if kept.any fun other => other.eq status then kept else kept ++ [status])
    [.text "runtime_confirmed"])

/-! ## Assessments -/

inductive TaskState where
  | unsafeScope
  | complete
  | unfinished
  | unknown
  | blocked

def TaskState.name : TaskState → String
  | .unsafeScope => "unsafe"
  | .complete => "complete"
  | .unfinished => "unfinished"
  | .unknown => "unknown"
  | .blocked => "blocked"

structure Judgement where
  taskState : TaskState
  recoverable : Bool
  recoveryBasis : Value
  progress : Value
  remainingWork : Value
  evidenceRefs : Value
  manifestRefs : Value
  missingRequirements : Value
  basisTruthStatuses : Value

def Judgement.plain (corpse : Value) (taskState : TaskState) (refs : List Value)
    (missing : List Value) : Judgement where
  taskState := taskState
  recoverable := false
  recoveryBasis := .nil
  progress := .emptyTable
  remainingWork := .emptyTable
  evidenceRefs := .sparse refs
  manifestRefs := .emptyTable
  missingRequirements := .array missing
  basisTruthStatuses := .sparse [corpse.get "truth_status"]

def buildAssessment (lineage : Value) (judgement : Judgement) : Except Failure Value := do
  let fields : List (String × Value) := [
    ("kind", .text "lineage_completion_assessment"),
    ("protocol_version", .text "lineage.completion.v0"),
    ("contract_id", lineage.get "completion_contract_id"),
    ("task_state", .text judgement.taskState.name),
    ("terminal_recoverable", .bool judgement.recoverable),
    ("terminal_recovery_basis", judgement.recoveryBasis),
    ("progress", judgement.progress.deepCopy),
    ("remaining_work", judgement.remainingWork.deepCopy),
    ("evidence_refs", judgement.evidenceRefs.deepCopy),
    ("manifest_refs", judgement.manifestRefs.deepCopy),
    ("missing_requirements", judgement.missingRequirements.deepCopy),
    ("event_truth_status", .text "runtime_confirmed"),
    ("basis_truth_statuses", judgement.basisTruthStatuses.deepCopy)]
  let id ← Digest.identify "lineage-assessment:" (.record fields)
  pure (.record (fields ++ [("assessment_id", .str id)]))

def itemCount (manifest : Value) : Except Failure Nat := do
  let structured := (manifest.get "output").get "structured"
  ((structured.get "items").orElse .emptyTable).length

def completePlan (corpse assessment : Value) : Except Failure Judgement := do
  let manifest := corpse.get "manifest"
  let count ← itemCount manifest
  pure { Judgement.plain corpse .complete [corpse.get "terminal_trace_ref",
      assessment.get "id", assessmentRef manifest] [] with
    progress := .record [
      ("delivered_item_count", .nat count),
      ("generation", corpse.get "generation")]
    manifestRefs := .sparse [corpse.get "manifest_trace_ref"]
    basisTruthStatuses := .array [.text "runtime_confirmed",
      (manifest.get "content_truth_status").orElse (.text "unknown")] }

def rejected (corpse evidence : Value) (refs : List Bytes) : Judgement where
  taskState := .unfinished
  recoverable := true
  recoveryBasis := .text "qa_rejected"
  progress := .record [
    ("rejected_generation", corpse.get "generation"),
    ("candidate_seal_id", (evidence.get "verdict").get "candidate_seal_id"),
    ("verdict_id", (evidence.get "verdict").get "verdict_id")]
  remainingWork := .record [
    ("count", .nat 1),
    ("kind", .text "fresh_candidate_generation"),
    ("stage_id", corpse.get "stage_id")]
  evidenceRefs := textArray refs
  manifestRefs := .sparse [corpse.get "manifest_trace_ref"]
  missingRequirements := .emptyTable
  basisTruthStatuses := qaBasisTruthStatuses evidence

def accepted (corpse evidence : Value) (refs : List Bytes) : Judgement where
  taskState := .unknown
  recoverable := false
  recoveryBasis := .nil
  progress := .record [
    ("accepted_generation", corpse.get "generation"),
    ("candidate_seal_id", (evidence.get "verdict").get "candidate_seal_id"),
    ("verdict_id", (evidence.get "verdict").get "verdict_id")]
  remainingWork := .emptyTable
  evidenceRefs := textArray refs
  manifestRefs := .sparse [corpse.get "manifest_trace_ref"]
  missingRequirements := .array [.text "lineage_software_scope_reader"]
  basisTruthStatuses := qaBasisTruthStatuses evidence

def qaJudgement (corpse evidence : Value) : Except Failure Judgement := do
  let refs ← qaAssessmentRefs corpse evidence
  if (evidence.get "terminal_projection").get "verdict" = .text "rejected" then
    pure (rejected corpse evidence refs)
  else pure (accepted corpse evidence refs)

def recoverableTerminals : List String := ["budget_exhausted", "identity_loss", "stalled"]

def byTerminal (corpse : Value) : Except Failure Judgement := do
  let cause := corpse.get "death_cause"
  let recoverable := isOneOf recoverableTerminals cause
  let progress ← guarded (corpse.get "residue") "progress"
  let remaining ← guarded (corpse.get "residue") "remaining_work_count"
  pure { Judgement.plain corpse (if recoverable then .unfinished else .blocked)
      [corpse.get "terminal_trace_ref"]
      (if recoverable then [] else [.text "recoverable terminal state"]) with
    recoverable := recoverable
    recoveryBasis := if recoverable then cause else .nil
    progress := progress.orElse .emptyTable
    remainingWork := .record [("count", remaining)] }

def unknownContract (lineage corpse : Value) : Judgement :=
  .plain corpse .unknown [corpse.get "terminal_trace_ref"]
    [.str (utf8 "known completion contract: "
      ++ (lineage.get "completion_contract_id").tostring)]

/-- The branches of `completion.evaluate` after its first checks. -/
def judge (lineage corpse : Value) : Except Failure Judgement :=
  if isOneOf ["unsafe_scope", "cancelled"] (corpse.get "death_cause") then
    .ok (.plain corpse .unsafeScope [corpse.get "terminal_trace_ref"] [.text "safe continuation"])
  else if lineage.get "completion_contract_id" = .text "plan.v0" then do
    match ← exactPlan corpse with
    | some assessment => completePlan corpse assessment
    | none => byTerminal corpse
  else if lineage.get "completion_contract_id" = .text "software.create.v0" then do
    match ← exactSoftwareQaTerminal lineage corpse with
    | none => byTerminal corpse
    | some evidence => qaJudgement corpse evidence
  else .ok (unknownContract lineage corpse)

def evaluate (lineage corpse : Value) : Except Failure Value := do
  require (lineage.isTable = true ∧ lineage.get "kind" = .text "proc17_lineage"
      ∧ corpse.isTable = true ∧ corpse.get "kind" = .text "proc17_corpse")
    (refuse "lineage and corpse are required for completion")
  Corpse.verify corpse
  require ((corpse.get "lineage_id").eq (lineage.get "lineage_id") = true
      ∧ (corpse.get "packet_id").eq (lineage.get "current_packet_id") = true
      ∧ (corpse.get "corpse_id").eq (lineage.get "current_corpse_id") = true)
    (refuse "completion corpse is not current lineage terminal")
  let judgement ← judge lineage corpse
  buildAssessment lineage judgement

end Proc17.Runtime.Completion
