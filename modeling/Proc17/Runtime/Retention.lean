import Proc17.Runtime.Completion

/-!
# What the kept trace decides

A corpse keeps the last events of the body only.  Two corpses captured from one dead Packet with
different counts agree in every other field, both verify or neither does, and completion judges
them alike unless it looks for the assessment of a delivered plan: that event is looked up in the
tail, and a tail that has lost it makes the plan blocked.
-/

namespace Proc17.Runtime.Retention

open Lua Core Runtime.Repository Runtime.Qa List Value Json Digest
open Runtime.Repository.Action (guarded)
open Runtime.Corpse (frame withHash capture verify bodyTraceTail)
open Runtime.Completion

/-! ## Captured corpses -/

def corpseOf (fields : List (String × Value)) (tail : List Value) (hash : Bytes) : Value :=
  .record (fields ++ [("trace_tail", .array tail)] ++ [("corpse_hash", .str hash)])

variable {corpse field v given : Value} {tail : List Value} {name : String} {judgement : Judgement}
  {count : Nat}

theorem withHash_eq {fields : List (String × Value)} (built : withHash fields tail = .ok corpse) :
    ∃ hash, Digest.record (.record (fields ++ [("trace_tail", .array tail)])) = .ok hash
      ∧ corpse = corpseOf fields tail hash := by
  simp only [withHash, bind_eq_ok, pure_eq_ok] at built
  obtain ⟨hash, digest, rfl⟩ := built
  exact ⟨hash, digest, rfl⟩

/-- Two corpses say the same but for what they keep of the trace. -/
def Agree (left right : Value) : Prop :=
  ∀ name, name ≠ "trace_tail" ∧ name ≠ "corpse_hash" → left.get name = right.get name

theorem get_corpseOf (fields : List (String × Value)) (tail : List Value) (hash : Bytes)
    (other : name ≠ "trace_tail" ∧ name ≠ "corpse_hash") :
    (corpseOf fields tail hash).get name = (Value.record fields).get name := by
  rw [corpseOf, get_record_append, get_record_append]
  · simpa using other.1.symm
  · simpa using other.2.symm

theorem corpseOf_agree (fields : List (String × Value)) (left right : List Value)
    (leftHash rightHash : Bytes) :
    Agree (corpseOf fields left leftHash) (corpseOf fields right rightHash) := by
  intro name other
  rw [get_corpseOf _ _ _ other, get_corpseOf _ _ _ other]

section

variable {inst corpseId mode : Value} {grounds : Corpse.Grounds}

theorem frame_names {entry : String × Value} (member : entry ∈ frame inst corpseId mode grounds) :
    entry.1 ≠ "trace_tail" ∧ entry.1 ≠ "corpse_hash" := by
  have named : entry.1 ∈ (frame inst corpseId mode grounds).map Prod.fst :=
    mem_map_of_mem member
  have names : ∀ name ∈ (frame inst corpseId mode grounds).map Prod.fst,
      name ≠ "trace_tail" ∧ name ≠ "corpse_hash" := by
    show ∀ name ∈ ["kind", "protocol_version", "corpse_id", "lineage_id", "packet_id", "generation",
      "work_mode", "process_contract_id", "context", "stage_id", "repository_id", "qa_contract_id",
      "qa_contract", "qa_evidence", "parent_packet_id", "parent_corpse_id", "ingress_carrier_id",
      "terminal_kind", "death_cause", "manifest", "manifest_trace_ref", "residue", "final_loss",
      "final_budget", "terminal_trace_ref", "completion_evidence_refs", "frozen_at",
      "truth_status"], name ≠ "trace_tail" ∧ name ≠ "corpse_hash"
    decide
  exact names _ named

theorem unhashed_names (entry : String × Value)
    (member : entry ∈ frame inst corpseId mode grounds ++ [("trace_tail", .array tail)]) :
    entry.1 ≠ "corpse_hash" := by
  rcases mem_append.mp member with inFrame | last
  · exact (frame_names inFrame).2
  · rw [mem_singleton.mp last]
    show "trace_tail" ≠ "corpse_hash"
    decide

theorem get_trace_tail (tail : List Value) (hash : Bytes) :
    (corpseOf (frame inst corpseId mode grounds) tail hash).get "trace_tail" = .array tail := by
  rw [corpseOf, get_record_append (by simp),
    get_record_after fun _ member => (frame_names member).1]
  rfl

theorem get_corpse_hash (tail : List Value) (hash : Bytes) :
    (corpseOf (frame inst corpseId mode grounds) tail hash).get "corpse_hash" = .str hash := by
  rw [corpseOf, get_record_after]
  · rfl
  · exact unhashed_names

theorem identityProjection_corpseOf (tail : List Value) (hash : Bytes) :
    Corpse.identityProjection (corpseOf (frame inst corpseId mode grounds) tail hash)
      = .ok (Value.record (frame inst corpseId mode grounds
          ++ [("trace_tail", .array tail)])).deepCopy := by
  have last : Value.fields (frame inst corpseId mode grounds ++ [("trace_tail", .array tail)]
      ++ [("corpse_hash", .str hash)])
      = Value.fields (frame inst corpseId mode grounds ++ [("trace_tail", .array tail)])
        ++ [(.text "corpse_hash", .str hash)] := fields_append _ _
  have others : ∀ entry ∈ Value.copyEntries (Value.fields
      (frame inst corpseId mode grounds ++ [("trace_tail", .array tail)])),
      Value.eq entry.1 (.text "corpse_hash") = false := by
    intro entry member
    rw [copyEntries_eq_map] at member
    obtain ⟨source, inFields, rfl⟩ := mem_map.mp member
    obtain ⟨given, inGiven, rfl⟩ := mem_fields inFields
    have named := unhashed_names given inGiven
    simpa [Value.copyEntry, Value.deepCopy] using named
  rw [Corpse.identityProjection, corpseOf, Value.record, last, Value.deepCopy,
    copyEntries_eq_map, map_append, ← copyEntries_eq_map, Value.setField]
  have removed := assign_last (.text "corpse_hash") (.str hash) (by simp) _ others
  exact congrArg (fun entries => Except.ok (Value.table Tag.plain entries)) removed

theorem hash_verified {hash : Bytes}
    (digest : Digest.record (.record (frame inst corpseId mode grounds
      ++ [("trace_tail", .array tail)])) = .ok hash) :
    (do
      let projected ← Corpse.identityProjection
        (corpseOf (frame inst corpseId mode grounds) tail hash)
      let actual ← Digest.record projected
      require ((corpseOf (frame inst corpseId mode grounds) tail hash).get "corpse_hash"
        = .str actual) (refuse "corpse hash mismatch") : Except Failure Unit) = .ok () := by
  rw [identityProjection_corpseOf]
  simp only [bind_eq_ok, require_eq_ok]
  exact ⟨_, rfl, hash, (record_deepCopy _).trans digest, get_corpse_hash tail hash⟩

end

section

variable {left right : Value}

@[congr] theorem require_congr {condition other : Prop} {_ : Decidable condition}
    [Decidable other] (same : condition = other) (failure : Failure) :
    require condition failure = require other failure := by
  cases same
  congr

section
variable (agree : Agree left right)
include agree

theorem requireProjection_agree :
    Corpse.requireProjection left = Corpse.requireProjection right := by
  simp (disch := decide) only [Corpse.requireProjection, agree _]

theorem requireQaEvidence_agree :
    Corpse.requireQaEvidence left = Corpse.requireQaEvidence right := by
  simp (disch := decide) only [Corpse.requireQaEvidence, agree _]

theorem all_agree (other : Value) (names : List String)
    (kept : ∀ name ∈ names, name ≠ "trace_tail" ∧ name ≠ "corpse_hash") :
    (names.all fun name => (other.get name).eq (left.get name))
      = names.all fun name => (other.get name).eq (right.get name) := by
  rw [Bool.eq_iff_iff, all_eq_true, all_eq_true]
  refine forall_congr' fun name => ?_
  constructor
  · intro each member
    rw [← agree name (kept name member)]
    exact each member
  · intro each member
    rw [agree name (kept name member)]
    exact each member

theorem requireContract_agree : Corpse.requireContract left = Corpse.requireContract right := by
  have joined := fun normalized => all_agree agree normalized
    ["lineage_id", "process_contract_id", "context", "stage_id"] (by decide)
  simp (disch := decide) only [Corpse.requireContract, agree _, joined]

theorem requireBodies_agree (normalized : Value) :
    requireBodies left normalized = requireBodies right normalized := by
  have joined := fun part => all_agree agree (normalized.get part) bodyKeys (by decide)
  simp only [requireBodies, joined]

theorem exactSoftwareQaTerminal_agree (lineage : Value) :
    exactSoftwareQaTerminal lineage left = exactSoftwareQaTerminal lineage right := by
  simp (disch := decide) only [exactSoftwareQaTerminal, requireCoordinates, requireDelivery,
    requireRetention, agree _, requireBodies_agree agree]

theorem requireRecord_agree (tables : left.isTable = right.isTable)
    (hashes : Corpse.isHash (left.get "corpse_hash") = Corpse.isHash (right.get "corpse_hash"))
    (tails : (left.get "trace_tail").isTable = (right.get "trace_tail").isTable) :
    Corpse.requireRecord left = Corpse.requireRecord right := by
  have optional : (["process_contract_id", "context", "stage_id", "repository_id"].all fun key =>
      Corpse.isOptionalString (left.get key)) = (["process_contract_id", "context", "stage_id",
        "repository_id"].all fun key => Corpse.isOptionalString (right.get key)) := by
    simp (disch := decide) only [all_cons, all_nil, agree _]
  have kept : (["trace_tail", "completion_evidence_refs", "final_loss", "final_budget"].all fun key =>
      (left.get key).isTable) = (["trace_tail", "completion_evidence_refs", "final_loss",
        "final_budget"].all fun key => (right.get key).isTable) := by
    simp (disch := decide) only [all_cons, all_nil, tails, agree _]
  simp (disch := decide) only [Corpse.requireRecord, tables, hashes, optional, kept, agree _]

end

end

section

variable {inst corpseId mode : Value} {grounds : Corpse.Grounds} {left right : Value}
  {leftTail rightTail : List Value}

theorem isHash_captured {hash : Bytes}
    (digest : Digest.record (.record (frame inst corpseId mode grounds
      ++ [("trace_tail", .array tail)])) = .ok hash) :
    Corpse.isHash ((corpseOf (frame inst corpseId mode grounds) tail hash).get "corpse_hash")
      = true := by
  obtain ⟨text, encoded, rfl⟩ := encoded_of_record digest
  rw [get_corpse_hash]
  exact decide_eq_true (Qa.sha256_length text)

theorem verify_captured (first : withHash (frame inst corpseId mode grounds) leftTail = .ok left)
    (second : withHash (frame inst corpseId mode grounds) rightTail = .ok right) :
    verify left = verify right := by
  obtain ⟨leftHash, leftDigest, rfl⟩ := withHash_eq first
  obtain ⟨rightHash, rightDigest, rfl⟩ := withHash_eq second
  have agree := corpseOf_agree (frame inst corpseId mode grounds) leftTail rightTail leftHash
    rightHash
  have records := requireRecord_agree agree rfl
    ((isHash_captured leftDigest).trans (isHash_captured rightDigest).symm)
    (by rw [get_trace_tail, get_trace_tail]; rfl)
  rw [verify, verify, hash_verified leftDigest, hash_verified rightDigest, records,
    requireQaEvidence_agree agree, requireProjection_agree agree, requireContract_agree agree]
  simp (disch := decide) only [agree _]

end

/-! ## Assessments -/

def outcome : Except Failure Value → Option (Value × Value × Value)
  | .ok assessment => some (assessment.get "task_state", assessment.get "terminal_recoverable",
      assessment.get "terminal_recovery_basis")
  | .error _ => none

structure Encodable (judgement : Judgement) : Prop where
  recoveryBasis : Json.Encodes judgement.recoveryBasis
  progress : Json.Encodes judgement.progress
  remainingWork : Json.Encodes judgement.remainingWork
  evidenceRefs : Json.Encodes judgement.evidenceRefs
  manifestRefs : Json.Encodes judgement.manifestRefs
  missingRequirements : Json.Encodes judgement.missingRequirements
  basisTruthStatuses : Json.Encodes judgement.basisTruthStatuses

def assessmentFields (lineage : Value) (judgement : Judgement) : List (String × Value) := [
  ("kind", .text "lineage_completion_assessment"),
  ("protocol_version", .text "lineage.completion.v0"),
  ("contract_id", lineage.get "completion_contract_id"),
  ("task_state", .text judgement.taskState.name),
  ("terminal_recoverable", .bool judgement.recoverable),
  ("terminal_recovery_basis", judgement.recoveryBasis),
  ("progress", judgement.progress.deepCopy),
  ("remaining_work", judgement.remainingWork.deepCopy),
  ("evidence_refs", judgement.evidenceRefs.deepCopy),
  ("manifest_refs", judgement.manifestRefs.deepCopy),
  ("missing_requirements", judgement.missingRequirements.deepCopy),
  ("event_truth_status", .text "runtime_confirmed"),
  ("basis_truth_statuses", judgement.basisTruthStatuses.deepCopy)]

variable {lineage : Value}

theorem assessmentFields_encode
    (contract : Json.Encodes (lineage.get "completion_contract_id"))
    (encodable : Encodable judgement) :
    Json.Encodes (.record (assessmentFields lineage judgement)) := by
  apply encodes_record
  simp only [assessmentFields, forall_mem_cons]
  exact ⟨encodes_str _, encodes_str _, contract, encodes_str _, encodes_bool _,
    encodable.recoveryBasis, encodes_deepCopy encodable.progress,
    encodes_deepCopy encodable.remainingWork, encodes_deepCopy encodable.evidenceRefs,
    encodes_deepCopy encodable.manifestRefs, encodes_deepCopy encodable.missingRequirements,
    encodes_str _, encodes_deepCopy encodable.basisTruthStatuses, forall_mem_nil _⟩

theorem outcome_of_encodes
    (encodes : Json.Encodes (.record (assessmentFields lineage judgement))) :
    outcome (buildAssessment lineage judgement) = some (.text judgement.taskState.name,
      .bool judgement.recoverable, judgement.recoveryBasis) := by
  obtain ⟨hash, digest⟩ := record_of_encodes encodes
  have built : buildAssessment lineage judgement = .ok (.record (assessmentFields lineage judgement
      ++ [("assessment_id", .str (utf8 "lineage-assessment:" ++ hash))])) := by
    simp only [buildAssessment, bind_eq_ok, pure_eq_ok, Digest.identify]
    exact ⟨_, ⟨hash, digest, rfl⟩, rfl⟩
  have read : ∀ (name : String) (value : Value), name ≠ "assessment_id" →
      (name, value) ∈ assessmentFields lineage judgement →
      (Value.record (assessmentFields lineage judgement
        ++ [("assessment_id", .str (utf8 "lineage-assessment:" ++ hash))])).get name = value := by
    intro name value other member
    rw [get_record_append (by simpa using other.symm)]
    refine get_record ?_ member
    show ["kind", "protocol_version", "contract_id", "task_state", "terminal_recoverable",
      "terminal_recovery_basis", "progress", "remaining_work", "evidence_refs", "manifest_refs",
      "missing_requirements", "event_truth_status", "basis_truth_statuses"].Nodup
    decide
  have state := read "task_state" _ (by decide)
    (.tail _ (.tail _ (.tail _ (.head _))))
  have recoverable := read "terminal_recoverable" _ (by decide)
    (.tail _ (.tail _ (.tail _ (.tail _ (.head _)))))
  have basis := read "terminal_recovery_basis" _ (by decide)
    (.tail _ (.tail _ (.tail _ (.tail _ (.tail _ (.head _))))))
  rw [built, outcome, state, recoverable, basis]

theorem guarded_encodes (encodes : Json.Encodes v) (read : guarded v name = .ok field) :
    Json.Encodes field := by
  rw [guarded] at read
  split at read
  · cases v with
    | table tag entries =>
      cases read
      exact encodes_get encodes name
    | str s =>
      cases read
      exact encodes_nil
    | _ => cases read
  · cases read
    exact encodes

theorem guarded_other (read : guarded v name = .ok field) (other : String) :
    ∃ value, guarded v other = .ok value := by
  cases v with
  | nil | str | table => exact ⟨_, rfl⟩
  | bool b =>
    cases b with
    | false => exact ⟨_, rfl⟩
    | true => cases read
  | num | ref => cases read

theorem plain_encodable (encodes : Json.Encodes corpse) (taskState : TaskState)
    (refs missing : List Value) (cited : ∀ ref ∈ refs, Json.Encodes ref)
    (named : ∀ text ∈ missing, Json.Encodes text) :
    Encodable (.plain corpse taskState refs missing) where
  recoveryBasis := encodes_nil
  progress := encodes_table (by simp)
  remainingWork := encodes_table (by simp)
  evidenceRefs := encodes_sparse cited
  manifestRefs := encodes_table (by simp)
  missingRequirements := encodes_array named
  basisTruthStatuses := encodes_sparse (by simpa using encodes_get encodes _)

theorem byTerminal_encodable (encodes : Json.Encodes corpse)
    (judged : byTerminal corpse = .ok judgement) :
    Encodable judgement := by
  simp only [byTerminal, bind_eq_ok, pure_eq_ok] at judged
  obtain ⟨progress, readProgress, remaining, readRemaining, rfl⟩ := judged
  have residue := encodes_get encodes "residue"
  have plain := plain_encodable encodes .blocked [corpse.get "terminal_trace_ref"]
    [.text "recoverable terminal state"] (by simpa using encodes_get encodes _) (by simpa using encodes_str _)
  refine ⟨?_, encodes_orElse (guarded_encodes residue readProgress) plain.progress, ?_,
    plain.evidenceRefs, plain.manifestRefs, ?_, plain.basisTruthStatuses⟩
  · dsimp only
    split
    · exact encodes_get encodes _
    · exact encodes_nil
  · apply encodes_record
    simpa using guarded_encodes residue readRemaining
  · dsimp only [Judgement.plain]
    split
    · exact encodes_array (by simp)
    · exact plain.missingRequirements

theorem completePlan_encodable {assessment : Value} (encodes : Json.Encodes corpse)
    (found : Json.Encodes (assessment.get "id"))
    (judged : completePlan corpse assessment = .ok judgement) : Encodable judgement := by
  simp only [completePlan, bind_eq_ok, pure_eq_ok] at judged
  obtain ⟨count, counted, rfl⟩ := judged
  have manifest := encodes_get encodes "manifest"
  have cited : ∀ ref ∈ [corpse.get "terminal_trace_ref", assessment.get "id",
      assessmentRef (corpse.get "manifest")], Json.Encodes ref := by
    simp only [forall_mem_cons]
    exact ⟨encodes_get encodes _, found, encodes_get (encodes_get manifest _) _, forall_mem_nil _⟩
  have plain := plain_encodable encodes .complete _ [] cited (forall_mem_nil _)
  refine ⟨plain.recoveryBasis, ?_, plain.remainingWork, plain.evidenceRefs, ?_,
    plain.missingRequirements, ?_⟩
  · apply encodes_record
    simp only [forall_mem_cons]
    exact ⟨encodes_num _, encodes_get encodes _, forall_mem_nil _⟩
  · exact encodes_sparse (by simpa using encodes_get encodes _)
  · apply encodes_array
    simp only [forall_mem_cons]
    exact ⟨encodes_str _, encodes_orElse (encodes_get manifest _)
      (encodes_str _), forall_mem_nil _⟩

theorem textArray_encodes (texts : List Bytes) : Json.Encodes (textArray texts) := by
  apply encodes_array
  intro item member
  obtain ⟨text, -, rfl⟩ := mem_map.mp member
  exact encodes_str text

theorem outcome_unbuilt
    (unencoded : ¬ Json.Encodes (.record (assessmentFields lineage judgement))) :
    outcome (buildAssessment lineage judgement) = none := by
  cases built : buildAssessment lineage judgement with
  | error failure => rfl
  | ok assessment =>
    simp only [buildAssessment, bind_eq_ok, pure_eq_ok, Digest.identify] at built
    obtain ⟨_, ⟨hash, digest, -⟩, -⟩ := built
    obtain ⟨text, encoded, -⟩ := encoded_of_record digest
    exact absurd ⟨text, encoded⟩ unencoded

theorem outcome_refs (lineage : Value) (judgement : Judgement) (left right : List Bytes) :
    outcome (buildAssessment lineage { judgement with evidenceRefs := textArray left })
      = outcome (buildAssessment lineage { judgement with evidenceRefs := textArray right }) := by
  have moved : ∀ first second : List Bytes,
      Json.Encodes (.record
        (assessmentFields lineage { judgement with evidenceRefs := textArray first })) →
      Json.Encodes (.record
        (assessmentFields lineage { judgement with evidenceRefs := textArray second })) := by
    intro first second encodes
    have each := encodes_record_iff.mp encodes
    rw [encodes_record_iff]
    simp only [assessmentFields, forall_mem_cons] at each ⊢
    refine ⟨each.1, each.2.1, each.2.2.1, each.2.2.2.1, each.2.2.2.2.1, each.2.2.2.2.2.1,
      each.2.2.2.2.2.2.1, each.2.2.2.2.2.2.2.1, ?_, each.2.2.2.2.2.2.2.2.2⟩
    exact encodes_deepCopy (textArray_encodes second)
  by_cases encodes : Json.Encodes (.record
      (assessmentFields lineage { judgement with evidenceRefs := textArray left }))
  · rw [outcome_of_encodes encodes, outcome_of_encodes (moved left right encodes)]
  · have other := fun there => encodes (moved right left there)
    rw [outcome_unbuilt encodes, outcome_unbuilt other]

/-! ## Judging captured corpses -/

def answer (lineage corpse : Value) : Except Failure Value := do
  let judgement ← judge lineage corpse
  buildAssessment lineage judgement

section

variable {left right : Value}

theorem byTerminal_agree (agree : Agree left right) : byTerminal left = byTerminal right := by
  simp (disch := decide) only [byTerminal, Judgement.plain, agree _]

theorem qaAssessmentRefs_cases (left right evidence : Value) :
    (∃ failure, qaAssessmentRefs left evidence = .error failure
      ∧ qaAssessmentRefs right evidence = .error failure)
    ∨ ∃ first second, qaAssessmentRefs left evidence = .ok first
      ∧ qaAssessmentRefs right evidence = .ok second := by
  simp only [qaAssessmentRefs]
  cases Corpse.refsOf (evidence.get "source_refs") with
  | error failure => exact .inl ⟨failure, rfl, rfl⟩
  | ok sources =>
    cases Corpse.refsOf ((evidence.get "terminal_projection").get "source_refs") with
    | error failure => exact .inl ⟨failure, rfl, rfl⟩
    | ok projected => exact .inr ⟨_, _, rfl, rfl⟩

theorem outcome_qaJudgement (agree : Agree left right) (evidence : Value) :
    outcome (qaJudgement left evidence >>= buildAssessment lineage)
      = outcome (qaJudgement right evidence >>= buildAssessment lineage) := by
  have rejections : rejected left evidence = rejected right evidence := by
    funext refs
    simp (disch := decide) only [rejected, agree _]
  have acceptances : accepted left evidence = accepted right evidence := by
    funext refs
    simp (disch := decide) only [accepted, agree _]
  rw [qaJudgement, qaJudgement, rejections, acceptances]
  rcases qaAssessmentRefs_cases left right evidence with
    ⟨failure, first, second⟩ | ⟨leftRefs, rightRefs, first, second⟩
  · rw [first, second]
  · rw [first, second]
    by_cases verdict : (evidence.get "terminal_projection").get "verdict" = .text "rejected"
    · simp only [if_pos verdict]
      exact outcome_refs lineage (rejected right evidence []) leftRefs rightRefs
    · simp only [if_neg verdict]
      exact outcome_refs lineage (accepted right evidence []) leftRefs rightRefs

theorem answer_agree (agree : Agree left right)
    (other : isOneOf ["unsafe_scope", "cancelled"] (left.get "death_cause") = true
      ∨ lineage.get "completion_contract_id" ≠ .text "plan.v0") :
    outcome (answer lineage left) = outcome (answer lineage right) := by
  have cause := agree "death_cause" (by decide)
  rw [answer, answer, judge, judge, ← cause]
  by_cases dead : isOneOf ["unsafe_scope", "cancelled"] (left.get "death_cause") = true
  · rw [if_pos dead, if_pos dead]
    simp (disch := decide) only [Judgement.plain, agree _]
  · have contract := other.resolve_left dead
    rw [if_neg dead, if_neg dead, if_neg contract, if_neg contract]
    by_cases software : lineage.get "completion_contract_id" = .text "software.create.v0"
    · rw [if_pos software, if_pos software, exactSoftwareQaTerminal_agree agree lineage,
        byTerminal_agree agree]
      cases exactSoftwareQaTerminal lineage right with
      | error failure => rfl
      | ok found =>
        cases found with
        | none => rfl
        | some evidence => exact outcome_qaJudgement agree evidence
    · rw [if_neg software, if_neg software]
      simp (disch := decide) only [unknownContract, Judgement.plain, agree _]

end

/-! ## Delivered plans -/

def resolves (tail : List Value) (ref : Value) : Bool :=
  ((tail.find? fun event => (event.get "id").eq ref).filter isPlanAssessment).isSome

def retains (inst : Value) (count : Nat) (ref : Value) : Bool :=
  match bodyTraceTail (inst.get "trace") count with
  | .ok tail => resolves tail ref
  | .error _ => false

theorem firstWithId_eq (id : Value) : ∀ events : List Value,
    (∀ event ∈ events, event.index "id" = .ok (event.get "id")) →
      firstWithId id events = .ok (events.find? fun event => (event.get "id").eq id) := by
  intro events
  induction events with
  | nil => intro _; rfl
  | cons event rest ih =>
    intro fields
    have head := fields event mem_cons_self
    have others := ih fun other member => fields other (mem_cons_of_mem _ member)
    rw [firstWithId, head, List.find?_cons]
    by_cases found : (event.get "id").eq id = true
    · rw [found]
      exact if_pos found
    · rw [Bool.eq_false_iff.mpr found, ← others]
      exact if_neg found

section

variable {left right : Value}

theorem claimsPlan_agree (agree : Agree left right) : claimsPlan left = claimsPlan right := by
  simp (disch := decide) only [claimsPlan, agree _]

theorem citesPlan_agree (agree : Agree left right) : citesPlan left = citesPlan right := by
  simp (disch := decide) only [citesPlan, agree _]

theorem readManifest_agree (agree : Agree left right) :
    readManifest left = readManifest right := by
  simp (disch := decide) only [readManifest, agree _]

theorem readManifest_ok (claimed : claimsPlan corpse = true) :
    readManifest corpse = .ok () := by
  simp only [claimsPlan, Bool.and_eq_true] at claimed
  have manifest : (corpse.get "manifest").isTable = true := by tauto
  have output : ((corpse.get "manifest").get "output").isTable = true := by tauto
  have read : ∀ {v : Value} (name : String), v.isTable = true →
      guarded v name = .ok (v.get name) := by
    intro v name table
    rw [guarded, index_eq_get table]
    cases v with
    | table tag entries => rfl
    | _ => cases table
  rw [readManifest, read "output" manifest]
  simp only [bind_eq_ok, pure_eq_ok]
  exact ⟨_, rfl, _, read _ output, _, read _ manifest, trivial⟩

end

theorem exactPlan_claimed {found : Option Value} (claimed : claimsPlan corpse = true)
    (cited : citesPlan corpse = .ok true)
    (event : eventById (corpse.get "trace_tail") (assessmentRef (corpse.get "manifest"))
      = .ok found) :
    exactPlan corpse = .ok (found.filter isPlanAssessment) := by
  rw [exactPlan, readManifest_ok claimed, if_pos claimed, cited]
  show (eventById _ _ >>= fun assessment => pure (assessment.filter isPlanAssessment)) = _
  rw [event]
  rfl

theorem exactPlan_unclaimed {left right : Value} (agree : Agree left right)
    (other : ¬ (claimsPlan left = true ∧ citesPlan left = .ok true)) :
    (∃ failure, exactPlan left = .error failure ∧ exactPlan right = .error failure)
      ∨ (exactPlan left = .ok none ∧ exactPlan right = .ok none) := by
  rw [exactPlan, exactPlan, ← readManifest_agree agree, ← claimsPlan_agree agree,
    ← citesPlan_agree agree]
  cases readManifest left with
  | error failure => exact .inl ⟨failure, rfl, rfl⟩
  | ok _ =>
    by_cases claimed : claimsPlan left = true
    · rw [if_pos claimed, if_pos claimed]
      cases cited : citesPlan left with
      | error failure => exact .inl ⟨failure, rfl, rfl⟩
      | ok answer =>
        cases answer with
        | true => exact absurd ⟨claimed, cited⟩ other
        | false => exact .inr ⟨rfl, rfl⟩
    · rw [if_neg claimed, if_neg claimed]
      exact .inr ⟨rfl, rfl⟩

section

variable {left right : Value}

theorem answer_plan
    (alive : isOneOf ["unsafe_scope", "cancelled"] (corpse.get "death_cause") = false)
    (contract : lineage.get "completion_contract_id" = .text "plan.v0") :
    answer lineage corpse = (exactPlan corpse >>= fun found =>
      match found with
      | some assessment => completePlan corpse assessment
      | none => byTerminal corpse) >>= buildAssessment lineage := by
  rw [answer, judge, alive, if_neg Bool.false_ne_true]
  exact congrArg (· >>= buildAssessment lineage) (if_pos contract)

theorem answer_unclaimed (agree : Agree left right)
    (alive : isOneOf ["unsafe_scope", "cancelled"] (left.get "death_cause") = false)
    (contract : lineage.get "completion_contract_id" = .text "plan.v0")
    (other : ¬ (claimsPlan left = true ∧ citesPlan left = .ok true)) :
    outcome (answer lineage left) = outcome (answer lineage right) := by
  have aliveRight := alive
  rw [agree "death_cause" (by decide)] at aliveRight
  rw [answer_plan alive contract, answer_plan aliveRight contract]
  rcases exactPlan_unclaimed agree other with ⟨failure, first, second⟩ | ⟨first, second⟩
  · rw [first, second]
    rfl
  · rw [first, second]
    show outcome (byTerminal left >>= _) = outcome (byTerminal right >>= _)
    rw [byTerminal_agree agree]

theorem claimsPlan_facts (claimed : claimsPlan corpse = true) :
    corpse.get "death_cause" = .text "complete"
      ∧ (assessmentRef (corpse.get "manifest")).isString = true := by
  simp only [claimsPlan, Bool.and_eq_true, decide_eq_true_eq] at claimed
  exact ⟨by tauto, claimed.2⟩

theorem claimsPlan_alive (claimed : claimsPlan corpse = true) :
    isOneOf ["unsafe_scope", "cancelled"] (corpse.get "death_cause") = false := by
  rw [(claimsPlan_facts claimed).1]
  decide

theorem outcome_resolved {assessment : Value} (encodes : Json.Encodes corpse)
    (contract : lineage.get "completion_contract_id" = .text "plan.v0")
    (claimed : claimsPlan corpse = true)
    (named : (assessment.get "id").eq (assessmentRef (corpse.get "manifest")) = true)
    (exact : exactPlan corpse = .ok (some assessment)) :
    outcome (answer lineage corpse) = match itemCount (corpse.get "manifest") with
      | .ok _ => some (.text "complete", .bool false, .nil)
      | .error _ => none := by
  rw [answer_plan (claimsPlan_alive claimed) contract, exact]
  show outcome (completePlan corpse assessment >>= buildAssessment lineage) = _
  cases counted : itemCount (corpse.get "manifest") with
  | error failure => rw [completePlan, counted]; rfl
  | ok count =>
    have idText : Json.Encodes (assessment.get "id") := by
      cases ref : assessmentRef (corpse.get "manifest") with
      | str text =>
        rw [ref] at named
        rw [eq_of_eq_str named]
        exact encodes_str text
      | _ =>
        have text := (claimsPlan_facts claimed).2
        rw [ref] at text
        cases text
    have contractText : Json.Encodes (lineage.get "completion_contract_id") := by
      rw [contract]
      exact encodes_str _
    cases judged : completePlan corpse assessment with
    | error failure => rw [completePlan, counted] at judged; cases judged
    | ok judgement =>
      have encodable := completePlan_encodable encodes idText judged
      have said := outcome_of_encodes (assessmentFields_encode contractText encodable)
      rw [completePlan, counted] at judged
      cases judged
      exact said

theorem outcome_unresolved (encodes : Json.Encodes corpse)
    (contract : lineage.get "completion_contract_id" = .text "plan.v0")
    (claimed : claimsPlan corpse = true) (exact : exactPlan corpse = .ok none) :
    outcome (answer lineage corpse) = match guarded (corpse.get "residue") "progress" with
      | .ok _ => some (.text "blocked", .bool false, .nil)
      | .error _ => none := by
  rw [answer_plan (claimsPlan_alive claimed) contract, exact]
  show outcome (byTerminal corpse >>= buildAssessment lineage) = _
  have contractText : Json.Encodes (lineage.get "completion_contract_id") := by
    rw [contract]
    exact encodes_str _
  cases read : guarded (corpse.get "residue") "progress" with
  | error failure => rw [byTerminal, read]; rfl
  | ok progress =>
    obtain ⟨remaining, others⟩ := guarded_other read "remaining_work_count"
    cases judged : byTerminal corpse with
    | error failure => rw [byTerminal, read, others] at judged; cases judged
    | ok judgement =>
      have encodable := byTerminal_encodable encodes judged
      have said := outcome_of_encodes (assessmentFields_encode contractText encodable)
      rw [byTerminal, read, others, (claimsPlan_facts claimed).1] at judged
      cases judged
      exact said

end

/-! ## Two captures of one Packet -/

theorem capture_eq {inst : Value} (captured : capture inst given count = .ok corpse) :
    ∃ grounds tail mode, Corpse.groundsOf inst = .ok grounds
      ∧ bodyTraceTail (inst.get "trace") count = .ok tail
      ∧ Corpse.workMode inst = .ok mode
      ∧ withHash (frame inst (given.orElse (.str (utf8 "corpse:" ++ (inst.get "id").tostring)))
          mode grounds) tail = .ok corpse := by
  simp only [capture, bind_eq_ok, require_eq_ok] at captured
  obtain ⟨_, -, _, -, _, -, _, -, grounds, evident, tail, kept, mode, worked, built⟩ := captured
  exact ⟨grounds, tail, mode, evident, kept, worked, built⟩

theorem nameEvents_indexed : ∀ (events : List Value) (named last : Corpse.Named),
    Corpse.nameEvents named events = .ok last →
      ∀ event ∈ events, ∃ type, event.index "type" = .ok type := by
  intro events
  induction events with
  | nil => intro named last _ event member; cases member
  | cons first rest ih =>
    intro named last walked event member
    simp only [Corpse.nameEvents, bind_eq_ok] at walked
    obtain ⟨next, step, others⟩ := walked
    rcases mem_cons.mp member with here | there
    · simp only [Corpse.nameEvent, bind_eq_ok] at step
      obtain ⟨type, typed, -⟩ := step
      exact ⟨type, here ▸ typed⟩
    · exact ih next last others event there

theorem index_get (read : v.index name = .ok field) (other : String) :
    v.index other = .ok (v.get other) := by
  cases v with
  | table tag entries => rfl
  | str s => rfl
  | _ => cases read

theorem deepCopy_index (read : v.index name = .ok (v.get name)) :
    v.deepCopy.index name = .ok (v.deepCopy.get name) := by
  cases v with
  | table tag entries => rfl
  | str s => rfl
  | _ => cases read

theorem tail_indexed {inst : Value} {grounds : Corpse.Grounds}
    (evident : Corpse.groundsOf inst = .ok grounds)
    (kept : bodyTraceTail (inst.get "trace") count = .ok tail) :
    ∀ event ∈ tail, event ≠ .nil ∧ event.index "id" = .ok (event.get "id") := by
  simp only [Corpse.groundsOf, Corpse.qaEvidenceEnvelope, Evidence.traceOf, bind_eq_ok] at evident
  obtain ⟨_, ⟨events, ⟨trace, guardedTrace, walked⟩, last, named, -⟩, -⟩ := evident
  simp only [bodyTraceTail, bind_eq_ok, require_eq_ok, pure_eq_ok] at kept
  obtain ⟨_, table, listed, walkedAgain, rfl⟩ := kept
  -- the trace is a table, so both walks are over the same events
  have sameTrace : trace = inst.get "trace" := by
    cases inst with
    | table tag entries => exact (Except.ok.inj guardedTrace).symm
    | _ => cases table
  have same : events = listed := by
    rw [sameTrace] at walked
    cases held : inst.get "trace" with
    | table tag entries =>
      rw [held] at walked walkedAgain
      exact Except.ok.inj (walked.symm.trans walkedAgain)
    | _ => rw [held] at table; cases table
  subst same
  intro event member
  obtain ⟨source, inLast, rfl⟩ := mem_map.mp member
  have inEvents : source ∈ events := mem_of_mem_filter (mem_of_mem_drop inLast)
  obtain ⟨type, typed⟩ := nameEvents_indexed events _ last named source inEvents
  exact ⟨deepCopy_ne_nil (ne_nil_of_mem_ipairs walkedAgain inEvents),
    deepCopy_index (index_get typed "id")⟩

structure Admitted (lineage corpse : Value) : Prop where
  given : lineage.isTable = true ∧ lineage.get "kind" = .text "proc17_lineage"
    ∧ corpse.isTable = true ∧ corpse.get "kind" = .text "proc17_corpse"
  verified : verify corpse = .ok ()
  current : (corpse.get "lineage_id").eq (lineage.get "lineage_id") = true
    ∧ (corpse.get "packet_id").eq (lineage.get "current_packet_id") = true
    ∧ (corpse.get "corpse_id").eq (lineage.get "current_corpse_id") = true

theorem evaluate_admitted (admitted : Admitted lineage corpse) :
    evaluate lineage corpse = answer lineage corpse := by
  rw [evaluate, require, if_pos admitted.given, admitted.verified, require, if_pos admitted.current]
  rfl

theorem outcome_unadmitted (refused : ¬ Admitted lineage corpse) :
    outcome (evaluate lineage corpse) = none := by
  cases evaluated : evaluate lineage corpse with
  | error failure => rfl
  | ok assessment =>
    simp only [evaluate, bind_eq_ok, require_eq_ok] at evaluated
    obtain ⟨_, given, _, verified, _, current, -⟩ := evaluated
    exact absurd ⟨given, verified, current⟩ refused

/-- The evaluation reaches a plan that the corpse claims and cites, and can read what it needs
for at least one of the two answers. -/
structure Delivered (lineage corpse : Value) : Prop where
  admitted : Admitted lineage corpse
  contract : lineage.get "completion_contract_id" = .text "plan.v0"
  claimed : claimsPlan corpse = true
  cited : citesPlan corpse = .ok true

/-- Some answer can be given: the items can be counted or the residue can be read. -/
def Answerable (corpse : Value) : Prop :=
  (∃ count, itemCount (corpse.get "manifest") = .ok count)
    ∨ ∃ progress, guarded (corpse.get "residue") "progress" = .ok progress

theorem answers_differ_iff (corpse : Value) :
    ((match itemCount (corpse.get "manifest") with
      | .ok _ => some (Value.text "complete", Value.bool false, Value.nil)
      | .error _ => none)
    ≠ match guarded (corpse.get "residue") "progress" with
      | .ok _ => some (.text "blocked", .bool false, .nil)
      | .error _ => none) ↔ Answerable corpse := by
  rw [Answerable]
  cases itemCount (corpse.get "manifest") with
  | ok | error =>
    cases guarded (corpse.get "residue") "progress" with
    | ok | error => simp

theorem outcome_delivered {lineage inst : Value} (captured : capture inst given count = .ok corpse)
    (delivered : Delivered lineage corpse) :
    outcome (evaluate lineage corpse)
      = if retains inst count (assessmentRef (corpse.get "manifest")) = true then
          match itemCount (corpse.get "manifest") with
          | .ok _ => some (.text "complete", .bool false, .nil)
          | .error _ => none
        else
          match guarded (corpse.get "residue") "progress" with
          | .ok _ => some (.text "blocked", .bool false, .nil)
          | .error _ => none := by
  obtain ⟨grounds, tail, mode, evident, kept, -, built⟩ := capture_eq captured
  obtain ⟨hash, digest, made⟩ := withHash_eq built
  have encodes : Json.Encodes corpse := by
    obtain ⟨text, encoded, -⟩ := encoded_of_record digest
    have each := encodes_record_iff.mp ⟨text, encoded⟩
    rw [made]
    apply encodes_record
    exact forall_mem_append.mpr ⟨each, forall_mem_singleton.mpr (encodes_str hash)⟩
  have event : eventById (corpse.get "trace_tail") (assessmentRef (corpse.get "manifest"))
      = .ok (tail.find? fun event =>
        (event.get "id").eq (assessmentRef (corpse.get "manifest"))) := by
    have indexed := tail_indexed evident kept
    have walked : Corpse.refsOf (.array tail) = .ok tail :=
      ipairs_array fun event member => (indexed event member).1
    have held : corpse.get "trace_tail" = .array tail := by
      rw [made]
      exact get_trace_tail tail hash
    rw [held, eventById, walked]
    exact firstWithId_eq _ tail fun event member => (indexed event member).2
  have exact := exactPlan_claimed delivered.claimed delivered.cited event
  rw [evaluate_admitted delivered.admitted, retains, kept]
  cases found : (tail.find? fun event =>
      (event.get "id").eq (assessmentRef (corpse.get "manifest"))).filter isPlanAssessment with
  | none =>
    rw [found] at exact
    have unresolved : ¬ resolves tail (assessmentRef (corpse.get "manifest")) = true := by
      simp [resolves, found]
    rw [if_neg unresolved]
    exact outcome_unresolved encodes delivered.contract delivered.claimed exact
  | some assessment =>
    rw [found] at exact
    have resolved : resolves tail (assessmentRef (corpse.get "manifest")) = true := by
      simp [resolves, found]
    have first := (Option.filter_eq_some_iff.mp found).1
    have named := List.find?_some first
    rw [if_pos resolved]
    exact outcome_resolved encodes delivered.contract delivered.claimed named exact

theorem captured_agree {inst left right : Value} {leftCount rightCount : Nat}
    (first : capture inst given leftCount = .ok left)
    (second : capture inst given rightCount = .ok right) :
    Agree left right ∧ verify left = verify right ∧ left.isTable = right.isTable := by
  obtain ⟨grounds, leftTail, mode, evident, -, worked, leftBuilt⟩ := capture_eq first
  obtain ⟨grounds', rightTail, mode', evident', -, worked', rightBuilt⟩ := capture_eq second
  cases Except.ok.inj (evident.symm.trans evident')
  cases Except.ok.inj (worked.symm.trans worked')
  have verified := verify_captured leftBuilt rightBuilt
  obtain ⟨leftHash, -, rfl⟩ := withHash_eq leftBuilt
  obtain ⟨rightHash, -, rfl⟩ := withHash_eq rightBuilt
  exact ⟨corpseOf_agree _ _ _ _ _, verified, rfl⟩

theorem admitted_agree {lineage left right : Value} (agree : Agree left right)
    (verified : verify left = verify right) (tables : left.isTable = right.isTable)
    (admitted : Admitted lineage left) : Admitted lineage right := by
  obtain ⟨given, checked, current⟩ := admitted
  refine ⟨?_, verified ▸ checked, ?_⟩
  · rw [← tables, ← agree "kind" (by decide)]
    exact given
  · rw [← agree "lineage_id" (by decide), ← agree "packet_id" (by decide),
      ← agree "corpse_id" (by decide)]
    exact current

theorem Agree.symm {left right : Value} (agree : Agree left right) : Agree right left :=
  fun name other => (agree name other).symm

theorem delivered_agree {lineage left right : Value} (agree : Agree left right)
    (verified : verify left = verify right) (tables : left.isTable = right.isTable)
    (delivered : Delivered lineage left) : Delivered lineage right := by
  refine ⟨admitted_agree agree verified tables delivered.admitted, delivered.contract, ?_, ?_⟩
  · rw [← claimsPlan_agree agree]
    exact delivered.claimed
  · rw [← citesPlan_agree agree]
    exact delivered.cited

theorem outcome_undelivered {lineage inst left right : Value} {leftCount rightCount : Nat}
    (first : capture inst given leftCount = .ok left)
    (second : capture inst given rightCount = .ok right) (other : ¬ Delivered lineage left) :
    outcome (evaluate lineage left) = outcome (evaluate lineage right) := by
  obtain ⟨agree, verified, tables⟩ := captured_agree first second
  by_cases admitted : Admitted lineage left
  · have admittedRight := admitted_agree agree verified tables admitted
    rw [evaluate_admitted admitted, evaluate_admitted admittedRight]
    by_cases dead : isOneOf ["unsafe_scope", "cancelled"] (left.get "death_cause") = true
    · exact answer_agree agree (.inl dead)
    · by_cases contract : lineage.get "completion_contract_id" = .text "plan.v0"
      · apply answer_unclaimed agree (Bool.eq_false_iff.mpr dead) contract
        intro claim
        exact other ⟨admitted, contract, claim.1, claim.2⟩
      · exact answer_agree agree (.inr contract)
  · have refused : ¬ Admitted lineage right :=
      fun there => admitted (admitted_agree agree.symm verified.symm tables.symm there)
    rw [outcome_unadmitted admitted, outcome_unadmitted refused]

/-- How much trace is kept changes the judgement exactly for a delivered plan whose assessment
one of the two tails holds and the other does not. -/
theorem completion_independent_iff {lineage inst given left right : Value}
    {leftCount rightCount : Nat} (first : capture inst given leftCount = .ok left)
    (second : capture inst given rightCount = .ok right) :
    (outcome (evaluate lineage left) = outcome (evaluate lineage right)
      ↔ ¬ (Delivered lineage left ∧ Answerable left
        ∧ retains inst leftCount (assessmentRef (left.get "manifest"))
          ≠ retains inst rightCount (assessmentRef (left.get "manifest"))))
    ∧ (Delivered lineage left → (∃ count, itemCount (left.get "manifest") = .ok count) →
      (outcome (evaluate lineage left) = some (.text "complete", .bool false, .nil)
        ↔ retains inst leftCount (assessmentRef (left.get "manifest")) = true)) := by
  by_cases delivered : Delivered lineage left
  · obtain ⟨agree, verified, tables⟩ := captured_agree first second
    have leftOutcome := outcome_delivered first delivered
    have rightOutcome := outcome_delivered second
      (delivered_agree agree verified tables delivered)
    rw [← agree "manifest" (by decide), ← agree "residue" (by decide)] at rightOutcome
    rw [leftOutcome, rightOutcome]
    constructor
    · have differ := answers_differ_iff left
      cases retains inst leftCount (assessmentRef (left.get "manifest")) <;>
        cases retains inst rightCount (assessmentRef (left.get "manifest")) <;>
        simp [delivered, ← differ, eq_comm]
    · intro _ counted
      obtain ⟨count, counts⟩ := counted
      rw [counts]
      by_cases kept : retains inst leftCount (assessmentRef (left.get "manifest")) = true
      · simp [kept]
      · rw [if_neg kept]
        simp only [kept, iff_false, Bool.false_eq_true]
        cases guarded (left.get "residue") "progress" with
        | ok | error => simp
  · refine ⟨?_, fun there => absurd there delivered⟩
    have alike := outcome_undelivered first second delivered
    exact ⟨fun _ there => delivered there.1, fun _ => alike⟩

/-! ## A plan whose assessment is not kept -/

def deliveredLineage : Value := .record [
  ("kind", .text "proc17_lineage"), ("lineage_id", .text "l"),
  ("current_packet_id", .text "p"), ("current_corpse_id", .text "corpse:p"),
  ("completion_contract_id", .text "plan.v0")]

def deliveredPacket : Value := .record [
  ("id", .text "p"), ("status", .text "dead"), ("lineage_id", .text "l"), ("generation", .nat 1),
  ("terminal", .record [
    ("kind", .text "manifest"), ("event_id", .text "event-3"), ("manifest_ref", .text "event-2")]),
  ("death", .record [("cause", .text "complete")]),
  ("manifest", .record [
    ("mode", .text "plan_delivery"),
    ("output", .record [
      ("type", .text "plan"), ("status", .text "complete"),
      ("structured", .record [("protocol_version", .text "plan.result.v0")])]),
    ("assembly", .record [
      ("rule", .text "plan_delivery.v0"), ("input_provenance", .text "packet_state"),
      ("assessment_ref", .text "event-1")])]),
  ("trace", .array [
    .record [
      ("id", .text "event-1"), ("type", .text "plan_completion_assessment"),
      ("operator", .text "☱"), ("truth_status", .text "runtime_confirmed"),
      ("payload", .record [
        ("protocol_version", .text "plan.completion_assessment.v0"), ("state", .text "complete"),
        ("work_mode", .text "plan"), ("event_truth_status", .text "runtime_confirmed")])],
    .record [("id", .text "event-2"), ("type", .text "manifest")],
    .record [("id", .text "event-3"), ("type", .text "terminal")]])]

/-- The judgement of the delivered plan with the last `count` events kept. -/
def judgedWith (count : Nat) : Option (Value × Value × Value) :=
  match capture deliveredPacket .nil count with
  | .ok corpse => outcome (evaluate deliveredLineage corpse)
  | .error _ => none

theorem captured_of_judgedWith {said : Value × Value × Value}
    (judged : judgedWith count = some said) :
    ∃ corpse, capture deliveredPacket .nil count = .ok corpse
      ∧ outcome (evaluate deliveredLineage corpse) = some said := by
  rw [judgedWith] at judged
  cases captured : capture deliveredPacket .nil count with
  | error failure => rw [captured] at judged; cases judged
  | ok corpse =>
    rw [captured] at judged
    exact ⟨corpse, rfl, judged⟩

theorem judgedWith_one : judgedWith 1 = some (.text "blocked", .bool false, .nil) := by
  decide +kernel

theorem judgedWith_three : judgedWith 3 = some (.text "complete", .bool false, .nil) := by
  decide +kernel

/-- Three events hold the assessment and one does not, and the judgements differ. -/
theorem delivered_plan_not_kept :
    ¬ ∀ (lineage inst given left right : Value) (leftCount rightCount : Nat),
      1 ≤ leftCount → 1 ≤ rightCount → capture inst given leftCount = .ok left →
      capture inst given rightCount = .ok right →
      outcome (evaluate lineage left) = outcome (evaluate lineage right) := by
  intro independent
  obtain ⟨left, first, blocked⟩ := captured_of_judgedWith judgedWith_one
  obtain ⟨right, second, complete⟩ := captured_of_judgedWith judgedWith_three
  have same := independent deliveredLineage deliveredPacket .nil left right 1 3 (by decide)
    (by decide) first second
  rw [blocked, complete] at same
  revert same
  decide

theorem delivered_plan_kept : ∃ left right, capture deliveredPacket .nil 3 = .ok left
    ∧ capture deliveredPacket .nil 4 = .ok right
    ∧ outcome (evaluate deliveredLineage left) = outcome (evaluate deliveredLineage right) := by
  obtain ⟨left, first, -⟩ := captured_of_judgedWith judgedWith_three
  have tails : bodyTraceTail (deliveredPacket.get "trace") 3
      = bodyTraceTail (deliveredPacket.get "trace") 4 := rfl
  have second : capture deliveredPacket .nil 4 = .ok left := by
    rw [← first, capture, capture, tails]
    rfl
  refine ⟨left, left, first, second, ?_⟩
  apply (completion_independent_iff first second).1.mpr
  intro there
  apply there.2.2
  rw [retains, retains, tails]

end Proc17.Runtime.Retention
