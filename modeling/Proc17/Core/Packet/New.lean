import Proc17.Core.Packet.Trace

/-!
# Packet birth

`packet.new` of `core/packet.lua` with its identity, work contract, QA contract
and ingress checks.  The schema modules it consults are pure and are taken as
one bundle, so that every result holds for each of their behaviours.
-/

namespace Proc17.Core

open Lua

/-- The pure schema functions that `core/packet.lua` requires: `core.qa_schema`,
`core.qa_evidence_schema`, `core.network_projection_schema`,
`core.dissolve_schema` and `core.json`. -/
structure Schemas where
  normalizeContract : Value → Except Failure Value
  contractSame : Value → Value → Bool
  verifyProjection : Value → Except Failure Unit
  jsonEncode : Value → Except Failure Bytes
  validateCost : EventType → Value → Except Failure Unit
  normalizePayload : EventType → Value → Except Failure Value
  evidenceSame : Value → Value → Bool
  normalizeRelease : Value → Except Failure Value
  normalizeResidue : Value → Except Failure Value
  releaseSame : Value → Value → Bool

namespace Packet

def defaultBudget : Value :=
  .record [("steps", .nat 64), ("substrate_calls", .nat 8), ("tool_calls", .nat 16),
    ("file_writes", .nat 8), ("test_runs", .nat 8), ("loss", .num (.float 1))]

structure Identity where
  sessionId : Value
  lineageId : Value
  generation : Number
  parentCorpseId : Value
  birthKind : BirthKind
  carrierId : Value
  substrateSessionId : Value

def initIdentity (packetId options : Value) : Except Failure Identity := do
  let generation ← match (options.get "generation").orElse (.nat 1) with
    | .num n =>
      if Number.lt n (.int 1) || !Number.isIntegral n then
        .error (raise "generation must be integer >= 1")
      else pure n
    | _ => .error (raise "generation must be integer >= 1")
  let birthKind ← match Value.parse BirthKind.all BirthKind.name
      ((options.get "birth_kind").orElse (.text "user")) with
    | none => .error (raise "invalid birth kind")
    | some kind => pure kind
  require (¬ (Number.eq generation (.int 1) = true ∧ birthKind = .user
      ∧ options.get "parent_corpse_id" ≠ .nil))
    (raise "user birth generation 1 cannot have parent corpse")
  if Number.lt (.int 1) generation then
    require ((options.get "lineage_id").isNonEmptyString = true)
      (raise "generation > 1 requires lineage id")
    require ((options.get "parent_corpse_id").isNonEmptyString = true)
      (raise "generation > 1 requires parent corpse id")
  require (birthKind = .user ∨ (options.get "carrier_id").isNonEmptyString = true)
    (raise (birthKind.name ++ " birth requires carrier id"))
  require (options.get "session_id" = .nil ∨ (options.get "session_id").isNonEmptyString = true)
    (raise "session id must be a non-empty string when present")
  pure
    { sessionId := options.get "session_id"
      lineageId := (options.get "lineage_id").orElse packetId
      generation := generation
      parentCorpseId := options.get "parent_corpse_id"
      birthKind := birthKind
      carrierId := options.get "carrier_id"
      substrateSessionId := options.get "substrate_session_id" }

/-- `process_contract_stage_ordinals` -/
def stageOrdinal (contract : Value) (mode : WorkMode) : Option Nat :=
  if contract = .text "plan.only.v0" then if mode = .plan then some 1 else none
  else if contract = .text "build.only.v0" then if mode = .build then some 1 else none
  else if contract = .text "software.create.v0" then
    match mode with
    | .plan => some 1
    | .build => some 2
  else none

def declaredCoordinate (options metadata : Value) (key : String) : Except Failure Value := do
  let direct := options.get key
  let mirrored := metadata.get key
  require (direct = .nil ∨ mirrored = .nil ∨ Value.eq direct mirrored = true)
    (raise ("packet " ++ key ++ " conflicts with metadata mirror"))
  pure (direct.orElse mirrored)

structure WorkContract where
  processContractId : Value
  context : Value
  stageId : Value
  repositoryId : Value

def defaultStageId (lineageId : Value) (ordinal : Nat) (mode : WorkMode) : Value :=
  .str (utf8 "stage:" ++ lineageId.tostring ++ utf8 (":" ++ toString ordinal ++ ":" ++ mode.name))

def initWorkContract (identity : Identity) (mode : WorkMode) (options metadata : Value) :
    Except Failure (WorkContract × Value) := do
  let declared ← declaredCoordinate options metadata "process_contract_id"
  let contract := declared.orElse
    (.text (if mode = .plan then "plan.only.v0" else "build.only.v0"))
  match stageOrdinal contract mode with
  | none => .error (raise "packet process_contract_id is incompatible with work_mode")
  | some ordinal => do
      let declaredContext ← declaredCoordinate options metadata "context"
      let context := declaredContext.orElse (.text "software_task.v0")
      require (context = .text "software_task.v0") (raise "packet context is unsupported")
      let declaredStage ← declaredCoordinate options metadata "stage_id"
      let stageId := declaredStage.orElse (defaultStageId identity.lineageId ordinal mode)
      require (stageId.isNonEmptyString = true)
        (raise "packet stage_id must be a non-empty string")
      let repositoryId ← declaredCoordinate options metadata "repository_id"
      require (repositoryId = .nil ∨ repositoryId.isNonEmptyString = true)
        (raise "packet repository_id must be a non-empty string when present")
      let metadata ← metadata.setField "process_contract_id" contract
      let metadata ← metadata.setField "context" context
      let metadata ← metadata.setField "stage_id" stageId
      let metadata ← metadata.setField "repository_id" repositoryId
      pure (⟨contract, context, stageId, repositoryId⟩, metadata)

/-- `init_qa_contract`, with the metadata it completes; nil for no contract. -/
def initQaContract (S : Schemas) (identity : Identity) (mode : WorkMode)
    (work : WorkContract) (options metadata : Value) : Except Failure (Value × Value) := do
  let supplied := options.get "qa_contract"
  let mirroredId := metadata.get "qa_contract_id"
  if mode = .plan then
    require (supplied = .nil ∧ mirroredId = .nil)
      (raise "plan Packet cannot carry QA contract authority")
    pure (.nil, metadata)
  else if supplied = .nil then
    require (mirroredId = .nil)
      (raise "packet QA contract id cannot replace the full birth contract")
    pure (.nil, metadata)
  else
    match S.normalizeContract supplied with
    | .error (.refused err) =>
      .error (.raised (.str (utf8 "packet QA contract is invalid: " ++ err.tostring)))
    | .error failure => .error failure
    | .ok normalized => do
        require (S.contractSame supplied normalized = true)
          (raise "packet accepts only an already normalized QA contract")
        require (Value.eq (normalized.get "lineage_id") identity.lineageId = true
            ∧ Value.eq (normalized.get "process_contract_id") work.processContractId = true
            ∧ Value.eq (normalized.get "context") work.context = true
            ∧ Value.eq (normalized.get "stage_id") work.stageId = true)
          (raise "packet QA contract diverged from birth coordinates")
        require (mirroredId = .nil
            ∨ Value.eq mirroredId (normalized.get "qa_contract_id") = true)
          (raise "packet QA contract conflicts with metadata mirror")
        let metadata ← metadata.setField "qa_contract_id" (normalized.get "qa_contract_id")
        pure (normalized.deepCopy, metadata)

def ingressKeys : List String :=
  ["protocol_version", "integration_protocol", "flow_mark", "l1_projection", "carrier_ref",
    "inherited_grave_refs", "network_projection"]

/-- `key in allowed`, for a table keyed by strings. -/
def knownKey (allowed : List String) (key : Value) : Bool :=
  allowed.any fun name => key = .text name

def validFlowMark (mark : Value) : Bool :=
  mark.isTable && mark.get "protocol_version" = .text "l1.flow_mark.v0"
    && mark.get "l1_protocol_version" = .text "l1.field.v0"
    && mark.get "variant" = .text "C"
    && (mark.get "stream_id").isNonEmptyString
    && (mark.get "stream_epoch").isPositiveInteger
    && (mark.get "birth_seq").isPositiveInteger
    && (mark.get "snapshot").isTable
    && mark.get "event_truth_status" = .text "runtime_confirmed"
    && mark.get "semantic_claim_status" = .text "none"

def validProjectionUnit (unit : Value) : Bool :=
  unit.isTable && (unit.get "projection_key").isNonEmptyString
    && unit.get "kind" = .text "l1_physical_sample"
    && (unit.get "carrier").isTable && (unit.get "source_refs").isTable
    && unit.get "event_truth_status" = .text "runtime_confirmed"
    && unit.get "content_truth_status" = .text "non_semantic_measurement"

def boundedTable (v : Value) : Bool :=
  v.isTable && match v.length with
    | .ok n => n ≤ 8
    | .error _ => false

def validL1Projection (projection mark : Value) : Bool :=
  projection.isTable
    && projection.get "protocol_version" = .text "l1.fixture_projection.v0"
    && (projection.get "adapter_id" = .text "vertical_single.v0"
      || projection.get "adapter_id" = .text "vertical_pair.v0")
    && (projection.get "flow_ref").isTable
    && Value.eq ((projection.get "flow_ref").get "stream_id") (mark.get "stream_id")
    && Value.eq ((projection.get "flow_ref").get "stream_epoch") (mark.get "stream_epoch")
    && Value.eq ((projection.get "flow_ref").get "birth_seq") (mark.get "birth_seq")
    && boundedTable (projection.get "units")
    && boundedTable (projection.get "relation_candidates")
    && projection.get "event_truth_status" = .text "runtime_confirmed"
    && projection.get "content_truth_status" = .text "non_semantic_measurement"

def projectionMatchesBirth (S : Schemas) (prompt : Bytes)
    (options input : Value) (identity : Identity) (work : WorkContract) : Except Failure Bool := do
  let projection := input.get "network_projection"
  let encoded ← S.jsonEncode (projection.get "current_work")
  pure (identity.birthKind = .recovery
    && Value.eq (projection.get "lineage_id") identity.lineageId
    && Value.eq (projection.get "target_generation") (.num identity.generation)
    && Value.eq (projection.get "source_generation")
      (.num (Number.sub identity.generation (.int 1)))
    && Value.eq (projection.get "source_packet_id") (options.get "parent_id")
    && Value.eq (projection.get "source_corpse_id") identity.parentCorpseId
    && Value.eq (projection.get "carrier_id") identity.carrierId
    && Value.eq (input.get "carrier_ref") identity.carrierId
    && Value.eq (projection.get "process_contract_id") work.processContractId
    && Value.eq (projection.get "context") work.context
    && Value.eq (projection.get "stage_id") work.stageId
    && projection.get "terminal_recovery_basis" = .text "qa_rejected"
    && prompt = encoded)

def initIngress (S : Schemas) (prompt : Bytes) (options : Value) (identity : Identity)
    (work : WorkContract) : Except Failure Ingress := do
  let input := options.get "ingress"
  if input = .nil then
    pure ⟨.nil, .nil, .nil, options.get "carrier_id", .emptyTable, .nil⟩
  else
    require (input.isTable = true ∧ input.get "protocol_version" = .text "packet.ingress.v0")
      (raise "invalid packet ingress contract")
    match input.keys.find? fun key => !knownKey ingressKeys key with
    | some key =>
      .error (.raised (.str (utf8 "packet ingress contains unknown key: " ++ key.tostring)))
    | none => do
        require (input.get "integration_protocol" = .text "vertical_packet_life.v0")
          (raise "invalid packet ingress integration protocol")
        let mark := input.get "flow_mark"
        require (validFlowMark mark = true) (raise "invalid L1 flow mark")
        let projection := input.get "l1_projection"
        if projection ≠ .nil then
          require (validL1Projection projection mark = true)
            (raise "invalid L1 ingress projection")
          let units ← (projection.get "units").ipairs
          require (∀ unit ∈ units, validProjectionUnit unit = true)
            (raise "invalid L1 ingress projection unit")
        let graves := input.get "inherited_grave_refs"
        require (graves = .nil ∨ graves.isTable = true) (raise "invalid ingress grave refs")
        let refs ← (graves.orElse .emptyTable).ipairs
        require (∀ ref ∈ refs, ref.isNonEmptyString = true) (raise "invalid ingress grave ref")
        if input.get "network_projection" ≠ .nil then
          match S.verifyProjection (input.get "network_projection") with
          | .error (.refused err) =>
            .error (.raised (.str (utf8 "invalid NETWORK ingress projection: " ++ err.tostring)))
          | .error failure => .error failure
          | .ok () => pure ()
          let agrees ← projectionMatchesBirth S prompt options input identity work
          require (agrees = true) (raise "NETWORK ingress projection diverged from Packet birth")
        else
          require (identity.birthKind ≠ .user ∨ input.get "carrier_ref" = .nil)
            (raise "user Packet ingress cannot name carrier")
        pure
          { integrationProtocol := input.get "integration_protocol"
            flowMark := mark.deepCopy
            l1Projection := projection.deepCopy
            carrierRef := input.get "carrier_ref"
            inheritedGraveRefs := (graves.orElse .emptyTable).deepCopy
            networkProjection := (input.get "network_projection").deepCopy }

def initInheritedResidue (options : Value) : Except Failure Value := do
  let enabled ←
    if options.get "memory_enabled" = .nil then
      ((options.get "memory").orElse .emptyTable).index "enabled"
    else pure (options.get "memory_enabled")
  if enabled = .bool true then pure ((options.get "inherited_residue").orElse .emptyTable).deepCopy
  else pure .emptyTable

def initRevisions : Revisions := ⟨0, 0, 0, 0, 0, 0, 0, 0, 0, 0, 0⟩

def initField : Field where
  nextUnitId := 1
  nextRelationId := 1
  unitOrder := []
  units := []
  raw :=
    { epoch := 0
      sourceRevision := 0
      sourceRefs := []
      probePolicy := .nil
      objectCoverage := .nil
      outcome := .text "unprobed"
      items := []
      coverage := .nil
      contentTruthStatus := .nil
      omittedRelations := .nil
      truncated := false
      traceEventId := .nil }
  active := []
  identityMaps := []

def unborn (packetId : Value) (prompt : Bytes) (options metadata : Value) (mode : WorkMode)
    (identity : Identity) (work : WorkContract) (qaContract : Value) (ingress : Ingress)
    (inheritedResidue : Value) : Packet where
  id := packetId
  sessionId := identity.sessionId
  lineageId := identity.lineageId
  generation := identity.generation
  parentId := options.get "parent_id"
  parentCorpseId := identity.parentCorpseId
  birthKind := identity.birthKind
  carrierId := identity.carrierId
  substrateSessionId := identity.substrateSessionId
  status := .born
  operator := .flow
  revisions := initRevisions
  physis := ⟨((options.get "budget").orElse defaultBudget).deepCopy, .nat 0⟩
  chaos := ⟨prompt, []⟩
  field := initField
  boundary := ⟨[], []⟩
  calm := ⟨[], .emptyTable, .nil, .nil⟩
  workMode := mode
  processContractId := work.processContractId
  workContext := work.context
  stageId := work.stageId
  repositoryId := work.repositoryId
  qaContractId := qaContract.get "qa_contract_id"
  qaContract := qaContract
  tension := []
  runtimeBudget := none
  inheritedResidue := inheritedResidue
  trace := []
  residue := .emptyTable
  death := none
  manifest := .nil
  terminal := none
  metadata := metadata
  ingress := ingress

def birthPayload (p : Packet) (residueCount : Nat) : Value :=
  .record [("raw_prompt", .str p.chaos.rawPrompt), ("packet_id", p.id),
    ("session_id", p.sessionId), ("lineage_id", p.lineageId),
    ("generation", .num p.generation), ("parent_id", p.parentId),
    ("parent_corpse_id", p.parentCorpseId), ("birth_kind", .text p.birthKind.name),
    ("carrier_id", p.carrierId), ("substrate_session_id", p.substrateSessionId),
    ("inherited_residue_count", .nat residueCount), ("work_mode", .text p.workMode.name),
    ("process_contract_id", p.processContractId), ("context", p.workContext),
    ("stage_id", p.stageId), ("repository_id", p.repositoryId),
    ("qa_contract_id", p.qaContractId), ("qa_contract", p.qaContract),
    ("ingress_protocol", .text "packet.ingress.v0"),
    ("integration_protocol", p.ingress.integrationProtocol),
    ("flow_mark", p.ingress.flowMark),
    ("network_projection_id", p.ingress.networkProjection.get "projection_id")]

def promptText (prompt : Value) : Except Failure Bytes :=
  match prompt with
  | .str s => if s.isEmpty then .error (raise "prompt must be non-empty string") else .ok s
  | _ => .error (raise "prompt must be non-empty string")

def workModeOf (declared : Value) : Except Failure WorkMode :=
  match Value.parse WorkMode.all WorkMode.name declared with
  | none => .error (raise "packet work_mode must be plan or build")
  | some mode => .ok mode

/-- The Packet that `packet.new` builds before it writes the birth event, with
the length of its inherited residue. -/
def conceive (S : Schemas) (counter : Nat) (prompt options : Value) :
    Except Failure (Packet × Nat) := do
  let options := options.orElse .emptyTable
  let prompt ← promptText prompt
  let declared ← options.index "metadata"
  require (declared = .nil ∨ declared.isTable = true) (raise "packet metadata must be table")
  let metadataMode := declared.get "work_mode"
  let mode ← workModeOf
    (((options.get "work_mode").orElse metadataMode).orElse (.text "build"))
  require (metadataMode = .nil ∨ metadataMode = .text mode.name)
    (raise "packet work_mode conflicts with metadata mirror")
  let metadata ← (declared.orElse .emptyTable).deepCopy.setField "work_mode" (.text mode.name)
  let packetId := (options.get "id").orElse (.text ("packet-" ++ toString counter))
  let identity ← initIdentity packetId options
  let (work, metadata) ← initWorkContract identity mode options metadata
  let (qaContract, metadata) ← initQaContract S identity mode work options metadata
  let inheritedResidue ← initInheritedResidue options
  let ingress ← initIngress S prompt options identity work
  let residueCount ← inheritedResidue.length
  pure (unborn packetId prompt options metadata mode identity work qaContract ingress
    inheritedResidue, residueCount)

/-- `packet.new`; `counter` is the process-wide id counter. -/
def new (S : Schemas) (counter : Nat) (now : Int) (prompt options : Value) :
    Except Failure Packet := do
  let (p, residueCount) ← conceive S counter prompt options
  let event ← p.storedEvent now
    (.own .birth (Topology.value .flow) (.text "runtime_confirmed")
      (birthPayload p residueCount) .emptyTable)
  pure (p.push event)

end Packet

end Proc17.Core
