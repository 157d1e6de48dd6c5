import Proc17.Layout.Collect
import Proc17.Layout.Sorted
import Proc17.Runtime.Repository.CandidateSeal

/-!
# Artifact sets

`runtime/artifact_set.lua` but for `inspect`: the contract that names the files a Packet is to
leave in its repository.  A contract is normalized by sorting its references and its
artifacts, and named by the digest of its normal form.  `repository_formation.current_set`,
which finds the work units of the Packet's current formation, is a parameter.
-/

namespace Proc17.Runtime.Repository.ArtifactSet

open Lua Core
open Layout (collect)
open Layout.Sorted (ByKeys)

def protocolVersion : Value := .text "repository.artifact_set_contract.v0"

/-! ## Bounds -/

def maxArtifacts : Nat := 128

def maxRelativePathBytes : Nat := 1024

def maxDirectoryDepth : Nat := 64

/-! ## Contracts in normal form -/

def contractKeys : List String :=
  ["protocol_version", "artifact_set_id", "packet_id", "lineage_id", "generation",
    "process_contract_id", "context", "stage_id", "repository_id", "birth_ref",
    "formation_event_ref", "choice_event_ref", "artifacts", "source_refs",
    "event_truth_status", "content_truth_status"]

def artifactKeys : List String :=
  ["work_unit_id", "work_unit_version", "unit_created_event_ref", "relative_path",
    "expected_kind", "provenance_refs"]

inductive ProcessContract where
  | buildOnly
  | softwareCreate
  deriving DecidableEq

namespace ProcessContract

def all : List ProcessContract := [.buildOnly, .softwareCreate]

def name : ProcessContract → String
  | buildOnly => "build.only.v0"
  | softwareCreate => "software.create.v0"

end ProcessContract

inductive ContentTruth where
  | semanticProposal
  | mixed
  deriving DecidableEq

namespace ContentTruth

def all : List ContentTruth := [.semanticProposal, .mixed]

def name : ContentTruth → String
  | semanticProposal => "semantic_proposal"
  | mixed => "mixed"

end ContentTruth

structure Artifact where
  workUnitId : Bytes
  workUnitVersion : Number
  unitCreatedEventRef : Bytes
  relativePath : Bytes
  provenanceRefs : List Bytes
  deriving DecidableEq

def Artifact.fields (artifact : Artifact) : List (String × Value) := [
  ("work_unit_id", .str artifact.workUnitId),
  ("work_unit_version", .num artifact.workUnitVersion),
  ("unit_created_event_ref", .str artifact.unitCreatedEventRef),
  ("relative_path", .str artifact.relativePath),
  ("expected_kind", .text "regular_file"),
  ("provenance_refs", textArray artifact.provenanceRefs)]

def Artifact.table (artifact : Artifact) : Value := .record artifact.fields

structure Header where
  packetId : Bytes
  lineageId : Bytes
  generation : Number
  processContract : ProcessContract
  stageId : Bytes
  repositoryId : Bytes
  birthRef : Bytes
  formationEventRef : Bytes
  choiceEventRef : Option Bytes
  contentTruth : ContentTruth
  deriving DecidableEq

structure Contract extends Header where
  artifacts : List Artifact
  sourceRefs : List Bytes
  deriving DecidableEq

def Contract.fields (contract : Contract) : List (String × Value) := [
  ("protocol_version", protocolVersion),
  ("packet_id", .str contract.packetId),
  ("lineage_id", .str contract.lineageId),
  ("generation", .num contract.generation),
  ("process_contract_id", .text contract.processContract.name),
  ("context", .text "software_task.v0"),
  ("stage_id", .str contract.stageId),
  ("repository_id", .str contract.repositoryId),
  ("birth_ref", .str contract.birthRef),
  ("formation_event_ref", .str contract.formationEventRef),
  ("choice_event_ref", contract.choiceEventRef.elim .nil .str),
  ("artifacts", .array (contract.artifacts.map Artifact.table)),
  ("source_refs", textArray contract.sourceRefs),
  ("event_truth_status", .text "runtime_confirmed"),
  ("content_truth_status", .text contract.contentTruth.name)]

structure Named where
  contract : Contract
  artifactSetId : Bytes

def Named.fields (named : Named) : List (String × Value) :=
  named.contract.fields ++ [("artifact_set_id", .str named.artifactSetId)]

def Named.table (named : Named) : Value := .record named.fields

/-! ## Checks -/

def positive (value : Value) (name : String) : Except Failure Number :=
  integerFrom 1 value (refuse (name ++ " must be an integer >= 1"))

/-- One turn of the loop of `strict_refs`; `seen` is read off the texts so far. -/
def uniqueText (failure : Failure) (seen : List Bytes) (item : Value) : Except Failure Bytes :=
  match item with
  | .str (b :: s) => do
      require ((b :: s) ∉ seen) failure
      pure (b :: s)
  | _ => .error failure

def strictRefs (value : Value) (name : String) : Except Failure (List Bytes) := do
  require (value.isTable = true ∧ value.hasMetatable = false)
    (refuse (name ++ " must be an array"))
  let items ← value.ipairs
  let refs ← collect (uniqueText (refuse (name ++ " must contain unique non-empty strings"))) []
    items
  require (value.keys.all (indexKey refs.length) = true) (refuse (name ++ " must be an array"))
  pure (refs.insertionSort Json.TextLe)

def someRefs (value : Value) (name empty : String) : Except Failure (List Bytes) := do
  let refs ← strictRefs value name
  require (refs ≠ []) (refuse empty)
  pure refs

def processContract (value : Value) : Except Failure ProcessContract :=
  match Value.parse ProcessContract.all ProcessContract.name value with
  | some contract => .ok contract
  | none => .error (refuse "artifact set process contract is not build-compatible")

def contentTruth (value : Value) : Except Failure ContentTruth :=
  match Value.parse ContentTruth.all ContentTruth.name value with
  | some status => .ok status
  | none => .error (refuse "artifact set content truth status is invalid")

def optionalText (value : Value) (name : String) : Except Failure (Option Bytes) :=
  match value with
  | .nil => .ok none
  | given => (nonEmpty given name).map some

def readHeader (value : Value) : Except Failure Header := do
  require (value.get "protocol_version" = protocolVersion)
    (refuse "unsupported artifact set protocol")
  let packet ← nonEmpty (value.get "packet_id") "artifact set packet_id"
  let lineage ← nonEmpty (value.get "lineage_id") "artifact set lineage_id"
  let _ ← nonEmpty (value.get "process_contract_id") "artifact set process_contract_id"
  let _ ← nonEmpty (value.get "context") "artifact set context"
  let stage ← nonEmpty (value.get "stage_id") "artifact set stage_id"
  let repository ← nonEmpty (value.get "repository_id") "artifact set repository_id"
  let birth ← nonEmpty (value.get "birth_ref") "artifact set birth_ref"
  let formation ← nonEmpty (value.get "formation_event_ref") "artifact set formation_event_ref"
  let process ← processContract (value.get "process_contract_id")
  require (value.get "context" = .text "software_task.v0")
    (refuse "artifact set context is unsupported")
  let choice ← optionalText (value.get "choice_event_ref") "artifact set choice_event_ref"
  let generation ← positive (value.get "generation") "artifact set generation"
  require (value.get "event_truth_status" = .text "runtime_confirmed")
    (refuse "artifact set declaration must be runtime_confirmed")
  let content ← contentTruth (value.get "content_truth_status")
  pure ⟨packet, lineage, generation, process, stage, repository, birth, formation, choice, content⟩

def readArtifact (input : Value) : Except Failure Artifact := do
  exactKeys input artifactKeys [] "artifact set artifact"
  let unit ← nonEmpty (input.get "work_unit_id") "artifact work_unit_id"
  let version ← positive (input.get "work_unit_version") "artifact work_unit_version"
  let path ← CandidateSeal.relativePath (input.get "relative_path")
  require (path.length ≤ maxRelativePathBytes) (refuse "artifact relative path exceeds bound")
  require (Inventory.pathDepth path ≤ maxDirectoryDepth)
    (refuse "artifact relative path depth exceeds bound")
  require (input.get "expected_kind" = .text "regular_file")
    (refuse "artifact expected_kind must be regular_file")
  let created ← nonEmpty (input.get "unit_created_event_ref") "artifact unit_created_event_ref"
  let provenance ← someRefs (input.get "provenance_refs") "artifact provenance_refs"
    "artifact provenance_refs cannot be empty"
  pure ⟨unit, version, created, path, provenance⟩

/-- One turn of the loop: `seen_ids` and `seen_paths` are read off the artifacts so far. -/
def artifact (seen : List Artifact) (input : Value) : Except Failure Artifact := do
  require (seen.length < maxArtifacts) (refuse "artifact set exceeds max_artifacts")
  let next ← readArtifact input
  require (∀ other ∈ seen, other.workUnitId ≠ next.workUnitId)
    (refuse "duplicate artifact work identity")
  require (∀ other ∈ seen, other.relativePath ≠ next.relativePath)
    (refuse "duplicate artifact relative path")
  pure next

/-- `artifact_less`, or the same path and work unit. -/
abbrev ArtifactLe : Artifact → Artifact → Prop :=
  ByKeys Json.TextLe Artifact.relativePath Artifact.workUnitId

def normalizeArtifacts (value : Value) : Except Failure (List Artifact) := do
  require (value.isTable = true ∧ value.hasMetatable = false)
    (refuse "artifact set artifacts must be an array")
  let items ← value.ipairs
  let artifacts ← collect artifact [] items
  require (value.keys.all (indexKey artifacts.length) = true)
    (refuse "artifact set artifacts must be an array")
  require (artifacts ≠ []) (refuse "artifact set requires at least one artifact")
  pure (artifacts.insertionSort ArtifactLe)

def Contract.identify (contract : Contract) : Except Failure Bytes :=
  Digest.identify "artifact-set:" (.record contract.fields)

def normalizeContract (value : Value) (requireIdentity : Bool) : Except Failure Named := do
  exactKeys value contractKeys [] "artifact set contract"
  let header ← readHeader value
  let refs ← someRefs (value.get "source_refs") "artifact set source_refs"
    "artifact set requires at least one source ref"
  let artifacts ← normalizeArtifacts (value.get "artifacts")
  let contract : Contract := ⟨header, artifacts, refs⟩
  let id ← contract.identify
  require (requireIdentity = false ∨ value.get "artifact_set_id" = .str id)
    (refuse "artifact set identity mismatch")
  pure ⟨contract, id⟩

def identify (value : Value) : Except Failure Bytes := do
  let named ← normalizeContract value false
  pure named.artifactSetId

def validate (value : Value) : Except Failure Value := do
  let named ← normalizeContract value true
  pure named.table.deepCopy

/-- The first result of `validate`, nothing where it refuses; what it raises is not caught. -/
def validated (value : Value) : Except Failure (Option Value) :=
  match validate value with
  | .ok normalized => .ok (some normalized)
  | .error (.refused _) => .ok none
  | .error failure => .error failure

def same (left right : Value) : Except Failure Bool := do
  let normalizedLeft ← validated left
  let normalizedRight ← validated right
  match normalizedLeft, normalizedRight with
  | some normalizedLeft, some normalizedRight => Json.same normalizedLeft normalizedRight
  | _, _ => pure false

/-! ## Derivation -/

/-- `sorted_unique`: what is no text is passed over. -/
def sortedTexts (values : List Value) : List Bytes :=
  sortedUnique (values.filterMap fun value => match value with
    | .str s => some s
    | _ => none)

def diagnostic (code : String) (refs : List Value) : Value :=
  .record [
    ("kind", .text "artifact_set_diagnostic"),
    ("protocol_version", .text "runtime.artifact_set_diagnostic.v0"),
    ("code", .text code),
    ("source_refs", textArray (sortedTexts refs)),
    ("event_truth_status", .text "runtime_confirmed")]

structure Birth where
  eventRef : Value
  processContractId : Value
  context : Value
  stageId : Value
  repositoryId : Value

def bornAs (inst event payload : Value) : Bool :=
  event.truthy && event.get "type" = .text "birth" && event.get "operator" = .text "▽"
    && event.get "truth_status" = .text "runtime_confirmed" && payload.isTable
    && (payload.get "packet_id").eq (inst.get "id")
    && (payload.get "lineage_id").eq (inst.get "lineage_id")
    && (payload.get "generation").eq (inst.get "generation")
    && payload.get "work_mode" = .text "build"
    && (payload.get "process_contract_id").eq (inst.get "process_contract_id")
    && (payload.get "context").eq (inst.get "work_context")
    && (payload.get "stage_id").eq (inst.get "stage_id")
    && (payload.get "repository_id").eq (inst.get "repository_id")

def birthContract (inst : Value) : Except Failure Birth := do
  require (inst.isTable = true ∧ (inst.get "id").isString = true ∧ (inst.get "trace").isTable = true)
    (refuse "artifact set derivation requires Packet")
  require (inst.get "status" ≠ .text "dead" ∧ inst.get "status" ≠ .text "manifested")
    (refuse "artifact set derivation requires living Packet")
  let event ← Action.indexBy (inst.get "trace") (.nat 1)
  let payload ← Action.guarded event "payload"
  require (bornAs inst event payload = true) (refuse "Packet birth/work contract invariant failed")
  let work ← Action.guarded (inst.get "regime") "work"
  let mode ← Action.guarded work "mode"
  require (work.truthy = true → mode = .text "build")
    (refuse "artifact set is available only in build mode")
  let _ ← (processContract (inst.get "process_contract_id")).mapError fun _ =>
    refuse "Packet process contract is not build-compatible"
  require (inst.get "work_context" = .text "software_task.v0")
    (refuse "Packet work context is unsupported")
  require ((inst.get "stage_id").isNonEmptyString = true) (refuse "Packet stage identity is absent")
  require ((inst.get "repository_id").isNonEmptyString = true)
    (.refused (diagnostic "repository_identity_absent" [event.get "id"]))
  pure ⟨event.get "id", inst.get "process_contract_id", inst.get "work_context",
    inst.get "stage_id", inst.get "repository_id"⟩

abbrev CurrentSet := Value → Nat → Except Failure Value

def unitOf (inst basis : Value) : Except Failure Value := do
  let id ← basis.index "unit_id"
  let field ← inst.index "field"
  let units ← field.index "units"
  let unit ← Action.indexBy units id
  let version ← basis.index "unit_version"
  require (unit.isTable = true ∧ (unit.get "version").eq version = true
      ∧ (unit.get "carrier").isTable = true
      ∧ (unit.get "carrier").get "kind" = .text "repository.create_text_file.v0"
      ∧ ((unit.get "carrier").get "value").isTable = true)
    (refuse "repository artifact carrier invariant failed")
  pure unit

def deriveArtifact (inst basis : Value) : Except Failure (Value × List Value) := do
  let unit ← unitOf inst basis
  let path ← CandidateSeal.relativePath (((unit.get "carrier").get "value").get "path")
  let refs ← (basis.get "provenance_refs").ipairs
  pure (.record [
    ("work_unit_id", unit.get "id"),
    ("work_unit_version", unit.get "version"),
    ("unit_created_event_ref", basis.get "unit_created_event_ref"),
    ("relative_path", .str path),
    ("expected_kind", .text "regular_file"),
    ("provenance_refs", (basis.get "provenance_refs").deepCopy)],
    basis.get "unit_created_event_ref" :: refs)

/-- The table that `derive` normalizes. -/
def declaration (inst : Value) (birth : Birth) (formation : Value) (artifacts refs : List Value) :
    Value :=
  .record [
    ("protocol_version", protocolVersion),
    ("packet_id", inst.get "id"),
    ("lineage_id", inst.get "lineage_id"),
    ("generation", inst.get "generation"),
    ("process_contract_id", birth.processContractId),
    ("context", birth.context),
    ("stage_id", birth.stageId),
    ("repository_id", birth.repositoryId),
    ("birth_ref", birth.eventRef),
    ("formation_event_ref", formation.get "formation_event_ref"),
    ("choice_event_ref", formation.get "choice_event_ref"),
    ("artifacts", .array artifacts),
    ("source_refs", textArray (sortedTexts refs)),
    ("event_truth_status", .text "runtime_confirmed"),
    ("content_truth_status", formation.get "content_truth_status")]

def labelled {α : Type} (label : String) (result : Except Failure α) : Except Failure α :=
  match result with
  | .error (.refused err) => .error (refuseWith label err)
  | other => other

/-- `artifact_set.derive`; the references are those that are not nil, in their order. -/
def derive (currentSet : CurrentSet) (inst : Value) : Except Failure Value := do
  let birth ← birthContract inst
  let formation ← currentSet inst maxArtifacts
  let formationRef ← formation.index "formation_event_ref"
  let choice := formation.get "choice_event_ref"
  let sources ← ((formation.get "source_refs").orElse .emptyTable).ipairs
  let units ← (formation.get "units").ipairs
  let derived ← units.mapM (deriveArtifact inst)
  let refs := [birth.eventRef, formationRef] ++ (if choice.truthy then [choice] else [])
    ++ sources ++ derived.flatMap Prod.snd
  let named ← labelled "derived artifact set failed normalization: "
    (normalizeContract (declaration inst birth formation (derived.map Prod.fst) refs) false)
  let validated ← labelled "derived artifact set failed validation: " (validate named.table)
  pure validated.deepCopy

end Proc17.Runtime.Repository.ArtifactSet
