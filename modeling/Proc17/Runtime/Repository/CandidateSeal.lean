import Proc17.Lua.Dictionary
import Proc17.Runtime.Repository.Inventory

/-!
# Comparing a candidate with its inventory

`normalize_request`, `compare_inventory` and `seal_from` of `runtime/candidate_seal.lua`.
The request names the files and directories a candidate consists of; the inventory is
compared with them path by path, and the seal lists the files as artifacts.
-/

namespace Proc17.Runtime.Repository.CandidateSeal

open Lua Core

/-! ## The request -/

def requestRequired : List String :=
  ["protocol_version", "packet_id", "lineage_id", "generation", "process_contract_id",
    "context", "stage_id", "repository_id", "root_authority_id", "lifecycle_id",
    "lifecycle_revision", "root_fingerprint", "grant_id", "grant_revision",
    "artifact_set_id", "artifact_set_inspection_id", "expected_files",
    "expected_directories", "inventory_bounds", "source_refs", "event_truth_status",
    "content_truth_status"]

def requestKeys : List String := "request_id" :: requestRequired

def expectedFileKeys : List String :=
  ["relative_path", "expected_kind", "work_unit_id", "work_unit_version", "expected_bytes",
    "expected_sha256", "completion_ref", "verification_ref"]

structure ExpectedFile where
  relativePath : Bytes
  workUnitId : Bytes
  workUnitVersion : Number
  expectedBytes : Number
  expectedSha256 : Bytes
  completionRef : Bytes
  verificationRef : Bytes

def ExpectedFile.table (file : ExpectedFile) : Value :=
  .record [
    ("relative_path", .str file.relativePath),
    ("expected_kind", .text "regular_file"),
    ("work_unit_id", .str file.workUnitId),
    ("work_unit_version", .num file.workUnitVersion),
    ("expected_bytes", .num file.expectedBytes),
    ("expected_sha256", .str file.expectedSha256),
    ("completion_ref", .str file.completionRef),
    ("verification_ref", .str file.verificationRef)]

def readExpectedFile (path : Bytes) (file : Value) : Except Failure ExpectedFile :=
  match file.get "work_unit_id", file.get "work_unit_version", file.get "expected_bytes",
    file.get "expected_sha256", file.get "completion_ref", file.get "verification_ref" with
  | .str unit, .num version, .num bytes, .str sha256, .str completion, .str verification => do
      require (file.get "expected_kind" = .text "regular_file" ∧ unit ≠ []
          ∧ (Value.num version).isPositiveInteger = true
          ∧ isNonNegativeInteger (.num bytes) = true ∧ sha256.length = 64
          ∧ completion ≠ [] ∧ verification ≠ [])
        (refuse "candidate expected file is invalid")
      pure ⟨path, unit, version, bytes, sha256, completion, verification⟩
  | _, _, _, _, _, _ => .error (refuse "candidate expected file is invalid")

/-- `repository_intent.validate_relative_path`, with the path it answers. -/
def relativePath (value : Value) : Except Failure Bytes := do
  Action.validateRelativePath value
  match value with
  | .str path => pure path
  | _ => .error (.fault "path")

/-- One turn of the loop: `seen_paths` and `seen_units` are read off the files so far. -/
def expectedFile (seen : List ExpectedFile) (file : Value) : Except Failure ExpectedFile := do
  exactKeys file expectedFileKeys expectedFileKeys "candidate expected file"
  let path ← relativePath (file.get "relative_path")
  let result ← readExpectedFile path file
  require (seen.all (fun other => other.relativePath ≠ path ∧ other.workUnitId ≠ result.workUnitId)
      = true)
    (refuse "candidate expected files contain duplicate identity")
  pure result

def expectedFilesFrom : List ExpectedFile → List Value → Except Failure (List ExpectedFile)
  | seen, [] => .ok seen
  | seen, file :: rest => do
      let next ← expectedFile seen file
      expectedFilesFrom (seen ++ [next]) rest

/-- The order of `table.sort`: by path, then by work unit. -/
def FileLe (a b : ExpectedFile) : Prop :=
  if a.relativePath = b.relativePath then Json.TextLe a.workUnitId b.workUnitId
  else Json.TextLe a.relativePath b.relativePath

instance (a b : ExpectedFile) : Decidable (FileLe a b) :=
  inferInstanceAs (Decidable (if a.relativePath = b.relativePath then _ else _))

def normalizeExpectedFiles (value : Value) : Except Failure (List ExpectedFile) := do
  let items ← denseArray value "candidate expected_files"
  let files ← expectedFilesFrom [] items
  pure (files.insertionSort FileLe)

def distinctTexts (name : String) : List Bytes → List Value → Except Failure (List Bytes)
  | seen, [] => .ok seen
  | seen, .str (b :: s) :: rest => do
      require ((b :: s) ∉ seen) (refuse (name ++ " contains invalid or duplicate identity"))
      distinctTexts name (seen ++ [b :: s]) rest
  | _, _ :: _ => .error (refuse (name ++ " contains invalid or duplicate identity"))

def normalizeStringArray (value : Value) (name : String) : Except Failure (List Bytes) := do
  let items ← denseArray value name
  let texts ← distinctTexts name [] items
  pure (texts.insertionSort Json.TextLe)

/-- A normalized request: its table, and the parts of it that are compared. -/
structure Request where
  requestId : Bytes
  table : Value
  files : List ExpectedFile
  directories : List Bytes
  bounds : Value

def requireRequestFields (value : Value) : Except Failure Unit := do
  require (value.get "protocol_version" = .text "repository.candidate_seal_request.v0"
      ∧ value.get "context" = .text "software_task.v0"
      ∧ value.get "event_truth_status" = .text "runtime_confirmed"
      ∧ (value.get "content_truth_status" = .text "semantic_proposal"
        ∨ value.get "content_truth_status" = .text "mixed"))
    (refuse "candidate seal request protocol is invalid")
  ["packet_id", "lineage_id", "process_contract_id", "stage_id", "repository_id",
    "root_authority_id", "lifecycle_id", "root_fingerprint", "grant_id", "artifact_set_id",
    "artifact_set_inspection_id"].forM fun key =>
      require ((value.get key).isNonEmptyString = true)
        (refuse ("candidate seal request field is invalid: " ++ key))
  require ((value.get "generation").isPositiveInteger = true
      ∧ (value.get "lifecycle_revision").isPositiveInteger = true
      ∧ (value.get "grant_revision").isPositiveInteger = true)
    (refuse "candidate seal request revisions are invalid")

def requestSeed (value : Value) (files : List ExpectedFile) (directories : List Bytes)
    (bounds : Value) (refs : List Bytes) : Except Failure Value := do
  let seed ← value.deepCopy.setField "request_id" .nil
  let seed ← seed.setField "expected_files" (.array (files.map ExpectedFile.table))
  let seed ← seed.setField "expected_directories" (textArray directories)
  let seed ← seed.setField "inventory_bounds" bounds
  seed.setField "source_refs" (textArray refs)

def normalizeRequest (value : Value) (requireIdentity : Bool) : Except Failure Request := do
  exactKeys value requestKeys requestRequired "candidate seal request"
  requireRequestFields value
  let files ← normalizeExpectedFiles (value.get "expected_files")
  let directories ← normalizeStringArray (value.get "expected_directories")
    "candidate expected_directories"
  let refs ← normalizeStringArray (value.get "source_refs") "candidate seal source_refs"
  let bounds ← normalizeInventoryBounds (value.get "inventory_bounds")
  let seed ← requestSeed value files directories bounds refs
  let id ← Digest.identify "candidate-seal-request:" seed
  let table ← seed.setField "request_id" (.str id)
  require (requireIdentity = false ∨ value.get "request_id" = .str id)
    (refuse "candidate seal request identity mismatch")
  pure ⟨id, table, files, directories, bounds⟩

/-! ## The comparison -/

open Inventory (Shape Entry)

def ExpectedFile.shape (file : ExpectedFile) : Shape :=
  .regularFile file.expectedBytes file.expectedSha256

/-- The table `expected`: the directories are entered after the files. -/
def expected (request : Request) : Dictionary Bytes Shape :=
  let files := Dictionary.fill ExpectedFile.relativePath ExpectedFile.shape ∅ request.files
  Dictionary.fill id (fun _ => .directory) files request.directories

/-- The table `observed` -/
def observed (inventory : Inventory) : Dictionary Bytes Entry :=
  Dictionary.fill Entry.relativePath id ∅ inventory.entries

def mismatchAt (observed : Dictionary Bytes Entry) (path : Bytes) (wanted : Shape) :
    Option Bytes :=
  match observed.lookup path with
  | none => some (utf8 "missing:" ++ path)
  | some got =>
    if got.shape.kind ≠ wanted.kind then some (utf8 "kind:" ++ path)
    else if wanted.kind = "regular_file"
        ∧ (got.shape.bytes.eq wanted.bytes = false ∨ got.shape.sha256.eq wanted.sha256 = false)
      then some (utf8 "content:" ++ path)
    else none

/-- The second result of `compare_inventory`; the first is whether it is empty. -/
def mismatches (request : Request) (inventory : Inventory) : List Bytes :=
  let wanted := expected request
  let got := observed inventory
  let missed := wanted.entries.filterMap fun entry => mismatchAt got entry.1 entry.2
  let extra := (got.keys.filter fun path => !wanted.keys.contains path).map (utf8 "extra:" ++ ·)
  (missed ++ extra).insertionSort Json.TextLe

def compareInventory (request : Request) (inventory : Inventory) : Bool × List Bytes :=
  ((mismatches request inventory).isEmpty, mismatches request inventory)

/-! ## The seal -/

structure Artifact where
  relativePath : Bytes
  workUnitId : Bytes
  workUnitVersion : Number
  bytes : Number
  sha256 : Bytes
  completionRef : Bytes
  verificationRef : Bytes

def Artifact.table (artifact : Artifact) : Value :=
  .record [
    ("relative_path", .str artifact.relativePath),
    ("work_unit_id", .str artifact.workUnitId),
    ("work_unit_version", .num artifact.workUnitVersion),
    ("bytes", .num artifact.bytes),
    ("sha256", .str artifact.sha256),
    ("completion_ref", .str artifact.completionRef),
    ("verification_ref", .str artifact.verificationRef)]

def ExpectedFile.artifact (file : ExpectedFile) : Artifact :=
  ⟨file.relativePath, file.workUnitId, file.workUnitVersion, file.expectedBytes,
    file.expectedSha256, file.completionRef, file.verificationRef⟩

structure Seal where
  candidateSealId : Bytes
  artifacts : List Artifact
  table : Value

def sealFields (request : Request) (inventory : Inventory) (closureId : Bytes)
    (artifacts : List Artifact) : List (String × Value) := [
  ("protocol_version", .text "repository.candidate_seal.v0"),
  ("packet_id", request.table.get "packet_id"),
  ("lineage_id", request.table.get "lineage_id"),
  ("generation", request.table.get "generation"),
  ("process_contract_id", request.table.get "process_contract_id"),
  ("context", request.table.get "context"),
  ("stage_id", request.table.get "stage_id"),
  ("repository_id", request.table.get "repository_id"),
  ("root_authority_id", request.table.get "root_authority_id"),
  ("lifecycle_id", request.table.get "lifecycle_id"),
  ("root_fingerprint", request.table.get "root_fingerprint"),
  ("artifact_set_id", request.table.get "artifact_set_id"),
  ("request_id", .str request.requestId),
  ("inventory_id", .str inventory.inventoryId),
  ("inventory_digest", .str inventory.inventoryDigest),
  ("inventory_bounds", inventory.bounds.deepCopy),
  ("authority_closure_ref", .str closureId),
  ("artifacts", .array (artifacts.map Artifact.table)),
  ("source_refs", textArray (sortedUnique [request.requestId,
    (request.table.get "artifact_set_id").tostring,
    (request.table.get "artifact_set_inspection_id").tostring, inventory.inventoryId,
    closureId])),
  ("event_truth_status", .text "runtime_confirmed"),
  ("content_truth_status", .text "mixed")]

/-- `seal_from`, for the closure with this id. -/
def sealFrom (request : Request) (inventory : Inventory) (closureId : Bytes) :
    Except Failure Seal := do
  let artifacts := request.files.map ExpectedFile.artifact
  let fields := sealFields request inventory closureId artifacts
  let id ← Digest.identify "candidate-seal:" (.record fields)
  pure ⟨id, artifacts, .record (("candidate_seal_id", .str id) :: fields)⟩

end Proc17.Runtime.Repository.CandidateSeal
