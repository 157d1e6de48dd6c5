import Proc17.Runtime.Repository.Inventory

/-!
# The provider adapter

`runtime/repository_provider.lua` stands between the native library and the registry.  What
the library answers is compared with a closed list of stages, codes and classes and with the
costs each stage can have; anything else is a contract failure, which is raised.
-/

namespace Proc17.Runtime.Repository.Provider

open Lua Core

def contractFailure : String := "repository native provider contract failure: "

def fail (message : String) : Failure := raise (contractFailure ++ message)

def exactPlainRecord (value : Value) (allowed : List String) (name : String)
    (required : List String) : Except Failure Unit :=
  orFail contractFailure (exactKeys value allowed required name)

def validateCost (value : Value) (name : String) : Except Failure Unit := do
  exactPlainRecord value Inventory.costKeys name Inventory.costKeys
  require (isNonNegativeInteger (value.get "tool_calls") = true
      ∧ isNonNegativeInteger (value.get "file_writes") = true
      ∧ isNonNegativeNumber (value.get "time_ms") = true)
    (fail (name ++ " contains invalid economics"))

def validateFilesystemIdentity (value : Value) (name : String) : Except Failure Unit := do
  exactPlainRecord value Inventory.identityKeys name Inventory.identityKeys
  require (isNonNegativeInteger (value.get "device") = true
      ∧ isNonNegativeInteger (value.get "inode") = true)
    (fail (name ++ " contains invalid device/inode"))

/-! ## Errors -/

inductive Operation where
  | openRepository
  | revalidate
  | close
  | createTextFile
  | readTextFile
  | inventoryTree

def Operation.name : Operation → String
  | .openRepository => "open_repository"
  | .revalidate => "revalidate"
  | .close => "close"
  | .createTextFile => "create_text_file"
  | .readTextFile => "read_text_file"
  | .inventoryTree => "inventory_tree"

def errorKeys : List String :=
  ["protocol_version", "class", "code", "stage", "errno", "mutation_primitive_entered",
    "published", "cost", "residue"]

def errorRequired : List String :=
  ["protocol_version", "class", "code", "stage", "mutation_primitive_entered", "published",
    "cost"]

def residueKeys : List String := ["protocol_version", "kind", "relative_name"]

/-- Codes of the class `world`. -/
def world (codes : List String) : List (String × String) := codes.map fun code => (code, "world")

def contract (code : String) : List (String × String) := [(code, "contract")]

def ambiguous (code : String) : List (String × String) := [(code, "ambiguous")]

def initialOpenWorld : List (String × String) :=
  world ["path_symlink", "path_containment_denied", "root_missing", "root_invalid",
    "permission_denied", "provider_unavailable", "io_failure"]

def rootWorld : List (String × String) := world ["root_changed", "provider_unavailable"]

def readPathWorld : List (String × String) :=
  world ["path_symlink", "path_containment_denied", "permission_denied", "provider_unavailable",
    "io_failure"]

def parentWorld : List (String × String) :=
  world ["parent_missing", "parent_not_directory", "path_symlink", "path_containment_denied",
    "permission_denied", "provider_unavailable", "io_failure"]

def createIoWorld : List (String × String) := world ["no_space", "permission_denied", "io_failure"]

/-- `provider_error_contracts`: the codes of each stage, with the class of each code. -/
def errorContracts : Operation → List (String × List (String × String))
  | .openRepository => [
      ("validate_root_request", contract "invalid_request"),
      ("open_project_base", initialOpenWorld),
      ("observe_project_base", initialOpenWorld),
      ("open_repository_root", initialOpenWorld),
      ("observe_repository_root", initialOpenWorld),
      ("project_root_identity", contract "identity_unrepresentable")]
  | .revalidate => [
      ("revalidate_handle", contract "handle_closed"),
      ("open_project_base", rootWorld),
      ("observe_project_base", rootWorld),
      ("open_repository_root", rootWorld),
      ("observe_repository_root", rootWorld),
      ("compare_root_identity", world ["root_changed"]),
      ("close_revalidation_descriptors", world ["io_failure"])]
  | .close => [("close_repository", world ["io_failure"])]
  | .createTextFile => [
      ("create_handle", contract "handle_closed"),
      ("validate_create_request", contract "invalid_request"),
      ("open_project_base", rootWorld),
      ("observe_project_base", rootWorld),
      ("open_repository_root", rootWorld),
      ("observe_repository_root", rootWorld),
      ("compare_root_identity", world ["root_changed"]),
      ("open_parent", parentWorld),
      ("observe_parent_policy", world ["parent_not_private", "io_failure"]),
      ("getrandom", world ["provider_unavailable", "io_failure"]),
      ("open_temp", world ["temp_name_collision", "no_space", "permission_denied", "io_failure"]),
      ("set_temp_mode", createIoWorld),
      ("observe_temp_identity", world ["temp_identity_invalid", "io_failure"]),
      ("write_temp", createIoWorld),
      ("fsync_temp", createIoWorld),
      ("close_temp", createIoWorld),
      ("before_rename", world ["io_failure"]),
      ("rename_noreplace", world ["target_exists", "no_space", "permission_denied",
        "provider_unavailable", "io_failure"]),
      ("cleanup_unlink", ambiguous "temp_cleanup_failed"),
      ("after_rename", ambiguous "ambiguous_effect"),
      ("fsync_parent", ambiguous "ambiguous_effect"),
      ("close_transaction_descriptors", ambiguous "ambiguous_effect")]
  | .readTextFile => [
      ("read_handle", contract "handle_closed"),
      ("validate_read_request", contract "invalid_request"),
      ("open_project_base", rootWorld),
      ("observe_project_base", rootWorld),
      ("open_repository_root", rootWorld),
      ("observe_repository_root", rootWorld),
      ("compare_root_identity", world ["root_changed"]),
      ("open_read_parent", parentWorld),
      ("classify_read_target", readPathWorld),
      ("open_read_target", world ["target_changed"] ++ readPathWorld),
      ("observe_read_target", world ["target_changed", "io_failure"]),
      ("allocate_read_buffer", world ["io_failure"]),
      ("read_target", world ["io_failure"]),
      ("verify_read_stability", world ["read_unstable", "io_failure"]),
      ("reobserve_read_target", world ["target_changed"]),
      ("close_read_descriptors", world ["io_failure"])]
  | .inventoryTree => [
      ("inventory_handle", contract "handle_closed"),
      ("validate_inventory_request", contract "invalid_request"),
      ("open_project_base", rootWorld),
      ("observe_project_base", rootWorld),
      ("open_repository_root", rootWorld),
      ("observe_repository_root", rootWorld),
      ("compare_root_identity", world ["root_changed"]),
      ("open_inventory_root", world ["permission_denied", "io_failure"]),
      ("enumerate_inventory_tree", world ["permission_denied", "io_failure"]),
      ("reobserve_inventory_tree", world ["io_failure"]),
      ("verify_inventory_stability", world ["inventory_unstable"]),
      ("revalidate_inventory_root", world ["root_changed"]),
      ("close_inventory_descriptors", world ["io_failure"]),
      ("project_inventory_identity", contract "identity_unrepresentable")]

def expectedClass (operation : Operation) (stage code : Bytes) : Option String := do
  let codes ← (errorContracts operation).find? fun entry => utf8 entry.1 = stage
  let entry ← codes.2.find? fun entry => utf8 entry.1 = code
  pure entry.2

def preCallStages : Operation → List String
  | .openRepository => ["validate_root_request"]
  | .revalidate => ["revalidate_handle"]
  | .close => ["close_repository"]
  | .createTextFile => ["validate_create_request", "create_handle"]
  | .readTextFile => ["read_handle", "validate_read_request"]
  | .inventoryTree => ["inventory_handle", "validate_inventory_request"]

def preMutationStages : List String :=
  ["open_project_base", "observe_project_base", "open_repository_root",
    "observe_repository_root", "compare_root_identity", "open_parent", "observe_parent_policy",
    "getrandom"]

def postPublishStages : List String :=
  ["after_rename", "fsync_parent", "close_transaction_descriptors"]

def isAmong (stage : Bytes) (stages : List String) : Bool := stages.any fun name => utf8 name = stage

def isHexDigit (b : UInt8) : Bool :=
  (48 ≤ b && b ≤ 57) || (65 ≤ b && b ≤ 70) || (97 ≤ b && b ≤ 102)

/-- 44 bytes that match `^%.proc17%-tmp%-%x+$` -/
def isTempName : Value → Bool
  | .str name =>
    name.length = 44 && name.take 12 = utf8 ".proc17-tmp-" && (name.drop 12).all isHexDigit
  | _ => false

def requireResidue (residue : Value) : Except Failure Unit := do
  exactPlainRecord residue residueKeys "create provider residue" residueKeys
  require (residue.get "protocol_version" = .text "repository.provider_residue.v0"
      ∧ residue.get "kind" = .text "reserved_temp"
      ∧ isTempName (residue.get "relative_name") = true)
    (fail "create_text_file returned malformed temporary residue")

def createEconomics (stage : Bytes) (value : Value) : Except Failure Unit := do
  let preCall := isAmong stage (preCallStages .createTextFile)
  let untouched := preCall || isAmong stage preMutationStages
  let cost := value.get "cost"
  require ((cost.get "tool_calls").eq (.nat (if preCall then 0 else 1)) = true
      ∧ (cost.get "file_writes").eq (.nat (if untouched then 0 else 1)) = true
      ∧ value.get "mutation_primitive_entered" = .bool (!untouched)
      ∧ value.get "published" = .bool (isAmong stage postPublishStages))
    (fail "create_text_file returned impossible stage economics")
  if stage = utf8 "cleanup_unlink" then requireResidue (value.get "residue")
  else
    require (value.get "residue" = .nil)
      (fail "create_text_file returned residue outside cleanup ambiguity")

def quietEconomics (operation : Operation) (mutation : String) (stage : Bytes) (value : Value) :
    Except Failure Unit := do
  let cost := value.get "cost"
  require (value.get "mutation_primitive_entered" = .bool false
      ∧ value.get "published" = .bool false
      ∧ (cost.get "file_writes").eq (.nat 0) = true
      ∧ value.get "residue" = .nil)
    (fail (operation.name ++ mutation))
  require ((cost.get "tool_calls").eq
      (.nat (if isAmong stage (preCallStages operation) then 0 else 1)) = true)
    (fail (operation.name ++ " returned impossible tool-call cost"))

def requireEconomics (operation : Operation) (stage : Bytes) (value : Value) :
    Except Failure Unit :=
  match operation with
  | .createTextFile => createEconomics stage value
  | .readTextFile => quietEconomics .readTextFile " reported mutation or residue" stage value
  | .inventoryTree => quietEconomics .inventoryTree " reported mutation or residue" stage value
  | other => quietEconomics other " root operation reported mutation" stage value

def stageAndCode (operation : Operation) (value : Value) : Except Failure (Bytes × Bytes) :=
  match value.get "stage", value.get "code" with
  | .str (s :: stage), .str (c :: code) => .ok (s :: stage, c :: code)
  | _, _ => .error (fail (operation.name ++ " returned malformed provider error"))

def unsupportedPair (operation : Operation) (stage code : Bytes) : Failure :=
  .raised (.str (utf8 ("repository native provider contract failure: " ++ operation.name
    ++ " returned unsupported error pair: ") ++ stage ++ utf8 "/" ++ code))

def requireListed (operation : Operation) (stage code : Bytes) (value : Value) :
    Except Failure Unit :=
  require ((expectedClass operation stage code).any (fun name => value.get "class" = .text name)
      = true) (unsupportedPair operation stage code)

def validateProviderError (operation : Operation) (value : Value) : Except Failure Value := do
  exactPlainRecord value errorKeys (operation.name ++ " provider error") errorRequired
  require (value.get "protocol_version" = .text "repository.provider_error.v0"
      ∧ (∃ b, value.get "mutation_primitive_entered" = .bool b)
      ∧ ∃ b, value.get "published" = .bool b)
    (fail (operation.name ++ " returned malformed provider error"))
  let pair ← stageAndCode operation value
  require (value.get "errno" = .nil ∨ (isNonNegativeInteger (value.get "errno") = true
      ∧ (value.get "errno").eq (.nat 0) = false))
    (fail (operation.name ++ " returned invalid errno"))
  validateCost (value.get "cost") (operation.name ++ " provider error cost")
  requireListed operation pair.1 pair.2 value
  requireEconomics operation pair.1 value
  pure value.deepCopy

/-! ## Inventories -/

def inventoryBoundsKeys : List String := "protocol_version" :: Inventory.boundNames

def invalidInventoryRequest : Failure := .refused (.record [
  ("protocol_version", .text "repository.provider_error.v0"),
  ("class", .text "contract"),
  ("code", .text "invalid_request"),
  ("stage", .text "validate_inventory_request"),
  ("mutation_primitive_entered", .bool false),
  ("published", .bool false),
  ("cost", .record [("tool_calls", .nat 0), ("file_writes", .nat 0), ("time_ms", .nat 0)])])

def validateInventoryRequest (value : Value) : Except Failure Unit := do
  (exactKeys value inventoryBoundsKeys inventoryBoundsKeys "inventory request").mapError
    fun _ => invalidInventoryRequest
  require (value.get "protocol_version" = .text "repository.inventory_bounds.v0")
    invalidInventoryRequest
  inventoryCeilings.forM fun ceiling =>
    require ((value.get ceiling.1).isPositiveInteger = true
        ∧ isAbove ceiling.2 (value.get ceiling.1) = false)
      invalidInventoryRequest

def validInventoryComponent (request : Value) (component : Bytes) : Bool :=
  !isDot component && !Inventory.exceeds request "max_component_bytes" (.int component.length)

def validInventoryPath (request : Value) (path : Bytes) : Bool :=
  path ≠ [] && path.head? ≠ some 47 && path.getLast? ≠ some 47
    && !Inventory.exceeds request "max_path_bytes" (.int path.length)
    && !hasDoubleSlash path && !path.any isControl && Action.validUtf8 path
    && (splitPath path).all (validInventoryComponent request)
    && !Inventory.exceeds request "max_depth" (.int (splitPath path).length)
    && splitPath path ≠ []

def canonicalPath (request : Value) (previous : Option Bytes) (entry : Value) :
    Except Failure Bytes :=
  match entry.get "relative_path" with
  | .str path => do
      require (validInventoryPath request path = true
          ∧ (∀ last ∈ previous, ¬ Json.TextLe path last)
          ∧ (entry.get "kind" = .text "directory" ∨ entry.get "kind" = .text "regular_file"
            ∨ entry.get "kind" = .text "symlink" ∨ entry.get "kind" = .text "special"))
        (fail "inventory_tree returned invalid canonical entry")
      pure path
  | _ => .error (fail "inventory_tree returned invalid canonical entry")

def addBytes (request : Value) (total : Number) (entry : Value) : Except Failure Number :=
  if entry.get "kind" = .text "regular_file" then
    match entry.get "bytes", entry.get "content" with
    | .num bytes, .str content => do
        require (isNonNegativeInteger (.num bytes) = true
            ∧ Inventory.exceeds request "max_file_bytes" bytes = false
            ∧ Number.eq (.int content.length) bytes = true)
          (fail "inventory_tree returned invalid bounded file")
        let sum := Number.add total bytes
        require (Inventory.exceeds request "max_total_bytes" sum = false)
          (fail "inventory_tree exceeded aggregate byte bound")
        pure sum
    | _, _ => .error (fail "inventory_tree returned invalid bounded file")
  else do
    require (entry.get "bytes" = .nil ∧ entry.get "content" = .nil)
      (fail "inventory_tree returned bytes for non-file entry")
    pure total

/-- The loop of `validate_inventory_result`, with `previous` and `total`. -/
def inventoryEntries (request : Value) :
    Option Bytes → Number → List Value → Except Failure Number
  | _, total, [] => .ok total
  | previous, total, entry :: rest => do
      exactPlainRecord entry Inventory.entryKeys "inventory entry" Inventory.entryRequired
      let path ← canonicalPath request previous entry
      validateFilesystemIdentity (entry.get "identity_before") "inventory entry identity_before"
      validateFilesystemIdentity (entry.get "identity_after") "inventory entry identity_after"
      let sum ← addBytes request total entry
      inventoryEntries request (some path) sum rest

def validateInventoryResult (value request : Value) : Except Failure Value := do
  exactPlainRecord value Inventory.resultKeys "inventory result" Inventory.resultKeys
  validateFilesystemIdentity (value.get "root_before") "inventory root_before"
  validateFilesystemIdentity (value.get "root_after") "inventory root_after"
  validateCost (value.get "cost") "inventory result cost"
  require (value.get "protocol_version" = .text "repository.provider_inventory_result.v0"
      ∧ value.get "operation" = .text "inventory_tree"
      ∧ (value.get "outcome" = .text "observed" ∨ value.get "outcome" = .text "bound_exceeded")
      ∧ (value.get "stable" = .bool true ∨ value.get "stable" = .bool false)
      ∧ value.get "mutation_primitive_entered" = .bool false
      ∧ value.get "published" = .bool false
      ∧ ((value.get "cost").get "tool_calls").eq (.nat 1) = true
      ∧ ((value.get "cost").get "file_writes").eq (.nat 0) = true)
    (fail "inventory_tree returned contradictory success")
  let observed := value.get "bounds_observed"
  exactPlainRecord observed Inventory.observedBoundsKeys "inventory observed bounds"
    Inventory.observedBoundsKeys
  Inventory.boundNames.forM fun name =>
    require ((observed.get name).eq (request.get name) = true)
      (fail ("inventory_tree changed bound: " ++ name))
  require (isNonNegativeInteger (observed.get "observed_entries") = true
      ∧ isNonNegativeInteger (observed.get "observed_total_bytes") = true)
    (fail "inventory_tree returned invalid observed counts")
  let entries ← orFail contractFailure (denseArray (value.get "entries") "inventory entries")
  require (Inventory.exceeds request "max_entries" (.int entries.length) = false
      ∧ (Value.nat entries.length).eq (observed.get "observed_entries") = true)
    (fail "inventory_tree entry count contradicts bounds")
  let total ← inventoryEntries request none (.int 0) entries
  require ((Value.num total).eq (observed.get "observed_total_bytes") = true)
    (fail "inventory_tree byte total contradicts bounds")
  pure value.deepCopy

end Proc17.Runtime.Repository.Provider
