import Proc17.Core.Digest

/-!
# Checks of the repository capability registry

The validators of `runtime/repository_capability.lua` that read no registry state, and
the two functions of `runtime/repository_inventory.lua` it uses.  The order in which
`pairs` visits a constant table is the order the source lists its keys in.
-/

namespace Proc17.Runtime.Repository

open Lua Core

/-- `diagnostic(code)` -/
def diagnostic (code : String) : Value :=
  .record [
    ("protocol_version", .text "repository.capability_diagnostic.v0"),
    ("code", .text code),
    ("message", .text code),
    ("event_truth_status", .text "runtime_confirmed")]

def deny (code : String) : Failure := .refused (diagnostic code)

def refuseWith (text : String) (value : Value) : Failure :=
  .refused (.str (utf8 text ++ value.tostring))

/-- A refused check whose message is raised under the name of a contract. -/
def orFail {α : Type} (contract : String) (answer : Except Failure α) : Except Failure α :=
  match answer with
  | .error (.refused err) => .error (.raised (.str (utf8 contract ++ err.tostring)))
  | other => other

@[simp] theorem orFail_eq_ok {α : Type} (contract : String) (answer : Except Failure α) (a : α) :
    orFail contract answer = .ok a ↔ answer = .ok a := by
  cases answer with
  | ok b => rfl
  | error failure => cases failure <;> simp [orFail]

def validateKeys (value : Value) (allowed : List String) (name : String) :
    Except Failure Unit :=
  match value with
  | .table _ entries =>
    match entries.find? fun entry => !(allowed.any fun key => entry.1 = .text key) with
    | some entry => .error (refuseWith (name ++ " contains unknown key: ") entry.1)
    | none => .ok ()
  | _ => .error (refuse (name ++ " must be table"))

def requireKeys (value : Value) (required : List String) (name : String) :
    Except Failure Unit :=
  match required.find? fun key => value.get key = .nil with
  | some key => .error (refuse (name ++ " is missing key: " ++ key))
  | none => .ok ()

def validatePlainRecord (value : Value) (allowed : List String) (name : String) :
    Except Failure Unit := do
  require (value.isTable = true ∧ value.hasMetatable = false)
    (refuse (name ++ " must be a plain table"))
  validateKeys value allowed name
  requireKeys value allowed name

def nonEmpty (value : Value) (name : String) : Except Failure Bytes :=
  match value with
  | .str (b :: rest) => .ok (b :: rest)
  | _ => .error (refuse (name ++ " must be a non-empty string"))

def requireTexts (value : Value) (keys : List String) (label : String) : Except Failure Unit :=
  keys.forM fun key => do
    let _ ← nonEmpty (value.get key) (label ++ key)
    pure ()

def integerFrom (least : Int) (value : Value) (failure : Failure) : Except Failure Number :=
  match value with
  | .num n =>
    if Number.lt n (.int least) = true ∨ n.isIntegral = false then .error failure else .ok n
  | _ => .error failure

def positiveInteger (value : Value) (name : String) : Except Failure Number :=
  integerFrom 1 value (refuse (name ++ " must be a positive integer"))

def identityComponent (value : Value) (name : String) : Except Failure Number :=
  integerFrom 0 value (refuse (name ++ " must be a non-negative integer"))

def requirePositive (value : Value) (keys : List String) (label : String) :
    Except Failure Unit :=
  keys.forM fun key => do
    let _ ← positiveInteger (value.get key) (label ++ key)
    pure ()

/-! ## Paths -/

def splitPath (value : Bytes) : List Bytes := (value.splitOn 47).filter (· ≠ [])

def isControl (b : UInt8) : Bool := b < 32

def hasDoubleSlash : Bytes → Bool
  | 47 :: 47 :: _ => true
  | _ :: rest => hasDoubleSlash rest
  | [] => false

def isDot (component : Bytes) : Bool := component = utf8 "." || component = utf8 ".."

def validateProjectBase (value : Value) : Except Failure Bytes :=
  match value with
  | .str (47 :: rest) => do
      let path := 47 :: rest
      require (rest ≠ [] ∧ path.any isControl = false)
        (refuse "project_base is not a permitted host path")
      require (path.getLast? ≠ some 47 ∧ hasDoubleSlash path = false)
        (refuse "project_base must be normalized")
      require ((splitPath path).any isDot = false)
        (refuse "project_base must not contain dot components")
      pure path
  | _ => .error (refuse "project_base must be an absolute trusted host path")

def internalComponents : List String :=
  [".git", ".agents", ".codex", "packets", "graves", "compost", "trace"]

def isAlnum (b : UInt8) : Bool :=
  (65 ≤ b && b ≤ 90) || (97 ≤ b && b ≤ 122) || Number.isDigit b

def isComponent : Bytes → Bool
  | [] => false
  | b :: rest => isAlnum b && rest.all fun c => isAlnum c || c = 46 || c = 95 || c = 45

def validateComponent (component : Bytes) : Except Failure Unit := do
  require (isDot component = false ∧ (internalComponents.any fun name => component = utf8 name)
      = false)
    (refuse "repository_path names a forbidden component")
  require (isComponent component = true)
    (refuse "repository_path contains an unsupported component")

def validateRepositoryPath (value : Value) : Except Failure Bytes :=
  match value with
  | .str path => do
      require (path ≠ [] ∧ path.head? ≠ some 47 ∧ path.getLast? ≠ some 47
          ∧ hasDoubleSlash path = false ∧ path.any isControl = false)
        (refuse "repository_path must be a normalized relative path")
      (splitPath path).forM validateComponent
      pure path
  | _ => .error (refuse "repository_path must be a normalized relative path")

/-! ## The parts of a grant request -/

/-- `normalize_operations`: whether the one known operation is granted. -/
def normalizeOperations (value : Value) : Except Failure Bool := do
  validateKeys value ["create_text_file"] "operations"
  match value.get "create_text_file" with
  | .bool b => pure b
  | _ => .error (refuse "operations.create_text_file must be boolean")

def publicOperations (create : Bool) : Value :=
  if create then .array [.text "create_text_file"] else .emptyTable

structure Bounds where
  maxRelativePathBytes : Number
  maxContentBytes : Number
  maxEffectsPerGeneration : Number

def normalizeBounds (value : Value) : Except Failure Bounds := do
  validateKeys value
    ["max_relative_path_bytes", "max_content_bytes", "max_effects_per_generation"] "bounds"
  let path ← positiveInteger (value.get "max_relative_path_bytes")
    "bounds.max_relative_path_bytes"
  let content ← positiveInteger (value.get "max_content_bytes") "bounds.max_content_bytes"
  let effects ← positiveInteger (value.get "max_effects_per_generation")
    "bounds.max_effects_per_generation"
  pure ⟨path, content, effects⟩

def Bounds.table (b : Bounds) : Value :=
  .record [
    ("max_relative_path_bytes", .num b.maxRelativePathBytes),
    ("max_content_bytes", .num b.maxContentBytes),
    ("max_effects_per_generation", .num b.maxEffectsPerGeneration)]

/-- `normalize_policy`: the file mode. -/
def normalizePolicy (value : Value) : Except Failure Number := do
  validateKeys value ["file_mode"] "policy"
  let mode ← positiveInteger (value.get "file_mode") "policy.file_mode"
  require (Number.eq mode (.int 384) = true) (refuse "policy.file_mode must be exactly 0600")
  pure mode

/-! ## Providers -/

def allowedProviderId : Bytes := utf8 "linux.openat2.renameat2.v0"

def requiredProviderLimits : List (String × Int) :=
  [("max_relative_path_bytes", 1024), ("max_component_bytes", 255), ("max_components", 64),
    ("max_content_bytes", 1048576), ("file_mode", 384)]

def providerMethods : List String :=
  ["available", "open_repository", "revalidate", "create_text_file", "read_text_file",
    "inventory_tree", "close"]

def isFunction : Value → Bool
  | .ref .function _ => true
  | _ => false

def validateProvider (provider : Value) : Except Failure Unit := do
  require (provider.isTable = true ∧ provider.get "provider_id" = .str allowedProviderId
      ∧ provider.get "contract_id" = .text "repository.provider.create_readback.v0")
    (refuse "provider identity or contract mismatch")
  providerMethods.forM fun method =>
    require (isFunction (provider.get method) = true)
      (refuse ("provider method missing: " ++ method))
  validateKeys (provider.get "limits") (requiredProviderLimits.map Prod.fst) "provider limits"
  requiredProviderLimits.forM fun limit =>
    require (((provider.get "limits").get limit.1).eq (.num (.int limit.2)) = true)
      (refuse ("provider limit mismatch: " ++ limit.1))

/-! ## Arrays of strings and inventory bounds -/

def noRepeats : List Value → Bool
  | [] => true
  | v :: rest => rest.all (fun w => v ≠ w) && noRepeats rest

def indexKey (length : Nat) : Value → Bool
  | .num n => !Number.lt n (.int 1) && !Number.lt (.int length) n && n.isIntegral
  | _ => false

def strictStringArray (value : Value) (name : String) : Except Failure Unit := do
  require (value.isTable = true ∧ value.hasMetatable = false)
    (refuse (name ++ " must be an array"))
  let items ← value.ipairs
  require (items.all Value.isNonEmptyString = true ∧ noRepeats items = true)
    (refuse (name ++ " must contain unique non-empty strings"))
  require (value.keys.all (indexKey items.length) = true) (refuse (name ++ " must be an array"))

/-- `normalized_refs` of an array of strings. -/
def normalizedRefs (value : Value) : Except Failure Value := do
  let items ← (value.orElse .emptyTable).ipairs
  pure (.array (items.insertionSort fun a b => Json.TextLe a.tostring b.tostring))

def defaultInventoryBounds : Value :=
  .record [
    ("protocol_version", .text "repository.inventory_bounds.v0"),
    ("max_entries", .nat 256),
    ("max_depth", .nat 64),
    ("max_path_bytes", .nat 1024),
    ("max_component_bytes", .nat 255),
    ("max_file_bytes", .nat 1048576),
    ("max_total_bytes", .nat 8388608)]

def inventoryCeilings : List (String × Int) :=
  [("max_entries", 4096), ("max_depth", 64), ("max_path_bytes", 1024),
    ("max_component_bytes", 255), ("max_file_bytes", 1048576), ("max_total_bytes", 67108864)]

def isAbove (ceiling : Int) : Value → Bool
  | .num n => Number.lt (.int ceiling) n
  | _ => false

def normalizeInventoryBounds (given : Value) : Except Failure Value := do
  let value := given.orElse defaultInventoryBounds
  validatePlainRecord value ("protocol_version" :: inventoryCeilings.map Prod.fst)
    "repository inventory bounds"
  require (value.get "protocol_version" = .text "repository.inventory_bounds.v0")
    (refuse "unsupported repository inventory bounds")
  inventoryCeilings.forM fun ceiling =>
    require ((value.get ceiling.1).isPositiveInteger = true)
      (refuse ("repository inventory bound is invalid: " ++ ceiling.1))
  require (inventoryCeilings.any (fun ceiling => isAbove ceiling.2 (value.get ceiling.1)) = false)
    (refuse "repository inventory bounds exceed trusted ceiling")
  pure value.deepCopy

end Proc17.Runtime.Repository
