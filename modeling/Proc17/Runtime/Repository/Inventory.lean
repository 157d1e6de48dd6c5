import Proc17.Runtime.Repository.Action

/-!
# Inventories

`repository_inventory.normalize_provider_result`: the answer of a provider's
`inventory_tree` is checked entry by entry and becomes an inventory, or a verdict that the
tree moved or crossed a bound.  Every refusal is the source's class `malformed`.
-/

namespace Proc17.Runtime.Repository

open Lua Core List

/-! ## Checks shared with the candidate seal -/

def exactKeys (value : Value) (allowed required : List String) (name : String) :
    Except Failure Unit := do
  require (value.isTable = true ∧ value.hasMetatable = false)
    (refuse (name ++ " must be a plain table"))
  validateKeys value allowed name
  requireKeys value required name

variable {value : Value} {name : String}

theorem validateKeys_iff {allowed : List String} {u : Unit} :
    validateKeys value allowed name = .ok u
      ↔ value.isTable = true ∧ ∀ key ∈ value.keys, ∃ known ∈ allowed, key = .text known := by
  cases value with
  | table tag entries =>
    simp only [validateKeys, Value.isTable, true_and, Value.keys]
    cases unknown : entries.find? fun entry => !(allowed.any fun key => entry.1 = .text key) with
    | some entry =>
      have foreign := List.find?_some unknown
      simp only [Bool.not_eq_true', any_eq_false, decide_eq_true_eq] at foreign
      refine ⟨fun accepted => (by cases accepted), fun known => ?_⟩
      have listed := mem_map_of_mem (f := Prod.fst) (mem_of_find?_eq_some unknown)
      obtain ⟨key, inAllowed, same⟩ := known _ listed
      exact absurd same (foreign key inAllowed)
    | none =>
      refine ⟨fun _ key member => ?_, fun _ => rfl⟩
      obtain ⟨entry, inEntries, rfl⟩ := mem_map.mp member
      have known := List.find?_eq_none.mp unknown entry inEntries
      simpa using known
  | _ => simp [validateKeys, Value.isTable]

theorem requireKeys_iff {required : List String} {u : Unit} :
    requireKeys value required name = .ok u ↔ ∀ key ∈ required, value.get key ≠ .nil := by
  rw [requireKeys]
  cases missing : required.find? fun key => value.get key = .nil with
  | some key =>
    have absent := List.find?_some missing
    rw [decide_eq_true_eq] at absent
    refine ⟨fun accepted => (by cases accepted), fun present => ?_⟩
    exact absurd absent (present key (mem_of_find?_eq_some missing))
  | none =>
    refine ⟨fun _ key member => ?_, fun _ => rfl⟩
    simpa using List.find?_eq_none.mp missing key member

theorem exactKeys_iff {allowed required : List String} :
    exactKeys value allowed required name = .ok ()
      ↔ value.isTable = true ∧ value.hasMetatable = false
        ∧ (∀ key ∈ value.keys, ∃ known ∈ allowed, key = .text known)
        ∧ ∀ key ∈ required, value.get key ≠ .nil := by
  simp only [exactKeys, bind_eq_ok, require_eq_ok, validateKeys_iff, requireKeys_iff]
  constructor
  · rintro ⟨-, ⟨table, plain⟩, -, ⟨-, known⟩, present⟩
    exact ⟨table, plain, known, present⟩
  · rintro ⟨table, plain, known, present⟩
    exact ⟨(), ⟨table, plain⟩, (), ⟨table, known⟩, present⟩

def isNonNegativeInteger : Value → Bool
  | .num n => !Number.lt n (.int 0) && n.isIntegral
  | _ => false

theorem isNonNegativeInteger_nat (n : Nat) : isNonNegativeInteger (.nat n) = true := by
  simp [isNonNegativeInteger, Value.nat, Number.lt, Number.isIntegral, Number.floor, Number.eq]

def isNonNegativeNumber : Value → Bool
  | .num n => n.isFinite && !Number.lt n (.int 0)
  | _ => false

def isArrayKey : Value → Bool
  | .num n => !Number.lt n (.int 1) && n.isIntegral
  | _ => false

def denseArray (value : Value) (name : String) : Except Failure (List Value) := do
  require (value.isTable = true ∧ value.hasMetatable = false ∧ value.keys.all isArrayKey = true)
    (refuse (name ++ " must be an array"))
  let items ← value.ipairs
  require (value.keys.length = items.length) (refuse (name ++ " must be a dense array"))
  pure items

theorem array_keys (items : List Value) : (Value.array items).keys.all isArrayKey = true
    ∧ (Value.array items).keys.length = items.length := by
  constructor
  · rw [all_eq_true]
    intro key member
    simp only [Value.array, Value.keys, map_map, mem_map] at member
    obtain ⟨⟨v, i⟩, -, rfl⟩ := member
    have positive : ¬ ((i + 1 : Nat) : Int) < 1 := by omega
    have below : Number.lt (.int (i + 1 : Nat)) (.int 1) = false := decide_eq_false positive
    have whole : Number.isIntegral (.int (i + 1 : Nat)) = true := beq_self_eq_true _
    show (!Number.lt (.int (i + 1 : Nat)) (.int 1) && Number.isIntegral (.int (i + 1 : Nat))) = true
    rw [below, whole]
    rfl
  · simp [Value.array, Value.keys]

theorem denseArray_array {items : List Value} (present : ∀ item ∈ items, item ≠ .nil)
    (name : String) : denseArray (.array items) name = .ok items := by
  obtain ⟨keys, counted⟩ := array_keys items
  simp only [denseArray, bind_eq_ok, require_eq_ok, pure_eq_ok]
  exact ⟨(), ⟨rfl, rfl, keys⟩, items, Value.ipairs_array present, (), counted, rfl⟩

def sortedUnique (values : List Bytes) : List Bytes :=
  ((values.filter (· ≠ [])).dedup).insertionSort Json.TextLe

def textArray (values : List Bytes) : Value := .array (values.map .str)

namespace Inventory

def resultKeys : List String :=
  ["protocol_version", "operation", "outcome", "root_before", "root_after", "stable",
    "entries", "bounds_observed", "mutation_primitive_entered", "published", "cost"]

def entryKeys : List String :=
  ["relative_path", "kind", "identity_before", "identity_after", "bytes", "content"]

def entryRequired : List String := ["relative_path", "kind", "identity_before", "identity_after"]

def boundNames : List String := inventoryCeilings.map Prod.fst

def observedBoundsKeys : List String := boundNames ++ ["observed_entries", "observed_total_bytes"]

def identityKeys : List String := ["device", "inode"]

def costKeys : List String := ["tool_calls", "file_writes", "time_ms"]

def coordinateKeys : List String :=
  ["request_id", "root_fingerprint", "inventory_bounds", "root_continuity"]

/-! ## Entries -/

/-- What stands at a path; only a regular file has a size and a digest. -/
inductive Shape where
  | directory
  | regularFile (bytes : Number) (sha256 : Bytes)
  | symlink
  | special

def Shape.kind : Shape → String
  | .directory => "directory"
  | .regularFile _ _ => "regular_file"
  | .symlink => "symlink"
  | .special => "special"

def Shape.bytes : Shape → Value
  | .regularFile bytes _ => .num bytes
  | _ => .nil

def Shape.sha256 : Shape → Value
  | .regularFile _ sha256 => .str sha256
  | _ => .nil

structure Entry where
  relativePath : Bytes
  shape : Shape
  stableIdentityRef : Bytes

def Entry.table (entry : Entry) : Value :=
  .record [
    ("relative_path", .str entry.relativePath),
    ("kind", .text entry.shape.kind),
    ("bytes", entry.shape.bytes),
    ("sha256", entry.shape.sha256),
    ("stable_identity_ref", .str entry.stableIdentityRef)]

def validateIdentity (value : Value) (name : String) : Except Failure Unit := do
  exactKeys value identityKeys identityKeys name
  require (isNonNegativeInteger (value.get "device") = true
      ∧ isNonNegativeInteger (value.get "inode") = true) (refuse (name ++ " is invalid"))

def identityRef (value : Value) : Except Failure Bytes :=
  Digest.identify "filesystem-identity:" value

/-- `path_shape`: the number of components. -/
def pathDepth (path : Bytes) : Nat := (splitPath path).length

/-- `path_shape`: the length of the longest component. -/
def componentMax (path : Bytes) : Nat := (splitPath path).foldl (fun m c => max m c.length) 0

def exceeds (bounds : Value) (name : String) (n : Number) : Bool :=
  match bounds.get name with
  | .num bound => Number.lt bound n
  | _ => false

/-- The loop's variables; `seen` and `previous_path` are read off the entries. -/
structure Scan where
  entries : List Entry
  totalBytes : Number
  stable : Bool

def Scan.seen (scan : Scan) (path : Bytes) : Bool :=
  scan.entries.any fun entry => entry.relativePath = path

def Scan.previousPath (scan : Scan) : Option Bytes :=
  scan.entries.getLast?.map Entry.relativePath

def nextPath (scan : Scan) (value : Value) : Except Failure Bytes :=
  match value with
  | .str path => do
      Action.validateRelativePath (.str path)
      require (scan.seen path = false
          ∧ ∀ previous ∈ scan.previousPath, ¬ Json.TextLe path previous)
        (refuse "repository provider inventory order is not canonical")
      pure path
  | other => do
      Action.validateRelativePath other
      .error (.fault "path")

def requirePathBounds (bounds : Value) (index : Nat) (path : Bytes) : Except Failure Unit :=
  require (exceeds bounds "max_entries" (.int index) = false
      ∧ exceeds bounds "max_depth" (.int (pathDepth path)) = false
      ∧ exceeds bounds "max_path_bytes" (.int path.length) = false
      ∧ exceeds bounds "max_component_bytes" (.int (componentMax path)) = false)
    (refuse "repository provider exceeded path inventory bounds")

def fileShape (bounds : Value) (total : Number) (bytes content : Value) :
    Except Failure (Shape × Number) :=
  match bytes, content with
  | .num n, .str text => do
      require (isNonNegativeInteger (.num n) = true ∧ Number.eq (.int text.length) n = true
          ∧ exceeds bounds "max_file_bytes" n = false)
        (refuse "repository provider returned invalid bounded file")
      let sum := Number.add total n
      require (exceeds bounds "max_total_bytes" sum = false)
        (refuse "repository provider exceeded aggregate byte bound")
      pure (.regularFile n (Digest.sha256 text), sum)
  | _, _ => .error (refuse "repository provider returned invalid bounded file")

def plainShape (shape : Shape) (total : Number) (bytes content : Value) :
    Except Failure (Shape × Number) := do
  require (bytes = .nil ∧ content = .nil)
    (refuse "repository non-file entry exposed content")
  pure (shape, total)

def shapeOf (bounds : Value) (total : Number) (entry : Value) : Except Failure (Shape × Number) :=
  let bytes := entry.get "bytes"
  let content := entry.get "content"
  if entry.get "kind" = .text "regular_file" then fileShape bounds total bytes content
  else if entry.get "kind" = .text "directory" then plainShape .directory total bytes content
  else if entry.get "kind" = .text "symlink" then plainShape .symlink total bytes content
  else plainShape .special total bytes content

def requireKind (kind : Value) : Except Failure Unit :=
  require (kind = .text "directory" ∨ kind = .text "regular_file" ∨ kind = .text "symlink"
      ∨ kind = .text "special")
    (refuse "repository provider inventory kind is invalid")

def stillStable (stable : Bool) (before after : Value) : Except Failure Bool :=
  if stable then Json.same before after else pure false

def scanEntry (bounds : Value) (scan : Scan) (entry : Value) : Except Failure Scan := do
  exactKeys entry entryKeys entryRequired "repository provider inventory entry"
  let path ← nextPath scan (entry.get "relative_path")
  requireKind (entry.get "kind")
  let before := entry.get "identity_before"
  let after := entry.get "identity_after"
  validateIdentity before "inventory entry identity_before"
  validateIdentity after "inventory entry identity_after"
  let stable ← stillStable scan.stable before after
  requirePathBounds bounds (scan.entries.length + 1) path
  let (shape, total) ← shapeOf bounds scan.totalBytes entry
  let ref ← identityRef (.record [("before", before), ("after", after)])
  pure ⟨scan.entries ++ [⟨path, shape, ref⟩], total, stable⟩

def scanEntries (bounds : Value) : Scan → List Value → Except Failure Scan
  | scan, [] => .ok scan
  | scan, entry :: rest => do
      let next ← scanEntry bounds scan entry
      scanEntries bounds next rest

end Inventory

/-! ## The inventory -/

structure Inventory where
  inventoryId : Bytes
  requestId : Bytes
  rootFingerprint : Bytes
  bounds : Value
  entries : List Inventory.Entry
  totalBytes : Number
  inventoryDigest : Bytes
  sourceRefs : List Bytes

namespace Inventory

def entriesTable (entries : List Entry) : Value := .array (entries.map Entry.table)

def fields (inventory : Inventory) : List (String × Value) := [
  ("protocol_version", .text "repository.seal_inventory.v0"),
  ("request_id", .str inventory.requestId),
  ("root_fingerprint", .str inventory.rootFingerprint),
  ("root_continuity", .text "proven"),
  ("inventory_bounds", inventory.bounds),
  ("entries", entriesTable inventory.entries),
  ("observed_entry_count", .nat inventory.entries.length),
  ("observed_total_bytes", .num inventory.totalBytes),
  ("inventory_digest", .str inventory.inventoryDigest),
  ("source_refs", textArray inventory.sourceRefs),
  ("event_truth_status", .text "runtime_confirmed")]

def table (inventory : Inventory) : Value :=
  .record (("inventory_id", .str inventory.inventoryId) :: inventory.fields)

inductive Verdict where
  | unstable
  | boundExceeded
  | observed (inventory : Inventory)

structure Observation where
  rootBeforeRef : Bytes
  rootAfterRef : Bytes
  providerCost : Value
  verdict : Verdict

structure Coordinates where
  requestId : Bytes
  rootFingerprint : Bytes
  bounds : Value

/-- The first checks of `normalize_provider_result`. -/
def readCoordinates (coordinates : Value) : Except Failure Coordinates := do
  exactKeys coordinates coordinateKeys coordinateKeys "repository inventory coordinates"
  let bounds ← normalizeInventoryBounds (coordinates.get "inventory_bounds")
  require (coordinates.get "root_continuity" = .text "proven")
    (refuse "repository inventory coordinates are invalid")
  match coordinates.get "request_id", coordinates.get "root_fingerprint" with
  | .str (a :: request), .str (b :: fingerprint) =>
    pure ⟨a :: request, b :: fingerprint, bounds⟩
  | _, _ => .error (refuse "repository inventory coordinates are invalid")

def requireEnvelope (raw : Value) : Except Failure Unit := do
  exactKeys raw resultKeys resultKeys "repository provider inventory"
  require (raw.get "protocol_version" = .text "repository.provider_inventory_result.v0"
      ∧ raw.get "operation" = .text "inventory_tree"
      ∧ (raw.get "outcome" = .text "observed" ∨ raw.get "outcome" = .text "bound_exceeded")
      ∧ (raw.get "stable" = .bool true ∨ raw.get "stable" = .bool false)
      ∧ raw.get "mutation_primitive_entered" = .bool false
      ∧ raw.get "published" = .bool false)
    (refuse "repository provider inventory envelope is contradictory")
  validateIdentity (raw.get "root_before") "inventory root_before"
  validateIdentity (raw.get "root_after") "inventory root_after"
  let cost := raw.get "cost"
  exactKeys cost costKeys costKeys "repository inventory cost"
  require ((cost.get "tool_calls").eq (.nat 1) = true ∧ (cost.get "file_writes").eq (.nat 0) = true
      ∧ isNonNegativeNumber (cost.get "time_ms") = true)
    (refuse "repository inventory economics are impossible")

def requireObservedBounds (bounds observed : Value) : Except Failure Unit := do
  exactKeys observed observedBoundsKeys observedBoundsKeys "repository observed bounds"
  boundNames.forM fun name =>
    require ((observed.get name).eq (bounds.get name) = true)
      (refuse ("repository provider changed inventory bound: " ++ name))
  require (isNonNegativeInteger (observed.get "observed_entries") = true
      ∧ isNonNegativeInteger (observed.get "observed_total_bytes") = true)
    (refuse "repository observed bounds contain invalid counts")

def make (coordinates : Coordinates) (scan : Scan) (beforeRef afterRef : Bytes) :
    Except Failure Inventory := do
  let digest ← Digest.record (.record [
    ("request_id", .str coordinates.requestId),
    ("root_fingerprint", .str coordinates.rootFingerprint),
    ("inventory_bounds", coordinates.bounds),
    ("entries", entriesTable scan.entries),
    ("observed_entry_count", .nat scan.entries.length),
    ("observed_total_bytes", .num scan.totalBytes)])
  let unnamed : Inventory :=
    { inventoryId := []
      requestId := coordinates.requestId
      rootFingerprint := coordinates.rootFingerprint
      bounds := coordinates.bounds
      entries := scan.entries
      totalBytes := scan.totalBytes
      inventoryDigest := digest
      sourceRefs := sortedUnique [coordinates.requestId, beforeRef, afterRef] }
  let id ← Digest.identify "repository-seal-inventory:" (.record unnamed.fields)
  pure { unnamed with inventoryId := id }

def verdictOf (coordinates : Coordinates) (raw : Value) (scan : Scan)
    (beforeRef afterRef : Bytes) : Except Failure Verdict :=
  if scan.stable = false then pure .unstable
  else if raw.get "outcome" = .text "bound_exceeded" then pure .boundExceeded
  else do
    let inventory ← make coordinates scan beforeRef afterRef
    pure (.observed inventory)

def normalizeProviderResult (raw coordinates : Value) : Except Failure Observation := do
  let coordinates ← readCoordinates coordinates
  requireEnvelope raw
  let observed := raw.get "bounds_observed"
  requireObservedBounds coordinates.bounds observed
  let items ← denseArray (raw.get "entries") "repository provider inventory entries"
  let before := raw.get "root_before"
  let after := raw.get "root_after"
  let stable ← stillStable (raw.get "stable").truthy before after
  let scan ← scanEntries coordinates.bounds ⟨[], .int 0, stable⟩ items
  require ((observed.get "observed_entries").eq (.nat scan.entries.length) = true
      ∧ (observed.get "observed_total_bytes").eq (.num scan.totalBytes) = true)
    (refuse "repository provider observed bounds disagree with entries")
  let beforeRef ← identityRef before
  let afterRef ← identityRef after
  let verdict ← verdictOf coordinates raw scan beforeRef afterRef
  pure ⟨beforeRef, afterRef, (raw.get "cost").deepCopy, verdict⟩

end Inventory

end Proc17.Runtime.Repository
