import Proc17.Native.Listing
import Proc17.Native.Vocabulary

/-!
# The verdict on a tree that stands still

`inventory_tree` as the adapter calls it, with the adapter's check of what the library found and
the runtime's check of what the adapter passed on.  The three name the files they accept each in
their own way; a stable tree gets a verdict in every listing exactly when the names and the
identities that a scan can take are of the narrowest kind.
-/

namespace Proc17.Native

open Lua Core Runtime.Repository List Value Json Found

/-! ## The call -/

/-- `lua_isinteger` and `lua_tointeger` -/
def integerArgument : Value → Option Int
  | .num (.int i) => some i
  | _ => none

/-- The arguments of `inventory_tree`, read from a request. -/
def argumentsOf (request : Value) : Option InventoryRequest := do
  let maxEntries ← integerArgument (request.get "max_entries")
  let maxDepth ← integerArgument (request.get "max_depth")
  let maxPathBytes ← integerArgument (request.get "max_path_bytes")
  let maxComponentBytes ← integerArgument (request.get "max_component_bytes")
  let maxFileBytes ← integerArgument (request.get "max_file_bytes")
  let maxTotalBytes ← integerArgument (request.get "max_total_bytes")
  pure ⟨maxEntries, maxDepth, maxPathBytes, maxComponentBytes, maxFileBytes, maxTotalBytes⟩

/-- `inventory_tree` of the library, called with what a request holds. -/
def callInventoryTree (handle : FsHandle) (request : Value) (calls : InventoryCalls) :
    Option (Except FsError InventoryResult) :=
  if handle.closed then some (.error (.plain .contract .handleClosed .inventoryHandle 0 0))
  else
    match argumentsOf request with
    | none =>
      some (.error (.plain .contract .invalidRequest .validateInventoryRequest Errno.einval 0))
    | some arguments => inventoryTree handle arguments calls

/-- What `provider.inventory_tree` makes of the library's answer. -/
def adapt (request : Value) (answer : Except FsError InventoryResult) : Except Failure Value :=
  match answer with
  | .error e => do
      let copy ← Provider.validateProviderError .inventoryTree e.table
      .error (.refused copy)
  | .ok result => Provider.validateInventoryResult result.table request

def provideInventory (handle : FsHandle) (request : Value) (calls : InventoryCalls) :
    Option (Except Failure Value) :=
  match Provider.validateInventoryRequest request with
  | .error failure => some (.error failure)
  | .ok () => (callInventoryTree handle request calls).map (adapt request)

/-! ## Requests -/

structure BoundNumbers where
  maxEntries : Number
  maxDepth : Number
  maxPathBytes : Number
  maxComponentBytes : Number
  maxFileBytes : Number
  maxTotalBytes : Number

namespace BoundNumbers

def table (numbers : BoundNumbers) : Value := .record [
  ("protocol_version", .text "repository.inventory_bounds.v0"),
  ("max_entries", .num numbers.maxEntries),
  ("max_depth", .num numbers.maxDepth),
  ("max_path_bytes", .num numbers.maxPathBytes),
  ("max_component_bytes", .num numbers.maxComponentBytes),
  ("max_file_bytes", .num numbers.maxFileBytes),
  ("max_total_bytes", .num numbers.maxTotalBytes)]

def whole (n : Number) : Nat :=
  match n.floor with
  | .int i => i.toNat
  | _ => 0

def bounds (numbers : BoundNumbers) : InventoryBounds :=
  ⟨whole numbers.maxEntries, whole numbers.maxDepth, whole numbers.maxPathBytes,
    whole numbers.maxComponentBytes, whole numbers.maxFileBytes, whole numbers.maxTotalBytes⟩

def AreIntegers (numbers : BoundNumbers) : Prop := (argumentsOf numbers.table).isSome = true

instance (numbers : BoundNumbers) : Decidable numbers.AreIntegers :=
  inferInstanceAs (Decidable (_ = _))

end BoundNumbers

def ofBounds (bounds : InventoryBounds) : BoundNumbers :=
  ⟨.int bounds.maxEntries, .int bounds.maxDepth, .int bounds.maxPathBytes,
    .int bounds.maxComponentBytes, .int bounds.maxFileBytes, .int bounds.maxTotalBytes⟩

/-- What the seal tells `normalize_provider_result` about the request. -/
def coordinatesOf (requestId rootFingerprint : Bytes) (request : Value) : Value := .record [
  ("request_id", .str requestId),
  ("root_fingerprint", .str rootFingerprint),
  ("inventory_bounds", request),
  ("root_continuity", .text "proven")]

/-! ## Verdicts -/

def Found.shape (found : Found) : Inventory.Shape :=
  match found.status.kind with
  | .directory => .directory
  | .regular => .regularFile (.int found.content.length) (Digest.sha256 found.content)
  | .symlink => .symlink
  | .special => .special

structure Lists (tree : Tree) (entries : List Inventory.Entry) : Prop where
  ordered : entries.Pairwise fun left right => ¬ Json.TextLe right.relativePath left.relativePath
  exact : (entries.map fun entry => (entry.relativePath, entry.shape)).Perm
    ((tree.found []).map fun found => (found.path, found.shape))

def GivesVerdict (bounds : InventoryBounds) (tree : Tree) (coordinates : Value)
    (answer : Option (Except Failure Value)) : Prop :=
  ∃ raw observation, answer = some (.ok raw)
    ∧ Inventory.normalizeProviderResult raw coordinates = .ok observation
    ∧ (Within bounds tree → ∃ inventory, observation.verdict = .observed inventory
      ∧ Lists tree inventory.entries)
    ∧ (¬ Within bounds tree → observation.verdict = .boundExceeded)

/-! ## Plain places -/

def Found.IsPlain (found : Found) : Prop :=
  (∀ name ∈ found.components, isComponent name = true) ∧ found.isRepresentable = true

/-- A handle as `open_repository` gives it, before it is closed. -/
structure FsHandle.Opened (handle : FsHandle) : Prop where
  running : handle.closed = false
  mount : handle.repository.mountId = handle.project.mountId
  device : handle.repository.device < 2 ^ 63
  inode : handle.repository.inode < 2 ^ 63

/-! ## Bounds the library takes -/

theorem integerArgument_eq_some {v : Value} {i : Int} (argument : integerArgument v = some i) :
    v = .num (.int i) := by
  unfold integerArgument at argument
  split at argument
  · cases argument
    rfl
  · cases argument

namespace BoundNumbers

/-- What the library is told by an accepted request of integers. -/
structure Told (numbers : BoundNumbers) (bounds : InventoryBounds) : Prop where
  same : numbers = ofBounds bounds
  named : numbers.bounds = bounds
  arguments : ∃ request, argumentsOf numbers.table = some request ∧ request.bounds = some bounds
  content : bounds.maxFileBytes ≤ maxContentBytes
  total : bounds.maxTotalBytes ≤ maxInventoryTotalBytes

theorem told {numbers : BoundNumbers}
    (accepted : Provider.validateInventoryRequest numbers.table = .ok ())
    (integers : numbers.AreIntegers) : numbers.Told numbers.bounds := by
  obtain ⟨arguments, read⟩ := Option.isSome_iff_exists.mp integers
  have each : ∀ ceiling ∈ inventoryCeilings,
      (numbers.table.get ceiling.1).isPositiveInteger = true
        ∧ isAbove ceiling.2 (numbers.table.get ceiling.1) = false := by
    simp only [Provider.validateInventoryRequest, bind_eq_ok, require_eq_ok] at accepted
    obtain ⟨_, -, _, -, all⟩ := accepted
    intro ceiling member
    simpa using mem_of_forM_ok all ceiling member
  obtain ⟨entries, depth, path, component, file, total⟩ := numbers
  simp only [argumentsOf, Option.bind_eq_bind, Option.bind_eq_some_iff] at read
  obtain ⟨a, first, b, second, c, third, d, fourth, e, fifth, f, sixth, made⟩ := read
  cases integerArgument_eq_some first
  cases integerArgument_eq_some second
  cases integerArgument_eq_some third
  cases integerArgument_eq_some fourth
  cases integerArgument_eq_some fifth
  cases integerArgument_eq_some sixth
  cases made
  have ranged : ∀ {name : String} {ceiling : Nat} {i : Int},
      (name, (ceiling : Int)) ∈ inventoryCeilings →
      (table ⟨.int a, .int b, .int c, .int d, .int e, .int f⟩).get name = .num (.int i) →
      1 ≤ i ∧ i ≤ ceiling := by
    intro name ceiling i member field
    obtain ⟨positive, above⟩ := each _ member
    rw [field] at positive above
    simp [Value.isPositiveInteger, isAbove, Number.lt] at positive above
    omega
  have entries := @ranged "max_entries" 4096 a (by simp [inventoryCeilings]) rfl
  have depth := @ranged "max_depth" 64 b (by simp [inventoryCeilings]) rfl
  have path := @ranged "max_path_bytes" 1024 c (by simp [inventoryCeilings]) rfl
  have component := @ranged "max_component_bytes" 255 d (by simp [inventoryCeilings]) rfl
  have file := @ranged "max_file_bytes" 1048576 e (by simp [inventoryCeilings]) rfl
  have total := @ranged "max_total_bytes" 67108864 f (by simp [inventoryCeilings]) rfl
  have cast : ∀ {i : Int}, 1 ≤ i → Number.int i = .int (i.toNat : Int) := by
    intro i positive
    rw [Int.toNat_of_nonneg (by omega)]
  refine ⟨?_, rfl, ⟨_, rfl, ?_⟩, ?_, ?_⟩
  · simp only [ofBounds, bounds, whole, Number.floor, mk.injEq]
    exact ⟨cast entries.1, cast depth.1, cast path.1, cast component.1, cast file.1, cast total.1⟩
  · have range : ∀ {i : Int} {ceiling : Nat}, 1 ≤ i ∧ i ≤ ceiling → inRange i ceiling = true := by
      intro i ceiling within
      simp [inRange, within]
    rw [InventoryRequest.bounds, if_pos]
    · rfl
    · simp [range entries, range depth, range path, range component, range file, range total,
        maxInventoryEntries, maxComponents, maxRelativePathBytes,
        Runtime.Repository.maxComponentBytes, maxContentBytes, maxInventoryTotalBytes]
  · show e.toNat ≤ 1048576
    omega
  · show f.toNat ≤ 67108864
    omega

end BoundNumbers

/-! ## Plain paths -/

variable {c : Bytes} {device inode total : Nat}

theorem isComponent_bytes (shaped : isComponent c = true) :
    c ≠ [] ∧ (∀ b ∈ c, b ≠ 47 ∧ isControl b = false ∧ b < 128) := by
  have ascii : ∀ b : UInt8, (isAlnum b || b = 46 || b = 95 || b = 45) = true →
      b ≠ 47 ∧ isControl b = false ∧ b < 128 := by
    intro b named
    simp only [isAlnum, Number.isDigit, Bool.or_eq_true, Bool.and_eq_true, decide_eq_true_eq] at named
    simp only [isControl, decide_eq_false_iff_not]
    refine ⟨?_, ?_, ?_⟩
    · rintro rfl
      revert named
      decide
    · simp only [UInt8.lt_iff_toNat_lt, UInt8.le_iff_toNat_le, ← UInt8.toNat_inj] at named ⊢
      simp at named ⊢
      omega
    · simp only [UInt8.lt_iff_toNat_lt, UInt8.le_iff_toNat_le, ← UInt8.toNat_inj] at named ⊢
      simp at named ⊢
      omega
  cases c with
  | nil => cases shaped
  | cons first rest =>
    obtain ⟨head, tail⟩ := Bool.and_eq_true_iff.mp shaped
    refine ⟨cons_ne_nil _ _, forall_mem_cons.mpr ⟨ascii first (by simp [head]), ?_⟩⟩
    intro b member
    exact ascii b (all_eq_true.mp tail b member)

theorem relativeComponent_iff (c : Bytes) :
    Action.relativeComponent c = .ok () ↔ isComponent c = true := by
  simp only [Action.relativeComponent, bind_eq_ok, require_eq_ok]
  constructor
  · rintro ⟨_, -, shaped⟩
    exact shaped
  · intro shaped
    refine ⟨(), ?_, shaped⟩
    cases c with
    | nil => cases shaped
    | cons first rest =>
      -- a name that begins with a dot is not in the grammar
      have other : ∀ name : Bytes, name.head? = some 46 → first :: rest ≠ name := by
        rintro name dotted rfl
        cases dotted
        have fit : (isAlnum 46 && rest.all fun c => isAlnum c || c = 46 || c = 95 || c = 45)
          = true := shaped
        rw [show isAlnum 46 = false from rfl, Bool.false_and] at fit
        cases fit
      simp [isDot, other (utf8 ".") rfl, other (utf8 "..") rfl, other (utf8 ".git") rfl,
        other (utf8 ".agents") rfl, other (utf8 ".codex") rfl]

theorem hasDoubleSlash_append {rest : Bytes} (whole : 47 ∉ c) (head : rest.head? ≠ some 47)
    (single : hasDoubleSlash rest = false) : hasDoubleSlash (c ++ 47 :: rest) = false := by
  induction c with
  | nil =>
    cases rest with
    | nil => rfl
    | cons first others =>
      have apart : first ≠ 47 := by simpa using head
      simpa [hasDoubleSlash, apart] using single
  | cons first others ih =>
    rw [mem_cons, not_or] at whole
    have apart : first ≠ 47 := fun same => whole.1 same.symm
    simpa [hasDoubleSlash, apart] using ih whole.2

theorem hasDoubleSlash_of_notMem (whole : 47 ∉ c) : hasDoubleSlash c = false := by
  induction c with
  | nil => rfl
  | cons first others ih =>
    rw [mem_cons, not_or] at whole
    have apart : first ≠ 47 := fun same => whole.1 same.symm
    simpa [hasDoubleSlash, apart] using ih whole.2

theorem validUtf8_ascii {text : Bytes} (ascii : ∀ b ∈ text, b < 128) :
    Action.validUtf8 text = true := by
  induction text with
  | nil => rfl
  | cons first rest ih =>
    unfold Action.validUtf8
    rw [if_pos (ascii first mem_cons_self)]
    exact ih fun b member => ascii b (mem_cons_of_mem _ member)

/-- What both grammars ask of a path before they look at its components. -/
structure PlainPath (path : Bytes) : Prop where
  full : path ≠ []
  clean : path.any isControl = false
  head : path.head? ≠ some 47
  last : path.getLast? ≠ some 47
  single : hasDoubleSlash path = false
  ascii : ∀ b ∈ path, b < 128

theorem plainPath_joinAll : ∀ {components : List Bytes}, components ≠ [] →
    (∀ c ∈ components, isComponent c = true) → PlainPath (joinAll components) := by
  intro components some shaped
  induction components with
  | nil => exact absurd rfl some
  | cons first rest ih =>
    obtain ⟨present, bytes⟩ := isComponent_bytes (shaped first mem_cons_self)
    have whole : 47 ∉ first := fun member => (bytes 47 member).1 rfl
    have clean : first.any isControl = false := by
      rw [any_eq_false]
      intro b member
      simp [(bytes b member).2.1]
    have head : first.head? ≠ .some 47 := by
      intro slash
      exact whole (mem_of_mem_head? slash)
    cases rest with
    | nil =>
      have alone : joinAll [first] = first := by simp [joinAll]
      rw [alone]
      refine ⟨present, clean, head, ?_, hasDoubleSlash_of_notMem whole, fun b member =>
        (bytes b member).2.2⟩
      intro slash
      exact whole (mem_of_getLast? slash)
    | cons second more =>
      have after := ih (cons_ne_nil _ _) fun c member => shaped c (mem_cons_of_mem _ member)
      have split : joinAll (first :: second :: more) = first ++ 47 :: joinAll (second :: more) := by
        simp [joinAll]
      rw [split]
      refine ⟨by simp, ?_, ?_, ?_, hasDoubleSlash_append whole after.head after.single, ?_⟩
      · simp [clean, after.clean, isControl]
      · cases first with
        | nil => exact absurd rfl present
        | cons b others => exact head
      · obtain ⟨b, others, named⟩ := exists_cons_of_ne_nil after.full
        rw [named, List.getLast?_append, List.getLast?_cons_cons, ← named]
        have final := List.getLast?_eq_some_getLast after.full
        rw [final, Option.some_or, ← final]
        exact after.last
      · intro b member
        rcases mem_append.mp member with inFirst | later
        · exact (bytes b inFirst).2.2
        · rcases mem_cons.mp later with rfl | inRest
          · decide
          · exact after.ascii b inRest

theorem validateRelativePath_joinAll {components : List Bytes} (some : components ≠ [])
    (shaped : ∀ c ∈ components, isComponent c = true) :
    Action.validateRelativePath (.str (joinAll components)) = .ok () := by
  have path := plainPath_joinAll some shaped
  have split : splitPath (joinAll components) = components := by
    apply splitPath_joinAll
    intro c member
    obtain ⟨present, bytes⟩ := isComponent_bytes (shaped c member)
    exact ⟨present, fun slash => (bytes 47 slash).1 rfl⟩
  simp only [Action.validateRelativePath, bind_eq_ok, require_eq_ok, split]
  refine ⟨(), ⟨path.full, validUtf8_ascii path.ascii⟩, (),
    ⟨path.clean, path.head, path.last, path.single⟩, (), ?_, some⟩
  exact forM_ok components fun c member => (relativeComponent_iff c).mpr (shaped c member)

/-! ## One entry -/

theorem exceeds_of_get {request : Value} {name : String} {bound : Nat}
    (field : request.get name = .nat bound) (n : Nat) :
    Inventory.exceeds request name (.int n) = decide (bound < n) := by
  simp [Inventory.exceeds, field, Value.nat, Number.lt]

theorem get_identityTable (small : device < 2 ^ 63) (short : inode < 2 ^ 63) :
    (identityTable device inode).get "device" = .nat device
      ∧ (identityTable device inode).get "inode" = .nat inode :=
  ⟨luaInteger_of_lt small, luaInteger_of_lt short⟩

theorem validateFilesystemIdentity_table (small : device < 2 ^ 63) (short : inode < 2 ^ 63)
    (name : String) :
    Provider.validateFilesystemIdentity (identityTable device inode) name = .ok () := by
  obtain ⟨first, second⟩ := get_identityTable small short
  simp only [Provider.validateFilesystemIdentity, bind_eq_ok, require_eq_ok, first, second]
  exact ⟨(), rfl, isNonNegativeInteger_nat _, isNonNegativeInteger_nat _⟩

theorem validateIdentity_table (small : device < 2 ^ 63) (short : inode < 2 ^ 63) (name : String) :
    Inventory.validateIdentity (identityTable device inode) name = .ok () := by
  obtain ⟨first, second⟩ := get_identityTable small short
  simp only [Inventory.validateIdentity, bind_eq_ok, require_eq_ok, first, second]
  exact ⟨(), rfl, isNonNegativeInteger_nat _, isNonNegativeInteger_nat _⟩

def Found.table (found : Found) : Value := (found.entry true).table

theorem exactKeys_found (found : Found) (name : String) :
    exactKeys found.table Inventory.entryKeys Inventory.entryRequired name = .ok () := by
  obtain ⟨components, ⟨device, inode, kind, _, _, _, _, _, _, _⟩, content⟩ := found
  cases kind <;> rfl

section

variable {bounds : InventoryBounds} {found : Found}

theorem Found.get_path (found : Found) : found.table.get "relative_path" = .str found.path := rfl

theorem Found.get_kind (found : Found) : found.table.get "kind" = .text found.status.kind.name := rfl

theorem Found.get_identity (found : Found) :
    found.table.get "identity_before" = identityTable found.status.device found.status.inode
      ∧ found.table.get "identity_after" = identityTable found.status.device found.status.inode :=
  ⟨rfl, rfl⟩

theorem Found.get_file (regular : found.status.kind = .regular) :
    found.table.get "bytes" = .nat found.content.length
      ∧ found.table.get "content" = .str found.content := by
  obtain ⟨components, ⟨device, inode, kind, _, _, _, _, _, _, _⟩, content⟩ := found
  cases regular
  exact ⟨rfl, rfl⟩

theorem Found.get_other (other : found.status.kind ≠ .regular) :
    found.table.get "bytes" = .nil ∧ found.table.get "content" = .nil := by
  obtain ⟨components, ⟨device, inode, kind, _, _, _, _, _, _, _⟩, content⟩ := found
  cases kind with
  | regular => exact absurd rfl other
  | _ => exact ⟨rfl, rfl⟩

theorem FileKind.name_known (kind : FileKind) : Value.text kind.name = .text "directory"
    ∨ Value.text kind.name = .text "regular_file" ∨ Value.text kind.name = .text "symlink"
    ∨ Value.text kind.name = .text "special" := by
  cases kind <;> simp [FileKind.name]

theorem FileKind.name_regular (kind : FileKind) :
    Value.text kind.name = .text "regular_file" ↔ kind = .regular := by
  cases kind <;> simp [FileKind.name, Value.text]

theorem Found.IsPlain.identity (plain : found.IsPlain) :
    found.status.device < 2 ^ 63 ∧ found.status.inode < 2 ^ 63 := by
  have fits := plain.2
  simpa [Found.isRepresentable, Status.isRepresentable] using fits

theorem Found.IsPlain.split (plain : found.IsPlain) : splitPath found.path = found.components := by
  apply splitPath_joinAll
  intro c member
  obtain ⟨present, bytes⟩ := isComponent_bytes (plain.1 c member)
  exact ⟨present, fun slash => (bytes 47 slash).1 rfl⟩

theorem validInventoryPath_found (plain : found.IsPlain) (some : found.components ≠ [])
    (admits : Admits bounds found) :
    Provider.validInventoryPath (ofBounds bounds).table found.path = true := by
  have path := plainPath_joinAll some plain.1
  obtain ⟨short, brief, shallow, -⟩ := admits
  have components : found.components.all
      (Provider.validInventoryComponent (ofBounds bounds).table) = true := by
    rw [all_eq_true]
    intro c member
    have bound : (ofBounds bounds).table.get "max_component_bytes" = .nat bounds.maxComponentBytes :=
      rfl
    have allowed := (relativeComponent_iff c).mpr (plain.1 c member)
    simp only [Action.relativeComponent, bind_eq_ok, require_eq_ok] at allowed
    obtain ⟨_, ⟨undotted, -⟩, -⟩ := allowed
    have := short c member
    simp [Provider.validInventoryComponent, undotted, exceeds_of_get bound]
    omega
  have pathBound : (ofBounds bounds).table.get "max_path_bytes" = .nat bounds.maxPathBytes := rfl
  have depthBound : (ofBounds bounds).table.get "max_depth" = .nat bounds.maxDepth := rfl
  simp only [Provider.validInventoryPath, plain.split, components, exceeds_of_get pathBound,
    exceeds_of_get depthBound]
  have full := path.full
  have head := path.head
  have last := path.last
  have single := path.single
  have clean := path.clean
  change found.path ≠ [] at full
  change found.path.head? ≠ _ at head
  change found.path.getLast? ≠ _ at last
  change hasDoubleSlash found.path = _ at single
  change found.path.any isControl = _ at clean
  have utf : Action.validUtf8 found.path = true := validUtf8_ascii path.ascii
  rw [single, clean, utf]
  simp [full, head, last, some]
  omega

end

/-! ## The adapter's loop -/

variable {found : Found}

section

variable {bounds : InventoryBounds}

theorem get_boundNumbers (bounds : InventoryBounds) :
    (ofBounds bounds).table.get "max_file_bytes" = .nat bounds.maxFileBytes
      ∧ (ofBounds bounds).table.get "max_total_bytes" = .nat bounds.maxTotalBytes
      ∧ (ofBounds bounds).table.get "max_entries" = .nat bounds.maxEntries
      ∧ (ofBounds bounds).table.get "max_depth" = .nat bounds.maxDepth
      ∧ (ofBounds bounds).table.get "max_path_bytes" = .nat bounds.maxPathBytes
      ∧ (ofBounds bounds).table.get "max_component_bytes" = .nat bounds.maxComponentBytes :=
  ⟨rfl, rfl, rfl, rfl, rfl, rfl⟩

/-- The places a scan took that both later checks accept. -/
structure Fits (bounds : InventoryBounds) (found : Found) : Prop where
  plain : found.IsPlain
  inside : found.components ≠ []
  admits : Admits bounds found

theorem Found.bytes_of_other (other : found.status.kind ≠ .regular) :
    found.bytes = 0 := if_neg other

theorem Found.bytes_of_regular (regular : found.status.kind = .regular) :
    found.bytes = found.content.length := if_pos regular

theorem addNat {a b : Nat} (small : a + b < 2 ^ 63) :
    Number.add (.int a) (.int b) = .int (a + b : Nat) := by
  have same : Number.wrap ((a : Int) + b) = ((a + b : Nat) : Int) := by
    unfold Number.wrap
    rw [Int.bmod_eq_of_le] <;> omega
  rw [Number.add, same]

theorem file_within (admits : Admits bounds found)
    (regular : found.status.kind = .regular)
    (room : total + found.content.length ≤ bounds.maxTotalBytes)
    (bounded : bounds.maxTotalBytes ≤ maxInventoryTotalBytes) :
    Number.add (.int total) (.int found.content.length)
        = .int (total + found.content.length : Nat)
      ∧ Inventory.exceeds (ofBounds bounds).table "max_file_bytes" (.int found.content.length)
        = false
      ∧ Inventory.exceeds (ofBounds bounds).table "max_total_bytes"
        (.int (total + found.content.length : Nat)) = false := by
  obtain ⟨fileBound, totalBound, -⟩ := get_boundNumbers bounds
  have small := admits.2.2.2
  rw [bytes_of_regular regular] at small
  refine ⟨?_, ?_, ?_⟩
  · apply addNat
    simp only [maxInventoryTotalBytes] at bounded
    omega
  · rw [exceeds_of_get fileBound, decide_eq_false_iff_not]
    omega
  · rw [exceeds_of_get totalBound, decide_eq_false_iff_not]
    omega

theorem addBytes_found (admits : Admits bounds found)
    (room : total + found.bytes ≤ bounds.maxTotalBytes)
    (bounded : bounds.maxTotalBytes ≤ maxInventoryTotalBytes) :
    Provider.addBytes (ofBounds bounds).table (.int total) found.table
      = .ok (.int (total + found.bytes : Nat)) := by
  unfold Provider.addBytes
  rw [get_kind]
  by_cases regular : found.status.kind = .regular
  · obtain ⟨bytes, content⟩ := get_file regular
    rw [bytes_of_regular regular] at room ⊢
    obtain ⟨sum, small, light⟩ := file_within admits regular room bounded
    rw [if_pos ((FileKind.name_regular _).mpr regular), bytes, content]
    simp only [Value.nat, bind_eq_ok, require_eq_ok, pure_eq_ok, sum]
    exact ⟨(), ⟨isNonNegativeInteger_nat _, small, by simp [Number.eq]⟩, (), light, trivial⟩
  · obtain ⟨bytes, content⟩ := get_other regular
    rw [if_neg fun same => regular ((FileKind.name_regular _).mp same), bytes, content,
      bytes_of_other regular, Nat.add_zero]
    rfl

theorem totalOf_cons (found : Found) (rest : List Found) :
    totalOf (found :: rest) = found.bytes + totalOf rest := by
  simp [totalOf]

theorem inventoryEntries_found (bounded : bounds.maxTotalBytes ≤ maxInventoryTotalBytes) :
    ∀ (taken : List Found) (previous : Option Bytes) (total : Nat),
      (∀ found ∈ taken, Fits bounds found) →
      (∀ last ∈ previous, ∀ found ∈ taken, ¬ Json.TextLe found.path last) →
      taken.Pairwise (fun left right => ¬ Json.TextLe right.path left.path) →
      total + totalOf taken ≤ bounds.maxTotalBytes →
      Provider.inventoryEntries (ofBounds bounds).table previous (.int total)
        (taken.map Found.table) = .ok (.int (total + totalOf taken : Nat)) := by
  intro taken
  induction taken with
  | nil =>
    intro previous total _ _ _ _
    rfl
  | cons found rest ih =>
    intro previous total fits after ordered room
    obtain ⟨plain, inside, admits⟩ := fits found mem_cons_self
    obtain ⟨later, orderedRest⟩ := pairwise_cons.mp ordered
    rw [totalOf_cons] at room ⊢
    obtain ⟨before, behind⟩ := get_identity found
    obtain ⟨small, short⟩ := plain.identity
    have path : Provider.canonicalPath (ofBounds bounds).table previous found.table
        = .ok found.path := by
      simp only [Provider.canonicalPath, get_path, bind_eq_ok, require_eq_ok, pure_eq_ok]
      refine ⟨(), ⟨validInventoryPath_found plain inside admits, ?_, ?_⟩, trivial⟩
      · exact fun last member => after last member found mem_cons_self
      · rw [get_kind]
        exact FileKind.name_known found.status.kind
    have next := ih (some found.path) (total + found.bytes)
      (fun other member => fits other (mem_cons_of_mem _ member))
      (fun last member other inRest => by
        cases Option.some.inj member
        exact later other inRest)
      orderedRest (by omega)
    simp only [map_cons, Provider.inventoryEntries, bind_eq_ok]
    refine ⟨(), ?_, found.path, path, (), ?_, (), ?_, _, addBytes_found admits (by omega) bounded, ?_⟩
    · rw [Provider.exactPlainRecord, orFail_eq_ok]
      exact exactKeys_found found _
    · rw [before]
      exact validateFilesystemIdentity_table small short _
    · rw [behind]
      exact validateFilesystemIdentity_table small short _
    · rw [next, Nat.add_assoc]

end

/-! ## The runtime's loop -/

section

variable {bounds : InventoryBounds}

theorem shapeOf_found (admits : Admits bounds found)
    (room : total + found.bytes ≤ bounds.maxTotalBytes)
    (bounded : bounds.maxTotalBytes ≤ maxInventoryTotalBytes) :
    Inventory.shapeOf (ofBounds bounds).table (.int total) found.table
      = .ok (found.shape, .int (total + found.bytes : Nat)) := by
  unfold Inventory.shapeOf
  rw [get_kind]
  by_cases regular : found.status.kind = .regular
  · obtain ⟨bytes, content⟩ := get_file regular
    have shape : found.shape
        = .regularFile (.int found.content.length) (Digest.sha256 found.content) := by
      simp [Found.shape, regular]
    rw [bytes_of_regular regular] at room ⊢
    obtain ⟨sum, small, light⟩ := file_within admits regular room bounded
    rw [bytes, content, shape]
    dsimp only
    rw [if_pos ((FileKind.name_regular _).mpr regular)]
    simp only [Value.nat, Inventory.fileShape, bind_eq_ok, require_eq_ok, pure_eq_ok, sum]
    exact ⟨(), ⟨isNonNegativeInteger_nat _, by simp [Number.eq], small⟩, (), light, trivial⟩
  · obtain ⟨bytes, content⟩ := get_other regular
    rw [bytes, content, bytes_of_other regular, Nat.add_zero]
    dsimp only
    rw [if_neg fun same => regular ((FileKind.name_regular _).mp same)]
    cases kind : found.status.kind with
    | regular => exact absurd kind regular
    | _ => simp [FileKind.name, Value.text, Inventory.plainShape, Found.shape, kind, require, bind,
        Except.bind, pure, Except.pure]

theorem componentMax_le {path : Bytes} {limit : Nat}
    (short : ∀ c ∈ splitPath path, c.length ≤ limit) : Inventory.componentMax path ≤ limit := by
  have folded : ∀ (components : List Bytes) (m : Nat), m ≤ limit →
      (∀ c ∈ components, c.length ≤ limit) →
      components.foldl (fun m c => max m c.length) m ≤ limit := by
    intro components
    induction components with
    | nil => intro m small _; exact small
    | cons first rest ih =>
      intro m small each
      apply ih
      · exact max_le small (each first mem_cons_self)
      · exact fun c member => each c (mem_cons_of_mem _ member)
  exact folded _ 0 (Nat.zero_le _) short

theorem requirePathBounds_found (plain : found.IsPlain)
    (admits : Admits bounds found) {index : Nat} (few : index ≤ bounds.maxEntries) :
    Inventory.requirePathBounds (ofBounds bounds).table index found.path = .ok () := by
  obtain ⟨-, -, entries, depth, path, component⟩ := get_boundNumbers bounds
  obtain ⟨short, brief, shallow, -⟩ := admits
  have long : Inventory.componentMax found.path ≤ bounds.maxComponentBytes := by
    apply componentMax_le
    rw [plain.split]
    exact short
  simp only [Inventory.requirePathBounds, require_eq_ok, exceeds_of_get entries,
    exceeds_of_get depth, exceeds_of_get path, exceeds_of_get component, decide_eq_false_iff_not,
    Inventory.pathDepth, plain.split]
  omega

theorem identifies {label : String} {value : Value} (encodes : Json.Encodes value) :
    ∃ id, Digest.identify label value = .ok id := by
  obtain ⟨digest, digested⟩ := Digest.record_of_encodes encodes
  exact ⟨utf8 label ++ digest, by simp [Digest.identify, digested, bind, Except.bind, pure, Except.pure]⟩

theorem encodes_identityTable (device inode : Nat) : Json.Encodes (identityTable device inode) := by
  apply encodes_record
  simp only [forall_mem_cons]
  exact ⟨encodes_num _, encodes_num _, forall_mem_nil _⟩

theorem scanEntry_found {scan : Inventory.Scan} (fits : Fits bounds found)
    (stable : scan.stable = true) (counted : scan.totalBytes = .int total)
    (few : scan.entries.length + 1 ≤ bounds.maxEntries)
    (room : total + found.bytes ≤ bounds.maxTotalBytes)
    (bounded : bounds.maxTotalBytes ≤ maxInventoryTotalBytes)
    (after : ∀ entry ∈ scan.entries, ¬ Json.TextLe found.path entry.relativePath) :
    ∃ ref, Inventory.scanEntry (ofBounds bounds).table scan found.table
      = .ok ⟨scan.entries ++ [⟨found.path, found.shape, ref⟩],
          .int (total + found.bytes : Nat), true⟩ := by
  obtain ⟨plain, inside, admits⟩ := fits
  obtain ⟨small, short⟩ := plain.identity
  obtain ⟨before, behind⟩ := get_identity found
  have path : Inventory.nextPath scan (found.table.get "relative_path") = .ok found.path := by
    simp only [get_path, Inventory.nextPath, bind_eq_ok, require_eq_ok, pure_eq_ok]
    refine ⟨(), validateRelativePath_joinAll inside plain.1, (), ⟨?_, ?_⟩, trivial⟩
    · rw [Inventory.Scan.seen, any_eq_false]
      intro entry member same
      apply after entry member
      rw [of_decide_eq_true same]
      exact textLe_refl found.path
    · intro previous member
      obtain ⟨entry, last, rfl⟩ := Option.map_eq_some_iff.mp member
      exact after entry (mem_of_getLast? last)
  have kind : Inventory.requireKind (found.table.get "kind") = .ok () := by
    rw [Inventory.requireKind, require_eq_ok, get_kind]
    exact FileKind.name_known found.status.kind
  have encodes := encodes_identityTable found.status.device found.status.inode
  obtain ⟨ref, identified⟩ := @identifies "filesystem-identity:"
    (.record [("before", identityTable found.status.device found.status.inode),
      ("after", identityTable found.status.device found.status.inode)]) (by
    apply encodes_record
    simp only [forall_mem_cons]
    exact ⟨encodes, encodes, forall_mem_nil _⟩)
  refine ⟨ref, ?_⟩
  simp only [Inventory.scanEntry, bind_eq_ok, before, behind, stable, counted,
    Inventory.stillStable, if_true, same_self encodes]
  exact ⟨(), exactKeys_found found _, found.path, path, (), kind, (),
    validateIdentity_table small short _, (), validateIdentity_table small short _, true, rfl,
    (), requirePathBounds_found plain admits few, _, shapeOf_found admits room bounded, ref,
    identified, rfl⟩

theorem scanEntries_found (bounded : bounds.maxTotalBytes ≤ maxInventoryTotalBytes) :
    ∀ (taken : List Found) (scan : Inventory.Scan) (total : Nat),
      (∀ found ∈ taken, Fits bounds found) → scan.stable = true → scan.totalBytes = .int total →
      (∀ entry ∈ scan.entries, ∀ found ∈ taken, ¬ Json.TextLe found.path entry.relativePath) →
      taken.Pairwise (fun left right => ¬ Json.TextLe right.path left.path) →
      scan.entries.length + taken.length ≤ bounds.maxEntries →
      total + totalOf taken ≤ bounds.maxTotalBytes →
      ∃ entries, Inventory.scanEntries (ofBounds bounds).table scan (taken.map Found.table)
          = .ok ⟨scan.entries ++ entries, .int (total + totalOf taken : Nat), true⟩
        ∧ entries.map (fun entry => (entry.relativePath, entry.shape))
          = taken.map fun found => (found.path, found.shape) := by
  intro taken
  induction taken with
  | nil =>
    intro scan total _ stable counted _ _ _ _
    refine ⟨[], ?_, rfl⟩
    obtain ⟨entries, bytes, still⟩ := scan
    cases stable
    cases counted
    simp [Inventory.scanEntries, totalOf]
  | cons found rest ih =>
    intro scan total fits stable counted after ordered few room
    obtain ⟨later, orderedRest⟩ := pairwise_cons.mp ordered
    rw [totalOf_cons] at room ⊢
    rw [length_cons] at few
    obtain ⟨ref, scanned⟩ := scanEntry_found (fits found mem_cons_self) stable counted
      (by omega) (by omega) bounded fun entry member => after entry member found mem_cons_self
    obtain ⟨entries, collected, same⟩ := ih
      ⟨scan.entries ++ [⟨found.path, found.shape, ref⟩], .int (total + found.bytes : Nat), true⟩
      (total + found.bytes) (fun other member => fits other (mem_cons_of_mem _ member)) rfl rfl
      (by
        intro entry member other inRest
        rcases mem_append.mp member with old | new
        · exact after entry old other (mem_cons_of_mem _ inRest)
        · rw [mem_singleton.mp new]
          exact later other inRest)
      orderedRest (by rw [length_append, length_singleton]; omega) (by omega)
    refine ⟨⟨found.path, found.shape, ref⟩ :: entries, ?_, ?_⟩
    · simp only [map_cons, Inventory.scanEntries, bind_eq_ok]
      refine ⟨_, scanned, ?_⟩
      rw [collected, append_assoc, Nat.add_assoc]
      rfl
    · rw [map_cons, map_cons, same]

end

/-! ## The table of a result -/

def resultOf (handle : FsHandle) (bounds : InventoryBounds) (taken : List Found)
    (boundExceeded : Bool) (timeMs : Nat) : InventoryResult where
  boundExceeded := boundExceeded
  rootBefore := handle.repository
  rootAfter := handle.repository
  stable := true
  entries := taken.map (Found.entry true)
  bounds := bounds
  totalBytes := totalOf taken
  timeMs := timeMs

/-- The places are taken in strict order, within the bounds, and all fit. -/
structure Accepts (bounds : InventoryBounds) (taken : List Found) : Prop where
  fits : ∀ found ∈ taken, Fits bounds found
  ordered : taken.Pairwise fun left right => ¬ Json.TextLe right.path left.path
  few : taken.length ≤ bounds.maxEntries
  room : totalOf taken ≤ bounds.maxTotalBytes
  bounded : bounds.maxTotalBytes ≤ maxInventoryTotalBytes

section

variable {handle : FsHandle} {bounds : InventoryBounds} {taken : List Found}
  {exceeded : Bool} {timeMs : Nat}

theorem entries_resultOf : (resultOf handle bounds taken exceeded timeMs).table.get "entries"
    = .array (taken.map Found.table) := by
  have field : (resultOf handle bounds taken exceeded timeMs).table.get "entries"
      = .array ((taken.map (Found.entry true)).map InventoryEntry.table) := rfl
  rw [field, map_map]
  rfl

theorem denseArray_found (name : String) :
    denseArray (.array (taken.map Found.table)) name = .ok (taken.map Found.table) := by
  apply denseArray_array
  intro item member
  obtain ⟨found, -, rfl⟩ := mem_map.mp member
  exact Value.noConfusion

theorem deepCopy_found (found : Found) : found.table.deepCopy = found.table := by
  obtain ⟨components, ⟨device, inode, kind, _, _, _, _, _, _, _⟩, content⟩ := found
  cases kind <;> rfl

theorem deepCopy_resultOf : (resultOf handle bounds taken exceeded timeMs).table.deepCopy
    = (resultOf handle bounds taken exceeded timeMs).table := by
  have entries : (Value.array (taken.map Found.table)).deepCopy
      = .array (taken.map Found.table) := by
    apply deepCopy_array
    intro item member
    obtain ⟨found, -, rfl⟩ := mem_map.mp member
    exact deepCopy_found found
  have mapped : (taken.map (Found.entry true)).map InventoryEntry.table = taken.map Found.table := by
    rw [map_map]
    rfl
  rw [InventoryResult.table, deepCopy_record]
  simp only [map_cons, map_nil, resultOf, mapped, entries]
  rfl

theorem boundsTable_same (name : String) (member : name ∈ Inventory.boundNames) :
    (((resultOf handle bounds taken exceeded timeMs).boundsTable).get name).eq
      ((ofBounds bounds).table.get name) = true := by
  have same : ∀ n : Nat, (Value.nat n).eq (.nat n) = true := by
    intro n
    rw [eq_nat, decide_eq_true rfl]
  simp only [Inventory.boundNames, inventoryCeilings, map_cons, map_nil, mem_cons,
    not_mem_nil, or_false] at member
  rcases member with rfl | rfl | rfl | rfl | rfl | rfl
  · exact same bounds.maxEntries
  · exact same bounds.maxDepth
  · exact same bounds.maxPathBytes
  · exact same bounds.maxComponentBytes
  · exact same bounds.maxFileBytes
  · exact same bounds.maxTotalBytes

theorem observed_resultOf :
    (resultOf handle bounds taken exceeded timeMs).table.get "bounds_observed"
        = (resultOf handle bounds taken exceeded timeMs).boundsTable
      ∧ (resultOf handle bounds taken exceeded timeMs).boundsTable.get "observed_entries"
        = .nat taken.length
      ∧ (resultOf handle bounds taken exceeded timeMs).boundsTable.get "observed_total_bytes"
        = .nat (totalOf taken) := by
  refine ⟨rfl, ?_, rfl⟩
  have field : (resultOf handle bounds taken exceeded timeMs).boundsTable.get "observed_entries"
      = .nat (taken.map (Found.entry true)).length := rfl
  rw [field, length_map]

theorem outcome_resultOf :
    (resultOf handle bounds taken exceeded timeMs).table.get "outcome" = .text "observed"
      ∨ (resultOf handle bounds taken exceeded timeMs).table.get "outcome"
        = .text "bound_exceeded" := by
  cases exceeded
  · exact .inl rfl
  · exact .inr rfl

theorem validateInventoryResult_found (opened : handle.Opened) (accepts : Accepts bounds taken) :
    Provider.validateInventoryResult (resultOf handle bounds taken exceeded timeMs).table
        (ofBounds bounds).table
      = .ok (resultOf handle bounds taken exceeded timeMs).table := by
  obtain ⟨fits, ordered, few, room, bounded⟩ := accepts
  obtain ⟨-, -, entriesBound, -⟩ := get_boundNumbers bounds
  obtain ⟨observed, counted, summed⟩ := @observed_resultOf handle bounds taken exceeded timeMs
  have walked := inventoryEntries_found bounded taken none 0 fits
    (fun last member => by cases member) ordered (by omega)
  rw [Nat.zero_add] at walked
  have root := validateFilesystemIdentity_table opened.device opened.inode
  simp only [Provider.validateInventoryResult, bind_eq_ok, require_eq_ok, pure_eq_ok,
    orFail_eq_ok, Provider.exactPlainRecord, entries_resultOf, observed, counted, summed,
    deepCopy_resultOf]
  refine ⟨(), rfl, (), root _, (), root _, (), validateCost_costTable 1 0 timeMs _, (), ⟨rfl, rfl,
    outcome_resultOf, .inl rfl, rfl, rfl, rfl, rfl⟩, (), rfl, (), ?_, (), ⟨isNonNegativeInteger_nat _,
    isNonNegativeInteger_nat _⟩, _, denseArray_found _, (), ⟨?_, ?_⟩, _, walked, (), ?_, trivial⟩
  · exact forM_ok _ fun name member => (require_eq_ok _ _ _).mpr (boundsTable_same name member)
  · rw [length_map, exceeds_of_get entriesBound, decide_eq_false_iff_not]
    omega
  · rw [length_map, eq_nat, decide_eq_true rfl]
  · exact (eq_nat (totalOf taken) (totalOf taken)).trans (decide_eq_true rfl)

end

/-! ## The runtime's verdict -/

section

variable {handle : FsHandle} {bounds : InventoryBounds} {taken : List Found}
  {exceeded : Bool} {timeMs : Nat}

theorem normalizeInventoryBounds_ofBounds
    (accepted : Provider.validateInventoryRequest (ofBounds bounds).table = .ok ()) :
    normalizeInventoryBounds (ofBounds bounds).table = .ok (ofBounds bounds).table := by
  simp only [Provider.validateInventoryRequest, bind_eq_ok, require_eq_ok] at accepted
  obtain ⟨_, -, _, -, all⟩ := accepted
  have each := mem_of_forM_ok all
  simp only [require_eq_ok] at each
  have fields : validatePlainRecord (ofBounds bounds).table
      ("protocol_version" :: inventoryCeilings.map Prod.fst) "repository inventory bounds" = .ok () :=
    rfl
  have given : (ofBounds bounds).table.orElse defaultInventoryBounds = (ofBounds bounds).table := rfl
  simp only [normalizeInventoryBounds, given, fields, bind_eq_ok, require_eq_ok, pure_eq_ok]
  refine ⟨(), trivial, (), rfl, (), ?_, (), ?_, rfl⟩
  · exact forM_ok _ fun ceiling member => (require_eq_ok _ _ _).mpr (each ceiling member).1
  · rw [any_eq_false]
    intro ceiling member
    simp [(each ceiling member).2]

theorem readCoordinates_of {requestId rootFingerprint : Bytes} (named : requestId ≠ [])
    (printed : rootFingerprint ≠ [])
    (accepted : Provider.validateInventoryRequest (ofBounds bounds).table = .ok ()) :
    Inventory.readCoordinates (coordinatesOf requestId rootFingerprint (ofBounds bounds).table)
      = .ok ⟨requestId, rootFingerprint, (ofBounds bounds).table⟩ := by
  obtain ⟨a, request, rfl⟩ := exists_cons_of_ne_nil named
  obtain ⟨b, fingerprint, rfl⟩ := exists_cons_of_ne_nil printed
  have given : (coordinatesOf (a :: request) (b :: fingerprint) (ofBounds bounds).table).get
      "inventory_bounds" = (ofBounds bounds).table := rfl
  have fields : exactKeys (coordinatesOf (a :: request) (b :: fingerprint) (ofBounds bounds).table)
      Inventory.coordinateKeys Inventory.coordinateKeys "repository inventory coordinates" = .ok () :=
    rfl
  simp only [Inventory.readCoordinates, given, fields, normalizeInventoryBounds_ofBounds accepted,
    bind_eq_ok]
  exact ⟨(), trivial, _, rfl, (), rfl, rfl⟩

theorem requireEnvelope_resultOf (opened : handle.Opened) :
    Inventory.requireEnvelope (resultOf handle bounds taken exceeded timeMs).table = .ok () := by
  have root := validateIdentity_table opened.device opened.inode
  simp only [Inventory.requireEnvelope, bind_eq_ok, require_eq_ok]
  exact ⟨(), rfl, (), ⟨rfl, rfl, outcome_resultOf, .inl rfl, rfl, rfl⟩, (), root _, (), root _, (), rfl, rfl,
    rfl, isNonNegativeNumber_nat timeMs⟩

theorem requireObservedBounds_resultOf :
    Inventory.requireObservedBounds (ofBounds bounds).table
      (resultOf handle bounds taken exceeded timeMs).boundsTable = .ok () := by
  obtain ⟨-, counted, summed⟩ := @observed_resultOf handle bounds taken exceeded timeMs
  simp only [Inventory.requireObservedBounds, bind_eq_ok, require_eq_ok, counted, summed]
  refine ⟨(), rfl, (), ?_, isNonNegativeInteger_nat _, isNonNegativeInteger_nat _⟩
  exact forM_ok _ fun name member => (require_eq_ok _ _ _).mpr (boundsTable_same name member)

theorem encodes_entryTable (entry : Inventory.Entry) : Json.Encodes entry.table := by
  obtain ⟨path, shape, ref⟩ := entry
  apply encodes_record
  cases shape <;> simp only [forall_mem_cons, Inventory.Shape.bytes, Inventory.Shape.sha256] <;>
    exact ⟨⟨_, rfl⟩, ⟨_, rfl⟩, ⟨_, rfl⟩, ⟨_, rfl⟩, ⟨_, rfl⟩, forall_mem_nil _⟩

theorem encodes_entriesTable (entries : List Inventory.Entry) :
    Json.Encodes (Inventory.entriesTable entries) := by
  apply encodes_array
  intro item member
  obtain ⟨entry, -, rfl⟩ := mem_map.mp member
  exact encodes_entryTable entry

theorem make_ok {coordinates : Inventory.Coordinates} (encodes : Json.Encodes coordinates.bounds)
    (scan : Inventory.Scan) (beforeRef afterRef : Bytes) :
    ∃ inventory, Inventory.make coordinates scan beforeRef afterRef = .ok inventory
      ∧ inventory.entries = scan.entries := by
  have entries := encodes_entriesTable scan.entries
  have refs : ∀ texts : List Bytes, Json.Encodes (textArray texts) := by
    intro texts
    apply encodes_array
    intro item member
    obtain ⟨text, -, rfl⟩ := mem_map.mp member
    exact encodes_str text
  have seed : Json.Encodes (.record [
      ("request_id", .str coordinates.requestId),
      ("root_fingerprint", .str coordinates.rootFingerprint),
      ("inventory_bounds", coordinates.bounds),
      ("entries", Inventory.entriesTable scan.entries),
      ("observed_entry_count", .nat scan.entries.length),
      ("observed_total_bytes", .num scan.totalBytes)]) := by
    apply encodes_record
    simp only [forall_mem_cons]
    exact ⟨⟨_, rfl⟩, ⟨_, rfl⟩, encodes, entries, ⟨_, rfl⟩, ⟨_, rfl⟩, forall_mem_nil _⟩
  obtain ⟨digest, digested⟩ := Digest.record_of_encodes seed
  let unnamed : Inventory := ⟨[], coordinates.requestId, coordinates.rootFingerprint,
    coordinates.bounds, scan.entries, scan.totalBytes, digest,
    sortedUnique [coordinates.requestId, beforeRef, afterRef]⟩
  have named : Json.Encodes (.record unnamed.fields) := by
    apply encodes_record
    simp only [Inventory.fields, forall_mem_cons]
    exact ⟨⟨_, rfl⟩, ⟨_, rfl⟩, ⟨_, rfl⟩, ⟨_, rfl⟩, encodes, entries, ⟨_, rfl⟩, ⟨_, rfl⟩, ⟨_, rfl⟩,
      refs _, ⟨_, rfl⟩, forall_mem_nil _⟩
  obtain ⟨id, identified⟩ := @identifies "repository-seal-inventory:" _ named
  refine ⟨{ unnamed with inventoryId := id }, ?_, rfl⟩
  simp only [Inventory.make, bind_eq_ok, pure_eq_ok]
  exact ⟨digest, digested, id, identified, rfl⟩

theorem normalizeProviderResult_found {requestId rootFingerprint : Bytes} (named : requestId ≠ [])
    (printed : rootFingerprint ≠ []) (opened : handle.Opened)
    (accepted : Provider.validateInventoryRequest (ofBounds bounds).table = .ok ())
    (accepts : Accepts bounds taken) :
    ∃ observation, Inventory.normalizeProviderResult
        (resultOf handle bounds taken exceeded timeMs).table
        (coordinatesOf requestId rootFingerprint (ofBounds bounds).table) = .ok observation
      ∧ (exceeded = true → observation.verdict = .boundExceeded)
      ∧ (exceeded = false → ∃ inventory, observation.verdict = .observed inventory
        ∧ inventory.entries.map (fun entry => (entry.relativePath, entry.shape))
          = taken.map fun found => (found.path, found.shape)) := by
  obtain ⟨fits, ordered, few, room, bounded⟩ := accepts
  obtain ⟨observed, counted, summed⟩ := @observed_resultOf handle bounds taken exceeded timeMs
  have encodes := encodes_identityTable handle.repository.device handle.repository.inode
  obtain ⟨entries, scanned, same⟩ := scanEntries_found bounded taken ⟨[], .int 0, true⟩ 0 fits rfl rfl
    (forall_mem_nil _) ordered (by simpa using few) (by omega)
  rw [Nat.zero_add, nil_append] at scanned
  obtain ⟨ref, identified⟩ := @identifies "filesystem-identity:" _ encodes
  have before : (resultOf handle bounds taken exceeded timeMs).table.get "root_before"
      = identityTable handle.repository.device handle.repository.inode := rfl
  have after : (resultOf handle bounds taken exceeded timeMs).table.get "root_after"
      = identityTable handle.repository.device handle.repository.inode := rfl
  have still : (resultOf handle bounds taken exceeded timeMs).table.get "stable" = .bool true := rfl
  have lengths : entries.length = taken.length := by
    have := congrArg List.length same
    simpa using this
  have written : Json.Encodes (ofBounds bounds).table := by
    apply encodes_record
    simp only [forall_mem_cons]
    exact ⟨⟨_, rfl⟩, ⟨_, rfl⟩, ⟨_, rfl⟩, ⟨_, rfl⟩, ⟨_, rfl⟩, ⟨_, rfl⟩, ⟨_, rfl⟩, forall_mem_nil _⟩
  let coordinates : Inventory.Coordinates := ⟨requestId, rootFingerprint, (ofBounds bounds).table⟩
  obtain ⟨inventory, made, kept⟩ := @make_ok coordinates written
    ⟨entries, .int (totalOf taken), true⟩ ref ref
  have verdict : Inventory.verdictOf coordinates (resultOf handle bounds taken exceeded timeMs).table
      ⟨entries, .int (totalOf taken), true⟩ ref ref
      = .ok (if exceeded then .boundExceeded else .observed inventory) := by
    cases exceeded with
    | true => rfl
    | false =>
      have outcome : (resultOf handle bounds taken false timeMs).table.get "outcome"
          ≠ .text "bound_exceeded" := by
        have field : (resultOf handle bounds taken false timeMs).table.get "outcome"
            = .text "observed" := rfl
        rw [field]
        simp [Value.text]
      simp only [Inventory.verdictOf, if_neg outcome, made]
      rfl
  refine ⟨⟨ref, ref, (costTable 1 0 timeMs).deepCopy,
    if exceeded then .boundExceeded else .observed inventory⟩, ?_, ?_, ?_⟩
  · simp only [Inventory.normalizeProviderResult, bind_eq_ok, require_eq_ok, pure_eq_ok,
      entries_resultOf, observed, counted, summed, before, after, still,
      readCoordinates_of named printed accepted]
    refine ⟨_, rfl, (), requireEnvelope_resultOf opened, (), requireObservedBounds_resultOf, _,
      denseArray_found _, true, same_self encodes, _, scanned, (), ⟨?_, ?_⟩, ref, identified, ref,
      identified, _, verdict, rfl⟩
    · rw [eq_nat, lengths, decide_eq_true rfl]
    · exact (eq_nat (totalOf taken) (totalOf taken)).trans (decide_eq_true rfl)
  · intro crossed
    simp [crossed]
  · intro within
    refine ⟨inventory, by simp [within], ?_⟩
    rw [kept, same]

end

/-! ## Which trees get a verdict -/

section

variable {handle : FsHandle} {numbers : BoundNumbers} {bounds : InventoryBounds} {tree : Tree}
  {requestId rootFingerprint : Bytes}

theorem inside_of_found (sound : tree.Sound) (member : found ∈ tree.found []) :
    found.components ≠ [] ∧ splitPath found.path = found.components := by
  obtain ⟨name, -, more, split, valid⟩ := found_components sound [] found member
  rw [nil_append] at split
  refine ⟨by simp [split], ?_⟩
  apply splitPath_joinAll
  rw [split]
  exact fun c inside => ⟨(valid c inside).1, (valid c inside).2.1⟩

variable {taken : List Found}

theorem Takes.mem (takes : Takes bounds tree taken)
    (member : found ∈ taken) : found ∈ tree.found [] := by
  obtain ⟨left, perm⟩ := takes.part
  exact perm.subset (mem_append_left _ member)

theorem Takes.ordered (sound : tree.Sound) (takes : Takes bounds tree taken) :
    taken.Pairwise fun left right => ¬ Json.TextLe right.path left.path := by
  obtain ⟨left, perm⟩ := takes.part
  have distinct : taken.Pairwise fun one two => one ≠ two := by
    have whole : ((taken ++ left).map Found.components).Nodup :=
      (perm.map Found.components).nodup_iff.mpr (found_nodup sound [])
    have apart : (taken.map Found.components).Nodup := by
      rw [map_append] at whole
      exact (nodup_append.mp whole).1
    exact List.Nodup.of_map _ apart
  apply List.Pairwise.imp_of_mem _ (takes.sorted.and distinct)
  intro one two inOne inTwo order above
  apply order.2
  exact found_path_injective sound (takes.mem inOne) (takes.mem inTwo)
    (textLe_antisymm order.1 above)

variable {calls : InventoryCalls}

theorem provideInventory_answers (opened : handle.Opened) (told : numbers.Told bounds)
    (accepted : Provider.validateInventoryRequest numbers.table = .ok ()) (sound : tree.Sound)
    (answers : calls.Answers handle tree) :
    ∃ first taken exceeded timeMs,
      collectInventoryDirectory bounds true calls.first.stream calls.first.listing = some (.ok first)
      ∧ first.entries.Perm (taken.map (Found.entry true))
      ∧ Takes bounds tree taken ∧ (exceeded = false ↔ Within bounds tree)
      ∧ provideInventory handle numbers.table calls
        = some (adapt numbers.table (if taken.all Found.isRepresentable then
            .ok (resultOf handle bounds taken exceeded timeMs)
          else .error (inventoryFailure
            (.identityUnrepresentable, .projectInventoryIdentity, Errno.eoverflow)))) := by
  obtain ⟨request, read, granted⟩ := told.arguments
  obtain ⟨first, taken, exceeded, collected, entries, takes, within, transacted⟩ :=
    inventoryTransaction_answers sound answers bounds
  refine ⟨first, taken, exceeded, elapsedMilliseconds calls.started calls.finished, collected,
    entries, takes, within, ?_⟩
  simp only [provideInventory, accepted, callInventoryTree, opened.running, read, inventoryTree,
    granted, transacted, Bool.false_eq_true, if_false, Option.map_some]
  cases taken.all Found.isRepresentable <;> rfl

theorem provideInventory_floats (opened : handle.Opened)
    (accepted : Provider.validateInventoryRequest numbers.table = .ok ())
    (floats : ¬ numbers.AreIntegers) (calls : InventoryCalls) (raw : Value) :
    provideInventory handle numbers.table calls ≠ some (.ok raw) := by
  have none : argumentsOf numbers.table = none := by
    simpa [BoundNumbers.AreIntegers] using floats
  simp only [provideInventory, accepted, callInventoryTree, opened.running, none,
    Bool.false_eq_true, if_false, Option.map_some, adapt, ne_eq, Option.some.injEq, bind_eq_ok]
  rintro ⟨copy, -, impossible⟩
  cases impossible

theorem scanEntries_plain {scan next : Inventory.Scan} {bounds : Value} : ∀ {taken : List Found},
    Inventory.scanEntries bounds scan (taken.map Found.table) = .ok next →
    ∀ found ∈ taken, ∀ name ∈ splitPath found.path, isComponent name = true := by
  intro taken scanned
  induction taken generalizing scan with
  | nil => exact forall_mem_nil _
  | cons first rest ih =>
    simp only [map_cons, Inventory.scanEntries, bind_eq_ok] at scanned
    obtain ⟨mid, entered, after⟩ := scanned
    refine forall_mem_cons.mpr ⟨?_, ih after⟩
    simp only [Inventory.scanEntry, bind_eq_ok, get_path, Inventory.nextPath] at entered
    obtain ⟨_, -, _, ⟨_, valid, -⟩, -⟩ := entered
    exact fun name member => (intentPath_of_validateRelativePath valid).components name member |>.1

theorem GivesVerdict.plain (opened : handle.Opened) (told : numbers.Told bounds)
    (accepted : Provider.validateInventoryRequest numbers.table = .ok ()) (sound : tree.Sound)
    (answers : calls.Answers handle tree) {coordinates : Value}
    (verdict : GivesVerdict bounds tree coordinates (provideInventory handle numbers.table calls)) :
    ∃ first taken,
      collectInventoryDirectory bounds true calls.first.stream calls.first.listing = some (.ok first)
      ∧ first.entries.Perm (taken.map (Found.entry true)) ∧ Takes bounds tree taken
      ∧ ∀ found ∈ taken, found.IsPlain := by
  obtain ⟨first, taken, exceeded, timeMs, collected, entries, takes, -, provided⟩ :=
    provideInventory_answers opened told accepted sound answers
  obtain ⟨raw, observation, given, normalized, -⟩ := verdict
  refine ⟨first, taken, collected, entries, takes, ?_⟩
  rw [provided] at given
  cases fit : taken.all Found.isRepresentable with
  | false =>
    simp only [fit, Bool.false_eq_true, if_false, adapt, Option.some.injEq, bind_eq_ok] at given
    obtain ⟨copy, -, impossible⟩ := given
    cases impossible
  | true =>
    simp only [fit, if_true, adapt, Option.some.injEq] at given
    have kept : raw = (resultOf handle bounds taken exceeded timeMs).table := by
      simp only [Provider.validateInventoryResult, bind_eq_ok, pure_eq_ok,
        deepCopy_resultOf] at given
      obtain ⟨_, -, _, -, _, -, _, -, _, -, _, -, _, -, _, -, _, -, _, -, _, -, _, -, same⟩ := given
      exact same.symm
    rw [kept] at normalized
    simp only [Inventory.normalizeProviderResult, bind_eq_ok, entries_resultOf,
      denseArray_found] at normalized
    obtain ⟨c, -, _, -, _, -, items, same, stable, -, scan, scanned, -⟩ := normalized
    cases same
    intro found member
    have components := scanEntries_plain scanned found member
    rw [(inside_of_found sound (takes.mem member)).2] at components
    exact ⟨components, all_eq_true.mp fit found member⟩

theorem taken_of_leads (sound : tree.Sound) {listing : Listing} (shown : Shows tree listing)
    (member : found ∈ tree.found []) (leads : Leads listing found.components)
    (reaches : Reaches bounds found) {first : Snapshot}
    (collected : collectInventoryDirectory bounds true quietStream listing = some (.ok first))
    (entries : first.entries.Perm (taken.map (Found.entry true)))
    (takes : Takes bounds tree taken) : found ∈ taken := by
  have scanned : collectItems bounds true listing (joinAll []) 0 Snapshot.empty
      = some (.ok first) := by
    have scan : throughStream quietStream
        (collectItems bounds true listing [] 0 Snapshot.empty) = some (.ok first) := collected
    obtain ⟨result, -, whole, -⟩ := @collectItems_shows bounds true tree listing shown sound []
      Snapshot.empty (Going.start bounds)
    have same : collectItems bounds true listing [] 0 Snapshot.empty = some (.ok result) := whole
    rw [same] at scan
    cases scan
    exact same
  have entered := collectItems_leads leads shown sound (Going.start bounds) rfl rfl member
    (by simp) reaches scanned
  obtain ⟨other, inTaken, same⟩ := mem_map.mp (entries.subset entered)
  have paths : other.path = found.path := congrArg InventoryEntry.relativePath same
  rw [← found_path_injective sound (takes.mem inTaken) member paths]
  exact inTaken

theorem GivesVerdict.of_plain (opened : handle.Opened) (sound : tree.Sound)
    (accepted : Provider.validateInventoryRequest numbers.table = .ok ()) (named : requestId ≠ [])
    (printed : rootFingerprint ≠ []) (integers : numbers.AreIntegers)
    (plain : ∀ found ∈ tree.found [], Reaches numbers.bounds found → found.IsPlain)
    (answers : calls.Answers handle tree) :
    GivesVerdict numbers.bounds tree (coordinatesOf requestId rootFingerprint numbers.table)
      (provideInventory handle numbers.table calls) := by
  have told := BoundNumbers.told accepted integers
  obtain ⟨first, taken, exceeded, timeMs, -, -, takes, within, provided⟩ :=
    provideInventory_answers opened told accepted sound answers
  have fits : ∀ found ∈ taken, Fits numbers.bounds found := by
    intro found member
    have inTree := takes.mem member
    exact ⟨plain found inTree (takes.reached found member), (inside_of_found sound inTree).1,
      (takes.reached found member).1⟩
  have accepts : Accepts numbers.bounds taken :=
    ⟨fits, takes.ordered sound, takes.entries, takes.total, told.total⟩
  have fit : taken.all Found.isRepresentable = true :=
    all_eq_true.mpr fun found member => (fits found member).plain.2
  have table : numbers.table = (ofBounds numbers.bounds).table :=
    congrArg BoundNumbers.table told.same
  rw [table] at accepted
  obtain ⟨observation, normalized, crossed, listed⟩ := @normalizeProviderResult_found handle
    numbers.bounds taken exceeded timeMs requestId rootFingerprint named printed opened accepted accepts
  refine ⟨(resultOf handle numbers.bounds taken exceeded timeMs).table, observation, ?_, ?_, ?_, ?_⟩
  · rw [provided, fit, if_pos rfl, adapt, table]
    exact congrArg some (validateInventoryResult_found opened accepts)
  · rw [table]
    exact normalized
  · intro whole
    obtain ⟨inventory, observed, same⟩ := listed (within.mpr whole)
    refine ⟨inventory, observed, ?_, ?_⟩
    · have paths : inventory.entries.map Inventory.Entry.relativePath = taken.map Found.path := by
        have first := congrArg (List.map Prod.fst) same
        rwa [map_map, map_map] at first
      have sorted : (taken.map Found.path).Pairwise fun left right => ¬ Json.TextLe right left :=
        pairwise_map.mpr (takes.ordered sound)
      rw [← paths] at sorted
      exact pairwise_map.mp sorted
    · rw [same]
      exact (takes.whole whole).map _
  · intro broken
    apply crossed
    by_contra ended
    exact broken (within.mp (by simpa using ended))

/-- A tree gets its verdict in every listing exactly when the bounds are integers and every place
that some listing leads to is plain. -/
theorem inventory_verdict_iff (opened : handle.Opened) (sound : tree.Sound)
    (accepted : Provider.validateInventoryRequest numbers.table = .ok ())
    (named : requestId ≠ []) (printed : rootFingerprint ≠ []) :
    (∀ calls : InventoryCalls, calls.Answers handle tree →
      GivesVerdict numbers.bounds tree (coordinatesOf requestId rootFingerprint numbers.table)
        (provideInventory handle numbers.table calls))
      ↔ numbers.AreIntegers
        ∧ ∀ found ∈ tree.found [], Reaches numbers.bounds found → found.IsPlain := by
  constructor
  · intro verdicts
    have integers : numbers.AreIntegers := by
      by_contra floats
      obtain ⟨listing, shown⟩ := exists_shows tree
      obtain ⟨raw, -, given, -⟩ := verdicts _ (inventoryCallsOf_answers opened.mount shown)
      exact provideInventory_floats opened accepted floats _ raw given
    refine ⟨integers, ?_⟩
    intro found member reaches
    obtain ⟨listing, shown, leads⟩ := exists_leads found.components sound member (by simp)
    have answers := inventoryCallsOf_answers opened.mount shown
    obtain ⟨first, taken, collected, entries, takes, plain⟩ := (verdicts _ answers).plain opened
      (BoundNumbers.told accepted integers) accepted sound answers
    exact plain found (taken_of_leads sound shown member leads reaches collected entries takes)
  · rintro ⟨integers, plain⟩ calls answers
    exact GivesVerdict.of_plain opened sound accepted named printed integers plain answers

end

/-! ## Two trees -/

namespace OneFile

def handle : FsHandle := ⟨⟨1, 1, 1⟩, ⟨1, 2, 1⟩, false⟩

def status : Status := ⟨1, 3, .regular, 420, 0, 0, 1, 0, 0, 0⟩

def tree (name : Bytes) : Tree := .entry name status [] .empty .empty

def numbers : BoundNumbers := ofBounds ⟨4096, 64, 1024, 255, 1048576, 67108864⟩

theorem handle_opened : handle.Opened := ⟨rfl, rfl, by decide, by decide⟩

theorem tree_sound {name : Bytes} (named : Tree.IsName name) : (tree name).Sound :=
  ⟨named, not_mem_nil, rfl, fun _ => rfl, trivial, trivial⟩

def listing (name : Bytes) : Listing :=
  .item (itemCallsOf name status []) (.ending 0) (.ending 0)

theorem listing_shown (name : Bytes) : Shows (tree name) (listing name) :=
  Shows.item (Picks.here name status [] .empty .empty) (itemCallsOf_answers name status [])
    (fun _ => Shows.ending) Shows.ending

end OneFile

/-- A file beside a directory with two more. -/
def nested : Tree :=
  let file (inode : Nat) : Status := ⟨1, inode, .regular, 420, 0, 0, 1, 2, 0, 0⟩
  .entry (utf8 "README.md") (file 3) (utf8 "hi") .empty
    (.entry (utf8 "src") ⟨1, 4, .directory, 493, 0, 0, 2, 4096, 0, 0⟩ []
      (.entry (utf8 "main.lua") (file 5) (utf8 "hi") .empty
        (.entry (utf8 "test.lua") (file 6) (utf8 "hi") .empty .empty)) .empty)

theorem inventory_verdict_nested : ∃ listing, Shows nested listing
    ∧ GivesVerdict OneFile.numbers.bounds nested
      (coordinatesOf (utf8 "request") (utf8 "root") OneFile.numbers.table)
      (provideInventory OneFile.handle OneFile.numbers.table
        (inventoryCallsOf OneFile.handle listing)) := by
  have sound : nested.Sound := by
    have named : ∀ name ∈ ["README.md", "src", "main.lua", "test.lua"].map utf8,
        Tree.IsName name := by
      unfold Tree.IsName
      decide
    exact ⟨named _ (by simp), by decide, rfl, fun _ => rfl, trivial, named _ (by simp), by decide,
      rfl, fun other => absurd rfl other,
      ⟨named _ (by simp), by decide, rfl, fun _ => rfl, trivial, named _ (by simp), by decide, rfl,
        fun _ => rfl, trivial, trivial⟩, trivial⟩
  have plain : ∀ found ∈ nested.found [], found.IsPlain := by
    unfold Found.IsPlain
    decide
  obtain ⟨listing, shown⟩ := exists_shows nested
  exact ⟨listing, shown, (inventory_verdict_iff OneFile.handle_opened sound rfl (by decide)
    (by decide)).mpr ⟨by decide, fun found member _ => plain found member⟩ _
      (inventoryCallsOf_answers OneFile.handle_opened.mount shown)⟩

/-- A file whose name begins with a dot is found by the library, passed on by the adapter and
refused by the runtime. -/
theorem dotfile_without_verdict :
    (OneFile.tree (utf8 ".gitignore")).Sound ∧ OneFile.handle.Opened
      ∧ Provider.validateInventoryRequest OneFile.numbers.table = .ok ()
      ∧ (inventoryCallsOf OneFile.handle (OneFile.listing (utf8 ".gitignore"))).Answers OneFile.handle
        (OneFile.tree (utf8 ".gitignore"))
      ∧ ¬ GivesVerdict OneFile.numbers.bounds (OneFile.tree (utf8 ".gitignore"))
        (coordinatesOf (utf8 "request") (utf8 "root") OneFile.numbers.table)
        (provideInventory OneFile.handle OneFile.numbers.table
          (inventoryCallsOf OneFile.handle (OneFile.listing (utf8 ".gitignore")))) := by
  have sound : (OneFile.tree (utf8 ".gitignore")).Sound :=
    OneFile.tree_sound ⟨by decide, by decide, by decide, by decide⟩
  have accepted : Provider.validateInventoryRequest OneFile.numbers.table = .ok () := rfl
  have answers := inventoryCallsOf_answers OneFile.handle_opened.mount
    (OneFile.listing_shown (utf8 ".gitignore"))
  refine ⟨sound, OneFile.handle_opened, accepted, answers, ?_⟩
  intro verdict
  obtain ⟨first, taken, -, -, takes, plain⟩ := verdict.plain OneFile.handle_opened
    (BoundNumbers.told accepted (by decide)) accepted sound answers
  have within : Within OneFile.numbers.bounds (OneFile.tree (utf8 ".gitignore")) := by
    refine ⟨?_, by decide, by decide⟩
    intro found member
    rw [mem_singleton.mp member]
    exact ⟨by decide, by decide, by decide, by decide⟩
  have member := (takes.whole within).symm.subset mem_cons_self
  have shaped := (plain _ member).1 (utf8 ".gitignore") mem_cons_self
  revert shaped
  decide

end Proc17.Native
