import Proc17.Native.Launcher
import Proc17.Native.Transactions

/-!
# The inventory of a tree

`inventory_tree` of `native/proc17_repository_fs.c`: the tree under the root is scanned with
the content of its files, scanned again without, and projected when both scans agree.  The
answers of one scan form a tree themselves, since a directory is listed while its parent is.
-/

namespace Proc17.Native

open Lua Core Runtime.Repository

structure InventoryBounds where
  maxEntries : Nat
  maxDepth : Nat
  maxPathBytes : Nat
  maxComponentBytes : Nat
  maxFileBytes : Nat
  maxTotalBytes : Nat

structure InventoryEntry where
  relativePath : Bytes
  kind : FileKind
  identityBefore : Status
  identityAfter : Status
  bytes : Nat
  content : Bytes

/-- `struct proc17_inventory_snapshot`; `count` is the number of entries. -/
structure Snapshot where
  entries : List InventoryEntry
  capacity : Nat
  totalBytes : Nat
  boundExceeded : Bool
  unstable : Bool

def Snapshot.empty : Snapshot := ⟨[], 0, 0, false, false⟩

def Snapshot.halted (snapshot : Snapshot) : Bool := snapshot.boundExceeded || snapshot.unstable

/-! ## The answers of a scan -/

structure FileCalls where
  openFile : Sys Unit
  before : Sys Status
  /-- Whether the buffer could be allocated. -/
  buffer : Bool
  reads : List (Sys Bytes)
  after : Sys Status
  close : Sys Unit

structure StreamCalls where
  dup : Sys Unit
  fdopendir : Sys Unit
  /-- `close` of the duplicate, made only when `fdopendir` fails. -/
  closeScan : Sys Unit
  closedir : Sys Unit

structure ItemCalls where
  name : Bytes
  /-- Whether the path could be allocated. -/
  path : Bool
  status : Sys Status
  /-- Whether the entries could be moved to a larger array. -/
  grow : Bool
  file : FileCalls
  openChild : Sys Unit
  childStatus : Sys Status
  childStream : StreamCalls
  closeChild : Sys Unit

/-- What `readdir` gives: the end, with an error number or none, or a name with what is listed
below it should it be a directory. -/
inductive Listing where
  | ending (errno : Errno)
  | item (calls : ItemCalls) (inside rest : Listing)

/-! ## One file -/

/-- The two loops over `read`: the expected bytes, then the end of the file.  They give nothing
while they wait, and no bytes of a file that moved. -/
def readToEnd : (room retries : Nat) → Bytes → List (Sys Bytes) →
    Option (Except Errno (Option Bytes))
  | _, _, _, [] => none
  | room, retries, read, .error errno :: rest =>
    if errno = Errno.eintr ∧ retries + 1 ≤ maxEintrRetries then
      readToEnd room (retries + 1) read rest
    else some (.error errno)
  | 0, _, read, .ok chunk :: _ => some (.ok (if chunk.isEmpty then some read else none))
  | room + 1, retries, read, .ok chunk :: rest =>
    if chunk.isEmpty || room + 1 < chunk.length then some (.ok none)
    else readToEnd (room + 1 - chunk.length) retries (read ++ chunk) rest
termination_by _ _ _ answers => answers.length

structure FileRead where
  content : Bytes
  before : Status
  after : Status

def isGone (errno : Errno) : Bool :=
  errno = Errno.enoent || errno = Errno.eloop || errno = Errno.enotdir

/-- `read_inventory_file` up to its loops. -/
def openInventoryFile (calls : FileCalls) (classified : Status) :
    Except Errno (Option Status) :=
  match calls.openFile with
  | .error errno => if isGone errno then .ok none else .error errno
  | .ok () => do
      let before ← calls.before
      if before.kind ≠ .regular || !sameFileIdentity classified before then pure none
      else if calls.buffer then pure (some before)
      else
        -- the number is that of the failed allocation unless `close` fails too
        calls.close
        throw Errno.enomem

def readInventoryFile (calls : FileCalls) (classified : Status) (bytes : Nat) :
    Option (Except Errno (Option FileRead)) :=
  match openInventoryFile calls classified with
  | .error errno => some (.error errno)
  | .ok none => some (.ok none)
  | .ok (some before) =>
    match readToEnd bytes 0 [] calls.reads with
    | none => none
    | some (.error errno) => some (.error errno)
    | some (.ok none) => some (.ok none)
    | some (.ok (some content)) => some do
        let after ← calls.after
        calls.close
        pure (if sameFileVersion before after then some ⟨content, before, after⟩ else none)

/-! ## One directory -/

/-- `reserve_inventory_entry`: the capacity for one more entry, none when a bound forbids it.
The product with the size of an entry cannot overflow, as a capacity is at most 4096. -/
def reserveInventoryEntry (bounds : InventoryBounds) (grow : Bool) (snapshot : Snapshot) :
    Except Errno (Option Nat) :=
  if bounds.maxEntries ≤ snapshot.entries.length then .ok none
  else if snapshot.entries.length < snapshot.capacity then .ok (some snapshot.capacity)
  else
    let capacity :=
      min (if snapshot.capacity = 0 then 16 else snapshot.capacity * 2) bounds.maxEntries
    if capacity ≤ snapshot.capacity then .error Errno.eoverflow
    else if grow then .ok (some capacity)
    else .error Errno.enomem

def joinPath (parent name : Bytes) : Bytes :=
  if parent.isEmpty then name else parent ++ 47 :: name

def outOfPathBounds (bounds : InventoryBounds) (parent name : Bytes) (depth : Nat) : Bool :=
  name.isEmpty || bounds.maxComponentBytes < name.length
    || bounds.maxPathBytes < (joinPath parent name).length || bounds.maxDepth < depth + 1

def outOfByteBounds (bounds : InventoryBounds) (total : Nat) (status : Status) : Bool :=
  status.kind = .regular
    && (status.size < 0 || (bounds.maxFileBytes : Int) < status.size
      || ((bounds.maxTotalBytes - total : Nat) : Int) < status.size)

inductive Admission where
  | stop (snapshot : Snapshot)
  | failed (errno : Errno)
  | entry (status : Status) (capacity : Nat)

def admitItem (bounds : InventoryBounds) (parent : Bytes) (depth : Nat) (calls : ItemCalls)
    (snapshot : Snapshot) : Admission :=
  if outOfPathBounds bounds parent calls.name depth then
    .stop { snapshot with boundExceeded := true }
  else if !calls.path then .failed Errno.enomem
  else
    match calls.status with
    | .error errno =>
      if errno = Errno.enoent then .stop { snapshot with unstable := true } else .failed errno
    | .ok status =>
      if outOfByteBounds bounds snapshot.totalBytes status then
        .stop { snapshot with boundExceeded := true }
      else
        match reserveInventoryEntry bounds calls.grow snapshot with
        | .error errno => .failed errno
        | .ok none => .stop { snapshot with boundExceeded := true }
        | .ok (some capacity) => .entry status capacity

def Snapshot.push (snapshot : Snapshot) (capacity : Nat) (entry : InventoryEntry) : Snapshot :=
  { snapshot with
    entries := snapshot.entries ++ [entry]
    capacity := capacity
    totalBytes := snapshot.totalBytes + entry.bytes }

def entryOf (path : Bytes) (status : Status) : InventoryEntry where
  relativePath := path
  kind := status.kind
  identityBefore := status
  identityAfter := status
  bytes := if status.kind = .regular then status.size.toNat else 0
  content := []

def collectFile (capture : Bool) (calls : FileCalls) (capacity : Nat) (entry : InventoryEntry)
    (snapshot : Snapshot) : Option (Except Errno Snapshot) :=
  if capture then
    match readInventoryFile calls entry.identityBefore entry.bytes with
    | none => none
    | some (.error errno) => some (.error errno)
    | some (.ok none) => some (.ok { snapshot.push capacity entry with unstable := true })
    | some (.ok (some file)) =>
      some (.ok (snapshot.push capacity { entry with
        identityBefore := file.before
        identityAfter := file.after
        content := file.content }))
  else some (.ok (snapshot.push capacity entry))

def openDirectory (calls : ItemCalls) (status : Status) : Except Errno (Option Status) :=
  match calls.openChild with
  | .error errno => if isGone errno then .ok none else .error errno
  | .ok () =>
    match calls.childStatus with
    | .error _ => .ok none
    | .ok opened => .ok (if sameFileIdentity status opened then some opened else none)

/-- The loop over `readdir` between the calls that open and close its stream. -/
def throughStream (calls : StreamCalls) (items : Option (Except Errno Snapshot)) :
    Option (Except Errno Snapshot) :=
  match calls.dup, calls.fdopendir, calls.closeScan with
  | .error errno, _, _ => some (.error errno)
  | .ok (), .error _, .error errno => some (.error errno)
  | .ok (), .error errno, .ok () => some (.error errno)
  | .ok (), .ok (), _ =>
    match items, calls.closedir with
    | some (.ok _), .error errno => some (.error errno)
    | items, _ => items

/-- The loop of `collect_inventory_directory`. -/
def collectItems (bounds : InventoryBounds) (capture : Bool) :
    Listing → Bytes → Nat → Snapshot → Option (Except Errno Snapshot)
  | .ending errno, _, _, snapshot =>
    some (if snapshot.halted || errno = 0 then .ok snapshot else .error errno)
  | .item calls inside rest, parent, depth, snapshot =>
    if snapshot.halted then some (.ok snapshot)
    else if isDot calls.name then collectItems bounds capture rest parent depth snapshot
    else
      match admitItem bounds parent depth calls snapshot with
      | .stop stopped => some (.ok stopped)
      | .failed errno => some (.error errno)
      | .entry status capacity =>
        let path := joinPath parent calls.name
        let entry := entryOf path status
        match status.kind with
        | .regular =>
          match collectFile capture calls.file capacity entry snapshot with
          | some (.ok next) => collectItems bounds capture rest parent depth next
          | answer => answer
        | .directory =>
          match openDirectory calls status with
          | .error errno => some (.error errno)
          | .ok none => some (.ok { snapshot.push capacity entry with unstable := true })
          | .ok (some opened) =>
            let entered := snapshot.push capacity { entry with identityAfter := opened }
            match throughStream calls.childStream
                (collectItems bounds capture inside path (depth + 1) entered),
              calls.closeChild with
            | none, _ => none
            | some _, .error errno => some (.error errno)
            | some (.error errno), .ok () => some (.error errno)
            | some (.ok next), .ok () =>
              collectItems bounds capture rest parent depth next
        | _ => collectItems bounds capture rest parent depth (snapshot.push capacity entry)

def collectInventoryDirectory (bounds : InventoryBounds) (capture : Bool) (stream : StreamCalls)
    (listing : Listing) : Option (Except Errno Snapshot) :=
  throughStream stream (collectItems bounds capture listing [] 0 Snapshot.empty)

/-! ## The transaction -/

structure ScanCalls where
  openRoot : Sys Unit
  stream : StreamCalls
  listing : Listing
  close : Sys Unit

structure InventoryCalls where
  root : PairCalls
  first : ScanCalls
  second : ScanCalls
  closeRepository : Sys Unit
  closeBase : Sys Unit
  again : PairCalls
  closeRepositoryAgain : Sys Unit
  closeBaseAgain : Sys Unit
  started : Nat
  finished : Nat

structure InventoryRequest where
  maxEntries : Int
  maxDepth : Int
  maxPathBytes : Int
  maxComponentBytes : Int
  maxFileBytes : Int
  maxTotalBytes : Int

def maxInventoryEntries : Nat := 4096
def maxInventoryTotalBytes : Nat := 67108864

def inRange (value : Int) (ceiling : Nat) : Bool := 1 ≤ value && value ≤ ceiling

def InventoryRequest.bounds (request : InventoryRequest) : Option InventoryBounds :=
  if inRange request.maxEntries maxInventoryEntries && inRange request.maxDepth maxComponents
      && inRange request.maxPathBytes maxRelativePathBytes
      && inRange request.maxComponentBytes Runtime.Repository.maxComponentBytes
      && inRange request.maxFileBytes maxContentBytes
      && inRange request.maxTotalBytes maxInventoryTotalBytes then
    some ⟨request.maxEntries.toNat, request.maxDepth.toNat, request.maxPathBytes.toNat,
      request.maxComponentBytes.toNat, request.maxFileBytes.toNat, request.maxTotalBytes.toNat⟩
  else none

def sortInventorySnapshot (entries : List InventoryEntry) : List InventoryEntry :=
  entries.insertionSort fun left right => Json.TextLe left.relativePath right.relativePath

def compareEntries : List InventoryEntry → List InventoryEntry → List InventoryEntry × Bool
  | left :: lefts, right :: rights =>
    if left.relativePath ≠ right.relativePath || left.kind ≠ right.kind
        || !sameFileVersion left.identityAfter right.identityBefore then
      (left :: lefts, false)
    else
      let rest := compareEntries lefts rights
      ({ left with identityAfter := right.identityBefore } :: rest.1, rest.2)
  | lefts, _ => (lefts, true)

def compareInventorySnapshots (first second : Snapshot) : List InventoryEntry × Bool :=
  let left := sortInventorySnapshot first.entries
  if first.entries.length ≠ second.entries.length || first.boundExceeded ≠ second.boundExceeded
      || first.totalBytes ≠ second.totalBytes then
    (left, false)
  else compareEntries left (sortInventorySnapshot second.entries)

def scanErrorCode (errno : Errno) : FsCode :=
  if errno = Errno.eacces ∨ errno = Errno.eperm then .permissionDenied else .ioFailure

def firstScan (bounds : InventoryBounds) (calls : ScanCalls) : Option (Except Halted Snapshot) :=
  match calls.openRoot with
  | .error errno => some (.error (scanErrorCode errno, .openInventoryRoot, errno))
  | .ok () =>
    match collectInventoryDirectory bounds true calls.stream calls.listing with
    | none => none
    | some (.error errno) =>
      some (.error (scanErrorCode (orIo errno), .enumerateInventoryTree, orIo errno))
    | some (.ok snapshot) =>
      if snapshot.unstable then
        some (.error (.inventoryUnstable, .verifyInventoryStability, Errno.estale))
      else some (.ok snapshot)

def secondScan (bounds : InventoryBounds) (calls : ScanCalls) (first : Snapshot) :
    Option (Except Halted (List InventoryEntry × Bool)) :=
  if first.boundExceeded then some (.ok (sortInventorySnapshot first.entries, true))
  else
    match calls.openRoot with
    | .error errno => some (.error (.ioFailure, .openInventoryRoot, errno))
    | .ok () =>
      match collectInventoryDirectory bounds false calls.stream calls.listing with
      | none => none
      | some (.error errno) =>
        some (.error (.ioFailure, .reobserveInventoryTree, orIo errno))
      | some (.ok second) => some do
          Sys.orHalt calls.close .closeInventoryDescriptors ioFailure
          pure (if second.unstable then (sortInventorySnapshot first.entries, false)
            else compareInventorySnapshots first second)

def closePairOrHalt (repository base : Sys Unit) : Except Halted Unit :=
  match firstCloseError [repository, base] with
  | some errno => .error (.ioFailure, .closeInventoryDescriptors, errno)
  | none => .ok ()

def revalidateRoot (handle : FsHandle) (calls : InventoryCalls) : Except Halted FsIdentity := do
  Sys.orHalt calls.first.close .closeInventoryDescriptors ioFailure
  closePairOrHalt calls.closeRepository calls.closeBase
  match openIdentityPair calls.again with
  | .error (_, errno) => throw (.rootChanged, .revalidateInventoryRoot, errno)
  | .ok pair =>
    if !handle.isSame pair then throw (.rootChanged, .revalidateInventoryRoot, Errno.estale)
    closePairOrHalt calls.closeRepositoryAgain calls.closeBaseAgain
    pure pair.2

def Status.isRepresentable (status : Status) : Bool :=
  status.device < 2 ^ 63 && status.inode < 2 ^ 63

structure InventoryResult where
  boundExceeded : Bool
  rootBefore : FsIdentity
  rootAfter : FsIdentity
  stable : Bool
  entries : List InventoryEntry
  bounds : InventoryBounds
  totalBytes : Nat
  timeMs : Nat

/-- The body of `inventory_tree` for accepted bounds. -/
def inventoryTransaction (handle : FsHandle) (bounds : InventoryBounds) (calls : InventoryCalls) :
    Option (Except Halted InventoryResult) :=
  match openHandleRoot handle calls.root with
  | .error halted => some (.error halted)
  | .ok rootBefore =>
    match firstScan bounds calls.first with
    | none => none
    | some (.error halted) => some (.error halted)
    | some (.ok first) =>
      match secondScan bounds calls.second first with
      | none => none
      | some (.error halted) => some (.error halted)
      | some (.ok (entries, stable)) => some do
          let rootAfter ← revalidateRoot handle calls
          if entries.any fun entry =>
              !entry.identityBefore.isRepresentable || !entry.identityAfter.isRepresentable then
            throw (.identityUnrepresentable, .projectInventoryIdentity, Errno.eoverflow)
          pure {
            boundExceeded := first.boundExceeded
            rootBefore := rootBefore
            rootAfter := rootAfter
            stable := stable
            entries := entries
            bounds := bounds
            totalBytes := first.totalBytes
            timeMs := elapsedMilliseconds calls.started calls.finished }

def inventoryFailure (halted : Halted) : FsError :=
  .plain (if halted.1 = .identityUnrepresentable then .contract else .world) halted.1 halted.2.1
    (orIo halted.2.2) 1

def inventoryTree (handle : FsHandle) (request : InventoryRequest) (calls : InventoryCalls) :
    Option (Except FsError InventoryResult) :=
  if handle.closed then some (.error (.plain .contract .handleClosed .inventoryHandle 0 0))
  else
    match request.bounds with
    | none =>
      some (.error (.plain .contract .invalidRequest .validateInventoryRequest Errno.einval 0))
    | some bounds =>
      (inventoryTransaction handle bounds calls).map fun answer =>
        answer.mapError inventoryFailure

/-! ## The table of a result -/

def FileKind.name : FileKind → String
  | .directory => "directory"
  | .regular => "regular_file"
  | .symlink => "symlink"
  | .special => "special"

/-- `push_identity` and `push_stat_identity` -/
def identityTable (device inode : Nat) : Value :=
  .record [("device", luaInteger device), ("inode", luaInteger inode)]

def InventoryEntry.table (entry : InventoryEntry) : Value := .record [
  ("relative_path", .str entry.relativePath),
  ("kind", .text entry.kind.name),
  ("identity_before", identityTable entry.identityBefore.device entry.identityBefore.inode),
  ("identity_after", identityTable entry.identityAfter.device entry.identityAfter.inode),
  ("bytes", if entry.kind = .regular then .nat entry.bytes else .nil),
  ("content", if entry.kind = .regular then .str entry.content else .nil)]

def InventoryResult.boundsTable (result : InventoryResult) : Value := .record [
  ("max_entries", .nat result.bounds.maxEntries),
  ("max_depth", .nat result.bounds.maxDepth),
  ("max_path_bytes", .nat result.bounds.maxPathBytes),
  ("max_component_bytes", .nat result.bounds.maxComponentBytes),
  ("max_file_bytes", .nat result.bounds.maxFileBytes),
  ("max_total_bytes", .nat result.bounds.maxTotalBytes),
  ("observed_entries", .nat result.entries.length),
  ("observed_total_bytes", .nat result.totalBytes)]

def InventoryResult.table (result : InventoryResult) : Value := .record [
  ("protocol_version", .text "repository.provider_inventory_result.v0"),
  ("operation", .text "inventory_tree"),
  ("outcome", .text (if result.boundExceeded then "bound_exceeded" else "observed")),
  ("root_before", identityTable result.rootBefore.device result.rootBefore.inode),
  ("root_after", identityTable result.rootAfter.device result.rootAfter.inode),
  ("stable", .bool result.stable),
  ("entries", .array (result.entries.map InventoryEntry.table)),
  ("bounds_observed", result.boundsTable),
  ("mutation_primitive_entered", .bool false),
  ("published", .bool false),
  ("cost", costTable 1 0 result.timeMs)]

end Proc17.Native
