import Proc17.Runtime.Repository.Paths

/-!
# The repository's file system

What the transactions of `native/proc17_repository_fs.c` share: the answers of the kernel,
which are inputs of the model, the error codes made of them, the paths a request may name,
and the identity of an opened repository.  A system call answers with a value or an error
number.
-/

namespace Proc17.Native

open Lua Runtime.Repository

abbrev Errno := Nat

namespace Errno

def eperm : Errno := 1
def enoent : Errno := 2
def eintr : Errno := 4
def eio : Errno := 5
def enomem : Errno := 12
def eacces : Errno := 13
def eexist : Errno := 17
def exdev : Errno := 18
def enotdir : Errno := 20
def einval : Errno := 22
def enospc : Errno := 28
def erofs : Errno := 30
def enosys : Errno := 38
def eloop : Errno := 40
def eoverflow : Errno := 75
def enotsup : Errno := 95
def estale : Errno := 116
def edquot : Errno := 122

end Errno

abbrev Sys (α : Type) := Except Errno α

def orIo (errno : Errno) : Errno := if errno = 0 then Errno.eio else errno

/-! ## Error records -/

inductive FsClass where
  | contract
  | world
  | ambiguous

inductive FsCode where
  | handleClosed
  | invalidRequest
  | rootChanged
  | providerUnavailable
  | parentMissing
  | parentNotDirectory
  | parentNotPrivate
  | pathSymlink
  | pathContainmentDenied
  | permissionDenied
  | ioFailure
  | noSpace
  | tempNameCollision
  | tempIdentityInvalid
  | tempCleanupFailed
  | targetExists
  | targetChanged
  | ambiguousEffect
  | readUnstable
  | inventoryUnstable
  | identityUnrepresentable
  deriving DecidableEq

inductive FsStage where
  | openProjectBase
  | observeProjectBase
  | openRepositoryRoot
  | observeRepositoryRoot
  | compareRootIdentity
  | createHandle
  | validateCreateRequest
  | openParent
  | observeParentPolicy
  | getrandom
  | openTemp
  | setTempMode
  | observeTempIdentity
  | writeTemp
  | fsyncTemp
  | closeTemp
  | renameNoreplace
  | cleanupUnlink
  | fsyncParent
  | closeTransactionDescriptors
  | readHandle
  | validateReadRequest
  | openReadParent
  | classifyReadTarget
  | openReadTarget
  | observeReadTarget
  | allocateReadBuffer
  | readTarget
  | verifyReadStability
  | reobserveReadTarget
  | closeReadDescriptors
  | inventoryHandle
  | validateInventoryRequest
  | openInventoryRoot
  | enumerateInventoryTree
  | reobserveInventoryTree
  | verifyInventoryStability
  | revalidateInventoryRoot
  | closeInventoryDescriptors
  | projectInventoryIdentity

def FsClass.name : FsClass → String
  | .contract => "contract"
  | .world => "world"
  | .ambiguous => "ambiguous"

def FsCode.name : FsCode → String
  | .handleClosed => "handle_closed"
  | .invalidRequest => "invalid_request"
  | .rootChanged => "root_changed"
  | .providerUnavailable => "provider_unavailable"
  | .parentMissing => "parent_missing"
  | .parentNotDirectory => "parent_not_directory"
  | .parentNotPrivate => "parent_not_private"
  | .pathSymlink => "path_symlink"
  | .pathContainmentDenied => "path_containment_denied"
  | .permissionDenied => "permission_denied"
  | .ioFailure => "io_failure"
  | .noSpace => "no_space"
  | .tempNameCollision => "temp_name_collision"
  | .tempIdentityInvalid => "temp_identity_invalid"
  | .tempCleanupFailed => "temp_cleanup_failed"
  | .targetExists => "target_exists"
  | .targetChanged => "target_changed"
  | .ambiguousEffect => "ambiguous_effect"
  | .readUnstable => "read_unstable"
  | .inventoryUnstable => "inventory_unstable"
  | .identityUnrepresentable => "identity_unrepresentable"

def FsStage.name : FsStage → String
  | .openProjectBase => "open_project_base"
  | .observeProjectBase => "observe_project_base"
  | .openRepositoryRoot => "open_repository_root"
  | .observeRepositoryRoot => "observe_repository_root"
  | .compareRootIdentity => "compare_root_identity"
  | .createHandle => "create_handle"
  | .validateCreateRequest => "validate_create_request"
  | .openParent => "open_parent"
  | .observeParentPolicy => "observe_parent_policy"
  | .getrandom => "getrandom"
  | .openTemp => "open_temp"
  | .setTempMode => "set_temp_mode"
  | .observeTempIdentity => "observe_temp_identity"
  | .writeTemp => "write_temp"
  | .fsyncTemp => "fsync_temp"
  | .closeTemp => "close_temp"
  | .renameNoreplace => "rename_noreplace"
  | .cleanupUnlink => "cleanup_unlink"
  | .fsyncParent => "fsync_parent"
  | .closeTransactionDescriptors => "close_transaction_descriptors"
  | .readHandle => "read_handle"
  | .validateReadRequest => "validate_read_request"
  | .openReadParent => "open_read_parent"
  | .classifyReadTarget => "classify_read_target"
  | .openReadTarget => "open_read_target"
  | .observeReadTarget => "observe_read_target"
  | .allocateReadBuffer => "allocate_read_buffer"
  | .readTarget => "read_target"
  | .verifyReadStability => "verify_read_stability"
  | .reobserveReadTarget => "reobserve_read_target"
  | .closeReadDescriptors => "close_read_descriptors"
  | .inventoryHandle => "inventory_handle"
  | .validateInventoryRequest => "validate_inventory_request"
  | .openInventoryRoot => "open_inventory_root"
  | .enumerateInventoryTree => "enumerate_inventory_tree"
  | .reobserveInventoryTree => "reobserve_inventory_tree"
  | .verifyInventoryStability => "verify_inventory_stability"
  | .revalidateInventoryRoot => "revalidate_inventory_root"
  | .closeInventoryDescriptors => "close_inventory_descriptors"
  | .projectInventoryIdentity => "project_inventory_identity"

/-- The arguments of `push_error_full`. -/
structure FsError where
  errorClass : FsClass
  code : FsCode
  stage : FsStage
  errno : Errno
  mutationEntered : Bool
  published : Bool
  toolCalls : Nat
  fileWrites : Nat
  timeMs : Nat
  residue : Option Bytes

/-- The arguments of `push_error`. -/
def FsError.plain (errorClass : FsClass) (code : FsCode) (stage : FsStage) (errno : Errno)
    (toolCalls : Nat) : FsError where
  errorClass := errorClass
  code := code
  stage := stage
  errno := errno
  mutationEntered := false
  published := false
  toolCalls := toolCalls
  fileWrites := 0
  timeMs := 0
  residue := none

def residueTable (name : Bytes) : Value := .record [
  ("protocol_version", .text "repository.provider_residue.v0"),
  ("kind", .text "reserved_temp"),
  ("relative_name", .str name)]

def costTable (toolCalls fileWrites timeMs : Nat) : Value := .record [
  ("tool_calls", .nat toolCalls),
  ("file_writes", .nat fileWrites),
  ("time_ms", .nat timeMs)]

def FsError.fields (e : FsError) : List (String × Value) := [
  ("protocol_version", .text "repository.provider_error.v0"),
  ("class", .text e.errorClass.name),
  ("code", .text e.code.name),
  ("stage", .text e.stage.name),
  ("errno", if 0 < e.errno then .nat e.errno else .nil),
  ("mutation_primitive_entered", .bool e.mutationEntered),
  ("published", .bool e.published),
  ("cost", costTable e.toolCalls e.fileWrites e.timeMs),
  ("residue", (e.residue.map residueTable).getD .nil)]

def FsError.table (e : FsError) : Value := .record e.fields

/-! ## Error codes -/

def isUnsupported (errno : Errno) : Bool :=
  errno = Errno.enosys || errno = Errno.einval || errno = Errno.enotsup

def parentErrorCode (errno : Errno) : FsCode :=
  if errno = Errno.enoent then .parentMissing
  else if errno = Errno.enotdir then .parentNotDirectory
  else if errno = Errno.eloop then .pathSymlink
  else if errno = Errno.exdev then .pathContainmentDenied
  else if errno = Errno.eacces ∨ errno = Errno.eperm ∨ errno = Errno.erofs then .permissionDenied
  else if isUnsupported errno then .providerUnavailable
  else .ioFailure

def mutationErrorCode (errno : Errno) : FsCode :=
  if errno = Errno.enospc ∨ errno = Errno.edquot then .noSpace
  else if errno = Errno.eacces ∨ errno = Errno.eperm ∨ errno = Errno.erofs then .permissionDenied
  else .ioFailure

def randomErrorCode (errno : Errno) : FsCode :=
  if errno = Errno.enosys then .providerUnavailable else .ioFailure

def renameErrorCode (errno : Errno) : FsCode :=
  if errno = Errno.eexist then .targetExists
  else if isUnsupported errno then .providerUnavailable
  else mutationErrorCode errno

def readPathErrorCode (errno : Errno) : FsCode :=
  if errno = Errno.eloop then .pathSymlink
  else if errno = Errno.exdev then .pathContainmentDenied
  else if errno = Errno.eacces ∨ errno = Errno.eperm then .permissionDenied
  else if isUnsupported errno then .providerUnavailable
  else .ioFailure

/-! ## Paths -/

def maxContentBytes : Nat := 1048576
def fileMode : Nat := 384

def baseName (path : Bytes) : Bytes := (path.reverse.takeWhile (· ≠ 47)).reverse

/-- `split_target_path`: the parent and the last component. -/
def splitTargetPath (path : Bytes) : Option (Bytes × Bytes) :=
  let name := baseName path
  let parent :=
    if name.length = path.length then utf8 "." else path.take (path.length - name.length - 1)
  if maxRelativePathBytes < parent.length || name.isEmpty || maxComponentBytes < name.length then
    none
  else some (parent, name)

def isContinuation (b : UInt8) : Bool := 128 ≤ b && b ≤ 191

def validUtf8Text : Bytes → Bool
  | [] => true
  | a :: rest =>
    if a = 0 then false
    else if a ≤ 127 then validUtf8Text rest
    else if 194 ≤ a && a ≤ 223 then
      match rest with
      | b :: rest => isContinuation b && validUtf8Text rest
      | _ => false
    else if 224 ≤ a && a ≤ 239 then
      match rest with
      | b :: c :: rest =>
        isContinuation c
          && (if a = 224 then 160 ≤ b && b ≤ 191
            else if a = 237 then 128 ≤ b && b ≤ 159
            else isContinuation b)
          && validUtf8Text rest
      | _ => false
    else if 240 ≤ a && a ≤ 244 then
      match rest with
      | b :: c :: d :: rest =>
        isContinuation c && isContinuation d
          && (if a = 240 then 144 ≤ b && b ≤ 191
            else if a = 244 then 128 ≤ b && b ≤ 143
            else isContinuation b)
          && validUtf8Text rest
      | _ => false
    else false

/-! ## Files -/

inductive FileKind where
  | directory
  | regular
  | symlink
  | special
  deriving DecidableEq

/-- `struct stat` -/
structure Status where
  device : Nat
  inode : Nat
  kind : FileKind
  permissions : Nat
  uid : Nat
  gid : Nat
  links : Nat
  size : Int
  modified : Int
  changed : Int
  deriving DecidableEq

def sameFileIdentity (left right : Status) : Bool :=
  left.device = right.device && left.inode = right.inode && left.kind = right.kind

def sameFileVersion (left right : Status) : Bool := left = right

/-! ## The opened repository -/

/-- `struct proc17_identity` -/
structure FsIdentity where
  device : Nat
  inode : Nat
  mountId : Nat
  deriving DecidableEq

structure FsHandle where
  project : FsIdentity
  repository : FsIdentity
  closed : Bool

/-- `observe_identity`; `statx` may answer without a mount id. -/
def observeIdentity (fstat : Sys Status) (statx : Sys (Option Nat)) : Sys FsIdentity := do
  let status ← fstat
  if status.kind ≠ .directory then throw Errno.enotdir
  match ← statx with
  | none => throw Errno.enotsup
  | some mountId => pure ⟨status.device, status.inode, mountId⟩

structure PairCalls where
  openBase : Sys Unit
  baseStatus : Sys Status
  baseMount : Sys (Option Nat)
  openRoot : Sys Unit
  rootStatus : Sys Status
  rootMount : Sys (Option Nat)

abbrev Halted := FsCode × FsStage × Errno

def Sys.atStage {α : Type} (answer : Sys α) (stage : FsStage) : Except (FsStage × Errno) α :=
  answer.mapError fun errno => (stage, errno)

def openIdentityPair (calls : PairCalls) :
    Except (FsStage × Errno) (FsIdentity × FsIdentity) := do
  Sys.atStage calls.openBase .openProjectBase
  let base ← Sys.atStage (observeIdentity calls.baseStatus calls.baseMount) .observeProjectBase
  Sys.atStage calls.openRoot .openRepositoryRoot
  let root ← Sys.atStage (observeIdentity calls.rootStatus calls.rootMount) .observeRepositoryRoot
  if root.mountId ≠ base.mountId then throw (.observeRepositoryRoot, Errno.exdev)
  pure (base, root)

def FsHandle.isSame (handle : FsHandle) (pair : FsIdentity × FsIdentity) : Bool :=
  handle.project = pair.1 && handle.repository = pair.2

def openHandleRoot (handle : FsHandle) (calls : PairCalls) : Except Halted FsIdentity :=
  match openIdentityPair calls with
  | .error (stage, errno) =>
    .error (if isUnsupported errno then .providerUnavailable else .rootChanged, stage, errno)
  | .ok pair =>
    if handle.isSame pair then .ok pair.2
    else .error (.rootChanged, .compareRootIdentity, Errno.estale)

/-- The first error among descriptors that are closed in turn, as `close_pair` and
`close_read_descriptors` report it. -/
def firstCloseError (answers : List (Sys Unit)) : Option Errno :=
  answers.findSome? fun answer =>
    match answer with
    | .error errno => if errno = 0 then none else some errno
    | .ok () => none

/-- `elapsed_milliseconds` between two readings of the clock. -/
def elapsedMilliseconds (started finished : Nat) : Nat := min (finished - started) (2 ^ 63 - 1)

end Proc17.Native
