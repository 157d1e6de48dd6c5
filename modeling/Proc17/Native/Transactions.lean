import Proc17.Native.FileSystem

/-!
# Creating and reading a file

`create_file_transaction`, `read_file_transaction` and `reobserve_named_target` of
`native/proc17_repository_fs.c`, with the two functions that Lua calls.  A transaction gives
nothing while a loop over `read` or `write` still waits for an answer.
-/

namespace Proc17.Native

open Lua Runtime.Repository

def Sys.orHalt {α : Type} (answer : Sys α) (stage : FsStage) (code : Errno → FsCode) :
    Except Halted α :=
  answer.mapError fun errno => (code errno, stage, errno)

def ioFailure (_ : Errno) : FsCode := .ioFailure

def maxEintrRetries : Nat := 64

/-! ## Creating -/

structure CreateCalls where
  root : PairCalls
  openParent : Sys Unit
  /-- `fstat` of the parent. -/
  parentStatus : Sys Status
  effectiveUid : Nat
  /-- What `getrandom` filled in. -/
  random : Sys Bytes
  openTemp : Sys Unit
  chmod : Sys Unit
  tempStatus : Sys Status
  /-- What each `write` accepted. -/
  writes : List (Sys Nat)
  fsyncTemp : Sys Unit
  closeTemp : Sys Unit
  rename : Sys Unit
  fsyncParent : Sys Unit
  closeParent : Sys Unit
  closeRepository : Sys Unit
  closeBase : Sys Unit
  unlink : Sys Unit
  started : Nat
  finished : Nat

def isPrivateMode (permissions : Nat) : Bool := permissions &&& 18 = 0

def tempPrefix : Bytes := utf8 ".proc17-tmp-"

def tempName (random : Bytes) : Bytes :=
  tempPrefix ++ random.flatMap fun b =>
    [Core.Json.hexDigit (b.toNat / 16), Core.Json.hexDigit (b.toNat % 16)]

/-- The part of `create_file_transaction` that touches nothing. -/
def beforeTemp (handle : FsHandle) (calls : CreateCalls) :
    Except Halted (FsIdentity × Bytes) := do
  let root ← openHandleRoot handle calls.root
  Sys.orHalt calls.openParent .openParent parentErrorCode
  let parent ← Sys.orHalt calls.parentStatus .observeParentPolicy ioFailure
  if parent.kind ≠ .directory || parent.uid ≠ calls.effectiveUid
      || !isPrivateMode parent.permissions then
    throw (.parentNotPrivate, .observeParentPolicy, Errno.eperm)
  match calls.random with
  | .error errno => throw (randomErrorCode (orIo errno), .getrandom, orIo errno)
  | .ok random =>
    if random.length ≠ 16 then throw (randomErrorCode Errno.eio, .getrandom, Errno.eio)
    pure (root, tempName random)

/-- The loop over `write`; nothing while it waits. -/
def writeAll : (remaining retries : Nat) → List (Sys Nat) → Option (Except Halted Unit)
  | 0, _, _ => some (.ok ())
  | _ + 1, _, [] => none
  | remaining + 1, retries, .error errno :: rest =>
    if errno = Errno.eintr then
      if maxEintrRetries < retries + 1 then some (.error (.ioFailure, .writeTemp, Errno.eintr))
      else writeAll (remaining + 1) (retries + 1) rest
    else some (.error (mutationErrorCode errno, .writeTemp, errno))
  | remaining + 1, retries, .ok written :: rest =>
    if written = 0 ∨ remaining + 1 < written then
      some (.error (.ioFailure, .writeTemp, Errno.eio))
    else writeAll (remaining + 1 - written) retries rest
termination_by _ _ answers => answers.length

def prepareTemp (calls : CreateCalls) (contentLength mode : Nat) : Option (Except Halted Unit) :=
  let opened : Except Halted Unit := do
    Sys.orHalt calls.chmod .setTempMode mutationErrorCode
    let temp ← Sys.orHalt calls.tempStatus .observeTempIdentity ioFailure
    if temp.kind ≠ .regular || temp.uid ≠ calls.effectiveUid || temp.links ≠ 1 || temp.size ≠ 0
        || temp.permissions &&& 511 ≠ mode then
      throw (.tempIdentityInvalid, .observeTempIdentity, Errno.eio)
  match opened with
  | .error halted => some (.error halted)
  | .ok () =>
    match writeAll contentLength 0 calls.writes with
    | none => none
    | some (.error halted) => some (.error halted)
    | some (.ok ()) => some do
        Sys.orHalt calls.fsyncTemp .fsyncTemp mutationErrorCode
        Sys.orHalt calls.closeTemp .closeTemp mutationErrorCode
        Sys.orHalt calls.rename .renameNoreplace renameErrorCode

def CreateCalls.timeMs (calls : CreateCalls) : Nat :=
  elapsedMilliseconds calls.started calls.finished

/-- `set_create_failure`, pushed by `create_text_file`. -/
def createFailure (calls : CreateCalls) (errorClass : FsClass) (halted : Halted)
    (mutationEntered published : Bool) (residue : Option Bytes) : FsError where
  errorClass := errorClass
  code := halted.1
  stage := halted.2.1
  errno := halted.2.2
  mutationEntered := mutationEntered
  published := published
  toolCalls := 1
  fileWrites := if mutationEntered then 1 else 0
  timeMs := calls.timeMs
  residue := residue

/-- `fail_private` and `fail_after_temp_attempt` of an owned private file. -/
def failPrivate (calls : CreateCalls) (name : Bytes) (halted : Halted) : FsError :=
  match calls.unlink with
  | .error errno =>
    createFailure calls .ambiguous (.tempCleanupFailed, .cleanupUnlink, errno) true false
      (some name)
  | .ok () => createFailure calls .world halted true false none

def settlePublished (calls : CreateCalls) : Except Halted Unit := do
  Sys.orHalt calls.fsyncParent .fsyncParent fun _ => .ambiguousEffect
  Sys.orHalt calls.closeParent .closeTransactionDescriptors fun _ => .ambiguousEffect
  match firstCloseError [calls.closeRepository, calls.closeBase] with
  | some errno => throw (.ambiguousEffect, .closeTransactionDescriptors, errno)
  | none => pure ()

structure Created where
  bytes : Nat
  root : FsIdentity
  timeMs : Nat

def createFileTransaction (handle : FsHandle) (path content : Bytes) (mode : Nat)
    (calls : CreateCalls) : Option (Except FsError Created) :=
  match splitTargetPath path with
  | none =>
    some (.error (createFailure calls .contract
      (.invalidRequest, .validateCreateRequest, Errno.einval) false false none))
  | some _ =>
    match beforeTemp handle calls with
    | .error halted => some (.error (createFailure calls .world halted false false none))
    | .ok (root, name) =>
      match calls.openTemp with
      | .error errno =>
        let code := if errno = Errno.eexist then .tempNameCollision else mutationErrorCode errno
        some (.error (createFailure calls .world (code, .openTemp, errno) true false none))
      | .ok () =>
        match prepareTemp calls content.length mode with
        | none => none
        | some (.error halted) => some (.error (failPrivate calls name halted))
        | some (.ok ()) =>
          match settlePublished calls with
          | .error halted =>
            some (.error (createFailure calls .ambiguous halted true true none))
          | .ok () => some (.ok ⟨content.length, root, calls.timeMs⟩)

def createTextFile (handle : FsHandle) (path content : Bytes) (mode : Nat) (calls : CreateCalls) :
    Option (Except FsError Created) :=
  if handle.closed then some (.error (.plain .contract .handleClosed .createHandle 0 0))
  else if !validRepositoryPath path || maxContentBytes < content.length
      || !validUtf8Text content || mode ≠ fileMode then
    some (.error (.plain .contract .invalidRequest .validateCreateRequest Errno.einval 0))
  else createFileTransaction handle path content mode calls

/-! ## Reading -/

inductive TargetKind where
  | missing
  | regular
  | other

/-- The answers of `close` for the descriptors of a read. -/
structure ReadClosing where
  read : Sys Unit
  target : Sys Unit
  parent : Sys Unit
  repository : Sys Unit
  base : Sys Unit

structure ReobserveCalls where
  root : PairCalls
  openParent : Sys Unit
  openTarget : Sys Unit
  targetStatus : Sys Status
  closing : ReadClosing

structure ReadCalls where
  root : PairCalls
  openParent : Sys Unit
  openTarget : Sys Unit
  targetStatus : Sys Status
  openRead : Sys Unit
  before : Sys Status
  /-- Whether the buffer could be allocated. -/
  buffer : Bool
  reads : List (Sys Bytes)
  after : Sys Status
  closing : ReadClosing
  again : ReobserveCalls
  started : Nat
  finished : Nat

structure Observed where
  kind : TargetKind
  status : Option Status
  content : Bytes

def closeOrHalt (answers : List (Sys Unit)) : Except Halted Unit :=
  match firstCloseError answers with
  | some errno => .error (.ioFailure, .closeReadDescriptors, errno)
  | none => .ok ()

def TargetKind.admits (kind : TargetKind) (status : Status) : Bool :=
  match kind with
  | .missing => true
  | .regular => status.kind = .regular
  | .other => status.kind ≠ .regular

def findAgain (expected : Observed) (calls : ReobserveCalls) : Except Halted Unit :=
  match expected.status with
  | none =>
    match calls.openTarget with
    | .ok () => .error (.targetChanged, .reobserveReadTarget, Errno.estale)
    | .error errno =>
      if errno ≠ Errno.enoent then .error (.targetChanged, .reobserveReadTarget, orIo errno)
      else closeOrHalt [calls.closing.parent, calls.closing.repository, calls.closing.base]
  | some status => do
      Sys.orHalt calls.openTarget .reobserveReadTarget fun _ => .targetChanged
      let observed ← Sys.orHalt calls.targetStatus .reobserveReadTarget fun _ => .targetChanged
      if !sameFileVersion status observed || !expected.kind.admits observed then
        throw (.targetChanged, .reobserveReadTarget, Errno.estale)
      closeOrHalt
        [calls.closing.target, calls.closing.parent, calls.closing.repository, calls.closing.base]

def reobserveNamedTarget (handle : FsHandle) (expected : Observed) (calls : ReobserveCalls) :
    Except Halted FsIdentity := do
  let root ← openHandleRoot handle calls.root
  Sys.orHalt calls.openParent .reobserveReadTarget fun errno =>
    if isUnsupported errno then .providerUnavailable else .targetChanged
  findAgain expected calls
  pure root

/-- The loop over `read`; nothing while it waits. -/
def readUpTo : (room retries : Nat) → Bytes → List (Sys Bytes) → Option (Except Halted Bytes)
  | 0, _, read, _ => some (.ok read)
  | _ + 1, _, _, [] => none
  | room + 1, retries, read, .error errno :: rest =>
    if errno = Errno.eintr then
      if maxEintrRetries < retries + 1 then some (.error (.ioFailure, .readTarget, Errno.eintr))
      else readUpTo (room + 1) (retries + 1) read rest
    else some (.error (.ioFailure, .readTarget, errno))
  | room + 1, retries, read, .ok chunk :: rest =>
    if chunk.isEmpty then some (.ok read)
    else if room + 1 < chunk.length then some (.error (.ioFailure, .readTarget, Errno.eio))
    else readUpTo (room + 1 - chunk.length) retries (read ++ chunk) rest
termination_by _ _ _ answers => answers.length

def openRegular (calls : ReadCalls) (classified : Status) : Except Halted Status := do
  Sys.orHalt calls.openRead .openReadTarget fun errno =>
    if errno = Errno.enoent || errno = Errno.eloop || errno = Errno.enotdir then .targetChanged
    else readPathErrorCode errno
  let before ← Sys.orHalt calls.before .observeReadTarget ioFailure
  if before.kind ≠ .regular || !sameFileIdentity classified before then
    throw (.targetChanged, .observeReadTarget, Errno.estale)
  if !calls.buffer then throw (.ioFailure, .allocateReadBuffer, Errno.enomem)
  pure before

def readRegular (calls : ReadCalls) (classified : Status) (maxBytes : Nat) :
    Option (Except Halted Observed) :=
  match openRegular calls classified with
  | .error halted => some (.error halted)
  | .ok before =>
    match readUpTo maxBytes 0 [] calls.reads with
    | none => none
    | some (.error halted) => some (.error halted)
    | some (.ok content) => some do
        let after ← Sys.orHalt calls.after .verifyReadStability ioFailure
        if !sameFileVersion before after then
          throw (.readUnstable, .verifyReadStability, Errno.estale)
        closeOrHalt [calls.closing.read, calls.closing.target, calls.closing.parent,
          calls.closing.repository, calls.closing.base]
        pure ⟨.regular, some after, content⟩

/-- The first half of `read_file_transaction`: what is under the name. -/
def observeTarget (handle : FsHandle) (maxBytes : Nat) (calls : ReadCalls) :
    Option (Except Halted Observed) :=
  let opened : Except Halted Unit := do
    let _ ← openHandleRoot handle calls.root
    Sys.orHalt calls.openParent .openReadParent parentErrorCode
  match opened with
  | .error halted => some (.error halted)
  | .ok () =>
    match calls.openTarget with
    | .error errno =>
      if errno = Errno.enoent then some do
        closeOrHalt [calls.closing.parent, calls.closing.repository, calls.closing.base]
        pure ⟨.missing, none, []⟩
      else some (.error (readPathErrorCode errno, .classifyReadTarget, errno))
    | .ok () =>
      match calls.targetStatus with
      | .error errno => some (.error (.ioFailure, .observeReadTarget, errno))
      | .ok classified =>
        if classified.kind = .regular then readRegular calls classified maxBytes
        else some do
          closeOrHalt [calls.closing.target, calls.closing.parent,
            calls.closing.repository, calls.closing.base]
          pure ⟨.other, some classified, []⟩

structure ReadBack where
  kind : TargetKind
  content : Bytes
  root : FsIdentity
  timeMs : Nat

/-- `set_read_failure`, pushed by `read_text_file`. -/
def readFailure (calls : ReadCalls) (errorClass : FsClass) (halted : Halted) : FsError where
  errorClass := errorClass
  code := halted.1
  stage := halted.2.1
  errno := orIo halted.2.2
  mutationEntered := false
  published := false
  toolCalls := 1
  fileWrites := 0
  timeMs := elapsedMilliseconds calls.started calls.finished
  residue := none

def readFileTransaction (handle : FsHandle) (path : Bytes) (maxBytes : Nat) (calls : ReadCalls) :
    Option (Except FsError ReadBack) :=
  match splitTargetPath path with
  | none =>
    some (.error (readFailure calls .contract
      (.invalidRequest, .validateReadRequest, Errno.einval)))
  | some _ =>
    match observeTarget handle maxBytes calls with
    | none => none
    | some (.error halted) => some (.error (readFailure calls .world halted))
    | some (.ok observed) =>
      match reobserveNamedTarget handle observed calls.again with
      | .error halted => some (.error (readFailure calls .world halted))
      | .ok root =>
        some (.ok ⟨observed.kind, observed.content, root,
          elapsedMilliseconds calls.started calls.finished⟩)

def readTextFile (handle : FsHandle) (path : Bytes) (maxBytes : Int) (calls : ReadCalls) :
    Option (Except FsError ReadBack) :=
  if handle.closed then some (.error (.plain .contract .handleClosed .readHandle 0 0))
  else if !validRepositoryPath path || maxBytes < 1 || (maxContentBytes + 1 : Int) < maxBytes then
    some (.error (.plain .contract .invalidRequest .validateReadRequest Errno.einval 0))
  else readFileTransaction handle path maxBytes.toNat calls

end Proc17.Native
