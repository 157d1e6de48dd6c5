import Proc17.Layout.Directory
import Proc17.Native.Transactions

/-!
# Creating a file in a shared directory

`create_file_transaction` of `native/proc17_repository_fs.c` over the entries of the parent
directory.  Every call may fail with any error number and then changes nothing; a call that
the directory decides (`openat` with `O_EXCL`, `renameat2` with `RENAME_NOREPLACE`,
`unlinkat`) fails by itself when it cannot do its work.  Before each of them other writers may
create the final name, until the rename took effect; the calls in between neither read nor
change the directory.
-/

namespace Proc17.Native

open Lua Runtime.Repository Proc17.Directory

abbrev Entries := Dir Bytes UInt8
abbrev Changes := History Bytes UInt8

/-! ## Calls on the directory -/

/-- `openat` with `O_CREAT | O_EXCL`, when nothing else lets it fail. -/
def openExclusive (d : Entries) (name : Bytes) (answer : Sys Unit) : Sys Unit × Changes :=
  match answer with
  | .error errno => (.error errno, [])
  | .ok () =>
    match d name with
    | some _ => (.error Errno.eexist, [])
    | none => (.ok (), [.own (.create name)])

/-- `renameat2` with `RENAME_NOREPLACE`, when nothing else lets it fail. -/
def renameNoReplace (d : Entries) (old new : Bytes) (answer : Sys Unit) : Sys Unit × Changes :=
  match answer with
  | .error errno => (.error errno, [])
  | .ok () =>
    match d old, d new with
    | none, _ => (.error Errno.enoent, [])
    | some _, some _ => (.error Errno.eexist, [])
    | some _, none => (.ok (), [.own (.rename old new)])

/-- `unlinkat`, when nothing else lets it fail. -/
def unlinkAt (d : Entries) (name : Bytes) (answer : Sys Unit) : Sys Unit × Changes :=
  match answer with
  | .error errno => (.error errno, [])
  | .ok () =>
    match d name with
    | none => (.error Errno.enoent, [])
    | some _ => (.ok (), [.own (.unlink name)])

/-! ## The transaction -/

structure Surroundings where
  /-- The answers of the calls, where the directory does not decide them. -/
  calls : CreateCalls
  /-- What others try to put under the final name before each call on the directory. -/
  others : Nat → List Bytes

structure Progress where
  outcome : Except Halted Unit
  moment : Nat
  history : Changes

def checkTemp (calls : CreateCalls) (mode : Nat) : Except Halted Unit := do
  Sys.orHalt calls.chmod .setTempMode mutationErrorCode
  let temp ← Sys.orHalt calls.tempStatus .observeTempIdentity ioFailure
  if temp.kind ≠ .regular || temp.uid ≠ calls.effectiveUid || temp.links ≠ 1 || temp.size ≠ 0
      || temp.permissions &&& 511 ≠ mode then
    throw (.tempIdentityInvalid, .observeTempIdentity, Errno.eio)

def writeAllOn (others : Nat → List Bytes) (final name : Bytes) :
    List (Sys Nat) → (content : Bytes) → (retries moment : Nat) → Changes → Option Progress
  | [], content, _, moment, history =>
    if content = [] then some ⟨.ok (), moment, history⟩ else none
  | answer :: later, content, retries, moment, history =>
    if content = [] then some ⟨.ok (), moment, history⟩
    else
      let history := history ++ arrivals final (others moment)
      match answer with
      | .error errno =>
        if errno = Errno.eintr then
          if maxEintrRetries < retries + 1 then
            some ⟨.error (.ioFailure, .writeTemp, Errno.eintr), moment + 1, history⟩
          else writeAllOn others final name later content (retries + 1) (moment + 1) history
        else some ⟨.error (mutationErrorCode errno, .writeTemp, errno), moment + 1, history⟩
      | .ok written =>
        let history := history ++ [.own (.append name (content.take written))]
        if written = 0 ∨ content.length < written then
          some ⟨.error (.ioFailure, .writeTemp, Errno.eio), moment + 1, history⟩
        else
          writeAllOn others final name later (content.drop written) retries (moment + 1) history

def closeTemp (calls : CreateCalls) : Except Halted Unit := do
  Sys.orHalt calls.fsyncTemp .fsyncTemp mutationErrorCode
  Sys.orHalt calls.closeTemp .closeTemp mutationErrorCode

/-- `publish_no_replace`, after the private file was synced and closed. -/
def publishOn (start : Entries) (final name : Bytes) (s : Surroundings) (p : Progress) : Progress :=
  match closeTemp s.calls with
  | .error halted => { p with outcome := .error halted }
  | .ok () =>
    let history := p.history ++ arrivals final (s.others p.moment)
    let (answer, changes) := renameNoReplace (replay start history) name final s.calls.rename
    ⟨Sys.orHalt answer .renameNoreplace renameErrorCode, p.moment + 1, history ++ changes⟩

def prepareTempOn (start : Entries) (final name content : Bytes) (mode : Nat) (s : Surroundings)
    (moment : Nat) (history : Changes) : Option Progress :=
  match checkTemp s.calls mode with
  | .error halted => some ⟨.error halted, moment, history⟩
  | .ok () =>
    (writeAllOn s.others final name s.calls.writes content 0 moment history).map fun p =>
      match p.outcome with
      | .error _ => p
      | .ok () => publishOn start final name s p

structure CreateRun where
  result : Except FsError Created
  history : Changes

/-- `fail_private`: the private file is removed, or reported as residue. -/
def failPrivateOn (start : Entries) (final name : Bytes) (s : Surroundings) (p : Progress)
    (halted : Halted) : CreateRun :=
  let history := p.history ++ arrivals final (s.others p.moment)
  let (answer, changes) := unlinkAt (replay start history) name s.calls.unlink
  ⟨.error (failPrivate { s.calls with unlink := answer } name halted),
    history ++ changes ++ arrivals final (s.others (p.moment + 1))⟩

def createFileOn (start : Entries) (handle : FsHandle) (path content : Bytes) (mode : Nat)
    (s : Surroundings) : Option CreateRun :=
  match splitTargetPath path with
  | none =>
    some ⟨.error (createFailure s.calls .contract
      (.invalidRequest, .validateCreateRequest, Errno.einval) false false none), []⟩
  | some (_, final) =>
    let history := arrivals final (s.others 0)
    match beforeTemp handle s.calls with
    | .error halted => some ⟨.error (createFailure s.calls .world halted false false none), history⟩
    | .ok (root, name) =>
      match openExclusive (replay start history) name s.calls.openTemp with
      | (.error errno, changes) =>
        let code := if errno = Errno.eexist then .tempNameCollision else mutationErrorCode errno
        some ⟨.error (createFailure s.calls .world (code, .openTemp, errno) true false none),
          history ++ changes ++ arrivals final (s.others 1)⟩
      | (.ok (), changes) =>
        (prepareTempOn start final name content mode s 1 (history ++ changes)).map fun p =>
          match p.outcome with
          | .error halted => failPrivateOn start final name s p halted
          | .ok () =>
            match settlePublished s.calls with
            | .error halted =>
              ⟨.error (createFailure s.calls .ambiguous halted true true none), p.history⟩
            | .ok () => ⟨.ok ⟨content.length, root, s.calls.timeMs⟩, p.history⟩

end Proc17.Native
