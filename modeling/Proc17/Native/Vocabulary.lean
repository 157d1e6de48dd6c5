import Mathlib.Data.List.TakeWhile
import Proc17.Native.InventoryTree
import Proc17.Runtime.Repository.Provider

/-!
# The failures of the library in the words of the adapter

Every error record of `native/proc17_repository_fs.c` against `validate_provider_error`.  A
record is accepted when its class, code and stage are listed and its costs are those of the
stage; each path of a transaction is followed to such a record.
-/

namespace Proc17.Native

open Lua Runtime.Repository List Value FsError
open Runtime.Repository.Provider (Operation validateProviderError expectedClass isAmong
  requireEconomics preCallStages)

def FsError.Accepted (operation : Operation) (e : FsError) : Prop :=
  ∃ copy, validateProviderError operation e.table = .ok copy

def FsError.isListed (operation : Operation) (e : FsError) : Bool :=
  expectedClass operation (utf8 e.stage.name) (utf8 e.code.name) = some e.errorClass.name

theorem isNonNegativeNumber_nat (n : Nat) : isNonNegativeNumber (.nat n) = true := by
  simp [isNonNegativeNumber, Value.nat, Number.lt, Number.isFinite]

/-! ## One record -/

variable {e : FsError} {operation : Operation} {name path : Bytes} {stage : FsStage}
  {handle : FsHandle} {halted : Halted} {calls : ReadCalls} {bounds : InventoryBounds}

theorem FsError.get_table {name : String} {value : Value} (member : (name, value) ∈ e.fields) :
    e.table.get name = value := by
  apply get_record
  · show Provider.errorKeys.Nodup
    decide
  · exact member

theorem exactPlainRecord_table (e : FsError) (name : String) :
    Provider.exactPlainRecord e.table Provider.errorKeys name Provider.errorRequired = .ok () := by
  obtain ⟨errorClass, code, stage, errno, mutationEntered, published, toolCalls, fileWrites,
    timeMs, residue⟩ := e
  rw [Provider.exactPlainRecord, orFail_eq_ok]
  by_cases numbered : 0 < errno
  · cases residue <;> simp only [FsError.table, FsError.fields, numbered, if_true] <;> rfl
  · cases residue <;> simp only [FsError.table, FsError.fields, numbered, if_false] <;> rfl

theorem validateCost_costTable (toolCalls fileWrites timeMs : Nat) (name : String) :
    Provider.validateCost (costTable toolCalls fileWrites timeMs) name = .ok () := by
  simp only [Provider.validateCost, bind_eq_ok, require_eq_ok]
  refine ⟨(), rfl, ?_, ?_, ?_⟩
  · exact isNonNegativeInteger_nat toolCalls
  · exact isNonNegativeInteger_nat fileWrites
  · exact isNonNegativeNumber_nat timeMs

theorem errno_table (e : FsError) :
    e.table.get "errno" = .nil ∨ (isNonNegativeInteger (e.table.get "errno") = true
      ∧ (e.table.get "errno").eq (.nat 0) = false) := by
  by_cases numbered : 0 < e.errno
  · have field : e.table.get "errno" = .nat e.errno := by
      apply get_table
      simp [FsError.fields, numbered]
    rw [field]
    refine Or.inr ⟨isNonNegativeInteger_nat e.errno, ?_⟩
    rw [eq_nat, decide_eq_false_iff_not]
    exact Nat.ne_of_gt numbered
  · left
    apply get_table
    simp [FsError.fields, numbered]

theorem stageAndCode_table (operation : Operation) (e : FsError) :
    Provider.stageAndCode operation e.table = .ok (utf8 e.stage.name, utf8 e.code.name) := by
  have stage : e.table.get "stage" = .text e.stage.name := rfl
  have code : e.table.get "code" = .text e.code.name := rfl
  rw [Provider.stageAndCode, stage, code]
  cases e.stage <;> cases e.code <;> rfl

theorem requireListed_table (operation : Operation) (e : FsError) :
    Provider.requireListed operation (utf8 e.stage.name) (utf8 e.code.name) e.table = .ok () ↔
      e.isListed operation = true := by
  have errorClass : e.table.get "class" = .text e.errorClass.name := rfl
  rw [Provider.requireListed, require_eq_ok, FsError.isListed, decide_eq_true_eq, errorClass]
  cases expectedClass operation (utf8 e.stage.name) (utf8 e.code.name) with
  | none => simp
  | some name =>
    rw [Option.any_some, decide_eq_true_eq, Value.text, Value.text, Value.str.injEq, utf8_inj,
      Option.some.injEq]
    exact eq_comm

theorem FsError.accepted_iff (operation : Operation) (e : FsError) :
    e.Accepted operation ↔ e.isListed operation = true
      ∧ requireEconomics operation (utf8 e.stage.name) e.table = .ok () := by
  have cost : e.table.get "cost" = costTable e.toolCalls e.fileWrites e.timeMs :=
    get_table (by simp [FsError.fields])
  have formed : e.table.get "protocol_version" = .text "repository.provider_error.v0"
      ∧ (∃ b, e.table.get "mutation_primitive_entered" = .bool b)
      ∧ ∃ b, e.table.get "published" = .bool b :=
    ⟨rfl, ⟨e.mutationEntered, get_table (by simp [FsError.fields])⟩,
      ⟨e.published, get_table (by simp [FsError.fields])⟩⟩
  unfold FsError.Accepted validateProviderError
  simp only [bind_eq_ok, require_eq_ok, pure_eq_ok, stageAndCode_table, cost]
  constructor
  · rintro ⟨copy, -, -, -, -, pair, same, -, -, -, -, u, listed, v, charged, -⟩
    cases same
    exact ⟨(requireListed_table operation e).mp listed, charged⟩
  · rintro ⟨listed, charged⟩
    exact ⟨_, (), exactPlainRecord_table e _, (), formed, _, rfl, (), errno_table e, (),
      validateCost_costTable _ _ _ _, (), (requireListed_table operation e).mpr listed, (),
      charged, rfl⟩

/-! ## Costs -/

def FsError.isQuiet (operation : Operation) (e : FsError) : Bool :=
  !e.mutationEntered && !e.published && e.fileWrites = 0 && e.residue.isNone
    && e.toolCalls = if isAmong (utf8 e.stage.name) (preCallStages operation) then 0 else 1

def FsError.isCharged (e : FsError) : Bool :=
  let stage := utf8 e.stage.name
  let preCall := isAmong stage (preCallStages .createTextFile)
  let untouched := preCall || isAmong stage Provider.preMutationStages
  e.toolCalls = (if preCall then 0 else 1) && e.fileWrites = (if untouched then 0 else 1)
    && e.mutationEntered = !untouched && e.published = isAmong stage Provider.postPublishStages
    && match e.residue with
      | none => stage ≠ utf8 "cleanup_unlink"
      | some name => stage = utf8 "cleanup_unlink" && Provider.isTempName (.str name)

theorem quietEconomics_table (mutation : String) (quiet : e.isQuiet operation = true) :
    Provider.quietEconomics operation mutation (utf8 e.stage.name) e.table = .ok () := by
  simp only [FsError.isQuiet, Bool.and_eq_true, Bool.not_eq_true', decide_eq_true_eq,
    Option.isNone_iff_eq_none] at quiet
  obtain ⟨⟨⟨⟨entered, published⟩, writes⟩, residue⟩, called⟩ := quiet
  have costed : e.table.get "cost" = costTable e.toolCalls e.fileWrites e.timeMs :=
    get_table (by simp [FsError.fields])
  simp only [Provider.quietEconomics, costed, bind_eq_ok, require_eq_ok]
  refine ⟨(), ⟨?_, ?_, ?_, ?_⟩, ?_⟩
  · rw [← entered]
    exact get_table (by simp [FsError.fields])
  · rw [← published]
    exact get_table (by simp [FsError.fields])
  · rw [writes]
    rfl
  · exact get_table (by simp [FsError.fields, residue])
  · rw [← called]
    show (Value.nat e.toolCalls).eq (.nat e.toolCalls) = true
    rw [eq_nat, decide_eq_true_eq]

theorem requireResidue_table (named : Provider.isTempName (.str name) = true) :
    Provider.requireResidue (residueTable name) = .ok () := by
  simp only [Provider.requireResidue, bind_eq_ok, require_eq_ok]
  exact ⟨(), rfl, rfl, rfl, named⟩

theorem createEconomics_table (charged : e.isCharged = true) :
    Provider.createEconomics (utf8 e.stage.name) e.table = .ok () := by
  simp only [FsError.isCharged, Bool.and_eq_true, decide_eq_true_eq] at charged
  obtain ⟨⟨⟨⟨called, writes⟩, entered⟩, published⟩, residue⟩ := charged
  have costed : e.table.get "cost" = costTable e.toolCalls e.fileWrites e.timeMs :=
    get_table (by simp [FsError.fields])
  simp only [Provider.createEconomics, costed, bind_eq_ok, require_eq_ok]
  refine ⟨(), ⟨?_, ?_, ?_, ?_⟩, ?_⟩
  · rw [← called]
    show (Value.nat e.toolCalls).eq (.nat e.toolCalls) = true
    rw [eq_nat, decide_eq_true_eq]
  · rw [← writes]
    show (Value.nat e.fileWrites).eq (.nat e.fileWrites) = true
    rw [eq_nat, decide_eq_true_eq]
  · rw [← entered]
    exact get_table (by simp [FsError.fields])
  · rw [← published]
    exact get_table (by simp [FsError.fields])
  · cases left : e.residue with
    | none =>
      rw [left] at residue
      rw [if_neg (of_decide_eq_true residue), require_eq_ok]
      exact get_table (by simp [FsError.fields, left])
    | some name =>
      rw [left, Bool.and_eq_true, decide_eq_true_eq] at residue
      have field : e.table.get "residue" = residueTable name :=
        get_table (by simp [FsError.fields, left])
      rw [if_pos residue.1, field]
      exact requireResidue_table residue.2

def FsError.fits (operation : Operation) (e : FsError) : Bool :=
  e.isListed operation
    && match operation with
      | .createTextFile => e.isCharged
      | other => e.isQuiet other

theorem FsError.accepted_of_fits (fitting : e.fits operation = true) : e.Accepted operation := by
  rw [accepted_iff]
  cases operation with
  | createTextFile =>
    obtain ⟨listed, charged⟩ := Bool.and_eq_true_iff.mp fitting
    exact ⟨listed, createEconomics_table charged⟩
  | _ =>
    obtain ⟨listed, quiet⟩ := Bool.and_eq_true_iff.mp fitting
    exact ⟨listed, quietEconomics_table _ quiet⟩

theorem FsError.not_accepted_of_unlisted (unlisted : e.isListed operation = false) :
    ¬ e.Accepted operation := by
  rw [accepted_iff, unlisted]
  simp

/-! ## The roots -/

def rootStages : List FsStage :=
  [.openProjectBase, .observeProjectBase, .openRepositoryRoot, .observeRepositoryRoot]

theorem onError_openIdentityPair (calls : PairCalls) :
    OnError (fun stopped => stopped.1 ∈ rootStages) (openIdentityPair calls) := by
  unfold openIdentityPair Sys.atStage
  apply OnError.bind
  · exact OnError.mapError (fun errno => by simp [rootStages])
  intro _
  apply OnError.bind
  · exact OnError.mapError (fun errno => by simp [rootStages])
  intro base
  apply OnError.bind
  · exact OnError.mapError (fun errno => by simp [rootStages])
  intro _
  apply OnError.bind
  · exact OnError.mapError (fun errno => by simp [rootStages])
  intro root
  apply OnError.ite
  · exact OnError.throw (by simp [rootStages])
  · exact OnError.ok (base, root)

theorem onError_openHandleRoot {P : Halted → Prop} (handle : FsHandle) (calls : PairCalls)
    (unavailable : ∀ stage ∈ rootStages, ∀ errno, P (.providerUnavailable, stage, errno))
    (changed : ∀ stage ∈ rootStages, ∀ errno, P (.rootChanged, stage, errno))
    (compared : P (.rootChanged, .compareRootIdentity, Errno.estale)) :
    OnError P (openHandleRoot handle calls) := by
  unfold openHandleRoot
  cases opened : openIdentityPair calls with
  | error stopped =>
    obtain ⟨stage, errno⟩ := stopped
    have known : stage ∈ rootStages := onError_openIdentityPair calls (stage, errno) opened
    apply OnError.error
    by_cases unsupported : isUnsupported errno = true
    · rw [if_pos unsupported]
      exact unavailable stage known errno
    · rw [if_neg unsupported]
      exact changed stage known errno
  | ok pair => exact OnError.ite (OnError.ok pair.2) (OnError.error compared)

theorem OnError.orHalt {α : Type} {P : Halted → Prop} {answer : Sys α} {code : Errno → FsCode}
    (each : ∀ errno, P (code errno, stage, errno)) :
    OnError P (Sys.orHalt answer stage code) := OnError.mapError each

/-! ## Creating -/

def CreateBefore (halted : Halted) : Prop :=
  ∀ calls, (createFailure calls .world halted false false none).fits .createTextFile = true

section

variable (errno : Errno)

theorem createBefore_parentErrorCode :
    CreateBefore (parentErrorCode errno, .openParent, errno) := by
  intro calls
  unfold parentErrorCode
  split_ifs <;> rfl

theorem createBefore_randomErrorCode :
    CreateBefore (randomErrorCode errno, .getrandom, errno) := by
  intro calls
  unfold randomErrorCode
  split_ifs <;> rfl

theorem createBefore_root (known : stage ∈ rootStages) (errno : Errno) :
    CreateBefore (.providerUnavailable, stage, errno) ∧ CreateBefore (.rootChanged, stage, errno) := by
  simp only [rootStages, mem_cons, not_mem_nil, or_false] at known
  rcases known with rfl | rfl | rfl | rfl <;> exact ⟨fun _ => rfl, fun _ => rfl⟩

theorem onError_beforeTemp (handle : FsHandle) (calls : CreateCalls) :
    OnError CreateBefore (beforeTemp handle calls) := by
  unfold beforeTemp
  apply OnError.bind
  · apply onError_openHandleRoot
    · exact fun stage known errno => (createBefore_root known errno).1
    · exact fun stage known errno => (createBefore_root known errno).2
    · exact fun _ => rfl
  intro root
  apply OnError.bind
  · exact OnError.orHalt createBefore_parentErrorCode
  intro _
  apply OnError.bind
  · exact OnError.orHalt (fun errno _ => rfl)
  intro parent
  apply OnError.ite
  · exact OnError.throw (fun _ => rfl)
  cases calls.random with
  | error errno => exact OnError.error (createBefore_randomErrorCode (orIo errno))
  | ok random =>
    apply OnError.ite
    · exact OnError.throw (createBefore_randomErrorCode Errno.eio)
    · exact OnError.ok _

theorem isTempName_tempName {random : Bytes} (full : random.length = 16) :
    Provider.isTempName (.str (tempName random)) = true := by
  have digit : ∀ n < 16, Provider.isHexDigit (Core.Json.hexDigit n) = true := by decide
  have digits : ∀ b : UInt8, [Core.Json.hexDigit (b.toNat / 16),
      Core.Json.hexDigit (b.toNat % 16)].all Provider.isHexDigit = true := by
    intro b
    have small : b.toNat < 256 := b.toNat_lt
    simp only [all_cons, all_nil, Bool.and_true, Bool.and_eq_true]
    exact ⟨digit _ (by omega), digit _ (by omega)⟩
  have hex : (random.flatMap fun b => [Core.Json.hexDigit (b.toNat / 16),
      Core.Json.hexDigit (b.toNat % 16)]).all Provider.isHexDigit = true := by
    rw [all_flatMap, all_eq_true]
    exact fun b _ => digits b
  have head : tempPrefix.length = 12 := rfl
  have long : (tempName random).length = 44 := by
    rw [tempName, length_append, head, length_flatMap]
    simp [full]
  simp only [Provider.isTempName, Bool.and_eq_true, decide_eq_true_eq]
  refine ⟨⟨long, ?_⟩, ?_⟩
  · rw [tempName, ← head, take_left]
    rfl
  · rw [tempName, ← head, drop_left]
    exact hex

theorem beforeTemp_name {calls : CreateCalls} {root : FsIdentity}
    (opened : beforeTemp handle calls = .ok (root, name)) :
    Provider.isTempName (.str name) = true := by
  simp only [beforeTemp, bind_eq_ok] at opened
  obtain ⟨identity, -, _, -, parent, -, opened⟩ := opened
  split at opened
  · obtain ⟨_, impossible, -⟩ := (bind_eq_ok _ _ _).mp opened
    cases impossible
  · cases drawn : calls.random with
    | error errno => rw [drawn] at opened; cases opened
    | ok random =>
      rw [drawn] at opened
      dsimp only at opened
      split at opened
      · obtain ⟨_, impossible, -⟩ := (bind_eq_ok _ _ _).mp opened
        cases impossible
      · rename_i full
        cases opened
        exact isTempName_tempName (Decidable.not_not.mp full)

def CreateTemp (halted : Halted) : Prop :=
  ∀ calls, (createFailure calls .world halted true false none).fits .createTextFile = true

theorem createTemp_openTemp :
    CreateTemp (if errno = Errno.eexist then .tempNameCollision else mutationErrorCode errno,
      .openTemp, errno) := by
  intro calls
  unfold mutationErrorCode
  split_ifs <;> rfl

theorem createTemp_mutationErrorCode
    (known : stage ∈ [FsStage.setTempMode, .writeTemp, .fsyncTemp, .closeTemp]) (errno : Errno) :
    CreateTemp (mutationErrorCode errno, stage, errno) := by
  intro calls
  simp only [mem_cons, not_mem_nil, or_false] at known
  unfold mutationErrorCode
  rcases known with rfl | rfl | rfl | rfl <;> split_ifs <;> rfl

theorem createTemp_renameErrorCode :
    CreateTemp (renameErrorCode errno, .renameNoreplace, errno) := by
  intro calls
  unfold renameErrorCode mutationErrorCode
  split_ifs <;> rfl

theorem createTemp_writeAll : ∀ (remaining retries : Nat) (answers : List (Sys Nat))
    (halted : Halted), writeAll remaining retries answers = some (.error halted) →
      CreateTemp halted := by
  intro remaining retries answers halted
  induction answers generalizing remaining retries with
  | nil => cases remaining <;> intro stopped <;> rw [writeAll] at stopped <;> cases stopped
  | cons answer rest ih =>
    cases remaining with
    | zero => intro stopped; rw [writeAll] at stopped; cases stopped
    | succ remaining =>
      cases answer with
      | error errno =>
        intro stopped
        rw [writeAll] at stopped
        split_ifs at stopped
        · cases stopped
          exact fun _ => rfl
        · exact ih _ _ stopped
        · cases stopped
          exact createTemp_mutationErrorCode (by simp) errno
      | ok written =>
        intro stopped
        rw [writeAll] at stopped
        split_ifs at stopped
        · cases stopped
          exact fun _ => rfl
        · exact ih _ _ stopped

section

variable (calls : CreateCalls)

theorem onError_openedTemp (mode : Nat) : OnError CreateTemp (do
    Sys.orHalt calls.chmod .setTempMode mutationErrorCode
    let temp ← Sys.orHalt calls.tempStatus .observeTempIdentity ioFailure
    if temp.kind ≠ .regular || temp.uid ≠ calls.effectiveUid || temp.links ≠ 1 || temp.size ≠ 0
        || temp.permissions &&& 511 ≠ mode then
      throw (.tempIdentityInvalid, .observeTempIdentity, Errno.eio)) := by
  apply OnError.bind
  · exact OnError.orHalt (createTemp_mutationErrorCode (by simp))
  intro _
  apply OnError.bind
  · exact OnError.orHalt (fun errno _ => rfl)
  intro temp
  exact OnError.ite (OnError.error (fun _ => rfl)) (OnError.ok ())

theorem onError_publishTemp : OnError CreateTemp (do
    Sys.orHalt calls.fsyncTemp .fsyncTemp mutationErrorCode
    Sys.orHalt calls.closeTemp .closeTemp mutationErrorCode
    Sys.orHalt calls.rename .renameNoreplace renameErrorCode) := by
  apply OnError.bind
  · exact OnError.orHalt (createTemp_mutationErrorCode (by simp))
  intro _
  apply OnError.bind
  · exact OnError.orHalt (createTemp_mutationErrorCode (by simp))
  intro _
  exact OnError.orHalt createTemp_renameErrorCode

theorem createTemp_prepareTemp {calls : CreateCalls} {contentLength mode : Nat}
    (stopped : prepareTemp calls contentLength mode = some (.error halted)) :
    CreateTemp halted := by
  unfold prepareTemp at stopped
  dsimp only at stopped
  split at stopped
  · rename_i refused failed
    cases stopped
    exact onError_openedTemp calls mode _ failed
  · split at stopped
    · cases stopped
    · rename_i refused failed
      cases stopped
      exact createTemp_writeAll _ _ _ _ failed
    · exact onError_publishTemp calls halted (Option.some.inj stopped)

theorem failPrivate_fits (named : Provider.isTempName (.str name) = true)
    (stopped : CreateTemp halted) :
    (failPrivate calls name halted).fits .createTextFile = true := by
  unfold failPrivate
  cases calls.unlink with
  | ok _ => exact stopped calls
  | error errno =>
    have listed : (createFailure calls .ambiguous (.tempCleanupFailed, .cleanupUnlink, errno)
        true false (some name)).isListed .createTextFile = true := rfl
    have charged : (createFailure calls .ambiguous (.tempCleanupFailed, .cleanupUnlink, errno)
        true false (some name)).isCharged = Provider.isTempName (.str name) := rfl
    exact Bool.and_eq_true_iff.mpr ⟨listed, charged.trans named⟩

theorem onError_settlePublished :
    OnError (fun halted => (createFailure calls .ambiguous halted true true none).fits
      .createTextFile = true) (settlePublished calls) := by
  unfold settlePublished
  apply OnError.bind
  · exact OnError.orHalt (fun errno => rfl)
  intro _
  apply OnError.bind
  · exact OnError.orHalt (fun errno => rfl)
  intro _
  cases firstCloseError [calls.closeRepository, calls.closeBase] with
  | none => exact OnError.ok ()
  | some errno => exact OnError.error rfl

end

theorem takeWhile_append_stop {α : Type} {p : α → Bool} {x : α} (stops : p x = false) :
    ∀ l m : List α, (l ++ x :: m).takeWhile p = l.takeWhile p := by
  intro l m
  induction l with
  | nil => simp [stops]
  | cons y rest ih =>
    by_cases keeps : p y = true
    · simp [keeps, ih]
    · simp [keeps]

theorem baseName_of_scanPath : ∀ (rest component : Bytes) (components : Nat),
    47 ∉ component → scanPath rest component components = true →
      ∃ count, nativeComponent (baseName (component ++ rest)) count = true := by
  intro rest
  induction rest with
  | nil =>
    intro component components plain scanned
    refine ⟨components + 1, ?_⟩
    have whole : baseName (component ++ []) = component := by
      have kept : ∀ b ∈ component.reverse, decide (b ≠ 47) = true := by
        intro b member
        rw [decide_eq_true_eq]
        rintro rfl
        exact plain (mem_reverse.mp member)
      rw [append_nil, baseName, takeWhile_eq_self_iff.mpr kept, reverse_reverse]
    rw [whole]
    exact scanned
  | cons b rest ih =>
    intro component components plain scanned
    rw [scanPath] at scanned
    split_ifs at scanned with slash control
    · subst slash
      obtain ⟨count, taken⟩ := ih [] (components + 1) (by simp) (Bool.and_eq_true_iff.mp scanned).2
      refine ⟨count, ?_⟩
      have same : baseName (component ++ 47 :: rest) = baseName ([] ++ rest) := by
        rw [baseName, baseName, reverse_append, reverse_cons, append_assoc,
          singleton_append, takeWhile_append_stop (by simp), nil_append]
      rw [same]
      exact taken
    · have longer : 47 ∉ component ++ [b] := by
        simp only [mem_append, mem_singleton, not_or]
        exact ⟨plain, fun same => slash same.symm⟩
      obtain ⟨count, taken⟩ := ih (component ++ [b]) components longer scanned
      rw [append_assoc, singleton_append] at taken
      exact ⟨count, taken⟩

theorem nativeComponent_length {component : Bytes} {count : Nat}
    (taken : nativeComponent component count = true) :
    component ≠ [] ∧ component.length ≤ maxComponentBytes := by
  cases component with
  | nil => cases taken
  | cons first rest =>
    simp only [nativeComponent, Bool.and_eq_true, decide_eq_true_eq] at taken
    exact ⟨cons_ne_nil _ _, taken.1.1.1.1⟩

theorem splitTargetPath_of_valid (valid : validRepositoryPath path = true) :
    ∃ parts, splitTargetPath path = some parts := by
  simp only [validRepositoryPath, Bool.and_eq_true, decide_eq_true_eq] at valid
  obtain ⟨⟨⟨⟨⟨-, short⟩, -⟩, -⟩, -⟩, scanned⟩ := valid
  obtain ⟨count, taken⟩ := baseName_of_scanPath path [] 0 (by simp) scanned
  obtain ⟨named, bounded⟩ := nativeComponent_length taken
  rw [nil_append] at named bounded
  have parent : ¬ maxRelativePathBytes
      < (if (baseName path).length = path.length then utf8 "."
        else path.take (path.length - (baseName path).length - 1)).length := by
    have one : (utf8 ".").length = 1 := rfl
    split_ifs
    · rw [one, maxRelativePathBytes]
      omega
    · rw [length_take]
      omega
  have empty : (baseName path).isEmpty = false := by
    rw [isEmpty_eq_false_iff]
    exact named
  have width : ¬ maxComponentBytes < (baseName path).length := by omega
  refine Option.isSome_iff_exists.mp ?_
  unfold splitTargetPath
  simp only [parent, empty, width, decide_false, Bool.or_false, Bool.false_eq_true, if_false,
    Option.isSome_some]

theorem createTextFile_fits {content : Bytes} {mode : Nat} {calls : CreateCalls}
    (failed : createTextFile handle path content mode calls = some (.error e)) :
    e.fits .createTextFile = true := by
  unfold createTextFile at failed
  split_ifs at failed with closed refused
  · cases failed
    rfl
  · cases failed
    rfl
  · have valid : validRepositoryPath path = true := by
      by_contra invalid
      simp [invalid] at refused
    obtain ⟨parts, split⟩ := splitTargetPath_of_valid valid
    simp only [createFileTransaction, split] at failed
    cases begun : beforeTemp handle calls with
    | error halted =>
      rw [begun] at failed
      cases failed
      exact onError_beforeTemp handle calls halted begun calls
    | ok opened =>
      obtain ⟨root, name⟩ := opened
      rw [begun] at failed
      dsimp only at failed
      split at failed
      · rename_i errno _
        cases failed
        exact createTemp_openTemp errno calls
      · split at failed
        · cases failed
        · rename_i halted prepared
          cases failed
          exact failPrivate_fits calls (beforeTemp_name begun) (createTemp_prepareTemp prepared)
        · split at failed
          · rename_i halted settled
            cases failed
            exact onError_settlePublished calls halted settled
          · cases failed

/-! ## Reading -/

def ReadStop (halted : Halted) : Prop :=
  ∀ calls, (readFailure calls .world halted).fits .readTextFile = true

theorem readStop_parentErrorCode :
    ReadStop (parentErrorCode errno, .openReadParent, errno) := by
  intro calls
  unfold parentErrorCode
  split_ifs <;> rfl

theorem readStop_classify :
    ReadStop (readPathErrorCode errno, .classifyReadTarget, errno) := by
  intro calls
  unfold readPathErrorCode
  split_ifs <;> rfl

theorem readStop_openRead :
    ReadStop (if errno = Errno.enoent || errno = Errno.eloop || errno = Errno.enotdir
      then .targetChanged else readPathErrorCode errno, .openReadTarget, errno) := by
  intro calls
  unfold readPathErrorCode
  split_ifs <;> rfl

end

theorem readStop_root (known : stage ∈ rootStages) (errno : Errno) :
    ReadStop (.providerUnavailable, stage, errno) ∧ ReadStop (.rootChanged, stage, errno) := by
  simp only [rootStages, mem_cons, not_mem_nil, or_false] at known
  rcases known with rfl | rfl | rfl | rfl <;> exact ⟨fun _ => rfl, fun _ => rfl⟩

theorem onError_readRoot (handle : FsHandle) (calls : PairCalls) :
    OnError ReadStop (openHandleRoot handle calls) := by
  apply onError_openHandleRoot
  · exact fun stage known errno => (readStop_root known errno).1
  · exact fun stage known errno => (readStop_root known errno).2
  · exact fun _ => rfl

theorem onError_closeOrHalt (answers : List (Sys Unit)) :
    OnError ReadStop (closeOrHalt answers) := by
  unfold closeOrHalt
  cases firstCloseError answers with
  | none => exact OnError.ok ()
  | some errno => exact OnError.error (fun _ => rfl)

theorem readStop_readUpTo : ∀ (room retries : Nat) (read : Bytes) (answers : List (Sys Bytes))
    (halted : Halted), readUpTo room retries read answers = some (.error halted) →
      ReadStop halted := by
  intro room retries read answers halted
  induction answers generalizing room retries read with
  | nil => cases room <;> intro stopped <;> rw [readUpTo] at stopped <;> cases stopped
  | cons answer rest ih =>
    cases room with
    | zero => intro stopped; rw [readUpTo] at stopped; cases stopped
    | succ room =>
      cases answer with
      | error errno =>
        intro stopped
        rw [readUpTo] at stopped
        split_ifs at stopped
        · cases stopped
          exact fun _ => rfl
        · exact ih _ _ _ stopped
        · cases stopped
          exact fun _ => rfl
      | ok chunk =>
        intro stopped
        rw [readUpTo] at stopped
        split_ifs at stopped
        · cases stopped
        · cases stopped
          exact fun _ => rfl
        · exact ih _ _ _ stopped

theorem onError_openRegular (calls : ReadCalls) (classified : Status) :
    OnError ReadStop (openRegular calls classified) := by
  unfold openRegular
  apply OnError.bind
  · exact OnError.orHalt readStop_openRead
  intro _
  apply OnError.bind
  · exact OnError.orHalt (fun errno _ => rfl)
  intro before
  apply OnError.ite
  · exact OnError.throw (fun _ => rfl)
  apply OnError.ite
  · exact OnError.throw (fun _ => rfl)
  · exact OnError.ok before

theorem readStop_readRegular {classified : Status} {maxBytes : Nat}
    (stopped : readRegular calls classified maxBytes = some (.error halted)) :
    ReadStop halted := by
  unfold readRegular at stopped
  split at stopped
  · rename_i refused failed
    cases stopped
    exact onError_openRegular calls classified _ failed
  · split at stopped
    · cases stopped
    · rename_i refused failed
      cases stopped
      exact readStop_readUpTo _ _ _ _ _ failed
    · refine OnError.bind (P := ReadStop) (OnError.orHalt (fun errno _ => rfl)) ?_ halted
        (Option.some.inj stopped)
      intro after
      apply OnError.ite
      · exact OnError.throw (fun _ => rfl)
      · apply OnError.bind
        · exact onError_closeOrHalt _
        · intro _
          exact OnError.ok _

theorem readStop_observeTarget {maxBytes : Nat}
    (stopped : observeTarget handle maxBytes calls = some (.error halted)) :
    ReadStop halted := by
  unfold observeTarget at stopped
  dsimp only at stopped
  split at stopped
  · rename_i refused failed
    cases stopped
    refine OnError.bind (P := ReadStop) (onError_readRoot handle calls.root) ?_ halted failed
    intro _
    exact OnError.orHalt readStop_parentErrorCode
  · split at stopped
    · split_ifs at stopped
      · refine OnError.bind (P := ReadStop) (onError_closeOrHalt _) ?_ halted
          (Option.some.inj stopped)
        intro _
        exact OnError.ok _
      · cases stopped
        exact readStop_classify _
    · split at stopped
      · cases stopped
        exact fun _ => rfl
      · split_ifs at stopped
        · exact readStop_readRegular stopped
        · refine OnError.bind (P := ReadStop) (onError_closeOrHalt _) ?_ halted
            (Option.some.inj stopped)
          intro _
          exact OnError.ok _

theorem onError_findAgain (expected : Observed) (calls : ReobserveCalls) :
    OnError ReadStop (findAgain expected calls) := by
  unfold findAgain
  cases expected.status with
  | none =>
    cases calls.openTarget with
    | ok _ => exact OnError.error (fun _ => rfl)
    | error errno => exact OnError.ite (OnError.error (fun _ => rfl)) (onError_closeOrHalt _)
  | some status =>
    apply OnError.bind
    · exact OnError.orHalt (fun errno _ => rfl)
    intro _
    apply OnError.bind
    · exact OnError.orHalt (fun errno _ => rfl)
    intro observed
    apply OnError.ite
    · exact OnError.throw (fun _ => rfl)
    · exact onError_closeOrHalt _

/-- The named target is looked for a second time under a root that is still the handle's, and
the kernel lacks the call that opens its parent. -/
def ReobserveUnsupported (handle : FsHandle) (calls : ReobserveCalls) : Prop :=
  (∃ root, openHandleRoot handle calls.root = .ok root)
    ∧ ∃ errno, calls.openParent = .error errno ∧ isUnsupported errno = true

theorem reobserve_unsupported {expected : Observed} {calls : ReobserveCalls}
    (unsupported : ReobserveUnsupported handle calls) :
    ∃ errno, reobserveNamedTarget handle expected calls
      = .error (.providerUnavailable, .reobserveReadTarget, errno) := by
  obtain ⟨⟨root, rooted⟩, errno, refused, lacking⟩ := unsupported
  refine ⟨errno, ?_⟩
  simp only [reobserveNamedTarget, rooted, refused, Sys.orHalt, Except.mapError, lacking, if_true]
  rfl

theorem onError_reobserve {calls : ReobserveCalls} (expected : Observed)
    (supported : ¬ ReobserveUnsupported handle calls) :
    OnError ReadStop (reobserveNamedTarget handle expected calls) := by
  unfold reobserveNamedTarget
  cases rooted : openHandleRoot handle calls.root with
  | error halted => exact OnError.error (onError_readRoot handle calls.root halted rooted)
  | ok root =>
    show OnError ReadStop (Sys.orHalt _ _ _ >>= _)
    cases parent : calls.openParent with
    | error errno =>
      have known : isUnsupported errno = false := by
        by_contra lacking
        exact supported ⟨⟨root, rooted⟩, errno, parent, by simpa using lacking⟩
      intro halted stopped
      simp only [Sys.orHalt, Except.mapError, known] at stopped
      cases stopped
      exact fun _ => rfl
    | ok _ =>
      show OnError ReadStop (findAgain expected calls >>= _)
      apply OnError.bind
      · exact onError_findAgain expected calls
      · intro _
        exact OnError.ok root

def ReadSupported (handle : FsHandle) (path : Bytes) (maxBytes : Int) (calls : ReadCalls) : Prop :=
  ¬ (handle.closed = false ∧ validRepositoryPath path = true
    ∧ 1 ≤ maxBytes ∧ maxBytes ≤ (maxContentBytes + 1 : Int)
    ∧ (∃ observed, observeTarget handle maxBytes.toNat calls = some (.ok observed))
    ∧ ReobserveUnsupported handle calls.again)

theorem readTextFile_fits {maxBytes : Int} (supported : ReadSupported handle path maxBytes calls)
    (failed : readTextFile handle path maxBytes calls = some (.error e)) :
    e.fits .readTextFile = true := by
  unfold readTextFile at failed
  split_ifs at failed with closed refused
  · cases failed
    rfl
  · cases failed
    rfl
  · simp only [Bool.or_eq_true, Bool.not_eq_true', decide_eq_true_eq, not_or, Bool.not_eq_false,
      Int.not_lt] at refused closed
    obtain ⟨⟨valid, positive⟩, bounded⟩ := refused
    obtain ⟨parts, split⟩ := splitTargetPath_of_valid valid
    simp only [readFileTransaction, split] at failed
    cases observation : observeTarget handle maxBytes.toNat calls with
    | none => rw [observation] at failed; cases failed
    | some answer =>
      rw [observation] at failed
      cases answer with
      | error halted =>
        cases failed
        exact readStop_observeTarget observation calls
      | ok observed =>
        have again : ¬ ReobserveUnsupported handle calls.again := fun unsupported =>
          supported ⟨by simpa using closed, valid, positive, bounded, ⟨observed, observation⟩,
            unsupported⟩
        dsimp only at failed
        split at failed
        · rename_i halted stopped
          cases failed
          exact onError_reobserve observed again halted stopped calls
        · cases failed

theorem readTextFile_unsupported {maxBytes : Int}
    (unsupported : ¬ ReadSupported handle path maxBytes calls) :
    ∃ e, readTextFile handle path maxBytes calls = some (.error e)
      ∧ e.isListed .readTextFile = false := by
  obtain ⟨opened, valid, positive, bounded, ⟨observed, observation⟩, lacking⟩ :=
    Classical.not_not.mp unsupported
  obtain ⟨errno, stopped⟩ := @reobserve_unsupported handle observed calls.again lacking
  obtain ⟨parts, split⟩ := splitTargetPath_of_valid valid
  refine ⟨readFailure calls .world (.providerUnavailable, .reobserveReadTarget, errno), ?_, rfl⟩
  have low : ¬ maxBytes < 1 := by omega
  have high : ¬ (maxContentBytes + 1 : Int) < maxBytes := by omega
  simp only [readTextFile, opened, valid, low, high, readFileTransaction, split, observation,
    stopped]
  rfl

/-! ## Taking an inventory -/

def InventoryStop (halted : Halted) : Prop := (inventoryFailure halted).fits .inventoryTree = true

theorem inventoryStop_root (known : stage ∈ rootStages) (errno : Errno) :
    InventoryStop (.providerUnavailable, stage, errno)
      ∧ InventoryStop (.rootChanged, stage, errno) := by
  simp only [rootStages, mem_cons, not_mem_nil, or_false] at known
  rcases known with rfl | rfl | rfl | rfl <;> exact ⟨rfl, rfl⟩

theorem inventoryStop_scanErrorCode
    (known : stage = .openInventoryRoot ∨ stage = .enumerateInventoryTree) (code errno : Errno) :
    InventoryStop (scanErrorCode code, stage, errno) := by
  unfold scanErrorCode
  rcases known with rfl | rfl <;> split_ifs <;> rfl

theorem inventoryStop_firstScan {calls : ScanCalls}
    (stopped : firstScan bounds calls = some (.error halted)) : InventoryStop halted := by
  unfold firstScan at stopped
  split at stopped
  · cases stopped
    exact inventoryStop_scanErrorCode (Or.inl rfl) _ _
  · split at stopped
    · cases stopped
    · cases stopped
      exact inventoryStop_scanErrorCode (Or.inr rfl) _ _
    · split_ifs at stopped
      · cases stopped
        rfl
      · cases stopped

theorem inventoryStop_secondScan {calls : ScanCalls} {first : Snapshot}
    (stopped : secondScan bounds calls first = some (.error halted)) : InventoryStop halted := by
  unfold secondScan at stopped
  split_ifs at stopped
  · cases stopped
  · split at stopped
    · cases stopped
      rfl
    · split at stopped
      · cases stopped
      · cases stopped
        rfl
      · refine OnError.bind (P := InventoryStop) ?_ ?_ halted (Option.some.inj stopped)
        · exact OnError.orHalt (fun errno => rfl)
        · intro _
          exact OnError.ok _

theorem onError_closePairOrHalt (repository base : Sys Unit) :
    OnError InventoryStop (closePairOrHalt repository base) := by
  unfold closePairOrHalt
  cases firstCloseError [repository, base] with
  | none => exact OnError.ok ()
  | some errno => exact OnError.error rfl

theorem onError_revalidateRoot (handle : FsHandle) (calls : InventoryCalls) :
    OnError InventoryStop (revalidateRoot handle calls) := by
  unfold revalidateRoot
  apply OnError.bind
  · exact OnError.orHalt (fun errno => rfl)
  intro _
  apply OnError.bind
  · exact onError_closePairOrHalt _ _
  intro _
  cases openIdentityPair calls.again with
  | error stopped => exact OnError.error rfl
  | ok pair =>
    apply OnError.ite
    · exact OnError.throw rfl
    apply OnError.bind
    · exact onError_closePairOrHalt _ _
    · intro _
      exact OnError.ok pair.2

theorem inventoryStop_transaction {calls : InventoryCalls}
    (stopped : inventoryTransaction handle bounds calls = some (.error halted)) :
    InventoryStop halted := by
  unfold inventoryTransaction at stopped
  split at stopped
  · rename_i refused failed
    cases stopped
    refine onError_openHandleRoot (P := InventoryStop) handle calls.root ?_ ?_ ?_ _ failed
    · exact fun stage known errno => (inventoryStop_root known errno).1
    · exact fun stage known errno => (inventoryStop_root known errno).2
    · exact rfl
  · split at stopped
    · cases stopped
    · rename_i refused failed
      cases stopped
      exact inventoryStop_firstScan failed
    · split at stopped
      · cases stopped
      · rename_i refused failed
        cases stopped
        exact inventoryStop_secondScan failed
      · refine OnError.bind (P := InventoryStop) (onError_revalidateRoot handle calls) ?_ halted
          (Option.some.inj stopped)
        intro rootAfter
        apply OnError.ite
        · exact OnError.throw rfl
        · exact OnError.ok _

theorem inventoryTree_fits {request : InventoryRequest} {calls : InventoryCalls}
    (failed : inventoryTree handle request calls = some (.error e)) :
    e.fits .inventoryTree = true := by
  unfold inventoryTree at failed
  split_ifs at failed with closed
  · cases failed
    rfl
  · cases bounded : request.bounds with
    | none =>
      rw [bounded] at failed
      cases failed
      rfl
    | some bounds =>
      rw [bounded] at failed
      dsimp only at failed
      cases answered : inventoryTransaction handle bounds calls with
      | none => rw [answered] at failed; cases failed
      | some answer =>
        rw [answered] at failed
        cases answer with
        | ok result => cases failed
        | error halted =>
          cases failed
          exact inventoryStop_transaction answered

/-! ## The three operations -/

/-- Every error record of a creation and of an inventory is accepted, and every one of a reading
unless the second look for the target meets a kernel without the call that opens its parent. -/
theorem native_failures_accepted_iff (handle : FsHandle) :
    (∀ path content mode calls e,
      createTextFile handle path content mode calls = some (.error e) →
        e.Accepted .createTextFile)
    ∧ (∀ request calls e,
      inventoryTree handle request calls = some (.error e) → e.Accepted .inventoryTree)
    ∧ ∀ path maxBytes calls,
      (∀ e, readTextFile handle path maxBytes calls = some (.error e) → e.Accepted .readTextFile)
        ↔ ReadSupported handle path maxBytes calls := by
  refine ⟨?_, ?_, ?_⟩
  · intro path content mode calls e failed
    exact accepted_of_fits (createTextFile_fits failed)
  · intro request calls e failed
    exact accepted_of_fits (inventoryTree_fits failed)
  · intro path maxBytes calls
    constructor
    · intro accepted
      by_contra unsupported
      obtain ⟨e, failed, unlisted⟩ := readTextFile_unsupported unsupported
      exact not_accepted_of_unlisted unlisted (accepted e failed)
    · intro supported e failed
      exact accepted_of_fits (readTextFile_fits supported failed)

/-! ## A reading of a missing file -/

def plainDirectory (inode : Nat) : Status where
  device := 1
  inode := inode
  kind := .directory
  permissions := 448
  uid := 1000
  gid := 1000
  links := 2
  size := 4096
  modified := 0
  changed := 0

def plainPair : PairCalls where
  openBase := .ok ()
  baseStatus := .ok (plainDirectory 2)
  baseMount := .ok (some 7)
  openRoot := .ok ()
  rootStatus := .ok (plainDirectory 3)
  rootMount := .ok (some 7)

def plainHandle : FsHandle := ⟨⟨1, 2, 7⟩, ⟨1, 3, 7⟩, false⟩

def plainClosing : ReadClosing := ⟨.ok (), .ok (), .ok (), .ok (), .ok ()⟩

def missingCalls (first again : Errno) : ReadCalls where
  root := plainPair
  openParent := .ok ()
  openTarget := .error first
  targetStatus := .ok (plainDirectory 4)
  openRead := .ok ()
  before := .ok (plainDirectory 4)
  buffer := true
  reads := []
  after := .ok (plainDirectory 4)
  closing := plainClosing
  again := {
    root := plainPair
    openParent := .error again
    openTarget := .error first
    targetStatus := .ok (plainDirectory 4)
    closing := plainClosing }
  started := 0
  finished := 0

theorem native_failures_accepted_denied :
    ∃ e, readTextFile plainHandle (utf8 "notes.txt") 64 (missingCalls Errno.eacces Errno.enoent)
        = some (.error e) ∧ e.Accepted .readTextFile := by
  have supported : ReadSupported plainHandle (utf8 "notes.txt") 64
      (missingCalls Errno.eacces Errno.enoent) := by
    rintro ⟨-, -, -, -, ⟨observed, observation⟩, -⟩
    cases observation
  exact ⟨_, rfl, ((native_failures_accepted_iff plainHandle).2.2 _ _ _).mpr supported _ rfl⟩

/-- A file is missing at the first look, and `openat2` refuses its arguments at the second. -/
theorem reobservation_failure_raised :
    ∃ e, readTextFile plainHandle (utf8 "notes.txt") 64 (missingCalls Errno.enoent Errno.einval)
        = some (.error e)
      ∧ ∃ message, validateProviderError .readTextFile e.table = .error (.raised message) :=
  ⟨_, rfl, _, rfl⟩

end Proc17.Native
