import Proc17.Native.CreateOutcome
import Proc17.Native.InventoryVerdict
import Proc17.Native.Utf8Text

/-!
# A request to create a file, on both sides

`validate_create_request` of the provider adapter and the argument checks of
`create_text_file` in the library.  What `utf8.len` says of a text is given.
-/

namespace Proc17.Native

open Lua Runtime.Repository Unicode

def createRequestKeys : List String :=
  ["protocol_version", "relative_path", "content", "content_bytes", "precondition", "file_mode"]

def invalidCreateRequest : Failure := .refused (.record [
  ("protocol_version", .text "repository.provider_error.v0"),
  ("class", .text "contract"),
  ("code", .text "invalid_request"),
  ("stage", .text "validate_create_request"),
  ("mutation_primitive_entered", .bool false),
  ("published", .bool false),
  ("cost", .record [("tool_calls", .nat 0), ("file_writes", .nat 0), ("time_ms", .nat 0)])])

def validContent (utf8Len : Bytes → Option Nat) (value : Value) : Bool :=
  match value.get "content" with
  | .str content =>
    content.length ≤ maxContentBytes && !content.contains 0 && (utf8Len content).isSome
      && isNonNegativeInteger (value.get "content_bytes")
      && (value.get "content_bytes").eq (.nat content.length)
  | _ => false

def validateCreateRequest (utf8Len : Bytes → Option Nat) (value : Value) : Except Failure Unit := do
  (exactKeys value createRequestKeys createRequestKeys "create request").mapError
    fun _ => invalidCreateRequest
  require (value.get "protocol_version" = .text "repository.create_text_file.request.v0"
      ∧ validRelativePath (value.get "relative_path") = true
      ∧ validContent utf8Len value = true
      ∧ value.get "precondition" = .text "absent"
      ∧ (value.get "file_mode").eq (.nat fileMode) = true)
    invalidCreateRequest

/-- `create_text_file` of the library, called with what a request holds. -/
def callCreateTextFile (handle : FsHandle) (request : Value) (calls : CreateCalls) :
    Option (Except FsError Created) :=
  if handle.closed then some (.error (.plain .contract .handleClosed .createHandle 0 0))
  else
    match request.get "relative_path", request.get "content",
        integerArgument (request.get "file_mode") with
    | .str path, .str content, some mode => createTextFile handle path content mode.toNat calls
    | _, _, _ =>
      some (.error (.plain .contract .invalidRequest .validateCreateRequest Errno.einval 0))

/-- The argument checks of `create_text_file` pass. -/
def ArgumentsPass (request : Value) : Prop :=
  ∃ path content, request.get "relative_path" = .str path ∧ request.get "content" = .str content
    ∧ integerArgument (request.get "file_mode") = some (fileMode : Int)
    ∧ validRepositoryPath path = true ∧ content.length ≤ maxContentBytes
    ∧ validUtf8Text content = true

/-- No call with an open handle reports the stage of the argument checks. -/
def StageUnreached (request : Value) : Prop :=
  ∀ handle calls e, handle.closed = false →
    callCreateTextFile handle request calls = some (.error e) → e.stage ≠ .validateCreateRequest

variable {utf8Len : Bytes → Option Nat}

theorem createRequest_facts {request : Value} {u : Unit}
    (exact : ∀ s, (utf8Len s).isSome = true ↔ WellFormed s)
    (valid : validateCreateRequest utf8Len request = .ok u) :
    ∃ path content, request.get "relative_path" = .str path ∧ request.get "content" = .str content
      ∧ validRepositoryPath path = true ∧ content.length ≤ maxContentBytes
      ∧ validUtf8Text content = true
      ∧ (request.get "file_mode").eq (.nat fileMode) = true := by
  simp only [validateCreateRequest, bind_eq_ok, require_eq_ok] at valid
  obtain ⟨⟨⟩, -, -, named, texted, -, mode⟩ := valid
  rw [validContent] at texted
  cases text : request.get "content" with
  | str content =>
    rw [text] at texted
    simp only [Bool.and_eq_true, decide_eq_true_eq, Bool.not_eq_true', List.contains_eq_mem,
      decide_eq_false_iff_not] at texted
    obtain ⟨⟨⟨⟨short, absent⟩, formed⟩, -⟩, -⟩ := texted
    cases place : request.get "relative_path" with
    | str path =>
      rw [place, validRelativePath_eq] at named
      exact ⟨path, content, rfl, rfl, named, short,
        (validUtf8Text_iff content).mpr ⟨(exact content).mp formed, absent⟩, mode⟩
    | _ => rw [place] at named; cases named
  | _ => rw [text] at texted; cases texted

theorem toolCalls_of_transaction {handle : FsHandle} {path content : Bytes} {mode : Nat}
    {calls : CreateCalls} {e : FsError}
    (failed : createFileTransaction handle path content mode calls = some (.error e)) :
    e.toolCalls = 1 := by
  unfold createFileTransaction at failed
  split at failed
  · cases failed
    rfl
  split at failed
  · cases failed
    rfl
  split at failed
  · cases failed
    rfl
  split at failed
  · cases failed
  · cases failed
    rw [failPrivate]
    split <;> rfl
  · split at failed
    · cases failed
      rfl
    · cases failed

theorem stageUnreached_of_pass {request : Value} (pass : ArgumentsPass request) :
    StageUnreached request := by
  obtain ⟨path, content, place, text, mode, valid, short, formed⟩ := pass
  intro handle calls e live failed stage
  rw [callCreateTextFile, live, place, text, mode] at failed
  have ran : createTextFile handle path content fileMode calls = some (.error e) := failed
  have fits := createTextFile_fits ran
  unfold createTextFile at ran
  rw [live, if_neg Bool.false_ne_true, if_neg (by simp [valid, formed, Nat.not_lt.mpr short])] at ran
  simp only [FsError.fits, FsError.isCharged, Bool.and_eq_true, decide_eq_true_eq] at fits
  rw [toolCalls_of_transaction ran, stage] at fits
  exact absurd fits.2.1.1.1.1 (by decide)

theorem integerArgument_of_eq {v : Value} {n : Nat} (same : v.eq (.nat n) = true) {mode : Int}
    (integer : integerArgument v = some mode) : mode = n := by
  cases v with
  | num number =>
    cases number with
    | int i =>
      cases integer
      exact eq_of_beq same
    | _ => cases integer
  | _ => cases integer

/-- The adapter and the library agree on paths, and on every request whose mode is of Lua's
integer subtype. -/
theorem create_requests_agree (exact : ∀ s, (utf8Len s).isSome = true ↔ WellFormed s) :
    (∀ path, validRelativePath (.str path) = validRepositoryPath path)
      ∧ ∀ request, validateCreateRequest utf8Len request = .ok () →
          (ArgumentsPass request ∧ StageUnreached request
            ↔ ∃ mode, integerArgument (request.get "file_mode") = some mode) := by
  refine ⟨validRelativePath_eq, ?_⟩
  intro request valid
  obtain ⟨path, content, place, text, named, short, formed, mode⟩ := createRequest_facts exact valid
  constructor
  · rintro ⟨⟨_, _, _, _, integer, _⟩, _⟩
    exact ⟨_, integer⟩
  · rintro ⟨given, integer⟩
    rw [integerArgument_of_eq mode integer] at integer
    have pass : ArgumentsPass request := ⟨path, content, place, text, integer, named, short, formed⟩
    exact ⟨pass, stageUnreached_of_pass pass⟩

/-- `utf8.len(s)`: the characters of a text, by the bytes that begin one. -/
def lengthOf (s : Bytes) : Option Nat :=
  if s.toByteArray.validateUTF8 then some (s.filter fun b => !Action.isContinuation b).length
  else none

theorem lengthOf_isSome (s : Bytes) : (lengthOf s).isSome = true ↔ WellFormed s := by
  have checked : (lengthOf s).isSome = s.toByteArray.validateUTF8 := by
    rw [lengthOf]
    cases s.toByteArray.validateUTF8 <;> rfl
  rw [checked, validateUTF8_iff]

def createRequest (mode : Number) : Value :=
  .record [("protocol_version", .text "repository.create_text_file.request.v0"),
    ("relative_path", .text "src/a.txt"), ("content", .text "a"), ("content_bytes", .nat 1),
    ("precondition", .text "absent"), ("file_mode", .num mode)]

theorem createRequest_accepted {mode : Number} (same : Number.eq mode (.int 384) = true) :
    validateCreateRequest lengthOf (createRequest mode) = .ok () := by
  have formed : (lengthOf (utf8 "a")).isSome = true :=
    (lengthOf_isSome _).mpr (WellFormed.cons (sequence_one (by decide)) wellFormed_nil)
  have texted : validContent lengthOf (createRequest mode) = true := by
    have text : (createRequest mode).get "content" = .str (utf8 "a") := rfl
    rw [validContent, text]
    dsimp only
    rw [formed]
    rfl
  simp only [validateCreateRequest, bind_eq_ok, require_eq_ok]
  exact ⟨(), rfl, rfl, rfl, texted, rfl, same⟩

theorem create_requests_agree_integer : ArgumentsPass (createRequest (.int 384)) :=
  (((create_requests_agree lengthOf_isSome).2 _ (createRequest_accepted rfl)).mpr ⟨384, rfl⟩).1

/-- The adapter takes the mode 384.0, which the library refuses. -/
theorem float_mode_refused : validateCreateRequest lengthOf (createRequest (.float 384)) = .ok ()
    ∧ ¬ ArgumentsPass (createRequest (.float 384))
    ∧ ¬ StageUnreached (createRequest (.float 384)) := by
  refine ⟨createRequest_accepted (by decide +kernel), ?_, ?_⟩
  · rintro ⟨_, _, _, _, integer, _⟩
    cases integer
  · intro unreached
    exact unreached plainHandle plainCreation _ rfl rfl rfl

end Proc17.Native
