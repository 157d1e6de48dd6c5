import Proc17.Runtime.Repository.ArtifactSetIdentity
import Proc17.Runtime.Repository.Seal

/-!
# Identities of candidate seals

`candidate_seal.prepare`, and the requests that it and `normalize_request` answer: each is its
own normal form, under the id that the registry computes for it.
-/

namespace Proc17.Runtime.Repository.CandidateSeal

open Lua Core List Value ArtifactSet
open Layout
open ArtifactSet (uniqueText Distinct)
open Registry (isPlainTable)

/-! ## Preparation -/

/-- What `derive_body_evidence` answers. -/
structure Evidence where
  declaration : Value
  inspection : Value
  expectedFiles : Value
  expectedDirectories : Value

/-- What `prepare` asks of the Packet's body and of the registry. -/
structure Sources where
  bodyEvidence : Value → Value → Except Failure Evidence
  resolve : Value → Value → Except Failure Value
  candidateLifecycle : Value → Value → Except Failure Value

def lifecycleReady (inst lifecycle : Value) : Bool :=
  lifecycle.get "state" = .text "materializing"
    && (lifecycle.get "generation").eq (inst.get "generation")
    && (lifecycle.get "lineage_id").eq (inst.get "lineage_id")
    && (lifecycle.get "repository_id").eq (inst.get "repository_id")
    && (lifecycle.get "active_grant_count").eq (.nat 1)
    && (lifecycle.get "active_dispatch_count").eq (.nat 0)

def lifecycleDiagnostic (lifecycle : Value) : Value :=
  .record [
    ("protocol_version", .text "repository.candidate_seal_diagnostic.v0"),
    ("code", .text "candidate_lifecycle_not_ready"),
    ("detail", lifecycle.get "state"),
    ("source_refs", textArray []),
    ("event_truth_status", .text "runtime_confirmed")]

/-- The fields of the request that `prepare` normalizes. -/
def preparedFields (inst bounds grant lifecycle : Value) (evidence : Evidence)
    (refs : List Bytes) : List (String × Value) := [
  ("protocol_version", .text "repository.candidate_seal_request.v0"),
  ("request_id", .nil),
  ("packet_id", inst.get "id"),
  ("lineage_id", inst.get "lineage_id"),
  ("generation", inst.get "generation"),
  ("process_contract_id", evidence.declaration.get "process_contract_id"),
  ("context", evidence.declaration.get "context"),
  ("stage_id", evidence.declaration.get "stage_id"),
  ("repository_id", evidence.declaration.get "repository_id"),
  ("root_authority_id", lifecycle.get "root_authority_id"),
  ("lifecycle_id", lifecycle.get "lifecycle_id"),
  ("lifecycle_revision", lifecycle.get "revision"),
  ("root_fingerprint", lifecycle.get "root_fingerprint"),
  ("grant_id", grant.get "grant_id"),
  ("grant_revision", grant.get "revision"),
  ("artifact_set_id", evidence.declaration.get "artifact_set_id"),
  ("artifact_set_inspection_id", evidence.inspection.get "inspection_id"),
  ("expected_files", evidence.expectedFiles),
  ("expected_directories", evidence.expectedDirectories),
  ("inventory_bounds", bounds),
  ("source_refs", textArray refs),
  ("event_truth_status", .text "runtime_confirmed"),
  ("content_truth_status", evidence.inspection.get "content_truth_status")]

def prepare (sources : Sources) (inst services options : Value) : Except Failure Value := do
  let options := options.orElse .emptyTable
  exactKeys options ["inventory_bounds"] [] "candidate seal options"
  let bounds ← normalizeInventoryBounds (options.get "inventory_bounds")
  let evidence ← sources.bodyEvidence inst bounds
  let registry := services.get "repository_capabilities"
  require (registry.isTable = true)
    (refuse "candidate seal requires repository capability registry")
  let grant ← sources.resolve registry (.record [
    ("session_id", inst.get "session_id"), ("lineage_id", inst.get "lineage_id"),
    ("generation", inst.get "generation"), ("repository_id", inst.get "repository_id"),
    ("operation", .text "create_text_file")])
  let lifecycle ← sources.candidateLifecycle registry
    (.record [("grant_id", grant.get "grant_id")])
  require (lifecycleReady inst lifecycle = true) (.refused (lifecycleDiagnostic lifecycle))
  let refs ← (evidence.inspection.get "source_refs").ipairs
  let names := ArtifactSet.sortedTexts (refs ++
    [evidence.declaration.get "artifact_set_id", evidence.inspection.get "inspection_id"])
  let request ← normalizeRequest
    (.record (preparedFields inst bounds grant lifecycle evidence names)) false
  pure request.table.deepCopy

/-! ## Arrays written out -/

theorem distinctTexts_eq (name : String) : ∀ (items : List Value) (seen : List Bytes),
    distinctTexts name seen items
      = collect (uniqueText (refuse (name ++ " contains invalid or duplicate identity"))) seen
        items := by
  intro items
  induction items with
  | nil => intro seen; rw [distinctTexts, collect]
  | cons item rest ih =>
    intro seen
    cases item with
    | str text =>
      cases text with
      | nil => rfl
      | cons b s =>
        rw [distinctTexts, collect, uniqueText, require_then, require_then]
        by_cases fresh : (b :: s) ∉ seen
        · rw [if_pos fresh, if_pos fresh, ih]
          rfl
        · rw [if_neg fresh, if_neg fresh]
    | _ => rfl

variable {name : String} {out : List Bytes} {value file bounds : Value} {next : ExpectedFile}

theorem normalizeStringArray_ok (read : normalizeStringArray value name = .ok out) :
    Distinct out ∧ out.insertionSort Json.TextLe = out := by
  simp only [normalizeStringArray, bind_eq_ok, pure_eq_ok, distinctTexts_eq,
    collect_texts_ok] at read
  obtain ⟨_, -, texts, ⟨-, distinct⟩, rfl⟩ := read
  exact ⟨distinct.perm (perm_insertionSort Json.TextLe texts).symm,
    Sorted.insertionSort_insertionSort texts⟩

theorem normalizeStringArray_written (read : normalizeStringArray value name = .ok out)
    (other : String) :
    normalizeStringArray (textArray out) other = .ok out := by
  obtain ⟨distinct, sorted⟩ := normalizeStringArray_ok read
  simp only [normalizeStringArray, bind_eq_ok, pure_eq_ok, distinctTexts_eq, collect_texts_ok]
  exact ⟨_, denseArray_array (texts_present out) other, out, ⟨rfl, distinct⟩, sorted⟩

theorem noRepeats_iff {items : List Value} : noRepeats items = true ↔ items.Nodup := by
  induction items with
  | nil => simp [noRepeats]
  | cons item rest ih =>
    rw [noRepeats, Bool.and_eq_true, ih, nodup_cons, all_eq_true]
    refine and_congr_left fun _ => ⟨fun other again => ?_, fun absent w member => ?_⟩
    · simpa using other item again
    · simpa using fun same : item = w => absent (same ▸ member)

theorem strictStringArray_written (read : normalizeStringArray value name = .ok out)
    (other : String) :
    strictStringArray (textArray out) other = .ok () := by
  obtain ⟨distinct, -⟩ := normalizeStringArray_ok read
  have listed := listed_textArray out
  have named : (out.map Value.str).all Value.isNonEmptyString = true := by
    rw [all_eq_true]
    intro item member
    obtain ⟨text, inOut, rfl⟩ := mem_map.mp member
    cases text with
    | nil => exact absurd inOut distinct.named
    | cons b s => rfl
  have once := noRepeats_iff.mpr (distinct.once.map fun a b same => Value.str.inj same)
  simp only [strictStringArray, bind_eq_ok, require_eq_ok]
  exact ⟨(), ⟨rfl, rfl⟩, _, listed.walked, (), ⟨named, once⟩, listed.keys⟩

/-! ## Files written out -/

def readFile (file : Value) : Except Failure ExpectedFile := do
  exactKeys file expectedFileKeys expectedFileKeys "candidate expected file"
  let path ← relativePath (file.get "relative_path")
  readExpectedFile path file

structure Fresh (files : List ExpectedFile) : Prop where
  paths : (files.map ExpectedFile.relativePath).Nodup
  units : (files.map ExpectedFile.workUnitId).Nodup

theorem fresh_nil : Fresh [] := ⟨nodup_nil, nodup_nil⟩

theorem readExpectedFile_path {path : Bytes} (read : readExpectedFile path file = .ok next) :
    next.relativePath = path := by
  unfold readExpectedFile at read
  split at read
  · simp only [bind_eq_ok, require_eq_ok, pure_eq_ok] at read
    obtain ⟨-, -, rfl⟩ := read
    rfl
  · cases read

theorem expectedFile_ok {seen : List ExpectedFile} (fresh : Fresh seen) :
    expectedFile seen file = .ok next ↔ readFile file = .ok next ∧ Fresh (seen ++ [next]) := by
  have apart : (seen.all fun other =>
        other.relativePath ≠ next.relativePath ∧ other.workUnitId ≠ next.workUnitId) = true
      ↔ Fresh (seen ++ [next]) := by
    rw [all_eq_true]
    simp only [decide_eq_true_eq]
    constructor
    · exact fun other => ⟨(nodup_map_append_singleton fresh.paths).mpr fun o m => (other o m).1,
        (nodup_map_append_singleton fresh.units).mpr fun o m => (other o m).2⟩
    · exact fun longer o m => ⟨(nodup_map_append_singleton fresh.paths).mp longer.paths o m,
        (nodup_map_append_singleton fresh.units).mp longer.units o m⟩
  simp only [expectedFile, readFile, bind_eq_ok, require_eq_ok, pure_eq_ok]
  constructor
  · rintro ⟨_, keys, path, valid, result, read, -, other, rfl⟩
    rw [← readExpectedFile_path read] at other
    exact ⟨⟨(), keys, path, valid, read⟩, apart.mp other⟩
  · rintro ⟨⟨_, keys, path, valid, read⟩, longer⟩
    refine ⟨(), keys, path, valid, next, read, (), ?_, rfl⟩
    rw [← readExpectedFile_path read]
    exact apart.mpr longer

theorem collects_files :
    Collects expectedFile (fun file next => readFile file = .ok next) Fresh where
  step_ok _ _ _ fresh := expectedFile_ok fresh
  before _ _ fresh := by
    have paths := fresh.paths
    have units := fresh.units
    rw [map_append] at paths units
    exact ⟨paths.of_append_left, units.of_append_left⟩

theorem expectedFilesFrom_eq : ∀ (items : List Value) (seen : List ExpectedFile),
    expectedFilesFrom seen items = collect expectedFile seen items := by
  intro items
  induction items with
  | nil => intro seen; rfl
  | cons file rest ih =>
    intro seen
    rw [expectedFilesFrom, collect]
    cases expectedFile seen file with
    | error failure => rfl
    | ok next => exact ih _

theorem readFile_written (read : readFile file = .ok next) :
    readFile next.table = .ok next := by
  simp only [readFile, bind_eq_ok] at read
  obtain ⟨_, -, path, located, read⟩ := read
  obtain ⟨-, valid⟩ := relativePath_ok.mp located
  unfold readExpectedFile at read
  split at read
  · simp only [bind_eq_ok, require_eq_ok, pure_eq_ok] at read
    obtain ⟨-, ⟨-, sound⟩, rfl⟩ := read
    simp only [readFile, bind_eq_ok]
    refine ⟨(), rfl, path, relativePath_ok.mpr ⟨rfl, valid⟩, ?_⟩
    show (require _ _ >>= fun _ => pure _) = _
    rw [require_then, if_pos ⟨rfl, sound⟩]
    rfl
  · cases read

instance : Std.Total FileLe :=
  inferInstanceAs (Std.Total
    (Sorted.ByKeys Json.TextLe ExpectedFile.relativePath ExpectedFile.workUnitId))

instance : IsTrans ExpectedFile FileLe :=
  inferInstanceAs (IsTrans ExpectedFile
    (Sorted.ByKeys Json.TextLe ExpectedFile.relativePath ExpectedFile.workUnitId))

theorem normalizeExpectedFiles_written {out : List ExpectedFile}
    (read : normalizeExpectedFiles value = .ok out) :
    normalizeExpectedFiles (.array (out.map ExpectedFile.table)) = .ok out := by
  simp only [normalizeExpectedFiles, bind_eq_ok, pure_eq_ok, expectedFilesFrom_eq,
    collects_files.collect_nil_ok fresh_nil] at read ⊢
  obtain ⟨items, -, files, ⟨reads, fresh⟩, rfl⟩ := read
  have perm := perm_insertionSort FileLe files
  have written := reads.flip.imp fun _ _ given => And.intro (readFile_written given) given
  obtain ⟨each, -⟩ := (forall₂_and_left _ _).mp written
  have present : ∀ item ∈ (files.insertionSort FileLe).map ExpectedFile.table, item ≠ .nil := by
    intro item member
    obtain ⟨file, -, rfl⟩ := mem_map.mp member
    exact Value.noConfusion
  refine ⟨_, denseArray_array present _, files.insertionSort FileLe, ⟨?_, ?_, ?_⟩, ?_⟩
  · rw [forall₂_map_left_iff, forall₂_same]
    exact fun file member => each file (perm.mem_iff.mp member)
  · exact (perm.map _).nodup_iff.mpr fresh.paths
  · exact (perm.map _).nodup_iff.mpr fresh.units
  · exact Sorted.insertionSort_insertionSort files

theorem tables_copied (files : List ExpectedFile) :
    (Value.array (files.map ExpectedFile.table)).deepCopy
      = .array (files.map ExpectedFile.table) := by
  apply deepCopy_array
  intro item member
  obtain ⟨file, -, rfl⟩ := mem_map.mp member
  rw [ExpectedFile.table, deepCopy_record]
  rfl

/-! ## Bounds and scalars written out -/

theorem deepCopy_eq_text {v : Value} {s : String} : v.deepCopy = .text s ↔ v = .text s := by
  cases v <;> simp [Value.deepCopy]

theorem isNonEmptyString_deepCopy (v : Value) :
    v.deepCopy.isNonEmptyString = v.isNonEmptyString := by
  cases v <;> rfl

theorem isPositiveInteger_deepCopy (v : Value) :
    v.deepCopy.isPositiveInteger = v.isPositiveInteger := by
  cases v <;> rfl

theorem isAbove_deepCopy (ceiling : Int) (v : Value) :
    isAbove ceiling v.deepCopy = isAbove ceiling v := by
  cases v <;> rfl

theorem normalizeInventoryBounds_written {given : Value}
    (read : normalizeInventoryBounds given = .ok bounds) :
    isPlainTable bounds = true ∧ bounds.deepCopy = bounds
      ∧ normalizeInventoryBounds bounds = .ok bounds := by
  simp only [normalizeInventoryBounds, bind_eq_ok, require_eq_ok, pure_eq_ok] at read
  obtain ⟨_, keys, _, protocol, _, positive, _, within, rfl⟩ := read
  have exact : exactKeys _ _ _ _ = .ok () := keys
  have copied := Body.exactKeys_deepCopy exact
  obtain ⟨table, plain, -, -⟩ := exactKeys_iff.mp copied
  have given : (given.orElse defaultInventoryBounds).deepCopy.orElse defaultInventoryBounds
      = (given.orElse defaultInventoryBounds).deepCopy := by
    cases kept : (given.orElse defaultInventoryBounds).deepCopy with
    | table tag entries => rfl
    | _ => rw [kept] at table; cases table
  refine ⟨by simp [isPlainTable, table, plain], deepCopy_deepCopy _, ?_⟩
  simp only [normalizeInventoryBounds, given, bind_eq_ok, require_eq_ok, pure_eq_ok, get_deepCopy,
    deepCopy_eq_text, isPositiveInteger_deepCopy, isAbove_deepCopy, deepCopy_deepCopy]
  exact ⟨(), copied, (), protocol, (), positive, (), within, trivial⟩

theorem requireRequestFields_copied {v w : Value}
    (same : ∀ name, name ∉ ["request_id", "expected_files", "expected_directories",
      "inventory_bounds", "source_refs"] → w.get name = (v.get name).deepCopy) :
    requireRequestFields w = requireRequestFields v := by
  simp (disch := decide) only [requireRequestFields, forM_eq_forM, forM_cons,
    forM_nil, same, deepCopy_eq_text, isNonEmptyString_deepCopy, isPositiveInteger_deepCopy]

/-! ## The seed of a request -/

/-- The fields that `normalize_request` writes, but for the id. -/
def rewritten : List String :=
  ["expected_files", "expected_directories", "inventory_bounds", "source_refs"]

/-- What `normalize_request` makes the id of. -/
structure Sown (value : Value) (files : List ExpectedFile) (directories : List Bytes)
    (bounds : Value) (refs : List Bytes) (seed : Value) : Prop where
  table : seed.isTable = true
  copied : seed.deepCopy = seed
  anonymous : .text "request_id" ∉ seed.keys
  keys : ∀ key ∈ seed.keys, key ∈ value.deepCopy.keys ∨ ∃ name ∈ rewritten, key = .text name
  files : seed.get "expected_files" = .array (files.map ExpectedFile.table)
  directories : seed.get "expected_directories" = textArray directories
  bounds : seed.get "inventory_bounds" = bounds
  refs : seed.get "source_refs" = textArray refs
  others : ∀ name, name ∉ "request_id" :: rewritten → seed.get name = (value.get name).deepCopy

theorem requestSeed_sown {seed : Value} {files : List ExpectedFile} {directories refs : List Bytes}
    (once : value.deepCopy.keys.Nodup) (bounded : isPlainTable bounds = true)
    (boundsCopied : bounds.deepCopy = bounds)
    (made : requestSeed value files directories bounds refs = .ok seed) :
    Sown value files directories bounds refs seed := by
  have present : bounds ≠ .nil := by
    rintro rfl
    cases bounded
  simp only [requestSeed, bind_eq_ok] at made
  obtain ⟨bare, removed, one, first, two, second, three, third, fourth⟩ := made
  have absent := absent_of_setField_nil once removed
  have inBare : ∀ key ∈ seed.keys, key ∈ bare.keys ∨ ∃ name ∈ rewritten, key = .text name := by
    intro key member
    rcases mem_keys_of_setField fourth member with rfl | member
    · exact .inr ⟨"source_refs", by decide, rfl⟩
    rcases mem_keys_of_setField third member with rfl | member
    · exact .inr ⟨"inventory_bounds", by decide, rfl⟩
    rcases mem_keys_of_setField second member with rfl | member
    · exact .inr ⟨"expected_directories", by decide, rfl⟩
    rcases mem_keys_of_setField first member with rfl | member
    · exact .inr ⟨"expected_files", by decide, rfl⟩
    · exact .inl member
  constructor
  · exact isTable_of_setField fourth
  · have bareCopied := deepCopy_of_setField (deepCopy_deepCopy value) rfl removed
    have oneCopied := deepCopy_of_setField bareCopied (tables_copied files) first
    have twoCopied := deepCopy_of_setField oneCopied (Body.deepCopy_textArray _) second
    have threeCopied := deepCopy_of_setField twoCopied boundsCopied third
    exact deepCopy_of_setField threeCopied (Body.deepCopy_textArray _) fourth
  · intro member
    rcases inBare _ member with here | ⟨name, written, same⟩
    · exact absent here
    · rw [Value.str.injEq, utf8_inj] at same
      rw [← same] at written
      exact absurd written (by decide)
  · intro key member
    rcases inBare key member with here | written
    · refine .inl ((mem_keys_of_setField removed here).resolve_left ?_)
      rintro rfl
      exact absent here
    · exact .inr written
  · rw [get_of_setField_other (by decide) fourth, get_of_setField_other (by decide) third,
      get_of_setField_other (by decide) second, get_of_setField Value.noConfusion first]
  · rw [get_of_setField_other (by decide) fourth, get_of_setField_other (by decide) third,
      get_of_setField Value.noConfusion second]
  · rw [get_of_setField_other (by decide) fourth, get_of_setField present third]
  · exact get_of_setField Value.noConfusion fourth
  · intro name outside
    simp only [rewritten, mem_cons, not_mem_nil, or_false, not_or] at outside
    obtain ⟨id, files, directories, bounds, refs⟩ := outside
    rw [get_of_setField_other (Ne.symm refs) fourth, get_of_setField_other (Ne.symm bounds) third,
      get_of_setField_other (Ne.symm directories) second,
      get_of_setField_other (Ne.symm files) first, get_of_setField_other (Ne.symm id) removed,
      get_deepCopy]

/-! ## Requests in normal form -/

structure Settled (request : Request) : Prop where
  copied : request.table.deepCopy = request.table
  normalized : normalizeRequest request.table true = .ok request
  registered : Registry.validateCandidateSealRequest request.table = .ok request.requestId

theorem requireTexts_ok {keys : List String} {label : String}
    (named : ∀ key ∈ keys, (value.get key).isNonEmptyString = true) :
    requireTexts value keys label = .ok () := by
  refine forM_ok keys fun key member => ?_
  have text := named key member
  cases read : value.get key with
  | str s =>
    rw [read] at text
    cases s with
    | nil => cases text
    | cons b rest => rfl
  | _ => rw [read] at text; cases text

theorem requirePositive_ok {keys : List String} {label : String}
    (positive : ∀ key ∈ keys, (value.get key).isPositiveInteger = true) :
    requirePositive value keys label = .ok () := by
  refine forM_ok keys fun key member => ?_
  have number := positive key member
  cases read : value.get key with
  | num n =>
    rw [read] at number
    simp only [Value.isPositiveInteger, Bool.and_eq_true, Bool.not_eq_true'] at number
    simp [positiveInteger, integerFrom, number]
  | _ => rw [read] at number; cases number

theorem validateCandidateSealRequest_ok {table seed : Value} {id : Bytes}
    (keys : exactKeys table requestKeys requestRequired "candidate seal request" = .ok ())
    (fields : requireRequestFields table = .ok ()) (identified : table.get "request_id" = .str id)
    (filed : isPlainTable (table.get "expected_files") = true)
    (bounded : isPlainTable (table.get "inventory_bounds") = true)
    (within : normalizeInventoryBounds (table.get "inventory_bounds") = .ok bounds)
    (directories : ∀ name, strictStringArray (table.get "expected_directories") name = .ok ())
    (refs : ∀ name, strictStringArray (table.get "source_refs") name = .ok ())
    (bare : table.deepCopy.setField "request_id" .nil = .ok seed)
    (named : Digest.identify "candidate-seal-request:" seed = .ok id) :
    Registry.validateCandidateSealRequest table = .ok id := by
  obtain ⟨isTable, plain, known, present⟩ := exactKeys_iff.mp keys
  have idNamed : (Value.str id).isNonEmptyString = true := by
    simp only [Digest.identify, bind_eq_ok, pure_eq_ok] at named
    obtain ⟨digest, -, rfl⟩ := named
    rfl
  simp only [requireRequestFields, bind_eq_ok, require_eq_ok] at fields
  obtain ⟨_, ⟨protocol, context, event, content⟩, _, texts, generation, revision, grant⟩ := fields
  have text := mem_of_forM_ok texts
  simp only [require_eq_ok] at text
  have record : validatePlainRecord table Registry.candidateSealRequestKeys
      "candidate seal request" = .ok () := by
    refine exactKeys_iff.mpr ⟨isTable, plain, fun key member => ?_, fun key member => ?_⟩
    · obtain ⟨name, inKeys, rfl⟩ := known key member
      exact ⟨name, (show ∀ name ∈ requestKeys, name ∈ Registry.candidateSealRequestKeys by
        decide) name inKeys, rfl⟩
    · rcases (show ∀ name ∈ Registry.candidateSealRequestKeys,
        name = "request_id" ∨ name ∈ requestRequired by decide) key member with rfl | required
      · rw [identified]
        exact Value.noConfusion
      · exact present key required
  simp only [Registry.validateCandidateSealRequest, bind_eq_ok, require_eq_ok, pure_eq_ok]
  refine ⟨(), record, (), ⟨protocol, event, content⟩, (), requireTexts_ok ?_, (),
    requirePositive_ok ?_, (), ⟨filed, bounded⟩, bounds, within, (), directories _, (), refs _,
    seed, bare, id, named, (), identified, rfl⟩
  · intro key member
    by_cases own : key = "request_id"
    · rw [own, identified]
      exact idNamed
    by_cases framed : key = "context"
    · rw [framed, context]
      rfl
    · refine text key ?_
      simp only [mem_cons, not_mem_nil, or_false, own, framed, false_or] at member ⊢
      exact member
  · simp only [forall_mem_cons, not_mem_nil, IsEmpty.forall_iff, implies_true, and_true]
    exact ⟨generation, revision, grant⟩

theorem normalizeRequest_settled {requireIdentity : Bool} {request : Request}
    (once : value.keys.Nodup) (normal : normalizeRequest value requireIdentity = .ok request) :
    Settled request := by
  simp only [normalizeRequest, bind_eq_ok, require_eq_ok, pure_eq_ok] at normal
  obtain ⟨_, keys, _, fields, files, filed, directories, listed, refs, cited, bounds, bounded, seed,
    made, id, named, table, tabled, _, -, rfl⟩ := normal
  obtain ⟨-, -, known, required⟩ := exactKeys_iff.mp keys
  obtain ⟨boundsPlain, boundsCopied, boundsAgain⟩ := normalizeInventoryBounds_written bounded
  have texted : value.deepCopy.keys = value.keys := by
    rw [keys_deepCopy]
    refine (map_congr_left fun key member => ?_).trans (map_id _)
    obtain ⟨name, -, rfl⟩ := known key member
    rfl
  have sown := requestSeed_sown (texted.symm ▸ once) boundsPlain boundsCopied made
  have copied := deepCopy_of_setField sown.copied rfl tabled
  have isTable := isTable_of_setField tabled
  have kept : ∀ name, name ≠ "request_id" → table.get name = seed.get name :=
    fun name other => get_of_setField_other (Ne.symm other) tabled
  have identified : table.get "request_id" = .str id :=
    get_of_setField Value.noConfusion tabled
  have tableFiles := (kept "expected_files" (by decide)).trans sown.files
  have tableDirectories := (kept "expected_directories" (by decide)).trans sown.directories
  have tableBounds := (kept "inventory_bounds" (by decide)).trans sown.bounds
  have tableRefs := (kept "source_refs" (by decide)).trans sown.refs
  have others : ∀ name, name ∉ "request_id" :: rewritten →
      table.get name = (value.get name).deepCopy := by
    intro name outside
    rw [kept name fun own => outside (own ▸ mem_cons_self), sown.others name outside]
  have tableKeys : exactKeys table requestKeys requestRequired "candidate seal request" = .ok () := by
    refine exactKeys_iff.mpr ⟨isTable, ?_, fun key member => ?_, fun key member => ?_⟩
    · rw [← copied]
      cases table <;> first | rfl | cases isTable
    · rcases mem_keys_of_setField tabled member with rfl | inSeed
      · exact ⟨"request_id", by decide, rfl⟩
      · rcases sown.keys key inSeed with inValue | ⟨name, written, rfl⟩
        · exact known key (texted ▸ inValue)
        · exact ⟨name, (show ∀ name ∈ rewritten, name ∈ requestKeys by decide) name written, rfl⟩
    · by_cases outside : key ∈ "request_id" :: rewritten
      · simp only [rewritten, mem_cons, not_mem_nil, or_false] at outside
        rcases outside with rfl | rfl | rfl | rfl | rfl
        · exact absurd member (by decide)
        · rw [tableFiles]
          exact Value.noConfusion
        · rw [tableDirectories]
          exact Value.noConfusion
        · rw [tableBounds]
          rintro rfl
          cases boundsPlain
        · rw [tableRefs]
          exact Value.noConfusion
      · rw [others key outside]
        exact deepCopy_ne_nil (required key member)
  have tableFields := (requireRequestFields_copied others).trans fields
  have bare := setField_back sown.anonymous Value.noConfusion tabled
  have again : requestSeed table files directories bounds refs = .ok seed := by
    simp only [requestSeed, bind_eq_ok, copied]
    have present : bounds ≠ .nil := by
      rintro rfl
      cases boundsPlain
    exact ⟨seed, bare, seed, setField_same sown.table Value.noConfusion sown.files, seed,
      setField_same sown.table Value.noConfusion sown.directories, seed,
      setField_same sown.table present sown.bounds,
      setField_same sown.table Value.noConfusion sown.refs⟩
  refine ⟨copied, ?_, ?_⟩
  · simp only [normalizeRequest, bind_eq_ok, require_eq_ok, pure_eq_ok, tableFiles,
      tableDirectories, tableRefs, tableBounds]
    exact ⟨(), tableKeys, (), tableFields, files, normalizeExpectedFiles_written filed, directories,
      normalizeStringArray_written listed _, refs, normalizeStringArray_written cited _, bounds,
      boundsAgain, seed, again, id, named, table, tabled, (), .inr identified, rfl⟩
  · refine validateCandidateSealRequest_ok tableKeys tableFields identified ?_ ?_
      (tableBounds ▸ boundsAgain) ?_ ?_ (copied.symm ▸ bare) named
    · rw [tableFiles]
      rfl
    · rw [tableBounds]
      exact boundsPlain
    · rw [tableDirectories]
      exact strictStringArray_written listed
    · rw [tableRefs]
      exact strictStringArray_written cited

theorem nodup_keys_record {entries : List (String × Value)}
    (distinct : (entries.map Prod.fst).Nodup) : (Value.record entries).keys.Nodup := by
  have inFields : ∀ (name : String) (rest : List (String × Value)),
      .text name ∈ (Value.fields rest).map Prod.fst → name ∈ rest.map Prod.fst := by
    intro name rest member
    obtain ⟨entry, inside, same⟩ := mem_map.mp member
    obtain ⟨field, inRest, rfl⟩ := mem_fields inside
    rw [Value.str.injEq, utf8_inj] at same
    exact mem_map.mpr ⟨field, inRest, same⟩
  show ((Value.fields entries).map Prod.fst).Nodup
  induction entries with
  | nil => exact nodup_nil
  | cons entry rest ih =>
    obtain ⟨name, value⟩ := entry
    rw [map_cons, nodup_cons] at distinct
    rw [Value.fields]
    split
    · exact ih distinct.2
    · rw [map_cons, nodup_cons]
      exact ⟨fun member => distinct.1 (inFields name rest member), ih distinct.2⟩

theorem prepare_settled {sources : Sources} {inst services options out : Value}
    (prepared : prepare sources inst services options = .ok out) :
    ∃ request, out = request.table ∧ Settled request := by
  simp only [prepare, bind_eq_ok, require_eq_ok, pure_eq_ok] at prepared
  obtain ⟨_, -, bounds, -, evidence, -, _, -, grant, -, lifecycle, -, _, -, refs, -, request, normal,
    rfl⟩ := prepared
  have settled := normalizeRequest_settled (nodup_keys_record (by simp [preparedFields])) normal
  exact ⟨request, settled.copied, settled⟩

/-! ## Identities -/

open ArtifactSet (Contract Named CurrentSet Reordered)

/-- The name of a contract is one for every order of its artifacts and references, and holds all
of its normal form but how its numbers are represented, which is what `same` compares; contracts
that are validated or derived are their own normal forms, and so are requests, for the seal and for
the registry. -/
theorem sealing_identities :
    (∀ (v w : Value) (id : Bytes), Reordered v w →
      (ArtifactSet.identify v = .ok id ↔ ArtifactSet.identify w = .ok id))
    ∧ (∀ value out : Value, ArtifactSet.validate value = .ok out → ArtifactSet.validate out = .ok out)
    ∧ (∀ (currentSet : CurrentSet) (inst out : Value),
      ArtifactSet.derive currentSet inst = .ok out → ArtifactSet.validate out = .ok out)
    ∧ (∀ (v w : Value) (a b : Named), ArtifactSet.CollisionFree a.contract b.contract →
      ArtifactSet.normalizeContract v true = .ok a → ArtifactSet.normalizeContract w true = .ok b →
      (a.artifactSetId = b.artifactSetId ↔ a.contract.Alike b.contract))
    ∧ (∀ (v w : Value) (a b : Named),
      ArtifactSet.normalizeContract v true = .ok a → ArtifactSet.normalizeContract w true = .ok b →
      (ArtifactSet.same v w = .ok true ↔ a.contract.Alike b.contract))
    ∧ (∀ (value : Value) (requireIdentity : Bool) (request : Request), value.keys.Nodup →
      normalizeRequest value requireIdentity = .ok request → Settled request)
    ∧ ∀ (sources : Sources) (inst services options out : Value),
      prepare sources inst services options = .ok out →
        ∃ request, out = request.table ∧ Settled request := by
  refine ⟨fun v w id reordered => identify_reordered reordered id,
    fun value out => validate_stable, fun _ _ _ => derive_validates, ?_,
    fun v w a b => same_iff, fun _ _ _ => normalizeRequest_settled, fun _ _ _ _ _ => prepare_settled⟩
  intro v w a b apart one two
  obtain ⟨-, -, -, -, -, first, -⟩ := normalizeContract_ok.mp one
  obtain ⟨-, -, -, -, -, second, -⟩ := normalizeContract_ok.mp two
  exact identify_eq_iff apart first second

def sampleUnit (id path : String) : Value :=
  .record [
    ("id", .text id),
    ("version", .nat 1),
    ("carrier", .record [
      ("kind", .text "repository.create_text_file.v0"),
      ("value", .record [("path", .text path)])])]

def birthFields : List (String × Value) := [
  ("lineage_id", .text "lineage"),
  ("generation", .nat 1),
  ("process_contract_id", .text "software.create.v0"),
  ("stage_id", .text "stage"),
  ("repository_id", .text "repository")]

def samplePacket : Value :=
  .record (birthFields ++ [
    ("id", .text "packet"),
    ("status", .text "running"),
    ("work_context", .text "software_task.v0"),
    ("trace", .array [.record [
      ("id", .text "birth"),
      ("type", .text "birth"),
      ("operator", .text "▽"),
      ("truth_status", .text "runtime_confirmed"),
      ("payload", .record (birthFields ++ [
        ("packet_id", .text "packet"),
        ("work_mode", .text "build"),
        ("context", .text "software_task.v0")]))]]),
    ("regime", .record [("work", .record [("mode", .text "build")])]),
    ("field", .record [("units", .record [
      ("unit:1", sampleUnit "unit:1" "a.lua"),
      ("unit:2", sampleUnit "unit:2" "b.lua")])])])

def sampleBasis (unit : String) : Value :=
  .record [
    ("unit_id", .text unit),
    ("unit_version", .nat 1),
    ("unit_created_event_ref", .text "event"),
    ("provenance_refs", .array [.text "event", .text "birth"])]

def sampleSet : CurrentSet := fun _ _ =>
  .ok (.record [
    ("formation_event_ref", .text "formation"),
    ("units", .array [sampleBasis "unit:2", sampleBasis "unit:1"]),
    ("content_truth_status", .text "mixed")])

def sampleFile : ExpectedFile :=
  ⟨utf8 "a", utf8 "unit", .int 1, .int 0, Digest.sha256 [], utf8 "done", utf8 "seen"⟩

def sampleSources : Sources where
  bodyEvidence inst _ := do
    let declaration ← ArtifactSet.derive sampleSet inst
    pure {
      declaration
      inspection := .record [
        ("inspection_id", .text "inspection"),
        ("source_refs", .array [.text "birth"]),
        ("content_truth_status", .text "mixed")]
      expectedFiles := .array [sampleFile.table]
      expectedDirectories := .array [] }
  resolve _ _ := .ok (.record [("grant_id", .text "grant"), ("revision", .nat 1)])
  candidateLifecycle _ _ := .ok (.record [
    ("state", .text "materializing"),
    ("generation", .nat 1),
    ("lineage_id", .text "lineage"),
    ("repository_id", .text "repository"),
    ("active_grant_count", .nat 1),
    ("active_dispatch_count", .nat 0),
    ("root_authority_id", .text "root"),
    ("lifecycle_id", .text "lifecycle"),
    ("revision", .nat 2),
    ("root_fingerprint", .text "fingerprint")])

def samplePrepared : Except Failure Value :=
  prepare sampleSources samplePacket
    (.record [("repository_capabilities", .emptyTable)]) .nil

theorem sample_formed : (ArtifactSet.derive sampleSet samplePacket).toBool = true
    ∧ samplePrepared.toBool = true := by
  decide +kernel

def floatContract (generation : Number) : Contract where
  packetId := utf8 "packet"
  lineageId := utf8 "lineage"
  generation := generation
  processContract := .softwareCreate
  stageId := utf8 "stage"
  repositoryId := utf8 "repository"
  birthRef := utf8 "birth"
  formationEventRef := utf8 "formation"
  choiceEventRef := none
  contentTruth := .mixed
  artifacts := [⟨utf8 "unit:1", .int 1, utf8 "event:1", utf8 "a.lua", [utf8 "event:1"]⟩]
  sourceRefs := [utf8 "birth"]

def filesContract (reversed : Bool) : Contract :=
  let order {α : Type} (items : List α) : List α := if reversed then items.reverse else items
  let file (name : String) : ArtifactSet.Artifact :=
    ⟨utf8 ("unit:" ++ name), .int 1, utf8 "event", utf8 name, order [utf8 "birth", utf8 "event"]⟩
  { floatContract (.int 1) with
    artifacts := order [file "a.lua", file "b.lua"]
    sourceRefs := order [utf8 "birth", utf8 "set"] }

def turned (reversed : Bool) : Value := .record (filesContract reversed).fields

theorem sameBut_record {names : List String} {left right : List (String × Value)}
    (alike : Forall₂ (fun a b => a.1 = b.1 ∧ (a.2 = .nil ↔ b.2 = .nil)
      ∧ (a.1 ∉ names → a.2 = b.2)) left right) : SameBut names (.record left) (.record right) := by
  have both : (Value.fields left).map Prod.fst = (Value.fields right).map Prod.fst
      ∧ ∀ name ∉ names,
        lookup (Value.fields left) (text name) = lookup (Value.fields right) (text name) := by
    induction alike with
    | nil => exact ⟨rfl, fun _ _ => rfl⟩
    | @cons a b _ _ first _ ih =>
      obtain ⟨k, v⟩ := a
      obtain ⟨k', w⟩ := b
      obtain ⟨rfl, absent, equal⟩ := first
      simp only at absent equal
      simp only [Value.fields, absent]
      split
      · exact ih
      · refine ⟨by simp [ih.1], fun name other => ?_⟩
        by_cases here : k = name
        · simp [here, equal (here ▸ other)]
        · simp [here, ih.2 name other]
  refine ⟨⟨rfl, rfl⟩, ⟨rfl, rfl⟩, fun key => ?_, both.2⟩
  show key ∈ (Value.fields left).map Prod.fst ↔ _
  rw [both.1]
  rfl

theorem turned_reordered : Reordered (turned true) (turned false) := by
  have tables (items : List ArtifactSet.Artifact) :
      Listed (.array (items.map ArtifactSet.Artifact.table))
        (items.map ArtifactSet.Artifact.table) := by
    apply listed_array
    simp [ArtifactSet.Artifact.table, Value.record]
  have file (a b : ArtifactSet.Artifact) (same : { a with provenanceRefs := b.provenanceRefs } = b)
      (perm : a.provenanceRefs.Perm b.provenanceRefs) :
      ReorderedArtifact a.table b.table := by
    rw [← same]
    constructor
    · apply sameBut_record
      simp [ArtifactSet.Artifact.fields, forall₂_cons, textArray, Value.array]
    · exact ⟨_, _, listed_textArray _, listed_textArray _, _, perm.map _, forall₂_refl _⟩
  constructor
  · apply sameBut_record
    simp [Contract.fields, filesContract, forall₂_cons, textArray, Value.array, protocolVersion]
  · refine ⟨_, _, tables _, tables _, _, Perm.swap _ _ _, ?_⟩
    exact .cons (file _ _ rfl (Perm.swap _ _ _)) (.cons (file _ _ rfl (Perm.swap _ _ _)) .nil)
  · exact ⟨_, _, listed_textArray _, listed_textArray _, _, Perm.swap _ _ _, forall₂_refl _⟩

theorem floats_alike : ∃ a b : Named, a.contract ≠ b.contract ∧ a.contract.Alike b.contract
    ∧ ArtifactSet.normalizeContract a.table true = .ok a
    ∧ ArtifactSet.normalizeContract b.table true = .ok b := by
  let a := floatContract (.float 9007199254740992)
  let b := floatContract (.float 9007199254740994)
  have differ : a ≠ b := by decide +kernel
  have alike : a.Alike b := by decide +kernel
  obtain ⟨one, first⟩ := identify_total a
  obtain ⟨two, second⟩ := identify_total b
  have left : ArtifactSet.normalizeContract (.record a.fields) false = .ok ⟨a, one⟩ :=
    normalizeContract_ok.mpr
      ⟨rfl, rfl, rfl, cons_ne_nil _ _, rfl, first, .inl rfl⟩
  have right : ArtifactSet.normalizeContract (.record b.fields) false = .ok ⟨b, two⟩ :=
    normalizeContract_ok.mpr
      ⟨rfl, rfl, rfl, cons_ne_nil _ _, rfl, second, .inl rfl⟩
  exact ⟨⟨a, one⟩, ⟨b, two⟩, differ, alike, normalizeContract_written left,
    normalizeContract_written right⟩

/-- One id for two orders of a contract, a contract and a request of a Packet's body, and two
contracts that are the same but for a float. -/
theorem sealing_identities_formed : ∃ (id : Bytes) (out : Value) (request : Request) (a b : Named),
    ArtifactSet.identify (turned true) = .ok id ∧ ArtifactSet.identify (turned false) = .ok id
    ∧ ArtifactSet.derive sampleSet samplePacket = .ok out ∧ ArtifactSet.validate out = .ok out
    ∧ samplePrepared = .ok request.table ∧ Settled request
    ∧ a.contract ≠ b.contract ∧ a.artifactSetId = b.artifactSetId
    ∧ ArtifactSet.same a.table b.table = .ok true := by
  obtain ⟨reordered, -, derived, named, same, -, prepared⟩ := sealing_identities
  have formed := sample_formed
  obtain ⟨id, identified⟩ : ∃ id, ArtifactSet.identify (turned false) = .ok id := by
    obtain ⟨id, made⟩ := identify_total (filesContract false)
    have normal : ArtifactSet.normalizeContract (turned false) false = .ok ⟨filesContract false, id⟩ :=
      normalizeContract_ok.mpr ⟨rfl, rfl, rfl, cons_ne_nil _ _, rfl, made, .inl rfl⟩
    exact ⟨id, by rw [ArtifactSet.identify, normal]; rfl⟩
  obtain ⟨a, b, differ, alike, first, second⟩ := floats_alike
  cases formation : ArtifactSet.derive sampleSet samplePacket with
  | error failure =>
    rw [formation] at formed
    cases formed.1
  | ok out =>
    cases preparation : samplePrepared with
    | error failure =>
      rw [preparation] at formed
      cases formed.2
    | ok value =>
      obtain ⟨request, rfl, settled⟩ := prepared _ _ _ _ _ preparation
      exact ⟨id, out, request, a, b, (reordered _ _ id turned_reordered).mpr identified, identified,
        rfl, derived _ _ _ formation, rfl, settled, differ,
        (named _ _ a b (collisionFree_of_alike alike) first second).mpr alike,
        (same _ _ a b first second).mpr alike⟩

/-- Two generations that `tostring` writes alike: the contracts differ, and have one name. -/
theorem generations_share_id : ∃ a b : Named, a.contract ≠ b.contract
    ∧ ArtifactSet.CollisionFree a.contract b.contract
    ∧ ArtifactSet.normalizeContract a.table true = .ok a
    ∧ ArtifactSet.normalizeContract b.table true = .ok b ∧ a.artifactSetId = b.artifactSetId := by
  obtain ⟨a, b, differ, alike, first, second⟩ := floats_alike
  have apart := collisionFree_of_alike alike
  obtain ⟨-, -, -, -, -, named, -⟩ := normalizeContract_ok.mp first
  obtain ⟨-, -, -, -, -, named', -⟩ := normalizeContract_ok.mp second
  exact ⟨a, b, differ, apart, first, second, (identify_eq_iff apart named named').mpr alike⟩

end Proc17.Runtime.Repository.CandidateSeal
