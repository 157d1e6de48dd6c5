import Proc17.Runtime.Repository.SealIdentity

/-!
# What an exact comparison says

`compare_inventory` enters the expected directories after the expected files, so a path
named in both roles is compared as a directory only.  Its answer is exact when the observed
entries are the directories and the files no directory hides.  The seal lists every
expected file as an artifact all the same.
-/

namespace Proc17.Runtime.Repository

open Lua Core List Bool

variable {inventory : Inventory}

namespace Inventory

/-! ## Every path is observed once -/

theorem scanEntry_entries {bounds entry : Value} {scan next : Scan}
    (scanned : scanEntry bounds scan entry = .ok next) :
    ∃ added, next.entries = scan.entries ++ [added] ∧ scan.seen added.relativePath = false := by
  simp only [scanEntry, bind_eq_ok, pure_eq_ok] at scanned
  obtain ⟨-, -, path, named, -, -, -, -, -, -, stable, -, -, -, shape, -, ref, -, rfl⟩ := scanned
  refine ⟨⟨path, shape.1, ref⟩, rfl, ?_⟩
  cases given : entry.get "relative_path" with
  | str text =>
    simp only [given, nextPath, bind_eq_ok, require_eq_ok, pure_eq_ok] at named
    obtain ⟨-, -, -, fresh, rfl⟩ := named
    exact fresh.1
  | _ => simp [given, nextPath, Action.validateRelativePath] at named

theorem scanEntries_nodup {bounds : Value} : ∀ (items : List Value) (scan last : Scan),
    scanEntries bounds scan items = .ok last →
      (scan.entries.map Entry.relativePath).Nodup → (last.entries.map Entry.relativePath).Nodup
    := by
  intro items
  induction items with
  | nil =>
    intro scan last scanned distinct
    cases scanned
    exact distinct
  | cons entry rest ih =>
    intro scan last scanned distinct
    simp only [scanEntries, bind_eq_ok] at scanned
    obtain ⟨next, first, others⟩ := scanned
    obtain ⟨added, grown, fresh⟩ := scanEntry_entries first
    apply ih next last others
    rw [grown]
    apply Dictionary.nodup_append_fresh Entry.relativePath distinct
    intro seen member same
    have unseen := any_eq_false.mp fresh seen member
    simp [same] at unseen

theorem paths_nodup {raw coordinates : Value} {observation : Observation}
    (normalized : normalizeProviderResult raw coordinates = .ok observation)
    (produced : observation.verdict = .observed inventory) :
    (inventory.entries.map Entry.relativePath).Nodup := by
  simp only [normalizeProviderResult, bind_eq_ok, pure_eq_ok] at normalized
  obtain ⟨read, -, -, -, -, -, items, -, stable, -, scan, scanned, -, -, before, -, after, -,
    verdict, judged, rfl⟩ := normalized
  simp only at produced
  subst produced
  have entries : inventory.entries = scan.entries := by
    simp only [verdictOf] at judged
    split at judged
    · cases judged
    · split at judged
      · cases judged
      · simp only [bind_eq_ok, pure_eq_ok, make] at judged
        obtain ⟨made, ⟨digest, -, id, -, rfl⟩, same⟩ := judged
        injection same with same
        rw [← same]
  rw [entries]
  exact scanEntries_nodup items _ scan scanned nodup_nil

end Inventory

namespace CandidateSeal

open Inventory (Shape Entry)

/-! ## Every path is expected as a file once -/

variable {file : ExpectedFile} {path : Bytes} {value : Value} {request : Request}

theorem files_nodup {requireIdentity : Bool}
    (accepted : normalizeRequest value requireIdentity = .ok request) :
    (request.files.map ExpectedFile.relativePath).Nodup := by
  simp only [normalizeRequest, normalizeExpectedFiles, bind_eq_ok, pure_eq_ok,
    expectedFilesFrom_eq, collects_files.collect_nil_ok fresh_nil] at accepted
  obtain ⟨-, -, -, -, files, ⟨items, -, sorted, ⟨-, fresh⟩, rfl⟩, directories, -, refs, -, bounds,
    -, seed, -, id, -, table, -, -, -, rfl⟩ := accepted
  have perm := (perm_insertionSort FileLe sorted).map ExpectedFile.relativePath
  exact perm.nodup_iff.mpr fresh.paths

/-! ## The two tables -/

def unhidden (request : Request) : List ExpectedFile :=
  request.files.filter fun file => !request.directories.contains file.relativePath

theorem mem_unhidden :
    file ∈ unhidden request ↔
      file ∈ request.files ∧ file.relativePath ∉ request.directories := by
  simp [unhidden]

theorem expected_directory (listed : path ∈ request.directories) :
    (expected request).lookup path = some .directory :=
  Dictionary.lookup_fill_of_agree _ _ _ _ ⟨path, listed, rfl⟩ fun _ _ _ => rfl

theorem expected_file (distinct : (request.files.map ExpectedFile.relativePath).Nodup)
    (listed : file ∈ unhidden request) :
    (expected request).lookup file.relativePath = some file.shape := by
  obtain ⟨member, unlisted⟩ := mem_unhidden.mp listed
  have noDirectory : ∀ path ∈ request.directories, id path ≠ file.relativePath := by
    intro path inDirectories same
    exact unlisted (same ▸ inDirectories)
  rw [expected, Dictionary.lookup_fill_of_notMem _ _ _ _ noDirectory]
  apply Dictionary.lookup_fill_of_agree _ _ _ _ ⟨file, member, rfl⟩
  intro other inFiles same
  rw [inj_on_of_nodup_map distinct inFiles member same]

theorem expected_cases {shape : Shape} (found : (expected request).lookup path = some shape) :
    (path ∈ request.directories ∧ shape = .directory) ∨
      ∃ file ∈ unhidden request, file.relativePath = path ∧ file.shape = shape := by
  rcases Dictionary.lookup_fill_cases _ _ _ _ found with ⟨before, absent⟩ | ⟨other, listed, rfl, rfl⟩
  · rcases Dictionary.lookup_fill_cases _ _ _ _ before with ⟨empty, -⟩ | ⟨file, member, rfl, rfl⟩
    · simp at empty
    · refine Or.inr ⟨file, mem_unhidden.mpr ⟨member, ?_⟩, rfl, rfl⟩
      intro listed
      exact absent file.relativePath listed rfl
  · exact Or.inl ⟨listed, rfl⟩

theorem observed_iff (distinct : (inventory.entries.map Entry.relativePath).Nodup) (path : Bytes)
    (entry : Entry) :
    (observed inventory).lookup path = some entry ↔
      entry ∈ inventory.entries ∧ entry.relativePath = path := by
  constructor
  · intro found
    rcases Dictionary.lookup_fill_cases _ _ _ _ found with ⟨empty, -⟩ | ⟨other, member, named, rfl⟩
    · simp at empty
    · exact ⟨member, named⟩
  · rintro ⟨member, rfl⟩
    apply Dictionary.lookup_fill_of_agree _ _ _ _ ⟨entry, member, rfl⟩
    intro other inEntries same
    exact inj_on_of_nodup_map distinct inEntries member same

/-! ## The comparison -/

def Realises (entry : Entry) (file : ExpectedFile) : Prop :=
  entry.relativePath = file.relativePath ∧ ∃ bytes,
    entry.shape = .regularFile bytes file.expectedSha256 ∧
      Number.eq bytes file.expectedBytes = true

def IsDirectory (entry : Entry) (path : Bytes) : Prop :=
  entry.relativePath = path ∧ entry.shape = .directory

structure Matches (files : List ExpectedFile) (directories : List Bytes) (entries : List Entry) :
    Prop where
  eachFile : ∀ file ∈ files, ∃ entry ∈ entries, Realises entry file
  eachDirectory : ∀ path ∈ directories, ∃ entry ∈ entries, IsDirectory entry path
  only : ∀ entry ∈ entries,
    (∃ file ∈ files, Realises entry file) ∨ ∃ path ∈ directories, IsDirectory entry path

theorem mismatchAt_none {observed : Dictionary Bytes Entry} {wanted : Shape} :
    mismatchAt observed path wanted = none ↔ ∃ got, observed.lookup path = some got ∧
      got.shape.kind = wanted.kind ∧ (wanted.kind = "regular_file" →
        got.shape.bytes.eq wanted.bytes = true ∧ got.shape.sha256.eq wanted.sha256 = true) := by
  unfold mismatchAt
  cases observed.lookup path with
  | none => simp
  | some got =>
    by_cases sameKind : got.shape.kind = wanted.kind
    · by_cases file : wanted.kind = "regular_file"
      · simp [sameKind, file]
      · simp [sameKind, file]
    · simp [sameKind]

theorem mismatchAt_directory {observed : Dictionary Bytes Entry} :
    mismatchAt observed path .directory = none ↔
      ∃ got, observed.lookup path = some got ∧ got.shape = .directory := by
  rw [mismatchAt_none]
  constructor
  · rintro ⟨got, found, kind, -⟩
    refine ⟨got, found, ?_⟩
    cases shape : got.shape <;> simp [shape, Shape.kind] at kind ⊢
  · rintro ⟨got, found, shape⟩
    exact ⟨got, found, by rw [shape], by simp [Shape.kind]⟩

theorem mismatchAt_file {observed : Dictionary Bytes Entry} :
    mismatchAt observed path file.shape = none ↔
      ∃ got, observed.lookup path = some got ∧ ∃ bytes,
        got.shape = .regularFile bytes file.expectedSha256 ∧
          Number.eq bytes file.expectedBytes = true := by
  rw [mismatchAt_none]
  constructor
  · rintro ⟨got, found, kind, content⟩
    refine ⟨got, found, ?_⟩
    cases shape : got.shape with
    | regularFile bytes sha256 =>
      have equal := content rfl
      simp only [shape, ExpectedFile.shape, Shape.bytes, Shape.sha256, Value.eq,
        beq_iff_eq] at equal
      exact ⟨bytes, by rw [equal.2], equal.1⟩
    | _ => simp [shape, ExpectedFile.shape, Shape.kind] at kind
  · rintro ⟨got, found, bytes, shape, equal⟩
    refine ⟨got, found, by rw [shape]; rfl, ?_⟩
    intro _
    simp [shape, ExpectedFile.shape, Shape.bytes, Shape.sha256, Value.eq, equal]

theorem exact_iff (request : Request) (inventory : Inventory) :
    (compareInventory request inventory).1 = true ↔
      (∀ path wanted, (expected request).lookup path = some wanted →
        mismatchAt (observed inventory) path wanted = none) ∧
      ∀ path entry, (observed inventory).lookup path = some entry →
        ∃ wanted, (expected request).lookup path = some wanted := by
  have sorted : ∀ texts : List Bytes, texts.insertionSort Json.TextLe = [] ↔ texts = [] := by
    intro texts
    rw [← length_eq_zero_iff, length_insertionSort, length_eq_zero_iff]
  simp only [compareInventory, List.isEmpty_iff, mismatches]
  rw [sorted, List.append_eq_nil_iff, List.filterMap_eq_nil_iff, List.map_eq_nil_iff,
    filter_eq_nil_iff]
  apply and_congr
  · constructor
    · intro none path wanted found
      exact none ⟨path, wanted⟩ ((Dictionary.mem_entries_iff _ _ _).mpr found)
    · intro none entry member
      exact none entry.1 entry.2 ((Dictionary.mem_entries_iff _ _ _).mp member)
  · constructor
    · intro within path entry found
      have key : path ∈ (observed inventory).keys := by
        rw [← AList.mem_keys, ← AList.lookup_isSome, found]
        rfl
      have wanted := within path key
      rw [not_eq_true', not_eq_false, contains_iff_mem, ← AList.mem_keys,
        ← AList.lookup_isSome, Option.isSome_iff_exists] at wanted
      exact wanted
    · intro within path key
      rw [← AList.mem_keys, ← AList.lookup_isSome, Option.isSome_iff_exists] at key
      obtain ⟨entry, found⟩ := key
      rw [not_eq_true', not_eq_false, contains_iff_mem, ← AList.mem_keys,
        ← AList.lookup_isSome, Option.isSome_iff_exists]
      exact within path entry found

theorem exact_iff_matches (files : (request.files.map ExpectedFile.relativePath).Nodup)
    (entries : (inventory.entries.map Entry.relativePath).Nodup) :
    (compareInventory request inventory).1 = true ↔
      Matches (unhidden request) request.directories inventory.entries := by
  rw [exact_iff]
  constructor
  · rintro ⟨none, within⟩
    have fileAt : ∀ file ∈ unhidden request, ∃ entry ∈ inventory.entries, Realises entry file := by
      intro file listed
      obtain ⟨got, found, content⟩ := mismatchAt_file.mp (none _ _ (expected_file files listed))
      obtain ⟨member, named⟩ := (observed_iff entries _ _).mp found
      exact ⟨got, member, named, content⟩
    have directoryAt : ∀ path ∈ request.directories,
        ∃ entry ∈ inventory.entries, IsDirectory entry path := by
      intro path listed
      obtain ⟨got, found, shape⟩ := mismatchAt_directory.mp (none _ _ (expected_directory listed))
      obtain ⟨member, named⟩ := (observed_iff entries _ _).mp found
      exact ⟨got, member, named, shape⟩
    refine ⟨fileAt, directoryAt, ?_⟩
    intro entry member
    have here : (observed inventory).lookup entry.relativePath = some entry :=
      (observed_iff entries _ _).mpr ⟨member, rfl⟩
    obtain ⟨wanted, found⟩ := within _ _ here
    rcases expected_cases found with ⟨listed, -⟩ | ⟨file, listed, named, -⟩
    · obtain ⟨other, inEntries, named, shape⟩ := directoryAt _ listed
      have same := inj_on_of_nodup_map entries inEntries member named
      exact Or.inr ⟨entry.relativePath, listed, rfl, same ▸ shape⟩
    · obtain ⟨other, inEntries, realised⟩ := fileAt file listed
      have same := inj_on_of_nodup_map entries inEntries member
        (realised.1.trans named)
      exact Or.inl ⟨file, listed, same ▸ realised⟩
  · intro all
    constructor
    · intro path wanted found
      rcases expected_cases found with ⟨listed, rfl⟩ | ⟨file, listed, named, rfl⟩
      · obtain ⟨entry, member, here, shape⟩ := all.eachDirectory path listed
        exact mismatchAt_directory.mpr ⟨entry, (observed_iff entries _ _).mpr ⟨member, here⟩, shape⟩
      · obtain ⟨entry, member, here, content⟩ := all.eachFile file listed
        refine mismatchAt_file.mpr ⟨entry, (observed_iff entries _ _).mpr ⟨member, ?_⟩, content⟩
        rw [here, named]
    · intro path entry found
      obtain ⟨member, rfl⟩ := (observed_iff entries _ _).mp found
      rcases all.only entry member with ⟨file, listed, realised⟩ | ⟨path, listed, isDirectory⟩
      · exact ⟨_, realised.1 ▸ expected_file files listed⟩
      · exact ⟨_, isDirectory.1 ▸ expected_directory listed⟩

/-! ## Paths in both roles -/

/-- A path that is both an expected file and an expected directory. -/
def Hidden (request : Request) : Prop :=
  ∃ file ∈ request.files, file.relativePath ∈ request.directories

theorem unhidden_eq_files (none : ¬ Hidden request) :
    unhidden request = request.files := by
  apply filter_eq_self.mpr
  intro file member
  rw [not_eq_true', ← not_eq_true, contains_iff_mem]
  exact fun listed => none ⟨file, member, listed⟩

theorem not_matches_of_hidden {entries : List Entry}
    (distinct : (entries.map Entry.relativePath).Nodup) (hidden : Hidden request) :
    ¬ Matches request.files request.directories entries := by
  intro all
  obtain ⟨file, member, listed⟩ := hidden
  obtain ⟨asFile, inEntries, named, bytes, shape, -⟩ := all.eachFile file member
  obtain ⟨asDirectory, alsoIn, path, other⟩ := all.eachDirectory _ listed
  have same := inj_on_of_nodup_map distinct inEntries alsoIn (named.trans path.symm)
  rw [same, other] at shape
  cases shape

/-- The artifact is an observed regular file with its bytes and digest. -/
def Observed (entries : List Entry) (artifact : Artifact) : Prop :=
  ∃ entry ∈ entries, entry.relativePath = artifact.relativePath ∧ ∃ bytes,
    entry.shape = .regularFile bytes artifact.sha256 ∧ Number.eq bytes artifact.bytes = true

/-- The comparison answers exact for the expected tree only, and every artifact of a seal made
after an exact answer was observed. -/
structure SealsExactly (request : Request) (inventory : Inventory) : Prop where
  exact : (compareInventory request inventory).1 = true ↔
    Matches request.files request.directories inventory.entries
  artifacts : (compareInventory request inventory).1 = true →
    ∀ (closureId : Bytes) (made : Seal), sealFrom request inventory closureId = .ok made →
      ∀ artifact ∈ made.artifacts, Observed inventory.entries artifact

theorem sealFrom_artifacts {closureId : Bytes} {made : Seal}
    (sealed : sealFrom request inventory closureId = .ok made) :
    made.artifacts = request.files.map ExpectedFile.artifact := by
  simp only [sealFrom, bind_eq_ok, pure_eq_ok] at sealed
  obtain ⟨id, -, rfl⟩ := sealed
  rfl

theorem artifacts_observed {closureId : Bytes} {made : Seal}
    (all : Matches request.files request.directories inventory.entries)
    (sealed : sealFrom request inventory closureId = .ok made) :
    ∀ artifact ∈ made.artifacts, Observed inventory.entries artifact := by
  intro artifact member
  rw [sealFrom_artifacts sealed] at member
  obtain ⟨file, listed, rfl⟩ := mem_map.mp member
  exact all.eachFile file listed

theorem comparison_exact_iff {value raw coordinates : Value} {requireIdentity : Bool}
    {request : Request} {observation : Inventory.Observation} {inventory : Inventory}
    (accepted : normalizeRequest value requireIdentity = .ok request)
    (normalized : Inventory.normalizeProviderResult raw coordinates = .ok observation)
    (produced : observation.verdict = .observed inventory) :
    SealsExactly request inventory ↔ ¬ (Hidden request ∧
      Matches (unhidden request) request.directories inventory.entries) := by
  have entries := Inventory.paths_nodup normalized produced
  have compared := exact_iff_matches (files_nodup accepted) entries
  constructor
  · rintro ⟨exact, -⟩ ⟨hidden, all⟩
    exact not_matches_of_hidden entries hidden (exact.mp (compared.mpr all))
  · intro clear
    by_cases hidden : Hidden request
    · have inexact : ¬ (compareInventory request inventory).1 = true :=
        fun answer => clear ⟨hidden, compared.mp answer⟩
      refine ⟨⟨fun answer => absurd answer inexact, ?_⟩, fun answer => absurd answer inexact⟩
      intro all
      exact absurd all (not_matches_of_hidden entries hidden)
    · rw [unhidden_eq_files hidden] at compared
      refine ⟨compared, ?_⟩
      intro answer closureId made sealed
      exact artifacts_observed (compared.mp answer) sealed

/-! ## A path in both roles -/

def sampleSealRequest : Value :=
  .record [
    ("protocol_version", .text "repository.candidate_seal_request.v0"),
    ("packet_id", .text "packet"),
    ("lineage_id", .text "lineage"),
    ("generation", .nat 1),
    ("process_contract_id", .text "contract"),
    ("context", .text "software_task.v0"),
    ("stage_id", .text "stage"),
    ("repository_id", .text "repository"),
    ("root_authority_id", .text "root"),
    ("lifecycle_id", .text "lifecycle"),
    ("lifecycle_revision", .nat 1),
    ("root_fingerprint", .text "fingerprint"),
    ("grant_id", .text "grant"),
    ("grant_revision", .nat 1),
    ("artifact_set_id", .text "set"),
    ("artifact_set_inspection_id", .text "inspection"),
    ("expected_files", .array [sampleFile.table]),
    ("expected_directories", .array [.text "a"]),
    ("inventory_bounds", defaultInventoryBounds),
    ("source_refs", .array [.text "set"]),
    ("event_truth_status", .text "runtime_confirmed"),
    ("content_truth_status", .text "mixed")]

def sampleIdentity (inode : Nat) : Value :=
  .record [("device", .nat 1), ("inode", .nat inode)]

def sampleTree : Value :=
  .record [
    ("protocol_version", .text "repository.provider_inventory_result.v0"),
    ("operation", .text "inventory_tree"),
    ("outcome", .text "observed"),
    ("root_before", sampleIdentity 2),
    ("root_after", sampleIdentity 2),
    ("stable", .bool true),
    ("entries", .array [.record [
      ("relative_path", .text "a"),
      ("kind", .text "directory"),
      ("identity_before", sampleIdentity 3),
      ("identity_after", sampleIdentity 3)]]),
    ("bounds_observed", .record [
      ("max_entries", .nat 256), ("max_depth", .nat 64), ("max_path_bytes", .nat 1024),
      ("max_component_bytes", .nat 255), ("max_file_bytes", .nat 1048576),
      ("max_total_bytes", .nat 8388608), ("observed_entries", .nat 1),
      ("observed_total_bytes", .nat 0)]),
    ("mutation_primitive_entered", .bool false),
    ("published", .bool false),
    ("cost", .record [("tool_calls", .nat 1), ("file_writes", .nat 0), ("time_ms", .nat 0)])]

def sampleCoordinates : Value :=
  .record [
    ("request_id", .text "request"),
    ("root_fingerprint", .text "fingerprint"),
    ("inventory_bounds", defaultInventoryBounds),
    ("root_continuity", .text "proven")]

set_option maxRecDepth 4000 in
theorem sample_sealed : ∃ request observation inventory made,
    normalizeRequest sampleSealRequest false = .ok request ∧
      Inventory.normalizeProviderResult sampleTree sampleCoordinates = .ok observation ∧
      observation.verdict = .observed inventory ∧
      sealFrom request inventory (utf8 "closure") = .ok made ∧
      request.files = [sampleFile] ∧ request.directories = [utf8 "a"] ∧
      inventory.entries.map (fun entry => (entry.relativePath, entry.shape)) =
        [(utf8 "a", .directory)] :=
  ⟨_, _, _, _, rfl, rfl, rfl, rfl, rfl, rfl, rfl⟩

theorem comparison_exact_iff_hidden : ∃ request observation inventory,
    normalizeRequest sampleSealRequest false = .ok request ∧
      Inventory.normalizeProviderResult sampleTree sampleCoordinates = .ok observation ∧
      observation.verdict = .observed inventory ∧
      (SealsExactly request inventory ↔ ¬ (Hidden request ∧
        Matches (unhidden request) request.directories inventory.entries)) := by
  obtain ⟨request, observation, inventory, -, accepted, normalized, produced, -⟩ := sample_sealed
  exact ⟨request, observation, inventory, accepted, normalized, produced,
    comparison_exact_iff accepted normalized produced⟩

/-- The file is sealed as an artifact although only a directory stands at its path. -/
theorem directory_sealed_as_file : ∃ request observation inventory made,
    normalizeRequest sampleSealRequest false = .ok request ∧
      Inventory.normalizeProviderResult sampleTree sampleCoordinates = .ok observation ∧
      observation.verdict = .observed inventory ∧
      sealFrom request inventory (utf8 "closure") = .ok made ∧
      (compareInventory request inventory).1 = true ∧
      ¬ Matches request.files request.directories inventory.entries ∧
      ∃ artifact ∈ made.artifacts, ¬ Observed inventory.entries artifact := by
  obtain ⟨request, observation, inventory, made, accepted, normalized, produced, sealed, files,
    directories, shapes⟩ := sample_sealed
  have only : ∀ entry ∈ inventory.entries,
      entry.relativePath = utf8 "a" ∧ entry.shape = .directory := by
    intro entry member
    have shape := mem_map_of_mem (f := fun entry => (entry.relativePath, entry.shape)) member
    rw [shapes, mem_singleton, Prod.mk.injEq] at shape
    exact shape
  obtain ⟨entry, member⟩ : ∃ entry, entry ∈ inventory.entries := by
    apply exists_mem_of_ne_nil
    intro none
    rw [none] at shapes
    cases shapes
  have hidden : Hidden request :=
    ⟨sampleFile, by simp [files], by simp [directories, sampleFile]⟩
  have noFile : unhidden request = [] := by
    simp [unhidden, files, directories, sampleFile]
  have paths := Inventory.paths_nodup normalized produced
  refine ⟨request, observation, inventory, made, accepted, normalized, produced, sealed, ?_,
    not_matches_of_hidden paths hidden, sampleFile.artifact, ?_, ?_⟩
  · rw [exact_iff_matches (files_nodup accepted) paths, noFile]
    refine ⟨by simp, ?_, fun entry member => Or.inr ⟨utf8 "a", by simp [directories], only entry member⟩⟩
    intro path listed
    rw [directories, mem_singleton] at listed
    exact ⟨entry, member, listed ▸ only entry member⟩
  · simp [sealFrom_artifacts sealed, files]
  · rintro ⟨entry, member, -, bytes, shape, -⟩
    rw [(only entry member).2] at shape
    cases shape

end CandidateSeal

end Proc17.Runtime.Repository
