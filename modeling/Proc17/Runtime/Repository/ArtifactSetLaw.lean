import Mathlib.Data.List.Perm.Basic
import Proc17.Core.JsonArray
import Proc17.Runtime.Repository.ArtifactSet
import Proc17.Runtime.Repository.Records

/-!
# Normal forms of artifact sets

What `normalize_contract` reads of a table, that the order of its artifacts and references
is not among it, and that a normal form is its own normal form.
-/

namespace Proc17.Runtime.Repository

open Lua Core List Value
open Layout

/-! ## Arrays -/

/-- A plain table with these items under their indices and nothing else. -/
structure Listed (value : Value) (items : List Value) : Prop where
  table : value.isTable = true
  plain : value.hasMetatable = false
  walked : value.ipairs = .ok items
  keys : value.keys.all (indexKey items.length) = true

variable {items : List Value} {value v w : Value} {name : String}

theorem listed_array (present : ∀ item ∈ items, item ≠ .nil) :
    Listed (.array items) items := by
  refine ⟨rfl, rfl, ipairs_array present, ?_⟩
  rw [all_eq_true]
  intro key member
  simp only [Value.array, Value.keys, map_map, mem_map] at member
  obtain ⟨⟨v, i⟩, inItems, rfl⟩ := member
  have inside := (mem_zipIdx inItems).2.1
  have below : ¬ ((i + 1 : Nat) : Int) < 1 := by omega
  have above : ¬ (items.length : Int) < ((i + 1 : Nat) : Int) := by omega
  have whole : Number.isIntegral (.int (i + 1 : Nat)) = true := beq_self_eq_true _
  simp only [Function.comp_apply, Value.nat, indexKey, Number.lt, decide_eq_false below,
    decide_eq_false above, whole]
  rfl

theorem texts_present (texts : List Bytes) : ∀ item ∈ texts.map Value.str, item ≠ .nil := by
  intro item member
  obtain ⟨text, -, rfl⟩ := mem_map.mp member
  exact Value.noConfusion

theorem listed_textArray (texts : List Bytes) : Listed (textArray texts) (texts.map .str) :=
  listed_array (texts_present texts)

theorem Listed.items_unique {left right : List Value} (one : Listed value left)
    (two : Listed value right) : left = right :=
  Except.ok.inj (one.walked.symm.trans two.walked)

/-- Two arrays whose items are related one to one, in some order. -/
def Shuffled (R : Value → Value → Prop) (v w : Value) : Prop :=
  ∃ left right, Listed v left ∧ Listed w right
    ∧ ∃ middle, left.Perm middle ∧ List.Forall₂ R middle right

theorem Shuffled.symm {R : Value → Value → Prop} (back : ∀ v w, R v w → R w v)
    (shuffled : Shuffled R v w) : Shuffled R w v := by
  obtain ⟨left, right, one, two, middle, perm, related⟩ := shuffled
  have flipped : List.Forall₂ R right middle :=
    related.flip.imp fun _ _ holds => back _ _ holds
  have moved : (Relation.Comp List.Perm (List.Forall₂ R)) right left := by
    rw [← forall₂_comp_perm_eq_perm_comp_forall₂]
    exact ⟨middle, flipped, perm.symm⟩
  obtain ⟨between, perm', related'⟩ := moved
  exact ⟨right, left, two, one, between, perm', related'⟩

theorem Shuffled.perm_of_eq (shuffled : Shuffled Eq v w) (listed : Listed v items) :
    ∃ others, Listed w others ∧ items.Perm others := by
  obtain ⟨left, right, one, two, middle, perm, related⟩ := shuffled
  rw [forall₂_eq_eq_eq] at related
  rw [listed.items_unique one]
  exact ⟨right, two, related ▸ perm⟩

/-! ## Tables with the same keys -/

structure SameBut (names : List String) (v w : Value) : Prop where
  tables : v.isTable = true ∧ w.isTable = true
  plain : v.hasMetatable = false ∧ w.hasMetatable = false
  keys : ∀ key, key ∈ v.keys ↔ key ∈ w.keys
  others : ∀ name, name ∉ names → v.get name = w.get name

theorem SameBut.symm {names : List String} (same : SameBut names v w) :
    SameBut names w v :=
  ⟨same.tables.symm, same.plain.symm, fun key => (same.keys key).symm,
    fun name outside => (same.others name outside).symm⟩

theorem SameBut.exactKeys {names allowed : List String} (same : SameBut names v w)
    (exact : exactKeys v allowed [] name = .ok ()) :
    exactKeys w allowed [] name = .ok () := by
  rw [exactKeys_iff] at exact ⊢
  obtain ⟨-, -, known, -⟩ := exact
  exact ⟨same.tables.2, same.plain.2, fun key member => known key ((same.keys key).mpr member),
    fun _ member => by cases member⟩

namespace ArtifactSet

/-! ## References -/

structure Distinct (texts : List Bytes) : Prop where
  once : texts.Nodup
  named : [] ∉ texts

theorem Distinct.perm {left right : List Bytes} (distinct : Distinct left)
    (perm : left.Perm right) : Distinct right :=
  ⟨perm.nodup_iff.mp distinct.once, fun empty => distinct.named (perm.mem_iff.mpr empty)⟩

theorem uniqueText_ok {failure : Failure} {seen : List Bytes} {item : Value} {text : Bytes}
    (distinct : Distinct seen) : uniqueText failure seen item = .ok text
      ↔ item = .str text ∧ Distinct (seen ++ [text]) := by
  have grown : text ≠ [] → text ∉ seen → Distinct (seen ++ [text]) := by
    intro present fresh
    refine ⟨?_, by simp [distinct.named, present.symm]⟩
    rw [nodup_append]
    refine ⟨distinct.once, nodup_singleton _, ?_⟩
    intro other inSeen last here same
    rw [mem_singleton.mp here] at same
    exact fresh (same ▸ inSeen)
  constructor
  · intro read
    unfold uniqueText at read
    split at read
    · simp only [bind_eq_ok, require_eq_ok, pure_eq_ok] at read
      obtain ⟨-, fresh, rfl⟩ := read
      exact ⟨rfl, grown (cons_ne_nil _ _) fresh⟩
    · cases read
  · rintro ⟨rfl, once, named⟩
    cases text with
    | nil => simp at named
    | cons b s =>
      simp only [uniqueText, bind_eq_ok, require_eq_ok, pure_eq_ok]
      refine ⟨(), ?_, trivial⟩
      intro inSeen
      exact (nodup_append.mp once).2.2 _ inSeen _ (mem_singleton.mpr rfl) rfl

theorem collects_texts (failure : Failure) :
    Collects (uniqueText failure) (fun item text => item = .str text) Distinct where
  step_ok _ _ _ distinct := uniqueText_ok distinct
  before _ _ distinct := ⟨distinct.once.of_append_left,
    fun empty => distinct.named (mem_append_left _ empty)⟩

theorem collect_texts_ok {failure : Failure} {texts : List Bytes} :
    collect (uniqueText failure) [] items = .ok texts
      ↔ items = texts.map .str ∧ Distinct texts := by
  rw [(collects_texts failure).collect_nil_ok ⟨nodup_nil, by simp⟩]
  refine and_congr_left fun _ => ?_
  rw [← forall₂_eq_eq_eq, forall₂_map_right_iff]

variable {out : List Bytes} {named : Named} {requireIdentity : Bool}

theorem strictRefs_ok :
    strictRefs value name = .ok out
      ↔ ∃ texts : List Bytes, Listed value (texts.map .str) ∧ Distinct texts
        ∧ out = texts.insertionSort Json.TextLe := by
  simp only [strictRefs, bind_eq_ok, require_eq_ok, pure_eq_ok, collect_texts_ok]
  constructor
  · rintro ⟨-, ⟨table, plain⟩, items, walked, texts, ⟨rfl, distinct⟩, -, keys, rfl⟩
    exact ⟨texts, ⟨table, plain, walked, by simpa using keys⟩, distinct, rfl⟩
  · rintro ⟨texts, listed, distinct, rfl⟩
    exact ⟨(), ⟨listed.table, listed.plain⟩, _, listed.walked, texts, ⟨rfl, distinct⟩, (),
      by simpa using listed.keys, rfl⟩

theorem apart_texts (texts : List Bytes) : Sorted.Apart Json.TextLe texts :=
  fun _ _ _ _ below above => Json.textLe_antisymm below above

theorem strictRefs_shuffled (shuffled : Shuffled Eq v w) (read : strictRefs v name = .ok out) :
    strictRefs w name = .ok out := by
  obtain ⟨texts, listed, distinct, rfl⟩ := strictRefs_ok.mp read
  obtain ⟨others, listed', perm⟩ := shuffled.perm_of_eq listed
  have mapped : Relation.Comp (· = List.map Value.str ·) List.Perm others texts := by
    rw [eq_map_comp_perm]
    exact perm.symm
  obtain ⟨texts', rfl, back⟩ := mapped
  have texted := back.symm
  exact strictRefs_ok.mpr ⟨texts', listed', distinct.perm texted,
    Sorted.insertionSort_eq_of_perm (apart_texts texts) texted⟩

theorem strictRefs_written {other : String} (read : strictRefs value name = .ok out) :
    strictRefs (textArray out) other = .ok out := by
  obtain ⟨texts, -, distinct, rfl⟩ := strictRefs_ok.mp read
  have perm := perm_insertionSort Json.TextLe texts
  exact strictRefs_ok.mpr ⟨_, listed_textArray _, distinct.perm perm.symm,
    (Sorted.insertionSort_insertionSort texts).symm⟩

/-! ## Artifacts -/

theorem someRefs_ok {empty : String} :
    someRefs value name empty = .ok out ↔ strictRefs value name = .ok out ∧ out ≠ [] := by
  simp only [someRefs, bind_eq_ok, require_eq_ok, pure_eq_ok]
  constructor
  · rintro ⟨_, read, -, present, rfl⟩
    exact ⟨read, present⟩
  · rintro ⟨read, present⟩
    exact ⟨out, read, (), present, rfl⟩

theorem nonEmpty_ok {s : Bytes} :
    nonEmpty value name = .ok s ↔ value = .str s ∧ s ≠ [] := by
  constructor
  · intro read
    cases value with
    | str t =>
      cases t with
      | nil => cases read
      | cons b rest => cases read; exact ⟨rfl, cons_ne_nil _ _⟩
    | _ => cases read
  · rintro ⟨rfl, present⟩
    cases s with
    | nil => exact absurd rfl present
    | cons b rest => rfl

theorem positive_ok {n : Number} :
    positive value name = .ok n
      ↔ value = .num n ∧ Number.lt n (.int 1) = false ∧ n.isIntegral = true := by
  constructor
  · intro read
    cases value with
    | num m =>
      simp only [positive, integerFrom] at read
      split at read
      · cases read
      · rename_i sound
        cases read
        simp only [not_or, Bool.not_eq_true, Bool.not_eq_false] at sound
        exact ⟨rfl, sound⟩
    | _ => cases read
  · rintro ⟨rfl, above, whole⟩
    simp [positive, integerFrom, above, whole]

theorem relativePath_ok {path : Bytes} :
    CandidateSeal.relativePath value = .ok path
      ↔ value = .str path ∧ Action.validateRelativePath (.str path) = .ok () := by
  simp only [CandidateSeal.relativePath, bind_eq_ok]
  constructor
  · rintro ⟨_, valid, read⟩
    cases value with
    | str s => cases read; exact ⟨rfl, valid⟩
    | _ => cases read
  · rintro ⟨rfl, valid⟩
    exact ⟨(), valid, rfl⟩

/-- The same artifact with its references in some order. -/
structure ReorderedArtifact (v w : Value) : Prop where
  same : SameBut ["provenance_refs"] v w
  provenance : Shuffled Eq (v.get "provenance_refs") (w.get "provenance_refs")

theorem ReorderedArtifact.symm (reordered : ReorderedArtifact v w) :
    ReorderedArtifact w v :=
  ⟨reordered.same.symm, reordered.provenance.symm fun _ _ same => same.symm⟩

theorem readArtifact_reordered {a : Artifact} (reordered : ReorderedArtifact v w)
    (read : readArtifact v = .ok a) : readArtifact w = .ok a := by
  have unread : ∀ name, name ≠ "provenance_refs" → w.get name = v.get name := fun name other =>
    (reordered.same.others name (by simpa using other)).symm
  simp only [readArtifact, bind_eq_ok, require_eq_ok, pure_eq_ok, someRefs_ok] at read ⊢
  rw [unread "work_unit_id" (by decide), unread "work_unit_version" (by decide),
    unread "relative_path" (by decide), unread "expected_kind" (by decide),
    unread "unit_created_event_ref" (by decide)]
  obtain ⟨_, keys, unit, named, version, counted, path, valid, _, short, _, shallow, _, kind,
    created, origin, refs, ⟨given, present⟩, made⟩ := read
  exact ⟨(), reordered.same.exactKeys keys, unit, named, version, counted, path, valid, (), short,
    (), shallow, (), kind, created, origin, refs,
    ⟨strictRefs_shuffled reordered.provenance given, present⟩, made⟩

theorem readArtifact_written {a : Artifact} (read : readArtifact value = .ok a) :
    readArtifact a.table = .ok a := by
  simp only [readArtifact, bind_eq_ok, require_eq_ok, pure_eq_ok, someRefs_ok, nonEmpty_ok,
    positive_ok, relativePath_ok] at read
  obtain ⟨_, _, unit, ⟨_, named⟩, version, ⟨_, counted⟩, path, ⟨_, valid⟩, _, short, _, shallow, _,
    _, created, ⟨_, origin⟩, refs, ⟨given, present⟩, rfl⟩ := read
  have field : ∀ {name : String} {v : Value}, (name, v) ∈ Artifact.fields ⟨unit, version, created, path, refs⟩ →
      (Artifact.table ⟨unit, version, created, path, refs⟩).get name = v := fun member =>
    get_record (by simp [Artifact.fields]) member
  have keys : exactKeys (Artifact.table ⟨unit, version, created, path, refs⟩) artifactKeys []
      "artifact set artifact" = .ok () := by
    apply Body.exactKeys_record
    simp [Artifact.fields, artifactKeys]
  simp only [readArtifact, bind_eq_ok, require_eq_ok, pure_eq_ok, someRefs_ok, nonEmpty_ok,
    positive_ok, relativePath_ok]
  refine ⟨(), keys, unit, ⟨field (by simp [Artifact.fields]), named⟩, version,
    ⟨field (by simp [Artifact.fields]), counted⟩, path, ⟨field (by simp [Artifact.fields]), valid⟩,
    (), short, (), shallow, (), field (by simp [Artifact.fields]), created,
    ⟨field (by simp [Artifact.fields]), origin⟩, refs, ⟨?_, present⟩, rfl⟩
  rw [field (v := textArray refs) (by simp [Artifact.fields])]
  exact strictRefs_written given

/-- No more than the bound, and no work unit and no path twice. -/
structure Sound (artifacts : List Artifact) : Prop where
  few : artifacts.length ≤ maxArtifacts
  units : (artifacts.map Artifact.workUnitId).Nodup
  paths : (artifacts.map Artifact.relativePath).Nodup

theorem sound_nil : Sound [] := ⟨Nat.zero_le _, nodup_nil, nodup_nil⟩

theorem Sound.perm {left right : List Artifact} (sound : Sound left) (perm : left.Perm right) :
    Sound right :=
  ⟨perm.length_eq ▸ sound.few, (perm.map _).nodup_iff.mp sound.units,
    (perm.map _).nodup_iff.mp sound.paths⟩

theorem Sound.before {left right : List Artifact} (sound : Sound (left ++ right)) : Sound left := by
  obtain ⟨few, units, paths⟩ := sound
  rw [length_append] at few
  rw [map_append] at units paths
  exact ⟨by omega, units.of_append_left, paths.of_append_left⟩

theorem artifact_ok {seen : List Artifact} {input : Value} {next : Artifact} (sound : Sound seen) :
    artifact seen input = .ok next ↔ readArtifact input = .ok next ∧ Sound (seen ++ [next]) := by
  simp only [artifact, bind_eq_ok, require_eq_ok, pure_eq_ok]
  constructor
  · rintro ⟨-, few, _, read, -, units, -, paths, rfl⟩
    refine ⟨read, ?_, (nodup_map_append_singleton sound.units).mpr units,
      (nodup_map_append_singleton sound.paths).mpr paths⟩
    rw [length_append, length_singleton]
    omega
  · rintro ⟨read, few, units, paths⟩
    rw [length_append, length_singleton] at few
    exact ⟨(), by omega, next, read, (), (nodup_map_append_singleton sound.units).mp units, (),
      (nodup_map_append_singleton sound.paths).mp paths, rfl⟩

theorem collects_artifacts :
    Collects artifact (fun input a => readArtifact input = .ok a) Sound where
  step_ok _ _ _ sound := artifact_ok sound
  before _ _ sound := sound.before

variable {out : List Artifact}

theorem normalizeArtifacts_ok :
    normalizeArtifacts value = .ok out ↔ ∃ items artifacts, Listed value items
      ∧ List.Forall₂ (fun input a => readArtifact input = .ok a) items artifacts
      ∧ Sound artifacts ∧ artifacts ≠ [] ∧ out = artifacts.insertionSort ArtifactLe := by
  simp only [normalizeArtifacts, bind_eq_ok, require_eq_ok, pure_eq_ok,
    collects_artifacts.collect_nil_ok sound_nil]
  constructor
  · rintro ⟨-, ⟨table, plain⟩, items, walked, artifacts, ⟨reads, sound⟩, -, keys, -, present, rfl⟩
    rw [← reads.length_eq] at keys
    exact ⟨items, artifacts, ⟨table, plain, walked, keys⟩, reads, sound, present, rfl⟩
  · rintro ⟨items, artifacts, listed, reads, sound, present, rfl⟩
    have keys := listed.keys
    rw [reads.length_eq] at keys
    exact ⟨(), ⟨listed.table, listed.plain⟩, items, listed.walked, artifacts, ⟨reads, sound⟩, (),
      keys, (), present, rfl⟩

theorem Sound.apart {artifacts : List Artifact} (sound : Sound artifacts) :
    Sorted.Apart ArtifactLe artifacts :=
  Sorted.apart_of_keys sound.paths fun _ _ => Sorted.byKeys_first

theorem normalizeArtifacts_shuffled
    (shuffled : Shuffled ReorderedArtifact v w) (read : normalizeArtifacts v = .ok out) :
    normalizeArtifacts w = .ok out := by
  obtain ⟨items, artifacts, listed, reads, sound, present, rfl⟩ := normalizeArtifacts_ok.mp read
  obtain ⟨left, right, one, two, middle, perm, related⟩ := shuffled
  cases listed.items_unique one
  obtain ⟨moved, reads', perm'⟩ := perm_comp_forall₂ perm.symm reads
  have across : List.Forall₂ (fun input a => readArtifact input = .ok a) right moved := by
    refine forall₂_across ?_ related reads'
    intro input other a alike first
    exact readArtifact_reordered alike first
  refine normalizeArtifacts_ok.mpr ⟨right, moved, two, across, sound.perm perm'.symm, ?_, ?_⟩
  · rintro rfl
    exact present (perm_nil.mp perm'.symm)
  · exact Sorted.insertionSort_eq_of_perm sound.apart perm'.symm

theorem records_present (artifacts : List Artifact) :
    ∀ item ∈ artifacts.map Artifact.table, item ≠ .nil := by
  intro item member
  obtain ⟨a, -, rfl⟩ := mem_map.mp member
  exact Value.noConfusion

theorem normalizeArtifacts_written (read : normalizeArtifacts value = .ok out) :
    normalizeArtifacts (.array (out.map Artifact.table)) = .ok out := by
  obtain ⟨items, artifacts, -, reads, sound, present, rfl⟩ := normalizeArtifacts_ok.mp read
  have perm := perm_insertionSort ArtifactLe artifacts
  have read' := reads.flip.imp fun _ _ given => And.intro (readArtifact_written given) given
  obtain ⟨written, -⟩ := (forall₂_and_left _ _).mp read'
  refine normalizeArtifacts_ok.mpr
    ⟨_, _, listed_array (records_present _), ?_, sound.perm perm.symm, ?_, ?_⟩
  · rw [forall₂_map_left_iff, forall₂_same]
    exact fun a member => written a (perm.mem_iff.mp member)
  · intro empty
    rw [empty] at perm
    exact present (perm_nil.mp perm.symm)
  · exact (Sorted.insertionSort_insertionSort artifacts).symm

/-! ## The header -/

theorem optionalText_given (present : value ≠ .nil) (name : String) :
    optionalText value name = (nonEmpty value name).map some := by
  cases value with
  | nil => exact absurd rfl present
  | _ => rfl

theorem optionalText_ok {o : Option Bytes} :
    optionalText value name = .ok o ↔ value = o.elim .nil .str ∧ o ≠ some [] := by
  by_cases absent : value = .nil
  · subst absent
    cases o with
    | none => exact ⟨fun _ => ⟨rfl, nofun⟩, fun _ => rfl⟩
    | some s => exact ⟨fun read => (by cases read), fun read => (by cases read.1)⟩
  · rw [optionalText_given absent]
    constructor
    · intro read
      cases named : nonEmpty value name with
      | error failure => rw [named] at read; cases read
      | ok s =>
        rw [named] at read
        cases read
        obtain ⟨rfl, filled⟩ := nonEmpty_ok.mp named
        exact ⟨rfl, fun same => filled (Option.some.inj same)⟩
    · rintro ⟨rfl, filled⟩
      cases o with
      | none => exact absurd rfl absent
      | some s =>
        have named : nonEmpty (.str s) name = .ok s :=
          nonEmpty_ok.mpr ⟨rfl, fun empty => filled (congrArg some empty)⟩
        show (nonEmpty (.str s) name).map some = _
        rw [named]
        rfl

theorem processContract_ok {contract : ProcessContract}
    (read : processContract value = .ok contract) : value = .text contract.name := by
  unfold processContract at read
  split at read
  · rename_i parsed
    cases read
    exact eq_text_of_parse parsed
  · cases read

theorem contentTruth_ok {status : ContentTruth} (read : contentTruth value = .ok status) :
    value = .text status.name := by
  unfold contentTruth at read
  split at read
  · rename_i parsed
    cases read
    exact eq_text_of_parse parsed
  · cases read

def Header.fields (header : Header) : List (String × Value) := [
  ("protocol_version", protocolVersion),
  ("packet_id", .str header.packetId),
  ("lineage_id", .str header.lineageId),
  ("generation", .num header.generation),
  ("process_contract_id", .text header.processContract.name),
  ("context", .text "software_task.v0"),
  ("stage_id", .str header.stageId),
  ("repository_id", .str header.repositoryId),
  ("birth_ref", .str header.birthRef),
  ("formation_event_ref", .str header.formationEventRef),
  ("choice_event_ref", header.choiceEventRef.elim .nil .str),
  ("event_truth_status", .text "runtime_confirmed"),
  ("content_truth_status", .text header.contentTruth.name)]

def headerNames : List String :=
  ["protocol_version", "packet_id", "lineage_id", "generation", "process_contract_id", "context",
    "stage_id", "repository_id", "birth_ref", "formation_event_ref", "choice_event_ref",
    "event_truth_status", "content_truth_status"]

theorem Header.names (header : Header) : header.fields.map Prod.fst = headerNames := rfl

theorem readHeader_fields {header : Header} (read : readHeader value = .ok header) :
    ∀ field ∈ header.fields, value.get field.1 = field.2 := by
  simp only [readHeader, bind_eq_ok, require_eq_ok, pure_eq_ok, nonEmpty_ok, positive_ok,
    optionalText_ok] at read
  obtain ⟨_, protocol, packet, ⟨packetRead, _⟩, lineage, ⟨lineageRead, _⟩, _, _, _, _, stage,
    ⟨stageRead, _⟩, repository, ⟨repositoryRead, _⟩, birth, ⟨birthRead, _⟩, formation,
    ⟨formationRead, _⟩, process, processRead, _, context, choice, ⟨choiceRead, _⟩, generation,
    ⟨generationRead, _⟩, _, confirmed, content, contentRead, rfl⟩ := read
  have processText := processContract_ok processRead
  have contentText := contentTruth_ok contentRead
  simp only [Header.fields, forall_mem_cons, not_mem_nil, IsEmpty.forall_iff,
    implies_true, and_true]
  exact ⟨protocol, packetRead, lineageRead, generationRead, processText, context, stageRead,
    repositoryRead, birthRead, formationRead, choiceRead, confirmed, contentText⟩

theorem readHeader_congr (same : ∀ name ∈ headerNames, v.get name = w.get name) :
    readHeader v = readHeader w := by
  simp only [headerNames, forall_mem_cons, not_mem_nil, IsEmpty.forall_iff,
    implies_true, and_true] at same
  obtain ⟨protocol, packet, lineage, generation, process, context, stage, repository, birth,
    formation, choice, confirmed, content⟩ := same
  simp only [readHeader, protocol, packet, lineage, generation, process, context, stage,
    repository, birth, formation, choice, confirmed, content]

/-! ## Contracts -/

theorem Contract.mem_fields {contract : Contract} {field : String × Value}
    (member : field ∈ contract.toHeader.fields) : field ∈ contract.fields := by
  simp only [Header.fields, mem_cons, not_mem_nil, or_false] at member
  simp only [Contract.fields, mem_cons, not_mem_nil, or_false]
  tauto

theorem Named.distinct (named : Named) : (named.fields.map Prod.fst).Nodup := by
  simp [Named.fields, Contract.fields]

theorem Named.get_table (member : (name, value) ∈ named.fields) : named.table.get name = value :=
  get_record named.distinct member

theorem Named.deepCopy_table (named : Named) : named.table.deepCopy = named.table := by
  have plain : ∀ text : String, (Value.text text).deepCopy = .text text := fun _ => rfl
  have artifacts : (Value.array (named.contract.artifacts.map Artifact.table)).deepCopy
      = .array (named.contract.artifacts.map Artifact.table) := by
    apply deepCopy_array
    intro item member
    obtain ⟨a, -, rfl⟩ := mem_map.mp member
    simp [Artifact.table, Artifact.fields, deepCopy_record, Body.deepCopy_textArray, Value.deepCopy]
  have choice : (named.contract.choiceEventRef.elim .nil .str : Value).deepCopy
      = named.contract.choiceEventRef.elim .nil .str := by
    cases named.contract.choiceEventRef <;> rfl
  have version : protocolVersion.deepCopy = protocolVersion := rfl
  have count : (Value.num named.contract.generation).deepCopy = .num named.contract.generation := rfl
  simp [Named.table, Named.fields, Contract.fields, deepCopy_record, artifacts, choice, plain,
    version, count, Body.deepCopy_textArray]

theorem normalizeContract_ok :
    normalizeContract value requireIdentity = .ok named
      ↔ exactKeys value contractKeys [] "artifact set contract" = .ok ()
        ∧ readHeader value = .ok named.contract.toHeader
        ∧ strictRefs (value.get "source_refs") "artifact set source_refs"
          = .ok named.contract.sourceRefs
        ∧ named.contract.sourceRefs ≠ []
        ∧ normalizeArtifacts (value.get "artifacts") = .ok named.contract.artifacts
        ∧ named.contract.identify = .ok named.artifactSetId
        ∧ (requireIdentity = false ∨ value.get "artifact_set_id" = .str named.artifactSetId) := by
  simp only [normalizeContract, bind_eq_ok, require_eq_ok, pure_eq_ok, someRefs_ok]
  constructor
  · rintro ⟨_, keys, header, head, refs, ⟨sources, some_ref⟩, artifacts, files, id, digest, _,
      identity, rfl⟩
    exact ⟨keys, head, sources, some_ref, files, digest, identity⟩
  · rintro ⟨keys, head, sources, some_ref, files, digest, identity⟩
    exact ⟨(), keys, _, head, _, ⟨sources, some_ref⟩, _, files, _, digest, (), identity, rfl⟩

/-- One contract with its artifacts and references in some order. -/
structure Reordered (v w : Value) : Prop where
  same : SameBut ["artifacts", "source_refs"] v w
  artifacts : Shuffled ReorderedArtifact (v.get "artifacts") (w.get "artifacts")
  sources : Shuffled Eq (v.get "source_refs") (w.get "source_refs")

theorem Reordered.symm (reordered : Reordered v w) : Reordered w v :=
  ⟨reordered.same.symm, reordered.artifacts.symm fun _ _ alike => alike.symm,
    reordered.sources.symm fun _ _ alike => alike.symm⟩

theorem normalizeContract_reordered (reordered : Reordered v w)
    (normal : normalizeContract v requireIdentity = .ok named) :
    normalizeContract w requireIdentity = .ok named := by
  obtain ⟨keys, head, sources, some_ref, files, digest, identity⟩ := normalizeContract_ok.mp normal
  have unread : ∀ name, name ≠ "artifacts" → name ≠ "source_refs" → v.get name = w.get name :=
    fun name one two => reordered.same.others name (by simp [one, two])
  have header : readHeader v = readHeader w := by
    apply readHeader_congr
    intro name member
    refine unread name ?_ ?_
    · rintro rfl
      revert member
      decide
    · rintro rfl
      revert member
      decide
  rw [header] at head
  rw [unread "artifact_set_id" (by decide) (by decide)] at identity
  exact normalizeContract_ok.mpr ⟨reordered.same.exactKeys keys, head,
    strictRefs_shuffled reordered.sources sources, some_ref,
    normalizeArtifacts_shuffled reordered.artifacts files, digest, identity⟩

theorem normalizeContract_written (normal : normalizeContract value requireIdentity = .ok named) :
    normalizeContract named.table true = .ok named := by
  obtain ⟨-, head, sources, some_ref, files, digest, -⟩ := normalizeContract_ok.mp normal
  have keys : exactKeys named.table contractKeys [] "artifact set contract" = .ok () := by
    apply Body.exactKeys_record
    simp [Named.fields, Contract.fields, contractKeys]
  have header : readHeader value = readHeader named.table := by
    apply readHeader_congr
    intro name member
    rw [← Header.names named.contract.toHeader] at member
    obtain ⟨field, inHeader, rfl⟩ := mem_map.mp member
    rw [readHeader_fields head field inHeader]
    exact (Named.get_table (mem_append_left _ (Contract.mem_fields inHeader))).symm
  have sourceRefs : named.table.get "source_refs" = textArray named.contract.sourceRefs :=
    Named.get_table (by simp [Named.fields, Contract.fields])
  have artifacts : named.table.get "artifacts"
      = .array (named.contract.artifacts.map Artifact.table) :=
    Named.get_table (by simp [Named.fields, Contract.fields])
  have id : named.table.get "artifact_set_id" = .str named.artifactSetId :=
    Named.get_table (by simp [Named.fields])
  refine normalizeContract_ok.mpr ⟨keys, header ▸ head, ?_, some_ref, ?_, digest, .inr id⟩
  · rw [sourceRefs]
    exact strictRefs_written sources
  · rw [artifacts]
    exact normalizeArtifacts_written files

end ArtifactSet

end Proc17.Runtime.Repository
