import Proc17.Runtime.Repository.ArtifactSetLaw

/-!
# Names of artifact sets

The name of a contract is the digest of its normal form's JSON text.  The text holds
everything the normal form holds, but of a number only how it is written.
-/

namespace Proc17.Runtime.Repository.ArtifactSet

open Lua Core Core.Json List

/-! ## What is written -/

/-- The same artifact, the version of its work unit written alike. -/
def Artifact.Alike (a b : Artifact) : Prop :=
  { a with workUnitVersion := b.workUnitVersion } = b
    ∧ a.workUnitVersion.tostring = b.workUnitVersion.tostring

/-- The same contract, its generation and the versions of its artifacts written alike. -/
def Contract.Alike (a b : Contract) : Prop :=
  { a with generation := b.generation, artifacts := b.artifacts } = b
    ∧ a.generation.tostring = b.generation.tostring
    ∧ List.Forall₂ Artifact.Alike a.artifacts b.artifacts

instance (a b : Artifact) : Decidable (a.Alike b) :=
  inferInstanceAs (Decidable (_ ∧ _))

instance (a b : Contract) : Decidable (a.Alike b) :=
  inferInstanceAs (Decidable (_ ∧ _ ∧ _))

theorem encode_str_iff {s t : Bytes} : encode (.str s) = encode (.str t) ↔ s = t :=
  ⟨encode_str_injective, fun same => by rw [same]⟩

theorem encode_textArray_iff {left right : List Bytes} :
    encode (textArray left) = encode (textArray right) ↔ left = right :=
  ⟨encode_strings_injective, fun same => by rw [same]⟩

theorem encodes_textArray (texts : List Bytes) : Encodes (textArray texts) :=
  ⟨_, encode_strings texts⟩

theorem encodes_artifact (a : Artifact) : Encodes a.table := by
  apply encodes_record
  simp only [Artifact.fields, forall_mem_cons, not_mem_nil, IsEmpty.forall_iff,
    implies_true, and_true]
  exact ⟨encodes_str _, encodes_num _, encodes_str _, encodes_str _, encodes_str _,
    encodes_textArray _⟩

theorem encode_artifact_iff (a b : Artifact) : encode a.table = encode b.table ↔ a.Alike b := by
  have alike : NamedAlike a.fields b.fields := by
    simp [NamedAlike, Artifact.fields, forall₂_cons, textArray, Value.array]
  rw [Artifact.table, Artifact.table, encode_named_iff alike (encodes_artifact a)]
  obtain ⟨unit, version, created, path, refs⟩ := a
  obtain ⟨unit', version', created', path', refs'⟩ := b
  simp only [Artifact.fields, forall₂_cons, forall₂_nil_left_iff, and_true, encode_str_iff,
    encode_num_iff, encode_textArray_iff, true_and, Artifact.Alike, Artifact.mk.injEq]
  tauto

theorem encodes_contract (contract : Contract) : Encodes (.record contract.fields) := by
  have artifacts : Encodes (.array (contract.artifacts.map Artifact.table)) := by
    apply encodes_array
    intro item member
    obtain ⟨a, -, rfl⟩ := mem_map.mp member
    exact encodes_artifact a
  have choice : Encodes (contract.choiceEventRef.elim .nil .str) := by
    cases contract.choiceEventRef with
    | none => exact encodes_nil
    | some s => exact encodes_str s
  apply encodes_record
  simp only [Contract.fields, forall_mem_cons, not_mem_nil, IsEmpty.forall_iff,
    implies_true, and_true]
  exact ⟨encodes_str _, encodes_str _, encodes_str _, encodes_num _, encodes_str _, encodes_str _,
    encodes_str _, encodes_str _, encodes_str _, encodes_str _, choice, artifacts,
    encodes_textArray _, encodes_str _, encodes_str _⟩

theorem ProcessContract.name_inj {a b : ProcessContract} : a.name = b.name ↔ a = b := by
  cases a <;> cases b <;> decide

theorem ContentTruth.name_inj {a b : ContentTruth} : a.name = b.name ↔ a = b := by
  cases a <;> cases b <;> decide

theorem Contract.fields_length (contract : Contract) :
    (Value.fields contract.fields).length = if contract.choiceEventRef.isSome then 15 else 14 := by
  have present : ∀ items : List Value, Value.array items ≠ .nil := fun _ => Value.noConfusion
  cases choice : contract.choiceEventRef with
  | none | some => simp [Contract.fields, Value.fields, choice, textArray, present, protocolVersion]

theorem Contract.fields_present (contract : Contract) : Value.fields contract.fields ≠ [] := by
  intro empty
  have counted := contract.fields_length
  rw [empty] at counted
  split at counted <;> cases counted

theorem encode_choice_iff {a b : Option Bytes} (both : a.isSome = b.isSome) :
    encode (a.elim .nil .str) = encode (b.elim .nil .str) ↔ a = b := by
  cases a with
  | none =>
    cases b with
    | none => simp
    | some t => cases both
  | some s =>
    cases b with
    | none => cases both
    | some t => simpa using encode_str_iff

theorem encode_artifacts_iff (left right : List Artifact) :
    encode (.array (left.map Artifact.table)) = encode (.array (right.map Artifact.table))
      ↔ List.Forall₂ Artifact.Alike left right := by
  have encodes : Encodes (.array (left.map Artifact.table)) := by
    apply encodes_array
    intro item member
    obtain ⟨a, -, rfl⟩ := mem_map.mp member
    exact encodes_artifact a
  rw [encode_tables_iff ?_ encodes, forall₂_map_left_iff, forall₂_map_right_iff]
  · constructor
    · exact fun related => related.imp fun a b same => (encode_artifact_iff a b).mp same
    · exact fun related => related.imp fun a b same => (encode_artifact_iff a b).mpr same
  · intro item member
    rw [← map_append] at member
    obtain ⟨a, -, rfl⟩ := mem_map.mp member
    rfl

variable {a b : Contract}

theorem Contract.namedAlike
    (both : a.choiceEventRef.isSome = b.choiceEventRef.isSome) : NamedAlike a.fields b.fields := by
  have absence : (a.choiceEventRef.elim .nil .str : Value) = .nil
      ↔ (b.choiceEventRef.elim .nil .str : Value) = .nil := by
    cases one : a.choiceEventRef <;> cases two : b.choiceEventRef <;> simp [one, two] at both ⊢
  simp [NamedAlike, Contract.fields, forall₂_cons, textArray, Value.array, absence, protocolVersion]

theorem choices_alike
    (counted : (Value.fields a.fields).length = (Value.fields b.fields).length) :
    a.choiceEventRef.isSome = b.choiceEventRef.isSome := by
  rw [a.fields_length, b.fields_length] at counted
  cases one : a.choiceEventRef.isSome <;> cases two : b.choiceEventRef.isSome <;>
    simp [one, two] at counted ⊢

theorem encode_fields_iff
    (both : a.choiceEventRef.isSome = b.choiceEventRef.isSome) :
    List.Forall₂ (fun x y => encode x.2 = encode y.2) a.fields b.fields ↔ a.Alike b := by
  have choices := encode_choice_iff both
  have files := encode_artifacts_iff a.artifacts b.artifacts
  obtain ⟨⟨packet, lineage, generation, process, stage, repository, birth, formation, choice,
    content⟩, artifacts, refs⟩ := a
  obtain ⟨⟨packet', lineage', generation', process', stage', repository', birth', formation',
    choice', content'⟩, artifacts', refs'⟩ := b
  simp only at choices files
  simp only [Contract.fields, forall₂_cons, forall₂_nil_left_iff, and_true,
    encode_str_iff, utf8_inj, encode_num_iff, encode_textArray_iff, true_and, choices, files,
    ProcessContract.name_inj, ContentTruth.name_inj, Contract.Alike, Contract.mk.injEq,
    Header.mk.injEq]
  tauto

theorem Contract.Alike.choices (alike : a.Alike b) :
    a.choiceEventRef.isSome = b.choiceEventRef.isSome := by
  obtain ⟨rest, -, -⟩ := alike
  rw [← rest]

theorem encode_contract_iff (a b : Contract) :
    encode (.record a.fields) = encode (.record b.fields) ↔ a.Alike b := by
  have encodes := encodes_contract a
  constructor
  · intro same
    obtain ⟨text, encoded⟩ := encodes_contract a
    have both := choices_alike
      (encode_record_length a.fields_present b.fields_present encoded (same ▸ encoded))
    exact (encode_fields_iff both).mp ((encode_named_iff (Contract.namedAlike both) encodes).mp same)
  · intro alike
    exact (encode_named_iff (Contract.namedAlike alike.choices) encodes).mpr
      ((encode_fields_iff alike.choices).mpr alike)

/-! ## Names -/

def CollisionFree (a b : Contract) : Prop :=
  ∀ s t, encode (.record a.fields) = .ok s → encode (.record b.fields) = .ok t →
    Digest.sha256 s = Digest.sha256 t → s = t

theorem identify_text {contract : Contract} {id : Bytes} (named : contract.identify = .ok id) :
    ∃ text, encode (.record contract.fields) = .ok text
      ∧ id = utf8 "artifact-set:" ++ Digest.sha256 text := by
  simp only [Contract.identify, Digest.identify, bind_eq_ok, pure_eq_ok] at named
  obtain ⟨hash, made, rfl⟩ := named
  obtain ⟨text, encoded, rfl⟩ := Digest.encoded_of_record made
  exact ⟨text, encoded, rfl⟩

theorem identify_total (contract : Contract) : ∃ id, contract.identify = .ok id := by
  obtain ⟨hash, made⟩ := Digest.record_of_encodes (encodes_contract contract)
  exact ⟨utf8 "artifact-set:" ++ hash, by simp [Contract.identify, Digest.identify, made]⟩

theorem identify_eq_iff {one two : Bytes} (apart : CollisionFree a b)
    (first : a.identify = .ok one) (second : b.identify = .ok two) : one = two ↔ a.Alike b := by
  obtain ⟨s, encoded, rfl⟩ := identify_text first
  obtain ⟨t, encoded', rfl⟩ := identify_text second
  rw [← encode_contract_iff, encoded, encoded', Except.ok.injEq]
  constructor
  · exact fun same => apart s t encoded encoded' (append_cancel_left same)
  · exact fun same => by rw [same]

theorem collisionFree_of_alike (alike : a.Alike b) : CollisionFree a b := by
  intro s t encoded encoded' _
  rw [(encode_contract_iff a b).mpr alike] at encoded
  exact Except.ok.inj (encoded.symm.trans encoded')

theorem validate_ok {value out : Value} :
    validate value = .ok out ↔ ∃ named, normalizeContract value true = .ok named
      ∧ out = named.table := by
  simp only [validate, bind_eq_ok, pure_eq_ok, Named.deepCopy_table]
  constructor
  · rintro ⟨named, normal, rfl⟩
    exact ⟨named, normal, rfl⟩
  · rintro ⟨named, normal, rfl⟩
    exact ⟨named, normal, rfl⟩

/-! ## Comparison -/

theorem encodes_named (named : Named) : Encodes named.table := by
  apply encodes_record
  intro field member
  rcases mem_append.mp member with inside | last
  · exact encodes_record_iff.mp (encodes_contract named.contract) field inside
  · rw [mem_singleton.mp last]
    exact encodes_str _

theorem Named.fields_length (named : Named) :
    (Value.fields named.fields).length = (Value.fields named.contract.fields).length + 1 := by
  simp [Named.fields, Value.fields_append, Value.fields]

theorem Named.fields_present (named : Named) : Value.fields named.fields ≠ [] := by
  intro empty
  have counted := named.fields_length
  rw [empty] at counted
  cases counted

variable {one two : Named}

theorem encode_named_fields_iff
    (both : one.contract.choiceEventRef.isSome = two.contract.choiceEventRef.isSome) :
    encode one.table = encode two.table
      ↔ one.contract.Alike two.contract ∧ one.artifactSetId = two.artifactSetId := by
  have alike : NamedAlike one.fields two.fields :=
    rel_append (Contract.namedAlike both) (by simp)
  rw [Named.table, Named.table, encode_named_iff alike (encodes_named one), Named.fields,
    Named.fields, ← encode_fields_iff both, ← forall₂_reverse_iff, reverse_append, reverse_append]
  simp [forall₂_cons, forall₂_reverse_iff, encode_str_iff, and_comm]

theorem identify_alike (alike : a.Alike b) : a.identify = b.identify := by
  have written := (encode_contract_iff a b).mpr alike
  simp only [Contract.identify, Digest.identify, Digest.record, written]

theorem encode_table_iff (first : one.contract.identify = .ok one.artifactSetId)
    (second : two.contract.identify = .ok two.artifactSetId) :
    encode one.table = encode two.table ↔ one.contract.Alike two.contract := by
  constructor
  · intro written
    obtain ⟨text, encoded⟩ := encodes_named one
    have counted := encode_record_length one.fields_present two.fields_present encoded
      (written ▸ encoded)
    rw [one.fields_length, two.fields_length] at counted
    exact ((encode_named_fields_iff (choices_alike (Nat.succ.inj counted))).mp written).1
  · intro alike
    have ids := identify_alike alike
    rw [first, second] at ids
    exact (encode_named_fields_iff alike.choices).mpr ⟨alike, Except.ok.inj ids⟩

theorem validated_ok {value : Value} {named : Named}
    (normal : normalizeContract value true = .ok named) : validated value = .ok (some named.table) := by
  rw [validated, validate_ok.mpr ⟨named, normal, rfl⟩]

/-- Two valid contracts are the same exactly when their normal forms are written alike. -/
theorem same_iff {v w : Value} (left : normalizeContract v true = .ok one)
    (right : normalizeContract w true = .ok two) :
    ArtifactSet.same v w = .ok true ↔ one.contract.Alike two.contract := by
  obtain ⟨-, -, -, -, -, first, -⟩ := normalizeContract_ok.mp left
  obtain ⟨-, -, -, -, -, second, -⟩ := normalizeContract_ok.mp right
  obtain ⟨s, encoded⟩ := encodes_named one
  obtain ⟨t, encoded'⟩ := encodes_named two
  rw [← encode_table_iff first second, encoded, encoded', Except.ok.injEq]
  simp [ArtifactSet.same, validated_ok left, validated_ok right, Json.same, encoded, encoded']

theorem validate_stable {value out : Value} (accepted : validate value = .ok out) :
    validate out = .ok out := by
  obtain ⟨named, normal, rfl⟩ := validate_ok.mp accepted
  exact validate_ok.mpr ⟨named, normalizeContract_written normal, rfl⟩

theorem identify_reordered {v w : Value} (reordered : Reordered v w) (id : Bytes) :
    identify v = .ok id ↔ identify w = .ok id := by
  simp only [identify, bind_eq_ok, pure_eq_ok]
  constructor
  · rintro ⟨named, normal, rfl⟩
    exact ⟨named, normalizeContract_reordered reordered normal, rfl⟩
  · rintro ⟨named, normal, rfl⟩
    exact ⟨named, normalizeContract_reordered reordered.symm normal, rfl⟩

theorem derive_validates {currentSet : CurrentSet} {inst out : Value}
    (derived : derive currentSet inst = .ok out) : validate out = .ok out := by
  simp only [derive, bind_eq_ok, pure_eq_ok] at derived
  obtain ⟨_, -, _, -, _, -, _, -, _, -, _, -, named, -, validated, checked, rfl⟩ := derived
  have accepted : validate named.table = .ok validated := by
    unfold labelled at checked
    split at checked
    · cases checked
    · exact checked
  obtain ⟨again, -, rfl⟩ := validate_ok.mp accepted
  rw [Named.deepCopy_table]
  exact validate_stable accepted

end Proc17.Runtime.Repository.ArtifactSet
