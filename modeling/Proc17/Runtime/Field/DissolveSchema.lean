import Proc17.Runtime.Qa.EvidenceSchema
import Proc17.Runtime.Field.Units

/-!
# The release of an inherited form

`normalize_release` of `core/dissolve_schema.lua`: what a release must say of its target,
its reason and the references it rests on.
-/

namespace Proc17.Runtime.Field.DissolveSchema

open Lua Core Runtime.Repository

def releaseProtocol : Value := .text "dissolve.inherited_rejected_form_release.v0"

def maxRefs : Nat := 256

def maxRefBytes : Nat := 4096

def reasonKeys : List String := ["kind", "subtype", "network_projection_id", "carrier_id",
  "source_corpse_id", "historical_qa_id", "candidate_seal_id", "verdict_id"]

def releaseSchemaKeys : List String := ["protocol_version", "release_id", "target", "reason",
  "residue_unit_id", "released_mass", "irreversible_identity_loss", "source_refs",
  "event_truth_status", "content_truth_status"]

def targetKeys : List String := ["kind", "id", "before_version", "after_version",
  "before_activation", "after_activation"]

def releasedMassKeys : List String := ["forms", "relations"]

def boundedString (value : Value) (label : String) : Except Failure Bytes :=
  match value with
  | .str text =>
    if text.isEmpty || maxRefBytes < text.length || text.any Qa.EvidenceSchema.isUnclean
        || !Action.validUtf8 text then
      .error (refuse (label ++ " must be bounded control-free UTF-8"))
    else .ok text
  | _ => .error (refuse (label ++ " must be bounded control-free UTF-8"))

def positiveInteger (value : Value) (label : String) : Except Failure Number :=
  integerFrom 1 value (refuse (label ++ " must be an integer >= 1"))

def validUnitId (value : Value) : Bool :=
  match value, unitOrdinal value with
  | .str s, some n => !Number.lt n (.int 1) && (Value.num n).tostring = s.drop 5
  | _, _ => false

def boundedRefs (label : String) : Nat → List Value → Except Failure (List Bytes)
  | _, [] => .ok []
  | index, ref :: rest => do
      let text ← boundedString ref (label ++ "[" ++ toString index ++ "]")
      let texts ← boundedRefs label (index + 1) rest
      pure (text :: texts)

def normalizeRefs (value : Value) (label : String) : Except Failure (List Bytes) := do
  require (value.isTable = true ∧ value.hasMetatable = false ∧ value.keys.all isArrayKey = true)
    (refuse (label ++ " must be a dense array"))
  let items ← value.ipairs
  require (value.keys.length = items.length) (refuse (label ++ " must be a dense array"))
  require (items ≠ [] ∧ items.length ≤ maxRefs) (refuse (label ++ " has an invalid item count"))
  let texts ← boundedRefs label 1 items
  pure (sortedUnique texts)

def normalizeInheritedReason (value : Value) : Except Failure Value := do
  Qa.exactRecord value reasonKeys "DISSOLVE inherited reason" []
  require (value.get "kind" = .text "rejected" ∧ value.get "subtype" = .text "ancestor_candidate"
      ∧ Qa.taggedDigest (value.get "network_projection_id") "network-projection:" = true
      ∧ Qa.taggedDigest (value.get "historical_qa_id") "qa-history:" = true
      ∧ Qa.taggedDigest (value.get "candidate_seal_id") "candidate-seal:" = true
      ∧ Qa.taggedDigest (value.get "verdict_id") "qa-verdict:" = true)
    (refuse "DISSOLVE inherited reason identity is invalid")
  ["carrier_id", "source_corpse_id"].forM fun key => do
    let _ ← boundedString (value.get key) ("DISSOLVE inherited reason " ++ key)
    pure ()
  pure value.deepCopy

def normalizeTarget (value : Value) : Except Failure Value := do
  Qa.exactRecord value targetKeys "DISSOLVE release target" []
  require (value.get "kind" = .text "unit" ∧ validUnitId (value.get "id") = true
      ∧ (value.get "before_activation" = .text "live"
        ∨ value.get "before_activation" = .text "selected")
      ∧ value.get "after_activation" = .text "dissolved")
    (refuse "DISSOLVE release target is invalid")
  let before ← positiveInteger (value.get "before_version") "DISSOLVE target before_version"
  require (Value.eq (value.get "after_version") (.num (Number.add before (.int 1))) = true)
    (refuse "DISSOLVE target version transition is invalid")
  pure value.deepCopy

def requiredRefs (target reason : Value) : List Value :=
  [reason.get "network_projection_id", reason.get "carrier_id", reason.get "source_corpse_id",
    reason.get "historical_qa_id", reason.get "candidate_seal_id", reason.get "verdict_id",
    .str (utf8 "coverage:field_unit:" ++ (target.get "id").tostring ++ utf8 ":"
      ++ (target.get "before_version").tostring)]

def requireRefs (refs : List Bytes) (required : List Value) : Except Failure Unit :=
  match required.find? fun ref => !refs.any fun other => ref = .str other with
  | some ref => .error (.refused (.str (utf8 "DISSOLVE release omits required ref: " ++ ref.tostring)))
  | none => .ok ()

def requireReleasedMass (value : Value) : Except Failure Unit := do
  Qa.exactRecord value releasedMassKeys "DISSOLVE released mass" []
  require (Value.eq (value.get "forms") (.nat 1) = true
      ∧ Value.eq (value.get "relations") (.nat 0) = true)
    (refuse "DISSOLVE released mass is invalid")

def normalizedRelease (value target reason : Value) (refs : List Bytes) : Value :=
  .record [("protocol_version", releaseProtocol), ("release_id", value.get "release_id"),
    ("target", target), ("reason", reason), ("residue_unit_id", value.get "residue_unit_id"),
    ("released_mass", .record [("forms", .nat 1), ("relations", .nat 0)]),
    ("irreversible_identity_loss", .nat 0), ("source_refs", .array (refs.map .str)),
    ("event_truth_status", .text "runtime_confirmed"), ("content_truth_status", .text "mixed")]

def normalizeRelease (value : Value) : Except Failure Value := do
  Qa.exactRecord value releaseSchemaKeys "DISSOLVE release" ["release_id"]
  require (value.get "protocol_version" = releaseProtocol
      ∧ Value.eq (value.get "irreversible_identity_loss") (.nat 0) = true
      ∧ value.get "event_truth_status" = .text "runtime_confirmed"
      ∧ value.get "content_truth_status" = .text "mixed"
      ∧ validUnitId (value.get "residue_unit_id") = true)
    (refuse "DISSOLVE release envelope is invalid")
  let target ← normalizeTarget (value.get "target")
  require (Value.eq (target.get "id") (value.get "residue_unit_id") = false)
    (refuse "DISSOLVE residue cannot alias its target")
  let reason ← normalizeInheritedReason (value.get "reason")
  requireReleasedMass (value.get "released_mass")
  let refs ← normalizeRefs (value.get "source_refs") "DISSOLVE release source_refs"
  requireRefs refs (requiredRefs target reason)
  Qa.EvidenceSchema.normalizeIdentity (normalizedRelease value target reason refs) "release_id"
    "dissolve-release:"

def withRelease (S : Schemas) : Schemas :=
  { S with normalizeRelease := normalizeRelease, releaseSame := Qa.same }

structure Transition (target : Value) (before : Number) : Prop where
  started : target.get "before_version" = .num before
  next : Value.eq (target.get "after_version") (.num (Number.add before (.int 1))) = true
  visible : target.get "before_activation" = .text "live"
    ∨ target.get "before_activation" = .text "selected"

/-- The target of a release goes from one version to the next, and from visible to dissolved. -/
theorem transition_of_release {value normalized : Value}
    (accepted : normalizeRelease value = .ok normalized) :
    (∃ before, Transition (value.get "target") before)
      ∧ (value.get "target").get "after_activation" = .text "dissolved" := by
  unfold normalizeRelease at accepted
  simp only [bind_eq_ok] at accepted
  obtain ⟨-, -, -, -, target, made, -⟩ := accepted
  unfold normalizeTarget at made
  simp only [bind_eq_ok, require_eq_ok] at made
  obtain ⟨-, -, -, ⟨-, -, visible, dissolved⟩, before, counted, -, after, -⟩ := made
  refine ⟨⟨before, ?_, after, visible⟩, dissolved⟩
  unfold positiveInteger integerFrom at counted
  split at counted
  · rename_i n read
    split at counted
    · cases counted
    · rw [read, ← Except.ok.inj counted]
  · cases counted

end Proc17.Runtime.Field.DissolveSchema
