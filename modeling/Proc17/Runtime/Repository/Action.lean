import Proc17.Runtime.Repository.Checks

/-!
# Repository actions

`repository_action.validate`: the shape of an action, its content address, and its
agreement with the Packet it acts for.  The intent the Packet currently derives comes
from `repository_intent.derive`, which reads the whole field; it is a parameter here.
-/

namespace Proc17.Runtime.Repository

open Lua Core

abbrev DeriveIntent := Value → Value → Except Failure Value

namespace Action

def actionKeys : List String :=
  ["protocol_version", "action_id", "intent_id", "packet_id", "session_id", "lineage_id",
    "generation", "work_unit", "capability", "operation", "target", "content",
    "required_budget", "scope_refs", "provenance_refs", "event_truth_status",
    "content_truth_status"]

def workUnitKeys : List String := ["id", "version", "formation_event_ref"]

def capabilityKeys : List String :=
  ["grant_id", "revision", "repository_id", "provider_id", "root_fingerprint",
    "root_authority_id", "policy_digest"]

def targetKeys : List String := ["relative_path", "precondition"]

def contentKeys : List String := ["ref", "bytes", "sha256"]

def contentRefKeys : List String := ["unit_id", "unit_version", "selector"]

def budgetKeys : List String := ["tool_calls", "file_writes"]

def forbiddenProjectionKeys : List String :=
  ["provider", "repository_handle", "root_handle", "host_path", "project_base", "command",
    "shell"]

mutual
/-- `contains_forbidden_projection_key`: the key found.  A table met a second time was
searched before and gives nothing new. -/
def forbiddenKey : Value → Option Value
  | .table _ entries => forbiddenEntry entries
  | _ => none

def forbiddenEntry : List (Value × Value) → Option Value
  | [] => none
  | entry :: rest => (forbiddenIn entry).orElse fun _ => forbiddenEntry rest

def forbiddenIn : Value × Value → Option Value
  | (key, child) =>
    if forbiddenProjectionKeys.any (fun name => key = .text name) then some key
    else forbiddenKey child
end

def identityProjection (action : Value) : Except Failure Value :=
  action.deepCopy.setField "action_id" .nil

def requireIdentity (action : Value) : Except Failure Unit := do
  let seed ← identityProjection action
  let id ← Digest.identify "repository-action:" seed
  require (action.get "action_id" = .str id) (refuse "repository action identity mismatch")

def validateProjection (action : Value) : Except Failure Unit := do
  validateKeys action actionKeys "repository action"
  require (action.get "protocol_version" = .text "repository.action.v0"
      ∧ (action.get "action_id").isNonEmptyString = true
      ∧ (action.get "intent_id").isNonEmptyString = true
      ∧ (action.get "packet_id").isNonEmptyString = true
      ∧ (action.get "session_id").isNonEmptyString = true
      ∧ (action.get "lineage_id").isNonEmptyString = true
      ∧ (action.get "generation").isPositiveInteger = true
      ∧ action.get "operation" = .text "create_text_file"
      ∧ action.get "event_truth_status" = .text "runtime_confirmed"
      ∧ (action.get "content_truth_status").isString = true)
    (refuse "invalid repository action projection")
  validateKeys (action.get "work_unit") workUnitKeys "repository action work_unit"
  validateKeys (action.get "capability") capabilityKeys "repository action capability"
  validateKeys (action.get "target") targetKeys "repository action target"
  validateKeys (action.get "content") contentKeys "repository action content"
  validateKeys (action.get "required_budget") budgetKeys "repository action required_budget"
  validateKeys ((action.get "content").get "ref") contentRefKeys
    "repository action content ref"
  match forbiddenKey action with
  | some key =>
    .error (refuseWith "repository action projection contains forbidden key: " key)
  | none => requireIdentity action

/-! ## The Packet the action acts for -/

def indexBy (v key : Value) : Except Failure Value :=
  match v with
  | .table _ entries => .ok (Value.lookup entries key)
  | .str _ => .ok .nil
  | _ => .error (.fault "index")

def guarded (v : Value) (name : String) : Except Failure Value :=
  if v.truthy then v.index name else .ok v

def currentUnit (inst id : Value) : Except Failure Value := do
  let field ← guarded inst "field"
  let units ← guarded field "units"
  if units.truthy then
    let unit ← indexBy units id
    require (unit.isTable = true ∧ (unit.get "id").eq id = true)
      (refuse "repository action work unit is missing")
    pure unit
  else .error (refuse "repository action work unit is missing")

/-- The first result of `current_content`. -/
def currentContent (unit : Value) : Except Failure Value := do
  let carrier ← unit.index "carrier"
  let value ← guarded carrier "value"
  pure (value.get "content")

def isContinuation (b : UInt8) : Bool := 128 ≤ b && b ≤ 191

/-- `utf8.len(s) ~= nil`: no overlong form, no surrogate, nothing above `U+10FFFF`. -/
def validUtf8 : Bytes → Bool
  | [] => true
  | a :: rest =>
    if a < 128 then validUtf8 rest
    else match rest with
      | [] => false
      | b :: rest =>
        if 194 ≤ a && a ≤ 223 then isContinuation b && validUtf8 rest
        else match rest with
          | [] => false
          | c :: rest =>
            if 224 ≤ a && a ≤ 239 then
              isContinuation b && isContinuation c && (a ≠ 224 || 160 ≤ b)
                && (a ≠ 237 || b ≤ 159) && validUtf8 rest
            else match rest with
              | [] => false
              | d :: rest =>
                240 ≤ a && a ≤ 244 && isContinuation b && isContinuation c
                  && isContinuation d && (a ≠ 240 || 144 ≤ b) && (a ≠ 244 || b ≤ 143)
                  && validUtf8 rest

def relativeComponent (component : Bytes) : Except Failure Unit := do
  require (isDot component = false
      ∧ ([".git", ".agents", ".codex"].any fun name => component = utf8 name) = false)
    (refuse "relative path has a forbidden component")
  require (isComponent component = true)
    (refuse "relative path component is outside v0 grammar")

def validateRelativePath (value : Value) : Except Failure Unit :=
  match value with
  | .str path => do
      require (path ≠ [] ∧ validUtf8 path = true)
        (refuse "relative path must be a non-empty UTF-8 string")
      require (path.any isControl = false ∧ path.head? ≠ some 47 ∧ path.getLast? ≠ some 47
          ∧ hasDoubleSlash path = false)
        (refuse "relative path has forbidden boundary or control bytes")
      (splitPath path).forM relativeComponent
      require (splitPath path ≠ []) (refuse "relative path has no components")
  | _ => .error (refuse "relative path must be a non-empty UTF-8 string")

def validateTextContent (value : Value) : Except Failure Bytes :=
  match value with
  | .str content => do
      require (validUtf8 content = true) (refuse "content must be a UTF-8 string")
      require (content.contains 0 = false) (refuse "content must not contain NUL")
      pure content
  | _ => .error (refuse "content must be a UTF-8 string")

def strictArray (value : Value) (name : String) : Except Failure (List Value) := do
  require (value.isTable = true) (refuse (name ++ " must be table"))
  let items ← value.ipairs
  require (items.all Value.isNonEmptyString = true ∧ noRepeats items = true)
    (refuse (name ++ " must contain unique non-empty strings"))
  require (value.keys.all (indexKey items.length) = true) (refuse (name ++ " must be an array"))
  pure items

/-- `same_array(left, right)` for an array already copied on the right. -/
def sameArray (left : Value) (right : List Value) : Bool :=
  match left with
  | .table _ _ =>
    match left.ipairs with
    | .ok items => items = right
    | .error _ => false
  | _ => false

/-- The part of `validate` up to the current intent: what the action says about itself
and the work unit it names.  Gives the unit and the two arrays of refs. -/
def validateClaims (inst action : Value) :
    Except Failure (Value × List Value × List Value) := do
  let id ← inst.index "id"
  let session ← inst.index "session_id"
  let lineage ← inst.index "lineage_id"
  let generation ← inst.index "generation"
  require ((action.get "packet_id").eq id = true ∧ (action.get "session_id").eq session = true
      ∧ (action.get "lineage_id").eq lineage = true
      ∧ (action.get "generation").eq generation = true)
    (refuse "repository action Packet identity mismatch")
  let work := action.get "work_unit"
  requireTexts work ["id"] "work unit "
  requirePositive work ["version"] "work unit "
  let _ ← nonEmpty (work.get "formation_event_ref") "formation event ref"
  let unit ← currentUnit inst (work.get "id")
  require ((unit.get "version").eq (work.get "version") = true)
    (refuse "repository action work unit version mismatch")
  require (unit.get "activation" = .text "live" ∨ unit.get "activation" = .text "selected")
    (refuse "repository action work unit is not active")
  let capability := action.get "capability"
  requireTexts capability
    ["grant_id", "repository_id", "provider_id", "root_fingerprint", "root_authority_id",
      "policy_digest"] "capability "
  let _ ← positiveInteger (capability.get "revision") "grant revision"
  let target := action.get "target"
  require (target.get "precondition" = .text "absent")
    (refuse "repository action target must require absence")
  validateRelativePath (target.get "relative_path")
  let content := action.get "content"
  let ref := content.get "ref"
  require ((ref.get "unit_id").eq (work.get "id") = true
      ∧ (ref.get "unit_version").eq (work.get "version") = true
      ∧ ref.get "selector" = .text "carrier.value.content")
    (refuse "repository action content referent mismatch")
  let _ ← identityComponent (content.get "bytes") "action content bytes"
  require ((content.get "sha256").isString = true ∧ (content.get "sha256").length.toOption = some 64)
    (refuse "repository action content digest is invalid")
  let budget := action.get "required_budget"
  require ((budget.get "tool_calls").eq (.nat 2) = true
      ∧ (budget.get "file_writes").eq (.nat 1) = true)
    (refuse "repository action required budget mismatch")
  let scopeRefs ← strictArray (action.get "scope_refs") "action scope_refs"
  let provenanceRefs ← strictArray (action.get "provenance_refs") "action provenance_refs"
  pure (unit, scopeRefs, provenanceRefs)

def intentCode (err : Value) : Value :=
  if err.isTable then (err.get "code").orElse err else err

def currentIntent (derive : DeriveIntent) (inst : Value) : Except Failure Value := do
  let regime ← inst.index "regime"
  let encoding ← regime.index "encoding"
  let bounds ← encoding.index "bounds"
  let maxItems ← bounds.index "max_output_units"
  match derive inst maxItems with
  | .error (.refused err) =>
    .error (refuseWith "repository action current intent unavailable: " (intentCode err))
  | answer => answer

def matchesIntent (intent action : Value) (scopeRefs provenanceRefs : List Value) : Bool :=
  let work := action.get "work_unit"
  let content := action.get "content"
  (intent.get "intent_id").eq (action.get "intent_id")
    && (intent.get "source_unit_id").eq (work.get "id")
    && (intent.get "source_unit_version").eq (work.get "version")
    && (intent.get "source_formation_event_ref").eq (work.get "formation_event_ref")
    && (intent.get "relative_path").eq ((action.get "target").get "relative_path")
    && (intent.get "content_bytes").eq (content.get "bytes")
    && (intent.get "content_sha256").eq (content.get "sha256")
    && (intent.get "content_truth_status").eq (action.get "content_truth_status")
    && sameArray (intent.get "scope_refs") scopeRefs
    && sameArray (intent.get "provenance_refs") provenanceRefs

def validate (derive : DeriveIntent) (inst action : Value) : Except Failure Unit := do
  validateProjection action
  -- the envelope, the names and the key sets checked again here hold by now
  let (unit, scopeRefs, provenanceRefs) ← validateClaims inst action
  let intent ← currentIntent derive inst
  require (matchesIntent intent action scopeRefs provenanceRefs = true)
    (refuse "repository action does not match current intent")
  let given ← currentContent unit
  let content ← validateTextContent given
  require (((action.get "content").get "bytes").eq (.nat content.length) = true
      ∧ (action.get "content").get "sha256" = .str (Digest.sha256 content))
    (refuse "repository action content digest mismatch")
  requireIdentity action

end Action

end Proc17.Runtime.Repository
