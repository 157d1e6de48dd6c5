import Proc17.Runtime.Repository.Effects
import Proc17.Runtime.Repository.Provider
import Proc17.Runtime.Repository.Records

/-!
# Executing a repository effect

`repository_effect.execute` of `runtime/repository_effect.lua`: an attempt is recorded, a lease is
taken, the provider writes and reads back, and a receipt and a verification are recorded.  The
Packet's fields that `repository_action` reads stand beside its trace; what `capability.resolve`
answers and how the provider ends are given.
-/

namespace Proc17.Runtime.Repository.Effect

open Lua Core Runtime.Body
open Runtime.Repository.Action (currentUnit currentContent)

/-! ## Results of the provider -/

def costKeys : List String := ["tool_calls", "file_writes", "time_ms"]

def rootKeys : List String := ["device", "inode"]

def createResultKeys : List String :=
  ["protocol_version", "operation", "outcome", "bytes", "root", "mutation_primitive_entered",
    "published", "cost"]

def readResultKeys : List String :=
  ["protocol_version", "operation", "outcome", "target_kind", "bytes", "content", "root",
    "mutation_primitive_entered", "published", "cost"]

def readRequiredKeys : List String :=
  ["protocol_version", "operation", "outcome", "target_kind", "root",
    "mutation_primitive_entered", "published", "cost"]

def validateCost (value expectedCalls expectedWrites : Value) (name : String) :
    Except Failure Unit := do
  exactKeys value costKeys costKeys name
  require ((value.get "tool_calls").eq expectedCalls = true
      ∧ (value.get "file_writes").eq expectedWrites = true
      ∧ isNonNegativeInteger (value.get "tool_calls") = true
      ∧ isNonNegativeInteger (value.get "file_writes") = true
      ∧ isNonNegativeNumber (value.get "time_ms") = true)
    (refuse (name ++ " contains impossible economics"))

def effectRootMatches (r : Registry) (lease : Nat) (root : Value) : Except Failure Bool := do
  let live ← r.leaseState lease
  pure (root.isTable && (root.get "device").eq (.num live.grant.identity.device)
    && (root.get "inode").eq (.num live.grant.identity.inode))

def validateRoot (r : Registry) (lease : Nat) (value : Value) (name : String) :
    Except Failure Unit := do
  exactKeys value rootKeys rootKeys name
  require (isNonNegativeInteger (value.get "device") = true
      ∧ isNonNegativeInteger (value.get "inode") = true)
    (refuse (name ++ " contains invalid identity"))
  let same ← effectRootMatches r lease value
  require (same = true) (refuse (name ++ " contradicts granted root identity"))

def validateCreateResult (r : Registry) (lease : Nat) (action value : Value) :
    Except Failure Value := do
  exactKeys value createResultKeys createResultKeys "repository create result"
  validateRoot r lease (value.get "root") "repository create root"
  validateCost (value.get "cost") (.nat 1) (.nat 1) "repository create cost"
  require (value.get "protocol_version" = .text "repository.provider_result.v0"
      ∧ value.get "operation" = .text "create_text_file"
      ∧ value.get "outcome" = .text "created"
      ∧ (value.get "bytes").eq ((action.get "content").get "bytes") = true
      ∧ value.get "mutation_primitive_entered" = .bool true
      ∧ value.get "published" = .bool true)
    (refuse "repository create result contradicts exact action")
  pure value.deepCopy

def requireObservedBytes (value : Value) : Except Failure Unit :=
  if value.get "target_kind" = .text "regular_file" then
    match value.get "content" with
    | .str content =>
      require (isNonNegativeInteger (value.get "bytes") = true
          ∧ (value.get "bytes").eq (.nat content.length) = true)
        (refuse "repository read result contains invalid bounded bytes")
    | _ => .error (refuse "repository read result contains invalid bounded bytes")
  else
    require (value.get "bytes" = .nil ∧ value.get "content" = .nil)
      (refuse "repository read result exposes bytes for non-regular target")

def validateReadResult (r : Registry) (lease : Nat) (value : Value) : Except Failure Value := do
  exactKeys value readResultKeys readRequiredKeys "repository read result"
  validateRoot r lease (value.get "root") "repository read root"
  validateCost (value.get "cost") (.nat 1) (.nat 0) "repository read cost"
  require (value.get "protocol_version" = .text "repository.provider_result.v0"
      ∧ value.get "operation" = .text "read_text_file"
      ∧ value.get "outcome" = .text "observed"
      ∧ (value.get "target_kind" = .text "regular_file"
        ∨ value.get "target_kind" = .text "missing" ∨ value.get "target_kind" = .text "other")
      ∧ value.get "mutation_primitive_entered" = .bool false
      ∧ value.get "published" = .bool false)
    (refuse "repository read result contradicts exact observation")
  requireObservedBytes value
  pure value.deepCopy

/-! ## Errors of the provider -/

def isBoolean : Value → Bool
  | .bool _ => true
  | _ => false

def requireResidue (value : Value) : Except Failure Unit := do
  let residue := value.get "residue"
  if residue = .nil then pure ()
  else do
    exactKeys residue Provider.residueKeys Provider.residueKeys "repository provider residue"
    require (value.get "class" = .text "ambiguous"
        ∧ residue.get "protocol_version" = .text "repository.provider_residue.v0"
        ∧ residue.get "kind" = .text "reserved_temp"
        ∧ Provider.isTempName (residue.get "relative_name") = true)
      (refuse "repository provider returned malformed residue")

def validateProviderError (value : Value) : Except Failure Value := do
  exactKeys value Provider.errorKeys Provider.errorRequired "repository provider error"
  require (value.get "protocol_version" = .text "repository.provider_error.v0"
      ∧ (value.get "class" = .text "world" ∨ value.get "class" = .text "ambiguous"
        ∨ value.get "class" = .text "contract")
      ∧ (value.get "code").isNonEmptyString = true
      ∧ (value.get "stage").isNonEmptyString = true
      ∧ isBoolean (value.get "mutation_primitive_entered") = true
      ∧ (isBoolean (value.get "published") = true
        ∨ (value.get "class" = .text "ambiguous" ∧ value.get "published" = .text "unknown")))
    (refuse "repository provider returned malformed error")
  require (value.get "errno" = .nil ∨ (isNonNegativeInteger (value.get "errno") = true
      ∧ (value.get "errno").eq (.nat 0) = false))
    (refuse "repository provider returned invalid errno")
  let cost := value.get "cost"
  require (cost.isTable = true)
    (refuse "repository provider failure cost must be a plain table")
  validateCost cost (cost.get "tool_calls") (cost.get "file_writes")
    "repository provider failure cost"
  require (value.get "class" ≠ .text "contract")
    (.refused (.str (utf8 "repository provider reported trusted contract failure: "
      ++ (value.get "stage").tostring ++ utf8 "/" ++ (value.get "code").tostring)))
  requireResidue value
  pure value.deepCopy

/-- One axis of `merge_cost`. -/
def costSum (left right : Value) (axis : String) : Except Failure (String × Value) := do
  let sum ← Value.arith Number.add ((left.get axis).orElse (.nat 0))
    ((right.get axis).orElse (.nat 0))
  pure (axis, .num sum)

def mergeCost (left right : Value) : Except Failure (List (String × Value)) :=
  costKeys.mapM (costSum left right)

/-- One axis of `normalize_effect_cost`: a zero is left out. -/
def effectAmount (amount : String × Value) : Except Failure (String × Value) :=
  match amount.2 with
  | .num n =>
    if Number.lt n (.int 0) then .error (raise "invalid effect failure cost")
    else .ok (amount.1, if Number.eq n (.int 0) then .nil else .num n)
  | _ => .error (raise "invalid effect failure cost")

/-- `substrate_contract.effect_failure` of the source `sandbox`. -/
def effectFailure (code message : Value) (retryability : String)
    (cost : List (String × Value)) (detail : Value) : Except Failure Value := do
  require (code.isNonEmptyString = true) (raise "effect failure code is required")
  require (message.isString = true) (raise "effect failure message must be string")
  let amounts ← cost.mapM effectAmount
  pure (.record [
    ("kind", .text "effect_failure"),
    ("source", .text "sandbox"),
    ("code", code),
    ("message", message),
    ("source_refs", .emptyTable),
    ("retryability", .text retryability),
    ("cost", .record amounts),
    ("detail", detail),
    ("event_truth_status", .text "runtime_confirmed")])

def mappedCodes : List (String × String) :=
  [("revoked_capability", "grant_revoked"), ("grant_revoked", "grant_revoked"),
    ("quarantined_capability", "grant_quarantined"), ("grant_quarantined", "grant_quarantined"),
    ("missing_capability", "grant_missing"), ("ambiguous_capability", "grant_ambiguous"),
    ("action_already_dispatched", "action_already_dispatched"),
    ("effect_limit_exhausted", "effect_limit_exhausted"),
    ("capability_bounds_exceeded", "capability_bounds_exceeded")]

def terminalCodes : List String :=
  ["grant_revoked", "revoked_capability", "grant_quarantined", "quarantined_capability"]

/-- `capability_failure(err) or err` -/
def capabilityFailure : Failure → Failure
  | .refused err =>
    match mappedCodes.find? fun codes => err.get "code" = .text codes.1 with
    | none => .refused err
    | some codes =>
      let message :=
        if (err.get "message").isString then err.get "message" else .text codes.2
      match effectFailure (.text codes.2) message
          (if codes.1 ∈ terminalCodes then "terminal" else "unknown") [] .nil with
      | .ok failure => .refused failure
      | .error failure => failure
  | failure => failure

def providerFailure (value prior : Value) : Except Failure (Value × Value) := do
  let validated ← validateProviderError value
  let cost ← mergeCost prior (validated.get "cost")
  let failure ← effectFailure (validated.get "code")
    (.str ((validated.get "stage").tostring ++ utf8 "/" ++ (validated.get "code").tostring))
    (if validated.get "class" = .text "ambiguous" then "terminal" else "unknown") cost validated
  pure (failure, validated)

/-! ## Before the provider -/

structure Site where
  packet : Packet
  registry : Registry

/-- What `execute` is called with, and how foreign code ends. -/
structure Order where
  inst : Value
  action : Value
  derive : DeriveIntent
  resolved : Except Failure Value
  clock : Nat → Int
  create : World
  read : World

def matchesGrant (found action : Value) : Bool :=
  ["grant_id", "revision", "provider_id", "root_fingerprint", "root_authority_id",
    "policy_digest"].all fun key => (found.get key).eq ((action.get "capability").get key)

/-- `#text` of a value already known to be a text. -/
def textLength (value : Value) : Value :=
  match value with
  | .str text => .nat text.length
  | _ => .nil

def materialize (order : Order) : Except Failure Value := do
  let action := order.action
  Action.validate order.derive order.inst action
  let found ← order.resolved
  require (matchesGrant found action = true)
    (refuse "repository action grant revision or identity mismatch")
  let unit ← currentUnit order.inst ((action.get "work_unit").get "id")
  let given ← currentContent unit
  let content ← Action.validateTextContent given
  let path := (action.get "target").get "relative_path"
  let bounds := found.get "bounds"
  let longPath ← Value.less (bounds.get "max_relative_path_bytes") (textLength path)
  let longContent ← Value.less (bounds.get "max_content_bytes") (.nat content.length)
  require (longPath = false ∧ longContent = false)
    (refuse "repository action exceeds current grant bounds")
  require (((action.get "content").get "bytes").eq (.nat content.length) = true
      ∧ (action.get "content").get "sha256" = .str (Digest.sha256 content))
    (refuse "repository action materialized content mismatch")
  pure (.record [
    ("protocol_version", .text "repository.create_text_file.request.v0"),
    ("action_id", action.get "action_id"),
    ("grant_id", found.get "grant_id"),
    ("grant_revision", found.get "revision"),
    ("root_fingerprint", found.get "root_fingerprint"),
    ("relative_path", path),
    ("content", .str content),
    ("content_bytes", .nat content.length),
    ("content_sha256", .str (Digest.sha256 content)),
    ("precondition", .text "absent")])

/-- The texts that `unique_refs` keeps of its arguments. -/
def uniqueRefs (refs : List Value) : Value :=
  textArray ((refs.filterMap fun ref =>
    match ref with
    | .str (b :: rest) => some (b :: rest)
    | _ => none).reverse.dedup.reverse)

/-- `ipairs(source or {})` for an argument of `unique_refs`. -/
def refItems (source : Value) : Except Failure (List Value) :=
  match source with
  | .str text => .ok [.str text]
  | other => (other.orElse .emptyTable).ipairs

structure Prepared where
  request : Value
  targetRef : Bytes
  attempt : Value

/-- `execute` up to the attempt. -/
def prepare (site : Site) (order : Order) : Except Failure Prepared := do
  let action := order.action
  let capability := action.get "capability"
  let tick ← site.packet.assertActorTick (Topology.value .logic) "execute repository effect"
  let request ← (materialize order).mapError capabilityFailure
  let targetRef ← Digest.identify "repository-target:" (.record [
    ("root_fingerprint", capability.get "root_fingerprint"),
    ("relative_path", (action.get "target").get "relative_path"),
    ("precondition", (action.get "target").get "precondition")])
  let attemptId ← Digest.identify "repository-attempt:" (.record [
    ("action_id", action.get "action_id"),
    ("tick_ref", tick.event.id),
    ("target_ref", .str targetRef)])
  let scope ← refItems (action.get "scope_refs")
  let provenance ← refItems (action.get "provenance_refs")
  pure ⟨request, targetRef, .record [
    ("protocol_version", .text "repository.effect_attempt.v0"),
    ("attempt_id", .str attemptId),
    ("action_id", action.get "action_id"),
    ("grant_id", capability.get "grant_id"),
    ("grant_revision", capability.get "revision"),
    ("operation", .text "create_text_file"),
    ("target_ref", .str targetRef),
    ("work_unit_id", (action.get "work_unit").get "id"),
    ("work_unit_version", (action.get "work_unit").get "version"),
    ("source_refs", uniqueRefs (action.get "action_id" :: scope ++ provenance)),
    ("event_truth_status", .text "runtime_confirmed")]⟩

/-! ## The provider's answers -/

/-- How a call under `call_boundary` ends. -/
inductive Boundary where
  | panicked (message : Value)
  | answered (result err : Value)

def callBoundary : Except Failure (List Value) → Boundary
  | .ok values => .answered (values.getD 0 .nil) (values.getD 1 .nil)
  | .error (.refused err) => .answered .nil err
  | .error (.raised err) =>
    .panicked (.str (utf8 "repository provider invariant failure: " ++ err.tostring))
  | .error (.fault operation) =>
    .panicked (.str (utf8 "repository provider invariant failure: " ++ utf8 operation))

def quarantine (site : Site) (w : World) (lease : Nat) (reason : Value) (text : String)
    (answer : Value) : Reply Site Value :=
  let quarantined := site.registry.quarantineEffect w lease reason
  let after : Site := ⟨site.packet, quarantined.2⟩
  match quarantined.1 with
  | .ok _ => (.error (.refused answer), after)
  | .error (.refused err) => (.error (refuseWith text err), after)
  | .error failure => (.error failure, after)

/-- `quarantine_invariant`, followed by the return of what was wrong. -/
def quarantineInvariant (site : Site) (w : World) (lease : Nat) (phase : String) (err : Value) :
    Reply Site Value :=
  quarantine site w lease (.record [
    ("code", .text "malformed_trusted_repository_result"),
    ("phase", .text phase),
    ("detail", .str err.tostring)]) "repository invariant quarantine failed: " err

/-- The provider answered with an error; `doubtful` decides whether the root is quarantined. -/
def providerRefused (site : Site) (w : World) (lease : Nat) (err prior : Value)
    (doubtful : Value → Bool) : Reply Site Value :=
  if err.isTable then
    match providerFailure err prior with
    | .error failure => (.error failure, site)
    | .ok (failure, validated) =>
      if doubtful validated then
        quarantine site w lease validated "repository effect quarantine failed: " failure
      else (.error (.refused failure), site)
  else (.error (.refused err), site)

def createDoubtful (validated : Value) : Bool :=
  validated.get "class" = .text "ambiguous" || validated.get "published" = .text "unknown"

def readDoubtful (validated : Value) : Bool := validated.get "class" = .text "ambiguous"

/-! ## After the provider -/

def receiptPayload (order : Order) (prepared : Prepared) (attempt : Recorded) (writer : Value) :
    Except Failure Value := do
  let action := order.action
  let capability := action.get "capability"
  let receiptId ← Digest.identify "repository-receipt:" (.record [
    ("attempt_ref", attempt.event.id),
    ("result", writer),
    ("content_sha256", (action.get "content").get "sha256")])
  pure (.record [
    ("protocol_version", .text "repository.effect_receipt.v0"),
    ("receipt_id", .str receiptId),
    ("attempt_id", attempt.payload.get "attempt_id"),
    ("action_id", action.get "action_id"),
    ("grant_id", capability.get "grant_id"),
    ("grant_revision", capability.get "revision"),
    ("provider_id", capability.get "provider_id"),
    ("operation", .text "create_text_file"),
    ("outcome", .text "created"),
    ("target", .record [
      ("relative_path", (action.get "target").get "relative_path"),
      ("kind", .text "regular_file")]),
    ("provider_observation", .record [
      ("bytes", writer.get "bytes"),
      ("sha256", (action.get "content").get "sha256")]),
    ("cost", (writer.get "cost").deepCopy),
    ("source_refs", uniqueRefs [attempt.event.id, attempt.payload.get "attempt_id",
      action.get "action_id", .str prepared.targetRef]),
    ("event_truth_status", .text "runtime_confirmed"),
    ("content_truth_status", action.get "content_truth_status")])

structure Finding where
  observed : Value
  verdict : String
  reason : String

def judge (action observed : Value) : Finding :=
  let content := action.get "content"
  match observed.get "target_kind", observed.get "content" with
  | .str kind, .str text =>
    if kind = utf8 "regular_file" then
      let projection := .record [
        ("bytes", observed.get "bytes"), ("sha256", .str (Digest.sha256 text))]
      if (observed.get "bytes").eq (content.get "bytes") = false then
        ⟨projection, "rejected", "content_length_mismatch"⟩
      else if content.get "sha256" ≠ .str (Digest.sha256 text) then
        ⟨projection, "rejected", "content_digest_mismatch"⟩
      else ⟨projection, "accepted", "exact_content_observed"⟩
    else ⟨.emptyTable, "rejected",
      if kind = utf8 "other" then "target_not_regular" else "target_missing"⟩
  | kind, _ => ⟨.emptyTable, "rejected",
      if kind = .text "other" then "target_not_regular" else "target_missing"⟩

def verificationPayload (order : Order) (attempt receipt : Recorded) (observed : Value) :
    Except Failure Value := do
  let action := order.action
  let capability := action.get "capability"
  let finding := judge action observed
  let expected := .record [
    ("bytes", (action.get "content").get "bytes"),
    ("sha256", (action.get "content").get "sha256")]
  let verificationId ← Digest.identify "repository-verification:" (.record [
    ("receipt_ref", receipt.event.id),
    ("action_id", action.get "action_id"),
    ("observed", finding.observed),
    ("expected", expected),
    ("verdict", .text finding.verdict),
    ("reason", .text finding.reason)])
  pure (.record [
    ("protocol_version", .text "repository.verification.v0"),
    ("verification_id", .str verificationId),
    ("action_id", action.get "action_id"),
    ("attempt_id", attempt.payload.get "attempt_id"),
    ("receipt_ref", receipt.event.id),
    ("grant_id", capability.get "grant_id"),
    ("grant_revision", capability.get "revision"),
    ("provider_id", capability.get "provider_id"),
    ("target", .record [
      ("relative_path", (action.get "target").get "relative_path"),
      ("kind", observed.get "target_kind")]),
    ("observed", finding.observed),
    ("expected", expected),
    ("verdict", .text finding.verdict),
    ("reason", .text finding.reason),
    ("cost", (observed.get "cost").deepCopy),
    ("source_refs", uniqueRefs [receipt.event.id, attempt.event.id,
      attempt.payload.get "attempt_id", action.get "action_id"]),
    ("event_truth_status", .text "runtime_confirmed"),
    ("content_truth_status", action.get "content_truth_status")])

/-- `assert(repository_action.route_scope(action))` -/
def routeScope (action : Value) : Except Failure Value :=
  match (do
      Action.validateProjection action
      (action.get "scope_refs").ipairs : Except Failure (List Value)) with
  | .ok scope =>
    .ok (.array ((scope ++ [action.get "action_id"]).insertionSort fun a b =>
      Json.TextLe a.tostring b.tostring))
  | .error (.refused err) => .error (.raised err)
  | .error failure => .error failure

def effectResult (order : Order) (writer observed : Value)
    (attempt receipt verification : Recorded) : Except Failure Value := do
  let finding := judge order.action observed
  let cost ← mergeCost (writer.get "cost") (observed.get "cost")
  let scope ← routeScope order.action
  pure (.record [
    ("protocol_version", .text "repository.effect_result.v0"),
    ("status", .text finding.verdict),
    ("reason", .text finding.reason),
    ("action_id", order.action.get "action_id"),
    ("attempt_ref", attempt.event.id),
    ("receipt_ref", receipt.event.id),
    ("verification_ref", verification.event.id),
    ("receipt", receipt.payload.deepCopy),
    ("verification", verification.payload.deepCopy),
    ("cost", .record cost),
    ("effect_scope_refs", scope),
    ("truth_status", .text "runtime_confirmed"),
    ("content_truth_status", order.action.get "content_truth_status")])

def verifyWritten (site : Site) (order : Order) (attempt receipt : Recorded)
    (writer observed : Value) : Reply Site Value :=
  transact (verificationPayload order attempt receipt observed)
    (fun payload =>
      let recorded := recordRepositoryVerification site.packet (order.clock 2) payload
      let after : Site := ⟨recorded.2, site.registry⟩
      match recorded.1 with
      | .error failure => (.error failure, after)
      | .ok verification =>
        (effectResult order writer observed attempt receipt verification, after)) site

def readBack (site : Site) (order : Order) (lease : Nat) (attempt receipt : Recorded)
    (writer : Value) : Reply Site Value :=
  let called := site.registry.effectReadBack order.read lease
  let after : Site := ⟨site.packet, called.2⟩
  match callBoundary called.1 with
  | .panicked message => (.error (.refused message), after)
  | .answered result err =>
    if result.truthy then
      match validateReadResult after.registry lease result with
      | .error (.refused wrong) => quarantineInvariant after order.read lease "read_result" wrong
      | .error failure => (.error failure, after)
      | .ok observed => verifyWritten after order attempt receipt writer observed
    else providerRefused after order.read lease err (writer.get "cost") readDoubtful

def receiveWritten (site : Site) (order : Order) (prepared : Prepared) (lease : Nat)
    (attempt : Recorded) (writer : Value) : Reply Site Value :=
  transact (receiptPayload order prepared attempt writer)
    (fun payload =>
      let recorded := recordRepositoryEffectReceipt site.packet (order.clock 1) payload
      let after : Site := ⟨recorded.2, site.registry⟩
      match recorded.1 with
      | .error failure => (.error failure, after)
      | .ok receipt => readBack after order lease attempt receipt writer) site

def write (site : Site) (order : Order) (prepared : Prepared) (attempt : Recorded) (lease : Nat) :
    Reply Site Value :=
  let called := site.registry.effectCreate order.create lease prepared.request
  let after : Site := ⟨site.packet, called.2⟩
  match callBoundary called.1 with
  | .panicked message => (.error (.refused message), after)
  | .answered result err =>
    if result.truthy then
      match validateCreateResult after.registry lease order.action result with
      | .error (.refused wrong) =>
        quarantineInvariant after order.create lease "create_result" wrong
      | .error failure => (.error failure, after)
      | .ok writer => receiveWritten after order prepared lease attempt writer
    else providerRefused after order.create lease err .nil createDoubtful

def execute (site : Site) (order : Order) : Reply Site Value :=
  transact (prepare site order)
    (fun prepared =>
      let recorded := recordRepositoryEffectAttempt site.packet (order.clock 0) prepared.attempt
      match recorded.1 with
      | .error failure => (.error failure, ⟨recorded.2, site.registry⟩)
      | .ok attempt =>
        let begun := site.registry.beginEffect order.derive order.action order.inst
        let after : Site := ⟨recorded.2, begun.2⟩
        match begun.1 with
        | .error failure => (.error (capabilityFailure failure), after)
        | .ok lease => write after order prepared attempt lease) site

end Proc17.Runtime.Repository.Effect
