import Proc17.Core.Packet.Machine
import Proc17.Runtime.Repository.Inventory

/-!
# Repository records of the body

The writers of `runtime/body.lua` for the three records of a repository effect: the attempt, the
receipt and the verification.  A payload is checked as it is given and again as it is copied, and
becomes an event of the organ whose tick is current.
-/

namespace Proc17.Runtime.Body

open Lua Core Runtime.Repository List Value Packet

/-! ## Checks -/

def repositoryRefs (value : Value) : Bool :=
  value.isTable && value.keys.all isArrayKey
    && match value.ipairs with
      | .ok items => value.keys.length = items.length && items.all Value.isNonEmptyString
      | .error _ => false

def effectCostKeys : List String := ["tool_calls", "file_writes", "time_ms"]

def validEffectCost (value : Value) (toolCalls fileWrites : Nat) : Bool :=
  (exactKeys value effectCostKeys [] "repository effect cost").isOk
    && (value.get "tool_calls").eq (.nat toolCalls)
    && (value.get "file_writes").eq (.nat fileWrites)
    && isNonNegativeNumber (value.get "time_ms")

def isDigestText : Value → Bool
  | .str text => text.length = 64
  | _ => false

def requireNamed (value : Value) (keys : List String) (label : String) : Except Failure Unit :=
  keys.forM fun key =>
    require ((value.get key).isNonEmptyString = true) (refuse (label ++ key))

def attemptKeys : List String :=
  ["protocol_version", "attempt_id", "action_id", "grant_id", "grant_revision", "operation",
    "target_ref", "work_unit_id", "work_unit_version", "source_refs", "event_truth_status"]

def validateRepositoryAttempt (value : Value) : Except Failure Unit := do
  exactKeys value attemptKeys [] "repository effect attempt"
  require (value.get "protocol_version" = .text "repository.effect_attempt.v0"
      ∧ value.get "operation" = .text "create_text_file"
      ∧ value.get "event_truth_status" = .text "runtime_confirmed"
      ∧ (value.get "grant_revision").isPositiveInteger = true
      ∧ (value.get "work_unit_version").isPositiveInteger = true
      ∧ repositoryRefs (value.get "source_refs") = true)
    (refuse "invalid repository effect attempt")
  requireNamed value ["attempt_id", "action_id", "grant_id", "target_ref", "work_unit_id"]
    "invalid repository effect attempt "

def receiptKeys : List String :=
  ["protocol_version", "receipt_id", "attempt_id", "action_id", "grant_id", "grant_revision",
    "provider_id", "operation", "outcome", "target", "provider_observation", "cost",
    "source_refs", "event_truth_status", "content_truth_status"]

def targetKeys : List String := ["relative_path", "kind"]

def observationKeys : List String := ["bytes", "sha256"]

def validateRepositoryReceipt (value : Value) : Except Failure Unit := do
  exactKeys value receiptKeys [] "repository effect receipt"
  let target := value.get "target"
  let observed := value.get "provider_observation"
  exactKeys target targetKeys [] "repository receipt target"
  exactKeys observed observationKeys [] "repository receipt observation"
  require (value.get "protocol_version" = .text "repository.effect_receipt.v0"
      ∧ value.get "operation" = .text "create_text_file"
      ∧ value.get "outcome" = .text "created"
      ∧ target.get "kind" = .text "regular_file"
      ∧ value.get "event_truth_status" = .text "runtime_confirmed"
      ∧ (value.get "grant_revision").isPositiveInteger = true
      ∧ isNonNegativeInteger (observed.get "bytes") = true
      ∧ isDigestText (observed.get "sha256") = true
      ∧ validEffectCost (value.get "cost") 1 1 = true
      ∧ repositoryRefs (value.get "source_refs") = true
      ∧ (value.get "content_truth_status").isNonEmptyString = true)
    (refuse "invalid repository effect receipt")
  requireNamed value ["receipt_id", "attempt_id", "action_id", "grant_id", "provider_id"]
    "invalid repository effect receipt "
  require ((target.get "relative_path").isNonEmptyString = true)
    (refuse "invalid repository receipt target path")

def verificationKeys : List String :=
  ["protocol_version", "verification_id", "action_id", "attempt_id", "receipt_ref", "grant_id",
    "grant_revision", "provider_id", "target", "observed", "expected", "verdict", "reason",
    "cost", "source_refs", "event_truth_status", "content_truth_status"]

def observedShape (observed : Value) : Bool :=
  (observed.get "bytes" = .nil && observed.get "sha256" = .nil)
    || (isNonNegativeInteger (observed.get "bytes") && isDigestText (observed.get "sha256"))

def validateRepositoryVerification (value : Value) : Except Failure Unit := do
  exactKeys value verificationKeys [] "repository verification"
  let target := value.get "target"
  let observed := value.get "observed"
  let expected := value.get "expected"
  exactKeys target targetKeys [] "repository verification target"
  exactKeys observed observationKeys [] "repository verification observed"
  exactKeys expected observationKeys [] "repository verification expected"
  require (value.get "protocol_version" = .text "repository.verification.v0"
      ∧ (value.get "verdict" = .text "accepted" ∨ value.get "verdict" = .text "rejected")
      ∧ (target.get "kind" = .text "regular_file" ∨ target.get "kind" = .text "missing"
        ∨ target.get "kind" = .text "other")
      ∧ value.get "event_truth_status" = .text "runtime_confirmed"
      ∧ (value.get "grant_revision").isPositiveInteger = true
      ∧ observedShape observed = true
      ∧ isNonNegativeInteger (expected.get "bytes") = true
      ∧ isDigestText (expected.get "sha256") = true
      ∧ validEffectCost (value.get "cost") 1 0 = true
      ∧ repositoryRefs (value.get "source_refs") = true
      ∧ (value.get "reason").isNonEmptyString = true
      ∧ (value.get "content_truth_status").isNonEmptyString = true)
    (refuse "invalid repository verification")
  requireNamed value
    ["verification_id", "action_id", "attempt_id", "receipt_ref", "grant_id", "provider_id"]
    "invalid repository verification "

/-! ## Writers -/

structure Recorded where
  payload : Value
  event : Event

def recordPlan (p : Packet) (actor : Operator) (type : EventType) (payload : Value)
    (validator : Value → Except Failure Unit) : Except Failure Value := do
  let _ ← p.assertActorTick (Topology.value actor) ("record " ++ type.name)
  validator payload
  validator payload.deepCopy
  pure payload.deepCopy

/-- `record_repository_event`; `count` is the revision axis it advances. -/
def recordRepositoryEvent (p : Packet) (now : Int) (actor : Operator) (type : EventType)
    (payload : Value) (validator : Value → Except Failure Unit) (count : Packet → Packet) :
    Reply Packet Recorded :=
  transact (recordPlan p actor type payload validator)
    (fun stored =>
      (p.appendRepositoryEvent now (Packet.sealedEvent (.text type.name) (Topology.value actor)
        stored ((stored.get "cost").orElse .emptyTable))).andThen fun event q =>
          (.ok ⟨stored.deepCopy, event⟩, count q)) p

def recordRepositoryEffectAttempt (p : Packet) (now : Int) (payload : Value) :
    Reply Packet Recorded :=
  recordRepositoryEvent p now .logic .repositoryEffectAttempt payload validateRepositoryAttempt id

def recordRepositoryEffectReceipt (p : Packet) (now : Int) (payload : Value) :
    Reply Packet Recorded :=
  recordRepositoryEvent p now .logic .repositoryEffectReceipt payload validateRepositoryReceipt id

def recordRepositoryVerification (p : Packet) (now : Int) (payload : Value) :
    Reply Packet Recorded :=
  recordRepositoryEvent p now .logic .repositoryVerification payload
    validateRepositoryVerification Packet.countEvidence

variable {name : String}

theorem exactKeys_deepCopy {v : Value} {allowed required : List String}
    (exact : exactKeys v allowed required name = .ok ()) :
    exactKeys v.deepCopy allowed required name = .ok () := by
  rw [exactKeys_iff] at exact ⊢
  obtain ⟨table, -, known, present⟩ := exact
  refine ⟨by rw [isTable_deepCopy, table], ?_, ?_, ?_⟩
  · cases v <;> first | rfl | cases table
  · intro key member
    rw [keys_deepCopy, mem_map] at member
    obtain ⟨source, listed, rfl⟩ := member
    obtain ⟨text, inAllowed, rfl⟩ := known source listed
    exact ⟨text, inAllowed, rfl⟩
  · intro key inRequired
    rw [get_deepCopy]
    exact deepCopy_ne_nil (present key inRequired)

theorem exactKeys_known {v : Value} {allowed required : List String}
    (exact : exactKeys v allowed required name = .ok ()) (other : String) :
    exactKeys v allowed [] other = .ok () := by
  rw [exactKeys_iff] at exact ⊢
  obtain ⟨table, plain, known, -⟩ := exact
  exact ⟨table, plain, known, fun _ member => by cases member⟩

theorem deepCopy_textArray (texts : List Bytes) : (textArray texts).deepCopy = textArray texts := by
  apply deepCopy_array
  intro item member
  obtain ⟨text, -, rfl⟩ := mem_map.mp member
  rfl

theorem repositoryRefs_textArray {texts : List Bytes} (named : ∀ text ∈ texts, text ≠ []) :
    repositoryRefs (textArray texts) = true := by
  have walked : (textArray texts).ipairs = .ok (texts.map .str) := by
    apply ipairs_array
    intro item member
    obtain ⟨text, -, rfl⟩ := mem_map.mp member
    exact Value.noConfusion
  obtain ⟨keys, counted⟩ := array_keys (texts.map Value.str)
  rw [← textArray] at keys counted
  have texted : (texts.map Value.str).all Value.isNonEmptyString = true := by
    rw [all_eq_true]
    intro item member
    obtain ⟨text, inTexts, rfl⟩ := mem_map.mp member
    cases text with
    | nil => exact absurd rfl (named [] inTexts)
    | cons b rest => rfl
  rw [repositoryRefs, keys, walked]
  simp only [counted, texted]
  rfl

theorem exactKeys_record {given : List (String × Value)} {allowed : List String}
    (known : ∀ field ∈ given, field.1 ∈ allowed) :
    exactKeys (.record given) allowed [] name = .ok () := by
  refine exactKeys_iff.mpr ⟨rfl, rfl, ?_, fun _ member => by cases member⟩
  intro key member
  obtain ⟨entry, inFields, rfl⟩ := mem_map.mp member
  obtain ⟨field, inGiven, rfl⟩ := mem_fields inFields
  exact ⟨field.1, known field inGiven, rfl⟩

theorem validEffectCost_deepCopy {cost : Value} {calls writes : Nat}
    (valid : validEffectCost cost calls writes = true) :
    validEffectCost cost.deepCopy calls writes = true := by
  simp only [validEffectCost, Bool.and_eq_true] at valid ⊢
  obtain ⟨⟨⟨keys, counted⟩, written⟩, timed⟩ := valid
  have known : exactKeys cost effectCostKeys [] "repository effect cost" = .ok () := by
    cases checked : exactKeys cost effectCostKeys [] "repository effect cost" with
    | ok done => rfl
    | error failure => rw [checked] at keys; cases keys
  rw [exactKeys_deepCopy known]
  simp only [get_deepCopy]
  refine ⟨⟨⟨rfl, ?_⟩, ?_⟩, ?_⟩
  · cases read : cost.get "tool_calls" <;> simp_all [Value.eq, Value.nat, Value.deepCopy]
  · cases read : cost.get "file_writes" <;> simp_all [Value.eq, Value.nat, Value.deepCopy]
  · cases read : cost.get "time_ms" <;> simp_all [isNonNegativeNumber, Value.deepCopy]

structure Receipt where
  receiptId : Value
  attemptId : Value
  actionId : Value
  grantId : Value
  revision : Value
  providerId : Value
  path : Value
  bytes : Value
  sha256 : Value
  cost : Value
  refs : Value
  truth : Value

def Receipt.fields (receipt : Receipt) : List (String × Value) := [
  ("protocol_version", .text "repository.effect_receipt.v0"),
  ("receipt_id", receipt.receiptId),
  ("attempt_id", receipt.attemptId),
  ("action_id", receipt.actionId),
  ("grant_id", receipt.grantId),
  ("grant_revision", receipt.revision),
  ("provider_id", receipt.providerId),
  ("operation", .text "create_text_file"),
  ("outcome", .text "created"),
  ("target", .record [("relative_path", receipt.path), ("kind", .text "regular_file")]),
  ("provider_observation", .record [("bytes", receipt.bytes), ("sha256", receipt.sha256)]),
  ("cost", receipt.cost),
  ("source_refs", receipt.refs),
  ("event_truth_status", .text "runtime_confirmed"),
  ("content_truth_status", receipt.truth)]

def Receipt.table (receipt : Receipt) : Value := .record receipt.fields

/-- What `validate_repository_receipt` asks of the fields. -/
structure Receipt.Proper (receipt : Receipt) : Prop where
  named : ∀ v ∈ [receipt.receiptId, receipt.attemptId, receipt.actionId, receipt.grantId,
    receipt.providerId, receipt.path], v.isNonEmptyString = true
  revision : receipt.revision.isPositiveInteger = true
  bytes : isNonNegativeInteger receipt.bytes = true
  sha256 : isDigestText receipt.sha256 = true
  cost : validEffectCost receipt.cost 1 1 = true
  refs : repositoryRefs receipt.refs = true

theorem Receipt.get_table (receipt : Receipt) {value : Value}
    (member : (name, value) ∈ receipt.fields) : receipt.table.get name = value := by
  apply get_record _ member
  show ["protocol_version", "receipt_id", "attempt_id", "action_id", "grant_id", "grant_revision",
    "provider_id", "operation", "outcome", "target", "provider_observation", "cost",
    "source_refs", "event_truth_status", "content_truth_status"].Nodup
  decide

theorem Receipt.validate_iff (receipt : Receipt) (proper : receipt.Proper) :
    validateRepositoryReceipt receipt.table = .ok ()
      ↔ receipt.truth.isNonEmptyString = true := by
  have known : exactKeys receipt.table receiptKeys [] "repository effect receipt" = .ok () := by
    apply exactKeys_record
    simp [Receipt.fields, receiptKeys]
  have knownTarget : exactKeys (.record [("relative_path", receipt.path),
      ("kind", .text "regular_file")]) targetKeys [] "repository receipt target" = .ok () := by
    apply exactKeys_record
    simp [targetKeys]
  have knownObservation : exactKeys (.record [("bytes", receipt.bytes),
      ("sha256", receipt.sha256)]) observationKeys [] "repository receipt observation"
      = .ok () := by
    apply exactKeys_record
    simp [observationKeys]
  have read : ∀ name value, (name, value) ∈ receipt.fields → receipt.table.get name = value :=
    fun _ _ member => receipt.get_table member
  have target := read "target" (.record [("relative_path", receipt.path),
    ("kind", .text "regular_file")]) (by simp [Receipt.fields])
  have observed := read "provider_observation" (.record [("bytes", receipt.bytes),
    ("sha256", receipt.sha256)]) (by simp [Receipt.fields])
  have path : (Value.record [("relative_path", receipt.path),
      ("kind", .text "regular_file")]).get "relative_path" = receipt.path :=
    get_record (by simp) (by simp)
  have kind : (Value.record [("relative_path", receipt.path),
      ("kind", .text "regular_file")]).get "kind" = .text "regular_file" :=
    get_record (by simp) (by simp)
  have bytes : (Value.record [("bytes", receipt.bytes), ("sha256", receipt.sha256)]).get "bytes"
      = receipt.bytes := get_record (by simp) (by simp)
  have sha256 : (Value.record [("bytes", receipt.bytes), ("sha256", receipt.sha256)]).get "sha256"
      = receipt.sha256 := get_record (by simp) (by simp)
  have protocol := read "protocol_version" (.text "repository.effect_receipt.v0")
    (by simp [Receipt.fields])
  have operation := read "operation" (.text "create_text_file") (by simp [Receipt.fields])
  have result := read "outcome" (.text "created") (by simp [Receipt.fields])
  have status := read "event_truth_status" (.text "runtime_confirmed") (by simp [Receipt.fields])
  have revision := read "grant_revision" receipt.revision (by simp [Receipt.fields])
  have cost := read "cost" receipt.cost (by simp [Receipt.fields])
  have refs := read "source_refs" receipt.refs (by simp [Receipt.fields])
  have truth := read "content_truth_status" receipt.truth (by simp [Receipt.fields])
  have named : requireNamed receipt.table
      ["receipt_id", "attempt_id", "action_id", "grant_id", "provider_id"]
      "invalid repository effect receipt " = .ok () := by
    have each := proper.named
    simp only [forall_mem_cons] at each
    apply forM_ok
    simp only [forall_mem_cons, require_eq_ok]
    rw [read "receipt_id" receipt.receiptId (by simp [Receipt.fields]),
      read "attempt_id" receipt.attemptId (by simp [Receipt.fields]),
      read "action_id" receipt.actionId (by simp [Receipt.fields]),
      read "grant_id" receipt.grantId (by simp [Receipt.fields]),
      read "provider_id" receipt.providerId (by simp [Receipt.fields])]
    exact ⟨each.1, each.2.1, each.2.2.1, each.2.2.2.1, each.2.2.2.2.1, forall_mem_nil _⟩
  simp only [validateRepositoryReceipt, known, target, observed, knownTarget, knownObservation,
    named, path, kind, bytes, sha256, protocol, operation, result, status, revision, cost, refs,
    truth, bind_eq_ok, require_eq_ok]
  constructor
  · intro valid
    obtain ⟨-, -, -, -, -, -, -, conditions, -⟩ := valid
    exact conditions.2.2.2.2.2.2.2.2.2.2
  · intro texted
    refine ⟨(), trivial, (), trivial, (), trivial, (), ⟨trivial, trivial, trivial, trivial, trivial,
      proper.revision, proper.bytes, proper.sha256, proper.cost, proper.refs, texted⟩, (), trivial,
      ?_⟩
    exact proper.named receipt.path (by simp)

def Receipt.copied (receipt : Receipt) : Receipt where
  receiptId := receipt.receiptId.deepCopy
  attemptId := receipt.attemptId.deepCopy
  actionId := receipt.actionId.deepCopy
  grantId := receipt.grantId.deepCopy
  revision := receipt.revision.deepCopy
  providerId := receipt.providerId.deepCopy
  path := receipt.path.deepCopy
  bytes := receipt.bytes.deepCopy
  sha256 := receipt.sha256.deepCopy
  cost := receipt.cost.deepCopy
  refs := receipt.refs.deepCopy
  truth := receipt.truth.deepCopy

theorem Receipt.deepCopy_table (receipt : Receipt) :
    receipt.table.deepCopy = receipt.copied.table := by
  rw [Receipt.table, deepCopy_record]
  simp only [Receipt.fields, map_cons, map_nil, deepCopy_record]
  rfl

theorem Receipt.Proper.copied {receipt : Receipt} (proper : receipt.Proper)
    {texts : List Bytes} (listed : receipt.refs = textArray texts) : receipt.copied.Proper := by
  have named : ∀ v ∈ [receipt.receiptId, receipt.attemptId, receipt.actionId, receipt.grantId,
      receipt.providerId, receipt.path], v.deepCopy.isNonEmptyString = true := by
    intro v member
    rw [deepCopy_of_isNonEmptyString (proper.named v member)]
    exact proper.named v member
  refine ⟨?_, ?_, ?_, ?_, validEffectCost_deepCopy proper.cost, ?_⟩
  · simp only [forall_mem_cons] at named ⊢
    obtain ⟨receiptId, attemptId, actionId, grantId, providerId, path, -⟩ := named
    exact ⟨receiptId, attemptId, actionId, grantId, providerId, path, forall_mem_nil _⟩
  · have positive := proper.revision
    cases read : receipt.revision <;> simp_all [Receipt.copied, Value.deepCopy, Value.isPositiveInteger]
  · have counted := proper.bytes
    cases read : receipt.bytes <;> simp_all [Receipt.copied, Value.deepCopy, isNonNegativeInteger]
  · have hashed := proper.sha256
    cases read : receipt.sha256 <;> simp_all [Receipt.copied, isDigestText]
  · have referred := proper.refs
    simp only [Receipt.copied]
    rw [listed] at referred ⊢
    rw [deepCopy_textArray]
    exact referred

/-! ## Records -/

theorem currentVisitLease_push (trace : List Event) (event : Event) (actor : Operator)
    (tick : event.type ≠ .operatorTick) (route : event.type ≠ .route)
    (birth : event.type ≠ .birth) :
    Trace.currentVisitLease (trace ++ [event]) actor
      = (Trace.currentVisitLease trace actor) := by
  rw [Trace.currentVisitLease, Trace.currentVisitLease, reverse_append, reverse_singleton,
    singleton_append, Trace.leaseFrom, if_neg tick, if_neg route, if_neg]
  exact fun both => birth both.1

theorem assertActorTick_push {p : Packet} {actor : Value} {operation : String}
    {lease : Trace.Lease} {event : Event}
    (held : p.assertActorTick actor operation = .ok lease)
    (tick : event.type ≠ .operatorTick) (route : event.type ≠ .route)
    (birth : event.type ≠ .birth) (other : String) :
    (p.push event).assertActorTick actor other = .ok lease := by
  rw [assertActorTick_eq_ok] at held ⊢
  obtain ⟨mutable, here, leased⟩ := held
  refine ⟨⟨mutable.notDead, mutable.notDying, mutable.notManifested, mutable.unended⟩, here, ?_⟩
  rw [← leased]
  exact currentVisitLease_push p.trace event p.operator tick route birth

theorem ofTable_sealedEvent (type : EventType) (actor : Operator) (payload cost : Value) :
    Draft.ofTable (Packet.sealedEvent (.text type.name) (Topology.value actor) payload cost)
      = .own type (Topology.value actor) (.text "runtime_confirmed") payload cost := by
  have read : ∀ name value, (name, value) ∈ [("type", Value.text type.name),
      ("operator", Topology.value actor), ("truth_status", .text "runtime_confirmed"),
      ("payload", payload), ("cost", cost)] →
      (Packet.sealedEvent (.text type.name) (Topology.value actor) payload cost).get name = value :=
    fun _ _ member => get_record (by simp) member
  have absent : ∀ name, name ≠ "type" → name ≠ "operator" → name ≠ "truth_status" →
      name ≠ "payload" → name ≠ "cost" →
      (Packet.sealedEvent (.text type.name) (Topology.value actor) payload cost).get name = .nil := by
    intro name type operator truth payload cost
    apply get_record_absent
    simp [type.symm, operator.symm, truth.symm, payload.symm, cost.symm]
  rw [Draft.ofTable, Draft.own, read "type" (.text type.name) (by simp),
    read "operator" (Topology.value actor) (by simp),
    read "truth_status" (.text "runtime_confirmed") (by simp), read "payload" payload (by simp),
    read "cost" cost (by simp),
    absent "id" (by decide) (by decide) (by decide) (by decide) (by decide),
    absent "identity_lane" (by decide) (by decide) (by decide) (by decide) (by decide),
    absent "time" (by decide) (by decide) (by decide) (by decide) (by decide)]

section

variable {p : Packet} {now : Int} {actor : Operator} {type : EventType} {payload : Value}
  {validator : Value → Except Failure Unit} {count : Packet → Packet}

theorem recordPlan_eq_ok {stored : Value} :
    recordPlan p actor type payload validator = .ok stored
      ↔ (∃ lease, p.assertActorTick (Topology.value actor) ("record " ++ type.name) = .ok lease)
        ∧ validator payload = .ok () ∧ validator payload.deepCopy = .ok ()
        ∧ stored = payload.deepCopy := by
  simp only [recordPlan, bind_eq_ok, pure_eq_ok]
  constructor
  · intro planned
    obtain ⟨lease, held, ⟨⟩, valid, ⟨⟩, copied, rfl⟩ := planned
    exact ⟨⟨lease, held⟩, valid, copied, rfl⟩
  · intro planned
    obtain ⟨⟨lease, held⟩, valid, copied, rfl⟩ := planned
    exact ⟨lease, held, (), valid, (), copied, rfl⟩

theorem recordRepositoryEvent_cases :
    (∃ failure, recordRepositoryEvent p now actor type payload validator count
        = (.error failure, p))
    ∨ ∃ recorded lease, recordRepositoryEvent p now actor type payload validator count
        = (.ok recorded, count (p.push recorded.event))
      ∧ p.assertActorTick (Topology.value actor) ("record " ++ type.name) = .ok lease
      ∧ validator payload = .ok ()
      ∧ recorded.event.type = type
      ∧ recorded.payload = payload.deepCopy.deepCopy
      ∧ recorded.event.payload = (payload.deepCopy.orElse .emptyTable).deepCopy
      ∧ recorded.event.id = Trace.nextTraceId p.trace .body := by
  unfold recordRepositoryEvent
  obtain ⟨failure, -, refused⟩ | ⟨stored, planned, done⟩ :=
    transact_cases (recordPlan p actor type payload validator) _ p
  · rw [refused]
    exact .inl ⟨failure, rfl⟩
  rw [done]
  obtain ⟨⟨lease, held⟩, valid, -, rfl⟩ := recordPlan_eq_ok.mp planned
  simp only [Packet.appendRepositoryEvent]
  obtain ⟨failure, -, refused⟩ | ⟨draft, drafted, appended⟩ := transact_cases
    (p.repositoryPlan (Packet.sealedEvent (.text type.name) (Topology.value actor)
      payload.deepCopy ((payload.deepCopy.get "cost").orElse .emptyTable))) (p.emit now) p
  · rw [refused]
    exact .inl ⟨failure, rfl⟩
  rw [appended]
  obtain ⟨-, -, -, -, ofTable⟩ :=
    actorPlan_eq_ok _ _ _ (repositoryPlan_facts _ _ _ drafted).1
  rw [ofTable_sealedEvent] at ofTable
  subst ofTable
  simp only [Packet.emit, Packet.emitThen]
  cases emitted : p.storedEvent now (.own type (Topology.value actor) (.text "runtime_confirmed")
      payload.deepCopy ((payload.deepCopy.get "cost").orElse .emptyTable)) with
  | error failure => exact .inl ⟨failure, rfl⟩
  | ok event =>
    obtain ⟨typed, -, identified, -, written⟩ := storedEvent_own _ _ _ _ _ _ _ _ emitted
    exact .inr ⟨⟨_, event⟩, lease, rfl, held, valid, typed, rfl, written, identified⟩

theorem recordRepositoryEvent_unrefused {lease : Trace.Lease}
    (tick : p.assertActorTick (Topology.value actor) ("record " ++ type.name) = .ok lease)
    (own : type.repositoryBody = true ∧ type.permits (some actor) = true)
    (valid : validator payload = .ok ()) (copied : validator payload.deepCopy = .ok ())
    (text : Value) :
    (recordRepositoryEvent p now actor type payload validator count).1
      ≠ .error (.refused text) := by
  have planned := recordPlan_eq_ok.mpr ⟨⟨lease, tick⟩, valid, copied, rfl⟩
  have drafted : p.repositoryPlan (Packet.sealedEvent (.text type.name) (Topology.value actor)
      payload.deepCopy ((payload.deepCopy.get "cost").orElse .emptyTable))
      = .ok (.own type (Topology.value actor) (.text "runtime_confirmed") payload.deepCopy
        ((payload.deepCopy.get "cost").orElse .emptyTable)) := by
    have typed : (Packet.sealedEvent (.text type.name) (Topology.value actor) payload.deepCopy
        ((payload.deepCopy.get "cost").orElse .emptyTable)).get "type" = .text type.name :=
      get_record (by simp) (by simp)
    have acted : (Packet.sealedEvent (.text type.name) (Topology.value actor) payload.deepCopy
        ((payload.deepCopy.get "cost").orElse .emptyTable)).get "operator"
          = Topology.value actor := get_record (by simp) (by simp)
    have again : p.assertActorTick (Packet.resolvedValue (Topology.value actor)) "append trace"
        = .ok lease := by
      rw [assertActorTick_eq_ok] at tick ⊢
      simpa using tick
    simp only [Packet.repositoryPlan, Packet.actorPlan, typed, acted, EventType.parse_name,
      Topology.resolve_value, own.1, own.2, again, ofTable_sealedEvent]
    rfl
  unfold recordRepositoryEvent
  rw [planned, transact_ok]
  simp only [Packet.appendRepositoryEvent, drafted, transact_ok, Packet.emit, Packet.emitThen]
  cases emitted : p.storedEvent now (.own type (Topology.value actor) (.text "runtime_confirmed")
      payload.deepCopy ((payload.deepCopy.get "cost").orElse .emptyTable)) with
  | error failure =>
    intro same
    exact storedEvent_unrefused _ _ _ failure emitted text (Except.error.inj same)
  | ok event => exact fun same => by cases same

end

end Proc17.Runtime.Body
