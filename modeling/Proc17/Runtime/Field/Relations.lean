import Proc17.Lua.Coerce
import Proc17.Runtime.Field.Units

/-!
# Field relations

The relation half of `runtime/field.lua`: raw snapshots, activation and weakening of
relations, the phase and release of a raw relation, and identity maps.  A writer
that stores before it appends its event undoes the store when the append is
refused, and leaves it when the append raises.
-/

namespace Proc17.Core

open Lua

namespace RelationState

def all : List RelationState := [.raw, .active, .weakened, .locked, .dissolved]

def name : RelationState → String
  | .raw => "raw"
  | .active => "active"
  | .weakened => "weakened"
  | .locked => "locked"
  | .dissolved => "dissolved"

def parse (v : Value) : Option RelationState := Value.parse all name v

end RelationState

end Proc17.Core

namespace Proc17.Runtime.Field

open Lua Core

/-! ## Relations and snapshots as Lua tables -/

def versionsTable (versions : List (Bytes × Number)) : Value :=
  .table Tag.plain (versions.map fun entry => (.str entry.1, .num entry.2))

def epochValue (epoch : Nat) : Value := if epoch = 0 then .nil else .nat epoch

def relationTable (r : Relation) : Value :=
  .record [("id", .str r.id), ("from", .str r.source), ("to", .str r.target),
    ("kind", .str r.kind), ("weight", r.weight), ("confidence", r.confidence),
    ("state", .text r.state.name), ("source_refs", .array r.sourceRefs),
    ("predicate_id", r.predicateId), ("provenance_refs", .array r.provenanceRefs),
    ("promotion_source", r.promotionSource), ("event_truth_status", .text "runtime_confirmed"),
    ("content_truth_status", r.contentTruthStatus), ("observed_tick", r.observedTick),
    ("endpoint_versions", versionsTable r.endpointVersions),
    ("self_relation", if r.selfRelation then .bool true else .nil),
    ("version", .nat r.version), ("epoch", epochValue r.epoch),
    ("origin_event_id", r.originEventId), ("activated_from_epoch", r.activatedFromEpoch),
    ("activation_event_id", r.activationEventId),
    ("last_mutation_reason", r.lastMutationReason),
    ("last_reason_event_id", r.lastReasonEventId),
    ("last_mutation_event_id", r.lastMutationEventId)]

def snapshotTable (s : RawSnapshot) : Value :=
  .record [("kind", .text "raw_relation_snapshot"),
    ("protocol_version", .text "field.raw_relations.v1"), ("epoch", .nat s.epoch),
    ("source_revision", .nat s.sourceRevision),
    ("source_potential_revision", .nat s.sourceRevision),
    ("source_event_refs", .array s.sourceRefs), ("probe_policy", s.probePolicy),
    ("object_coverage", s.objectCoverage), ("outcome", s.outcome),
    ("items", .array (s.items.map relationTable)), ("source_refs", .array s.sourceRefs),
    ("coverage", s.coverage), ("event_truth_status", .text "runtime_confirmed"),
    ("content_truth_status", s.contentTruthStatus),
    ("omitted_relations", s.omittedRelations), ("truncated", .bool s.truncated),
    ("trace_event_id", s.traceEventId)]

/-! ## Appending the event of a write -/

def fieldEvent (type : EventType) (actor : Operator) (payload : Value) : Value :=
  .record [("type", .text type.name), ("operator", Topology.value actor),
    ("truth_status", .text "runtime_confirmed"), ("payload", payload),
    ("cost", .emptyTable)]

/-- `append_event` after a write: `undo` runs when it is refused, `settle` when the
event stands. -/
def recordEvent {α : Type} (written : Packet) (now : Int) (event : Value)
    (undo : Packet → Packet) (settle : Event → Packet → Reply Packet α) : Reply Packet α :=
  match written.appendTrace now event with
  | (.error (.refused err), q) => (.error (.refused err), undo q)
  | (.error failure, q) => (.error failure, q)
  | (.ok stored, q) => settle stored q

/-! ## Raw snapshots -/

def inUnitInterval (v : Value) : Except Failure Bool :=
  match v with
  | .num n => .ok (!Number.lt n (.int 0) && !Number.lt (.int 1) n)
  | _ => .ok false

def isNonEmptyOrNil (v : Value) : Bool := v = .nil || v.isNonEmptyString

def relationEnds (field : Field) (candidate : Value) :
    Except Failure (FieldUnit × FieldUnit) := do
  require (candidate.isTable = true) (refuse "relation candidate must be table")
  require ((candidate.get "from").isString = true ∧ (candidate.get "to").isString = true)
    (refuse "relation endpoints are required")
  match find field.units (candidate.get "from"), find field.units (candidate.get "to") with
  | some source, some target => do
      require (Number.eq source.generation target.generation = true)
        (refuse "relation endpoints must share generation")
      require (candidate.get "from" ≠ candidate.get "to"
          ∨ candidate.get "allow_self" = .bool true)
        (refuse "self relation requires explicit permission")
      pure (source, target)
  | _, _ => .error (refuse "relation endpoint not found")

def optionalRefs (refs : Value) : Except Failure Unit :=
  if refs = .nil then .ok () else validateSourceRefs refs true

def validateRelationCandidate (p : Packet) (candidate : Value) (plannedId : Bytes) :
    Except Failure Relation := do
  let (source, target) ← relationEnds p.field candidate
  require ((candidate.get "kind").isNonEmptyString = true) (refuse "relation kind is required")
  validateSourceRefs (candidate.get "source_refs") false
  require (isNumberOrNil (candidate.get "weight") = true)
    (refuse "relation weight must be number when present")
  let confident ← inUnitInterval (candidate.get "confidence")
  require (candidate.get "confidence" = .nil ∨ confident = true)
    (refuse "relation confidence must be between zero and one")
  require (candidate.get "event_truth_status" = .nil
      ∨ candidate.get "event_truth_status" = .text "runtime_confirmed")
    (refuse "relation detection event must be runtime-confirmed")
  require (isNonEmptyOrNil (candidate.get "predicate_id") = true)
    (refuse "relation predicate_id must be non-empty string")
  optionalRefs (candidate.get "provenance_refs")
  let contentStatus := (candidate.get "content_truth_status").orElse (.text "unknown")
  require (contentStatus.isNonEmptyString = true)
    (refuse "invalid relation content truth status")
  let sourceRefs ← copyArray (candidate.get "source_refs")
  let provenanceRefs ← copyArray (candidate.get "provenance_refs")
  pure
    { id := plannedId
      source := (candidate.get "from").tostring
      target := (candidate.get "to").tostring
      kind := (candidate.get "kind").tostring
      weight := candidate.get "weight"
      confidence := candidate.get "confidence"
      state := .raw
      sourceRefs := sourceRefs
      predicateId := candidate.get "predicate_id"
      provenanceRefs := provenanceRefs
      promotionSource := candidate.get "promotion_source"
      contentTruthStatus := contentStatus
      observedTick := (candidate.get "observed_tick").orElse p.physis.ticks
      endpointVersions := put [((candidate.get "from").tostring, source.version)]
        (candidate.get "to").tostring target.version
      selfRelation := candidate.get "from" = candidate.get "to"
      version := 1
      epoch := 0
      originEventId := .nil
      activatedFromEpoch := .nil
      activationEventId := .nil
      lastMutationReason := .nil
      lastReasonEventId := .nil
      lastMutationEventId := .nil }

def nextRelationId (field : Field) (offset : Nat) : Bytes :=
  utf8 ("relation:" ++ toString (field.nextRelationId + offset))

def relationKey (r : Relation) : Bytes × Bytes × Bytes := (r.source, r.target, r.kind)

def planRelations (p : Packet) : List Value → List Relation → Except Failure (List Relation)
  | [], planned => .ok planned
  | candidate :: rest, planned => do
      let relation ← validateRelationCandidate p candidate
        (nextRelationId p.field planned.length)
      require (planned.all (fun other => relationKey other ≠ relationKey relation) = true)
        (refuse "duplicate relation candidate")
      planRelations p rest (planned ++ [relation])

def coverageEntry (seen : List Value) (entry : Value) : Except Failure (List Value) := do
  require (entry.isTable = true ∧ entry.get "object_kind" = .text "field_unit"
      ∧ (entry.get "object_id").isNonEmptyString = true
      ∧ (entry.get "version").isPositiveInteger = true
      ∧ (entry.get "source_ref").isNonEmptyString = true)
    (refuse "invalid object coverage entry")
  require (entry.get "object_id" ∉ seen) (refuse "duplicate object coverage id")
  pure (entry.get "object_id" :: seen)

def isCount : Value → Bool
  | .num n => !Number.lt n (.int 0)
  | _ => false

def isBoolean : Value → Bool
  | .bool _ => true
  | _ => false

def isNumber : Value → Bool
  | .num _ => true
  | _ => false

def validateCoverage (record : Value) : Except Failure Unit := do
  require (record.isTable = true
      ∧ record.get "protocol_version" = .text "object-version-coverage.v0"
      ∧ (record.get "domain" = .text "relation" ∨ record.get "domain" = .text "upper_observation")
      ∧ (record.get "policy_id").isNonEmptyString = true
      ∧ (record.get "entries").isTable = true ∧ isCount (record.get "total_count") = true
      ∧ isCount (record.get "stored_count") = true
      ∧ isCount (record.get "omitted_count") = true
      ∧ isBoolean (record.get "truncated") = true
      ∧ isNumber (record.get "global_revision_at_capture") = true
      ∧ record.get "event_truth_status" = .text "runtime_confirmed")
    (refuse "invalid object coverage record")
  let entries ← (record.get "entries").ipairs
  let _ ← entries.foldlM coverageEntry []
  let total ← Value.arith Number.add (record.get "stored_count") (record.get "omitted_count")
  let omitted ← Value.less (.nat 0) (record.get "omitted_count")
  require (Value.eq (record.get "stored_count") (.nat entries.length) = true
      ∧ Value.eq (record.get "total_count") (.num total) = true
      ∧ record.get "truncated" = .bool omitted)
    (refuse "inconsistent object coverage bounds")

def relationCoverage (record : Value) : Except Failure Unit :=
  if record = .nil then .ok ()
  else do
    validateCoverage record
    require (record.get "domain" = .text "relation")
      (refuse "raw relation coverage must use relation domain")

def coverageTruncated (coverage : Value) : Except Failure Bool :=
  if coverage = .nil then .ok false
  else if coverage.get "truncated_units" = .bool true then .ok true
  else Value.less (.nat 0) ((coverage.get "omitted_relations").orElse (.nat 0))

def outcomeOf (input : Value) (relations : List Relation) : Value :=
  (input.get "outcome").orElse
    (.text (if relations = [] then "empty" else "relations_recorded"))

def rawSnapshot (p : Packet) (input : Value) (relations : List Relation)
    (sourceRefs : List Value) (truncated : Bool) : RawSnapshot where
  epoch := p.field.raw.epoch + 1
  sourceRevision := p.revisions.potential
  sourceRefs := sourceRefs
  probePolicy := (input.get "probe_policy").deepCopy
  objectCoverage := (input.get "object_coverage").deepCopy
  outcome := outcomeOf input relations
  items := relations.map fun r => { r with epoch := p.field.raw.epoch + 1 }
  coverage := ((input.get "coverage").orElse .emptyTable).deepCopy
  contentTruthStatus := (input.get "content_truth_status").orElse (.text "unknown")
  omittedRelations := ((input.get "coverage").get "omitted_relations").orElse (.nat 0)
  truncated := truncated
  traceEventId := .nil

def snapshotPlan (p : Packet) (actor input : Value) : Except Failure RawSnapshot := do
  p.assertMutable "snapshot raw field relations"
  let glyph ← actorGlyph actor
  require (glyph = .connect) (refuse "only CONNECT may snapshot raw relations")
  let _ ← p.assertActorTick (Topology.value glyph) "snapshot raw field relations"
  let input := input.orElse .emptyTable
  let items ← input.index "items"
  require (items.isTable = true) (refuse "raw relation snapshot items must be table")
  validateSourceRefs (input.get "source_refs") false
  require (input.get "coverage" = .nil ∨ (input.get "coverage").isTable = true)
    (refuse "raw relation snapshot coverage must be table")
  relationCoverage (input.get "object_coverage")
  let policy := input.get "probe_policy"
  require (policy = .nil ∨ (policy.isTable = true ∧ (policy.get "policy_id").isString = true
      ∧ isNumber (policy.get "policy_version") = true))
    (refuse "invalid raw relation probe policy")
  require (((input.get "content_truth_status").orElse (.text "unknown")).isNonEmptyString = true)
    (refuse "invalid raw relation snapshot content truth status")
  require (Value.eq (input.get "source_revision") (.nat p.revisions.potential) = true)
    (refuse "raw relation snapshot source revision is stale")
  let candidates ← items.ipairs
  let relations ← planRelations p candidates []
  let sourceRefs ← copyArray (input.get "source_refs")
  let truncated ← coverageTruncated (input.get "coverage")
  pure (rawSnapshot p input relations sourceRefs truncated)

def withRaw (p : Packet) (snapshot : RawSnapshot) : Packet :=
  { p with
    field :=
      { p.field with
        raw := snapshot
        nextRelationId := p.field.nextRelationId + snapshot.items.length }
    revisions := { p.revisions with relationsRaw := p.revisions.relationsRaw + 1 } }

def captured (snapshot : RawSnapshot) (event : Event) : RawSnapshot :=
  { snapshot with
    traceEventId := event.id
    objectCoverage :=
      match snapshot.objectCoverage with
      | .table tag entries => .table tag (Value.assign entries (.text "capture_event_ref") event.id)
      | other => other
    items := snapshot.items.map fun r => { r with originEventId := event.id } }

def putRaw (p : Packet) (snapshot : RawSnapshot) : Packet :=
  { p with field := { p.field with raw := snapshot } }

def restoreRaw (p q : Packet) : Packet :=
  { q with
    field := { q.field with raw := p.field.raw, nextRelationId := p.field.nextRelationId }
    revisions := { q.revisions with relationsRaw := p.revisions.relationsRaw } }

def snapshotRawRelations (p : Packet) (now : Int) (actor input : Value) :
    Reply Packet RawSnapshot :=
  transact (snapshotPlan p actor input)
    (fun snapshot =>
      recordEvent (withRaw p snapshot) now
        (fieldEvent .relationSnapshot .connect (snapshotTable snapshot)) (restoreRaw p)
        fun event q => (.ok (captured snapshot event), putRaw q (captured snapshot event))) p

/-! ## Activation -/

def rawRelationById (field : Field) (id : Value) : Option Relation :=
  field.raw.items.find? fun relation => id = .str relation.id

def planActivation (field : Field) : List Value → List Value → List Relation →
    Except Failure (List Relation)
  | [], _, planned => .ok planned
  | id :: rest, seen, planned => do
      require (id.isString = true ∧ id ∉ seen) (refuse "invalid relation activation id")
      match rawRelationById field id with
      | none => .error (refuse "raw relation not found")
      | some relation =>
        match find field.active id with
        | some current => do
            require (current.state = .active)
              (refuse "non-active relation requires a fresh raw identity before activation")
            planActivation field rest (id :: seen) planned
        | none =>
          planActivation field rest (id :: seen)
            (planned ++ [{ relation with
              state := .active
              version := relation.version + 1
              activatedFromEpoch := .nat field.raw.epoch }])

structure ActivateRelations where
  planned : List Relation
  source : Value

def activationSourceEvent (p : Packet) (source : Value) : Except Failure Unit := do
  let eventId ← source.index "event_id"
  if eventId = .nil then pure ()
  else
    match Trace.eventById p.trace eventId with
    | none => .error (refuse "relation activation source event not found")
    | some event =>
      require (event.truthStatus = .runtimeConfirmed)
        (refuse "relation activation source must be runtime-confirmed")

def requireActivationSource (p : Packet) (planned : List Relation) (source : Value) :
    Except Failure Unit :=
  if planned = [] then .ok () else activationSourceEvent p source

def activateRelationsPlan (p : Packet) (actor relationIds source : Value) :
    Except Failure ActivateRelations := do
  p.assertMutable "activate field relations"
  let glyph ← actorGlyph actor
  require (glyph = .runtime) (refuse "only RUNTIME may activate raw relations")
  require (p.ingress.integrationProtocol ≠ .text "vertical_packet_life.v0")
    (refuse "RUNTIME raw relation activation is forbidden in vertical packet life")
  let _ ← p.assertActorTick (Topology.value glyph) "activate field relations"
  require (relationIds.isTable = true) (refuse "relation_ids must be table")
  require (p.field.raw.sourceRevision = p.revisions.potential)
    (refuse "raw relation snapshot is stale")
  let ids ← relationIds.ipairs
  let planned ← planActivation p.field ids [] []
  requireActivationSource p planned (source.orElse .emptyTable)
  pure ⟨planned, source.orElse .emptyTable⟩

def countActive (p : Packet) : Packet :=
  { p with revisions := { p.revisions with relationsActive := p.revisions.relationsActive + 1 } }

def putActive (p : Packet) (relations : List Relation) : Packet :=
  { p with
    field :=
      { p.field with
        active := relations.foldl (fun table r => put table r.id r) p.field.active } }

/-- A refused activation restores the revision only: the table of earlier relations
it goes through has no entry for a relation that was not active before. -/
def restoreActiveRevision (p q : Packet) : Packet :=
  { q with revisions := { q.revisions with relationsActive := p.revisions.relationsActive } }

def activationPayload (p : Packet) (plan : ActivateRelations) : List (String × Value) :=
  [("kind", .text "relation_activation_payload"), ("status", .text "applied"),
    ("relation_ids", .array (plan.planned.map fun r => .str r.id)),
    ("raw_epoch", .nat p.field.raw.epoch), ("source_event_id", plan.source.get "event_id"),
    ("reason", plan.source.get "reason"), ("truth_status", .text "runtime_confirmed")]

def activateRelations (p : Packet) (now : Int) (actor relationIds source : Value) :
    Reply Packet Value :=
  transact (activateRelationsPlan p actor relationIds source)
    (fun plan =>
      if plan.planned = [] then
        (.ok (.record [("kind", .text "relation_activation_payload"),
          ("status", .text "no_op"), ("relation_ids", .emptyTable),
          ("truth_status", .text "runtime_confirmed")]), p)
      else
        recordEvent (countActive (putActive p plan.planned)) now
          (fieldEvent .relationMutation .runtime (.record (activationPayload p plan)))
          (restoreActiveRevision p)
          fun event q =>
            (.ok (Value.record (activationPayload p plan
                ++ [("trace_event_id", event.id)])).deepCopy,
              putActive q (plan.planned.map fun r => { r with activationEventId := event.id })))
    p

/-! ## Weakening -/

def dissolveReasons : List String :=
  ["stale", "rigid", "rejected", "contradictory", "unsupported", "explicitly_released"]

def logicReasons : List String := ["rejected", "invalid", "unsupported", "violated_constraint"]

/-- `reason_rights`, with the state it allows. -/
def reasonRights (actor : Operator) (reason target : Value) : Option RelationState :=
  match actor, RelationState.parse target with
  | .dissolve, some state =>
    if dissolveReasons.any (fun name => reason = .text name)
        && (state = .weakened || state = .dissolved) then some state else none
  | .logic, some state =>
    if logicReasons.any (fun name => reason = .text name)
        && (state = .weakened || state = .locked) then some state else none
  | _, _ => none

structure Weakening where
  relation : Relation
  target : RelationState
  actor : Operator
  source : Value

def requireReason (p : Packet) (relationId source : Value) : Except Failure Unit :=
  match Trace.eventById p.trace (source.get "event_id") with
  | none => .error (refuse "relation weakening reason must be runtime-confirmed")
  | some event => do
      require (event.truthStatus = .runtimeConfirmed)
        (refuse "relation weakening reason must be runtime-confirmed")
      let payload := event.payload.orElse .emptyTable
      let named ← payload.index "relation_id"
      require (Value.eq named relationId = true
          ∨ Value.eq (payload.get "target_ref") relationId = true)
        (refuse "relation weakening reason does not reference relation")
      require (payload.get "reason_kind" = .nil
          ∨ Value.eq (payload.get "reason_kind") (source.get "reason_kind") = true)
        (refuse "relation weakening reason kind mismatch")

def weakenPlan (p : Packet) (actor relationId source : Value) : Except Failure Weakening := do
  p.assertMutable "weaken field relation"
  let glyph ← actorGlyph actor
  let source := source.orElse .emptyTable
  let targetState ← source.index "target_state"
  match reasonRights glyph (source.get "reason_kind") targetState with
  | none => .error (refuse "field actor cannot apply requested relation weakening")
  | some target => do
      let _ ← p.assertActorTick (Topology.value glyph) "weaken field relation"
      match find p.field.active relationId with
      | none => .error (refuse "active relation not found")
      | some relation => do
          require (¬ (relation.state = .dissolved ∧ target ≠ .dissolved))
            (refuse "dissolved relation cannot be restored")
          require ((source.get "event_id").isNonEmptyString = true)
            (refuse "relation weakening reason event is required")
          requireReason p relationId source
          pure ⟨relation, target, glyph, source⟩

def weakened (plan : Weakening) : Relation :=
  { plan.relation with
    state := plan.target
    version := plan.relation.version + 1
    lastMutationReason := plan.source.get "reason_kind"
    lastReasonEventId := plan.source.get "event_id" }

def weakeningPayload (plan : Weakening) (after : Relation) : List (String × Value) :=
  [("kind", .text "relation_weakening_payload"), ("status", .text "applied"),
    ("relation_id", .str plan.relation.id), ("before", relationTable plan.relation),
    ("after", relationTable after), ("reason_kind", plan.source.get "reason_kind"),
    ("reason_event_id", plan.source.get "event_id"),
    ("truth_status", .text "runtime_confirmed")]

def restoreActive (p : Packet) (relation : Relation) (q : Packet) : Packet :=
  restoreActiveRevision p (putActive q [relation])

def weakenRelation (p : Packet) (now : Int) (actor relationId source : Value) :
    Reply Packet Value :=
  transact (weakenPlan p actor relationId source)
    (fun plan =>
      if plan.relation.state = plan.target then
        (.ok (.record [("kind", .text "relation_weakening_payload"), ("status", .text "no_op"),
          ("relation", relationTable plan.relation),
          ("truth_status", .text "runtime_confirmed")]), p)
      else
        recordEvent (countActive (putActive p [weakened plan])) now
          (fieldEvent .relationMutation plan.actor
            (.record (weakeningPayload plan (weakened plan))))
          (restoreActive p plan.relation)
          fun event q =>
            let settled := { weakened plan with lastMutationEventId := event.id }
            (.ok (Value.record (weakeningPayload plan settled
                ++ [("trace_event_id", event.id)])).deepCopy, putActive q [settled])) p

/-! ## Phases of a raw relation -/

/-- `raw_snapshot_for_epoch`: the current snapshot, else the event that recorded it. -/
def rawSnapshotForEpoch (p : Packet) (epoch : Value) :
    Except Failure (Option (Value × Value)) :=
  if Value.eq (.nat p.field.raw.epoch) epoch then
    .ok (some (snapshotTable p.field.raw, p.field.raw.traceEventId))
  else fromTrace p.trace
where
  fromTrace : List Event → Except Failure (Option (Value × Value))
    | [] => .ok none
    | event :: rest =>
      if event.type = .relationSnapshot then do
        let recorded ← (event.payload.orElse .emptyTable).index "epoch"
        if Value.eq recorded epoch then pure (some (event.payload.deepCopy, event.id))
        else fromTrace rest
      else fromTrace rest

def relationInSnapshot (snapshot id : Value) : Except Failure (Option Value) := do
  let items ← ((snapshot.get "items").orElse .emptyTable).ipairs
  scan items
where
  scan : List Value → Except Failure (Option Value)
    | [] => .ok none
    | relation :: rest => do
        let named ← relation.index "id"
        if Value.eq named id then pure (some relation) else scan rest

def coversEndpointVersions (provided expected : Value) : Bool :=
  match provided, expected with
  | .table _ given, .table _ wanted =>
    wanted.all fun entry => Value.eq (Value.lookup given entry.1) entry.2
  | _, _ => false

structure ExactRelation where
  relation : Value
  snapshot : Value
  eventRef : Value

def rawRelationExact (p : Packet) (epoch id versions : Value) :
    Except Failure ExactRelation := do
  require (epoch.isPositiveInteger = true)
    (refuse "raw relation epoch must be a positive integer")
  require (id.isNonEmptyString = true) (refuse "raw relation id required")
  let found ← rawSnapshotForEpoch p epoch
  match found with
  | none => .error (refuse "raw relation epoch not found")
  | some (snapshot, eventRef) => do
      let relation ← relationInSnapshot snapshot id
      match relation with
      | none => .error (refuse "raw relation not found")
      | some relation => do
          require (versions = .nil
              ∨ coversEndpointVersions versions (relation.get "endpoint_versions") = true)
            (refuse "raw relation endpoint versions do not match")
          pure ⟨relation.deepCopy, snapshot, eventRef⟩

def eventRelationInput (event : Event) : Except Failure (Value × Value) := do
  let payload := event.payload.orElse .emptyTable
  match event.type with
  | .observation => do
      let observed ← payload.index "payload"
      let observed := observed.orElse .emptyTable
      let input ← observed.index "relation_input"
      pure (input, observed.get "sensor")
  | .relationFormation => do
      let formed ← payload.index "formed_from"
      pure (formed.orElse (payload.get "relation_input"), .text "relation_formation")
  | .relationMutation => do
      let scope ← payload.index "scope"
      if scope = .text "raw" ∧ payload.get "disposition" = .text "released" then
        pure (payload, .text "raw_release")
      else pure (.nil, .nil)
  | _ => pure (.nil, .nil)

def inputNames (input id : Value) : Except Failure Bool :=
  if Value.eq (input.get "relation_id") id then .ok true
  else do
    let ids ← ((input.get "relation_ids").orElse .emptyTable).ipairs
    pure (ids.any fun other => Value.eq other id)

def inputMatchesRelation (input epoch relation : Value) : Except Failure Bool :=
  if input.isTable && Value.eq (input.get "raw_epoch") epoch then do
    let named ← inputNames input (relation.get "id")
    pure (named && coversEndpointVersions (input.get "endpoint_versions")
      (relation.get "endpoint_versions"))
  else .ok false

structure Dispositions where
  observed : Option Event
  encoded : Option Event
  released : Option Event

def dispose (epoch relation : Value) (seen : Dispositions) (event : Event) :
    Except Failure Dispositions := do
  let (input, disposition) ← eventRelationInput event
  let matched ← inputMatchesRelation input epoch relation
  pure (if matched = false then seen
    else if disposition = .text "relation_native" then { seen with observed := some event }
    else if disposition = .text "relation_formation" then { seen with encoded := some event }
    else if disposition = .text "raw_release" then { seen with released := some event }
    else seen)

inductive Phase where
  | encoded
  | released
  | replaced
  | stale
  | expired
  | observed
  | available
  deriving DecidableEq

def Phase.name : Phase → String
  | .encoded => "encoded"
  | .released => "released"
  | .replaced => "replaced"
  | .stale => "stale"
  | .expired => "expired"
  | .observed => "observed"
  | .available => "available"

def endpointEntries (relation : Value) : Except Failure (List (Value × Value)) :=
  match (relation.get "endpoint_versions").orElse .emptyTable with
  | .table _ entries => .ok entries
  | _ => .error (.fault "pairs")

def endpointsStale (p : Packet) (relation : Value) : Except Failure Bool := do
  let entries ← endpointEntries relation
  pure (entries.any fun entry =>
    match find p.field.units entry.1 with
    | none => true
    | some unit => !Value.eq (.num unit.version) entry.2)

def ended (p : Packet) : Bool :=
  p.terminal ≠ none || p.status = .dead || p.status = .dying || p.status = .manifested

/-- `phase`, without the other fields of `field.raw_relation_phase`. -/
def rawRelationPhase (p : Packet) (epoch id : Value) : Except Failure Phase := do
  let exact ← rawRelationExact p epoch id .nil
  let seen ← p.trace.foldlM (dispose epoch exact.relation) ⟨none, none, none⟩
  require (seen.encoded = none ∨ seen.released = none)
    (refuse "raw relation has contradictory terminal dispositions")
  if seen.encoded ≠ none then pure .encoded
  else if seen.released ≠ none then pure .released
  else do
    let later ← Value.less epoch (.nat p.field.raw.epoch)
    if later then pure .replaced
    else do
      let stale ← endpointsStale p exact.relation
      pure (if stale then .stale
        else if ended p then .expired
        else if seen.observed ≠ none then .observed
        else .available)

structure RawRelease where
  relation : Value
  payload : List (String × Value)

def releaseRawPlan (p : Packet) (actor input : Value) : Except Failure RawRelease := do
  p.assertMutable "release raw relation"
  let glyph ← actorGlyph actor
  require (glyph = .dissolve) (refuse "only DISSOLVE may release raw relation")
  let _ ← p.assertActorTick (Topology.value glyph) "release raw relation"
  let input := input.orElse .emptyTable
  let epoch ← input.index "raw_epoch"
  let exact ← rawRelationExact p epoch (input.get "relation_id") (input.get "endpoint_versions")
  let phase ← rawRelationPhase p epoch (input.get "relation_id")
  require (phase ≠ .encoded ∧ phase ≠ .released ∧ phase ≠ .expired)
    (refuse ("raw relation is not releasable from phase " ++ phase.name))
  let reason := input.get "reason"
  require (reason.isTable = true ∧ (reason.get "kind").isString = true)
    (refuse "raw release requires typed reason")
  let sourceRefs ← copyArray (input.get "source_event_refs")
  pure ⟨exact.relation,
    [("kind", .text "raw_relation_release"), ("scope", .text "raw"),
      ("disposition", .text "released"), ("raw_epoch", epoch),
      ("relation_id", exact.relation.get "id"),
      ("endpoint_versions", (exact.relation.get "endpoint_versions").deepCopy),
      ("reason", reason.deepCopy), ("reason_kind", reason.get "kind"),
      ("source_event_refs", .array sourceRefs),
      ("event_truth_status", .text "runtime_confirmed"),
      ("content_truth_status", exact.relation.get "content_truth_status")]⟩

def releaseRawRelation (p : Packet) (now : Int) (actor input : Value) :
    Reply Packet (Value × Value) :=
  transact (releaseRawPlan p actor input)
    (fun plan =>
      recordEvent p now (fieldEvent .relationMutation .dissolve (.record plan.payload)) id
        fun event q =>
          (.ok ((Value.record (plan.payload ++ [("trace_event_id", event.id)])).deepCopy,
            plan.relation), q)) p

/-! ## Identity maps -/

def isNonEmptyKey (entry : Value × Value) : Bool :=
  entry.1.isNonEmptyString && entry.2.isPositiveInteger

def sourceVersionEntries (versions : Value) : Except Failure (List (Value × Value)) :=
  match versions with
  | .nil => .ok []
  | .table _ entries => .ok entries
  | _ => .error (refuse "field identity map source_versions must be table")

def identityTexts : List String := ["receiver_contract_id", "requested_shape",
  "envelope_fingerprint"]

def requireIdentityTexts (input : Value) : Except Failure Unit :=
  match identityTexts.find? fun key => !isNonEmptyOrNil (input.get key) with
  | some key => .error (refuse ("invalid field identity map " ++ key))
  | none => .ok ()

/-- `pairs(input.mapping)`: every old id maps to a list of known units. -/
def mappingEntry (field : Field) (oldIds : List Value) (entry : Value × Value) :
    Except Failure Unit := do
  require (oldIds.any (fun id => Value.eq id entry.1) = true ∧ entry.2.isTable = true)
    (refuse "invalid field identity mapping")
  let targets ← entry.2.ipairs
  require (targets.all (fun id => (find field.units id).isSome) = true)
    (refuse "field identity mapping target not found")

def invalidatedRelations (field : Field) (oldIds : List Value) : List Bytes :=
  (field.raw.items ++ field.active.map Prod.snd).foldl
    (fun found r =>
      if (Value.str r.source ∈ oldIds ∨ Value.str r.target ∈ oldIds) ∧ r.id ∉ found then
        found ++ [r.id]
      else found) []

def identityMapId (field : Field) : Bytes :=
  utf8 ("identity_map:" ++ toString (field.identityMaps.length + 1))

def requireUnits (field : Field) (ids : List Value) (message : String) :
    Except Failure Unit :=
  require (ids.all (fun id => (find field.units id).isSome) = true) (refuse message)

def mappingEntries (mapping : Value) : Except Failure (List (Value × Value)) :=
  match mapping with
  | .table _ entries => .ok entries
  | _ => .error (refuse "field identity map mapping must be table")

def identityMapPlan (p : Packet) (actor input : Value) : Except Failure IdentityMap := do
  p.assertMutable "record field identity map"
  let glyph ← actorGlyph actor
  require (glyph = .encode) (refuse "only ENCODE may record field identity maps")
  let _ ← p.assertActorTick (Topology.value glyph) "record field identity map"
  let input := input.orElse .emptyTable
  let encodeEventId ← input.index "encode_event_id"
  let _ ← p.eventInCurrentTick (Topology.value glyph) encodeEventId
  require ((input.get "old_ids").isTable = true ∧ (input.get "new_ids").isTable = true)
    (refuse "field identity map requires old_ids and non-empty new_ids")
  let newIds ← (input.get "new_ids").ipairs
  require (newIds ≠ []) (refuse "field identity map requires old_ids and non-empty new_ids")
  let mapping ← mappingEntries (input.get "mapping")
  let versions ← sourceVersionEntries (input.get "source_versions")
  require (versions.all isNonEmptyKey = true)
    (refuse "invalid field identity map source version")
  requireIdentityTexts input
  require (p.field.identityMaps.all (fun other => !Value.eq other.encodeEventId encodeEventId)
      = true)
    (refuse "field identity map already recorded for ENCODE event")
  let oldIds ← (input.get "old_ids").ipairs
  requireUnits p.field oldIds "field identity map old unit not found"
  requireUnits p.field newIds "field identity map new unit not found"
  mapping.forM (mappingEntry p.field oldIds)
  require (input.get "id" = .nil ∨ input.get "id" = .str (identityMapId p.field))
    (refuse "field identity map id does not match next deterministic id")
  let sourceEventRefs ← copyArray (input.get "source_event_refs")
  let invalidatedObservations ← copyArray (input.get "invalidated_observation_ids")
  pure
    { id := identityMapId p.field
      encodeEventId := encodeEventId
      oldIds := oldIds.map Value.deepCopy
      newIds := newIds.map Value.deepCopy
      mapping := (input.get "mapping").deepCopy
      mappingKind := (input.get "mapping_kind").orElse (.text "explicit")
      sourceEventRefs := sourceEventRefs
      sourceVersions := ((input.get "source_versions").orElse .emptyTable).deepCopy
      receiverContractId := input.get "receiver_contract_id"
      requestedShape := input.get "requested_shape"
      envelopeFingerprint := input.get "envelope_fingerprint"
      invalidatedRelationIds := invalidatedRelations p.field oldIds
      invalidatedObservationIds := invalidatedObservations
      shadowOnly := input.get "shadow_only" = .bool true
      traceEventId := .nil }

def identityMapTable (m : IdentityMap) : Value :=
  .record [("id", .str m.id), ("kind", .text "field_identity_map"),
    ("encode_event_id", m.encodeEventId), ("old_ids", .array m.oldIds),
    ("new_ids", .array m.newIds), ("mapping", m.mapping), ("mapping_kind", m.mappingKind),
    ("source_event_refs", .array m.sourceEventRefs), ("source_versions", m.sourceVersions),
    ("receiver_contract_id", m.receiverContractId), ("requested_shape", m.requestedShape),
    ("envelope_fingerprint", m.envelopeFingerprint),
    ("invalidated_relation_ids", .array (m.invalidatedRelationIds.map .str)),
    ("invalidated_observation_ids", .array m.invalidatedObservationIds),
    ("shadow_only", .bool m.shadowOnly), ("truth_status", .text "runtime_confirmed"),
    ("trace_event_id", m.traceEventId)]

def putMaps (p : Packet) (maps : List IdentityMap) : Packet :=
  { p with field := { p.field with identityMaps := maps } }

def recordIdentityMap (p : Packet) (now : Int) (actor input : Value) :
    Reply Packet IdentityMap :=
  transact (identityMapPlan p actor input)
    (fun map =>
      recordEvent (putMaps p (p.field.identityMaps ++ [map])) now
        (fieldEvent .identityMap .encode (identityMapTable map))
        (fun q => putMaps q p.field.identityMaps)
        fun event q =>
          let settled := { map with traceEventId := event.id }
          (.ok settled, putMaps q (p.field.identityMaps ++ [settled]))) p

end Proc17.Runtime.Field
