import Proc17.Core.Packet.Evidence

/-!
# Field units

The unit half of `runtime/field.lua`: planning and adding units, setting their
activation, and the two-step release of an inherited rejected form.
-/

namespace Proc17.Core

open Lua

namespace Activation

def all : List Activation := [.live, .selected, .suppressed, .dissolved]

def name : Activation → String
  | .live => "live"
  | .selected => "selected"
  | .suppressed => "suppressed"
  | .dissolved => "dissolved"

def parse (v : Value) : Option Activation := Value.parse all name v

end Activation

end Proc17.Core

namespace Proc17.Runtime.Field

open Lua Core

/-! ## Keyed tables -/

/-- `table[key]` for a table with string keys; no other key is present. -/
def find {α : Type} (table : List (Bytes × α)) (key : Value) : Option α :=
  match key with
  | .str s => table.lookup s
  | _ => none

/-- `table[key] = value`: a present key keeps its place. -/
def put {α : Type} (table : List (Bytes × α)) (key : Bytes) (value : α) :
    List (Bytes × α) :=
  if (table.lookup key).isSome then
    table.map fun entry => if entry.1 = key then (key, value) else entry
  else table ++ [(key, value)]

def copyArray (source : Value) : Except Failure (List Value) := do
  let items ← (source.orElse .emptyTable).ipairs
  pure (items.map Value.deepCopy)

def validateSourceRefs (sourceRefs : Value) (allowEmpty : Bool) : Except Failure Unit := do
  require (sourceRefs.isTable = true) (refuse "field unit source_refs must be table")
  let items ← sourceRefs.ipairs
  require (allowEmpty = true ∨ items ≠ []) (refuse "field unit source_refs must be non-empty")
  require (items.all Value.isNonEmptyString = true)
    (refuse "field unit source ref must be non-empty string")

def nextUnitId (field : Field) : Bytes := utf8 ("unit:" ++ toString field.nextUnitId)

def actorGlyph (actor : Value) : Except Failure Operator :=
  match Topology.resolve actor with
  | some operator => .ok operator
  | none => .error (refuse "invalid field actor")

def mayAddUnits : Operator → Bool
  | .flow | .observe | .dissolve | .encode => true
  | _ => false

/-! ## Adding units -/

/-- The event that created the unit: none yet for a pending plan, else an event of
the current tick. -/
def creationEvent (p : Packet) (actor : Operator) (input : Value) (pending : Bool) :
    Except Failure Unit :=
  if pending then
    require (input.get "created_event_id" = .nil)
      (refuse "pending field unit plan cannot claim created_event_id")
  else do
    require ((input.get "created_event_id").isNonEmptyString = true)
      (refuse "field unit created_event_id is required")
    let _ ← p.eventInCurrentTick (Topology.value actor) (input.get "created_event_id")
    pure ()

def isNumberOrNil : Value → Bool
  | .nil | .num _ => true
  | _ => false

/-- The checks of `validate_unit_plan` on the unit's own fields. -/
def unitFields (p : Packet) (actor : Operator) (input : Value) :
    Except Failure (Bytes × TruthStatus × Activation) := do
  let kind ← input.index "kind"
  require (kind.isNonEmptyString = true) (refuse "field unit kind is required")
  require (input.get "carrier" ≠ .nil ∨ (input.get "carrier_ref").isNonEmptyString = true)
    (refuse "field unit requires carrier or carrier_ref")
  validateSourceRefs (input.get "source_refs")
    (actor = .flow && p.birthKind = .user)
  match TruthStatus.parse
      ((input.get "event_truth_status").orElse (.text "runtime_confirmed")) with
  | none => .error (refuse "invalid field unit event truth status")
  | some truthStatus => do
      require (((input.get "content_truth_status").orElse (.text "unknown")).isNonEmptyString
          = true)
        (refuse "invalid field unit content truth status")
      require (isNumberOrNil (input.get "density") = true)
        (refuse "field unit density must be number when present")
      match Activation.parse ((input.get "activation").orElse (.text "live")) with
      | none => .error (refuse "invalid field unit activation")
      | some activation => pure (kind.tostring, truthStatus, activation)

def validateUnitPlan (p : Packet) (actor input : Value) (pending : Bool) :
    Except Failure FieldUnit := do
  p.assertMutable "add field unit"
  let glyph ← actorGlyph actor
  require (mayAddUnits glyph = true) (refuse "field actor cannot add units")
  let _ ← p.assertActorTick (Topology.value glyph) "add field unit"
  let input := input.orElse .emptyTable
  let (kind, truthStatus, activation) ← unitFields p glyph input
  creationEvent p glyph input pending
  require (input.get "id" = .nil ∨ input.get "id" = .str (nextUnitId p.field))
    (refuse "field unit id does not match next deterministic id")
  let sourceRefs ← copyArray (input.get "source_refs")
  pure
    { id := nextUnitId p.field
      kind := kind
      carrier := (input.get "carrier").deepCopy
      carrierRef := input.get "carrier_ref"
      sourceRefs := sourceRefs
      eventTruthStatus := truthStatus
      contentTruthStatus := (input.get "content_truth_status").orElse (.text "unknown")
      activation := activation
      createdBy := glyph
      createdEventId := input.get "created_event_id"
      generation := p.generation
      version := .int 1
      density := .nil
      migration := .nil
      activationSource := none }

def countPotential (p : Packet) : Packet :=
  { p with revisions := { p.revisions with potential := p.revisions.potential + 1 } }

def withUnit (p : Packet) (unit : FieldUnit) : Packet :=
  countPotential
    { p with
      field :=
        { p.field with
          units := put p.field.units unit.id unit
          unitOrder := p.field.unitOrder ++ [unit.id]
          nextUnitId := p.field.nextUnitId + 1 } }

def addUnit (p : Packet) (actor input : Value) : Reply Packet FieldUnit :=
  transact (validateUnitPlan p actor input false)
    (fun plan =>
      let unit :=
        { plan with
          density := input.get "density"
          migration := (input.get "migration").deepCopy }
      (.ok unit, withUnit p unit)) p

/-! ## Activation -/

def activationRight (actor : Operator) (activation : Value) : Except Failure Activation :=
  match actor, Activation.parse activation with
  | .choose, some .selected => .ok .selected
  | .choose, some .suppressed => .ok .suppressed
  | .choose, _ => .error (refuse "CHOOSE may only select or suppress field units")
  | .dissolve, some .dissolved => .ok .dissolved
  | .dissolve, _ => .error (refuse "DISSOLVE may only dissolve field units")
  | _, _ => .error (refuse "field actor cannot set activation")

structure ActivationPlan where
  unit : FieldUnit
  activation : Activation
  actor : Operator
  source : Value

def isBooleanOrNil : Value → Bool
  | .nil | .bool _ => true
  | _ => false

def activationPlan (p : Packet) (actor id activation source : Value) :
    Except Failure ActivationPlan := do
  p.assertMutable "set field activation"
  let glyph ← actorGlyph actor
  let target ← activationRight glyph activation
  let _ ← p.assertActorTick (Topology.value glyph) "set field activation"
  match find p.field.units id with
  | none => .error (refuse "field unit not found")
  | some unit => do
      require (unit.kind ≠ utf8 "inherited_rejected_form")
        (refuse "inherited rejected form requires atomic release transaction")
      require (¬ (unit.activation = .dissolved ∧ target ≠ .dissolved))
        (refuse "dissolved field unit cannot be reactivated")
      let source := source.orElse .emptyTable
      let eventId ← source.index "event_id"
      require (eventId.isNonEmptyString = true)
        (refuse "field activation source event is required")
      require (isBooleanOrNil (source.get "restamp") = true)
        (refuse "field activation restamp must be boolean")
      require (¬ (source.get "restamp" = .bool true ∧ glyph ≠ .choose))
        (refuse "only CHOOSE may restamp field activation")
      let _ ← p.eventInCurrentTick (Topology.value glyph) eventId
      pure ⟨unit, target, glyph, source⟩

/-- `version + 1`; the versions of units count without a bound, as all counters here do. -/
def nextVersion : Number → Number
  | .int v => .int (v + 1)
  | v => v.add (.int 1)

def activated (plan : ActivationPlan) : FieldUnit :=
  { plan.unit with
    activation := plan.activation
    activationSource := some
      ⟨plan.source.get "event_id", plan.actor, plan.source.get "reason"⟩
    version := nextVersion plan.unit.version }

def putUnit (p : Packet) (unit : FieldUnit) : Packet :=
  { p with field := { p.field with units := put p.field.units unit.id unit } }

def setActivation (p : Packet) (actor id activation source : Value) :
    Reply Packet FieldUnit :=
  transact (activationPlan p actor id activation source)
    (fun plan =>
      if plan.unit.activation = plan.activation ∧ plan.source.get "restamp" ≠ .bool true then
        (.ok plan.unit, p)
      else (.ok (activated plan), countPotential (putUnit p (activated plan)))) p

/-! ## Releasing an inherited form -/

structure ReleasePlan where
  packetId : Value
  generation : Number
  potentialRevision : Nat
  release : Value
  residueUnit : FieldUnit

/-- A Packet with the release plans that are still open for it: the module table
`inherited_release_plans`, by the order in which the plans were made. -/
structure Living where
  packet : Packet
  releases : List (Option ReleasePlan)

/-- `dissolve_schema.verify_release` and `verify_residue_carrier` -/
def verifyNormalized (normalizer : Value → Except Failure Value)
    (same : Value → Value → Bool) (value : Value) (label : String) :
    Except Failure Unit := do
  let normalized ← normalizer value
  require (same value normalized = true) (refuse (label ++ " is not normalized"))

def releaseKeys : List String := ["release", "residue_carrier", "residue_source_refs"]

def requireReleaseInput (input : Value) : Except Failure Unit := do
  require (input.isTable = true ∧ input.hasMetatable = false)
    (refuse "inherited form release input must be a plain table")
  match input.keys.find? fun key => !releaseKeys.any fun name => key = .text name with
  | some key => .error (.refused (.str
      (utf8 "inherited form release input contains unknown key: " ++ key.tostring)))
  | none => .ok ()

def releaseTarget (p : Packet) (release : Value) : Except Failure FieldUnit :=
  let target := release.get "target"
  match find p.field.units (target.get "id") with
  | none => .error (refuse "DISSOLVE inherited target is stale")
  | some unit => do
      require (unit.kind = utf8 "inherited_rejected_form"
          ∧ Number.eq unit.generation p.generation = true
          ∧ Value.eq (.num unit.version) (target.get "before_version") = true
          ∧ target.get "before_activation" = .text unit.activation.name)
        (refuse "DISSOLVE inherited target is stale")
      pure unit

def releaseMigration (release : Value) (target : FieldUnit) : Value :=
  .record [("status", .text "inherited_form_released"),
    ("release_id", release.get "release_id"), ("target_unit_id", .str target.id)]

def residueInput (release carrier migration : Value) (sourceRefs : List Value) : Value :=
  .record [("id", release.get "residue_unit_id"), ("kind", .text "rejected_form_residue"),
    ("carrier", carrier.deepCopy), ("source_refs", .array sourceRefs),
    ("event_truth_status", .text "runtime_confirmed"),
    ("content_truth_status", .text "mixed"), ("activation", .text "live"),
    ("migration", migration)]

def releasePlan (S : Schemas) (p : Packet) (actor input : Value) :
    Except Failure ReleasePlan := do
  p.assertMutable "prepare inherited form release"
  let glyph ← actorGlyph actor
  require (glyph = .dissolve) (refuse "only DISSOLVE may release inherited form")
  let _ ← p.assertActorTick (Topology.value glyph) "prepare inherited form release"
  requireReleaseInput input
  let release := input.get "release"
  let carrier := input.get "residue_carrier"
  verifyNormalized S.normalizeRelease S.releaseSame release "DISSOLVE release"
  verifyNormalized S.normalizeResidue S.releaseSame carrier "DISSOLVE rejected-form residue"
  require (Value.eq (carrier.get "release_id") (release.get "release_id") = true)
    (refuse "DISSOLVE residue contradicts release identity")
  let target ← releaseTarget p release
  require (release.get "residue_unit_id" = .str (nextUnitId p.field)
      ∧ find p.field.units (release.get "residue_unit_id") = none)
    (refuse "DISSOLVE planned residue id is stale")
  let sourceRefs ← copyArray (input.get "residue_source_refs")
  let residueUnit ← validateUnitPlan p (Topology.value glyph)
    (residueInput release carrier (releaseMigration release target) sourceRefs) true
  pure
    { packetId := p.id
      generation := p.generation
      potentialRevision := p.revisions.potential
      release := release.deepCopy
      residueUnit := { residueUnit with migration := releaseMigration release target } }

/-- `field.prepare_inherited_form_release`; gives the place of the plan. -/
def prepareInheritedFormRelease (S : Schemas) (l : Living) (actor input : Value) :
    Reply Living Nat :=
  transact (releasePlan S l.packet actor input)
    (fun plan => (.ok l.releases.length, { l with releases := l.releases ++ [some plan] })) l

/-- `tonumber(id:match("^unit:(%d+)$"))` -/
def unitOrdinal (id : Value) : Option Number :=
  match id with
  | .str s =>
    let suffix := s.drop 5
    if (utf8 "unit:").isPrefixOf s && !suffix.isEmpty && suffix.all Number.isDigit then
      some (Number.ofDecimal suffix)
    else none
  | _ => none

structure ReleaseCommit where
  target : FieldUnit
  residue : FieldUnit

def dissolvedTarget (target : FieldUnit) (eventId : Value) (version : Number) : FieldUnit :=
  { target with
    activation := .dissolved
    activationSource := some
      ⟨eventId, .dissolve, .text "inherited_rejected_form_release"⟩
    version := version }

/-- The checks of a commit after its plan was taken, and the two units it writes.  A
failed postcondition is undone before it is reported. -/
def releaseCommit (S : Schemas) (p : Packet) (plan : ReleasePlan) (eventId : Value) :
    Except Failure ReleaseCommit := do
  let _ ← p.assertActorTick (Topology.value .dissolve) "commit inherited form release"
  let event ← p.eventInCurrentTick (Topology.value .dissolve) eventId
  require (event.type = .unitDissolution ∧ S.releaseSame event.payload plan.release = true)
    (refuse "release event does not match field plan")
  let target := plan.release.get "target"
  match find p.field.units (target.get "id") with
  | none => .error (refuse "inherited form release plan became stale")
  | some unit => do
      require (p.revisions.potential = plan.potentialRevision
          ∧ Value.eq (.num unit.version) (target.get "before_version") = true
          ∧ target.get "before_activation" = .text unit.activation.name
          ∧ (unitOrdinal (plan.release.get "residue_unit_id")).map
            (Number.eq (.int p.field.nextUnitId)) = some true
          ∧ find p.field.units (plan.release.get "residue_unit_id") = none)
        (refuse "inherited form release plan became stale")
      match target.get "after_version" with
      | .num version => do
          require (target.get "after_activation" = .text "dissolved")
            (refuse "inherited form release postcondition failed")
          pure ⟨dissolvedTarget unit eventId version,
            { plan.residueUnit with createdEventId := eventId }⟩
      | _ => .error (refuse "inherited form release postcondition failed")

def takePlan (l : Living) (actor : Value) (place : Nat) : Except Failure ReleasePlan := do
  let glyph ← actorGlyph actor
  match l.releases[place]? with
  | some (some plan) =>
    if glyph = .dissolve then .ok plan
    else .error (refuse "invalid inherited form release plan")
  | _ => .error (refuse "invalid inherited form release plan")

/-- `field.commit_inherited_form_release`: the plan is gone once it was taken. -/
def commitInheritedFormRelease (S : Schemas) (l : Living) (actor : Value) (place : Nat)
    (eventId : Value) : Reply Living ReleaseCommit :=
  transact (takePlan l actor place)
    (fun plan =>
      let taken : Living := { l with releases := l.releases.set place none }
      transact (releaseCommit S l.packet plan eventId)
        (fun commit => (.ok commit,
          { taken with
            packet := withUnit (putUnit l.packet commit.target) commit.residue })) taken) l

end Proc17.Runtime.Field
