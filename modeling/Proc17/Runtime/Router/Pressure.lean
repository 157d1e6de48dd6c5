import Proc17.Core.Digest
import Proc17.Core.Packet.Evidence

/-!
# What the historical router reads

`legacy_pressure_snapshot` of `runtime/router.lua`, with `body.progress` and
`freshness.evidence_fingerprint`.  The areas of a Packet that only organs write stand
beside the typed Packet as Lua values; the file system and the check of a stored work
completion are given.
-/

namespace Proc17.Runtime.Router

open Lua
open Core

/-- A Packet with the areas that the organs keep on it. -/
structure Instance where
  packet : Packet
  karma : Value
  foundation : Value
  evidence : Value
  logicStamp : Value
  choices : Value
  validations : Value
  cycles : Value

def telling (type : EventType) : Bool := type = .tensionMeasure || type = .routeDerivation

/-- `spells.referent_hash` over the file system as it stands, and
`work_completion.is_complete`, which looks for a completion in the trace: it gives a
verdict or raises an error. -/
structure World where
  referentHash : Value → Value
  isComplete : Packet → Bytes → Number → Except Value Bool
  isComplete_push : ∀ (p : Packet) (event : Event), telling event.type = true →
    isComplete (p.push event) = isComplete p

/-! ## Freshness of evidence -/

/-- A verdict of `freshness.read`. -/
structure Reading where
  zone : String
  reason : String
  effectiveTruthStatus : String
  currentReferentHash : Value
  referentPresent : Value

def Reading.unclocked (present : Value) : Reading :=
  ⟨"unclocked", "no_clock", "semantic_proposal", .nil, present⟩

def warmWindow : Number := .int 8

def readFreshness (world : World) (record tick : Value) : Reading :=
  if record.isTable = false then .unclocked .nil
  else if record.get "referent_hash" ≠ .nil ∧ record.get "referent" ≠ .nil then
    let current := world.referentHash (record.get "referent")
    let present := Value.bool (current ≠ .nil)
    if current.eq (record.get "referent_hash") then
      ⟨"hot", "referent_verified", "runtime_confirmed", current, present⟩
    else ⟨"cold", "referent_changed", "semantic_proposal", current, present⟩
  else
    match record.get "cast_tick", tick with
    | .num cast, .num now =>
      if Number.le (Number.sub now cast) warmWindow then
        ⟨"warm", "inside_tick_window", "runtime_confirmed", .nil, .bool false⟩
      else ⟨"cold", "tick_window_expired", "semantic_proposal", .nil, .bool false⟩
    | _, _ => .unclocked (.bool false)

def concat (separator : String) (parts : List Bytes) : Bytes :=
  List.intercalate (utf8 separator) parts

/-- `stable_hash` of `logic/spells.lua` -/
def stableHash (text : Bytes) : Bytes :=
  Digest.hexWord
    (text.foldl (fun hash byte => ((hash ^^^ byte.toNat) * 16777619) % 4294967296) 2166136261)

def evidencePart (world : World) (tick item : Value) : Except Failure Bytes := do
  let reading := readFreshness world item tick
  let intention ← item.index "intention_hash"
  let cast ← item.index "cast_tick"
  let success ← item.index "success"
  let referent ← item.index "referent"
  let referentHash ← item.index "referent_hash"
  pure (concat ":" [intention.tostring, cast.tostring, success.tostring, referent.tostring,
    referentHash.tostring, utf8 reading.zone, utf8 reading.reason,
    utf8 reading.effectiveTruthStatus, reading.currentReferentHash.tostring,
    reading.referentPresent.tostring])

def evidenceFingerprint (world : World) (i : Instance) : Except Failure Bytes := do
  let evidence := i.evidence.orElse .emptyTable
  let count ← evidence.length
  let items ← evidence.ipairs
  let parts ← items.mapM (evidencePart world i.packet.physis.ticks)
  pure (stableHash (concat "|" ((Value.nat count).tostring :: parts)))

/-! ## Progress of the work -/

structure Progress where
  goal : Bytes
  neededCount : Nat
  done : List Bytes
  remaining : List Bytes

/-- `work_units` of `runtime/body.lua` -/
def workUnits (p : Packet) : Except Failure (List Value) := do
  if p.calm.workUnits.isTable then
    let items ← p.calm.workUnits.ipairs
    if items ≠ [] then return items
  if p.calm.current.isTable ∧ (p.calm.current.get "units").isTable then
    (p.calm.current.get "units").ipairs
  else pure []

/-- `unit_id`, of the unit at an index counted from zero. -/
def unitId (unit : Value) (index : Nat) : Bytes :=
  if unit.isTable ∧ unit.get "id" ≠ .nil then (unit.get "id").tostring
  else (Value.nat (index + 1)).tostring

def isDone (unit : Value) : Bool := unit.isTable && unit.get "status" = .text "done"

def repositoryFieldUnit (p : Packet) (id : Bytes) : Option FieldUnit :=
  (p.field.units.lookup id).filter fun unit =>
    unit.carrier.isTable && unit.carrier.get "kind" = .text "repository.create_text_file.v0"

/-- A unit bound to a repository action is done when its completion is confirmed,
whatever its own status says. -/
def unitCompleted (world : World) (p : Packet) (unit : Value) (index : Nat) :
    Except Failure Bool :=
  match repositoryFieldUnit p (unitId unit index) with
  | none => .ok (isDone unit)
  | some fieldUnit => (world.isComplete p fieldUnit.id fieldUnit.version).mapError .raised

def progress (world : World) (p : Packet) : Except Failure Progress := do
  let units ← workUnits p
  let judged ← units.zipIdx.mapM fun (unit, index) => do
    let completed ← unitCompleted world p unit index
    pure (unitId unit index, completed)
  pure
    { goal := p.chaos.rawPrompt
      neededCount := units.length
      done := (judged.filter Prod.snd).map Prod.fst
      remaining := (judged.filter fun unit => !unit.2).map Prod.fst }

/-! ## The pressure snapshot -/

def last (list : Value) : Value :=
  match list with
  | .table _ entries =>
    Value.lookup entries (.nat (Value.itemsFrom entries entries.length 1).length)
  | _ => .nil

structure LossPressure where
  exhausted : Bool
  nearDeath : Bool
  recordsCount : Nat
  current : Value
  remaining : Value

def lossPressure (p : Packet) : LossPressure where
  exhausted := p.tensionField "loss_exhausted" = .bool true
  nearDeath := p.tensionField "loss_near_death" = .bool true
  recordsCount := p.boundary.lossRecords.length
  current := p.tensionField "loss"
  remaining := p.tensionField "loss_remaining"

structure BudgetPressure where
  exhausted : Bool
  exhaustedKeys : Value
  values : Value
  spent : Value

def legacyAxes : List String :=
  ["steps", "substrate_calls", "tool_calls", "file_writes", "test_runs"]

def spentUp (v : Value) : Bool :=
  match v with
  | .num n => Number.le n (.int 0)
  | _ => false

def anyAxisSpent (budget : Value) : List String → Except Failure Bool
  | [] => .ok false
  | axis :: rest => do
      let left ← budget.index axis
      if spentUp left then pure true else anyAxisSpent budget rest

def budgetPressure (p : Packet) : Except Failure BudgetPressure :=
  match p.runtimeBudget with
  | some budget => .ok
      { exhausted := budget.exhausted
        exhaustedKeys := .array (budget.exhaustedKeys.map .text)
        values := Packet.costTable budget.remaining
        spent := Packet.costTable budget.spent }
  | none => do
      let budget := p.physis.budget.orElse .emptyTable
      let exhausted ← anyAxisSpent budget legacyAxes
      pure ⟨exhausted, .emptyTable, budget, .nil⟩

structure KarmaPressure where
  warningCount : Nat
  bequestCount : Nat
  neutralCount : Nat
  warnings : Value

def karmaPressure (i : Instance) : Except Failure KarmaPressure := do
  let karma := i.karma.orElse .emptyTable
  let warnings ← karma.index "warnings"
  let warningCount ← (warnings.orElse .emptyTable).length
  let bequests ← karma.index "bequests"
  let bequestCount ← (bequests.orElse .emptyTable).length
  let neutral ← karma.index "neutral"
  let neutralCount ← (neutral.orElse .emptyTable).length
  pure ⟨warningCount, bequestCount, neutralCount, warnings.orElse .emptyTable⟩

/-- The table of `legacy_pressure_snapshot`. -/
structure LegacyPressure where
  loss : LossPressure
  budget : BudgetPressure
  karma : KarmaPressure
  progress : Progress
  payload : Value
  workMode : Value
  lastChoice : Value
  lastValidation : Value
  lastCycle : Value
  validationStatus : Value
  cycleDecision : Value
  foundationState : Value
  evidenceCount : Nat
  logicStamp : Value
  evidenceFingerprint : Bytes
  calmStatus : Value
  hasCalm : Bool

def fieldOf (v : Value) (name : String) : Except Failure Value :=
  if v.truthy then v.index name else .ok v

def legacyPressureSnapshot (world : World) (i : Instance) (tick : Value) :
    Except Failure LegacyPressure := do
  let given ← tick.index "payload"
  let tickMode ← tick.index "work_mode"
  let payload := if given.isTable then given else .emptyTable
  let work ← progress world i.packet
  let lastValidation := last i.validations
  let lastCycle := last i.cycles
  let budget ← budgetPressure i.packet
  let karma ← karmaPressure i
  let validationStatus ← fieldOf lastValidation "status"
  let cycleDecision ← fieldOf lastCycle "decision"
  let foundationState ← (i.foundation.orElse .emptyTable).index "state"
  let evidenceCount ← (i.evidence.orElse .emptyTable).length
  let fingerprint ← evidenceFingerprint world i
  pure
    { loss := lossPressure i.packet
      budget := budget
      karma := karma
      progress := work
      payload := (payload.get "pressure").orElse .emptyTable
      workMode := (payload.get "work_mode").orElse
        (tickMode.orElse (.text i.packet.workMode.name))
      lastChoice := last i.choices
      lastValidation := lastValidation
      lastCycle := lastCycle
      validationStatus := validationStatus
      cycleDecision := cycleDecision
      foundationState := foundationState
      evidenceCount := evidenceCount
      logicStamp := i.logicStamp
      evidenceFingerprint := fingerprint
      calmStatus := i.packet.calm.status
      hasCalm := i.packet.calm.current ≠ .nil || 0 < work.neededCount }

/-! ## Telling leaves the reading as it was -/

def Instance.push (i : Instance) (event : Event) : Instance :=
  { i with packet := i.packet.push event }

variable (world : World)

theorem progress_push (p : Packet) (event : Event) (told : telling event.type = true) :
    progress world (p.push event) = progress world p := by
  have completed : ∀ unit index,
      unitCompleted world (p.push event) unit index = unitCompleted world p unit index := by
    intro unit index
    unfold unitCompleted
    rw [world.isComplete_push p event told]
    rfl
  unfold progress
  simp only [completed]
  rfl

variable (i : Instance)

theorem legacyPressureSnapshot_push (tick : Value) (event : Event)
    (told : telling event.type = true) :
    legacyPressureSnapshot world (i.push event) tick = legacyPressureSnapshot world i tick := by
  unfold legacyPressureSnapshot
  rw [Instance.push, progress_push world i.packet event told]
  rfl

/-! ## A reading gives a result or throws -/

/-- An error that Lua throws; `nil, err` is none. -/
def Thrown (failure : Failure) : Prop := ∀ err, failure ≠ .refused err

theorem thrown_index (v : Value) (name : String) : OnError Thrown (v.index name) := by
  cases v with
  | table | str => exact .ok _
  | _ => exact .error (by rintro err ⟨⟩)

theorem thrown_length (v : Value) : OnError Thrown v.length := by
  cases v with
  | table | str => exact .ok _
  | _ => exact .error (by rintro err ⟨⟩)

theorem thrown_ipairs (v : Value) : OnError Thrown v.ipairs := by
  cases v with
  | table | str => exact .ok _
  | _ => exact .error (by rintro err ⟨⟩)

theorem thrown_fieldOf (v : Value) (name : String) : OnError Thrown (fieldOf v name) :=
  .ite (thrown_index v name) (.ok _)

theorem thrown_evidenceFingerprint :
    OnError Thrown (evidenceFingerprint world i) := by
  unfold evidenceFingerprint
  refine .bind (thrown_length _) fun count => .bind (thrown_ipairs _) fun items => ?_
  refine .bind (OnError.mapM (fun item => ?_) items) fun parts => .ok _
  unfold evidencePart
  refine .bind (thrown_index _ _) fun intention => .bind (thrown_index _ _) fun cast => ?_
  refine .bind (thrown_index _ _) fun success => .bind (thrown_index _ _) fun referent => ?_
  exact .bind (thrown_index _ _) fun hash => .ok _

theorem thrown_workUnits (p : Packet) : OnError Thrown (workUnits p) := by
  have current : OnError Thrown
      (if p.calm.current.isTable = true ∧ (p.calm.current.get "units").isTable = true then
        (p.calm.current.get "units").ipairs else pure []) :=
    .ite (thrown_ipairs _) (.ok _)
  unfold workUnits
  exact .ite (.bind (thrown_ipairs _) fun items => .ite (.ok _) current) current

theorem thrown_progress (p : Packet) : OnError Thrown (progress world p) := by
  unfold progress
  refine .bind (thrown_workUnits p) fun units => ?_
  refine .bind (OnError.mapM (fun unit => ?_) _) fun judged => .ok _
  refine .bind ?_ fun completed => .ok _
  unfold unitCompleted
  split
  · exact .ok _
  · exact .mapError (by rintro raised err ⟨⟩)

theorem thrown_budgetPressure (p : Packet) : OnError Thrown (budgetPressure p) := by
  have axes : ∀ budget, ∀ names : List String, OnError Thrown (anyAxisSpent budget names) := by
    intro budget names
    induction names with
    | nil => exact .ok _
    | cons axis rest ih =>
      unfold anyAxisSpent
      exact .bind (thrown_index _ _) fun left => .ite (.ok _) ih
  unfold budgetPressure
  split
  · exact .ok _
  · exact .bind (axes _ _) fun exhausted => .ok _

theorem thrown_karmaPressure : OnError Thrown (karmaPressure i) := by
  unfold karmaPressure
  refine .bind (thrown_index _ _) fun warnings => .bind (thrown_length _) fun count => ?_
  refine .bind (thrown_index _ _) fun bequests => .bind (thrown_length _) fun count => ?_
  exact .bind (thrown_index _ _) fun neutral => .bind (thrown_length _) fun count => .ok _

theorem thrown_legacyPressureSnapshot (tick : Value) :
    OnError Thrown (legacyPressureSnapshot world i tick) := by
  unfold legacyPressureSnapshot
  refine .bind (thrown_index _ _) fun given => .bind (thrown_index _ _) fun mode => ?_
  refine .bind (thrown_progress _ _) fun work => .bind (thrown_budgetPressure _) fun budget => ?_
  refine .bind (thrown_karmaPressure _) fun karma => .bind (thrown_fieldOf _ _) fun status => ?_
  refine .bind (thrown_fieldOf _ _) fun decision => .bind (thrown_index _ _) fun state => ?_
  refine .bind (thrown_length _) fun count => ?_
  exact .bind (thrown_evidenceFingerprint _ _) fun fingerprint => .ok _

end Proc17.Runtime.Router
