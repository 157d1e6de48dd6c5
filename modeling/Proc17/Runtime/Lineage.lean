import Proc17.Core.Digest
import Proc17.Runtime.LineageBudget

/-!
# The in-memory lineage

`runtime/lineage.lua`: a lineage is created, allocates and commits one generation after the
other, registers the corpse of each and continues from it, until it is finished.  What a caller
supplies (transactions, Packets, receipts, corpses, carriers) is any value.
-/

namespace Proc17.Runtime.Lineage

open Lua Core List Value

/-! ## The state -/

inductive Status where
  | created
  | running
  | evaluatingTerminal
  | continuing
  | suspended
  | complete
  | exhausted
  | terminated
  deriving DecidableEq

def terminalStatuses : List Status := [.suspended, .complete, .exhausted, .terminated]

def Status.name : Status → String
  | .created => "created"
  | .running => "running"
  | .evaluatingTerminal => "evaluating_terminal"
  | .continuing => "continuing"
  | .suspended => "suspended"
  | .complete => "complete"
  | .exhausted => "exhausted"
  | .terminated => "terminated"

def Status.eventKind : Status → String
  | .suspended => "lineage_suspended"
  | .complete => "lineage_completed"
  | .exhausted => "lineage_exhausted"
  | .terminated => "lineage_terminated"
  | _ => ""

structure LedgerEvent where
  id : Bytes
  kind : String
  generation : Value
  packetId : Value
  corpseId : Value
  carrierId : Value
  transactionKey : Value
  payload : Value
  sourceRefs : Value
  contentTruthStatuses : Value
  time : Value

/-- One of `state.generations`. -/
structure Entry where
  generation : Value
  packetId : Value
  parentPacketId : Value
  parentCorpseId : Value
  ingressCarrierId : Value
  corpseId : Value
  terminalKind : Value
  substrateSessionId : Value
  localBudgetAllocation : Value
  bornEventId : Value
  terminalEventId : Value

structure State where
  lineageId : Value
  sessionId : Value
  status : Status
  workMode : Value
  completionContractId : Value
  task : Value
  currentGeneration : Value
  currentPacketId : Value
  currentCorpseId : Value
  currentCarrierId : Value
  substrateSessionId : Value
  generations : List Entry
  ledger : List LedgerEvent
  budget : LineageBudget.State
  policy : Value
  /-- The entries of the table. -/
  continuedCorpses : List (Value × Value)
  pendingGeneration : Value
  terminal : Value

def isIdByte (b : UInt8) : Bool :=
  (48 ≤ b && b ≤ 57) || (65 ≤ b && b ≤ 90) || (97 ≤ b && b ≤ 122) || b = 46 || b = 95 || b = 58
    || b = 45

def validId : Value → Bool
  | .str s => !s.isEmpty && s.all isIdByte
  | _ => false

/-! ## Events -/

/-- What `append_event` is given. -/
structure EventInput where
  kind : String
  generation : Value := .nil
  packetId : Value := .nil
  corpseId : Value := .nil
  carrierId : Value := .nil
  transactionKey : Value := .nil
  payload : Value := .nil
  sourceRefs : Value := .nil
  contentTruthStatuses : Value := .nil
  time : Value

/-- The event that `append_event` records; `clock` is what `os.time()` answers. -/
def eventOf (clock : Value) (ledger : List LedgerEvent) (input : EventInput) : LedgerEvent where
  id := utf8 "lineage-event:" ++ Number.decimal (ledger.length + 1)
  kind := input.kind
  generation := input.generation
  packetId := input.packetId
  corpseId := input.corpseId
  carrierId := input.carrierId
  transactionKey := input.transactionKey
  payload := (input.payload.orElse .emptyTable).deepCopy
  sourceRefs := (input.sourceRefs.orElse .emptyTable).deepCopy
  contentTruthStatuses := (input.contentTruthStatuses.orElse .emptyTable).deepCopy
  time := input.time.orElse clock

def appendEvent (clock : Value) (s : State) (input : EventInput) : State :=
  { s with ledger := s.ledger ++ [eventOf clock s.ledger input] }

def nextEventId (s : State) : Value :=
  .str (utf8 "lineage-event:" ++ Number.decimal (s.ledger.length + 1))

def fieldOf (input : Value) (name : String) : Except Failure Value :=
  if input.truthy then input.index name else .ok input

/-! ## `lineage.create` -/

def givenId (sourced : Except Failure Value) : Value → Value → Except Failure Value
  | .nil, .ref .function _ => sourced
  | given, _ => .ok given

/-- `lineage.create`; `sourced` is what `options.id_source("lineage")` answers and `numbered`
the id that `next_lineage_id` makes. -/
def create (sourced : Except Failure Value) (numbered : Bytes) (clock task options : Value) :
    Except Failure State := do
  let options := options.orElse .emptyTable
  match task with
  | .str text => do
      require (text ≠ []) (refuse "lineage task must be non-empty string")
      let workMode ← options.index "work_mode"
      let workMode := workMode.orElse (.text "plan")
      require (workMode = .text "plan" ∨ workMode = .text "build")
        (refuse "lineage work mode must be plan or build")
      let given ← options.index "lineage_id"
      let idSource ← options.index "id_source"
      let given ← givenId sourced given idSource
      let lineageId := given.orElse (.str numbered)
      let sessionId := (options.get "session_id").orElse (.text "session-default")
      require (validId lineageId = true ∧ validId sessionId = true)
        (refuse "lineage and session ids must be safe non-empty strings")
      let taskHash := Digest.sha256 text
      let budget ← LineageBudget.new ((options.get "budget").orElse .emptyTable)
      let carrier := ((options.get "carrier").orElse .emptyTable).deepCopy
      let maxBytes ← carrier.index "max_bytes"
      require (maxBytes.isPositiveInteger = true)
        (refuse "lineage carrier.max_bytes must be integer >= 1")
      let taskId := (options.get "task_id").orElse (.str (utf8 "task:" ++ taskHash.take 16))
      let contract := (options.get "completion_contract_id").orElse (.text "plan.v0")
      let truthStatus := (options.get "content_truth_status").orElse (.text "semantic_proposal")
      let state : State :=
        { lineageId := lineageId
          sessionId := sessionId
          status := .created
          workMode := workMode
          completionContractId := contract
          task := .record [
            ("task_id", taskId),
            ("payload", .str text),
            ("input_hash", .str taskHash),
            ("payload_bytes", .nat text.length),
            ("media_type", .text "text/plain"),
            ("content_truth_status", truthStatus)]
          currentGeneration := .nat 0
          currentPacketId := .nil
          currentCorpseId := .nil
          currentCarrierId := .nil
          substrateSessionId := options.get "substrate_session_id"
          generations := []
          ledger := []
          budget := budget
          policy := .record [
            ("history_enabled", .bool (options.get "history_enabled" = .bool true)),
            ("allow_recovery", .bool (options.get "allow_recovery" ≠ .bool false)),
            ("carrier", carrier),
            ("emergency_max_generations", options.get "emergency_max_generations")]
          continuedCorpses := []
          pendingGeneration := .nil
          terminal := .nil }
      pure (appendEvent clock state
        { kind := "lineage_created"
          payload := .record [
            ("work_mode", workMode),
            ("completion_contract_id", contract),
            ("task_id", taskId),
            ("input_hash", .str taskHash)]
          contentTruthStatuses := .array [truthStatus]
          time := options.get "time" })
  | _ => .error (refuse "lineage task must be non-empty string")

/-! ## `lineage.begin_generation` -/

/-- What `begin_generation` reads before it records anything. -/
structure Begun where
  generation : Value
  /-- `generation > 1` -/
  later : Bool
  allocation : Value
  packetBudget : Value
  time : Value

def beginPlan (s : State) (allocation input : Value) : Except Failure Begun := do
  require (s.status = .created ∨ s.status = .continuing)
    (refuse "lineage is not ready to allocate a generation")
  require (s.pendingGeneration = .nil)
    (refuse "lineage generation transaction is already pending")
  LineageBudget.canAllocate s.budget (allocation.orElse .emptyTable)
  let generation ← Value.arith Number.add s.currentGeneration (.nat 1)
  let packetBudget ← fieldOf input "packet_budget"
  let later ← Value.less (.nat 1) (.num generation)
  let time ← fieldOf input "time"
  pure ⟨.num generation, later, (allocation.orElse .emptyTable).deepCopy,
    (packetBudget.orElse (allocation.orElse .emptyTable)).deepCopy, time⟩

def Begun.inherited (b : Begun) (value : Value) : Value :=
  if b.later then value.orElse .nil else .nil

def transactionKey (s : State) (generation : Value) : Bytes :=
  s.lineageId.tostring ++ utf8 ":generation:" ++ generation.tostring

def transactionOf (s : State) (b : Begun) : Value :=
  .record [
    ("kind", .text "lineage_generation_transaction"),
    ("protocol_version", .text "lineage.generation_transaction.v0"),
    ("transaction_key", .str (transactionKey s b.generation)),
    ("lineage_id", s.lineageId),
    ("generation", b.generation),
    ("allocation", b.allocation),
    ("packet_budget", b.packetBudget),
    ("parent_packet_id", b.inherited s.currentPacketId),
    ("parent_corpse_id", b.inherited s.currentCorpseId),
    ("ingress_carrier_id", b.inherited s.currentCarrierId),
    ("committed", .bool false),
    ("allocation_event_id", nextEventId s)]

def withBegun (clock : Value) (s : State) (b : Begun) : State :=
  { appendEvent clock s
      { kind := "generation_allocated"
        generation := b.generation
        transactionKey := .str (transactionKey s b.generation)
        payload := .record [("allocation", b.allocation)]
        sourceRefs := if b.later then
          .sparse [b.inherited s.currentCorpseId, b.inherited s.currentCarrierId] else .emptyTable
        time := b.time } with
    pendingGeneration := .str (transactionKey s b.generation) }

def beginGeneration (clock : Value) (s : State) (allocation input : Value) : Reply State Value :=
  transact (beginPlan s allocation input)
    (fun begun => (.ok (transactionOf s begun), withBegun clock s begun)) s

/-! ## `lineage.commit_birth` -/

/-- The checks of `commit_birth`. -/
def birthPlan (s : State) (transaction inst receipt : Value) : Except Failure Unit := do
  require (transaction.isTable = true
      ∧ transaction.get "kind" = .text "lineage_generation_transaction"
      ∧ (transaction.get "lineage_id").eq s.lineageId = true)
    (refuse "invalid lineage generation transaction")
  require (transaction.get "committed" ≠ .bool true)
    (refuse "generation transaction already committed")
  require (s.status = .created ∨ s.status = .continuing)
    (refuse "lineage is not ready to commit a generation birth")
  require (s.pendingGeneration.eq (transaction.get "transaction_key") = true)
    (refuse "generation transaction is not current")
  require (inst.isTable = true ∧ validId (inst.get "id") = true
      ∧ inst.get "status" = .text "born" ∧ inst.get "operator" = .text "▽")
    (refuse "birth commit requires Packet")
  require ((inst.get "lineage_id").eq s.lineageId = true
      ∧ (inst.get "generation").eq (transaction.get "generation") = true
      ∧ (inst.get "parent_id").eq (transaction.get "parent_packet_id") = true
      ∧ (inst.get "parent_corpse_id").eq (transaction.get "parent_corpse_id") = true
      ∧ (inst.get "carrier_id").eq (transaction.get "ingress_carrier_id") = true)
    (refuse "Packet identity does not match generation transaction")
  require (receipt.isTable = true
      ∧ receipt.get "kind" = .text "l1_packet_birth_receipt"
      ∧ receipt.get "protocol_version" = .text "l1.packet_birth.v0"
      ∧ (receipt.get "packet_id").eq (inst.get "id") = true
      ∧ (receipt.get "domain_event_ref").isString = true
      ∧ (receipt.get "flow_ref").isTable = true)
    (refuse "birth receipt does not match Packet")

def remainingTable (remaining : List (String × LineageBudget.Limit)) : Value :=
  .record (remaining.map fun entry => (entry.1, entry.2.value))

def chargedTable (event : LineageBudget.Event) : Value :=
  .record [
    ("kind", .text "lineage_budget_spent"),
    ("protocol_version", .text "lineage.budget.event.v0"),
    ("key", .str event.key),
    ("cost", LineageBudget.amountTable event.cost),
    ("source_refs", event.sourceRefs),
    ("event_truth_status", .text "runtime_confirmed"),
    ("spent_after", LineageBudget.amountTable event.spentAfter),
    ("remaining_after", remainingTable event.remainingAfter),
    ("exhausted", .bool event.exhausted),
    ("exhausted_keys", .array (event.exhaustedKeys.map Value.text))]

def birthCharge (s : State) (transaction receipt : Value) :
    Reply LineageBudget.State LineageBudget.Event :=
  LineageBudget.charge s.budget
    (.str (utf8 "generation:" ++ (transaction.get "generation").tostring))
    (.record [("generations", .nat 1)])
    (.sparse [transaction.get "transaction_key", receipt.get "domain_event_ref"]) .nil

def entryOf (transaction inst bornEventId : Value) : Entry where
  generation := transaction.get "generation"
  packetId := inst.get "id"
  parentPacketId := transaction.get "parent_packet_id"
  parentCorpseId := transaction.get "parent_corpse_id"
  ingressCarrierId := transaction.get "ingress_carrier_id"
  corpseId := .nil
  terminalKind := .nil
  substrateSessionId := inst.get "substrate_session_id"
  localBudgetAllocation := (transaction.get "packet_budget").deepCopy
  bornEventId := bornEventId
  terminalEventId := .nil

def withBirth (clock : Value) (s : State) (transaction inst receipt : Value)
    (charged : LineageBudget.Event) (time : Value) : State :=
  let paid := appendEvent clock s
    { kind := "lineage_budget_spent"
      generation := transaction.get "generation"
      transactionKey := transaction.get "transaction_key"
      payload := chargedTable charged
      sourceRefs := .sparse [transaction.get "transaction_key", receipt.get "domain_event_ref"]
      time := time }
  let born := appendEvent clock paid
    { kind := "generation_born"
      generation := transaction.get "generation"
      packetId := inst.get "id"
      carrierId := transaction.get "ingress_carrier_id"
      transactionKey := transaction.get "transaction_key"
      payload := .record [
        ("birth_kind", inst.get "birth_kind"),
        ("flow_ref", (receipt.get "flow_ref").deepCopy),
        ("allocation", transaction.get "allocation")]
      sourceRefs := .sparse [transaction.get "allocation_event_id", nextEventId s,
        receipt.get "domain_event_ref"]
      time := time }
  { born with
    generations := s.generations ++ [entryOf transaction inst (nextEventId paid)]
    currentGeneration := transaction.get "generation"
    currentPacketId := inst.get "id"
    currentCorpseId := .nil
    status := .running
    pendingGeneration := .nil }

/-- `lineage.commit_birth`; a birth that is charged and then fails leaves the charge. -/
def commitBirth (clock : Value) (s : State) (transaction inst receipt input : Value) :
    Reply State Unit :=
  transact (birthPlan s transaction inst receipt)
    (fun _ =>
      match birthCharge s transaction receipt with
      | (.error failure, budget) => (.error failure, { s with budget := budget })
      | (.ok charged, budget) =>
        let paid := { s with budget := budget }
        transact (fieldOf input "time")
          (fun time => (.ok (), withBirth clock paid transaction inst receipt charged time)) paid)
    s

/-! ## `lineage.register_corpse` -/

def corpsePlan (s : State) (corpse input : Value) : Except Failure (Entry × Value) := do
  require (s.status = .running ∧ corpse.isTable = true)
    (refuse "lineage is not ready to register a corpse")
  match s.generations.getLast? with
  | none => .error (refuse "corpse ancestry does not match current generation")
  | some entry => do
      require (entry.packetId.eq (corpse.get "packet_id") = true
          ∧ entry.generation.eq (corpse.get "generation") = true
          ∧ (corpse.get "lineage_id").eq s.lineageId = true)
        (refuse "corpse ancestry does not match current generation")
      require (entry.corpseId = .nil) (refuse "generation corpse already registered")
      let time ← fieldOf input "time"
      pure (entry, time)

def withCorpse (clock : Value) (s : State) (corpse : Value) (entry : Entry) (time : Value) :
    State :=
  let terminal := appendEvent clock s
    { kind := "packet_terminal"
      generation := corpse.get "generation"
      packetId := corpse.get "packet_id"
      corpseId := corpse.get "corpse_id"
      payload := .record [
        ("terminal_kind", corpse.get "terminal_kind"),
        ("death_cause", corpse.get "death_cause")]
      sourceRefs := .sparse [corpse.get "terminal_trace_ref"]
      time := time }
  let registered := appendEvent clock terminal
    { kind := "corpse_registered"
      generation := corpse.get "generation"
      packetId := corpse.get "packet_id"
      corpseId := corpse.get "corpse_id"
      payload := .record [("corpse_hash", corpse.get "corpse_hash")]
      sourceRefs := .sparse [nextEventId s, corpse.get "terminal_trace_ref"]
      time := time }
  { registered with
    generations := s.generations.dropLast ++ [{ entry with
      corpseId := corpse.get "corpse_id"
      terminalKind := corpse.get "terminal_kind"
      terminalEventId := nextEventId s }]
    currentCorpseId := corpse.get "corpse_id"
    status := .evaluatingTerminal }

def registerCorpse (clock : Value) (s : State) (corpse input : Value) : Reply State Unit :=
  transact (corpsePlan s corpse input)
    (fun found => (.ok (), withCorpse clock s corpse found.1 found.2)) s

/-! ## `lineage.mark_continued` -/

/-- `a and a[name]`, along a path. -/
def path (value : Value) (names : List String) : Except Failure Value :=
  names.foldlM (fun value name => fieldOf value name) value

def qaRejectedCarrier (carrier : Value) : Except Failure Bool := do
  let evidence ← path carrier ["payload", "qa_history", "qa_evidence"]
  let verdict ← path evidence ["verdict"]
  let judged ← path verdict ["verdict"]
  if evidence.truthy && verdict.truthy && judged = .text "rejected" then
    let projection ← path evidence ["terminal_projection"]
    let projected ← path projection ["verdict"]
    pure (projection.truthy && projected = .text "rejected")
  else pure false

def eventById (ledger : List LedgerEvent) (id : Value) : Option LedgerEvent :=
  ledger.find? fun event => id = .str event.id

section
variable (verify : Value → State → Value → LedgerEvent → Value → Except Failure Unit)

/-- The checks of `mark_continued`, with the projection and the time; `verify` is
`network_projection.verify`. -/
def continuePlan (s : State) (corpse carrier input : Value) : Except Failure (Value × Value) := do
  require (s.status = .evaluatingTerminal ∧ corpse.isTable = true ∧ carrier.isTable = true)
    (refuse "lineage is not ready for continuation")
  require ((corpse.get "corpse_id").eq s.currentCorpseId = true
      ∧ (carrier.get "source_corpse_id").eq (corpse.get "corpse_id") = true)
    (refuse "continuation ancestry mismatch")
  require (Value.lookup s.continuedCorpses (corpse.get "corpse_id") = .nil)
    (refuse "source corpse already produced a child")
  let input := input.orElse .emptyTable
  let projection ← input.index "network_projection"
  let rejected ← qaRejectedCarrier carrier
  if rejected then do
    require (projection.isTable = true)
      (refuse "QA-rejected continuation requires NETWORK projection")
    match eventById s.ledger (projection.get "completion_event_ref") with
    | none => .error (refuse "NETWORK projection completion event is absent")
    | some event => verify projection s corpse event carrier
  else require (projection = .nil) (refuse "ordinary recovery cannot attach QA NETWORK projection")
  let time ← input.index "time"
  pure (projection, time)

/-- `sorted_unique(source_refs)`; nothing follows a missing corpse id. -/
def continuationRefs (corpse carrier projection : Value) : List Value :=
  let refs := [corpse.get "corpse_id", carrier.get "carrier_id", projection.get "projection_id",
    projection.get "completion_assessment_id", projection.get "completion_event_ref"]
  let named := (if corpse.get "corpse_id" = .nil then [] else refs).filter Value.isNonEmptyString
  (named.insertionSort fun a b => Json.TextLe a.tostring b.tostring).dedup

def continuationLogged (clock : Value) (s : State) (corpse carrier projection time : Value) :
    State :=
  appendEvent clock s
    { kind := "continuation_decided"
      generation := corpse.get "generation"
      packetId := corpse.get "packet_id"
      corpseId := corpse.get "corpse_id"
      carrierId := carrier.get "carrier_id"
      payload := .record [
        ("decision", .text "continue"),
        ("target_generation", carrier.get "target_generation"),
        ("network_projection_id", projection.get "projection_id"),
        ("completion_assessment_id", projection.get "completion_assessment_id"),
        ("completion_event_ref", projection.get "completion_event_ref")]
      sourceRefs := .array (continuationRefs corpse carrier projection)
      time := time }

def withContinued (clock : Value) (s : State) (corpse carrier projection time : Value) : State :=
  { continuationLogged clock s corpse carrier projection time with
    continuedCorpses := Value.assign s.continuedCorpses (corpse.get "corpse_id")
      (carrier.get "carrier_id")
    currentCarrierId := carrier.get "carrier_id"
    status := .continuing }

/-- `lineage.mark_continued`; the assignment under a missing corpse id fails after the event. -/
def markContinued (clock : Value) (s : State) (corpse carrier input : Value) : Reply State Unit :=
  transact (continuePlan verify s corpse carrier input)
    (fun found =>
      if corpse.get "corpse_id" = .nil then
        (.error (.fault "newindex"), continuationLogged clock s corpse carrier found.1 found.2)
      else (.ok (), withContinued clock s corpse carrier found.1 found.2)) s

end

/-! ## `lineage.finish` -/

def finishPlan (s : State) (terminal : Value) : Except Failure Status := do
  let status ← terminal.index "status"
  match Value.parse terminalStatuses Status.name status with
  | none => .error (refuse "lineage finish requires terminal status")
  | some status => do
      require (s.status ∉ terminalStatuses) (refuse "lineage is already terminal")
      pure status

/-- The state after `set_status`, with the terminal record. -/
def withFinish (clock : Value) (s : State) (terminal : Value) (status : Status) : State :=
  let logged := appendEvent clock s
    { kind := status.eventKind
      generation := s.currentGeneration
      packetId := s.currentPacketId
      corpseId := s.currentCorpseId
      carrierId := s.currentCarrierId
      payload := terminal.deepCopy
      sourceRefs := ((terminal.get "source_refs").orElse .emptyTable).deepCopy
      time := terminal.get "time" }
  let record := match terminal.deepCopy.setField "event_id" (nextEventId s) with
    | .ok record => record
    | .error _ => .nil
  { logged with
    status := status
    terminal := record }

def finish (clock : Value) (s : State) (terminal : Value) : Reply State Unit :=
  let terminal := terminal.orElse .emptyTable
  transact (finishPlan s terminal)
    (fun status => (.ok (), withFinish clock s terminal status)) s

/-! ## `lineage.validate` -/

/-- One turn of the loop: what was seen before, and the entry under an index. -/
def validateEntry (packetIds corpseIds : List Value) (index : Nat) (entry : Entry) :
    Except Failure Unit := do
  require (entry.generation.eq (.nat index) = true ∧ validId entry.packetId = true)
    (refuse "invalid lineage generation entry")
  require (packetIds.any (·.eq entry.packetId) = false)
    (refuse "lineage Packet identity was reused")
  if entry.corpseId ≠ .nil then do
    require (corpseIds.any (·.eq entry.corpseId) = false)
      (refuse "lineage corpse identity was reused")
    -- a key that is not a number is no key
    require (entry.corpseId.eq entry.corpseId = true) (.fault "newindex")
  require (index ≤ 1 ∨ validId entry.parentPacketId = true ∧ validId entry.parentCorpseId = true
      ∧ validId entry.ingressCarrierId = true)
    (refuse "descendant generation ancestry is incomplete")

def validateEntries : List Value → List Value → Nat → List Entry → Except Failure Unit
  | _, _, _, [] => .ok ()
  | packetIds, corpseIds, index, entry :: rest => do
      validateEntry packetIds corpseIds index entry
      validateEntries (packetIds ++ [entry.packetId])
        (if entry.corpseId ≠ .nil then corpseIds ++ [entry.corpseId] else corpseIds)
        (index + 1) rest

def validate (s : State) : Except Failure Unit := do
  require (validId s.lineageId = true ∧ validId s.sessionId = true)
    (refuse "invalid lineage identity")
  require (s.currentGeneration.eq (.nat s.generations.length) = true)
    (refuse "lineage generation count mismatch")
  require (s.pendingGeneration = .nil ∨ s.pendingGeneration.isString = true)
    (refuse "invalid pending generation transaction")
  validateEntries [] [] 1 s.generations

/-! ## Runs -/

inductive Action where
  | beginGeneration (allocation input : Value)
  | commitBirth (transaction inst receipt input : Value)
  | registerCorpse (corpse input : Value)
  | markContinued (corpse carrier input : Value)
  | finish (terminal : Value)

/-- A call, with what `os.time()` answers in it. -/
structure Call where
  clock : Value
  action : Action

section
variable (verify : Value → State → Value → LedgerEvent → Value → Except Failure Unit)

def machine : Machine State Call Unit where
  step s c :=
    match c.action with
    | .beginGeneration allocation input =>
      (beginGeneration c.clock s allocation input).map fun _ => ()
    | .commitBirth transaction inst receipt input =>
      commitBirth c.clock s transaction inst receipt input
    | .registerCorpse corpse input => registerCorpse c.clock s corpse input
    | .markContinued corpse carrier input => markContinued verify c.clock s corpse carrier input
    | .finish terminal => finish c.clock s terminal

end

/-! ## The ancestry of a lineage -/

def ApartCorpses (e f : Entry) : Prop :=
  e.corpseId = .nil ∨ f.corpseId = .nil ∨ e.corpseId.eq f.corpseId = false

structure Descends (continued : List (Value × Value)) (parent child : Entry) : Prop where
  packet : child.parentPacketId = parent.packetId
  corpse : child.parentCorpseId = parent.corpseId
  carrier : child.ingressCarrierId = Value.lookup continued parent.corpseId
  corpseValid : validId parent.corpseId = true
  carrierValid : validId child.ingressCarrierId = true

structure Ancestral (s : State) : Prop where
  identified : validId s.lineageId = true ∧ validId s.sessionId = true
  counted : s.currentGeneration = .nat s.generations.length
  pending : s.pendingGeneration = .nil ∨ s.pendingGeneration.isString = true
  numbered : ∀ (i : Nat) (e : Entry), s.generations[i]? = some e → e.generation = .nat (i + 1)
  packets : ∀ e ∈ s.generations, validId e.packetId = true
  packetsApart : (s.generations.map Entry.packetId).Nodup
  corpses : ∀ e ∈ s.generations, e.corpseId.eq e.corpseId = true
  corpsesApart : s.generations.Pairwise ApartCorpses
  descends : ∀ (i : Nat) (e f : Entry), s.generations[i]? = some e →
    s.generations[i + 1]? = some f → Descends s.continuedCorpses e f
  started : s.status = .created → s.generations = []
  packet : ∀ e, s.generations.getLast? = some e → s.currentPacketId = e.packetId
  corpse : s.status = .evaluatingTerminal ∨ s.status = .continuing →
    ∀ e, s.generations.getLast? = some e → s.currentCorpseId = e.corpseId
  carried : s.status = .continuing → validId s.currentCorpseId = true →
    validId s.currentCarrierId = true →
    Value.lookup s.continuedCorpses s.currentCorpseId = s.currentCarrierId

/-- A birth commits the transaction that the state would begin, under an unused Packet id; a
descendant has a corpse and a carrier with valid ids. -/
structure BirthMeets (s : State) (transaction inst : Value) : Prop where
  generation : transaction.get "generation" = .nat (s.generations.length + 1)
  fresh : inst.get "id" ∉ s.generations.map Entry.packetId
  packet : s.generations ≠ [] → transaction.get "parent_packet_id" = s.currentPacketId
  corpse : s.generations ≠ [] → transaction.get "parent_corpse_id" = s.currentCorpseId
    ∧ validId s.currentCorpseId = true
  carrier : s.generations ≠ [] → transaction.get "ingress_carrier_id" = s.currentCarrierId
    ∧ validId s.currentCarrierId = true

structure CorpseMeets (s : State) (corpse : Value) : Prop where
  real : (corpse.get "corpse_id").eq (corpse.get "corpse_id") = true
  fresh : ∀ e ∈ s.generations, e.corpseId = .nil ∨ corpse.get "corpse_id" = .nil
    ∨ e.corpseId.eq (corpse.get "corpse_id") = false

def Meets (s : State) (c : Call) : Prop :=
  match c.action with
  | .commitBirth transaction inst _ _ => BirthMeets s transaction inst
  | .registerCorpse corpse _ => CorpseMeets s corpse
  | _ => True

/-! ### The validator -/

def corpseIds (entries : List Entry) : List Value :=
  (entries.map Entry.corpseId).filter fun id => id ≠ .nil

theorem corpseIds_snoc (entries : List Entry) (e : Entry) :
    corpseIds (entries ++ [e])
      = if e.corpseId ≠ .nil then corpseIds entries ++ [e.corpseId] else corpseIds entries := by
  by_cases missing : e.corpseId = .nil
  · simp [corpseIds, missing]
  · simp [corpseIds, missing]

theorem validateEntry_ok {before : List Entry} {entry : Entry}
    (numbered : entry.generation = .nat (before.length + 1))
    (packet : validId entry.packetId = true)
    (packetFresh : entry.packetId ∉ before.map Entry.packetId)
    (real : entry.corpseId.eq entry.corpseId = true)
    (corpseFresh : ∀ e ∈ before, ApartCorpses e entry)
    (ancestry : before ≠ [] → validId entry.parentPacketId = true
      ∧ validId entry.parentCorpseId = true ∧ validId entry.ingressCarrierId = true) :
    validateEntry (before.map Entry.packetId) (corpseIds before) (before.length + 1) entry
      = .ok () := by
  have same : entry.generation.eq (.nat (before.length + 1)) = true := by
    rw [numbered, eq_nat]
    exact decide_eq_true rfl
  have unused : (before.map Entry.packetId).any (·.eq entry.packetId) = false := by
    rw [any_eq_false]
    intro id member equal
    obtain ⟨s, named⟩ : ∃ s, entry.packetId = .str s := by
      cases shape : entry.packetId with
      | str s => exact ⟨s, rfl⟩
      | _ => rw [shape] at packet; cases packet
    rw [named] at equal packetFresh
    exact packetFresh (eq_of_eq_str equal ▸ member)
  have later : before.length + 1 ≤ 1 ∨ validId entry.parentPacketId = true
      ∧ validId entry.parentCorpseId = true ∧ validId entry.ingressCarrierId = true := by
    by_cases first : before = []
    · rw [first]
      exact Or.inl (Nat.le_refl 1)
    · exact Or.inr (ancestry first)
  have corpseUnused : entry.corpseId ≠ .nil →
      (corpseIds before).any (·.eq entry.corpseId) = false := by
    intro present
    rw [any_eq_false]
    intro id member equal
    rw [corpseIds, mem_filter, mem_map] at member
    obtain ⟨⟨e, inside, rfl⟩, given⟩ := member
    rcases corpseFresh e inside with missing | missing | apart
    · exact of_decide_eq_true given missing
    · exact present missing
    · rw [apart] at equal
      cases equal
  unfold validateEntry
  by_cases present : entry.corpseId ≠ .nil
  · simp only [if_pos present, bind_eq_ok, require_eq_ok]
    exact ⟨(), ⟨same, packet⟩, (), unused, (), corpseUnused present, (), real, later⟩
  · simp only [if_neg present, bind_eq_ok, require_eq_ok]
    exact ⟨(), ⟨same, packet⟩, (), unused, later⟩

theorem validateEntries_ok {generations : List Entry}
    (numbered : ∀ (i : Nat) (e : Entry), generations[i]? = some e → e.generation = .nat (i + 1))
    (packets : ∀ e ∈ generations, validId e.packetId = true)
    (packetsApart : (generations.map Entry.packetId).Nodup)
    (corpses : ∀ e ∈ generations, e.corpseId.eq e.corpseId = true)
    (corpsesApart : generations.Pairwise ApartCorpses)
    (ancestry : ∀ (i : Nat) (e : Entry), generations[i + 1]? = some e →
      validId e.parentPacketId = true ∧ validId e.parentCorpseId = true
        ∧ validId e.ingressCarrierId = true) :
    ∀ (rest before : List Entry), generations = before ++ rest →
      validateEntries (before.map Entry.packetId) (corpseIds before) (before.length + 1) rest
        = .ok () := by
  intro rest
  induction rest with
  | nil => intro before _; rfl
  | cons entry rest ih =>
    intro before whole
    have place : generations[before.length]? = some entry := by
      rw [whole, List.getElem?_append_right (Nat.le_refl _), Nat.sub_self]
      rfl
    have member : entry ∈ generations := mem_of_getElem? place
    have packetFresh : entry.packetId ∉ before.map Entry.packetId := by
      rw [whole, map_append, map_cons] at packetsApart
      intro seen
      exact (nodup_append.mp packetsApart).2.2 _ seen _ mem_cons_self rfl
    have corpseFresh : ∀ e ∈ before, ApartCorpses e entry := by
      rw [whole] at corpsesApart
      intro e inside
      exact (pairwise_append.mp corpsesApart).2.2 e inside entry mem_cons_self
    have checked := validateEntry_ok (numbered _ _ place) (packets _ member) packetFresh
      (corpses _ member) corpseFresh (by
        intro given
        obtain ⟨last, more⟩ := Nat.exists_eq_succ_of_ne_zero
          (fun zero => given (length_eq_zero_iff.mp zero))
        rw [more] at place
        exact ancestry last entry place)
    have next := ih (before ++ [entry]) (by rw [whole, append_assoc]; rfl)
    rw [map_append, corpseIds_snoc, length_append] at next
    rw [validateEntries, checked]
    exact next

variable {s : State} {clock input time corpse : Value} {i : Nat}

theorem validate_of_ancestral (ancestral : Ancestral s) : validate s = .ok () := by
  have counted : s.currentGeneration.eq (.nat s.generations.length) = true := by
    rw [ancestral.counted, eq_nat]
    exact decide_eq_true rfl
  have ancestry : ∀ (i : Nat) (e : Entry), s.generations[i + 1]? = some e →
      validId e.parentPacketId = true ∧ validId e.parentCorpseId = true
        ∧ validId e.ingressCarrierId = true := by
    intro i child here
    have inside : i < s.generations.length := by
      obtain ⟨bound, -⟩ := List.getElem?_eq_some_iff.mp here
      omega
    have parent : s.generations[i]? = some s.generations[i] := List.getElem?_eq_getElem inside
    have descends := ancestral.descends i _ child parent here
    refine ⟨?_, ?_, descends.carrierValid⟩
    · rw [descends.packet]
      exact ancestral.packets _ (getElem_mem inside)
    · rw [descends.corpse]
      exact descends.corpseValid
  simp only [validate, bind_eq_ok, require_eq_ok]
  exact ⟨(), ancestral.identified, (), counted, (), ancestral.pending,
    validateEntries_ok ancestral.numbered ancestral.packets ancestral.packetsApart
      ancestral.corpses ancestral.corpsesApart ancestry s.generations [] rfl⟩

/-! ### What a call does -/

theorem finishPlan_facts {terminal : Value} {status : Status}
    (planned : finishPlan s terminal = .ok status) :
    s.status ∉ terminalStatuses ∧ status ∈ terminalStatuses := by
  simp only [finishPlan, bind_eq_ok] at planned
  obtain ⟨given, -, planned⟩ := planned
  cases parsed : Value.parse terminalStatuses Status.name given with
  | none =>
    rw [parsed] at planned
    cases planned
  | some status' =>
    rw [parsed] at planned
    simp only [bind_eq_ok, require_eq_ok, pure_eq_ok] at planned
    obtain ⟨-, fresh, rfl⟩ := planned
    refine ⟨fresh, ?_⟩
    cases given with
    | str text =>
      rw [Value.parse] at parsed
      exact mem_of_find?_eq_some parsed
    | _ => cases parsed

theorem after_terminal (verify : Value → State → Value → LedgerEvent → Value → Except Failure Unit)
    (ended : s.status ∈ terminalStatuses) (c : Call) :
    (machine verify).after s c = s := by
  have unready : ¬ (s.status = .created ∨ s.status = .continuing) := by
    rintro (same | same) <;> rw [same] at ended <;> revert ended <;> decide
  have unborn : s.status ≠ .running := by
    intro same
    rw [same] at ended
    revert ended
    decide
  have undecided : s.status ≠ .evaluatingTerminal := by
    intro same
    rw [same] at ended
    revert ended
    decide
  obtain ⟨clock, action⟩ := c
  cases action with
  | beginGeneration allocation input =>
    show (beginGeneration clock s allocation input).2 = s
    rw [beginGeneration, beginPlan, require, if_neg unready]
    rfl
  | commitBirth transaction inst receipt input =>
    show (commitBirth clock s transaction inst receipt input).2 = s
    rcases planned : birthPlan s transaction inst receipt with failure | ⟨⟩
    · rw [commitBirth, planned]
      rfl
    · simp only [birthPlan, bind_eq_ok, require_eq_ok] at planned
      obtain ⟨-, -, -, -, -, ready, -⟩ := planned
      exact absurd ready unready
  | registerCorpse corpse input =>
    show (registerCorpse clock s corpse input).2 = s
    rw [registerCorpse, corpsePlan, require, if_neg fun both => unborn both.1]
    rfl
  | markContinued corpse carrier input =>
    show (markContinued verify clock s corpse carrier input).2 = s
    rw [markContinued, continuePlan, require, if_neg fun both => undecided both.1]
    rfl
  | finish terminal =>
    show (finish clock s terminal).2 = s
    rcases planned : finishPlan s (terminal.orElse .emptyTable) with failure | status
    · rw [finish, planned]
      rfl
    · exact absurd ended (finishPlan_facts planned).1

theorem run_terminal (verify : Value → State → Value → LedgerEvent → Value → Except Failure Unit)
    (calls : List Call) (ended : s.status ∈ terminalStatuses) :
    (machine verify).run s calls = s := by
  induction calls with
  | nil => rfl
  | cons c rest ih => rw [Machine.run_cons, after_terminal verify ended c, ih]

theorem Ancestral.logged (ancestral : Ancestral s) (ledger : List LedgerEvent)
    (budget : LineageBudget.State) {pending : Value}
    (shaped : pending = .nil ∨ pending.isString = true) :
    Ancestral { s with ledger := ledger, budget := budget, pendingGeneration := pending } :=
  ⟨ancestral.identified, ancestral.counted, shaped, ancestral.numbered, ancestral.packets,
    ancestral.packetsApart, ancestral.corpses, ancestral.corpsesApart, ancestral.descends,
    ancestral.started, ancestral.packet, ancestral.corpse, ancestral.carried⟩

theorem ancestral_begin {allocation : Value} (ancestral : Ancestral s) :
    Ancestral (beginGeneration clock s allocation input).2 := by
  exact transact_state (motive := Ancestral) ancestral
    fun begun _ => ancestral.logged _ s.budget (Or.inr rfl)

theorem getElem?_snoc {l : List Entry} {x y : Entry} (here : (l ++ [x])[i]? = some y) :
    l[i]? = some y ∨ i = l.length ∧ y = x := by
  rcases Nat.lt_trichotomy i l.length with less | same | more
  · rw [List.getElem?_append_left less] at here
    exact Or.inl here
  · rw [List.getElem?_append_right (by omega), same, Nat.sub_self] at here
    exact Or.inr ⟨same, (Option.some.inj here).symm⟩
  · rw [List.getElem?_append_right (by omega), List.getElem?_eq_none (by simp; omega)] at here
    cases here

theorem getLast?_of_getElem? {l : List Entry} {e : Entry} (here : l[i]? = some e)
    (last : i + 1 = l.length) : l.getLast? = some e := by
  rw [List.getLast?_eq_getElem?, ← last]
  exact here

section

variable (ancestral : Ancestral s)
include ancestral

theorem ancestral_birth {transaction inst receipt : Value} {charged : LineageBudget.Event} (passed : birthPlan s transaction inst receipt = .ok ())
    (meets : BirthMeets s transaction inst) :
    Ancestral (withBirth clock s transaction inst receipt charged time) := by
  simp only [birthPlan, bind_eq_ok, require_eq_ok] at passed
  obtain ⟨-, -, -, -, -, ready, -, -, -, ⟨-, named, -⟩, -⟩ := passed
  have grown : ∃ born, (withBirth clock s transaction inst receipt charged time).generations
      = s.generations ++ [entryOf transaction inst born] := ⟨_, rfl⟩
  obtain ⟨born, grown⟩ := grown
  refine ⟨ancestral.identified, ?_, Or.inl rfl, ?_, ?_, ?_, ?_, ?_, ?_,
    fun same => (by cases same), ?_, fun same => ?_, fun same => by cases same⟩
  · rw [grown, length_append]
    exact meets.generation
  · intro i e here
    rw [grown] at here
    rcases getElem?_snoc here with old | ⟨rfl, rfl⟩
    · exact ancestral.numbered i e old
    · exact meets.generation
  · intro e member
    rw [grown, mem_append, mem_singleton] at member
    rcases member with old | rfl
    · exact ancestral.packets e old
    · exact named
  · rw [grown, map_append]
    apply nodup_append.mpr
    refine ⟨ancestral.packetsApart, nodup_singleton _, ?_⟩
    rintro id seen other new rfl
    have same : id = inst.get "id" := mem_singleton.mp new
    rw [same] at seen
    exact meets.fresh seen
  · intro e member
    rw [grown, mem_append, mem_singleton] at member
    rcases member with old | rfl
    · exact ancestral.corpses e old
    · rfl
  · rw [grown]
    apply pairwise_append.mpr
    refine ⟨ancestral.corpsesApart, pairwise_singleton _ _, ?_⟩
    intro e _ f new
    rw [mem_singleton.mp new]
    exact Or.inr (Or.inl rfl)
  · intro i e f parent child
    rw [grown] at parent child
    rcases getElem?_snoc child with old | ⟨place, rfl⟩
    · have inside := (List.getElem?_eq_some_iff.mp old).1
      rw [List.getElem?_append_left (by omega)] at parent
      exact ancestral.descends i e f parent old
    · rw [List.getElem?_append_left (by omega)] at parent
      have last := getLast?_of_getElem? parent place
      have given : s.generations ≠ [] := by
        intro none
        rw [none] at parent
        cases parent
      have continuing : s.status = .continuing := by
        rcases ready with created | continuing
        · exact absurd (ancestral.started created) given
        · exact continuing
      obtain ⟨corpse, corpseValid⟩ := meets.corpse given
      obtain ⟨carrier, carrierValid⟩ := meets.carrier given
      have current := ancestral.corpse (Or.inr continuing) e last
      refine ⟨(meets.packet given).trans (ancestral.packet e last), corpse.trans current, ?_, ?_, ?_⟩
      · rw [← current]
        exact carrier.trans (ancestral.carried continuing corpseValid carrierValid).symm
      · rw [← current]
        exact corpseValid
      · show validId (transaction.get "ingress_carrier_id") = true
        rw [carrier]
        exact carrierValid
  · intro e last
    rw [grown, List.getLast?_append, List.getLast?_singleton] at last
    cases last
    rfl
  · rcases same with same | same <;> cases same

theorem ancestral_commit {transaction inst receipt : Value}
    (meets : BirthMeets s transaction inst) :
    Ancestral (commitBirth clock s transaction inst receipt input).2 := by
  rw [commitBirth]
  rcases planned : birthPlan s transaction inst receipt with failure | ⟨⟩
  · exact ancestral
  rw [transact_ok]
  rcases charged : birthCharge s transaction receipt with ⟨failure | event, budget⟩
  · exact ancestral.logged s.ledger budget ancestral.pending
  · have paid := ancestral.logged s.ledger budget ancestral.pending
    dsimp only
    rcases timed : fieldOf input "time" with failure | time
    · exact paid
    · exact ancestral_birth paid planned
        ⟨meets.generation, meets.fresh, meets.packet, meets.corpse, meets.carrier⟩

theorem ancestral_corpse {entry : Entry}
    (last : s.generations.getLast? = some entry) (meets : CorpseMeets s corpse) :
    Ancestral (withCorpse clock s corpse entry time) := by
  obtain ⟨before, whole⟩ : ∃ before, s.generations = before ++ [entry] :=
    ⟨s.generations.dropLast, (dropLast_append_getLast? entry last).symm⟩
  have changed : ∃ closed : Entry,
      (withCorpse clock s corpse entry time).generations = before ++ [closed]
      ∧ closed.generation = entry.generation ∧ closed.packetId = entry.packetId
      ∧ closed.parentPacketId = entry.parentPacketId
      ∧ closed.parentCorpseId = entry.parentCorpseId
      ∧ closed.ingressCarrierId = entry.ingressCarrierId
      ∧ closed.corpseId = corpse.get "corpse_id" := by
    refine ⟨{ entry with
      corpseId := corpse.get "corpse_id"
      terminalKind := corpse.get "terminal_kind"
      terminalEventId := nextEventId s }, ?_, rfl, rfl, rfl, rfl, rfl, rfl⟩
    show s.generations.dropLast ++ [_] = _
    rw [whole, dropLast_concat]
  obtain ⟨closed, changed, number, packet, parentPacket, parentCorpse, carrier, given⟩ := changed
  have length : (before ++ [closed]).length = (before ++ [entry]).length := by simp
  have numbered := ancestral.numbered
  have packets := ancestral.packets
  have packetsApart := ancestral.packetsApart
  have corpses := ancestral.corpses
  have corpsesApart := ancestral.corpsesApart
  have descends := ancestral.descends
  have fresh := meets.fresh
  have counted := ancestral.counted
  have packetLast := ancestral.packet
  rw [whole] at numbered packets packetsApart corpses corpsesApart descends fresh counted packetLast
  refine ⟨ancestral.identified, ?_, ancestral.pending, ?_, ?_, ?_, ?_, ?_, ?_,
    fun same => (by cases same), ?_, fun _ => ?_, fun same => by cases same⟩
  · rw [changed, length]
    exact counted
  · intro i e here
    rw [changed] at here
    rcases getElem?_snoc here with old | ⟨rfl, rfl⟩
    · refine numbered i e ?_
      rw [List.getElem?_append_left (List.getElem?_eq_some_iff.mp old).1]
      exact old
    · rw [number]
      exact numbered before.length entry (by simp)
  · intro e member
    rw [changed, mem_append, mem_singleton] at member
    rcases member with old | rfl
    · exact packets e (mem_append_left _ old)
    · rw [packet]
      exact packets entry (by simp)
  · rw [changed, map_append, map_singleton, packet]
    rwa [map_append, map_singleton] at packetsApart
  · intro e member
    rw [changed, mem_append, mem_singleton] at member
    rcases member with old | rfl
    · exact corpses e (mem_append_left _ old)
    · rw [given]
      exact meets.real
  · rw [changed]
    obtain ⟨apart, -, -⟩ := pairwise_append.mp corpsesApart
    apply pairwise_append.mpr
    refine ⟨apart, pairwise_singleton _ _, ?_⟩
    intro e inside f new
    rw [mem_singleton.mp new, ApartCorpses, given]
    exact fresh e (mem_append_left _ inside)
  · intro i e f parent child
    rw [changed] at parent child
    rcases getElem?_snoc child with old | ⟨place, rfl⟩
    · have inside := (List.getElem?_eq_some_iff.mp old).1
      rw [List.getElem?_append_left (by omega)] at parent
      refine descends i e f ?_ ?_
      · rw [List.getElem?_append_left (by omega)]
        exact parent
      · rw [List.getElem?_append_left inside]
        exact old
    · rw [List.getElem?_append_left (by omega)] at parent
      have descended := descends i e entry
        (by rw [List.getElem?_append_left (by omega)]; exact parent)
        (by rw [place]; simp)
      exact ⟨parentPacket.trans descended.packet, parentCorpse.trans descended.corpse,
        carrier.trans descended.carrier, descended.corpseValid,
        by rw [carrier]; exact descended.carrierValid⟩
  · intro e here
    rw [changed, List.getLast?_append, List.getLast?_singleton] at here
    cases here
    rw [packet]
    exact packetLast entry (by simp)
  · intro e here
    rw [changed, List.getLast?_append, List.getLast?_singleton] at here
    cases here
    exact given.symm

theorem ancestral_register (meets : CorpseMeets s corpse) :
    Ancestral (registerCorpse clock s corpse input).2 := by
  rw [registerCorpse]
  rcases planned : corpsePlan s corpse input with failure | ⟨entry, time⟩
  · exact ancestral
  rw [transact_ok]
  simp only [corpsePlan, bind_eq_ok, require_eq_ok] at planned
  obtain ⟨-, -, planned⟩ := planned
  cases last : s.generations.getLast? with
  | none =>
    rw [last] at planned
    cases planned
  | some found =>
    rw [last] at planned
    simp only [bind_eq_ok, require_eq_ok, pure_eq_ok] at planned
    obtain ⟨-, -, -, -, timed, -, same⟩ := planned
    cases same
    exact ancestral_corpse ancestral last meets

end

theorem lookup_cons (k v key : Value) (rest : List (Value × Value)) :
    Value.lookup ((k, v) :: rest) key
      = if k.eq key = true then v else Value.lookup rest key := rfl

theorem lookup_assign_ne {key value : Value} {t : Bytes} (differ : key ≠ .str t) :
    ∀ entries : List (Value × Value),
      Value.lookup (Value.assign entries key value) (.str t) = Value.lookup entries (.str t) := by
  intro entries
  have apart : ∀ k, Value.eq k key = true → Value.eq k (.str t) = false := by
    intro k same
    apply Bool.eq_false_of_not_eq_true
    intro text
    rw [eq_of_eq_str text] at same
    cases key with
    | str s =>
      rw [eq_str, decide_eq_true_eq] at same
      exact differ (congrArg Value.str same.symm)
    | _ => cases same
  induction entries with
  | nil =>
    rw [Value.assign]
    split
    · rfl
    · rw [lookup_cons, if_neg fun text => differ (eq_of_eq_str text)]
  | cons entry rest ih =>
    obtain ⟨k, old⟩ := entry
    rw [Value.assign]
    by_cases found : Value.eq k key = true
    · rw [if_pos found]
      have other := apart k found
      split
      · rw [lookup_cons, other, if_neg Bool.false_ne_true]
      · rw [lookup_cons, lookup_cons, other, if_neg Bool.false_ne_true, if_neg Bool.false_ne_true]
    · rw [if_neg found, lookup_cons, lookup_cons, ih]

variable {verify : Value → State → Value → LedgerEvent → Value → Except Failure Unit}

theorem continuePlan_ok
    {carrier projection : Value}
    (passed : continuePlan verify s corpse carrier input = .ok (projection, time)) :
    s.status = .evaluatingTerminal ∧ (corpse.get "corpse_id").eq s.currentCorpseId = true
      ∧ Value.lookup s.continuedCorpses (corpse.get "corpse_id") = .nil := by
  simp only [continuePlan, bind_eq_ok, require_eq_ok] at passed
  obtain ⟨-, ⟨ready, -, -⟩, -, ⟨current, -⟩, -, childless, -⟩ := passed
  exact ⟨ready, current, childless⟩

theorem ancestral_continue
    {carrier : Value}
    (ancestral : Ancestral s) :
    Ancestral (markContinued verify clock s corpse carrier input).2 := by
  rw [markContinued]
  rcases planned : continuePlan verify s corpse carrier input with failure | ⟨projection, time⟩
  · exact ancestral
  obtain ⟨ready, current, childless⟩ := continuePlan_ok planned
  rw [transact_ok]
  split
  · exact ancestral.logged _ s.budget ancestral.pending
  refine ⟨ancestral.identified, ancestral.counted, ancestral.pending, ancestral.numbered,
    ancestral.packets, ancestral.packetsApart, ancestral.corpses, ancestral.corpsesApart, ?_,
    fun same => (by cases same), ancestral.packet, fun _ => ancestral.corpse (Or.inl ready), ?_⟩
  · intro i e f parent child
    have descends := ancestral.descends i e f parent child
    refine ⟨descends.packet, descends.corpse, ?_, descends.corpseValid, descends.carrierValid⟩
    obtain ⟨t, named⟩ : ∃ t, e.corpseId = .str t := by
      cases shape : e.corpseId with
      | str t => exact ⟨t, rfl⟩
      | _ =>
        have valid := descends.corpseValid
        rw [shape] at valid
        cases valid
    have carrier' := descends.carrier
    rw [named] at carrier' ⊢
    -- the corpse of a parent already has its carrier, the current one has none
    have differ : corpse.get "corpse_id" ≠ .str t := by
      intro same
      rw [same] at childless
      rw [childless] at carrier'
      have valid := descends.carrierValid
      rw [carrier'] at valid
      cases valid
    exact carrier'.trans (lookup_assign_ne differ s.continuedCorpses).symm
  · intro _ corpseValid carrierValid
    obtain ⟨t, named⟩ : ∃ t, s.currentCorpseId = .str t := by
      cases shape : s.currentCorpseId with
      | str t => exact ⟨t, rfl⟩
      | _ =>
        have valid : validId s.currentCorpseId = true := corpseValid
        rw [shape] at valid
        cases valid
    show Value.lookup (Value.assign s.continuedCorpses (corpse.get "corpse_id")
      (carrier.get "carrier_id")) s.currentCorpseId = carrier.get "carrier_id"
    rw [named] at current ⊢
    rw [eq_of_eq_str current]
    apply lookup_assign_self
    intro missing
    have valid : validId (carrier.get "carrier_id") = true := carrierValid
    rw [missing] at valid
    cases valid

theorem ancestral_finish {terminal : Value} (ancestral : Ancestral s) :
    Ancestral (finish clock s terminal).2 := by
  rw [finish]
  rcases planned : finishPlan s (terminal.orElse .emptyTable) with failure | status
  · exact ancestral
  have ended := (finishPlan_facts planned).2
  have closed : status ≠ .created ∧ status ≠ .evaluatingTerminal ∧ status ≠ .continuing := by
    refine ⟨?_, ?_, ?_⟩ <;> (rintro rfl; revert ended; decide)
  refine ⟨ancestral.identified, ancestral.counted, ancestral.pending, ancestral.numbered,
    ancestral.packets, ancestral.packetsApart, ancestral.corpses, ancestral.corpsesApart,
    ancestral.descends, fun same => absurd same closed.1, ancestral.packet, ?_,
    fun same => absurd same closed.2.2⟩
  rintro (same | same)
  · exact absurd same closed.2.1
  · exact absurd same closed.2.2

theorem ancestral_step
    (s : State) (c : Call) (meets : Meets s c) (ancestral : Ancestral s) :
    Ancestral ((machine verify).after s c) := by
  obtain ⟨clock, action⟩ := c
  cases action with
  | beginGeneration allocation input => exact ancestral_begin ancestral
  | commitBirth transaction inst receipt input => exact ancestral_commit ancestral meets
  | registerCorpse corpse input => exact ancestral_register ancestral meets
  | markContinued corpse carrier input => exact ancestral_continue ancestral
  | finish terminal => exact ancestral_finish ancestral

theorem ancestral_create {sourced : Except Failure Value} {numbered : Bytes} {task options : Value}
    (made : create sourced numbered clock task options = .ok s) : Ancestral s := by
  cases task with
  | str text =>
    simp only [create, bind_eq_ok, require_eq_ok, pure_eq_ok] at made
    obtain ⟨-, -, -, -, -, -, -, -, -, -, given, -, -, identified, -, -, -, -, -, -, rfl⟩ := made
    exact ⟨identified, rfl, Or.inl rfl, fun _ _ here => (by cases here),
      fun _ inside => (by cases inside), nodup_nil, fun _ inside => (by cases inside),
      List.Pairwise.nil, fun _ _ _ here => (by cases here), fun _ => rfl,
      fun _ here => (by cases here), fun _ _ here => (by cases here), fun same => by cases same⟩
  | _ => cases made

theorem only_child (ancestral : Ancestral s) {j : Nat} {e f : Entry}
    (first : s.generations[i + 1]? = some e) (second : s.generations[j + 1]? = some f)
    (shared : e.parentCorpseId = f.parentCorpseId) : i = j := by
  have parentOf : ∀ {k : Nat} {child : Entry}, s.generations[k + 1]? = some child →
      ∃ inside : k < s.generations.length,
        Descends s.continuedCorpses s.generations[k] child := by
    intro k child here
    obtain ⟨bound, -⟩ := List.getElem?_eq_some_iff.mp here
    have inside : k < s.generations.length := by omega
    exact ⟨inside, ancestral.descends k _ child (List.getElem?_eq_getElem inside) here⟩
  obtain ⟨inside, left⟩ := parentOf first
  obtain ⟨inside', right⟩ := parentOf second
  have same : s.generations[i].corpseId = s.generations[j].corpseId :=
    left.corpse.symm.trans (shared.trans right.corpse)
  have present : s.generations[i].corpseId ≠ .nil := by
    intro missing
    have valid := left.corpseValid
    rw [missing] at valid
    cases valid
  have real := ancestral.corpses _ (getElem_mem inside)
  have collide : ¬ ApartCorpses s.generations[i] s.generations[j] := by
    rintro (missing | missing | apart)
    · exact present missing
    · exact present (same.trans missing)
    · rw [← same, real] at apart
      cases apart
  have collide' : ¬ ApartCorpses s.generations[j] s.generations[i] := by
    rintro (missing | missing | apart)
    · exact present (same.trans missing)
    · exact present missing
    · rw [← same, real] at apart
      cases apart
  rcases Nat.lt_trichotomy i j with less | equal | more
  · exact absurd (pairwise_iff_getElem.mp ancestral.corpsesApart i j inside inside' less) collide
  · exact equal
  · exact absurd (pairwise_iff_getElem.mp ancestral.corpsesApart j i inside' inside more) collide'

/-- In every run whose births and corpses meet the conditions, the validator accepts the state,
every generation descends from the one before it, and a finished lineage does not grow. -/
theorem lineage_ancestry
    (verify : Value → State → Value → LedgerEvent → Value → Except Failure Unit)
    (sourced : Except Failure Value) (numbered : Bytes) (clock task options : Value) (s₀ : State)
    (made : create sourced numbered clock task options = .ok s₀) (calls : List Call)
    (meets : (machine verify).Along Meets s₀ calls) (s : State)
    (reached : (machine verify).run s₀ calls = s) :
    validate s = .ok ()
    ∧ s.currentGeneration = .nat s.generations.length
    ∧ (∀ (i : Nat) (e : Entry), s.generations[i]? = some e → e.generation = .nat (i + 1))
    ∧ (s.generations.map Entry.packetId).Nodup
    ∧ s.generations.Pairwise ApartCorpses
    ∧ (∀ (i : Nat) (parent child : Entry), s.generations[i]? = some parent →
      s.generations[i + 1]? = some child →
        child.parentPacketId = parent.packetId ∧ child.parentCorpseId = parent.corpseId
          ∧ child.ingressCarrierId = Value.lookup s.continuedCorpses parent.corpseId)
    ∧ (∀ (i j : Nat) (e f : Entry), s.generations[i + 1]? = some e →
      s.generations[j + 1]? = some f → e.parentCorpseId = f.parentCorpseId → i = j)
    ∧ (s.status ∈ terminalStatuses → ∀ more : List Call,
      ((machine verify).run s more).generations = s.generations) := by
  have ancestral : Ancestral s := by
    rw [← reached]
    exact (machine verify).along_invariant Ancestral ancestral_step calls s₀ meets
      (ancestral_create made)
  refine ⟨validate_of_ancestral ancestral, ancestral.counted, ancestral.numbered,
    ancestral.packetsApart, ancestral.corpsesApart, ?_, ?_, ?_⟩
  · intro i parent child first second
    have descends := ancestral.descends i parent child first second
    exact ⟨descends.packet, descends.corpse, descends.carrier⟩
  · intro i j e f first second shared
    exact only_child ancestral first second shared
  · intro ended more
    rw [run_terminal verify more ended]

/-! ### Two births of one Packet -/

/-- The transaction that `begin_generation` hands out. -/
def issued (s : State) : Value :=
  match (beginGeneration .nil s .nil .nil).1 with
  | .ok transaction => transaction
  | .error _ => .nil

def birthOf (s : State) (packet : String) : Call where
  clock := .nil
  action := .commitBirth (issued s)
    (.record [
      ("id", .text packet),
      ("status", .text "born"),
      ("operator", .text "▽"),
      ("lineage_id", s.lineageId),
      ("generation", (issued s).get "generation"),
      ("parent_id", (issued s).get "parent_packet_id"),
      ("parent_corpse_id", (issued s).get "parent_corpse_id"),
      ("carrier_id", (issued s).get "ingress_carrier_id")])
    (.record [
      ("kind", .text "l1_packet_birth_receipt"),
      ("protocol_version", .text "l1.packet_birth.v0"),
      ("packet_id", .text packet),
      ("domain_event_ref", .text "stream:1:birth:1"),
      ("flow_ref", .emptyTable)]) .nil

def firstDeath (s : State) (packet : String) : List Call :=
  let corpse := .record [
    ("corpse_id", .text "corpse-1"),
    ("lineage_id", s.lineageId),
    ("packet_id", .text packet),
    ("generation", .nat 1)]
  [⟨.nil, .registerCorpse corpse .nil⟩,
    ⟨.nil, .markContinued corpse (.record [
      ("carrier_id", .text "carrier-1"),
      ("source_corpse_id", .text "corpse-1"),
      ("target_generation", .nat 2)]) .nil⟩]

def begun : Call := ⟨.nil, .beginGeneration .nil .nil⟩

def firstGeneration (s : State) (packet : String) : List Call :=
  [begun, birthOf s packet] ++ firstDeath s packet

def exampleOptions : Value := .record [
  ("lineage_id", .text "lineage-test"),
  ("carrier", .record [("max_bytes", .nat 4096)])]

def unasked : Value → State → Value → LedgerEvent → Value → Except Failure Unit :=
  fun _ _ _ _ _ => .ok ()

theorem packet_identity_reused : ∃ s₀,
    create (.ok .nil) [] .nil (.text "prepare a plan") exampleOptions = .ok s₀
    ∧ validate ((machine unasked).run s₀
        (firstGeneration s₀ "packet-1"
          ++ [begun, birthOf ((machine unasked).run s₀ (firstGeneration s₀ "packet-1")) "packet-1"]))
      = .error (refuse "lineage Packet identity was reused") := by
  exact ⟨_, rfl, rfl⟩

theorem lineage_ancestry_two : ∃ s₀,
    create (.ok .nil) [] .nil (.text "prepare a plan") exampleOptions = .ok s₀
    ∧ validate ((machine unasked).run s₀
        (firstGeneration s₀ "packet-1"
          ++ [begun, birthOf ((machine unasked).run s₀ (firstGeneration s₀ "packet-1")) "packet-2"]))
      = .ok () := by
  refine ⟨_, rfl, (lineage_ancestry unasked (.ok .nil) [] .nil (.text "prepare a plan")
    exampleOptions _ rfl _ ?_ _ rfl).1⟩
  refine ⟨trivial, ⟨rfl, ?_, fun given => absurd rfl given, fun given => absurd rfl given,
    fun given => absurd rfl given⟩, ⟨rfl, ?_⟩, trivial, trivial, ⟨rfl, ?_, fun _ => rfl,
    fun _ => ⟨rfl, rfl⟩, fun _ => ⟨rfl, rfl⟩⟩, trivial⟩
  · exact not_mem_nil
  · intro e inside
    exact Or.inl (mem_singleton.mp inside ▸ rfl)
  · intro seen
    have same : Value.text "packet-2" = .text "packet-1" := mem_singleton.mp seen
    revert same
    decide

end Proc17.Runtime.Lineage
