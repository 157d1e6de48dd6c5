import Proc17.L1.Field

/-!
# The flow domain

`runtime/flow_domain.lua`: the transaction that ticks the L1 field once for each Packet that is
born.  A builder is a program that may call back into the domain while the domain is busy.
-/

namespace Proc17.Runtime.FlowDomain

open Lua Proc17.L1 List

inductive Status where
  | opened
  | frozen
  deriving DecidableEq

structure SourceProvenance where
  adapterId : Bytes
  sourceRef : Bytes
  sourceCount : Nat
  configRef : Value

structure FlowRef where
  streamId : Bytes
  streamEpoch : Number
  birthSeq : Nat

structure BirthEvent where
  eventRef : Bytes
  packetId : Bytes
  flowRef : FlowRef
  snapshot : Snapshot

/-- `l1.flow_mark.v0` -/
structure Mark where
  streamId : Bytes
  streamEpoch : Number
  birthSeq : Nat
  snapshot : Snapshot
  sourceProvenance : SourceProvenance
  domainEventRef : Bytes

structure Domain where
  streamId : Bytes
  streamEpoch : Number
  birthSeq : Nat
  state : State
  status : Status
  sourceProvenance : SourceProvenance
  birthEvents : List BirthEvent
  busy : Bool

def isEpoch (n : Number) : Bool := n.isIntegral && Number.le (.int 1) n

/-- `validate`, as far as a domain can fail it. -/
def validate (d : Domain) : Except Failure Unit := do
  require (d.streamId ≠ [] ∧ isEpoch d.streamEpoch = true) (refuse "invalid L1 flow identity")
  require (d.state.ticks = d.birthSeq) (refuse "invalid L1 flow state")
  require (d.sourceProvenance.adapterId ≠ [] ∧ d.sourceProvenance.sourceRef ≠ []
    ∧ d.sourceProvenance.sourceCount = d.state.ringSize) (refuse "invalid L1 source provenance")

def nonEmpty (value : Value) (message : String) : Except Failure Bytes :=
  match value with
  | .str name => do
      require (name ≠ []) (refuse message)
      pure name
  | _ => .error (refuse message)

def streamEpoch (value : Value) : Except Failure Number :=
  match value with
  | .num n => do
      require (isEpoch n = true) (refuse "L1 stream_epoch must be integer >= 1")
      pure n
  | _ => .error (refuse "L1 stream_epoch must be integer >= 1")

/-- `flow_domain.new`, with the number of the next stream that is not named. -/
def new (streamCounter : Nat) (source options : Value) : Except Failure Domain := do
  let options := options.orElse .emptyTable
  let streamId ← options.index "stream_id"
  let epoch ← options.index "stream_epoch"
  let adapterId ← options.index "adapter_id"
  let sourceRef ← options.index "source_ref"
  let named ← nonEmpty (streamId.orElse (.text s!"l1-stream-{streamCounter}"))
    "L1 stream_id must be a non-empty string"
  let epoch ← streamEpoch (epoch.orElse (.nat 1))
  let adapter ← nonEmpty (adapterId.orElse (.text "explicit_lua_array.v0"))
    "L1 adapter_id must be a non-empty string"
  let maxUnits ← options.index "max_source_units"
  let state ← initializeState source sourceRef maxUnits
  let configRef ← options.index "config_ref"
  pure
    { streamId := named
      streamEpoch := epoch
      birthSeq := 0
      state := state
      status := .opened
      sourceProvenance :=
        { adapterId := adapter
          sourceRef := state.sourceRef
          sourceCount := state.ringSize
          configRef := configRef }
      birthEvents := []
      busy := false }

structure DomainSnapshot where
  streamId : Bytes
  streamEpoch : Number
  birthSeq : Nat
  status : Status
  sourceProvenance : SourceProvenance
  snapshot : Snapshot
  birthEventCount : Nat

def domainSnapshot (d : Domain) : Except Failure DomainSnapshot := do
  validate d
  let physical ← snapshot d.state
  pure
    { streamId := d.streamId
      streamEpoch := d.streamEpoch
      birthSeq := d.birthSeq
      status := d.status
      sourceProvenance := d.sourceProvenance
      snapshot := physical
      birthEventCount := d.birthEvents.length }

/-- What `freeze` checks; a frozen domain is answered as it is. -/
def freezePlan (d : Domain) : Except Failure (Option State) := do
  validate d
  require (d.busy = false) (refuse "L1 flow domain birth is in progress")
  if d.status = .frozen then pure none else do
    let frozen ← L1.freeze d.state
    pure (some frozen)

def freeze (d : Domain) : Reply Domain Unit :=
  transact (freezePlan d)
    (fun frozen =>
      match frozen with
      | none => (.ok (), d)
      | some state => (.ok (), { d with state := state, status := .frozen })) d

inductive Outcome where
  | returned (packet err : Value)
  | raised (err : Value)

/-- `Packet`, mark and event of a birth. -/
structure Birth where
  packet : Value
  mark : Mark
  event : BirthEvent

inductive Script where
  | done (outcome : Outcome)
  | snapshot (next : Except Failure DomainSnapshot → Script)
  | freeze (next : Except Failure Unit → Script)
  | advance (builder : Mark → State → Script) (next : Except Failure Birth → Script)
  | advanceInvalid (next : Except Failure Birth → Script)

abbrev Builder := Mark → State → Script

/-- What `advance_birth` checks before the domain is busy, its builder aside. -/
def birthGuard (d : Domain) : Except Failure Unit := do
  validate d
  require (d.status = .opened) (refuse "L1 flow domain is frozen")
  require (d.busy = false) (refuse "L1 flow domain birth is in progress")

def eventRef (d : Domain) (birthSeq : Nat) : Bytes :=
  d.streamId ++ utf8 (":" ++ d.streamEpoch.tostring ++ s!":birth:{birthSeq}")

def markOf (d : Domain) (birthSeq : Nat) (physical : Snapshot) : Mark :=
  { streamId := d.streamId
    streamEpoch := d.streamEpoch
    birthSeq := birthSeq
    snapshot := physical
    sourceProvenance := d.sourceProvenance
    domainEventRef := eventRef d birthSeq }

def builtPacket : Outcome → Except Failure (Value × Bytes)
  | .raised err => .error (.refused (.str (utf8 "Packet birth builder failed: " ++ err.tostring)))
  | .returned packet err =>
    if packet.truthy then
      match packet.get "id" with
      | .str id => .ok (packet, id)
      | _ => .error (refuse "Packet birth builder returned invalid Packet")
    else .error (.refused (err.orElse (.text "Packet birth builder rejected request")))

/-- `advance_birth` after its guards, with the protected call of the builder. -/
def birthTransaction (call : Mark → State → Domain → Outcome × Domain) (d : Domain) :
    Reply Domain Birth :=
  let held := { d with busy := true }
  match tick held.state with
  | .error failure => (.error failure, { held with busy := false })
  | .ok tentative =>
    match snapshot tentative with
    | .error failure => (.error failure, { held with busy := false })
    | .ok physical =>
      let birthSeq := held.birthSeq + 1
      let mark := markOf held birthSeq physical
      let (outcome, left) := call mark tentative held
      match builtPacket outcome with
      | .error failure => (.error failure, { left with busy := false })
      | .ok (packet, id) =>
        let event :=
          { eventRef := mark.domainEventRef
            packetId := id
            flowRef :=
              { streamId := left.streamId
                streamEpoch := left.streamEpoch
                birthSeq := birthSeq }
            snapshot := physical }
        (.ok { packet := packet, mark := mark, event := event },
          { left with
            state := tentative
            birthSeq := birthSeq
            birthEvents := left.birthEvents ++ [event]
            busy := false })

def advanceWith (call : Mark → State → Domain → Outcome × Domain) (d : Domain) :
    Reply Domain Birth :=
  match birthGuard d with
  | .error failure => (.error failure, d)
  | .ok () => birthTransaction call d

/-- `flow_domain.advance_birth` with something else. -/
def advanceInvalid (d : Domain) : Reply Domain Birth :=
  match birthGuard d with
  | .error failure => (.error failure, d)
  | .ok () => (.error (refuse "L1 birth builder is required"), d)

def Script.run : Script → Domain → Outcome × Domain
  | .done outcome, d => (outcome, d)
  | .snapshot next, d => (next (domainSnapshot d)).run d
  | .freeze next, d => (next (FlowDomain.freeze d).1).run (FlowDomain.freeze d).2
  | .advance builder next, d =>
    let reply := advanceWith (fun mark tentative => (builder mark tentative).run) d
    (next reply.1).run reply.2
  | .advanceInvalid next, d =>
    (next (FlowDomain.advanceInvalid d).1).run (FlowDomain.advanceInvalid d).2

def advanceBirth (builder : Builder) (d : Domain) : Reply Domain Birth :=
  advanceWith (fun mark tentative => (builder mark tentative).run) d

/-- What the domain is while the builder of an `advance_birth` works. -/
def duringWith (visits : Mark → State → Domain → List Domain) (d : Domain) : List Domain :=
  match birthGuard d, tick d.state with
  | .ok (), .ok tentative =>
    match snapshot tentative with
    | .ok physical =>
      visits (markOf d (d.birthSeq + 1) physical) tentative { d with busy := true }
    | .error _ => []
  | _, _ => []

def Script.visits : Script → Domain → List Domain
  | .done _, d => [d]
  | .snapshot next, d => d :: (next (domainSnapshot d)).visits d
  | .freeze next, d => d :: (next (FlowDomain.freeze d).1).visits (FlowDomain.freeze d).2
  | .advance builder next, d =>
    let reply := advanceBirth builder d
    d :: duringWith (fun mark tentative => (builder mark tentative).visits) d
      ++ (next reply.1).visits reply.2
  | .advanceInvalid next, d =>
    d :: (next (FlowDomain.advanceInvalid d).1).visits (FlowDomain.advanceInvalid d).2

def during (builder : Builder) (d : Domain) : List Domain :=
  duringWith (fun mark tentative => (builder mark tentative).visits) d

/-! ## A busy domain -/

variable {d : Domain}

theorem birthGuard_ok (passed : birthGuard d = .ok ()) :
    validate d = .ok () ∧ d.status = .opened ∧ d.busy = false := by
  simp only [birthGuard, bind_eq_ok, require_eq_ok] at passed
  obtain ⟨⟨⟩, valid, ⟨⟩, opened, idle⟩ := passed
  exact ⟨valid, opened, idle⟩

theorem birthGuard_busy (busy : d.busy = true) :
    ∃ failure, birthGuard d = .error failure := by
  cases passed : birthGuard d with
  | error failure => exact ⟨failure, rfl⟩
  | ok accepted =>
    have idle := (birthGuard_ok passed).2.2
    rw [busy] at idle
    cases idle

theorem advanceWith_busy (busy : d.busy = true) (call : Mark → State → Domain → Outcome × Domain) :
    (advanceWith call d).2 = d := by
  obtain ⟨failure, refused⟩ := birthGuard_busy busy
  rw [advanceWith, refused]

theorem advanceInvalid_leaves (d : Domain) : (advanceInvalid d).2 = d := by
  rw [advanceInvalid]
  cases birthGuard d with
  | error | ok => rfl

theorem freeze_busy (busy : d.busy = true) : (freeze d).2 = d := by
  cases planned : freezePlan d with
  | error failure => rw [freeze, planned, transact_error]
  | ok frozen =>
    simp only [freezePlan, bind_eq_ok, require_eq_ok] at planned
    obtain ⟨⟨⟩, -, ⟨⟩, idle, -⟩ := planned
    rw [busy] at idle
    cases idle

theorem run_busy (script : Script) (busy : d.busy = true) : (script.run d).2 = d := by
  induction script with
  | done outcome => rfl
  | snapshot next ih => exact ih _
  | freeze next ih =>
    rw [Script.run, freeze_busy busy]
    exact ih _
  | advance builder next _ ih =>
    rw [Script.run, advanceWith_busy busy]
    exact ih _
  | advanceInvalid next ih =>
    rw [Script.run, advanceInvalid_leaves]
    exact ih _

theorem visits_busy (script : Script) (busy : d.busy = true) :
    ∀ visited ∈ script.visits d, visited = d := by
  induction script with
  | done outcome =>
    intro visited inside
    exact mem_singleton.mp inside
  | snapshot next ih => exact forall_mem_cons.mpr ⟨rfl, ih _⟩
  | freeze next ih =>
    rw [Script.visits, freeze_busy busy]
    exact forall_mem_cons.mpr ⟨rfl, ih _⟩
  | advance builder next _ ih =>
    obtain ⟨failure, refused⟩ := birthGuard_busy busy
    have alone : duringWith (fun mark tentative => (builder mark tentative).visits) d = [] := by
      rw [duringWith, refused]
    have stays : (advanceBirth builder d).2 = d := advanceWith_busy busy _
    rw [Script.visits, alone, stays]
    exact forall_mem_cons.mpr ⟨rfl, ih _⟩
  | advanceInvalid next ih =>
    rw [Script.visits, advanceInvalid_leaves]
    exact forall_mem_cons.mpr ⟨rfl, ih _⟩

/-! ## Calls on an idle domain -/

theorem released (idle : d.busy = false) :
    { { d with busy := true } with busy := false } = d := by
  cases d
  cases idle
  rfl

def bornDomain (d : Domain) (tentative : State) (event : BirthEvent) : Domain :=
  { d with
    state := tentative
    birthSeq := d.birthSeq + 1
    birthEvents := d.birthEvents ++ [event] }

structure Born (d : Domain) (birth : Birth) (d' : Domain) : Prop where
  field : ∃ tentative, tick d.state = .ok tentative
    ∧ snapshot tentative = .ok birth.event.snapshot ∧ d' = bornDomain d tentative birth.event
  mark : birth.mark = markOf d (d.birthSeq + 1) birth.event.snapshot
  flowRef : birth.event.flowRef = ⟨d.streamId, d.streamEpoch, d.birthSeq + 1⟩
  eventRef : birth.event.eventRef = eventRef d (d.birthSeq + 1)

theorem birthTransaction_cases {call : Mark → State → Domain → Outcome × Domain}
    (leaves : ∀ mark tentative (d : Domain), d.busy = true → (call mark tentative d).2 = d)
    (idle : d.busy = false) :
    (∃ failure, birthTransaction call d = (.error failure, d))
    ∨ ∃ birth d', birthTransaction call d = (.ok birth, d') ∧ Born d birth d'
      ∧ ∃ given, builtPacket (call birth.mark d'.state { d with busy := true }).1 = .ok given := by
  cases ticks : tick d.state with
  | error failure =>
    left
    exact ⟨failure, by simp only [birthTransaction, ticks, released idle]⟩
  | ok tentative =>
    cases shot : snapshot tentative with
    | error failure =>
      left
      exact ⟨failure, by simp only [birthTransaction, ticks, shot, released idle]⟩
    | ok physical =>
      have held := leaves (markOf { d with busy := true } (d.birthSeq + 1) physical) tentative
        { d with busy := true } rfl
      rcases ran : call (markOf { d with busy := true } (d.birthSeq + 1) physical) tentative
        { d with busy := true } with ⟨outcome, left⟩
      rw [ran] at held
      obtain rfl : left = { d with busy := true } := held
      cases built : builtPacket outcome with
      | error failure =>
        left
        exact ⟨failure, by simp only [birthTransaction, ticks, shot, ran, built, released idle]⟩
      | ok given =>
        right
        let event : BirthEvent :=
          { eventRef := eventRef d (d.birthSeq + 1)
            packetId := given.2
            flowRef := ⟨d.streamId, d.streamEpoch, d.birthSeq + 1⟩
            snapshot := physical }
        refine ⟨⟨given.1, markOf d (d.birthSeq + 1) physical, event⟩,
          bornDomain d tentative event, ?_, ⟨⟨tentative, ticks, shot, rfl⟩, rfl, rfl, rfl⟩, given,
          (congrArg (fun ran => builtPacket ran.1) ran).trans built⟩
        simp only [birthTransaction, ticks, shot, ran, built, bornDomain, idle]
        rfl

theorem advanceBirth_cases (builder : Builder) (idle : d.busy = false) :
    (∃ failure, advanceBirth builder d = (.error failure, d))
    ∨ ∃ birth d', advanceBirth builder d = (.ok birth, d') ∧ d.status = .opened ∧ Born d birth d'
      ∧ ∃ given, builtPacket ((builder birth.mark d'.state).run { d with busy := true }).1
        = .ok given := by
  rw [advanceBirth, advanceWith]
  cases passed : birthGuard d with
  | error failure => exact Or.inl ⟨failure, rfl⟩
  | ok accepted =>
    obtain ⟨-, opened, -⟩ := birthGuard_ok passed
    rcases @birthTransaction_cases _ (fun mark tentative => (builder mark tentative).run)
      (fun mark tentative d busy => run_busy _ busy) idle with failed | ⟨birth, d', reply, born⟩
    · exact Or.inl failed
    · exact Or.inr ⟨birth, d', reply, opened, born⟩

theorem freeze_cases (d : Domain) : (∃ failure, freeze d = (.error failure, d))
    ∨ (d.status = .frozen ∧ freeze d = (.ok (), d))
    ∨ (d.status = .opened ∧ freeze d
      = (.ok (), { d with state := { d.state with frozen := true }, status := .frozen })) := by
  cases planned : freezePlan d with
  | error failure => exact Or.inl ⟨failure, by rw [freeze, planned, transact_error]⟩
  | ok frozen =>
    rw [freeze, planned, transact_ok]
    simp only [freezePlan, bind_eq_ok] at planned
    obtain ⟨⟨⟩, -, ⟨⟩, -, planned⟩ := planned
    split at planned
    · rename_i already
      cases planned
      exact Or.inr (Or.inl ⟨already, rfl⟩)
    · rename_i still
      simp only [L1.freeze, bind_eq_ok, pure_eq_ok] at planned
      obtain ⟨_, ⟨⟨⟩, -, rfl⟩, rfl⟩ := planned
      refine Or.inr (Or.inr ⟨?_, rfl⟩)
      cases named : d.status with
      | opened => rfl
      | frozen => exact absurd named still

/-! ## Runs -/

inductive Call where
  | advance (builder : Builder)
  | advanceInvalid
  | freeze
  | snapshot

inductive Answer where
  | born (birth : Birth)
  | frozen
  | shown (snapshot : DomainSnapshot)

def machine : Machine Domain Call Answer where
  step d
    | .advance builder => (advanceBirth builder d).map .born
    | .advanceInvalid => (FlowDomain.advanceInvalid d).map .born
    | .freeze => (FlowDomain.freeze d).map fun _ => .frozen
    | .snapshot => ((domainSnapshot d).map .shown, d)

/-- Sequence, field and events of a domain are in step, and it is not busy. -/
structure BirthLaw (start d : Domain) : Prop where
  sequence : d.birthSeq = d.state.ticks
  events : d.birthSeq = d.birthEvents.length
  idle : d.busy = false
  numbered : ∀ (i : Nat) event, d.birthEvents[i]? = some event →
    event.flowRef = ⟨start.streamId, start.streamEpoch, i + 1⟩
      ∧ event.eventRef = eventRef start (i + 1)
      ∧ ∃ field, ticked (i + 1) start.state = .ok field ∧ snapshot field = .ok event.snapshot
  field : ∃ field, ticked d.birthSeq start.state = .ok field ∧ field.frozen = false
    ∧ d.state = { field with frozen := d.state.frozen }
  status : d.status = .opened → d.state.frozen = false
  identity : d.streamId = start.streamId ∧ d.streamEpoch = start.streamEpoch
    ∧ d.sourceProvenance = start.sourceProvenance
  valid : L1.Valid d.state
  checked : validate d = .ok ()

theorem validate_ok (d : Domain) : validate d = .ok ()
    ↔ (d.streamId ≠ [] ∧ isEpoch d.streamEpoch = true) ∧ d.state.ticks = d.birthSeq
      ∧ d.sourceProvenance.adapterId ≠ [] ∧ d.sourceProvenance.sourceRef ≠ []
      ∧ d.sourceProvenance.sourceCount = d.state.ringSize := by
  simp only [validate, bind_eq_ok, require_eq_ok]
  constructor
  · rintro ⟨⟨⟩, identity, ⟨⟩, state, provenance⟩
    exact ⟨identity, state, provenance⟩
  · rintro ⟨identity, state, provenance⟩
    exact ⟨⟨⟩, identity, ⟨⟩, state, provenance⟩

theorem nonEmpty_ok {value : Value} {message : String} {name : Bytes}
    (given : nonEmpty value message = .ok name) : name ≠ [] := by
  cases value with
  | str text =>
    simp only [nonEmpty, bind_eq_ok, require_eq_ok, pure_eq_ok] at given
    obtain ⟨⟨⟩, named, rfl⟩ := given
    exact named
  | _ => cases given

theorem streamEpoch_ok {value : Value} {n : Number} (given : streamEpoch value = .ok n) :
    isEpoch n = true := by
  cases value with
  | num m =>
    simp only [streamEpoch, bind_eq_ok, require_eq_ok, pure_eq_ok] at given
    obtain ⟨⟨⟩, epoch, rfl⟩ := given
    exact epoch
  | _ => cases given

theorem birthLaw_new {streamCounter : Nat} {source options : Value}
    (made : new streamCounter source options = .ok d) : BirthLaw d d := by
  simp only [new, bind_eq_ok, pure_eq_ok] at made
  obtain ⟨_, -, _, -, _, -, _, -, _, named, _, epoch, _, adapter, _, -, state, fresh, _, -, rfl⟩ :=
    made
  obtain ⟨valid, active, still⟩ := initializeState_facts fresh
  exact
    { sequence := still.symm
      events := rfl
      idle := rfl
      numbered := fun _ _ found => (by cases found)
      field := ⟨state, rfl, active, rfl⟩
      status := fun _ => active
      identity := ⟨rfl, rfl, rfl⟩
      valid := valid
      checked := (validate_ok _).mpr ⟨⟨nonEmpty_ok named, streamEpoch_ok epoch⟩, still,
        nonEmpty_ok adapter, valid.source.1, rfl⟩ }

theorem BirthLaw.open_field {start : Domain} (law : BirthLaw start d) (opened : d.status = .opened) :
    ticked d.birthSeq start.state = .ok d.state := by
  obtain ⟨field, reached, active, same⟩ := law.field
  rw [reached, same, law.status opened, ← active]

theorem BirthLaw.born {start d d' : Domain} {birth : Birth} (law : BirthLaw start d)
    (opened : d.status = .opened) (born : Born d birth d') : BirthLaw start d'
      ∧ ∃ field, ticked (d.birthSeq + 1) start.state = .ok field
        ∧ snapshot field = .ok birth.mark.snapshot := by
  obtain ⟨tentative, ticks, shot, rfl⟩ := born.field
  obtain ⟨sameId, sameEpoch, sameProvenance⟩ := law.identity
  obtain ⟨valid, counted, -, active, ring⟩ := tick_facts ticks
  have reached : ticked (d.birthSeq + 1) start.state = .ok tentative := by
    rw [ticked, law.open_field opened]
    exact ticks
  refine ⟨⟨?_, ?_, law.idle, ?_, ⟨tentative, reached, active, rfl⟩, fun _ => active,
    law.identity, valid, ?_⟩, tentative, reached, ?_⟩
  · show d.birthSeq + 1 = tentative.ticks
    rw [counted, law.sequence]
  · show d.birthSeq + 1 = (d.birthEvents ++ [birth.event]).length
    rw [length_append, length_singleton, law.events]
  · intro i event found
    have read : (d.birthEvents ++ [birth.event])[i]? = some event := found
    rcases Nat.lt_or_ge i d.birthEvents.length with before | after
    · rw [List.getElem?_append_left before] at read
      exact law.numbered i event read
    · have last : i = d.birthSeq := by
        have bound := (List.getElem?_eq_some_iff.mp read).1
        rw [length_append, length_singleton, ← law.events] at bound
        rw [← law.events] at after
        omega
      rw [List.getElem?_append_right after, last, ← law.events, Nat.sub_self] at read
      cases read
      rw [last, born.flowRef, born.eventRef, eventRef, eventRef, sameId, sameEpoch]
      exact ⟨rfl, rfl, tentative, reached, shot⟩
  · obtain ⟨identity, -, adapter, ref, count⟩ := (validate_ok d).mp law.checked
    refine (validate_ok _).mpr ⟨identity, ?_, adapter, ref, ?_⟩
    · show tentative.ticks = d.birthSeq + 1
      rw [counted, law.sequence]
    · show d.sourceProvenance.sourceCount = tentative.ringSize
      rw [ring, count]
  · rw [born.mark]
    exact shot

theorem birthLaw_step {start : Domain} (d : Domain) (c : Call) (law : BirthLaw start d) :
    BirthLaw start (machine.after d c) := by
  cases c with
  | advance builder =>
    show BirthLaw start (advanceBirth builder d).2
    rcases advanceBirth_cases builder law.idle with ⟨failure, failed⟩ | ⟨birth, d', reply, opened, born, -⟩
    · rw [failed]
      exact law
    · rw [reply]
      exact (law.born opened born).1
  | advanceInvalid =>
    show BirthLaw start (advanceInvalid d).2
    rw [advanceInvalid_leaves]
    exact law
  | freeze =>
    show BirthLaw start (freeze d).2
    rcases freeze_cases d with ⟨failure, failed⟩ | ⟨-, same⟩ | ⟨-, froze⟩
    · rw [failed]
      exact law
    · rw [same]
      exact law
    · rw [froze]
      obtain ⟨field, reached, active, same⟩ := law.field
      refine ⟨law.sequence, law.events, law.idle, law.numbered, ⟨field, reached, active, ?_⟩,
        (fun opened => nomatch opened), law.identity, ?_, ?_⟩
      · show { d.state with frozen := true } = { field with frozen := true }
        rw [same]
      · exact ⟨law.valid.ring, law.valid.arrays, law.valid.position, law.valid.source⟩
      · exact (validate_ok _).mpr ((validate_ok d).mp law.checked)
  | snapshot => exact law

theorem after_frozen (frozen : d.status = .frozen) (c : Call) :
    machine.after d c = d := by
  cases c with
  | advance builder =>
    show (advanceBirth builder d).2 = d
    rw [advanceBirth, advanceWith]
    cases passed : birthGuard d with
    | error failure => rfl
    | ok accepted =>
      have opened := (birthGuard_ok passed).2.1
      rw [frozen] at opened
      cases opened
  | advanceInvalid => exact advanceInvalid_leaves d
  | freeze =>
    show (freeze d).2 = d
    rcases freeze_cases d with ⟨failure, failed⟩ | ⟨-, same⟩ | ⟨opened, -⟩
    · rw [failed]
    · rw [same]
    · rw [frozen] at opened
      cases opened
  | snapshot => rfl

theorem run_frozen (frozen : d.status = .frozen) (calls : List Call) :
    machine.run d calls = d := by
  induction calls with
  | nil => rfl
  | cons c rest ih => rw [Machine.run_cons, after_frozen frozen, ih]

theorem during_held (builder : Builder) (d : Domain) :
    ∀ visited ∈ during builder d, visited = { d with busy := true } := by
  intro visited inside
  rw [during, duringWith] at inside
  split at inside
  · split at inside
    · exact visits_busy _ rfl visited inside
    · cases inside
  · cases inside

/-- A birth ticks the domain once, with one mark and one event for it; a birth that fails leaves
the domain, also when its builder calls back, and nothing changes a frozen domain. -/
theorem births_atomic (streamCounter : Nat) (source options : Value) (start : Domain)
    (made : new streamCounter source options = .ok start) (calls : List Call) :
    BirthLaw start (machine.run start calls)
    ∧ (∀ builder, ∀ visited ∈ during builder (machine.run start calls),
      visited = { machine.run start calls with busy := true })
    ∧ (∀ builder, ¬ (advanceBirth builder (machine.run start calls)).Succeeds →
      (advanceBirth builder (machine.run start calls)).2 = machine.run start calls)
    ∧ (∀ builder birth, (advanceBirth builder (machine.run start calls)).1 = .ok birth →
      birth.mark = markOf (machine.run start calls) ((machine.run start calls).birthSeq + 1)
          birth.event.snapshot
        ∧ (advanceBirth builder (machine.run start calls)).2.birthEvents
          = (machine.run start calls).birthEvents ++ [birth.event]
        ∧ ∃ field, ticked ((machine.run start calls).birthSeq + 1) start.state = .ok field
          ∧ snapshot field = .ok birth.mark.snapshot)
    ∧ ∀ more, (freeze (machine.run start calls)).Succeeds →
      machine.run (freeze (machine.run start calls)).2 more
        = (freeze (machine.run start calls)).2 := by
  have law : BirthLaw start (machine.run start calls) :=
    machine.run_invariant (BirthLaw start) birthLaw_step calls start (birthLaw_new made)
  refine ⟨law, fun builder => during_held builder _, ?_, ?_, ?_⟩
  · intro builder fails
    rcases advanceBirth_cases builder law.idle with ⟨failure, failed⟩ | ⟨birth, d', reply, -, -⟩
    · rw [failed]
    · rw [reply] at fails
      exact absurd (Reply.succeeds_ok birth d') fails
  · intro builder birth answer
    rcases advanceBirth_cases builder law.idle with
      ⟨failure, failed⟩ | ⟨birth', d', reply, opened, born, -⟩
    · rw [failed] at answer
      cases answer
    · rw [reply] at answer ⊢
      cases answer
      obtain ⟨tentative, -, -, rfl⟩ := born.field
      exact ⟨born.mark, rfl, (law.born opened born).2⟩
  · intro more froze
    apply run_frozen
    rcases freeze_cases (machine.run start calls) with ⟨failure, failed⟩ | ⟨frozen, same⟩ | ⟨-, done⟩
    · rw [failed] at froze
      exact absurd froze (Reply.not_succeeds_error failure _)
    · rw [same]
      exact frozen
    · rw [done]

def nested : Builder := fun _ _ =>
  .advance (fun _ _ => .done (.raised .nil)) fun _ =>
    .freeze fun _ => .done (.returned (.record [("id", .text "packet-1")]) .nil)

theorem births_atomic_nested : ∃ start,
    new 1 (.array [.nat 1, .nat 2, .nat 3]) (.record [("source_ref", .text "fixture")]) = .ok start
    ∧ BirthLaw start (machine.run start [.advance nested, .advance nested, .freeze])
    ∧ (machine.run start [.advance nested, .advance nested, .freeze]).birthSeq = 2 := by
  have made : ∃ start, new 1 (.array [.nat 1, .nat 2, .nat 3])
      (.record [("source_ref", .text "fixture")]) = .ok start
      ∧ (machine.run start [.advance nested, .advance nested, .freeze]).birthSeq = 2 :=
    ⟨_, rfl, by decide +kernel⟩
  obtain ⟨start, made, born⟩ := made
  exact ⟨start, made, (births_atomic 1 _ _ start made _).1, born⟩

end Proc17.Runtime.FlowDomain
