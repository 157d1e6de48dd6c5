import Proc17.Core.Packet.Course

/-!
# Failed calls

Which calls leave the Packet as it was when they fail.  Most writers check
everything and append before they write; `begin_tick`, `append_chaos`,
`measure_tension`, `manifest_packet` and `die` write first, and their exact
conditions are given here.
-/

namespace Proc17.Core.Packet

open Lua List Value

def FailsUnchanged {α : Type} (p : Packet) (reply : Reply Packet α) : Prop :=
  ¬ reply.Succeeds → reply.2 = p

/-! ## Conditions on the state before a call -/

def ids (p : Packet) : List Value := p.trace.map Event.id

def Unused (used : List Value) : Prop :=
  ∀ id ∈ used, Value.eq id (Trace.nextId .body used) = false

def afterNext (used : List Value) : List Value := used ++ [Trace.nextId .body used]

/-- A cost that `normalize_cost` can read. -/
def Readable (cost : Value) : Prop :=
  cost.truthy = false ∨ cost.isTable = true ∨ cost.isString = true

/-- The organ that a fragment or record names holds the current visit. -/
structure Visiting (p : Packet) (given : Value) : Prop where
  table : given.isTable = true
  mutable : p.Mutable
  here : Topology.resolve ((given.get "operator").orElse (Topology.value p.operator))
    = some p.operator
  leased : ∃ lease, Trace.currentVisitLease p.trace p.operator = some lease

/-- The event that a fragment or record asks for can be appended. -/
structure Appendable (p : Packet) (given : Value) (status : String) : Prop where
  truth : ∃ known, TruthStatus.parse ((given.get "truth_status").orElse (.text status))
    = some known
  cost : Readable (given.get "cost")
  unused : Unused p.ids

/-- Exactly when a failed call leaves the Packet as it was. -/
def AtomicWhen (p : Packet) : Call → Prop
  | .beginTick operator inputRefs =>
    p.status = .born → p.Mutable → Topology.resolve operator = some p.operator →
      (inputRefs = .nil ∨ inputRefs.isTable = true) → Unused p.ids
  | .appendChaos fragment =>
    Visiting p (fragment.orElse .emptyTable) →
      Appendable p (fragment.orElse .emptyTable) "semantic_proposal"
  | .measureTension record =>
    Visiting p (record.orElse .emptyTable) →
      Appendable p (record.orElse .emptyTable) "runtime_confirmed"
        ∨ writeTension p.tension (record.orElse .emptyTable) = p.tension
  | .manifestPacket payload residue =>
    (∃ plan, p.manifestPlan payload residue = .ok plan) →
      (Unused p.ids ∧ (∃ loss, p.lossSnapshot = .ok loss) ∧ Unused (afterNext p.ids))
        ∨ (¬ Unused p.ids ∧ p.manifest = (payload.orElse .emptyTable).deepCopy)
  | .die cause residue =>
    (∃ plan, p.deathPlan cause residue = .ok plan) → Unused p.ids → Unused (afterNext p.ids)
  | _ => True

/-! ## Rules -/

variable {α β : Type}

section

variable (p : Packet)

theorem failsUnchanged_map (f : α → β) (reply : Reply Packet α) :
    FailsUnchanged p (reply.map f) ↔ FailsUnchanged p reply := by
  obtain ⟨result, q⟩ := reply
  cases result with
  | error | ok => simp [FailsUnchanged, Reply.map, Except.map]

theorem failsUnchanged_transact (plan : Except Failure β)
    (commit : β → Reply Packet α) :
    FailsUnchanged p (transact plan commit p) ↔
      ∀ b, plan = .ok b → FailsUnchanged p (commit b) := by
  cases plan with
  | error failure => simp [transact_error, FailsUnchanged]
  | ok b =>
    rw [transact_ok]
    constructor
    · intro kept c same
      cases same
      exact kept
    · intro kept
      exact kept b rfl

theorem failsUnchanged_planned {plan : Except Failure β}
    {commit : β → Reply Packet α} {condition : Prop}
    (each : ∀ b, plan = .ok b → (FailsUnchanged p (commit b) ↔ condition)) :
    FailsUnchanged p (transact plan commit p) ↔ ((∃ b, plan = .ok b) → condition) := by
  rw [failsUnchanged_transact]
  constructor
  · rintro kept ⟨b, planned⟩
    exact (each b planned).mp (kept b planned)
  · intro holds b planned
    exact (each b planned).mpr (holds ⟨b, planned⟩)

theorem failsUnchanged_emitThen (p q : Packet) (now : Int) (draft : Draft)
    (write : Event → Packet → Packet) :
    FailsUnchanged p (q.emitThen now draft write) ↔
      (∃ event, q.storedEvent now draft = .ok event) ∨ q = p := by
  unfold emitThen
  cases stored : q.storedEvent now draft with
  | error | ok => simp [FailsUnchanged]

section

variable (now : Int)

theorem failsUnchanged_plan_emit {β : Type}
    (plan : Except Failure β) (draft : β → Draft) (write : β → Event → Packet → Packet) :
    FailsUnchanged p (transact plan (fun b => p.emitThen now (draft b) (write b)) p) := by
  rw [failsUnchanged_transact]
  intro b _
  rw [failsUnchanged_emitThen]
  exact .inr rfl

theorem unused_iff :
    (∀ earlier ∈ p.trace, Value.eq earlier.id (Trace.nextTraceId p.trace .body) = false) ↔
      Unused p.ids := by
  unfold Unused ids Trace.nextTraceId
  simp only [mem_map, forall_exists_index, and_imp, forall_apply_eq_imp_iff₂]

theorem costAxis_succeeds (cost : Value) (axis : String) :
    (∃ amount, costAxis cost axis = .ok amount) ↔ Readable cost := by
  cases cost with
  | bool b => cases b <;> simp [costAxis, Value.truthy, Value.index, Readable, Value.isTable,
      Value.isString]
  | _ => simp [costAxis, Value.truthy, Value.index, Readable, Value.isTable, Value.isString]

theorem normalizeCost_succeeds (cost : Value) :
    (∃ normal, normalizeCost cost = .ok normal) ↔ Readable cost := by
  constructor
  · rintro ⟨normal, normalized⟩
    unfold normalizeCost at normalized
    simp only [bind_eq_ok] at normalized
    obtain ⟨steps, read, -⟩ := normalized
    exact (costAxis_succeeds cost "steps").mp ⟨steps, read⟩
  · intro readable
    obtain ⟨a, readA⟩ := (costAxis_succeeds cost "steps").mpr readable
    obtain ⟨b, readB⟩ := (costAxis_succeeds cost "substrate_calls").mpr readable
    obtain ⟨c, readC⟩ := (costAxis_succeeds cost "tool_calls").mpr readable
    obtain ⟨d, readD⟩ := (costAxis_succeeds cost "file_writes").mpr readable
    obtain ⟨e, readE⟩ := (costAxis_succeeds cost "test_runs").mpr readable
    obtain ⟨f, readF⟩ := (costAxis_succeeds cost "loss").mpr readable
    refine ⟨⟨a, b, c, d, e, f⟩, ?_⟩
    simp [normalizeCost, readA, readB, readC, readD, readE, readF]

theorem readable_orElse_table (cost : Value) :
    Readable (cost.orElse .emptyTable) ↔ Readable cost := by
  cases truth : cost.truthy with
  | true => simp [Value.orElse, truth]
  | false => simp [Value.orElse, truth, Readable, Value.emptyTable, Value.isTable]

/-! ## Fragments and records -/

theorem actorCopy_succeeds (given : Value) (operation : String) :
    (∃ stored, p.actorCopy given operation = .ok stored) ↔ Visiting p given := by
  constructor
  · rintro ⟨stored, copied⟩
    obtain ⟨mutable, leased, assigned⟩ := actorCopy_eq_ok p given operation stored copied
    have table : given.isTable = true := by
      cases given with
      | table tag entries => rfl
      | _ => cases assigned
    unfold actorCopy namedActor at copied
    simp only [index_eq_get table, bind_eq_ok, pure_eq_ok, assertActorTick_eq_ok] at copied
    obtain ⟨actor, ⟨field, read, named⟩, lease, ⟨-, here, -⟩, -⟩ := copied
    cases read
    rw [← named] at here
    exact ⟨table, mutable, here, leased⟩
  · rintro ⟨table, mutable, here, lease, leased⟩
    cases given with
    | table tag entries =>
      have ticked := (assertActorTick_eq_ok p _ operation lease).mpr ⟨mutable, here, leased⟩
      obtain ⟨stored, assigned⟩ : ∃ stored, (Value.table tag entries).deepCopy.setField
          "operator" (resolvedValue (((Value.table tag entries).get "operator").orElse
            (Topology.value p.operator))) = .ok stored := ⟨_, rfl⟩
      refine ⟨stored, ?_⟩
      simp only [actorCopy, namedActor, index_eq_get table, bind_eq_ok, pure_eq_ok]
      exact ⟨_, ⟨_, rfl, rfl⟩, lease, ticked, assigned⟩
    | _ => cases table

theorem parse_truth_deepCopy (v : Value) (status : String) :
    TruthStatus.parse (v.deepCopy.orElse (.text status))
      = TruthStatus.parse (v.orElse (.text status)) := by
  cases v with
  | table tag entries => rfl
  | _ => rfl

theorem readable_deepCopy (v : Value) : Readable v.deepCopy ↔ Readable v := by
  simp [Readable]

theorem copy_appendable (p q : Packet) (now : Int) (type : EventType) (given stored : Value)
    (status : String) (same : q.trace = p.trace)
    (assigned : given.deepCopy.setField "operator" (Topology.value p.operator) = .ok stored) :
    (∃ event, q.storedEvent now (.own type (stored.get "operator")
        ((stored.get "truth_status").orElse (.text status)) stored
        ((stored.get "cost").orElse .emptyTable)) = .ok event) ↔ Appendable p given status := by
  have operator : stored.get "operator" = Topology.value p.operator :=
    get_of_setField (by simp [Topology.value]) assigned
  have truth : stored.get "truth_status" = (given.get "truth_status").deepCopy := by
    rw [get_of_setField_other (by decide) assigned, get_deepCopy]
  have cost : stored.get "cost" = (given.get "cost").deepCopy := by
    rw [get_of_setField_other (by decide) assigned, get_deepCopy]
  have used : q.ids = p.ids := by
    rw [ids, same]
    rfl
  rw [operator, storedEvent_own_succeeds, normalizeCost_succeeds, readable_orElse_table, unused_iff,
    truth, cost, parse_truth_deepCopy, readable_deepCopy, used]
  constructor
  · rintro ⟨known, unused, readable⟩
    exact ⟨known, readable, unused⟩
  · rintro ⟨known, readable, unused⟩
    exact ⟨known, unused, readable⟩

theorem copied_atomic {p : Packet} {given : Value} {operation status : String} {now : Int}
    {type : EventType} (write : Value → Packet) (traces : ∀ stored, (write stored).trace = p.trace)
    {kept : Prop} (same : ∀ stored, write stored = p ↔ kept) :
    FailsUnchanged p (transact (p.actorCopy given operation) (fun stored =>
        (write stored).emit now (.own type (stored.get "operator")
          ((stored.get "truth_status").orElse (.text status)) stored
          ((stored.get "cost").orElse .emptyTable))) p) ↔
      (Visiting p given → Appendable p given status ∨ kept) := by
  have each : ∀ stored, p.actorCopy given operation = .ok stored →
      (FailsUnchanged p ((write stored).emit now (.own type (stored.get "operator")
          ((stored.get "truth_status").orElse (.text status)) stored
          ((stored.get "cost").orElse .emptyTable))) ↔ Appendable p given status ∨ kept) := by
    intro stored copied
    obtain ⟨-, -, assigned⟩ := actorCopy_eq_ok p _ _ stored copied
    exact (failsUnchanged_emitThen p _ now _ _).trans (or_congr
      (copy_appendable p (write stored) now type given stored status (traces stored) assigned)
      (same stored))
  rw [failsUnchanged_planned p each, actorCopy_succeeds]

theorem appendChaos_atomic (fragment : Value) :
    FailsUnchanged p (p.appendChaos now fragment) ↔ AtomicWhen p (.appendChaos fragment) := by
  have grown : ∀ stored, p.withFragment stored = p ↔ False := by
    intro stored
    refine iff_false_intro fun same => ?_
    have fragments := congrArg (fun q => q.chaos.fragments.length) same
    simp [withFragment] at fragments
  refine (copied_atomic p.withFragment (fun _ => rfl) grown).trans ?_
  rw [or_false]
  rfl

theorem measureTension_atomic (record : Value) :
    FailsUnchanged p (p.measureTension now record) ↔
      AtomicWhen p (.measureTension record) := by
  have kept_iff : p.withTension (record.orElse .emptyTable) = p ↔
      writeTension p.tension (record.orElse .emptyTable) = p.tension := by
    constructor
    · intro same
      exact congrArg Packet.tension same
    · intro same
      rw [withTension, same]
  exact copied_atomic (p := p) (fun _ => p.withTension (record.orElse .emptyTable)) (fun _ => rfl)
    fun _ => kept_iff

/-! ## Ticks -/

theorem beginTick_atomic (operator inputRefs : Value) :
    FailsUnchanged p (p.beginTick now operator inputRefs) ↔
      AtomicWhen p (.beginTick operator inputRefs) := by
  have awake : p.wake = p ↔ p.status ≠ .born := by
    constructor
    · intro same born
      have status := congrArg Packet.status same
      rw [Packet.wake, born] at status
      cases status
    · intro notBorn
      have status : p.status.wake = p.status := by
        cases waking : p.status with
        | born => exact absurd waking notBorn
        | _ => rfl
      rw [Packet.wake, status]
  have ticks : (∃ event, p.wake.storedEvent now (tickDraft p.operator inputRefs) = .ok event) ↔
      Unused p.ids := by
    unfold tickDraft
    rw [storedEvent_own_succeeds, unused_iff, normalizeCost_succeeds]
    constructor
    · rintro ⟨-, unused, -⟩
      exact unused
    · intro unused
      exact ⟨⟨.runtimeConfirmed, TruthStatus.parse_name .runtimeConfirmed⟩, unused, .inr (.inl rfl)⟩
  unfold beginTick
  rw [failsUnchanged_transact]
  constructor
  · intro kept born mutable here refs
    have planned := (tickPlan_eq_ok p operator inputRefs _).mpr ⟨mutable, here, refs, rfl⟩
    rcases (failsUnchanged_emitThen p _ now _ _).mp (kept _ planned) with appended | same
    · exact ticks.mp appended
    · exact absurd born (awake.mp same)
  · intro condition draft planned
    obtain ⟨mutable, here, refs, rfl⟩ := (tickPlan_eq_ok p operator inputRefs draft).mp planned
    refine (failsUnchanged_emitThen p _ now _ _).mpr ?_
    by_cases born : p.status = .born
    · exact .inl (ticks.mpr (condition born mutable here refs))
    · exact .inr (awake.mpr born)

/-! ## Endings -/

theorem own_confirmed_succeeds (type : EventType) (operator : Operator)
    (status : TruthStatus) (payload : Value) :
    (∃ event, p.storedEvent now (.own type (Topology.value operator) (.text status.name) payload
        .emptyTable) = .ok event) ↔ Unused p.ids := by
  rw [storedEvent_own_succeeds, unused_iff, normalizeCost_succeeds]
  constructor
  · rintro ⟨-, unused, -⟩
    exact unused
  · intro unused
    exact ⟨⟨status, TruthStatus.parse_name status⟩, unused, .inr (.inl rfl)⟩

theorem ids_push_own (event : Event)
    (identified : event.id = Trace.nextTraceId p.trace .body) :
    (p.push event).ids = afterNext p.ids := by
  rw [ids, push, map_append, map_singleton, identified]
  rfl

theorem freeze_succeeds (cause : DeathCause) (residue : Value)
    (terminal : Terminal) (dying : p.status = .dying) (recorded : p.terminal = some terminal)
    (same : terminal.cause = cause) : (p.freeze now (.text cause.name) residue).Succeeds := by
  have planned := (freezePlan_eq_ok p (.text cause.name) terminal).mpr
    ⟨dying, recorded, by rw [same]⟩
  rw [freeze, planned, transact_ok]
  exact ⟨_, rfl⟩

theorem closeWith_succeeds (event : Event) (now later : Int) (cause : DeathCause)
    (residue : Value) (terminal : Terminal) (same : terminal.cause = cause) :
    (closeWith event later cause residue (p.appendTerminal now terminal)).Succeeds ↔
      Unused p.ids := by
  rw [← own_confirmed_succeeds p now .terminal terminal.operator .runtimeConfirmed
    (terminalPayload terminal), closeWith, Reply.andThen_succeeds]
  have draft : p.storedEvent now (terminalDraft terminal)
      = p.storedEvent now (.own .terminal (Topology.value terminal.operator)
        (.text TruthStatus.runtimeConfirmed.name) (terminalPayload terminal) .emptyTable) := rfl
  rw [← draft]
  unfold appendTerminal emitThen
  cases stored : p.storedEvent now (terminalDraft terminal) with
  | error failure => simp
  | ok terminalEvent =>
    obtain ⟨corpse, froze⟩ := freeze_succeeds
      (storeTerminal terminal terminalEvent (p.push terminalEvent)) later cause residue _ rfl
      rfl same
    simp only [Except.ok.injEq, exists_eq_left', exists_eq', iff_true]
    rw [Reply.andThen_succeeds]
    exact ⟨corpse, froze, _, rfl⟩

theorem reaches_push_ne {supplied : Value} {n : Nat} {p q r : Packet} {event : Event}
    (trace : q.trace = p.trace ++ [event]) (later : Reaches supplied n q r) : r ≠ p := by
  obtain ⟨events, course, -⟩ := later
  intro same
  have length := congrArg List.length course.trace
  rw [same, trace, length_append, length_append] at length
  simp at length
  omega

theorem announced_atomic {α : Type} {p : Packet} (q : Packet) {now : Int} {draft : Draft}
    {next : Event → Packet → Reply Packet α} (closed : Prop) (trace : q.trace = p.trace)
    (appends : (∃ event, q.storedEvent now draft = .ok event) ↔ Unused p.ids)
    (follows : ∀ event, q.storedEvent now draft = .ok event →
      Reaches .nil 1 (q.push event) (next event (q.push event)).2
        ∧ ((next event (q.push event)).Succeeds ↔ closed)) :
    FailsUnchanged p (Reply.andThen (q.emit now draft) next) ↔
      (Unused p.ids ∧ closed) ∨ (¬ Unused p.ids ∧ q = p) := by
  cases stored : q.storedEvent now draft with
  | error failure =>
    have taken : ¬ Unused p.ids := by
      rw [← appends, stored]
      rintro ⟨event, same⟩
      cases same
    simp [emit, emitThen, stored, Reply.andThen, FailsUnchanged, taken]
  | ok event =>
    obtain ⟨reaches, closes⟩ := follows event stored
    have unused : Unused p.ids := appends.mp ⟨event, stored⟩
    have emitted : q.emit now draft = (.ok event, q.push event) := by rw [emit, emitThen, stored]
    have grown := reaches_push_ne (p := p) (by rw [push, trace]) reaches
    rw [emitted, ← closes]
    constructor
    · intro kept
      refine .inl ⟨unused, ?_⟩
      by_contra failed
      exact grown (kept failed)
    · rintro (⟨-, succeeds⟩ | ⟨taken, -⟩)
      · intro failed
        exact absurd succeeds failed
      · exact absurd unused taken

theorem die_atomic (clock : Nat → Int) (cause residue : Value) :
    FailsUnchanged p (p.die clock cause residue) ↔ AtomicWhen p (.die cause residue) := by
  -- for each plan: the death event, then the terminal event
  have each : ∀ plan, p.deathPlan cause residue = .ok plan →
      (FailsUnchanged p (Reply.andThen (p.emit (clock 0) (p.deathDraft plan)) fun event q =>
        closeWith event (clock 2) plan.cause plan.residue
          (q.appendTerminal (clock 1) plan.terminal)) ↔
        (Unused p.ids → Unused (afterNext p.ids))) := by
    intro plan planned
    obtain ⟨mutable, named, normal⟩ := deathPlan_facts p cause residue plan planned
    obtain ⟨here, causeField⟩ := normalizeTerminal_facts p _ plan.terminal normal
    have given : (p.deathTerminalInput cause).orElse .emptyTable = p.deathTerminalInput cause :=
      rfl
    have input : (p.deathTerminalInput cause).get "cause" = cause :=
      get_record (by simp) (by simp)
    have sameCause : plan.terminal.cause = plan.cause := by
      rw [given, input, named] at causeField
      simp only [Value.str.injEq, utf8_inj] at causeField
      exact (DeathCause.name_injective _ _ causeField).symm
    have appends := own_confirmed_succeeds p (clock 0) .death p.operator .runtimeConfirmed
      (.record [("cause", .text plan.cause.name), ("residue", plan.residue)])
    refine (announced_atomic p (Unused (afterNext p.ids)) rfl appends
      fun event stored => ⟨?_, ?_⟩).trans ?_
    · exact closeWith_reaches event (clock 2) plan.cause plan.residue _
        (appendTerminal_reaches _ (clock 1) plan.terminal (mutable.push event) here)
    · obtain ⟨-, -, identified, -⟩ := storedEvent_own p (clock 0) _ _ _ _ _ event stored
      have closes := closeWith_succeeds (p.push event) event (clock 1) (clock 2) plan.cause
        plan.residue plan.terminal sameCause
      rwa [ids_push_own p event identified] at closes
    · by_cases unused : Unused p.ids <;> simp [unused]
  unfold die
  exact failsUnchanged_planned p each

/-- The terminal part of `manifest_packet` succeeds when a loss snapshot can be
taken and the terminal event can be appended. -/
theorem manifest_closes (plan : ManifestPlan) (event : Event) (now later : Int)
    (mutable : p.Mutable) (here : p.operator = .manifest) :
    (closeWith event later plan.cause plan.residue
        (p.beginTerminal now (p.manifestTerminalInput plan event))).Succeeds ↔
      (∃ loss, p.lossSnapshot = .ok loss) ∧ Unused p.ids := by
  have input : ∀ name value, (name, value) ∈ [("kind", Value.text "manifest"),
      ("cause", .text plan.cause.name), ("operator", Topology.value .manifest),
      ("manifest_ref", event.id), ("residue_ref", p.residueRef)] →
      (p.manifestTerminalInput plan event).get name = value := fun name value member =>
    get_record (by simp) member
  have accepted := normalizeTerminal_succeeds p (p.manifestTerminalInput plan event) .manifest
    plan.cause rfl (input "kind" _ (by simp [TerminalKind.name])) (input "cause" _ (by simp))
    (by rw [here]; exact input "operator" _ (by simp))
    (get_record_absent (by simp)) (.inr here)
  unfold beginTerminal
  cases normal : p.normalizeTerminal (p.manifestTerminalInput plan event) with
  | error failure =>
    have planned : p.terminalPlan (p.manifestTerminalInput plan event) = .error failure := by
      unfold terminalPlan
      rw [(assertMutable_eq_ok p _ ()).mpr mutable, normal]
      rfl
    have unmeasured : ¬ ∃ loss, p.lossSnapshot = .ok loss := by
      rw [← accepted, normal]
      rintro ⟨terminal, same⟩
      cases same
    rw [planned, transact_error, closeWith, Reply.andThen_succeeds]
    simp [unmeasured]
  | ok terminal =>
    have planned := (terminalPlan_eq_ok p _ terminal).mpr ⟨mutable, normal⟩
    obtain ⟨-, causeField⟩ := normalizeTerminal_facts p _ terminal normal
    have sameCause : terminal.cause = plan.cause := by
      have given : (p.manifestTerminalInput plan event).orElse .emptyTable
          = p.manifestTerminalInput plan event := rfl
      rw [given, input "cause" (.text plan.cause.name) (by simp)] at causeField
      simp only [Value.str.injEq, utf8_inj] at causeField
      exact (DeathCause.name_injective _ _ causeField).symm
    rw [planned, transact_ok, closeWith_succeeds p event now later plan.cause plan.residue
      terminal sameCause]
    have measured := accepted.mp ⟨terminal, normal⟩
    exact ⟨fun unused => ⟨measured, unused⟩, fun both => both.2⟩

theorem manifestPacket_atomic (clock : Nat → Int) (payload residue : Value) :
    FailsUnchanged p (p.manifestPacket clock payload residue) ↔
      AtomicWhen p (.manifestPacket payload residue) := by
  have each : ∀ plan, p.manifestPlan payload residue = .ok plan →
      (FailsUnchanged p (Reply.andThen
          ((p.withManifest plan.payload).emit (clock 0) (manifestDraft plan))
          fun event q => closeWith event (clock 2) plan.cause plan.residue
            (q.beginTerminal (clock 1) (q.manifestTerminalInput plan event))) ↔
        (Unused p.ids ∧ (∃ loss, p.lossSnapshot = .ok loss) ∧ Unused (afterNext p.ids))
          ∨ (¬ Unused p.ids ∧ p.manifest = (payload.orElse .emptyTable).deepCopy)) := by
    intro plan planned
    obtain ⟨mutable, here, stored⟩ := manifestPlan_facts p payload residue plan planned
    have same : SameCourse p (p.withManifest plan.payload) := ⟨rfl, rfl, rfl, rfl, .inl rfl⟩
    have appends := own_confirmed_succeeds (p.withManifest plan.payload) (clock 0) .manifest
      .manifest plan.truthStatus plan.payload
    have used : (p.withManifest plan.payload).ids = p.ids := rfl
    rw [used] at appends
    have written : p.withManifest plan.payload = p ↔
        p.manifest = (payload.orElse .emptyTable).deepCopy := by
      rw [← stored]
      constructor
      · intro kept
        exact (congrArg Packet.manifest kept).symm
      · intro kept
        rw [withManifest, ← kept]
    refine (announced_atomic (p := p) (p.withManifest plan.payload) _ rfl appends
      fun event stored => ⟨?_, ?_⟩).trans (or_congr Iff.rfl (and_congr Iff.rfl written))
    · exact closeWith_reaches event (clock 2) plan.cause plan.residue _
        (beginTerminal_reaches ((p.withManifest plan.payload).push event) (clock 1) _)
    · obtain ⟨-, -, identified, -⟩ := storedEvent_own _ (clock 0) _ _ _ _ _ event stored
      have closes := manifest_closes ((p.withManifest plan.payload).push event) plan event
        (clock 1) (clock 2) ((same.mutable mutable).push event) here
      rwa [ids_push_own _ event identified, used, show ((p.withManifest plan.payload).push
        event).lossSnapshot = p.lossSnapshot from rfl] at closes
  unfold manifestPacket
  exact failsUnchanged_planned p each

/-! ## Every call -/

theorem freeze_atomic (cause residue : Value) :
    FailsUnchanged p (p.freeze now cause residue) := by
  unfold freeze
  rw [failsUnchanged_transact]
  intro terminal _ failed
  exact absurd ⟨_, rfl⟩ failed

end

end

/-- A failed call leaves the Packet as it was exactly under the condition given
for its writer; the other writers need none. -/
theorem step_fails_unchanged_iff (S : Schemas) (p : Packet) (s : Step) :
    FailsUnchanged p ((machine S).step p s) ↔ AtomicWhen p s.call := by
  obtain ⟨call, clock⟩ := s
  cases call with
  | beginTick operator inputRefs =>
    exact (failsUnchanged_map p _ _).trans (beginTick_atomic p (clock 0) operator inputRefs)
  | appendChaos fragment =>
    exact (failsUnchanged_map p _ _).trans (appendChaos_atomic p (clock 0) fragment)
  | measureTension record =>
    exact (failsUnchanged_map p _ _).trans (measureTension_atomic p (clock 0) record)
  | manifestPacket payload residue =>
    exact (failsUnchanged_map p _ _).trans (manifestPacket_atomic p clock payload residue)
  | die cause residue =>
    exact (failsUnchanged_map p _ _).trans (die_atomic p clock cause residue)
  | commitTransition | crystallize | appendTrace | appendRepositoryEvent | appendQaEvent
  | appendUnitDissolution | beginTerminal =>
    exact iff_of_true
      ((failsUnchanged_map p _ _).mpr (failsUnchanged_plan_emit p (clock 0) _ _ _)) trivial
  | freeze cause residue =>
    exact iff_of_true ((failsUnchanged_map p _ _).mpr
      (freeze_atomic p (clock 0) cause residue)) trivial

def unknownTruthFragment : Call := .appendChaos (.record [("truth_status", .text "certain")])

theorem appendChaos_keeps_refused_fragment :
    ∃ p, Packet.new refusingSchemas 1 0 (.text "task") .nil = .ok p
      ∧ ¬ FailsUnchanged p
        ((machine refusingSchemas).step p ⟨unknownTruthFragment, fun _ => 0⟩) := by
  obtain ⟨p, born, facts⟩ := task_born_passing
    (fun p =>
      let reply := (machine refusingSchemas).step p ⟨unknownTruthFragment, fun _ => 0⟩
      decide (¬ reply.Succeeds) && reply.2.chaos.fragments.length = p.chaos.fragments.length + 1)
    (by decide)
  simp only [Bool.and_eq_true, decide_eq_true_eq] at facts
  refine ⟨p, born, fun kept => ?_⟩
  have grown := facts.2
  rw [kept facts.1] at grown
  omega

end Proc17.Core.Packet
