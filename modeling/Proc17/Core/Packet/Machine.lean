import Proc17.Core.Packet.Evidence

/-!
# The Packet machine

The public writers as one machine, and what a successful guard, append or plan of
each of them says.
-/

namespace Proc17.Core

open Lua Value Topology

inductive Call where
  | beginTick (operator inputRefs : Value)
  | commitTransition (decision : Value)
  | appendChaos (fragment : Value)
  | crystallize (record : Value)
  | measureTension (record : Value)
  | appendTrace (event : Value)
  | appendRepositoryEvent (event : Value)
  | appendQaEvent (event : Value)
  | appendUnitDissolution (event : Value)
  | beginTerminal (input : Value)
  | freeze (cause residue : Value)
  | manifestPacket (payload residue : Value)
  | die (cause residue : Value)

/-- A call, with the readings `os.time` gives while it runs. -/
structure Step where
  call : Call
  clock : Nat → Int

inductive Answer where
  | event (event : Event)
  | ending (event terminal : Event)
  | corpse (corpse : Corpse)

def Call.appends : Call → Nat
  | .freeze _ _ => 0
  | .manifestPacket _ _ | .die _ _ => 2
  | _ => 1

def Call.suppliedId : Call → Value
  | .appendTrace event | .appendRepositoryEvent event => event.get "id"
  | _ => .nil

theorem TerminalKind.parse_name (kind : TerminalKind) :
    Value.parse TerminalKind.all TerminalKind.name (.text kind.name) = some kind := by
  cases kind <;> decide

theorem DeathCause.parse_name (cause : DeathCause) :
    DeathCause.parse (.text cause.name) = some cause :=
  parse_text DeathCause.name_injective cause (by cases cause <;> decide)

namespace Packet

def step (S : Schemas) (p : Packet) (s : Step) : Reply Packet Answer :=
  match s.call with
  | .beginTick operator inputRefs =>
    (p.beginTick (s.clock 0) operator inputRefs).map .event
  | .commitTransition decision => (p.commitTransition (s.clock 0) decision).map .event
  | .appendChaos fragment => (p.appendChaos (s.clock 0) fragment).map .event
  | .crystallize record => (p.crystallize (s.clock 0) record).map .event
  | .measureTension record => (p.measureTension (s.clock 0) record).map .event
  | .appendTrace event => (p.appendTrace (s.clock 0) event).map .event
  | .appendRepositoryEvent event =>
    (p.appendRepositoryEvent (s.clock 0) event).map .event
  | .appendQaEvent event => (p.appendQaEvent S (s.clock 0) event).map .event
  | .appendUnitDissolution event =>
    (p.appendUnitDissolution S (s.clock 0) event).map .event
  | .beginTerminal input => (p.beginTerminal (s.clock 0) input).map .event
  | .freeze cause residue => (p.freeze (s.clock 0) cause residue).map .corpse
  | .manifestPacket payload residue =>
    (p.manifestPacket s.clock payload residue).map fun pair => .ending pair.1 pair.2
  | .die cause residue =>
    (p.die s.clock cause residue).map fun pair => .ending pair.1 pair.2

def machine (S : Schemas) : Machine Packet Step Answer := ⟨step S⟩

/-! ## Guards and stored events -/

structure Mutable (p : Packet) : Prop where
  notDead : p.status ≠ .dead
  notDying : p.status ≠ .dying
  notManifested : p.status ≠ .manifested
  unended : p.terminal = none

variable (p : Packet)

theorem assertMutable_eq_ok (operation : String) (u : Unit) :
    p.assertMutable operation = .ok u ↔ p.Mutable := by
  unfold assertMutable
  constructor
  · intro success
    split at success
    · cases success
    · rename_i notDead
      split at success
      · cases success
      · rename_i notEnding
        simp only [not_or, not_not] at notEnding
        exact ⟨notDead, notEnding.1, notEnding.2.1, notEnding.2.2⟩
  · intro mutable
    rw [if_neg mutable.notDead, if_neg]
    simp [mutable.notDying, mutable.notManifested, mutable.unended]

theorem assertActorTick_eq_ok (actor : Value) (operation : String) (lease : Trace.Lease) :
    p.assertActorTick actor operation = .ok lease ↔
      p.Mutable ∧ Topology.resolve actor = some p.operator
        ∧ Trace.currentVisitLease p.trace p.operator = some lease := by
  unfold assertActorTick
  simp only [bind_eq_ok, assertMutable_eq_ok, exists_and_left, exists_const]
  cases resolved : Topology.resolve actor with
  | none => simp
  | some operator =>
    by_cases here : operator = p.operator
    · subst here
      cases found : Trace.currentVisitLease p.trace p.operator with
      | none | some => simp [found]
    · simp [here]

/-- What the local `append_trace` checked and stored. -/
structure Stored (p : Packet) (now : Int) (draft : Draft) (event : Event) : Prop where
  type : EventType.parse draft.type = some event.type
  operator : Topology.resolve draft.operator = some event.operator
  truthStatus : TruthStatus.parse draft.truthStatus = some event.truthStatus
  lane : ∃ lane, Trace.identityLane draft event.type = .ok lane
    ∧ event.id = draft.id.orElse (Trace.nextTraceId p.trace lane)
    ∧ event.observer = decide (lane = .observerInstrumentation)
  fresh : ∀ earlier ∈ p.trace, Value.eq earlier.id event.id = false
  payload : event.payload = (draft.payload.orElse .emptyTable).deepCopy
  cost : normalizeCost draft.cost = .ok event.cost
  packetId : event.packetId = p.id
  lineageId : event.lineageId = p.lineageId
  generation : event.generation = p.generation
  tick : event.tick = p.physis.ticks.orElse (.nat 0)
  time : event.time = draft.time.orElse (.num (.int now))

variable (draft : Draft)

theorem validateEvent_eq_ok (type : EventType) (operator : Operator) (truthStatus : TruthStatus) :
    validateEvent draft = .ok (type, operator, truthStatus) ↔
      EventType.parse draft.type = some type ∧ Topology.resolve draft.operator = some operator
        ∧ TruthStatus.parse draft.truthStatus = some truthStatus := by
  unfold validateEvent
  cases EventType.parse draft.type with
  | none => simp
  | some type' =>
    cases Topology.resolve draft.operator with
    | none => simp
    | some operator' =>
      cases TruthStatus.parse draft.truthStatus with
      | none | some => simp

variable (now : Int)

/-- The local `append_trace` raises what it does not accept. -/
theorem storedEvent_unrefused (now : Int) (draft : Draft) :
    OnError (fun failure => ∀ err, failure ≠ .refused err) (p.storedEvent now draft) := by
  unfold storedEvent
  refine .bind ?_ fun checked => ?_
  · unfold validateEvent
    cases EventType.parse draft.type with
    | none => exact .error fun _ => Failure.noConfusion
    | some type =>
      cases Topology.resolve draft.operator with
      | none => exact .error fun _ => Failure.noConfusion
      | some operator =>
        cases TruthStatus.parse draft.truthStatus with
        | none => exact .error fun _ => Failure.noConfusion
        | some status => exact .ok _
  refine .bind ?_ fun lane => .bind (.require fun _ => Failure.noConfusion) fun _ =>
    .bind ?_ fun cost => .ok _
  · unfold Trace.identityLane
    exact .ite (.ok _) (.ite (.ite (.ok _) (.error fun _ => Failure.noConfusion))
      (.error fun _ => Failure.noConfusion))
  · have axis : ∀ cost name,
        OnError (fun failure => ∀ err, failure ≠ .refused err) (costAxis cost name) := by
      intro cost name
      refine .ite (.bind ?_ fun amount => .ok _) (.ok _)
      cases cost with
      | table | str => exact .ok _
      | _ => exact .error fun _ => Failure.noConfusion
    unfold normalizeCost
    refine .bind (axis _ _) fun a => .bind (axis _ _) fun b => .bind (axis _ _) fun c => ?_
    exact .bind (axis _ _) fun d => .bind (axis _ _) fun e => .bind (axis _ _) fun f => .ok _

theorem storedEvent_eq_ok (now : Int) (draft : Draft) (event : Event) :
    p.storedEvent now draft = .ok event ↔ Stored p now draft event := by
  unfold storedEvent
  simp only [bind_eq_ok, require_eq_ok, pure_eq_ok, Prod.exists, validateEvent_eq_ok]
  constructor
  · rintro ⟨type, operator, truthStatus, ⟨typed, resolved, truth⟩, lane, laned, -, fresh,
      cost, normal, rfl⟩
    exact ⟨typed, resolved, truth, ⟨lane, laned, rfl, rfl⟩, fresh, rfl, normal, rfl, rfl, rfl,
      rfl, rfl⟩
  · rintro ⟨typed, resolved, truth, ⟨lane, laned, identified, observed⟩, fresh, payload,
      normal, packetId, lineageId, generation, tick, time⟩
    refine ⟨event.type, event.operator, event.truthStatus, ⟨typed, resolved, truth⟩, lane,
      laned, (), ?_, event.cost, normal, ?_⟩
    · rw [← identified]
      exact fresh
    · cases event
      simp_all

theorem storedEvent_own (type : EventType) (operator : Operator) (truthStatus payload cost : Value)
    (event : Event)
    (stored : p.storedEvent now (.own type (Topology.value operator) truthStatus payload cost)
      = .ok event) :
    event.type = type ∧ event.operator = operator
      ∧ event.id = Trace.nextTraceId p.trace .body ∧ event.observer = false
      ∧ event.payload = (payload.orElse .emptyTable).deepCopy := by
  have facts := (storedEvent_eq_ok p now _ event).mp stored
  have typed := facts.type
  have resolved := facts.operator
  obtain ⟨lane, laned, identified, observed⟩ := facts.lane
  simp only [Draft.own, EventType.parse_name, Option.some.injEq] at typed
  simp only [Draft.own, resolve_value, Option.some.injEq] at resolved
  have body : lane = .body := by
    simpa [Trace.identityLane, Draft.own, Value.orElse, Value.truthy, eq_comm] using laned
  subst body
  exact ⟨typed.symm, resolved.symm, identified, by simpa using observed, facts.payload⟩

theorem storedEvent_own_succeeds (type : EventType) (operator : Operator)
    (truthStatus payload cost : Value) :
    (∃ event, p.storedEvent now (.own type (Topology.value operator) truthStatus payload cost)
        = .ok event) ↔
      (∃ known, TruthStatus.parse truthStatus = some known)
        ∧ (∀ earlier ∈ p.trace, Value.eq earlier.id (Trace.nextTraceId p.trace .body) = false)
        ∧ ∃ normal, normalizeCost cost = .ok normal := by
  constructor
  · rintro ⟨event, stored⟩
    obtain ⟨-, -, identified, -⟩ := storedEvent_own p now type operator _ _ _ event stored
    have facts := (storedEvent_eq_ok p now _ event).mp stored
    exact ⟨⟨event.truthStatus, facts.truthStatus⟩, identified ▸ facts.fresh, event.cost, facts.cost⟩
  · rintro ⟨⟨known, parsed⟩, fresh, normal, normalized⟩
    have laned : Trace.identityLane (.own type (Topology.value operator)
        truthStatus payload cost) type = .ok .body := by
      simp [Trace.identityLane, Draft.own, Value.orElse, Value.truthy]
    refine ⟨_, (storedEvent_eq_ok p now _
      { id := Trace.nextTraceId p.trace .body, packetId := p.id, lineageId := p.lineageId,
        generation := p.generation, tick := p.physis.ticks.orElse (.nat 0), type := type,
        operator := operator, payload := (payload.orElse .emptyTable).deepCopy,
        truthStatus := known, cost := normal, time := .num (.int now),
        observer := false }).mpr ?_⟩
    exact ⟨EventType.parse_name type, resolve_value operator,
      parsed, ⟨.body, laned, rfl, rfl⟩, fresh, rfl, normalized, rfl, rfl, rfl, rfl, rfl⟩

theorem emit_state (now : Int) (draft : Draft) (event : Event)
    (emitted : (p.emit now draft).1 = .ok event) : (p.emit now draft).2 = p.push event := by
  unfold emit emitThen at *
  cases stored : p.storedEvent now draft with
  | error failure =>
    rw [stored] at emitted
    cases emitted
  | ok other =>
    rw [stored] at emitted
    cases emitted
    rfl

/-! ## What each writer plans -/

theorem Mutable.push {p : Packet} (mutable : p.Mutable) (event : Event) :
    (p.push event).Mutable :=
  ⟨mutable.notDead, mutable.notDying, mutable.notManifested, mutable.unended⟩

theorem Mutable.wake {p : Packet} (mutable : p.Mutable) : p.wake.Mutable := by
  obtain ⟨notDead, notDying, notManifested, unended⟩ := mutable
  refine ⟨?_, ?_, ?_, unended⟩ <;>
    · cases status : p.status <;> simp_all [Packet.wake, Status.wake]

@[simp] theorem resolve_resolvedValue (actor : Value) :
    Topology.resolve (resolvedValue actor) = Topology.resolve actor := by
  unfold resolvedValue
  cases found : Topology.resolve actor with
  | none => decide
  | some operator => simp

theorem tickPlan_eq_ok (operator inputRefs : Value) (draft : Draft) :
    p.tickPlan operator inputRefs = .ok draft ↔
      p.Mutable ∧ Topology.resolve operator = some p.operator
        ∧ (inputRefs = .nil ∨ inputRefs.isTable = true)
        ∧ draft = tickDraft p.operator inputRefs := by
  unfold tickPlan
  simp only [bind_eq_ok, assertMutable_eq_ok, exists_and_left, exists_const]
  cases resolved : Topology.resolve operator with
  | none => simp
  | some named =>
    simp only [bind_eq_ok, require_eq_ok, pure_eq_ok, exists_and_left, exists_const,
      Option.some.injEq]
    constructor
    · rintro ⟨mutable, here, refs, planned⟩
      exact ⟨mutable, here, refs, by rw [← planned, here]⟩
    · rintro ⟨mutable, here, refs, planned⟩
      exact ⟨mutable, here, refs, by rw [planned, here]⟩

theorem routePlan_facts (decision : Value) (target : Operator) (draft : Draft)
    (planned : p.routePlan decision = .ok (target, draft)) :
    p.Mutable ∧ p.operator ≠ .manifest ∧ target ≠ .flow
      ∧ Topology.isAdjacent p.operator target = true
      ∧ ∃ selected planId, p.routeCandidate decision p.operator target = .ok selected
        ∧ draft = routeDraft decision selected planId p.operator target := by
  unfold routePlan at planned
  simp only [bind_eq_ok, assertMutable_eq_ok, require_eq_ok, pure_eq_ok, Prod.mk.injEq,
    Prod.exists] at planned
  obtain ⟨-, mutable, -, -, source, target', ended, selected, chosen, planId, -, rfl, built⟩ :=
    planned
  unfold routeEnds at ended
  split at ended
  · simp only [bind_eq_ok, require_eq_ok, pure_eq_ok, Prod.mk.injEq] at ended
    obtain ⟨-, here, -, notManifest, -, notFlow, -, adjacent, rfl, rfl⟩ := ended
    rw [← here]
    exact ⟨mutable, notManifest, notFlow, adjacent, selected, planId, chosen, built.symm⟩
  · cases ended

theorem routePayload_ends (decision selected planId : Value) (source target : Operator) :
    (routePayload decision selected planId source target).get "from" = Topology.value source
      ∧ (routePayload decision selected planId source target).get "to"
        = Topology.value target := by
  constructor
  · exact get_record (by simp) (by simp)
  · exact get_record (by simp) (by simp)

theorem actorCopy_eq_ok (table : Value) (operation : String) (stored : Value)
    (copied : p.actorCopy table operation = .ok stored) :
    p.Mutable ∧ (∃ lease, Trace.currentVisitLease p.trace p.operator = some lease)
      ∧ table.deepCopy.setField "operator" (Topology.value p.operator) = .ok stored := by
  unfold actorCopy at copied
  simp only [bind_eq_ok, assertActorTick_eq_ok] at copied
  obtain ⟨actor, -, lease, ⟨mutable, here, leased⟩, assigned⟩ := copied
  refine ⟨mutable, ⟨lease, leased⟩, ?_⟩
  simpa [resolvedValue, here] using assigned

theorem actorCopy_operator (table : Value) (operation : String) (stored : Value)
    (copied : p.actorCopy table operation = .ok stored) :
    stored.get "operator" = Topology.value p.operator := by
  obtain ⟨-, -, assigned⟩ := actorCopy_eq_ok p table operation stored copied
  exact get_of_setField (by simp [Topology.value]) assigned

theorem crystalPlan_facts (record : Value) (plan : CrystalPlan)
    (planned : p.crystalPlan record = .ok plan) :
    p.Mutable ∧ p.operator = .encode
      ∧ (∃ lease, Trace.currentVisitLease p.trace p.operator = some lease)
      ∧ ∃ truthStatus payload cost, plan.draft
        = .own .crystallization (Topology.value .encode) truthStatus payload cost := by
  unfold crystalPlan at planned
  simp only [bind_eq_ok, assertActorTick_eq_ok, require_eq_ok, pure_eq_ok,
    resolve_value, Option.some.injEq] at planned
  obtain ⟨lease, ⟨mutable, here, leased⟩, loss, -, -, -, -, -, -, -, built⟩ := planned
  refine ⟨mutable, here.symm, ⟨lease, leased⟩, ?_⟩
  rw [← built]
  exact ⟨_, _, _, rfl⟩

theorem actorPlan_eq_ok (event : Value) (draft : Draft) (planned : p.actorPlan event = .ok draft) :
    p.Mutable ∧ Topology.resolve (event.get "operator") = some p.operator
      ∧ (∃ lease, Trace.currentVisitLease p.trace p.operator = some lease)
      ∧ (∃ type, EventType.parse (event.get "type") = some type
        ∧ type.permits (some p.operator) = true)
      ∧ draft = .ofTable event := by
  unfold actorPlan at planned
  simp only [bind_eq_ok, require_eq_ok] at planned
  obtain ⟨-, -, planned⟩ := planned
  cases typed : EventType.parse (event.get "type") with
  | none => simp [typed] at planned
  | some type =>
    simp only [typed, bind_eq_ok, require_eq_ok, assertActorTick_eq_ok, pure_eq_ok,
      resolve_resolvedValue] at planned
    obtain ⟨-, permitted, lease, ⟨mutable, here, leased⟩, built⟩ := planned
    rw [here] at permitted
    exact ⟨mutable, here, ⟨lease, leased⟩, ⟨type, rfl, permitted⟩, built.symm⟩

theorem tracePlan_facts (event : Value) (draft : Draft) (planned : p.tracePlan event = .ok draft) :
    p.actorPlan event = .ok draft
      ∧ ∃ type, EventType.parse (event.get "type") = some type ∧ type.dedicated = false := by
  unfold tracePlan at planned
  simp only [bind_eq_ok, require_eq_ok] at planned
  obtain ⟨-, -, planned⟩ := planned
  split at planned
  · cases planned
  · rename_i type typed
    simp only [bind_eq_ok, require_eq_ok] at planned
    obtain ⟨-, plain, planned⟩ := planned
    exact ⟨planned, type, typed, plain⟩

theorem repositoryPlan_facts (event : Value) (draft : Draft)
    (planned : p.repositoryPlan event = .ok draft) :
    p.actorPlan event = .ok draft
      ∧ ∃ type, EventType.parse (event.get "type") = some type
        ∧ type.repositoryBody = true := by
  unfold repositoryPlan at planned
  simp only [bind_eq_ok, require_eq_ok] at planned
  obtain ⟨-, -, planned⟩ := planned
  split at planned
  · cases planned
  · rename_i type typed
    simp only [bind_eq_ok, require_eq_ok] at planned
    obtain ⟨-, body, planned⟩ := planned
    exact ⟨planned, type, typed, body⟩

theorem normalizeTerminal_succeeds (input : Value) (kind : TerminalKind) (cause : DeathCause)
    (table : input.isTable = true) (kindField : input.get "kind" = .text kind.name)
    (causeField : input.get "cause" = .text cause.name)
    (operatorField : input.get "operator" = Topology.value p.operator)
    (lossField : input.get "loss_snapshot" = .nil)
    (allowed : kind = .internalDeath ∨ p.operator = .manifest) :
    (∃ terminal, p.normalizeTerminal input = .ok terminal) ↔
      ∃ loss, p.lossSnapshot = .ok loss := by
  have read : input.index "kind" = .ok (.text kind.name) := by
    rw [index_eq_get table, kindField]
  have kept : (Topology.value p.operator).orElse (Topology.value p.operator)
      = Topology.value p.operator := rfl
  have snapshot : p.lossSnapshotOr .nil = p.lossSnapshot := rfl
  unfold normalizeTerminal
  simp only [orElse_table table, read, causeField, operatorField, lossField, kept, snapshot, resolve_value,
    TerminalKind.parse_name, DeathCause.parse_name, bind_eq_ok, require_eq_ok, pure_eq_ok,
    Except.ok.injEq, exists_eq_left', allowed, true_and, exists_const]
  constructor
  · rintro ⟨terminal, loss, taken, -⟩
    exact ⟨loss, taken⟩
  · rintro ⟨loss, taken⟩
    exact ⟨_, loss, taken, rfl⟩

theorem normalizeTerminal_facts (input : Value) (terminal : Terminal)
    (normal : p.normalizeTerminal input = .ok terminal) :
    terminal.operator = p.operator
      ∧ (input.orElse .emptyTable).get "cause" = .text terminal.cause.name := by
  unfold normalizeTerminal at normal
  simp only [bind_eq_ok] at normal
  obtain ⟨declared, -, normal⟩ := normal
  split at normal
  · cases normal
  · split at normal
    · cases normal
    · rename_i cause named
      simp only [bind_eq_ok, require_eq_ok, pure_eq_ok] at normal
      obtain ⟨-, -, -, -, loss, -, built⟩ := normal
      rw [← built]
      exact ⟨rfl, eq_text_of_parse named⟩

theorem terminalPlan_eq_ok (input : Value) (terminal : Terminal) :
    p.terminalPlan input = .ok terminal ↔
      p.Mutable ∧ p.normalizeTerminal input = .ok terminal := by
  unfold terminalPlan
  simp only [bind_eq_ok, assertMutable_eq_ok, exists_and_left, exists_const]

theorem freezePlan_eq_ok (cause : Value) (terminal : Terminal) :
    p.freezePlan cause = .ok terminal ↔
      p.status = .dying ∧ p.terminal = some terminal ∧ cause = .text terminal.cause.name := by
  unfold freezePlan
  by_cases dying : p.status = .dying
  · rw [if_neg (by rw [dying]; decide), if_neg (by simp [dying])]
    cases ended : p.terminal with
    | none => simp
    | some recorded =>
      by_cases same : cause = .text recorded.cause.name
      · simp only [if_pos same, Except.ok.injEq, Option.some.injEq]
        constructor
        · rintro rfl
          exact ⟨dying, rfl, same⟩
        · rintro ⟨-, found, -⟩
          exact found
      · simp only [if_neg same, reduceCtorEq, Option.some.injEq, false_iff]
        rintro ⟨-, rfl, equal⟩
        exact same equal
  · by_cases dead : p.status = .dead
    · simp [dead]
    · simp [dead, dying]

theorem manifestPlan_facts (payload residue : Value) (plan : ManifestPlan)
    (planned : p.manifestPlan payload residue = .ok plan) :
    p.Mutable ∧ p.operator = .manifest ∧ plan.payload = (payload.orElse .emptyTable).deepCopy := by
  unfold manifestPlan at planned
  simp only [bind_eq_ok, assertMutable_eq_ok, require_eq_ok] at planned
  obtain ⟨-, mutable, -, here, declared, -, planned⟩ := planned
  refine ⟨mutable, here, ?_⟩
  split at planned
  · cases planned
  · split at planned
    · cases planned
    · simp only [bind_eq_ok, pure_eq_ok] at planned
      obtain ⟨completed, -, rfl⟩ := planned
      rfl

theorem deathPlan_facts (cause residue : Value) (plan : DeathPlan)
    (planned : p.deathPlan cause residue = .ok plan) :
    p.Mutable ∧ cause = .text plan.cause.name
      ∧ p.normalizeTerminal (p.deathTerminalInput cause) = .ok plan.terminal := by
  unfold deathPlan at planned
  simp only [bind_eq_ok, assertMutable_eq_ok] at planned
  obtain ⟨-, mutable, planned⟩ := planned
  split at planned
  · cases planned
  · rename_i named parsed
    simp only [bind_eq_ok, pure_eq_ok] at planned
    obtain ⟨terminal, normal, built⟩ := planned
    rw [← built]
    exact ⟨mutable, eq_text_of_parse parsed, normal⟩

end Packet

end Proc17.Core
