import Proc17.Runtime.Finality

/-!
# What every writer keeps

A relation between two Packets that composes, that a write beside the field and the trace
keeps, and that appending an event of a plain type keeps, holds over every writer of the
Packet and over every mutator of its budget and loss.
-/

namespace Proc17.Runtime

open Lua Core Packet

def Unused (p : Packet) (event : Event) : Prop :=
  ∀ earlier ∈ p.trace, Value.eq earlier.id event.id = false

structure Tracked (plain : EventType → Prop) (R : Packet → Packet → Prop) : Prop where
  refl : ∀ p, R p p
  trans : ∀ {p q r}, R p q → R q r → R p r
  beside : ∀ {p q : Packet}, q.field = p.field →
    q.revisions.potential = p.revisions.potential → q.trace = p.trace → R p q
  push : ∀ {p : Packet} {event : Event}, plain event.type → Unused p event → R p (p.push event)

namespace Tracked

variable {plain : EventType → Prop} {R : Packet → Packet → Prop}

variable (p : Packet) {type : EventType}

section
variable (tracked : Tracked plain R)
include tracked

theorem transact {α β : Type} {p : Packet} (plan : Except Failure β)
    (commit : β → Reply Packet α) (each : ∀ b, plan = .ok b → R p (commit b).2) :
    R p (Lua.transact plan commit p).2 := by
  cases plan with
  | error failure => exact tracked.refl p
  | ok b => exact each b rfl

theorem andThen {α β : Type} {p : Packet} {reply : Reply Packet α}
    {next : α → Packet → Reply Packet β} (first : R p reply.2)
    (each : ∀ a, R reply.2 (next a reply.2).2) : R p (reply.andThen next).2 := by
  obtain ⟨result, q⟩ := reply
  cases result with
  | error failure => exact first
  | ok a => exact tracked.trans first (each a)

variable (now : Int)

theorem emitThen {p : Packet} (draft : Draft) (write : Event → Packet → Packet)
    (typed : ∀ type, EventType.parse draft.type = some type → plain type)
    (each : ∀ event, R (p.push event) (write event (p.push event))) :
    R p (p.emitThen now draft write).2 := by
  unfold Packet.emitThen
  cases stored : p.storedEvent now draft with
  | error failure => exact tracked.refl p
  | ok event =>
    have facts := (storedEvent_eq_ok p now draft event).mp stored
    exact tracked.trans (tracked.push (typed event.type facts.type) facts.fresh) (each event)

theorem emit (draft : Draft) (typed : ∀ type, EventType.parse draft.type = some type → plain type) :
    R p (p.emit now draft).2 :=
  tracked.emitThen now draft _ typed fun _ => tracked.refl _

omit tracked in
theorem own (ordinary : plain type) (operator truthStatus payload cost : Value) :
    ∀ parsed, EventType.parse (Draft.own type operator truthStatus payload cost).type = some parsed
      → plain parsed := by
  intro parsed typed
  simp only [Draft.own, EventType.parse_name, Option.some.injEq] at typed
  exact typed ▸ ordinary

theorem actor {p : Packet} {event : Value} {draft : Draft} (write : Event → Packet → Packet)
    (planned : p.actorPlan event = .ok draft)
    (typed : ∀ type, EventType.parse (event.get "type") = some type → plain type)
    (each : ∀ event, R (p.push event) (write event (p.push event))) :
    R p (p.emitThen now draft write).2 := by
  obtain ⟨-, -, -, -, rfl⟩ := actorPlan_eq_ok p event draft planned
  exact tracked.emitThen now _ write typed each

theorem freeze (cause residue : Value) :
    R p (p.freeze now cause residue).2 :=
  tracked.transact _ _ fun _ _ => tracked.beside rfl rfl rfl

theorem appendTerminal (terminal : Terminal) (ends : plain .terminal) :
    R p (p.appendTerminal now terminal).2 :=
  tracked.emitThen now _ _ (own ends _ _ _ _) fun _ => tracked.beside rfl rfl rfl

theorem beginTerminal (input : Value) (ends : plain .terminal) :
    R p (p.beginTerminal now input).2 :=
  tracked.transact _ _ fun terminal _ => tracked.appendTerminal p now terminal ends

theorem closeWith {p : Packet} (event : Event) (now : Int) (cause : DeathCause) (residue : Value)
    {ended : Reply Packet Event} (first : R p ended.2) :
    R p (Packet.closeWith event now cause residue ended).2 := by
  refine tracked.andThen first fun terminalEvent => ?_
  exact tracked.andThen (tracked.freeze _ now _ residue) fun _ => tracked.refl _

end

def Ordinary (plain : EventType → Prop) : Prop :=
  plain .tensionMeasure ∧ ∀ type : EventType, type.dedicated = true → plain type

/-- A call that hands only plain events to `append_trace`. -/
def Hands (plain : EventType → Prop) : Call → Prop
  | .appendTrace event => ∀ type, EventType.parse (event.get "type") = some type → plain type
  | _ => True

theorem dedicated_of_repositoryBody (body : type.repositoryBody = true) :
    type.dedicated = true := by
  cases type <;> first | rfl | cases body

theorem dedicated_of_qaBody (body : type.qaBody = true) :
    type.dedicated = true := by
  cases type <;> first | rfl | cases body

section

variable (tracked : Tracked plain R)
include tracked

theorem appendRepositoryEvent
    (dedicated : ∀ type : EventType, type.dedicated = true → plain type)
    (p : Packet) (now : Int) (event : Value) : R p (p.appendRepositoryEvent now event).2 := by
  refine tracked.transact _ _ fun draft planned => ?_
  obtain ⟨acting, type, typed, body⟩ := repositoryPlan_facts p event draft planned
  refine tracked.actor now _ acting ?_ fun _ => tracked.refl _
  intro other parsed
  rw [typed] at parsed
  cases parsed
  exact dedicated type (dedicated_of_repositoryBody body)

theorem appendQaEvent
    (dedicated : ∀ type : EventType, type.dedicated = true → plain type) (S : Schemas)
    (p : Packet) (now : Int) (event : Value) : R p (p.appendQaEvent S now event).2 := by
  refine tracked.transact _ _ fun draft planned => ?_
  unfold Packet.qaPlan at planned
  simp only [bind_eq_ok] at planned
  obtain ⟨-, -, -, -, planned⟩ := planned
  split at planned
  · cases planned
  · rename_i type typed
    simp only [bind_eq_ok, require_eq_ok] at planned
    obtain ⟨-, body, -, -, -, -, -, -, copied, -, planned⟩ := planned
    refine tracked.actor now _ planned ?_ fun _ => tracked.beside rfl rfl rfl
    intro other parsed
    rw [(sealedEvent_get _ _ _ _).1, typed] at parsed
    cases parsed
    exact dedicated type (dedicated_of_qaBody body)

theorem appendUnitDissolution (dissolves : plain .unitDissolution)
    (S : Schemas) (p : Packet) (now : Int) (event : Value) :
    R p (p.appendUnitDissolution S now event).2 := by
  refine tracked.transact _ _ fun draft planned => ?_
  unfold Packet.dissolutionPlan at planned
  simp only [bind_eq_ok] at planned
  obtain ⟨-, -, -, -, -, -, -, -, copied, -, planned⟩ := planned
  refine tracked.actor now _ planned ?_ fun _ => tracked.refl _
  intro other parsed
  rw [(sealedEvent_get _ _ _ _).1] at parsed
  have named : EventType.parse (.text "unit_dissolution") = some .unitDissolution :=
    EventType.parse_name .unitDissolution
  rw [named] at parsed
  cases parsed
  exact dissolves

theorem step (ordinary : Ordinary plain) (S : Schemas) (p : Packet)
    (s : Step) (hands : Hands plain s.call) : R p (Packet.step S p s).2 := by
  obtain ⟨measures, dedicated⟩ := ordinary
  obtain ⟨call, clock⟩ := s
  cases call with
  | beginTick operator inputRefs =>
    show R p (p.beginTick (clock 0) operator inputRefs).2
    refine tracked.transact _ _ fun draft planned => ?_
    obtain ⟨-, -, -, rfl⟩ := (tickPlan_eq_ok p operator inputRefs draft).mp planned
    have woken : R p p.wake := tracked.beside rfl rfl rfl
    exact tracked.trans woken
      (tracked.emit _ (clock 0) _ (own (dedicated _ rfl) _ _ _ _))
  | commitTransition decision =>
    show R p (p.commitTransition (clock 0) decision).2
    refine tracked.transact _ _ fun plan planned => ?_
    obtain ⟨target, draft⟩ := plan
    obtain ⟨-, -, -, -, selected, planId, -, rfl⟩ :=
      routePlan_facts p decision target draft planned
    exact tracked.emitThen (clock 0) _ _ (own (dedicated _ rfl) _ _ _ _)
      fun _ => tracked.beside rfl rfl rfl
  | appendChaos fragment =>
    show R p (p.appendChaos (clock 0) fragment).2
    refine tracked.transact _ _ fun stored _ => ?_
    have kept : R p (p.withFragment stored) := tracked.beside rfl rfl rfl
    exact tracked.trans kept
      (tracked.emit _ (clock 0) _ (own (dedicated _ rfl) _ _ _ _))
  | crystallize record =>
    show R p (p.crystallize (clock 0) record).2
    refine tracked.transact _ _ fun plan planned => ?_
    obtain ⟨-, -, -, truthStatus, payload, cost, draft⟩ :=
      crystalPlan_facts p record plan planned
    refine tracked.emitThen (clock 0) _ _ ?_ fun _ => tracked.beside rfl rfl rfl
    rw [draft]
    exact own (dedicated _ rfl) _ _ _ _
  | measureTension record =>
    show R p (p.measureTension (clock 0) record).2
    refine tracked.transact _ _ fun stored _ => ?_
    have kept : R p (p.withTension (record.orElse .emptyTable)) := tracked.beside rfl rfl rfl
    exact tracked.trans kept (tracked.emit _ (clock 0) _ (own measures _ _ _ _))
  | appendTrace event =>
    show R p (p.appendTrace (clock 0) event).2
    refine tracked.transact _ _ fun draft planned => ?_
    obtain ⟨acting, -⟩ := tracePlan_facts p event draft planned
    exact tracked.actor (clock 0) _ acting hands fun _ => tracked.refl _
  | appendRepositoryEvent event =>
    exact tracked.appendRepositoryEvent dedicated p (clock 0) event
  | appendQaEvent event => exact tracked.appendQaEvent dedicated S p (clock 0) event
  | appendUnitDissolution event =>
    exact tracked.appendUnitDissolution (dedicated _ rfl) S p (clock 0) event
  | beginTerminal input => exact tracked.beginTerminal p (clock 0) input (dedicated _ rfl)
  | freeze cause residue => exact tracked.freeze p (clock 0) cause residue
  | manifestPacket payload residue =>
    show R p (p.manifestPacket clock payload residue).2
    refine tracked.transact _ _ fun plan _ => ?_
    have kept : R p (p.withManifest plan.payload) := tracked.beside rfl rfl rfl
    refine tracked.andThen (tracked.trans kept
      (tracked.emit _ (clock 0) _ (own (dedicated _ rfl) _ _ _ _))) fun event => ?_
    exact tracked.closeWith event _ _ _ (tracked.beginTerminal _ _ _ (dedicated _ rfl))
  | die cause residue =>
    show R p (p.die clock cause residue).2
    refine tracked.transact _ _ fun plan _ => ?_
    refine tracked.andThen
      (tracked.emit p (clock 0) _ (own (dedicated _ rfl) _ _ _ _)) fun event => ?_
    exact tracked.closeWith event _ _ _ (tracked.appendTerminal _ _ _ (dedicated _ rfl))

end

/-! ## Budget and loss -/

section
variable (tracked : Tracked plain R)
include tracked

theorem budgetInit : R p (Budget.init p).2 :=
  tracked.transact _ _ fun _ _ => tracked.beside rfl rfl rfl

theorem budgetCharge (input : Value) : R p (Budget.charge p input).2 := by
  refine tracked.transact _ _ fun charge _ => ?_
  split
  · exact tracked.transact _ _ fun _ _ => tracked.refl p
  · exact tracked.beside rfl rfl rfl

theorem onTension {α : Type} (reply : Reply Loss.Tension α) :
    R p (Loss.onTension p reply).2 := tracked.beside rfl rfl rfl

theorem lossInit (options : Value) : R p (Loss.init p options).2 :=
  tracked.transact _ _ fun _ _ => tracked.onTension p _

theorem lossApply (input : Value) : R p (Loss.apply p input).2 := by
  refine tracked.transact _ _ fun application _ => ?_
  refine tracked.andThen (tracked.onTension p _) fun amount => ?_
  refine tracked.andThen ?_ fun _ => tracked.refl _
  have counted (q : Packet) : R q (Loss.countLoss q) := tracked.beside rfl rfl rfl
  exact tracked.trans (counted _) (tracked.onTension _ _)

end

end Tracked

end Proc17.Runtime
