import Proc17.Core.Life.Identity
import Proc17.Runtime.Field.Representation

/-!
# What every deed keeps

A relation that every writer of the Packet keeps is kept by the mutators of the field too,
when it survives a write beside the raw snapshot and the trace; only taking a snapshot is left.
-/

namespace Proc17.Runtime.Field

open Lua Core List

/-! ## Writers that record their event -/

theorem fieldEvent_type (type : EventType) (actor : Operator) (payload : Value) :
    (fieldEvent type actor payload).get "type" = .text type.name :=
  Value.get_record (by simp) List.mem_cons_self

theorem recordEvent_cases {α : Type} (written : Packet) (now : Int) (type : EventType)
    (actor : Operator) (payload : Value) (undo : Packet → Packet)
    (settle : Event → Packet → Reply Packet α) (given : payload.orElse .emptyTable = payload) :
    (∃ err, recordEvent written now (fieldEvent type actor payload) undo settle
        = (.error (.refused err), undo written))
      ∨ (∃ failure, recordEvent written now (fieldEvent type actor payload) undo settle
        = (.error failure, written))
      ∨ ∃ event, event.type = type ∧ Unused written event ∧ event.payload = payload.deepCopy
        ∧ recordEvent written now (fieldEvent type actor payload) undo settle
          = settle event (written.push event) := by
  unfold recordEvent Packet.appendTrace
  cases planned : written.tracePlan (fieldEvent type actor payload) with
  | error failure =>
    cases failure with
    | refused err => exact .inl ⟨err, rfl⟩
    | _ => exact .inr (.inl ⟨_, rfl⟩)
  | ok draft =>
    obtain ⟨acting, -⟩ := Packet.tracePlan_facts written _ draft planned
    obtain ⟨-, -, -, -, rfl⟩ := Packet.actorPlan_eq_ok written _ draft acting
    simp only [transact_ok, Packet.emit, Packet.emitThen]
    cases stored : written.storedEvent now
        (.ofTable (fieldEvent type actor payload)) with
    | error failure =>
      cases failure with
      | refused err => exact .inl ⟨err, rfl⟩
      | _ => exact .inr (.inl ⟨_, rfl⟩)
    | ok event =>
      have facts := (Packet.storedEvent_eq_ok written now _ event).mp stored
      refine .inr (.inr ⟨event, ?_, facts.fresh, ?_, rfl⟩)
      · have typed := facts.type
        rw [Draft.ofTable, fieldEvent_type, EventType.parse_name] at typed
        exact (Option.some.inj typed).symm
      · rw [facts.payload]
        show (((fieldEvent type actor payload).get "payload").orElse
          .emptyTable).deepCopy = _
        rw [show (fieldEvent type actor payload).get "payload" = payload from
          Value.get_record (by simp) (by simp), given]

structure TrackedField (plain : EventType → Prop) (R : Packet → Packet → Prop) : Prop
    extends Tracked plain R where
  aside : ∀ {p q : Packet}, q.field.raw = p.field.raw → q.trace = p.trace → R p q

namespace TrackedField

variable {plain : EventType → Prop} {R : Packet → Packet → Prop}

section
variable (tracked : TrackedField plain R)
include tracked

theorem recordEvent {α : Type} {p written : Packet} {now : Int} {type : EventType}
    {actor : Operator} {payload : List (String × Value)} {undo : Packet → Packet}
    {settle : Event → Packet → Reply Packet α} (first : R p written) (ordinary : plain type)
    (undone : R p (undo written)) (settled : ∀ event q, R q (settle event q).2) :
    R p (Field.recordEvent written now (fieldEvent type actor (.record payload)) undo settle).2 := by
  rcases recordEvent_cases written now type actor (.record payload) undo settle rfl with
    ⟨err, result⟩ | ⟨failure, result⟩ | ⟨event, typed, unused, -, result⟩
  · rw [result]
    exact undone
  · rw [result]
    exact first
  · rw [result]
    have pushed : R p (written.push event) :=
      tracked.trans first (tracked.push (by rw [typed]; exact ordinary) unused)
    exact tracked.trans pushed (settled event _)

section

variable (mutates : plain .relationMutation)
include mutates

theorem activate (p : Packet) (now : Int)
    (actor relationIds source : Value) :
    R p (activateRelations p now actor relationIds source).2 := by
  unfold activateRelations
  refine tracked.transact _ _ fun plan _ => ?_
  split
  · exact tracked.refl p
  · exact tracked.recordEvent (tracked.aside rfl rfl) mutates (tracked.aside rfl rfl)
      fun event q => tracked.aside rfl rfl

theorem weaken (p : Packet) (now : Int)
    (actor relationId source : Value) :
    R p (weakenRelation p now actor relationId source).2 := by
  unfold weakenRelation
  refine tracked.transact _ _ fun plan _ => ?_
  split
  · exact tracked.refl p
  · exact tracked.recordEvent (tracked.aside rfl rfl) mutates (tracked.aside rfl rfl)
      fun event q => tracked.aside rfl rfl

theorem releaseRaw (p : Packet) (now : Int)
    (actor input : Value) : R p (releaseRawRelation p now actor input).2 := by
  unfold releaseRawRelation
  refine tracked.transact _ _ fun plan _ => ?_
  exact tracked.recordEvent (tracked.refl p) mutates (tracked.refl p) fun event q => tracked.refl q

end

theorem identityMap (maps : plain .identityMap) (p : Packet) (now : Int) (actor input : Value) :
    R p (recordIdentityMap p now actor input).2 := by
  unfold recordIdentityMap
  refine tracked.transact _ _ fun plan _ => ?_
  exact tracked.recordEvent (tracked.aside rfl rfl) maps (tracked.aside rfl rfl)
    fun event q => tracked.aside rfl rfl

theorem snapshot (blind : ∀ {p q : Packet}, q.trace = p.trace → R p q)
    (captures : plain .relationSnapshot) (p : Packet) (now : Int) (actor input : Value) :
    R p (snapshotRawRelations p now actor input).2 := by
  unfold snapshotRawRelations
  refine tracked.transact _ _ fun plan _ => ?_
  exact tracked.recordEvent (blind rfl) captures (blind rfl) fun event q => blind rfl

theorem addUnit (p : Packet) (actor input : Value) : R p (Field.addUnit p actor input).2 :=
  tracked.transact _ _ fun _ _ => tracked.aside rfl rfl

theorem setActivation (p : Packet) (actor id activation source : Value) :
    R p (Field.setActivation p actor id activation source).2 := by
  refine tracked.transact _ _ fun plan _ => ?_
  split
  · exact tracked.refl p
  · exact tracked.aside rfl rfl

theorem prepare (S : Schemas) (l : Living) (actor input : Value) :
    R l.packet (prepareInheritedFormRelease S l actor input).2.packet := by
  exact transact_state (motive := fun m : Living => R l.packet m.packet) (tracked.refl _)
    fun plan _ => tracked.refl _

theorem commit (S : Schemas) (l : Living) (actor : Value) (place : Nat) (eventId : Value) :
    R l.packet (commitInheritedFormRelease S l actor place eventId).2.packet := by
  unfold commitInheritedFormRelease
  cases takePlan l actor place with
  | error failure => exact tracked.refl _
  | ok plan =>
    rw [transact_ok]
    cases releaseCommit S l.packet plan eventId with
    | error failure => exact tracked.refl _
    | ok commit => exact tracked.aside rfl rfl

end

structure Ordinary (plain : EventType → Prop) : Prop where
  packet : Tracked.Ordinary plain
  mutates : plain .relationMutation
  maps : plain .identityMap

/-- A deed that hands only plain events to `append_trace`. -/
def Hands (plain : EventType → Prop) : Deed → Prop
  | .packet s => Tracked.Hands plain s.call
  | .mutate _ _ => True

theorem deed (tracked : TrackedField plain R) (ordinary : Ordinary plain) (S : Schemas)
    (l : Living) (d : Deed) (hands : Hands plain d)
    (snapshot : ∀ now actor input, d = .mutate now (.snapshotRawRelations actor input) →
      R l.packet (snapshotRawRelations l.packet now actor input).2) :
    R l.packet ((lifeMachine S).after l d).packet := by
  cases d with
  | packet s => exact tracked.step ordinary.packet S l.packet s hands
  | mutate now mutation =>
    cases mutation with
    | budgetInit => exact tracked.budgetInit l.packet
    | budgetCharge input => exact tracked.budgetCharge l.packet input
    | lossInit options => exact tracked.lossInit l.packet options
    | lossApply input => exact tracked.lossApply l.packet input
    | addUnit actor input => exact tracked.addUnit l.packet actor input
    | setActivation actor id activation source =>
      exact tracked.setActivation l.packet actor id activation source
    | prepareInheritedFormRelease actor input => exact tracked.prepare S l actor input
    | commitInheritedFormRelease actor place eventId =>
      exact tracked.commit S l actor place eventId
    | snapshotRawRelations actor input => exact snapshot now actor input rfl
    | activateRelations actor relationIds source =>
      exact tracked.activate ordinary.mutates l.packet now actor relationIds source
    | weakenRelation actor relationId source =>
      exact tracked.weaken ordinary.mutates l.packet now actor relationId source
    | releaseRawRelation actor input =>
      exact tracked.releaseRaw ordinary.mutates l.packet now actor input
    | recordIdentityMap actor input =>
      exact tracked.identityMap ordinary.maps l.packet now actor input

end TrackedField

/-! ## The trace of a life -/

/-- The trace grew at its end, each new event under an id that no event before it has. -/
def Extended (p q : Packet) : Prop :=
  ∃ events, q.trace = p.trace ++ events ∧ Packet.DistinctIds events
    ∧ ∀ old ∈ p.trace, ∀ event ∈ events, Value.eq old.id event.id = false

theorem Extended.of_same (trace : q.trace = p.trace) : Extended p q :=
  ⟨[], by rw [trace, append_nil], .nil, by simp⟩

theorem Extended.trans (first : Extended p q) (second : Extended q r) :
    Extended p r := by
  obtain ⟨events, grew, apart, fresh⟩ := first
  obtain ⟨later, more, apart', fresh'⟩ := second
  rw [grew] at more fresh'
  refine ⟨events ++ later, by rw [more, append_assoc], pairwise_append.mpr ⟨apart, apart',
    fun old member => fresh' old (mem_append_right _ member)⟩, fun old there event member => ?_⟩
  rcases mem_append.mp member with early | late
  · exact fresh old there event early
  · exact fresh' old (mem_append_left _ there) event late

theorem Extended.tracked : TrackedField (fun _ => True) Extended where
  refl _ := of_same rfl
  trans := trans
  beside _ _ := of_same
  push _ unused := ⟨[_], rfl, pairwise_singleton _ _,
    fun old there _ member => mem_singleton.mp member ▸ unused old there⟩
  aside _ := of_same

theorem deed_extended (S : Schemas) (l : Living) (d : Deed) :
    Extended l.packet ((lifeMachine S).after l d).packet := by
  refine Extended.tracked.deed ⟨⟨trivial, fun _ _ => trivial⟩, trivial, trivial⟩ S l d ?_
    fun now actor input _ => Extended.tracked.snapshot Extended.of_same trivial _ now actor input
  cases d with
  | packet s =>
    obtain ⟨call, clock⟩ := s
    cases call <;> simp [TrackedField.Hands, Tracked.Hands]
  | mutate => trivial

theorem run_extended (S : Schemas) (l : Living) (deeds : List Deed) :
    Extended l.packet ((lifeMachine S).run l deeds).packet :=
  (lifeMachine S).run_invariant (fun m => Extended l.packet m.packet)
    (fun m d grew => grew.trans (deed_extended S m d)) deeds l (Extended.tracked.refl _)

end Proc17.Runtime.Field
