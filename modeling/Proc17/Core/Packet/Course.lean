import Proc17.Core.Packet.Machine

/-!
# The course of a Packet life

What a call can do to a Packet, whether it succeeds or fails: a sequence of
single changes, each with the guard under which it is made.  Invariants of whole
lives are proved on single changes and carried along calls and runs.
-/

namespace Proc17.Core

open Lua List

def EventType.acted : EventType → Bool
  | .birth | .operatorTick | .route | .manifest | .death | .terminal => false
  | _ => true

namespace Packet

/-! ## Changes -/

/-- Two Packets at the same point of a life: only fields that no trace event and
no guard depends on differ, or the Packet woke up. -/
structure SameCourse (p q : Packet) : Prop where
  trace : q.trace = p.trace
  operator : q.operator = p.operator
  terminal : q.terminal = p.terminal
  death : q.death = p.death
  status : q.status = p.status ∨ q.status = p.status.wake

/-- One write to a Packet, with the events it appends.  `supplied` is the event
id the caller of the writer chose. -/
inductive Change (supplied : Value) (p : Packet) : List Event → Packet → Prop where
  | edit (q : Packet) (mutable : p.Mutable) (same : SameCourse p q) : Change supplied p [] q
  | tick (now : Int) (inputRefs : Value) (event : Event) (mutable : p.Mutable)
      (stored : p.storedEvent now (tickDraft p.operator inputRefs) = .ok event) :
      Change supplied p [event] (p.push event)
  | route (now : Int) (decision : Value) (target : Operator) (draft : Draft) (event : Event)
      (planned : p.routePlan decision = .ok (target, draft))
      (stored : p.storedEvent now draft = .ok event) :
      Change supplied p [event] ((p.push event).routed target)
  | act (now : Int) (draft : Draft) (lease : Trace.Lease) (event : Event) (mutable : p.Mutable)
      (leased : Trace.currentVisitLease p.trace p.operator = some lease)
      (here : event.operator = p.operator) (acted : event.type.acted = true)
      (permitted : event.type.permits (some event.operator) = true)
      (identified : draft.id = .nil ∨ draft.id = supplied)
      (stored : p.storedEvent now draft = .ok event) :
      Change supplied p [event] (p.push event)
  | manifest (now : Int) (plan : ManifestPlan) (event : Event) (mutable : p.Mutable)
      (here : p.operator = .manifest)
      (stored : p.storedEvent now (manifestDraft plan) = .ok event) :
      Change supplied p [event] (p.push event)
  | death (now : Int) (plan : DeathPlan) (event : Event) (mutable : p.Mutable)
      (stored : p.storedEvent now (p.deathDraft plan) = .ok event) :
      Change supplied p [event] (p.push event)
  | terminal (now : Int) (terminal : Terminal) (event : Event) (mutable : p.Mutable)
      (here : terminal.operator = p.operator)
      (stored : p.storedEvent now (terminalDraft terminal) = .ok event) :
      Change supplied p [event] (storeTerminal terminal event (p.push event))
  | freeze (now : Int) (cause residue : Value) (terminal : Terminal)
      (planned : p.freezePlan cause = .ok terminal) :
      Change supplied p [] (p.frozen terminal now residue)

inductive Course (supplied : Value) (p : Packet) : List Event → Packet → Prop where
  | stay : Course supplied p [] p
  | go {events later : List Event} {q r : Packet} (first : Course supplied p events q)
      (next : Change supplied q later r) : Course supplied p (events ++ later) r

variable {events later : List Event} {p q r : Packet} {m n : Nat} {supplied : Value}

theorem Change.trace (change : Change supplied p events q) :
    q.trace = p.trace ++ events := by
  cases change with
  | edit q mutable same => rw [same.trace, append_nil]
  | freeze now cause residue terminal planned => exact (append_nil _).symm
  | _ => rfl

theorem Change.appended (change : Change supplied p events q) :
    events = [] ∨ ∃ now draft event, events = [event] ∧ p.storedEvent now draft = .ok event
      ∧ (draft.id = .nil ∨ draft.id = supplied) := by
  cases change with
  | edit | freeze => exact .inl rfl
  | tick now inputRefs event mutable stored | manifest now plan event mutable here stored
  | death now plan event mutable stored | terminal now terminal event mutable here stored =>
    exact .inr ⟨now, _, event, rfl, stored, .inl rfl⟩
  | route now decision target draft event planned stored =>
    obtain ⟨-, -, -, -, selected, planId, -, rfl⟩ :=
      routePlan_facts p decision target draft planned
    exact .inr ⟨now, _, event, rfl, stored, .inl rfl⟩
  | act now draft lease event mutable leased here acted permitted identified stored =>
    exact .inr ⟨now, draft, event, rfl, stored, identified⟩

theorem Course.trace (course : Course supplied p events q) :
    q.trace = p.trace ++ events := by
  induction course with
  | stay => exact (append_nil _).symm
  | go first next ih => rw [next.trace, ih, append_assoc]

/-- At most `n` events away. -/
def Reaches (supplied : Value) (n : Nat) (p q : Packet) : Prop :=
  ∃ events, Course supplied p events q ∧ events.length ≤ n

theorem Reaches.stay (n : Nat) (p : Packet) : Reaches supplied n p p :=
  ⟨[], .stay, Nat.zero_le n⟩

theorem Reaches.go (first : Reaches supplied n p q) (next : Change supplied q later r)
    (bound : n + later.length ≤ m) : Reaches supplied m p r := by
  obtain ⟨events, course, short⟩ := first
  refine ⟨events ++ later, course.go next, ?_⟩
  rw [length_append]
  omega

theorem Reaches.mono (reached : Reaches supplied n p q) (le : n ≤ m) : Reaches supplied m p q := by
  obtain ⟨events, course, short⟩ := reached
  exact ⟨events, course, Nat.le_trans short le⟩

theorem Reaches.single (change : Change supplied p later q) :
    Reaches supplied later.length p q := by
  exact (Reaches.stay 0 p).go change (by omega)

theorem Course.trans (first : Course supplied p events q) (second : Course supplied q later r) :
    Course supplied p (events ++ later) r := by
  induction second with
  | stay =>
    rw [append_nil]
    exact first
  | go _ next ih =>
    rw [← append_assoc]
    exact ih.go next

theorem Reaches.trans {k : Nat} (first : Reaches supplied n p q) (second : Reaches supplied m q r)
    (bound : n + m ≤ k) : Reaches supplied k p r := by
  obtain ⟨events, course, short⟩ := first
  obtain ⟨later, rest, shortRest⟩ := second
  refine ⟨events ++ later, course.trans rest, ?_⟩
  rw [length_append]
  omega

theorem Reaches.transact {α β : Type} (plan : Except Failure β) (commit : β → Reply Packet α)
    (committed : ∀ b, plan = .ok b → Reaches supplied n p (commit b).2) :
    Reaches supplied n p (transact plan commit p).2 := by
  exact transact_state (motive := Reaches supplied n p) (.stay n p) committed

theorem Reaches.emitThen {o : Packet} (now : Int) (draft : Draft) (write : Event → Packet → Packet)
    (before : Reaches supplied n o p) (written : ∀ event, p.storedEvent now draft = .ok event →
      Reaches supplied n o (write event (p.push event))) :
    Reaches supplied n o (p.emitThen now draft write).2 := by
  unfold Packet.emitThen
  cases stored : p.storedEvent now draft with
  | error failure => exact before
  | ok event => exact written event stored

theorem Reaches.andThen {α β : Type} (reply : Reply Packet α) (next : α → Packet → Reply Packet β)
    (le : n ≤ m) (first : Reaches supplied n p reply.2)
    (continued : ∀ a, reply.1 = .ok a → Reaches supplied m p (next a reply.2).2) :
    Reaches supplied m p (reply.andThen next).2 := by
  obtain ⟨result, q⟩ := reply
  cases result with
  | error failure => exact first.mono le
  | ok a => exact continued a rfl

/-! ## What each writer does -/

theorem SameCourse.mutable {p q : Packet} (same : SameCourse p q) (mutable : p.Mutable) :
    q.Mutable := by
  have woke := mutable.wake
  rcases same.status with kept | waked
  · exact ⟨kept ▸ mutable.notDead, kept ▸ mutable.notDying, kept ▸ mutable.notManifested,
      same.terminal.trans mutable.unended⟩
  · exact ⟨waked ▸ woke.notDead, waked ▸ woke.notDying, waked ▸ woke.notManifested,
      same.terminal.trans mutable.unended⟩

section

variable (p : Packet)

section

variable (now : Int)

theorem beginTick_reaches (operator inputRefs : Value) :
    Reaches supplied 1 p (p.beginTick now operator inputRefs).2 := by
  refine Reaches.transact _ _ fun draft planned => ?_
  obtain ⟨mutable, -, -, rfl⟩ := (tickPlan_eq_ok p operator inputRefs draft).mp planned
  have woke : Change supplied p [] p.wake :=
    .edit p.wake mutable ⟨rfl, rfl, rfl, rfl, .inr rfl⟩
  refine Reaches.emitThen now _ _ ((Reaches.single woke).mono (by simp)) fun event stored => ?_
  have tick : Change supplied p.wake [event] (p.wake.push event) :=
    .tick now inputRefs event mutable.wake stored
  exact (Reaches.single woke).go tick (by simp)

theorem commitTransition_reaches (decision : Value) :
    Reaches supplied 1 p (p.commitTransition now decision).2 := by
  refine Reaches.transact _ _ fun plan planned => ?_
  obtain ⟨target, draft⟩ := plan
  refine Reaches.emitThen now draft _ (.stay 1 p) fun event stored => ?_
  exact Reaches.single (.route now decision target draft event planned stored)

section

variable (type : EventType)

theorem act_own (truthStatus payload cost : Value)
    (event : Event) (mutable : p.Mutable)
    (visit : ∃ lease, Trace.currentVisitLease p.trace p.operator = some lease)
    (acted : type.acted = true) (permitted : type.permits (some p.operator) = true)
    (stored : p.storedEvent now
      (.own type (Topology.value p.operator) truthStatus payload cost) = .ok event) :
    Change supplied p [event] (p.push event) := by
  obtain ⟨lease, leased⟩ := visit
  obtain ⟨typed, here, -⟩ := storedEvent_own p now type p.operator _ _ _ event stored
  exact .act now _ lease event mutable leased here (by rw [typed]; exact acted)
    (by rw [typed, here]; exact permitted) (.inl rfl) stored

theorem actorCopy_reaches {given stored truthStatus payload cost : Value} {operation : String}
    {q : Packet} {type : EventType} (copied : p.actorCopy given operation = .ok stored)
    (same : SameCourse p q) (acted : type.acted = true)
    (permitted : ∀ operator, type.permits (some operator) = true) :
    Reaches supplied 1 p
      (q.emit now (.own type (stored.get "operator") truthStatus payload cost)).2 := by
  obtain ⟨mutable, visit, -⟩ := actorCopy_eq_ok p _ _ stored copied
  rw [← same.trace, ← same.operator] at visit
  rw [actorCopy_operator p _ _ stored copied, ← same.operator]
  have edited : Change supplied p [] q := .edit _ mutable same
  refine Reaches.emitThen now _ _ ((Reaches.single edited).mono (by simp)) fun event appended => ?_
  exact (Reaches.single edited).go
    (act_own q now type _ _ _ event (same.mutable mutable) visit acted (permitted _) appended)
    (by simp)

theorem appendChaos_reaches (fragment : Value) :
    Reaches supplied 1 p (p.appendChaos now fragment).2 :=
  Reaches.transact _ _ fun _ copied => actorCopy_reaches p now copied
    ⟨rfl, rfl, rfl, rfl, .inl rfl⟩ rfl fun _ => rfl

theorem measureTension_reaches (record : Value) :
    Reaches supplied 1 p (p.measureTension now record).2 :=
  Reaches.transact _ _ fun _ copied => actorCopy_reaches p now copied
    ⟨rfl, rfl, rfl, rfl, .inl rfl⟩ rfl fun _ => rfl

theorem crystallize_reaches (record : Value) :
    Reaches supplied 1 p (p.crystallize now record).2 := by
  refine Reaches.transact _ _ fun plan planned => ?_
  obtain ⟨mutable, here, visit, truthStatus, payload, cost, draft⟩ :=
    crystalPlan_facts p record plan planned
  refine Reaches.emitThen now _ _ (.stay 1 p) fun event appended => ?_
  rw [draft, ← here] at appended
  have acted : Change supplied p [event] (p.push event) :=
    act_own p now .crystallization _ _ _ event mutable visit rfl rfl appended
  have edited : Change supplied (p.push event) [] (storeCrystal plan event (p.push event)) :=
    .edit _ (mutable.push event) ⟨rfl, rfl, rfl, rfl, .inl rfl⟩
  exact (Reaches.single acted).go edited (by simp)

theorem act_ofTable (given : Value) (type : EventType) (draft : Draft)
    (event : Event) (typed : EventType.parse (given.get "type") = some type)
    (acted : type.acted = true) (planned : p.actorPlan given = .ok draft)
    (identified : given.get "id" = .nil ∨ given.get "id" = supplied)
    (stored : p.storedEvent now draft = .ok event) :
    Change supplied p [event] (p.push event) := by
  obtain ⟨mutable, here, ⟨lease, leased⟩, ⟨type', typed', permitted⟩, rfl⟩ :=
    actorPlan_eq_ok p given draft planned
  have facts := (storedEvent_eq_ok p now _ event).mp stored
  have sameType : event.type = type := by
    have parsed := facts.type
    rw [Draft.ofTable, typed] at parsed
    exact (Option.some.inj parsed).symm
  have sameOperator : event.operator = p.operator := by
    have resolved := facts.operator
    rw [Draft.ofTable, here] at resolved
    exact (Option.some.inj resolved).symm
  rw [typed, Option.some.injEq] at typed'
  subst typed'
  exact .act now _ lease event mutable leased sameOperator (by rw [sameType]; exact acted)
    (by rw [sameType, sameOperator]; exact permitted) identified stored

theorem acted_of_not_dedicated (plain : type.dedicated = false) :
    type.acted = true := by
  cases type <;> first | rfl | cases plain

theorem acted_of_repositoryBody (body : type.repositoryBody = true) :
    type.acted = true := by
  cases type <;> first | rfl | cases body

theorem acted_of_qaBody (body : type.qaBody = true) :
    type.acted = true := by
  cases type <;> first | rfl | cases body

end

theorem appendTrace_reaches (event : Value) :
    Reaches (event.get "id") 1 p (p.appendTrace now event).2 := by
  refine Reaches.transact _ _ fun draft planned => ?_
  refine Reaches.emitThen now draft _ (.stay 1 p) fun stored appended => ?_
  obtain ⟨acting, type, typed, plain⟩ := tracePlan_facts p event draft planned
  exact Reaches.single (act_ofTable p now event type draft stored typed
    (acted_of_not_dedicated type plain) acting (.inr rfl) appended)

theorem appendRepositoryEvent_reaches (event : Value) :
    Reaches (event.get "id") 1 p (p.appendRepositoryEvent now event).2 := by
  refine Reaches.transact _ _ fun draft planned => ?_
  refine Reaches.emitThen now draft _ (.stay 1 p) fun stored appended => ?_
  obtain ⟨acting, type, typed, body⟩ := repositoryPlan_facts p event draft planned
  exact Reaches.single (act_ofTable p now event type draft stored typed
    (acted_of_repositoryBody type body) acting (.inr rfl) appended)

theorem sealedEvent_get (type operator payload cost : Value) :
    (sealedEvent type operator payload cost).get "type" = type
      ∧ (sealedEvent type operator payload cost).get "operator" = operator
      ∧ (sealedEvent type operator payload cost).get "id" = .nil := by
  refine ⟨?_, ?_, ?_⟩
  · exact Value.get_record (by simp) (by simp)
  · exact Value.get_record (by simp) (by simp)
  · exact Value.get_record_absent (by simp)

theorem appendQaEvent_reaches (S : Schemas) (now : Int) (event : Value) :
    Reaches supplied 1 p (p.appendQaEvent S now event).2 := by
  refine Reaches.transact _ _ fun draft planned => ?_
  refine Reaches.emitThen now draft _ (.stay 1 p) fun stored appended => ?_
  unfold qaPlan at planned
  simp only [bind_eq_ok, assertMutable_eq_ok] at planned
  obtain ⟨-, mutable, -, -, planned⟩ := planned
  split at planned
  · cases planned
  · rename_i type typed
    simp only [bind_eq_ok, require_eq_ok] at planned
    obtain ⟨-, body, -, -, -, -, -, -, copied, -, planned⟩ := planned
    obtain ⟨sealedType, -, noId⟩ := sealedEvent_get (event.get "type")
      (resolvedValue (event.get "operator")) copied (event.get "cost").deepCopy
    have acted : Change supplied p [stored] (p.push stored) :=
      act_ofTable p now _ type draft stored (by rw [sealedType]; exact typed)
        (acted_of_qaBody type body) planned (.inl noId) appended
    have edited : Change supplied (p.push stored) [] (p.push stored).countEvidence :=
      .edit _ (mutable.push stored) ⟨rfl, rfl, rfl, rfl, .inl rfl⟩
    exact (Reaches.single acted).go edited (by simp)

theorem appendUnitDissolution_reaches (S : Schemas) (now : Int) (event : Value) :
    Reaches supplied 1 p (p.appendUnitDissolution S now event).2 := by
  refine Reaches.transact _ _ fun draft planned => ?_
  refine Reaches.emitThen now draft _ (.stay 1 p) fun stored appended => ?_
  unfold dissolutionPlan at planned
  simp only [bind_eq_ok] at planned
  obtain ⟨-, -, -, -, -, -, -, -, copied, -, planned⟩ := planned
  obtain ⟨sealedType, -, noId⟩ := sealedEvent_get (.text "unit_dissolution")
    (Topology.value .dissolve) copied .emptyTable
  have typed : EventType.parse (.text "unit_dissolution") = some .unitDissolution :=
    EventType.parse_name .unitDissolution
  exact Reaches.single (act_ofTable p now _ .unitDissolution draft stored
    (by rw [sealedType]; exact typed) rfl planned (.inl noId) appended)

theorem appendTerminal_reaches (terminal : Terminal)
    (mutable : p.Mutable) (here : terminal.operator = p.operator) :
    Reaches supplied 1 p (p.appendTerminal now terminal).2 := by
  refine Reaches.emitThen now _ _ (.stay 1 p) fun event stored => ?_
  exact Reaches.single (.terminal now terminal event mutable here stored)

theorem beginTerminal_reaches (input : Value) :
    Reaches supplied 1 p (p.beginTerminal now input).2 := by
  refine Reaches.transact _ _ fun terminal planned => ?_
  obtain ⟨mutable, normal⟩ := (terminalPlan_eq_ok p input terminal).mp planned
  obtain ⟨here, -⟩ := normalizeTerminal_facts p input terminal normal
  exact appendTerminal_reaches p now terminal mutable here

theorem freeze_reaches (cause residue : Value) :
    Reaches supplied 0 p (p.freeze now cause residue).2 := by
  refine Reaches.transact _ _ fun terminal planned => ?_
  exact Reaches.single (.freeze now cause residue terminal planned)

end

end

theorem closeWith_reaches (event : Event) (now : Int) (cause : DeathCause) (residue : Value)
    (ended : Reply Packet Event) (first : Reaches supplied n p ended.2) :
    Reaches supplied n p (closeWith event now cause residue ended).2 := by
  refine Reaches.andThen _ _ (Nat.le_refl n) first fun terminalEvent _ => ?_
  have froze := first.trans (freeze_reaches _ now (.text cause.name) residue) (Nat.le_refl n)
  exact Reaches.andThen _ _ (Nat.le_refl n) froze fun _ _ => froze

theorem manifestPacket_reaches (p : Packet) (clock : Nat → Int) (payload residue : Value) :
    Reaches supplied 2 p (p.manifestPacket clock payload residue).2 := by
  refine Reaches.transact _ _ fun plan planned => ?_
  obtain ⟨mutable, here, -⟩ := manifestPlan_facts p payload residue plan planned
  have same : SameCourse p (p.withManifest plan.payload) := ⟨rfl, rfl, rfl, rfl, .inl rfl⟩
  have edited : Change supplied p [] (p.withManifest plan.payload) := .edit _ mutable same
  have announced : Reaches supplied 1 p
      ((p.withManifest plan.payload).emit (clock 0) (manifestDraft plan)).2 := by
    refine Reaches.emitThen _ _ _ ((Reaches.single edited).mono (by simp)) fun event stored => ?_
    have manifested := @Change.manifest supplied _ (clock 0) plan event
      (same.mutable mutable) here stored
    exact (Reaches.single edited).go manifested (by simp)
  refine Reaches.andThen _ _ (by omega) announced fun event _ => ?_
  have ended (q : Packet) (here : Reaches supplied 1 p q) :
      Reaches supplied 2 p (q.beginTerminal (clock 1) (q.manifestTerminalInput plan event)).2 :=
    here.trans (beginTerminal_reaches q (clock 1) _) (Nat.le_refl 2)
  exact closeWith_reaches event (clock 2) plan.cause plan.residue _ (ended _ announced)

theorem die_reaches (p : Packet) (clock : Nat → Int) (cause residue : Value) :
    Reaches supplied 2 p (p.die clock cause residue).2 := by
  refine Reaches.transact _ _ fun plan planned => ?_
  obtain ⟨mutable, -, normal⟩ := deathPlan_facts p cause residue plan planned
  obtain ⟨here, -⟩ := normalizeTerminal_facts p _ plan.terminal normal
  have announced : Reaches supplied 1 p (p.emit (clock 0) (p.deathDraft plan)).2 := by
    refine Reaches.emitThen _ _ _ (.stay 1 p) fun event stored => ?_
    exact Reaches.single (.death (clock 0) plan event mutable stored)
  refine Reaches.andThen _ _ (by omega) announced fun event emitted => ?_
  have pushed : (p.emit (clock 0) (p.deathDraft plan)).2 = p.push event := by
    exact emit_state p (clock 0) _ event emitted
  have ended : Reaches supplied 2 p
      ((p.emit (clock 0) (p.deathDraft plan)).2.appendTerminal (clock 1) plan.terminal).2 := by
    refine announced.trans (appendTerminal_reaches _ (clock 1) plan.terminal ?_ ?_)
      (Nat.le_refl 2)
    · rw [pushed]
      exact mutable.push event
    · rw [pushed]
      exact here
  exact closeWith_reaches event (clock 2) plan.cause plan.residue _ ended

theorem step_reaches (S : Schemas) (p : Packet) (s : Step) :
    Reaches s.call.suppliedId s.call.appends p ((machine S).after p s) := by
  obtain ⟨call, clock⟩ := s
  cases call with
  | beginTick operator inputRefs => exact beginTick_reaches p (clock 0) operator inputRefs
  | commitTransition decision => exact commitTransition_reaches p (clock 0) decision
  | appendChaos fragment => exact appendChaos_reaches p (clock 0) fragment
  | crystallize record => exact crystallize_reaches p (clock 0) record
  | measureTension record => exact measureTension_reaches p (clock 0) record
  | appendTrace event => exact appendTrace_reaches p (clock 0) event
  | appendRepositoryEvent event => exact appendRepositoryEvent_reaches p (clock 0) event
  | appendQaEvent event => exact appendQaEvent_reaches p S (clock 0) event
  | appendUnitDissolution event => exact appendUnitDissolution_reaches p S (clock 0) event
  | beginTerminal input => exact beginTerminal_reaches p (clock 0) input
  | freeze cause residue => exact freeze_reaches p (clock 0) cause residue
  | manifestPacket payload residue => exact manifestPacket_reaches p clock payload residue
  | die cause residue => exact die_reaches p clock cause residue

/-! ## Whole lives -/

theorem split_append_singleton {trace before after : List Event} {event last : Event}
    (split : trace ++ [last] = before ++ event :: after) :
    (event = last ∧ before = trace) ∨ ∃ rest, trace = before ++ event :: rest := by
  rcases eq_nil_or_concat after with empty | ⟨rest, final, shape⟩
  · subst empty
    have same := append_inj' split rfl
    exact .inl ⟨(List.cons.inj same.2).1.symm, same.1.symm⟩
  · subst shape
    rw [concat_eq_append, ← cons_append, ← append_assoc] at split
    exact .inr ⟨rest, (append_inj' split rfl).1⟩

/-- A Packet as `packet.new` leaves it. -/
structure Newborn (p : Packet) (birth : Event) : Prop where
  trace : p.trace = [birth]
  type : birth.type = .birth
  actor : birth.operator = .flow
  id : birth.id = .text "event-1"
  observer : birth.observer = false
  operator : p.operator = .flow
  status : p.status = .born
  terminal : p.terminal = none
  death : p.death = none

theorem new_eq {S : Schemas} {counter : Nat} {now : Int} {prompt options : Value} {p : Packet}
    (born : Packet.new S counter now prompt options = .ok p) :
    ∃ id text given metadata mode identity work contract ingress residue payload birth,
      (unborn id text given metadata mode identity work contract ingress residue).storedEvent now
        (.own .birth (Topology.value .flow) (.text "runtime_confirmed") payload .emptyTable)
          = .ok birth
      ∧ p = (unborn id text given metadata mode identity work contract ingress residue).push
        birth := by
  unfold Packet.new conceive at born
  simp only [bind_eq_ok, pure_eq_ok, Prod.exists, Prod.mk.injEq] at born
  obtain ⟨_, _, ⟨text, -, declared, -, -, -, mode, -, -, -, metadata, -, identity, -, work,
    workMetadata, -, contract, qaMetadata, -, residue, -, ingress, -, count, -, rfl, rfl⟩, birth,
    stored, rfl⟩ := born
  exact ⟨_, _, _, _, _, _, _, _, _, _, _, birth, stored, rfl⟩

theorem new_newborn (S : Schemas) (counter : Nat) (now : Int) (prompt options : Value)
    (p : Packet) (born : Packet.new S counter now prompt options = .ok p) :
    ∃ birth, Newborn p birth := by
  obtain ⟨_, _, _, _, _, _, _, _, _, _, _, birth, stored, rfl⟩ := new_eq born
  obtain ⟨type, actor, identified, observer, -⟩ :=
    storedEvent_own _ now .birth .flow _ _ _ birth stored
  refine ⟨birth, rfl, type, actor, ?_, observer, rfl, rfl, rfl, rfl⟩
  have first : Trace.nextTraceId [] .body = .text "event-1" := by decide
  exact identified.trans first

theorem Course.preserves (inv : Packet → Prop)
    (change : ∀ p events q, inv p → Change supplied p events q → inv q)
    (course : Course supplied p events q) (holds : inv p) : inv q := by
  induction course with
  | stay => exact holds
  | go _ next ih => exact change _ _ _ ih next

theorem life_invariant (S : Schemas) (inv : Packet → Prop)
    (change : ∀ supplied p events q, inv p → Change supplied p events q → inv q)
    (steps : List Step) (p : Packet) (start : inv p) : inv ((machine S).run p steps) := by
  refine (machine S).run_invariant inv (fun q s holds => ?_) steps p start
  obtain ⟨events, course, -⟩ := step_reaches S q s
  exact course.preserves inv (change _) holds

/-! ## A concrete life -/

/-- Schemas that accept nothing; a birth without contracts consults none. -/
def refusingSchemas : Schemas where
  normalizeContract _ := .error (refuse "refused")
  contractSame _ _ := false
  verifyProjection _ := .error (refuse "refused")
  jsonEncode _ := .error (refuse "refused")
  validateCost _ _ := .error (refuse "refused")
  normalizePayload _ _ := .error (refuse "refused")
  evidenceSame _ _ := false
  normalizeRelease _ := .error (refuse "refused")
  normalizeResidue _ := .error (refuse "refused")
  releaseSame _ _ := false

/-- A test of the newborn with the prompt `task`. -/
def taskPasses (test : Packet → Bool) : Bool :=
  match Packet.new refusingSchemas 1 0 (.text "task") .nil with
  | .ok p => test p
  | .error _ => false

theorem task_born_passing (test : Packet → Bool) (passes : taskPasses test = true) :
    ∃ p, Packet.new refusingSchemas 1 0 (.text "task") .nil = .ok p ∧ test p = true := by
  unfold taskPasses at passes
  cases born : Packet.new refusingSchemas 1 0 (.text "task") .nil with
  | ok p =>
    rw [born] at passes
    exact ⟨p, rfl, passes⟩
  | error failure =>
    rw [born] at passes
    cases passes

def lived (p : Packet) (calls : List Call) : Packet :=
  (machine refusingSchemas).run p (calls.map fun call => ⟨call, fun _ => 0⟩)

def legacyRoute (source target : Operator) : Call :=
  .commitTransition (.record [("from", Topology.value source), ("to", Topology.value target)])

def tickAt (operator : Operator) : Call := .beginTick (Topology.value operator) .nil

end Packet

end Proc17.Core
