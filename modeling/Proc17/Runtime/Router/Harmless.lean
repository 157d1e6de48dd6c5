import Proc17.Core.Life.Observer
import Proc17.Runtime.Router.Shadow

/-!
# What a shadow changes

The live decision of `router.after_tick` with its shadow against the same decision
without it.
-/

namespace Proc17.Runtime.Router

open Lua List Value
open Core
open Core.Packet (bodyEvents)

/-! ## What the router appends -/

theorem routerEvent_draft (type : EventType) (operator payload lane : Value) :
    Draft.ofTable (routerEvent type operator payload lane)
      = { id := .nil, identityLane := lane, type := .text type.name, operator := operator,
          truthStatus := .text "runtime_confirmed", payload := payload, cost := .emptyTable,
          time := .nil } := by
  have named : ∀ name value, (name, value) ∈ [("type", Value.text type.name),
      ("operator", operator), ("truth_status", .text "runtime_confirmed"),
      ("payload", payload), ("cost", .emptyTable), ("identity_lane", lane)] →
      (routerEvent type operator payload lane).get name = value :=
    fun name value member => get_record (by simp) member
  have absent : ∀ name, name ≠ "type" ∧ name ≠ "operator" ∧ name ≠ "truth_status"
      ∧ name ≠ "payload" ∧ name ≠ "cost" ∧ name ≠ "identity_lane" →
      (routerEvent type operator payload lane).get name = .nil := by
    rintro name ⟨a, b, c, d, e, f⟩
    apply get_record_absent
    intro entry member
    simp only [mem_cons, not_mem_nil, or_false] at member
    rcases member with rfl | rfl | rfl | rfl | rfl | rfl
    · exact a.symm
    · exact b.symm
    · exact c.symm
    · exact d.symm
    · exact e.symm
    · exact f.symm
  unfold Draft.ofTable
  rw [named "identity_lane" lane (by simp), named "type" (.text type.name) (by simp),
    named "operator" operator (by simp),
    named "truth_status" (.text "runtime_confirmed") (by simp),
    named "payload" payload (by simp), named "cost" .emptyTable (by simp),
    absent "id" (by simp), absent "time" (by simp)]

/-- The Packet is at the operator and in a visit of it. -/
structure Acting (p : Packet) (operator : Value) : Prop where
  mutable : p.Mutable
  here : Topology.resolve operator = some p.operator
  visit : ∃ lease, Trace.currentVisitLease p.trace p.operator = some lease

theorem assertActorTick_cases (p : Packet) (operator : Value) (operation : String) :
    (∃ lease, p.assertActorTick (Packet.resolvedValue operator) operation = .ok lease)
        ∧ Acting p operator
      ∨ (∃ err, p.assertActorTick (Packet.resolvedValue operator) operation
          = .error (.refused err)) ∧ ¬ Acting p operator := by
  cases asserted : p.assertActorTick (Packet.resolvedValue operator) operation with
  | ok lease =>
    obtain ⟨mutable, here, visit⟩ := (Packet.assertActorTick_eq_ok p _ _ lease).mp asserted
    rw [Packet.resolve_resolvedValue] at here
    exact .inl ⟨⟨lease, rfl⟩, mutable, here, lease, visit⟩
  | error failure =>
    refine .inr ⟨?_, ?_⟩
    · -- every check of `assert_actor_tick` refuses
      have refusing : OnError (fun failure => ∃ err, failure = .refused err)
          (p.assertActorTick (Packet.resolvedValue operator) operation) := by
        unfold Packet.assertActorTick
        refine .bind ?_ fun _ => ?_
        · unfold Packet.assertMutable
          exact .ite (.error ⟨_, rfl⟩) (.ite (.error ⟨_, rfl⟩) (.ok _))
        · split
          · exact .error ⟨_, rfl⟩
          · refine .bind (.require ⟨_, rfl⟩) fun _ => ?_
            split
            · exact .error ⟨_, rfl⟩
            · exact .ok _
      obtain ⟨err, same⟩ := refusing failure asserted
      exact ⟨err, by rw [same]⟩
    · rintro ⟨mutable, here, lease, visit⟩
      rw [← Packet.resolve_resolvedValue operator] at here
      rw [(Packet.assertActorTick_eq_ok p _ operation lease).mpr ⟨mutable, here, visit⟩]
        at asserted
      cases asserted

theorem tracePlan_router (p : Packet) (type : EventType) (told : telling type = true)
    (operator payload lane : Value) :
    p.tracePlan (routerEvent type operator payload lane)
          = .ok (Draft.ofTable (routerEvent type operator payload lane)) ∧ Acting p operator
      ∨ (∃ err, p.tracePlan (routerEvent type operator payload lane) = .error (.refused err))
        ∧ ¬ Acting p operator := by
  have typed : EventType.parse ((routerEvent type operator payload lane).get "type")
      = some type := by
    have read := congrArg Draft.type (routerEvent_draft type operator payload lane)
    simp only [Draft.ofTable] at read
    rw [read, EventType.parse_name]
  have placed : (routerEvent type operator payload lane).get "operator" = operator :=
    congrArg Draft.operator (routerEvent_draft type operator payload lane)
  have plain : type.dedicated = false ∧ ∀ actor, type.permits actor = true := by
    cases type <;> first | exact ⟨rfl, fun _ => rfl⟩ | cases told
  have table : (routerEvent type operator payload lane).isTable = true := rfl
  unfold Packet.tracePlan Packet.actorPlan
  simp only [table, typed, placed, plain.1, plain.2, require, if_true, bind, Except.bind]
  rcases assertActorTick_cases p operator "append trace" with
    ⟨⟨lease, asserted⟩, acting⟩ | ⟨⟨err, asserted⟩, idle⟩
  · rw [asserted]
    exact .inl ⟨rfl, acting⟩
  · rw [asserted]
    exact .inr ⟨⟨err, rfl⟩, idle⟩

def ObserverIdFree (trace : List Event) : Prop :=
  ∀ event ∈ trace,
    Value.eq event.id (Trace.nextTraceId trace .observerInstrumentation) = false

instance (trace : List Event) : Decidable (ObserverIdFree trace) :=
  inferInstanceAs (Decidable (∀ event ∈ trace,
    Value.eq event.id (Trace.nextTraceId trace .observerInstrumentation) = false))

theorem appendTrace_error (i : Instance) (now : Int) (event : Value) (failure : Failure)
    (failed : (i.appendTrace now event).1 = .error failure) : (i.appendTrace now event).2 = i := by
  have kept : (i.packet.appendTrace now event).2 = i.packet := by
    unfold Instance.appendTrace Packet.appendTrace at *
    rcases transact_cases (i.packet.tracePlan event) (i.packet.emit now) i.packet with
      ⟨refusal, -, result⟩ | ⟨draft, -, result⟩
    · rw [result]
    · rw [result] at failed ⊢
      unfold Packet.emit Packet.emitThen at failed ⊢
      cases stored : i.packet.storedEvent now draft with
      | error refusal => rfl
      | ok event => rw [stored] at failed; cases failed
  simp only [Instance.appendTrace, kept]

theorem appendTrace_ok (i : Instance) (now : Int) (type : EventType)
    (told : telling type = true) (operator payload lane : Value) (event : Event)
    (accepted : (i.appendTrace now (routerEvent type operator payload lane)).1 = .ok event) :
    Acting i.packet operator
      ∧ Packet.Stored i.packet now (Draft.ofTable (routerEvent type operator payload lane)) event
      ∧ (i.appendTrace now (routerEvent type operator payload lane)).2 = i.push event := by
  unfold Instance.appendTrace Packet.appendTrace at *
  rcases tracePlan_router i.packet type told operator payload lane with
    ⟨planned, acting⟩ | ⟨⟨err, planned⟩, -⟩
  · simp only [planned, transact_ok] at accepted ⊢
    have state := Packet.emit_state i.packet now _ event accepted
    unfold Packet.emit Packet.emitThen at accepted
    cases stored : i.packet.storedEvent now
        (Draft.ofTable (routerEvent type operator payload lane)) with
    | error failure => rw [stored] at accepted; cases accepted
    | ok other =>
      rw [stored] at accepted
      cases accepted
      exact ⟨acting, (Packet.storedEvent_eq_ok _ _ _ _).mp stored, by rw [state]; rfl⟩
  · simp only [planned, transact_error] at accepted
    cases accepted

def observerEvent (p : Packet) (now : Int) (payload : Value) : Event where
  id := Trace.nextTraceId p.trace .observerInstrumentation
  packetId := p.id
  lineageId := p.lineageId
  generation := p.generation
  tick := p.physis.ticks.orElse (.nat 0)
  type := .tensionMeasure
  operator := p.operator
  payload := (payload.orElse .emptyTable).deepCopy
  truthStatus := .runtimeConfirmed
  cost := ⟨.nat 0, .nat 0, .nat 0, .nat 0, .nat 0, .nat 0⟩
  time := .num (.int now)
  observer := true

theorem storedEvent_observer (p : Packet) (now : Int) (operator payload : Value)
    (here : Topology.resolve operator = some p.operator)
    (evidence : Trace.observerEvidence .tensionMeasure payload = true) :
    p.storedEvent now
        (Draft.ofTable (routerEvent .tensionMeasure operator payload observerLane))
      = if ObserverIdFree p.trace then .ok (observerEvent p now payload)
        else .error (raise "duplicate Packet trace event id") := by
  have confirmed : TruthStatus.parse (.text "runtime_confirmed") = some .runtimeConfirmed := by
    decide
  have laned : Trace.identityLane (Draft.ofTable (routerEvent .tensionMeasure operator payload
      observerLane)) .tensionMeasure = .ok .observerInstrumentation := by
    rw [routerEvent_draft]
    simp [Trace.identityLane, observerLane, Value.orElse, Value.truthy, evidence]
  have free : Packet.normalizeCost .emptyTable
      = .ok ⟨.nat 0, .nat 0, .nat 0, .nat 0, .nat 0, .nat 0⟩ := rfl
  unfold Packet.storedEvent Packet.validateEvent
  rw [routerEvent_draft] at laned ⊢
  simp only [EventType.parse_name, here, confirmed, free, laned, bind, Except.bind]
  by_cases unused : ObserverIdFree p.trace
  · have checked : require (∀ event ∈ p.trace, event.id.eq
        (Value.nil.orElse (Trace.nextTraceId p.trace .observerInstrumentation)) = false)
        (raise "duplicate Packet trace event id") = .ok () := if_pos unused
    rw [checked, if_pos unused]
    rfl
  · have checked : require (∀ event ∈ p.trace, event.id.eq
        (Value.nil.orElse (Trace.nextTraceId p.trace .observerInstrumentation)) = false)
        (raise "duplicate Packet trace event id")
        = .error (raise "duplicate Packet trace event id") := if_neg unused
    rw [checked, if_neg unused]

theorem appendTrace_observer (i : Instance) (now : Int) (operator payload : Value)
    (evidence : Trace.observerEvidence .tensionMeasure payload = true) :
    let reply := i.appendTrace now (routerEvent .tensionMeasure operator payload observerLane)
    (¬ Acting i.packet operator ∧ ∃ err, reply = (.error (.refused err), i))
      ∨ (Acting i.packet operator ∧ ¬ ObserverIdFree i.packet.trace
        ∧ ∃ err, reply = (.error (.raised err), i))
      ∨ (Acting i.packet operator ∧ ObserverIdFree i.packet.trace
        ∧ reply = (.ok (observerEvent i.packet now payload),
          i.push (observerEvent i.packet now payload))) := by
  intro reply
  rcases tracePlan_router i.packet .tensionMeasure rfl operator payload observerLane with
    ⟨planned, acting⟩ | ⟨⟨err, planned⟩, idle⟩
  · have stored := storedEvent_observer i.packet now operator payload acting.here evidence
    have appended : reply = ((i.packet.emit now (Draft.ofTable (routerEvent .tensionMeasure
        operator payload observerLane))).1, { i with packet := (i.packet.emit now
          (Draft.ofTable (routerEvent .tensionMeasure operator payload observerLane))).2 }) := by
      show i.appendTrace now _ = _
      unfold Instance.appendTrace Packet.appendTrace
      rw [planned, transact_ok]
    unfold Packet.emit Packet.emitThen at appended
    by_cases unused : ObserverIdFree i.packet.trace
    · rw [stored, if_pos unused] at appended
      exact .inr (.inr ⟨acting, unused, appended⟩)
    · rw [stored, if_neg unused] at appended
      exact .inr (.inl ⟨acting, unused, _, appended⟩)
  · refine .inl ⟨idle, err, ?_⟩
    show i.appendTrace now _ = _
    unfold Instance.appendTrace Packet.appendTrace
    rw [planned, transact_error]

/-- A table that `record_shadow` is given. -/
structure IsShadow (shadow : Value) : Prop where
  table : shadow.isTable = true
  kind : shadow.get "kind" = .text "shadow_route_decision"

variable {shadow live snapshot : Value} {event : Event} {now : Int} {p : Packet} {i j : Instance}

theorem recordShadow_cases (i : Instance) (now : Int) (is : IsShadow shadow) :
    let operator := shadow.get "current_operator"
    (¬ Acting i.packet operator ∧ ∃ err, recordShadow i now shadow = (.error (.refused err), i))
      ∨ (Acting i.packet operator ∧ ¬ ObserverIdFree i.packet.trace
        ∧ ∃ err, recordShadow i now shadow = (.error (.raised err), i))
      ∨ (Acting i.packet operator ∧ ObserverIdFree i.packet.trace
        ∧ ∃ recorded, shadow.setField "trace_event_id" (observerEvent i.packet now shadow).id
            = .ok recorded
          ∧ recordShadow i now shadow
            = (.ok recorded, i.push (observerEvent i.packet now shadow))) := by
  intro operator
  have read : shadow.index "current_operator" = .ok operator := index_eq_get is.table _
  have evidence : Trace.observerEvidence .tensionMeasure shadow = true := by
    simp [Trace.observerEvidence, is.table, is.kind, Trace.observerKind]
  unfold recordShadow
  rw [read]
  dsimp only
  rcases appendTrace_observer i now operator shadow evidence with
    ⟨idle, err, reply⟩ | ⟨acting, used, err, reply⟩ | ⟨acting, unused, reply⟩
  · rw [reply]
    exact .inl ⟨idle, err, rfl⟩
  · rw [reply]
    exact .inr (.inl ⟨acting, used, err, rfl⟩)
  · obtain ⟨recorded, assigned⟩ := setField_table is.table "trace_event_id"
      (observerEvent i.packet now shadow).id
    rw [reply]
    refine .inr (.inr ⟨acting, unused, recorded, assigned, ?_⟩)
    rw [Reply.andThen, assigned]

/-! ## The Packet after a derivation -/

/-- An event of the body by which the router tells what it saw. -/
structure Told (event : Event) : Prop where
  telling : telling event.type = true
  lane : Packet.InLane .body event.id
  observer : event.observer = false

theorem told_of_stored {type : EventType} {operator payload : Value} (told : telling type = true)
    (stored : Packet.Stored p now (Draft.ofTable (routerEvent type operator payload .nil)) event) :
    Told event ∧ event.id = Trace.nextTraceId p.trace .body := by
  have typed := stored.type
  obtain ⟨lane, laned, identified, observed⟩ := stored.lane
  rw [routerEvent_draft] at typed laned identified
  simp only [EventType.parse_name, Option.some.injEq] at typed
  have body : lane = .body := by
    simpa [Trace.identityLane, Value.orElse, Value.truthy, eq_comm] using laned
  subst body
  have id : event.id = Trace.nextTraceId p.trace .body := identified
  refine ⟨⟨by rw [← typed]; exact told, ?_, by rw [observed]; rfl⟩, id⟩
  rw [id]
  exact Packet.inLane_nextTraceId p.trace .body

theorem visit_push (told : telling event.type = true) :
    Trace.currentVisitLease (p.push event).trace p.operator
      = Trace.currentVisitLease p.trace p.operator := by
  have plain : event.type ≠ .operatorTick ∧ event.type ≠ .route ∧ event.type ≠ .birth := by
    refine ⟨?_, ?_, ?_⟩ <;>
      · intro same
        rw [same] at told
        cases told
  unfold Packet.push Trace.currentVisitLease
  rw [reverse_append, reverse_singleton, singleton_append, Trace.leaseFrom,
    if_neg plain.1, if_neg plain.2.1, if_neg (fun both => plain.2.2 both.1)]

theorem acting_push (told : telling event.type = true) (operator : Value) :
    Acting (p.push event) operator ↔ Acting p operator := by
  constructor
  · rintro ⟨mutable, here, visit⟩
    exact ⟨⟨mutable.notDead, mutable.notDying, mutable.notManifested, mutable.unended⟩, here,
      by rw [← visit_push told]; exact visit⟩
  · rintro ⟨mutable, here, lease, found⟩
    exact ⟨mutable.push event, here, lease, (visit_push told).trans found⟩

theorem observerIdFree_push (told : Told event) :
    ObserverIdFree (p.push event).trace ↔ ObserverIdFree p.trace := by
  have differ : Lane.body ≠ Lane.observerInstrumentation := by decide
  have next : Trace.nextTraceId (p.push event).trace .observerInstrumentation
      = Trace.nextTraceId p.trace .observerInstrumentation := by
    simp only [Trace.nextTraceId, Trace.nextId, Trace.highest, Packet.push, map_append,
      foldl_append, map_cons, map_nil, foldl_cons, foldl_nil]
    rw [Trace.higher, Packet.ordinal_of_inLane told.lane differ]
  unfold ObserverIdFree
  rw [next]
  constructor
  · intro free earlier member
    exact free earlier (mem_append_left _ member)
  · intro free
    exact forall_mem_append.mpr ⟨free, forall_mem_singleton.mpr
      (Packet.eq_false_of_inLane told.lane (Packet.inLane_nextTraceId p.trace _) differ)⟩

theorem bodyEvents_observer {trace : List Event} (tag : event.observer = true) :
    bodyEvents (trace ++ [event]) = bodyEvents trace := by
  simp [bodyEvents, tag]

variable (world : World)

theorem legacyAfterTick_push (i : Instance) (told : Told event) (tick options : Value) :
    legacyAfterTick world (i.push event) tick options = legacyAfterTick world i tick options := by
  unfold legacyAfterTick
  simp only [legacyPressureSnapshot_push world i tick event told.telling]

/-! ## The tree's live decision -/

theorem treeLive_ok {prediction : Value} {derivation : Event}
    (present : snapshot.get "current_operator" ≠ .nil)
    (made : treeLive snapshot prediction derivation = .ok live) :
    live.isTable = true ∧ live.get "from" = snapshot.get "current_operator" := by
  unfold treeLive at made
  split at made
  · unfold treeDecision at made
    simp only [bind_eq_ok] at made
    obtain ⟨selected, -, planId, -, made⟩ := made
    cases selected with
    | none => cases made
    | some entry =>
      cases made
      exact ⟨rfl, get_record (by simp) (by simp)⟩
  · unfold treeOutcome at made
    simp only [bind_eq_ok] at made
    obtain ⟨a, placed, b, authority, c, derived, d, pressed, confirmed⟩ := made
    refine ⟨isTable_of_setField confirmed, ?_⟩
    rw [get_of_setField_other (by decide) confirmed,
      get_of_setField_other (by decide) pressed,
      get_of_setField_other (by decide) derived,
      get_of_setField_other (by decide) authority, get_of_setField present placed]

theorem recordPressureSnapshot_ok {derived : Value} {observer : Bool}
    (run : recordPressureSnapshot i now derived observer = (.ok snapshot, j)) :
    ∃ event, j = i.push event ∧ Acting i.packet (derived.get "current_operator")
      ∧ Packet.Stored i.packet now (Draft.ofTable (routerEvent .tensionMeasure
        (derived.get "current_operator") derived (if observer then observerLane else .nil))) event
      ∧ derived.setField "trace_event_id" event.id = .ok snapshot := by
  unfold recordPressureSnapshot at run
  cases read : derived.index "current_operator" with
  | error failure => rw [read] at run; cases run
  | ok operator =>
    have same : operator = derived.get "current_operator" := by
      cases derived with
      | table | str => cases read; rfl
      | _ => cases read
    subst same
    rw [read] at run
    dsimp only at run
    generalize lane : (if observer = true then observerLane else Value.nil) = given at run ⊢
    have spec := appendTrace_ok i now .tensionMeasure rfl (derived.get "current_operator")
      derived given
    cases appended : i.appendTrace now (routerEvent .tensionMeasure
        (derived.get "current_operator") derived given) with
    | mk answer state =>
      rw [appended] at run spec
      cases answer with
      | error failure => cases run
      | ok event =>
        obtain ⟨acting, stored, pushed⟩ := spec event rfl
        simp only [Reply.andThen, Prod.mk.injEq] at run
        exact ⟨event, run.2.symm.trans pushed, acting, stored, run.1⟩

theorem recordDerivation_ok {prediction : Value}
    (run : recordDerivation i now snapshot prediction = (.ok event, j)) :
    Told event ∧ Acting i.packet (snapshot.get "current_operator") ∧ j = i.push event := by
  unfold recordDerivation at run
  rcases transact_cases (derivationPlan snapshot prediction)
      (fun payload => i.appendTrace now
        (routerEvent .routeDerivation (snapshot.get "current_operator") payload .nil)) i with
    ⟨failure, -, result⟩ | ⟨payload, -, result⟩
  · rw [result] at run
    cases run
  · rw [result] at run
    have accepted := congrArg Prod.fst run
    obtain ⟨acting, stored, pushed⟩ := appendTrace_ok i now .routeDerivation rfl
      (snapshot.get "current_operator") payload .nil event accepted
    rw [run] at pushed
    exact ⟨(told_of_stored rfl stored).1, acting, pushed⟩

theorem treeAuthority_ok {policy : TreePolicy} {k : Instance} {clock : Nat → Int} {tick : Value}
    {o : Options} (run : treeAuthority policy i clock tick o = (.ok live, k)) :
    ∃ first second, Told first ∧ Told second ∧ k = (i.push first).push second
      ∧ live.isTable = true ∧ Acting i.packet (live.get "from") := by
  unfold treeAuthority at run
  cases derived : derivePressure policy i tick o with
  | error failure => rw [derived] at run; cases run
  | ok pressure =>
    rw [derived] at run
    dsimp only at run
    cases recorded : recordPressureSnapshot i (clock 0) pressure false with
    | mk answer j =>
      rw [recorded] at run
      cases answer with
      | error failure => cases run
      | ok snapshot =>
        obtain ⟨first, rfl, acting, stored, assigned⟩ := recordPressureSnapshot_ok recorded
        have toldFirst := (told_of_stored rfl stored).1
        have operator : snapshot.get "current_operator"
            = pressure.get "current_operator" :=
          get_of_setField_other (by decide) assigned
        rw [Reply.andThen] at run
        cases predicted : given (policy.predict (i.push first) snapshot o.context)
            >>= normalizeTreeEligibility snapshot with
        | error failure => rw [predicted] at run; cases run
        | ok prediction =>
          rw [predicted] at run
          dsimp only at run
          cases derivation : recordDerivation (i.push first) (clock 1) snapshot
              prediction with
          | mk answer k' =>
            rw [derivation] at run
            cases answer with
            | error failure => cases run
            | ok second =>
              obtain ⟨toldSecond, -, rfl⟩ := recordDerivation_ok derivation
              simp only [Reply.andThen, Prod.mk.injEq] at run
              have present : snapshot.get "current_operator" ≠ .nil := by
                intro absent
                have here := acting.here
                rw [← operator, absent] at here
                cases here
              obtain ⟨table, placed⟩ := treeLive_ok present run.1
              refine ⟨first, second, toldFirst, toldSecond, run.2.symm, table, ?_⟩
              rw [placed, operator]
              exact acting

/-! ## With a shadow and without -/

def without (name : String) : Value → Value
  | .table tag entries => .table tag (entries.filter fun entry => !entry.1.eq (.text name))
  | v => v

theorem without_setField {v w value : Value} {name : String}
    (assigned : v.setField name value = .ok w) : without name w = without name v := by
  cases v with
  | table tag entries =>
    cases assigned
    simp only [without, Value.table.injEq, true_and]
    induction entries with
    | nil =>
      by_cases gone : value = .nil
      · simp [Value.assign, gone]
      · simp [Value.assign, gone]
    | cons entry rest ih =>
      obtain ⟨key, bound⟩ := entry
      by_cases here : key.eq (.text name) = true
      · by_cases gone : value = .nil
        · simp [Value.assign, here, gone]
        · simp [Value.assign, here, gone]
      · simp [Value.assign, here, ih]
  | _ => cases assigned

/-- The call with a shadow returns when the call without it does, gives the same result but
for the shadow, and leaves the same body. -/
structure Harmless (observed plain : Reply Instance Value) : Prop where
  returns : observed.Succeeds ↔ plain.Succeeds
  result : ∀ a b, observed.1 = .ok a → plain.1 = .ok b → without "shadow" a = without "shadow" b
  body : bodyEvents observed.2.packet.trace = bodyEvents plain.2.packet.trace

theorem Harmless.refl (reply : Reply Instance Value) : Harmless reply reply := by
  refine ⟨Iff.rfl, ?_, rfl⟩
  intro a b left right
  rw [left] at right
  cases right
  rfl

theorem withShadow_harmless_iff (table : live.isTable = true) (shadow : Reply Instance Value)
    (j : Instance) (kept : bodyEvents shadow.2.packet.trace = bodyEvents j.packet.trace) :
    Harmless (withShadow live shadow) (.ok live, j) ↔ shadow.Succeeds := by
  obtain ⟨answer, k⟩ := shadow
  cases answer with
  | error failure =>
    refine iff_of_false ?_ (Reply.not_succeeds_error _ _)
    intro harmless
    exact Reply.not_succeeds_error failure k (harmless.returns.mpr ⟨live, rfl⟩)
  | ok recorded =>
    obtain ⟨w, assigned⟩ := setField_table table "shadow" recorded
    have run : withShadow live (.ok recorded, k) = (.ok w, k) := by
      rw [withShadow, Reply.andThen, assigned]
    rw [run]
    refine iff_of_true ⟨?_, ?_, kept⟩ ⟨recorded, rfl⟩
    · exact iff_of_true ⟨w, rfl⟩ ⟨live, rfl⟩
    · rintro a b left right
      cases left
      cases right
      exact without_setField assigned

def Options.treeShadowed (o : Options) : Options :=
  { o with
    mode := treeMode
    legacyShadow := if o.legacyShadow = .bool false then .nil else o.legacyShadow }

def Options.treeAlone (o : Options) : Options :=
  { o with mode := treeMode, legacyShadow := .bool false }

/-- `router_mode = "shadow"`, and `router_mode = "legacy"`. -/
def Options.legacyShadowed (o : Options) : Options := { o with mode := shadowMode }

def Options.legacyAlone (o : Options) : Options := { o with mode := legacyMode }

/-- The historical shadow of a tree decision can be left: there is no decision, or the
historical policy can read the position and the next observer id is not in use. -/
def TreeShadowSafe (world : World) (policy : TreePolicy) (i : Instance) (clock : Nat → Int)
    (tick : Value) (o : Options) : Prop :=
  (treeAuthority policy i clock tick o).Succeeds →
    LegacyReads world i tick o.body ∧ ObserverIdFree i.packet.trace

/-- The Packet takes a pressure snapshot as an event of the observer lane. -/
def Notes (i : Instance) (snapshot : Value) : Prop :=
  ∃ operator, snapshot.index "current_operator" = .ok operator ∧ Acting i.packet operator
    ∧ Trace.observerEvidence .tensionMeasure snapshot = true

/-- Once the next observer id is given away, the one that follows it is not in use. -/
def SecondIdFree (trace : List Event) : Prop :=
  let ids := trace.map Event.id ++ [Trace.nextTraceId trace .observerInstrumentation]
  ∀ id ∈ ids, Value.eq id (Trace.nextId .observerInstrumentation ids) = false

/-- The tree's shadow of a historical decision can be left: there is no decision, or the Packet
takes no event of the operator, or the observer lane has an id for the shadow, and before it one
for the snapshot where that is noted. -/
def LegacyShadowSafe (world : World) (policy : TreePolicy) (i : Instance) (tick : Value)
    (o : Options) : Prop :=
  ∀ live, legacyAfterTick world i tick .emptyTable = .ok live →
    Acting i.packet (Topology.value live.source) →
      ObserverIdFree i.packet.trace
        ∧ ∀ snapshot, derivePressure policy i tick o = .ok snapshot → Notes i snapshot →
          SecondIdFree i.packet.trace

theorem isShadow_legacyShadowTable (live predicted reason divergence : Value)
    (agreement : Bool) (status : String) :
    IsShadow (legacyShadowTable live predicted reason agreement divergence status)
      ∧ (legacyShadowTable live predicted reason agreement divergence status).get
        "current_operator" = live.get "from" :=
  ⟨⟨rfl, get_record (by simp) (by simp)⟩, get_record (by simp) (by simp)⟩

theorem recordShadow_acting (now : Int) (is : IsShadow shadow)
    (acting : Acting i.packet (shadow.get "current_operator")) :
    (recordShadow i now shadow).Succeeds ↔ ObserverIdFree i.packet.trace := by
  rcases recordShadow_cases i now is with
    ⟨idle, -⟩ | ⟨-, used, err, reply⟩ | ⟨-, unused, recorded, -, reply⟩
  · exact absurd acting idle
  · rw [reply]
    exact iff_of_false (Reply.not_succeeds_error _ _) used
  · rw [reply]
    exact iff_of_true (Reply.succeeds_ok _ _) unused

theorem recordShadow_body (i : Instance) (now : Int) (is : IsShadow shadow) :
    bodyEvents (recordShadow i now shadow).2.packet.trace = bodyEvents i.packet.trace := by
  rcases recordShadow_cases i now is with
    ⟨-, err, reply⟩ | ⟨-, -, err, reply⟩ | ⟨-, -, recorded, -, reply⟩
  · rw [reply]
  · rw [reply]
  · rw [reply]
    exact bodyEvents_observer rfl

theorem legacyShadowFromTree_succeeds_iff (i : Instance) (now : Int) (tick live : Value)
    (o : Options) (acting : Acting i.packet (live.get "from")) :
    (legacyShadowFromTree world i now tick live o).Succeeds ↔
      Answers (legacyAfterTick world i tick o.body) ∧ ObserverIdFree i.packet.trace := by
  unfold legacyShadowFromTree
  cases answered : legacyAfterTick world i tick o.body with
  | ok prediction =>
    obtain ⟨is, placed⟩ : IsShadow (observedLegacyShadow live prediction)
        ∧ (observedLegacyShadow live prediction).get "current_operator" = live.get "from" :=
      isShadow_legacyShadowTable live _ _ _ _ _
    rw [show Answers (.ok prediction) ↔ True from iff_of_true (.inl ⟨_, rfl⟩) trivial, true_and]
    exact recordShadow_acting now is (by rw [placed]; exact acting)
  | error failure =>
    cases failure with
    | refused err =>
      by_cases unsupported : err = .text "unsupported_route_source"
      · obtain ⟨is, placed⟩ : IsShadow (unavailableLegacyShadow live)
            ∧ (unavailableLegacyShadow live).get "current_operator" = live.get "from" :=
          isShadow_legacyShadowTable live _ _ _ _ _
        dsimp only
        rw [if_pos unsupported, unsupported,
          show Answers (.error (.refused (.text "unsupported_route_source"))) ↔ True from
            iff_of_true (.inr rfl) trivial, true_and]
        exact recordShadow_acting now is (by rw [placed]; exact acting)
      · dsimp only
        rw [if_neg unsupported]
        refine iff_of_false (Reply.not_succeeds_error _ _) ?_
        rintro ⟨⟨decision, same⟩ | same, -⟩
        · cases same
        · simp only [Except.error.injEq, unsupportedRouteSource, refuse,
            Failure.refused.injEq] at same
          exact unsupported same
    | raised | fault =>
      refine iff_of_false (Reply.not_succeeds_error _ _) ?_
      rintro ⟨⟨decision, same⟩ | same, -⟩ <;> cases same

theorem legacyShadowFromTree_body (i : Instance) (now : Int) (tick live : Value) (o : Options) :
    bodyEvents (legacyShadowFromTree world i now tick live o).2.packet.trace
      = bodyEvents i.packet.trace := by
  unfold legacyShadowFromTree
  split
  · exact recordShadow_body i now (isShadow_legacyShadowTable live _ _ _ _ _).1
  · split
    · exact recordShadow_body i now (isShadow_legacyShadowTable live _ _ _ _ _).1
    · rfl
  · rfl

variable (policy : TreePolicy)

theorem treeShadow_harmless_iff (i : Instance) (clock : Nat → Int) (tick : Value) (o : Options) :
    Harmless (afterTreeTick world policy i clock tick o.treeShadowed)
        (afterTreeTick world policy i clock tick o.treeAlone)
      ↔ TreeShadowSafe world policy i clock tick o := by
  unfold afterTreeTick TreeShadowSafe
  have shadowed : treeAuthority policy i clock tick o.treeShadowed
      = treeAuthority policy i clock tick o := rfl
  have alone : treeAuthority policy i clock tick o.treeAlone
      = treeAuthority policy i clock tick o := rfl
  rw [shadowed, alone]
  cases run : treeAuthority policy i clock tick o with
  | mk answer k =>
    cases answer with
    | error failure =>
      refine iff_of_true (Harmless.refl _) ?_
      intro succeeds
      exact absurd succeeds (Reply.not_succeeds_error _ _)
    | ok live =>
      obtain ⟨first, second, toldFirst, toldSecond, rfl, table, acting⟩ :=
        treeAuthority_ok run
      have kept : o.treeShadowed.legacyShadow ≠ .bool false := by
        unfold Options.treeShadowed
        by_cases off : o.legacyShadow = .bool false
        · simp [off]
        · simp [off]
      have ending : Acting (i.packet.push first |>.push second) (live.get "from") :=
        (acting_push toldSecond.telling _).mpr ((acting_push toldFirst.telling _).mpr acting)
      have free : ObserverIdFree (i.packet.push first |>.push second).trace
          ↔ ObserverIdFree i.packet.trace :=
        (observerIdFree_push toldSecond).trans (observerIdFree_push toldFirst)
      simp only [Reply.andThen]
      rw [if_neg kept, if_pos (show o.treeAlone.legacyShadow = .bool false from rfl),
        withShadow_harmless_iff table _ _ (legacyShadowFromTree_body _ _ _ _ _ _),
        legacyShadowFromTree_succeeds_iff _ _ _ _ _ _ ending,
        legacyAfterTick_push world _ toldSecond, legacyAfterTick_push world _ toldFirst,
        legacyAfterTick_answers_iff]
      constructor
      · rintro ⟨reads, unused⟩ -
        exact ⟨reads, free.mp unused⟩
      · intro safe
        obtain ⟨reads, unused⟩ := safe (Reply.succeeds_ok _ _)
        exact ⟨reads, free.mpr unused⟩

/-! ## The tree's shadow of a historical decision -/

theorem isShadow_treeShadowError (live : LegacyDecision) (err ref : Value) :
    IsShadow (treeShadowError live err ref)
      ∧ (treeShadowError live err ref).get "current_operator" = Topology.value live.source :=
  ⟨⟨rfl, get_record (by simp) (by simp)⟩, get_record (by simp) (by simp)⟩

theorem isShadow_observedTreeShadow (live : LegacyDecision) (snapshot prediction : Value) :
    IsShadow (observedTreeShadow live snapshot prediction)
      ∧ (observedTreeShadow live snapshot prediction).get "current_operator"
        = Topology.value live.source :=
  ⟨⟨rfl, get_record (by simp) (by simp)⟩, get_record (by simp) (by simp)⟩

theorem predictShadow_ok {policy : TreePolicy} {live : LegacyDecision} {o : Options}
    (made : predictShadow policy i snapshot live o = .ok shadow) :
    IsShadow shadow ∧ shadow.get "current_operator" = Topology.value live.source := by
  unfold predictShadow at made
  split at made
  · simp only [bind_eq_ok, pure_eq_ok] at made
    obtain ⟨-, -, rfl⟩ := made
    exact isShadow_observedTreeShadow live _ _
  · cases made
    exact isShadow_treeShadowError live _ _
  · cases made

/-- An event of the observer lane put at the end of the trace, or none. -/
def Watched (i j : Instance) : Prop :=
  j = i ∨ ∃ event, event.type = .tensionMeasure ∧ event.observer = true ∧ j = i.push event

theorem Watched.body (watched : Watched i j) :
    bodyEvents j.packet.trace = bodyEvents i.packet.trace := by
  rcases watched with rfl | ⟨event, -, tag, rfl⟩
  · rfl
  · exact bodyEvents_observer tag

theorem Watched.acting (watched : Watched i j) (operator : Value) :
    Acting j.packet operator ↔ Acting i.packet operator := by
  rcases watched with rfl | ⟨event, typed, -, rfl⟩
  · exact Iff.rfl
  · exact acting_push (by rw [typed]; rfl) operator

section

variable (i : Instance)

theorem observed_of_stored {operator payload : Value} (stored : Packet.Stored p now
    (Draft.ofTable (routerEvent .tensionMeasure operator payload observerLane)) event) :
    event.type = .tensionMeasure ∧ event.observer = true
      ∧ Trace.observerEvidence .tensionMeasure payload = true := by
  have typed := stored.type
  obtain ⟨lane, laned, -, observed⟩ := stored.lane
  rw [routerEvent_draft] at typed laned
  simp only [EventType.parse_name, Option.some.injEq] at typed
  have asked : observerLane.orElse (.text "body") = .text "observer_instrumentation" := rfl
  unfold Trace.identityLane at laned
  simp only [asked] at laned
  rw [if_neg (by decide), if_pos trivial] at laned
  split at laned
  · rename_i evidence
    cases laned
    rw [observed, typed]
    exact ⟨rfl, rfl, by simpa [typed] using evidence⟩
  · cases laned

theorem recordPressureSnapshot_watched (now : Int) (derived : Value) :
    Watched i (recordPressureSnapshot i now derived true).2 := by
  unfold recordPressureSnapshot
  cases derived.index "current_operator" with
  | error failure => exact .inl rfl
  | ok operator =>
    dsimp only
    cases appended : i.appendTrace now
        (routerEvent .tensionMeasure operator derived observerLane) with
    | mk answer state =>
      rw [if_pos rfl, appended]
      cases answer with
      | error failure =>
        refine .inl ?_
        have kept := appendTrace_error i now _ failure (congrArg Prod.fst appended)
        rw [appended] at kept
        exact kept
      | ok event =>
        obtain ⟨-, stored, pushed⟩ := appendTrace_ok i now .tensionMeasure rfl operator
          derived observerLane event (congrArg Prod.fst appended)
        rw [appended] at pushed
        obtain ⟨typed, observed, -⟩ := observed_of_stored stored
        exact .inr ⟨event, typed, observed, pushed⟩

theorem observerIdFree_observed (now : Int) (payload : Value) :
    ObserverIdFree (i.push (observerEvent i.packet now payload)).packet.trace
      ↔ SecondIdFree i.packet.trace := by
  have ids : (i.packet.trace ++ [observerEvent i.packet now payload]).map Event.id
      = i.packet.trace.map Event.id
        ++ [Trace.nextTraceId i.packet.trace .observerInstrumentation] := by
    rw [map_append]
    rfl
  unfold SecondIdFree
  rw [← ids, forall_mem_map]
  rfl

theorem recordPressureSnapshot_idFree (now : Int) (derived : Value) :
    ObserverIdFree (recordPressureSnapshot i now derived true).2.packet.trace
      ↔ ObserverIdFree i.packet.trace ∧ (Notes i derived → SecondIdFree i.packet.trace) := by
  unfold recordPressureSnapshot Notes
  cases derived.index "current_operator" with
  | error failure => simp
  | ok operator =>
    simp only [Except.ok.injEq, exists_eq_left', if_true]
    by_cases evidence : Trace.observerEvidence .tensionMeasure derived = true
    · rcases appendTrace_observer i now operator derived evidence with
        ⟨idle, err, reply⟩ | ⟨-, used, err, reply⟩ | ⟨acting, unused, reply⟩
      · rw [reply]
        exact (and_iff_left fun noted => absurd noted.1 idle).symm
      · rw [reply]
        exact iff_of_false used fun safe => used safe.1
      · rw [reply]
        refine (observerIdFree_observed i now derived).trans ?_
        exact ⟨fun free => ⟨unused, fun _ => free⟩, fun safe => safe.2 ⟨acting, evidence⟩⟩
    · -- what is no observation is refused in the observer lane
      cases appended : i.appendTrace now
          (routerEvent .tensionMeasure operator derived observerLane) with
      | mk answer state =>
        cases answer with
        | error failure =>
          have kept := appendTrace_error i now _ failure (congrArg Prod.fst appended)
          rw [appended] at kept
          subst kept
          exact (and_iff_left fun noted => absurd noted.2 evidence).symm
        | ok event =>
          obtain ⟨-, stored, -⟩ := appendTrace_ok i now .tensionMeasure rfl operator derived
            observerLane event (congrArg Prod.fst appended)
          exact absurd (observed_of_stored stored).2.2 evidence

theorem deriveShadow_watched (now : Int) (tick : Value) (live : LegacyDecision)
    (o : Options) :
    Watched i (deriveShadow policy i now tick live o).2 := by
  unfold deriveShadow
  cases derivePressure policy i tick o with
  | error failure => cases failure <;> exact .inl rfl
  | ok derived =>
    have watched := recordPressureSnapshot_watched i now derived
    dsimp only
    cases recorded : recordPressureSnapshot i now derived true with
    | mk answer j =>
      rw [recorded] at watched
      cases answer with
      | error failure => cases failure <;> exact watched
      | ok snapshot => exact watched

theorem deriveShadow_idFree (now : Int) (tick : Value) (live : LegacyDecision) (o : Options) :
    ObserverIdFree (deriveShadow policy i now tick live o).2.packet.trace
      ↔ ObserverIdFree i.packet.trace
        ∧ ∀ snapshot, derivePressure policy i tick o = .ok snapshot → Notes i snapshot →
          SecondIdFree i.packet.trace := by
  unfold deriveShadow
  cases derivePressure policy i tick o with
  | error failure => cases failure <;> simp
  | ok derived =>
    have free := recordPressureSnapshot_idFree i now derived
    simp only [Except.ok.injEq, forall_eq']
    cases recorded : recordPressureSnapshot i now derived true with
    | mk answer j =>
      rw [recorded] at free
      cases answer with
      | error failure => cases failure <;> exact free
      | ok snapshot => exact free

theorem isShadow_protectedShadow (policy : TreePolicy) (i : Instance) (now : Int)
    (tick : Value) (live : LegacyDecision) (o : Options) :
    let shadow := protectedShadow live (deriveShadow policy i now tick live o).1
    IsShadow shadow ∧ shadow.get "current_operator" = Topology.value live.source := by
  intro shadow
  cases made : (deriveShadow policy i now tick live o).1 with
  | error failure =>
    have named : shadow = treeShadowError live (errorValue failure) .nil := by
      simp only [shadow, protectedShadow, made]
    rw [named]
    exact isShadow_treeShadowError live _ _
  | ok table =>
    have named : shadow = table := by simp only [shadow, protectedShadow, made]
    rw [named]
    unfold deriveShadow at made
    split at made
    · cases made
      exact isShadow_treeShadowError live _ _
    · cases made
    · split at made
      · cases made
        exact isShadow_treeShadowError live _ _
      · cases made
      · exact predictShadow_ok made

theorem shadowWithoutAuthority_body (clock : Nat → Int) (tick : Value)
    (live : LegacyDecision) (o : Options) :
    bodyEvents (shadowWithoutAuthority policy i clock tick live o).2.packet.trace
      = bodyEvents i.packet.trace := by
  have watched := deriveShadow_watched policy i (clock 0) tick live o
  obtain ⟨is, -⟩ := isShadow_protectedShadow policy i (clock 0) tick live o
  have kept := (recordShadow_body (deriveShadow policy i (clock 0) tick live o).2 (clock 1)
    is).trans watched.body
  unfold shadowWithoutAuthority
  dsimp only
  split
  · rename_i err k recorded
    rw [recorded] at kept
    exact kept
  · exact kept

theorem shadowWithoutAuthority_succeeds_iff (clock : Nat → Int) (tick : Value)
    (live : LegacyDecision) (o : Options) :
    (shadowWithoutAuthority policy i clock tick live o).Succeeds ↔
      (Acting i.packet (Topology.value live.source) → ObserverIdFree i.packet.trace
        ∧ ∀ snapshot, derivePressure policy i tick o = .ok snapshot → Notes i snapshot →
          SecondIdFree i.packet.trace) := by
  rw [← deriveShadow_idFree policy i (clock 0) tick live o]
  obtain ⟨is, placed⟩ := isShadow_protectedShadow policy i (clock 0) tick live o
  have acts := (deriveShadow_watched policy i (clock 0) tick live o).acting
    (Topology.value live.source)
  have ends := recordShadow_cases (deriveShadow policy i (clock 0) tick live o).2 (clock 1) is
  rw [placed] at ends
  unfold shadowWithoutAuthority
  dsimp only
  rcases ends with
    ⟨idle, err, reply⟩ | ⟨acting, used, err, reply⟩ | ⟨-, unused, recorded, -, reply⟩
  · rw [reply]
    obtain ⟨noted, assigned⟩ := setField_table is.table "trace_error" (.str err.tostring)
    refine iff_of_true ⟨noted, assigned⟩ ?_
    intro acting
    exact absurd (acts.mpr acting) idle
  · rw [reply]
    refine iff_of_false (Reply.not_succeeds_error _ _) ?_
    intro safe
    exact used (safe (acts.mp acting))
  · rw [reply]
    exact iff_of_true (Reply.succeeds_ok _ _) fun _ => unused

theorem legacyShadow_harmless_iff (clock : Nat → Int) (tick : Value) (o : Options) :
    Harmless (afterLegacyTick world policy i clock tick o true)
        (afterLegacyTick world policy i clock tick o false)
      ↔ LegacyShadowSafe world policy i tick o := by
  unfold afterLegacyTick LegacyShadowSafe
  cases answered : legacyAfterTick world i tick .emptyTable with
  | error failure =>
    refine iff_of_true (Harmless.refl _) ?_
    intro live same
    cases same
  | ok live =>
    dsimp only
    rw [if_pos rfl, if_neg Bool.false_ne_true,
      withShadow_harmless_iff (show live.toValue.isTable = true from rfl) _ _
        (shadowWithoutAuthority_body policy i clock tick live o),
      shadowWithoutAuthority_succeeds_iff]
    constructor
    · rintro safe live' same
      cases same
      exact safe
    · intro safe
      exact safe live rfl

end

/-! ## Both shadows -/

/-- Neither shadow changes what `router.after_tick` decides or stops it. -/
def ShadowsHarmless (world : World) (policy : TreePolicy) (i : Instance) (clock : Nat → Int)
    (tick : Value) (o : Options) : Prop :=
  Harmless (afterTick world policy i clock tick o.treeShadowed)
      (afterTick world policy i clock tick o.treeAlone)
    ∧ Harmless (afterTick world policy i clock tick o.legacyShadowed)
      (afterTick world policy i clock tick o.legacyAlone)

theorem shadows_harmless_iff (world : World) (policy : TreePolicy) (i : Instance)
    (clock : Nat → Int) (tick : Value) (o : Options) :
    ShadowsHarmless world policy i clock tick o ↔
      TreeShadowSafe world policy i clock (tick.orElse .emptyTable) o
        ∧ LegacyShadowSafe world policy i (tick.orElse .emptyTable) o := by
  rw [← treeShadow_harmless_iff, ← legacyShadow_harmless_iff]
  rfl

def bare (p : Packet) : Instance where
  packet := p
  karma := .nil
  foundation := .nil
  evidence := .nil
  logicStamp := .nil
  choices := .nil
  validations := .nil
  cycles := .nil

def emptyWorld : World where
  referentHash _ := .nil
  isComplete _ _ _ := .ok false
  isComplete_push _ _ _ := rfl

def quietPrediction (snapshot : Value) : Value :=
  .record [("kind", .text "no_viable_edge"), ("cause", .text "missing_capability"),
    ("candidates", .array ([.connect, .dissolve, .observe].map fun target =>
      .record [("to", Topology.value target), ("total", .nat 0), ("excluded", .bool true)])),
    ("threshold", .nat 0), ("policy", .text "pressure.binary.v0"),
    ("policy_status", .text "vibed_control"), ("from", snapshot.get "current_operator"),
    ("source_snapshot_ref", snapshot.get "trace_event_id")]

def quietPolicy : TreePolicy where
  derive i _ operator _ :=
    match Topology.resolve operator with
    | none => .error (refuse "invalid current operator")
    | some source => .ok (.record [("kind", .text "edge_pressure_snapshot"),
        ("packet_id", i.packet.id), ("current_operator", Topology.value source),
        ("derivation_version", .text "pressure.binary.v0"), ("contributions", .emptyTable)])
  predict _ snapshot _ := .ok (quietPrediction snapshot)

def flowTick : Value := .record [("operator", Topology.value .flow)]

def strayStart : Options where
  mode := .nil
  legacyShadow := .nil
  options := .record [("start_operator", Topology.value .runtime)]
  substrate := .nil
  capabilities := .nil
  result := .nil
  tree := .nil

/-- At FLOW a start operator that is no neighbour stops the tree's decision when the
historical shadow is on. -/
theorem start_operator_stops_tree :
    ∃ p, Packet.new Packet.refusingSchemas 1 0 (.text "task") .nil = .ok p
      ∧ ¬ ShadowsHarmless emptyWorld quietPolicy (bare p) (fun _ => 0) flowTick strayStart := by
  obtain ⟨p, born, facts⟩ := Packet.task_born_passing
    (fun p =>
      decide ((afterTick emptyWorld quietPolicy (bare p) (fun _ => 0) flowTick
          strayStart.treeAlone).Succeeds)
        && decide (¬ (afterTick emptyWorld quietPolicy (bare p) (fun _ => 0) flowTick
          strayStart.treeShadowed).Succeeds))
    (by decide)
  simp only [Bool.and_eq_true, decide_eq_true_eq] at facts
  refine ⟨p, born, ?_⟩
  rintro ⟨tree, -⟩
  exact facts.2 (tree.returns.mpr facts.1)

end Proc17.Runtime.Router
