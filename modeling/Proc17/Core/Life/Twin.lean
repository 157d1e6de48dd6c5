import Proc17.Core.Life.Authority

/-!
# Packets with the same body

Two Packets that differ only in the observer events of their traces.  Every scan of
the trace that the writers make is blind to observer events, so the writers do the
same to both and give the same answers.
-/

namespace Proc17.Core.Packet

open Lua List

/-! ## The body of a trace -/

def bodyEvents (trace : List Event) : List Event := trace.filter fun event => !event.observer

def bodyOf (p : Packet) : Packet := { p with trace := bodyEvents p.trace }

def laneOf (event : Event) : Lane :=
  if event.observer then .observerInstrumentation else .body

def InLane (lane : Lane) (id : Value) : Prop :=
  ∃ rest, id = .str (Trace.lanePrefix lane ++ rest)

/-- An event whose id and type agree with its lane tag. -/
structure Marked (event : Event) : Prop where
  id : InLane (laneOf event) event.id
  type : event.observer = true → event.type = .tensionMeasure

theorem inLane_nextTraceId (trace : List Event) (lane : Lane) :
    InLane lane (Trace.nextTraceId trace lane) := ⟨_, rfl⟩

variable {lane other : Lane} {p q : Packet} {α β : Type} {draft : Draft} {id : Value}

theorem inLane_unique (first : InLane lane id) (second : InLane other id) :
    lane = other := by
  obtain ⟨rest, rfl⟩ := first
  obtain ⟨rest', same⟩ := second
  have body : Trace.lanePrefix .body = 101 :: [118, 101, 110, 116, 45] := by decide
  have observer : Trace.lanePrefix .observerInstrumentation
      = 111 :: [98, 115, 101, 114, 118, 101, 114, 45, 101, 118, 101, 110, 116, 45] := by decide
  cases lane <;> cases other <;> first | rfl | simp [body, observer] at same

theorem eq_false_of_inLane {a b : Value} (left : InLane lane a) (right : InLane other b)
    (differ : lane ≠ other) : Value.eq a b = false := by
  obtain ⟨rest, rfl⟩ := right
  rw [← Bool.not_eq_true]
  intro equal
  have same := Value.eq_of_eq_str equal
  exact differ (inLane_unique left ⟨rest, same⟩)

theorem ordinal_of_inLane (here : InLane lane id) (differ : lane ≠ other) :
    Trace.ordinal other id = none := by
  obtain ⟨rest, rfl⟩ := here
  rw [Trace.ordinal, digits_other lane other rest differ, Option.map_none]

variable {event : Event}

theorem Marked.laneOf_observer (marked : Marked event)
    (observed : event.observer = true) : InLane .observerInstrumentation event.id := by
  have here := marked.id
  rwa [laneOf, if_pos observed] at here

/-- What `assert_actor_tick` gives back of a lease. -/
def leaseFace (lease : Trace.Lease) : Event × Trace.LeaseKind := (lease.event, lease.kind)

section Scans

variable {trace : List Event} (marked : ∀ event ∈ trace, Marked event)
include marked

theorem nextTraceId_body :
    Trace.nextTraceId (bodyEvents trace) .body = Trace.nextTraceId trace .body := by
  have scan : ∀ (rest : List Event) (start : Number), (∀ event ∈ rest, Marked event) →
      ((bodyEvents rest).map Event.id).foldl (Trace.higher .body) start
        = (rest.map Event.id).foldl (Trace.higher .body) start := by
    intro rest
    induction rest with
    | nil => intro start _; rfl
    | cons event rest ih =>
      intro start all
      have later : ∀ other ∈ rest, Marked other := by
        intro other member
        exact all other (by simp [member])
      cases tag : event.observer with
      | false =>
        have kept : bodyEvents (event :: rest) = event :: bodyEvents rest := by
          simp [bodyEvents, tag]
        rw [kept, map_cons, map_cons, foldl_cons, foldl_cons, ih _ later]
      | true =>
        have dropped : bodyEvents (event :: rest) = bodyEvents rest := by
          simp [bodyEvents, tag]
        -- an observer id has no number in the body lane
        have ignored : Trace.higher .body start event.id = start := by
          rw [Trace.higher, ordinal_of_inLane
            ((all event (by simp)).laneOf_observer tag) (by decide)]
        rw [dropped, map_cons, foldl_cons, ignored, ih _ later]
  rw [Trace.nextTraceId, Trace.nextTraceId, Trace.nextId, Trace.nextId, Trace.highest,
    Trace.highest, scan trace (.int 0) marked]

theorem unused_body (here : InLane .body id) :
    (∀ event ∈ bodyEvents trace, Value.eq event.id id = false) ↔
      ∀ event ∈ trace, Value.eq event.id id = false := by
  constructor
  · intro unused event member
    cases tag : event.observer with
    | false => exact unused event (mem_filter.mpr ⟨member, by simp [tag]⟩)
    | true =>
      exact eq_false_of_inLane ((marked event member).laneOf_observer tag) here (by decide)
  · intro unused event member
    exact unused event (mem_filter.mp member).1

theorem eventById_body (id : Value) :
    Trace.eventById (bodyEvents trace) id
      = (Trace.eventById trace id).filter fun event => !event.observer := by
  have text : ∀ event ∈ trace, ∀ other ∈ trace, Value.eq event.id id = true →
      Value.eq other.id id = true → event.observer = other.observer := by
    intro event member other member' equal equal'
    obtain ⟨rest, shape⟩ := (marked event member).id
    obtain ⟨rest', shape'⟩ := (marked other member').id
    cases id with
    | str s =>
      have same := Value.eq_of_eq_str equal
      have same' := Value.eq_of_eq_str equal'
      have lanes := inLane_unique (marked event member).id
        (by rw [same, ← same']; exact (marked other member').id)
      unfold laneOf at lanes
      cases tag : event.observer <;> cases tag' : other.observer <;> simp_all
    | _ => rw [shape] at equal; cases equal
  clear marked
  unfold Trace.eventById bodyEvents
  induction trace with
  | nil => rfl
  | cons event rest ih =>
    have later := ih fun a member b member' =>
      text a (by simp [member]) b (by simp [member'])
    by_cases found : Value.eq event.id id = true
    · cases tag : event.observer with
      | false => simp [tag, found, Option.filter]
      | true =>
        -- no later event of that id is a body event
        have none : ∀ other ∈ rest, other.observer = false → Value.eq other.id id = false := by
          intro other member own
          rw [← Bool.not_eq_true]
          intro equal
          have same := text event (by simp) other (by simp [member]) found equal
          rw [tag, own] at same
          cases same
        simp only [tag, found, filter_cons, Bool.not_true, Bool.false_eq_true,
          if_false, List.find?_cons_of_pos, Option.filter_some]
        rw [List.find?_eq_none]
        intro other member
        obtain ⟨inRest, own⟩ := mem_filter.mp member
        rw [none other inRest (by simpa using own)]
        decide
    · have skipped : (event :: rest).find? (fun e => Value.eq e.id id)
          = rest.find? fun e => Value.eq e.id id := List.find?_cons_of_neg found
      rw [skipped, ← later]
      cases tag : event.observer with
      | false => simp [tag, found]
      | true => simp [tag]

theorem bodyTraceTail_body (count : Value) :
    Trace.bodyTraceTail (bodyEvents trace) count = Trace.bodyTraceTail trace count := by
  have scan : ∀ (count : Number) (reversed found : List Event),
      (∀ event ∈ reversed, Marked event) →
      Trace.collectTail count (reversed.filter fun event => !event.observer) found
        = Trace.collectTail count reversed found := by
    intro count reversed
    induction reversed with
    | nil => intro found _; rfl
    | cons event earlier ih =>
      intro found all
      have others : ∀ other ∈ earlier, Marked other := by
        intro other member
        exact all other (by simp [member])
      cases tag : event.observer with
      | false =>
        rw [filter_cons_of_pos (by simp [tag]), Trace.collectTail, Trace.collectTail, ih _ others, ih _ others]
      | true =>
        have away : Trace.storedLane event ≠ .body := by simp [Trace.storedLane, tag]
        rw [filter_cons_of_neg (by simp [tag]), ih _ others, Trace.collectTail, if_neg away]
  have reversed : ∀ event ∈ trace.reverse, Marked event := by
    intro event member
    exact marked event (mem_reverse.mp member)
  unfold Trace.bodyTraceTail bodyEvents
  cases count with
  | num n => simp only [← filter_reverse, scan n trace.reverse [] reversed]
  | _ => rfl

theorem currentVisitLease_body (actor : Operator) :
    (Trace.currentVisitLease (bodyEvents trace) actor).map leaseFace
      = (Trace.currentVisitLease trace actor).map leaseFace := by
  have scan : ∀ reversed : List Event, (∀ event ∈ reversed, Marked event) →
      (Trace.leaseFrom actor (reversed.filter fun event => !event.observer)).map
          leaseFace
        = (Trace.leaseFrom actor reversed).map leaseFace := by
    intro reversed
    induction reversed with
    | nil => intro _; rfl
    | cons event earlier ih =>
      intro all
      have later := ih fun other member => all other (by simp [member])
      cases tag : event.observer with
      | false =>
        rw [filter_cons_of_pos (by simp [tag]), Trace.leaseFrom, Trace.leaseFrom]
        split
        · split <;> rfl
        · split
          · rfl
          · split
            · rfl
            · exact later
      | true =>
        have typed := (all event (by simp)).type tag
        rw [filter_cons_of_neg (by simp [tag]), later, Trace.leaseFrom, typed]
        simp
  have reversed : ∀ event ∈ trace.reverse, Marked event := by
    intro event member
    exact marked event (mem_reverse.mp member)
  unfold Trace.currentVisitLease bodyEvents
  rw [← filter_reverse, scan trace.reverse reversed]

theorem visit_body (actor : Operator) (before since : List Event) (lease : Event) :
    Visit (bodyEvents trace) actor before lease since ↔
      ∃ earlier later, Visit trace actor earlier lease later
        ∧ before = bodyEvents earlier ∧ since = bodyEvents later := by
  constructor
  · intro visit
    have split := visit.split
    unfold bodyEvents at split
    obtain ⟨first, rest, shape, firstBody, restBody⟩ := filter_eq_append_iff.mp split
    obtain ⟨skipped, later, restShape, observers, -, laterBody⟩ :=
      filter_eq_cons_iff.mp restBody
    refine ⟨first ++ skipped, later, ⟨?_, visit.opens, ?_⟩, ?_, laterBody.symm⟩
    · rw [shape, restShape, append_assoc]
    · intro event member
      cases tag : event.observer with
      | false =>
        refine visit.holds event ?_
        rw [← laterBody]
        exact mem_filter.mpr ⟨member, by simp [tag]⟩
      | true =>
        have typed := (marked event (by rw [shape, restShape]; simp [member])).type tag
        simp [typed]
    · have none : bodyEvents skipped = [] := by
        rw [bodyEvents, filter_eq_nil_iff]
        exact observers
      unfold bodyEvents at none ⊢
      rw [filter_append, none, append_nil, firstBody]
  · rintro ⟨earlier, later, visit, rfl, rfl⟩
    have own : lease.observer = false := by
      rw [← Bool.not_eq_true]
      intro tag
      have typed := (marked lease (by rw [visit.split]; simp)).type tag
      rcases visit.opens with ⟨ticked, -⟩ | ⟨atBirth, -⟩ <;> simp_all
    refine ⟨?_, visit.opens, ?_⟩
    · rw [visit.split]
      simp [bodyEvents, own]
    · intro event member
      exact visit.holds event (mem_filter.mp member).1

end Scans

/-! ## Twins -/

structure Twin (p q : Packet) : Prop where
  same : bodyOf p = bodyOf q
  left : ∀ event ∈ p.trace, Marked event
  right : ∀ event ∈ q.trace, Marked event

def Agree {α : Type} (left right : Reply Packet α) : Prop :=
  left.1 = right.1 ∧ Twin left.2 right.2

section

variable (twin : Twin p q)
include twin

theorem Twin.reads (f : Packet → α)
    (blind : ∀ r : Packet, (∀ event ∈ r.trace, Marked event) → f (bodyOf r) = f r) :
    f p = f q := by
  rw [← blind p twin.left, ← blind q twin.right, twin.same]

theorem Twin.write (f : Packet → Packet)
    (kept : ∀ r : Packet, (f r).trace = r.trace) (blind : ∀ r : Packet, bodyOf (f r) = f (bodyOf r)) :
    Twin (f p) (f q) := by
  refine ⟨?_, ?_, ?_⟩
  · rw [blind, blind, twin.same]
  · rw [kept]
    exact twin.left
  · rw [kept]
    exact twin.right

theorem Twin.assertMutable (operation : String) :
    p.assertMutable operation = q.assertMutable operation :=
  twin.reads (fun r => r.assertMutable operation) fun _ _ => rfl

theorem Twin.assertActorTick (actor : Value) (operation : String) :
    (p.assertActorTick actor operation).map leaseFace
      = (q.assertActorTick actor operation).map leaseFace := by
  refine twin.reads (fun r => (r.assertActorTick actor operation).map leaseFace) ?_
  intro r marked
  have mutable : (bodyOf r).assertMutable operation = r.assertMutable operation := rfl
  unfold Packet.assertActorTick
  rw [mutable]
  cases r.assertMutable operation with
  | error failure => rfl
  | ok u =>
    cases Topology.resolve actor with
    | none => rfl
    | some operator =>
      have leases := currentVisitLease_body marked operator
      by_cases here : operator = r.operator
      · have here' : operator = (bodyOf r).operator := here
        simp only [require, if_pos here, if_pos here', bind, Except.bind]
        have body : (bodyOf r).trace = bodyEvents r.trace := rfl
        rw [body]
        cases left : Trace.currentVisitLease (bodyEvents r.trace) operator <;>
          cases right : Trace.currentVisitLease r.trace operator <;>
          rw [left, right] at leases <;> simp_all [Except.map]
      · have here' : ¬ operator = (bodyOf r).operator := here
        simp only [require, if_neg here, if_neg here', bind, Except.bind]

theorem Twin.afterActorTick (actor : Value) (operation : String)
    (next : Except Failure α) :
    (p.assertActorTick actor operation >>= fun _ => next)
      = (q.assertActorTick actor operation >>= fun _ => next) := by
  have faces := twin.assertActorTick actor operation
  cases left : p.assertActorTick actor operation <;>
    cases right : q.assertActorTick actor operation <;>
    rw [left, right] at faces <;> simp_all [Except.map, bind, Except.bind]

end

theorem Agree.transact {left right : Except Failure β} (commit commit' : β → Reply Packet α)
    (twin : Twin p q) (plans : left = right)
    (committed : ∀ b, left = .ok b → Agree (commit b) (commit' b)) :
    Agree (transact left commit p) (transact right commit' q) := by
  subst plans
  cases left with
  | error failure => exact ⟨rfl, twin⟩
  | ok b => exact committed b rfl

theorem Agree.andThen {left right : Reply Packet α} (next next' : α → Packet → Reply Packet β)
    (first : Agree left right) (continued : ∀ a r s, Twin r s → Agree (next a r) (next' a s)) :
    Agree (left.andThen next) (right.andThen next') := by
  obtain ⟨result, r⟩ := left
  obtain ⟨result', s⟩ := right
  obtain ⟨same, twin⟩ := first
  cases same
  cases result with
  | error failure => exact ⟨rfl, twin⟩
  | ok a => exact continued a r s twin

theorem Agree.map {left right : Reply Packet α} (f : α → β) (agree : Agree left right) :
    Agree (left.map f) (right.map f) :=
  ⟨congrArg (Except.map f) agree.1, agree.2⟩

/-! ## Appending to twins -/

structure BodyDraft (draft : Draft) : Prop where
  unnamed : draft.id.truthy = false
  lane : ∀ type, EventType.parse draft.type = some type →
    Trace.identityLane draft type ≠ .ok .observerInstrumentation

theorem bodyDraft_own (type : EventType) (operator truthStatus payload cost : Value) :
    BodyDraft (.own type operator truthStatus payload cost) := by
  refine ⟨rfl, fun type' _ => ?_⟩
  simp [Trace.identityLane, Draft.own, Value.orElse, Value.truthy]

theorem identityLane_eq_observer (draft : Draft) (type : EventType) :
    Trace.identityLane draft type = .ok .observerInstrumentation ↔
      draft.identityLane = .text "observer_instrumentation"
        ∧ Trace.observerEvidence type draft.payload = true := by
  unfold Trace.identityLane
  have differ : Value.text "observer_instrumentation" ≠ .text "body" := by decide
  by_cases observed : draft.identityLane = .text "observer_instrumentation"
  · have given : draft.identityLane.orElse (.text "body")
        = .text "observer_instrumentation" := by rw [observed]; rfl
    rw [if_neg (by rw [given]; exact differ), if_pos given]
    split <;> simp_all
  · simp only [observed, false_and, iff_false]
    have other : draft.identityLane.orElse (.text "body") ≠ .text "observer_instrumentation" := by
      unfold Value.orElse
      split
      · exact observed
      · exact differ.symm
    simp only [if_neg other]
    split <;> simp

theorem marked_of_stored {now : Int} (unnamed : draft.id.truthy = false)
    (stored : p.storedEvent now draft = .ok event) :
    Marked event := by
  have facts := (storedEvent_eq_ok p now draft event).mp stored
  obtain ⟨lane, laned, identified, observed⟩ := facts.lane
  have handed : event.id = Trace.nextTraceId p.trace lane := by
    rw [identified, Value.orElse, unnamed]
    rfl
  refine ⟨?_, ?_⟩
  · have same : laneOf event = lane := by
      rw [laneOf, observed]
      cases lane <;> rfl
    rw [same, handed]
    exact inLane_nextTraceId p.trace lane
  · intro tag
    rw [observed, decide_eq_true_eq] at tag
    rw [tag] at laned
    have evidence := ((identityLane_eq_observer draft event.type).mp laned).2
    simp only [Trace.observerEvidence, Bool.and_eq_true, decide_eq_true_eq] at evidence
    exact evidence.1.1

section

variable (twin : Twin p q)
include twin

section

variable (now : Int)

theorem Twin.storedEvent (body : BodyDraft draft) :
    p.storedEvent now draft = q.storedEvent now draft := by
  refine twin.reads (fun r => r.storedEvent now draft) ?_
  intro r marked
  unfold Packet.storedEvent
  cases valid : validateEvent draft with
  | error failure => rfl
  | ok checked =>
    obtain ⟨type, operator, truthStatus⟩ := checked
    have typed := ((validateEvent_eq_ok draft type operator truthStatus).mp valid).1
    cases laned : Trace.identityLane draft type with
    | error failure => simp only [laned, bind, Except.bind]
    | ok lane =>
      cases lane with
      | observerInstrumentation => exact absurd laned (body.lane type typed)
      | body =>
        have next : draft.id.orElse (Trace.nextTraceId (bodyOf r).trace .body)
            = draft.id.orElse (Trace.nextTraceId r.trace .body) := by
          rw [show (bodyOf r).trace = bodyEvents r.trace from rfl, nextTraceId_body marked]
        have given : draft.id.orElse (Trace.nextTraceId r.trace .body)
            = Trace.nextTraceId r.trace .body := by
          rw [Value.orElse, body.unnamed]
          rfl
        have unused := unused_body marked (inLane_nextTraceId r.trace .body)
        simp only [laned, bind, Except.bind, next, given, require]
        have guard : (∀ event ∈ (bodyOf r).trace,
            Value.eq event.id (Trace.nextTraceId r.trace .body) = false) ↔
            ∀ event ∈ r.trace,
              Value.eq event.id (Trace.nextTraceId r.trace .body) = false := unused
        by_cases fresh : ∀ event ∈ r.trace,
            Value.eq event.id (Trace.nextTraceId r.trace .body) = false
        · rw [if_pos fresh, if_pos (guard.mpr fresh)]
          rfl
        · rw [if_neg fresh, if_neg fun other => fresh (guard.mp other)]

theorem Twin.push (marked : Marked event) :
    Twin (p.push event) (q.push event) := by
  have pushed : ∀ r : Packet, (∀ other ∈ r.trace, Marked other) →
      ∀ other ∈ (r.push event).trace, Marked other := by
    intro r all
    exact forall_mem_append.mpr ⟨all, forall_mem_singleton.mpr marked⟩
  refine ⟨?_, pushed p twin.left, pushed q twin.right⟩
  have shape : ∀ r : Packet, bodyOf (r.push event)
      = { bodyOf r with trace := (bodyOf r).trace ++ bodyEvents [event] } := by
    intro r
    simp only [bodyOf, Packet.push, bodyEvents, filter_append]
  rw [shape, shape, twin.same]

theorem Agree.emitThen (body : BodyDraft draft)
    (write : Event → Packet → Packet)
    (written : ∀ event r s, Twin r s → Twin (write event r) (write event s)) :
    Agree (p.emitThen now draft write) (q.emitThen now draft write) := by
  unfold Packet.emitThen
  rw [← twin.storedEvent now body]
  cases stored : p.storedEvent now draft with
  | error failure => exact ⟨rfl, twin⟩
  | ok event =>
    exact ⟨rfl, written event _ _ (twin.push (marked_of_stored body.unnamed stored))⟩

theorem Agree.emit (body : BodyDraft draft) :
    Agree (p.emit now draft) (q.emit now draft) :=
  Agree.emitThen twin now body _ fun _ _ _ later => later

/-! ## The writers on twins -/

theorem beginTick_agree (operator inputRefs : Value) :
    Agree (p.beginTick now operator inputRefs) (q.beginTick now operator inputRefs) := by
  refine Agree.transact _ _ twin
    (twin.reads (fun r => r.tickPlan operator inputRefs) fun _ _ => rfl) ?_
  intro draft planned
  obtain ⟨-, -, -, rfl⟩ := (tickPlan_eq_ok p operator inputRefs draft).mp planned
  exact Agree.emit (twin.write wake (fun _ => rfl) fun _ => rfl) now (bodyDraft_own _ _ _ _ _)

theorem Twin.matchingDerivation (decision : Value) (source target : Operator) :
    p.matchingDerivation decision source target
      = q.matchingDerivation decision source target := by
  refine twin.reads (fun r => r.matchingDerivation decision source target) ?_
  intro r marked
  have found := eventById_body marked (decision.get "derivation_ref")
  unfold Packet.matchingDerivation
  rw [show (bodyOf r).trace = bodyEvents r.trace from rfl, found]
  cases cited : Trace.eventById r.trace (decision.get "derivation_ref") with
  | none => rfl
  | some event =>
    cases tag : event.observer with
    | false => simp only [Option.filter, tag, Bool.not_false, if_true]
    | true =>
      -- an observer event is no derivation
      have member := mem_of_find?_eq_some cited
      have typed := (marked event member).type tag
      simp [Option.filter, tag, typed, require, bind, Except.bind]

/-- The pressure reference of a tree route names the same event, or none, on both
sides. -/
def CitesAlike (p q : Packet) : Call → Prop
  | .commitTransition decision =>
    routeAuthority decision = .text "tree" →
      Trace.eventById p.trace (decision.get "pressure_snapshot_ref")
        = Trace.eventById q.trace (decision.get "pressure_snapshot_ref")
  | _ => True

theorem Twin.routePlan (decision : Value)
    (alike : CitesAlike p q (.commitTransition decision)) :
    p.routePlan decision = q.routePlan decision := by
  have mutable := twin.assertMutable "commit transition"
  have ends : p.routeEnds decision = q.routeEnds decision :=
    twin.reads (fun r => r.routeEnds decision) fun _ _ => rfl
  have candidate : ∀ source target, p.routeCandidate decision source target
      = q.routeCandidate decision source target := by
    intro source target
    unfold routeCandidate
    split
    · rename_i tree
      have pressure : p.matchingPressure decision source
          = q.matchingPressure decision source := by
        rw [Packet.matchingPressure, Packet.matchingPressure, alike tree]
      unfold treeCandidate
      rw [twin.matchingDerivation decision source target, pressure]
    · rfl
  simp only [Packet.routePlan, mutable, ends, candidate]

theorem commitTransition_agree (decision : Value)
    (alike : CitesAlike p q (.commitTransition decision)) :
    Agree (p.commitTransition now decision) (q.commitTransition now decision) := by
  refine Agree.transact _ _ twin (twin.routePlan decision alike) ?_
  rintro ⟨target, draft⟩ planned
  obtain ⟨-, -, -, -, selected, planId, -, rfl⟩ :=
    routePlan_facts p decision target draft planned
  refine Agree.emitThen twin now (bodyDraft_own _ _ _ _ _) _ ?_
  intro event r s later
  exact later.write (fun x => x.routed target) (fun _ => rfl) fun _ => rfl

theorem Twin.actorCopy (table : Value) (operation : String) :
    p.actorCopy table operation = q.actorCopy table operation := by
  have named : p.namedActor table = q.namedActor table :=
    twin.reads (fun r => r.namedActor table) fun _ _ => rfl
  unfold Packet.actorCopy
  rw [named]
  cases q.namedActor table with
  | error failure => rfl
  | ok actor => exact twin.afterActorTick actor operation _

theorem appendChaos_agree (fragment : Value) :
    Agree (p.appendChaos now fragment) (q.appendChaos now fragment) := by
  refine Agree.transact _ _ twin (twin.actorCopy _ _) ?_
  intro stored _
  exact Agree.emit (twin.write (fun r => r.withFragment stored) (fun _ => rfl) fun _ => rfl)
    now (bodyDraft_own _ _ _ _ _)

theorem measureTension_agree (record : Value) :
    Agree (p.measureTension now record) (q.measureTension now record) := by
  refine Agree.transact _ _ twin (twin.actorCopy _ _) ?_
  intro stored _
  exact Agree.emit
    (twin.write (fun r => r.withTension (record.orElse .emptyTable)) (fun _ => rfl)
      fun _ => rfl)
    now (bodyDraft_own _ _ _ _ _)

theorem crystallize_agree (record : Value) :
    Agree (p.crystallize now record) (q.crystallize now record) := by
  refine Agree.transact _ _ twin (twin.afterActorTick _ _ _) ?_
  intro plan planned
  obtain ⟨-, -, -, truthStatus, payload, cost, draft⟩ := crystalPlan_facts p record plan planned
  rw [draft]
  refine Agree.emitThen twin now (bodyDraft_own _ _ _ _ _) _ ?_
  intro event r s later
  exact later.write (storeCrystal plan event) (fun _ => rfl) fun _ => rfl

end

theorem Twin.actorPlan (event : Value) :
    p.actorPlan event = q.actorPlan event := by
  have visit (next : Except Failure Draft) :=
    twin.afterActorTick (resolvedValue (event.get "operator")) "append trace" next
  unfold Packet.actorPlan
  simp only [visit]

theorem appendTrace_plan (event : Value) :
    p.tracePlan event = q.tracePlan event := by
  unfold tracePlan
  simp only [twin.actorPlan event]

end

theorem bodyDraft_ofTable {event : Value} (planned : p.actorPlan event = .ok draft)
    (unnamed : (event.get "id").truthy = false)
    (plain : event.get "identity_lane" ≠ .text "observer_instrumentation"
      ∨ EventType.parse (event.get "type") ≠ some .tensionMeasure) :
    BodyDraft draft := by
  obtain ⟨-, -, -, -, rfl⟩ := actorPlan_eq_ok p event draft planned
  refine ⟨unnamed, fun type typed observed => ?_⟩
  obtain ⟨lane, evidence⟩ := (identityLane_eq_observer _ type).mp observed
  rcases plain with elsewhere | other
  · exact elsewhere lane
  · simp only [Trace.observerEvidence, Bool.and_eq_true, decide_eq_true_eq] at evidence
    have parsed : EventType.parse (event.get "type") = some type := typed
    rw [evidence.1.1] at parsed
    exact other parsed

theorem appendTrace_agree (twin : Twin p q) (now : Int) (event : Value)
    (unnamed : (event.get "id").truthy = false)
    (plain : event.get "identity_lane" ≠ .text "observer_instrumentation") :
    Agree (p.appendTrace now event) (q.appendTrace now event) := by
  refine Agree.transact _ _ twin (appendTrace_plan twin event) ?_
  intro draft planned
  refine Agree.emit twin now ?_
  obtain ⟨acting, -⟩ := tracePlan_facts p event draft planned
  exact bodyDraft_ofTable acting unnamed (.inl plain)

theorem appendRepositoryEvent_agree (twin : Twin p q) (now : Int) (event : Value)
    (unnamed : (event.get "id").truthy = false) :
    Agree (p.appendRepositoryEvent now event) (q.appendRepositoryEvent now event) := by
  refine Agree.transact _ _ twin ?_ ?_
  · unfold repositoryPlan
    simp only [twin.actorPlan event]
  · intro draft planned
    obtain ⟨acting, type, typed, body⟩ := repositoryPlan_facts p event draft planned
    refine Agree.emit twin now (bodyDraft_ofTable acting unnamed (.inr ?_))
    intro tension
    rw [tension, Option.some.injEq] at typed
    rw [← typed] at body
    cases body

theorem sealedEvent_bodyDraft {type operator payload cost : Value}
    (planned : p.actorPlan (sealedEvent type operator payload cost) = .ok draft) :
    BodyDraft draft := by
  obtain ⟨-, -, noId⟩ := sealedEvent_get type operator payload cost
  have noLane : (sealedEvent type operator payload cost).get "identity_lane" = .nil :=
    Value.get_record_absent (by simp)
  refine bodyDraft_ofTable planned (by rw [noId]; rfl) (.inl ?_)
  rw [noLane]
  simp

section

variable (twin : Twin p q)
include twin

theorem appendQaEvent_agree (S : Schemas) (now : Int) (event : Value) :
    Agree (p.appendQaEvent S now event) (q.appendQaEvent S now event) := by
  refine Agree.transact _ _ twin ?_ ?_
  · have mutable := twin.assertMutable "append QA evidence"
    have visit (next : Except Failure Draft) :=
      twin.afterActorTick (resolvedValue (event.get "operator")) "append QA evidence" next
    have inner (given : Value) := twin.actorPlan given
    unfold qaPlan
    simp only [mutable, visit, inner]
  · intro draft planned
    unfold qaPlan at planned
    simp only [bind_eq_ok] at planned
    obtain ⟨-, -, -, -, planned⟩ := planned
    split at planned
    · cases planned
    · simp only [bind_eq_ok] at planned
      obtain ⟨-, -, -, -, -, -, -, -, copied, -, planned⟩ := planned
      refine Agree.emitThen twin now (sealedEvent_bodyDraft planned) _ ?_
      intro stored r s later
      exact later.write countEvidence (fun _ => rfl) fun _ => rfl

theorem appendUnitDissolution_agree (S : Schemas) (now : Int) (event : Value) :
    Agree (p.appendUnitDissolution S now event) (q.appendUnitDissolution S now event) := by
  refine Agree.transact _ _ twin ?_ ?_
  · have mutable := twin.assertMutable "append unit dissolution"
    have visit (next : Except Failure Draft) :=
      twin.afterActorTick (Topology.value .dissolve) "append unit dissolution" next
    have inner (given : Value) := twin.actorPlan given
    unfold dissolutionPlan
    simp only [mutable, visit, inner]
  · intro draft planned
    unfold dissolutionPlan at planned
    simp only [bind_eq_ok] at planned
    obtain ⟨-, -, -, -, -, -, -, -, copied, -, planned⟩ := planned
    exact Agree.emit twin now (sealedEvent_bodyDraft planned)

theorem appendTerminal_agree (now : Int) (terminal : Terminal) :
    Agree (p.appendTerminal now terminal) (q.appendTerminal now terminal) := by
  refine Agree.emitThen twin now (bodyDraft_own _ _ _ _ _) _ ?_
  intro event r s later
  exact later.write (storeTerminal terminal event) (fun _ => rfl) fun _ => rfl

theorem beginTerminal_agree (now : Int) (input : Value) :
    Agree (p.beginTerminal now input) (q.beginTerminal now input) := by
  refine Agree.transact _ _ twin (twin.reads (fun r => r.terminalPlan input) fun _ _ => rfl) ?_
  intro terminal _
  exact appendTerminal_agree twin now terminal

theorem freeze_agree (now : Int) (cause residue : Value) :
    Agree (p.freeze now cause residue) (q.freeze now cause residue) := by
  refine Agree.transact _ _ twin (twin.reads (fun r => r.freezePlan cause) fun _ _ => rfl) ?_
  intro terminal _
  refine ⟨?_, twin.write (fun r => r.frozen terminal now residue) (fun _ => rfl) fun _ => rfl⟩
  have corpse := twin.reads (fun r => (r.frozen terminal now residue).corpseOf
    (r.closedTerminal terminal) (deathOf terminal now)) fun _ _ => rfl
  exact congrArg Except.ok corpse

end

theorem closeWith_agree {left right : Reply Packet Event} (event : Event) (now : Int)
    (cause : DeathCause) (residue : Value) (ended : Agree left right) :
    Agree (closeWith event now cause residue left) (closeWith event now cause residue right) := by
  refine Agree.andThen _ _ ended fun terminalEvent r s twin => ?_
  refine Agree.andThen _ _ (freeze_agree twin now _ residue) fun corpse r' s' later => ?_
  exact ⟨rfl, later⟩

theorem manifestPacket_agree (twin : Twin p q) (clock : Nat → Int) (payload residue : Value) :
    Agree (p.manifestPacket clock payload residue) (q.manifestPacket clock payload residue) := by
  refine Agree.transact _ _ twin
    (twin.reads (fun r => r.manifestPlan payload residue) fun _ _ => rfl) ?_
  intro plan _
  have stored := twin.write (fun r => r.withManifest plan.payload) (fun _ => rfl) fun _ => rfl
  refine Agree.andThen _ _ (Agree.emit stored (clock 0) (bodyDraft_own _ _ _ _ _)) ?_
  intro event r s later
  have input : r.manifestTerminalInput plan event = s.manifestTerminalInput plan event :=
    later.reads (fun x => x.manifestTerminalInput plan event) fun _ _ => rfl
  rw [input]
  exact closeWith_agree event _ _ _ (beginTerminal_agree later (clock 1) _)

theorem die_agree (twin : Twin p q) (clock : Nat → Int) (cause residue : Value) :
    Agree (p.die clock cause residue) (q.die clock cause residue) := by
  refine Agree.transact _ _ twin
    (twin.reads (fun r => r.deathPlan cause residue) fun _ _ => rfl) ?_
  intro plan _
  have draft : p.deathDraft plan = q.deathDraft plan :=
    twin.reads (fun r => r.deathDraft plan) fun _ _ => rfl
  rw [draft]
  refine Agree.andThen _ _ (Agree.emit twin (clock 0) (bodyDraft_own _ _ _ _ _)) ?_
  intro event r s later
  exact closeWith_agree event _ _ _ (appendTerminal_agree later (clock 1) plan.terminal)

end Proc17.Core.Packet
