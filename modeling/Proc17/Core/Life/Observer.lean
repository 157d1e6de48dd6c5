import Mathlib.Data.List.Induction
import Proc17.Core.Life.Twin

/-!
# Observer instrumentation has no mass

Two lives that make the same calls, one of which also records observer
instrumentation, keep the same body: the same body events with the same ids, the
same state beside the trace, the same tails, leases and answers.  Only an observer
append itself can tell: its id counts the observer events before it.
-/

namespace Proc17.Core

open Lua List

/-- The call asks `append_trace` for the observer lane. -/
def Call.observes : Call → Bool
  | .appendTrace event => event.get "identity_lane" = .text "observer_instrumentation"
  | _ => false

namespace Packet

/-! ## Observer appends -/

def duplicateId : Failure := raise "duplicate Packet trace event id"

structure SameButId (left right : Except Failure Answer) : Prop where
  accepted : ∀ a b, left = .ok (.event a) → right = .ok (.event b) → { a with id := b.id } = b
  refused : left ≠ .error duplicateId → right ≠ .error duplicateId →
    ∀ failure, left = .error failure ↔ right = .error failure

theorem step_marked (S : Schemas) (p : Packet) (s : Step)
    (unnamed : s.call.suppliedId.truthy = false) (marked : ∀ event ∈ p.trace, Marked event) :
    ∀ event ∈ ((machine S).after p s).trace, Marked event := by
  obtain ⟨events, course, -⟩ := step_reaches S p s
  refine course.preserves (fun q => ∀ event ∈ q.trace, Marked event) ?_ marked
  intro q appended r all change
  rw [change.trace]
  rcases change.appended with rfl | ⟨now, draft, event, rfl, stored, identified⟩
  · rw [append_nil]
    exact all
  · have blank : draft.id.truthy = false := by
      rcases identified with absent | given
      · rw [absent]
        rfl
      · rw [given]
        exact unnamed
    exact forall_mem_append.mpr ⟨all, forall_mem_singleton.mpr (marked_of_stored blank stored)⟩

theorem tracePlan_draft {p : Packet} {event : Value} {draft : Draft}
    (planned : p.tracePlan event = .ok draft) : draft = .ofTable event := by
  obtain ⟨acting, -⟩ := tracePlan_facts p event draft planned
  obtain ⟨-, -, -, -, shape⟩ := actorPlan_eq_ok p event draft acting
  exact shape

theorem appendTrace_observer (p : Packet) (now : Int) (event : Value)
    (observed : event.get "identity_lane" = .text "observer_instrumentation") :
    bodyOf (p.appendTrace now event).2 = bodyOf p := by
  unfold appendTrace
  rcases transact_cases (p.tracePlan event) (p.emit now) p with
    ⟨failure, -, result⟩ | ⟨draft, planned, result⟩
  · rw [result]
  · rw [result, tracePlan_draft planned, emit, emitThen]
    cases appended : p.storedEvent now (.ofTable event) with
    | error failure => rfl
    | ok stored =>
      have facts := (storedEvent_eq_ok p now _ stored).mp appended
      obtain ⟨lane, laned, -, tag⟩ := facts.lane
      have outside : lane = .observerInstrumentation := by
        cases lane with
        | observerInstrumentation => rfl
        | body =>
          have given : (Draft.ofTable event).identityLane.orElse (.text "body")
              = .text "observer_instrumentation" := by
            rw [Draft.ofTable, observed]
            rfl
          unfold Trace.identityLane at laned
          simp only [given] at laned
          rw [if_neg (by decide)] at laned
          split at laned
          · split at laned <;> cases laned
          · cases laned
      subst outside
      simp [bodyOf, push, bodyEvents, tag]

variable {p q : Packet}

theorem Twin.storedEvent_sameButId (twin : Twin p q) (now : Int)
    (draft : Draft) :
    (∀ a b, p.storedEvent now draft = .ok a → q.storedEvent now draft = .ok b →
        { a with id := b.id } = b)
      ∧ (p.storedEvent now draft ≠ .error duplicateId →
        q.storedEvent now draft ≠ .error duplicateId →
        ∀ failure,
          p.storedEvent now draft = .error failure ↔ q.storedEvent now draft = .error failure) := by
  have identity : p.id = q.id ∧ p.lineageId = q.lineageId ∧ p.generation = q.generation
      ∧ p.physis = q.physis :=
    ⟨twin.reads Packet.id fun _ _ => rfl, twin.reads Packet.lineageId fun _ _ => rfl,
      twin.reads Packet.generation fun _ _ => rfl, twin.reads Packet.physis fun _ _ => rfl⟩
  obtain ⟨sameId, sameLineage, sameGeneration, samePhysis⟩ := identity
  constructor
  · intro a b left right
    have factsA := (storedEvent_eq_ok p now draft a).mp left
    have factsB := (storedEvent_eq_ok q now draft b).mp right
    have typed := factsA.type.symm.trans factsB.type
    have placed := factsA.operator.symm.trans factsB.operator
    have trusted := factsA.truthStatus.symm.trans factsB.truthStatus
    have charged := factsA.cost.symm.trans factsB.cost
    obtain ⟨lane, laned, -, tag⟩ := factsA.lane
    obtain ⟨lane', laned', -, tag'⟩ := factsB.lane
    simp only [Option.some.injEq, Except.ok.injEq] at typed placed trusted charged
    rw [typed] at laned
    have lanes := laned.symm.trans laned'
    simp only [Except.ok.injEq] at lanes
    have tags : a.observer = b.observer := by rw [tag, tag', lanes]
    have payloads := factsA.payload.trans factsB.payload.symm
    have packets := (factsA.packetId.trans sameId).trans factsB.packetId.symm
    have lineages := (factsA.lineageId.trans sameLineage).trans factsB.lineageId.symm
    have generations := (factsA.generation.trans sameGeneration).trans factsB.generation.symm
    have ticks := factsA.tick.trans ((congrArg (fun x : Physis => x.ticks.orElse (.nat 0))
      samePhysis).trans factsB.tick.symm)
    have times := factsA.time.trans factsB.time.symm
    cases a
    cases b
    simp_all
  · intro freshLeft freshRight failure
    unfold Packet.storedEvent at freshLeft freshRight ⊢
    cases valid : validateEvent draft with
    | error failure' => rfl
    | ok checked =>
      obtain ⟨type, operator, truthStatus⟩ := checked
      cases laned : Trace.identityLane draft type with
      | error failure' => simp only [laned, bind, Except.bind]
      | ok lane =>
        simp only [valid, laned, bind, Except.bind, require] at freshLeft freshRight ⊢
        by_cases left : ∀ event ∈ p.trace,
            Value.eq event.id (draft.id.orElse (Trace.nextTraceId p.trace lane)) = false
        · by_cases right : ∀ event ∈ q.trace,
              Value.eq event.id (draft.id.orElse (Trace.nextTraceId q.trace lane)) = false
          · simp only [if_pos left, if_pos right]
            cases normalizeCost draft.cost <;> simp [pure, Except.pure]
          · simp only [if_neg right] at freshRight
            exact absurd rfl freshRight
        · simp only [if_neg left] at freshLeft
          exact absurd rfl freshLeft

theorem appendTrace_sameButId (twin : Twin p q) (now : Int)
    (event : Value) :
    SameButId ((p.appendTrace now event).map Answer.event).1
      ((q.appendTrace now event).map Answer.event).1 := by
  unfold appendTrace
  rw [← appendTrace_plan twin event]
  cases planned : p.tracePlan event with
  | error failure =>
    refine ⟨?_, fun _ _ _ => Iff.rfl⟩
    intro a b left
    cases left
  | ok draft =>
    obtain ⟨accepted, refused⟩ := twin.storedEvent_sameButId now draft
    have result : ∀ r : Packet, ((transact (Except.ok draft) (r.emit now) r).map
        Answer.event).1 = (r.storedEvent now draft).map Answer.event := by
      intro r
      rw [transact_ok, emit, emitThen]
      cases r.storedEvent now draft <;> rfl
    rw [result, result]
    refine ⟨?_, ?_⟩
    · intro a b left right
      refine accepted a b ?_ ?_
      · cases stored : p.storedEvent now draft <;> rw [stored] at left <;>
          simp_all [Except.map]
      · cases stored : q.storedEvent now draft <;> rw [stored] at right <;>
          simp_all [Except.map]
    · cases left : p.storedEvent now draft <;> cases right : q.storedEvent now draft <;>
        rw [left, right] at refused <;> simp_all [Except.map]

/-! ## Watched lives -/

structure Observation where
  event : Value
  clock : Nat → Int
  lane : event.get "identity_lane" = .text "observer_instrumentation"
  unnamed : (event.get "id").truthy = false

def Observation.step (observation : Observation) : Step :=
  ⟨.appendTrace observation.event, observation.clock⟩

/-- A call that both lives make, or one that only the watched life makes. -/
inductive Move where
  | shared (s : Step)
  | observed (observation : Observation)

def Move.unwatched : Move → List Step
  | .shared s => [s]
  | .observed _ => []

def Move.watched : Move → List Step
  | .shared s => [s]
  | .observed observation => [observation.step]

def unwatched (moves : List Move) : List Step := moves.flatMap Move.unwatched

def watched (moves : List Move) : List Step := moves.flatMap Move.watched

def SameAnswer (call : Call) (left right : Except Failure Answer) : Prop :=
  if call.observes then SameButId left right else left = right

theorem sameAnswer_of_eq {call : Call} {left right : Except Failure Answer}
    (plain : call.observes = false) (same : left = right) : SameAnswer call left right := by
  rw [SameAnswer, if_neg (by simp [plain])]
  exact same

theorem step_agree (S : Schemas) (twin : Twin p q) (s : Step)
    (unnamed : s.call.suppliedId.truthy = false) (alike : CitesAlike p q s.call)
    (plain : s.call.observes = false) : Agree (step S p s) (step S q s) := by
  obtain ⟨call, clock⟩ := s
  cases call with
  | beginTick operator inputRefs => exact (beginTick_agree twin _ _ _).map _
  | commitTransition decision => exact (commitTransition_agree twin _ _ alike).map _
  | appendChaos fragment => exact (appendChaos_agree twin _ _).map _
  | crystallize record => exact (crystallize_agree twin _ _).map _
  | measureTension record => exact (measureTension_agree twin _ _).map _
  | appendTrace event =>
    have elsewhere : event.get "identity_lane" ≠ .text "observer_instrumentation" := by
      simpa [Call.observes] using plain
    exact (appendTrace_agree twin _ _ unnamed elsewhere).map _
  | appendRepositoryEvent event => exact (appendRepositoryEvent_agree twin _ _ unnamed).map _
  | appendQaEvent event => exact (appendQaEvent_agree twin S _ _).map _
  | appendUnitDissolution event => exact (appendUnitDissolution_agree twin S _ _).map _
  | beginTerminal input => exact (beginTerminal_agree twin _ _).map _
  | freeze cause residue => exact (freeze_agree twin _ _ _).map _
  | manifestPacket payload residue => exact (manifestPacket_agree twin _ _ _).map _
  | die cause residue => exact (die_agree twin _ _ _).map _

theorem step_twin (S : Schemas) (twin : Twin p q) (s : Step)
    (unnamed : s.call.suppliedId.truthy = false) (alike : CitesAlike p q s.call) :
    SameAnswer s.call (step S p s).1 (step S q s).1
      ∧ Twin ((machine S).after p s) ((machine S).after q s) := by
  cases plain : s.call.observes with
  | false =>
    obtain ⟨answer, later⟩ := step_agree S twin s unnamed alike plain
    exact ⟨sameAnswer_of_eq plain answer, later⟩
  | true =>
    have left := step_marked S p s unnamed twin.left
    have right := step_marked S q s unnamed twin.right
    obtain ⟨call, clock⟩ := s
    cases call with
    | appendTrace event =>
      have lane : event.get "identity_lane" = .text "observer_instrumentation" := by
        simpa [Call.observes] using plain
      refine ⟨?_, ?_, left, right⟩
      · rw [SameAnswer, if_pos plain]
        exact appendTrace_sameButId twin (clock 0) event
      · have keptLeft := appendTrace_observer p (clock 0) event lane
        have keptRight := appendTrace_observer q (clock 0) event lane
        exact keptLeft.trans (twin.same.trans keptRight.symm)
    | _ => cases plain

theorem observed_twin (S : Schemas) (twin : Twin p q)
    (observation : Observation) : Twin p ((machine S).after q observation.step) := by
  refine ⟨?_, twin.left, step_marked S q observation.step observation.unnamed twin.right⟩
  have kept := appendTrace_observer q (observation.clock 0) observation.event observation.lane
  exact twin.same.trans kept.symm

structure SameBody (p q : Packet) : Prop where
  events : bodyEvents p.trace = bodyEvents q.trace
  rest : { p with trace := [] } = { q with trace := [] }
  tails : ∀ count, Trace.bodyTraceTail p.trace count = Trace.bodyTraceTail q.trace count
  leases : ∀ actor operation, (p.assertActorTick actor operation).map leaseFace
    = (q.assertActorTick actor operation).map leaseFace
  sources : ∀ actor id event, event.observer = false →
    (p.eventInCurrentTick actor id = .ok event ↔ q.eventInCurrentTick actor id = .ok event)

theorem eventInCurrentTick_body (p : Packet) (distinct : DistinctIds p.trace)
    (marked : ∀ event ∈ p.trace, Marked event) (actor id : Value) (event : Event)
    (own : event.observer = false) :
    p.eventInCurrentTick actor id = .ok event ↔
      p.Mutable ∧ Topology.resolve actor = some p.operator ∧ id.isNonEmptyString = true
        ∧ ∃ before lease since, Visit (bodyEvents p.trace) p.operator before lease since
          ∧ event ∈ lease :: since ∧ event.operator = p.operator ∧ event.id = id := by
  rw [eventInCurrentTick_iff p distinct actor id event]
  refine and_congr_right fun _ => and_congr_right fun _ => and_congr_right fun _ => ?_
  constructor
  · rintro ⟨before, lease, since, visit, member, here, named⟩
    refine ⟨bodyEvents before, lease, bodyEvents since, ?_, ?_, here, named⟩
    · exact (visit_body marked _ _ _ _).mpr ⟨before, since, visit, rfl, rfl⟩
    · rcases mem_cons.mp member with opener | later
      · exact mem_cons.mpr (.inl opener)
      · exact mem_cons.mpr (.inr (mem_filter.mpr ⟨later, by simp [own]⟩))
  · rintro ⟨before, lease, since, visit, member, here, named⟩
    obtain ⟨earlier, later, whole, -, rfl⟩ := (visit_body marked _ _ _ _).mp visit
    refine ⟨earlier, lease, later, whole, ?_, here, named⟩
    rcases mem_cons.mp member with opener | inside
    · exact mem_cons.mpr (.inl opener)
    · exact mem_cons.mpr (.inr (mem_filter.mp inside).1)

theorem Twin.sameBody (twin : Twin p q) (left : DistinctIds p.trace)
    (right : DistinctIds q.trace) : SameBody p q := by
  have events : bodyEvents p.trace = bodyEvents q.trace :=
    congrArg Packet.trace twin.same
  have place : p.operator = q.operator := twin.reads Packet.operator fun _ _ => rfl
  have mutable : p.Mutable ↔ q.Mutable := by
    rw [← assertMutable_eq_ok p "" (), ← assertMutable_eq_ok q "" (), twin.assertMutable ""]
  refine ⟨events, ?_, ?_, twin.assertActorTick, ?_⟩
  · exact twin.reads (fun r => { r with trace := [] }) fun _ _ => rfl
  · intro count
    rw [← bodyTraceTail_body twin.left, ← bodyTraceTail_body twin.right, events]
  · intro actor id event own
    rw [eventInCurrentTick_body p left twin.left actor id event own,
      eventInCurrentTick_body q right twin.right actor id event own, events, place, mutable]

/-- Along every life without ids of its own, observer appends at any points leave the
body, the tails, the leases and the answers of the shared calls as they were. -/
theorem life_observer_massless (S : Schemas) (counter : Nat) (now : Int)
    (prompt options : Value) (p : Packet)
    (born : Packet.new S counter now prompt options = .ok p) (moves : List Move)
    (unnamed : ∀ s, Move.shared s ∈ moves → s.call.suppliedId.truthy = false)
    (alike : ∀ before s after, moves = before ++ Move.shared s :: after →
      CitesAlike ((machine S).run p (unwatched before)) ((machine S).run p (watched before))
        s.call) :
    ∀ before after, moves = before ++ after →
      SameBody ((machine S).run p (unwatched before)) ((machine S).run p (watched before))
        ∧ ∀ s rest, after = Move.shared s :: rest →
          SameAnswer s.call (step S ((machine S).run p (unwatched before)) s).1
            (step S ((machine S).run p (watched before)) s).1 := by
  -- the lives are twins after every prefix of the moves
  have twins : ∀ before after, moves = before ++ after →
      Twin ((machine S).run p (unwatched before)) ((machine S).run p (watched before)) := by
    intro before
    induction before using List.reverseRecOn with
    | nil =>
      intro after _
      obtain ⟨birth, newborn⟩ := new_newborn S counter now prompt options p born
      have marked : ∀ event ∈ p.trace, Marked event := by
        intro event member
        rw [newborn.trace, mem_singleton] at member
        rw [member]
        refine ⟨⟨utf8 "1", ?_⟩, ?_⟩
        · rw [newborn.id, laneOf, newborn.observer]
          decide
        · intro tag
          rw [newborn.observer] at tag
          cases tag
      exact ⟨rfl, marked, marked⟩
    | append_singleton earlier move ih =>
      intro after split
      rw [append_assoc] at split
      have twin := ih _ split
      rw [unwatched, watched, flatMap_append, flatMap_append, Machine.run_append,
        Machine.run_append]
      cases move with
      | shared s =>
        have silent := unnamed s (by rw [split]; simp)
        exact (step_twin S twin s silent (alike earlier s after split)).2
      | observed observation => exact observed_twin S twin observation
  intro before after split
  have twin := twins before after split
  refine ⟨twin.sameBody (life_distinct S counter now prompt options p born _)
    (life_distinct S counter now prompt options p born _), ?_⟩
  rintro s rest rfl
  exact (step_twin S twin s (unnamed s (by rw [split]; simp)) (alike before s rest split)).1

def flowSnapshot : Value :=
  .record [("identity_lane", .text "observer_instrumentation"),
    ("type", .text "tension_measure"), ("operator", Topology.value .flow),
    ("truth_status", .text "runtime_confirmed"),
    ("payload", .record [("kind", .text "edge_pressure_snapshot")])]

def flowObservation : Observation where
  event := flowSnapshot
  clock _ := 0
  lane := by decide
  unnamed := by decide

theorem life_observer_massless_flow_tick :
    ∃ p, Packet.new refusingSchemas 1 0 (.text "task") .nil = .ok p
      ∧ SameBody (lived p [tickAt .flow])
        (lived p [.appendTrace flowSnapshot, tickAt .flow]) := by
  obtain ⟨p, born, -⟩ := task_born_passing (fun _ => true) (by decide)
  have result := life_observer_massless refusingSchemas 1 0 (.text "task") .nil p born
    [.observed flowObservation, .shared ⟨tickAt .flow, fun _ => 0⟩]
    (by
      intro s member
      simp only [mem_cons, reduceCtorEq, Move.shared.injEq, not_mem_nil, or_false,
        false_or] at member
      rw [member]
      rfl)
    (by
      intro before s after split
      have member : Move.shared s ∈ before ++ Move.shared s :: after := by simp
      rw [← split] at member
      simp only [mem_cons, reduceCtorEq, Move.shared.injEq, not_mem_nil, or_false,
        false_or] at member
      rw [member]
      trivial)
    _ [] (append_nil _).symm
  exact ⟨p, born, result.1⟩

def observedDerivation : Call :=
  .appendTrace (.record [("type", .text "route_derivation"),
    ("operator", Topology.value .flow), ("truth_status", .text "runtime_confirmed"),
    ("payload", .record [("current_operator", Topology.value .flow),
      ("outcome", .text "selected"), ("selected_to", Topology.value .observe),
      ("pressure_snapshot_ref", .text "observer-event-1"),
      ("candidates", .array [.record [("to", Topology.value .observe),
        ("readiness", .record [("ready", .bool true)])]])])])

def observedTreeRoute : Value :=
  .record [("from", Topology.value .flow), ("to", Topology.value .observe),
    ("authority", .text "tree"), ("derivation_ref", .text "event-2"),
    ("pressure_snapshot_ref", .text "observer-event-1"),
    ("selected_candidate", .record [("to", Topology.value .observe),
      ("readiness", .record [("ready", .bool true)])])]

/-- After an accepted observer append, a second one answers with another id than it
would have without the first, and a tree route that cites the first is committed
where it would have been refused. -/
theorem observer_append_seen :
    ∃ p, Packet.new refusingSchemas 1 0 (.text "task") .nil = .ok p
      ∧ (p.appendTrace 0 flowSnapshot).Succeeds
      ∧ (p.appendTrace 0 flowSnapshot).1
        ≠ ((lived p [.appendTrace flowSnapshot]).appendTrace 0 flowSnapshot).1
      ∧ ¬ ((lived p [observedDerivation]).commitTransition 0 observedTreeRoute).Succeeds
      ∧ ((lived p [.appendTrace flowSnapshot, observedDerivation]).commitTransition 0
        observedTreeRoute).Succeeds := by
  obtain ⟨p, born, facts⟩ := task_born_passing
    (fun p =>
      decide ((p.appendTrace 0 flowSnapshot).Succeeds)
        && ((p.appendTrace 0 flowSnapshot).1.toOption.map Event.id
          != ((lived p [.appendTrace flowSnapshot]).appendTrace 0 flowSnapshot).1.toOption.map
            Event.id)
        && decide (¬ ((lived p [observedDerivation]).commitTransition 0
          observedTreeRoute).Succeeds)
        && decide (((lived p [.appendTrace flowSnapshot, observedDerivation]).commitTransition 0
          observedTreeRoute).Succeeds))
    (by decide)
  simp only [Bool.and_eq_true, decide_eq_true_eq, bne_iff_ne, ne_eq] at facts
  refine ⟨p, born, facts.1.1.1, ?_, facts.1.2, facts.2⟩
  intro same
  exact facts.1.1.2 (by rw [same])

end Packet

end Proc17.Core
