import Proc17.Core.Life.Identity

/-!
# Visit authority

An organ writes only while it holds the current visit: the last tick of its own
glyph with no route since, or the birth itself for FLOW before any tick.  The lease
is found by scanning the trace backwards; the scan and the decomposition of the
trace it stands for are connected here.
-/

namespace Proc17.Core.Packet

open Lua List

/-- The current visit of an actor: the event that opened it and the events since. -/
structure Visit (trace : List Event) (actor : Operator) (before : List Event) (lease : Event)
    (since : List Event) : Prop where
  split : trace = before ++ lease :: since
  opens : lease.type = .operatorTick ∧ lease.operator = actor
    ∨ lease.type = .birth ∧ actor = .flow
  holds : ∀ event ∈ since, event.type ≠ .operatorTick ∧ event.type ≠ .route
    ∧ ¬ (event.type = .birth ∧ actor = .flow)

/-- An event written in a visit: a tick of its operator, or for FLOW the birth
before the first tick, comes before it with no route and no tick of another glyph
in between. -/
def Leased (before : List Event) (event : Event) : Prop :=
  ∃ earlier lease since, before = earlier ++ lease :: since
    ∧ (∀ other ∈ since, other.type ≠ .route
      ∧ (other.type = .operatorTick → other.operator = event.operator))
    ∧ (lease.type = .operatorTick ∧ lease.operator = event.operator
      ∨ lease.type = .birth ∧ event.operator = .flow
        ∧ ∀ other ∈ since, other.type ≠ .operatorTick)

/-! ## The backward scan -/

theorem leaseFrom_spec (actor : Operator) (reversed : List Event) (lease : Trace.Lease)
    (found : Trace.leaseFrom actor reversed = some lease) :
    ∃ since earlier, reversed = since ++ lease.event :: earlier ∧ lease.index = earlier.length
      ∧ (lease.event.type = .operatorTick ∧ lease.event.operator = actor
        ∨ lease.event.type = .birth ∧ actor = .flow)
      ∧ (lease.kind = .birth → lease.event.type = .birth)
      ∧ ∀ event ∈ since, event.type ≠ .operatorTick ∧ event.type ≠ .route
        ∧ ¬ (event.type = .birth ∧ actor = .flow) := by
  induction reversed with
  | nil => cases found
  | cons event earlier ih =>
    unfold Trace.leaseFrom at found
    split at found
    · rename_i ticked
      split at found
      · rename_i mine
        cases found
        exact ⟨[], earlier, rfl, rfl, .inl ⟨ticked, mine⟩, by simp, by simp⟩
      · cases found
    · rename_i notTick
      split at found
      · cases found
      · rename_i notRoute
        split at found
        · rename_i atBirth
          cases found
          exact ⟨[], earlier, rfl, rfl, .inr atBirth, fun _ => atBirth.1, by simp⟩
        · rename_i notBirth
          obtain ⟨since, rest, shape, index, opens, kind, holds⟩ := ih found
          refine ⟨event :: since, rest, ?_, index, opens, kind, ?_⟩
          · rw [shape]
            rfl
          · intro other member
            rcases mem_cons.mp member with rfl | later
            · exact ⟨notTick, notRoute, notBirth⟩
            · exact holds other later

theorem currentVisitLease_visit (trace : List Event) (actor : Operator) (lease : Trace.Lease)
    (found : Trace.currentVisitLease trace actor = some lease) :
    ∃ before since, Visit trace actor before lease.event since
      ∧ lease.index = before.length
      ∧ (lease.kind = .birth → lease.event.type = .birth) := by
  obtain ⟨since, earlier, shape, index, opens, kind, holds⟩ :=
    leaseFrom_spec actor trace.reverse lease found
  refine ⟨earlier.reverse, since.reverse, ⟨?_, opens, ?_⟩, ?_, kind⟩
  · have back := congrArg List.reverse shape
    rw [reverse_reverse] at back
    rw [back]
    simp
  · intro event member
    exact holds event (mem_reverse.mp member)
  · rw [index, length_reverse]

variable {event : Event}

theorem visit_currentVisitLease {trace : List Event} {actor : Operator}
    {before since : List Event}
    (visit : Visit trace actor before event since) :
    ∃ lease, Trace.currentVisitLease trace actor = some lease ∧ lease.event = event
      ∧ lease.index = before.length := by
  have scan : ∀ later : List Event, (∀ other ∈ later, other.type ≠ .operatorTick
      ∧ other.type ≠ .route ∧ ¬ (other.type = .birth ∧ actor = .flow)) →
      ∃ lease, Trace.leaseFrom actor (later ++ event :: before.reverse) = some lease
        ∧ lease.event = event ∧ lease.index = before.length := by
    intro later
    induction later with
    | nil =>
      intro _
      rcases visit.opens with ⟨ticked, mine⟩ | ⟨atBirth, flow⟩
      · exact ⟨⟨event, before.reverse.length, .operatorTick⟩,
          by simp [Trace.leaseFrom, ticked, mine], rfl, length_reverse⟩
      · exact ⟨⟨event, before.reverse.length, .birth⟩,
          by simp [Trace.leaseFrom, atBirth, flow], rfl, length_reverse⟩
    | cons other rest ih =>
      intro quiet
      obtain ⟨notTick, notRoute, notBirth⟩ := quiet other (by simp)
      obtain ⟨lease, found, same, index⟩ := ih (fun x member => quiet x (by simp [member]))
      refine ⟨lease, ?_, same, index⟩
      rw [cons_append, Trace.leaseFrom, if_neg notTick, if_neg notRoute, if_neg notBirth]
      exact found
  obtain ⟨lease, found, same, index⟩ := scan since.reverse (by
    intro other member
    exact visit.holds other (mem_reverse.mp member))
  refine ⟨lease, ?_, same, index⟩
  rw [Trace.currentVisitLease, visit.split]
  simpa using found

theorem Visit.leased {trace before since : List Event} {lease event : Event}
    (visit : Visit trace event.operator before lease since) : Leased trace event := by
  refine ⟨before, lease, since, visit.split, ?_, ?_⟩
  · intro other member
    obtain ⟨notTick, notRoute, -⟩ := visit.holds other member
    exact ⟨notRoute, fun ticked => absurd ticked notTick⟩
  · rcases visit.opens with ticked | ⟨atBirth, flow⟩
    · exact .inl ticked
    · exact .inr ⟨atBirth, flow, fun other member => (visit.holds other member).1⟩

/-! ## Rights and leases over whole lives -/

structure Authorised (p : Packet) : Prop where
  rights : ∀ event ∈ p.trace, event.type.permits (some event.operator) = true
  leased : ∀ before event after, p.trace = before ++ event :: after →
    event.type ∉ [.birth, .operatorTick, .route, .manifest, .death, .terminal] →
    Leased before event

theorem newborn_authorised (p : Packet) (birth : Event) (born : Newborn p birth) :
    Authorised p := by
  refine ⟨?_, ?_⟩
  · intro event member
    rw [born.trace, mem_singleton] at member
    rw [member, born.type]
    rfl
  · intro before event after split other
    have member : event ∈ p.trace := by
      rw [split]
      simp
    rw [born.trace, mem_singleton] at member
    rw [member, born.type] at other
    simp at other

theorem authorised_append {p q : Packet} (authorised : Authorised p)
    (trace : q.trace = p.trace ++ [event])
    (permitted : event.type.permits (some event.operator) = true)
    (leased : event.type ∉ [.birth, .operatorTick, .route, .manifest, .death, .terminal] →
      Leased p.trace event) : Authorised q := by
  refine ⟨?_, ?_⟩
  · rw [trace]
    exact forall_mem_append.mpr ⟨authorised.rights, forall_mem_singleton.mpr permitted⟩
  · intro before other after split notExempt
    rw [trace] at split
    rcases split_append_singleton split with ⟨rfl, rfl⟩ | ⟨rest, older⟩
    · exact leased notExempt
    · exact authorised.leased before other rest older notExempt

theorem change_preserves_authorised (supplied : Value) (p : Packet) (events : List Event)
    (q : Packet) (authorised : Authorised p) (change : Change supplied p events q) :
    Authorised q := by
  have trace := change.trace
  cases change with
  | edit q mutable same =>
    obtain ⟨rights, leased⟩ := authorised
    rw [append_nil] at trace
    exact ⟨by rw [trace]; exact rights, by rw [trace]; exact leased⟩
  | freeze now cause residue terminal planned => exact ⟨authorised.rights, authorised.leased⟩
  | tick now inputRefs event mutable stored | manifest now plan event mutable here stored
  | death now plan event mutable stored | terminal now terminal event mutable here stored =>
    obtain ⟨typed, -⟩ := storedEvent_own p now _ _ _ _ _ event stored
    exact authorised_append authorised trace (by rw [typed]; rfl) (by simp [typed])
  | route now decision target draft event planned stored =>
    obtain ⟨-, -, -, -, selected, planId, -, rfl⟩ :=
      routePlan_facts p decision target draft planned
    obtain ⟨typed, -⟩ := storedEvent_own p now _ _ _ _ _ event stored
    exact authorised_append authorised trace (by rw [typed]; rfl) (by simp [typed])
  | act now draft lease event mutable leased here acted permitted identified stored =>
    refine authorised_append authorised trace permitted fun _ => ?_
    obtain ⟨before, since, visit, -⟩ := currentVisitLease_visit p.trace p.operator lease leased
    rw [← here] at visit
    exact visit.leased

/-! ## Sources of the current tick -/

theorem find_zipIdx (id : Value) (event : Event) (index : Nat) :
    ∀ (trace : List Event) (start : Nat),
      (trace.zipIdx start).find? (fun entry => Value.eq entry.1.id id) = some (event, index) ↔
        ∃ before after, trace = before ++ event :: after ∧ index = start + before.length
          ∧ Value.eq event.id id = true ∧ ∀ other ∈ before, Value.eq other.id id = false := by
  intro trace
  induction trace with
  | nil =>
    intro start
    simp
  | cons first rest ih =>
    intro start
    rw [zipIdx_cons, List.find?_cons]
    by_cases matched : Value.eq first.id id = true
    · simp only [matched]
      constructor
      · intro same
        cases same
        exact ⟨[], rest, rfl, by simp, matched, by simp⟩
      · rintro ⟨before, after, shape, place, -, others⟩
        cases before with
        | nil =>
          cases shape
          rw [place]
          rfl
        | cons head tail =>
          cases shape
          rw [others first (by simp)] at matched
          cases matched
    · simp only [matched]
      rw [ih (start + 1)]
      constructor
      · rintro ⟨before, after, rfl, place, same, others⟩
        refine ⟨first :: before, after, rfl, ?_, same, ?_⟩
        · rw [place, length_cons]
          omega
        · intro other member
          rcases mem_cons.mp member with rfl | later
          · exact Bool.not_eq_true _ ▸ matched
          · exact others other later
      · rintro ⟨before, after, shape, place, same, others⟩
        cases before with
        | nil =>
          cases shape
          exact absurd same matched
        | cons head tail =>
          cases shape
          refine ⟨tail, after, rfl, ?_, same, fun other member => others other (by simp [member])⟩
          rw [place, length_cons]
          omega

theorem mem_of_split {before rest earlier later : List Event}
    (split : before ++ rest = earlier ++ event :: later)
    (late : before.length ≤ earlier.length) : event ∈ rest := by
  rcases append_eq_append_iff.mp split with ⟨middle, shape, tail⟩ | ⟨middle, shape, tail⟩
  · rw [tail]
    simp
  · cases middle with
    | nil =>
      rw [nil_append] at tail
      rw [← tail]
      simp
    | cons head others =>
      rw [shape, length_append, length_cons] at late
      omega

theorem eventInCurrentTick_iff (p : Packet) (distinct : DistinctIds p.trace)
    (actor id : Value) (event : Event) :
    p.eventInCurrentTick actor id = .ok event ↔
      p.Mutable ∧ Topology.resolve actor = some p.operator ∧ id.isNonEmptyString = true
        ∧ ∃ before lease since, Visit p.trace p.operator before lease since
          ∧ event ∈ lease :: since ∧ event.operator = p.operator ∧ event.id = id := by
  unfold eventInCurrentTick
  simp only [bind_eq_ok, assertActorTick_eq_ok, require_eq_ok, exists_and_left, exists_const]
  constructor
  · rintro ⟨lease, ⟨mutable, here, leased⟩, named, success⟩
    obtain ⟨before, since, visit, index, -⟩ :=
      currentVisitLease_visit p.trace p.operator lease leased
    refine ⟨mutable, here, named, before, lease.event, since, visit, ?_⟩
    split at success
    · cases success
    · rename_i source place found
      simp only [bind_eq_ok, require_eq_ok, pure_eq_ok, exists_and_left, exists_const] at success
      obtain ⟨⟨same, late, -⟩, rfl⟩ := success
      obtain ⟨earlier, later, shape, position, identified, -⟩ :=
        (find_zipIdx id source place p.trace 0).mp found
      refine ⟨?_, ?_, ?_⟩
      · refine mem_of_split (visit.split.symm.trans shape) ?_
        omega
      · rw [here, Option.some.injEq] at same
        exact same.symm
      · cases id with
        | str s => exact Value.eq_of_eq_str identified
        | _ => cases named
  · rintro ⟨mutable, here, named, before, opener, since, visit, member, same, rfl⟩
    obtain ⟨lease, leased, opened, index⟩ := visit_currentVisitLease visit
    refine ⟨lease, ⟨mutable, here, leased⟩, named, ?_⟩
    obtain ⟨first, last, shape⟩ := append_of_mem member
    have whole : p.trace = (before ++ first) ++ event :: last := by
      rw [visit.split, shape, append_assoc]
    have reflexive : Value.eq event.id event.id = true := by
      cases identifier : event.id with
      | str s => simp
      | _ =>
        rw [identifier] at named
        cases named
    have unique : ∀ other ∈ before ++ first, Value.eq other.id event.id = false := by
      intro other inBefore
      unfold DistinctIds at distinct
      rw [whole] at distinct
      exact (pairwise_append.mp distinct).2.2 other inBefore event (by simp)
    have found : Trace.eventWithIndex p.trace event.id
        = some (event, (before ++ first).length) :=
      (find_zipIdx event.id event _ p.trace 0).mpr
        ⟨before ++ first, last, whole, by omega, reflexive, unique⟩
    rw [found]
    simp only [bind_eq_ok, require_eq_ok, pure_eq_ok, exists_and_left, exists_const, and_true]
    refine ⟨by rw [here, same], ?_, ?_⟩
    · rw [index, length_append]
      omega
    · -- a birth lease is the birth event itself
      rintro ⟨kind, atLease, notBirth⟩
      obtain ⟨-, -, -, -, typed⟩ := currentVisitLease_visit p.trace p.operator lease leased
      rw [index, length_append] at atLease
      have empty : first = [] := length_eq_zero_iff.mp (by omega)
      rw [empty, nil_append, List.cons.injEq] at shape
      rw [← shape.1, ← opened] at notBirth
      exact notBirth (typed kind)

/-- In every life each event is written with the right of its operator and within
the visit of its operator; the ends of a life and its routes and ticks need no
visit.  A source of the current tick is an event of the visiting operator written
since the lease, the lease included, under a non-empty string id. -/
theorem life_authorised (S : Schemas) (counter : Nat) (now : Int) (prompt options : Value)
    (p : Packet) (born : Packet.new S counter now prompt options = .ok p)
    (steps : List Step) :
    Authorised ((machine S).run p steps)
      ∧ ∀ actor id event, ((machine S).run p steps).eventInCurrentTick actor id = .ok event ↔
        ((machine S).run p steps).terminal = none
          ∧ Topology.resolve actor = some ((machine S).run p steps).operator
          ∧ id.isNonEmptyString = true
          ∧ ∃ before lease since, Visit ((machine S).run p steps).trace
              ((machine S).run p steps).operator before lease since
            ∧ event ∈ lease :: since ∧ event.operator = ((machine S).run p steps).operator
            ∧ event.id = id := by
  obtain ⟨birth, newborn⟩ := new_newborn S counter now prompt options p born
  have distinct := life_distinct S counter now prompt options p born steps
  have stage := life_stage S counter now prompt options p born steps
  refine ⟨life_invariant S Authorised change_preserves_authorised steps p
    (newborn_authorised p birth newborn), ?_⟩
  intro actor id event
  rw [eventInCurrentTick_iff _ distinct, stage.mutable_iff]

theorem life_authorised_flow_observation :
    ∃ p, Packet.new refusingSchemas 1 0 (.text "task") .nil = .ok p
      ∧ Authorised (lived p [tickAt .flow, .appendChaos .nil]) := by
  obtain ⟨p, born, -⟩ := task_born_passing (fun _ => true) (by decide)
  exact ⟨p, born, (life_authorised refusingSchemas 1 0 (.text "task") .nil p born _).1⟩

theorem not_leased_after_route (before : List Event) (route event : Event)
    (routed : route.type = .route) : ¬ Leased (before ++ [route]) event := by
  rintro ⟨earlier, lease, since, shape, quiet, opens⟩
  rcases split_append_singleton shape with ⟨rfl, -⟩ | ⟨rest, older⟩
  · rw [routed] at opens
    simp at opens
  · rw [older, append_assoc, cons_append] at shape
    have tail := (List.cons.inj (append_cancel_left shape)).2
    exact (quiet route (by rw [← tail]; simp)).1 routed

def untickedManifest : List Call :=
  [legacyRoute .flow .observe, legacyRoute .observe .runtime, legacyRoute .runtime .manifest,
    .manifestPacket .nil .nil]

def numberedFailure : Call :=
  .appendTrace (.record [("id", .nat 7), ("type", .text "operator_failure"),
    ("operator", Topology.value .flow), ("truth_status", .text "runtime_confirmed")])

/-- A manifest event needs no tick of its operator, and an event of the current
visit whose id is no string is not accepted as a source. -/
theorem manifest_unticked_and_numbered_source_refused :
    ∃ p, Packet.new refusingSchemas 1 0 (.text "task") .nil = .ok p
      ∧ (¬ ∀ before event after, (lived p untickedManifest).trace = before ++ event :: after →
        event.type ∉ [.birth, .operatorTick, .route, .death, .terminal] →
        Leased before event)
      ∧ ∃ lease event, Visit (lived p [numberedFailure]).trace .flow [] lease [event]
        ∧ event.operator = .flow ∧ event.id = .nat 7
        ∧ ¬ ∃ found, (lived p [numberedFailure]).eventInCurrentTick (Topology.value .flow)
          (.nat 7) = .ok found := by
  obtain ⟨p, born, facts⟩ := task_born_passing
    (fun p => decide ((lived p untickedManifest).trace.map Event.type
        = [.birth, .route, .route] ++ [.route, .manifest, .terminal])
      && decide ((lived p [numberedFailure]).trace.map (fun e => (e.type, e.operator, e.id))
        = [(.birth, .flow, .text "event-1"), (.operatorFailure, .flow, .nat 7)]))
    (by decide)
  simp only [Bool.and_eq_true, decide_eq_true_eq] at facts
  obtain ⟨types, numbered⟩ := facts
  refine ⟨p, born, fun claim => ?_, ?_⟩
  · obtain ⟨initial, rest, shape, -, restTypes⟩ := map_eq_append_iff.mp types
    obtain ⟨third, rest, rfl, routed, restTypes⟩ := map_eq_cons_iff.mp restTypes
    obtain ⟨manifest, rest, rfl, manifested, -⟩ := map_eq_cons_iff.mp restTypes
    have leased := claim (initial ++ [third]) manifest rest (by rw [shape]; simp)
      (by rw [manifested]; decide)
    exact not_leased_after_route initial third manifest routed leased
  · obtain ⟨birth, rest, shape, bornAt, restShape⟩ := map_eq_cons_iff.mp numbered
    obtain ⟨event, rest, rfl, recorded, restShape⟩ := map_eq_cons_iff.mp restShape
    rw [map_eq_nil_iff.mp restShape] at shape
    simp only [Prod.mk.injEq] at bornAt recorded
    refine ⟨birth, event, ⟨shape, .inr ⟨bornAt.1, rfl⟩, ?_⟩, recorded.2.1, recorded.2.2, ?_⟩
    · intro other member
      rw [mem_singleton.mp member, recorded.1]
      decide
    · have distinct := life_distinct refusingSchemas 1 0 (.text "task") .nil p born
        [⟨numberedFailure, fun _ => 0⟩]
      rintro ⟨found, success⟩
      obtain ⟨-, -, named, -⟩ := (eventInCurrentTick_iff _ distinct _ _ found).mp success
      cases named

end Proc17.Core.Packet
