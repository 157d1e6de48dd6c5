import Proc17.Core.Packet.Course

/-!
# Grounded tree routes

A route with tree authority names the derivation and the pressure snapshot it
rests on.  Both stand in the trace before it, and the candidate it stores is one
the derivation records as ready.  The references are looked up by id over the
whole trace, so the evidence may be of an earlier visit.
-/

namespace Proc17.Core.Packet

open Lua List Value

/-- A candidate a derivation offers for a destination. -/
structure ReadyFor (target : Operator) (candidate : Value) : Prop where
  destination : Topology.resolve (candidate.get "to") = some target
  notExcluded : candidate.get "excluded" ≠ .bool true
  ready : (candidate.get "readiness").isTable = true
    ∧ (candidate.get "readiness").get "ready" = .bool true

/-- The derivation a route between two operators rests on. -/
structure Derives (derivation : Event) (source target : Operator) (pressureRef : Value) :
    Prop where
  type : derivation.type = .routeDerivation
  current : Topology.resolve (derivation.payload.get "current_operator") = some source
  outcome : derivation.payload.get "outcome" = .text "selected"
  selected : Topology.resolve (derivation.payload.get "selected_to") = some target
  pressure : derivation.payload.get "pressure_snapshot_ref" = pressureRef

structure SnapshotAt (pressure : Event) (source : Operator) : Prop where
  type : pressure.type = .tensionMeasure
  operator : pressure.operator = source
  kind : pressure.payload.get "kind" = .text "edge_pressure_snapshot"
    ∨ pressure.payload.get "kind" = .text "qualified_pressure_snapshot"

def Grounded (before : List Event) (route : Event) : Prop :=
  ∃ source target derivation pressure candidates candidate,
    route.payload.get "from" = Topology.value source
      ∧ route.payload.get "to" = Topology.value target
      ∧ derivation ∈ before ∧ derivation.id = route.payload.get "derivation_ref"
      ∧ Derives derivation source target (route.payload.get "pressure_snapshot_ref")
      ∧ pressure ∈ before ∧ pressure.id = route.payload.get "pressure_snapshot_ref"
      ∧ SnapshotAt pressure source
      ∧ ((derivation.payload.get "candidates").orElse .emptyTable).ipairs = .ok candidates
      ∧ candidate ∈ candidates ∧ ReadyFor target candidate
      ∧ route.payload.get "selected_candidate" = candidate.deepCopy

/-! ## What the checks of a tree route establish -/

theorem eventById_facts {trace : List Event} {ref : Value} {event : Event}
    (named : ref.isNonEmptyString = true) (found : Trace.eventById trace ref = some event) :
    event ∈ trace ∧ event.id = ref := by
  refine ⟨mem_of_find?_eq_some found, ?_⟩
  have same := List.find?_some found
  cases ref with
  | str s => exact eq_of_eq_str same
  | _ => cases named

theorem index_get {v field : Value} {name : String} (read : v.index name = .ok field) :
    v.get name = field := by
  cases v with
  | table | str =>
    cases read
    rfl
  | _ => cases read

theorem matchingDerivation_facts (p : Packet) (decision : Value) (source target : Operator)
    (payload : Value) (named : (decision.get "derivation_ref").isNonEmptyString = true)
    (matched : p.matchingDerivation decision source target = .ok payload) :
    ∃ derivation ∈ p.trace, derivation.id = decision.get "derivation_ref"
      ∧ derivation.payload = payload
      ∧ Derives derivation source target (decision.get "pressure_snapshot_ref") := by
  unfold matchingDerivation at matched
  split at matched
  · cases matched
  · rename_i derivation found
    simp only [bind_eq_ok, require_eq_ok, pure_eq_ok, exists_and_left, exists_const] at matched
    obtain ⟨typed, current, read, ⟨here, outcome, selected⟩, pressure, same⟩ := matched
    obtain ⟨member, identified⟩ := eventById_facts named found
    refine ⟨derivation, member, identified, same, typed, ?_, outcome, selected, pressure⟩
    rw [index_get read]
    exact here

theorem matchingPressure_facts (p : Packet) (decision : Value) (source : Operator) (u : Unit)
    (named : (decision.get "pressure_snapshot_ref").isNonEmptyString = true)
    (matched : p.matchingPressure decision source = .ok u) :
    ∃ pressure ∈ p.trace, pressure.id = decision.get "pressure_snapshot_ref"
      ∧ SnapshotAt pressure source := by
  unfold matchingPressure at matched
  split at matched
  · cases matched
  · rename_i pressure found
    simp only [bind_eq_ok, require_eq_ok, exists_and_left, exists_const] at matched
    obtain ⟨⟨typed, here⟩, kind, read, known⟩ := matched
    obtain ⟨member, identified⟩ := eventById_facts named found
    refine ⟨pressure, member, identified, typed, here, ?_⟩
    rw [index_get read]
    exact known

theorem readyCandidate_facts (target : Operator) (candidate : Value) :
    ∀ candidates, readyCandidate target candidates = .ok candidate →
      candidate ∈ candidates ∧ ReadyFor target candidate := by
  intro candidates
  induction candidates with
  | nil =>
    intro found
    cases found
  | cons first rest ih =>
    intro found
    simp only [readyCandidate, bind_eq_ok] at found
    obtain ⟨named, read, found⟩ := found
    split at found
    · rename_i offered
      obtain ⟨destination, notExcluded, table, ready⟩ := offered
      cases found
      refine ⟨by simp, ?_, notExcluded, table, ready⟩
      rw [index_get read]
      exact destination
    · obtain ⟨member, offered⟩ := ih found
      exact ⟨by simp [member], offered⟩

theorem treeCandidate_facts (p : Packet) (decision : Value) (source target : Operator)
    (candidate : Value) (chosen : p.treeCandidate decision source target = .ok candidate) :
    (decision.get "derivation_ref").isNonEmptyString = true
      ∧ (decision.get "pressure_snapshot_ref").isNonEmptyString = true
      ∧ ∃ derivation ∈ p.trace, ∃ pressure ∈ p.trace, ∃ candidates,
        derivation.id = decision.get "derivation_ref"
          ∧ Derives derivation source target (decision.get "pressure_snapshot_ref")
          ∧ pressure.id = decision.get "pressure_snapshot_ref" ∧ SnapshotAt pressure source
          ∧ ((derivation.payload.get "candidates").orElse .emptyTable).ipairs = .ok candidates
          ∧ candidate ∈ candidates ∧ ReadyFor target candidate := by
  unfold treeCandidate at chosen
  simp only [bind_eq_ok, require_eq_ok, exists_and_left, exists_const] at chosen
  obtain ⟨derived, pressed, -, -, payload, matched, u, measured, candidates, listed, ready⟩ :=
    chosen
  obtain ⟨derivation, member, identified, same, derives⟩ :=
    matchingDerivation_facts p decision source target payload derived matched
  obtain ⟨pressure, pressureMember, pressureId, snapshot⟩ :=
    matchingPressure_facts p decision source u pressed measured
  obtain ⟨offered, readyFor⟩ := readyCandidate_facts target candidate candidates ready
  exact ⟨derived, pressed, derivation, member, pressure, pressureMember, candidates, identified,
    derives, pressureId, snapshot, by rw [same]; exact listed, offered, readyFor⟩

theorem routePayload_evidence (decision selected planId : Value) (source target : Operator) :
    (routePayload decision selected planId source target).get "authority"
        = routeAuthority decision
      ∧ (routePayload decision selected planId source target).get "derivation_ref"
        = decision.get "derivation_ref"
      ∧ (routePayload decision selected planId source target).get "pressure_snapshot_ref"
        = decision.get "pressure_snapshot_ref"
      ∧ (routePayload decision selected planId source target).get "selected_candidate"
        = selected := by
  refine ⟨?_, ?_, ?_, ?_⟩
  all_goals exact get_record (by simp) (by simp)

theorem route_grounded (p : Packet) (now : Int) (decision : Value) (target : Operator)
    (draft : Draft) (event : Event) (planned : p.routePlan decision = .ok (target, draft))
    (stored : p.storedEvent now draft = .ok event)
    (tree : event.payload.get "authority" = .text "tree") : Grounded p.trace event := by
  obtain ⟨-, -, -, -, selected, planId, chosen, rfl⟩ :=
    routePlan_facts p decision target draft planned
  obtain ⟨-, -, -, -, payload⟩ := storedEvent_own p now _ _ _ _ _ event stored
  have kept : (routePayload decision selected planId p.operator target).orElse .emptyTable
      = routePayload decision selected planId p.operator target := rfl
  rw [kept] at payload
  obtain ⟨fromEnd, toEnd⟩ := routePayload_ends decision selected planId p.operator target
  obtain ⟨authority, derivationRef, pressureRef, candidateField⟩ :=
    routePayload_evidence decision selected planId p.operator target
  have byTree : routeAuthority decision = .text "tree" := by
    rw [payload, get_deepCopy, authority] at tree
    exact eq_str_of_deepCopy tree
  rw [routeCandidate, if_pos byTree] at chosen
  obtain ⟨derived, pressed, derivation, member, pressure, pressureMember, candidates, identified,
    derives, pressureId, snapshot, listed, offered, ready⟩ :=
    treeCandidate_facts p decision p.operator target selected chosen
  have sameDerivation : event.payload.get "derivation_ref" = decision.get "derivation_ref" := by
    rw [payload, get_deepCopy, derivationRef, deepCopy_of_isNonEmptyString derived]
  have samePressure : event.payload.get "pressure_snapshot_ref"
      = decision.get "pressure_snapshot_ref" := by
    rw [payload, get_deepCopy, pressureRef, deepCopy_of_isNonEmptyString pressed]
  refine ⟨p.operator, target, derivation, pressure, candidates, selected, ?_, ?_, member, ?_, ?_,
    pressureMember, ?_, snapshot, listed, offered, ready, ?_⟩
  · rw [payload, get_deepCopy, fromEnd]
    rfl
  · rw [payload, get_deepCopy, toEnd]
    rfl
  · rw [sameDerivation]
    exact identified
  · rw [samePressure]
    exact derives
  · rw [samePressure]
    exact pressureId
  · rw [payload, get_deepCopy, candidateField]

/-! ## Whole lives -/

def TreeRoutesGrounded (p : Packet) : Prop :=
  ∀ before route after, p.trace = before ++ route :: after → route.type = .route →
    route.payload.get "authority" = .text "tree" → Grounded before route

theorem grounded_append {p q : Packet} {event : Event} (grounded : TreeRoutesGrounded p)
    (trace : q.trace = p.trace ++ [event])
    (last : event.type = .route → event.payload.get "authority" = .text "tree" →
      Grounded p.trace event) : TreeRoutesGrounded q := by
  intro before route after split routed tree
  rw [trace] at split
  rcases split_append_singleton split with ⟨rfl, rfl⟩ | ⟨rest, older⟩
  · exact last routed tree
  · exact grounded before route rest older routed tree

theorem change_preserves_grounded (supplied : Value) (p : Packet) (events : List Event)
    (q : Packet) (grounded : TreeRoutesGrounded p) (change : Change supplied p events q) :
    TreeRoutesGrounded q := by
  have trace := change.trace
  cases change with
  | edit q mutable same =>
    intro before route after split
    rw [same.trace] at split
    exact grounded before route after split
  | freeze now cause residue terminal planned => exact grounded
  | route now decision target draft event planned stored =>
    exact grounded_append grounded trace fun _ tree =>
      route_grounded p now decision target draft event planned stored tree
  | tick now inputRefs event mutable stored | manifest now plan event mutable here stored
  | death now plan event mutable stored | terminal now terminal event mutable here stored =>
    obtain ⟨typed, -⟩ := storedEvent_own p now _ _ _ _ _ event stored
    exact grounded_append grounded trace (by simp [typed])
  | act now draft lease event mutable leased here acted permitted identified stored =>
    refine grounded_append grounded trace fun routed => ?_
    rw [routed] at acted
    cases acted

/-- In every life each tree route rests on a derivation and a pressure snapshot
that stand before it in the trace. -/
theorem life_tree_routes_grounded (S : Schemas) (counter : Nat) (now : Int)
    (prompt options : Value) (p : Packet)
    (born : Packet.new S counter now prompt options = .ok p) (steps : List Step) :
    TreeRoutesGrounded ((machine S).run p steps) := by
  obtain ⟨birth, newborn⟩ := new_newborn S counter now prompt options p born
  refine life_invariant S TreeRoutesGrounded change_preserves_grounded steps p ?_
  intro before route after split routed
  have member : route ∈ p.trace := by
    rw [split]
    simp
  rw [newborn.trace, mem_singleton] at member
  rw [member, newborn.type] at routed
  cases routed

/-! ## Evidence from elsewhere -/

def flowDerivation : Call :=
  .appendTrace (.record [("type", .text "route_derivation"),
    ("operator", Topology.value .flow), ("truth_status", .text "runtime_confirmed"),
    ("payload", .record [("current_operator", Topology.value .observe),
      ("outcome", .text "selected"), ("selected_to", Topology.value .connect),
      ("pressure_snapshot_ref", .text "event-5"),
      ("candidates", .array [.record [("to", Topology.value .connect),
        ("readiness", .record [("ready", .bool true)])]])])])

def treeRouteToConnect : Call :=
  .commitTransition (.record [("from", Topology.value .observe),
    ("to", Topology.value .connect), ("authority", .text "tree"),
    ("derivation_ref", .text "event-2"), ("pressure_snapshot_ref", .text "event-5"),
    ("selected_candidate", .record [("to", Topology.value .connect),
      ("readiness", .record [("ready", .bool true)])])])

def staleTreeRoute : List Call :=
  [flowDerivation, legacyRoute .flow .observe, tickAt .observe,
    .measureTension (.record [("kind", .text "edge_pressure_snapshot")]),
    legacyRoute .observe .connect, legacyRoute .connect .observe, treeRouteToConnect]

theorem life_tree_routes_grounded_observe :
    ∃ p, Packet.new refusingSchemas 1 0 (.text "task") .nil = .ok p
      ∧ TreeRoutesGrounded (lived p staleTreeRoute) := by
  obtain ⟨p, born, -⟩ := task_born_passing (fun _ => true) (by decide)
  exact ⟨p, born, life_tree_routes_grounded refusingSchemas 1 0 (.text "task") .nil p born _⟩

def routeFacts (event : Event) : EventType × Operator × Bool × Bool :=
  (event.type, event.operator, decide (event.payload.get "authority" = .text "tree"),
    decide (event.payload.get "from" = Topology.value .observe))

/-- A tree route whose derivation is neither of the visit that commits it nor
recorded at its source. -/
theorem stale_derivation_commits :
    ∃ p, Packet.new refusingSchemas 1 0 (.text "task") .nil = .ok p
      ∧ (¬ ∀ before route after, (lived p staleTreeRoute).trace = before ++ route :: after →
        route.type = .route → route.payload.get "authority" = .text "tree" →
        ∃ earlier arrival since derivation, before = earlier ++ arrival :: since
          ∧ (arrival.type = .route ∨ arrival.type = .birth)
          ∧ (∀ event ∈ since, event.type ≠ .route ∧ event.type ≠ .birth)
          ∧ derivation ∈ since ∧ derivation.type = .routeDerivation
          ∧ derivation.id = route.payload.get "derivation_ref")
      ∧ ¬ ∀ before route after, (lived p staleTreeRoute).trace = before ++ route :: after →
        route.type = .route → route.payload.get "authority" = .text "tree" →
        ∃ derivation ∈ before, derivation.type = .routeDerivation
          ∧ derivation.id = route.payload.get "derivation_ref"
          ∧ Topology.value derivation.operator = route.payload.get "from" := by
  obtain ⟨p, born, shape⟩ := task_born_passing
    (fun p => (lived p staleTreeRoute).trace.map routeFacts
      = [(.birth, .flow, false, false), (.routeDerivation, .flow, false, false),
          (.route, .observe, false, false), (.operatorTick, .observe, false, false),
          (.tensionMeasure, .observe, false, false), (.route, .connect, false, true)]
        ++ [(.route, .observe, false, false), (.route, .connect, true, true)])
    (by decide)
  simp only [decide_eq_true_eq] at shape
  obtain ⟨initial, rest, split, initialShape, restShape⟩ := map_eq_append_iff.mp shape
  obtain ⟨arrived, rest, rfl, arrivedShape, restShape⟩ := map_eq_cons_iff.mp restShape
  obtain ⟨route, rest, rfl, routeShape, restShape⟩ := map_eq_cons_iff.mp restShape
  simp only [routeFacts, Prod.mk.injEq, decide_eq_true_eq] at arrivedShape routeShape
  obtain ⟨routed, -, tree, fromObserve⟩ := routeShape
  have whole : (lived p staleTreeRoute).trace = (initial ++ [arrived]) ++ route :: rest := by
    rw [split]
    simp
  refine ⟨p, born, fun claim => ?_, fun claim => ?_⟩
  · obtain ⟨earlier, arrival, since, derivation, before, -, quiet, member, -⟩ :=
      claim (initial ++ [arrived]) route rest whole routed tree
    -- the visit that commits the route has recorded nothing
    rcases eq_nil_or_concat since with rfl | ⟨others, last, rfl⟩
    · cases member
    · rw [concat_eq_append, ← cons_append, ← append_assoc] at before
      have same := (append_inj' before rfl).2
      simp only [List.cons.injEq, and_true] at same
      exact (quiet last (by simp)).1 (same ▸ arrivedShape.1)
  · obtain ⟨derivation, member, typed, -, here⟩ :=
      claim (initial ++ [arrived]) route rest whole routed tree
    have recorded : routeFacts derivation ∈ (initial ++ [arrived]).map routeFacts :=
      mem_map_of_mem member
    rw [map_append, initialShape] at recorded
    simp only [routeFacts, typed, map_cons, map_nil, arrivedShape.1,
      cons_append, nil_append, mem_cons, Prod.mk.injEq, reduceCtorEq, false_and,
      true_and, false_or, or_false, not_mem_nil] at recorded
    rw [recorded.1, fromObserve] at here
    exact absurd (Topology.value_injective _ _ here) (by decide)

end Proc17.Core.Packet
