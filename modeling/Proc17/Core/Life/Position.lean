import Mathlib.Data.List.Chain
import Proc17.Core.Packet.Course

/-!
# Position

A Packet keeps its position twice: in `operator` and, implicitly, in the routes
of its trace.  The two agree in every life, and the routes are a walk of the
topology from FLOW that stops at MANIFEST.
-/

namespace Proc17.Core.Packet

open Lua List

/-- The birth glyph followed by the destinations of the routes. -/
def walk : List Event → List Value
  | [] => []
  | birth :: later =>
    Topology.value birth.operator
      :: (later.filter fun event => event.type = .route).map fun event =>
          event.payload.get "to"

def stops (event : Event) : List Value :=
  if event.type = .route then [event.payload.get "to"] else []

theorem walk_append (trace : List Event) (event : Event) (nonempty : trace ≠ []) :
    walk (trace ++ [event]) = walk trace ++ stops event := by
  cases trace with
  | nil => exact absurd rfl nonempty
  | cons birth later =>
    by_cases isRoute : event.type = .route <;> simp [walk, stops, isRoute]

/-- A walk of the topology as a Packet may make it in one life. -/
structure IsWalk (path : List Operator) : Prop where
  start : path.head? = some .flow
  adjacent : path.IsChain (fun a b => Topology.isAdjacent a b = true)
  noReturn : .flow ∉ path.tail
  final : ∀ before after, path = before ++ .manifest :: after → after = []

theorem isWalk_flow : IsWalk [.flow] := by
  refine ⟨rfl, isChain_singleton _, by simp, ?_⟩
  intro before after split
  cases before with
  | nil | cons => simp at split

theorem IsWalk.snoc {path : List Operator} {here next : Operator} (walked : IsWalk path)
    (last : path.getLast? = some here) (notManifest : here ≠ .manifest)
    (notFlow : next ≠ .flow) (adjacent : Topology.isAdjacent here next = true) :
    IsWalk (path ++ [next]) := by
  obtain ⟨start, chain, noReturn, final⟩ := walked
  have nonempty : path ≠ [] := by
    rintro rfl
    cases start
  refine ⟨?_, ?_, ?_, ?_⟩
  · rw [List.head?_append, start]
    rfl
  · refine chain.append (isChain_singleton next) ?_
    intro a isLast b isNext
    rw [last] at isLast
    cases isLast
    cases isNext
    exact adjacent
  · rw [tail_append_of_ne_nil nonempty, mem_append]
    rintro (old | new)
    · exact noReturn old
    · exact notFlow (mem_singleton.mp new).symm
  · intro before after split
    rcases eq_nil_or_concat after with empty | ⟨rest, stop, shape⟩
    · exact empty
    · -- MANIFEST before the new stop would have ended the old walk
      rw [shape, concat_eq_append, ← cons_append, ← append_assoc] at split
      have old : path = before ++ .manifest :: rest := (append_inj' split rfl).1
      rw [final before rest old] at old
      rw [old, List.getLast?_concat] at last
      exact absurd (Option.some.inj last).symm notManifest

structure Positioned (p : Packet) : Prop where
  birth : ∃ birth later, p.trace = birth :: later ∧ birth.type = .birth
    ∧ ∀ event ∈ later, event.type ≠ .birth
  walks : ∃ path, walk p.trace = path.map Topology.value ∧ IsWalk path
    ∧ path.getLast? = some p.operator
  routes : ∀ before event after, p.trace = before ++ event :: after → event.type = .route →
    (walk before).getLast? = some (event.payload.get "from")
  ticks : ∀ before event after, p.trace = before ++ event :: after →
    event.type = .operatorTick → (walk before).getLast? = some (Topology.value event.operator)

variable {p q : Packet}

theorem Change.moves_or_stays {supplied : Value} {events : List Event}
    (change : Change supplied p events q) :
    (q.operator = p.operator ∧ ∀ event ∈ events, event.type ≠ .birth ∧ event.type ≠ .route
      ∧ (event.type = .operatorTick → event.operator = p.operator)) ∨
    ∃ event, events = [event] ∧ event.type = .route ∧ p.operator ≠ .manifest
      ∧ q.operator ≠ .flow ∧ Topology.isAdjacent p.operator q.operator = true
      ∧ event.payload.get "from" = Topology.value p.operator
      ∧ event.payload.get "to" = Topology.value q.operator := by
  cases change with
  | edit q mutable same => exact .inl ⟨same.operator, by simp⟩
  | tick now inputRefs event mutable stored =>
    obtain ⟨typed, here, -⟩ := storedEvent_own p now _ _ _ _ _ event stored
    refine .inl ⟨rfl, ?_⟩
    simp [typed, here]
  | route now decision target draft event planned stored =>
    obtain ⟨-, notManifest, notFlow, adjacent, selected, planId, -, rfl⟩ :=
      routePlan_facts p decision target draft planned
    obtain ⟨typed, -, -, -, payload⟩ := storedEvent_own p now _ _ _ _ _ event stored
    obtain ⟨fromEnd, toEnd⟩ := routePayload_ends decision selected planId p.operator target
    rw [show (routePayload decision selected planId p.operator target).orElse .emptyTable
      = routePayload decision selected planId p.operator target from rfl] at payload
    refine .inr ⟨event, rfl, typed, notManifest, notFlow, adjacent, ?_, ?_⟩
    · rw [payload, Value.get_deepCopy, fromEnd]
      rfl
    · rw [payload, Value.get_deepCopy, toEnd]
      rfl
  | act now draft lease event mutable leased here acted permitted identified stored =>
    refine .inl ⟨rfl, ?_⟩
    simp only [mem_singleton, forall_eq]
    refine ⟨?_, ?_, fun _ => here⟩
    · intro typed
      rw [typed] at acted
      cases acted
    · intro typed
      rw [typed] at acted
      cases acted
  | manifest now plan event mutable here stored | death now plan event mutable stored
  | terminal now terminal event mutable here stored =>
    obtain ⟨typed, -⟩ := storedEvent_own p now _ _ _ _ _ event stored
    exact .inl ⟨rfl, by simp [typed]⟩
  | freeze now cause residue terminal planned => exact .inl ⟨rfl, by simp⟩

theorem newborn_positioned (p : Packet) (birth : Event) (born : Newborn p birth) :
    Positioned p := by
  have only : ∀ before event after, p.trace = before ++ event :: after → event = birth := by
    intro before event after split
    rw [born.trace] at split
    have member : event ∈ [birth] := by
      rw [split]
      simp
    simpa using member
  refine ⟨⟨birth, [], born.trace, born.type, by simp⟩, ⟨[.flow], ?_, isWalk_flow, ?_⟩, ?_, ?_⟩
  · rw [born.trace]
    simp [walk, born.actor]
  · rw [born.operator]
    rfl
  · intro before event after split typed
    rw [only before event after split, born.type] at typed
    cases typed
  · intro before event after split typed
    rw [only before event after split, born.type] at typed
    cases typed

theorem Positioned.last {p : Packet} (positioned : Positioned p) :
    (walk p.trace).getLast? = some (Topology.value p.operator) := by
  obtain ⟨path, walked, -, last⟩ := positioned.walks
  rw [walked, List.getLast?_map, last]
  rfl

theorem Positioned.nonempty {p : Packet} (positioned : Positioned p) : p.trace ≠ [] := by
  obtain ⟨birth, later, shape, -⟩ := positioned.birth
  rw [shape]
  exact cons_ne_nil birth later

theorem positioned_quiet (positioned : Positioned p)
    (trace : q.trace = p.trace) (operator : q.operator = p.operator) : Positioned q := by
  obtain ⟨birth, walks, routes, ticks⟩ := positioned
  refine ⟨?_, ?_, ?_, ?_⟩
  · rw [trace]
    exact birth
  · rw [trace, operator]
    exact walks
  · rw [trace]
    exact routes
  · rw [trace]
    exact ticks

theorem positioned_append {event : Event} (positioned : Positioned p)
    (trace : q.trace = p.trace ++ [event]) (notBirth : event.type ≠ .birth)
    (walks : ∃ path, walk p.trace ++ stops event = path.map Topology.value ∧ IsWalk path
      ∧ path.getLast? = some q.operator)
    (routes : event.type = .route → event.payload.get "from" = Topology.value p.operator)
    (ticks : event.type = .operatorTick → event.operator = p.operator) : Positioned q := by
  have last := positioned.last
  refine ⟨?_, ?_, ?_, ?_⟩
  · obtain ⟨birth, later, shape, typed, others⟩ := positioned.birth
    refine ⟨birth, later ++ [event], by rw [trace, shape, cons_append], typed, ?_⟩
    exact forall_mem_append.mpr ⟨others, forall_mem_singleton.mpr notBirth⟩
  · rw [trace, walk_append p.trace event positioned.nonempty]
    exact walks
  · intro before other after split typed
    rw [trace] at split
    rcases split_append_singleton split with ⟨rfl, rfl⟩ | ⟨rest, older⟩
    · rw [last, routes typed]
    · exact positioned.routes before other rest older typed
  · intro before other after split typed
    rw [trace] at split
    rcases split_append_singleton split with ⟨rfl, rfl⟩ | ⟨rest, older⟩
    · rw [last, ticks typed]
    · exact positioned.ticks before other rest older typed

theorem change_preserves_positioned (supplied : Value) (p : Packet) (events : List Event)
    (q : Packet) (positioned : Positioned p) (change : Change supplied p events q) :
    Positioned q := by
  have trace := change.trace
  obtain ⟨path, walked, isWalk, last⟩ := positioned.walks
  rcases change.moves_or_stays with ⟨stayed, quiet⟩ |
    ⟨event, rfl, typed, notManifest, notFlow, adjacent, fromEnd, toEnd⟩
  · -- every change appends at most one event
    match events, change, trace, quiet with
    | [], _, trace, _ =>
      rw [append_nil] at trace
      exact positioned_quiet positioned trace stayed
    | [event], _, trace, quiet =>
      obtain ⟨notBirth, notRoute, ticked⟩ := quiet event (by simp)
      refine positioned_append positioned trace notBirth ⟨path, ?_, isWalk, ?_⟩
        (fun typed => absurd typed notRoute) ticked
      · simp [stops, notRoute, walked]
      · rw [stayed]
        exact last
    | _ :: _ :: _, change, _, _ => cases change
  · refine positioned_append positioned trace (by simp [typed]) ⟨path ++ [q.operator], ?_, ?_, ?_⟩
      (fun _ => fromEnd) (by simp [typed])
    · simp [stops, typed, walked, toEnd]
    · exact isWalk.snoc last notManifest notFlow adjacent
    · exact List.getLast?_concat

/-- In every life the routes walk the topology, and the position is where they
lead. -/
theorem life_positioned (S : Schemas) (counter : Nat) (now : Int) (prompt options : Value)
    (p : Packet) (born : Packet.new S counter now prompt options = .ok p)
    (steps : List Step) : Positioned ((machine S).run p steps) := by
  obtain ⟨birth, newborn⟩ := new_newborn S counter now prompt options p born
  exact life_invariant S Positioned change_preserves_positioned steps p
    (newborn_positioned p birth newborn)

theorem life_positioned_flow_to_observe :
    ∃ p, Packet.new refusingSchemas 1 0 (.text "task") .nil = .ok p
      ∧ (lived p [tickAt .flow, legacyRoute .flow .observe]).operator = .observe
      ∧ Positioned (lived p [tickAt .flow, legacyRoute .flow .observe]) := by
  obtain ⟨p, born, moved⟩ := task_born_passing
    (fun p => (lived p [tickAt .flow, legacyRoute .flow .observe]).operator = .observe)
    (by decide)
  exact ⟨p, born, by simpa using moved, life_positioned refusingSchemas 1 0 _ _ p born _⟩

end Proc17.Core.Packet
