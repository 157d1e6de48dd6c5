import Proc17.Core.Life.Stage

/-!
# Trace identity

Event ids are pairwise distinct in every life.  A fresh id is one more than the
greatest ordinal of its lane, computed in 64-bit integers: it is unused as long as
no ordinal reaches the greatest integer, and can be taken from there on.
-/

namespace Proc17.Core.Packet

open Lua List

def DistinctIds (trace : List Event) : Prop :=
  trace.Pairwise fun a b => Value.eq a.id b.id = false

def Fresh (trace : List Event) : Prop :=
  ∀ lane, ∀ event ∈ trace, Value.eq event.id (Trace.nextTraceId trace lane) = false

/-- Every ordinal of an id, in either lane, leaves room for `room` more below the
greatest integer. -/
def Spaced (room : Nat) (id : Value) : Prop :=
  ∀ lane digits, Trace.digits lane id = some digits →
    Number.ofDigits digits + room < 2 ^ 63 - 1

/-! ## Ordinals -/

def laneId (lane : Lane) (n : Nat) : Value :=
  .str (Trace.lanePrefix lane ++ Number.decimal n)

theorem digits_laneId (lane : Lane) (n : Nat) :
    Trace.digits lane (laneId lane n) = some (Number.decimal n) := by
  obtain ⟨all, nonempty⟩ := Number.decimal_digits n
  have isPrefix : (Trace.lanePrefix lane).isPrefixOf
      (Trace.lanePrefix lane ++ Number.decimal n) = true := by
    rw [ isPrefixOf_iff_prefix]
    exact prefix_append _ _
  simp [Trace.digits, laneId, isPrefix, all, nonempty]

theorem digits_other (lane other : Lane) (rest : Bytes) (differ : lane ≠ other) :
    Trace.digits other (.str (Trace.lanePrefix lane ++ rest)) = none := by
  have body : Trace.lanePrefix .body = [101, 118, 101, 110, 116, 45] := by decide
  have observer : Trace.lanePrefix .observerInstrumentation
      = [111, 98, 115, 101, 114, 118, 101, 114, 45, 101, 118, 101, 110, 116, 45] := by decide
  cases lane with
  | body =>
    cases other with
    | body => exact absurd rfl differ
    | observerInstrumentation => simp [Trace.digits, body, observer, List.isPrefixOf]
  | observerInstrumentation =>
    cases other with
    | body => simp [Trace.digits, body, observer, List.isPrefixOf]
    | observerInstrumentation => exact absurd rfl differ

theorem ordinal_of_fits {lane : Lane} {id : Value} {digits : Bytes}
    (found : Trace.digits lane id = some digits) (fits : Number.ofDigits digits < 2 ^ 63) :
    Trace.ordinal lane id = some (.int (Number.ofDigits digits)) := by
  rw [Trace.ordinal, found, Option.map_some, Number.ofDecimal, if_pos fits]

theorem highest_eq (lane : Lane) (ids : List Value) (limit : Nat) (small : limit ≤ 2 ^ 63)
    (positive : 0 < limit)
    (bounded : ∀ id ∈ ids, ∀ digits, Trace.digits lane id = some digits →
      Number.ofDigits digits < limit) :
    ∃ h : Nat, Trace.highest lane ids = .int h ∧ h < limit
      ∧ ∀ id ∈ ids, ∀ digits, Trace.digits lane id = some digits →
        Number.ofDigits digits ≤ h := by
  have scan : ∀ (rest : List Value) (start : Nat), start < limit →
      (∀ id ∈ rest, ∀ digits, Trace.digits lane id = some digits →
        Number.ofDigits digits < limit) →
      ∃ h : Nat, rest.foldl (Trace.higher lane) (.int start) = .int h ∧ start ≤ h ∧ h < limit
        ∧ ∀ id ∈ rest, ∀ digits, Trace.digits lane id = some digits →
          Number.ofDigits digits ≤ h := by
    intro rest
    induction rest with
    | nil =>
      intro start below _
      exact ⟨start, rfl, Nat.le_refl start, below, by simp⟩
    | cons id rest ih =>
      intro start below within
      have withinRest : ∀ other ∈ rest, ∀ digits,
          Trace.digits lane other = some digits → Number.ofDigits digits < limit := by
        intro other member
        exact within other (by simp [member])
      -- the scan goes on from the greater of the two numbers
      have next : ∃ middle : Nat, Trace.higher lane (.int start) id = .int middle
          ∧ start ≤ middle ∧ middle < limit
          ∧ ∀ digits, Trace.digits lane id = some digits →
            Number.ofDigits digits ≤ middle := by
        cases found : Trace.digits lane id with
        | none =>
          refine ⟨start, ?_, Nat.le_refl start, below, by simp⟩
          simp [Trace.higher, Trace.ordinal, found]
        | some digits =>
          have inside := within id (by simp) digits found
          have read := ordinal_of_fits found (by omega)
          by_cases above : start < Number.ofDigits digits
          · refine ⟨Number.ofDigits digits, ?_, by omega, inside, by simp⟩
            simp [Trace.higher, read, Number.lt, above]
          · refine ⟨start, ?_, Nat.le_refl start, below, ?_⟩
            · simp [Trace.higher, read, Number.lt, above]
            · intro other same
              cases same
              omega
      obtain ⟨middle, stepped, up, belowMiddle, covers⟩ := next
      obtain ⟨h, folded, upRest, belowH, coversRest⟩ := ih middle belowMiddle withinRest
      refine ⟨h, ?_, by omega, belowH, ?_⟩
      · rw [foldl_cons, stepped, folded]
      · intro other member digits found
        rcases mem_cons.mp member with rfl | later
        · exact Nat.le_trans (covers digits found) upRest
        · exact coversRest other later digits found
  obtain ⟨h, folded, -, below, covers⟩ := scan ids 0 positive bounded
  exact ⟨h, folded, below, covers⟩

/-! ## Distinct ids -/

theorem newborn_distinct (p : Packet) (birth : Event) (born : Newborn p birth) :
    DistinctIds p.trace := by
  rw [born.trace]
  exact pairwise_singleton _ birth

theorem change_preserves_distinct (supplied : Value) (p : Packet) (events : List Event)
    (q : Packet) (distinct : DistinctIds p.trace) (change : Change supplied p events q) :
    DistinctIds q.trace := by
  rw [change.trace]
  rcases change.appended with rfl | ⟨now, draft, event, rfl, stored, -⟩
  · rw [append_nil]
    exact distinct
  · have facts := (storedEvent_eq_ok p now draft event).mp stored
    refine pairwise_append.mpr ⟨distinct, pairwise_singleton _ event, ?_⟩
    intro earlier member other isEvent
    rw [mem_singleton.mp isEvent]
    exact facts.fresh earlier member

theorem life_distinct (S : Schemas) (counter : Nat) (now : Int) (prompt options : Value)
    (p : Packet) (born : Packet.new S counter now prompt options = .ok p)
    (steps : List Step) : DistinctIds ((machine S).run p steps).trace := by
  obtain ⟨birth, newborn⟩ := new_newborn S counter now prompt options p born
  exact life_invariant S (fun q => DistinctIds q.trace) change_preserves_distinct steps p
    (newborn_distinct p birth newborn)

/-! ## Fresh ids -/

theorem Spaced.mono {room less : Nat} {id : Value} (spaced : Spaced room id)
    (le : less ≤ room) : Spaced less id := by
  intro lane digits found
  have bound := spaced lane digits found
  omega

theorem spaced_laneId (lane : Lane) (n room : Nat) (fits : n + room < 2 ^ 63 - 1) :
    Spaced room (laneId lane n) := by
  intro other digits found
  by_cases same : lane = other
  · subst same
    rw [digits_laneId] at found
    cases found
    rw [Number.ofDigits_decimal]
    exact fits
  · rw [laneId, digits_other lane other _ same] at found
    cases found

theorem nextTraceId_eq (lane : Lane) (trace : List Event) (room : Nat)
    (small : room + 1 < 2 ^ 63 - 1) (spaced : ∀ event ∈ trace, Spaced room event.id) :
    ∃ h : Nat, Trace.nextTraceId trace lane = laneId lane (h + 1) ∧ h + room < 2 ^ 63 - 1
      ∧ ∀ event ∈ trace, ∀ digits, Trace.digits lane event.id = some digits →
        Number.ofDigits digits ≤ h := by
  obtain ⟨h, highest, below, covers⟩ := highest_eq lane (trace.map Event.id)
    (2 ^ 63 - 1 - room) (by omega) (by omega) (by
      intro id member digits found
      obtain ⟨event, inTrace, rfl⟩ := mem_map.mp member
      have bound := spaced event inTrace lane digits found
      omega)
  refine ⟨h, ?_, by omega, ?_⟩
  · have sum : Number.add (Trace.highest lane (trace.map Event.id)) (.int 1)
        = .int ((h + 1 : Nat) : Int) := by
      rw [highest, Number.add, Number.wrap, Int.bmod_eq_of_le (by omega) (by omega)]
      rfl
    rw [Trace.nextTraceId, Trace.nextId, sum]
    rfl
  · intro event member digits found
    exact covers event.id (mem_map_of_mem member) digits found

theorem fresh_of_spaced (trace : List Event) (spaced : ∀ event ∈ trace, Spaced 0 event.id) :
    Fresh trace := by
  intro lane event member
  obtain ⟨h, next, below, covers⟩ := nextTraceId_eq lane trace 0 (by omega) spaced
  rw [next, ← Bool.not_eq_true]
  intro equal
  have same : event.id = laneId lane (h + 1) := Value.eq_of_eq_str equal
  have covered := covers event member (Number.decimal (h + 1)) (by rw [same, digits_laneId])
  rw [Number.ofDigits_decimal] at covered
  omega

theorem change_spaced {supplied : Value} {p q : Packet} {events : List Event} (room : Nat)
    (change : Change supplied p events q) (small : room + 2 < 2 ^ 63 - 1)
    (spaced : ∀ event ∈ p.trace, Spaced (room + events.length) event.id)
    (tame : events ≠ [] → supplied = .nil ∨ Spaced room supplied) :
    ∀ event ∈ q.trace, Spaced room event.id := by
  rw [change.trace]
  rcases change.appended with rfl | ⟨now, draft, event, rfl, stored, identified⟩
  · rw [append_nil]
    intro event member
    exact (spaced event member).mono (by omega)
  · intro other member
    rcases mem_append.mp member with old | new
    · exact (spaced other old).mono (by omega)
    · rw [mem_singleton.mp new]
      have facts := (storedEvent_eq_ok p now draft event).mp stored
      obtain ⟨lane, -, id, -⟩ := facts.lane
      -- the id is the caller's own, or the next of its lane
      have given : event.id = Trace.nextTraceId p.trace lane
          ∨ event.id = supplied ∧ supplied ≠ .nil := by
        rcases identified with unnamed | named
        · exact .inl (by rw [id, unnamed]; rfl)
        · rw [id, named, Value.orElse]
          split
          · rename_i truthy
            refine .inr ⟨rfl, ?_⟩
            rintro rfl
            cases truthy
          · exact .inl rfl
      rcases given with next | ⟨own, present⟩
      · obtain ⟨h, shape, below, -⟩ := nextTraceId_eq lane p.trace (room + 1) (by omega) spaced
        rw [next, shape]
        exact spaced_laneId lane (h + 1) room (by omega)
      · rw [own]
        exact (tame (by simp)).resolve_left present

theorem course_spaced {supplied : Value} {p q : Packet} {events : List Event} (n : Nat)
    (course : Course supplied p events q) (few : n ≤ 2) (short : events.length ≤ n)
    (spaced : ∀ event ∈ p.trace, Spaced n event.id)
    (tame : supplied = .nil ∨ n ≤ 1 ∧ Spaced 0 supplied) :
    ∀ event ∈ q.trace, Spaced (n - events.length) event.id := by
  induction course with
  | stay => exact spaced
  | @go events later q r first next ih =>
    rw [length_append] at short ⊢
    have before := ih (by omega)
    refine change_spaced _ next (by omega) ?_ ?_
    · intro event member
      exact (before event member).mono (by omega)
    · intro appended
      have positive : 0 < later.length := length_pos_iff.mpr appended
      rcases tame with unnamed | ⟨single, bound⟩
      · exact .inl unnamed
      · exact .inr (bound.mono (by omega))

/-- A call that keeps every ordinal below the greatest integer: the ids in use
leave room for the events it appends, and the id its caller chose is below. -/
structure Tame (p : Packet) (s : Step) : Prop where
  room : ∀ event ∈ p.trace, Spaced s.call.appends event.id
  supplied : Spaced 0 s.call.suppliedId

theorem supplied_once (call : Call) : call.suppliedId = .nil ∨ call.appends ≤ 1 := by
  cases call with
  | appendTrace | appendRepositoryEvent => exact .inr (Nat.le_refl 1)
  | _ => exact .inl rfl

theorem step_spaced (S : Schemas) (p : Packet) (s : Step) (tame : Tame p s) :
    ∀ event ∈ ((machine S).after p s).trace, Spaced 0 event.id := by
  obtain ⟨events, course, short⟩ := step_reaches S p s
  have few : s.call.appends ≤ 2 := by
    cases s.call <;> simp [Call.appends]
  have spaced := course_spaced s.call.appends course few short tame.room
    ((supplied_once s.call).imp_right fun single => ⟨single, tame.supplied⟩)
  intro event member
  exact (spaced event member).mono (Nat.zero_le _)

theorem beginTick_succeeds (p : Packet) (now : Int) (operator inputRefs : Value)
    (mutable : p.Mutable) (here : Topology.resolve operator = some p.operator)
    (refs : inputRefs = .nil ∨ inputRefs.isTable = true) (fresh : Fresh p.trace) :
    (p.beginTick now operator inputRefs).Succeeds := by
  have planned := (tickPlan_eq_ok p operator inputRefs _).mpr ⟨mutable, here, refs, rfl⟩
  obtain ⟨event, stored⟩ := (storedEvent_own_succeeds p.wake now .operatorTick p.operator
    (.text "runtime_confirmed") (.record [("input_refs", inputRefs.orElse .emptyTable)])
    .emptyTable).mpr ⟨⟨.runtimeConfirmed, TruthStatus.parse_name .runtimeConfirmed⟩, fresh .body,
      ⟨.nat 0, .nat 0, .nat 0, .nat 0, .nat 0, .nat 0⟩, rfl⟩
  refine ⟨event, ?_⟩
  rw [beginTick, planned, transact_ok, emit, emitThen]
  have appended : p.wake.storedEvent now (tickDraft p.operator inputRefs) = .ok event := stored
  rw [appended]

/-! ## Identity over whole lives -/

structure Identified (p : Packet) : Prop where
  distinct : DistinctIds p.trace
  fresh : p.terminal = none → Fresh p.trace
  ticks : p.terminal = none → ∀ now operator inputRefs,
    Topology.resolve operator = some p.operator →
      (inputRefs = .nil ∨ inputRefs.isTable = true) →
      (p.beginTick now operator inputRefs).Succeeds

/-- In every life whose calls keep the ordinals below the greatest integer, each
state reached has distinct ids and a fresh one to give. -/
theorem tame_life_identified (S : Schemas) (counter : Nat) (now : Int)
    (prompt options : Value) (p : Packet)
    (born : Packet.new S counter now prompt options = .ok p) (steps : List Step)
    (tame : ∀ before s after, steps = before ++ s :: after →
      Tame ((machine S).run p before) s) :
    ∀ before after, steps = before ++ after → Identified ((machine S).run p before) := by
  intro before after split
  have spaced : ∀ event ∈ ((machine S).run p before).trace, Spaced 0 event.id := by
    rcases eq_nil_or_concat before with rfl | ⟨earlier, s, rfl⟩
    · obtain ⟨birth, newborn⟩ := new_newborn S counter now prompt options p born
      rw [Machine.run_nil, newborn.trace]
      intro event member
      rw [mem_singleton.mp member, newborn.id]
      exact spaced_laneId .body 1 0 (by omega)
    · rw [concat_eq_append] at split ⊢
      rw [Machine.run_append]
      exact step_spaced S _ s (tame earlier s after (by rw [split, append_assoc]; rfl))
  have fresh := fresh_of_spaced _ spaced
  have stage := life_stage S counter now prompt options p born before
  refine ⟨life_distinct S counter now prompt options p born before, fun _ => fresh, ?_⟩
  intro unended clock operator inputRefs here refs
  exact beginTick_succeeds _ clock operator inputRefs (stage.mutable_iff.mpr unended) here refs
    fresh

theorem tame_life_identified_first_tick :
    ∃ p, Packet.new refusingSchemas 1 0 (.text "task") .nil = .ok p
      ∧ Tame p ⟨tickAt .flow, fun _ => 0⟩ ∧ Identified (lived p [tickAt .flow]) := by
  obtain ⟨p, born, -⟩ := task_born_passing (fun _ => true) (by decide)
  obtain ⟨birth, newborn⟩ := new_newborn refusingSchemas 1 0 (.text "task") .nil p born
  have tame : Tame p ⟨tickAt .flow, fun _ => 0⟩ := by
    refine ⟨?_, ?_⟩
    · rw [newborn.trace]
      intro event member
      rw [mem_singleton.mp member, newborn.id]
      exact spaced_laneId .body 1 1 (by omega)
    · intro lane digits found
      cases found
  refine ⟨p, born, tame, tame_life_identified refusingSchemas 1 0 (.text "task") .nil p born
    [⟨tickAt .flow, fun _ => 0⟩] ?_ _ [] (append_nil _).symm⟩
  intro before s after split
  cases before with
  | nil =>
    cases split
    exact tame
  | cons first rest => simp at split

def claimGreatest : Call :=
  .appendTrace (.record [("id", .text "event-9223372036854775807"),
    ("type", .text "operator_failure"), ("operator", Topology.value .flow),
    ("truth_status", .text "runtime_confirmed")])

/-- After the greatest ordinal the counter wraps: the next id is handed out once,
and then every tick collides with it. -/
theorem greatest_ordinal_exhausts_ids :
    ∃ p, Packet.new refusingSchemas 1 0 (.text "task") .nil = .ok p
      ∧ (lived p [claimGreatest, tickAt .flow]).terminal = none
      ∧ (∃ event ∈ (lived p [claimGreatest, tickAt .flow]).trace, Value.eq event.id
        (Trace.nextTraceId (lived p [claimGreatest, tickAt .flow]).trace .body) = true)
      ∧ ¬ ((lived p [claimGreatest, tickAt .flow]).beginTick 0 (Topology.value .flow)
        .nil).Succeeds := by
  obtain ⟨p, born, facts⟩ := task_born_passing
    (fun p =>
      let q := lived p [claimGreatest, tickAt .flow]
      q.terminal = none
        && q.trace.any (fun event => Value.eq event.id (Trace.nextTraceId q.trace .body))
        && decide (¬ (q.beginTick 0 (Topology.value .flow) .nil).Succeeds))
    (by decide)
  simp only [Bool.and_eq_true, decide_eq_true_eq, any_eq_true] at facts
  exact ⟨p, born, facts.1.1, facts.1.2, facts.2⟩

end Proc17.Core.Packet
