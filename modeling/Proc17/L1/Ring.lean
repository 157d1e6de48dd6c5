import Proc17.L1.Field
import Mathlib.Data.Nat.Count
import Mathlib.Logic.Function.Iterate

/-!
# The ring over any number of laps

What every tick keeps of an initialized field, and the one-way flow of `l1_trace`: a cell
of it is worn by a constant of its place alone, once at each visit.
-/

namespace Proc17.L1

open Lua List Nat

theorem crazy_lt (a d : Nat) : crazy a d < MOD := mod_lt _ (by decide)

structure Ranged (s : State) : Prop where
  carry : s.carry < MOD
  core : ∀ value ∈ s.core, value < MOD
  l1Trace : ∀ value ∈ s.l1Trace, value < MOD

/-- What a visit to the place `p` makes of the value of `l1_trace` there. -/
def worn (p value : Nat) : Nat := crazy value (crazy ((p - 1) % 3) ((p - 1) % MOD))

/-- How often `p` is the position of the first `n` ticks. -/
def visits (ringSize p n : Nat) : Nat := Nat.count (fun k => k % ringSize + 1 = p) n

/-- The state after `n` ticks from `first`. -/
structure Turned (first : State) (n : Nat) (s : State) : Prop where
  valid : Valid s
  active : s.frozen = false
  ranged : Ranged s
  ring : s.ringSize = first.ringSize
  position : s.position = n % s.ringSize + 1
  ticks : s.ticks = n
  phase : s.phase = (List.range s.ringSize).map fun index => index % 3
  trace : ∀ p, 1 ≤ p →
    s.l1Trace[p - 1]? = (first.l1Trace[p - 1]?).map ((worn p)^[visits first.ringSize p n])

/-- A tick writes both arrays at the position before it and nowhere else. -/
structure OneCell (s s' : State) : Prop where
  core : ∀ p, 1 ≤ p → p ≠ s.position → s'.core[p - 1]? = s.core[p - 1]?
  l1Trace : ∀ p, 1 ≤ p → p ≠ s.position → s'.l1Trace[p - 1]? = s.l1Trace[p - 1]?

variable {index value : Nat} {values : List Nat} {s s' first : State}
  {maxUnits source sourceRef : Value}

theorem getElem?_of_item (read : item values index = .ok value) :
    values[index - 1]? = some value := by
  rw [item] at read
  split at read
  · next found => rw [found, Except.ok.inj read]
  · cases read

theorem mem_setItem {bound : Nat} (least : ∀ v ∈ values, v < bound) (new : value < bound) :
    ∀ v ∈ setItem values index value, v < bound := by
  intro v member
  rcases mem_or_eq_of_mem_set member with old | rfl
  · exact least v old
  · exact new

theorem setItem_other {p : Nat} (least : 1 ≤ p) (lower : 1 ≤ index) (other : p ≠ index) :
    (setItem values index value)[p - 1]? = values[p - 1]? := by
  rw [setItem, List.getElem?_set_ne]
  omega

theorem setItem_self {old : Nat} (read : values[index - 1]? = some old) :
    (setItem values index value)[index - 1]? = some value := by
  have inside := (List.getElem?_eq_some_iff.mp read).1
  rw [setItem, List.getElem?_set_self inside]

theorem position_next (n ring : Nat) : (n % ring + 1) % ring = (n + 1) % ring := by
  rw [add_mod, mod_mod, ← add_mod]

theorem tick_cells (ticked : tick s = .ok s') :
    ∃ phase core trace,
      s.phase[s.position - 1]? = some phase ∧ s.l1Trace[s.position - 1]? = some trace
      ∧ s'.carry = crazy s.carry core
      ∧ s'.core = setItem s.core s.position (crazy s'.carry trace)
      ∧ s'.l1Trace = setItem s.l1Trace s.position
          (crazy trace (crazy phase ((s.position - 1) % MOD)))
      ∧ s'.phase = s.phase ∧ s'.position = s.position % s.ringSize + 1 := by
  simp only [tick, bind_eq_ok, require_eq_ok, pure_eq_ok] at ticked
  obtain ⟨⟨⟩, -, ⟨⟩, -, phase, readPhase, core, -, trace, readTrace, rfl⟩ := ticked
  exact ⟨phase, _, trace, getElem?_of_item readPhase, getElem?_of_item readTrace, rfl, rfl, rfl,
    rfl, rfl⟩

theorem oneCell_of_tick (valid : Valid s) (ticked : tick s = .ok s') :
    OneCell s s' := by
  obtain ⟨phase, core, trace, -, -, -, cores, traces, -, -⟩ := tick_cells ticked
  constructor
  · intro p least other
    rw [cores, setItem_other least valid.position.1 other]
  · intro p least other
    rw [traces, setItem_other least valid.position.1 other]

theorem Turned.step {n : Nat} (turned : Turned first n s) (ticked : tick s = .ok s') :
    Turned first (n + 1) s' := by
  obtain ⟨valid', counted, -, active', ring'⟩ := tick_facts ticked
  obtain ⟨phase, core, trace, readPhase, readTrace, carry, cores, traces, phases, position⟩ :=
    tick_cells ticked
  obtain ⟨least, most⟩ := turned.valid.position
  have three : phase = (s.position - 1) % 3 := by
    rw [turned.phase, List.getElem?_map, List.getElem?_range (by omega)] at readPhase
    exact (Option.some.inj readPhase).symm
  refine ⟨valid', active', ⟨?_, ?_, ?_⟩, ring'.trans turned.ring, ?_, ?_, ?_, ?_⟩
  · rw [carry]
    exact crazy_lt _ _
  · rw [cores]
    exact mem_setItem turned.ranged.core (crazy_lt _ _)
  · rw [traces]
    exact mem_setItem turned.ranged.l1Trace (crazy_lt _ _)
  · rw [position, ring', turned.position, position_next]
  · rw [counted, turned.ticks]
  · rw [phases, ring', turned.phase]
  · intro p lower
    rw [visits, count_succ, ← turned.ring]
    by_cases here : p = s.position
    · -- the cell at the position is worn once more
      subst here
      have before := turned.trace _ lower
      rw [readTrace] at before
      obtain ⟨start, began, reached⟩ := Option.map_eq_some_iff.mp before.symm
      rw [if_pos turned.position.symm, traces, setItem_self readTrace, began, Option.map_some,
        Function.iterate_succ_apply']
      rw [visits, ← turned.ring] at reached
      rw [reached, worn, three]
    · have unseen : ¬ (n % s.ringSize + 1 = p) := fun same => here (same ▸ turned.position.symm)
      rw [if_neg unseen, traces, setItem_other lower least here, turned.trace p lower, visits,
        ← turned.ring, add_zero]

theorem sourceUnit_lt {v : Value} {unit : Nat} (read : sourceUnit v = .ok unit) : unit < MOD := by
  unfold sourceUnit at read
  split at read
  · next i =>
    have nonneg : 0 ≤ i % (MOD : Int) := Int.emod_nonneg i (by decide)
    have below : i % (MOD : Int) < MOD := Int.emod_lt_of_pos i (by decide)
    have := Except.ok.inj read
    omega
  · cases read

theorem initializeState_cells (made : initializeState source sourceRef maxUnits = .ok s) :
    ∃ units, source.ipairs = .ok units ∧ s.ringSize = units.length
      ∧ units.mapM sourceUnit = .ok s.core ∧ s.carry = s.core.headD 0 ∧ s.position = 1
      ∧ s.phase = (List.range units.length).map (fun index => index % 3)
      ∧ s.l1Trace = List.zipWith crazy s.core s.phase := by
  simp only [initializeState, bind_eq_ok] at made
  obtain ⟨⟨⟩, -, made⟩ := made
  cases sourceRef with
  | str ref =>
    simp only [bind_eq_ok, require_eq_ok, pure_eq_ok] at made
    obtain ⟨⟨⟩, -, most, -, units, walked, ⟨⟩, -, ⟨⟩, -, core, reduced, rfl⟩ := made
    exact ⟨units, walked, rfl, reduced, rfl, rfl, rfl, rfl⟩
  | _ => cases made

theorem turned_of_initialize (made : initializeState source sourceRef maxUnits = .ok s) :
    Turned s 0 s := by
  obtain ⟨units, -, ring, reduced, carry, position, phase, trace⟩ := initializeState_cells made
  obtain ⟨valid, active, ticks⟩ := initializeState_facts made
  have across := mapM_forall₂ reduced
  have residues : ∀ value ∈ s.core, value < MOD := by
    intro value member
    obtain ⟨i, inside, rfl⟩ := mem_iff_getElem.mp member
    exact sourceUnit_lt (across.get (across.length_eq ▸ inside) inside)
  refine ⟨valid, active, ⟨?_, residues, ?_⟩, rfl, ?_, ticks, ?_, ?_⟩
  · rw [carry]
    cases cells : s.core with
    | nil => decide
    | cons first rest => exact residues first (cells ▸ mem_cons_self)
  · intro value member
    rw [trace] at member
    obtain ⟨i, inside, rfl⟩ := mem_iff_getElem.mp member
    rw [getElem_zipWith]
    exact crazy_lt _ _
  · rw [position, zero_mod]
  · rw [ring, phase]
  · intro p _
    rw [visits, count_zero, Function.iterate_zero, Option.map_id]
    rfl

theorem turned_ticked (made : initializeState source sourceRef maxUnits = .ok first) : ∀ n,
    ∃ s, ticked n first = .ok s ∧ Turned first n s := by
  intro n
  induction n with
  | zero => exact ⟨first, rfl, turned_of_initialize made⟩
  | succ n ih =>
    obtain ⟨s, reached, turned⟩ := ih
    obtain ⟨s', next⟩ := tick_ok turned.valid turned.active
    refine ⟨s', ?_, turned.step next⟩
    rw [ticked, reached]
    exact next

/-! ## One cell and its source -/

def unitAt (source : Value) (p : Nat) : Option Value :=
  source.ipairs.toOption.bind fun units => units[p - 1]?

theorem getElem?_reduced {units : List Value} {core : List Nat}
    (across : List.Forall₂ (fun v unit => sourceUnit v = .ok unit) units core) : ∀ i : Nat,
    core[i]? = (units[i]?).bind fun v => (sourceUnit v).toOption := by
  induction across with
  | nil => intro i; rfl
  | cons read _ ih =>
    intro i
    cases i with
    | zero =>
      rw [List.getElem?_cons_zero, List.getElem?_cons_zero, Option.bind_some, read]
      rfl
    | succ i => exact ih i

theorem initial_trace (made : initializeState source sourceRef maxUnits = .ok s) (p : Nat) :
    s.l1Trace[p - 1]? =
      ((unitAt source p).bind fun v => (sourceUnit v).toOption).bind fun unit =>
        (((List.range s.ringSize).map fun index => index % 3)[p - 1]?).map (crazy unit) := by
  obtain ⟨units, walked, ring, reduced, -, -, phase, trace⟩ := initializeState_cells made
  have cells : unitAt source p = units[p - 1]? := by
    rw [unitAt, walked]
    rfl
  rw [trace, List.getElem?_zipWith, getElem?_reduced (mapM_forall₂ reduced), phase, ← ring, cells]
  cases units[p - 1]?.bind fun v => (sourceUnit v).toOption with
  | none => rfl
  | some unit =>
    cases ((List.range s.ringSize).map fun index => index % 3)[p - 1]? <;> rfl

theorem trace_independent {source' sourceRef' maxUnits' : Value} {first' : State} {n p : Nat}
    (made : initializeState source sourceRef maxUnits = .ok first)
    (made' : initializeState source' sourceRef' maxUnits' = .ok first')
    (sizes : first.ringSize = first'.ringSize) (turned : Turned first n s)
    (turned' : Turned first' n s') (least : 1 ≤ p) (agree : unitAt source p = unitAt source' p) :
    s.l1Trace[p - 1]? = s'.l1Trace[p - 1]? := by
  rw [turned.trace p least, turned'.trace p least, initial_trace made, initial_trace made', agree,
    sizes]

/-- Every run of the field after `l1.initialize`, and what its ticks leave alone. -/
theorem ring_dynamics {source sourceRef maxUnits : Value} {first : State}
    (made : initializeState source sourceRef maxUnits = .ok first) (n : Nat) :
    ∃ s, ticked n first = .ok s ∧ validateState s = .ok () ∧ Ranged s
      ∧ s.position = n % first.ringSize + 1 ∧ s.ticks = n
      ∧ (∃ s', tick s = .ok s' ∧ OneCell s s')
      ∧ (∀ p, 1 ≤ p → s.l1Trace[p - 1]? =
          (first.l1Trace[p - 1]?).map ((worn p)^[visits first.ringSize p n]))
      ∧ ∀ source' sourceRef' maxUnits' first' s',
          initializeState source' sourceRef' maxUnits' = .ok first' →
          ticked n first' = .ok s' → first.ringSize = first'.ringSize →
          ∀ p, 1 ≤ p → unitAt source p = unitAt source' p →
            s.l1Trace[p - 1]? = s'.l1Trace[p - 1]? := by
  obtain ⟨s, reached, turned⟩ := turned_ticked made n
  obtain ⟨next, stepped⟩ := tick_ok turned.valid turned.active
  refine ⟨s, reached, (validateState_ok s).mpr turned.valid, turned.ranged, ?_, turned.ticks,
    ⟨next, stepped, oneCell_of_tick turned.valid stepped⟩, turned.trace, ?_⟩
  · rw [turned.position, turned.ring]
  intro source' sourceRef' maxUnits' first' s' made' reached' sizes p least agree
  obtain ⟨other, reachedOther, turned'⟩ := turned_ticked made' n
  have same : other = s' := Except.ok.inj (reachedOther.symm.trans reached')
  exact trace_independent made made' sizes turned (same ▸ turned') least agree

def zeros (count : Nat) : Value := .array (List.replicate count (.nat 0))

def startOf (count : Nat) : Except Failure State :=
  initializeState (zeros count) (.text "zeros") .nil

theorem ring_dynamics_three : ∃ first s, startOf 3 = .ok first ∧ ticked 4 first = .ok s
    ∧ Ranged s ∧ s.position = 2 := by
  obtain ⟨s, reached, -, ranged, position, -⟩ :=
    @ring_dynamics (zeros 3) (.text "zeros") .nil _ rfl 4
  exact ⟨_, s, rfl, reached, ranged, position⟩

theorem sizes_differ : unitAt (zeros 3) 1 = unitAt (zeros 4) 1
    ∧ ∃ s s', (startOf 3 >>= ticked 4) = .ok s ∧ (startOf 4 >>= ticked 4) = .ok s'
      ∧ s.l1Trace[0]? ≠ s'.l1Trace[0]? :=
  ⟨rfl, _, _, rfl, rfl, by decide⟩

end Proc17.L1
