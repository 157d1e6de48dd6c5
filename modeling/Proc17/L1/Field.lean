import Proc17.Lua.Call
import Mathlib.Data.List.Forall2

/-!
# The L1 field

`l1/field.lua`: a ring of trits with a carry that one tick moves on by one place.  Values are
natural numbers below `MOD`: a source value is reduced before it is stored.
-/

namespace Proc17.L1

open Lua List

def MOD : Nat := 59049

def MAX_SOURCE_UNITS : Nat := 16384

def crazyTable : List (List Nat) := [[1, 0, 0], [1, 0, 2], [2, 2, 1]]

def crazyDigit (dx ax : Nat) : Nat := (crazyTable.getD dx []).getD ax 0

/-- The loop of `crazy`, with the rounds that are left. -/
def crazyLoop : Nat → Nat → Nat → Nat → Nat → Nat
  | 0, _, _, _, result => result
  | rounds + 1, aa, dd, power, result =>
    crazyLoop rounds (aa / 3) (dd / 3) (power * 3)
      (result + crazyDigit (dd % 3) (aa % 3) * power)

def crazy (a d : Nat) : Nat := crazyLoop 10 a d 1 0 % MOD

/-- `l1.field.v0`; the fields that are the same in every state are left out. -/
structure State where
  ringSize : Nat
  core : List Nat
  l1Trace : List Nat
  phase : List Nat
  carry : Nat
  position : Nat
  ticks : Nat
  frozen : Bool
  sourceRef : Bytes
  sourceCount : Nat

/-- `validate_state`, as far as a state can fail it. -/
def validateState (s : State) : Except Failure Unit := do
  require (3 ≤ s.ringSize ∧ s.ringSize ≤ MAX_SOURCE_UNITS) (refuse "invalid L1 ring size")
  require (s.core.length = s.ringSize ∧ s.l1Trace.length = s.ringSize
    ∧ s.phase.length = s.ringSize) (refuse "invalid L1 field arrays")
  require (1 ≤ s.position ∧ s.position ≤ s.ringSize) (refuse "invalid L1 scalar state")
  require (s.sourceRef ≠ [] ∧ s.sourceCount = s.ringSize) (refuse "invalid L1 state provenance")

/-- `values[index]` in an operand: nil there is an error. -/
def item (values : List Nat) (index : Nat) : Except Failure Nat :=
  match values[index - 1]? with
  | some value => .ok value
  | none => .error (.fault "arithmetic on a nil value")

/-- `values[index] = value` for an index of the array. -/
def setItem (values : List Nat) (index value : Nat) : List Nat := values.set (index - 1) value

def distinctCount (values : List Nat) : Nat :=
  (values.foldl (fun (seen, count) value =>
    if value ∈ seen then (seen, count) else (value :: seen, count + 1)) ([], 0)).2

def traceDensity (values : List Nat) : Nat :=
  values.foldl (fun active value => if value ≠ 0 then active + 1 else active) 0

def fingerprint (s : State) : Except Failure Nat := do
  let core ← item s.core s.position
  let trace ← item s.l1Trace s.position
  pure (crazy (crazy (crazy (s.carry % MOD) core) trace) (s.position - 1))

/-- `max_source_units`, an integer from 3 to 16384. -/
def maxSourceUnits (value : Value) : Except Failure Nat :=
  match value.orElse (.nat MAX_SOURCE_UNITS) with
  | .num (.int i) => do
      require (3 ≤ i ∧ i ≤ MAX_SOURCE_UNITS)
        (refuse "L1 max_source_units must be an integer from 3 to 16384")
      pure i.toNat
  | _ => .error (refuse "L1 max_source_units must be an integer from 3 to 16384")

/-- `source[index] % MOD`, of an integer. -/
def sourceUnit : Value → Except Failure Nat
  | .num (.int i) => .ok (i % MOD).toNat
  | _ => .error (refuse "L1 source values must be Lua 5.4 integers")

/-- `l1.initialize` with `variant = "C"`. -/
def initializeState (source sourceRef maxUnits : Value) : Except Failure State := do
  require (source.isTable = true) (refuse "L1 source must be an array")
  match sourceRef with
  | .str ref => do
      require (ref ≠ []) (refuse "L1 source_ref must be a non-empty string")
      let maxUnits ← maxSourceUnits maxUnits
      let units ← source.ipairs
      require (3 ≤ units.length) (refuse "L1 source must contain at least 3 integers")
      require (units.length ≤ maxUnits) (refuse "L1 source exceeds max_source_units")
      let core ← units.mapM sourceUnit
      let phase := (List.range units.length).map fun index => index % 3
      pure
        { ringSize := units.length
          core := core
          l1Trace := List.zipWith crazy core phase
          phase := phase
          carry := core.headD 0
          position := 1
          ticks := 0
          frozen := false
          sourceRef := ref
          sourceCount := units.length }
  | _ => .error (refuse "L1 source_ref must be a non-empty string")

def tick (s : State) : Except Failure State := do
  validateState s
  require (s.frozen = false) (refuse "L1 state is frozen")
  let p := s.position
  let phase ← item s.phase p
  let core ← item s.core p
  let trace ← item s.l1Trace p
  let bias := crazy phase ((p - 1) % MOD)
  let operand := crazy (crazy core trace) bias
  let result := crazy s.carry operand
  pure { s with
    carry := result
    core := setItem s.core p (crazy result trace)
    l1Trace := setItem s.l1Trace p (crazy trace bias)
    position := p % s.ringSize + 1
    ticks := s.ticks + 1 }

/-- `l1.snapshot.v0` -/
structure Snapshot where
  tick : Nat
  position : Nat
  carry : Nat
  fingerprint : Nat
  traceDensity : Nat
  distinctCore : Nat
  distinctL1Trace : Nat
  ringSize : Nat
  sourceRef : Bytes

def snapshot (s : State) : Except Failure Snapshot := do
  validateState s
  let fingerprint ← fingerprint s
  pure
    { tick := s.ticks
      position := s.position
      carry := s.carry
      fingerprint := fingerprint
      traceDensity := traceDensity s.l1Trace
      distinctCore := distinctCount s.core
      distinctL1Trace := distinctCount s.l1Trace
      ringSize := s.ringSize
      sourceRef := s.sourceRef }

def freeze (s : State) : Except Failure State := do
  validateState s
  pure { s with frozen := true }

/-! ## States of the field -/

/-- What `validate_state` asks for. -/
structure Valid (s : State) : Prop where
  ring : 3 ≤ s.ringSize ∧ s.ringSize ≤ MAX_SOURCE_UNITS
  arrays : s.core.length = s.ringSize ∧ s.l1Trace.length = s.ringSize
    ∧ s.phase.length = s.ringSize
  position : 1 ≤ s.position ∧ s.position ≤ s.ringSize
  source : s.sourceRef ≠ [] ∧ s.sourceCount = s.ringSize

theorem validateState_ok (s : State) : validateState s = .ok () ↔ Valid s := by
  simp only [validateState, bind_eq_ok, require_eq_ok]
  constructor
  · rintro ⟨⟨⟩, ring, ⟨⟩, arrays, ⟨⟩, position, source⟩
    exact ⟨ring, arrays, position, source⟩
  · rintro ⟨ring, arrays, position, source⟩
    exact ⟨⟨⟩, ring, ⟨⟩, arrays, ⟨⟩, position, source⟩

theorem item_ok (values : List Nat) {index : Nat} (least : 1 ≤ index)
    (most : index ≤ values.length) : ∃ value, item values index = .ok value := by
  have inside : index - 1 < values.length := by omega
  refine ⟨values[index - 1], ?_⟩
  rw [item, List.getElem?_eq_getElem inside]

theorem mapM_forall₂ {α β : Type} {f : α → Except Failure β} : ∀ {items : List α} {out : List β},
    items.mapM f = .ok out → List.Forall₂ (fun a b => f a = .ok b) items out := by
  intro items
  induction items with
  | nil =>
    intro out made
    cases made
    exact .nil
  | cons first rest ih =>
    intro out made
    simp only [mapM_cons, bind_eq_ok, pure_eq_ok] at made
    obtain ⟨b, read, bs, later, rfl⟩ := made
    exact .cons read (ih later)

theorem initializeState_facts {source sourceRef maxUnits : Value} {s : State}
    (made : initializeState source sourceRef maxUnits = .ok s) :
    Valid s ∧ s.frozen = false ∧ s.ticks = 0 := by
  simp only [initializeState, bind_eq_ok] at made
  obtain ⟨⟨⟩, -, made⟩ := made
  cases sourceRef with
  | str ref =>
    simp only [bind_eq_ok, require_eq_ok, pure_eq_ok] at made
    obtain ⟨⟨⟩, named, most, bound, units, walked, ⟨⟩, least, ⟨⟩, within, core, reduced, rfl⟩ := made
    have sizes := (mapM_forall₂ reduced).length_eq.symm
    have cap : most ≤ MAX_SOURCE_UNITS := by
      simp only [maxSourceUnits] at bound
      split at bound
      · simp only [bind_eq_ok, require_eq_ok, pure_eq_ok] at bound
        obtain ⟨⟨⟩, ⟨-, top⟩, rfl⟩ := bound
        omega
      · cases bound
    refine ⟨⟨⟨least, Nat.le_trans within cap⟩, ⟨sizes, ?_, ?_⟩, ⟨Nat.le_refl 1, ?_⟩, named, rfl⟩,
      rfl, rfl⟩
    · show (List.zipWith crazy core _).length = units.length
      rw [length_zipWith, length_map, length_range, sizes, Nat.min_self]
    · show ((List.range units.length).map _).length = units.length
      rw [length_map, length_range]
    · show 1 ≤ units.length
      omega
  | _ => cases made

theorem tick_facts {s s' : State} (ticked : tick s = .ok s') :
    Valid s' ∧ s'.ticks = s.ticks + 1 ∧ s.frozen = false ∧ s'.frozen = false
      ∧ s'.ringSize = s.ringSize := by
  simp only [tick, bind_eq_ok, require_eq_ok, pure_eq_ok] at ticked
  obtain ⟨⟨⟩, checked, ⟨⟩, active, phase, -, core, -, trace, -, rfl⟩ := ticked
  have valid := (validateState_ok s).mp checked
  refine ⟨⟨valid.ring, ⟨?_, ?_, valid.arrays.2.2⟩, ⟨?_, ?_⟩, valid.source⟩, rfl, active, active, rfl⟩
  · show (setItem _ _ _).length = s.ringSize
    rw [setItem, length_set, valid.arrays.1]
  · show (setItem _ _ _).length = s.ringSize
    rw [setItem, length_set, valid.arrays.2.1]
  · exact Nat.succ_le_succ (Nat.zero_le _)
  · show s.position % s.ringSize + 1 ≤ s.ringSize
    have least := valid.ring.1
    exact Nat.mod_lt _ (by omega)

theorem tick_ok {s : State} (valid : Valid s) (active : s.frozen = false) :
    ∃ s', tick s = .ok s' := by
  obtain ⟨sizeCore, sizeTrace, sizePhase⟩ := valid.arrays
  obtain ⟨least, most⟩ := valid.position
  obtain ⟨phase, readPhase⟩ := item_ok s.phase least (by omega)
  obtain ⟨core, readCore⟩ := item_ok s.core least (by omega)
  obtain ⟨trace, readTrace⟩ := item_ok s.l1Trace least (by omega)
  simp only [tick, bind_eq_ok, require_eq_ok, pure_eq_ok]
  exact ⟨_, ⟨⟩, (validateState_ok s).mpr valid, ⟨⟩, active, phase, readPhase, core, readCore, trace, readTrace, rfl⟩

def ticked : Nat → State → Except Failure State
  | 0, s => .ok s
  | n + 1, s => ticked n s >>= tick

end Proc17.L1
