import Mathlib.Algebra.BigOperators.Group.List.Basic
import Mathlib.Tactic.Linarith
import Proc17.Core.Json
import Proc17.Lua.Dictionary
import Proc17.Lua.Exact

/-!
# The lineage budget

`runtime/lineage_budget.lua`: limits, allocation and charging over the axes of a lineage.  A
table of limits or amounts is normalised to its non-zero axes; what remains of an axis without a
stored limit is `"unlimited"`.
-/

namespace Proc17.Runtime.LineageBudget

open Lua Core List Number

def axes : List String :=
  ["steps", "substrate_calls", "prompt_tokens", "completion_tokens", "total_tokens",
    "estimated_tokens", "tool_calls", "file_writes", "test_runs", "time_ms", "money_units",
    "generations", "carrier_bytes"]

def discrete (axis : String) : Bool := axis ≠ "time_ms" && axis ≠ "money_units"

def axisOf (key : Value) : Option String := axes.find? fun axis => key = .text axis

inductive Limit where
  | unlimited
  | finite (n : Number)

def Limit.value : Limit → Value
  | .unlimited => .text "unlimited"
  | .finite n => .num n

abbrev Amounts := Dictionary String Number

abbrev Limits := Dictionary String Limit

/-- `validate_axis_value` without `allow_unlimited`. -/
def validateAmount (axis : String) (value : Value) : Except Failure Number :=
  match value with
  | .num n =>
    if n.isFinite = false ∨ Number.lt n (.int 0) = true then
      .error (refuse (axis ++ " must be finite number >= 0"))
    else if discrete axis && !Number.isIntegral n then
      .error (refuse (axis ++ " must be integer"))
    else .ok n
  | _ => .error (refuse (axis ++ " must be finite number >= 0"))

/-- `validate_axis_value` with `allow_unlimited`. -/
def validateLimit (axis : String) (value : Value) : Except Failure Limit :=
  if value = .text "unlimited" then .ok .unlimited
  else (validateAmount axis value).map .finite

def amountKept (n : Number) : Bool := !Number.eq n (.int 0)

def limitKept : Limit → Bool
  | .unlimited => true
  | .finite n => amountKept n

section
variable {β : Type} (validate : String → Value → Except Failure β) (kept : β → Bool)

/-- The loop of `normalize`. -/
def normalizeEntries : List (Value × Value) → Except Failure (Dictionary String β)
  | [] => .ok ∅
  | (key, value) :: rest =>
    match axisOf key with
    | none => .error (.refused (.str (utf8 "unknown lineage budget axis: " ++ key.tostring)))
    | some axis => do
        let valid ← validate axis value
        let result ← normalizeEntries rest
        pure (if kept valid then result.insert axis valid else result)

def normalize : Value → Except Failure (Dictionary String β)
  | .table _ entries => normalizeEntries validate kept entries
  | _ => .error (refuse "lineage budget values must be table")

end

def normalizeAmounts (input : Value) : Except Failure Amounts :=
  normalize validateAmount amountKept input

def normalizeLimits (input : Value) : Except Failure Limits :=
  normalize validateLimit limitKept input

def amountTable (amounts : Amounts) : Value :=
  .record (amounts.entries.map fun entry => (entry.1, .num entry.2))

structure Event where
  key : Bytes
  cost : Amounts
  sourceRefs : Value
  spentAfter : Amounts
  remainingAfter : List (String × Limit)
  exhausted : Bool
  exhaustedKeys : List String

structure State where
  limits : Limits
  spent : Amounts
  remaining : List (String × Limit)
  events : List Event
  /-- An index of `events`, from 1 on. -/
  chargedKeys : Dictionary Bytes Nat
  exhausted : Bool
  exhaustedKeys : List String

def spentOn (spent : Amounts) (axis : String) : Number := (spent.lookup axis).getD (.int 0)

/-- What `refresh` computes for one axis. -/
def remainingOn (limits : Limits) (spent : Amounts) (axis : String) : Limit :=
  match limits.lookup axis with
  | some (.finite limit) => .finite (Number.sub limit (spentOn spent axis))
  | _ => .unlimited

def Limit.isExhausted : Limit → Bool
  | .unlimited => false
  | .finite n => Number.le n (.int 0)

def refresh (s : State) : State :=
  let exhaustedKeys := axes.filter fun axis => (remainingOn s.limits s.spent axis).isExhausted
  { s with
    remaining := axes.map fun axis => (axis, remainingOn s.limits s.spent axis)
    exhaustedKeys := exhaustedKeys
    exhausted := !exhaustedKeys.isEmpty }

def new (limits : Value) : Except Failure State := do
  let normalized ← normalizeLimits (limits.orElse .emptyTable)
  pure (refresh
    { limits := normalized
      spent := ∅
      remaining := []
      events := []
      chargedKeys := ∅
      exhausted := false
      exhaustedKeys := [] })

/-- One axis of `can_allocate`. -/
def allocatable (s : State) (axis : String) (amount : Number) : Except Failure Unit :=
  match s.remaining.lookup axis with
  | some (.finite remaining) =>
    require (Number.lt remaining amount = false)
      (refuse ("lineage budget cannot allocate " ++ axis))
  | _ => .ok ()

def canAllocate (s : State) (allocation : Value) : Except Failure Unit := do
  let normalized ← normalizeAmounts (allocation.orElse .emptyTable)
  normalized.entries.forM fun entry => allocatable s entry.1 entry.2

inductive Plan where
  | again (existing : Event)
  | fresh (key : Bytes) (cost : Amounts) (sourceRefs : Value)

def againPlan (existing : Event) (cost sourceRefs : Value) : Except Failure Plan := do
  let normalized ← normalizeAmounts (cost.orElse .emptyTable)
  let sameCost ← Json.same (amountTable existing.cost) (amountTable normalized)
  require (sameCost = true) (refuse "lineage budget charge key reused with different cost")
  let sameSource ← Json.same (existing.sourceRefs.orElse .emptyTable)
    (sourceRefs.orElse .emptyTable)
  require (sameSource = true) (refuse "lineage budget charge key reused with different source")
  pure (.again existing)

def freshPlan (s : State) (key : Bytes) (cost sourceRefs options : Value) :
    Except Failure Plan := do
  let normalized ← normalizeAmounts (cost.orElse .emptyTable)
  let overdraw ← options.index "allow_overdraw"
  if overdraw ≠ .bool true then canAllocate s (amountTable normalized)
  pure (.fresh key normalized (sourceRefs.orElse .emptyTable).deepCopy)

def chargePlan (s : State) (key cost sourceRefs options : Value) : Except Failure Plan := do
  let options := options.orElse .emptyTable
  match key with
  | .str name => do
      require (name ≠ []) (refuse "lineage budget charge key is required")
      match s.chargedKeys.lookup name with
      | some index =>
        match s.events[index - 1]? with
        | some existing => againPlan existing cost sourceRefs
        | none => .error (.fault "index")
      | none => freshPlan s name cost sourceRefs options
  | _ => .error (refuse "lineage budget charge key is required")

/-- `state.spent[axis] = (state.spent[axis] or 0) + amount`, for each amount. -/
def spend (spent : Amounts) (cost : List (Sigma fun _ : String => Number)) : Amounts :=
  cost.foldl (fun spent entry => spent.insert entry.1 (Number.add (spentOn spent entry.1) entry.2))
    spent

def withCharge (s : State) (key : Bytes) (cost : Amounts) (sourceRefs : Value) : Event × State :=
  let spent := spend s.spent cost.entries
  let refreshed := refresh { s with
    spent := spent
    chargedKeys := s.chargedKeys.insert key (s.events.length + 1) }
  let event :=
    { key := key
      cost := cost
      sourceRefs := sourceRefs
      spentAfter := spent
      remainingAfter := refreshed.remaining
      exhausted := refreshed.exhausted
      exhaustedKeys := refreshed.exhaustedKeys }
  (event, { refreshed with events := s.events ++ [event] })

def charge (s : State) (key cost sourceRefs options : Value) : Reply State Event :=
  transact (chargePlan s key cost sourceRefs options)
    (fun plan =>
      match plan with
      | .again existing => (.ok existing, s)
      | .fresh name cost sourceRefs =>
        let charged := withCharge s name cost sourceRefs
        (.ok charged.1, charged.2)) s

/-! ## Normalised tables -/

variable {axis : String} {n limit : Number} {amounts : Amounts} {input limits : Value} {s : State}

theorem eq_text_of_axisOf {key : Value} (found : axisOf key = some axis) :
    key = .text axis ∧ axis ∈ axes := by
  have named := List.find?_some found
  exact ⟨of_decide_eq_true named, mem_of_find?_eq_some found⟩

section
variable {β : Type} {validate : String → Value → Except Failure β} {kept : β → Bool}

theorem normalizeEntries_lookup {v : β} : ∀ {entries : List (Value × Value)}
    {result : Dictionary String β}, normalizeEntries validate kept entries = .ok result →
    result.lookup axis = some v → kept v = true ∧ axis ∈ axes ∧ ∃ x, validate axis x = .ok v := by
  intro entries
  induction entries with
  | nil =>
    intro result made found
    cases made
    cases found
  | cons entry rest ih =>
    obtain ⟨key, value⟩ := entry
    intro result made found
    rw [normalizeEntries] at made
    cases named : axisOf key with
    | none =>
      rw [named] at made
      cases made
    | some axis' =>
      rw [named] at made
      simp only [bind_eq_ok, pure_eq_ok] at made
      obtain ⟨valid, checked, inner, walked, rfl⟩ := made
      by_cases keeps : kept valid = true
      · rw [if_pos keeps] at found
        by_cases same : axis = axis'
        · subst same
          rw [AList.lookup_insert] at found
          cases found
          exact ⟨keeps, (eq_text_of_axisOf named).2, value, checked⟩
        · rw [AList.lookup_insert_ne same] at found
          exact ih walked found
      · rw [if_neg keeps] at found
        exact ih walked found

theorem lookup_of_normalizeEntries {x : Value} (present : x ≠ .nil) :
    ∀ {entries : List (Value × Value)} {result : Dictionary String β},
    normalizeEntries validate kept entries = .ok result →
    Value.lookup entries (.text axis) = x →
    ∃ v, validate axis x = .ok v ∧ (kept v = true → result.lookup axis = some v) := by
  intro entries
  induction entries with
  | nil => intro result _ found; exact absurd found.symm present
  | cons entry rest ih =>
    obtain ⟨key, value⟩ := entry
    intro result made found
    rw [normalizeEntries] at made
    cases named : axisOf key with
    | none =>
      rw [named] at made
      cases made
    | some axis' =>
      rw [named] at made
      simp only [bind_eq_ok, pure_eq_ok] at made
      obtain ⟨valid, checked, inner, walked, rfl⟩ := made
      rw [(eq_text_of_axisOf named).1, Value.lookup_text_cons] at found
      by_cases same : axis' = axis
      · subst same
        rw [if_pos rfl] at found
        subst found
        refine ⟨valid, checked, fun keeps => ?_⟩
        rw [if_pos keeps, AList.lookup_insert]
      · rw [if_neg same] at found
        obtain ⟨v, accepted, stored⟩ := ih walked found
        refine ⟨v, accepted, fun keeps => ?_⟩
        have other : axis ≠ axis' := fun back => same back.symm
        split
        · rw [AList.lookup_insert_ne other, stored keeps]
        · exact stored keeps

end

theorem validateAmount_ok {x : Value} (accepted : validateAmount axis x = .ok n) :
    x = .num n ∧ n.isFinite = true ∧ Number.lt n (.int 0) = false := by
  cases x with
  | num m =>
    simp only [validateAmount] at accepted
    split at accepted
    · cases accepted
    · rename_i ranged
      split at accepted
      · cases accepted
      · cases accepted
        exact ⟨rfl, Bool.eq_true_of_not_eq_false fun infinite => ranged (Or.inl infinite),
          Bool.eq_false_of_not_eq_true fun negative => ranged (Or.inr negative)⟩
  | _ => cases accepted

theorem amounts_facts (made : normalizeAmounts input = .ok amounts)
    (found : amounts.lookup axis = some n) :
    axis ∈ axes ∧ n.isFinite = true ∧ 0 ≤ n.value ∧ validateAmount axis (.num n) = .ok n := by
  cases input with
  | table tag entries =>
    obtain ⟨-, listed, x, accepted⟩ := normalizeEntries_lookup made found
    obtain ⟨rfl, finite, positive⟩ := validateAmount_ok accepted
    refine ⟨listed, finite, ?_, accepted⟩
    have least := value_le_of_lt_eq_false finite rfl positive
    rwa [value_int] at least
  | _ => cases made

theorem limits_facts {limits : Limits}
    (made : normalizeLimits (input.orElse .emptyTable) = .ok limits)
    (given : input.get axis = .num limit) :
    limit.isFinite = true ∧ 0 ≤ limit.value
      ∧ (Number.eq limit (.int 0) = false → limits.lookup axis = some (.finite limit)) := by
  cases input with
  | table tag entries =>
    have present : Value.num limit ≠ .nil := fun same => nomatch same
    obtain ⟨v, accepted, stored⟩ := lookup_of_normalizeEntries present made given
    have number : ¬ (Value.num limit = .text "unlimited") := fun same => nomatch same
    rw [validateLimit, if_neg number] at accepted
    cases checked : validateAmount axis (.num limit) with
    | error failure =>
      rw [checked] at accepted
      cases accepted
    | ok n =>
      rw [checked] at accepted
      obtain ⟨same, finite, positive⟩ := validateAmount_ok checked
      cases same
      cases accepted
      refine ⟨finite, ?_, fun nonzero => stored ?_⟩
      · have least := value_le_of_lt_eq_false finite rfl positive
        rwa [value_int] at least
      · show (!Number.eq limit (.int 0)) = true
        rw [nonzero]
        rfl
  | _ => cases given

theorem get_amountTable (found : amounts.lookup axis = some n) :
    (amountTable amounts).get axis = .num n := by
  apply Value.get_record
  · rw [map_map]
    exact nodupKeys_iff_pairwise.mp amounts.nodupKeys |> pairwise_map.mpr
  · exact mem_map.mpr ⟨⟨axis, n⟩, (Dictionary.mem_entries_iff amounts axis n).mpr found, rfl⟩

/-! ## Allocation -/

theorem lookup_map_self {β : Type} (f : String → β) : ∀ {keys : List String},
    axis ∈ keys → (keys.map fun axis => (axis, f axis)).lookup axis = some (f axis) := by
  intro keys
  induction keys with
  | nil => intro listed; cases listed
  | cons first rest ih =>
    intro listed
    rw [map_cons, lookup_cons]
    by_cases same : axis = first
    · rw [same, beq_self_eq_true]
    · rw [beq_eq_false_iff_ne.mpr same]
      exact ih ((mem_cons.mp listed).resolve_left same)

theorem canAllocate_ok {allocation : Value} (allowed : canAllocate s allocation = .ok ())
    (made : normalizeAmounts (allocation.orElse .emptyTable) = .ok amounts)
    (found : amounts.lookup axis = some n)
    (remains : s.remaining.lookup axis = some (.finite limit)) :
    Number.lt limit n = false := by
  simp only [canAllocate, bind_eq_ok] at allowed
  obtain ⟨again, made', walked⟩ := allowed
  rw [made] at made'
  cases made'
  have each := mem_of_forM_ok walked ⟨axis, n⟩
    ((Dictionary.mem_entries_iff amounts axis n).mpr found)
  rw [allocatable, remains] at each
  exact (require_eq_ok _ _ _).mp each

theorem canAllocate_amountTable (allowed : canAllocate s (amountTable amounts) = .ok ())
    (made : normalizeAmounts input = .ok amounts) (found : amounts.lookup axis = some n)
    (remains : s.remaining.lookup axis = some (.finite limit)) :
    Number.lt limit n = false := by
  obtain ⟨-, -, -, accepted⟩ := amounts_facts made found
  have walked := allowed
  simp only [canAllocate, bind_eq_ok] at walked
  obtain ⟨again, renormal, -⟩ := walked
  have present : Value.num n ≠ .nil := fun same => (by cases same)
  obtain ⟨v, accepted', stored⟩ := lookup_of_normalizeEntries present
    (show normalizeEntries validateAmount amountKept _ = .ok again from renormal)
    (get_amountTable found)
  rw [accepted] at accepted'
  cases accepted'
  obtain ⟨keeps, -⟩ : amountKept n = true ∧ True := by
    cases input with
    | table tag entries => exact ⟨(normalizeEntries_lookup made found).1, trivial⟩
    | _ => cases made
  exact canAllocate_ok allowed renormal (stored keeps) remains

/-! ## Charging -/

theorem spentOn_spend (axis : String) : ∀ (cost : List (Sigma fun _ : String => Number))
    (spent : Amounts), cost.NodupKeys →
    spentOn (spend spent cost) axis
      = match cost.dlookup axis with
        | some n => Number.add (spentOn spent axis) n
        | none => spentOn spent axis := by
  intro cost
  induction cost with
  | nil => intro spent _; rfl
  | cons entry rest ih =>
    obtain ⟨first, n⟩ := entry
    intro spent distinct
    obtain ⟨fresh, distinct'⟩ := nodupKeys_cons.mp distinct
    have step : spend spent (⟨first, n⟩ :: rest)
        = spend (spent.insert first (Number.add (spentOn spent first) n)) rest := rfl
    rw [step, ih _ distinct']
    by_cases same : axis = first
    · subst same
      have absent : rest.dlookup axis = none := dlookup_eq_none.mpr fresh
      rw [absent, dlookup_cons_eq]
      simp only [spentOn, AList.lookup_insert, Option.getD_some]
    · rw [dlookup_cons_ne _ _ same]
      simp only [spentOn, AList.lookup_insert_ne same]

def total (events : List Event) (axis : String) : ℚ :=
  (events.map fun event => (event.cost.lookup axis).elim 0 Number.value).sum

theorem total_append (events : List Event) (event : Event) (axis : String) :
    total (events ++ [event]) axis
      = total events axis + (event.cost.lookup axis).elim 0 Number.value := by
  simp [total]

structure Call where
  key : Value
  cost : Value
  sourceRefs : Value
  options : Value
  /-- The call is made without `allow_overdraw`. -/
  plain : (options.orElse .emptyTable).get "allow_overdraw" ≠ .bool true

/-- The budget with `charge` as its calls. -/
def machine : Machine State Call Event where
  step s c := charge s c.key c.cost c.sourceRefs c.options

theorem charge_cases (s : State) (c : Call) : machine.after s c = s
    ∨ ∃ key amounts sourceRefs,
      normalizeAmounts (c.cost.orElse .emptyTable) = .ok amounts
      ∧ canAllocate s (amountTable amounts) = .ok ()
      ∧ machine.after s c = (withCharge s key amounts sourceRefs).2 := by
  show (charge s c.key c.cost c.sourceRefs c.options).2 = s ∨ _
  rcases planned : chargePlan s c.key c.cost c.sourceRefs c.options with failure | plan
  · left
    rw [charge, planned]
    rfl
  have shaped : machine.after s c = (charge s c.key c.cost c.sourceRefs c.options).2 := rfl
  rw [charge, planned, transact_ok] at shaped ⊢
  cases plan with
  | again existing => exact Or.inl rfl
  | fresh name cost sourceRefs =>
    refine Or.inr ⟨name, cost, sourceRefs, ?_⟩
    simp only [chargePlan] at planned
    cases keyed : c.key with
    | str named =>
      rw [keyed] at planned
      simp only [bind_eq_ok] at planned
      obtain ⟨-, -, planned⟩ := planned
      cases seen : s.chargedKeys.lookup named with
      | some index =>
        rw [seen] at planned
        cases recorded : s.events[index - 1]? with
        | none =>
          simp only [recorded] at planned
          cases planned
        | some existing =>
          simp only [recorded, againPlan, bind_eq_ok, pure_eq_ok] at planned
          obtain ⟨-, -, -, -, -, -, -, -, -, -, other⟩ := planned
          cases other
      | none =>
        rw [seen] at planned
        simp only [freshPlan, bind_eq_ok] at planned
        obtain ⟨amounts, made, overdraw, read, planned⟩ := planned
        have plain : overdraw ≠ .bool true := by
          intro asked
          apply c.plain
          generalize c.options.orElse .emptyTable = options at read ⊢
          cases options with
          | table tag entries =>
            rw [← asked]
            exact Except.ok.inj read
          | str text => cases read.trans (congrArg Except.ok asked)
          | _ => cases read
        rw [if_pos plain] at planned
        simp only [bind_eq_ok, pure_eq_ok] at planned
        obtain ⟨⟨⟩, allowed, same⟩ := planned
        cases same
        exact ⟨made, allowed, shaped⟩
    | _ =>
      rw [keyed] at planned
      cases planned

/-! ## Where the limits bind -/

/-- What is within the limit adds up, and leaves a remainder, without wrapping or rounding. -/
def AddsUp (limit spent n : Number) : Prop :=
  n.value ≤ limit.value - spent.value →
    (Number.add spent n).Exactly (spent.value + n.value)
      ∧ (Number.sub limit (Number.add spent n)).Exactly (limit.value - (spent.value + n.value))

theorem addsUp_int {limit spent n : Int} (most : limit < 2 ^ 63) (spent_nonneg : 0 ≤ spent)
    (nonneg : 0 ≤ n) : AddsUp (.int limit) (.int spent) (.int n) := by
  intro within
  rw [value_int, value_int, value_int] at within ⊢
  have fits : n ≤ limit - spent := by exact_mod_cast within
  have sum : Number.add (.int spent) (.int n) = .int (spent + n) := by
    show Number.int (Number.wrap (spent + n)) = _
    rw [wrap_eq (by omega) (by omega)]
  have left := sub_int_exactly (a := limit) (b := spent + n) (by omega) (by omega)
  rw [sum]
  refine ⟨⟨rfl, ?_⟩, ?_⟩
  · rw [value_int, Int.cast_add]
  · rwa [Int.cast_add] at left

/-- No axis limited to 0 is charged, and what is charged on a limited axis adds up. -/
def Meets (limits : Value) (s : State) (c : Call) : Prop :=
  ∀ amounts, normalizeAmounts (c.cost.orElse .emptyTable) = .ok amounts →
    ∀ axis limit n, limits.get axis = .num limit → amounts.lookup axis = some n →
      Number.eq limit (.int 0) = false ∧ AddsUp limit (spentOn s.spent axis) n

/-- On an axis limited by a non-zero number the state counts exactly, within the limit. -/
structure Counted (s : State) (axis : String) (limit : Number) : Prop where
  spent : (spentOn s.spent axis).Exactly (total s.events axis)
  remains : s.remaining.lookup axis = some (.finite (Number.sub limit (spentOn s.spent axis)))
  left : (Number.sub limit (spentOn s.spent axis)).Exactly (limit.value - total s.events axis)
  within : total s.events axis ≤ limit.value

structure Sound (limits : Value) (s : State) : Prop where
  stored : normalizeLimits (limits.orElse .emptyTable) = .ok s.limits
  counted : ∀ axis limit, limits.get axis = .num limit → Number.eq limit (.int 0) = false →
    Counted s axis limit
  untouched : ∀ axis limit, limits.get axis = .num limit → Number.eq limit (.int 0) = true →
    total s.events axis = 0

theorem lookup_remaining (stored : normalizeLimits (limits.orElse .emptyTable) = .ok s.limits)
    (given : limits.get axis = .num limit) (nonzero : Number.eq limit (.int 0) = false) :
    (refresh s).remaining.lookup axis
      = some (.finite (Number.sub limit (spentOn s.spent axis))) := by
  obtain ⟨-, -, kept⟩ := limits_facts stored given
  have found := kept nonzero
  have listed : axis ∈ axes := by
    cases limits with
    | table tag entries => exact (normalizeEntries_lookup stored found).2.1
    | _ => cases given
  show (axes.map fun axis => (axis, remainingOn s.limits s.spent axis)).lookup axis = _
  rw [lookup_map_self _ listed, remainingOn, found]

theorem sound_new (made : new limits = .ok s)
    (actual : ∀ axis limit, limits.get axis = .num limit → limit.Actual) : Sound limits s := by
  simp only [new, bind_eq_ok, pure_eq_ok] at made
  obtain ⟨normalized, stored, rfl⟩ := made
  refine ⟨stored, ?_, fun _ _ _ _ => rfl⟩
  intro axis limit given nonzero
  obtain ⟨finite, positive, -⟩ := limits_facts stored given
  refine ⟨⟨rfl, value_int 0⟩, lookup_remaining stored given nonzero, ?_, positive⟩
  show (Number.sub limit (.int 0)).Exactly (limit.value - 0)
  rw [sub_zero]
  exact sub_zero_exactly finite (actual axis limit given)

theorem sound_step (s : State) (c : Call) (meets : Meets limits s c) (sound : Sound limits s) :
    Sound limits (machine.after s c) := by
  rcases charge_cases s c with same | ⟨key, amounts, sourceRefs, made, allowed, reached⟩
  · rw [same]
    exact sound
  rw [reached]
  have totals : ∀ axis, total (withCharge s key amounts sourceRefs).2.events axis
      = total s.events axis + (amounts.lookup axis).elim 0 Number.value :=
    fun axis => total_append s.events _ axis
  have spent : ∀ axis, spentOn (withCharge s key amounts sourceRefs).2.spent axis
      = match amounts.lookup axis with
        | some n => Number.add (spentOn s.spent axis) n
        | none => spentOn s.spent axis :=
    fun axis => spentOn_spend axis amounts.entries s.spent amounts.nodupKeys
  refine ⟨sound.stored, ?_, ?_⟩
  · intro axis limit given nonzero
    have counted := sound.counted axis limit given nonzero
    have remains := lookup_remaining (s := { s with spent := spend s.spent amounts.entries })
      sound.stored given nonzero
    cases charged : amounts.lookup axis with
    | none =>
      have spent' := spent axis
      rw [charged] at spent'
      have total' := totals axis
      rw [charged, Option.elim_none, add_zero] at total'
      refine ⟨?_, remains, ?_, ?_⟩
      · rw [spent', total']
        exact counted.spent
      · rw [spent', total']
        exact counted.left
      · rw [total']
        exact counted.within
    | some n =>
      have spent' := spent axis
      rw [charged] at spent'
      have total' := totals axis
      rw [charged, Option.elim_some] at total'
      obtain ⟨-, finite, -, -⟩ := amounts_facts made charged
      have below := canAllocate_amountTable allowed made charged counted.remains
      have fits := value_le_of_lt_eq_false counted.left.finite finite below
      rw [counted.left.value_eq] at fits
      obtain ⟨sum, left⟩ := (meets amounts made axis limit n given charged).2
        (by rw [counted.spent.value_eq]; exact fits)
      rw [counted.spent.value_eq] at sum left
      refine ⟨?_, remains, ?_, ?_⟩
      · rw [spent', total']
        exact sum
      · rw [spent', total']
        exact left
      · rw [total']
        linarith
  · intro axis limit given zero
    rw [totals, sound.untouched axis limit given zero]
    cases charged : amounts.lookup axis with
    | none => rw [Option.elim_none, add_zero]
    | some n =>
      have nonzero := (meets amounts made axis limit n given charged).1
      rw [zero] at nonzero
      cases nonzero

/-- In every run that charges no axis limited to 0 and whose sums are exact, the limits bind. -/
theorem limits_bind (limits : Value) (s : State) (made : new limits = .ok s)
    (actual : ∀ axis limit, limits.get axis = .num limit → limit.Actual) (calls : List Call)
    (meets : machine.Along (Meets limits) s calls) :
    (∀ axis limit, limits.get axis = .num limit →
      total (machine.run s calls).events axis ≤ limit.value)
    ∧ ∀ allocation amounts, normalizeAmounts (allocation.orElse .emptyTable) = .ok amounts →
      (∀ axis limit n, limits.get axis = .num limit → amounts.lookup axis = some n →
        Number.eq limit (.int 0) = false) →
      canAllocate (machine.run s calls) allocation = .ok () →
      ∀ axis limit n, limits.get axis = .num limit → amounts.lookup axis = some n →
        n.value ≤ limit.value - total (machine.run s calls).events axis := by
  have sound := machine.along_invariant (Sound limits) sound_step calls s meets
    (sound_new made actual)
  refine ⟨?_, ?_⟩
  · intro axis limit given
    cases zero : Number.eq limit (.int 0) with
    | false => exact (sound.counted axis limit given zero).within
    | true =>
      rw [sound.untouched axis limit given zero]
      exact (limits_facts sound.stored given).2.1
  · intro allocation amounts normal positive allowed axis limit n given found
    have counted := sound.counted axis limit given (positive axis limit n given found)
    have below := canAllocate_ok allowed normal found counted.remains
    obtain ⟨-, finite, -, -⟩ := amounts_facts normal found
    have fits := value_le_of_lt_eq_false counted.left.finite finite below
    rwa [counted.left.value_eq] at fits

def chargeSteps (n : Nat) : Call where
  key := .text "generation:1"
  cost := .record [("steps", .nat n)]
  sourceRefs := .nil
  options := .nil
  plain := by decide

theorem limits_bind_ten : ∃ s, new (.record [("steps", .nat 10)]) = .ok s
    ∧ total (machine.run s [chargeSteps 4]).events "steps" ≤ 10
    ∧ (canAllocate (machine.run s [chargeSteps 4]) (.record [("steps", .nat 6)]) = .ok () →
      (6 : ℚ) ≤ 10 - total (machine.run s [chargeSteps 4]).events "steps") := by
  have given : ∀ axis limit, (Value.record [("steps", .nat 10)]).get axis = .num limit →
      axis = "steps" ∧ limit = .int 10 := by
    intro axis limit found
    have read : Value.lookup [(.text "steps", .nat 10)] (.text axis) = .num limit := found
    rw [Value.lookup_text_cons] at read
    split at read
    · rename_i same
      cases read
      exact ⟨same.symm, rfl⟩
    · cases read
  have four : normalizeAmounts (.record [("steps", .nat 4)])
      = .ok ((∅ : Amounts).insert "steps" (.int 4)) := rfl
  have six : normalizeAmounts (.record [("steps", .nat 6)])
      = .ok ((∅ : Amounts).insert "steps" (.int 6)) := rfl
  have ten : ∃ s, new (.record [("steps", .nat 10)]) = .ok s ∧ s.spent = ∅ := ⟨_, rfl, rfl⟩
  obtain ⟨s, made, unspent⟩ := ten
  have meets : machine.Along (Meets (.record [("steps", .nat 10)])) s [chargeSteps 4] := by
    refine ⟨?_, trivial⟩
    intro amounts normal axis limit n limited found
    rw [show (chargeSteps 4).cost.orElse .emptyTable = .record [("steps", .nat 4)] from rfl, four]
      at normal
    cases normal
    obtain ⟨rfl, rfl⟩ := given axis limit limited
    rw [AList.lookup_insert] at found
    cases found
    rw [unspent]
    exact ⟨by decide, addsUp_int (by decide) (Int.le_refl 0) (by decide)⟩
  obtain ⟨bound, cover⟩ := limits_bind (.record [("steps", .nat 10)]) s made
    (fun axis limit limited => by rw [(given axis limit limited).2]; decide) [chargeSteps 4] meets
  refine ⟨s, made, ?_, ?_⟩
  · have within := bound "steps" (.int 10) rfl
    rwa [value_int] at within
  · intro allowed
    have covered := cover (.record [("steps", .nat 6)]) _ six
      (fun axis limit n limited _ => by rw [(given axis limit limited).2]; rfl) allowed
      "steps" (.int 10) (.int 6) rfl (AList.lookup_insert _)
    rwa [value_int, value_int] at covered

theorem zero_limit_charged : ∃ s, new (.record [("steps", .nat 0)]) = .ok s
    ∧ (Value.record [("steps", .nat 0)]).get "steps" = .num (.int 0)
    ∧ ¬ total (machine.run s [chargeSteps 5]).events "steps" ≤ (Number.int 0).value := by
  refine ⟨_, rfl, rfl, ?_⟩
  intro within
  have five : (Number.int 5).value + 0 ≤ (Number.int 0).value := within
  rw [add_zero, value_int, value_int] at five
  norm_num at five

end Proc17.Runtime.LineageBudget
