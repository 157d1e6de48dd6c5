import Mathlib.Algebra.BigOperators.Group.List.Basic
import Mathlib.Data.List.Nodup
import Mathlib.Tactic.Linarith
import Proc17.Core.Packet.Course
import Proc17.Lua.Exact
import Proc17.Runtime.Budget

/-!
# Conservation of the Packet budget

What `budget.charge` and `budget.init` keep, on every axis, over every run of calls whose
sums Lua computes without wrapping around or rounding.
-/

namespace Proc17.Runtime.Budget

open Lua Core List Number

def missingAxes (remaining required : Axes) : List String :=
  (required.filter fun entry =>
    (amount remaining entry.1).any fun left => Number.lt left entry.2).map Prod.fst

def canPay (p : Packet) (cost : Value) : Except Failure (Bool × List String) := do
  let required ← validateCost cost
  let seen ← snapshot p
  let missing := missingAxes seen.remaining required
  pure (missing.isEmpty, missing.mergeSort fun a b => decide (a ≤ b))

/-! ## Tables of amounts -/

section
variable {table : Axes} {axis other : String} {n : Number}

theorem lookup_replace : ∀ table : Axes,
    (table.map fun entry => if entry.1 = axis then (axis, n) else entry).lookup other
      = if other = axis then (table.lookup other).map fun _ => n else table.lookup other := by
  intro table
  induction table with
  | nil => simp
  | cons entry rest ih =>
    obtain ⟨key, m⟩ := entry
    rw [map_cons]
    by_cases here : key = axis
    · subst here
      rw [if_pos rfl, lookup_cons, lookup_cons, ih]
      by_cases same : other = key
      · subst same
        simp
      · rw [beq_eq_false_iff_ne.mpr same, if_neg same]
    · rw [if_neg here, lookup_cons, lookup_cons, ih]
      by_cases same : other = key
      · subst same
        simp [here]
      · rw [beq_eq_false_iff_ne.mpr same]

theorem lookup_snoc : ∀ table : Axes, (table ++ [(axis, n)]).lookup other
    = (table.lookup other).or (if other = axis then some n else none) := by
  intro table
  induction table with
  | nil =>
    by_cases same : other = axis
    · simp [same]
    · simp [same]
  | cons entry rest ih =>
    rw [cons_append, lookup_cons, lookup_cons, ih]
    split <;> rfl

theorem amount_setAmount (table : Axes) (axis other : String) (n : Number) :
    amount (setAmount table axis n) other = if other = axis then some n else amount table other := by
  unfold setAmount amount
  split
  · rename_i present
    rw [lookup_replace]
    by_cases same : other = axis
    · subst same
      obtain ⟨old, found⟩ := Option.isSome_iff_exists.mp present
      rw [if_pos rfl, if_pos rfl, found]
      rfl
    · rw [if_neg same, if_neg same]
  · rename_i absent
    rw [lookup_snoc]
    by_cases same : other = axis
    · subst same
      rw [if_pos rfl, if_pos rfl, Option.not_isSome_iff_eq_none.mp absent]
      rfl
    · rw [if_neg same, if_neg same, Option.or_none]

theorem lookup_filterMap_self {β : Type} (f : String → Option β) : ∀ keys : List String,
    (keys.filterMap fun axis => (f axis).map fun n => (axis, n)).lookup axis
      = if axis ∈ keys then f axis else none := by
  intro keys
  induction keys with
  | nil => rfl
  | cons key rest ih =>
    cases found : f key with
    | none =>
      rw [filterMap_cons_none (by rw [found]; rfl), ih]
      by_cases same : axis = key
      · subst same
        rw [found, if_pos mem_cons_self]
        split <;> rfl
      · simp [mem_cons, same]
    | some n =>
      rw [filterMap_cons_some (by rw [found]; rfl), lookup_cons, ih]
      by_cases same : axis = key
      · subst same
        rw [beq_self_eq_true, if_pos mem_cons_self, found]
      · rw [beq_eq_false_iff_ne.mpr same]
        simp [mem_cons, same]

theorem amount_copyAxes (table : Axes) (axis : String) :
    amount (copyAxes table) axis = if axis ∈ axes then amount table axis else none :=
  lookup_filterMap_self (amount table) axes

def numberOf : Value → Option Number
  | .num n => some n
  | _ => none

theorem numericAxes_eq (source : Value) : numericAxes source
    = axes.filterMap fun axis => (numberOf (source.get axis)).map fun n => (axis, n) := by
  unfold numericAxes
  congr 1
  funext axis
  cases source.get axis <;> rfl

theorem numericAxes_nodup (source : Value) : ((numericAxes source).map Prod.fst).Nodup := by
  have sub : ((numericAxes source).map Prod.fst).Sublist axes := by
    rw [numericAxes_eq, map_filterMap]
    have each : ∀ keys : List String, (keys.filterMap fun axis =>
        ((numberOf (source.get axis)).map fun n => (axis, n)).map Prod.fst).Sublist keys := by
      intro keys
      induction keys with
      | nil => exact List.Sublist.slnil
      | cons key rest ih =>
        cases found : numberOf (source.get key) with
        | none =>
          rw [filterMap_cons_none (by rw [found]; rfl)]
          exact ih.cons key
        | some n =>
          rw [filterMap_cons_some (by rw [found]; rfl)]
          exact ih.cons_cons key
    exact each axes
  exact sub.nodup (by decide)

end

/-! ## Numbers -/

variable {n : Number}

theorem le_zero_iff (finite : n.isFinite = true) :
    Number.le n (.int 0) = true ↔ n.value ≤ 0 := by
  rw [Number.le, Bool.or_eq_true, lt_iff_value finite rfl, eq_zero_iff_value finite,
    value_int, Int.cast_zero, le_iff_lt_or_eq]

def costOn (cost : Axes) (axis : String) : ℚ :=
  ((cost.filter fun entry => entry.1 = axis).map fun entry => entry.2.value).sum

theorem costOn_cons (entry : String × Number) (rest : Axes) (axis : String) :
    costOn (entry :: rest) axis
      = (if entry.1 = axis then entry.2.value else 0) + costOn rest axis := by
  unfold costOn
  rw [filter_cons]
  by_cases here : entry.1 = axis
  · simp [here]
  · simp [here]

variable {cost : Axes} {value input : Value} {plan : Charge} {axis : String}

theorem costOn_of_absent (absent : axis ∉ cost.map Prod.fst) :
    costOn cost axis = 0 := by
  induction cost with
  | nil => rfl
  | cons entry rest ih =>
    rw [map_cons, mem_cons, not_or] at absent
    rw [costOn_cons, if_neg (Ne.symm absent.1), ih absent.2, add_zero]

theorem costOn_of_mem (once : (cost.map Prod.fst).Nodup)
    (member : (axis, n) ∈ cost) : costOn cost axis = n.value := by
  induction cost with
  | nil => cases member
  | cons entry rest ih =>
    rw [map_cons, nodup_cons] at once
    rw [costOn_cons]
    rcases mem_cons.mp member with rfl | later
    · rw [if_pos rfl, costOn_of_absent once.1, add_zero]
    · have apart : entry.1 ≠ axis := by
        rintro rfl
        exact once.1 (mem_map.mpr ⟨_, later, rfl⟩)
      rw [if_neg apart, ih once.2 later, zero_add]

def total (events : List BudgetRecord) (axis : String) : ℚ :=
  (events.map fun event => costOn event.cost axis).sum

theorem total_snoc (events : List BudgetRecord) (event : BudgetRecord) (axis : String) :
    total (events ++ [event]) axis = total events axis + costOn event.cost axis := by
  simp [total]

/-! ## Accepted costs and limits -/

/-- An amount that `validate_cost` keeps. -/
structure Charges (entry : String × Number) : Prop where
  axis : entry.1 ∈ axes
  finite : entry.2.isFinite = true
  nonneg : 0 ≤ entry.2.value

theorem axisOf_facts {key : Value} (found : axisOf key = some axis) :
    key = .text axis ∧ axis ∈ axes := by
  have named := List.find?_some found
  exact ⟨of_decide_eq_true named, mem_of_find?_eq_some found⟩

theorem nonneg_of_not_lt (finite : n.isFinite = true)
    (above : ¬ Number.lt n (.int 0) = true) : 0 ≤ n.value := by
  rw [lt_iff_value finite rfl, value_int, Int.cast_zero] at above
  exact not_lt.mp above

theorem costEntry_facts {key : Value} {part : Axes} (checked : costEntry key value = .ok part) :
    ∀ entry ∈ part, Charges entry ∧ key = .text entry.1 := by
  unfold costEntry at checked
  cases named : axisOf key with
  | none =>
    rw [named] at checked
    cases checked
  | some axis =>
    rw [named] at checked
    cases value with
    | num n =>
      simp only at checked
      split at checked
      · cases checked
      · rename_i finite
        split at checked
        · cases checked
        · rename_i above
          split at checked
          · cases checked
          · split at checked
            · cases checked
              exact forall_mem_nil _
            · cases checked
              obtain ⟨text, listed⟩ := axisOf_facts named
              intro entry member
              rw [mem_singleton.mp member]
              have actual : n.isFinite = true := by simpa using finite
              exact ⟨⟨listed, actual, nonneg_of_not_lt actual above⟩, text⟩
    | _ => cases checked

theorem mapM_facts {α β : Type} {f : α → Except Failure β} {P : β → Prop}
    (each : ∀ a b, f a = .ok b → P b) : ∀ {items : List α} {results : List β},
    items.mapM f = .ok results → ∀ b ∈ results, P b := by
  intro items
  induction items with
  | nil =>
    intro results made
    cases made
    exact forall_mem_nil _
  | cons a rest ih =>
    intro results made
    rw [mapM_cons] at made
    simp only [bind_eq_ok, pure_eq_ok] at made
    obtain ⟨b, first, later, made, rfl⟩ := made
    exact forall_mem_cons.mpr ⟨each a b first, ih made⟩

theorem validateCost_facts (valid : validateCost value = .ok cost) :
    ∀ entry ∈ cost, Charges entry := by
  cases value with
  | table tag entries =>
    simp only [validateCost, bind_eq_ok, pure_eq_ok] at valid
    obtain ⟨parts, made, rfl⟩ := valid
    intro entry member
    obtain ⟨part, there, here⟩ := mem_flatten.mp member
    exact mapM_facts (P := fun part => ∀ entry ∈ part, Charges entry)
      (fun item part checked entry here => (costEntry_facts checked entry here).1) made part
      there entry here
  | _ => cases valid

theorem validateCost_nodup (valid : validateCost value = .ok cost) (once : value.keys.Nodup) :
    (cost.map Prod.fst).Nodup := by
  cases value with
  | table tag entries =>
    simp only [validateCost, bind_eq_ok, pure_eq_ok] at valid
    obtain ⟨parts, made, rfl⟩ := valid
    have kept : ∀ {entries : List (Value × Value)} {parts : List Axes},
        entries.mapM (fun entry => costEntry entry.1 entry.2) = .ok parts →
        ((parts.flatten.map Prod.fst).map Value.text).Sublist (entries.map Prod.fst) := by
      intro entries
      induction entries with
      | nil =>
        intro parts made
        cases made
        exact List.Sublist.slnil
      | cons entry rest ih =>
        intro parts made
        rw [mapM_cons] at made
        simp only [bind_eq_ok, pure_eq_ok] at made
        obtain ⟨part, first, later, made, rfl⟩ := made
        have one : part = [] ∨ ∃ n axis, part = [(axis, n)] := by
          unfold costEntry at first
          repeat' split at first
          all_goals first
            | exact .inl (Except.ok.inj first).symm
            | exact .inr ⟨_, _, (Except.ok.inj first).symm⟩
            | cases first
        rw [flatten_cons, map_cons]
        rcases one with rfl | ⟨n, axis, rfl⟩
        · exact (ih made).cons entry.1
        · have named := (costEntry_facts first _ mem_cons_self).2
          rw [named]
          exact (ih made).cons_cons _
    exact List.Nodup.of_map _ ((kept made).nodup once)
  | _ => cases valid

def limitsOf (p : Packet) : Axes := numericAxes (p.physis.budget.orElse .emptyTable)

theorem mem_of_lookup {entries : List (Value × Value)} {name : String} {v : Value}
    (present : v ≠ .nil) (found : Value.lookup entries (.text name) = v) :
    (.text name, v) ∈ entries := by
  induction entries with
  | nil => exact absurd found.symm present
  | cons entry rest ih =>
    obtain ⟨key, value⟩ := entry
    rw [Value.lookup] at found
    split at found
    · rename_i here
      rw [Value.eq_of_eq_str here, found]
      exact mem_cons_self
    · exact mem_cons_of_mem _ (ih found)

theorem limitEntry_facts (listed : axis ∈ axes)
    (checked : limitEntry (.text axis) (.num n) = .ok ()) : n.isFinite = true := by
  have every : ∀ axis ∈ axes, axisOf (.text axis) = some axis := by decide
  have named := every axis listed
  unfold limitEntry at checked
  rw [named] at checked
  simp only at checked
  split at checked
  · cases checked
  · rename_i accepted
    rw [not_or] at accepted
    simpa using accepted.1

variable {p : Packet}

theorem initPlan_facts {limits : Axes} (planned : initPlan p = .ok limits) :
    limits = limitsOf p ∧ ∀ entry ∈ limits, entry.2.isFinite = true := by
  unfold initPlan at planned
  simp only [bind_eq_ok] at planned
  obtain ⟨-, -, planned⟩ := planned
  unfold limitsOf
  cases given : p.physis.budget.orElse .emptyTable with
  | table tag entries =>
    rw [given] at planned
    simp only [bind_eq_ok, pure_eq_ok] at planned
    obtain ⟨⟨⟩, checked, rfl⟩ := planned
    refine ⟨rfl, ?_⟩
    rintro ⟨axis, n⟩ member
    obtain ⟨key, listed, read⟩ := mem_filterMap.mp member
    cases value : (Value.table tag entries).get key with
    | num m =>
      rw [value] at read
      obtain ⟨rfl, rfl⟩ := Prod.mk.inj (Option.some.inj read)
      have there := mem_of_lookup Value.noConfusion value
      exact limitEntry_facts listed (mem_of_forM_ok checked _ there)
    | _ =>
      rw [value] at read
      cases read
  | _ =>
    rw [given] at planned
    cases planned

/-! ## Exact steps -/

def spentOn (budget : RuntimeBudget) (axis : String) : Number :=
  (amount budget.spent axis).getD (.int 0)

/-- Each sum and each remainder of a charge is computed without wrapping around or rounding. -/
def ChargesExactly (budget : RuntimeBudget) : Axes → Prop
  | [] => True
  | (axis, n) :: rest =>
    (Number.add (spentOn budget axis) n).Exactly ((spentOn budget axis).value + n.value)
      ∧ (∀ left, amount budget.remaining axis = some left →
        (Number.sub left n).Exactly (left.value - n.value))
      ∧ ChargesExactly (chargeAxis budget (axis, n)) rest

def LimitsExactly (budget : RuntimeBudget) (limits : Axes) : Prop :=
  ∀ entry ∈ limits, (Number.sub entry.2 (spentOn budget entry.1)).Exactly
    (entry.2.value - (spentOn budget entry.1).value)

section
variable {budget : RuntimeBudget}

theorem spentOn_chargeAxis (budget : RuntimeBudget) (axis other : String) (n : Number) :
    spentOn (chargeAxis budget (axis, n)) other
      = if other = axis then Number.add (spentOn budget axis) n else spentOn budget other := by
  unfold spentOn chargeAxis
  rw [amount_setAmount]
  split <;> rfl

theorem remaining_chargeAxis (budget : RuntimeBudget) (axis other : String) (n : Number) :
    amount (chargeAxis budget (axis, n)).remaining other
      = if other = axis then (amount budget.remaining axis).map fun left => Number.sub left n
        else amount budget.remaining other := by
  unfold chargeAxis
  by_cases same : other = axis
  · subst same
    cases found : amount budget.remaining other with
    | none => simp [found]
    | some left => simp [amount_setAmount]
  · cases found : amount budget.remaining axis with
    | none => simp [same]
    | some left => simp [amount_setAmount, same]

theorem spent_isSome_chargeAxis {axis other : String}
    (present : (amount budget.spent other).isSome) :
    (amount (chargeAxis budget (axis, n)).spent other).isSome := by
  unfold chargeAxis
  rw [amount_setAmount]
  split
  · rfl
  · exact present

theorem charge_spent : ∀ {budget : RuntimeBudget}, ChargesExactly budget cost →
    (∀ axis, (spentOn budget axis).isFinite = true) → ∀ axis,
    (spentOn (cost.foldl chargeAxis budget) axis).Exactly
      ((spentOn budget axis).value + costOn cost axis) := by
  induction cost with
  | nil =>
    intro budget _ finite axis
    exact ⟨finite axis, (add_zero _).symm⟩
  | cons entry rest ih =>
    obtain ⟨key, n⟩ := entry
    intro budget exactly finite axis
    obtain ⟨sum, -, later⟩ := exactly
    have finite' (other : String) :
        (spentOn (chargeAxis budget (key, n)) other).isFinite = true := by
      rw [spentOn_chargeAxis]
      split
      · exact sum.finite
      · exact finite other
    have after := ih later finite' axis
    rw [foldl_cons, costOn_cons]
    rw [spentOn_chargeAxis] at after
    by_cases same : axis = key
    · subst same
      rw [if_pos rfl, sum.value_eq, add_assoc] at after
      rw [if_pos rfl]
      exact after
    · rw [if_neg same] at after
      rw [if_neg (Ne.symm same), zero_add]
      exact after

theorem charge_remaining : ∀ {budget : RuntimeBudget}, ChargesExactly budget cost →
    ∀ axis left, amount budget.remaining axis = some left → left.isFinite = true →
    ∃ left', amount (cost.foldl chargeAxis budget).remaining axis = some left'
      ∧ left'.Exactly (left.value - costOn cost axis) := by
  induction cost with
  | nil =>
    intro budget _ axis left found finite
    exact ⟨left, found, finite, (sub_zero _).symm⟩
  | cons entry rest ih =>
    obtain ⟨key, n⟩ := entry
    intro budget exactly axis left found finite
    obtain ⟨-, difference, later⟩ := exactly
    rw [foldl_cons, costOn_cons]
    by_cases same : axis = key
    · subst same
      have here := difference left found
      obtain ⟨left', found', after⟩ := ih later axis (Number.sub left n)
        (by rw [remaining_chargeAxis, if_pos rfl, found]; rfl) here.finite
      rw [here.value_eq, sub_sub] at after
      rw [if_pos rfl]
      exact ⟨left', found', after⟩
    · obtain ⟨left', found', after⟩ := ih later axis left
        (by rw [remaining_chargeAxis, if_neg same, found]) finite
      rw [if_neg (Ne.symm same), zero_add]
      exact ⟨left', found', after⟩

theorem charge_unlimited (cost : Axes) : ∀ {budget : RuntimeBudget} {axis : String},
    amount budget.remaining axis = none →
    amount (cost.foldl chargeAxis budget).remaining axis = none := by
  induction cost with
  | nil =>
    intro budget axis none
    exact none
  | cons entry rest ih =>
    obtain ⟨key, n⟩ := entry
    intro budget axis none
    refine ih ?_
    rw [remaining_chargeAxis]
    by_cases same : axis = key
    · subst same
      rw [if_pos rfl, none]
      rfl
    · rw [if_neg same]
      exact none

theorem charge_keeps (cost : Axes) : ∀ budget : RuntimeBudget,
    (cost.foldl chargeAxis budget).events = budget.events
      ∧ ∀ axis, (amount budget.spent axis).isSome →
        (amount (cost.foldl chargeAxis budget).spent axis).isSome := by
  induction cost with
  | nil =>
    intro budget
    exact ⟨rfl, fun axis present => present⟩
  | cons entry rest ih =>
    intro budget
    obtain ⟨events, present⟩ := ih (chargeAxis budget entry)
    exact ⟨events, fun axis here => present axis (spent_isSome_chargeAxis here)⟩

theorem charge_listed : ∀ {budget : RuntimeBudget},
    (∀ entry ∈ cost, entry.1 ∈ axes) → (∀ axis, (amount budget.spent axis).isSome → axis ∈ axes) →
    ∀ axis, (amount (cost.foldl chargeAxis budget).spent axis).isSome → axis ∈ axes := by
  induction cost with
  | nil =>
    intro budget _ listed
    exact listed
  | cons entry rest ih =>
    obtain ⟨key, n⟩ := entry
    intro budget known listed
    obtain ⟨first, later⟩ := forall_mem_cons.mp known
    refine ih later fun axis present => ?_
    unfold chargeAxis at present
    rw [amount_setAmount] at present
    split at present
    · rename_i same
      rw [same]
      exact first
    · exact listed axis present

/-! ## Limits -/

theorem spentOn_limitAxis (budget : RuntimeBudget) (limit : String × Number) (axis : String) :
    spentOn (limitAxis budget limit) axis = spentOn budget axis := by
  unfold spentOn limitAxis
  rw [amount_setAmount]
  split
  · rename_i same
    rw [same]
    rfl
  · rfl

theorem limits_spent (limits : Axes) : ∀ (budget : RuntimeBudget) (axis : String),
    spentOn (limits.foldl limitAxis budget) axis = spentOn budget axis := by
  induction limits with
  | nil => intro budget axis; rfl
  | cons entry rest ih =>
    intro budget axis
    rw [foldl_cons, ih, spentOn_limitAxis]

theorem limits_remaining (limits : Axes) : ∀ (budget : RuntimeBudget) (axis : String),
    (limits.map Prod.fst).Nodup → amount (limits.foldl limitAxis budget).remaining axis
      = match amount limits axis with
        | some limit => some (Number.sub limit (spentOn budget axis))
        | none => amount budget.remaining axis := by
  induction limits with
  | nil => intro budget axis _; rfl
  | cons entry rest ih =>
    obtain ⟨key, limit⟩ := entry
    intro budget axis once
    rw [map_cons, nodup_cons] at once
    rw [foldl_cons, ih _ _ once.2, spentOn_limitAxis]
    have first : amount (limitAxis budget (key, limit)).remaining axis
        = if axis = key then some (Number.sub limit (spentOn budget key))
          else amount budget.remaining axis := amount_setAmount ..
    by_cases same : axis = key
    · subst same
      have absent : amount rest axis = none := by
        rw [amount, lookup_eq_none_iff]
        intro entry member
        rw [bne_iff_ne]
        rintro rfl
        exact once.1 (mem_map.mpr ⟨entry, member, rfl⟩)
      have head : amount ((axis, limit) :: rest) axis = some limit := by
        rw [amount, lookup_cons, beq_self_eq_true]
      rw [absent, head, first, if_pos rfl]
    · have skip : amount ((key, limit) :: rest) axis = amount rest axis := by
        rw [amount, lookup_cons, beq_eq_false_iff_ne.mpr same]
        rfl
      rw [skip, first, if_neg same]

theorem limits_keep (limits : Axes) : ∀ budget : RuntimeBudget,
    (limits.foldl limitAxis budget).events = budget.events
      ∧ ∀ axis, (amount (limits.foldl limitAxis budget).spent axis).isSome
        ↔ axis ∈ limits.map Prod.fst ∨ (amount budget.spent axis).isSome := by
  induction limits with
  | nil =>
    intro budget
    exact ⟨rfl, fun axis => by simp⟩
  | cons entry rest ih =>
    intro budget
    obtain ⟨events, present⟩ := ih (limitAxis budget entry)
    refine ⟨events, fun axis => ?_⟩
    rw [foldl_cons, present, map_cons, mem_cons]
    unfold limitAxis
    rw [amount_setAmount]
    by_cases same : axis = entry.1
    · simp [same]
    · simp [same]

end

/-! ## Balance -/

/-- The budget of a Packet agrees with its events and its limits. -/
structure Balanced (p : Packet) : Prop where
  spent : ∀ axis, (spentOn (ensure p) axis).Exactly (total (ensure p).events axis)
  listed : ∀ axis, (amount (ensure p).spent axis).isSome → axis ∈ axes
  remaining : ∀ axis left, amount (ensure p).remaining axis = some left →
    ∃ limit, amount (limitsOf p) axis = some limit ∧ limit.isFinite = true
      ∧ left.Exactly (limit.value - total (ensure p).events axis)
      ∧ (amount (ensure p).spent axis).isSome
  flag : (ensure p).exhausted = !(exhaustedKeys (ensure p).remaining).isEmpty
  keys : (ensure p).exhaustedKeys = exhaustedKeys (ensure p).remaining

/-- `budget.init` has succeeded: every limit has its remainder. -/
structure Limited (p : Packet) : Prop where
  known : p.runtimeBudget.isSome
  every : ∀ axis limit, amount (limitsOf p) axis = some limit →
    (amount (ensure p).remaining axis).isSome

theorem balanced_fresh (fresh : p.runtimeBudget = none) : Balanced p := by
  have empty : ensure p = ⟨[], [], [], false, []⟩ := by
    rw [ensure, fresh]
    rfl
  constructor
  · intro axis
    rw [empty]
    exact ⟨rfl, value_int 0⟩
  · intro axis present
    rw [empty] at present
    cases present
  · intro axis left found
    rw [empty] at found
    cases found
  · rw [empty]
    rfl
  · rw [empty]
    rfl

structure Apart (p q : Packet) : Prop where
  budget : q.runtimeBudget = p.runtimeBudget
  limits : q.physis = p.physis
  revision : q.revisions.budget = p.revisions.budget

variable {q : Packet}

theorem Apart.ensure (apart : Apart p q) : ensure q = ensure p := by
  rw [Budget.ensure, Budget.ensure, apart.budget]

theorem Apart.limitsOf (apart : Apart p q) : limitsOf q = limitsOf p := by
  rw [Budget.limitsOf, Budget.limitsOf, apart.limits]

theorem Balanced.apart (balanced : Balanced p) (apart : Apart p q) :
    Balanced q := by
  obtain ⟨spent, listed, remaining, flag, keys⟩ := balanced
  constructor
  all_goals rw [apart.ensure]
  · exact spent
  · exact listed
  · rw [apart.limitsOf]
    exact remaining
  · exact flag
  · exact keys

theorem Limited.apart (limited : Limited p) (apart : Apart p q) : Limited q := by
  obtain ⟨known, every⟩ := limited
  refine ⟨by rw [apart.budget]; exact known, ?_⟩
  rw [apart.limitsOf, apart.ensure]
  exact every

theorem init_rule {motive : Packet → Prop} (same : motive p)
    (limited : ∀ limits, initPlan p = .ok limits →
      motive (withBudget p (refreshExhaustion (limits.foldl limitAxis (ensure p))))) :
    motive (init p).2 := by
  unfold init
  cases planned : initPlan p with
  | error failure =>
    rw [transact_error]
    exact same
  | ok limits =>
    rw [transact_ok]
    exact limited limits planned

theorem mem_of_amount {table : Axes}
    (found : amount table axis = some n) : (axis, n) ∈ table := by
  obtain ⟨before, after, split, -⟩ := lookup_eq_some_iff.mp found
  rw [split]
  exact mem_append_right _ mem_cons_self

theorem init_balanced (balanced : Balanced p)
    (exactly : ∀ limits, initPlan p = .ok limits → LimitsExactly (ensure p) limits) :
    Balanced (init p).2 := by
  refine init_rule balanced fun limits planned => ?_
  obtain ⟨rfl, finite⟩ := initPlan_facts planned
  have exact := exactly _ planned
  obtain ⟨events, present⟩ := limits_keep (limitsOf p) (ensure p)
  have once : ((limitsOf p).map Prod.fst).Nodup := numericAxes_nodup _
  constructor
  · intro axis
    show (spentOn ((limitsOf p).foldl limitAxis (ensure p)) axis).Exactly
      (total ((limitsOf p).foldl limitAxis (ensure p)).events axis)
    rw [limits_spent, events]
    exact balanced.spent axis
  · intro axis here
    rcases (present axis).mp here with limited | before
    · obtain ⟨entry, member, rfl⟩ := mem_map.mp limited
      obtain ⟨key, known, read⟩ := mem_filterMap.mp member
      split at read
      · rw [← Option.some.inj read]
        exact known
      · cases read
    · exact balanced.listed axis before
  · intro axis remainder found
    have found' : amount ((limitsOf p).foldl limitAxis (ensure p)).remaining axis
        = some remainder := found
    rw [limits_remaining _ _ _ once] at found'
    show ∃ limit, amount (limitsOf p) axis = some limit ∧ limit.isFinite = true
      ∧ remainder.Exactly (limit.value
        - total ((limitsOf p).foldl limitAxis (ensure p)).events axis)
      ∧ (amount ((limitsOf p).foldl limitAxis (ensure p)).spent axis).isSome
    rw [events, present]
    cases limited : amount (limitsOf p) axis with
    | some limit =>
      rw [limited] at found'
      have member := mem_of_amount limited
      have here := exact _ member
      rw [Option.some.inj found', (balanced.spent axis).value_eq] at here
      exact ⟨limit, rfl, finite _ member, here, .inl (mem_map.mpr ⟨_, member, rfl⟩)⟩
    | none =>
      rw [limited] at found'
      obtain ⟨limit, known, -⟩ := balanced.remaining axis remainder found'
      rw [limited] at known
      cases known
  · rfl
  · rfl

theorem limited_of_planned {limits : Axes} (planned : initPlan p = .ok limits) :
    Limited (withBudget p (refreshExhaustion (limits.foldl limitAxis (ensure p)))) := by
  obtain ⟨rfl, -⟩ := initPlan_facts planned
  refine ⟨rfl, ?_⟩
  intro axis limit found
  have found' : amount (limitsOf p) axis = some limit := found
  show (amount ((limitsOf p).foldl limitAxis (ensure p)).remaining axis).isSome
  rw [limits_remaining (limitsOf p) _ _ (numericAxes_nodup _), found']
  rfl

theorem init_limited (succeeded : (init p).Succeeds) : Limited (init p).2 := by
  cases planned : initPlan p with
  | error failure =>
    rw [init, planned, transact_error] at succeeded
    exact absurd succeeded (Reply.not_succeeds_error _ _)
  | ok limits =>
    rw [init, planned, transact_ok]
    exact limited_of_planned planned

/-! ## Charges -/

theorem chargePlan_facts (planned : chargePlan p input = .ok plan) :
    p.Mutable ∧ ∃ cost, (input.orElse .emptyTable).index "cost" = .ok cost
      ∧ validateCost cost = .ok plan.cost := by
  unfold chargePlan at planned
  simp only [bind_eq_ok, pure_eq_ok] at planned
  obtain ⟨⟨⟩, mutable, cost, read, charged, valid, rfl⟩ := planned
  exact ⟨(Packet.assertMutable_eq_ok ..).mp mutable, cost, read, valid⟩

theorem charge_cases (p : Packet) (input : Value) :
    (¬ (charge p input).Succeeds ∧ (charge p input).2 = p)
      ∨ ∃ plan, chargePlan p input = .ok plan ∧
        ((plan.cost = [] ∧ (charge p input).2 = p)
          ∨ (plan.cost ≠ [] ∧ (charge p input).Succeeds
            ∧ (charge p input).2 = withCharge p plan)) := by
  unfold charge
  rcases transact_cases (chargePlan p input) _ p with ⟨failure, -, result⟩ | ⟨plan, planned, result⟩
  · rw [result]
    exact .inl ⟨Reply.not_succeeds_error _ _, rfl⟩
  · rw [result]
    by_cases empty : plan.cost = []
    · rw [if_pos empty]
      cases seen : snapshot p with
      | error failure =>
        rw [transact_error]
        exact .inl ⟨Reply.not_succeeds_error _ _, rfl⟩
      | ok snapshot =>
        rw [transact_ok]
        exact .inr ⟨plan, planned, .inl ⟨empty, rfl⟩⟩
    · rw [if_neg empty]
      exact .inr ⟨plan, planned, .inr ⟨empty, Reply.succeeds_ok _ _, rfl⟩⟩

theorem charge_rule {motive : Packet → Prop} (same : motive p)
    (charged : ∀ plan, chargePlan p input = .ok plan → plan.cost ≠ [] →
      motive (withCharge p plan)) : motive (charge p input).2 := by
  rcases charge_cases p input with ⟨-, result⟩ | ⟨plan, planned, ⟨-, result⟩ | ⟨nonzero, -, result⟩⟩
  · rw [result]
    exact same
  · rw [result]
    exact same
  · rw [result]
    exact charged plan planned nonzero

theorem charge_planned (planned : chargePlan p input = .ok plan)
    (nonzero : plan.cost ≠ []) : (charge p input).2 = withCharge p plan := by
  rw [charge, planned, transact_ok, if_neg nonzero]

theorem ensure_withCharge (p : Packet) (plan : Charge) : ensure (withCharge p plan)
    = { charged (ensure p) plan.cost with
        events := (charged (ensure p) plan.cost).events
          ++ [recordOf plan (charged (ensure p) plan.cost)] } := rfl

theorem withCharge_balanced (balanced : Balanced p)
    (accepted : ∀ entry ∈ plan.cost, Charges entry) (exactly : ChargesExactly (ensure p) plan.cost) :
    Balanced (withCharge p plan) := by
  have finite (axis : String) := (balanced.spent axis).finite
  have spent := charge_spent exactly finite
  obtain ⟨events, present⟩ := charge_keeps plan.cost (ensure p)
  have recorded (axis : String) : total (ensure (withCharge p plan)).events axis
      = total (ensure p).events axis + costOn plan.cost axis := by
    rw [ensure_withCharge, total_snoc]
    show total (plan.cost.foldl chargeAxis (ensure p)).events axis + _ = _
    rw [events]
    rfl
  constructor
  · intro axis
    rw [recorded, ← (balanced.spent axis).value_eq]
    exact spent axis
  · intro axis here
    exact charge_listed (fun entry member => (accepted entry member).axis) balanced.listed axis here
  · intro axis left found
    rw [recorded]
    cases before : amount (ensure p).remaining axis with
    | none =>
      have none := charge_unlimited plan.cost before
      have found' : amount (plan.cost.foldl chargeAxis (ensure p)).remaining axis = some left :=
        found
      rw [none] at found'
      cases found'
    | some old =>
      obtain ⟨limit, limited, actual, holds, counted⟩ := balanced.remaining axis old before
      obtain ⟨left', found', after⟩ := charge_remaining exactly axis old before holds.finite
      rw [show amount (plan.cost.foldl chargeAxis (ensure p)).remaining axis = some left from found]
        at found'
      obtain rfl := Option.some.inj found'
      rw [holds.value_eq, sub_sub] at after
      exact ⟨limit, limited, actual, after, present axis counted⟩
  · rfl
  · rfl

theorem withCharge_limited (limited : Limited p) (balanced : Balanced p)
    (exactly : ChargesExactly (ensure p) plan.cost) :
    Limited (withCharge p plan) := by
  refine ⟨rfl, ?_⟩
  intro axis limit found
  obtain ⟨left, here⟩ := Option.isSome_iff_exists.mp (limited.every axis limit found)
  obtain ⟨_, -, -, holds, -⟩ := balanced.remaining axis left here
  obtain ⟨left', there, -⟩ := charge_remaining exactly axis left here holds.finite
  exact Option.isSome_iff_exists.mpr ⟨left', there⟩

/-! ## Runs -/

inductive Call where
  | init
  | charge (input : Value)
  /-- Anything that happens to the Packet apart from its budget. -/
  | elsewhere (change : Packet → Packet) (apart : ∀ p, Apart p (change p))

def machine : Machine Packet Call Unit where
  step p call :=
    match call with
    | .init => init p
    | .charge input => (charge p input).map fun _ => ()
    | .elsewhere change _ => (.ok (), change p)

def Exactly (p : Packet) : Call → Prop
  | .init => ∀ limits, initPlan p = .ok limits → LimitsExactly (ensure p) limits
  | .charge input => ∀ plan, chargePlan p input = .ok plan → ChargesExactly (ensure p) plan.cost
  | .elsewhere _ _ => True

theorem call_balanced (p : Packet) (call : Call) (exactly : Exactly p call)
    (balanced : Balanced p) : Balanced (machine.after p call) := by
  cases call with
  | init => exact init_balanced balanced exactly
  | charge input =>
    refine charge_rule (motive := Balanced) balanced fun plan planned _ => ?_
    obtain ⟨-, cost, -, valid⟩ := chargePlan_facts planned
    exact withCharge_balanced balanced (validateCost_facts valid) (exactly plan planned)
  | elsewhere change apart => exact balanced.apart (apart p)

theorem call_limited (p : Packet) (call : Call) (exactly : Exactly p call)
    (holds : Balanced p ∧ Limited p) :
    Balanced (machine.after p call) ∧ Limited (machine.after p call) := by
  obtain ⟨balanced, limited⟩ := holds
  refine ⟨call_balanced p call exactly balanced, ?_⟩
  cases call with
  | init => exact init_rule (motive := Limited) limited fun limits => limited_of_planned
  | charge input =>
    exact charge_rule (motive := Limited) limited fun plan planned _ =>
      withCharge_limited limited balanced (exactly plan planned)
  | elsewhere change apart => exact limited.apart (apart p)

/-! ## The law -/

def RunsOut (p : Packet) (budget : RuntimeBudget) (axis : String) : Prop :=
  ∃ limit left, amount (limitsOf p) axis = some limit ∧ amount budget.remaining axis = some left
    ∧ left.value ≤ 0

/-- The running budget conserves its limits, and is what `snapshot` reports. -/
structure Conserved (p : Packet) (budget : RuntimeBudget) : Prop where
  current : p.runtimeBudget = some budget
  balance : ∀ axis limit, amount (limitsOf p) axis = some limit → ∃ left spent,
    amount budget.remaining axis = some left ∧ amount budget.spent axis = some spent
      ∧ left.isFinite = true ∧ spent.isFinite = true ∧ left.value + spent.value = limit.value
  spent : ∀ axis, (spentOn budget axis).Exactly (total budget.events axis)
  exhausted : budget.exhausted = true ↔ ∃ axis, RunsOut p budget axis
  /-- The exhausted axes, in the order of `AXES`. -/
  listed : budget.exhaustedKeys.Sublist axes
    ∧ ∀ axis, axis ∈ budget.exhaustedKeys ↔ RunsOut p budget axis
  reported : ∃ seen, snapshot p = .ok seen
    ∧ (∀ axis, amount seen.spent axis = amount budget.spent axis)
    ∧ (∀ axis, amount seen.remaining axis = amount budget.remaining axis)
    ∧ seen.exhausted = budget.exhausted ∧ seen.exhaustedKeys = budget.exhaustedKeys

/-- What holds of a Packet and of the next calls on its budget. -/
structure BudgetLaw (p : Packet) : Prop where
  conserved : ∃ budget, Conserved p budget
  grows : ∀ later, machine.Along Exactly p later → ∀ axis,
    (spentOn (ensure p) axis).value ≤ (spentOn (ensure (machine.run p later)) axis).value
  /-- The revision counts the charges that are not zero. -/
  counted : ∀ input plan, chargePlan p input = .ok plan → plan.cost ≠ [] →
    (charge p input).2.revisions.budget = p.revisions.budget + 1
  uncounted : (∀ input, (∀ plan, chargePlan p input = .ok plan → plan.cost = []) →
      (charge p input).2.revisions.budget = p.revisions.budget)
    ∧ (init p).2.revisions.budget = p.revisions.budget
  /-- A cost can be paid exactly when charging it leaves no axis it charges below zero. -/
  payable : ∀ input plan cost, chargePlan p input = .ok plan →
    (input.orElse .emptyTable).index "cost" = .ok cost → cost.keys.Nodup →
    ChargesExactly (ensure p) plan.cost → ∃ answer missing, canPay p cost = .ok (answer, missing)
      ∧ (answer = true ↔ ∀ axis left, axis ∈ plan.cost.map Prod.fst →
        amount (ensure (charge p input).2).remaining axis = some left → 0 ≤ left.value)
  refused : (∀ input, ¬ (charge p input).Succeeds → (charge p input).2 = p)
    ∧ (¬ (init p).Succeeds → (init p).2 = p)

theorem mem_exhaustedKeys (balanced : Balanced p) (axis : String) :
    axis ∈ exhaustedKeys (ensure p).remaining ↔ RunsOut p (ensure p) axis := by
  unfold exhaustedKeys
  rw [mem_filter]
  constructor
  · rintro ⟨-, out⟩
    cases found : amount (ensure p).remaining axis with
    | none =>
      rw [found] at out
      cases out
    | some left =>
      rw [found] at out
      obtain ⟨limit, limited, -, holds, -⟩ := balanced.remaining axis left found
      exact ⟨limit, left, limited, found, (le_zero_iff holds.finite).mp out⟩
  · rintro ⟨limit, left, limited, found, low⟩
    obtain ⟨limit', limited', -, holds, counted⟩ := balanced.remaining axis left found
    refine ⟨balanced.listed axis counted, ?_⟩
    rw [found]
    exact (le_zero_iff holds.finite).mpr low

theorem remaining_copied (balanced : Balanced p) (axis : String) :
    amount (copyAxes (ensure p).remaining) axis = amount (ensure p).remaining axis := by
  rw [amount_copyAxes]
  split
  · rfl
  · rename_i unknown
    cases found : amount (ensure p).remaining axis with
    | none => rfl
    | some left =>
      obtain ⟨-, -, -, -, counted⟩ := balanced.remaining axis left found
      exact absurd (balanced.listed axis counted) unknown

theorem spent_copied (balanced : Balanced p) (axis : String) :
    amount (copyAxes (ensure p).spent) axis = amount (ensure p).spent axis := by
  rw [amount_copyAxes]
  split
  · rfl
  · rename_i unknown
    cases found : amount (ensure p).spent axis with
    | none => rfl
    | some spent => exact absurd (balanced.listed axis (by rw [found]; rfl)) unknown

theorem snapshot_eq {budget : RuntimeBudget} (current : p.runtimeBudget = some budget) :
    snapshot p = .ok ⟨copyAxes budget.spent, copyAxes budget.remaining,
      !(exhaustedKeys budget.remaining).isEmpty, exhaustedKeys budget.remaining⟩ := by
  unfold snapshot snapshot.remainingOf
  rw [current]
  rfl

theorem conserved_of_limited (balanced : Balanced p) (limited : Limited p) :
    Conserved p (ensure p) := by
  obtain ⟨budget, current⟩ := Option.isSome_iff_exists.mp limited.known
  have same : ensure p = budget := by rw [ensure, current, Option.getD_some]
  constructor
  · rw [same]
    exact current
  · intro axis limit found
    obtain ⟨left, here⟩ := Option.isSome_iff_exists.mp (limited.every axis limit found)
    obtain ⟨limit', found', -, holds, counted⟩ := balanced.remaining axis left here
    rw [found] at found'
    obtain rfl := Option.some.inj found'
    obtain ⟨spent, there⟩ := Option.isSome_iff_exists.mp counted
    have exactly := balanced.spent axis
    rw [spentOn, there, Option.getD_some] at exactly
    refine ⟨left, spent, here, there, holds.finite, exactly.finite, ?_⟩
    rw [holds.value_eq, exactly.value_eq, sub_add_cancel]
  · exact balanced.spent
  · rw [balanced.flag]
    constructor
    · intro some
      cases keys : exhaustedKeys (ensure p).remaining with
      | nil =>
        rw [keys] at some
        cases some
      | cons axis rest =>
        exact ⟨axis, (mem_exhaustedKeys balanced axis).mp (by rw [keys]; exact mem_cons_self)⟩
    · rintro ⟨axis, out⟩
      have member := (mem_exhaustedKeys balanced axis).mpr out
      cases keys : exhaustedKeys (ensure p).remaining with
      | nil =>
        rw [keys] at member
        cases member
      | cons axis rest => rfl
  · rw [balanced.keys]
    exact ⟨filter_sublist, mem_exhaustedKeys balanced⟩
  · refine ⟨_, snapshot_eq current, ?_⟩
    rw [← same]
    exact ⟨spent_copied balanced, remaining_copied balanced, balanced.flag.symm, balanced.keys.symm⟩

theorem costOn_nonneg (accepted : ∀ entry ∈ cost, Charges entry) (axis : String) :
    0 ≤ costOn cost axis := by
  induction cost with
  | nil => exact le_refl 0
  | cons entry rest ih =>
    obtain ⟨first, later⟩ := forall_mem_cons.mp accepted
    rw [costOn_cons]
    have below := ih later
    split
    · have nonneg := first.nonneg
      linarith
    · linarith

theorem call_grows (p : Packet) (call : Call) (exactly : Exactly p call) (balanced : Balanced p)
    (axis : String) :
    (spentOn (ensure p) axis).value ≤ (spentOn (ensure (machine.after p call)) axis).value := by
  cases call with
  | init =>
    refine init_rule (motive := fun q => _ ≤ (spentOn (ensure q) axis).value) (le_refl _)
      fun limits _ => ?_
    exact le_of_eq (congrArg Number.value (limits_spent limits (ensure p) axis).symm)
  | charge input =>
    refine charge_rule (motive := fun q => _ ≤ (spentOn (ensure q) axis).value) (le_refl _)
      fun plan planned _ => ?_
    obtain ⟨-, cost, -, valid⟩ := chargePlan_facts planned
    have finite (axis : String) := (balanced.spent axis).finite
    have after := charge_spent (exactly plan planned) finite axis
    have nonneg := costOn_nonneg (validateCost_facts valid) axis
    show _ ≤ (spentOn (plan.cost.foldl chargeAxis (ensure p)) axis).value
    rw [after.value_eq]
    linarith
  | elsewhere change apart =>
    show _ ≤ (spentOn (ensure (change p)) axis).value
    rw [(apart p).ensure]

theorem run_grows (later : List Call) : ∀ {p : Packet}, machine.Along Exactly p later →
    Balanced p → ∀ axis,
    (spentOn (ensure p) axis).value ≤ (spentOn (ensure (machine.run p later)) axis).value := by
  induction later with
  | nil =>
    intro p _ _ axis
    exact le_refl _
  | cons call rest ih =>
    intro p along balanced axis
    obtain ⟨exactly, along⟩ := along
    exact le_trans (call_grows p call exactly balanced axis)
      (ih along (call_balanced p call exactly balanced) axis)

section

variable (balanced : Balanced p)
include balanced

theorem mem_missingAxes (accepted : ∀ entry ∈ cost, Charges entry)
    (axis : String) :
    axis ∈ missingAxes (copyAxes (ensure p).remaining) cost ↔ ∃ n left, (axis, n) ∈ cost
      ∧ amount (ensure p).remaining axis = some left ∧ left.value < n.value := by
  unfold missingAxes
  simp only [mem_map, mem_filter, Option.any_eq_true, remaining_copied balanced]
  constructor
  · rintro ⟨⟨key, n⟩, ⟨member, left, found, less⟩, rfl⟩
    obtain ⟨_, -, -, holds, -⟩ := balanced.remaining key left found
    exact ⟨n, left, member, found, (lt_iff_value holds.finite (accepted _ member).finite).mp less⟩
  · rintro ⟨n, left, member, found, less⟩
    obtain ⟨_, -, -, holds, -⟩ := balanced.remaining axis left found
    exact ⟨(axis, n), ⟨member, left, found,
      (lt_iff_value holds.finite (accepted _ member).finite).mpr less⟩, rfl⟩

theorem charge_leaves (planned : chargePlan p input = .ok plan)
    (once : (plan.cost.map Prod.fst).Nodup) (exactly : ChargesExactly (ensure p) plan.cost)
    {n left : Number} (member : (axis, n) ∈ plan.cost)
    (found : amount (ensure p).remaining axis = some left) :
    ∃ left', amount (ensure (charge p input).2).remaining axis = some left'
      ∧ left'.value = left.value - n.value := by
  obtain ⟨_, -, -, holds, -⟩ := balanced.remaining axis left found
  obtain ⟨left', found', after⟩ := charge_remaining exactly axis left found holds.finite
  rw [charge_planned planned (ne_nil_of_mem member)]
  refine ⟨left', found', ?_⟩
  rw [after.value_eq, costOn_of_mem once member]

theorem payable_iff (limited : Limited p) {cost : Value}
    (planned : chargePlan p input = .ok plan)
    (read : (input.orElse .emptyTable).index "cost" = .ok cost) (distinct : cost.keys.Nodup)
    (exactly : ChargesExactly (ensure p) plan.cost) :
    ∃ answer missing, canPay p cost = .ok (answer, missing)
      ∧ (answer = true ↔ ∀ axis left, axis ∈ plan.cost.map Prod.fst →
        amount (ensure (charge p input).2).remaining axis = some left → 0 ≤ left.value) := by
  obtain ⟨-, cost', read', valid⟩ := chargePlan_facts planned
  rw [read] at read'
  obtain rfl := Except.ok.inj read'
  have accepted := validateCost_facts valid
  have once := validateCost_nodup valid distinct
  obtain ⟨budget, current⟩ := Option.isSome_iff_exists.mp limited.known
  have same : ensure p = budget := by rw [ensure, current, Option.getD_some]
  refine ⟨(missingAxes (copyAxes (ensure p).remaining) plan.cost).isEmpty,
    (missingAxes (copyAxes (ensure p).remaining) plan.cost).mergeSort fun a b => decide (a ≤ b),
    ?_, ?_⟩
  · unfold canPay
    simp only [bind_eq_ok, pure_eq_ok]
    exact ⟨plan.cost, valid, _, snapshot_eq current, by rw [same]⟩
  · rw [List.isEmpty_iff, List.eq_nil_iff_forall_not_mem]
    simp only [mem_missingAxes balanced accepted]
    constructor
    · intro enough axis left' charged found'
      obtain ⟨⟨key, n⟩, member, rfl⟩ := mem_map.mp charged
      cases found : amount (ensure p).remaining key with
      | none =>
        -- an axis without a limit has no remainder after the charge either
        rw [charge_planned planned (ne_nil_of_mem member)] at found'
        have none := charge_unlimited plan.cost found
        rw [show amount (plan.cost.foldl chargeAxis (ensure p)).remaining key = some left'
          from found'] at none
        cases none
      | some left =>
        obtain ⟨left'', found'', value⟩ :=
          charge_leaves balanced planned once exactly member found
        rw [found'] at found''
        obtain rfl := Option.some.inj found''
        have above : ¬ left.value < n.value := fun less => enough key ⟨n, left, member, found, less⟩
        rw [value]
        linarith
    · rintro enough axis ⟨n, left, member, found, less⟩
      obtain ⟨left', found', value⟩ := charge_leaves balanced planned once exactly member found
      have above := enough axis left' (mem_map.mpr ⟨_, member, rfl⟩) found'
      rw [value] at above
      linarith

theorem budget_law (limited : Limited p) : BudgetLaw p where
  conserved := ⟨_, conserved_of_limited balanced limited⟩
  grows := fun later along axis => run_grows later along balanced axis
  counted := by
    intro input plan planned nonzero
    rw [charge_planned planned nonzero]
    rfl
  uncounted := by
    refine ⟨?_, ?_⟩
    · intro input zero
      exact charge_rule (motive := fun q => q.revisions.budget = _) rfl fun plan planned nonzero =>
        absurd (zero plan planned) nonzero
    · exact init_rule (motive := fun q => q.revisions.budget = _) rfl fun limits _ => rfl
  payable := fun input plan cost planned read distinct exactly =>
    payable_iff balanced limited planned read distinct exactly
  refused := by
    refine ⟨?_, ?_⟩
    · intro input failed
      rcases charge_cases p input with ⟨-, same⟩ | ⟨plan, planned, ⟨empty, same⟩ | ⟨-, succeeded, -⟩⟩
      · exact same
      · exact same
      · exact absurd succeeded failed
    · intro failed
      refine init_rule (motive := fun q => q = p) rfl fun limits planned => ?_
      have succeeded : (init p).Succeeds := ⟨(), by rw [init, planned, transact_ok]⟩
      exact absurd succeeded failed

end

theorem newborn_unbudgeted {S : Schemas} {counter : Nat} {now : Int} {prompt options : Value}
    (born : Packet.new S counter now prompt options = .ok p) :
    p.runtimeBudget = none := by
  obtain ⟨_, _, _, _, _, _, _, _, _, _, _, birth, -, rfl⟩ := Packet.new_eq born
  rfl

/-- After every run of budget calls in which `budget.init` has succeeded, on a born Packet and
whatever else happens to it, and with exact arithmetic. -/
theorem packet_budget_conserved (S : Schemas) (counter : Nat) (now : Int)
    (prompt options : Value) (p : Packet)
    (born : Packet.new S counter now prompt options = .ok p) (before later : List Call)
    (exactly : machine.Along Exactly p (before ++ .init :: later))
    (initialised : (init (machine.run p before)).Succeeds) :
    BudgetLaw (machine.run p (before ++ .init :: later)) := by
  obtain ⟨along, first, rest⟩ := (machine.along_append before (.init :: later) p).mp exactly
  have balanced : Balanced (machine.run p before) :=
    machine.along_invariant Balanced call_balanced before p along
      (balanced_fresh (newborn_unbudgeted born))
  have started : Balanced (machine.after (machine.run p before) .init)
      ∧ Limited (machine.after (machine.run p before) .init) :=
    ⟨call_balanced _ .init first balanced, init_limited initialised⟩
  rw [machine.run_append, machine.run_cons]
  obtain ⟨balanced', limited⟩ := machine.along_invariant (fun p => Balanced p ∧ Limited p)
    call_limited later _ rest started
  exact budget_law balanced' limited

/-! ## Two runs -/

instance (n : Number) (q : ℚ) : Decidable (n.Exactly q) :=
  decidable_of_iff (n.isFinite = true ∧ n.value = q)
    ⟨fun both => ⟨both.1, both.2⟩, fun exactly => ⟨exactly.finite, exactly.value_eq⟩⟩

def chargesExactly (budget : RuntimeBudget) : Axes → Bool
  | [] => true
  | (axis, n) :: rest =>
    decide ((Number.add (spentOn budget axis) n).Exactly
        ((spentOn budget axis).value + n.value))
      && (amount budget.remaining axis).all (fun left =>
        decide ((Number.sub left n).Exactly (left.value - n.value)))
      && chargesExactly (chargeAxis budget (axis, n)) rest

theorem chargesExactly_sound : ∀ {cost : Axes} {budget : RuntimeBudget},
    chargesExactly budget cost = true → ChargesExactly budget cost := by
  intro cost
  induction cost with
  | nil => intro budget _; trivial
  | cons entry rest ih =>
    intro budget checked
    simp only [chargesExactly, Bool.and_eq_true, decide_eq_true_eq] at checked
    obtain ⟨⟨sum, difference⟩, later⟩ := checked
    refine ⟨sum, ?_, ih later⟩
    intro left found
    rw [found] at difference
    exact of_decide_eq_true difference

def exactly (p : Packet) : Call → Bool
  | .init =>
    match initPlan p with
    | .ok limits => limits.all fun entry =>
      decide ((Number.sub entry.2 (spentOn (ensure p) entry.1)).Exactly
        (entry.2.value - (spentOn (ensure p) entry.1).value))
    | .error _ => true
  | .charge input =>
    match chargePlan p input with
    | .ok plan => chargesExactly (ensure p) plan.cost
    | .error _ => true
  | .elsewhere _ _ => true

theorem exactly_sound {call : Call} (checked : exactly p call = true) :
    Exactly p call := by
  cases call with
  | init =>
    intro limits planned
    rw [exactly, planned] at checked
    intro entry member
    exact of_decide_eq_true (all_eq_true.mp checked entry member)
  | charge input =>
    intro plan planned
    rw [exactly, planned] at checked
    exact chargesExactly_sound checked
  | elsewhere change apart => trivial

def chargeOf (axis : String) (n : Nat) : Value :=
  .record [("cost", .record [(axis, .nat n)])]

theorem packet_budget_conserved_steps :
    ∃ p, Packet.new Packet.refusingSchemas 1 0 (.text "task") .nil = .ok p
      ∧ BudgetLaw (machine.run p [.init, .charge (chargeOf "steps" 4)]) := by
  obtain ⟨p, born, checked⟩ := Packet.task_born_passing
    (fun p => exactly p .init && exactly (machine.after p .init) (.charge (chargeOf "steps" 4))
      && decide ((init p).Succeeds)) (by decide +kernel)
  simp only [Bool.and_eq_true, decide_eq_true_eq] at checked
  obtain ⟨⟨first, second⟩, succeeded⟩ := checked
  exact ⟨p, born, packet_budget_conserved Packet.refusingSchemas 1 0 (.text "task") .nil p born []
    [.charge (chargeOf "steps" 4)] ⟨exactly_sound first, exactly_sound second, trivial⟩ succeeded⟩

def overdraft : List Call := [.init, .charge (chargeOf "steps" 65)]

def paysOverdrawn (q : Packet) : Bool :=
  (match canPay q (.record [("tool_calls", .nat 1)]) with
    | .ok (answer, _) => answer
    | .error _ => false)
    && decide ((charge q (chargeOf "tool_calls" 1)).Succeeds)
    && decide (amount (limitsOf q) "steps" = some (.int 64))
    && decide (amount (ensure (charge q (chargeOf "tool_calls" 1)).2).remaining "steps"
      = some (.int (-1)))

theorem payable_overdrawn :
    ∃ p, Packet.new Packet.refusingSchemas 1 0 (.text "task") .nil = .ok p
      ∧ machine.Along Exactly p (overdraft ++ [.charge (chargeOf "tool_calls" 1)])
      ∧ (init p).Succeeds
      ∧ (∃ missing, canPay (machine.run p overdraft) (.record [("tool_calls", .nat 1)])
        = .ok (true, missing))
      ∧ (charge (machine.run p overdraft) (chargeOf "tool_calls" 1)).Succeeds
      ∧ amount (limitsOf (machine.run p overdraft)) "steps" = some (.int 64)
      ∧ amount (ensure (charge (machine.run p overdraft)
        (chargeOf "tool_calls" 1)).2).remaining "steps" = some (.int (-1)) := by
  obtain ⟨p, born, checked⟩ := Packet.task_born_passing
    (fun p => exactly p .init && exactly (machine.after p .init) (.charge (chargeOf "steps" 65))
      && exactly (machine.run p overdraft) (.charge (chargeOf "tool_calls" 1))
      && decide ((init p).Succeeds) && paysOverdrawn (machine.run p overdraft)) (by decide +kernel)
  simp only [paysOverdrawn, Bool.and_eq_true, decide_eq_true_eq] at checked
  obtain ⟨⟨⟨⟨first, second⟩, third⟩, succeeded⟩, ⟨⟨pays, charged⟩, limit⟩, left⟩ := checked
  refine ⟨p, born, ⟨exactly_sound first, exactly_sound second, exactly_sound third, trivial⟩,
    succeeded, ?_, charged, limit, left⟩
  split at pays
  · rename_i answer missing paid
    rw [pays] at paid
    exact ⟨missing, paid⟩
  · cases pays

end Proc17.Runtime.Budget
