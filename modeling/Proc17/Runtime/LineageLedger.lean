import Mathlib.Data.List.Induction
import Proc17.Core.JsonDecode
import Proc17.Runtime.LineageBudget

/-!
# The lineage ledger

`runtime/lineage_budget.lua`: charges and the reconciliation of a dead Packet, overdraw
allowed.  The events are the ledger: what is spent, what remains and the index of the keys are
read off them.
-/

namespace Proc17.Runtime.LineageBudget

open Lua Core List Number Json

/-! ## Calls -/

/-- The arguments of `charge`. -/
structure Request where
  key : Value
  cost : Value
  sourceRefs : Value
  options : Value

def invalidCorpseBudget : Failure → Failure
  | .refused err => .refused (.str (utf8 "invalid corpse budget: " ++ err.tostring))
  | failure => failure

/-- What `reconcile_packet` charges. -/
def reconcileRequest (corpse : Value) : Except Failure Request :=
  match corpse.get "packet_id" with
  | .str packetId => do
      let finalBudget := (corpse.get "final_budget").orElse .emptyTable
      let spent ← finalBudget.index "spent"
      let normalized ←
        (normalizeAmounts (spent.orElse .emptyTable)).mapError invalidCorpseBudget
      pure
        { key := .str (utf8 "packet:" ++ packetId)
          cost := amountTable normalized
          sourceRefs := .sparse [corpse.get "corpse_id", .str packetId]
          options := .record [("allow_overdraw", .bool true)] }
  | _ => .error (refuse "corpse with packet id is required for budget reconciliation")

def reconcilePacket (s : State) (corpse : Value) : Reply State Event :=
  transact (reconcileRequest corpse) (fun r => charge s r.key r.cost r.sourceRefs r.options) s

inductive LedgerCall where
  | charge (request : Request)
  | reconcilePacket (corpse : Value)

def LedgerCall.request : LedgerCall → Except Failure Request
  | .charge request => .ok request
  | .reconcilePacket corpse => reconcileRequest corpse

/-- The budget with `charge` and `reconcile_packet` as its calls. -/
def ledger : Machine State LedgerCall Event where
  step s
    | .charge r => charge s r.key r.cost r.sourceRefs r.options
    | .reconcilePacket corpse => reconcilePacket s corpse

theorem ledger_step (s : State) (c : LedgerCall) : ledger.step s c
    = transact c.request (fun r => charge s r.key r.cost r.sourceRefs r.options) s := by
  cases c with
  | charge request => rfl
  | reconcilePacket corpse => rfl

/-! ## What an accepted charge does -/

/-- The recorded cost and sources have the text of the ones that are given. -/
structure Repeats (e : Event) (r : Request) : Prop where
  cost : ∃ amounts, normalizeAmounts (r.cost.orElse .emptyTable) = .ok amounts
    ∧ Json.same (amountTable e.cost) (amountTable amounts) = .ok true
  source : Json.same (e.sourceRefs.orElse .emptyTable) (r.sourceRefs.orElse .emptyTable) = .ok true

def Holds (s : State) (key : Bytes) (e : Event) : Prop :=
  ∃ i, s.chargedKeys.lookup key = some i ∧ s.events[i - 1]? = some e

/-- A fresh charge: what is recorded, and the state it leaves. -/
structure Fresh (s : State) (r : Request) (e : Event) (s' : State) : Prop where
  named : e.key ≠ []
  unused : s.chargedKeys.lookup e.key = none
  key : r.key = .str e.key
  cost : normalizeAmounts (r.cost.orElse .emptyTable) = .ok e.cost
  source : e.sourceRefs = (r.sourceRefs.orElse .emptyTable).deepCopy
  charged : withCharge s e.key e.cost e.sourceRefs = (e, s')

variable {r : Request}

theorem againPlan_ok {existing : Event} {plan : Plan} :
    againPlan existing r.cost r.sourceRefs = .ok plan
      ↔ Repeats existing r ∧ plan = .again existing := by
  constructor
  · intro planned
    simp only [againPlan, bind_eq_ok, require_eq_ok, pure_eq_ok] at planned
    obtain ⟨amounts, made, sameCost, costs, ⟨⟩, rfl, sameSource, sources, ⟨⟩, rfl, rfl⟩ := planned
    exact ⟨⟨⟨amounts, made, costs⟩, sources⟩, rfl⟩
  · rintro ⟨⟨⟨amounts, made, costs⟩, sources⟩, rfl⟩
    simp only [againPlan, bind_eq_ok, require_eq_ok, pure_eq_ok]
    exact ⟨amounts, made, true, costs, ⟨⟩, rfl, true, sources, ⟨⟩, rfl, trivial⟩

variable {e : Event} {s : State}

theorem charge_ok
    (charged : (charge s r.key r.cost r.sourceRefs r.options).1 = .ok e) :
    (∃ name, r.key = .str name ∧ Holds s name e ∧ Repeats e r
      ∧ (charge s r.key r.cost r.sourceRefs r.options).2 = s)
    ∨ Fresh s r e (charge s r.key r.cost r.sourceRefs r.options).2 := by
  rcases planned : chargePlan s r.key r.cost r.sourceRefs r.options with failure | plan
  · rw [charge, planned] at charged
    cases charged
  rw [charge, planned, transact_ok] at charged ⊢
  simp only [chargePlan] at planned
  cases keyed : r.key with
  | str name =>
    rw [keyed] at planned
    simp only [bind_eq_ok] at planned
    obtain ⟨⟨⟩, named, planned⟩ := planned
    cases seen : s.chargedKeys.lookup name with
    | some index =>
      rw [seen] at planned
      cases recorded : s.events[index - 1]? with
      | none =>
        simp only [recorded] at planned
        cases planned
      | some existing =>
        simp only [recorded] at planned
        obtain ⟨repeats, rfl⟩ := againPlan_ok.mp planned
        cases charged
        exact Or.inl ⟨name, rfl, ⟨index, seen, recorded⟩, repeats, rfl⟩
    | none =>
      rw [seen] at planned
      simp only [freshPlan, bind_eq_ok] at planned
      obtain ⟨amounts, made, _, -, planned⟩ := planned
      have shape : plan = .fresh name amounts (r.sourceRefs.orElse .emptyTable).deepCopy := by
        split at planned
        · simp only [bind_eq_ok, pure_eq_ok] at planned
          obtain ⟨-, -, rfl⟩ := planned
          rfl
        · cases planned
          rfl
      subst shape
      cases charged
      exact Or.inr ⟨(require_eq_ok _ _ _).mp named, seen, keyed, made, rfl, rfl⟩
  | _ =>
    rw [keyed] at planned
    cases planned

theorem charge_error {failure : Failure}
    (refused : (charge s r.key r.cost r.sourceRefs r.options).1 = .error failure) :
    (charge s r.key r.cost r.sourceRefs r.options).2 = s := by
  rcases planned : chargePlan s r.key r.cost r.sourceRefs r.options with failure' | plan
  · rw [charge, planned]
    rfl
  · rw [charge, planned] at refused
    cases plan with
    | again | fresh => cases refused

theorem charge_again {name : Bytes}
    (key : r.key = .str name) (given : name ≠ []) (holds : Holds s name e) (repeats : Repeats e r) :
    charge s r.key r.cost r.sourceRefs r.options = (.ok e, s) := by
  obtain ⟨index, seen, recorded⟩ := holds
  have planned : chargePlan s r.key r.cost r.sourceRefs r.options = .ok (.again e) := by
    simp only [chargePlan, key, bind_eq_ok, require_eq_ok]
    refine ⟨⟨⟩, given, ?_⟩
    simp only [seen, recorded]
    exact againPlan_ok.mpr ⟨repeats, rfl⟩
  rw [charge, planned]
  rfl

/-! ## The books -/

def charged (events : List Event) (axis : String) : Number :=
  events.foldl (fun sum event => (event.cost.lookup axis).elim sum (Number.add sum)) (.int 0)

theorem charged_append (events : List Event) (event : Event) (axis : String) :
    charged (events ++ [event]) axis
      = (event.cost.lookup axis).elim (charged events axis) (Number.add (charged events axis)) := by
  simp [charged]

/-- Totals, index and derived fields are those of the events. -/
structure Kept (limits : Value) (s : State) : Prop where
  stored : normalizeLimits (limits.orElse .emptyTable) = .ok s.limits
  current : refresh s = s
  spent : ∀ axis, spentOn s.spent axis = charged s.events axis
  recorded : ∀ key i, s.chargedKeys.lookup key = some i →
    0 < i ∧ ∃ e, s.events[i - 1]? = some e ∧ e.key = key
  listed : ∀ (j : Nat) e, s.events[j]? = some e → s.chargedKeys.lookup e.key = some (j + 1)
  named : ∀ e ∈ s.events, e.key ≠ []
  normal : ∀ e ∈ s.events, ∃ input, normalizeAmounts input = .ok e.cost

variable {limits : Value}

theorem kept_new (made : new limits = .ok s) : Kept limits s := by
  simp only [new, bind_eq_ok, pure_eq_ok] at made
  obtain ⟨normalized, stored, rfl⟩ := made
  exact
    { stored := stored
      current := rfl
      spent := fun _ => rfl
      recorded := fun _ _ found => (by cases found)
      listed := fun _ _ found => (by cases found)
      named := forall_mem_nil _
      normal := forall_mem_nil _ }

section
variable {s' : State}

theorem Fresh.facts (fresh : Fresh s r e s') : s'.events = s.events ++ [e]
    ∧ s'.spent = spend s.spent e.cost.entries
    ∧ s'.chargedKeys = s.chargedKeys.insert e.key (s.events.length + 1)
    ∧ s'.limits = s.limits ∧ refresh s' = s' := by
  have event : (withCharge s e.key e.cost e.sourceRefs).1 = e := congrArg Prod.fst fresh.charged
  have left : (withCharge s e.key e.cost e.sourceRefs).2 = s' := congrArg Prod.snd fresh.charged
  rw [← left]
  refine ⟨?_, rfl, rfl, rfl, rfl⟩
  show s.events ++ [(withCharge s e.key e.cost e.sourceRefs).1] = s.events ++ [e]
  rw [event]

theorem Fresh.kept (fresh : Fresh s r e s') (kept : Kept limits s) :
    Kept limits s' := by
  obtain ⟨events, spent, chargedKeys, stored, current⟩ := fresh.facts
  refine ⟨?_, current, ?_, ?_, ?_, ?_, ?_⟩
  · rw [stored]
    exact kept.stored
  · intro axis
    rw [spent, events, spentOn_spend axis _ _ e.cost.nodupKeys, charged_append, kept.spent axis]
    cases found : e.cost.lookup axis with
    | none =>
      have absent : e.cost.entries.dlookup axis = none := found
      rw [absent, Option.elim_none]
    | some n =>
      have present : e.cost.entries.dlookup axis = some n := found
      rw [present, Option.elim_some]
  · intro key i found
    rw [chargedKeys] at found
    rw [events]
    by_cases same : key = e.key
    · rw [same, AList.lookup_insert] at found
      cases found
      refine ⟨Nat.succ_pos _, e, ?_, same.symm⟩
      rw [Nat.add_sub_cancel, List.getElem?_append_right (Nat.le_refl _), Nat.sub_self]
      rfl
    · rw [AList.lookup_insert_ne same] at found
      obtain ⟨positive, existing, recorded, named⟩ := kept.recorded key i found
      refine ⟨positive, existing, ?_, named⟩
      exact List.getElem?_append_left (List.getElem?_eq_some_iff.mp recorded).1 ▸ recorded
  · intro j existing found
    rw [events] at found
    rw [chargedKeys]
    rcases Nat.lt_or_ge j s.events.length with before | after
    · rw [List.getElem?_append_left before] at found
      have seen := kept.listed j existing found
      have other : existing.key ≠ e.key := by
        intro same
        rw [same, fresh.unused] at seen
        cases seen
      rw [AList.lookup_insert_ne other, seen]
    · rw [List.getElem?_append_right after] at found
      have last : j - s.events.length = 0 := by
        have bound := (List.getElem?_eq_some_iff.mp found).1
        rw [length_singleton] at bound
        omega
      rw [last] at found
      cases found
      rw [AList.lookup_insert]
      congr 1
      omega
  · intro existing inside
    rw [events, mem_append, mem_singleton] at inside
    rcases inside with before | rfl
    · exact kept.named existing before
    · exact fresh.named
  · intro existing inside
    rw [events, mem_append, mem_singleton] at inside
    rcases inside with before | rfl
    · exact kept.normal existing before
    · exact ⟨_, fresh.cost⟩

end

theorem after_cases (s : State) (c : LedgerCall) : ledger.after s c = s
    ∨ ∃ r e, c.request = .ok r ∧ (ledger.step s c).1 = .ok e ∧ Fresh s r e (ledger.after s c) := by
  show (ledger.step s c).2 = s ∨ ∃ r e, c.request = .ok r ∧ (ledger.step s c).1 = .ok e
    ∧ Fresh s r e (ledger.step s c).2
  rw [ledger_step]
  cases requested : c.request with
  | error failure => exact Or.inl rfl
  | ok r =>
    rw [transact_ok]
    cases answer : (charge s r.key r.cost r.sourceRefs r.options).1 with
    | error failure => exact Or.inl (charge_error answer)
    | ok e =>
      rcases charge_ok answer with ⟨-, -, -, -, same⟩ | fresh
      · exact Or.inl same
      · exact Or.inr ⟨r, e, rfl, rfl, fresh⟩

theorem kept_after (s : State) (c : LedgerCall) (kept : Kept limits s) :
    Kept limits (ledger.after s c) := by
  rcases after_cases s c with same | ⟨r, e, -, -, fresh⟩
  · rw [same]
    exact kept
  · exact fresh.kept kept

theorem events_prefix (calls : List LedgerCall) : ∀ s : State,
    s.events <+: (ledger.run s calls).events := by
  induction calls with
  | nil => intro s; exact prefix_refl _
  | cons c rest ih =>
    intro s
    rw [Machine.run_cons]
    refine List.IsPrefix.trans ?_ (ih _)
    rcases after_cases s c with same | ⟨r, e, -, -, fresh⟩
    · exact same.symm ▸ prefix_refl s.events
    · rw [fresh.facts.1]
      exact prefix_append _ _

theorem Kept.holds (kept : Kept limits s) (inside : e ∈ s.events) :
    Holds s e.key e := by
  obtain ⟨j, found⟩ := mem_iff_getElem?.mp inside
  exact ⟨j + 1, kept.listed j e found, by rw [Nat.add_sub_cancel, found]⟩

theorem Kept.holds_unique (kept : Kept limits s) {key : Bytes} (holds : Holds s key e) :
    e ∈ s.events ∧ e.key = key := by
  obtain ⟨i, seen, recorded⟩ := holds
  obtain ⟨-, e', recorded', named⟩ := kept.recorded key i seen
  rw [recorded] at recorded'
  cases recorded'
  exact ⟨mem_of_getElem? recorded, named⟩

theorem holds_same {key : Bytes} {e e' : Event} (left : Holds s key e) (right : Holds s key e') :
    e = e' := by
  obtain ⟨i, seen, recorded⟩ := left
  obtain ⟨i', seen', recorded'⟩ := right
  rw [seen] at seen'
  cases seen'
  rw [recorded] at recorded'
  exact Option.some.inj recorded'

theorem Kept.once (kept : Kept limits s) : (s.events.map Event.key).Nodup := by
  rw [nodup_iff_injective_get]
  intro i j same
  rw [get_eq_getElem, get_eq_getElem, getElem_map, getElem_map] at same
  have left := kept.listed i _ (List.getElem?_eq_getElem (by simpa using i.isLt))
  have right := kept.listed j _ (List.getElem?_eq_getElem (by simpa using j.isLt))
  rw [same, right] at left
  exact Fin.ext (Nat.succ.inj (Option.some.inj left)).symm

/-! ## Exact sums -/

/-- Every recorded amount was added without wrapping around or rounding. -/
def AddedExactly (events : List Event) (axis : String) : Prop :=
  ∀ before event after n, events = before ++ event :: after → event.cost.lookup axis = some n →
    (Number.add (charged before axis) n).Exactly ((charged before axis).value + n.value)

theorem charged_exactly (axis : String) (events : List Event) (added : AddedExactly events axis) :
    (charged events axis).Exactly (total events axis) := by
  induction events using List.reverseRecOn with
  | nil => exact ⟨rfl, value_int 0⟩
  | append_singleton events event ih =>
    have earlier : AddedExactly events axis := by
      intro before event' after n split found
      refine added before event' (after ++ [event]) n ?_ found
      rw [split, append_assoc, cons_append]
    have sum := ih earlier
    rw [charged_append, total_append]
    cases found : event.cost.lookup axis with
    | none =>
      rw [Option.elim_none, Option.elim_none, add_zero]
      exact sum
    | some n =>
      rw [Option.elim_some, Option.elim_some, ← sum.value_eq]
      exact added events event [] n rfl found

theorem charged_whole (axis : String) (events : List Event)
    (whole : ∀ e ∈ events, ∀ n, e.cost.lookup axis = some n → ∃ i : Int, n = .int i ∧ 0 ≤ i)
    (most : total events axis < 2 ^ 63) :
    ∃ i : Int, charged events axis = .int i ∧ 0 ≤ i ∧ total events axis = i := by
  induction events using List.reverseRecOn with
  | nil => exact ⟨0, rfl, Int.le_refl 0, rfl⟩
  | append_singleton events event ih =>
    have earlier : ∀ e ∈ events, ∀ n, e.cost.lookup axis = some n → ∃ i : Int, n = .int i ∧ 0 ≤ i :=
      fun e inside => whole e (mem_append_left _ inside)
    rw [total_append] at most ⊢
    rw [charged_append]
    cases found : event.cost.lookup axis with
    | none =>
      rw [found, Option.elim_none, add_zero] at most
      rw [Option.elim_none, Option.elim_none, add_zero]
      exact ih earlier most
    | some n =>
      obtain ⟨i, rfl, positive⟩ := whole event (mem_append_right _ mem_cons_self) n found
      rw [found, Option.elim_some, value_int] at most
      have rational : (0 : ℚ) ≤ i := by exact_mod_cast positive
      obtain ⟨sum, same, least, value⟩ := ih earlier (by linarith)
      rw [Option.elim_some, Option.elim_some, same, value, value_int]
      rw [value] at most
      have fits : sum + i < 2 ^ 63 := by exact_mod_cast most
      refine ⟨sum + i, ?_, by omega, by push_cast; rfl⟩
      show Number.int (Number.wrap (sum + i)) = _
      rw [wrap_eq (by omega) fits]

/-! ## Repeated charges -/

theorem amountTable_eq (amounts : Amounts) : amountTable amounts
    = .table Tag.plain (amounts.entries.map fun entry => (.text entry.1, .num entry.2)) := by
  rw [amountTable, Value.record]
  generalize amounts.entries = entries
  congr 1
  induction entries with
  | nil => rfl
  | cons entry rest ih =>
    rw [map_cons, map_cons, Value.fields, if_neg (fun absent => by cases absent), ih]

theorem get_amountTable_absent {amounts : Amounts} {axis : String}
    (absent : amounts.lookup axis = none) : (amountTable amounts).get axis = .nil := by
  apply Value.get_record_absent
  intro field inside same
  obtain ⟨⟨axis', n⟩, stored, rfl⟩ := mem_map.mp inside
  have found := (Dictionary.mem_entries_iff amounts axis' n).mp stored
  rw [show axis' = axis from same, absent] at found
  cases found

def Whole (amounts : Amounts) : Prop :=
  ∀ axis n, amounts.lookup axis = some n → ∃ i : Int, n = .int i ∧ -2 ^ 63 ≤ i ∧ i < 2 ^ 63

theorem Whole.plain {amounts : Amounts} (whole : Whole amounts) :
    Json.Plain (amountTable amounts) := by
  rw [amountTable_eq]
  refine .dictionary ?_ ?_ ?_
  · intro entry inside
    obtain ⟨given, -, rfl⟩ := mem_map.mp inside
    exact ⟨_, rfl⟩
  · rw [map_map]
    have distinct := nodupKeys_iff_pairwise.mp amounts.nodupKeys
    refine pairwise_map.mpr (distinct.imp ?_)
    intro left right apart same
    exact apart ((utf8_inj _ _).mp (Value.str.inj same))
  · intro entry inside
    obtain ⟨⟨axis, n⟩, stored, rfl⟩ := mem_map.mp inside
    obtain ⟨i, rfl, least, most⟩ := whole axis n ((Dictionary.mem_entries_iff amounts axis n).mp stored)
    exact .int least most

theorem alike_of_same {u v : Value} (left : Json.Plain u) (right : Json.Plain v)
    (same : Json.same u v = .ok true) : Json.Alike u v := by
  simp only [Json.same, bind_eq_ok, pure_eq_ok, decide_eq_true_eq] at same
  obtain ⟨text, written, text', written', rfl⟩ := same
  exact alike_of_encode left right written written'

theorem lookup_of_same {left right : Amounts} (whole : Whole left) (whole' : Whole right)
    (same : Json.same (amountTable left) (amountTable right) = .ok true) (axis : String) :
    left.lookup axis = right.lookup axis := by
  have alike := alike_of_same whole.plain whole'.plain same
  have entry : Json.Alike ((amountTable left).get axis) ((amountTable right).get axis) := by
    rw [amountTable_eq, amountTable_eq] at alike ⊢
    cases alike with
    | table each => exact each _
  cases found : left.lookup axis with
  | none =>
    rw [get_amountTable_absent found] at entry
    cases found' : right.lookup axis with
    | none => rfl
    | some n =>
      rw [get_amountTable found'] at entry
      cases entry
  | some n =>
    rw [get_amountTable found] at entry
    cases found' : right.lookup axis with
    | none =>
      rw [get_amountTable_absent found'] at entry
      cases entry
    | some m =>
      rw [get_amountTable found'] at entry
      cases entry
      rfl

theorem encodes_amountTable (amounts : Amounts) : Json.Encodes (amountTable amounts) := by
  apply encodes_record
  intro field inside
  obtain ⟨entry, -, rfl⟩ := mem_map.mp inside
  exact encodes_num _

theorem deepCopy_orElse (v : Value) :
    (v.orElse .emptyTable).deepCopy.orElse .emptyTable = (v.orElse .emptyTable).deepCopy := by
  cases v with
  | bool b => cases b <;> rfl
  | _ => rfl

theorem Fresh.repeats {s s' : State} (fresh : Fresh s r e s')
    (encodes : Json.Encodes (r.sourceRefs.orElse .emptyTable)) : Repeats e r := by
  refine ⟨⟨e.cost, fresh.cost, same_self (encodes_amountTable _)⟩, ?_⟩
  rw [fresh.source, deepCopy_orElse]
  have copied := same_self encodes
  rw [Json.same] at copied ⊢
  rwa [encode_deepCopy]

/-! ## The law of the ledger -/

/-- What the events say of the totals, the keys and what remains. -/
structure LedgerLaw (limits : Value) (s : State) : Prop where
  spent : ∀ axis, spentOn s.spent axis = charged s.events axis
  added : ∀ axis, AddedExactly s.events axis →
    (spentOn s.spent axis).Exactly (total s.events axis)
  whole : ∀ axis, (∀ e ∈ s.events, ∀ n, e.cost.lookup axis = some n → ∃ i : Int, n = .int i) →
    total s.events axis < 2 ^ 63 → (spentOn s.spent axis).Exactly (total s.events axis)
  once : (s.events.map Event.key).Nodup
  remaining : ∀ axis limit, limits.get axis = .num limit → Number.eq limit (.int 0) = false →
    s.remaining.lookup axis = some (.finite (Number.sub limit (spentOn s.spent axis)))
  exhausted : ∀ axis, axis ∈ s.exhaustedKeys
    ↔ ∃ n, s.remaining.lookup axis = some (.finite n) ∧ Number.le n (.int 0) = true
  ordered : s.exhaustedKeys.Sublist axes

theorem lookup_map_absent {β : Type} (f : String → β) {axis : String} {keys : List String}
    (absent : axis ∉ keys) : (keys.map fun axis => (axis, f axis)).lookup axis = none := by
  induction keys with
  | nil => rfl
  | cons first rest ih =>
    rw [mem_cons, not_or] at absent
    obtain ⟨apart, later⟩ := absent
    rw [map_cons, lookup_cons, beq_eq_false_iff_ne.mpr apart]
    exact ih later

theorem Limit.isExhausted_iff (limit : Limit) :
    limit.isExhausted = true ↔ ∃ n, limit = .finite n ∧ Number.le n (.int 0) = true := by
  cases limit with
  | unlimited => exact ⟨(fun low => nomatch low), (fun ⟨_, same, _⟩ => nomatch same)⟩
  | finite n =>
    constructor
    · intro low
      exact ⟨n, rfl, low⟩
    · rintro ⟨m, same, low⟩
      cases same
      exact low

theorem Kept.law (kept : Kept limits s) : LedgerLaw limits s := by
  have remaining : s.remaining = axes.map fun axis => (axis, remainingOn s.limits s.spent axis) :=
    congrArg State.remaining kept.current.symm
  have exhaustedKeys : s.exhaustedKeys
      = axes.filter fun axis => (remainingOn s.limits s.spent axis).isExhausted :=
    congrArg State.exhaustedKeys kept.current.symm
  refine ⟨kept.spent, ?_, ?_, kept.once, ?_, ?_, ?_⟩
  · intro axis added
    rw [kept.spent]
    exact charged_exactly axis s.events added
  · intro axis whole most
    rw [kept.spent]
    have amounts : ∀ e ∈ s.events, ∀ n, e.cost.lookup axis = some n → ∃ i : Int, n = .int i ∧ 0 ≤ i := by
      intro e inside n found
      obtain ⟨i, rfl⟩ := whole e inside n found
      obtain ⟨input, normal⟩ := kept.normal e inside
      have positive := (amounts_facts normal found).2.2.1
      rw [value_int] at positive
      exact ⟨i, rfl, by exact_mod_cast positive⟩
    obtain ⟨sum, same, -, value⟩ := charged_whole axis s.events amounts most
    rw [same, value]
    exact ⟨rfl, value_int sum⟩
  · intro axis limit given nonzero
    have found := lookup_remaining kept.stored given nonzero
    rwa [kept.current] at found
  · intro axis
    rw [exhaustedKeys, mem_filter, Limit.isExhausted_iff, remaining]
    by_cases listed : axis ∈ axes
    · rw [lookup_map_self _ listed]
      simp only [listed, true_and, Option.some.injEq]
    · rw [lookup_map_absent _ listed]
      simp only [listed, false_and, false_iff]
      rintro ⟨n, found, -⟩
      cases found
  · rw [exhaustedKeys]
    exact filter_sublist

/-- An event is answered again for its own cost and sources only. -/
structure SameCharged (e : Event) (r : Request) : Prop where
  cost : ∀ amounts, normalizeAmounts (r.cost.orElse .emptyTable) = .ok amounts → Whole e.cost →
    Whole amounts → ∀ axis, e.cost.lookup axis = amounts.lookup axis
  source : Json.Plain (e.sourceRefs.orElse .emptyTable) → Json.Plain (r.sourceRefs.orElse .emptyTable) →
    Json.Alike (e.sourceRefs.orElse .emptyTable) (r.sourceRefs.orElse .emptyTable)

theorem Repeats.sameCharged (repeats : Repeats e r) : SameCharged e r := by
  refine ⟨?_, fun left right => alike_of_same left right repeats.source⟩
  intro amounts made whole whole' axis
  obtain ⟨amounts', made', same⟩ := repeats.cost
  rw [made] at made'
  cases made'
  exact lookup_of_same whole whole' same axis

structure Answered (s : State) (r : Request) (e : Event) (s' : State) : Prop where
  key : r.key = .str e.key
  used : ∀ existing ∈ s.events, existing.key = e.key →
    e = existing ∧ s' = s ∧ Repeats existing r ∧ SameCharged existing r
  unused : (∀ existing ∈ s.events, existing.key ≠ e.key) → s'.events = s.events ++ [e]
    ∧ normalizeAmounts (r.cost.orElse .emptyTable) = .ok e.cost
    ∧ e.sourceRefs = (r.sourceRefs.orElse .emptyTable).deepCopy

theorem Kept.answered (kept : Kept limits s)
    (answer : (charge s r.key r.cost r.sourceRefs r.options).1 = .ok e) :
    Answered s r e (charge s r.key r.cost r.sourceRefs r.options).2 := by
  rcases charge_ok answer with ⟨name, key, holds, repeats, same⟩ | fresh
  · obtain ⟨inside, rfl⟩ := kept.holds_unique holds
    refine ⟨key, ?_, fun absent => absurd rfl (absent e inside)⟩
    intro existing recorded named
    have held := kept.holds recorded
    rw [named] at held
    obtain rfl := holds_same holds held
    exact ⟨rfl, same, repeats, repeats.sameCharged⟩
  · refine ⟨fresh.key, ?_, fun _ => ⟨fresh.facts.1, fresh.cost, fresh.source⟩⟩
    intro existing recorded named
    obtain ⟨i, seen, -⟩ := kept.holds recorded
    rw [named, fresh.unused] at seen
    cases seen

/-- The two calls charge the same cost from the same sources under one key. -/
def SameCall (c c' : LedgerCall) : Prop :=
  ∃ r r', c.request = .ok r ∧ c'.request = .ok r' ∧ r'.key = r.key ∧ r'.cost = r.cost
    ∧ r'.sourceRefs = r.sourceRefs

def LedgerCall.HasText (c : LedgerCall) : Prop :=
  ∀ r, c.request = .ok r → Json.Encodes (r.sourceRefs.orElse .emptyTable)

theorem Kept.recorded_of_answer (kept : Kept limits s)
    {c : LedgerCall} (requested : c.request = .ok r)
    (answer : (ledger.step s c).1 = .ok e) (text : c.HasText) :
    e ∈ (ledger.after s c).events ∧ r.key = .str e.key ∧ e.key ≠ [] ∧ Repeats e r := by
  have after : ledger.after s c = (ledger.step s c).2 := rfl
  rw [after]
  rw [ledger_step, requested, transact_ok] at answer ⊢
  rcases charge_ok answer with ⟨name, key, holds, repeats, same⟩ | fresh
  · obtain ⟨inside, rfl⟩ := kept.holds_unique holds
    rw [same]
    exact ⟨inside, key, kept.named e inside, repeats⟩
  · rw [fresh.facts.1]
    exact ⟨mem_append_right _ mem_cons_self, fresh.key, fresh.named,
      fresh.repeats (text r requested)⟩

/-- After every run of charges and reconciliations the books agree with the events; a repeated
charge is answered with its event, a key used for something else is refused. -/
theorem ledger_accounts (limits : Value) (s : State) (made : new limits = .ok s)
    (calls : List LedgerCall) :
    LedgerLaw limits (ledger.run s calls)
    ∧ (∀ c, ¬ (ledger.step (ledger.run s calls) c).Succeeds →
      ledger.after (ledger.run s calls) c = ledger.run s calls)
    ∧ (∀ c r e, c.request = .ok r → (ledger.step (ledger.run s calls) c).1 = .ok e →
      Answered (ledger.run s calls) r e (ledger.after (ledger.run s calls) c))
    ∧ ∀ before c after c' e, calls = before ++ c :: after → SameCall c c' → c.HasText →
      (ledger.step (ledger.run s before) c).1 = .ok e →
      ledger.step (ledger.run s calls) c' = (.ok e, ledger.run s calls) := by
  have keeps : ∀ calls, Kept limits (ledger.run s calls) :=
    fun calls => ledger.run_invariant (Kept limits) kept_after calls s (kept_new made)
  refine ⟨(keeps calls).law, ?_, ?_, ?_⟩
  · intro c fails
    rcases after_cases (ledger.run s calls) c with same | ⟨r, e, -, answer, -⟩
    · exact same
    · exact absurd ⟨e, answer⟩ fails
  · intro c r e requested answer
    have shaped : ledger.after (ledger.run s calls) c = (ledger.step (ledger.run s calls) c).2 := rfl
    rw [shaped]
    rw [ledger_step, requested, transact_ok] at answer ⊢
    exact (keeps calls).answered answer
  · rintro before c after c' e rfl ⟨r, r', requested, requested', key, cost, source⟩ text answer
    obtain ⟨inside, named, given, repeats⟩ :=
      (keeps before).recorded_of_answer requested answer text
    have later : e ∈ (ledger.run s (before ++ c :: after)).events := by
      rw [Machine.run_append, Machine.run_cons]
      exact ( events_prefix after _).subset inside
    have holds := (keeps _).holds later
    rw [ledger_step, requested', transact_ok]
    refine charge_again (key.trans named) given holds ?_
    refine ⟨?_, ?_⟩
    · rw [cost]
      exact repeats.cost
    · rw [source]
      exact repeats.source

def chargeOf (axis : String) (amount : Number) (sourceRefs : Value) : LedgerCall :=
  .charge
    { key := .text "generation:1"
      cost := .record [(axis, .num amount)]
      sourceRefs := sourceRefs
      options := .nil }

theorem ledger_accounts_steps : ∃ s e, new (.record [("steps", .nat 10)]) = .ok s
    ∧ LedgerLaw (.record [("steps", .nat 10)])
      (ledger.run s [chargeOf "steps" (.int 4) .nil])
    ∧ ledger.step (ledger.run s [chargeOf "steps" (.int 4) .nil]) (chargeOf "steps" (.int 4) .nil)
      = (.ok e, ledger.run s [chargeOf "steps" (.int 4) .nil]) := by
  have ten : ∃ s, new (.record [("steps", .nat 10)]) = .ok s
      ∧ ∃ e, (ledger.step s (chargeOf "steps" (.int 4) .nil)).1 = .ok e := ⟨_, rfl, _, rfl⟩
  obtain ⟨s, made, e, answer⟩ := ten
  obtain ⟨law, -, -, again⟩ := ledger_accounts (.record [("steps", .nat 10)]) s made
    [chargeOf "steps" (.int 4) .nil]
  refine ⟨s, e, made, law, ?_⟩
  refine again [] (chargeOf "steps" (.int 4) .nil) [] _ e rfl ⟨_, _, rfl, rfl, rfl, rfl, rfl⟩ ?_ answer
  intro r requested
  cases requested
  exact ⟨_, rfl⟩

/-- 0.1 and the next double have one text, so that the key is reused with a different cost; and
sources that hold a function are charged, yet the same charge cannot be repeated. -/
theorem reused_different : ∃ s, new .emptyTable = .ok s
    ∧ (let tenth := Number.float (Dyadic.ofIntWithPrec 3602879701896397 55)
       let next := Number.float (Dyadic.ofIntWithPrec 7205759403792795 56)
       tenth ≠ next ∧ (ledger.step s (chargeOf "time_ms" tenth .nil)).Succeeds
        ∧ (ledger.step (ledger.run s [chargeOf "time_ms" tenth .nil])
          (chargeOf "time_ms" next .nil)).Succeeds)
    ∧ (let sourceRefs := Value.array [.ref .function 0]
       (ledger.step s (chargeOf "steps" (.int 4) sourceRefs)).Succeeds
        ∧ ¬ (ledger.step (ledger.run s [chargeOf "steps" (.int 4) sourceRefs])
          (chargeOf "steps" (.int 4) sourceRefs)).Succeeds) := by
  refine ⟨_, rfl, ⟨?_, ?_, ?_⟩, ?_, ?_⟩ <;> decide +kernel

end Proc17.Runtime.LineageBudget
