import Proc17.Runtime.Router.Harmless

/-!
# Normalising a prediction

How the tree authority fails after a snapshot, and what `normalize_tree_eligibility`
keeps of a prediction: its kind, its target and the candidate it selects.
-/

namespace Proc17.Runtime.Router

open Lua List Value
open Core

/-! ## Errors of the tree authority -/

theorem thrown_setField (v : Value) (name : String) (value : Value) :
    OnError Thrown (v.setField name value) := by
  cases v with
  | table tag entries => exact .ok _
  | _ => exact .error (by rintro err ⟨⟩)

theorem thrown_selectedCandidate (prediction : Value) :
    OnError Thrown (selectedCandidate prediction) := by
  have scan : ∀ target (items : List Value) k, OnError Thrown (candidateFrom target k items) := by
    intro target items
    induction items with
    | nil => exact fun _ => .ok _
    | cons candidate rest ih =>
      intro k
      unfold candidateFrom
      exact .bind (thrown_index _ _) fun reached => .ite (.ok _) (ih _)
  unfold selectedCandidate
  refine .bind (thrown_index _ _) fun candidates => .bind (thrown_ipairs _) fun items => ?_
  exact .bind (thrown_index _ _) fun target => .bind (scan _ _ _) fun found => .ok _

theorem thrown_selectedPlanId (selected : Option (Nat × Value)) :
    OnError Thrown (selectedPlanId selected) := by
  cases selected with
  | none => exact .ok _
  | some entry =>
    obtain ⟨place, candidate⟩ := entry
    unfold selectedPlanId
    exact .bind (thrown_index _ _) fun plan => .bind (thrown_fieldOf _ _) fun id => .ok _

theorem thrown_writeEligibility (target : Value) (eligibility : Eligibility) :
    OnError Thrown (writeEligibility target eligibility) := by
  unfold writeEligibility
  exact .bind (thrown_setField _ _ _) fun a => .bind (thrown_setField _ _ _) fun b =>
    thrown_setField _ _ _

theorem thrown_normalizeTreeEligibility (snapshot prediction : Value) :
    OnError Thrown (normalizeTreeEligibility snapshot prediction) := by
  unfold normalizeTreeEligibility
  refine .bind (thrown_selectedCandidate _) fun selected => .bind (thrown_index _ _) fun kind => ?_
  refine .ite ?_ (.ite ?_ ?_)
  · unfold normalizeBinary
    cases selected with
    | none => exact thrown_writeEligibility _ _
    | some entry =>
      refine .bind (thrown_writeEligibility _ _) fun candidate => ?_
      refine .bind ?_ fun written => thrown_writeEligibility _ _
      unfold writeCandidate
      split
      · exact thrown_setField _ _ _
      · exact .error (by rintro err ⟨⟩)
  · split
    · exact thrown_writeEligibility _ _
    · exact thrown_writeEligibility _ _
  · split
    · exact thrown_writeEligibility _ _
    · exact .ok _

theorem thrown_treeOutcome (snapshot prediction : Value) (derivation : Event) :
    OnError Thrown (treeOutcome snapshot prediction derivation) := by
  unfold treeOutcome
  refine .bind (thrown_setField _ _ _) fun a => .bind (thrown_setField _ _ _) fun b => ?_
  refine .bind (thrown_setField _ _ _) fun c => .bind (thrown_setField _ _ _) fun d => ?_
  exact thrown_setField _ _ _

theorem thrown_appendTrace {i : Instance} (now : Int) {type : EventType}
    (told : telling type = true) {operator : Value} (payload lane : Value)
    (acting : Acting i.packet operator) :
    OnError Thrown (i.appendTrace now (routerEvent type operator payload lane)).1 := by
  rcases tracePlan_router i.packet type told operator payload lane with
    ⟨planned, -⟩ | ⟨-, idle⟩
  · unfold Instance.appendTrace Packet.appendTrace
    rw [planned, transact_ok]
    unfold Packet.emit Packet.emitThen
    have thrown := Packet.storedEvent_unrefused i.packet now
      (Draft.ofTable (routerEvent type operator payload lane))
    intro failure failed
    cases stored : i.packet.storedEvent now
        (Draft.ofTable (routerEvent type operator payload lane)) with
    | error other =>
      rw [stored] at failed
      cases failed
      exact thrown failure stored
    | ok event => rw [stored] at failed; cases failed
  · exact absurd acting idle

theorem thrown_recordDerivation {i : Instance} (now : Int) {snapshot prediction : Value}
    (acting : Acting i.packet (snapshot.get "current_operator")) :
    OnError Thrown (recordDerivation i now snapshot prediction).1 := by
  have planned : OnError Thrown (derivationPlan snapshot prediction) :=
    .bind (thrown_selectedCandidate _) fun selected =>
      .bind (thrown_selectedPlanId _) fun planId => .ok _
  unfold recordDerivation
  rcases transact_cases (derivationPlan snapshot prediction)
      (fun payload => i.appendTrace now
        (routerEvent .routeDerivation (snapshot.get "current_operator") payload .nil)) i with
    ⟨failure, failed, result⟩ | ⟨payload, -, result⟩
  · rw [result]
    exact .error (planned failure failed)
  · rw [result]
    exact thrown_appendTrace now rfl payload .nil acting

/-! ## What normalising leaves -/

/-- The fields that `write_eligibility` writes. -/
def eligibilityFields : List String :=
  ["promotion_eligible", "promotion_ineligibility_reasons", "promotion_eligibility_basis"]

theorem writeEligibility_ok {target written : Value} {eligibility : Eligibility}
    (wrote : writeEligibility target eligibility = .ok written) :
    target.isTable = true ∧ written.isTable = true
      ∧ ∀ name, name ∉ eligibilityFields → written.get name = target.get name := by
  unfold writeEligibility at wrote
  simp only [bind_eq_ok] at wrote
  obtain ⟨a, first, b, second, third⟩ := wrote
  refine ⟨?_, isTable_of_setField third, ?_⟩
  · cases target with
    | table tag entries => rfl
    | _ => cases first
  · intro name other
    simp only [eligibilityFields, mem_cons, not_mem_nil, or_false, not_or] at other
    rw [get_of_setField_other (Ne.symm other.2.2) third,
      get_of_setField_other (Ne.symm other.2.1) second,
      get_of_setField_other (Ne.symm other.1) first]

theorem selectedCandidate_congr {v w : Value} (left : v.isTable = true) (right : w.isTable = true)
    (candidates : v.get "candidates" = w.get "candidates") (target : v.get "to" = w.get "to") :
    selectedCandidate v = selectedCandidate w := by
  unfold selectedCandidate
  rw [index_eq_get left, index_eq_get left, index_eq_get right,
    index_eq_get right, candidates, target]

/-! ## Rewriting an item of a list -/

section Rewriting

variable {entries : List (Value × Value)} {place : Nat} {item : Value}

theorem eq_nat_unique {key : Value} {j k : Nat} (first : key.eq (.nat j) = true)
    (second : key.eq (.nat k) = true) : j = k := by
  cases key with
  | num n =>
    have same : Number.eq (.int j) (.int k) = true := Number.eq_euclidean first second
    simpa [Number.eq] using same
  | _ => cases first

theorem lookup_assign_place (present : item ≠ .nil) (j : Nat) :
    Value.lookup (Value.assign entries (.nat place) item) (.nat j)
      = if j = place then item else Value.lookup entries (.nat j) := by
  induction entries with
  | nil => simp [Value.assign, present, Value.lookup, eq_nat, eq_comm]
  | cons entry rest ih =>
    obtain ⟨key, bound⟩ := entry
    by_cases here : key.eq (.nat place) = true
    · rw [Value.assign, if_pos here, if_neg present]
      by_cases same : j = place
      · simp [Value.lookup, here, same]
      · have other : ¬ key.eq (.nat j) = true := fun also => same (eq_nat_unique also here)
        simp [Value.lookup, other, same]
    · rw [Value.assign, if_neg here]
      by_cases asked : key.eq (.nat j) = true
      · have same : j ≠ place := by
          rintro rfl
          exact here asked
        simp [Value.lookup, asked, same]
      · rw [Value.lookup, if_neg asked, ih, Value.lookup, if_neg asked]

theorem length_assign_place (present : item ≠ .nil)
    (bound : Value.lookup entries (.nat place) ≠ .nil) :
    (Value.assign entries (.nat place) item).length = entries.length := by
  induction entries with
  | nil => exact absurd rfl bound
  | cons entry rest ih =>
    obtain ⟨key, old⟩ := entry
    by_cases here : key.eq (.nat place) = true
    · simp [Value.assign, here, present]
    · rw [Value.lookup, if_neg here] at bound
      rw [Value.assign, if_neg here, length_cons, ih bound, length_cons]

theorem itemsFrom_assign_place (present : item ≠ .nil)
    (bound : Value.lookup entries (.nat place) ≠ .nil) : ∀ fuel i : Nat,
    Value.itemsFrom (Value.assign entries (.nat place) item) fuel i
      = if i ≤ place then (Value.itemsFrom entries fuel i).set (place - i) item
        else Value.itemsFrom entries fuel i := by
  intro fuel
  induction fuel with
  | zero => intro i; simp [Value.itemsFrom]
  | succ fuel ih =>
    intro i
    simp only [Value.itemsFrom, lookup_assign_place present, ih]
    rcases Nat.lt_trichotomy i place with below | rfl | above
    · have step : place - i = place - (i + 1) + 1 := by omega
      rw [if_neg (by omega), if_pos (by omega), if_pos (by omega), step]
      cases Value.lookup entries (.nat i) <;> rfl
    · rw [if_pos rfl, if_neg (by omega), if_pos (Nat.le_refl i), Nat.sub_self]
      cases found : Value.lookup entries (.nat i) with
      | nil => exact absurd found bound
      | _ => cases item <;> first | exact absurd rfl present | rfl
    · rw [if_neg (by omega), if_neg (by omega), if_neg (by omega)]

end Rewriting

theorem itemsFrom_getElem (entries : List (Value × Value)) : ∀ (fuel i j : Nat) (item : Value),
    (Value.itemsFrom entries fuel i)[j]? = some item →
      Value.lookup entries (.nat (i + j)) = item ∧ item ≠ .nil := by
  intro fuel
  induction fuel with
  | zero => intro i j item there; cases there
  | succ fuel ih =>
    intro i j item there
    rw [Value.itemsFrom] at there
    split at there
    · cases there
    · rename_i present
      cases j with
      | zero =>
        simp only [List.getElem?_cons_zero, Option.some.injEq] at there
        exact ⟨there, by rw [← there]; exact present⟩
      | succ j =>
        rw [List.getElem?_cons_succ] at there
        have later := ih (i + 1) j item there
        rwa [show i + 1 + j = i + (j + 1) by omega] at later

theorem candidateFrom_ge {target : Value} : ∀ {items : List Value} {k place : Nat},
    candidateFrom target k items = .ok (some place) → k ≤ place := by
  intro items
  induction items with
  | nil => intro k place found; cases found
  | cons head rest ih =>
    intro k place found
    rw [candidateFrom, bind_eq_ok] at found
    obtain ⟨reached, -, found⟩ := found
    split at found
    · cases found
      exact Nat.le_refl k
    · have later := ih found
      omega

theorem candidateFrom_set {target candidate rewritten : Value} :
    ∀ {items : List Value} {k place : Nat}, candidateFrom target k items = .ok (some place) →
      items[place - k]? = some candidate → rewritten.index "to" = candidate.index "to" →
      candidateFrom target k (items.set (place - k) rewritten) = .ok (some place) := by
  intro items
  induction items with
  | nil => intro k place found; cases found
  | cons head rest ih =>
    intro k place found there same
    rw [candidateFrom, bind_eq_ok] at found
    obtain ⟨reached, read, found⟩ := found
    by_cases hit : reached.eq target = true
    · rw [if_pos hit] at found
      cases found
      simp only [Nat.sub_self, List.getElem?_cons_zero, Option.some.injEq] at there
      rw [Nat.sub_self, set_cons_zero, candidateFrom, same, ← there, read]
      simp only [bind, Except.bind, hit, if_true]
      rfl
    · rw [if_neg hit] at found
      have beyond := candidateFrom_ge found
      have step : place - k = place - (k + 1) + 1 := by omega
      rw [step, List.getElem?_cons_succ] at there
      have later := ih found there same
      rw [step, set_cons_succ, candidateFrom, read]
      simp only [bind, Except.bind, hit]
      exact later

def Selects (prediction : Value) : Prop := ∃ entry, selectedCandidate prediction = .ok (some entry)

theorem selectedCandidate_some {prediction : Value} {entry : Nat × Value}
    (table : prediction.isTable = true)
    (found : selectedCandidate prediction = .ok (some entry)) :
    ∃ items, ((prediction.get "candidates").orElse .emptyTable).ipairs = .ok items
      ∧ candidateFrom (prediction.get "to") 1 items = .ok (some entry.1)
      ∧ items[entry.1 - 1]? = some entry.2 := by
  unfold selectedCandidate at found
  rw [index_eq_get table, index_eq_get table] at found
  simp only [bind_eq_ok, Except.ok.injEq, exists_eq_left', pure_eq_ok] at found
  obtain ⟨items, walked, place, scanned, chosen⟩ := found
  cases place with
  | none => cases chosen
  | some k =>
    simp only [Option.bind_some, Option.map_eq_some_iff] at chosen
    obtain ⟨candidate, there, rfl⟩ := chosen
    exact ⟨items, walked, scanned, there⟩

theorem writeCandidate_ok {prediction candidate rewritten written : Value} {place : Nat}
    {eligibility : Eligibility} (table : prediction.isTable = true)
    (found : selectedCandidate prediction = .ok (some (place, candidate)))
    (marked : writeEligibility candidate eligibility = .ok rewritten)
    (wrote : writeCandidate prediction place rewritten = .ok written) :
    written.isTable = true ∧ (∀ name, name ≠ "candidates" → written.get name = prediction.get name)
      ∧ Selects written := by
  obtain ⟨items, walked, scanned, there⟩ := selectedCandidate_some table found
  obtain ⟨candidateTable, rewrittenTable, fields⟩ := writeEligibility_ok marked
  unfold writeCandidate at wrote
  split at wrote
  · rename_i tag entries bound
    rw [bound] at walked
    change Except.ok (Value.itemsFrom entries entries.length 1) = _ at walked
    cases walked
    have present : rewritten ≠ .nil := by
      rintro rfl
      cases rewrittenTable
    have positive := candidateFrom_ge scanned
    obtain ⟨placed, live⟩ := itemsFrom_getElem entries _ _ _ _ there
    have here : Value.lookup entries (.nat place) ≠ .nil := by
      rw [show 1 + (place - 1) = place by omega] at placed
      rw [placed]
      exact live
    have others : ∀ name, name ≠ "candidates" → written.get name = prediction.get name :=
      fun name other => get_of_setField_other other.symm wrote
    refine ⟨isTable_of_setField wrote, others, ?_⟩
    have listed : written.get "candidates"
        = .table tag (Value.assign entries (.nat place) rewritten) :=
      get_of_setField (by simp) wrote
    have walk : ((written.get "candidates").orElse .emptyTable).ipairs
        = .ok ((Value.itemsFrom entries entries.length 1).set (place - 1) rewritten) := by
      rw [listed]
      show Except.ok (Value.itemsFrom _ _ 1) = _
      rw [length_assign_place present here, itemsFrom_assign_place present here, if_pos positive]
    have target : rewritten.index "to" = candidate.index "to" := by
      rw [index_eq_get rewrittenTable, index_eq_get candidateTable,
        fields "to" (by decide)]
    have inside : place - 1 < (Value.itemsFrom entries entries.length 1).length :=
      (List.getElem?_eq_some_iff.mp there).1
    refine ⟨(place, rewritten), ?_⟩
    unfold selectedCandidate
    rw [index_eq_get (isTable_of_setField wrote),
      index_eq_get (isTable_of_setField wrote), others "to" (by decide)]
    simp only [bind, Except.bind, walk]
    rw [candidateFrom_set scanned there target]
    simp [inside, pure, Except.pure]
  · cases wrote

theorem normalizeTreeEligibility_ok {snapshot prediction normal : Value}
    (table : prediction.isTable = true)
    (run : normalizeTreeEligibility snapshot prediction = .ok normal) :
    normal.isTable = true ∧ normal.get "kind" = prediction.get "kind"
      ∧ normal.get "to" = prediction.get "to" ∧ (Selects prediction → Selects normal) := by
  -- writing an eligibility over the prediction changes none of these
  have rewritten : ∀ {v w : Value} {eligibility : Eligibility},
      writeEligibility v eligibility = .ok w → w.isTable = true ∧ w.get "kind" = v.get "kind"
        ∧ w.get "to" = v.get "to" ∧ (Selects v → Selects w) := by
    intro v w eligibility wrote
    obtain ⟨left, right, fields⟩ := writeEligibility_ok wrote
    refine ⟨right, fields _ (by decide), fields _ (by decide), ?_⟩
    rintro ⟨entry, found⟩
    exact ⟨entry, by rw [selectedCandidate_congr right left (fields _ (by decide))
      (fields _ (by decide)), found]⟩
  unfold normalizeTreeEligibility at run
  simp only [bind_eq_ok] at run
  obtain ⟨selected, found, kind, -, run⟩ := run
  split at run
  · unfold normalizeBinary at run
    cases selected with
    | none => exact rewritten run
    | some entry =>
      obtain ⟨place, candidate⟩ := entry
      simp only [bind_eq_ok] at run
      obtain ⟨marked, eligible, written, wrote, run⟩ := run
      obtain ⟨writtenTable, others, selects⟩ := writeCandidate_ok table found eligible wrote
      obtain ⟨normalTable, sameKind, sameTarget, kept⟩ := rewritten run
      exact ⟨normalTable, sameKind.trans (others _ (by decide)),
        sameTarget.trans (others _ (by decide)), fun _ => kept selects⟩
  · split at run
    · split at run
      · exact rewritten run
      · exact rewritten run
    · split at run
      · exact rewritten run
      · cases run
        exact ⟨table, rfl, rfl, fun selects => selects⟩

end Proc17.Runtime.Router
