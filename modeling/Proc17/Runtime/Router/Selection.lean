import Proc17.Lua.Order
import Proc17.Runtime.Router.Harmless
import Proc17.Runtime.Router.Policy

/-!
# Whom the tree router selects

The loop of `tree_router.select` against what it stands for: the largest total among the
candidates that may win, the first operator among equals, and whether there were equals.
-/

namespace Proc17.Runtime.Router

open Lua List Value Number
open Core

def totalOf (candidate : Value) : Number :=
  match candidate.get "total" with
  | .num n => n
  | _ => .nan

/-- A candidate of a known operator, with a total that can be compared, and a readiness and
exclusions that can be read. -/
structure Listed (candidate : Value) : Prop where
  table : candidate.isTable = true
  target : ∃ op, candidate.get "to" = Topology.value op
  total : ∃ n, candidate.get "total" = .num n ∧ n ≠ .nan
  exclusions : ∃ items, ((candidate.get "exclusions").orElse .emptyTable).ipairs = .ok items
    ∧ ∀ exclusion ∈ items, exclusion.isTable = true
  readiness : (candidate.get "readiness").truthy = true →
    (candidate.get "readiness").isTable = true

def Free (candidate : Value) : Prop := (candidate.get "excluded").truthy = false

/-- A candidate that may win: above the threshold and not excluded. -/
def Viable (threshold : Number) (candidate : Value) : Prop :=
  Free candidate ∧ Number.lt threshold (totalOf candidate) = true

def SameTotal (c d : Value) : Prop := Number.eq (totalOf c) (totalOf d) = true

def indexOf (candidate : Value) : Nat := canonicalIndex (candidate.get "to")

/-- Whoever may win has a smaller total, or the same at a later operator. -/
structure Best (threshold : Number) (candidates : List Value) (winner : Value) : Prop where
  listed : winner ∈ candidates
  viable : Viable threshold winner
  most : ∀ d ∈ candidates, Viable threshold d →
    Number.lt (totalOf d) (totalOf winner) = true
      ∨ SameTotal d winner ∧ indexOf winner ≤ indexOf d

def Rivalled (threshold : Number) (candidates : List Value) (winner : Value) : Prop :=
  ∃ d ∈ candidates, d ≠ winner ∧ Viable threshold d ∧ SameTotal d winner

def Standing (threshold : Number) (behind : List Value) (race : Race) : Prop :=
  match race.winner with
  | none => (∀ c ∈ behind, ¬ Viable threshold c) ∧ race.tied = false
  | some winner =>
    Best threshold behind winner ∧ (race.tied = true ↔ Rivalled threshold behind winner)

theorem total_ne_nan {c : Value} (listed : Listed c) : totalOf c ≠ .nan := by
  obtain ⟨n, total, number⟩ := listed.total
  rwa [totalOf, total]

theorem total_eq {c : Value} (listed : Listed c) : c.get "total" = .num (totalOf c) := by
  obtain ⟨n, total, -⟩ := listed.total
  rw [totalOf, total]

theorem canonicalIndex_injective {a b : Operator}
    (same : canonicalIndex (Topology.value a) = canonicalIndex (Topology.value b)) : a = b := by
  cases a <;> cases b <;> first | rfl | exact absurd same (by decide)

theorem eq_target_of_index {c d : Value} (left : Listed c) (right : Listed d)
    (same : indexOf c = indexOf d) : c.get "to" = d.get "to" := by
  obtain ⟨a, targetA⟩ := left.target
  obtain ⟨b, targetB⟩ := right.target
  rw [indexOf, indexOf, targetA, targetB] at same
  rw [targetA, targetB, canonicalIndex_injective same]

/-! ## One candidate -/

variable {t : Number} {behind : List Value} {c w : Value}

theorem best_keeps (best : Best t behind w) (here : Viable t c →
    Number.lt (totalOf c) (totalOf w) = true ∨ SameTotal c w ∧ indexOf w ≤ indexOf c) :
    Best t (behind ++ [c]) w := by
  refine ⟨mem_append_left _ best.listed, best.viable, ?_⟩
  intro d member viable
  rcases mem_append.mp member with old | new
  · exact best.most d old viable
  · obtain rfl := mem_singleton.mp new
    exact here viable

theorem rivalled_keeps (here : ¬ (Viable t c ∧ SameTotal c w)) :
    Rivalled t (behind ++ [c]) w ↔ Rivalled t behind w := by
  constructor
  · rintro ⟨d, member, other, viable, same⟩
    rcases mem_append.mp member with old | new
    · exact ⟨d, old, other, viable, same⟩
    · obtain rfl := mem_singleton.mp new
      exact absurd ⟨viable, same⟩ here
  · rintro ⟨d, member, other, viable, same⟩
    exact ⟨d, mem_append_left _ member, other, viable, same⟩

theorem overtakes (best : Best t behind w) (listed : Listed c) (viable : Viable t c)
    (more : Number.lt (totalOf w) (totalOf c) = true) :
    Best t (behind ++ [c]) c ∧ ¬ Rivalled t (behind ++ [c]) c := by
  have below : ∀ d ∈ behind, Viable t d → Number.lt (totalOf d) (totalOf c) = true := by
    intro d member may
    rcases best.most d member may with less | ⟨same, -⟩
    · exact lt_trans less more
    · rwa [lt_congr_left same]
  refine ⟨⟨mem_append_right _ mem_cons_self, viable, ?_⟩, ?_⟩
  · intro d member may
    rcases mem_append.mp member with old | new
    · exact .inl (below d old may)
    · obtain rfl := mem_singleton.mp new
      exact .inr ⟨eq_refl (total_ne_nan listed), Nat.le_refl _⟩
  · rintro ⟨d, member, other, may, same⟩
    rcases mem_append.mp member with old | new
    · have apart := not_lt_of_eq same
      rw [below d old may] at apart
      cases apart
    · exact other (mem_singleton.mp new)

theorem precedes (best : Best t behind w) (viable : Viable t c) (listed : Listed c)
    (same : SameTotal c w) (before : indexOf c < indexOf w) (apart : w ≠ c) :
    Best t (behind ++ [c]) c ∧ Rivalled t (behind ++ [c]) c := by
  refine ⟨⟨mem_append_right _ mem_cons_self, viable, ?_⟩,
    ⟨w, mem_append_left _ best.listed, apart, best.viable, eq_symm same⟩⟩
  intro d member may
  rcases mem_append.mp member with old | new
  · rcases best.most d old may with less | ⟨alike, after⟩
    · left
      rwa [lt_congr_right same]
    · exact .inr ⟨eq_trans alike (eq_symm same), by omega⟩
  · obtain rfl := mem_singleton.mp new
    exact .inr ⟨eq_refl (total_ne_nan listed), Nat.le_refl _⟩

theorem enter_standing {race : Race} (standing : Standing t behind race) (listed : Listed c)
    (all : ∀ d ∈ behind, Listed d) (new : ∀ d ∈ behind, d.get "to" ≠ c.get "to") :
    ∃ next, race.enter (.num t) c = .ok next ∧ Standing t (behind ++ [c]) next := by
  unfold Race.enter
  simp only [index_eq_get listed.table, bind, Except.bind, total_eq listed, Value.less]
  have idle : ¬ Viable t c → Standing t (behind ++ [c]) race := by
    intro refused
    unfold Standing at standing ⊢
    cases leads : race.winner with
    | none =>
      rw [leads] at standing
      exact ⟨forall_mem_append.mpr ⟨standing.1, forall_mem_singleton.mpr refused⟩, standing.2⟩
    | some winner =>
      rw [leads] at standing
      exact ⟨best_keeps standing.1 fun viable => absurd viable refused,
        standing.2.trans (rivalled_keeps fun both => refused both.1).symm⟩
  by_cases excluded : (c.get "excluded").truthy = true
  · rw [if_pos excluded]
    exact ⟨race, rfl, idle fun viable => by rw [viable.1] at excluded; cases excluded⟩
  rw [if_neg excluded]
  cases above : Number.lt t (totalOf c) with
  | false => exact ⟨race, rfl, idle fun viable => by rw [viable.2] at above; cases above⟩
  | true =>
    have viable : Viable t c := ⟨Bool.eq_false_iff.mpr excluded, above⟩
    unfold Standing at standing
    cases leads : race.winner with
    | none =>
      rw [leads] at standing
      refine ⟨⟨some c, false⟩, rfl, ⟨mem_append_right _ mem_cons_self, viable, ?_⟩, ?_⟩
      · intro d member may
        rcases mem_append.mp member with old | fresh
        · exact absurd may (standing.1 d old)
        · obtain rfl := mem_singleton.mp fresh
          exact .inr ⟨eq_refl (total_ne_nan listed), Nat.le_refl _⟩
      · constructor
        · intro impossible
          cases impossible
        · rintro ⟨d, member, other, may, -⟩
          rcases mem_append.mp member with old | fresh
          · exact absurd may (standing.1 d old)
          · exact absurd (mem_singleton.mp fresh) other
    | some winner =>
      rw [leads] at standing
      obtain ⟨best, rivals⟩ := standing
      have known := all winner best.listed
      have apart : winner ≠ c := fun same => new winner best.listed (congrArg (·.get "to") same)
      simp only [index_eq_get known.table, total_eq known]
      cases more : Number.lt (totalOf winner) (totalOf c) with
      | true =>
        obtain ⟨leads', alone⟩ := overtakes best listed viable more
        exact ⟨_, rfl, leads', iff_of_false Bool.false_ne_true alone⟩
      | false =>
        by_cases equal : SameTotal c winner
        · have compared : Value.eq (.num (totalOf c)) (.num (totalOf winner)) = true := equal
          by_cases before : canonicalIndex (c.get "to") < canonicalIndex (winner.get "to")
          · obtain ⟨leads', rival⟩ := precedes best viable listed equal before apart
            exact ⟨⟨some c, true⟩, by rw [if_neg Bool.false_ne_true, if_pos compared, if_pos before]; rfl, leads',
              iff_of_true rfl rival⟩
          · refine ⟨⟨some winner, true⟩, by rw [if_neg Bool.false_ne_true, if_pos compared, if_neg before]; rfl,
              best_keeps best fun _ => .inr ⟨equal, Nat.not_lt.mp before⟩, iff_of_true rfl ?_⟩
            exact ⟨c, mem_append_right _ mem_cons_self, apart.symm, viable, equal⟩
        · have differ : ¬ Value.eq (.num (totalOf c)) (.num (totalOf winner)) = true := equal
          have less : Number.lt (totalOf c) (totalOf winner) = true := by
            cases below : Number.lt (totalOf c) (totalOf winner) with
            | true => rfl
            | false =>
              exact absurd (eq_of_not_lt (total_ne_nan listed) (total_ne_nan known) below more)
                equal
          refine ⟨race, by rw [if_neg Bool.false_ne_true, if_neg differ]; rfl, ?_⟩
          rw [Standing, leads]
          exact ⟨best_keeps best fun _ => .inl less,
            rivals.trans (rivalled_keeps fun both => equal both.2).symm⟩

/-! ## The whole list -/

theorem run_standing : ∀ {ahead behind : List Value} {race : Race}, Standing t behind race →
    (∀ d ∈ behind ++ ahead, Listed d) → ((behind ++ ahead).map (·.get "to")).Nodup →
    ∃ final, Race.run (.num t) race ahead = .ok final ∧ Standing t (behind ++ ahead) final := by
  intro ahead
  induction ahead with
  | nil =>
    intro behind race standing _ _
    exact ⟨race, rfl, by rwa [append_nil]⟩
  | cons c rest ih =>
    intro behind race standing all distinct
    have unseen : ∀ d ∈ behind, d.get "to" ≠ c.get "to" := by
      rw [map_append, nodup_append'] at distinct
      intro d member same
      exact distinct.2.2 (mem_map_of_mem member) (same ▸ mem_cons_self)
    obtain ⟨next, entered, standing'⟩ := enter_standing standing
      (all c (mem_append_right _ mem_cons_self))
      (fun d member => all d (mem_append_left _ member)) unseen
    have split : behind ++ c :: rest = behind ++ [c] ++ rest := by simp
    rw [split] at all distinct ⊢
    obtain ⟨final, ran, reached⟩ := ih standing' all distinct
    refine ⟨final, ?_, reached⟩
    rw [Race.run, entered]
    exact ran

variable {candidates : List Value}

theorem race_of_listed (t : Number) (all : ∀ c ∈ candidates, Listed c)
    (distinct : (candidates.map (·.get "to")).Nodup) :
    ∃ race, Race.run (.num t) ⟨none, false⟩ candidates = .ok race
      ∧ Standing t candidates race :=
  have begun : Standing t [] ⟨none, false⟩ :=
    ⟨fun _ member => absurd member not_mem_nil, rfl⟩
  run_standing begun all distinct

theorem Best.unique {w w' : Value} (best : Best t candidates w)
    (best' : Best t candidates w') (all : ∀ c ∈ candidates, Listed c)
    (distinct : (candidates.map (·.get "to")).Nodup) : w = w' := by
  have order : indexOf w = indexOf w' := by
    rcases best.most w' best'.listed best'.viable with less | ⟨same, before⟩
    · rcases best'.most w best.listed best.viable with more | ⟨same', -⟩
      · rw [not_lt_of_lt less] at more
        cases more
      · rw [not_lt_of_eq (eq_symm same')] at less
        cases less
    · rcases best'.most w best.listed best.viable with more | ⟨-, after⟩
      · rw [not_lt_of_eq (eq_symm same)] at more
        cases more
      · omega
  exact inj_on_of_nodup_map distinct best.listed best'.listed
    (eq_target_of_index (all w best.listed) (all w' best'.listed) order)

theorem Standing.perm {candidates moved : List Value} {race race' : Race}
    (standing : Standing t candidates race) (standing' : Standing t moved race')
    (swapped : candidates.Perm moved) (all : ∀ c ∈ candidates, Listed c)
    (distinct : (candidates.map (·.get "to")).Nodup) : race = race' := by
  have here : Standing t candidates race' := by
    unfold Standing at standing' ⊢
    cases leads : race'.winner with
    | none =>
      rw [leads] at standing'
      exact ⟨fun c member => standing'.1 c (swapped.mem_iff.mp member), standing'.2⟩
    | some w =>
      rw [leads] at standing'
      obtain ⟨best, rivals⟩ := standing'
      refine ⟨⟨swapped.mem_iff.mpr best.listed, best.viable, fun d member =>
        best.most d (swapped.mem_iff.mp member)⟩, rivals.trans ?_⟩
      simp only [Rivalled, swapped.mem_iff]
  obtain ⟨winner, tied⟩ := race
  obtain ⟨winner', tied'⟩ := race'
  cases winner with
  | none =>
    cases winner' with
    | none => exact congrArg _ (standing.2.trans here.2.symm)
    | some w' => exact absurd here.1.viable (standing.1 w' here.1.listed)
  | some w =>
    cases winner' with
    | none => exact absurd standing.1.viable (here.1 w standing.1.listed)
    | some w' =>
      obtain rfl := standing.1.unique here.1 all distinct
      have flags : tied = tied' := Bool.eq_iff_iff.mpr (standing.2.trans here.2.symm)
      rw [flags]

theorem readExclusion_ok {exclusion : Value} (table : exclusion.isTable = true) :
    ∃ found, readExclusion exclusion = .ok found := by
  rw [readExclusion, index_eq_get table, ok_then]
  split
  · exact ⟨_, rfl⟩
  · exact ⟨_, by rw [index_eq_get table]; rfl⟩

theorem readCandidate_ok {c : Value} (listed : Listed c) :
    ∃ found, readCandidate c = .ok found := by
  obtain ⟨items, walked, tables⟩ := listed.exclusions
  obtain ⟨found, read⟩ := Json.mapM_ok fun exclusion member =>
    readExclusion_ok (tables exclusion member)
  rw [readCandidate, index_eq_get listed.table, index_eq_get listed.table, ok_then]
  split
  · rename_i ready
    simp only [index_eq_get (listed.readiness ready), ok_then, walked, read]
    exact ⟨_, rfl⟩
  · simp only [pure_bind, ok_then, walked, read]
    exact ⟨_, rfl⟩

theorem mapM_map {α β : Type} {f : α → Except Failure β} {g : α → β} {items : List α}
    (each : ∀ item ∈ items, f item = .ok (g item)) : items.mapM f = .ok (items.map g) := by
  induction items with
  | nil => rfl
  | cons item rest ih =>
    rw [mapM_cons, each item mem_cons_self,
      ih fun other member => each other (mem_cons_of_mem _ member)]
    rfl

theorem noViableCause_ok (all : ∀ c ∈ candidates, Listed c) :
    ∃ cause, noViableCause candidates = .ok cause
      ∧ ∀ {moved}, candidates.Perm moved → noViableCause moved = .ok cause := by
  let read (c : Value) : Bool × List (Bool × Bool) := (readCandidate c).toOption.getD (false, [])
  have each : ∀ c, Listed c → readCandidate c = .ok (read c) := by
    intro c listed
    obtain ⟨found, made⟩ := readCandidate_ok listed
    simp only [read, made]
    rfl
  refine ⟨_, by rw [noViableCause, mapM_map fun c member => each c (all c member)]; rfl, ?_⟩
  intro moved swapped
  rw [noViableCause, mapM_map fun c member => each c (all c (swapped.mem_iff.mpr member))]
  simp only [bind, Except.bind, (swapped.map read).any_eq]
  rfl

/-! ## The result of `tree_router.select` -/

def tieReason : Value := .text "highest_pressure_canonical_tie_break"

theorem reason_eq (tied : Bool) : Value.text (if tied then "highest_pressure_canonical_tie_break"
    else "highest_positive_pressure") = tieReason ↔ tied = true := by
  cases tied <;> decide

/-- At least two candidates that are not excluded have the total of `w`. -/
def Tied (candidates : List Value) (w : Value) : Prop :=
  ∃ c ∈ candidates, ∃ d ∈ candidates, c ≠ d ∧ Free c ∧ Free d ∧ SameTotal c w ∧ SameTotal d w

theorem tied_iff {w : Value} (best : Best t candidates w)
    (all : ∀ c ∈ candidates, Listed c) : Tied candidates w ↔ Rivalled t candidates w := by
  have viable : ∀ {c}, Free c → SameTotal c w → Viable t c := fun free same =>
    ⟨free, by rw [lt_congr_right same]; exact best.viable.2⟩
  constructor
  · rintro ⟨c, inC, d, inD, apart, freeC, freeD, sameC, sameD⟩
    by_cases here : c = w
    · exact ⟨d, inD, fun same => apart (here.trans same.symm), viable freeD sameD, sameD⟩
    · exact ⟨c, inC, here, viable freeC sameC, sameC⟩
  · rintro ⟨d, member, apart, may, same⟩
    exact ⟨d, member, w, best.listed, apart, may.1, best.viable.1, same,
      eq_refl (total_ne_nan (all w best.listed))⟩

/-- What the selection answers: nothing where no candidate may win, else the best one. -/
def Decides (t : Number) (candidates : List Value) (outcome : Value) : Prop :=
  (outcome.get "kind" = .text "no_viable_edge" ∧ ∀ c ∈ candidates, ¬ Viable t c)
    ∨ ∃ w, Best t candidates w ∧ outcome.get "kind" = .text "tree_route_decision"
      ∧ outcome.get "to" = w.get "to"
      ∧ (outcome.get "reason" = tieReason ↔ Tied candidates w)

theorem tree_selection (i : Instance) {options : Value} {t : Number} {candidates : List Value}
    (threshold : selectThreshold options = .ok (.num t)) (all : ∀ c ∈ candidates, Listed c)
    (distinct : (candidates.map (·.get "to")).Nodup) :
    ∃ outcome, binarySelect i candidates options = .ok outcome ∧ Decides t candidates outcome
      ∧ ∀ moved, candidates.Perm moved →
          binarySelect i moved options = outcome.setField "candidates" (.array moved) := by
  obtain ⟨⟨winner, tied⟩, ran, standing⟩ := race_of_listed t all distinct
  obtain ⟨cause, judged, judgedMoved⟩ := noViableCause_ok all
  have again : ∀ moved, candidates.Perm moved →
      Race.run (.num t) ⟨none, false⟩ moved = .ok ⟨winner, tied⟩ := by
    intro moved swapped
    obtain ⟨race, ranMoved, standingMoved⟩ := race_of_listed t
      (fun c member => all c (swapped.mem_iff.mpr member)) ((swapped.map _).nodup_iff.mp distinct)
    rw [ranMoved, standing.perm standingMoved swapped all distinct]
  cases winner with
  | none =>
    refine ⟨?outcome, ?made, .inl ⟨?kind, standing.1⟩, ?moved⟩
    case made =>
      simp only [binarySelect, threshold, ran, judged, bind, Except.bind]
      rfl
    case kind => exact get_record (by simp) (by simp)
    case moved =>
      intro moved swapped
      simp only [binarySelect, threshold, again moved swapped, judgedMoved swapped, bind, Except.bind]
      rfl
  | some w =>
    refine ⟨?decision, ?made, .inr ⟨w, standing.1, ?kind, ?target, ?reason⟩, ?moved⟩
    case made =>
      simp only [binarySelect, threshold, ran, bind, Except.bind]
      rfl
    case kind => exact get_record (by simp) (by simp)
    case target => exact get_record (by simp) (by simp)
    case reason =>
      refine (iff_of_eq (congrArg (· = tieReason) (get_record (by simp) (by simp)))).trans
        ((reason_eq tied).trans ?_)
      rw [tied_iff standing.1 all, ← standing.2]
    case moved =>
      intro moved swapped
      obtain ⟨op, target⟩ := (all w standing.1.listed).target
      simp only [binarySelect, threshold, again moved swapped, bind, Except.bind, target,
        total_eq (all w standing.1.listed)]
      rfl

def candidateOf (op : Operator) (total : Nat) (excluded : Bool) : Value :=
  .record [("to", Topology.value op), ("total", .nat total), ("excluded", .bool excluded)]

theorem listed_candidateOf (op : Operator) (total : Nat) (excluded : Bool) :
    Listed (candidateOf op total excluded) where
  table := rfl
  target := ⟨op, get_record (by simp) (by simp)⟩
  total := ⟨.int total, show _ = Value.nat total from get_record (by simp) (by simp), by simp⟩
  exclusions := ⟨[], by
    rw [candidateOf, get_record_absent (by simp)]
    exact ⟨rfl, by simp⟩⟩
  readiness := by
    rw [candidateOf, get_record_absent (by simp)]
    exact fun ready => by cases ready

def rivals : List Value :=
  [candidateOf .logic 2 false, candidateOf .encode 2 false, candidateOf .cycle 3 true]

theorem rivals_listed : ∀ c ∈ rivals, Listed c := by
  intro c member
  simp only [rivals, mem_cons, not_mem_nil, or_false] at member
  rcases member with rfl | rfl | rfl <;> exact listed_candidateOf _ _ _

theorem tree_selection_rivals : ∃ p outcome,
    Packet.new Packet.refusingSchemas 1 0 (.text "task") .nil = .ok p
      ∧ binarySelect (bare p) rivals .emptyTable = .ok outcome
      ∧ Decides (.int 0) rivals outcome := by
  obtain ⟨p, born, -⟩ := Packet.task_born_passing (fun _ => true) rfl
  obtain ⟨outcome, made, decided, -⟩ :=
    @tree_selection (bare p) .emptyTable (.int 0) _ rfl rivals_listed (by decide)
  exact ⟨p, outcome, born, made, decided⟩

theorem selection_echoes_order : ∃ p,
    Packet.new Packet.refusingSchemas 1 0 (.text "task") .nil = .ok p
      ∧ binarySelect (bare p) rivals .emptyTable ≠ binarySelect (bare p) rivals.reverse .emptyTable := by
  obtain ⟨p, born, facts⟩ := Packet.task_born_passing
    (fun p => decide ((binarySelect (bare p) rivals .emptyTable).toOption
      ≠ (binarySelect (bare p) rivals.reverse .emptyTable).toOption)) (by decide)
  exact ⟨p, born, fun same => of_decide_eq_true facts (congrArg Except.toOption same)⟩

end Proc17.Runtime.Router
