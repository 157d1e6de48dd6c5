import Mathlib.Data.List.Nodup
import Proc17.Runtime.SessionMemory

/-!
# Compost of a session

Over runs of `add_grave` and `compost`: no grave is lost or counted twice, the oldest ones go
first, and graves of one key are one pattern.
-/

namespace Proc17.Runtime.SessionMemory

open Lua Proc17.Runtime List Function Nat

/-! ## Removing by position -/

theorem foldl_removeCandidate (group : Group) (candidates : List Candidate) :
    ∀ graves : Group → List Value, candidates.foldl removeCandidate graves group
      = (candidates.filter fun c => decide (c.group = group)).foldl
        (fun records c => records.eraseIdx (c.index - 1)) (graves group) := by
  induction candidates with
  | nil => intro graves; rfl
  | cons c rest ih =>
    intro graves
    rw [foldl_cons, ih]
    by_cases here : c.group = group
    · rw [filter_cons_of_pos (by simpa using here), foldl_cons, removeCandidate, here,
        update_self]
    · rw [filter_cons_of_neg (by simpa using here), removeCandidate,
        update_of_ne (fun same => here same.symm)]

theorem foldl_eraseIdx : ∀ (candidates : List Candidate) (records : List Value), records.Nodup →
    (∀ c ∈ candidates, 1 ≤ c.index ∧ records[c.index - 1]? = some c.record) →
    candidates.Pairwise (fun left right => right.index < left.index) →
    candidates.foldl (fun records c => records.eraseIdx (c.index - 1)) records
      = records.filter fun record => decide (record ∉ candidates.map Candidate.record) := by
  intro candidates
  induction candidates with
  | nil =>
    intro records _ _ _
    simp
  | cons c rest ih =>
    intro records distinct placed falling
    obtain ⟨below, falling'⟩ := pairwise_cons.mp falling
    obtain ⟨least, found⟩ := placed c mem_cons_self
    obtain ⟨bound, read⟩ := List.getElem?_eq_some_iff.mp found
    have erased : records.eraseIdx (c.index - 1)
        = records.filter fun record => decide (record ≠ c.record) := by
      rw [← distinct.erase_getElem (c.index - 1) bound, read, distinct.erase_eq_filter]
      apply filter_congr
      intro record _
      rw [Bool.eq_iff_iff, bne_iff_ne, decide_eq_true_iff]
    have later : ∀ c' ∈ rest, 1 ≤ c'.index
        ∧ (records.eraseIdx (c.index - 1))[c'.index - 1]? = some c'.record := by
      intro c' inside
      obtain ⟨least', found'⟩ := placed c' (mem_cons_of_mem _ inside)
      refine ⟨least', ?_⟩
      have before := below c' inside
      rw [List.getElem?_eraseIdx_of_lt (by omega), found']
    rw [foldl_cons, ih _ (distinct.sublist (eraseIdx_sublist _ _)) later falling', erased,
      filter_filter]
    apply filter_congr
    intro record _
    simp only [map_cons, mem_cons, not_or, ← Bool.decide_and, ne_eq]
    exact decide_eq_decide.mpr and_comm

/-! ## Candidates -/

def allGraves (s : Session) : List Value := [Group.warnings, .bequests, .neutral].flatMap s.graves

theorem length_allGraves (s : Session) : (allGraves s).length = freshCount s := by
  simp [allGraves, freshCount, add_assoc]

theorem mem_groups (group : Group) : group ∈ [Group.warnings, .bequests, .neutral] := by
  cases group <;> decide

structure Placed (s : Session) (c : Candidate) : Prop where
  least : 1 ≤ c.index
  found : (s.graves c.group)[c.index - 1]? = some c.record
  insertId : c.insertId = insertIdOf c.record

def unsorted (s : Session) : List Candidate :=
  [Group.warnings, .bequests, .neutral].flatMap (candidatesOf s)

theorem placed_of_mem {s : Session} {c : Candidate} (inside : c ∈ unsorted s) : Placed s c := by
  obtain ⟨group, -, listed⟩ := mem_flatMap.mp inside
  obtain ⟨⟨record, i⟩, zipped, rfl⟩ := mem_map.mp listed
  refine ⟨succ_pos i, ?_, rfl⟩
  rw [Nat.add_sub_cancel]
  exact mem_zipIdx_iff_getElem?.mp zipped

theorem map_record_unsorted (s : Session) : (unsorted s).map Candidate.record = allGraves s := by
  rw [unsorted, map_flatMap, allGraves]
  congr 1
  funext group
  rw [candidatesOf, map_map]
  exact zipIdx_map_fst 0 (s.graves group)

def ordinal (record : Value) : Nat :=
  match insertIdOf record with
  | .int i => i.toNat
  | _ => 0

structure Ordered (s : Session) : Prop where
  numbered : ∀ record ∈ allGraves s, ∃ n : Nat, insertIdOf record = .int n ∧ n < s.nextInsertId
  distinct : ((allGraves s).map ordinal).Nodup

variable {record : Value}

section
variable {s : Session}

theorem ordinals_unsorted (s : Session) :
    (unsorted s).map (fun c => ordinal c.record) = (allGraves s).map ordinal := by
  rw [← map_record_unsorted, map_map]
  rfl

theorem Ordered.candidate (ordered : Ordered s) {c : Candidate} (inside : c ∈ unsorted s) :
    c.insertId = .int (ordinal c.record) := by
  have grave : c.record ∈ allGraves s := by
    rw [← map_record_unsorted]
    exact mem_map_of_mem inside
  obtain ⟨n, numbered, -⟩ := ordered.numbered c.record grave
  rw [(placed_of_mem inside).insertId, ordinal, numbered]
  rfl

theorem Ordered.candidate_unique (ordered : Ordered s) {a b : Candidate} (left : a ∈ unsorted s)
    (right : b ∈ unsorted s) (same : ordinal a.record = ordinal b.record) : a = b := by
  have distinct := ordered.distinct
  rw [← ordinals_unsorted] at distinct
  exact inj_on_of_nodup_map distinct left right same

theorem older_iff (ordered : Ordered s) {a b : Candidate} (left : a ∈ unsorted s)
    (right : b ∈ unsorted s) : older b a = false ↔ ordinal a.record ≤ ordinal b.record := by
  rw [older, ordered.candidate left, ordered.candidate right]
  by_cases same : ordinal a.record = ordinal b.record
  · obtain rfl := ordered.candidate_unique left right same
    simp [Number.eq]
  · have apart : Number.eq (.int (ordinal b.record)) (.int (ordinal a.record)) = false := by
      simp only [Number.eq, beq_eq_false_iff_ne, ne_eq, Int.natCast_inj]
      exact fun back => same back.symm
    rw [apart, if_neg Bool.false_ne_true]
    simp only [Number.lt, decide_eq_false_iff_not, Int.ofNat_lt, not_lt]

theorem collect_rising (ordered : Ordered s) : (collectFreshGraves s).Pairwise
    fun a b => ordinal a.record < ordinal b.record := by
  have sorted : (collectFreshGraves s).map (fun c => ordinal c.record)
      = ((unsorted s).map fun c => ordinal c.record).insertionSort (· ≤ ·) :=
    map_insertionSort _ (· ≤ ·) (fun c => ordinal c.record) (unsorted s)
      fun a left b right => older_iff ordered left right
  have rising := pairwise_insertionSort (· ≤ ·) ((unsorted s).map fun c => ordinal c.record)
  have distinct : (((unsorted s).map fun c => ordinal c.record).insertionSort (· ≤ ·)).Nodup := by
    rw [(perm_insertionSort (· ≤ ·) _).nodup_iff, ordinals_unsorted]
    exact ordered.distinct
  have strict := (rising.and distinct).imp fun both => lt_of_le_of_ne both.1 both.2
  rw [← sorted] at strict
  exact pairwise_map.mp strict

theorem collect_perm (s : Session) : (collectFreshGraves s).Perm (unsorted s) :=
  perm_insertionSort _ (unsorted s)

theorem records_perm (s : Session) :
    ((collectFreshGraves s).map Candidate.record).Perm (allGraves s) := by
  rw [← map_record_unsorted]
  exact (collect_perm s).map _

theorem Ordered.nodup (ordered : Ordered s) : (allGraves s).Nodup := ordered.distinct.of_map

theorem Ordered.group_unique (ordered : Ordered s) {g h : Group}
    (left : record ∈ s.graves g) (right : record ∈ s.graves h) : g = h := by
  have apart := (nodup_flatMap.mp ordered.nodup).2
  simp only [pairwise_cons, mem_cons, not_mem_nil, or_false, forall_eq_or_imp,
    forall_eq, Function.onFun, List.Pairwise.nil, and_true, false_imp_iff, implies_true] at apart
  obtain ⟨⟨first, second⟩, third⟩ := apart
  cases g <;> cases h
  case warnings.bequests => exact (first left right).elim
  case warnings.neutral => exact (second left right).elim
  case bequests.warnings => exact (first right left).elim
  case bequests.neutral => exact (third left right).elim
  case neutral.warnings => exact (second right left).elim
  case neutral.bequests => exact (third right left).elim
  all_goals rfl

/-! ## Removing the oldest -/

theorem removedBefore_iff (a b : Candidate) : removedBefore b a = false
    ↔ a.group.rank < b.group.rank ∨ (a.group = b.group ∧ b.index ≤ a.index) := by
  by_cases same : b.group = a.group
  · rw [removedBefore, if_pos same, decide_eq_false_iff_not, same]
    simp only [lt_irrefl, false_or, true_and, not_lt]
  · have apart : b.group.rank ≠ a.group.rank := by
      revert same
      cases b.group <;> cases a.group <;> decide
    rw [removedBefore, if_neg same, decide_eq_false_iff_not]
    constructor
    · intro later
      exact Or.inl (by omega)
    · rintro (lower | ⟨back, -⟩)
      · omega
      · exact absurd back.symm same

instance : Std.Total fun left right : Candidate => removedBefore right left = false where
  total a b := by
    rw [removedBefore_iff, removedBefore_iff]
    by_cases same : a.group = b.group
    · rw [same]
      simp only [Nat.lt_irrefl, false_or, true_and]
      exact Nat.le_total _ _
    · have apart : a.group.rank ≠ b.group.rank := by
        revert same
        cases a.group <;> cases b.group <;> decide
      rcases Nat.lt_or_gt_of_ne apart with below | above
      · exact Or.inl (Or.inl below)
      · exact Or.inr (Or.inl above)

instance : IsTrans Candidate fun left right => removedBefore right left = false where
  trans a b c := by
    rw [removedBefore_iff, removedBefore_iff, removedBefore_iff]
    rintro (below | ⟨same, least⟩) (below' | ⟨same', least'⟩)
    · exact Or.inl (Nat.lt_trans below below')
    · exact Or.inl (same' ▸ below)
    · exact Or.inl (same ▸ below')
    · exact Or.inr ⟨same.trans same', Nat.le_trans least' least⟩

theorem removeCandidates_eq (ordered : Ordered s) {chosen : List Candidate}
    (inside : ∀ c ∈ chosen, c ∈ unsorted s) (distinct : chosen.Nodup) (group : Group) :
    removeCandidates s.graves chosen group
      = (s.graves group).filter fun record => decide (record ∉ chosen.map Candidate.record) := by
  have perm := perm_insertionSort (fun left right => removedBefore right left = false) chosen
  have order := pairwise_insertionSort
    (fun left right => removedBefore right left = false) chosen
  rw [removeCandidates, foldl_removeCandidate, foldl_eraseIdx]
  · apply filter_congr
    intro record listed
    apply decide_eq_decide.mpr
    apply not_congr
    rw [mem_map, mem_map]
    constructor
    · rintro ⟨c, kept, rfl⟩
      exact ⟨c, perm.subset (mem_of_mem_filter kept), rfl⟩
    · rintro ⟨c, listed', rfl⟩
      have placed := placed_of_mem (inside c listed')
      have here : c.group = group :=
        ordered.group_unique (mem_of_getElem? placed.found) listed
      refine ⟨c, mem_filter.mpr ⟨perm.symm.subset listed', ?_⟩, rfl⟩
      rw [here]
      exact decide_eq_true rfl
  · exact ordered.nodup.sublist (sublist_flatten_of_mem (mem_map_of_mem (mem_groups group)))
  · intro c kept
    obtain ⟨listed, here⟩ := mem_filter.mp kept
    have placed := placed_of_mem (inside c (perm.subset listed))
    rw [← of_decide_eq_true here]
    exact ⟨placed.least, placed.found⟩
  · have falling := (order.and (perm.nodup_iff.mpr distinct)).filter
      fun c => decide (c.group = group)
    refine falling.imp_of_mem ?_
    intro a b left right ⟨below, apart⟩
    obtain ⟨listed, here⟩ := mem_filter.mp left
    obtain ⟨listed', here'⟩ := mem_filter.mp right
    have grouped : a.group = b.group :=
      (of_decide_eq_true here).trans (of_decide_eq_true here').symm
    rcases (removedBefore_iff a b).mp below with lower | ⟨-, least⟩
    · rw [grouped] at lower
      omega
    · rcases lt_or_eq_of_le least with less | same
      · exact less
      · exfalso
        apply apart
        have placed := placed_of_mem (inside a (perm.subset listed))
        have placed' := placed_of_mem (inside b (perm.subset listed'))
        have found := placed.found
        rw [grouped, ← same, placed'.found] at found
        have records := Option.some.inj found
        apply ordered.candidate_unique (inside a (perm.subset listed))
          (inside b (perm.subset listed'))
        rw [records]

end

/-! ## Patterns -/

def keyOf (record : Value) : Option Bytes := (partsOf record >>= patternKey).toOption

def Pattern.parts (pattern : Pattern) : Parts :=
  ⟨pattern.graveKind, pattern.deathCause, pattern.lastOperator, pattern.doNotRepeat⟩

structure Counted (patterns : List Pattern) (composted : List Value) : Prop where
  keys : (patterns.map Pattern.key).Nodup
  counts : ∀ p ∈ patterns, p.count = composted.countP fun record => decide (keyOf record = some p.key)
  covered : ∀ record ∈ composted, ∃ p ∈ patterns, keyOf record = some p.key
  described : ∀ p ∈ patterns, ∃ record ∈ composted, keyOf record = some p.key
    ∧ partsOf record = .ok p.parts
  total : (patterns.map Pattern.count).sum = composted.length

theorem countIn_cases (key : Bytes) (now : Value) (patterns : List Pattern) :
    (countIn key now patterns = none ∧ key ∉ patterns.map Pattern.key)
    ∨ ∃ before p after, patterns = before ++ p :: after ∧ p.key = key
      ∧ countIn key now patterns
        = some (before ++ { p with count := p.count + 1, lastSeenAt := now } :: after) := by
  induction patterns with
  | nil => exact Or.inl ⟨rfl, not_mem_nil⟩
  | cons first rest ih =>
    by_cases here : first.key = key
    · refine Or.inr ⟨[], first, rest, rfl, here, ?_⟩
      rw [countIn, if_pos here]
      rfl
    · rcases ih with ⟨missing, absent⟩ | ⟨before, p, after, rfl, named, counted⟩
      · left
        rw [countIn, if_neg here, missing]
        refine ⟨rfl, ?_⟩
        rw [map_cons, mem_cons, not_or]
        exact ⟨fun same => here same.symm, absent⟩
      · refine Or.inr ⟨first :: before, p, after, rfl, named, ?_⟩
        rw [countIn, if_neg here, counted]
        rfl

theorem countP_snoc (composted : List Value) (record : Value) (key : Bytes) :
    (composted ++ [record]).countP (fun r => decide (keyOf r = some key))
      = composted.countP (fun r => decide (keyOf r = some key))
        + if keyOf record = some key then 1 else 0 := by
  rw [countP_append, countP_singleton]
  simp only [decide_eq_true_eq]

section
variable {patterns before after : List Pattern} {composted : List Value} {now : Value}

theorem Counted.fresh {parts : Parts} {key : Bytes} (counted : Counted patterns composted)
    (read : partsOf record = .ok parts) (keyed : keyOf record = some key)
    (absent : key ∉ patterns.map Pattern.key) :
    Counted (patterns ++ [newPattern parts key now]) (composted ++ [record]) := by
  refine ⟨?_, ?_, ?_, ?_, ?_⟩
  · rw [map_append, nodup_append]
    refine ⟨counted.keys, nodup_singleton _, ?_⟩
    intro k old other here same
    rw [same, mem_singleton.mp here] at old
    exact absent old
  · intro q inside
    rw [countP_snoc]
    rcases mem_append.mp inside with old | fresh
    · have other : ¬ keyOf record = some q.key := by
        intro same
        rw [keyed] at same
        exact absent (mem_map.mpr ⟨q, old, (Option.some.inj same).symm⟩)
      rw [if_neg other, counted.counts q old, add_zero]
    · rw [mem_singleton.mp fresh]
      have unseen : composted.countP (fun r => decide (keyOf r = some key)) = 0 := by
        rw [countP_eq_zero]
        intro r inside' same
        obtain ⟨q', listed, keyed'⟩ := counted.covered r inside'
        rw [of_decide_eq_true same] at keyed'
        exact absent (mem_map.mpr ⟨q', listed, (Option.some.inj keyed').symm⟩)
      show 1 = composted.countP (fun r => decide (keyOf r = some key)) + _
      rw [unseen, show (newPattern parts key now).key = key from rfl, if_pos keyed]
  · intro r inside
    rcases mem_append.mp inside with old | fresh
    · obtain ⟨q, listed, same⟩ := counted.covered r old
      exact ⟨q, mem_append_left _ listed, same⟩
    · rw [mem_singleton.mp fresh]
      exact ⟨_, mem_append_right _ mem_cons_self, keyed⟩
  · intro q inside
    rcases mem_append.mp inside with old | fresh
    · obtain ⟨r, listed, facts⟩ := counted.described q old
      exact ⟨r, mem_append_left _ listed, facts⟩
    · rw [mem_singleton.mp fresh]
      exact ⟨record, mem_append_right _ mem_cons_self, keyed, read⟩
  · rw [map_append, List.sum_append, counted.total, length_append]
    rfl

theorem Counted.again {p : Pattern} (counted : Counted (before ++ p :: after) composted)
    (keyed : keyOf record = some p.key) :
    Counted (before ++ { p with count := p.count + 1, lastSeenAt := now } :: after)
      (composted ++ [record]) := by
  have keys := counted.keys
  rw [map_append, map_cons, nodup_middle, nodup_cons] at keys
  have others : ∀ q ∈ before ++ after, ¬ keyOf record = some q.key := by
    intro q inside same
    rw [keyed] at same
    apply keys.1
    rw [← map_append]
    exact mem_map.mpr ⟨q, inside, (Option.some.inj same).symm⟩
  -- A pattern but the counted one stands in the old list as it is.
  have split : ∀ q ∈ before ++ { p with count := p.count + 1, lastSeenAt := now } :: after,
      q = { p with count := p.count + 1, lastSeenAt := now } ∨ q ∈ before ++ after := by
    intro q inside
    rw [mem_append, mem_cons] at inside
    rw [mem_append]
    tauto
  have old : ∀ q ∈ before ++ after, q ∈ before ++ p :: after := by
    intro q inside
    rw [mem_append] at inside
    rw [mem_append, mem_cons]
    tauto
  have here : p ∈ before ++ p :: after := mem_append_right _ mem_cons_self
  refine ⟨?_, ?_, ?_, ?_, ?_⟩
  · have same := counted.keys
    rw [map_append, map_cons] at same ⊢
    exact same
  · intro q inside
    rw [countP_snoc]
    rcases split q inside with rfl | listed
    · rw [if_pos keyed, ← counted.counts p here]
    · rw [if_neg (others q listed), counted.counts q (old q listed), add_zero]
  · intro r inside
    rcases mem_append.mp inside with composted' | fresh
    · obtain ⟨q, listed, same⟩ := counted.covered r composted'
      rw [mem_append, mem_cons] at listed
      rcases listed with left | rfl | right
      · exact ⟨q, mem_append_left _ left, same⟩
      · exact ⟨_, mem_append_right _ mem_cons_self, same⟩
      · exact ⟨q, mem_append_right _ (mem_cons_of_mem _ right), same⟩
    · rw [mem_singleton.mp fresh]
      exact ⟨_, mem_append_right _ mem_cons_self, keyed⟩
  · intro q inside
    rcases split q inside with rfl | listed
    · obtain ⟨r, listed, facts⟩ := counted.described p here
      exact ⟨r, mem_append_left _ listed, facts⟩
    · obtain ⟨r, listed', facts⟩ := counted.described q (old q listed)
      exact ⟨r, mem_append_left _ listed', facts⟩
  · have total := counted.total
    rw [map_append, map_cons, List.sum_append, sum_cons] at total ⊢
    rw [length_append, length_singleton, ← total]
    show _ + (p.count + 1 + _) = _
    omega

theorem Counted.merge {patterns' : List Pattern} (counted : Counted patterns composted)
    (merged : mergePattern patterns record now = .ok patterns') :
    Counted patterns' (composted ++ [record]) := by
  simp only [mergePattern, bind_eq_ok] at merged
  obtain ⟨parts, read, key, joined, merged⟩ := merged
  have keyed : keyOf record = some key := by
    rw [keyOf, read]
    show (patternKey parts).toOption = some key
    rw [joined]
    rfl
  rcases countIn_cases key now patterns with ⟨missing, absent⟩ | ⟨before, p, after, rfl, rfl, found⟩
  · rw [missing] at merged
    cases merged
    exact counted.fresh read keyed absent
  · rw [found] at merged
    cases merged
    exact counted.again keyed

/-- The loop of `compost` merges its candidates and touches nothing else. -/
theorem mergeAll_ok : ∀ (candidates : List Candidate) (composted : List Value) (s s' : Session),
    mergeAll now candidates s = (.ok (), s') → Counted s.patterns composted →
    Counted s'.patterns (composted ++ candidates.map Candidate.record)
      ∧ s'.graves = s.graves ∧ s'.nextInsertId = s.nextInsertId := by
  intro candidates
  induction candidates with
  | nil =>
    intro composted s s' merged counted
    cases merged
    rw [map_nil, append_nil]
    exact ⟨counted, rfl, rfl⟩
  | cons c rest ih =>
    intro composted s s' merged counted
    rw [mergeAll] at merged
    cases step : mergePattern s.patterns c.record now with
    | error failure =>
      rw [step] at merged
      cases merged
    | ok patterns =>
      rw [step] at merged
      obtain ⟨later, graves, nextInsertId⟩ := ih _ _ s' merged (counted.merge step)
      rw [map_cons, append_cons]
      exact ⟨later, graves, nextInsertId⟩

end

/-! ## Calls -/

/-- The graves that a `compost` with this limit takes. -/
def removedAt (s : Session) (maxFresh : Number) : List Value :=
  if Number.le (.int (freshCount s)) maxFresh then []
  else (excessGraves s maxFresh).map Candidate.record

/-- `min(before, max_fresh)`; a limit that is no integer is above every count. -/
def keptCount (before : Nat) : Number → Nat
  | .int maxFresh => min before maxFresh.toNat
  | _ => before

/-- What a `compost` with this limit does to the graves. -/
structure CompostLaw (s : Session) (maxFresh : Number) (s' : Session) : Prop where
  kept : freshCount s' = keptCount (freshCount s) maxFresh
  left : ∀ group, s'.graves group
    = (s.graves group).filter fun record => decide (record ∉ removedAt s maxFresh)
  taken : ∀ record ∈ removedAt s maxFresh, record ∈ allGraves s
  distinct : (removedAt s maxFresh).Nodup
  oldest : ∀ record ∈ removedAt s maxFresh, ∀ survivor ∈ allGraves s',
    ordinal record < ordinal survivor
  balance : freshCount s' + (removedAt s maxFresh).length = freshCount s

variable {maxFresh : Number} {options osTime : Value} {gone : List Value}

section
variable {s s' : Session}

theorem survivors_perm (ordered : Ordered s) (n : Nat) :
    ((allGraves s).filter fun record =>
      decide (record ∉ ((collectFreshGraves s).take n).map Candidate.record)).Perm
      (((collectFreshGraves s).drop n).map Candidate.record) := by
  have perm := records_perm s
  have distinct := perm.nodup_iff.mpr ordered.nodup
  rw [← take_append_drop n (collectFreshGraves s), map_append] at perm distinct
  have apart := (nodup_append.mp distinct).2.2
  refine (perm.filter _).symm.trans ?_
  have first : (((collectFreshGraves s).take n).map Candidate.record).filter (fun record =>
      decide (record ∉ ((collectFreshGraves s).take n).map Candidate.record)) = [] := by
    rw [filter_eq_nil_iff]
    intro record inside absent
    exact of_decide_eq_true absent inside
  have second : (((collectFreshGraves s).drop n).map Candidate.record).filter (fun record =>
      decide (record ∉ ((collectFreshGraves s).take n).map Candidate.record))
      = ((collectFreshGraves s).drop n).map Candidate.record := by
    rw [filter_eq_self]
    intro record inside
    exact decide_eq_true fun taken => apart record taken record inside rfl
  rw [filter_append, first, second, nil_append]

theorem allGraves_filter {p : Value → Bool} (left : ∀ group, s'.graves group
    = (s.graves group).filter p) : allGraves s' = (allGraves s).filter p := by
  simp only [allGraves, flatMap_cons, flatMap_nil, append_nil, left, filter_append]

theorem length_collect (s : Session) : (collectFreshGraves s).length = freshCount s := by
  rw [← length_allGraves, ← (records_perm s).length_eq, length_map]

theorem compostLaw_of_removed (ordered : Ordered s)
    (over_limit : Number.le (.int (freshCount s)) maxFresh = false)
    (graves : s'.graves = removeCandidates s.graves (excessGraves s maxFresh)) :
    CompostLaw s maxFresh s' := by
  have removed : removedAt s maxFresh = (excessGraves s maxFresh).map Candidate.record := by
    rw [removedAt, over_limit, if_neg Bool.false_ne_true]
  have rising := collect_rising ordered
  rw [← take_append_drop (excess (freshCount s) maxFresh) (collectFreshGraves s),
    pairwise_append] at rising
  have inside : ∀ c ∈ excessGraves s maxFresh, c ∈ unsorted s := fun c taken =>
    (collect_perm s).subset (mem_of_mem_take taken)
  have distinct : ((excessGraves s maxFresh).map Candidate.record).Nodup := by
    refine List.Nodup.of_map ordinal ?_
    rw [map_map]
    exact pairwise_map.mpr (rising.1.imp fun below same => ne_of_lt below same)
  have left : ∀ group, s'.graves group
      = (s.graves group).filter fun record => decide (record ∉ removedAt s maxFresh) := by
    intro group
    rw [graves, removed]
    exact removeCandidates_eq ordered inside distinct.of_map group
  have rest : (allGraves s').Perm (((collectFreshGraves s).drop
      (excess (freshCount s) maxFresh)).map Candidate.record) := by
    rw [allGraves_filter left, removed]
    exact survivors_perm ordered _
  have count : freshCount s' = freshCount s - excess (freshCount s) maxFresh := by
    rw [← length_allGraves, rest.length_eq, length_map, length_drop, length_collect]
  have taken : (removedAt s maxFresh).length
      = min (excess (freshCount s) maxFresh) (freshCount s) := by
    rw [removed, length_map, excessGraves, length_take, length_collect]
  refine ⟨?_, left, ?_, removed ▸ distinct, ?_, ?_⟩
  · rw [count]
    cases maxFresh with
    | int k =>
      simp only [excess, keptCount]
      omega
    | _ => rfl
  · intro record listed
    rw [removed] at listed
    obtain ⟨c, chosen, rfl⟩ := mem_map.mp listed
    rw [← map_record_unsorted]
    exact mem_map_of_mem (inside c chosen)
  · intro record listed survivor living
    rw [removed] at listed
    obtain ⟨c, chosen, rfl⟩ := mem_map.mp listed
    obtain ⟨c', spared, rfl⟩ := mem_map.mp (rest.subset living)
    exact rising.2.2 c chosen c' spared
  · rw [taken, count]
    omega

theorem compostLaw_within (within : Number.le (.int (freshCount s)) maxFresh = true) :
    CompostLaw s maxFresh s := by
  have removed : removedAt s maxFresh = [] := by rw [removedAt, within, if_pos rfl]
  refine ⟨?_, ?_, ?_, ?_, ?_, ?_⟩
  · cases maxFresh with
    | int k =>
      simp only [Number.le, Number.lt, Number.eq, Bool.or_eq_true, decide_eq_true_eq,
        beq_iff_eq] at within
      simp only [keptCount]
      omega
    | _ => rfl
  · intro group
    rw [removed]
    simp
  · rw [removed]
    exact forall_mem_nil _
  · rw [removed]
    exact nodup_nil
  · rw [removed]
    exact forall_mem_nil _
  · rw [removed]
    rfl

end

section
variable {s s' : Session}

/-- What a successful `compost` does. -/
theorem compost_ok {payload : Payload} (done : compost s options osTime = (.ok payload, s')) :
    ∃ maxFresh now, compostOptions options osTime = .ok (maxFresh, now)
      ∧ ((Number.le (.int (freshCount s)) maxFresh = true ∧ s' = s)
        ∨ (Number.le (.int (freshCount s)) maxFresh = false ∧ ∃ merged,
          mergeAll now (excessGraves s maxFresh) s = (.ok (), merged)
            ∧ s'.graves = removeCandidates merged.graves (excessGraves s maxFresh)
            ∧ s'.nextInsertId = merged.nextInsertId ∧ s'.patterns = merged.patterns)) := by
  rw [compost] at done
  cases read : compostOptions options osTime with
  | error failure =>
    rw [read] at done
    cases done
  | ok given =>
    obtain ⟨maxFresh, now⟩ := given
    rw [read] at done
    refine ⟨maxFresh, now, rfl, ?_⟩
    simp only at done
    split at done
    · rename_i within
      cases done
      exact Or.inl ⟨within, rfl⟩
    · rename_i above
      right
      refine ⟨Bool.eq_false_of_not_eq_true above, ?_⟩
      rcases merging : mergeAll now (excessGraves s maxFresh) s with ⟨answer, merged⟩
      rw [merging] at done
      cases answer with
      | error failure => cases done
      | ok accepted =>
        cases done
        exact ⟨merged, rfl, rfl, rfl, rfl⟩

theorem addGrave_ok {input answer : Value} (done : addGrave s input osTime = (.ok answer, s')) :
    ∃ record group, insertIdOf record = .int s.nextInsertId
      ∧ s'.graves = Function.update s.graves group (s.graves group ++ [record])
      ∧ s'.nextInsertId = s.nextInsertId + 1 ∧ s'.patterns = s.patterns := by
  simp only [addGrave] at done
  cases stored : (do
      let record ← graveRecord input
      record.setField "grave_insert_id" (.nat s.nextInsertId)) with
  | error failure =>
    rw [stored] at done
    cases done
  | ok record =>
    rw [stored] at done
    simp only [bind_eq_ok] at stored
    obtain ⟨given, -, assigned⟩ := stored
    have present : Value.nat s.nextInsertId ≠ .nil := fun absent => by cases absent
    have numbered := Value.get_of_setField present assigned
    simp only at done
    cases placed : groupOf (record.get "grave_kind") with
    | none =>
      rw [placed] at done
      cases done
    | some group =>
      rw [placed] at done
      cases done
      refine ⟨record, group, ?_, rfl, rfl, rfl⟩
      rw [insertIdOf, numbered]
      rfl

theorem allGraves_update (s : Session) (group : Group) (record : Value) (graves : Group → List Value)
    (added : graves = Function.update s.graves group (s.graves group ++ [record])) :
    ([Group.warnings, .bequests, .neutral].flatMap graves).Perm (record :: allGraves s) := by
  subst added
  cases group <;> simp only [allGraves, flatMap_cons, flatMap_nil, append_nil,
    update_self, ne_eq, reduceCtorEq, not_false_eq_true, update_of_ne]
  case warnings =>
    simpa only [append_assoc, singleton_append] using
      @perm_middle _ record (s.graves .warnings) (s.graves .bequests ++ s.graves .neutral)
  case bequests =>
    simpa only [append_assoc, singleton_append] using
      @perm_middle _ record (s.graves .warnings ++ s.graves .bequests) (s.graves .neutral)
  case neutral =>
    simpa only [append_assoc, append_nil] using
      @perm_middle _ record (s.graves .warnings ++ (s.graves .bequests ++ s.graves .neutral)) []

theorem Ordered.added (ordered : Ordered s) {group : Group}
    (numbered : insertIdOf record = .int s.nextInsertId)
    (graves : s'.graves = Function.update s.graves group (s.graves group ++ [record]))
    (next : s'.nextInsertId = s.nextInsertId + 1) :
    Ordered s' ∧ freshCount s' = freshCount s + 1 := by
  have perm : (allGraves s').Perm (record :: allGraves s) := allGraves_update s group record _ graves
  have here : ordinal record = s.nextInsertId := by
    rw [ordinal, numbered]
    rfl
  refine ⟨⟨?_, ?_⟩, ?_⟩
  · intro grave inside
    rw [next]
    rcases mem_cons.mp (perm.subset inside) with rfl | old
    · exact ⟨s.nextInsertId, numbered, lt_succ_self _⟩
    · obtain ⟨n, same, below⟩ := ordered.numbered grave old
      exact ⟨n, same, lt_succ_of_lt below⟩
  · rw [(perm.map ordinal).nodup_iff, map_cons, nodup_cons]
    refine ⟨?_, ordered.distinct⟩
    intro taken
    obtain ⟨grave, inside, same⟩ := mem_map.mp taken
    obtain ⟨n, numbered', below⟩ := ordered.numbered grave inside
    rw [ordinal, numbered', here] at same
    simp only [Int.toNat_natCast] at same
    omega
  · rw [← length_allGraves, ← length_allGraves, perm.length_eq, length_cons]

theorem CompostLaw.ordered {maxFresh : Number} (law : CompostLaw s maxFresh s') (ordered : Ordered s)
    (next : s'.nextInsertId = s.nextInsertId) : Ordered s' := by
  have left := allGraves_filter law.left
  refine ⟨?_, ?_⟩
  · intro grave inside
    rw [next]
    rw [left] at inside
    exact ordered.numbered grave (mem_of_mem_filter inside)
  · rw [left]
    exact ordered.distinct.sublist (filter_sublist.map _)

end

/-! ## Runs -/

def removedBy (s : Session) : Call → List Value
  | .addGrave _ _ => []
  | .compost options osTime =>
    match compostOptions options osTime with
    | .ok (maxFresh, _) => removedAt s maxFresh
    | .error _ => []

def composted : Session → List Call → List Value
  | _, [] => []
  | s, c :: rest => removedBy s c ++ composted (machine.after s c) rest

def Call.adds : Call → Bool
  | .addGrave _ _ => true
  | .compost _ _ => false

structure Conserved (s : Session) (gone : List Value) (added : Nat) : Prop where
  ordered : Ordered s
  counted : Counted s.patterns gone
  balance : freshCount s + gone.length = added

theorem conserved_create (now : Value) : Conserved (create now) [] 0 := by
  refine ⟨⟨?_, nodup_nil⟩, ⟨nodup_nil, ?_, ?_, ?_, rfl⟩, rfl⟩
  · intro record inside
    cases inside
  · exact forall_mem_nil _
  · exact forall_mem_nil _
  · exact forall_mem_nil _

theorem Conserved.step {s : Session} {added : Nat} (held : Conserved s gone added) (c : Call)
    (succeeds : (machine.step s c).Succeeds) :
    Conserved (machine.after s c) (gone ++ removedBy s c) (added + if c.adds then 1 else 0) := by
  obtain ⟨answer, answered⟩ := succeeds
  cases c with
  | addGrave input osTime =>
    rcases ran : addGrave s input osTime with ⟨result, s'⟩
    have after : machine.after s (.addGrave input osTime) = s' := congrArg Prod.snd ran
    have same : (machine.step s (.addGrave input osTime)).1 = result.map Answer.grave :=
      congrArg (fun reply => reply.1.map Answer.grave) ran
    rw [same] at answered
    cases result with
    | error failure => cases answered
    | ok given =>
      obtain ⟨record, group, numbered, graves, next, patterns⟩ := addGrave_ok ran
      obtain ⟨ordered, count⟩ := held.ordered.added numbered graves next
      rw [after, removedBy, append_nil]
      refine ⟨ordered, patterns ▸ held.counted, ?_⟩
      rw [count, Call.adds, if_pos rfl, ← held.balance]
      omega
  | compost options osTime =>
    rcases ran : compost s options osTime with ⟨result, s'⟩
    have after : machine.after s (.compost options osTime) = s' := congrArg Prod.snd ran
    have same : (machine.step s (.compost options osTime)).1 = result.map Answer.payload :=
      congrArg (fun reply => reply.1.map Answer.payload) ran
    rw [same] at answered
    cases result with
    | error failure => cases answered
    | ok payload =>
      obtain ⟨maxFresh, now, read, left⟩ := compost_ok ran
      rw [after, removedBy, read, Call.adds, if_neg Bool.false_ne_true, add_zero]
      show Conserved s' (gone ++ removedAt s maxFresh) added
      rcases left with ⟨within, rfl⟩ | ⟨above, merged, merging, graves, next, patterns⟩
      · have law := compostLaw_within within
        rw [removedAt, within, if_pos rfl, append_nil]
        exact held
      · obtain ⟨counted, kept, next'⟩ := mergeAll_ok _ gone s merged merging held.counted
        rw [kept] at graves
        have law := compostLaw_of_removed held.ordered above graves
        refine ⟨law.ordered held.ordered (next.trans next'), ?_, ?_⟩
        · rw [patterns, removedAt, above, if_neg Bool.false_ne_true]
          exact counted
        · have balance := law.balance
          rw [length_append, ← held.balance]
          omega

theorem Conserved.run (calls : List Call) : ∀ (s : Session) (gone : List Value) (added : Nat),
    machine.Along (fun s c => (machine.step s c).Succeeds) s calls → Conserved s gone added →
    Conserved (machine.run s calls) (gone ++ composted s calls) (added + calls.countP Call.adds) := by
  induction calls with
  | nil =>
    intro s gone added _ held
    rw [composted, append_nil]
    exact held
  | cons c rest ih =>
    intro s gone added along held
    have later := ih _ _ _ along.2 (held.step c along.1)
    rw [Machine.run_cons, composted, ← append_assoc, countP_cons]
    have sum : added + (rest.countP Call.adds + if c.adds then 1 else 0)
        = added + (if c.adds then 1 else 0) + rest.countP Call.adds := by omega
    rw [sum]
    exact later

/-! ## Merging -/

def Agree (g h : Value) : Prop := ∃ parts, partsOf g = .ok parts ∧ partsOf h = .ok parts

def Merged (patterns : List Pattern) (g h : Value) : Prop :=
  ∃ p ∈ patterns, keyOf g = some p.key ∧ keyOf h = some p.key

/-- No two of the graves differ in their four parts while the parts, joined with `|`, read the
same. -/
def Unambiguous (graves : List Value) : Prop :=
  ∀ g ∈ graves, ∀ h ∈ graves, ∀ a b, partsOf g = .ok a → partsOf h = .ok b →
    patternKey a = patternKey b → a = b

theorem keyOf_some {key : Bytes} :
    keyOf record = some key ↔ ∃ parts, partsOf record = .ok parts ∧ patternKey parts = .ok key := by
  rw [keyOf]
  cases read : partsOf record with
  | error failure =>
    constructor
    · intro found
      cases found
    · rintro ⟨parts, made, -⟩
      cases made
  | ok parts =>
    show (patternKey parts).toOption = some key ↔ _
    constructor
    · intro found
      cases joined : patternKey parts with
      | error failure =>
        rw [joined] at found
        cases found
      | ok key' =>
        rw [joined] at found
        cases found
        exact ⟨parts, rfl, joined⟩
    · rintro ⟨parts', made, joined⟩
      cases made
      rw [joined]
      rfl

theorem Counted.merged_iff {patterns : List Pattern} (counted : Counted patterns gone) :
    (∀ g ∈ gone, ∀ h ∈ gone, (Merged patterns g h ↔ Agree g h)) ↔ Unambiguous gone := by
  constructor
  · intro exactly g inside h inside' a b read read' same
    obtain ⟨p, listed, key⟩ := counted.covered g inside
    obtain ⟨parts, made, joined⟩ := keyOf_some.mp key
    rw [read] at made
    cases made
    have key' : keyOf h = some p.key := keyOf_some.mpr ⟨b, read', same ▸ joined⟩
    obtain ⟨parts, left, right⟩ := (exactly g inside h inside').mp ⟨p, listed, key, key'⟩
    rw [read] at left
    rw [read'] at right
    cases left
    cases right
    rfl
  · intro clear g inside h inside'
    constructor
    · rintro ⟨p, -, key, key'⟩
      obtain ⟨a, read, joined⟩ := keyOf_some.mp key
      obtain ⟨b, read', joined'⟩ := keyOf_some.mp key'
      have same := clear g inside h inside' a b read read' (joined.trans joined'.symm)
      exact ⟨a, read, same ▸ read'⟩
    · rintro ⟨parts, read, read'⟩
      obtain ⟨p, listed, key⟩ := counted.covered g inside
      obtain ⟨parts', made, joined⟩ := keyOf_some.mp key
      rw [read] at made
      cases made
      exact ⟨p, listed, key, keyOf_some.mpr ⟨parts, read', joined⟩⟩

/-! ### Texts without bars -/

def IsText (v : Value) : Prop := v = .nil ∨ ∃ s, v = .str s ∧ s ≠ []

def BarFree (v : Value) : Prop := ∀ s, v = .str s → (124 : UInt8) ∉ s

structure Separable (parts : Parts) : Prop where
  texts : IsText parts.graveKind ∧ IsText parts.deathCause ∧ IsText parts.lastOperator
    ∧ IsText parts.doNotRepeat
  bars : BarFree parts.graveKind ∧ BarFree parts.deathCause ∧ BarFree parts.lastOperator

theorem concatItem_text {v : Value} (text : IsText v) : ∃ s, concatItem v = .ok s
    ∧ (BarFree v → (124 : UInt8) ∉ s) ∧ ∀ w, IsText w → concatItem w = .ok s → v = w := by
  rcases text with rfl | ⟨s, rfl, given⟩
  · refine ⟨[], rfl, fun _ => not_mem_nil, ?_⟩
    rintro w (rfl | ⟨t, rfl, present⟩) same
    · rfl
    · cases same
      exact absurd rfl present
  · refine ⟨s, rfl, fun free => free s rfl, ?_⟩
    rintro w (rfl | ⟨t, rfl, present⟩) same
    · cases same
      exact absurd rfl given
    · cases same
      rfl

theorem split_bar {s t u v : Bytes} (left : (124 : UInt8) ∉ s) (right : (124 : UInt8) ∉ t)
    (same : s ++ 124 :: u = t ++ 124 :: v) : s = t ∧ u = v := by
  induction s generalizing t with
  | nil =>
    cases t with
    | nil =>
      cases same
      exact ⟨rfl, rfl⟩
    | cons b rest =>
      rw [nil_append, cons_append] at same
      exact absurd (mem_cons.mpr (Or.inl (List.cons.inj same).1)) right
  | cons a rest ih =>
    cases t with
    | nil =>
      rw [nil_append, cons_append] at same
      exact absurd (mem_cons.mpr (Or.inl (List.cons.inj same).1.symm)) left
    | cons b more =>
      rw [cons_append, cons_append] at same
      obtain ⟨first, others⟩ := List.cons.inj same
      obtain ⟨front, tail⟩ := ih (fun inside => left (mem_cons_of_mem _ inside))
        (fun inside => right (mem_cons_of_mem _ inside)) others
      exact ⟨by rw [first, front], tail⟩

theorem patternKey_separable {a b : Parts} (left : Separable a) (right : Separable b)
    (same : patternKey a = patternKey b) : a = b := by
  obtain ⟨kind, kindText, kindFree, kindOf⟩ := concatItem_text left.texts.1
  obtain ⟨cause, causeText, causeFree, causeOf⟩ := concatItem_text left.texts.2.1
  obtain ⟨operator, operatorText, operatorFree, operatorOf⟩ := concatItem_text left.texts.2.2.1
  obtain ⟨again, againText, -, againOf⟩ := concatItem_text left.texts.2.2.2
  obtain ⟨kind', kindText', kindFree', -⟩ := concatItem_text right.texts.1
  obtain ⟨cause', causeText', causeFree', -⟩ := concatItem_text right.texts.2.1
  obtain ⟨operator', operatorText', operatorFree', -⟩ := concatItem_text right.texts.2.2.1
  obtain ⟨again', againText', -, -⟩ := concatItem_text right.texts.2.2.2
  have bar : utf8 "|" = [124] := rfl
  rw [patternKey, patternKey, kindText, causeText, operatorText, againText, kindText', causeText',
    operatorText', againText', bar] at same
  have keyed : kind ++ [124] ++ cause ++ [124] ++ operator ++ [124] ++ again
      = kind' ++ [124] ++ cause' ++ [124] ++ operator' ++ [124] ++ again' := Except.ok.inj same
  simp only [append_assoc, cons_append, nil_append] at keyed
  obtain ⟨sameKind, afterKind⟩ := split_bar (kindFree left.bars.1) (kindFree' right.bars.1) keyed
  obtain ⟨sameCause, afterCause⟩ :=
    split_bar (causeFree left.bars.2.1) (causeFree' right.bars.2.1) afterKind
  obtain ⟨sameOperator, sameAgain⟩ :=
    split_bar (operatorFree left.bars.2.2) (operatorFree' right.bars.2.2) afterCause
  subst sameKind sameCause sameOperator sameAgain
  have kinds := kindOf _ right.texts.1 kindText'
  have causes := causeOf _ right.texts.2.1 causeText'
  have operators := operatorOf _ right.texts.2.2.1 operatorText'
  have agains := againOf _ right.texts.2.2.2 againText'
  obtain ⟨_, _, _, _⟩ := a
  obtain ⟨_, _, _, _⟩ := b
  cases kinds
  cases causes
  cases operators
  cases agains
  rfl

theorem unambiguous_of_separable {graves : List Value}
    (each : ∀ g ∈ graves, ∀ parts, partsOf g = .ok parts → Separable parts) :
    Unambiguous graves := fun g inside h inside' a b read read' same =>
  patternKey_separable (each g inside a read) (each h inside' b read') same

/-! ## The law of the compost -/

/-- The limit `compost` is given, rounded down; 8 when there is none. -/
def LimitOf (options : Value) (maxFresh : Number) : Prop :=
  ((options.orElse .emptyTable).get "max_fresh_graves" = .nil ∧ maxFresh = .int 8)
  ∨ ∃ n, (options.orElse .emptyTable).get "max_fresh_graves" = .num n
    ∧ Number.lt n (.int 0) = false ∧ maxFresh = Number.floor n

theorem limit_of_options {now : Value} (read : compostOptions options osTime = .ok (maxFresh, now)) :
    LimitOf options maxFresh := by
  simp only [compostOptions, bind_eq_ok, pure_eq_ok, maxFreshGraves] at read
  obtain ⟨limit, ⟨given, found, chosen⟩, _, -, same⟩ := read
  cases same
  have field : (options.orElse .emptyTable).get "max_fresh_graves" = given := by
    revert found
    generalize options.orElse .emptyTable = table
    intro found
    cases table with
    | table | str => exact Except.ok.inj found
    | _ => cases found
  cases given with
  | nil =>
    cases chosen
    exact Or.inl ⟨field, rfl⟩
  | num n =>
    simp only [bind_eq_ok, require_eq_ok, pure_eq_ok] at chosen
    obtain ⟨⟨⟩, least, rfl⟩ := chosen
    exact Or.inr ⟨n, field, least, rfl⟩
  | _ => cases chosen

/-- What holds after a run of calls: nothing is lost, the next `compost` takes the oldest graves, and
patterns are what graves have in common. -/
structure GravesLaw (start : Session) (calls : List Call) : Prop where
  balance : freshCount (machine.run start calls)
    + ((machine.run start calls).patterns.map Pattern.count).sum = calls.countP Call.adds
  counted : Counted (machine.run start calls).patterns (composted start calls)
  composts : ∀ options osTime payload,
    (compost (machine.run start calls) options osTime).1 = .ok payload →
    ∃ maxFresh, LimitOf options maxFresh
      ∧ removedBy (machine.run start calls) (.compost options osTime)
        = removedAt (machine.run start calls) maxFresh
      ∧ CompostLaw (machine.run start calls) maxFresh
        (compost (machine.run start calls) options osTime).2
  merged : ∀ g ∈ composted start calls, ∀ h ∈ composted start calls,
    (Merged (machine.run start calls).patterns g h ↔ Agree g h)

theorem compostLaw_of_ok {s s' : Session} (ordered : Ordered s) (counted : Counted s.patterns gone)
    {payload : Payload} (done : compost s options osTime = (.ok payload, s')) :
    ∃ maxFresh, LimitOf options maxFresh
      ∧ removedBy s (.compost options osTime) = removedAt s maxFresh ∧ CompostLaw s maxFresh s' := by
  obtain ⟨maxFresh, now, read, left⟩ := compost_ok done
  refine ⟨maxFresh, limit_of_options read, by rw [removedBy, read], ?_⟩
  rcases left with ⟨within, rfl⟩ | ⟨above, merged, merging, graves, -, -⟩
  · exact compostLaw_within within
  · rw [(mergeAll_ok _ gone s merged merging counted).2.1] at graves
    exact compostLaw_of_removed ordered above graves

/-- Over every run of successful calls on a created session graves are conserved, the oldest are
composted first, and composted graves are merged when they agree, exactly if no two of them are
ambiguous. -/
theorem compost_conserves (now : Value) (calls : List Call)
    (along : machine.Along (fun s c => (machine.step s c).Succeeds) (create now) calls) :
    GravesLaw (create now) calls ↔ Unambiguous (composted (create now) calls) := by
  have held := Conserved.run calls (create now) [] 0 along (conserved_create now)
  rw [nil_append, zero_add] at held
  constructor
  · intro law
    exact held.counted.merged_iff.mp law.merged
  · intro clear
    refine ⟨?_, held.counted, ?_, held.counted.merged_iff.mpr clear⟩
    · rw [held.counted.total, held.balance]
    · intro options osTime payload answer
      rcases ran : compost (machine.run (create now) calls) options osTime with ⟨result, s'⟩
      rw [ran] at answer
      cases answer
      exact compostLaw_of_ok held.ordered held.counted ran

def cancelled (residue : List (String × Value)) : Call :=
  .addGrave (.record [("id", .text "packet-1"), ("death", .record [("cause", .text "cancelled")]),
    ("residue", .record residue)]) (.nat 1)

def compostAll : Call := .compost (.record [("max_fresh_graves", .nat 0)]) (.nat 2)

theorem compost_conserves_two : GravesLaw (create (.nat 0))
    [cancelled [("last_operator", .text "flow")], cancelled [("last_operator", .text "flow")],
      compostAll] := by
  have along : machine.Along (fun s c => (machine.step s c).Succeeds) (create (.nat 0))
      [cancelled [("last_operator", .text "flow")], cancelled [("last_operator", .text "flow")],
        compostAll] := ⟨by decide +kernel, by decide +kernel, by decide +kernel, trivial⟩
  refine (compost_conserves _ _ along).mpr (unambiguous_of_separable ?_)
  have read : ∀ g ∈ composted (create (.nat 0)) [cancelled [("last_operator", .text "flow")],
      cancelled [("last_operator", .text "flow")], compostAll], (partsOf g).toOption
        = some ⟨.text "neutral", .text "cancelled", .text "flow", .nil⟩ := by decide +kernel
  intro g inside parts made
  have same := read g inside
  rw [made] at same
  cases same
  refine ⟨⟨Or.inr ⟨_, rfl, by decide⟩, Or.inr ⟨_, rfl, by decide⟩, Or.inr ⟨_, rfl, by decide⟩,
    Or.inl rfl⟩, ?_, ?_, ?_⟩
  all_goals
    intro s text
    cases text
    decide

/-- Two warnings with different operators and different advice are counted in one pattern. -/
theorem merged_ambiguous : ∃ calls : List Call,
    machine.Along (fun s c => (machine.step s c).Succeeds) (create (.nat 0)) calls
    ∧ ¬ GravesLaw (create (.nat 0)) calls
    ∧ (machine.run (create (.nat 0)) calls).patterns.map Pattern.count = [2]
    ∧ ∃ g ∈ composted (create (.nat 0)) calls, ∃ h ∈ composted (create (.nat 0)) calls,
      (partsOf g).toOption ≠ (partsOf h).toOption := by
  let calls : List Call :=
    [cancelled [("last_operator", .text "flow|retry"), ("do_not_repeat", .text "loop")],
      cancelled [("last_operator", .text "flow"), ("do_not_repeat", .text "retry|loop")], compostAll]
  have collide : ∃ g ∈ composted (create (.nat 0)) calls, ∃ h ∈ composted (create (.nat 0)) calls,
      keyOf g = keyOf h ∧ (partsOf g).toOption ≠ (partsOf h).toOption := by decide +kernel
  obtain ⟨g, inside, h, inside', same, differ⟩ := collide
  refine ⟨calls, ⟨by decide +kernel, by decide +kernel, by decide +kernel, trivial⟩, ?_,
    by decide +kernel, g, inside, h, inside', differ⟩
  intro law
  obtain ⟨p, listed, key⟩ := law.counted.covered g inside
  obtain ⟨parts, left, right⟩ :=
    (law.merged g inside h inside').mp ⟨p, listed, key, same ▸ key⟩
  rw [left, right] at differ
  exact differ rfl

end Proc17.Runtime.SessionMemory
