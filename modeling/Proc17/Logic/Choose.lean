import Proc17.Layout.First
import Proc17.Lua.Call

/-!
# The choice

`logic/choose.lua`: the items of a field in the order of a ranking, those of them that are
eligible at the level of the collapse, and the first of these against the others.
-/

namespace Proc17.Logic.Choose

open Lua Layout List

structure Limits where
  maxSelected : Number
  maxKilledSample : Number

def normalizeLimit (limit : Value) (default : Nat) (least : Int) : Except Failure Number :=
  match limit.orElse (.nat default) with
  | .num n => if Number.lt n (.int least) then .error (refuse "invalid_limits") else .ok n.floor
  | _ => .error (refuse "invalid_limits")

def normalizeLimits (limits : Value) : Except Failure Limits := do
  let limits := limits.orElse .emptyTable
  require (limits.isTable = true) (refuse "invalid_limits")
  let maxSelected ← normalizeLimit (limits.get "max_selected") 1 1
  let maxKilledSample ← normalizeLimit (limits.get "max_killed_sample") 8 0
  pure ⟨maxSelected, maxKilledSample⟩

def copyArray (source : Value) : List Value := source.ipairs.toOption.getD []

structure Item where
  id : Bytes
  kind : Value
  value : Value
  label : Value
  content : Value
  role : Value
  parentId : Value
  potential : Value
  sourceRefs : List Value
  truthStatus : Value
  originalIndex : Nat
deriving DecidableEq

structure Reason where
  text : Value
  truthStatus : String

/-- What `killed_item` keeps of an item. -/
structure KilledItem where
  id : Bytes
  kind : Value
  value : Value
  label : Value
  content : Value
  role : Value
  parentId : Value
  sourceRefs : List Value
  sourceTruthStatus : Value

structure SelectedItem extends KilledItem where
  potential : Value
  reason : Reason

structure Input where
  limits : Value
  field : Value
  pressure : Value
  semanticRanking : Value

section
variable (tostring : Value → Bytes)

def itemId (item : Value) (index : Nat) : Bytes :=
  if item.get "id" ≠ .nil then tostring (item.get "id")
  else if item.get "value" ≠ .nil then tostring (item.get "value")
  else tostring (.nat index)

def normalizeItem (field item : Value) (index : Nat) : Item where
  id := itemId tostring item index
  kind := item.get "kind"
  value := item.get "value"
  label := item.get "label"
  content := item.get "content"
  role := item.get "role"
  parentId := item.get "parent_id"
  potential := item.get "potential"
  sourceRefs := copyArray (item.get "source_refs")
  truthStatus := (item.get "truth_status").orElse
    ((field.get "truth_status").orElse (.text "unknown"))
  originalIndex := index

def normalizeItems (field : Value) : Except Failure (List Item) := do
  require (field.isTable = true) (refuse "missing_field")
  require ((field.get "items").isTable = true) (refuse "invalid_field_items")
  let items ← (field.get "items").ipairs
  require (items ≠ []) (refuse "empty_field")
  require (∀ item ∈ items, item.isTable = true) (refuse "invalid_field_items")
  pure ((items.zipIdx 1).map fun entry => normalizeItem tostring field entry.1 entry.2)

/-- `by_id[tostring(ref)]`: the last item written under its id or its value. -/
def named (items : List Item) (ref : Value) : Option Item :=
  items.reverse.find? fun item =>
    item.id = tostring ref ∨ item.value ≠ .nil ∧ tostring item.value = tostring ref

def mention (items : List Item) (status : String) (rankItem : Value) : Option (Item × Reason) :=
  let ref := if rankItem.isTable then
      (rankItem.get "value").orElse ((rankItem.get "path").orElse (rankItem.get "id"))
    else rankItem
  if ref = .nil then none
  else (named tostring items ref).map fun item => (item, ⟨rankItem.get "reason", status⟩)

def rankingItems (ranking : Value) : List Value := copyArray (ranking.get "items")

def mentions (items : List Item) (status : String) (ranking : Value) : List (Item × Reason) :=
  (rankingItems ranking).filterMap (mention tostring items status)
    ++ items.map fun item => (item, ⟨.nil, "unknown"⟩)

/-- `ordered`, each item with its entry of `seen`. -/
def rankedOrder (items : List Item) (status : String) (ranking : Value) : List (Item × Reason) :=
  keepFirst (·.1.id) (mentions tostring items status ranking)

end

def rankTruth (ranking : Value) : Except Failure Value :=
  if ranking.truthy then do
    let status ← ranking.index "truth_status"
    pure (status.orElse (.text "semantic_proposal"))
  else pure (.text "semantic_proposal")

def killedItem (item : Item) : KilledItem where
  id := item.id
  kind := item.kind
  value := item.value
  label := item.label
  content := item.content
  role := item.role
  parentId := item.parentId
  sourceRefs := item.sourceRefs
  sourceTruthStatus := item.truthStatus

def selectedItem (entry : Item × Reason) : SelectedItem where
  toKilledItem := killedItem entry.1
  potential := entry.1.potential
  reason := entry.2

def structureLevels : List (String × String) :=
  [("hierarchy", "node"), ("sequence", "step"), ("category", "category_member"),
    ("teaching", "teaching_unit"), ("language", "language_unit")]

def collapseLevel (field pressure : Value) : Except Failure Value := do
  let level ← (pressure.orElse .emptyTable).index "collapse_level"
  if level.truthy then return level
  if field.get "shape" = .text "repo_path_field" then return .text "path"
  if field.get "shape" = .text "structured_reflection_field" then
    return .text (if field.get "intent" = .text "preserve_reflection" then "child" else "section")
  if field.get "shape" = .text "residue_field" then return .text "residue"
  let kind ← ((field.get "structure").orElse .emptyTable).index "kind"
  match structureLevels.find? fun entry => kind = .text entry.1 with
  | some entry => pure (.text entry.2)
  | none => pure (.text "item")

def eligibleForLevel (level : Value) (item : Item) : Bool :=
  let role (names : List String) : Bool := names.any fun name => item.role = .text name
  let kind (names : List String) : Bool := names.any fun name => item.kind = .text name
  let bare : Bool := item.role = .nil
  if level = .text "node" then bare || role ["alternative", "container", "evidence"]
  else if level = .text "step" then
    bare || role ["alternative"] || kind ["step", "semantic_line", "section_child"]
  else if level = .text "category_member" then
    bare || role ["alternative", "residue"] || item.kind ≠ .nil
  else if level = .text "teaching_unit" then
    bare || role ["alternative", "residue"] || kind ["section_child", "semantic_line"]
  else if level = .text "language_unit" then
    bare || role ["alternative", "residue"] || kind ["semantic_line"]
  else if level = .text "path" then kind ["repo_path"] || role ["alternative"]
  else if level = .text "section" then kind ["section"] || role ["container"]
  else if level = .text "child" then kind ["section_child"] || role ["child", "alternative"]
  else if level = .text "residue" then
    kind ["dissolved_residue", "unsupported_residue"] || role ["residue"]
  else bare || role ["alternative", "residue"]

/-- The loop over `ordered`, from a number of selected items on. -/
def select {α : Type} (maxSelected : Number) : Nat → List α → List α
  | _, [] => []
  | n, a :: rest =>
    if Number.le maxSelected (.int n) then [] else a :: select maxSelected (n + 1) rest

structure Choice where
  selected : List SelectedItem
  killedAlternatives : List KilledItem
  suppressedIds : List Bytes
  notChosenCount : Nat
  collapseType : Value
  collapseLevel : Value
  beforeCount : Nat
  afterCount : Nat
  truncated : Bool
  choicePressure : Value
  basisOrder : String
  rankingTruthStatus : Value
  limits : Limits

structure Setting where
  limits : Limits
  items : List Item
  level : Value
  rankTruth : Value

section
variable (tostring : Value → Bytes)

def prepare (input : Input) : Except Failure Setting := do
  let limits ← normalizeLimits input.limits
  let items ← normalizeItems tostring input.field
  let level ← collapseLevel input.field input.pressure
  let truth ← rankTruth input.semanticRanking
  pure ⟨limits, items, level, truth⟩

namespace Setting

variable (s : Setting) (ranking : Value)

def status : String :=
  if s.rankTruth = .text "runtime_confirmed" then "runtime_confirmed" else "semantic_proposal"

def ordered : List (Item × Reason) :=
  (rankedOrder tostring s.items s.status ranking).filter fun entry =>
    eligibleForLevel s.level entry.1

def selected : List (Item × Reason) := select s.limits.maxSelected 0 (s.ordered tostring ranking)

def killedFull : List Item :=
  s.items.filter fun item => item.id ∈ (s.ordered tostring ranking).map (·.1.id)
    ∧ item.id ∉ (s.selected tostring ranking).map (·.1.id)

/-- `copy_array(killed_full, limits.max_killed_sample)` -/
def killedSample : List KilledItem :=
  match s.limits.maxKilledSample with
  | .int most => ((s.killedFull tostring ranking).map killedItem).take most.toNat
  | _ => (s.killedFull tostring ranking).map killedItem

/-- The record that `choose` returns. -/
def choice (input : Input) : Choice :=
  let ranking := input.semanticRanking
  let before := (s.ordered tostring ranking).length
  let after := (s.selected tostring ranking).length
  { selected := (s.selected tostring ranking).map selectedItem
    killedAlternatives := s.killedSample tostring ranking
    suppressedIds := (s.killedFull tostring ranking).map Item.id
    notChosenCount := before - after
    collapseType :=
      if before ≤ after then .text "confirmation"
      else if s.level = .text "step" then .text "next_step" else s.level
    collapseLevel := s.level
    beforeCount := before
    afterCount := after
    truncated := decide ((s.killedSample tostring ranking).length
      < (s.killedFull tostring ranking).length)
    choicePressure := if input.pressure.isTable then input.pressure else .emptyTable
    basisOrder :=
      if ranking.truthy then "semantic_ranking_then_field_order" else "field_order"
    rankingTruthStatus := if ranking.truthy then s.rankTruth else .nil
    limits := s.limits }

end Setting

def choose (input : Input) : Except Failure Choice := do
  let s ← prepare tostring input
  require (s.selected tostring input.semanticRanking ≠ []) (refuse "empty_field")
  pure (s.choice tostring input)

end

theorem select_eq {α : Type} (maxSelected : Number) (n : Nat) (l : List α) :
    select maxSelected n l = l.take
      ((List.range' n l.length).findIdx fun count : Nat => Number.le maxSelected (.int count)) := by
  induction l generalizing n with
  | nil => rfl
  | cons a l ih =>
    rw [select, length_cons, range'_succ, findIdx_cons]
    split
    · rename_i full
      simp [full]
    · rename_i room
      simp [room, ih]

namespace Setting

section
variable (tostring : Value → Bytes) (s : Setting) (ranking : Value)

def eligible : List Item := s.items.filter (eligibleForLevel s.level)

/-- The eligible items in the order of their first mentions. -/
def eligibleOrder : List (Item × Reason) :=
  (keepFirst Prod.fst (mentions tostring s.items s.status ranking)).filter fun entry =>
    eligibleForLevel s.level entry.1

/-- `min(max_selected, eligible)` -/
def quota : Nat := (List.range s.eligible.length).findIdx fun count : Nat =>
  Number.le s.limits.maxSelected (.int count)

def firstEligible : List (Item × Reason) := (s.eligibleOrder tostring ranking).take s.quota

def known (rankItem : Value) : Bool := (mention tostring s.items s.status rankItem).isSome

/-- An eligible item that shares its id is the only eligible one of that id, is mentioned before
the others and is among the selected. -/
def Unambiguous : Prop :=
  let order := (mentions tostring s.items s.status ranking).map Prod.fst
  ∀ x ∈ s.items, ∀ y ∈ s.items, eligibleForLevel s.level x = true → y.id = x.id → y ≠ x →
    eligibleForLevel s.level y = false ∧ order.idxOf x < order.idxOf y
      ∧ x ∈ (s.firstEligible tostring ranking).map Prod.fst

end

variable {tostring : Value → Bytes} {s : Setting} {ranking : Value} {x : Item}

theorem mem_mentions {status : String} :
    x ∈ (mentions tostring s.items status ranking).map Prod.fst ↔ x ∈ s.items := by
  rw [mentions, map_append, mem_append, map_map]
  refine ⟨fun either => either.elim (fun ranked => ?_) fun listed => ?_, fun listed => .inr ?_⟩
  · obtain ⟨entry, mentioned, rfl⟩ := mem_map.mp ranked
    obtain ⟨rankItem, -, found⟩ := mem_filterMap.mp mentioned
    simp only [mention, Option.ite_none_left_eq_some, Option.map_eq_some_iff] at found
    obtain ⟨-, item, found, rfl⟩ := found
    exact mem_reverse.mp (mem_of_find?_eq_some found)
  · simpa using listed
  · simpa using listed

theorem mem_ordered (found : x ∈ (s.ordered tostring ranking).map Prod.fst) : x ∈ s.eligible := by
  obtain ⟨entry, kept, rfl⟩ := mem_map.mp found
  obtain ⟨kept, eligible⟩ := mem_filter.mp kept
  exact mem_filter.mpr
    ⟨mem_mentions.mp (mem_map_of_mem (mem_of_mem_keepFirst kept)), eligible⟩

theorem ordered_nodup : ((s.ordered tostring ranking).map (·.1.id)).Nodup :=
  (nodup_keys_keepFirst _ _).sublist (filter_sublist.map _)

theorem eligibleOrder_perm (distinct : s.items.Nodup) :
    ((s.eligibleOrder tostring ranking).map Prod.fst).Perm s.eligible := by
  have named : (s.eligibleOrder tostring ranking).map Prod.fst
      = ((keepFirst Prod.fst (mentions tostring s.items s.status ranking)).map Prod.fst).filter
        (eligibleForLevel s.level) := by
    rw [filter_map]
    rfl
  rw [named]
  refine ((perm_ext_iff_of_nodup (nodup_keys_keepFirst _ _) distinct).mpr fun x => ?_).filter _
  rw [mem_keys_keepFirst, mem_mentions]

theorem Unambiguous.ordered_eq (apart : s.Unambiguous tostring ranking) :
    s.ordered tostring ranking = s.eligibleOrder tostring ranking := by
  refine filter_keepFirst_congr fun before entry after split eligible =>
    ⟨fun seen => ?_, fun seen => ?_⟩ <;> obtain ⟨earlier, listed, same⟩ := mem_map.mp seen
  · have item (entry') (stands : entry' ∈ before ++ entry :: after) : entry'.1 ∈ s.items :=
      mem_mentions.mp (mem_map_of_mem (split.symm ▸ stands))
    have place := mem_map_of_mem (f := Prod.fst) listed
    by_cases equal : earlier.1 = entry.1
    · exact equal ▸ place
    · obtain ⟨-, first, -⟩ := apart _ (item entry (by simp)) _ (item earlier (by simp [listed]))
        eligible same equal
      by_contra unseen
      rw [split, map_append, idxOf_append_of_mem place, idxOf_append_of_notMem unseen] at first
      have := idxOf_lt_length_iff.mpr place
      omega
  · exact mem_map.mpr ⟨earlier, listed, congrArg Item.id same⟩

theorem Unambiguous.ordered_perm (clear : s.Unambiguous tostring ranking)
    (distinct : s.items.Nodup) :
    ((s.ordered tostring ranking).map Prod.fst).Perm s.eligible :=
  clear.ordered_eq ▸ eligibleOrder_perm distinct

theorem selected_prefix : s.selected tostring ranking <+: s.ordered tostring ranking := by
  rw [selected, select_eq]
  exact take_prefix _ _

theorem Unambiguous.selected_eq (clear : s.Unambiguous tostring ranking)
    (distinct : s.items.Nodup) :
    s.selected tostring ranking = s.firstEligible tostring ranking := by
  rw [selected, select_eq, clear.ordered_eq, firstEligible, quota, range_eq_range',
    ← (eligibleOrder_perm distinct).length_eq, length_map]

theorem Unambiguous.killedFull_eq (clear : s.Unambiguous tostring ranking)
    (distinct : s.items.Nodup) : s.killedFull tostring ranking
      = s.eligible.filter (·.id ∉ (s.selected tostring ranking).map (·.1.id)) := by
  rw [killedFull, eligible, filter_filter]
  refine filter_congr fun item listed => Bool.eq_iff_iff.mpr ?_
  simp only [decide_eq_true_eq, Bool.and_eq_true]
  refine ⟨fun found => ⟨found.2, ?_⟩, fun found => ⟨?_, found.1⟩⟩
  · obtain ⟨entry, ordered, same⟩ := mem_map.mp found.1
    obtain ⟨place, eligible⟩ := mem_filter.mp (mem_ordered (mem_map_of_mem ordered))
    by_cases equal : item = entry.1
    · exact equal ▸ eligible
    · obtain ⟨-, -, first⟩ := clear _ place item listed eligible same.symm equal
      rw [← clear.selected_eq distinct] at first
      obtain ⟨taken, chosen, fst⟩ := mem_map.mp first
      exact absurd (mem_map.mpr ⟨taken, chosen, (congrArg Item.id fst).trans same⟩) found.2
  · obtain ⟨entry, stands, rfl⟩ := mem_map.mp
      ((clear.ordered_perm distinct).mem_iff.mpr (mem_filter.mpr ⟨listed, found.2⟩))
    exact mem_map.mpr ⟨entry, stands, rfl⟩

end Setting

/-- The parts of a choice against the eligible items of its field. -/
structure Partitions (tostring : Value → Bytes) (input : Input) (s : Setting) (c : Choice) :
    Prop where
  whole : (c.selected.map (·.id) ++ c.suppressedIds).Perm (s.eligible.map Item.id)
  apart : (c.selected.map (·.id) ++ c.suppressedIds).Nodup
  counted : c.notChosenCount = c.suppressedIds.length
    ∧ c.afterCount + c.suppressedIds.length = c.beforeCount
  first : c.selected = (s.firstEligible tostring input.semanticRanking).map selectedItem
  sampled : ∃ suppressed : List Item, suppressed.Sublist s.eligible
    ∧ c.suppressedIds = suppressed.map Item.id ∧ c.killedAlternatives <+: suppressed.map killedItem
  steady (ranking : Value) : ranking.truthy = input.semanticRanking.truthy →
    ranking.index "truth_status" = input.semanticRanking.index "truth_status" →
    (rankingItems ranking).filter (s.known tostring)
      = (rankingItems input.semanticRanking).filter (s.known tostring) →
    choose tostring { input with semanticRanking := ranking } = .ok c

section
variable {tostring : Value → Bytes} {input : Input} {s : Setting} {c : Choice}

theorem ids_selected (entries : List (Item × Reason)) :
    (entries.map selectedItem).map (·.id) = entries.map (·.1.id) := by
  rw [map_map]
  rfl

theorem items_nodup (prepared : prepare tostring input = .ok s) : s.items.Nodup := by
  simp only [prepare, normalizeItems, bind_eq_ok, require_eq_ok, pure_eq_ok] at prepared
  obtain ⟨_, -, _, ⟨_, -, _, -, items, -, _, -, _, -, rfl⟩, _, -, _, -, rfl⟩ := prepared
  refine List.Nodup.of_map Item.originalIndex ?_
  rw [map_map, show (Item.originalIndex ∘ fun entry : Value × Nat =>
    normalizeItem tostring input.field entry.1 entry.2) = Prod.snd from rfl, zipIdx_map_snd]
  exact nodup_range'

theorem ordered_steady {ranking ranking' : Value} (same : (rankingItems ranking).filter
    (s.known tostring) = (rankingItems ranking').filter (s.known tostring)) :
    s.ordered tostring ranking = s.ordered tostring ranking' := by
  have mentioned (ranking : Value) : (rankingItems ranking).filterMap
      (mention tostring s.items s.status) = ((rankingItems ranking).filter
        (s.known tostring)).filterMap (mention tostring s.items s.status) := by
    rw [filterMap_filter]
    refine filterMap_congr fun rankItem _ => ?_
    rw [Setting.known]
    cases mention tostring s.items s.status rankItem <;> rfl
  rw [Setting.ordered, Setting.ordered, rankedOrder, rankedOrder, mentions, mentions,
    mentioned ranking, same, ← mentioned ranking']

section

variable (prepared : prepare tostring input = .ok s)
include prepared

theorem choose_steady {ranking : Value}
    (truthy : ranking.truthy = input.semanticRanking.truthy)
    (truth : ranking.index "truth_status" = input.semanticRanking.index "truth_status")
    (same : (rankingItems ranking).filter (s.known tostring)
      = (rankingItems input.semanticRanking).filter (s.known tostring)) :
    choose tostring { input with semanticRanking := ranking } = choose tostring input := by
  have prepared' : prepare tostring { input with semanticRanking := ranking } = .ok s := by
    rw [← prepared, prepare, prepare, rankTruth, rankTruth, truthy, truth]
  simp only [choose, prepared, prepared', ok_then, Setting.choice, Setting.killedSample,
    Setting.killedFull, Setting.selected, ordered_steady same, truthy]
  rfl

theorem partitions_of_unambiguous
    (chosen : choose tostring input = .ok c)
    (clear : s.Unambiguous tostring input.semanticRanking) : Partitions tostring input s c := by
  have distinct := items_nodup prepared
  have killed := clear.killedFull_eq distinct
  have ids := (clear.ordered_perm distinct).map Item.id
  rw [map_map] at ids
  have once := ids.nodup_iff.mp Setting.ordered_nodup
  have sub : (s.killedFull tostring input.semanticRanking).Sublist s.eligible :=
    killed ▸ filter_sublist
  have apart : ((s.selected tostring input.semanticRanking).map (·.1.id)
      ++ (s.killedFull tostring input.semanticRanking).map Item.id).Nodup := by
    refine nodup_append.mpr ⟨Setting.ordered_nodup.sublist
      (Setting.selected_prefix.sublist.map _), once.sublist (sub.map _),
      fun id kept id' lost same => ?_⟩
    obtain ⟨item, killed', rfl⟩ := mem_map.mp lost
    rw [killed, mem_filter, decide_eq_true_eq] at killed'
    exact killed'.2 (same ▸ kept)
  have whole : ((s.selected tostring input.semanticRanking).map (·.1.id)
      ++ (s.killedFull tostring input.semanticRanking).map Item.id).Perm
      (s.eligible.map Item.id) := by
    refine (perm_ext_iff_of_nodup apart once).mpr fun id => ?_
    rw [mem_append]
    refine ⟨fun either => either.elim (fun kept => ?_) fun lost => (sub.map _).subset lost,
      fun eligible => ?_⟩
    · exact ids.subset ((Setting.selected_prefix.sublist.map _).subset kept)
    · by_cases kept : id ∈ (s.selected tostring input.semanticRanking).map (·.1.id)
      · exact .inl kept
      · obtain ⟨item, listed, rfl⟩ := mem_map.mp eligible
        exact .inr (mem_map_of_mem
          (killed ▸ mem_filter.mpr ⟨listed, decide_eq_true kept⟩))
  have count := whole.length_eq.trans ids.length_eq.symm
  simp only [length_append, length_map] at count
  have rest (ranking : Value) := @choose_steady _ _ _ prepared ranking
  rw [chosen] at rest
  simp only [choose, prepared, ok_then, bind_eq_ok, require_eq_ok, pure_eq_ok] at chosen
  obtain ⟨-, -, rfl⟩ := chosen
  refine ⟨?_, ?_, ⟨?_, ?_⟩, ?_, ⟨_, sub, rfl, ?_⟩, rest⟩
  · simpa only [Setting.choice, ids_selected] using whole
  · simpa only [Setting.choice, ids_selected] using apart
  · simp only [Setting.choice, length_map]
    omega
  · simp only [Setting.choice, length_map]
    omega
  · exact congrArg (map selectedItem) (clear.selected_eq distinct)
  · simp only [Setting.choice, Setting.killedSample]
    split
    · exact take_prefix _ _
    · exact prefix_refl _

theorem unambiguous_of_partitions
    (chosen : choose tostring input = .ok c) (parts : Partitions tostring input s c) :
    s.Unambiguous tostring input.semanticRanking := by
  obtain ⟨whole, apart, -, first, -, -⟩ := parts
  simp only [choose, prepared, ok_then, bind_eq_ok, require_eq_ok, pure_eq_ok] at chosen
  obtain ⟨-, -, rfl⟩ := chosen
  simp only [Setting.choice, ids_selected] at whole apart first
  have alone := inj_on_of_nodup_map (whole.nodup_iff.mp apart)
  intro x xListed y yListed eligible same other
  have xEligible := mem_filter.mpr ⟨xListed, eligible⟩
  have ordered : x.id ∈ (s.ordered tostring input.semanticRanking).map (·.1.id) := by
    rcases mem_append.mp (whole.mem_iff.mpr (mem_map_of_mem xEligible)) with kept | lost
    · exact (Setting.selected_prefix.sublist.map _).subset kept
    · obtain ⟨item, lost, same⟩ := mem_map.mp lost
      exact same ▸ (of_decide_eq_true (mem_filter.mp lost).2).1
  obtain ⟨entry, stands, sameId⟩ := mem_map.mp ordered
  have self : entry.1 = x :=
    alone (Setting.mem_ordered (mem_map_of_mem stands)) xEligible sameId
  obtain ⟨before, after, split, fresh⟩ := before_of_mem_keepFirst (mem_filter.mp stands).1
  have unseen (z : Item) (shares : z.id = x.id) : z ∉ before.map Prod.fst := fun seen => by
    obtain ⟨earlier, listed, rfl⟩ := mem_map.mp seen
    exact fresh (mem_map.mpr ⟨earlier, listed, shares.trans sameId.symm⟩)
  refine ⟨?_, ?_, ?_⟩
  · by_contra both
    exact other (alone (mem_filter.mpr ⟨yListed, by simpa using both⟩) xEligible same)
  · rw [split, map_append, idxOf_append_of_notMem (unseen x rfl),
      idxOf_append_of_notMem (unseen y same), map_cons, self, idxOf_cons_self,
      idxOf_cons_ne _ (Ne.symm other)]
    omega
  · by_contra missed
    have ids := congrArg (map (·.id)) first
    rw [ids_selected, ids_selected] at ids
    have lost : x.id ∉ (s.selected tostring input.semanticRanking).map (·.1.id) := fun kept => by
      obtain ⟨taken, chosen, sameId⟩ := mem_map.mp (ids ▸ kept)
      have place := (Setting.eligibleOrder_perm (items_nodup prepared)).subset
        (mem_map_of_mem (take_subset _ _ chosen))
      exact missed (mem_map.mpr ⟨taken, chosen, alone place xEligible sameId⟩)
    have killed (z : Item) (listed : z ∈ s.items) (shares : z.id = x.id) :
        z ∈ s.killedFull tostring input.semanticRanking :=
      mem_filter.mpr ⟨listed, decide_eq_true (shares ▸ ⟨ordered, lost⟩)⟩
    exact other (inj_on_of_nodup_map (nodup_append.mp apart).2.1
      (killed y yListed same) (killed x xListed rfl) same)

end

end

theorem choice_partitions_iff {tostring : Value → Bytes} {input : Input} {s : Setting}
    {c : Choice} (prepared : prepare tostring input = .ok s)
    (chosen : choose tostring input = .ok c) :
    Partitions tostring input s c ↔ s.Unambiguous tostring input.semanticRanking :=
  ⟨unambiguous_of_partitions prepared chosen, partitions_of_unambiguous prepared chosen⟩

def fieldOf (ids : List String) : Input where
  limits := .record [("max_selected", .nat 1)]
  field := .record [("items", .array (ids.map fun id => .record [("id", .text id)]))]
  pressure := .nil
  semanticRanking := .nil

theorem distinct_ids_partition : ∃ s c, prepare Value.tostring (fieldOf ["a", "b"]) = .ok s
    ∧ choose Value.tostring (fieldOf ["a", "b"]) = .ok c
    ∧ Partitions Value.tostring (fieldOf ["a", "b"]) s c :=
  ⟨_, _, rfl, rfl, (choice_partitions_iff rfl rfl).mpr (by unfold Setting.Unambiguous; decide)⟩

theorem repeated_id_suppressed_twice : ∃ s c,
    prepare Value.tostring (fieldOf ["a", "b", "b"]) = .ok s
    ∧ choose Value.tostring (fieldOf ["a", "b", "b"]) = .ok c
    ∧ c.suppressedIds = [utf8 "b", utf8 "b"] ∧ c.notChosenCount = 1
    ∧ ¬ Partitions Value.tostring (fieldOf ["a", "b", "b"]) s c :=
  ⟨_, _, rfl, rfl, by decide, by decide, fun parts => absurd parts.counted.1 (by decide)⟩

end Proc17.Logic.Choose
