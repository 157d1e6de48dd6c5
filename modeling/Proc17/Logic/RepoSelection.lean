import Mathlib.Data.List.DropRight
import Mathlib.Data.List.Dedup
import Mathlib.Data.List.Sort
import Proc17.Layout.First
import Proc17.Lua.Pattern

/-!
# Paths in a text

`logic/repo_selection.lua` and `sandbox.check_path`: the paths that a text names, against the
entries of a listing.
-/

namespace Proc17.Logic.RepoSelection

open Lua Lua.Number Lua.Pattern Layout List

/-- `sandbox.check_path`: why a path is refused. -/
def checkPath (path : Bytes) : Option String :=
  if path = [] then some "path is required"
  else if path.head? = some 47 then some "absolute paths are not allowed"
  else ((path.splitOn 47).filter (· ≠ [])).findSome? fun part =>
    if part = utf8 ".." then some "parent traversal is not allowed"
    else if part = utf8 ".git" ∨ part = utf8 ".agents" ∨ part = utf8 ".codex" then
      some "hidden control directories are not allowed"
    else none

/-- `index`: the paths of the entries with their kinds, later entries over earlier ones. -/
abbrev Index := List (Bytes × Value)

def Index.find (index : Index) (path : Bytes) : Option Value :=
  (index.reverse.find? (·.1 = path)).map Prod.snd

def buildIndex (listing : Value) : Except Failure Index := do
  require (listing.isTable = true ∧ (listing.get "entries").isTable = true)
    (refuse "listing.entries is required")
  let entries ← (listing.get "entries").ipairs
  let indexed ← entries.mapM fun entry => do
    let path ← entry.index "path"
    pure (match path with
      | .str path => if path = [] then none else some (path, entry.get "kind")
      | _ => none)
  pure (indexed.filterMap fun entry => entry)

def sortedPaths (index : Index) : List Bytes :=
  (index.map Prod.fst).dedup.insertionSort fun left right =>
    right.length < left.length ∨ left.length = right.length ∧ left ≤ right

def isNameChar (b : UInt8) : Bool := isAlnum b || b = 46 || b = 95 || b = 45

def isPathChar (b : UInt8) : Bool := isNameChar b || b = 47

/-- A slash, or `^[%w%._%-]+%.[%a][%w]*$`. -/
def looksLikePath (token : Bytes) : Bool :=
  47 ∈ token || (matchFront true
    [⟨isNameChar, .some, false⟩, one (· = 46), one isAlpha, ⟨isAlnum, .many, false⟩] token).isSome

def occursAt (text path : Bytes) (i : Nat) : Bool := path.isPrefixOf (text.drop i)

/-- `text:find(path, start, true)`, from zero. -/
def findFrom (text path : Bytes) (start : Nat) : Option Nat :=
  (List.range' start (text.length - start)).find? (occursAt text path)

/-- No path character stands directly before or after the occurrence. -/
def standsAlone (text path : Bytes) (i : Nat) : Bool :=
  !(i ≠ 0 && text[i - 1]?.any isPathChar) && !text[i + path.length]?.any isPathChar

/-- The loop of `contains_path`; every round goes on past an occurrence. -/
def scan (text path : Bytes) : Nat → Nat → Bool
  | 0, _ => false
  | fuel + 1, start =>
    match findFrom text path start with
    | none => false
    | some i => standsAlone text path i || scan text path fuel (i + path.length)

def containsPath (text path : Bytes) : Bool :=
  looksLikePath path && scan text path (text.length + 1) 0

def cleanToken (token : Bytes) : Bytes :=
  let cleaned := (trim token).dropWhile fun b => b = 42 || b = 45 || isDigit b || b = 46 || isSpace b
  (cleaned.rdropWhile (· ∈ utf8 ".,:;)]\x7d")).dropWhile (· ∈ utf8 "([\x7b")

def backtickToken : List Item := [one (· = 96), ⟨(· ≠ 96), .some, true⟩, one (· = 96)]

def boldToken : List Item :=
  [one (· = 42), one (· = 42), ⟨(· ≠ 42), .some, true⟩, one (· = 42), one (· = 42)]

/-- The path at the front of a list item, with its marker: `[%-%—:]` is a class of bytes. -/
def leadingPath (line : Bytes) : Option Bytes :=
  let spaces : Item := ⟨isSpace, .many, false⟩
  let tick : Item := ⟨(· = 96), .optional, false⟩
  let named : List Item := [spaces, tick, ⟨isPathChar, .some, true⟩, tick, spaces,
    one (· ∈ utf8 "-—:")]
  let bullet : Item := ⟨fun b => b = 45 || b = 42, .optional, false⟩
  ((matchFront false (spaces :: bullet :: named) line).orElse fun _ =>
    matchFront false (spaces :: ⟨isDigit, .some, false⟩ :: one (· = 46) :: named) line).map Prod.fst

structure Candidate where
  path : Bytes
  kind : Value
  source : String

/-- The candidates in the order of `add_candidate`, each path once. -/
def extractPaths (text : Bytes) (index : Index) : List Candidate :=
  let candidates (source : String) (paths : List Bytes) : List Candidate :=
    paths.map fun path => ⟨path, (index.find path).getD .nil, source⟩
  let tokens (found : List Bytes) : List Bytes := (found.map cleanToken).filter looksLikePath
  keepFirst Candidate.path
    (candidates "listed_exact_text_match" ((sortedPaths index).filter (containsPath text))
      ++ candidates "backtick_path_token" (tokens (gmatch backtickToken text))
      ++ candidates "bold_path_token" (tokens (gmatch boldToken text))
      ++ candidates "line_leading_path" (tokens ((text.splitOn 10).filterMap leadingPath)))

structure Verdicts where
  accepted : List (Bytes × Value)
  rejected : List (Bytes × String)

/-- The keys of `seen`. -/
def Verdicts.seen (v : Verdicts) : List Bytes := v.accepted.map Prod.fst ++ v.rejected.map Prod.fst

/-- One round of the loop of `validate`. -/
def Verdicts.judge (maxPaths : Number) (allowDirectories : Bool) (index : Index) (v : Verdicts)
    (candidate : Candidate) : Verdicts :=
  let path := candidate.path
  let reject (reason : String) : Verdicts := { v with rejected := v.rejected ++ [(path, reason)] }
  if path ∈ v.seen then v
  else match index.find path with
    | none => reject "absent_from_listing"
    | some kind =>
      match checkPath path with
      | some reason => reject reason
      | none =>
        if kind = .text "directory" ∧ allowDirectories = false then reject "directory_not_allowed"
        else if Number.le maxPaths (.int v.accepted.length) then reject "max_paths_exceeded"
        else { v with accepted := v.accepted ++ [(path, kind)] }

structure Input where
  listing : Value
  text : Value
  maxPaths : Value
  allowDirectories : Value

structure Payload where
  verdicts : Verdicts
  reasons : List (Bytes × Bytes)
  unparsedText : Value
  maxPaths : Number
  allowDirectories : Bool

def positiveLimit : Value → Except Failure Number
  | .num n =>
    if Number.lt n (.int 1) then .error (refuse "max_paths must be positive number") else .ok n
  | _ => .error (refuse "max_paths must be positive number")

section
variable (tostring : Value → Bytes)

def Input.given (input : Input) : Bytes := tostring (input.text.orElse (.str []))

def validate (input : Input) : Except Failure Payload := do
  let maxPaths ← positiveLimit (input.maxPaths.orElse (.nat 8))
  let index ← buildIndex input.listing
  let allowDirectories : Bool := input.allowDirectories = .bool true
  let text := input.given tostring
  let verdicts := (extractPaths text index).foldl
    (Verdicts.judge maxPaths allowDirectories index) ⟨[], []⟩
  pure ⟨verdicts, verdicts.accepted.map fun entry => (entry.1, text), input.text.orElse (.str []),
    maxPaths, allowDirectories⟩

end

/-! ## The occurrences a scan meets -/

section
variable {text path : Bytes} {i : Nat}

theorem lt_length_of_occursAt (some : path ≠ []) (here : occursAt text path i = true) :
    i < text.length := by
  by_contra past
  rw [occursAt, drop_eq_nil_of_le (Nat.le_of_not_lt past)] at here
  exact some (prefix_nil.mp ( isPrefixOf_iff_prefix.mp here))

theorem scan_of_free (some : path ≠ []) (here : occursAt text path i = true)
    (alone : standsAlone text path i = true)
    (free : ∀ j < i, occursAt text path j = true → j + path.length ≤ i) :
    ∀ fuel start, start ≤ i → i < start + fuel → scan text path fuel start = true := by
  have inside := lt_length_of_occursAt some here
  intro fuel
  induction fuel with
  | zero => exact fun start low high => absurd high (Nat.not_lt.mpr low)
  | succ fuel ih =>
    intro start low high
    rw [scan]
    cases found : findFrom text path start with
    | none =>
      have missed := List.find?_eq_none.mp found i (mem_range'_1.mpr ⟨low, by omega⟩)
      exact absurd here missed
    | some j =>
      obtain ⟨there, listed, first⟩ := List.find?_range'_eq_some.mp found
      have least : j ≤ i := by
        by_contra later
        have := first i low (Nat.lt_of_not_le later)
        rw [here] at this
        cases this
      have onward := length_pos_of_ne_nil some
      have from_start := (mem_range'_1.mp listed).1
      dsimp only
      rcases Nat.eq_or_lt_of_le least with same | before
      · rw [same, alone, Bool.true_or]
      · rw [ih _ (free j before there) (by omega), Bool.or_true]

theorem containsPath_of_free (shape : looksLikePath path = true)
    (here : occursAt text path i = true) (alone : standsAlone text path i = true)
    (free : ∀ j < i, occursAt text path j = true → j + path.length ≤ i) :
    containsPath text path = true := by
  have some : path ≠ [] := by
    rintro rfl
    revert shape
    decide
  rw [containsPath, shape, Bool.true_and]
  have := lt_length_of_occursAt some here
  exact scan_of_free some here alone free _ 0 (Nat.zero_le i) (by omega)

end

/-! ## The loop of `validate` -/

structure Verdicts.Fair (maxPaths : Number) (allowDirectories : Bool) (index : Index)
    (v : Verdicts) : Prop where
  accepted : ∀ entry ∈ v.accepted, index.find entry.1 = some entry.2 ∧ checkPath entry.1 = none
    ∧ (entry.2 = .text "directory" → allowDirectories = true)
  once : v.seen.Nodup
  bounded : ∀ n < v.accepted.length, Number.le maxPaths (.int n) = false

theorem Verdicts.judge_cases (maxPaths : Number) (allowDirectories : Bool) (index : Index)
    (v : Verdicts) (candidate : Candidate) :
    (candidate.path ∈ v.seen ∧ v.judge maxPaths allowDirectories index candidate = v)
    ∨ candidate.path ∉ v.seen
      ∧ ((∃ reason, v.judge maxPaths allowDirectories index candidate
          = { v with rejected := v.rejected ++ [(candidate.path, reason)] })
        ∨ ∃ kind, v.judge maxPaths allowDirectories index candidate
            = { v with accepted := v.accepted ++ [(candidate.path, kind)] }
          ∧ index.find candidate.path = some kind ∧ checkPath candidate.path = none
          ∧ (kind = .text "directory" → allowDirectories = true)
          ∧ Number.le maxPaths (.int v.accepted.length) = false) := by
  unfold judge
  dsimp only
  by_cases old : candidate.path ∈ v.seen
  · exact .inl ⟨old, if_pos old⟩
  refine .inr ⟨old, ?_⟩
  rw [if_neg old]
  cases listed : index.find candidate.path with
  | none => exact .inl ⟨_, rfl⟩
  | some kind =>
    dsimp only
    cases refused : checkPath candidate.path with
    | some reason => exact .inl ⟨_, rfl⟩
    | none =>
      dsimp only
      split
      · exact .inl ⟨_, rfl⟩
      · rename_i allowed
        split
        · exact .inl ⟨_, rfl⟩
        · rename_i room
          refine .inr ⟨kind, rfl, rfl, rfl, fun directory => ?_, by simpa using room⟩
          simpa [directory] using allowed

section
variable {maxPaths : Number} {allowDirectories : Bool} {index : Index} {v : Verdicts}

theorem Verdicts.judge_seen (candidate : Candidate) (path : Bytes) :
    path ∈ (v.judge maxPaths allowDirectories index candidate).seen
      ↔ path ∈ v.seen ∨ path = candidate.path := by
  obtain ⟨old, same⟩ | ⟨-, ⟨reason, same⟩ | ⟨kind, same, -⟩⟩ :=
    v.judge_cases maxPaths allowDirectories index candidate <;> rw [same]
  · exact ⟨.inl, fun either => either.elim id fun same => same ▸ old⟩
  · simp [seen, or_assoc]
  · simp [seen, or_assoc, or_comm]

theorem Verdicts.Fair.judge (fair : v.Fair maxPaths allowDirectories index)
    (candidate : Candidate) :
    (v.judge maxPaths allowDirectories index candidate).Fair maxPaths allowDirectories index := by
  obtain ⟨accepted, once, bounded⟩ := fair
  obtain ⟨old, same⟩ | ⟨new, ⟨reason, same⟩ | ⟨kind, same, listed, checked, allowed, room⟩⟩ :=
    v.judge_cases maxPaths allowDirectories index candidate <;> rw [same]
  · exact ⟨accepted, once, bounded⟩
  · refine ⟨accepted, ?_, bounded⟩
    rw [seen, map_append, ← append_assoc]
    refine nodup_append.mpr ⟨once, nodup_singleton _, fun path old path' last same => ?_⟩
    rw [same, mem_singleton.mp last] at old
    exact new old
  · refine ⟨?_, ?_, fun n below => ?_⟩
    · exact forall_mem_append.mpr ⟨accepted, forall_mem_singleton.mpr ⟨listed, checked, allowed⟩⟩
    · rw [seen, map_append, append_assoc]
      exact nodup_middle.mpr (nodup_cons.mpr ⟨new, once⟩)
    · rw [length_append, length_singleton] at below
      rcases Nat.lt_succ_iff_lt_or_eq.mp below with earlier | last
      · exact bounded n earlier
      · exact last ▸ room

theorem Verdicts.Fair.run (candidates : List Candidate) :
    ∀ {v : Verdicts}, v.Fair maxPaths allowDirectories index →
      (candidates.foldl (Verdicts.judge maxPaths allowDirectories index) v).Fair maxPaths
        allowDirectories index
      ∧ ∀ path, path ∈ v.seen ∨ path ∈ candidates.map Candidate.path →
        path ∈ (candidates.foldl (Verdicts.judge maxPaths allowDirectories index) v).seen := by
  induction candidates with
  | nil => exact fun fair => ⟨fair, fun path either => either.elim id fun member => by cases member⟩
  | cons candidate rest ih =>
    intro v fair
    obtain ⟨final, decided⟩ := ih (fair.judge candidate)
    refine ⟨final, fun path either => decided path ?_⟩
    rw [judge_seen]
    rw [map_cons, mem_cons] at either
    tauto

end

/-! ## The selection -/

structure Selects (text : Bytes) (index : Index) (c : Payload) : Prop where
  accepted : ∀ entry ∈ c.verdicts.accepted, index.find entry.1 = some entry.2
    ∧ checkPath entry.1 = none ∧ (entry.2 = .text "directory" → c.allowDirectories = true)
  once : (c.verdicts.accepted.map Prod.fst ++ c.verdicts.rejected.map Prod.fst).Nodup
  bounded : ∀ n < c.verdicts.accepted.length, Number.le c.maxPaths (.int n) = false
  complete : ∀ path ∈ index.map Prod.fst, looksLikePath path = true →
    ∀ i, occursAt text path i = true → standsAlone text path i = true →
      (∀ j < i, occursAt text path j = true → j + path.length ≤ i) →
      path ∈ c.verdicts.accepted.map Prod.fst ++ c.verdicts.rejected.map Prod.fst

theorem selection_complete {tostring : Value → Bytes} {input : Input} {index : Index}
    {c : Payload} (indexed : buildIndex input.listing = .ok index)
    (validated : validate tostring input = .ok c) : Selects (input.given tostring) index c := by
  simp only [validate, indexed, ok_then, bind_eq_ok, pure_eq_ok] at validated
  obtain ⟨maxPaths, -, rfl⟩ := validated
  have start : Verdicts.Fair maxPaths (decide (input.allowDirectories = .bool true)) index
      ⟨[], []⟩ := ⟨by simp, nodup_nil, by simp⟩
  obtain ⟨fair, decided⟩ := start.run (extractPaths (input.given tostring) index)
  refine ⟨fair.accepted, fair.once, fair.bounded, fun path listed shape i here alone free => ?_⟩
  refine decided path (.inr (mem_keys_keepFirst.mpr ?_))
  have mentioned : path ∈ (sortedPaths index).filter (containsPath (input.given tostring)) :=
    mem_filter.mpr ⟨(perm_insertionSort _ _).mem_iff.mpr (mem_dedup.mpr listed),
      containsPath_of_free shape here alone free⟩
  simp only [map_append, map_map, append_assoc]
  exact mem_append_left _ (mem_map.mpr ⟨path, mentioned, rfl⟩)

def listingOf (paths : List String) (text : String) (maxPaths : Number) : Input where
  listing := .record [("entries", .array (paths.map fun path => .record [("path", .text path)]))]
  text := .text text
  maxPaths := .num maxPaths
  allowDirectories := .nil

theorem selection_complete_two : ∃ index c,
    buildIndex (listingOf ["a/b", "c"] "a/b" (.int 1)).listing = .ok index
    ∧ validate Value.tostring (listingOf ["a/b", "c"] "a/b" (.int 1)) = .ok c
    ∧ Selects ((listingOf ["a/b", "c"] "a/b" (.int 1)).given Value.tostring) index c :=
  ⟨_, _, rfl, rfl, selection_complete rfl rfl⟩

/-- A limit of one and a half admits two paths; a scan misses an occurrence that begins inside
one it has passed. -/
theorem limit_and_overlap :
    (∃ c, validate Value.tostring (listingOf ["a/b", "c/d"] "a/b c/d"
        (.float (Dyadic.ofIntWithPrec 3 1))) = .ok c
      ∧ c.verdicts.accepted.length = 2 ∧ Number.lt c.maxPaths (.int 2) = true)
    ∧ ∃ c, validate Value.tostring (listingOf ["/ /"] "a/ / /" (.int 8)) = .ok c
      ∧ looksLikePath (utf8 "/ /") = true ∧ occursAt (utf8 "a/ / /") (utf8 "/ /") 3 = true
      ∧ standsAlone (utf8 "a/ / /") (utf8 "/ /") 3 = true ∧ utf8 "/ /" ∉ c.verdicts.seen :=
  ⟨⟨_, rfl, by decide, by decide⟩, _, rfl, by decide, by decide, by decide, by decide⟩

end Proc17.Logic.RepoSelection
