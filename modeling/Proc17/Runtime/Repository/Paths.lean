import Proc17.Runtime.Repository.Course

/-!
# The grammars of a relative path

`repository_intent.validate_relative_path` decides for which paths authority is spent.
The provider adapter and the native library check the path once more, each with a
grammar of its own, before anything is written.
-/

namespace Proc17.Runtime.Repository

open Lua List

/-! ## The adapter -/

/-- `limits` of the adapter, as the library has them too. -/
def maxRelativePathBytes : Nat := 1024

def maxComponentBytes : Nat := 255

def maxComponents : Nat := 64

def adapterComponent (component : Bytes) : Bool :=
  component.length ≤ maxComponentBytes && isComponent component
    && !internalComponents.any fun name => component = utf8 name

def validRelativePath (value : Value) : Bool :=
  match value with
  | .str path =>
    !path.isEmpty && path.length ≤ maxRelativePathBytes && path.head? ≠ some 47
      && path.getLast? ≠ some 47 && !hasDoubleSlash path && !path.any isControl
      && (splitPath path).length ≤ maxComponents && (splitPath path).all adapterComponent
      && 0 < (splitPath path).length
  | _ => false

/-! ## The native library -/

/-- What the library asks of the component that ends here, the `count`th of the path. -/
def nativeComponent (component : Bytes) (count : Nat) : Bool :=
  match component with
  | [] => false
  | first :: rest =>
    component.length ≤ maxComponentBytes && count ≤ maxComponents && isAlnum first
      && (!internalComponents.any fun name => component = utf8 name)
      && rest.all fun b => isAlnum b || b = 46 || b = 95 || b = 45

/-- The loop of `valid_repository_path`: the bytes from `index` on, the bytes since
`component_start`, and `components`. -/
def scanPath : Bytes → Bytes → Nat → Bool
  | [], component, components => nativeComponent component (components + 1)
  | b :: rest, component, components =>
    if b = 47 then
      nativeComponent component (components + 1) && scanPath rest [] (components + 1)
    else if b < 32 then false
    else scanPath rest (component ++ [b]) components

def validRepositoryPath (path : Bytes) : Bool :=
  !path.isEmpty && path.length ≤ maxRelativePathBytes && path.head? ≠ some 47
    && path.getLast? ≠ some 47 && !path.contains 0 && scanPath path [] 0

/-! ## Components -/

theorem splitOn_cons (b : UInt8) (rest : Bytes) :
    (b :: rest).splitOn 47
      = if b = 47 then [] :: rest.splitOn 47 else (rest.splitOn 47).modifyHead (b :: ·) := by
  simp only [List.splitOn, splitOnP_cons_eq_if_modifyHead, beq_iff_eq]

theorem splitOn_ne_nil (path : Bytes) : path.splitOn 47 ≠ [] := splitOnP_ne_nil _ _

theorem splitOn_ne_empty : ∀ (path : Bytes), path ≠ [] → path.head? ≠ some 47 →
    path.getLast? ≠ some 47 → hasDoubleSlash path = false → [] ∉ path.splitOn 47
  | [], full, _, _, _ => absurd rfl full
  | [b], _, head, _, _ => by
    have other : b ≠ 47 := by simpa using head
    simp [splitOn_cons, other]
  | b :: c :: rest, _, head, last, single => by
    have other : b ≠ 47 := by simpa using head
    rw [splitOn_cons, if_neg other]
    by_cases slash : c = 47
    · subst slash
      cases rest with
      | nil => simp at last
      | cons d rest =>
        have apart : d ≠ 47 := by
          rintro rfl
          simp [hasDoubleSlash, other] at single
        have inner : [] ∉ (d :: rest).splitOn 47 := by
          refine splitOn_ne_empty (d :: rest) (by simp) (by simpa using apart) ?_ ?_
          · simpa [List.getLast?_cons_cons] using last
          · simpa [hasDoubleSlash, other, apart] using single
        rw [splitOn_cons, if_pos rfl]
        simpa using inner
    · have inner : [] ∉ (c :: rest).splitOn 47 := by
        refine splitOn_ne_empty (c :: rest) (by simp) (by simpa using slash) ?_ ?_
        · simpa [List.getLast?_cons_cons] using last
        · simpa [hasDoubleSlash, other] using single
      obtain ⟨first, others, shape⟩ := exists_cons_of_ne_nil (splitOn_ne_nil (c :: rest))
      rw [shape] at inner ⊢
      simp only [modifyHead_cons, mem_cons, not_or] at inner ⊢
      exact ⟨by simp, inner.2⟩

theorem nativeComponent_eq (component : Bytes) (count : Nat) :
    nativeComponent component count
      = (decide (count ≤ maxComponents) && adapterComponent component) := by
  cases component with
  | nil => simp [nativeComponent, adapterComponent, isComponent]
  | cons first rest =>
    simp only [nativeComponent, adapterComponent, isComponent]
    cases decide (count ≤ maxComponents) <;> cases isAlnum first <;>
      cases decide ((first :: rest).length ≤ maxComponentBytes) <;>
      cases (internalComponents.any fun name => decide (first :: rest = utf8 name)) <;> simp

theorem scanPath_iff (rest component : Bytes) (components : Nat) :
    scanPath rest component components = true ↔
      (∀ b ∈ rest, b ≠ 47 → ¬ b < 32)
        ∧ (∀ c ∈ (rest.splitOn 47).modifyHead (component ++ ·), adapterComponent c = true)
        ∧ components + ((rest.splitOn 47).modifyHead (component ++ ·)).length
          ≤ maxComponents := by
  induction rest generalizing component components with
  | nil =>
    have one : ([] : Bytes).splitOn 47 = [[]] := rfl
    simp [scanPath, nativeComponent_eq, one, and_comm]
  | cons b rest ih =>
    obtain ⟨first, others, shape⟩ := exists_cons_of_ne_nil (splitOn_ne_nil rest)
    rw [splitOn_cons]
    by_cases slash : b = 47
    · subst slash
      have next := ih [] (components + 1)
      simp only [shape, modifyHead_cons, nil_append] at next
      simp only [scanPath, if_true, Bool.and_eq_true, nativeComponent_eq, decide_eq_true_eq, next,
        shape, modifyHead_cons, append_nil, mem_cons, length_cons, forall_eq_or_imp]
      constructor
      · rintro ⟨⟨-, fit⟩, clean, ⟨fitFirst, fitOthers⟩, few⟩
        exact ⟨⟨by simp, clean⟩, ⟨fit, fitFirst, fitOthers⟩, by omega⟩
      · rintro ⟨⟨-, clean⟩, ⟨fit, fitFirst, fitOthers⟩, few⟩
        exact ⟨⟨by omega, fit⟩, clean, ⟨fitFirst, fitOthers⟩, by omega⟩
    · have next := ih (component ++ [b]) components
      simp only [shape, modifyHead_cons, append_assoc, singleton_append] at next
      by_cases control : b < 32
      · simp [scanPath, slash, control]
      · simp only [scanPath, if_neg slash, if_neg control, next, shape, modifyHead_cons,
          mem_cons, forall_eq_or_imp]
        constructor
        · rintro ⟨clean, fit, few⟩
          exact ⟨⟨fun _ => control, clean⟩, fit, few⟩
        · rintro ⟨⟨-, clean⟩, fit, few⟩
          exact ⟨clean, fit, few⟩

variable {path : Bytes}

theorem splitPath_eq (full : path ≠ []) (head : path.head? ≠ some 47)
    (last : path.getLast? ≠ some 47) (single : hasDoubleSlash path = false) :
    splitPath path = path.splitOn 47 := by
  unfold splitPath
  rw [filter_eq_self]
  intro c member
  have fit := splitOn_ne_empty path full head last single
  simp only [ne_eq, decide_not, Bool.not_eq_eq_eq_not, Bool.not_true, decide_eq_false_iff_not]
  rintro rfl
  exact fit member

theorem hasDoubleSlash_of_components : ∀ path : Bytes, [] ∉ (path.splitOn 47).tail →
    hasDoubleSlash path = false
  | [], _ => rfl
  | [b], _ => by simp [hasDoubleSlash]
  | b :: c :: rest, fit => by
    rw [splitOn_cons] at fit
    by_cases both : b = 47 ∧ c = 47
    · obtain ⟨rfl, rfl⟩ := both
      rw [if_pos rfl, tail_cons, splitOn_cons, if_pos rfl] at fit
      exact absurd mem_cons_self fit
    · have step : hasDoubleSlash (b :: c :: rest) = hasDoubleSlash (c :: rest) := by
        rw [hasDoubleSlash]
        rintro _ rfl same
        exact both ⟨rfl, (List.cons.inj same).1⟩
      rw [step]
      apply hasDoubleSlash_of_components
      intro empty
      apply fit
      split
      · exact mem_of_mem_tail empty
      · obtain ⟨first, others, shape⟩ := exists_cons_of_ne_nil (splitOn_ne_nil (c :: rest))
        rw [shape] at empty ⊢
        exact empty

theorem validRelativePath_eq (path : Bytes) :
    validRelativePath (.str path) = validRepositoryPath path := by
  have whole : (path.splitOn 47).modifyHead ([] ++ ·) = path.splitOn 47 := by
    obtain ⟨first, others, shape⟩ := exists_cons_of_ne_nil (splitOn_ne_nil path)
    rw [shape]
    rfl
  rw [Bool.eq_iff_iff]
  simp only [validRelativePath, validRepositoryPath, Bool.and_eq_true, decide_eq_true_eq,
    all_eq_true, scanPath_iff, whole, Nat.zero_add, Bool.not_eq_true', isEmpty_eq_false_iff]
  constructor
  · rintro ⟨⟨⟨⟨⟨⟨⟨⟨full, short⟩, head⟩, last⟩, single⟩, clean⟩, few⟩, each⟩, -⟩
    rw [splitPath_eq full head last single] at few each
    have low : ∀ b ∈ path, ¬ b < 32 := by
      intro b member control
      rw [any_eq_false] at clean
      exact clean b member (by simpa [isControl] using control)
    refine ⟨⟨⟨⟨⟨full, short⟩, head⟩, last⟩, ?_⟩, fun b member _ => low b member, each, few⟩
    rw [contains_eq_mem, decide_eq_false_iff_not]
    exact fun member => low 0 member (by decide)
  · rintro ⟨⟨⟨⟨⟨full, short⟩, head⟩, last⟩, -⟩, clean, each, few⟩
    have single : hasDoubleSlash path = false := by
      apply hasDoubleSlash_of_components
      intro empty
      exact absurd (each [] (mem_of_mem_tail empty)) (by decide)
    rw [splitPath_eq full head last single]
    refine ⟨⟨⟨⟨⟨⟨⟨⟨full, short⟩, head⟩, last⟩, single⟩, ?_⟩, few⟩, each⟩,
      length_pos_iff.mpr (splitOn_ne_nil path)⟩
    rw [any_eq_false]
    intro b member control
    have low : b < 32 := by simpa [isControl] using control
    exact clean b member (fun slash => by subst slash; exact absurd low (by decide)) low

/-! ## The intent -/

/-- What `validate_relative_path` of the intent tells about a path. -/
structure IntentPath (path : Bytes) : Prop where
  full : path ≠ []
  clean : path.any isControl = false
  head : path.head? ≠ some 47
  last : path.getLast? ≠ some 47
  single : hasDoubleSlash path = false
  components : ∀ c ∈ splitPath path, isComponent c = true
    ∧ ([".git", ".agents", ".codex"].any fun name => c = utf8 name) = false

theorem intentPath_of_validateRelativePath {u : Unit}
    (valid : Action.validateRelativePath (.str path) = .ok u) : IntentPath path := by
  simp only [Action.validateRelativePath, bind_eq_ok, require_eq_ok] at valid
  obtain ⟨_, ⟨full, -⟩, _, ⟨clean, head, last, single⟩, _, each, -⟩ := valid
  refine ⟨full, clean, head, last, single, ?_⟩
  intro c member
  have passed := mem_of_forM_ok each c member
  simp only [Action.relativeComponent, bind_eq_ok, require_eq_ok] at passed
  obtain ⟨_, ⟨-, allowed⟩, shaped⟩ := passed
  exact ⟨shaped, allowed⟩

/-! ## Executable paths -/

/-- The components that only the adapter and the library keep out. -/
def reservedComponents : List String := ["packets", "graves", "compost", "trace"]

def Executable (path : Bytes) : Prop :=
  (splitPath path).length ≤ maxComponents
    ∧ ∀ c ∈ splitPath path, c.length ≤ maxComponentBytes
      ∧ (reservedComponents.any fun name => c = utf8 name) = false

theorem IntentPath.splitOn (intent : IntentPath path) :
    splitPath path = path.splitOn 47 :=
  splitPath_eq intent.full intent.head intent.last intent.single

theorem adapterComponent_iff {component : Bytes} (shaped : isComponent component = true)
    (allowed : ([".git", ".agents", ".codex"].any fun name => component = utf8 name) = false) :
    adapterComponent component = true ↔ component.length ≤ maxComponentBytes
      ∧ (reservedComponents.any fun name => component = utf8 name) = false := by
  have whole : (internalComponents.any fun name => decide (component = utf8 name))
      = (([".git", ".agents", ".codex"].any fun name => decide (component = utf8 name))
        || reservedComponents.any fun name => decide (component = utf8 name)) := by
    simp [internalComponents, reservedComponents, Bool.or_assoc]
  simp [adapterComponent, shaped, whole, allowed]

theorem IntentPath.executable_iff (intent : IntentPath path)
    (short : path.length ≤ maxRelativePathBytes) :
    (validRelativePath (.str path) = true ∧ validRepositoryPath path = true)
      ↔ Executable path := by
  have split := intent.splitOn
  have fit : (∀ c ∈ splitPath path, adapterComponent c = true) ↔
      ∀ c ∈ splitPath path, c.length ≤ maxComponentBytes
        ∧ (reservedComponents.any fun name => c = utf8 name) = false := by
    constructor
    · intro all c member
      obtain ⟨shaped, allowed⟩ := intent.components c member
      exact (adapterComponent_iff shaped allowed).mp (all c member)
    · intro all c member
      obtain ⟨shaped, allowed⟩ := intent.components c member
      exact (adapterComponent_iff shaped allowed).mpr (all c member)
  have some : 0 < (splitPath path).length := by
    rw [split]
    exact length_pos_iff.mpr (splitOn_ne_nil path)
  have full : path.isEmpty = false := by
    rw [isEmpty_eq_false_iff]
    exact intent.full
  rw [← validRelativePath_eq, and_self]
  simp only [validRelativePath, Bool.and_eq_true, decide_eq_true_eq, all_eq_true, fit]
  constructor
  · rintro ⟨⟨⟨-, few⟩, all⟩, -⟩
    exact ⟨few, all⟩
  · rintro ⟨few, all⟩
    exact ⟨⟨⟨⟨⟨⟨⟨⟨by simp [full], short⟩, intent.head⟩, intent.last⟩, by simp [intent.single]⟩,
      by simp [intent.clean]⟩, few⟩, all⟩, some⟩

/-! ## The paths that authority is spent on -/

namespace Registry

variable {asked : Value → Prop}

def Ceiled (grants : Bytes → Option Grant) : Prop :=
  ∀ id grant, grants id = some grant →
    Number.lt (.int 1024) grant.bounds.maxRelativePathBytes = false
      ∧ grant.bounds.maxRelativePathBytes.isIntegral = true

theorem Ceiled.replace {grants : Bytes → Option Grant} (ceiled : Ceiled grants) {id : Bytes}
    {grant : Grant} (capped : Number.lt (.int 1024) grant.bounds.maxRelativePathBytes = false)
    (whole : grant.bounds.maxRelativePathBytes.isIntegral = true) :
    Ceiled (Function.update grants id (some grant)) := by
  intro other grant' found
  by_cases same : other = id
  · subst same
    rw [Function.update_self] at found
    cases found
    exact ⟨capped, whole⟩
  · rw [Function.update_of_ne same] at found
    exact ceiled other grant' found

theorem Change.ceiled {r r' : Registry} (change : Change asked r r') (ceiled : Ceiled r.grants) :
    Ceiled r'.grants := by
  cases change with
  | abandoned fresh serial => cases fresh <;> exact ceiled
  | granted serial id grant absent new | rooted serial id grant absent new =>
    exact ceiled.replace new.ceiling new.whole
  | ended id grant state found | closedGrant id grant handle found =>
    exact ceiled.replace (ceiled id grant found).1 (ceiled id grant found).2
  | leased plan action admitted =>
    have old := ceiled _ _ admitted.grant
    exact ceiled.replace old.1 old.2
  | committed id grantId root root' grant handle source found _ _ granted =>
    exact ceiled.replace (ceiled grantId grant granted).1 (ceiled grantId grant granted).2
  | _ => exact ceiled

theorem run_ceiled (derive : DeriveIntent) {options : Value} {r : Registry}
    (made : new options = .ok r) (steps : List Step) :
    Ceiled ((machine derive).run r steps).grants := by
  refine run_keeps derive (fun r => Ceiled r.grants) (fun _ _ change holds => change.ceiled holds)
    steps r ?_
  simp only [new, bind_eq_ok, pure_eq_ok] at made
  obtain ⟨_, -, _, -, _, -, _, -, _, -, rfl⟩ := made
  intro id grant found
  cases found

theorem envelopeOf_path {action : Value} {envelope : Envelope}
    (read : envelopeOf action = some envelope) :
    (action.get "target").get "relative_path" = .str envelope.relativePath := by
  unfold envelopeOf at read
  split at read
  · next path _ _ =>
      cases read
      exact path
  · cases read

theorem beginEffect_path {r : Registry} (ceiled : Ceiled r.grants) {derive : DeriveIntent}
    {action inst : Value} (accepted : (r.beginEffect derive action inst).Succeeds) :
    ∃ path, (action.get "target").get "relative_path" = .str path ∧ IntentPath path
      ∧ path.length ≤ maxRelativePathBytes := by
  unfold beginEffect at accepted
  obtain ⟨failure, -, refused⟩ | ⟨plan, planned, -⟩ :=
    transact_cases (r.beginEffectPlan derive action inst) _ r
  · rw [refused] at accepted
    exact absurd accepted (Reply.not_succeeds_error _ _)
  simp only [beginEffectPlan, bind_eq_ok, pure_eq_ok] at planned
  obtain ⟨_, valid, _, -, exact, found, _, -, _, -, rfl⟩ := planned
  have facts := exactActionGrant_facts found
  have named := envelopeOf_path facts.envelope
  refine ⟨exact.envelope.relativePath, named, ?_, ?_⟩
  · simp only [Action.validate, bind_eq_ok] at valid
    obtain ⟨_, -, claims, claimed, -⟩ := valid
    simp only [Action.validateClaims, bind_eq_ok] at claimed
    obtain ⟨_, -, _, -, _, -, _, -, _, -, _, -, _, -, _, -, _, -, _, -, _, -, _, -, _, -, _, -, u,
      path, -⟩ := claimed
    rw [named] at path
    exact intentPath_of_validateRelativePath path
  · have ceiling := ceiled _ _ facts.grant
    exact Number.nat_le_of_not_lt ceiling.2 ceiling.1 facts.path

/-- A path the intent accepts within the bound of a grant, so every path that authority
is spent on, is accepted by the adapter and by the library exactly when it is
executable. -/
theorem authorised_paths_accepted_iff (derive : DeriveIntent) (options : Value) :
    (∀ path : Bytes, Action.validateRelativePath (.str path) = .ok () →
      path.length ≤ maxRelativePathBytes →
        ((validRelativePath (.str path) = true ∧ validRepositoryPath path = true)
          ↔ Executable path))
      ∧ ∀ (r : Registry) (steps : List Step) (action inst : Value), new options = .ok r →
        (((machine derive).run r steps).beginEffect derive action inst).Succeeds →
        ∃ path, (action.get "target").get "relative_path" = .str path
          ∧ ((validRelativePath (.str path) = true ∧ validRepositoryPath path = true)
            ↔ Executable path) := by
  constructor
  · intro path valid short
    exact (intentPath_of_validateRelativePath valid).executable_iff short
  · intro r steps action inst made accepted
    obtain ⟨path, named, intent, short⟩ := beginEffect_path (run_ceiled derive made steps) accepted
    exact ⟨path, named, intent.executable_iff short⟩

theorem authorised_paths_accepted_plain :
    validRelativePath (.text "src/a.txt") = true ∧ validRepositoryPath (utf8 "src/a.txt") = true :=
  ((authorised_paths_accepted_iff (fun _ _ => .ok .nil) .nil).1 (utf8 "src/a.txt") (by rfl) (by decide)).mpr
    ⟨by decide, by decide⟩

theorem authorised_path_refused :
    Action.validateRelativePath (.text "trace/a.txt") = .ok ()
      ∧ (utf8 "trace/a.txt").length ≤ maxRelativePathBytes
      ∧ validRelativePath (.text "trace/a.txt") = false
      ∧ validRepositoryPath (utf8 "trace/a.txt") = false := by
  refine ⟨by rfl, by decide, by decide, by decide⟩

end Registry

end Proc17.Runtime.Repository
