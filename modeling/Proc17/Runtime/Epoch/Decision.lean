import Proc17.Runtime.Epoch.Identity
import Proc17.Runtime.Router.Harmless
import Proc17.Runtime.Router.Policy

/-!
# What an epoch decides

Option tables that settle the same physics, and agree on every key that states no policy,
give the router the same policy.  With the numbers told apart this is what the physics
identity promises.
-/

namespace Proc17.Runtime.Epoch

open Lua Core Core.Json Value
open Runtime.Router

/-! ## The router's options -/

def runnerOnlyKeys : List String :=
  ["authority_instrument", "authority_instrument_test_override", "authority_instrument_bounds",
    "expected_authority_epoch", "edge_evidence", "dissolve_pressure_relief_reader"]

def isRunnerOnly (key : Value) : Bool := runnerOnlyKeys.any fun name => key = .text name

def bodyOptions : Value → Value
  | .table _ entries => .table Tag.plain (entries.filter fun entry => !isRunnerOnly entry.1)
  | _ => .emptyTable

/-- The options that the runner hands to `router.after_tick`, in the mode of the owner. -/
def routerOptions (options substrate result : Value) (owner : String) : Options where
  mode := .text (if owner = "tree" then "tree" else "legacy")
  legacyShadow := options.get "legacy_shadow"
  options := bodyOptions options
  substrate := substrate
  capabilities := options.get "capabilities"
  result := result
  tree := options.get "tree_router"

theorem routerOptions_body (options substrate result : Value) :
    (routerOptions options substrate result "tree").body = bodyOptions options := by
  cases options <;> rfl

theorem isRunnerOnly_congr {key other : Value} (same : key.eq other = true) :
    isRunnerOnly key = isRunnerOnly other := by
  have named : ∀ name : String, (key = .text name) ↔ (other = .text name) := by
    intro name
    constructor
    · rintro rfl
      cases other <;> simp_all [Value.eq]
    · rintro rfl
      exact eq_of_eq_str same
  simp only [isRunnerOnly, named]

theorem entryOf_bodyOptions (options key : Value) (shared : isRunnerOnly key = false) :
    entryOf (bodyOptions options) key = entryOf options key := by
  cases options with
  | table tag entries =>
    show Value.lookup (entries.filter fun entry => !isRunnerOnly entry.1) key
      = Value.lookup entries key
    induction entries with
    | nil => rfl
    | cons entry rest ih =>
      obtain ⟨k, v⟩ := entry
      by_cases found : k.eq key = true
      · have kept : isRunnerOnly k = false := (isRunnerOnly_congr found).trans shared
        simp [kept, Value.lookup, found]
      · by_cases kept : isRunnerOnly k = true
        · simp [kept, Value.lookup, found, ih]
        · simp [kept, Value.lookup, found, ih]
  | _ => rfl

theorem entryOf_text (options : Value) (name : String) :
    entryOf options (.text name) = options.get name := by
  cases options <;> rfl

theorem get_bodyOptions (options : Value) {name : String} (shared : name ∉ runnerOnlyKeys) :
    (bodyOptions options).get name = options.get name := by
  rw [← entryOf_text, ← entryOf_text]
  apply entryOf_bodyOptions
  rw [isRunnerOnly, List.any_eq_false]
  intro other member same
  have named : name = other := by simpa using same
  exact shared (named ▸ member)

theorem option_shared (consumer : Consumer) : consumer.option ∉ runnerOnlyKeys := by
  cases consumer <;> simp [Consumer.option, Consumer.key, runnerOnlyKeys]

theorem bodyOptions_isTable (options : Value) : (bodyOptions options).isTable = true := by
  cases options <;> rfl

/-! ## Tables that agree -/

def AgreeElsewhere (o₁ o₂ : Value) : Prop :=
  ∀ key, isPolicyKey key = false → entryOf o₁ key = entryOf o₂ key

variable {o₁ o₂ : Value}

theorem AgreeElsewhere.get (agree : AgreeElsewhere o₁ o₂) {name : String}
    (other : name ∉ policyKeys) : o₁.get name = o₂.get name := by
  rw [← entryOf_text, ← entryOf_text]
  apply agree
  rw [isPolicyKey, List.any_eq_false]
  intro key member same
  have named : name = key := by simpa using same
  exact other (named ▸ member)

theorem AgreeElsewhere.seen (agree : AgreeElsewhere o₁ o₂) :
    elsewhere (bodyOptions o₁) = elsewhere (bodyOptions o₂) := by
  have absent : ∀ options key, isRunnerOnly key = true → entryOf (bodyOptions options) key = .nil := by
    intro options key only
    cases options with
    | table tag entries =>
      show Value.lookup (entries.filter fun entry => !isRunnerOnly entry.1) key = .nil
      induction entries with
      | nil => rfl
      | cons entry rest ih =>
        obtain ⟨k, v⟩ := entry
        by_cases kept : isRunnerOnly k = true
        · simp [kept, ih]
        · have differ : k.eq key = false := by
            rw [Bool.eq_false_iff]
            intro same
            exact kept ((isRunnerOnly_congr same).trans only)
          simp [kept, Value.lookup, differ, ih]
    | _ => rfl
  funext key
  unfold elsewhere
  split
  · rfl
  · rename_i policy
    cases only : isRunnerOnly key with
    | true => rw [absent _ _ only, absent _ _ only]
    | false =>
      rw [entryOf_bodyOptions _ _ only, entryOf_bodyOptions _ _ only]
      exact agree key (by simpa using policy)

/-! ## What a description says of its options -/

structure Describes (options : Value) (d : TreeDescriptor) : Prop where
  policy : Value.parse PressurePolicy.all PressurePolicy.name
    ((options.get "pressure_policy").orElse (.text "camera_reconciliation")) = some d.pressure.policy
  ablated : d.pressure.policy = .qualifiedNeed → d.pressure.ablated = switches options
  unablated : d.pressure.policy ≠ .qualifiedNeed → d.pressure.ablated = fun _ => false
  tree : options.get "tree_router" = .nil ∨ (options.get "tree_router").isTable = true
  threshold : thresholdOf (options.get "tree_router") = .ok d.threshold
  fallback : d.allowControlFallback
    = decide ((options.get "tree_router").get "allow_control_fallback" = .bool true)
  named : d.pressure.policy = .qualifiedNeed → (options.get "tree_router").get "policy" = .nil
    ∨ (options.get "tree_router").get "policy" = compositionPolicy

variable {d : TreeDescriptor} {options : Value}

theorem describes_of_treeDescriptor {unused : List Bytes}
    (described : treeDescriptor options = .ok (d, unused)) : Describes options d := by
  simp only [treeDescriptor, bind_eq_ok, pure_eq_ok, Prod.mk.injEq] at described
  obtain ⟨pressure, derived, tree, routed, rfl, -⟩ := described
  simp only [describeTree, bind_eq_ok, require_eq_ok, pure_eq_ok] at routed
  obtain ⟨-, -, -, table, threshold, read, -, -, -, named, rfl⟩ := routed
  simp only [describePressure, bind_eq_ok] at derived
  obtain ⟨-, -, derived⟩ := derived
  split at derived
  · cases derived
  · rename_i policy parsed
    have settled : pressure.policy = policy
        ∧ (policy = .qualifiedNeed → pressure.ablated = switches options)
        ∧ (policy ≠ .qualifiedNeed → pressure.ablated = fun _ => false) := by
      split at derived
      · rename_i qualified
        simp only [bind_eq_ok, pure_eq_ok] at derived
        obtain ⟨-, -, rfl⟩ := derived
        have is : policy = .qualifiedNeed := by simpa [PressurePolicy.qualified] using qualified
        exact ⟨rfl, fun _ => rfl, fun other => absurd is other⟩
      · rename_i other
        cases derived
        have is : policy ≠ .qualifiedNeed := by simpa [PressurePolicy.qualified] using other
        exact ⟨rfl, fun qualified => absurd qualified is, fun _ => rfl⟩
    obtain ⟨rfl, on, off⟩ := settled
    refine ⟨parsed, on, off, table, read, rfl, ?_⟩
    intro qualified
    rcases named with other | absent | same
    · have is : pressure.policy = .qualifiedNeed := qualified
      exact absurd is (by simpa [PressurePolicy.qualified] using other)
    · exact .inl absent
    · right
      rw [same, qualified]
      rfl

structure SamePolicy (d e : TreeDescriptor) : Prop where
  kind : d.kind = e.kind
  threshold : d.threshold = e.threshold

/-! ## The policy is the same -/

theorem isTable_tree (describes : Describes options d) :
    ((options.get "tree_router").orElse .emptyTable).isTable = true := by
  rcases describes.tree with absent | table
  · rw [absent]
    rfl
  · cases given : options.get "tree_router" <;> simp_all [Value.isTable]
    rfl

theorem tree_get (describes : Describes options d)
    (name : String) : ((options.get "tree_router").orElse .emptyTable).get name
      = (options.get "tree_router").get name := by
  rcases describes.tree with absent | table
  · rw [absent]
    rfl
  · cases given : options.get "tree_router" <;> simp_all [Value.isTable]
    rfl

theorem tree_index (describes : Describes options d)
    (name : String) : ((options.get "tree_router").orElse .emptyTable).index name
      = .ok ((options.get "tree_router").get name) := by
  rw [← tree_get describes name]
  exact index_eq_get (isTable_tree describes) name

theorem selectThreshold_described
    (describes : Describes options d) :
    selectThreshold ((options.get "tree_router").orElse .emptyTable) = .ok (.num d.threshold) := by
  have read := describes.threshold
  unfold thresholdOf at read
  unfold selectThreshold
  rw [tree_index describes]
  split at read
  · rename_i absent
    rw [← Except.ok.inj read]
    simp only [bind, Except.bind, absent]
    rfl
  · rename_i n given
    split at read
    · cases read
      simp only [bind, Except.bind, given]
      rfl
    · cases read
  · cases read

variable {e : TreeDescriptor}

theorem binarySelect_same (one : Describes o₁ d)
    (two : Describes o₂ e) (same : SamePolicy d e) (i : Instance) (candidates : List Value) :
    binarySelect i candidates ((o₁.get "tree_router").orElse .emptyTable)
      = binarySelect i candidates ((o₂.get "tree_router").orElse .emptyTable) := by
  unfold binarySelect
  rw [selectThreshold_described one, selectThreshold_described two, same.threshold]

theorem qualifiedSelect_same (one : Describes o₁ d)
    (two : Describes o₂ e) (same : SamePolicy d e) (qualified : d.pressure.policy = .qualifiedNeed)
    (i : Instance) (candidates : List Value) :
    qualifiedSelect i candidates ((o₁.get "tree_router").orElse .emptyTable)
      = qualifiedSelect i candidates ((o₂.get "tree_router").orElse .emptyTable) := by
  have policies : d.pressure.policy = e.pressure.policy := congrArg Kind.policy same.kind
  have fallback : d.allowControlFallback = e.allowControlFallback :=
    congrArg Kind.allowControlFallback same.kind
  rw [one.fallback, two.fallback, decide_eq_decide] at fallback
  have named := one.named qualified
  have named' := two.named (policies ▸ qualified)
  unfold qualifiedSelect
  rw [tree_index one, tree_index two]
  simp only [bind, Except.bind, tree_get one, tree_get two, fallback, named, named', require, if_pos]

theorem pressureDerive_same (one : Describes o₁ d)
    (two : Describes o₂ e) (same : SamePolicy d e) (agree : AgreeElsewhere o₁ o₂)
    (mode : o₁.get "router_mode" = .text "tree") (mode' : o₂.get "router_mode" = .text "tree")
    (organs : Organs) (i : Instance) (tick operator : Value) :
    pressureDerive organs i tick operator (bodyOptions o₁)
      = pressureDerive organs i tick operator (bodyOptions o₂) := by
  have policies : d.pressure.policy = e.pressure.policy := congrArg Kind.policy same.kind
  have ablated : d.pressure.ablated = e.pressure.ablated := congrArg Kind.ablated same.kind
  have body : ∀ options, (bodyOptions options).get "pressure_policy"
      = options.get "pressure_policy" := fun options => get_bodyOptions options (by simp [runnerOnlyKeys])
  have switched : ∀ options, switches (bodyOptions options) = switches options := by
    intro options
    funext consumer
    unfold switches
    rw [get_bodyOptions options (option_shared consumer)]
  have router : ∀ options, (bodyOptions options).get "router_mode" = options.get "router_mode" :=
    fun options => get_bodyOptions options (by simp [runnerOnlyKeys])
  unfold pressureDerive
  rw [index_eq_get (bodyOptions_isTable o₁), index_eq_get (bodyOptions_isTable o₂)]
  cases currentOperator i tick operator with
  | error failure => simp only [bind, Except.bind]
  | ok current =>
    simp only [bind, Except.bind, body, switched, router, agree.seen, mode, mode']
    rw [one.policy, two.policy, policies]
    cases policy : e.pressure.policy with
    | qualifiedNeed =>
      have on := one.ablated (policies.trans policy)
      have on' := two.ablated policy
      simp only [← on, ← on', ablated]
    | _ => rfl

theorem pressureDerive_kind (describes : Describes options d)
    (binary : d.pressure.policy ≠ .qualifiedNeed) {organs : Organs} {i : Instance}
    {tick operator snapshot : Value}
    (derived : pressureDerive organs i tick operator (bodyOptions options) = .ok snapshot) :
    snapshot.get "kind" = .text "edge_pressure_snapshot" := by
  have body : (bodyOptions options).get "pressure_policy" = options.get "pressure_policy" :=
    get_bodyOptions options (by simp [runnerOnlyKeys])
  unfold pressureDerive at derived
  rw [index_eq_get (bodyOptions_isTable options), bind_eq_ok] at derived
  obtain ⟨current, -, derived⟩ := derived
  rw [bind_eq_ok] at derived
  obtain ⟨named, given, derived⟩ := derived
  cases given
  simp only [body, describes.policy] at derived
  cases policy : d.pressure.policy with
  | qualifiedNeed => exact absurd policy binary
  | sampled | cameraReconciliation =>
    simp only [policy, bind_eq_ok, pure_eq_ok] at derived
    obtain ⟨contributions, -, rfl⟩ := derived
    rfl

structure SameRouting (o₁ o₂ : Value) (d e : TreeDescriptor) : Prop where
  one : Describes o₁ d
  two : Describes o₂ e
  policy : SamePolicy d e
  agree : AgreeElsewhere o₁ o₂
  mode : o₁.get "router_mode" = .text "tree"
  mode' : o₂.get "router_mode" = .text "tree"

section
variable (same : SameRouting o₁ o₂ d e)
  (organs : Organs) (world : World) (i : Instance) (clock : Nat → Int)
  (tick substrate result : Value)
include same

theorem capabilities_same : o₁.get "capabilities" = o₂.get "capabilities" :=
  same.agree.get (by simp [policyKeys, Consumer.all, Consumer.option, Consumer.key])

theorem registry_same : (routerOptions o₁ substrate result "tree").context.registry
    = (routerOptions o₂ substrate result "tree").context.registry := by
  have truthy : ∀ options, (bodyOptions options).orElse .emptyTable = bodyOptions options := by
    intro options
    cases options <;> rfl
  simp only [Context.registry, Options.context, Options.body, routerOptions, truthy,
    same.agree.seen, capabilities_same same]

theorem treePredict_same {snapshot : Value}
    (kind : d.pressure.policy ≠ .qualifiedNeed →
      snapshot.get "kind" = .text "edge_pressure_snapshot") :
    treePredict organs i snapshot (routerOptions o₁ substrate result "tree").context
      = treePredict organs i snapshot (routerOptions o₂ substrate result "tree").context := by
  have registry := registry_same same substrate result
  have trees : ∀ options, (routerOptions options substrate result "tree").context.tree
      = options.get "tree_router" := fun _ => rfl
  unfold treePredict
  rw [registry, trees, trees]
  by_cases qualified : d.pressure.policy = .qualifiedNeed
  · simp only [qualifiedSelect_same same.one same.two same.policy qualified,
      binarySelect_same same.one same.two same.policy]
  · have other : snapshot.get "kind" ≠ .text "qualified_pressure_snapshot" := by
      rw [kind qualified]
      simp
    simp only [if_neg other, binarySelect_same same.one same.two same.policy]

theorem treeAuthority_same :
    treeAuthority organs.policy i clock tick (routerOptions o₁ substrate result "tree")
      = treeAuthority organs.policy i clock tick (routerOptions o₂ substrate result "tree") := by
  have derives : derivePressure organs.policy i tick (routerOptions o₁ substrate result "tree")
      = derivePressure organs.policy i tick (routerOptions o₂ substrate result "tree") := by
    unfold derivePressure
    rw [routerOptions_body, routerOptions_body]
    show (tick.index "operator" >>= fun operator =>
      given (pressureDerive organs i tick operator (bodyOptions o₁))) = _
    simp only [pressureDerive_same same.one same.two same.policy same.agree same.mode same.mode']
    rfl
  unfold treeAuthority
  rw [← derives]
  cases derived : derivePressure organs.policy i tick
      (routerOptions o₁ substrate result "tree") with
  | error failure => rfl
  | ok pressure =>
    have kind : d.pressure.policy ≠ .qualifiedNeed →
        pressure.get "kind" = .text "edge_pressure_snapshot" := by
      intro binary
      simp only [derivePressure, routerOptions_body, bind_eq_ok] at derived
      obtain ⟨operator, -, derived⟩ := derived
      simp only [given, bind_eq_ok] at derived
      obtain ⟨snapshot, made, returned⟩ := derived
      split at returned
      · cases returned
        exact pressureDerive_kind same.one binary made
      · cases returned
    show Reply.andThen _ _ = Reply.andThen _ _
    cases recorded : recordPressureSnapshot i (clock 0) pressure false with
    | mk answer j =>
      cases answer with
      | error failure => rfl
      | ok snapshot =>
        obtain ⟨event, -, -, -, assigned⟩ := recordPressureSnapshot_ok recorded
        have snapshotKind : d.pressure.policy ≠ .qualifiedNeed →
            snapshot.get "kind" = .text "edge_pressure_snapshot" := by
          intro binary
          rw [get_of_setField_other (by simp) assigned]
          exact kind binary
        have predicts : organs.policy.predict j snapshot
              (routerOptions o₁ substrate result "tree").context
            = organs.policy.predict j snapshot
              (routerOptions o₂ substrate result "tree").context :=
          treePredict_same same organs j substrate result snapshotKind
        simp only [Reply.andThen, predicts]

theorem legacyAfterTick_same (j : Instance) :
    legacyAfterTick world j tick (bodyOptions o₁)
      = legacyAfterTick world j tick (bodyOptions o₂) := by
  have starts : startOperator (bodyOptions o₁) = startOperator (bodyOptions o₂) := by
    have start : o₁.get "start_operator" = o₂.get "start_operator" :=
      same.agree.get (by simp [policyKeys, Consumer.all, Consumer.option, Consumer.key])
    unfold startOperator
    rw [index_eq_get (bodyOptions_isTable o₁), index_eq_get (bodyOptions_isTable o₂),
      get_bodyOptions o₁ (by simp [runnerOnlyKeys]), get_bodyOptions o₂ (by simp [runnerOnlyKeys]),
      start]
  have choices : ∀ source pressure, legacyChoice source pressure (bodyOptions o₁)
      = legacyChoice source pressure (bodyOptions o₂) := by
    intro source pressure
    cases source <;> first | rfl | simp only [legacyChoice, starts]
  unfold legacyAfterTick
  simp only [choices]

theorem afterTick_same :
    afterTick world organs.policy i clock tick (routerOptions o₁ substrate result "tree")
      = afterTick world organs.policy i clock tick (routerOptions o₂ substrate result "tree") := by
  have shadowed : (routerOptions o₁ substrate result "tree").legacyShadow
      = (routerOptions o₂ substrate result "tree").legacyShadow :=
    same.agree.get (by simp [policyKeys, Consumer.all, Consumer.option, Consumer.key])
  have tree : ∀ options, (routerOptions options substrate result "tree").mode = treeMode :=
    fun _ => rfl
  have shadows : ∀ j live, legacyShadowFromTree world j (clock 2) (tick.orElse .emptyTable) live
        (routerOptions o₁ substrate result "tree")
      = legacyShadowFromTree world j (clock 2) (tick.orElse .emptyTable) live
        (routerOptions o₂ substrate result "tree") := by
    intro j live
    unfold legacyShadowFromTree
    rw [routerOptions_body, routerOptions_body, legacyAfterTick_same same]
  unfold afterTick
  rw [tree, tree]
  show afterTreeTick _ _ _ _ _ _ = afterTreeTick _ _ _ _ _ _
  unfold afterTreeTick
  rw [treeAuthority_same same, shadowed]
  simp only [shadows]

end

theorem afterTick_legacy (o₁ o₂ : Value) (organs : Organs) (world : World) (i : Instance)
    (clock : Nat → Int) (tick substrate result : Value) :
    afterTick world organs.policy i clock tick
        (routerOptions o₁ substrate result "legacy_control")
      = afterTick world organs.policy i clock tick
        (routerOptions o₂ substrate result "legacy_control") := by
  have mode : ∀ options, (routerOptions options substrate result "legacy_control").mode.orElse
      shadowMode = legacyMode := by
    intro options
    simp [routerOptions, legacyMode, Value.orElse, Value.truthy]
  have other : legacyMode ≠ treeMode := by simp [legacyMode, treeMode]
  unfold afterTick
  simp only [mode, if_neg other, if_true]
  unfold afterLegacyTick
  rfl

end Proc17.Runtime.Epoch
