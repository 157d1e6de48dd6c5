import Proc17.Runtime.Epoch.Verified

/-!
# Exact identities

Whether the two identities of an authority epoch say neither less nor more than the
policy they are digests of.  Equality of numbers is the one thing they can miss: the
digest sees a number's text.
-/

namespace Proc17.Runtime.Epoch

open Lua Core Core.Json List Value
open Runtime.Router

/-! ## What the identities are to say -/

def SameTree : Option TreeDescriptor → Option TreeDescriptor → Prop
  | none, none => True
  | some d, some e => d.kind = e.kind ∧ Number.eq d.threshold e.threshold = true
  | _, _ => False

namespace Settings

/-- One owner of movement and, where the tree moves, one tree policy. -/
def SamePhysics (s t : Settings) : Prop :=
  s.authority.mode.owner = t.authority.mode.owner ∧ SameTree s.authority.mover t.authority.mover

/-- Moreover one mode, one observer with its policy, and the same bounds as numbers. -/
def SameEvidence (s t : Settings) : Prop :=
  s.SamePhysics t ∧ s.authority.mode = t.authority.mode
    ∧ s.authority.observed = t.authority.observed
    ∧ SameTree s.authority.watcher t.authority.watcher
    ∧ ∀ bound, Number.eq (s.bounds bound) (t.bounds bound) = true

/-- Where everything else agrees, the numbers are equal exactly when they are written alike. -/
def NumbersTold (s t : Settings) : Prop :=
  (s.physicsKind = t.physicsKind →
    (SameTexts s.physicsNumbers t.physicsNumbers ↔ SameNumbers s.physicsNumbers t.physicsNumbers))
  ∧ (s.evidenceKind = t.evidenceKind →
    (SameTexts s.evidenceNumbers t.evidenceNumbers
      ↔ SameNumbers s.evidenceNumbers t.evidenceNumbers))

end Settings

def Settled (R : Settings → Settings → Prop) (o₁ o₂ : Value) : Prop :=
  ∃ s t, settingsOf o₁ = .ok s ∧ settingsOf o₂ = .ok t ∧ R s t

def ownerOf (record : Value) : String :=
  if (record.get "physics").get "movement_owner" = .text "tree" then "tree" else "legacy_control"

def seedTexts (record : Value) : List Bytes :=
  [physicsSeed (record.get "physics"), evidenceSeed (record.get "physics_epoch_id")
    (record.get "configured") (record.get "instrumentation")].filterMap
      fun seed => (encode seed).toOption

/-- SHA-256 tells the texts of two records apart, identity by identity. -/
def CollisionFree (r₁ r₂ : Value) : Prop :=
  ∀ pair ∈ (seedTexts r₁).zip (seedTexts r₂),
    Digest.sha256 pair.1 = Digest.sha256 pair.2 → pair.1 = pair.2

/-- The records of two option tables identify their policies exactly. -/
structure Exact (o₁ o₂ r₁ r₂ : Value) : Prop where
  physics : r₁.get "physics_epoch_id" = r₂.get "physics_epoch_id"
    ↔ Settled Settings.SamePhysics o₁ o₂
  evidence : r₁.get "evidence_epoch_id" = r₂.get "evidence_epoch_id"
    ↔ Settled Settings.SameEvidence o₁ o₂
  verified : verify r₁ = .ok () ∧ verify r₂ = .ok ()
  decides : AgreeElsewhere o₁ o₂ → r₁.get "physics_epoch_id" = r₂.get "physics_epoch_id" →
    ∀ organs world i clock tick substrate result,
      afterTick world (Organs.policy organs) i clock tick
          (routerOptions o₁ substrate result (ownerOf r₁))
        = afterTick world (Organs.policy organs) i clock tick
          (routerOptions o₂ substrate result (ownerOf r₂))

/-! ## Equality of settings by kind and numbers -/

theorem settled_iff {R : Settings → Settings → Prop} {o₁ o₂ : Value} {s t : Settings}
    (one : settingsOf o₁ = .ok s) (two : settingsOf o₂ = .ok t) : Settled R o₁ o₂ ↔ R s t := by
  constructor
  · rintro ⟨s', t', one', two', related⟩
    cases one.symm.trans one'
    cases two.symm.trans two'
    exact related
  · intro related
    exact ⟨s, t, one, two, related⟩

theorem sameTree_iff (d e : Option TreeDescriptor) :
    SameTree d e ↔ d.map TreeDescriptor.kind = e.map TreeDescriptor.kind
      ∧ SameNumbers (d.map TreeDescriptor.threshold).toList
        (e.map TreeDescriptor.threshold).toList := by
  cases d <;> cases e <;> simp [SameTree, SameNumbers]

theorem samePhysics_iff (s t : Settings) : s.SamePhysics t
    ↔ s.physicsKind = t.physicsKind ∧ SameNumbers s.physicsNumbers t.physicsNumbers := by
  rw [Settings.SamePhysics, sameTree_iff, Settings.physicsKind, Settings.physicsKind,
    Settings.physicsNumbers, Settings.physicsNumbers]
  constructor
  · exact fun h => h.2
  · intro h
    refine ⟨owner_of_mover.mpr ?_, h⟩
    have somes := congrArg Option.isSome h.1
    simpa using somes

section
variable (R : Number → Number → Prop) (s t : Settings)

theorem forall₂_threshold_append (d e : Option TreeDescriptor) (a b : List Number)
    (kinds : d.map TreeDescriptor.kind = e.map TreeDescriptor.kind) :
    List.Forall₂ R ((d.map TreeDescriptor.threshold).toList ++ a)
        ((e.map TreeDescriptor.threshold).toList ++ b)
      ↔ List.Forall₂ R (d.map TreeDescriptor.threshold).toList
          (e.map TreeDescriptor.threshold).toList ∧ List.Forall₂ R a b := by
  cases d with
  | none =>
    cases e with
    | none => simp
    | some e => simp at kinds
  | some d =>
    cases e with
    | none => simp at kinds
    | some e => simp [forall₂_cons]

theorem evidence_parts :
    ((s.physicsKind = t.physicsKind ∧ List.Forall₂ R s.physicsNumbers t.physicsNumbers)
      ∧ s.authority.mode = t.authority.mode ∧ s.authority.observed = t.authority.observed
      ∧ (s.authority.watcher.map TreeDescriptor.kind = t.authority.watcher.map TreeDescriptor.kind
        ∧ List.Forall₂ R (s.authority.watcher.map TreeDescriptor.threshold).toList
          (t.authority.watcher.map TreeDescriptor.threshold).toList)
      ∧ List.Forall₂ R (Bound.all.map s.bounds) (Bound.all.map t.bounds))
    ↔ s.evidenceKind = t.evidenceKind ∧ List.Forall₂ R s.evidenceNumbers t.evidenceNumbers := by
  obtain ⟨a, bounds⟩ := s
  obtain ⟨b, bounds'⟩ := t
  simp only [Settings.physicsKind, Settings.physicsNumbers, Settings.evidenceKind,
    Settings.evidenceNumbers, Prod.mk.injEq]
  constructor
  · rintro ⟨⟨moverKind, mover⟩, modes, observed, ⟨watcherKind, watcher⟩, limits⟩
    have kinds : a.described.map TreeDescriptor.kind = b.described.map TreeDescriptor.kind := by
      cases a <;> cases b <;>
        simp_all [Authority.mode, Authority.mover, Authority.watcher, Authority.described]
    refine ⟨⟨modes, observed, kinds⟩, (forall₂_threshold_append R _ _ _ _ kinds).mpr ⟨?_, limits⟩⟩
    cases a <;> cases b <;>
      simp_all [Authority.mode, Authority.mover, Authority.watcher, Authority.described]
  · rintro ⟨⟨modes, observed, kinds⟩, numbers⟩
    obtain ⟨thresholds, limits⟩ := (forall₂_threshold_append R _ _ _ _ kinds).mp numbers
    refine ⟨?_, modes, observed, ?_, limits⟩ <;> cases a <;> cases b <;>
      simp_all [Authority.mode, Authority.mover, Authority.watcher, Authority.described]

end

theorem bounds_forall (R : Number → Number → Prop) (a b : Bounds) :
    List.Forall₂ R (Bound.all.map a) (Bound.all.map b) ↔ ∀ bound, R (a bound) (b bound) := by
  rw [List.forall₂_map_left_iff, List.forall₂_map_right_iff, List.forall₂_same]
  exact ⟨fun each bound => each bound bound.mem_all, fun each bound _ => each bound⟩

theorem sameEvidence_iff (s t : Settings) : s.SameEvidence t
    ↔ s.evidenceKind = t.evidenceKind ∧ SameNumbers s.evidenceNumbers t.evidenceNumbers := by
  rw [SameNumbers, ← evidence_parts, Settings.SameEvidence, samePhysics_iff, sameTree_iff,
    bounds_forall]
  rfl

/-! ## The identities by kind and texts -/

section
variable {o₁ o₂ r₁ r₂ : Value} {s t : Settings} {surface physics physics' evidence evidence' : Bytes}

section
variable (resolved : Resolved o₁ r₁ s surface physics evidence)
include resolved

theorem Resolved.physicsId :
    r₁.get "physics_epoch_id" = .str (utf8 "sha256:" ++ Digest.sha256 physics) := by
  rw [resolved.built]
  exact get_record (by simp) (by simp)

theorem Resolved.evidenceId :
    r₁.get "evidence_epoch_id" = .str (utf8 "sha256:" ++ Digest.sha256 evidence) := by
  rw [resolved.built]
  exact get_record (by simp) (by simp)

theorem Resolved.seeds : seedTexts r₁ = [physics, evidence] := by
  obtain ⟨physicsPart, configured, instrumentation⟩ : r₁.get "physics" = s.physics (.str surface)
      ∧ r₁.get "configured" = s.configured ∧ r₁.get "instrumentation" = s.instrumentation := by
    rw [resolved.built]
    refine ⟨?_, ?_, ?_⟩ <;> exact get_record (by simp) (by simp)
  rw [seedTexts, physicsPart, configured, instrumentation, resolved.physicsId]
  simp only [filterMap_cons, resolved.physics, resolved.evidence, filterMap_nil]
  rfl

end

variable {surface' : Bytes}

theorem Resolved.surface_unique
    (one : Resolved o₁ r₁ s surface physics evidence)
    (two : Resolved o₂ r₂ t surface' physics' evidence') : surface = surface' := by
  obtain ⟨table, built, named⟩ := one.surface
  obtain ⟨table', built', named'⟩ := two.surface
  cases built.symm.trans built'
  cases named.symm.trans named'
  rfl

theorem tag_injective {a b : Bytes}
    (same : Value.str (utf8 "sha256:" ++ a) = .str (utf8 "sha256:" ++ b)) : a = b :=
  append_cancel_left (Value.str.inj same)

theorem collisionFree_iff (one : Resolved o₁ r₁ s surface physics evidence)
    (two : Resolved o₂ r₂ t surface' physics' evidence') :
    CollisionFree r₁ r₂ ↔ (Digest.sha256 physics = Digest.sha256 physics' → physics = physics')
      ∧ (Digest.sha256 evidence = Digest.sha256 evidence' → evidence = evidence') := by
  simp [CollisionFree, one.seeds, two.seeds]

section
variable (one : Resolved o₁ r₁ s surface physics evidence)
  (two : Resolved o₂ r₂ t surface physics' evidence')
include one two

theorem physicsText_iff : physics = physics'
    ↔ s.physicsKind = t.physicsKind ∧ SameTexts s.physicsNumbers t.physicsNumbers := by
  rw [← encode_physics_iff s t surface, ← encode_physicsSeed_iff (encodes_physics s surface) rfl rfl,
    one.physics, two.physics, Except.ok.injEq]

theorem evidenceText_iff : evidence = evidence'
    ↔ Digest.sha256 physics = Digest.sha256 physics'
      ∧ s.authority.mode = t.authority.mode
      ∧ encode s.instrumentation = encode t.instrumentation := by
  have same := @encode_evidenceSeed_iff s t (utf8 "sha256:" ++ Digest.sha256 physics)
    (utf8 "sha256:" ++ Digest.sha256 physics')
  rw [one.evidence, two.evidence, Except.ok.injEq] at same
  rw [same]
  refine and_congr_left fun _ => ⟨fun written => ?_, fun equal => by rw [equal]⟩
  exact append_cancel_left (encode_str_injective written)

variable (apart : CollisionFree r₁ r₂)
include apart

theorem physicsHash_iff : Digest.sha256 physics = Digest.sha256 physics' ↔ physics = physics' :=
  ⟨((collisionFree_iff one two).mp apart).1, fun same => by rw [same]⟩

theorem physicsId_iff : r₁.get "physics_epoch_id" = r₂.get "physics_epoch_id"
    ↔ s.physicsKind = t.physicsKind ∧ SameTexts s.physicsNumbers t.physicsNumbers := by
  rw [← physicsText_iff one two, ← physicsHash_iff one two apart, one.physicsId, two.physicsId]
  exact ⟨tag_injective, fun same => by rw [same]⟩

theorem evidenceId_iff : r₁.get "evidence_epoch_id" = r₂.get "evidence_epoch_id"
    ↔ s.evidenceKind = t.evidenceKind ∧ SameTexts s.evidenceNumbers t.evidenceNumbers := by
  have seeds : r₁.get "evidence_epoch_id" = r₂.get "evidence_epoch_id" ↔ evidence = evidence' := by
    rw [one.evidenceId, two.evidenceId]
    constructor
    · intro same
      exact ((collisionFree_iff one two).mp apart).2 (tag_injective same)
    · rintro rfl
      rfl
  rw [seeds, evidenceText_iff one two, physicsHash_iff one two apart, physicsText_iff one two,
    SameTexts, SameTexts, ← evidence_parts]
  constructor
  · rintro ⟨mover, modes, instruments⟩
    obtain ⟨observed, kind, watcher, bounds⟩ := (encode_instrumentation_iff modes).mp instruments
    exact ⟨mover, modes, observed, ⟨kind, watcher⟩, bounds⟩
  · rintro ⟨mover, modes, observed, ⟨kind, watcher⟩, bounds⟩
    exact ⟨mover, modes, (encode_instrumentation_iff modes).mpr ⟨observed, kind, watcher, bounds⟩⟩

end

theorem collisionFree_of_written (one : Resolved o₁ r₁ s surface physics evidence)
    (two : Resolved o₂ r₂ t surface' physics' evidence')
    (kinds : s.evidenceKind = t.evidenceKind)
    (written : SameTexts s.evidenceNumbers t.evidenceNumbers) : CollisionFree r₁ r₂ := by
  cases one.surface_unique two
  have parts := (evidence_parts (fun a b => a.tostring = b.tostring) s t).mpr ⟨kinds, written⟩
  obtain ⟨mover, modes, observed, ⟨kind, watcher⟩, bounds⟩ := parts
  have same : physics = physics' := (physicsText_iff one two).mpr mover
  rw [collisionFree_iff one two]
  refine ⟨fun _ => same, fun _ => (evidenceText_iff one two).mpr ⟨by rw [same], modes, ?_⟩⟩
  exact (encode_instrumentation_iff modes).mpr ⟨observed, kind, watcher, bounds⟩

end

/-! ## The decision -/

theorem mover_described {options : Value} {s : Settings} (settled : settingsOf options = .ok s)
    {d : TreeDescriptor} (mover : s.authority.mover = some d) :
    Describes options d ∧ options.get "router_mode" = .text "tree" := by
  simp only [settingsOf, bind_eq_ok, pure_eq_ok] at settled
  obtain ⟨mode, named, bounds, -, ⟨authority, unused⟩, made, rfl⟩ := settled
  have mover : authority.mover = some d := mover
  cases mode with
  | legacy =>
    cases made
    cases mover
  | shadow =>
    simp only [authorityOf, bind_eq_ok, pure_eq_ok, Prod.mk.injEq] at made
    obtain ⟨⟨tree, unused⟩, -, rfl, -⟩ := made
    cases mover
  | tree =>
    simp only [authorityOf, bind_eq_ok, pure_eq_ok, Prod.mk.injEq] at made
    obtain ⟨⟨tree, unused⟩, described, rfl, -⟩ := made
    cases mover
    refine ⟨describes_of_treeDescriptor described, ?_⟩
    unfold modeOf at named
    split at named
    · rename_i mode parsed
      cases named
      have text := eq_text_of_parse parsed
      unfold Value.orElse at text
      split at text
      · exact text
      · simp [Mode.name] at text
    · cases named

theorem Resolved.owner {options record : Value} {s : Settings} {surface physics evidence : Bytes}
    (resolved : Resolved options record s surface physics evidence) :
    ownerOf record = s.authority.mode.owner := by
  have part : record.get "physics" = s.physics (.str surface) := by
    rw [resolved.built]
    exact get_record (by simp) (by simp)
  have owner : (s.physics (.str surface)).get "movement_owner" = .text s.authority.mode.owner :=
    get_record (by simp) (by simp)
  rw [ownerOf, part, owner]
  unfold Mode.owner
  split <;> simp_all

theorem owner_cases (a : Authority) :
    (∃ d, a.mover = some d ∧ a.mode.owner = "tree")
      ∨ (a.mover = none ∧ a.mode.owner = "legacy_control") := by
  cases a with
  | legacy | shadow => exact .inr ⟨rfl, rfl⟩
  | tree mover watched => exact .inl ⟨mover, rfl, rfl⟩

/-! ## Exactness -/

theorem resolve_ok {options record diagnostics : Value}
    (resolved : resolve options = .ok (record, diagnostics)) :
    ∃ s surface physics evidence, Resolved options record s surface physics evidence := by
  cases options with
  | table tag entries => exact resolveTable_ok resolved
  | nil =>
    obtain ⟨s, surface, physics, evidence, table⟩ := resolveTable_ok resolved
    exact ⟨s, surface, physics, evidence, { table with settled := table.settled }⟩
  | _ => cases resolved

/-- For every two option tables that are accepted, and whose texts SHA-256 tells apart, the
records identify their policies exactly if and only if the numbers that matter are equal
exactly when they are written alike. -/
theorem epochs_exact_iff {o₁ o₂ r₁ r₂ d₁ d₂ : Value} (first : resolve o₁ = .ok (r₁, d₁))
    (second : resolve o₂ = .ok (r₂, d₂)) (apart : CollisionFree r₁ r₂) :
    Exact o₁ o₂ r₁ r₂ ↔ Settled Settings.NumbersTold o₁ o₂ := by
  obtain ⟨s, surface, physics, evidence, one⟩ := resolve_ok first
  obtain ⟨t, surface', physics', evidence', two⟩ := resolve_ok second
  cases one.surface_unique two
  have byPhysics := physicsId_iff one two apart
  have byEvidence := evidenceId_iff one two apart
  rw [settled_iff one.settled two.settled]
  constructor
  · intro holds
    have samePhysics := holds.physics
    have sameEvidence := holds.evidence
    rw [settled_iff one.settled two.settled, samePhysics_iff, byPhysics] at samePhysics
    rw [settled_iff one.settled two.settled, sameEvidence_iff, byEvidence] at sameEvidence
    exact ⟨fun kind => (and_congr_right_iff.mp samePhysics) kind,
      fun kind => (and_congr_right_iff.mp sameEvidence) kind⟩
  · rintro ⟨physicsTold, evidenceTold⟩
    have samePhysics : r₁.get "physics_epoch_id" = r₂.get "physics_epoch_id" ↔ s.SamePhysics t := by
      rw [samePhysics_iff, byPhysics]
      exact and_congr_right physicsTold
    refine ⟨?_, ?_, ⟨one.verified, two.verified⟩, ?_⟩
    · rw [settled_iff one.settled two.settled]
      exact samePhysics
    · rw [settled_iff one.settled two.settled, sameEvidence_iff, byEvidence]
      exact and_congr_right evidenceTold
    · intro agree same organs world i clock tick substrate result
      obtain ⟨kinds, texts⟩ := byPhysics.mp same
      obtain ⟨owners, trees⟩ := samePhysics.mp same
      rw [one.owner, two.owner]
      rcases owner_cases s.authority with ⟨d, mover, owner⟩ | ⟨mover, owner⟩
      · rcases owner_cases t.authority with ⟨e, mover', owner'⟩ | ⟨mover', owner'⟩
        · rw [owner, owner']
          obtain ⟨describes, mode⟩ := mover_described one.settled mover
          obtain ⟨describes', mode'⟩ := mover_described two.settled mover'
          rw [mover, mover'] at trees
          have written : d.threshold.tostring = e.threshold.tostring := by
            simpa [SameTexts, Settings.physicsNumbers, mover, mover'] using texts
          exact afterTick_same ⟨describes, describes',
            ⟨trees.1, Number.eq_of_tostring_eq written trees.2⟩, agree, mode, mode'⟩
            organs world i clock tick substrate result
        · rw [owner, owner'] at owners
          simp at owners
      · rw [owner] at owners ⊢
        rw [← owners]
        exact afterTick_legacy o₁ o₂ organs world i clock tick substrate result

/-! ## Two thresholds -/

def thresholdOptions (threshold : Number) : Value :=
  .record [("router_mode", .text "tree"),
    ("tree_router", .record [("threshold", .num threshold)])]

def tenth : Number := .float (Dyadic.ofIntWithPrec 3602879701896397 55)

def tenthNext : Number := .float (Dyadic.ofIntWithPrec 3602879701896398 55)

def historical : PressureDescriptor := ⟨.cameraReconciliation, fun _ => false, []⟩

def thresholdSettings (threshold : Number) : Settings :=
  ⟨.tree ⟨historical, threshold, false⟩ true, Bound.default⟩

theorem historical_verified : verifyPressureDescriptor historical.toValue false = .ok () := by
  have checked : (verifyPressureDescriptor historical.toValue false).toBool = true := by
    decide +kernel
  rcases verified : verifyPressureDescriptor historical.toValue false with failure | done
  · rw [verified] at checked
    cases checked
  · rfl

variable {n : Number}

theorem settingsOf_tree {options : Value} (mode : modeOf options = .ok .tree)
    (bounds : normalizeBounds (options.get "authority_instrument_bounds") = .ok Bound.default)
    (pressure : describePressure options = .ok historical)
    (described : describeTree historical (options.get "tree_router")
      = .ok ⟨historical, n, false⟩)
    (observed : options.get "legacy_shadow" ≠ .bool false) :
    settingsOf options = .ok (thresholdSettings n) := by
  have tree : treeDescriptor options = .ok (⟨historical, n, false⟩, []) :=
    bind_ok pressure (bind_ok described rfl)
  have watched : authorityOf options .tree = .ok (.tree ⟨historical, n, false⟩ true, []) := by
    refine bind_ok tree ?_
    simp [observed, pure, Except.pure]
  exact bind_ok mode (bind_ok bounds (bind_ok watched rfl))

theorem settingsOf_threshold (finite : n.isFinite = true) :
    settingsOf (thresholdOptions n) = .ok (thresholdSettings n) := by
  have threshold : thresholdOf ((thresholdOptions n).get "tree_router") = .ok n := by
    show (if n.isFinite then _ else _) = _
    rw [if_pos finite]
  exact settingsOf_tree rfl rfl rfl
    (bind_ok historical_verified (bind_ok rfl (bind_ok threshold (bind_ok rfl (bind_ok rfl rfl)))))
    Value.noConfusion

def treeOptions : Value := .record [("router_mode", .text "tree")]

theorem settingsOf_treeOptions : settingsOf treeOptions = .ok (thresholdSettings (.int 0)) :=
  settingsOf_tree rfl rfl rfl
    (bind_ok historical_verified (bind_ok rfl (bind_ok rfl (bind_ok rfl (bind_ok rfl rfl)))))
    Value.noConfusion

theorem resolve_treeOptions :
    ∃ record diagnostics, resolve treeOptions = .ok (record, diagnostics) :=
  resolveTable_of_settled rfl settingsOf_treeOptions rfl

theorem resolve_threshold (finite : n.isFinite = true) :
    ∃ record diagnostics, resolve (thresholdOptions n) = .ok (record, diagnostics) :=
  resolveTable_of_settled rfl (settingsOf_threshold finite) rfl

theorem threshold_collisionFree {o₁ o₂ : Value} {m n : Number} {r₁ r₂ d₁ d₂ : Value}
    (one : settingsOf o₁ = .ok (thresholdSettings m))
    (two : settingsOf o₂ = .ok (thresholdSettings n)) (written : m.tostring = n.tostring)
    (first : resolve o₁ = .ok (r₁, d₁)) (second : resolve o₂ = .ok (r₂, d₂)) :
    CollisionFree r₁ r₂ := by
  obtain ⟨s, surface, physics, evidence, resolved⟩ := resolve_ok first
  obtain ⟨t, surface', physics', evidence', resolved'⟩ := resolve_ok second
  cases one.symm.trans resolved.settled
  cases two.symm.trans resolved'.settled
  refine collisionFree_of_written resolved resolved' rfl ?_
  exact .cons written (List.forall₂_same.mpr fun _ _ => rfl)

theorem epochs_exact_zero : ∃ r₁ d₁ r₂ d₂, resolve treeOptions = .ok (r₁, d₁)
    ∧ resolve (thresholdOptions (.int 0)) = .ok (r₂, d₂)
    ∧ Exact treeOptions (thresholdOptions (.int 0)) r₁ r₂ := by
  obtain ⟨r₁, d₁, first⟩ := resolve_treeOptions
  obtain ⟨r₂, d₂, second⟩ := resolve_threshold (rfl : (Number.int 0).isFinite = true)
  have zero : settingsOf (thresholdOptions (.int 0)) = .ok (thresholdSettings (.int 0)) :=
    settingsOf_threshold rfl
  have apart : CollisionFree r₁ r₂ :=
    threshold_collisionFree settingsOf_treeOptions zero (Eq.refl _) first second
  refine ⟨r₁, d₁, r₂, d₂, first, second, (epochs_exact_iff first second apart).mpr ?_⟩
  refine ⟨thresholdSettings (.int 0), thresholdSettings (.int 0), settingsOf_treeOptions, zero, ?_⟩
  have equal : ∀ n ∈ (thresholdSettings (.int 0)).evidenceNumbers, Number.eq n n = true := by decide
  constructor
  · intro _
    exact ⟨fun _ => List.forall₂_same.mpr (by decide), fun _ => List.forall₂_same.mpr fun _ _ => rfl⟩
  · intro _
    exact ⟨fun _ => List.forall₂_same.mpr equal, fun _ => List.forall₂_same.mpr fun _ _ => rfl⟩

theorem tenth_written : tenth.tostring = tenthNext.tostring := by decide +kernel

/-- Two tables whose thresholds differ in the last bit share their physics identity. -/
theorem close_thresholds_share_epoch : ∃ r₁ d₁ r₂ d₂,
    resolve (thresholdOptions tenth) = .ok (r₁, d₁)
    ∧ resolve (thresholdOptions tenthNext) = .ok (r₂, d₂) ∧ CollisionFree r₁ r₂
    ∧ r₁.get "physics_epoch_id" = r₂.get "physics_epoch_id"
    ∧ ¬ Settled Settings.SamePhysics (thresholdOptions tenth) (thresholdOptions tenthNext)
    ∧ ¬ Exact (thresholdOptions tenth) (thresholdOptions tenthNext) r₁ r₂ := by
  have one : settingsOf (thresholdOptions tenth) = .ok (thresholdSettings tenth) :=
    settingsOf_threshold rfl
  have two : settingsOf (thresholdOptions tenthNext) = .ok (thresholdSettings tenthNext) :=
    settingsOf_threshold rfl
  obtain ⟨r₁, d₁, first⟩ := resolve_threshold (rfl : tenth.isFinite = true)
  obtain ⟨r₂, d₂, second⟩ := resolve_threshold (rfl : tenthNext.isFinite = true)
  have apart := threshold_collisionFree one two tenth_written first second
  have differ : ¬ Settled Settings.SamePhysics (thresholdOptions tenth)
      (thresholdOptions tenthNext) := by
    rw [settled_iff one two]
    rintro ⟨-, -, equal⟩
    have unequal : Number.eq tenth tenthNext = false := by decide +kernel
    exact Bool.noConfusion (unequal.symm.trans equal)
  have shared : r₁.get "physics_epoch_id" = r₂.get "physics_epoch_id" := by
    obtain ⟨s, surface, physics, evidence, resolved⟩ := resolve_ok first
    obtain ⟨t, surface', physics', evidence', resolved'⟩ := resolve_ok second
    cases one.symm.trans resolved.settled
    cases two.symm.trans resolved'.settled
    cases resolved.surface_unique resolved'
    exact (physicsId_iff resolved resolved' apart).mpr ⟨rfl, .cons tenth_written .nil⟩
  exact ⟨r₁, d₁, r₂, d₂, first, second, apart, shared, differ,
    fun holds => differ (holds.physics.mp shared)⟩

end Proc17.Runtime.Epoch
