import Proc17.Runtime.Epoch.Decision

/-!
# Resolved records are well formed

The record that settings make passes `authority_epoch.verify`, whatever the options, so
that `authority_epoch.resolve` fails only for reasons the options give.
-/

namespace Proc17.Runtime.Epoch

open Lua Core Core.Json List Value

/-! ## Digests are hexadecimal -/

def isHex (b : UInt8) : Bool := Number.isDigit b || (97 ≤ b && b ≤ 102)

theorem isHex_hexDigit {n : Nat} (small : n < 16) : isHex (hexDigit n) = true := by
  have all : ∀ k : Nat, k < 16 → isHex (hexDigit k) = true := by decide
  exact all n small

theorem hexWord_hex (word : Nat) :
    (Digest.hexWord word).length = 8 ∧ (Digest.hexWord word).all isHex = true := by
  have bytes : ∀ (count w : Nat), (Digest.bigEndian count w).length = count := by
    intro count
    induction count with
    | zero => intro w; rfl
    | succ count ih => intro w; simp [Digest.bigEndian, ih]
  constructor
  · simp [Digest.hexWord, length_flatMap, bytes]
  · rw [Digest.hexWord, all_flatMap, all_eq_true]
    intro b _
    have high := isHex_hexDigit (n := b.toNat / 16) (by have := b.toNat_lt; omega)
    have low := isHex_hexDigit (n := b.toNat % 16) (by omega)
    simp [high, low]

theorem isTaggedHash_sha256 (text : Bytes) :
    isTaggedHash (.str (utf8 "sha256:" ++ Digest.sha256 text)) = true := by
  have shape : (Digest.sha256 text).length = 64 ∧ (Digest.sha256 text).all isHex = true := by
    unfold Digest.sha256
    simp only [flatMap_cons, flatMap_nil, length_append, all_append, (hexWord_hex _).1,
      (hexWord_hex _).2, length_nil, all_nil, Bool.and_self, and_self]
  have tag : (utf8 "sha256:").length = 7 := by decide
  have dropped : (utf8 "sha256:" ++ Digest.sha256 text).drop 7 = Digest.sha256 text := by
    rw [← tag, drop_left]
  have length : (utf8 "sha256:" ++ Digest.sha256 text).length = 71 := by
    rw [length_append, tag, shape.1]
  have starts : (utf8 "sha256:").isPrefixOf (utf8 "sha256:" ++ Digest.sha256 text) = true :=
    isPrefixOf_iff_prefix.mpr (prefix_append _ _)
  simp only [isTaggedHash, length, starts, dropped]
  exact shape.2

/-! ## Descriptors pass their checks -/

theorem required {condition : Prop} [Decidable condition] {failure : Failure}
    (holds : condition) : require condition failure = .ok () := if_pos holds

theorem bind_ok {α β : Type} {first : Except Failure α} {next : α → Except Failure β} {a : α}
    {b : β} (one : first = .ok a) (two : next a = .ok b) : (first >>= next) = .ok b :=
  (bind_eq_ok first next b).mpr ⟨a, one, two⟩

theorem exactNames_record {fields : List (String × Value)} {allowed optional : List String}
    (distinct : (fields.map Prod.fst).Nodup) (present : ∀ field ∈ fields, field.2 ≠ .nil)
    (inside : ∀ name ∈ fields.map Prod.fst, name ∈ allowed)
    (covers : ∀ name ∈ allowed, optional.contains name = true ∨ name ∈ fields.map Prod.fst) :
    exactNames (.record fields) allowed optional = true := by
  simp only [exactNames, Bool.and_eq_true]
  refine ⟨⟨rfl, ?_⟩, ?_⟩
  · rw [all_eq_true]
    intro key member
    obtain ⟨entry, there, rfl⟩ := mem_map.mp member
    obtain ⟨field, given, rfl⟩ := mem_fields there
    rw [any_eq_true]
    exact ⟨field.1, inside _ (mem_map_of_mem given), by simp⟩
  · rw [all_eq_true]
    intro name member
    rcases covers name member with isOptional | named
    · rw [isOptional, Bool.true_or]
    · obtain ⟨field, given, rfl⟩ := mem_map.mp named
      have read : (Value.record fields).get field.1 = field.2 := get_record distinct given
      rw [read, Bool.or_eq_true]
      exact .inr (by simpa using present field given)

section

variable (ablated : Consumer → Bool)

theorem vector_named :
    (Consumer.all.map fun consumer => (consumer.key, Value.bool (ablated consumer))).map Prod.fst
      = Consumer.all.map Consumer.key := by
  rw [map_map]
  rfl

theorem keys_nodup : (Consumer.all.map Consumer.key).Nodup := by
  simp [Consumer.all, Consumer.key]

theorem exactNames_vector :
    exactNames (ablationVector ablated) (Consumer.all.map Consumer.key) [] = true := by
  refine exactNames_record ?_ ?_ ?_ ?_
  · rw [vector_named]
    exact keys_nodup
  · intro field member
    obtain ⟨consumer, -, rfl⟩ := mem_map.mp member
    exact Value.noConfusion
  · rw [vector_named]
    exact fun name member => member
  · rw [vector_named]
    exact fun name member => .inr member

theorem get_vector (consumer : Consumer) :
    (ablationVector ablated).get consumer.key = .bool (ablated consumer) := by
  refine get_record ?_ ?_
  · rw [vector_named]
    exact keys_nodup
  · exact mem_map_of_mem consumer.mem_all

end

theorem PressurePolicy.name_injective (a b : PressurePolicy) (same : a.name = b.name) : a = b := by
  cases a <;> cases b <;> simp_all [PressurePolicy.name]

theorem parse_policy (policy : PressurePolicy) :
    Value.parse PressurePolicy.all PressurePolicy.name (.text policy.name) = some policy :=
  parse_text PressurePolicy.name_injective policy (by cases policy <;> simp [PressurePolicy.all])

theorem compact_distinct (d : PressureDescriptor) : (d.compact.map Prod.fst).Nodup := by
  simp [PressureDescriptor.compact, PressurePolicy.protocol]

variable {name : String} {value options : Value} {s : Settings}

theorem get_compact {d : PressureDescriptor} (member : (name, value) ∈ d.compact) :
    (Value.record d.compact).get name = value :=
  get_record (compact_distinct d) member

def PressureDescriptor.Plain (d : PressureDescriptor) : Prop :=
  d.policy ≠ .qualifiedNeed → d.ablated = fun _ => false

theorem verify_compact {d : PressureDescriptor} (unablated : d.Plain) :
    verifyPressureDescriptor (.record d.compact) true = .ok () := by
  have kind : (Value.record d.compact).get "kind" = .text "pressure_policy_descriptor" :=
    get_compact (by simp [PressureDescriptor.compact])
  have protocol : (Value.record d.compact).get "protocol_version"
      = .text "pressure-policy-descriptor.v0" := get_compact (by simp [PressureDescriptor.compact])
  have truth : (Value.record d.compact).get "event_truth_status" = .text "runtime_confirmed" :=
    get_compact (by simp [PressureDescriptor.compact])
  have vector : (Value.record d.compact).get "ablation_vector" = ablationVector d.ablated :=
    get_compact (by simp [PressureDescriptor.compact])
  have policy : (Value.record d.compact).get "pressure_policy" = .text d.policy.name :=
    get_compact (by simp [PressureDescriptor.compact])
  have unused : (Value.record d.compact).get "unused_options" = .nil :=
    get_record_absent (by simp [PressureDescriptor.compact, PressurePolicy.protocol])
  have named : exactNames (.record d.compact) descriptorNames ["unused_options"] = true := by
    refine exactNames_record (compact_distinct d) ?_ ?_ ?_
    · intro field member
      simp only [PressureDescriptor.compact, PressurePolicy.protocol, cons_append,
        nil_append, mem_cons, not_mem_nil, or_false] at member
      rcases member with rfl | rfl | rfl | rfl | rfl | rfl | rfl | rfl | rfl | rfl <;>
        exact Value.noConfusion
    · simp [PressureDescriptor.compact, PressurePolicy.protocol, descriptorNames]
    · simp [PressureDescriptor.compact, PressurePolicy.protocol, descriptorNames]
  have fields : ∀ field ∈ d.policy.protocol, (Value.record d.compact).get field.1 = field.2 := by
    intro field member
    exact get_compact (by simp [PressureDescriptor.compact, member])
  have switched : ∀ consumer ∈ Consumer.all,
      (ablationVector d.ablated).get consumer.key = .bool true
        ∨ (ablationVector d.ablated).get consumer.key = .bool false := by
    intro consumer _
    rw [get_vector]
    cases d.ablated consumer <;> simp
  have items : (((Value.record d.compact).get "unused_options").orElse .emptyTable).ipairs
      = .ok [] := by
    rw [unused]
    rfl
  have plain : Json.same (((Value.record d.compact).get "unused_options").orElse .emptyTable)
      (texts []) = .ok true := by
    rw [unused]
    exact Json.same_self (encodes_table (by simp))
  have sorted : sortedUnique [] = some [] := rfl
  unfold verifyPressureDescriptor
  refine bind_ok (required ⟨named, kind, protocol, truth⟩) ?_
  refine bind_ok (required ?_) ?_
  · rw [vector]
    exact ⟨exactNames_vector _, switched⟩
  refine bind_ok items ?_
  rw [sorted]
  refine bind_ok plain (bind_ok (required rfl) ?_)
  rw [policy, parse_policy]
  refine bind_ok (required fields) ?_
  split
  · exact required rfl
  · rename_i binary
    have off := unablated (by simpa [PressurePolicy.qualified] using binary)
    have same : Json.same ((Value.record d.compact).get "ablation_vector")
        (ablationVector fun _ => false) = .ok true := by
      rw [vector, off]
      refine Json.same_self (encodes_record fun field member => ?_)
      obtain ⟨consumer, -, rfl⟩ := mem_map.mp member
      exact encodes_bool _
    exact bind_ok same (bind_ok (required rfl) (required (by simp)))

structure TreeDescriptor.Sound (d : TreeDescriptor) : Prop where
  unablated : d.pressure.Plain
  finite : d.threshold.isFinite = true

theorem verify_tree {d : TreeDescriptor} (sound : d.Sound) :
    verifyTreeDescriptor d.toValue = .ok () := by
  have distinct : (d.fields.map Prod.fst).Nodup := by simp [TreeDescriptor.fields]
  have field : ∀ {name : String} {value : Value}, (name, value) ∈ d.fields →
      d.toValue.get name = value := fun member => get_record distinct member
  have parameters : d.toValue.get "policy_parameters"
      = .record [("movement_threshold", .num d.threshold),
        ("allow_control_fallback", .bool d.allowControlFallback)] :=
    field (by simp [TreeDescriptor.fields])
  have pressure : d.toValue.get "pressure" = .record d.pressure.compact :=
    field (by simp [TreeDescriptor.fields])
  have policy : (Value.record d.pressure.compact).get "pressure_policy"
      = .text d.pressure.policy.name := get_compact (by simp [PressureDescriptor.compact])
  have named : exactNames d.toValue treeDescriptorNames [] = true := by
    refine exactNames_record distinct ?_ ?_ ?_
    · intro field member
      simp only [TreeDescriptor.fields, mem_cons, not_mem_nil, or_false] at member
      rcases member with rfl | rfl | rfl | rfl | rfl | rfl | rfl <;> exact Value.noConfusion
    · simp [TreeDescriptor.fields, treeDescriptorNames]
    · simp [TreeDescriptor.fields, treeDescriptorNames]
  have inner : exactNames (.record [("movement_threshold", .num d.threshold),
      ("allow_control_fallback", .bool d.allowControlFallback)])
      ["movement_threshold", "allow_control_fallback"] [] = true :=
    exactNames_record (by simp) (by simp) (by simp) (by simp)
  have threshold : (Value.record [("movement_threshold", .num d.threshold),
      ("allow_control_fallback", .bool d.allowControlFallback)]).get "movement_threshold"
      = .num d.threshold := get_record (by simp) (by simp)
  have fallback : (Value.record [("movement_threshold", .num d.threshold),
      ("allow_control_fallback", .bool d.allowControlFallback)]).get "allow_control_fallback"
      = .bool d.allowControlFallback := get_record (by simp) (by simp)
  unfold verifyTreeDescriptor
  refine bind_ok (required ⟨named, field (by simp [TreeDescriptor.fields]),
    field (by simp [TreeDescriptor.fields]), field (by simp [TreeDescriptor.fields]), ?_⟩) ?_
  · rw [parameters, threshold, fallback]
    exact ⟨inner, sound.finite, rfl⟩
  rw [pressure]
  refine bind_ok (verify_compact sound.unablated) (required ?_)
  rw [policy, parse_policy]
  exact ⟨field (by simp [TreeDescriptor.fields]), field (by simp [TreeDescriptor.fields])⟩

theorem verify_legacy : verifyPolicyDescriptor legacyDescriptor false = .ok () := by
  have named : exactNames legacyDescriptor ["kind", "protocol_version", "routing_policy",
      "routing_policy_status", "event_truth_status"] [] = true := by
    unfold legacyDescriptor
    exact exactNames_record (by simp) (by simp) (by simp) (by simp)
  have same : sameValue legacyDescriptor legacyDescriptor = true := by
    rw [sameValue, Json.same_self encode_legacyDescriptor]
  unfold verifyPolicyDescriptor
  rw [if_neg Bool.false_ne_true]
  exact required ⟨named, same⟩

def Authority.Sound (a : Authority) : Prop := ∀ d, a.described = some d → d.Sound

theorem verify_livePolicy {a : Authority} (sound : a.Sound) :
    verifyPolicyDescriptor a.livePolicy (a.mode = .tree) = .ok () := by
  cases a with
  | tree mover watched => exact verify_tree (sound mover rfl)
  | legacy | shadow => exact verify_legacy

theorem deepCopy_compact (d : PressureDescriptor) :
    (Value.record d.compact).deepCopy = .record d.compact := by
  simp [PressureDescriptor.compact, PressurePolicy.protocol, deepCopy_record, ablationVector,
    Value.deepCopy, Consumer.all]

theorem deepCopy_tree (d : TreeDescriptor) : d.toValue.deepCopy = d.toValue := by
  rw [TreeDescriptor.toValue, TreeDescriptor.fields, deepCopy_record]
  simp only [map_cons, map_nil, deepCopy_compact]
  simp [deepCopy_record, Value.deepCopy]

theorem Authority.deepCopy_livePolicy (a : Authority) : a.livePolicy.deepCopy = a.livePolicy := by
  cases a with
  | tree mover watched => exact deepCopy_tree mover
  | _ => rfl

theorem Authority.deepCopy_observerPolicy (a : Authority) :
    a.observerPolicy.deepCopy = a.observerPolicy := by
  cases a with
  | legacy => rfl
  | shadow observer => exact deepCopy_tree observer
  | tree mover watched => cases watched <;> rfl

/-! ## Bounds -/

def Bounds.Sound (bounds : Bounds) : Prop := ∀ bound, isPositiveInteger (.num (bounds bound)) = true

theorem bounds_distinct (bounds : Bounds) : (bounds.fields.map Prod.fst).Nodup := by
  simp [Bounds.fields, Bound.all, Bound.key]

theorem verify_bounds {bounds : Bounds} (sound : bounds.Sound) :
    verifyBounds bounds.toValue = .ok () := by
  have field : ∀ {name : String} {value : Value}, (name, value) ∈ bounds.fields →
      bounds.toValue.get name = value := fun member => get_record (bounds_distinct bounds) member
  unfold verifyBounds
  refine bind_ok (required ⟨?_, field (by simp [Bounds.fields]), field (by simp [Bounds.fields]),
    field (by simp [Bounds.fields])⟩) ?_
  · refine exactNames_record (bounds_distinct bounds) ?_ ?_ ?_
    · simp [Bounds.fields, Bound.all]
    · simp [Bounds.fields, Bound.all]
    · simp [Bounds.fields, Bound.all]
  · apply forM_ok
    intro bound member
    refine required ?_
    rw [field (mem_append_right _ (mem_map_of_mem member))]
    exact sound bound

theorem boundOf_sound {configured : Value} {bound : Bound} {n : Number}
    (read : boundOf configured bound = .ok n) : isPositiveInteger (.num n) = true := by
  unfold boundOf at read
  split at read
  · cases read
    cases bound <;> decide
  · split at read
    · rename_i positive
      cases read
      exact positive
    · cases read
  · cases read

theorem normalizeBounds_sound {configured : Value} {bounds : Bounds}
    (normalized : normalizeBounds configured = .ok bounds) : bounds.Sound := by
  unfold normalizeBounds at normalized
  rw [bind_eq_ok] at normalized
  obtain ⟨-, -, normalized⟩ := normalized
  split at normalized
  · cases normalized
  · simp only [bind_eq_ok, pure_eq_ok] at normalized
    obtain ⟨records, one, single, two, source, three, projection, four, errors, five, rfl⟩ :=
      normalized
    intro bound
    cases bound
    · exact boundOf_sound one
    · exact boundOf_sound two
    · exact boundOf_sound three
    · exact boundOf_sound four
    · exact boundOf_sound five

/-! ## The record -/

theorem get_instrumentation (member : (name, value) ∈ [("router_mode", .text s.authority.mode.name),
      ("observer_mode", .text s.authority.observerMode),
      ("observer_enabled", .bool s.authority.observed),
      ("observer_policy", s.authority.observerPolicy.deepCopy),
      ("observer_protocol", .text s.authority.observerProtocol),
      ("edge_stats_protocol", .text "edge-stats.v3"), ("bounds", s.bounds.toValue)]) :
    s.instrumentation.get name = value :=
  get_record (by simp) member

theorem verify_observer (sound : s.authority.Sound) :
    verifyObserver s.instrumentation s.authority.mode = .ok () := by
  have enabled : s.instrumentation.get "observer_enabled" = .bool s.authority.observed :=
    get_instrumentation (by simp)
  have observer : s.instrumentation.get "observer_mode" = .text s.authority.observerMode :=
    get_instrumentation (by simp)
  have protocol : s.instrumentation.get "observer_protocol" = .text s.authority.observerProtocol :=
    get_instrumentation (by simp)
  have policy : s.instrumentation.get "observer_policy" = s.authority.observerPolicy.deepCopy :=
    get_instrumentation (by simp)
  rw [Authority.deepCopy_observerPolicy] at policy
  have expected : (if s.authority.mode = .shadow then "tree_shadow"
      else if s.authority.mode = .tree ∧ (Value.bool s.authority.observed).truthy = true then
        "legacy_shadow" else "none") = s.authority.observerMode := by
    cases s.authority with
    | tree mover watched => cases watched <;> rfl
    | _ => rfl
  have observed : (s.authority.observerMode ≠ "none") ↔ s.authority.observed = true := by
    cases s.authority with
    | tree mover watched => cases watched <;> simp [Authority.observerMode, Authority.observed]
    | _ => simp [Authority.observerMode, Authority.observed]
  unfold verifyObserver
  dsimp only
  rw [enabled, expected, observer, protocol, policy]
  refine bind_ok (required ⟨?_, rfl, ?_⟩) ?_
  · simp [observed]
  · simp [observed, Authority.observerProtocol]
  · cases authority : s.authority with
    | legacy =>
      rw [if_pos (show Authority.legacy.observerMode = "none" from rfl)]
      exact required rfl
    | shadow observer =>
      have other : (Authority.shadow observer).observerMode ≠ "none" := by
        simp [Authority.observerMode]
      rw [if_neg other]
      exact verify_tree (sound observer (by rw [authority]; rfl))
    | tree mover watched =>
      cases watched
      · rw [if_pos (show (Authority.tree mover false).observerMode = "none" from rfl)]
        exact required rfl
      · have other : (Authority.tree mover true).observerMode ≠ "none" := by
          simp [Authority.observerMode]
        have kind : decide ((Authority.tree mover true).observerMode = "tree_shadow") = false := by
          simp [Authority.observerMode]
        rw [if_neg other, kind]
        exact verify_legacy

theorem Mode.name_injective (a b : Mode) (same : a.name = b.name) : a = b := by
  cases a <;> cases b <;> simp_all [Mode.name]

theorem parse_mode (mode : Mode) : Value.parse Mode.all Mode.name (.text mode.name) = some mode :=
  parse_text Mode.name_injective mode (by cases mode <;> simp [Mode.all])

theorem get_physics {surfaceId : Value}
    (member : (name, value) ∈ [("topology_version", .text "processlang.topology.v0"),
      ("authority_surface_id", surfaceId),
      ("operator_registry_version", .text "operator-registry.v0"),
      ("movement_owner", .text s.authority.mode.owner),
      ("live_policy", s.authority.livePolicy.deepCopy)]) :
    (s.physics surfaceId).get name = value :=
  get_record (by simp) member

theorem exactNames_physics (s : Settings) (surfaceId : Bytes) :
    exactNames (s.physics (.str surfaceId)) ["topology_version", "authority_surface_id",
      "operator_registry_version", "movement_owner", "live_policy"] [] = true := by
  refine exactNames_record (by simp) ?_ (by simp) (by simp)
  intro field member
  simp only [mem_cons, not_mem_nil, or_false] at member
  rcases member with rfl | rfl | rfl | rfl | rfl
  on_goal 5 => exact deepCopy_ne_nil_of_encodes s.authority.livePolicy_isTable
  all_goals exact Value.noConfusion

theorem exactNames_instrumentation (s : Settings) :
    exactNames s.instrumentation ["router_mode", "observer_mode", "observer_enabled",
      "observer_policy", "observer_protocol", "edge_stats_protocol", "bounds"] [] = true := by
  refine exactNames_record (by simp) ?_ (by simp) (by simp)
  intro field member
  simp only [mem_cons, not_mem_nil, or_false] at member
  rcases member with rfl | rfl | rfl | rfl | rfl | rfl | rfl
  on_goal 4 => exact s.authority.observerPolicy_ne_nil
  all_goals exact Value.noConfusion

structure Settings.Sound (s : Settings) : Prop where
  authority : s.authority.Sound
  bounds : s.bounds.Sound

theorem verify_record (sound : s.Sound) {surface : Value} {surfaceId : Bytes}
    {physics evidence : Bytes} (built : authoritySurface = .ok surface)
    (named : surface.get "surface_id" = .str surfaceId)
    (ids : epochIds (s.physics (.str surfaceId)) s.configured s.instrumentation
      = .ok (.str (utf8 "sha256:" ++ Digest.sha256 physics),
        .str (utf8 "sha256:" ++ Digest.sha256 evidence))) :
    verify (s.record (.str surfaceId) (.str (utf8 "sha256:" ++ Digest.sha256 physics))
      (.str (utf8 "sha256:" ++ Digest.sha256 evidence))) = .ok () := by
  generalize one : Digest.sha256 physics = physicsHash at ids
  generalize two : Digest.sha256 evidence = evidenceHash at ids
  have tagged : isTaggedHash (.str (utf8 "sha256:" ++ physicsHash)) = true :=
    one ▸ isTaggedHash_sha256 physics
  have tagged' : isTaggedHash (.str (utf8 "sha256:" ++ evidenceHash)) = true :=
    two ▸ isTaggedHash_sha256 evidence
  have field : ∀ {name : String} {value : Value}, (name, value) ∈
      [("kind", .text "authority_epoch"), ("protocol_version", protocolVersion),
        ("configured", s.configured), ("physics", s.physics (.str surfaceId)),
        ("instrumentation", s.instrumentation), ("event_truth_status", .text "runtime_confirmed"),
        ("physics_epoch_id", .str (utf8 "sha256:" ++ physicsHash)),
        ("evidence_epoch_id", .str (utf8 "sha256:" ++ evidenceHash))] →
      (s.record (.str surfaceId) (.str (utf8 "sha256:" ++ physicsHash))
        (.str (utf8 "sha256:" ++ evidenceHash))).get name = value :=
    fun member => get_record (by simp) member
  generalize whole : s.record (.str surfaceId) (.str (utf8 "sha256:" ++ physicsHash))
    (.str (utf8 "sha256:" ++ evidenceHash)) = record at field
  have exactly : exactNames record ["kind", "protocol_version", "configured", "physics",
      "instrumentation", "physics_epoch_id", "evidence_epoch_id", "event_truth_status"] []
      = true := by
    rw [← whole]
    refine exactNames_record (by simp) ?_ (by simp) (by simp)
    intro field member
    simp only [mem_cons, not_mem_nil, or_false] at member
    rcases member with rfl | rfl | rfl | rfl | rfl | rfl | rfl | rfl <;> exact Value.noConfusion
  have configured : record.get "configured" = s.configured := field (by simp)
  have physicsPart : record.get "physics" = s.physics (.str surfaceId) := field (by simp)
  have instrumentation : record.get "instrumentation" = s.instrumentation := field (by simp)
  have physicsId : record.get "physics_epoch_id" = .str (utf8 "sha256:" ++ physicsHash) :=
    field (by simp)
  have evidenceId : record.get "evidence_epoch_id" = .str (utf8 "sha256:" ++ evidenceHash) :=
    field (by simp)
  have mode : s.configured.get "router_mode" = .text s.authority.mode.name :=
    get_record (by simp) (by simp)
  have owner : s.configured.get "configured_movement_owner" = .text s.authority.mode.owner :=
    get_record (by simp) (by simp)
  have livePolicy : (s.physics (.str surfaceId)).get "live_policy"
      = s.authority.livePolicy.deepCopy := get_physics (by simp)
  rw [Authority.deepCopy_livePolicy] at livePolicy
  have enabled : s.instrumentation.get "observer_enabled" = .bool s.authority.observed :=
    get_instrumentation (by simp)
  have bounds : s.instrumentation.get "bounds" = s.bounds.toValue := get_instrumentation (by simp)
  unfold verify
  refine bind_ok (required ⟨exactly, field (by simp), field (by simp), field (by simp), ?_, ?_⟩) ?_
  · rw [physicsId]
    exact tagged
  · rw [evidenceId]
    exact tagged'
  rw [configured, physicsPart, instrumentation, physicsId, evidenceId]
  refine bind_ok (required (exactNames_record (by simp) (by simp) (by simp) (by simp))) ?_
  rw [mode, parse_mode]
  refine bind_ok (required owner) (bind_ok (required ⟨exactNames_physics s surfaceId,
    get_physics (by simp), get_physics (by simp), get_physics (by simp)⟩) (bind_ok built ?_))
  rw [named, livePolicy]
  refine bind_ok (required (get_physics (by simp))) (bind_ok (verify_livePolicy sound.authority) ?_)
  refine bind_ok (required ⟨exactNames_instrumentation s, get_instrumentation (by simp),
    get_instrumentation (by simp), ?_⟩) ?_
  · rw [enabled]
    rfl
  rw [bounds]
  refine bind_ok (verify_bounds sound.bounds) (bind_ok (verify_observer sound.authority) ?_)
  rw [ids]
  exact required ⟨rfl, rfl⟩

/-! ## Acceptance -/

theorem surface_built : ∃ surface, authoritySurface = .ok surface := by
  have built : authoritySurface.isOk = true := by decide +kernel
  cases same : authoritySurface with
  | ok surface => exact ⟨surface, rfl⟩
  | error _ =>
    rw [same] at built
    cases built

theorem Describes.sound {d : TreeDescriptor} (describes : Describes options d) :
    d.Sound := by
  refine ⟨describes.unablated, ?_⟩
  have read := describes.threshold
  unfold thresholdOf at read
  split at read
  · rw [← Except.ok.inj read]
    rfl
  · split at read
    · rename_i finite
      rw [← Except.ok.inj read]
      exact finite
    · cases read
  · cases read

theorem settings_sound (settled : settingsOf options = .ok s) :
    s.Sound := by
  simp only [settingsOf, bind_eq_ok, pure_eq_ok] at settled
  obtain ⟨mode, -, bounds, bounded, ⟨authority, unused⟩, made, rfl⟩ := settled
  refine ⟨?_, normalizeBounds_sound bounded⟩
  intro d described
  cases mode with
  | legacy =>
    cases made
    cases described
  | shadow | tree =>
    simp only [authorityOf, bind_eq_ok, pure_eq_ok, Prod.mk.injEq] at made
    obtain ⟨⟨tree, unused⟩, given, rfl, -⟩ := made
    cases described
    exact (describes_of_treeDescriptor given).sound

theorem taggedDigest_of_encodes {v : Value} (encodes : Encodes v) :
    ∃ text, taggedDigest v = .ok (.str (utf8 "sha256:" ++ Digest.sha256 text)) := by
  obtain ⟨text, encoded⟩ := encodes
  refine ⟨text, ?_⟩
  have made : Digest.record v = .ok (Digest.sha256 text) := by rw [Digest.record, encoded]
  exact bind_ok made rfl

theorem resolveTable_of_settled (known : scanUnknownAblation options = .ok ())
    (settled : settingsOf options = .ok s)
    (unexpecting : options.get "expected_authority_epoch" = .nil) :
    ∃ record diagnostics, resolveTable options = .ok (record, diagnostics) := by
  have sound := settings_sound settled
  obtain ⟨surface, built⟩ := surface_built
  obtain ⟨surfaceId, named⟩ := authoritySurface_id built
  simp only [settingsOf, bind_eq_ok, pure_eq_ok] at settled
  obtain ⟨mode, moded, bounds, bounded, ⟨authority, described⟩, made, rfl⟩ := settled
  obtain ⟨physics, physicsMade⟩ := taggedDigest_of_encodes
    (encodes_physicsSeed (encodes_physics ⟨authority, bounds⟩ surfaceId))
  obtain ⟨evidence, evidenceMade⟩ := taggedDigest_of_encodes
    (@encodes_evidenceSeed (utf8 "sha256:" ++ Digest.sha256 physics) _ _
      (encodes_configured ⟨authority, bounds⟩) (encodes_instrumentation ⟨authority, bounds⟩))
  have ids : epochIds (Settings.physics ⟨authority, bounds⟩ (.str surfaceId))
      (Settings.configured ⟨authority, bounds⟩) (Settings.instrumentation ⟨authority, bounds⟩)
      = .ok (.str (utf8 "sha256:" ++ Digest.sha256 physics),
        .str (utf8 "sha256:" ++ Digest.sha256 evidence)) := by
    unfold epochIds
    exact bind_ok physicsMade (bind_ok evidenceMade rfl)
  refine ⟨(Settings.record ⟨authority, bounds⟩ (.str surfaceId)
      (.str (utf8 "sha256:" ++ Digest.sha256 physics))
      (.str (utf8 "sha256:" ++ Digest.sha256 evidence))).deepCopy,
    diagnosticsOf (unusedOptions options described mode), ?_⟩
  unfold resolveTable
  refine bind_ok known (bind_ok moded (bind_ok built (bind_ok bounded (bind_ok made ?_))))
  dsimp only
  rw [named, ids, unexpecting]
  exact bind_ok (verify_record sound built named ids) rfl

end Proc17.Runtime.Epoch
