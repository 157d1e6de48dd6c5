import Proc17.Core.JsonText
import Proc17.Runtime.Epoch.Resolve

/-!
# What the identities of an epoch tell apart

Which settings give one text to the seeds of the two identities.  Everything but the
numbers is told apart; a threshold or a bound is told apart as far as its text goes.
-/

namespace Proc17.Runtime.Epoch

open Lua Core Core.Json List Value Authority

/-! ## Texts of descriptors -/

theorem PressurePolicy.text_injective {a b : PressurePolicy}
    (same : encode (.text a.name) = encode (.text b.name)) : a = b := by
  have texts := Except.ok.inj same
  cases a <;> cases b <;> first | rfl | exact absurd texts (by decide)

theorem Mode.text_injective {a b : Mode}
    (same : encode (.text a.name) = encode (.text b.name)) : a = b := by
  have texts := Except.ok.inj same
  cases a <;> cases b <;> first | rfl | exact absurd texts (by decide)

attribute [simp] encodes_str encodes_num encodes_bool

theorem encode_ablationVector (a b : Consumer → Bool) :
    encode (ablationVector a) = encode (ablationVector b) ↔ a = b := by
  have alike : PresentAlike (Consumer.all.map fun consumer => (consumer.key, .bool (a consumer)))
      (Consumer.all.map fun consumer => (consumer.key, .bool (b consumer))) := by
    simp [PresentAlike, Consumer.all]
  have written : Encodes (ablationVector a) := by
    exact encodes_record (by simp)
  rw [ablationVector, ablationVector, encode_record_iff alike written]
  constructor
  · intro each
    rw [List.forall₂_map_left_iff, List.forall₂_map_right_iff, List.forall₂_same] at each
    funext consumer
    exact encode_bool_injective (each consumer consumer.mem_all)
  · rintro rfl
    exact List.forall₂_same.mpr fun _ _ => rfl

theorem PressureDescriptor.encodes (d : PressureDescriptor) : Encodes (.record d.compact) := by
  have ablated : Encodes (ablationVector d.ablated) := encodes_record (by simp)
  exact encodes_record (by simp [compact, PressurePolicy.protocol, ablated])

theorem PressureDescriptor.encode_iff (d e : PressureDescriptor) :
    encode (.record d.compact) = encode (.record e.compact)
      ↔ d.policy = e.policy ∧ d.ablated = e.ablated := by
  have alike : PresentAlike d.compact e.compact := by
    simp [PresentAlike, compact, PressurePolicy.protocol, ablationVector, Value.record]
  rw [encode_record_iff alike d.encodes]
  simp only [compact, PressurePolicy.protocol, cons_append, nil_append,
    forall₂_cons, forall₂_nil_left_iff, encode_ablationVector]
  constructor
  · rintro ⟨-, -, policy, -, -, -, -, -, ablated, -⟩
    exact ⟨PressurePolicy.text_injective policy, ablated⟩
  · rintro ⟨policy, ablated⟩
    simp [policy, ablated]

structure Kind where
  policy : PressurePolicy
  ablated : Consumer → Bool
  allowControlFallback : Bool

def TreeDescriptor.kind (d : TreeDescriptor) : Kind :=
  ⟨d.pressure.policy, d.pressure.ablated, d.allowControlFallback⟩

theorem TreeDescriptor.encodes (d : TreeDescriptor) : Encodes d.toValue := by
  exact encodes_record (by simp [fields, d.pressure.encodes, encodes_record])

theorem encode_parameters (m n : Number) (a b : Bool) :
    encode (.record [("movement_threshold", .num m), ("allow_control_fallback", .bool a)])
      = encode (.record [("movement_threshold", .num n), ("allow_control_fallback", .bool b)])
      ↔ m.tostring = n.tostring ∧ a = b := by
  rw [encode_record_iff (by simp [PresentAlike])]
  · simp only [forall₂_cons, forall₂_nil_left_iff, encode_num_iff]
    constructor
    · rintro ⟨text, switch, -⟩
      exact ⟨text, encode_bool_injective switch⟩
    · rintro ⟨text, rfl⟩
      simp [text]
  · exact encodes_record (by simp)

theorem TreeDescriptor.encode_iff (d e : TreeDescriptor) :
    encode d.toValue = encode e.toValue
      ↔ d.kind = e.kind ∧ d.threshold.tostring = e.threshold.tostring := by
  have alike : PresentAlike d.fields e.fields := by
    simp [PresentAlike, fields, Value.record]
  rw [toValue, toValue, encode_record_iff alike d.encodes]
  simp only [fields, forall₂_cons, forall₂_nil_left_iff, encode_parameters,
    PressureDescriptor.encode_iff, kind, Kind.mk.injEq]
  constructor
  · rintro ⟨-, -, ⟨policy, ablated⟩, -, -, ⟨text, fallback⟩, -⟩
    exact ⟨⟨policy, ablated, fallback⟩, text⟩
  · rintro ⟨⟨policy, ablated, fallback⟩, text⟩
    simp [policy, ablated, fallback, text]

/-! ## What settings tell -/

namespace Authority

def mover : Authority → Option TreeDescriptor
  | .tree mover _ => some mover
  | _ => none

def described : Authority → Option TreeDescriptor
  | .tree mover _ => some mover
  | .shadow observer => some observer
  | .legacy => none

end Authority

namespace Settings

def physicsKind (s : Settings) : Option Kind := s.authority.mover.map TreeDescriptor.kind

def physicsNumbers (s : Settings) : List Number :=
  (s.authority.mover.map TreeDescriptor.threshold).toList

def evidenceKind (s : Settings) : Mode × Bool × Option Kind :=
  (s.authority.mode, s.authority.observed, s.authority.described.map TreeDescriptor.kind)

def evidenceNumbers (s : Settings) : List Number :=
  (s.authority.described.map TreeDescriptor.threshold).toList ++ Bound.all.map s.bounds

end Settings

def SameTexts (left right : List Number) : Prop :=
  List.Forall₂ (fun a b => a.tostring = b.tostring) left right

def SameNumbers (left right : List Number) : Prop :=
  List.Forall₂ (fun a b => Number.eq a b = true) left right

theorem encode_legacyDescriptor : Encodes legacyDescriptor := by
  exact encodes_record (by simp)

theorem Authority.encodes_livePolicy (a : Authority) : Encodes a.livePolicy := by
  cases a with
  | tree mover watched => exact mover.encodes
  | _ => exact encode_legacyDescriptor

theorem Authority.encodes_observerPolicy (a : Authority) : Encodes a.observerPolicy := by
  cases a with
  | legacy => exact encodes_str _
  | shadow observer => exact observer.encodes
  | tree mover watched =>
    cases watched
    · exact encodes_str _
    · exact encode_legacyDescriptor

theorem Bounds.encodes (bounds : Bounds) : Encodes bounds.toValue := by
  exact encodes_record (by simp [fields, Bound.all])

theorem Bounds.encode_iff (a b : Bounds) :
    encode a.toValue = encode b.toValue ↔ SameTexts (Bound.all.map a) (Bound.all.map b) := by
  rw [toValue, toValue, encode_record_iff _ a.encodes]
  · simp [fields, Bound.all, SameTexts, encode_num_iff]
  · simp [fields, PresentAlike, Bound.all]

/-! ## Texts of the seeds -/

theorem encodes_configured (s : Settings) : Encodes s.configured := by
  exact encodes_record (by simp)

theorem encode_configured_iff (s t : Settings) :
    encode s.configured = encode t.configured ↔ s.authority.mode = t.authority.mode := by
  rw [Settings.configured, Settings.configured, encode_record_iff _ (encodes_configured s)]
  · simp only [forall₂_cons, forall₂_nil_left_iff]
    constructor
    · rintro ⟨mode, -⟩
      exact Mode.text_injective mode
    · intro mode
      simp [mode]
  · simp [PresentAlike]

theorem deepCopy_ne_nil_of_encodes {v : Value} (table : v.isTable = true) : v.deepCopy ≠ .nil := by
  cases v <;> simp_all [Value.isTable, Value.deepCopy]

theorem Authority.livePolicy_isTable (a : Authority) : a.livePolicy.isTable = true := by
  cases a <;> rfl

variable {a b : Authority}

theorem Authority.encode_livePolicy_iff (owner : a.mode.owner = b.mode.owner) :
    encode a.livePolicy = encode b.livePolicy
      ↔ a.mover.map TreeDescriptor.kind = b.mover.map TreeDescriptor.kind
        ∧ SameTexts (a.mover.map TreeDescriptor.threshold).toList
          (b.mover.map TreeDescriptor.threshold).toList := by
  cases a <;> cases b <;>
    simp_all [mode, Mode.owner, mover, livePolicy, SameTexts, TreeDescriptor.encode_iff]

theorem encodes_physics (s : Settings) (id : Bytes) : Encodes (s.physics (.str id)) := by
  exact encodes_record (by simp [encodes_deepCopy s.authority.encodes_livePolicy])

theorem owner_of_mover :
    a.mode.owner = b.mode.owner ↔ a.mover.isSome = b.mover.isSome := by
  cases a <;> cases b <;> simp [Authority.mode, Mode.owner, Authority.mover]

theorem encode_physics_iff (s t : Settings) (id : Bytes) :
    encode (s.physics (.str id)) = encode (t.physics (.str id))
      ↔ s.physicsKind = t.physicsKind ∧ SameTexts s.physicsNumbers t.physicsNumbers := by
  rw [Settings.physics, Settings.physics, encode_record_iff _ (encodes_physics s id)]
  · simp only [forall₂_cons, forall₂_nil_left_iff, encode_deepCopy]
    constructor
    · rintro ⟨-, -, -, owner, policy, -⟩
      have owners : s.authority.mode.owner = t.authority.mode.owner := by
        have texts := Except.ok.inj owner
        cases one : s.authority.mode <;> cases two : t.authority.mode <;>
          simp only [one, two] at texts <;> first | rfl | exact absurd texts (by decide)
      exact (encode_livePolicy_iff owners).mp policy
    · rintro ⟨kind, texts⟩
      have owners : s.authority.mode.owner = t.authority.mode.owner := by
        rw [owner_of_mover]
        have somes := congrArg Option.isSome kind
        simpa [Settings.physicsKind] using somes
      simp [owners, (encode_livePolicy_iff owners).mpr ⟨kind, texts⟩]
  · simp [PresentAlike, deepCopy_ne_nil_of_encodes, livePolicy_isTable]

theorem encodes_instrumentation (s : Settings) : Encodes s.instrumentation := by
  exact encodes_record
    (by simp [encodes_deepCopy s.authority.encodes_observerPolicy, s.bounds.encodes])

def Authority.watcher : Authority → Option TreeDescriptor
  | .shadow observer => some observer
  | _ => none

theorem Authority.encode_observerPolicy_iff (modes : a.mode = b.mode)
    (observed : a.observed = b.observed) :
    encode a.observerPolicy = encode b.observerPolicy
      ↔ a.watcher.map TreeDescriptor.kind = b.watcher.map TreeDescriptor.kind
        ∧ SameTexts (a.watcher.map TreeDescriptor.threshold).toList
          (b.watcher.map TreeDescriptor.threshold).toList := by
  cases a with
  | legacy => cases b <;> simp_all [mode, watcher, observerPolicy, SameTexts]
  | shadow observer =>
    cases b <;> simp_all [mode, watcher, observerPolicy, SameTexts, TreeDescriptor.encode_iff]
  | tree mover watched =>
    cases b with
    | tree other watched' =>
      have same : watched = watched' := observed
      cases same
      cases watched <;> simp [watcher, observerPolicy, SameTexts]
    | _ => simp [mode] at modes

theorem Authority.observer_congr (modes : a.mode = b.mode)
    (observed : a.observed = b.observed) :
    a.observerMode = b.observerMode ∧ a.observerProtocol = b.observerProtocol := by
  rw [observerProtocol, observerProtocol, observed]
  cases a with
  | legacy | shadow => cases b <;> simp_all [mode, observerMode]
  | tree mover watched =>
    cases b with
    | tree other watched' =>
      have same : watched = watched' := observed
      cases same
      cases watched <;> simp [observerMode]
    | _ => simp [mode] at modes

theorem Authority.observerPolicy_ne_nil (a : Authority) : a.observerPolicy.deepCopy ≠ .nil := by
  apply deepCopy_ne_nil
  cases a with
  | tree mover watched => cases watched <;> exact Value.noConfusion
  | _ => exact Value.noConfusion

theorem encode_instrumentation_iff {s t : Settings} (modes : s.authority.mode = t.authority.mode) :
    encode s.instrumentation = encode t.instrumentation
      ↔ s.authority.observed = t.authority.observed
        ∧ s.authority.watcher.map TreeDescriptor.kind = t.authority.watcher.map TreeDescriptor.kind
        ∧ SameTexts (s.authority.watcher.map TreeDescriptor.threshold).toList
          (t.authority.watcher.map TreeDescriptor.threshold).toList
        ∧ SameTexts (Bound.all.map s.bounds) (Bound.all.map t.bounds) := by
  rw [Settings.instrumentation, Settings.instrumentation,
    encode_record_iff _ (encodes_instrumentation s)]
  · simp only [forall₂_cons, forall₂_nil_left_iff, encode_deepCopy, Bounds.encode_iff]
    constructor
    · rintro ⟨-, -, observed, policy, -, -, bounds, -⟩
      have observed := encode_bool_injective observed
      obtain ⟨kind, texts⟩ := (encode_observerPolicy_iff modes observed).mp policy
      exact ⟨observed, kind, texts, bounds⟩
    · rintro ⟨observed, kind, texts, bounds⟩
      obtain ⟨named, protocol⟩ := observer_congr modes observed
      have policy := (encode_observerPolicy_iff modes observed).mpr ⟨kind, texts⟩
      simp [modes, named, observed, policy, protocol, bounds]
  · simp [PresentAlike, observerPolicy_ne_nil, Bounds.toValue, Value.record]

theorem encodes_physicsSeed {physics : Value} (encodes : Encodes physics) :
    Encodes (physicsSeed physics) := by
  exact encodes_record (by simp [encodes_deepCopy encodes, protocolVersion])

theorem encode_physicsSeed_iff {physics other : Value} (encodes : Encodes physics)
    (table : physics.isTable = true) (table' : other.isTable = true) :
    encode (physicsSeed physics) = encode (physicsSeed other) ↔ encode physics = encode other := by
  rw [physicsSeed, physicsSeed, encode_record_iff _ (encodes_physicsSeed encodes)]
  · simp [encode_deepCopy]
  · simp [PresentAlike, deepCopy_ne_nil_of_encodes, table, table', protocolVersion]

theorem encodes_evidenceSeed {id : Bytes} {configured instrumentation : Value}
    (one : Encodes configured) (two : Encodes instrumentation) :
    Encodes (evidenceSeed (.str id) configured instrumentation) := by
  exact encodes_record (by simp [encodes_deepCopy one, encodes_deepCopy two, protocolVersion])

theorem encode_evidenceSeed_iff {s t : Settings} {id id' : Bytes} :
    encode (evidenceSeed (.str id) s.configured s.instrumentation)
      = encode (evidenceSeed (.str id') t.configured t.instrumentation)
      ↔ encode (.str id) = encode (.str id') ∧ s.authority.mode = t.authority.mode
        ∧ encode s.instrumentation = encode t.instrumentation := by
  rw [evidenceSeed, evidenceSeed, encode_record_iff _
    (encodes_evidenceSeed (encodes_configured s) (encodes_instrumentation s))]
  · simp [encode_deepCopy, encode_configured_iff]
  · simp [PresentAlike, Settings.configured, Settings.instrumentation, Value.record,
      protocolVersion, Value.deepCopy]

/-! ## Resolved records -/

def settingsOf (options : Value) : Except Failure Settings := do
  let mode ← modeOf options
  let bounds ← normalizeBounds (options.get "authority_instrument_bounds")
  let (authority, _) ← authorityOf options mode
  pure ⟨authority, bounds⟩

theorem authoritySurface_id {surface : Value} (built : authoritySurface = .ok surface) :
    ∃ id, surface.get "surface_id" = .str id := by
  simp only [authoritySurface, bind_eq_ok, pure_eq_ok] at built
  obtain ⟨-, -, directions, -, -, -, -, -, digest, -, rfl⟩ := built
  refine ⟨utf8 "sha256:" ++ digest, ?_⟩
  rw [get_record_after (by simp [surfaceSeed])]
  rfl

theorem taggedDigest_ok {v id : Value} (digest : taggedDigest v = .ok id) :
    ∃ text, encode v = .ok text ∧ id = .str (utf8 "sha256:" ++ Digest.sha256 text) := by
  simp only [taggedDigest, bind_eq_ok, pure_eq_ok] at digest
  obtain ⟨hash, made, rfl⟩ := digest
  obtain ⟨text, encoded, rfl⟩ := Digest.encoded_of_record made
  exact ⟨text, encoded, rfl⟩

theorem deepCopy_bounds (bounds : Bounds) : bounds.toValue.deepCopy = bounds.toValue := by
  simp [Bounds.toValue, Bounds.fields, deepCopy_record, Bound.all, Value.deepCopy]

theorem Settings.record_deepCopy (s : Settings) (surfaceId physicsId evidenceId : Bytes) :
    (s.record (.str surfaceId) (.str physicsId) (.str evidenceId)).deepCopy
      = s.record (.str surfaceId) (.str physicsId) (.str evidenceId) := by
  have plain : ∀ text : String, (Value.text text).deepCopy = .text text := fun _ => rfl
  have configured : s.configured.deepCopy = s.configured := by
    simp [Settings.configured, deepCopy_record, plain]
  have physics : (s.physics (.str surfaceId)).deepCopy = s.physics (.str surfaceId) := by
    simp [Settings.physics, deepCopy_record, plain, deepCopy_deepCopy]
  have instrumentation : s.instrumentation.deepCopy = s.instrumentation := by
    have observed : (Value.bool s.authority.observed).deepCopy = .bool s.authority.observed := rfl
    simp [Settings.instrumentation, deepCopy_record, plain, deepCopy_deepCopy, observed,
      deepCopy_bounds]
  simp [Settings.record, deepCopy_record, plain, configured, physics, instrumentation,
    protocolVersion]

/-- A resolved record is that of the settings, with the two digests as its identities. -/
structure Resolved (options record : Value) (s : Settings) (surfaceId physicsText
    evidenceText : Bytes) : Prop where
  settled : settingsOf options = .ok s
  surface : ∃ table, authoritySurface = .ok table ∧ table.get "surface_id" = .str surfaceId
  physics : encode (physicsSeed (s.physics (.str surfaceId))) = .ok physicsText
  evidence : encode (evidenceSeed (.str (utf8 "sha256:" ++ Digest.sha256 physicsText))
    s.configured s.instrumentation) = .ok evidenceText
  built : record = s.record (.str surfaceId) (.str (utf8 "sha256:" ++ Digest.sha256 physicsText))
    (.str (utf8 "sha256:" ++ Digest.sha256 evidenceText))
  verified : verify record = .ok ()

theorem resolveTable_ok {options record diagnostics : Value}
    (resolved : resolveTable options = .ok (record, diagnostics)) :
    ∃ s surfaceId physicsText evidenceText,
      Resolved options record s surfaceId physicsText evidenceText := by
  simp only [resolveTable, bind_eq_ok] at resolved
  obtain ⟨-, -, mode, named, surface, built, bounds, bounded, ⟨authority, described⟩, settled,
    resolved⟩ := resolved
  obtain ⟨surfaceId, surfaceNamed⟩ := authoritySurface_id built
  rw [surfaceNamed] at resolved
  split at resolved
  · cases resolved
  · cases resolved
  · rename_i physicsId evidenceId ids
    simp only [epochIds, bind_eq_ok, pure_eq_ok, Prod.mk.injEq] at ids
    obtain ⟨physicsId, physicsMade, evidenceId, evidenceMade, rfl, rfl⟩ := ids
    obtain ⟨physicsText, physicsEncoded, rfl⟩ := taggedDigest_ok physicsMade
    obtain ⟨evidenceText, evidenceEncoded, rfl⟩ := taggedDigest_ok evidenceMade
    simp only [bind_eq_ok, pure_eq_ok, Prod.mk.injEq] at resolved
    obtain ⟨⟨⟩, verified, ⟨⟩, -, copied, -⟩ := resolved
    rw [Settings.record_deepCopy] at copied
    refine ⟨⟨authority, bounds⟩, surfaceId, physicsText, evidenceText, ?_, ⟨surface, built, surfaceNamed⟩,
      physicsEncoded, evidenceEncoded, copied.symm, ?_⟩
    · simp only [settingsOf, bind_eq_ok, pure_eq_ok]
      exact ⟨mode, named, bounds, bounded, (authority, described), settled, rfl⟩
    · rw [← copied]
      exact verified

end Proc17.Runtime.Epoch
