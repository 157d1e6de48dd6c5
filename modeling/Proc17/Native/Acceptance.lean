import Mathlib.Data.List.Perm.Subperm
import Proc17.Native.Launcher

/-!
# What Lua accepts of the launcher

The two normalisers of `runtime/qa_process.lua` on the tables that the launcher pushes: an
error is accepted exactly when it is in the closed list of topologies, and a result is
accepted when its measurements are those of a report.
-/

namespace Proc17.Native

open Lua Core Proc17.Runtime Runtime.Repository List Value

/-! ## The request -/

variable {names : List String} {value request : Value} {run : Run} {body : ResultBody}

theorem keys_perm (distinct : names.Nodup) (exact : exactTableKeys value names = true) :
    (names.map Value.text).Perm value.keys := by
  simp only [exactTableKeys, Bool.and_eq_true, decide_eq_true_eq, all_eq_true] at exact
  obtain ⟨⟨_, count⟩, present⟩ := exact
  have injective : Function.Injective Value.text := by
    intro a b same
    simpa using same
  have inside : names.map Value.text ⊆ value.keys := by
    intro key member
    obtain ⟨name, listed, rfl⟩ := mem_map.mp member
    exact mem_keys_of_get (present name listed)
  have sub := (distinct.map injective).subperm inside
  exact sub.perm_of_length_le (by simp [count])

theorem exactRecord_of_exactTableKeys (label : String) (distinct : names.Nodup)
    (exact : exactTableKeys value names = true) :
    Qa.exactRecord value names label [] = .ok () := by
  have permuted := keys_perm distinct exact
  simp only [exactTableKeys, Bool.and_eq_true, decide_eq_true_eq, all_eq_true] at exact
  obtain ⟨⟨⟨⟨table, plain⟩, _⟩, _⟩, present⟩ := exact
  have all : names.filter (· ∉ ([] : List String)) = names := by simp
  rw [Qa.exactRecord, all, exactKeys_iff]
  refine ⟨table, by simpa using plain, ?_, present⟩
  intro key member
  have listed := permuted.mem_iff.mpr member
  obtain ⟨name, inNames, same⟩ := mem_map.mp listed
  exact ⟨name, inNames, same.symm⟩

theorem plainEntries_of_all (label : String) : ∀ entries : List (Value × Value),
    (∀ entry ∈ entries, (∃ s, entry.1 = .str s) ∧ ((∃ n, entry.2 = .num n) ∨ ∃ s, entry.2 = .str s)) →
      Qa.plainEntries label entries = .ok () := by
  intro entries
  induction entries with
  | nil => intro _; rfl
  | cons entry rest ih =>
    intro simple
    obtain ⟨key, child⟩ := entry
    obtain ⟨⟨s, rfl⟩, child⟩ := simple (key, child) (by simp)
    have later := ih (fun entry member => simple entry (by simp [member]))
    rcases child with ⟨n, rfl⟩ | ⟨t, rfl⟩
    · exact later
    · exact later

theorem requireLimit_of_get {limits : Value} {limit : String × Int}
    (value : limits.get limit.1 = .num (.int limit.2)) (positive : 0 < limit.2) :
    Qa.requireLimit limits limit = .ok () := by
  have integral : Number.isIntegral (.int limit.2) = true := by
    simp [Number.isIntegral, Number.floor, Number.eq]
  have notBelow : ¬ limit.2 < 1 := by omega
  simp [Qa.requireLimit, value, positiveInteger, integerFrom, integral, Number.lt, notBelow]

theorem limitKeys_nodup : limitKeys.Nodup := by decide

theorem normalizeLimits_of_exact {limits : Value} (exact : limitsExact limits = true) :
    Qa.normalizeLimits limits = .ok Qa.hardLimits := by
  simp only [limitsExact, Bool.and_eq_true, all_eq_true, decide_eq_true_eq] at exact
  obtain ⟨⟨keysExact, protocol⟩, values⟩ := exact
  have permuted := keys_perm limitKeys_nodup keysExact
  have record := exactRecord_of_exactTableKeys "QA resource limits" limitKeys_nodup keysExact
  have protocolText : limits.get "protocol_version" = .text "qa.resource_limits.v0" := by
    simpa [exactString] using protocol
  have plain : Qa.plainTree "QA resource limits" limits = .ok () := by
    simp only [exactTableKeys, Bool.and_eq_true] at keysExact
    obtain ⟨⟨⟨⟨table, bare⟩, _⟩, _⟩, _⟩ := keysExact
    cases limits with
    | table tag entries =>
      have noMeta : tag.metatable = false := by simpa [Value.hasMetatable] using bare
      simp only [Qa.plainTree, noMeta, Bool.false_eq_true, if_false]
      apply plainEntries_of_all
      intro entry member
      have distinct : (entries.map Prod.fst).Nodup :=
        permuted.nodup_iff.mp (limitKeys_nodup.map (fun a b same => by simpa using same))
      have listed : entry.1 ∈ limitKeys.map Value.text :=
        permuted.mem_iff.mpr (mem_map.mpr ⟨entry, member, rfl⟩)
      obtain ⟨name, inNames, same⟩ := mem_map.mp listed
      have value : Value.lookup entries (.text name) = entry.2 := by
        apply lookup_of_mem distinct
        have entryIs : (Value.text name, entry.2) = entry := by rw [same]
        rw [entryIs]
        exact member
      refine ⟨⟨utf8 name, same.symm⟩, ?_⟩
      rcases mem_cons.mp inNames with rfl | ceiling
      · right
        exact ⟨_, value.symm.trans protocolText⟩
      · obtain ⟨limit, inLimits, rfl⟩ := mem_map.mp ceiling
        left
        exact ⟨_, value.symm.trans (values limit inLimits)⟩
    | _ => cases table
  have bounded : Qa.limitCeilings.forM (Qa.requireLimit limits) = .ok () := by
    apply forM_ok
    intro limit listed
    have positive : 0 < limit.2 := by
      revert limit
      decide
    exact requireLimit_of_get (values limit listed) positive
  have one : limits.get "max_processes" = .num (.int 1) := values ("max_processes", 1) (by decide)
  have cpu : limits.get "cpu_time_ms" = .num (.int 20000) :=
    values ("cpu_time_ms", 20000) (by decide)
  have same : (Qa.limitCeilings.map fun limit => (limit.1, limits.get limit.1))
      = Qa.limitCeilings.map fun limit => (limit.1, .num (.int limit.2)) := by
    apply map_congr_left
    intro limit listed
    rw [values limit listed]
  simp only [Qa.normalizeLimits, bind_eq_ok, require_eq_ok, pure_eq_ok]
  refine ⟨(), plain, (), record, (), protocolText, (), bounded, (), ?_, (), ?_, ?_⟩
  · rw [one]
    rfl
  · rw [cpu]
    rfl
  · rw [same]
    rfl

theorem requestKeys_nodup : Qa.Process.requestKeys.Nodup := by decide

theorem hardLimits_same : Qa.same Qa.hardLimits Qa.hardLimits = true := by decide

theorem isTable_of_exactTableKeys (exact : exactTableKeys value names = true) :
    value.isTable = true := by
  simp only [exactTableKeys, Bool.and_eq_true] at exact
  exact exact.1.1.1.1

structure Names (value : Value) (run : Run) : Prop where
  transaction : value.get "transaction_id" = taggedText "qa-provider-transaction:" run.transaction
  witness : value.get "witness_id" = taggedText "qa-provider-witness:" run.witness
  profile : value.get "profile_id" = .text "qa.profile.lua54_test_suite.v0"
  environment : value.get "environment_id" = taggedText "qa-environment:" run.environment

theorem requireIdentity_of_names {raw : Value} (pushed : Names raw run)
    (truth : raw.get "event_truth_status" = .text "runtime_confirmed") (asked : Names request run)
    (label : String) :
    Qa.Process.requireIdentity raw request label = .ok () := by
  rw [Qa.Process.requireIdentity, require_eq_ok, pushed.transaction, pushed.witness, pushed.profile,
    pushed.environment, asked.transaction, asked.witness, asked.profile, asked.environment]
  exact ⟨by simp [taggedText], by simp [taggedText], by simp, by simp [taggedText], truth⟩

theorem taggedDigestField_eq {field tag : String} {digest : Bytes}
    (read : taggedDigestField value field tag = some digest) :
    value.get field = taggedText tag digest ∧ Qa.taggedDigest (value.get field) tag = true := by
  unfold taggedDigestField at read
  split at read
  · rename_i text bound
    split at read
    · rename_i tagged
      cases read
      have begins : text.take (utf8 tag).length = utf8 tag := by
        simp only [Qa.taggedDigest, Bool.and_eq_true, decide_eq_true_eq] at tagged
        exact tagged.1.2
      have joined : utf8 tag ++ text.drop (utf8 tag).length = text := by
        nth_rewrite 1 [← begins]
        exact take_append_drop _ _
      rw [taggedText, joined, bound]
      exact ⟨rfl, tagged⟩
    · cases read
  · cases read

theorem normalizeRequestV1_of_parse (parsed : Run.parse request = some run) :
    ∃ normalized, Qa.Process.normalizeRequestV1 request = .ok normalized ∧ Names normalized run ∧ normalized.get "resource_limits" = Qa.hardLimits := by
  unfold Run.parse at parsed
  split at parsed
  · rename_i envelope
    simp only [Option.bind_eq_bind, Option.bind_eq_some_iff] at parsed
    obtain ⟨transaction, tRead, witness, wRead, environment, eRead, parsed⟩ := parsed
    split at parsed
    · rename_i rest
      cases parsed
      simp only [Bool.and_eq_true, decide_eq_true_eq, exactString] at envelope rest
      obtain ⟨⟨keysExact, protocol⟩, operation⟩ := envelope
      obtain ⟨⟨⟨profile, entrypoint⟩, exitCode⟩, limits⟩ := rest
      obtain ⟨tText, tTagged⟩ := taggedDigestField_eq tRead
      obtain ⟨wText, wTagged⟩ := taggedDigestField_eq wRead
      obtain ⟨eText, eTagged⟩ := taggedDigestField_eq eRead
      have record := exactRecord_of_exactTableKeys "native RUN v1 request" requestKeys_nodup
        keysExact
      have taken := normalizeLimits_of_exact limits
      have checked : Qa.Process.requestLimits request
          (Qa.normalizeLimits (request.get "resource_limits")) = .ok Qa.hardLimits := by
        simp only [Qa.Process.requestLimits, taken, bind_eq_ok, require_eq_ok, pure_eq_ok]
        refine ⟨(), ⟨protocol, operation, tTagged, wTagged, profile, eTagged, entrypoint, ?_⟩,
          Qa.hardLimits, rfl, (), hardLimits_same, rfl⟩
        rw [exitCode]
        rfl
      have copied : request.deepCopy.isTable = true := by
        rw [isTable_deepCopy, isTable_of_exactTableKeys keysExact]
      obtain ⟨normalized, assigned⟩ := setField_table copied "resource_limits" Qa.hardLimits
      have kept : ∀ name : String, name ≠ "resource_limits" →
          normalized.get name = (request.get name).deepCopy := by
        intro name other
        rw [get_of_setField_other other.symm assigned, get_deepCopy]
      refine ⟨normalized, ?_, ⟨?_, ?_, ?_, ?_⟩, get_of_setField (by simp [Qa.hardLimits, Value.record]) assigned⟩
      · simp only [Qa.Process.normalizeRequestV1, bind_eq_ok]
        exact ⟨(), record, Qa.hardLimits, checked, assigned⟩
      · rw [kept _ (by decide), tText]
        rfl
      · rw [kept _ (by decide), wText]
        rfl
      · rw [kept _ (by decide), profile]
        rfl
      · rw [kept _ (by decide), eText]
        rfl
    · cases parsed
  · cases parsed

/-! ## Numbers -/

theorem luaInteger_ordinal (phase : Phase) : luaInteger phase.ordinal = .nat phase.ordinal := by
  apply luaInteger_of_lt
  cases phase <;> decide

/-! ## Errors -/

def TerminalError.fits (e : TerminalError) (variant : Qa.Process.Variant) : Bool :=
  e.phase.ordinal = variant.phase && e.startState.startName = variant.start
    && e.cleanupState.completionName = variant.cleanup
    && e.reapState.completionName = variant.reap && e.eofState.completionName = variant.eof

def TerminalError.conforms (e : TerminalError) (rule : Qa.Process.Topology) : Bool :=
  e.errorClass.name = rule.errorClass && rule.stages.any (e.stage.name = ·)
    && rule.variants.any e.fits

/-- The error is in the closed list of `qa_process`. -/
def TerminalError.isListed (e : TerminalError) : Bool :=
  (Qa.Process.topologies.find? fun rule => e.code.name = rule.code).any e.conforms

theorem fits_errorRecord (run : Run) (e : TerminalError) (variant : Qa.Process.Variant) :
    variant.fits (errorRecord run e) (some (luaInteger e.phase.ordinal)) = e.fits variant := by
  have phase : (luaInteger e.phase.ordinal).eq (.nat variant.phase)
      = decide (e.phase.ordinal = variant.phase) := by
    rw [luaInteger_ordinal]
    exact eq_nat e.phase.ordinal variant.phase
  have start : (errorRecord run e).get "candidate_start_state" = .text e.startState.startName := rfl
  have cleanup : (errorRecord run e).get "cleanup_state" = .text e.cleanupState.completionName := rfl
  have reap : (errorRecord run e).get "launcher_reaped" = .text e.reapState.completionName := rfl
  have eof : (errorRecord run e).get "result_eof" = .text e.eofState.completionName := rfl
  rw [Qa.Process.Variant.fits, TerminalError.fits, start, cleanup, reap, eof, Option.all_some, phase]
  rw [Bool.eq_iff_iff]
  simp only [Bool.and_eq_true, decide_eq_true_eq, Value.str.injEq, utf8_inj]

theorem errorTopology_errorRecord (run : Run) (e : TerminalError) :
    (∃ rule, Qa.Process.errorTopology (errorRecord run e) (some (luaInteger e.phase.ordinal))
      = .ok rule) ↔ e.isListed = true := by
  have code : (errorRecord run e).get "code" = .text e.code.name := rfl
  have errorClass : (errorRecord run e).get "class" = .text e.errorClass.name := rfl
  have stage : (errorRecord run e).get "stage" = .text e.stage.name := rfl
  have found : (Qa.Process.topologies.find? fun rule =>
        (errorRecord run e).get "code" = .text rule.code)
      = Qa.Process.topologies.find? fun rule => e.code.name = rule.code := by
    simp [code]
  simp only [Qa.Process.errorTopology, TerminalError.isListed, found]
  cases Qa.Process.topologies.find? fun rule => e.code.name = rule.code with
  | none => simp
  | some rule =>
    simp only [bind_eq_ok, require_eq_ok, pure_eq_ok, errorClass, stage, fits_errorRecord,
      Option.any_some, TerminalError.conforms, Bool.and_eq_true, decide_eq_true_eq]
    simp [Qa.isOneOf, and_assoc]

theorem envelope_errorRecord (run : Run) (e : TerminalError) :
    Qa.Process.requireErrorEnvelope (errorRecord run e) = .ok () := by
  obtain ⟨phase, errorClass, code, stage, start, cleanup, reap, eof⟩ := e
  have record : Qa.exactRecord (errorRecord run ⟨phase, errorClass, code, stage, start, cleanup, reap, eof⟩)
      Qa.Process.errorKeys "native RUN v1 error" ["measured_cost"] = .ok () := rfl
  simp only [Qa.Process.requireErrorEnvelope, bind_eq_ok, require_eq_ok, orFail_eq_ok]
  refine ⟨(), record, (), ⟨rfl, ?_, ?_, ?_, ?_, ?_, ?_, ?_, ?_⟩, (), ?_, ?_, ?_, ?_⟩
  · show (luaInteger phase.ordinal).eq (.nat 1) = true ∨ (luaInteger phase.ordinal).eq (.nat 2) = true
    rw [luaInteger_ordinal]
    cases phase
    · exact .inl rfl
    · exact .inr rfl
  · cases errorClass <;> rfl
  · cases code <;> rfl
  · cases stage <;> rfl
  · cases start <;> rfl
  · cases cleanup <;> rfl
  · cases reap <;> rfl
  · cases eof <;> rfl
  · cases start <;> rfl
  · cases cleanup <;> rfl
  · cases reap <;> rfl
  · cases eof <;> rfl

theorem variants_causal : ∀ rule ∈ Qa.Process.topologies, ∀ variant ∈ rule.variants,
    (variant.phase = 1 ∧ variant.start ≠ "started" ∨ variant.phase = 2 ∧ variant.start = "started")
      ∧ (variant.cleanup = "complete" → variant.reap = "complete" ∧ variant.eof = "complete") := by
  decide

theorem causality_errorRecord (run : Run) {e : TerminalError} (listed : e.isListed = true) :
    Qa.Process.requireErrorCausality (errorRecord run e) = .ok () := by
  obtain ⟨rule, found, conforms⟩ := (Option.any_eq_true ..).mp listed
  simp only [TerminalError.conforms, Bool.and_eq_true, any_eq_true] at conforms
  obtain ⟨_, variant, member, fits⟩ := conforms
  simp only [TerminalError.fits, Bool.and_eq_true, decide_eq_true_eq] at fits
  obtain ⟨⟨⟨⟨phase, start⟩, cleanup⟩, reap⟩, eof⟩ := fits
  obtain ⟨order, complete⟩ := variants_causal rule (mem_of_find?_eq_some found) variant member
  have phaseValue : (errorRecord run e).get "phase_ordinal" = .nat e.phase.ordinal :=
    luaInteger_ordinal e.phase
  have startValue : (errorRecord run e).get "candidate_start_state" = .text e.startState.startName :=
    rfl
  have cleanupValue : (errorRecord run e).get "cleanup_state"
      = .text e.cleanupState.completionName := rfl
  have reapValue : (errorRecord run e).get "launcher_reaped" = .text e.reapState.completionName :=
    rfl
  have eofValue : (errorRecord run e).get "result_eof" = .text e.eofState.completionName := rfl
  simp only [Qa.Process.requireErrorCausality, bind_eq_ok, require_eq_ok, phaseValue, startValue,
    cleanupValue, reapValue, eofValue, eq_nat, decide_eq_true_eq, Value.str.injEq, utf8_inj, phase,
    start, cleanup, reap, eof]
  refine ⟨(), ?_, complete⟩
  rcases order with ⟨one, notStarted⟩ | ⟨two, started⟩
  · simp [one, notStarted]
  · simp [two, started]

/-! ## Results -/

structure StreamMeasurement.Sound (m : StreamMeasurement) (limit : Nat) : Prop where
  limited : m.limit = limit
  observed : m.observed < 2 ^ 63
  within : m.hashed ≤ m.observed
  bounded : m.hashed ≤ m.limit
  crossed : m.crossed = decide (m.limit < m.observed)
  digest : ∃ text, m.digest = Digest.sha256 text ∧ text.length = m.hashed

theorem sha256_nil : Value.str (utf8 "sha256:" ++ Digest.sha256 []) = Qa.Process.emptySha256 := by
  decide +kernel

theorem measured_lua {n : Nat} (small : n < 2 ^ 63) : isNonNegativeInteger (luaInteger n) = true := by
  rw [luaInteger_of_lt small, isNonNegativeInteger_nat]

theorem equals_lua {n limit : Nat} (same : n = limit) (small : limit < 2 ^ 63) :
    (luaInteger n).eq (.nat limit) = true := by
  rw [same, luaInteger_of_lt small, eq_nat, decide_eq_true rfl]

theorem within_lua {n limit : Nat} (within : n ≤ limit) (small : limit < 2 ^ 63) :
    Qa.Process.isGreater (luaInteger n) (luaInteger limit) = false := by
  rw [luaInteger_of_lt small, luaInteger_of_lt (by omega), Qa.Process.isGreater_nat]
  exact decide_eq_false (by omega)

theorem stream_accepts {m : StreamMeasurement} {limit : Nat} (sound : m.Sound limit)
    (small : limit < 2 ^ 63) (label : String) :
    Qa.Process.stream (pushV1Stream m) (.nat limit) label = .ok (pushV1Stream m).deepCopy := by
  obtain ⟨text, digest, length⟩ := sound.digest
  have limited := sound.limited
  have within := sound.within
  have bounded := sound.bounded
  have observedSmall := sound.observed
  have observed : (pushV1Stream m).get "observed_bytes" = .nat m.observed :=
    luaInteger_of_lt sound.observed
  have hashed : (pushV1Stream m).get "hashed_bytes" = .nat m.hashed :=
    luaInteger_of_lt (by omega)
  have limitValue : (pushV1Stream m).get "limit_bytes" = .nat m.limit :=
    luaInteger_of_lt (by omega)
  have reached : (pushV1Stream m).get "limit_reached" = .bool m.crossed := rfl
  have sha : (pushV1Stream m).get "sha256" = .str (utf8 "sha256:" ++ m.digest) := rfl
  have record : Qa.exactRecord (pushV1Stream m) Qa.Process.streamKeys (label ++ " v1 stream") []
      = .ok () := rfl
  have tagged : Qa.taggedDigest (.str (utf8 "sha256:" ++ m.digest)) "sha256:" = true := by
    rw [digest]
    exact Qa.taggedDigest_append _ _ (Qa.sha256_length text) (Qa.sha256_isLowerHex text)
  simp only [Qa.Process.stream, bind_eq_ok, require_eq_ok, pure_eq_ok, orFail_eq_ok,
    observed, hashed, limitValue, reached, sha, isNonNegativeInteger_nat, Qa.Process.isGreater_nat, eq_nat]
  refine ⟨(), record, (), ⟨rfl, trivial, trivial, tagged, ?_, rfl, rfl, rfl⟩, (), ⟨?_, ?_, ?_, ?_⟩,
    trivial⟩
  · exact decide_eq_true limited
  · exact decide_eq_false (by omega)
  · exact decide_eq_false (by omega)
  · rw [sound.crossed]
  · intro empty
    have none : text = [] := eq_nil_of_length_eq_zero (by
      rw [length]
      exact of_decide_eq_true empty)
    rw [digest, none]
    exact sha256_nil

def Metrics.Fit (m : Metrics) : Prop :=
  m.wallTimeMs < 2 ^ 63 ∧ m.cpuUserMs < 2 ^ 63 ∧ m.cpuSystemMs < 2 ^ 63 ∧ m.maxRssBytes < 2 ^ 63

structure Resource.Sound (r : Resource) : Prop where
  fit : r.metrics.Fit
  addressSpace : r.addressSpace = Policy.addressSpaceBytes
  heapLimit : r.heapLimit = Policy.runtimeHeapBytes
  heapPeak : r.heapPeak ≤ r.heapLimit
  maxProcesses : r.maxProcesses = Policy.maxProcesses
  maxOpenFiles : r.maxOpenFiles = Policy.maxOpenFiles
  maxFileBytes : r.maxFileBytes = Policy.maxFileBytes

theorem resources_accepts {r : Resource} (sound : r.Sound) :
    Qa.Process.resources (pushV1Resources r) Qa.hardLimits
      = .ok (pushV1Resources r).deepCopy := by
  obtain ⟨⟨wall, user, system, rss⟩, space, heap, peak, processes, files, fileBytes⟩ := sound
  have record : Qa.exactRecord (pushV1Resources r) Qa.Process.resourceKeys
      "native RUN v1 resources" [] = .ok () := rfl
  have heapSmall : r.heapLimit < 2 ^ 63 := by
    rw [heap]
    decide
  simp only [Qa.Process.resources, bind_eq_ok, require_eq_ok, pure_eq_ok, orFail_eq_ok]
  refine ⟨(), record, (), forM_ok _ ?_, (), ⟨rfl, equals_lua space (by decide),
    equals_lua heap (by decide), rfl, within_lua peak heapSmall, equals_lua processes (by decide),
    equals_lua files (by decide), equals_lua fileBytes (by decide)⟩, trivial⟩
  intro key listed
  rw [require_eq_ok]
  simp only [mem_cons, not_mem_nil, or_false] at listed
  rcases listed with rfl | rfl | rfl | rfl | rfl
  · exact measured_lua wall
  · exact measured_lua user
  · exact measured_lua system
  · exact measured_lua rss
  · exact measured_lua (by omega)

theorem scratch_accepts {s : Scratch} (valid : s.isValid = true) (bounded : s.isBounded = true) :
    Qa.Process.scratch (pushV1Scratch s) Qa.hardLimits = .ok (pushV1Scratch s).deepCopy := by
  simp only [Scratch.isValid, Scratch.isBounded, Bool.and_eq_true, decide_eq_true_eq,
    Policy.scratchBytes, Policy.scratchEntries] at valid bounded
  obtain ⟨⟨⟨_, bytes⟩, entries⟩, complete⟩ := valid
  have limitBytes : s.limitBytes = 67108864 := of_decide_eq_true bounded.1
  have limitEntries : s.limitEntries = 4096 := of_decide_eq_true bounded.2
  have record : Qa.exactRecord (pushV1Scratch s) Qa.Process.scratchKeys "native RUN v1 scratch" []
      = .ok () := rfl
  have completeValue : (pushV1Scratch s).get "inventory_complete" = .bool s.complete := rfl
  simp only [Qa.Process.scratch, bind_eq_ok, require_eq_ok, pure_eq_ok, orFail_eq_ok,
    completeValue, complete]
  exact ⟨(), record, (), ⟨rfl, measured_lua (by omega), measured_lua (by omega),
    equals_lua limitBytes (by decide), equals_lua limitEntries (by decide),
    within_lua bytes (by omega), within_lua entries (by omega), rfl, rfl, trivial⟩, trivial⟩

theorem cause_accepts {cause : FirstCause} {reason : Reason} (sequence : cause.sequence ≠ 0)
    (sequenceFit : cause.sequence < 2 ^ 63) (observedFit : cause.observed < 2 ^ 63) :
    Qa.Process.cause (pushCause cause reason) (.text reason.name)
      = .ok (pushCause cause reason).deepCopy := by
  have record : Qa.exactRecord (pushCause cause reason) Qa.Process.causeKeys
      "native RUN v1 first cause" [] = .ok () := rfl
  have kind : (pushCause cause reason).get "kind" = .text reason.name := rfl
  have sequenceValue : (pushCause cause reason).get "monotonic_sequence" = .nat cause.sequence :=
    luaInteger_of_lt sequenceFit
  have observedValue : (pushCause cause reason).get "observed_value" = .nat cause.observed :=
    luaInteger_of_lt observedFit
  simp only [Qa.Process.cause, bind_eq_ok, require_eq_ok, pure_eq_ok, orFail_eq_ok,
    kind, sequenceValue, observedValue, isNonNegativeInteger_nat, Qa.Process.isGreater_nat]
  refine ⟨(), record, (), ⟨rfl, ?_, trivial, ?_, trivial⟩, trivial⟩
  · simp
  · exact decide_eq_false (by omega)

def Termination.normal (t : Termination) : Value :=
  match t.kind with
  | .exit => .record [("kind", .text "exit"), ("exit_code", .nat t.exitCode), ("signal", .nil)]
  | .signal => .record [("kind", .text "signal"), ("exit_code", .nil), ("signal", .nat t.signal)]
  | .supervisorKill =>
    .record [("kind", .text "supervisor_kill"), ("exit_code", .nil), ("signal", .nil)]

theorem Termination.fit {t : Termination} (valid : t.isValid = true) :
    t.exitCode < 2 ^ 63 ∧ t.signal < 2 ^ 63 := by
  unfold Termination.isValid at valid
  split at valid
  · simp only [Bool.and_eq_true, decide_eq_true_eq] at valid
    have unset : t.signal = 4294967295 := valid.2
    omega
  · simp only [Bool.and_eq_true, decide_eq_true_eq] at valid
    have unset : t.exitCode = 4294967295 := valid.1.1
    have small : t.signal < 65 := valid.2
    omega
  · simp only [Bool.and_eq_true, decide_eq_true_eq] at valid
    have unset : t.exitCode = 4294967295 := valid.1
    have killed : t.signal = 9 := valid.2
    omega

theorem TerminationKind.ordinal_lt (kind : TerminationKind) : kind.ordinal < 2 ^ 63 := by
  cases kind <;> decide

def TerminationKind.name : TerminationKind → String
  | .exit => "exit"
  | .signal => "signal"
  | .supervisorKill => "supervisor_kill"

theorem termination_accepts {t : Termination} (valid : t.isValid = true) :
    Qa.Process.termination (pushTermination t) = .ok t.normal := by
  obtain ⟨exitFit, signalFit⟩ := Termination.fit valid
  have record : Qa.exactRecord (pushTermination t) Qa.Process.terminationKeys
      "native RUN v1 termination" [] = .ok () := rfl
  have kindValue : (pushTermination t).get "kind" = .nat t.kind.ordinal :=
    luaInteger_of_lt t.kind.ordinal_lt
  have exitValue : (pushTermination t).get "exit_code" = .nat t.exitCode :=
    luaInteger_of_lt exitFit
  have signalValue : (pushTermination t).get "signal" = .nat t.signal :=
    luaInteger_of_lt signalFit
  have named : Qa.Process.terminationKind (.nat t.kind.ordinal) = some t.kind.name := by
    cases t.kind <;> rfl
  simp only [Qa.Process.termination, bind_eq_ok, orFail_eq_ok, kindValue, named,
    exitValue, signalValue, require_eq_ok, pure_eq_ok, isNonNegativeInteger_nat]
  refine ⟨(), record, (), ⟨trivial, trivial⟩, ?_⟩
  unfold Termination.normal
  cases t.kind <;> rfl

structure ResultBody.Sound (body : ResultBody) : Prop where
  termination : body.termination.isValid = true
  sequence : body.cause.sequence ≠ 0
  sequenceFit : body.cause.sequence < 2 ^ 63
  observedFit : body.cause.observed < 2 ^ 63
  stdout : body.stdout.Sound Policy.stdoutBytes
  stderr : body.stderr.Sound Policy.stderrBytes
  resource : body.resource.Sound
  scratchValid : body.scratch.isValid = true
  scratchBounded : body.scratch.isBounded = true
  unreserved : body.reason ≠ .scratchLimit
  expected : body.reason = .expectedExit →
    body.termination.kind = .exit ∧ body.termination.exitCode = 0
  unexpected : body.reason = .unexpectedExit →
    body.termination.kind = .exit ∧ body.termination.exitCode ≠ 0
  signalled : body.reason = .signal ∨ body.reason = .sandboxPolicyViolation →
    body.termination.kind = .signal
  output : body.reason = .outputLimit ↔ (body.stdout.crossed || body.stderr.crossed) = true
  memory : body.reason = .memoryLimit ↔ body.resource.heapDenied = true

theorem Reason.name_inj {a b : Reason} : a.name = b.name ↔ a = b := by
  cases a <;> cases b <;> decide

def ResultBody.parts (body : ResultBody) : Qa.Process.Parts where
  finality := pushFinality.deepCopy
  termination := body.termination.normal
  cause := (pushCause body.cause body.reason).deepCopy
  stdout := (pushV1Stream body.stdout).deepCopy
  stderr := (pushV1Stream body.stderr).deepCopy
  resources := (pushV1Resources body.resource).deepCopy
  scratch := (pushV1Scratch body.scratch).deepCopy

theorem envelope_resultRecord (asked : Names request run) (unreserved : body.reason ≠ .scratchLimit) :
    Qa.Process.requireResultEnvelope (resultRecord run body) request = .ok () := by
  have record : Qa.exactRecord (resultRecord run body) Qa.Process.resultKeys
      "native RUN v1 result" [] = .ok () := rfl
  have phase : (resultRecord run body).get "phase_ordinal" = .nat 2 :=
    luaInteger_ordinal .terminal
  have reason : (resultRecord run body).get "reason" = .text body.reason.name := rfl
  have pushed : Names (resultRecord run body) run := ⟨rfl, rfl, rfl, rfl⟩
  have identity := requireIdentity_of_names pushed rfl asked "native RUN v1 result"
  simp only [Qa.Process.requireResultEnvelope, bind_eq_ok, require_eq_ok, orFail_eq_ok]
  refine ⟨(), record, (), ⟨rfl, ?_, rfl, rfl, rfl, rfl⟩, (), identity, (), ?_, ?_, ?_⟩
  · rw [phase, eq_nat]
    rfl
  · rw [reason]
    rfl
  · rw [reason]
    cases body.reason <;> rfl
  · rw [reason]
    cases equation : body.reason with
    | scratchLimit => exact absurd equation unreserved
    | _ => decide

theorem measure_resultRecord (sound : body.Sound) :
    Qa.Process.measure (resultRecord run body) Qa.hardLimits = .ok body.parts := by
  have finality : Qa.Process.finality pushFinality = .ok pushFinality.deepCopy := rfl
  have termination := termination_accepts sound.termination
  have cause := @cause_accepts body.cause body.reason sound.sequence sound.sequenceFit
    sound.observedFit
  have stdout := stream_accepts sound.stdout (by decide) "stdout"
  have stderr := stream_accepts sound.stderr (by decide) "stderr"
  have resources := resources_accepts sound.resource
  have scratch := scratch_accepts sound.scratchValid sound.scratchBounded
  simp only [Qa.Process.measure, bind_eq_ok, pure_eq_ok]
  exact ⟨_, finality, _, termination, _, cause, _, stdout, _, stderr, _, resources, _, scratch, rfl⟩

theorem requireTermination_of_sound (sound : body.Sound) :
    Qa.Process.requireTermination (.text body.reason.name) body.termination.normal = .ok () := by
  unfold Qa.Process.requireTermination
  cases equation : body.reason with
  | expectedExit =>
    obtain ⟨kind, code⟩ := sound.expected equation
    rw [Reason.name, if_pos rfl, require_eq_ok, Termination.normal, kind, code]
    exact ⟨rfl, rfl⟩
  | unexpectedExit =>
    obtain ⟨kind, code⟩ := sound.unexpected equation
    rw [Reason.name, if_neg (by decide), if_pos rfl, require_eq_ok, Termination.normal, kind]
    refine ⟨rfl, ?_⟩
    show (Value.nat body.termination.exitCode).eq (.nat 0) = false
    rw [eq_nat]
    exact decide_eq_false code
  | signal =>
    have kind := sound.signalled (.inl equation)
    rw [Reason.name, if_neg (by decide), if_neg (by decide), if_pos (.inl rfl), require_eq_ok,
      Termination.normal, kind]
    rfl
  | sandboxPolicyViolation =>
    have kind := sound.signalled (.inr equation)
    rw [Reason.name, if_neg (by decide), if_neg (by decide), if_pos (.inr rfl), require_eq_ok,
      Termination.normal, kind]
    rfl
  | _ => rfl

theorem requireLimits_of_sound (sound : body.Sound) :
    Qa.Process.requireLimits (.text body.reason.name) body.parts = .ok () := by
  have stdout : body.parts.stdout.get "limit_reached" = .bool body.stdout.crossed := rfl
  have stderr : body.parts.stderr.get "limit_reached" = .bool body.stderr.crossed := rfl
  have denied : body.parts.resources.get "runtime_heap_denied" = .bool body.resource.heapDenied :=
    rfl
  have truth : ∀ b : Bool, (Value.bool b).truthy = b := by
    intro b
    cases b <;> rfl
  have named : ∀ reason : Reason, Value.text body.reason.name = .text reason.name
      ↔ body.reason = reason := by
    intro reason
    simp only [Value.str.injEq, utf8_inj, Reason.name_inj]
  simp only [Qa.Process.requireLimits, bind_eq_ok, require_eq_ok, stdout, stderr, denied, truth]
  exact ⟨(), (named .outputLimit).trans sound.output, (named .memoryLimit).trans sound.memory⟩

theorem result_accepted (parsed : Run.parse request = some run) (sound : body.Sound) :
    (Terminal.result body true).Accepted run request := by
  obtain ⟨normalized, accepted, asked, limits⟩ := normalizeRequestV1_of_parse parsed
  refine ⟨Qa.Process.observation (resultRecord run body) body.parts, ?_⟩
  show Qa.Process.normalizeResultV1 (resultRecord run body) request = _
  simp only [Qa.Process.normalizeResultV1, bind_eq_ok, pure_eq_ok, orFail_eq_ok]
  refine ⟨normalized, accepted, (), envelope_resultRecord asked sound.unreserved, body.parts, ?_,
    (), requireTermination_of_sound sound, (), requireLimits_of_sound sound, rfl⟩
  rw [limits]
  exact measure_resultRecord sound

theorem normalizeErrorV1_iff (parsed : Run.parse request = some run) (e : TerminalError) :
    (∃ answer, Qa.Process.normalizeErrorV1 (errorRecord run e) request = .ok answer)
      ↔ e.isListed = true := by
  obtain ⟨normalized, accepted, asked, _⟩ := normalizeRequestV1_of_parse parsed
  simp only [Qa.Process.normalizeErrorV1, bind_eq_ok, pure_eq_ok, orFail_eq_ok]
  constructor
  · rintro ⟨answer, _, _, _, _, _, _, rule, topology, _⟩
    exact (errorTopology_errorRecord run e).mp ⟨rule, topology⟩
  · intro listed
    obtain ⟨rule, topology⟩ := (errorTopology_errorRecord run e).mpr listed
    have pushed : Names (errorRecord run e) run := ⟨rfl, rfl, rfl, rfl⟩
    exact ⟨_, normalized, accepted, (), envelope_errorRecord run e, (),
      causality_errorRecord run listed, rule, topology, (),
      requireIdentity_of_names pushed rfl asked _, .nil, rfl, rfl⟩

theorem derived_answer (run : Run) (request : Value) (e : TerminalError) :
    (Terminal.derived e).answer run request
      = Qa.Process.normalizeErrorV1 (errorRecord run e) request := by
  have pushed : pushV1Error run none e = .ok (errorRecord run e) := by
    rw [pushV1Error, if_neg (by simp)]
  rw [Terminal.answer, pushed, ok_then]

theorem error_answer (run : Run) (request : Value) {body : ErrorBody} (e : TerminalError)
    (unmeasured : body.costKnown = false) :
    (Terminal.error body e).answer run request
      = Qa.Process.normalizeErrorV1 (errorRecord run e) request := by
  have pushed : pushV1Error run (some body) e = .ok (errorRecord run e) := by
    rw [pushV1Error, if_neg (by simp [unmeasured])]
  rw [Terminal.answer, pushed, ok_then]

theorem derived_accepted_iff (parsed : Run.parse request = some run) (e : TerminalError) :
    (Terminal.derived e).Accepted run request ↔ e.isListed = true := by
  rw [Terminal.Accepted, derived_answer]
  exact normalizeErrorV1_iff parsed e

theorem error_accepted (parsed : Run.parse request = some run) {body : ErrorBody}
    {e : TerminalError} (unmeasured : body.costKnown = false) (listed : e.isListed = true) :
    (Terminal.error body e).Accepted run request := by
  rw [Terminal.Accepted, error_answer run request e unmeasured]
  exact (normalizeErrorV1_iff parsed e).mpr listed

end Proc17.Native
