import Proc17.Core.Packet.Course
import Proc17.Runtime.FlowDomain

/-!
# Birth declarations

`prepare_options` of `runtime/tension_runner.lua`, `runtime/packet_birth.lua` and the part of
`tension_runner.run` that ends with a Packet.  Work mode and repository may each be declared in
three places, and the Packet is to be born with what was declared.
-/

namespace Proc17.Runtime.Birth

open Lua Core FlowDomain List Value

/-- `for key, value in pairs(options) do prepared[key] = value end` -/
def shallowCopy : Value → Except Failure Value
  | .table _ entries => .ok (.table Tag.plain entries)
  | _ => .error (.fault "pairs")

def isPresent (v : Value) : Bool := decide (v ≠ .nil)

/-- `a or b or c or default` -/
def firstTruthy (values : List Value) (default : Value) : Value :=
  values.foldr Value.orElse default

def bindRepository (hands packetOptions metadata : Value) : Except Failure (Value × Value) :=
  let id := hands.get "repository_id"
  if hands.isTable = true ∧ hands.get "enabled" = .bool true ∧ id.isNonEmptyString = true then do
    let direct := packetOptions.get "repository_id"
    require (direct = .nil ∨ Value.eq direct id = true)
      (refuse "repository_hands repository_id conflicts with Packet birth")
    let mirrored := metadata.get "repository_id"
    require (mirrored = .nil ∨ Value.eq mirrored id = true)
      (refuse "repository_hands repository_id conflicts with metadata mirror")
    let packetOptions ← packetOptions.setField "repository_id" id
    let metadata ← metadata.setField "repository_id" id
    pure (packetOptions, metadata)
  else pure (packetOptions, metadata)

/-- An option that is `off` or one other text. -/
def switch (prepared : Value) (name other : String) : Except Failure Value := do
  let chosen := (prepared.get name).orElse (.text "off")
  require (chosen = .text "off" ∨ chosen = .text other)
    (refuse (name ++ " must be off or " ++ other))
  prepared.setField name chosen

def evidenceEntry (entry : Value × Value) : Except Failure Unit := do
  require (Packet.knownKey ["case_id", "corpus_layer", "evidence_run_id"] entry.1 = true)
    (.refused (.str (utf8 "edge_evidence contains unknown key: " ++ entry.1.tostring)))
  require (entry.2.isNonEmptyString = true) (refuse "edge_evidence values must be non-empty strings")

def pairsOf : Value → List (Value × Value)
  | .table _ entries => entries
  | _ => []

def edgeEvidence (prepared : Value) : Except Failure Value := do
  let given := prepared.get "edge_evidence"
  require (given = .nil ∨ given.isTable = true) (refuse "edge_evidence must be table")
  let evidence := (given.orElse .emptyTable).deepCopy
  (pairsOf evidence).forM evidenceEntry
  let layer := evidence.get "corpus_layer"
  require (layer = .nil
      ∨ Packet.knownKey ["L0", "L1", "unit", "archaeology"] layer = true)
    (refuse "edge_evidence corpus_layer is invalid")
  if given = .nil then pure prepared else prepared.setField "edge_evidence" evidence

def isFunction : Value → Bool
  | .ref .function _ => true
  | _ => false

def settle (prepared : Value) : Except Failure Value := do
  let given := prepared.get "packet_options"
  require (given = .nil ∨ given.isTable = true) (refuse "packet_options must be table")
  let packetOptions := (given.orElse .emptyTable).deepCopy
  require (packetOptions.get "network_projection" = .nil)
    (refuse "NETWORK projection must enter through trusted packet_life")
  let mirror := packetOptions.get "metadata"
  require (mirror = .nil ∨ mirror.isTable = true) (refuse "packet metadata must be table")
  let metadata := (mirror.orElse .emptyTable).deepCopy
  let modes := [prepared.get "work_mode", packetOptions.get "work_mode", metadata.get "work_mode"]
  let workMode := firstTruthy modes (.text "build")
  require (workMode = .text "plan" ∨ workMode = .text "build")
    (refuse "work_mode must be plan or build")
  -- `ipairs` ends at the first hole of the list
  require (∀ declared ∈ modes.takeWhile isPresent, declared = workMode)
    (refuse "work_mode declarations disagree")
  let (packetOptions, metadata) ←
    bindRepository (prepared.get "repository_hands") packetOptions metadata
  let metadata ← metadata.setField "work_mode" workMode
  let packetOptions ← packetOptions.setField "metadata" metadata
  let packetOptions ← packetOptions.setField "work_mode" workMode
  let prepared ← prepared.setField "work_mode" workMode
  prepared.setField "packet_options" packetOptions

/-- `prepare_options` -/
def prepareOptions (options : Value) : Except Failure Value := do
  let prepared ← shallowCopy (options.orElse .emptyTable)
  let prepared ← settle prepared
  let hook := prepared.get "on_packet_birth"
  require (hook = .nil ∨ isFunction hook = true) (refuse "on_packet_birth must be function")
  let prepared ← switch prepared "work_layer_observer" "shadow_v0"
  let prepared ← switch prepared "dissolve_pressure_relief_reader" "v0"
  let contract := prepared.get "work_layer_contract"
  require (contract = .nil ∨ contract.isTable = true) (refuse "work_layer_contract must be table")
  let instrument := prepared.get "authority_instrument"
  require (instrument = .nil ∨ instrument = .text "v3" ∨ instrument = .text "off")
    (refuse "authority_instrument must be v3 or off")
  require (instrument ≠ .text "off"
      ∨ prepared.get "authority_instrument_test_override" = .bool true)
    (refuse "authority_instrument off requires test override")
  edgeEvidence prepared

/-- What a birth consults besides its options: schemas, id counter and clock of `packet.new`, and
the pure `grave.prepare` and `l1_projection.project`. -/
structure Birthplace where
  schemas : Schemas
  counter : Nat
  now : Int
  prepareGraves : Value → Except Failure Value
  project : Value → L1.State → Mark → Except Failure Value

def snapshotTable (physical : L1.Snapshot) : Value :=
  .record [
    ("protocol_version", .text "l1.snapshot.v0"),
    ("variant", .text "C"),
    ("tick", .nat physical.tick),
    ("position", .nat physical.position),
    ("carry", .nat physical.carry),
    ("fingerprint", .nat physical.fingerprint),
    ("trace_density", .nat physical.traceDensity),
    ("distinct_core", .nat physical.distinctCore),
    ("distinct_l1_trace", .nat physical.distinctL1Trace),
    ("ring_size", .nat physical.ringSize),
    ("source_ref", .str physical.sourceRef),
    ("event_truth_status", .text "runtime_confirmed"),
    ("content_truth_status", .text "non_semantic_measurement")]

def markTable (mark : Mark) : Value :=
  .record [
    ("protocol_version", .text "l1.flow_mark.v0"),
    ("l1_protocol_version", .text "l1.field.v0"),
    ("variant", .text "C"),
    ("stream_id", .str mark.streamId),
    ("stream_epoch", .num mark.streamEpoch),
    ("birth_seq", .nat mark.birthSeq),
    ("trigger", .text "packet_birth"),
    ("snapshot", snapshotTable mark.snapshot),
    ("source_provenance", .record [
      ("adapter_id", .str mark.sourceProvenance.adapterId),
      ("source_ref", .str mark.sourceProvenance.sourceRef),
      ("source_count", .nat mark.sourceProvenance.sourceCount),
      ("config_ref", mark.sourceProvenance.configRef)]),
    ("domain_event_ref", .str mark.domainEventRef),
    ("event_truth_status", .text "runtime_confirmed"),
    ("content_truth_status", .text "non_semantic_measurement"),
    ("semantic_claim_status", .text "none")]

/-- A `packet_life` of the protocol `vertical_packet_life.v0`, its flow domain aside. -/
structure PacketLife where
  projectionAdapter : Value
  networkProjection : Value

variable (B : Birthplace)

def newPacket (prompt packetOptions : Value) : Except Failure Packet :=
  Packet.new B.schemas B.counter B.now prompt packetOptions

/-- What `packet_birth.create` checks: its copy of the options and the inherited grave refs. -/
def createPlan (life : PacketLife) (prompt packetOptions graves : Value) :
    Except Failure (Value × List Value) := do
  require (prompt.isNonEmptyString = true) (refuse "prompt must be non-empty string")
  let packetOptions := (packetOptions.orElse .emptyTable).deepCopy
  require (packetOptions.get "ingress" = .nil) (refuse "packet ingress is owned by packet_birth")
  require (packetOptions.get "network_projection" = .nil)
    (refuse "NETWORK projection is owned by trusted packet life")
  require (life.networkProjection = .nil ∨ life.networkProjection.isTable = true)
    (refuse "network_projection must be table")
  require (graves = .nil ∨ graves.isTable = true)
    (refuse "packet birth inherited_graves must be table")
  let records ← (graves.orElse .emptyTable).ipairs
  require (∀ record ∈ records, record.isTable = true ∧ record.get "kind" = .text "grave"
      ∧ (record.get "source_packet_id").isNonEmptyString = true)
    (refuse "packet birth inherited graves must be prepared records with source packet ids")
  pure (packetOptions, records.map (·.get "source_packet_id"))

def projection (life : PacketLife) (mark : Mark) (tentative : L1.State) : Except Failure Value :=
  if life.projectionAdapter = .nil then .ok .nil
  else B.project life.projectionAdapter tentative mark

/-- The builder that `packet_birth.create` hands to `advance_birth`. -/
def build (life : PacketLife) (prompt packetOptions : Value) (refs : List Value) (mark : Mark)
    (tentative : L1.State) : Except Failure Packet := do
  let projected ← projection B life mark tentative
  let packetOptions ← packetOptions.setField "ingress" (.record
    [("protocol_version", .text "packet.ingress.v0"),
      ("integration_protocol", .text "vertical_packet_life.v0"),
      ("flow_mark", markTable mark),
      ("l1_projection", projected),
      ("carrier_ref", packetOptions.get "carrier_id"),
      ("inherited_grave_refs", (Value.array refs).deepCopy),
      ("network_projection", life.networkProjection.deepCopy)])
  newPacket B prompt packetOptions

def outcomeOf : Except Failure Packet → Outcome
  | .ok p => .returned (.record [("id", p.id)]) .nil
  | .error (.refused err) => .returned .nil err
  | .error (.raised err) => .raised err
  | .error (.fault operation) => .raised (.text operation)

def bear (builder : Mark → L1.State → Except Failure Packet) (d : Domain) : Reply Domain Packet :=
  (advanceBirth (fun mark tentative => .done (outcomeOf (builder mark tentative))) d).andThen
    fun birth left => (builder birth.mark left.state, left)

/-- `packet_birth.create`, its receipt left out. -/
def create (life : PacketLife) (prompt packetOptions graves : Value) (d : Domain) :
    Reply Domain Packet :=
  transact (createPlan life prompt packetOptions graves)
    (fun plan => bear (build B life prompt plan.1 plan.2) d) d

def atStage {α : Type} (stage : String) : Except Failure α → Except Failure α
  | .error (.refused err) => .error (.refused (.str (utf8 (stage ++ ":") ++ err.tostring)))
  | result => result

/-- `tension_runner.run` as far as the Packet that is born, in a vertical life or outside one. -/
def run (prompt options : Value) (life : Option PacketLife) (d : Domain) : Reply Domain Packet :=
  transact (atStage "birth_config" (prepareOptions options))
    (fun prepared =>
      let packetOptions := (prepared.get "packet_options").orElse .emptyTable
      match life with
      | none => (newPacket B prompt packetOptions, d)
      | some life =>
        let graves := prepared.get "inherited_graves"
        transact (atStage "grave_preflight"
            (if graves = .nil then pure .nil else B.prepareGraves graves))
          (fun records =>
            let reply := create B life prompt packetOptions records d
            (atStage "birth" reply.1, reply.2)) d) d

/-! ## Declarations -/

def packetOptionsOf (options : Value) : Value := options.get "packet_options"

def metadataOf (options : Value) : Value := (packetOptionsOf options).get "metadata"

def handsId (options : Value) : Value :=
  let hands := options.get "repository_hands"
  if hands.isTable = true ∧ hands.get "enabled" = .bool true then hands.get "repository_id" else .nil

def modePlaces (options : Value) : List Value :=
  [options.get "work_mode", (packetOptionsOf options).get "work_mode",
    (metadataOf options).get "work_mode"]

def idPlaces (options : Value) : List Value :=
  [handsId options, (packetOptionsOf options).get "repository_id",
    (metadataOf options).get "repository_id"]

def Honoured (options : Value) (p : Packet) : Prop :=
  (∀ mode ∈ modePlaces options, mode ≠ .nil → mode = .text p.workMode.name)
    ∧ ∀ id ∈ idPlaces options, id ≠ .nil → id = p.repositoryId

def Disagree (places : List Value) : Prop :=
  ∃ a ∈ places, ∃ b ∈ places, a ≠ .nil ∧ b ≠ .nil ∧ a ≠ b

/-- No declaration is one that the checks pass over: no work mode behind an absent one differs from
the mode that is taken, enabled hands name a repository by a text if they name one, and no
repository id is `false`. -/
structure Undropped (options : Value) : Prop where
  modes : ∀ mode ∈ (modePlaces options).dropWhile isPresent, mode ≠ .nil →
    mode = firstTruthy (modePlaces options) (.text "build")
  hands : handsId options = .nil ∨ (handsId options).isNonEmptyString = true
  ids : ∀ id ∈ (idPlaces options).tail, id ≠ .bool false

/-! ## What is settled -/

variable {options prepared packetOptions metadata : Value}

theorem copied_eq {v w : Value} (plain : w.isTable = false) : v.deepCopy = w ↔ v = w := by
  cases v with
  | table tag entries =>
    constructor
    · rintro rfl
      cases plain
    · rintro rfl
      cases plain
  | _ => exact Iff.rfl

theorem orElse_get {v : Value} (table : v = .nil ∨ v.isTable = true) (name : String) :
    (v.orElse .emptyTable).get name = v.get name := by
  cases v with
  | nil | table => rfl
  | _ => simp [Value.isTable] at table

theorem isPresent_deepCopy (v : Value) : isPresent v.deepCopy = isPresent v := by
  rw [isPresent, isPresent, decide_eq_decide, not_iff_not]
  exact copied_eq rfl

theorem orElse_copied {v w w' : Value} {name : String} (rest : w = .text name → w' = .text name)
    (taken : v.deepCopy.orElse w = .text name) : v.orElse w' = .text name := by
  rw [Value.orElse, truthy_deepCopy] at taken
  rw [Value.orElse]
  split at taken
  · rename_i truthy
    rw [if_pos truthy]
    exact (copied_eq rfl).mp taken
  · rename_i falsy
    rw [if_neg falsy]
    exact rest taken

theorem modes_copied {r q m : Value} {name : String}
    (taken : firstTruthy [r, q.deepCopy, m.deepCopy] (.text "build") = .text name)
    (walked : ∀ v ∈ [r, q.deepCopy, m.deepCopy].takeWhile isPresent, v = .text name) :
    firstTruthy [r, q, m] (.text "build") = .text name
      ∧ ∀ v ∈ [r, q, m].takeWhile isPresent, v = .text name := by
  constructor
  · have inner : firstTruthy [q.deepCopy, m.deepCopy] (.text "build") = .text name →
        firstTruthy [q, m] (.text "build") = .text name :=
      orElse_copied (orElse_copied id)
    show r.orElse _ = _
    have taken' : r.orElse (firstTruthy [q.deepCopy, m.deepCopy] (.text "build")) = .text name :=
      taken
    rw [Value.orElse] at taken' ⊢
    split at taken'
    · rename_i truthy
      rw [if_pos truthy]
      exact taken'
    · rename_i falsy
      rw [if_neg falsy]
      exact inner taken'
  · revert walked
    cases first : isPresent r <;> cases second : isPresent q <;> cases third : isPresent m <;>
      simp [isPresent_deepCopy, first, second, third, copied_eq (w := .text name) rfl]

/-- What the settled repository ids come from: the hands, or the places of the options. -/
def IdSettled (options direct mirrored : Value) : Prop :=
  ((handsId options).isNonEmptyString = true ∧ direct = handsId options
      ∧ mirrored = handsId options
      ∧ ∀ id ∈ (idPlaces options).tail, id.deepCopy = .nil ∨ id.deepCopy = handsId options)
    ∨ (handsId options).isNonEmptyString = false
      ∧ [direct, mirrored] = (idPlaces options).tail.map Value.deepCopy

/-- The packet options that `prepare_options` leaves. -/
structure Settled (options packetOptions : Value) : Prop where
  table : packetOptions.isTable = true
  metadata : (packetOptions.get "metadata").isTable = true
  mode : ∃ mode : WorkMode, packetOptions.get "work_mode" = .text mode.name
    ∧ (packetOptions.get "metadata").get "work_mode" = .text mode.name
    ∧ firstTruthy (modePlaces options) (.text "build") = .text mode.name
    ∧ ∀ declared ∈ (modePlaces options).takeWhile isPresent, declared = .text mode.name
  ids : IdSettled options (packetOptions.get "repository_id")
    ((packetOptions.get "metadata").get "repository_id")

theorem settle_facts (settled : settle options = .ok prepared) :
    Settled options (prepared.get "packet_options") := by
  simp only [settle, bindRepository, bind_eq_ok, require_eq_ok, Prod.exists] at settled
  obtain ⟨⟨⟩, given, ⟨⟩, -, ⟨⟩, mirror, ⟨⟩, known, ⟨⟩, walked, packetOptions', metadata', bound,
    metadata'', modeWritten, withMetadata, metadataWritten, withMode, written, settled,
    modeSettled, optionsSettled⟩ := settled
  have packetGet (name : String) : ((options.get "packet_options").orElse .emptyTable).deepCopy.get
      name = ((packetOptionsOf options).get name).deepCopy := by
    rw [get_deepCopy, orElse_get given]
    rfl
  have metadataGet (name : String) :
      ((((options.get "packet_options").orElse .emptyTable).deepCopy.get "metadata").orElse
        .emptyTable).deepCopy.get name = ((metadataOf options).get name).deepCopy := by
    rw [get_deepCopy, orElse_get mirror, packetGet, get_deepCopy, deepCopy_deepCopy]
    rfl
  rw [packetGet, metadataGet] at known walked modeWritten written
  obtain ⟨mode, named⟩ : ∃ mode : WorkMode, firstTruthy [options.get "work_mode",
      ((packetOptionsOf options).get "work_mode").deepCopy,
      ((metadataOf options).get "work_mode").deepCopy] (.text "build") = .text mode.name := by
    rcases known with plan | build
    · exact ⟨.plan, plan⟩
    · exact ⟨.build, build⟩
  rw [named] at walked modeWritten written
  obtain ⟨taken, reached⟩ := modes_copied named walked
  have present : Value.text mode.name ≠ .nil := Value.noConfusion
  have table := isTable_of_setField modeWritten
  have whole := get_of_setField (by rintro rfl; cases table) metadataWritten
  have last := get_of_setField (by
    have := isTable_of_setField written
    rintro rfl
    cases this) optionsSettled
  have kept : withMode.get "metadata" = metadata'' := by
    rw [get_of_setField_other (by decide) written, whole]
  have ids : withMode.get "repository_id" = packetOptions'.get "repository_id" := by
    rw [get_of_setField_other (by decide) written,
      get_of_setField_other (by decide) metadataWritten]
  have mirrored : metadata''.get "repository_id" = metadata'.get "repository_id" :=
    get_of_setField_other (by decide) modeWritten
  rw [last]
  refine ⟨isTable_of_setField written, by rw [kept]; exact table,
    ⟨mode, get_of_setField present written, ?_, taken, reached⟩, ?_⟩
  · rw [kept]
    exact get_of_setField present modeWritten
  rw [kept, ids, mirrored]
  split at bound
  · rename_i enabled
    have hands : handsId options = (options.get "repository_hands").get "repository_id" :=
      if_pos ⟨enabled.1, enabled.2.1⟩
    simp only [bind_eq_ok, require_eq_ok, pure_eq_ok, Prod.mk.injEq] at bound
    rw [packetGet, metadataGet, ← hands] at bound
    obtain ⟨⟨⟩, direct, ⟨⟩, mirror, _, first, _, second, rfl, rfl⟩ := bound
    rw [← hands] at enabled
    obtain ⟨text, same⟩ : ∃ text, handsId options = .str text := by
      cases id : handsId options with
      | str text => exact ⟨text, rfl⟩
      | _ => simp [id, Value.isNonEmptyString] at enabled
    rw [same] at direct mirror first second
    rw [IdSettled, same]
    refine .inl ⟨same ▸ enabled.2.2, get_of_setField Value.noConfusion first,
      get_of_setField Value.noConfusion second, ?_⟩
    intro id member
    rcases mem_pair.mp member with rfl | rfl
    · exact direct.imp_right eq_of_eq_str
    · exact mirror.imp_right eq_of_eq_str
  · rename_i idle
    cases bound
    refine .inr ⟨?_, by rw [packetGet, metadataGet]; rfl⟩
    rw [handsId]
    split
    · rename_i enabled
      exact Bool.eq_false_iff.mpr fun named => idle ⟨enabled.1, enabled.2, named⟩
    · rfl

/-! ## What is born -/

theorem edgeEvidence_keeps {name : String} (other : "edge_evidence" ≠ name)
    (made : edgeEvidence options = .ok prepared) : prepared.get name = options.get name := by
  simp only [edgeEvidence, bind_eq_ok, require_eq_ok] at made
  obtain ⟨⟨⟩, -, ⟨⟩, -, ⟨⟩, -, last⟩ := made
  split at last
  · cases last
    rfl
  · exact get_of_setField_other other last

theorem prepareOptions_facts (made : prepareOptions options = .ok prepared) :
    Settled options (prepared.get "packet_options") := by
  simp only [prepareOptions, switch, bind_eq_ok, require_eq_ok] at made
  obtain ⟨copied, shallow, settled, done, ⟨⟩, -, observed, ⟨⟨⟩, -, first⟩, read, ⟨⟨⟩, -, second⟩,
    ⟨⟩, -, ⟨⟩, -, ⟨⟩, -, last⟩ := made
  rw [edgeEvidence_keeps (by decide) last, get_of_setField_other (by decide) second,
    get_of_setField_other (by decide) first]
  obtain ⟨table, metadata, mode, ids⟩ := settle_facts done
  -- a shallow copy reads as the options do
  cases options with
  | nil | table =>
    cases shallow
    exact ⟨table, metadata, mode, ids⟩
  | bool b =>
    cases b with
    | true => cases shallow
    | false =>
      cases shallow
      exact ⟨table, metadata, mode, ids⟩
  | _ => cases shallow

/-- A repository id, its mirror in the metadata, and what `packet.new` makes of the two. -/
inductive Coordinate : Value → Value → Value → Prop
  | absent : Coordinate .nil .nil .nil
  | falsy : Coordinate (.bool false) .nil .nil
  | direct {id : Bytes} (named : id ≠ []) : Coordinate (.str id) .nil (.str id)
  | both {id : Bytes} (named : id ≠ []) : Coordinate (.str id) (.str id) (.str id)
  | mirrored {id : Bytes} (named : id ≠ []) : Coordinate .nil (.str id) (.str id)

theorem coordinate_of_agree {direct mirrored : Value}
    (agree : direct = .nil ∨ mirrored = .nil ∨ Value.eq direct mirrored = true)
    (named : direct.orElse mirrored = .nil ∨ (direct.orElse mirrored).isNonEmptyString = true) :
    Coordinate direct mirrored (direct.orElse mirrored) := by
  cases direct with
  | nil =>
    rcases named with none | named
    · rw [show mirrored = .nil from none]
      exact .absent
    · cases mirrored with
      | str id => exact .mirrored (by simpa [Value.orElse, Value.truthy, Value.isNonEmptyString] using named)
      | _ => cases named
  | bool b =>
    cases b with
    | true => simp [Value.orElse, Value.truthy, Value.isNonEmptyString] at named
    | false =>
      cases mirrored with
      | nil => exact .falsy
      | str => simp [Value.eq] at agree
      | _ => simp [Value.orElse, Value.truthy, Value.isNonEmptyString] at named
  | str id =>
    have present : id ≠ [] := by
      simpa [Value.orElse, Value.truthy, Value.isNonEmptyString] using named
    rcases agree with none | rfl | same
    · cases none
    · exact .direct present
    · cases mirrored with
      | str id' =>
        rw [eq_str, decide_eq_true_eq] at same
        exact same ▸ .both present
      | _ => cases same
  | _ => simp [Value.orElse, Value.truthy, Value.isNonEmptyString] at named

theorem Coordinate.uncopied {direct direct' mirrored mirrored' id : Value}
    (coordinate : Coordinate direct' mirrored' id) (first : direct.deepCopy = direct'.deepCopy)
    (second : mirrored.deepCopy = mirrored'.deepCopy) : Coordinate direct mirrored id := by
  cases coordinate <;> obtain rfl := (copied_eq rfl).mp first <;>
    obtain rfl := (copied_eq rfl).mp second <;> constructor <;> assumption

theorem newPacket_facts {B : Birthplace} {prompt : Value} {p : Packet} {mode : WorkMode}
    (born : newPacket B prompt packetOptions = .ok p) (table : packetOptions.isTable = true)
    (declared : packetOptions.get "work_mode" = .text mode.name) :
    p.workMode.name = mode.name ∧ Coordinate (packetOptions.get "repository_id")
      ((packetOptions.get "metadata").get "repository_id").deepCopy p.repositoryId := by
  unfold newPacket Packet.new Packet.conceive at born
  simp only [bind_eq_ok, require_eq_ok, pure_eq_ok, Prod.exists, Prod.mk.injEq, declared,
    orElse_table table, index_eq_get table, Except.ok.injEq] at born
  obtain ⟨_, _, ⟨text, -, given, rfl, ⟨⟩, known, mode', taken, ⟨⟩, -, metadata, written, identity,
    -, work, workMetadata, worked, contract, qaMetadata, -, residue, -, ingress, -, count, -, rfl,
    rfl⟩, birth, -, rfl⟩ := born
  constructor
  · unfold Packet.workModeOf at taken
    split at taken
    · cases taken
    · rename_i parsed
      cases taken
      exact ((utf8_inj _ _).mp (Value.str.inj (eq_text_of_parse parsed))).symm
  · simp only [Packet.initWorkContract, Packet.declaredCoordinate, bind_eq_ok, require_eq_ok,
      pure_eq_ok] at worked
    obtain ⟨process, -, worked⟩ := worked
    split at worked
    · cases worked
    · simp only [bind_eq_ok, require_eq_ok, pure_eq_ok, Prod.mk.injEq] at worked
      obtain ⟨context, -, ⟨⟩, -, stage, -, ⟨⟩, -, id, ⟨⟨⟩, agree, read⟩, ⟨⟩, named, _, -, _, -, _, -,
        _, -, rfl, -⟩ := worked
      have mirrored : metadata.get "repository_id"
          = ((packetOptions.get "metadata").get "repository_id").deepCopy := by
        rw [get_of_setField_other (by decide) written, get_deepCopy, orElse_get known]
      rw [mirrored] at agree read
      rw [← read] at named
      have coordinate := coordinate_of_agree agree named
      rw [read] at coordinate
      exact coordinate

theorem ids_honoured_iff {direct mirrored id : Value} (settled : IdSettled options direct mirrored)
    (coordinate : Coordinate direct mirrored id) :
    (∀ v ∈ idPlaces options, v ≠ .nil → v = id)
      ↔ (handsId options = .nil ∨ (handsId options).isNonEmptyString = true)
        ∧ ∀ v ∈ (idPlaces options).tail, v ≠ .bool false := by
  simp only [IdSettled, idPlaces, tail_cons, forall_mem_cons, map_cons, map_nil,
    List.cons.injEq] at *
  generalize handsId options = hands at *
  generalize (packetOptionsOf options).get "repository_id" = first at *
  generalize (metadataOf options).get "repository_id" = second at *
  rcases settled with ⟨named, rfl, rfl, places⟩ | ⟨unnamed, rfl, rfl, -⟩
  · cases mirrored with
    | str id =>
      have reads (v : Value) : v.deepCopy = .nil ∨ v.deepCopy = .str id ↔ v = .nil ∨ v = .str id :=
        or_congr (copied_eq rfl) (copied_eq rfl)
      rw [reads, reads] at places
      cases coordinate
      obtain ⟨rfl | rfl, rfl | rfl, -⟩ := places <;> simp [named]
    | _ => cases named
  · have coordinate' := coordinate.uncopied (deepCopy_deepCopy first).symm
      (deepCopy_deepCopy second).symm
    cases coordinate' with
    | absent | falsy =>
      by_cases none : hands = .nil
      · simp [none]
      · simp [none, unnamed]
    | @direct text named | @both text named | @mirrored text named =>
      have other : hands ≠ .str text := by
        rintro rfl
        exact named (by simpa [Value.isNonEmptyString] using unnamed)
      by_cases none : hands = .nil
      · simp [none]
      · simp [none, other, unnamed]

theorem honoured_iff (settled : Settled options packetOptions) {p : Packet}
    (coordinate : Coordinate (packetOptions.get "repository_id")
      ((packetOptions.get "metadata").get "repository_id") p.repositoryId)
    (mode : packetOptions.get "work_mode" = .text p.workMode.name) :
    Honoured options p ↔ Undropped options := by
  obtain ⟨declared, given, -, taken, walked⟩ := settled.mode
  rw [mode] at given
  rw [← given] at taken walked
  have ids := ids_honoured_iff settled.ids coordinate
  constructor
  · rintro ⟨modes, named⟩
    obtain ⟨hands, truthy⟩ := ids.mp named
    refine ⟨fun v member present => ?_, hands, truthy⟩
    rw [taken]
    exact modes v ((dropWhile_sublist _).subset member) present
  · rintro ⟨modes, hands, truthy⟩
    refine ⟨fun v member present => ?_, ids.mpr ⟨hands, truthy⟩⟩
    rw [← takeWhile_append_dropWhile (p := isPresent) (l := modePlaces options)] at member
    rcases mem_append.mp member with early | late
    · exact walked v early
    · rw [← taken]
      exact modes v late present

theorem ok_of_built {built : Except Failure Packet} {given : Value × Bytes}
    (returned : builtPacket (outcomeOf built) = .ok given) : ∃ p, built = .ok p := by
  cases built with
  | ok p => exact ⟨p, rfl⟩
  | error failure => cases failure <;> cases returned

theorem bear_cases (builder : Mark → L1.State → Except Failure Packet) (d : Domain) :
    (∃ failure, bear builder d = (.error failure, d))
      ∨ ∃ p d' birth, bear builder d = (.ok p, d') ∧ d.status = .opened ∧ Born d birth d'
        ∧ builder birth.mark d'.state = .ok p := by
  unfold bear
  cases busy : d.busy with
  | true =>
    obtain ⟨failure, refused⟩ := birthGuard_busy busy
    exact .inl ⟨failure, by rw [advanceBirth, advanceWith, refused]; rfl⟩
  | false =>
    rcases advanceBirth_cases (fun mark tentative => .done (outcomeOf (builder mark tentative))) busy
      with ⟨failure, failed⟩ | ⟨birth, d', reply, opened, born, given, returned⟩
    · exact .inl ⟨failure, by rw [failed]; rfl⟩
    · obtain ⟨p, built⟩ := ok_of_built returned
      exact .inr ⟨p, d', birth, by rw [reply]; exact Prod.ext built rfl, opened, born, built⟩

/-- A Packet that `packet.new` has made of the prepared options and their ingress. -/
def Issued (B : Birthplace) (prompt prepared : Value) (p : Packet) : Prop :=
  ∃ packetOptions, newPacket B prompt packetOptions = .ok p ∧ packetOptions.isTable = true
    ∧ ∀ name, "ingress" ≠ name → (packetOptions.get name).deepCopy = (prepared.get name).deepCopy

def Marked (d d' : Domain) (p : Packet) : Prop :=
  d.status = .opened
    ∧ ∃ birth, Born d birth d' ∧ p.ingress.flowMark = (markTable birth.mark).deepCopy

theorem newPacket_flowMark {B : Birthplace} {prompt : Value} {p : Packet}
    (born : newPacket B prompt packetOptions = .ok p) (table : packetOptions.isTable = true)
    (entered : packetOptions.get "ingress" ≠ .nil) :
    p.ingress.flowMark = ((packetOptions.get "ingress").get "flow_mark").deepCopy := by
  unfold newPacket Packet.new Packet.conceive Packet.initIngress at born
  simp only [bind_eq_ok, pure_eq_ok, Prod.exists, Prod.mk.injEq, orElse_table table,
    if_neg entered] at born
  obtain ⟨_, _, ⟨text, -, given, -, ⟨⟩, -, mode, -, ⟨⟩, -, metadata, -, identity, -, work,
    workMetadata, -, contract, qaMetadata, -, residue, -, ingress, made, count, -, rfl, rfl⟩,
    birth, -, rfl⟩ := born
  simp only [require_eq_ok] at made
  obtain ⟨⟨⟩, -, made⟩ := made
  split at made
  · cases made
  · show ingress.flowMark = _
    rcases verified : B.schemas.verifyProjection
      ((packetOptions.get "ingress").get "network_projection") with (_ | _ | _) | _ <;>
      split_ifs at made <;> simp only [verified, bind_eq_ok, pure_eq_ok] at made <;> grind

theorem create_cases (B : Birthplace) (life : PacketLife) (prompt graves : Value) (d : Domain)
    (table : packetOptions.isTable = true) :
    (∃ failure, create B life prompt packetOptions graves d = (.error failure, d))
      ∨ ∃ p d', create B life prompt packetOptions graves d = (.ok p, d')
        ∧ Issued B prompt packetOptions p ∧ Marked d d' p := by
  unfold create
  rcases transact_cases (createPlan life prompt packetOptions graves) _ d with
    ⟨failure, -, result⟩ | ⟨⟨copied, refs⟩, planned, result⟩
  · exact .inl ⟨failure, result⟩
  · rw [result]
    simp only [createPlan, bind_eq_ok, require_eq_ok, pure_eq_ok, Prod.mk.injEq] at planned
    obtain ⟨⟨⟩, -, ⟨⟩, -, ⟨⟩, -, ⟨⟩, -, ⟨⟩, -, records, -, ⟨⟩, -, rfl, rfl⟩ := planned
    rcases bear_cases _ d with failed | ⟨p, d', birth, reply, opened, taken, built⟩
    · exact .inl failed
    · refine .inr ⟨p, d', reply, ?_⟩
      simp only [build, bind_eq_ok] at built
      obtain ⟨projected, -, withIngress, written, born⟩ := built
      have entered := get_of_setField Value.noConfusion written
      have marked := newPacket_flowMark born (isTable_of_setField written)
        (entered ▸ Value.noConfusion)
      rw [entered, @get_record (markTable birth.mark) _ _ (by simp) (by simp)] at marked
      refine ⟨⟨withIngress, born, isTable_of_setField written, fun name other => ?_⟩, opened,
        birth, taken, marked⟩
      rw [get_of_setField_other other written, get_deepCopy, deepCopy_deepCopy,
        orElse_get (.inr table)]

theorem run_cases (B : Birthplace) (prompt options : Value) (life : Option PacketLife) (d : Domain) :
    (∃ failure, run B prompt options life d = (.error failure, d))
      ∨ ∃ p d', run B prompt options life d = (.ok p, d') ∧ ∃ prepared,
        prepareOptions options = .ok prepared ∧ Issued B prompt (prepared.get "packet_options") p
          ∧ if life.isSome then Marked d d' p else d' = d := by
  unfold run
  cases made : prepareOptions options with
  | error failure =>
    left
    cases failure <;> exact ⟨_, rfl⟩
  | ok prepared =>
    have table := (prepareOptions_facts made).table
    rw [show atStage "birth_config" (.ok prepared) = .ok prepared from rfl, transact_ok]
    simp only [orElse_table table]
    cases life with
    | none =>
      cases born : newPacket B prompt (prepared.get "packet_options") with
      | error failure => exact .inl ⟨failure, rfl⟩
      | ok p => exact .inr ⟨p, d, rfl, prepared, rfl, ⟨_, born, table, fun _ _ => rfl⟩, rfl⟩
    | some life =>
      rcases transact_cases (atStage "grave_preflight" (if prepared.get "inherited_graves" = .nil
          then pure .nil else B.prepareGraves (prepared.get "inherited_graves"))) _ d with
        ⟨failure, -, result⟩ | ⟨records, -, result⟩
      · exact .inl ⟨failure, result⟩
      · simp only [result]
        rcases create_cases B life prompt records d table with ⟨failure, failed⟩ | ⟨p, d', reply, issued, marked⟩
        · left
          rw [failed]
          cases failure <;> exact ⟨_, rfl⟩
        · exact .inr ⟨p, d', by rw [reply]; rfl, prepared, rfl, issued, marked⟩

/-- The arguments of one `tension_runner.run`. -/
structure Attempt where
  place : Birthplace
  prompt : Value
  options : Value
  life : Option PacketLife

def nursery : Machine Domain Attempt Packet where
  step d a := run a.place a.prompt a.options a.life d

theorem birthLaw_run {start : Domain} (d : Domain) (a : Attempt) (law : BirthLaw start d) :
    BirthLaw start (nursery.after d a) := by
  show BirthLaw start (run a.place a.prompt a.options a.life d).2
  rcases run_cases a.place a.prompt a.options a.life d with
    ⟨failure, failed⟩ | ⟨p, d', born, prepared, -, -, entered⟩
  · rw [failed]
    exact law
  · rw [born]
    split at entered
    · obtain ⟨opened, birth, taken, -⟩ := entered
      exact (law.born opened taken).1
    · exact entered ▸ law

/-- Whatever runs share a domain, each Packet of a vertical life has the mark of its own tick of
the field the domain started with, and the next run finds the next number. -/
theorem births_marked (streamCounter : Nat) (source options : Value) (start : Domain)
    (made : new streamCounter source options = .ok start) (attempts : List Attempt) :
    BirthLaw start (nursery.run start attempts)
      ∧ ∀ a p d', nursery.step (nursery.run start attempts) a = (.ok p, d') → a.life.isSome →
        d'.birthSeq = (nursery.run start attempts).birthSeq + 1
          ∧ ∃ field physical, L1.ticked d'.birthSeq start.state = .ok field
            ∧ L1.snapshot field = .ok physical ∧ p.ingress.flowMark
              = (markTable (markOf start d'.birthSeq physical)).deepCopy := by
  have law : BirthLaw start (nursery.run start attempts) :=
    nursery.run_invariant (BirthLaw start) birthLaw_run attempts start (birthLaw_new made)
  refine ⟨law, fun a p d' born vertical => ?_⟩
  rcases run_cases a.place a.prompt a.options a.life (nursery.run start attempts) with
    ⟨failure, failed⟩ | ⟨q, d'', reply, prepared, -, -, entered⟩
  · cases failed.symm.trans born
  · cases reply.symm.trans born
    rw [if_pos vertical] at entered
    obtain ⟨opened, birth, taken, marked⟩ := entered
    obtain ⟨field, reached, shot⟩ := (law.born opened taken).2
    obtain ⟨tentative, -, -, rfl⟩ := taken.field
    refine ⟨rfl, field, _, reached, shot, ?_⟩
    rw [marked, taken.mark, markOf, markOf, eventRef, eventRef, law.identity.1, law.identity.2.1,
      law.identity.2.2]
    rfl

def plainPlace : Birthplace where
  schemas := Packet.refusingSchemas
  counter := 1
  now := 0
  prepareGraves _ := .error (refuse "refused")
  project _ _ _ := .error (refuse "refused")

def attempt : Attempt := ⟨plainPlace, .text "prompt", .nil, some ⟨.nil, .nil⟩⟩

theorem births_marked_twice : ∃ start,
    new 1 (.array [.nat 1, .nat 2, .nat 3]) (.record [("source_ref", .text "fixture")]) = .ok start
    ∧ BirthLaw start (nursery.run start [attempt, attempt])
    ∧ (nursery.run start [attempt, attempt]).birthSeq = 2 := by
  have made : ∃ start, new 1 (.array [.nat 1, .nat 2, .nat 3])
      (.record [("source_ref", .text "fixture")]) = .ok start
      ∧ (nursery.run start [attempt, attempt]).birthSeq = 2 := ⟨_, rfl, by decide +kernel⟩
  obtain ⟨start, made, counted⟩ := made
  exact ⟨start, made, (births_marked 1 _ _ start made _).1, counted⟩

/-- Every run that bears a Packet gives it what the options declare exactly when no declaration is
passed over; then options that disagree bear none, and a run that bears none leaves the domain. -/
theorem declarations_honoured_iff (B : Birthplace) (prompt options : Value)
    (life : Option PacketLife) (d : Domain) :
    (∀ p d', run B prompt options life d = (.ok p, d') → (Honoured options p ↔ Undropped options))
      ∧ (Undropped options → Disagree (modePlaces options) ∨ Disagree (idPlaces options) →
        ∃ failure, run B prompt options life d = (.error failure, d))
      ∧ ∀ failure d', run B prompt options life d = (.error failure, d') → d' = d := by
  have honoured : ∀ p d', run B prompt options life d = (.ok p, d') →
      (Honoured options p ↔ Undropped options) := by
    intro p d' born
    rcases run_cases B prompt options life d with ⟨failure, failed⟩ | ⟨q, d'', reply, prepared, made,
      ⟨packetOptions, issued, table, alike⟩, -⟩
    · rw [failed] at born
      cases born
    · rw [reply] at born
      cases born
      have settled := prepareOptions_facts made
      obtain ⟨mode, declared, -⟩ := settled.mode
      have copied := alike "work_mode" (by decide)
      rw [declared] at copied
      obtain ⟨named, coordinate⟩ := newPacket_facts issued table ((copied_eq rfl).mp copied)
      refine honoured_iff settled (coordinate.uncopied ?_ ?_) (by rw [declared, named])
      · exact (alike "repository_id" (by decide)).symm
      · have metadata := congrArg (·.get "repository_id") (alike "metadata" (by decide))
        simp only [get_deepCopy] at metadata
        rw [deepCopy_deepCopy, metadata]
  refine ⟨honoured, ?_, ?_⟩
  · intro undropped disagree
    rcases run_cases B prompt options life d with failed | ⟨p, d', born, -⟩
    · exact failed
    · obtain ⟨modes, ids⟩ := (honoured p d' born).mpr undropped
      exfalso
      rcases disagree with ⟨a, inside, b, there, first, second, differ⟩
        | ⟨a, inside, b, there, first, second, differ⟩
      · exact differ ((modes a inside first).trans (modes b there second).symm)
      · exact differ ((ids a inside first).trans (ids b there second).symm)
  · intro failure d' failed
    rcases run_cases B prompt options life d with ⟨failure', left⟩ | ⟨p, d'', born, -⟩
    · rw [left] at failed
      exact (Prod.mk.inj failed).2.symm
    · rw [born] at failed
      cases failed

end Proc17.Runtime.Birth
