import Proc17.Runtime.Epoch.Descriptors

/-!
# Authority epochs

`authority_epoch.resolve`: the record of what moves a life, what watches it and how the
instruments are bounded, under two identities that are digests of the record's parts.
`authority_epoch.verify` reads the record again.
-/

namespace Proc17.Runtime.Epoch

open Lua Core

/-! ## Bounds of the instruments -/

inductive Bound where
  | sourceRecords
  | singleSourceBytes
  | sourceBytesPerLife
  | projectionBytes
  | errorRecords
  deriving DecidableEq

namespace Bound

def all : List Bound :=
  [.sourceRecords, .singleSourceBytes, .sourceBytesPerLife, .projectionBytes, .errorRecords]

theorem mem_all (bound : Bound) : bound ∈ all := by
  cases bound <;> decide

def key : Bound → String
  | .sourceRecords => "max_source_records"
  | .singleSourceBytes => "max_single_source_bytes"
  | .sourceBytesPerLife => "max_source_bytes_per_life"
  | .projectionBytes => "max_projection_bytes"
  | .errorRecords => "max_error_records"

/-- `default_bounds` -/
def default : Bound → Number
  | .sourceRecords => .int 4096
  | .singleSourceBytes => .int (2 * 1024 * 1024)
  | .sourceBytesPerLife => .int (32 * 1024 * 1024)
  | .projectionBytes => .int (16 * 1024 * 1024)
  | .errorRecords => .int 256

end Bound

def isPositiveInteger : Value → Bool
  | .num n => n.isFinite && Number.lt (.int 0) n && n.isIntegral
  | _ => false

def boundError (extra : List (String × Value)) : Failure :=
  instrumentError "invalid_authority_instrument_bounds" extra

def boundOf (configured : Value) (bound : Bound) : Except Failure Number :=
  match configured.get bound.key with
  | .nil => .ok bound.default
  | .num n =>
    if isPositiveInteger (.num n) then .ok n
    else .error (boundError [("option", .text bound.key)])
  | _ => .error (boundError [("option", .text bound.key)])

abbrev Bounds : Type := Bound → Number

def Bounds.fields (bounds : Bounds) : List (String × Value) :=
  [("kind", .text "authority_instrument_bounds"),
    ("protocol_version", .text "authority-instrument-bounds.v0"),
    ("calibration_status", .text "unmeasured_safety_control")] ++
    Bound.all.map fun bound => (bound.key, .num (bounds bound))

def Bounds.toValue (bounds : Bounds) : Value := .record bounds.fields

def normalizeBounds (configured : Value) : Except Failure Bounds := do
  require (configured = .nil ∨ configured.isTable = true) (boundError [])
  match configured.keys.find? fun key => !(Bound.all.any fun bound => key = .text bound.key) with
  | some key => .error (boundError [("option", key)])
  | none => do
      let records ← boundOf configured .sourceRecords
      let single ← boundOf configured .singleSourceBytes
      let source ← boundOf configured .sourceBytesPerLife
      let projection ← boundOf configured .projectionBytes
      let errors ← boundOf configured .errorRecords
      pure fun
        | .sourceRecords => records
        | .singleSourceBytes => single
        | .sourceBytesPerLife => source
        | .projectionBytes => projection
        | .errorRecords => errors

def invalid (path : String) : Failure :=
  instrumentError "authority_epoch_invalid" [("path", .text path)]

def verifyBounds (value : Value) : Except Failure Unit := do
  require (exactNames value
      (["kind", "protocol_version", "calibration_status"] ++ Bound.all.map Bound.key) [] = true
    ∧ value.get "kind" = .text "authority_instrument_bounds"
    ∧ value.get "protocol_version" = .text "authority-instrument-bounds.v0"
    ∧ value.get "calibration_status" = .text "unmeasured_safety_control")
    (invalid "instrumentation.bounds")
  Bound.all.forM fun bound =>
    require (isPositiveInteger (value.get bound.key) = true)
      (invalid ("instrumentation.bounds." ++ bound.key))

/-! ## Identities -/

def isTaggedHash : Value → Bool
  | .str s => s.length = 71 && (utf8 "sha256:").isPrefixOf s
      && (s.drop 7).all fun b => Number.isDigit b || (97 ≤ b && b ≤ 102)
  | _ => false

def taggedDigest (value : Value) : Except Failure Value := do
  let digest ← Digest.record value
  pure (.str (utf8 "sha256:" ++ digest))

def protocolVersion : Value := .text "authority_epoch.v0"

def physicsSeed (physics : Value) : Value :=
  .record [("protocol_version", protocolVersion), ("physics", physics.deepCopy)]

def evidenceSeed (physicsId configured instrumentation : Value) : Value :=
  .record [("protocol_version", protocolVersion), ("physics_epoch_id", physicsId),
    ("configured", configured.deepCopy), ("instrumentation", instrumentation.deepCopy)]

def epochIds (physics configured instrumentation : Value) : Except Failure (Value × Value) := do
  let physicsId ← taggedDigest (physicsSeed physics)
  let evidenceId ← taggedDigest (evidenceSeed physicsId configured instrumentation)
  pure (physicsId, evidenceId)

/-! ## What an option table settles -/

inductive Mode where
  | legacy
  | shadow
  | tree
  deriving DecidableEq

def Mode.name : Mode → String
  | .legacy => "legacy"
  | .shadow => "shadow"
  | .tree => "tree"

def Mode.all : List Mode := [.legacy, .shadow, .tree]

def Mode.owner (mode : Mode) : String := if mode = .tree then "tree" else "legacy_control"

/-- The mode with the tree policy that moves or watches, and whether the historical policy
watches the tree. -/
inductive Authority where
  | legacy
  | shadow (observer : TreeDescriptor)
  | tree (mover : TreeDescriptor) (watched : Bool)

namespace Authority

def mode : Authority → Mode
  | .legacy => .legacy
  | .shadow _ => .shadow
  | .tree _ _ => .tree

def livePolicy : Authority → Value
  | .tree mover _ => mover.toValue
  | _ => legacyDescriptor

def observerMode : Authority → String
  | .shadow _ => "tree_shadow"
  | .tree _ true => "legacy_shadow"
  | _ => "none"

def observerPolicy : Authority → Value
  | .shadow observer => observer.toValue
  | .tree _ true => legacyDescriptor
  | _ => .text "none"

def observed : Authority → Bool
  | .shadow _ => true
  | .tree _ watched => watched
  | .legacy => false

def observerProtocol (a : Authority) : String := if a.observed then "edge-observer.v0" else "none"

end Authority

structure Settings where
  authority : Authority
  bounds : Bounds

namespace Settings

def configured (s : Settings) : Value :=
  .record [("router_mode", .text s.authority.mode.name),
    ("configured_movement_owner", .text s.authority.mode.owner)]

def physics (s : Settings) (surfaceId : Value) : Value :=
  .record [("topology_version", .text "processlang.topology.v0"),
    ("authority_surface_id", surfaceId),
    ("operator_registry_version", .text "operator-registry.v0"),
    ("movement_owner", .text s.authority.mode.owner),
    ("live_policy", s.authority.livePolicy.deepCopy)]

def instrumentation (s : Settings) : Value :=
  .record [("router_mode", .text s.authority.mode.name),
    ("observer_mode", .text s.authority.observerMode),
    ("observer_enabled", .bool s.authority.observed),
    ("observer_policy", s.authority.observerPolicy.deepCopy),
    ("observer_protocol", .text s.authority.observerProtocol),
    ("edge_stats_protocol", .text "edge-stats.v3"), ("bounds", s.bounds.toValue)]

def record (s : Settings) (surfaceId physicsId evidenceId : Value) : Value :=
  .record [("kind", .text "authority_epoch"), ("protocol_version", protocolVersion),
    ("configured", s.configured), ("physics", s.physics surfaceId),
    ("instrumentation", s.instrumentation), ("event_truth_status", .text "runtime_confirmed"),
    ("physics_epoch_id", physicsId), ("evidence_epoch_id", evidenceId)]

end Settings

/-- `tree_descriptor`, with the options that the pressure policy leaves unused. -/
def treeDescriptor (options : Value) : Except Failure (TreeDescriptor × List Bytes) := do
  let pressure ← describePressure options
  let descriptor ← describeTree pressure (options.get "tree_router")
  pure (descriptor, pressure.unused)

/-- The authority that a mode and an option table give, with the unused options that the
tree's descriptor tells. -/
def authorityOf (options : Value) : Mode → Except Failure (Authority × List Bytes)
  | .legacy => .ok (.legacy, [])
  | .shadow => do
      let (descriptor, unused) ← treeDescriptor options
      pure (.shadow descriptor, unused)
  | .tree => do
      let (descriptor, unused) ← treeDescriptor options
      pure (.tree descriptor (options.get "legacy_shadow" ≠ .bool false), unused)

def modeOf (options : Value) : Except Failure Mode :=
  match Value.parse Mode.all Mode.name ((options.get "router_mode").orElse (.text "shadow")) with
  | some mode => .ok mode
  | none => .error (instrumentError "invalid_router_mode" [])

def legacyUnusedOptions (options : Value) : List Bytes :=
  let router := options.get "tree_router"
  (["pressure_policy"] ++ Consumer.all.map Consumer.option).filterMap (fun name =>
      if options.get name = .nil then none else some (utf8 name))
    ++ (if router = .nil then []
      else if router.keys = [] then [utf8 "tree_router"]
      else router.keys.map fun key => utf8 "tree_router." ++ key.tostring)
    ++ (if options.get "legacy_shadow" = .nil then [] else [utf8 "legacy_shadow"])

def unusedOptions (options : Value) (described : List Bytes) : Mode → List Bytes
  | .legacy => legacyUnusedOptions options
  | .shadow =>
    described ++ (if options.get "legacy_shadow" = .nil then [] else [utf8 "legacy_shadow"])
  | .tree => described

def diagnosticsOf (unused : List Bytes) : Value :=
  .record [("kind", .text "authority_epoch_diagnostics"),
    ("unused_options", texts (unused.dedup.insertionSort Json.TextLe)),
    ("event_truth_status", .text "runtime_confirmed")]

/-! ## Checking a record -/

def sameValue (left right : Value) : Bool :=
  match Json.same left right with
  | .ok same => same
  | .error _ => false

def verifyPolicyDescriptor (value : Value) (tree : Bool) : Except Failure Unit :=
  if tree then verifyTreeDescriptor value
  else
    require (exactNames value ["kind", "protocol_version", "routing_policy",
        "routing_policy_status", "event_truth_status"] [] = true
      ∧ sameValue value legacyDescriptor = true) (invalid "policy.legacy")

/-- `epoch.verify` from the observer on: how it is named follows from the mode. -/
def verifyObserver (instrumentation : Value) (mode : Mode) : Except Failure Unit := do
  let enabled := instrumentation.get "observer_enabled"
  let expected :=
    if mode = .shadow then "tree_shadow"
    else if mode = .tree ∧ enabled.truthy = true then "legacy_shadow" else "none"
  require (enabled = .bool (expected ≠ "none")
    ∧ instrumentation.get "observer_mode" = .text expected
    ∧ instrumentation.get "observer_protocol"
      = .text (if expected ≠ "none" then "edge-observer.v0" else "none"))
    (invalid "instrumentation.observer")
  if expected = "none" then
    require (instrumentation.get "observer_policy" = .text "none")
      (invalid "instrumentation.observer_policy")
  else verifyPolicyDescriptor (instrumentation.get "observer_policy") (expected = "tree_shadow")

def verify (record : Value) : Except Failure Unit := do
  require (exactNames record ["kind", "protocol_version", "configured", "physics",
      "instrumentation", "physics_epoch_id", "evidence_epoch_id", "event_truth_status"] [] = true
    ∧ record.get "kind" = .text "authority_epoch"
    ∧ record.get "protocol_version" = protocolVersion
    ∧ record.get "event_truth_status" = .text "runtime_confirmed"
    ∧ isTaggedHash (record.get "physics_epoch_id") = true
    ∧ isTaggedHash (record.get "evidence_epoch_id") = true) (invalid "record")
  let configured := record.get "configured"
  require (exactNames configured ["router_mode", "configured_movement_owner"] [] = true)
    (invalid "configured")
  match Value.parse Mode.all Mode.name (configured.get "router_mode") with
  | none => .error (invalid "configured.router_mode")
  | some mode => do
      require (configured.get "configured_movement_owner" = .text mode.owner)
        (invalid "configured.configured_movement_owner")
      let physics := record.get "physics"
      require (exactNames physics ["topology_version", "authority_surface_id",
          "operator_registry_version", "movement_owner", "live_policy"] [] = true
        ∧ physics.get "topology_version" = .text "processlang.topology.v0"
        ∧ physics.get "operator_registry_version" = .text "operator-registry.v0"
        ∧ physics.get "movement_owner" = .text mode.owner) (invalid "physics")
      let surface ← authoritySurface
      require (physics.get "authority_surface_id" = surface.get "surface_id") surfaceError
      verifyPolicyDescriptor (physics.get "live_policy") (mode = .tree)
      let instrumentation := record.get "instrumentation"
      require (exactNames instrumentation ["router_mode", "observer_mode", "observer_enabled",
          "observer_policy", "observer_protocol", "edge_stats_protocol", "bounds"] [] = true
        ∧ instrumentation.get "router_mode" = .text mode.name
        ∧ instrumentation.get "edge_stats_protocol" = .text "edge-stats.v3"
        ∧ isBoolean (instrumentation.get "observer_enabled") = true) (invalid "instrumentation")
      verifyBounds (instrumentation.get "bounds")
      verifyObserver instrumentation mode
      match epochIds physics configured instrumentation with
      | .error _ => .error (invalid "identity")
      | .ok (physicsId, evidenceId) =>
        require (record.get "physics_epoch_id" = physicsId
          ∧ record.get "evidence_epoch_id" = evidenceId) (invalid "identity")

/-! ## Resolving -/

def expectationError (extra : List (String × Value)) : Failure :=
  instrumentError "invalid_authority_epoch_expectation" extra

def identityNames : List String := ["physics_epoch_id", "evidence_epoch_id"]

def expectedIdentity (expected record : Value) (name : String) : Except Failure Unit :=
  require (expected.get name = .nil ∨ expected.get name = record.get name)
    (instrumentError "authority_epoch_expectation_mismatch"
      [("fatal_to_harness", .bool true), ("identity", .text name),
        ("expected", expected.get name), ("actual", record.get name)])

def expectedAssertion (expected record : Value) : Except Failure Unit :=
  match expected with
  | .nil => .ok ()
  | .table tag entries => do
      entries.forM fun entry =>
        require ((identityNames.any fun name => entry.1 = .text name) = true
          ∧ isTaggedHash entry.2 = true) (expectationError [("option", entry.1)])
      identityNames.forM (expectedIdentity (.table tag entries) record)
  | _ => .error (expectationError [])

def resolveTable (options : Value) : Except Failure (Value × Value) := do
  scanUnknownAblation options
  let mode ← modeOf options
  let surface ← authoritySurface
  let bounds ← normalizeBounds (options.get "authority_instrument_bounds")
  let (authority, described) ← authorityOf options mode
  let settings : Settings := ⟨authority, bounds⟩
  let surfaceId := surface.get "surface_id"
  match epochIds (settings.physics surfaceId) settings.configured settings.instrumentation with
  | .error (.refused err) =>
    .error (instrumentError "authority_epoch_digest_failure" [("detail", err)])
  | .error failure => .error failure
  | .ok (physicsId, evidenceId) => do
      let record := settings.record surfaceId physicsId evidenceId
      verify record
      expectedAssertion (options.get "expected_authority_epoch") record
      pure (record.deepCopy, diagnosticsOf (unusedOptions options described mode))

def resolve (options : Value) : Except Failure (Value × Value) :=
  match options with
  | .nil => resolveTable .emptyTable
  | .table tag entries => resolveTable (.table tag entries)
  | _ => .error (instrumentError "invalid_authority_epoch_options" [])

end Proc17.Runtime.Epoch
