import Proc17.Runtime.Epoch.Surface

/-!
# Policy descriptors

`pressure.describe` and `tree_router.describe` read from an option table what decides a
route: the pressure policy, the consumers switched off, the threshold and the fallback.
The descriptors they give are checked again by `verify_descriptor`.
-/

namespace Proc17.Runtime.Epoch

open Lua Core

/-! ## Pressure -/

inductive PressurePolicy where
  | cameraReconciliation
  | sampled
  | qualifiedNeed
  deriving DecidableEq

def PressurePolicy.name : PressurePolicy → String
  | .cameraReconciliation => "camera_reconciliation"
  | .sampled => "sampled"
  | .qualifiedNeed => "qualified_need_v0"

def PressurePolicy.all : List PressurePolicy := [.cameraReconciliation, .sampled, .qualifiedNeed]

def PressurePolicy.qualified (policy : PressurePolicy) : Bool := policy = .qualifiedNeed

/-- `ablation_keys`: the consumers that an option can switch off. -/
inductive Consumer where
  | relation
  | form
  | choice
  | planCompletion
  | planDelivery
  | repositoryReview
  | repositoryEffect
  | repositoryReconcile
  | repositoryDelivery
  deriving DecidableEq

namespace Consumer

def all : List Consumer := [.relation, .form, .choice, .planCompletion, .planDelivery,
  .repositoryReview, .repositoryEffect, .repositoryReconcile, .repositoryDelivery]

def key : Consumer → String
  | .relation => "relation_consumer"
  | .form => "structure_consumer"
  | .choice => "choice_consumer"
  | .planCompletion => "plan_completion_consumer"
  | .planDelivery => "plan_delivery_consumer"
  | .repositoryReview => "repository_review"
  | .repositoryEffect => "repository_effect"
  | .repositoryReconcile => "repository_reconcile"
  | .repositoryDelivery => "repository_delivery"

/-- The option of `ablation_aliases` for a consumer. -/
def option (consumer : Consumer) : String := "ablate_" ++ consumer.key

theorem mem_all (consumer : Consumer) : consumer ∈ all := by
  cases consumer <;> decide

end Consumer

def isKnownAblationOption (key : Value) : Bool :=
  Consumer.all.any fun consumer => key = .text consumer.option

def isAblationOption : Value → Bool
  | .str s => (utf8 "ablate_").isPrefixOf s
  | _ => false

def scanUnknownAblation (options : Value) : Except Failure Unit :=
  match options.keys.find? fun key => isAblationOption key && !isKnownAblationOption key with
  | some key => .error (instrumentError "unknown_policy_affecting_option" [("option", key)])
  | none => .ok ()

structure PressureDescriptor where
  policy : PressurePolicy
  ablated : Consumer → Bool
  unused : List Bytes

def PressurePolicy.protocol (policy : PressurePolicy) : List (String × Value) :=
  let choose := fun (qualified other : String) =>
    Value.text (if policy.qualified then qualified else other)
  [("pressure_derivation_version", choose "pressure.qualified_need.v0" "pressure.binary.v0"),
    ("pressure_calibration_status", choose "unmeasured_qualified" "vibed_control"),
    ("witness_protocol", choose "pressure.witness.v1" "none"),
    ("witness_gate_version", choose "object-version-coverage.v0" "none"),
    ("action_protocol", choose "pressure.action_plan.v0" "none")]

def ablationVector (ablated : Consumer → Bool) : Value :=
  .record (Consumer.all.map fun consumer => (consumer.key, .bool (ablated consumer)))

def PressureDescriptor.compact (d : PressureDescriptor) : List (String × Value) :=
  [("kind", .text "pressure_policy_descriptor"),
    ("protocol_version", .text "pressure-policy-descriptor.v0"),
    ("pressure_policy", .text d.policy.name)] ++ d.policy.protocol ++
    [("ablation_vector", ablationVector d.ablated),
      ("event_truth_status", .text "runtime_confirmed")]

def PressureDescriptor.toValue (d : PressureDescriptor) : Value :=
  .record (d.compact ++ [("unused_options", texts d.unused)])

def switchOf (options : Value) (consumer : Consumer) : Except Failure Unit :=
  match options.get consumer.option with
  | .nil | .bool _ => .ok ()
  | _ => .error (instrumentError "invalid_policy_option" [("option", .text consumer.option)])

def describePressure (options : Value) : Except Failure PressureDescriptor := do
  scanUnknownAblation options
  let given := (options.get "pressure_policy").orElse (.text "camera_reconciliation")
  match Value.parse PressurePolicy.all PressurePolicy.name given with
  | none => .error (instrumentError "invalid_pressure_policy" [("pressure_policy", given)])
  | some policy =>
    if policy.qualified then do
      Consumer.all.forM (switchOf options)
      pure ⟨policy, fun consumer => options.get consumer.option = .bool true, []⟩
    else
      let unused := Consumer.all.filter fun consumer => options.get consumer.option ≠ .nil
      pure ⟨policy, fun _ => false,
        (unused.map fun consumer => utf8 consumer.option).insertionSort Json.TextLe⟩

def descriptorNames : List String :=
  ["kind", "protocol_version", "pressure_policy", "pressure_derivation_version",
    "pressure_calibration_status", "witness_protocol", "witness_gate_version", "action_protocol",
    "ablation_vector", "unused_options", "event_truth_status"]

def pressureDescriptorError : Failure := instrumentError "invalid_pressure_policy_descriptor" []

def verifyPressureDescriptor (value : Value) (compact : Bool) : Except Failure Unit := do
  require (exactNames value descriptorNames (if compact then ["unused_options"] else []) = true
    ∧ value.get "kind" = .text "pressure_policy_descriptor"
    ∧ value.get "protocol_version" = .text "pressure-policy-descriptor.v0"
    ∧ value.get "event_truth_status" = .text "runtime_confirmed") pressureDescriptorError
  let vector := value.get "ablation_vector"
  require (exactNames vector (Consumer.all.map Consumer.key) [] = true
    ∧ ∀ consumer ∈ Consumer.all,
      vector.get consumer.key = .bool true ∨ vector.get consumer.key = .bool false)
    pressureDescriptorError
  let unused := (value.get "unused_options").orElse .emptyTable
  let items ← unused.ipairs
  match sortedUnique items with
  | none => .error pressureDescriptorError
  | some sorted => do
      let plain ← Json.same unused (texts sorted)
      require (plain = true) pressureDescriptorError
      match Value.parse PressurePolicy.all PressurePolicy.name (value.get "pressure_policy") with
      | none => .error pressureDescriptorError
      | some policy => do
          require (∀ field ∈ policy.protocol, value.get field.1 = field.2) pressureDescriptorError
          if policy.qualified then require (items.length = 0) pressureDescriptorError
          else do
            let unablated ← Json.same vector (ablationVector fun _ => false)
            require (unablated = true) pressureDescriptorError
            require (∀ item ∈ items, isKnownAblationOption item = true) pressureDescriptorError

/-! ## The tree router -/

structure TreeDescriptor where
  pressure : PressureDescriptor
  threshold : Number
  allowControlFallback : Bool

def PressurePolicy.routing (policy : PressurePolicy) : String × String :=
  if policy.qualified then ("pressure.class_order.v0", "shadow_treatment")
  else ("pressure.binary.v0", "vibed_control")

def TreeDescriptor.fields (d : TreeDescriptor) : List (String × Value) :=
  [("kind", .text "tree_policy_descriptor"),
    ("protocol_version", .text "tree-policy-descriptor.v0"),
    ("pressure", .record d.pressure.compact),
    ("routing_policy", .text d.pressure.policy.routing.1),
    ("routing_policy_status", .text d.pressure.policy.routing.2),
    ("policy_parameters", .record [("movement_threshold", .num d.threshold),
      ("allow_control_fallback", .bool d.allowControlFallback)]),
    ("event_truth_status", .text "runtime_confirmed")]

def TreeDescriptor.toValue (d : TreeDescriptor) : Value := .record d.fields

def treeOptionError (option : String) : Failure :=
  instrumentError "invalid_tree_policy_option" [("option", .text option)]

def thresholdOf (treeOptions : Value) : Except Failure Number :=
  match treeOptions.get "threshold" with
  | .nil => .ok (.int 0)
  | .num n => if n.isFinite then .ok n else .error (treeOptionError "threshold")
  | _ => .error (treeOptionError "threshold")

def isSwitch : Value → Bool
  | .nil | .bool _ => true
  | _ => false

def describeTree (pressure : PressureDescriptor) (treeOptions : Value) :
    Except Failure TreeDescriptor := do
  verifyPressureDescriptor pressure.toValue false
  require (treeOptions = .nil ∨ treeOptions.isTable = true)
    (instrumentError "invalid_tree_policy_options" [])
  let threshold ← thresholdOf treeOptions
  let fallback := treeOptions.get "allow_control_fallback"
  require (isSwitch fallback = true) (treeOptionError "allow_control_fallback")
  let named := treeOptions.get "policy"
  require (pressure.policy.qualified = false ∨ named = .nil
    ∨ named = .text pressure.policy.routing.1) (treeOptionError "policy")
  pure ⟨pressure, threshold, fallback = .bool true⟩

def isFiniteNumber : Value → Bool
  | .num n => n.isFinite
  | _ => false

def isBoolean : Value → Bool
  | .bool _ => true
  | _ => false

def treeDescriptorNames : List String :=
  ["kind", "protocol_version", "pressure", "routing_policy", "routing_policy_status",
    "policy_parameters", "event_truth_status"]

def verifyTreeDescriptor (value : Value) : Except Failure Unit := do
  let invalid := instrumentError "invalid_tree_policy_descriptor" []
  let parameters := value.get "policy_parameters"
  require (exactNames value treeDescriptorNames [] = true
    ∧ value.get "kind" = .text "tree_policy_descriptor"
    ∧ value.get "protocol_version" = .text "tree-policy-descriptor.v0"
    ∧ value.get "event_truth_status" = .text "runtime_confirmed"
    ∧ exactNames parameters ["movement_threshold", "allow_control_fallback"] [] = true
    ∧ isFiniteNumber (parameters.get "movement_threshold") = true
    ∧ isBoolean (parameters.get "allow_control_fallback") = true) invalid
  let pressure := value.get "pressure"
  verifyPressureDescriptor pressure true
  let policy := (Value.parse PressurePolicy.all PressurePolicy.name
    (pressure.get "pressure_policy")).getD .cameraReconciliation
  require (value.get "routing_policy" = .text policy.routing.1
    ∧ value.get "routing_policy_status" = .text policy.routing.2) invalid

/-! ## The historical policy -/

def legacyDescriptor : Value :=
  .record [("kind", .text "legacy_policy_descriptor"),
    ("protocol_version", .text "legacy-policy-descriptor.v0"),
    ("routing_policy", .text "legacy.control.v0"),
    ("routing_policy_status", .text "historical_control"),
    ("event_truth_status", .text "runtime_confirmed")]

end Proc17.Runtime.Epoch
