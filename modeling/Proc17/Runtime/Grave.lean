import Proc17.Lua.Call

/-!
# Graves

`runtime/grave.lua`: what is kept of a dead Packet, as a warning, a bequest or a neutral record.
-/

namespace Proc17.Runtime.Grave

open Lua

/-- What `normalize` reads of a dead Packet. -/
structure Normalized where
  packetId : Value
  status : Value
  terminal : Value
  death : Value
  residue : Value
  traceTail : Value

/-- `a or b` over fields, the last one as it is. -/
def firstOf : List (Value × String) → Except Failure Value
  | [] => .ok .nil
  | (value, name) :: rest => do
      let field ← value.index name
      if field.truthy || rest.isEmpty then pure field else firstOf rest

def normalize (input : Value) : Except Failure Normalized := do
  require (input.isTable = true) (refuse "grave input must be table")
  let residue := (input.get "residue").orElse .emptyTable
  let traceTail := (input.get "trace_tail").orElse .emptyTable
  if input.get "kind" = .text "inherited_packet_residue" then
    pure
      { packetId := input.get "source_packet_id"
        status := input.get "source_status"
        terminal := input.get "source_terminal"
        death := input.get "source_death"
        residue := residue
        traceTail := traceTail }
  else if input.get "kind" = .text "packet_memory_capsule" then
    pure
      { packetId := input.get "packet_id"
        status := input.get "status"
        terminal := input.get "terminal"
        death := input.get "death"
        residue := residue
        traceTail := traceTail }
  else
    pure
      { packetId := ((input.get "id").orElse (input.get "packet_id")).orElse
          (input.get "source_packet_id")
        status := (input.get "status").orElse (input.get "source_status")
        terminal := (input.get "terminal").orElse (input.get "source_terminal")
        death := (input.get "death").orElse (input.get "source_death")
        residue := residue
        traceTail := traceTail }

def numberGtZero : Value → Bool
  | .num n => Number.lt (.int 0) n
  | _ => false

def hasProgress (residue : Value) : Except Failure Bool := do
  let bequest ← residue.index "bequest"
  let done ← residue.index "done_count"
  let completed ← residue.index "completed_work_count"
  let progress ← residue.index "progress"
  pure (decide (bequest = .bool true) || numberGtZero done || numberGtZero completed
    || (progress.isTable && numberGtZero (progress.get "done_count")))

def copyArray (source : Value) : Value :=
  match source.ipairs with
  | .ok items => if source.isTable then .array (items.map Value.deepCopy) else .emptyTable
  | .error _ => .emptyTable

def baseFields (input : Normalized) (graveKind : String) : List (String × Value) :=
  [("kind", .text "grave"), ("grave_kind", .text graveKind),
    ("source_packet_id", input.packetId), ("source_status", input.status),
    ("terminal", input.terminal.deepCopy), ("death_cause", input.death.get "cause"),
    ("death", input.death.deepCopy), ("residue", input.residue.deepCopy),
    ("trace_tail", copyArray input.traceTail), ("death_truth_status", .text "runtime_confirmed"),
    ("applicability_truth_status", .text "grave_pressure")]

def warningRecord (input : Normalized) : Except Failure Value := do
  let doNotRepeat ← input.residue.index "do_not_repeat"
  let lastOperator ← input.residue.index "last_operator"
  pure (.record (baseFields input "warning" ++
    [("warning", .record
      [("do_not_repeat", doNotRepeat),
        ("pattern", .record
          [("last_operator", lastOperator), ("do_not_repeat", doNotRepeat),
            ("death_cause", input.death.get "cause")])])]))

def bequestRecord (input : Normalized) : Except Failure Value := do
  let remaining ← input.residue.index "remaining_work_count"
  let progress ← input.residue.index "progress"
  pure (.record (baseFields input "bequest" ++
    [("bequest", .record
      [("remaining_work_count", remaining), ("progress", progress.deepCopy),
        ("trace_tail", copyArray input.traceTail)])]))

def neutralRecord (input : Normalized) : Value := .record (baseFields input "neutral")

/-- `residue.do_not_repeat ~= nil` decides between a warning and a neutral record. -/
def byRepeat (input : Normalized) : Except Failure Value := do
  let doNotRepeat ← input.residue.index "do_not_repeat"
  if doNotRepeat ≠ .nil then warningRecord input else pure (neutralRecord input)

def classify (input : Value) : Except Failure Value := do
  let normalized ← normalize input
  let cause := normalized.death.get "cause"
  require (normalized.death.isTable = true ∧ cause ≠ .nil)
    (refuse "grave classification requires death")
  if cause = .text "identity_loss" then warningRecord normalized
  else if cause = .text "budget_exhausted" then do
    let progressed ← hasProgress normalized.residue
    if progressed then bequestRecord normalized else warningRecord normalized
  else if cause = .text "complete" then pure (neutralRecord normalized)
  else byRepeat normalized

end Proc17.Runtime.Grave
