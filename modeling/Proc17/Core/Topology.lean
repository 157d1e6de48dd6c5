import Proc17.Lua.Value

/-!
# Operator topology

The ten operators of `core/topology.lua`, their glyphs, names and neighbours.
-/

namespace Proc17.Core

open Lua

inductive Operator where
  | flow
  | connect
  | dissolve
  | encode
  | choose
  | observe
  | cycle
  | logic
  | runtime
  | manifest
  deriving DecidableEq

instance : LawfulBEq (Operator × Operator) := inferInstance

namespace Topology

def order : List Operator :=
  [.flow, .connect, .dissolve, .encode, .choose, .observe, .cycle, .logic, .runtime, .manifest]

def glyph : Operator → String
  | .flow => "▽"
  | .connect => "☰"
  | .dissolve => "☷"
  | .encode => "☵"
  | .choose => "☳"
  | .observe => "☴"
  | .cycle => "☲"
  | .logic => "☶"
  | .runtime => "☱"
  | .manifest => "△"

def name : Operator → String
  | .flow => "FLOW"
  | .connect => "CONNECT"
  | .dissolve => "DISSOLVE"
  | .encode => "ENCODE"
  | .choose => "CHOOSE"
  | .observe => "OBSERVE"
  | .cycle => "CYCLE"
  | .logic => "LOGIC"
  | .runtime => "RUNTIME"
  | .manifest => "MANIFEST"

def adjacent : Operator → List Operator
  | .flow => [.connect, .dissolve, .observe]
  | .connect => [.flow, .dissolve, .observe, .encode]
  | .dissolve => [.flow, .connect, .observe, .choose]
  | .encode => [.connect, .observe, .runtime, .choose, .cycle]
  | .choose => [.dissolve, .observe, .runtime, .encode, .logic]
  | .observe => [.flow, .connect, .dissolve, .encode, .choose, .runtime]
  | .cycle => [.encode, .logic, .manifest, .runtime]
  | .logic => [.choose, .cycle, .runtime, .manifest]
  | .runtime => [.observe, .manifest, .encode, .choose, .logic, .cycle]
  | .manifest => [.runtime, .cycle, .logic]

def value (op : Operator) : Value := .text (glyph op)

theorem mem_order (op : Operator) : op ∈ order := by
  cases op <;> decide

theorem glyph_injective (a b : Operator) (same : glyph a = glyph b) : a = b := by
  cases a <;> cases b <;> first | rfl | (simp [glyph] at same)

theorem value_injective (a b : Operator) (same : value a = value b) : a = b := by
  apply glyph_injective
  simpa [value] using same

/-- `topology.resolve`: a glyph, or the name of one. -/
def resolve (v : Value) : Option Operator :=
  match Value.parse order glyph v with
  | some op => some op
  | none => Value.parse order name v

@[simp] theorem resolve_value (op : Operator) : resolve (value op) = some op := by
  simp [resolve, value, Value.parse_text glyph_injective op (mem_order op)]

/-- `topology.is_adjacent` on resolved operators. -/
def isAdjacent (left right : Operator) : Bool := (adjacent left).contains right

end Topology

end Proc17.Core
