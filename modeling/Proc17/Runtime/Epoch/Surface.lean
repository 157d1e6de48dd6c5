import Proc17.Core.Digest
import Proc17.Core.Topology

/-!
# The authority surface

The edges of `runtime/edge_catalog.lua` with their legal directions, and the surface
built from them, which is named by its digest.
-/

namespace Proc17.Runtime.Epoch

open Lua Core

def instrumentError (code : String) (extra : List (String × Value)) : Failure :=
  .refused (.record ([("class", .text "instrument_contract"), ("code", .text code),
    ("stage", .text "authority_epoch")] ++ extra))

/-- `exact_keys`: the keys of a table are the allowed names, all of them present but the
optional ones. -/
def exactNames (value : Value) (allowed optional : List String) : Bool :=
  value.isTable && value.keys.all (fun key => allowed.any fun name => key = .text name)
    && allowed.all fun name => optional.contains name || value.get name ≠ .nil

/-- `sorted_unique`, which gives nothing for an empty text or one that occurs twice. -/
def sortedUnique (items : List Value) : Option (List Bytes) := do
  let texts ← items.mapM fun item =>
    match item with
    | .str (b :: rest) => some (b :: rest)
    | _ => none
  if texts.Nodup then some (texts.insertionSort Json.TextLe) else none

def texts (items : List Bytes) : Value := .array (items.map .str)

/-! ## The catalog -/

structure Definition where
  id : String
  left : Operator
  right : Operator
  directions : List (Operator × Operator)

def both (left right : Operator) : List (Operator × Operator) := [(left, right), (right, left)]

def direction (pair : Operator × Operator) : String :=
  Topology.glyph pair.1 ++ "->" ++ Topology.glyph pair.2

def oneWay (id : String) (left right : Operator) : Definition := ⟨id, left, right, [(left, right)]⟩

def twoWay (id : String) (left right : Operator) : Definition := ⟨id, left, right, both left right⟩

def definitions : List Definition := [
  oneWay "E01" .flow .connect,
  oneWay "E02" .flow .dissolve,
  oneWay "E03" .flow .observe,
  twoWay "E04" .connect .dissolve,
  twoWay "E05" .connect .observe,
  twoWay "E06" .connect .encode,
  twoWay "E07" .dissolve .observe,
  twoWay "E08" .dissolve .choose,
  twoWay "E09" .observe .encode,
  twoWay "E10" .observe .choose,
  twoWay "E11" .observe .runtime,
  twoWay "E12" .encode .runtime,
  twoWay "E13" .encode .choose,
  twoWay "E14" .encode .cycle,
  twoWay "E15" .choose .runtime,
  twoWay "E16" .choose .logic,
  twoWay "E17" .runtime .logic,
  twoWay "E18" .runtime .cycle,
  twoWay "E19" .cycle .logic,
  oneWay "E20" .runtime .manifest,
  oneWay "E21" .cycle .manifest,
  oneWay "E22" .logic .manifest]

/-- `edge_catalog.edge`: the two glyphs, in the order of the topology. -/
def edge (left right : Operator) : String :=
  if Topology.order.idxOf left ≤ Topology.order.idxOf right then
    Topology.glyph left ++ "-" ++ Topology.glyph right
  else Topology.glyph right ++ "-" ++ Topology.glyph left

def oneWayDirections : List (String × (Operator × Operator)) :=
  [("E01", (.flow, .connect)), ("E02", (.flow, .dissolve)), ("E03", (.flow, .observe)),
    ("E20", (.runtime, .manifest)), ("E21", (.cycle, .manifest)), ("E22", (.logic, .manifest))]

/-! ## The surface -/

def surfaceError : Failure := instrumentError "authority_surface_mismatch" []

def directionsOf (definition : Definition) : Except Failure (List Bytes) := do
  require (Topology.isAdjacent definition.left definition.right = true
    ∧ Topology.isAdjacent definition.right definition.left = true) surfaceError
  match sortedUnique (definition.directions.map fun pair => .text (direction pair)) with
  | none => .error surfaceError
  | some sorted => do
      match oneWayDirections.find? fun entry => entry.1 = definition.id with
      | some (_, pair) => require (sorted = [utf8 (direction pair)]) surfaceError
      | none =>
        require (sortedUnique ((both definition.left definition.right).map fun pair =>
          .text (direction pair)) = some sorted) surfaceError
      require (∀ pair ∈ definition.directions,
        pair ∈ both definition.left definition.right) surfaceError
      pure sorted

def edgeTable (definition : Definition) (directions : List Bytes) : Value :=
  .record [("edge_id", .text definition.id), ("left", Topology.value definition.left),
    ("right", Topology.value definition.right), ("legal_directions", texts directions)]

def surfaceSeed (edges : List Value) (directionCount : Nat) : List (String × Value) :=
  [("kind", .text "operator_tree_authority_surface"),
    ("protocol_version", .text "operator-tree.authority-surface.v0"),
    ("topology_version", .text "processlang.topology.v0"),
    ("catalog_version", .text "edge-catalog.v0"), ("edges", .array edges),
    ("edge_count", .nat edges.length), ("legal_direction_count", .nat directionCount)]

def authoritySurface : Except Failure Value := do
  require ((definitions.map Definition.id).Nodup
    ∧ (definitions.map fun d => edge d.left d.right).Nodup) surfaceError
  let directions ← definitions.mapM directionsOf
  require (directions.flatten.Nodup) surfaceError
  require (definitions.length = 22 ∧ directions.flatten.length = 38) surfaceError
  let edges := List.zipWith edgeTable definitions directions
  let seed := surfaceSeed edges directions.flatten.length
  let digest ← Digest.record (.record seed)
  pure (.record (seed ++ [("event_truth_status", .text "runtime_confirmed"),
    ("surface_id", .str (utf8 "sha256:" ++ digest))]))

end Proc17.Runtime.Epoch
