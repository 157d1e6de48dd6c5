import Proc17.Runtime.Repository.Inventory

/-!
# QA schema

The parts of `core/qa_schema.lua` that a QA execution rests on: tagged digests, the hard
resource limits, and structural equality.
-/

namespace Proc17.Runtime.Qa

open Lua Core Runtime.Repository List

def profileId : Value := .text "qa.profile.lua54_test_suite.v0"

def providerId : Value := .text "linux.qa_supervisor.lua54.v0"

def supervisorAbi : Value := .text "proc17.qa_supervisor.v0"

def runtimeHeapLimitBytes : Value := .nat 67108864

/-- `raw == "x"`, one of the names, or `raw[key]` in a set of names. -/
def isOneOf (names : List String) (value : Value) : Bool :=
  names.any fun name => value = .text name

def isLowerHex (b : UInt8) : Bool := Number.isDigit b || (97 ≤ b && b ≤ 102)

def taggedDigest (value : Value) (tag : String) : Bool :=
  match value with
  | .str s =>
    s.length = (utf8 tag).length + 64 && s.take (utf8 tag).length = utf8 tag
      && (s.drop (utf8 tag).length).all isLowerHex
  | _ => false

theorem hexDigit_isLowerHex (n : Nat) (small : n < 16) :
    isLowerHex (Json.hexDigit n) = true := by
  revert n
  decide

theorem hexWord_isLowerHex (word : Nat) : (Digest.hexWord word).all isLowerHex = true := by
  rw [all_eq_true]
  intro b member
  obtain ⟨byte, _, digit⟩ := mem_flatMap.mp member
  have bound : byte.toNat < 256 := byte.toNat_lt
  rcases mem_pair.mp digit with rfl | rfl
  · exact hexDigit_isLowerHex _ (by omega)
  · exact hexDigit_isLowerHex _ (by omega)

theorem sha256_length (text : Bytes) : (Digest.sha256 text).length = 64 := rfl

theorem sha256_isLowerHex (text : Bytes) : (Digest.sha256 text).all isLowerHex = true := by
  rw [all_eq_true]
  intro b member
  obtain ⟨word, _, digit⟩ := mem_flatMap.mp member
  exact all_eq_true.mp (hexWord_isLowerHex word) b digit

theorem taggedDigest_append (tag : String) (digest : Bytes) (length : digest.length = 64)
    (hex : digest.all isLowerHex = true) :
    taggedDigest (.str (utf8 tag ++ digest)) tag = true := by
  simp [taggedDigest, length, hex]

/-- `exact_keys` with optional names. -/
def exactRecord (value : Value) (names : List String) (label : String)
    (optional : List String) : Except Failure Unit :=
  exactKeys value names (names.filter (· ∉ optional)) label

/-! ## Structural equality -/

abbrev Met := List (Nat × Nat)

/-- Whether a table met again stands opposite the table it stood opposite before.  A table
built by the modelled code is met once. -/
def Met.again (met : Met) (left right : Tag) : Option Bool :=
  if left.addr = 0 then none
  else (met.find? fun pair => pair.1 = left.addr).map fun pair =>
    right.addr ≠ 0 && pair.2 = right.addr

def coversKeys (left right : List (Value × Value)) : Bool :=
  right.all fun entry => Value.lookup left entry.1 ≠ .nil

mutual
/-- `same_value`: the pairs met, or nothing when the values differ. -/
def sameWalk (met : Met) : Value → Value → Option Met
  | .table s xs, .table t ys =>
    match met.again s t with
    | some true => some met
    | some false => none
    | none =>
      match sameEntriesWalk ((s.addr, t.addr) :: met) xs ys with
      | some met => if coversKeys xs ys then some met else none
      | none => none
  | .nil, right => if right = .nil then some met else none
  | .bool a, right => if (Value.bool a).eq right then some met else none
  | .num a, right => if (Value.num a).eq right then some met else none
  | .str a, right => if (Value.str a).eq right then some met else none
  | .ref k a, right => if (Value.ref k a).eq right then some met else none
  | .table _ _, _ => none

def sameEntriesWalk (met : Met) :
    List (Value × Value) → List (Value × Value) → Option Met
  | [], _ => some met
  | entry :: rest, ys =>
    match sameEntryWalk met entry ys with
    | some met => sameEntriesWalk met rest ys
    | none => none

def sameEntryWalk (met : Met) : Value × Value → List (Value × Value) → Option Met
  | (key, value), ys => sameWalk met value (Value.lookup ys key)
end

def same (left right : Value) : Bool := (sameWalk [] left right).isSome

/-! ## Resource limits -/

def limitCeilings : List (String × Int) :=
  [("wall_time_ms", 30000), ("cpu_time_ms", 20000), ("address_space_bytes", 268435456),
    ("max_processes", 1), ("max_open_files", 64), ("max_file_bytes", 16777216),
    ("scratch_bytes", 67108864), ("scratch_entries", 4096), ("stdout_bytes", 1048576),
    ("stderr_bytes", 1048576)]

def hardLimits : Value :=
  .record (("protocol_version", .text "qa.resource_limits.v0") ::
    limitCeilings.map fun limit => (limit.1, .num (.int limit.2)))

mutual
/-- `validate_plain_tree` of a value that is no table is left to its caller. -/
def plainTree (name : String) : Value → Except Failure Unit
  | .table tag entries =>
    if tag.metatable then .error (refuse (name ++ " must not have a metatable"))
    else plainEntries name entries
  | _ => .error (refuse (name ++ " must be a plain table"))

def plainEntries (name : String) : List (Value × Value) → Except Failure Unit
  | [] => .ok ()
  | entry :: rest => do
      plainEntry name entry
      plainEntries name rest

def plainEntry (name : String) : Value × Value → Except Failure Unit
  | (key, child) =>
    match key with
    | .str _ | .num _ => plainChild name child
    | _ => .error (refuse (name ++ " contains an unsupported key type"))

def plainChild (name : String) : Value → Except Failure Unit
  | .table tag entries =>
    if tag.metatable then .error (refuse (name ++ " must not have a metatable"))
    else plainEntries name entries
  | .str _ | .num _ | .bool _ => .ok ()
  | _ => .error (refuse (name ++ " contains an unsupported value type"))
end

/-- `n % 1000 == 0` for an integral number. -/
def isThousands : Value → Bool
  | .num (.int i) => i % 1000 = 0
  | .num (.float x) => Number.floorInt x % 1000 = 0
  | _ => false

def requireLimit (input : Value) (limit : String × Int) : Except Failure Unit := do
  let n ← positiveInteger (input.get limit.1) ("QA limit " ++ limit.1)
  require (Number.lt (.int limit.2) n = false)
    (refuse ("QA limit exceeds hard profile ceiling: " ++ limit.1))

def normalizeLimits (input : Value) : Except Failure Value := do
  plainTree "QA resource limits" input
  exactRecord input ("protocol_version" :: limitCeilings.map Prod.fst) "QA resource limits" []
  require (input.get "protocol_version" = .text "qa.resource_limits.v0")
    (refuse "unsupported QA resource limits protocol")
  limitCeilings.forM (requireLimit input)
  require ((input.get "max_processes").eq (.nat 1) = true)
    (refuse "QA max_processes must be exactly one")
  require (isThousands (input.get "cpu_time_ms") = true)
    (refuse "QA cpu_time_ms must be a positive multiple of 1000")
  pure (.record (("protocol_version", .text "qa.resource_limits.v0") ::
    limitCeilings.map fun limit => (limit.1, input.get limit.1)))

end Proc17.Runtime.Qa
