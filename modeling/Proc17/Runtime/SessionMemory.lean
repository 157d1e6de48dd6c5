import Mathlib.Data.List.Sort
import Proc17.Runtime.Grave

/-!
# Session memory

`runtime/session_memory.lua`: the graves of a session, and the compost that keeps the oldest of
them as counted patterns.
-/

namespace Proc17.Runtime.SessionMemory

open Lua Proc17.Runtime

/-- The lists of `session.grave`. -/
inductive Group where
  | warnings
  | bequests
  | neutral
  deriving DecidableEq

/-- The position of `"bequests" < "neutral" < "warnings"`. -/
def Group.rank : Group → Nat
  | .bequests => 0
  | .neutral => 1
  | .warnings => 2

def groupOf (graveKind : Value) : Option Group :=
  if graveKind = .text "warning" then some .warnings
  else if graveKind = .text "bequest" then some .bequests
  else if graveKind = .text "neutral" then some .neutral
  else none

structure Pattern where
  key : Bytes
  graveKind : Value
  deathCause : Value
  lastOperator : Value
  doNotRepeat : Value
  count : Nat
  firstSeenAt : Value
  lastSeenAt : Value

/-- What `add_grave` and `compost` read and write of a session. -/
structure Session where
  graves : Group → List Value
  nextInsertId : Nat
  patterns : List Pattern
  updatedAt : Value

def create (now : Value) : Session :=
  { graves := fun _ => []
    nextInsertId := 1
    patterns := []
    updatedAt := now }

def freshCount (s : Session) : Nat :=
  (s.graves .warnings).length + (s.graves .bequests).length + (s.graves .neutral).length

/-! ## Adding a grave -/

/-- The record that `add_grave` stores, its insert id aside. -/
def graveRecord (input : Value) : Except Failure Value :=
  let record := input.deepCopy
  if record.get "kind" = .text "grave" then .ok record else Grave.classify input

def addGrave (s : Session) (input osTime : Value) : Reply Session Value :=
  let stored := do
    let record ← graveRecord input
    record.setField "grave_insert_id" (.nat s.nextInsertId)
  match stored with
  | .error failure => (.error failure, s)
  | .ok record =>
    let counted := { s with nextInsertId := s.nextInsertId + 1 }
    match groupOf (record.get "grave_kind") with
    | none => (.error (.refused (.str (utf8 "unknown grave kind: "
        ++ (record.get "grave_kind").tostring))), counted)
    | some group => (.ok record.deepCopy,
        { counted with
          graves := Function.update counted.graves group (counted.graves group ++ [record])
          updatedAt := osTime })

/-! ## Compost -/

/-- `compost_parts`, its key aside. -/
structure Parts where
  graveKind : Value
  deathCause : Value
  lastOperator : Value
  doNotRepeat : Value
  deriving DecidableEq

def patternLastOperator (record : Value) : Except Failure Value := do
  let warning ← record.index "warning"
  let pattern ← (warning.orElse .emptyTable).index "pattern"
  let residue ← record.index "residue"
  let death ← record.index "death"
  let fallback :=
    [(residue.orElse .emptyTable, "last_operator"), (death.orElse .emptyTable, "last_operator")]
  let named ← if record.get "grave_kind" = .text "warning"
    then Grave.firstOf ((pattern.orElse .emptyTable, "last_operator") :: fallback)
    else Grave.firstOf fallback
  pure (named.orElse (.text "unknown"))

def patternDoNotRepeat (record : Value) : Except Failure Value :=
  if record.get "grave_kind" ≠ .text "warning" then .ok .nil else do
    let warning ← record.index "warning"
    let pattern ← (warning.orElse .emptyTable).index "pattern"
    let residue ← record.index "residue"
    Grave.firstOf
      [(warning.orElse .emptyTable, "do_not_repeat"), (pattern.orElse .emptyTable, "do_not_repeat"),
        (residue.orElse .emptyTable, "do_not_repeat")]

def partsOf (record : Value) : Except Failure Parts := do
  let lastOperator ← patternLastOperator record
  let doNotRepeat ← patternDoNotRepeat record
  pure
    { graveKind := record.get "grave_kind"
      deathCause := record.get "death_cause"
      lastOperator := lastOperator
      doNotRepeat := doNotRepeat }

/-- `value or ""` as an item of `table.concat`. -/
def concatItem (value : Value) : Except Failure Bytes :=
  match value.orElse (.text "") with
  | .str s => .ok s
  | .num n => .ok (utf8 n.tostring)
  | _ => .error (raise "invalid value in table for 'concat'")

def patternKey (parts : Parts) : Except Failure Bytes := do
  let graveKind ← concatItem parts.graveKind
  let deathCause ← concatItem parts.deathCause
  let lastOperator ← concatItem parts.lastOperator
  let doNotRepeat ← concatItem parts.doNotRepeat
  pure (graveKind ++ utf8 "|" ++ deathCause ++ utf8 "|" ++ lastOperator ++ utf8 "|" ++ doNotRepeat)

def countIn (key : Bytes) (now : Value) : List Pattern → Option (List Pattern)
  | [] => none
  | pattern :: rest =>
    if pattern.key = key then
      some ({ pattern with count := pattern.count + 1, lastSeenAt := now } :: rest)
    else (countIn key now rest).map (pattern :: ·)

def newPattern (parts : Parts) (key : Bytes) (now : Value) : Pattern :=
  { key := key
    graveKind := parts.graveKind
    deathCause := parts.deathCause
    lastOperator := parts.lastOperator
    doNotRepeat := parts.doNotRepeat
    count := 1
    firstSeenAt := now
    lastSeenAt := now }

def mergePattern (patterns : List Pattern) (record now : Value) : Except Failure (List Pattern) := do
  let parts ← partsOf record
  let key ← patternKey parts
  match countIn key now patterns with
  | some counted => pure counted
  | none => pure (patterns ++ [newPattern parts key now])

structure Candidate where
  group : Group
  index : Nat
  record : Value
  insertId : Number

/-- `record.grave_insert_id`, or 0. -/
def insertIdOf (record : Value) : Number :=
  match record.get "grave_insert_id" with
  | .num n => n
  | _ => .int 0

def candidatesOf (s : Session) (group : Group) : List Candidate :=
  (s.graves group).zipIdx.map fun (record, i) =>
    { group := group, index := i + 1, record := record, insertId := insertIdOf record }

/-- The order of `collect_fresh_graves`. -/
def older (left right : Candidate) : Bool :=
  if Number.eq left.insertId right.insertId then left.index < right.index
  else Number.lt left.insertId right.insertId

def collectFreshGraves (s : Session) : List Candidate :=
  ([.warnings, .bequests, .neutral].flatMap (candidatesOf s)).insertionSort
    fun left right => older right left = false

/-- The order of `remove_candidates`. -/
def removedBefore (left right : Candidate) : Bool :=
  if left.group = right.group then right.index < left.index
  else left.group.rank < right.group.rank

def removeCandidate (graves : Group → List Value) (candidate : Candidate) : Group → List Value :=
  Function.update graves candidate.group
    ((graves candidate.group).eraseIdx (candidate.index - 1))

def removeCandidates (graves : Group → List Value) (candidates : List Candidate) :
    Group → List Value :=
  (candidates.insertionSort fun left right => removedBefore right left = false).foldl
    removeCandidate graves

structure Payload where
  compostedCount : Nat
  freshGraveCountBefore : Nat
  freshGraveCountAfter : Nat
  patternCount : Nat

/-- The rounds of `for index = 1, before - max_fresh`; a limit that is no integer is above every
count. -/
def excess (before : Nat) : Number → Nat
  | .int maxFresh => (before - maxFresh).toNat
  | _ => 0

def maxFreshGraves (options : Value) : Except Failure Number := do
  let given ← options.index "max_fresh_graves"
  match given with
  | .nil => pure (.int 8)
  | .num n => do
      require (Number.lt n (.int 0) = false) (refuse "max_fresh_graves must be number >= 0")
      pure (Number.floor n)
  | _ => .error (refuse "max_fresh_graves must be number >= 0")

def excessGraves (s : Session) (maxFresh : Number) : List Candidate :=
  (collectFreshGraves s).take (excess (freshCount s) maxFresh)

/-- The loop of `compost` over the graves it merges. -/
def mergeAll (now : Value) : List Candidate → Session → Reply Session Unit
  | [], s => (.ok (), s)
  | candidate :: rest, s =>
    match mergePattern s.patterns candidate.record now with
    | .error failure => (.error failure, s)
    | .ok patterns => mergeAll now rest { s with patterns := patterns }

/-- What `compost` reads of its options: the limit and the time. -/
def compostOptions (options osTime : Value) : Except Failure (Number × Value) := do
  let maxFresh ← maxFreshGraves (options.orElse .emptyTable)
  let now ← (options.orElse .emptyTable).index "now"
  pure (maxFresh, now.orElse osTime)

def compost (s : Session) (options osTime : Value) : Reply Session Payload :=
  match compostOptions options osTime with
  | .error failure => (.error failure, s)
  | .ok (maxFresh, now) =>
    let before := freshCount s
    if Number.le (.int before) maxFresh then
      (.ok
        { compostedCount := 0
          freshGraveCountBefore := before
          freshGraveCountAfter := before
          patternCount := s.patterns.length }, s)
    else
      let toCompost := excessGraves s maxFresh
      (mergeAll now toCompost s).andThen fun _ merged =>
        let left := { merged with
          graves := removeCandidates merged.graves toCompost
          updatedAt := now }
        (.ok
          { compostedCount := toCompost.length
            freshGraveCountBefore := before
            freshGraveCountAfter := freshCount left
            patternCount := left.patterns.length }, left)

inductive Call where
  | addGrave (input osTime : Value)
  | compost (options osTime : Value)

inductive Answer where
  | grave (record : Value)
  | payload (payload : Payload)

def machine : Machine Session Call Answer where
  step s
    | .addGrave input osTime => (SessionMemory.addGrave s input osTime).map .grave
    | .compost options osTime => (SessionMemory.compost s options osTime).map .payload

end Proc17.Runtime.SessionMemory
