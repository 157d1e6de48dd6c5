import Mathlib.Data.List.Chain
import Mathlib.Data.List.Infix
import Mathlib.Data.List.TakeWhile
import Proc17.Core.Topology
import Proc17.Lua.Coerce
import Proc17.Unicode.Utf8

/-!
# Traces in a text

`logic/trace_validator.lua` on the text a model wrote: the lines that propose a trace of
operators, and the check of each trace against the topology.
-/

namespace Proc17.Logic.TraceValidator

open Lua Core Lua.Number Unicode List

/-- `utf8.codes`, which raises on a text that is not strict UTF-8. -/
def codes (text : Bytes) : Except Failure (List Char) :=
  if valid : text.toByteArray.IsValidUTF8 then .ok (String.fromUTF8 text.toByteArray valid).toList
  else .error (.fault "utf8.codes")

def isOperator (text : Bytes) : Bool := (Topology.resolve (.str text)).isSome

def glyphChars (text : Bytes) : Except Failure (List Bytes) := do
  let chars ← codes text
  pure ((chars.map fun c => utf8 (String.singleton c)).filter isOperator)

def lower (b : UInt8) : UInt8 := if 65 ≤ b && b ≤ 90 then b + 32 else b

def validityWords : List String :=
  ["validity", "valid:", "invalid:", "i believe", "believe it is valid",
    "first transition to check", "adjacency reasoning"]

def hasValidityClaim (line : Bytes) : Bool :=
  validityWords.any fun word => utf8 word <:+: line.map lower

structure Candidate where
  id : Bytes
  rawLine : Bytes
  trace : List Bytes
  traceText : Bytes

def makeCandidate (id rawLine : Bytes) (trace : List Bytes) : Candidate :=
  ⟨id, rawLine, trace, trace.flatten⟩

/-- The captures of `^[Tt][Rr][Aa][Cc][Ee]%s+([^:]+):%s*(.+)$` on a trimmed line, the first one
trimmed.  `%s+` leaves the name its last blank where nothing else stands before the colon. -/
def traceLine (rawLine : Bytes) : Option (Bytes × Bytes) :=
  let after := rawLine.drop 5
  let before := after.takeWhile (· ≠ 58)
  let rest := (after.dropWhile (· ≠ 58)).tail.dropWhile isSpace
  if (rawLine.take 5).map lower = utf8 "trace" ∧ before.head?.any isSpace = true
      ∧ 2 ≤ before.length ∧ rest ≠ [] then
    some (trim before, rest)
  else none

def lines (text : Bytes) : List Bytes := text.splitOn 10

def candidateOf (rawLine : Bytes) : Except Failure (Option Candidate) :=
  match traceLine rawLine with
  | some (id, glyphPart) => do
    let trace ← glyphChars glyphPart
    pure (some (makeCandidate id rawLine trace))
  | none => pure none

/-- The candidates of the lines, and the lines that claim validity. -/
def extract : List Bytes → Except Failure (List Candidate × List Bytes)
  | [] => pure ([], [])
  | line :: rest => do
    let rawLine := trim line
    let found ← candidateOf rawLine
    let (candidates, ignored) ← extract rest
    pure (found.toList ++ candidates,
      if hasValidityClaim rawLine then rawLine :: ignored else ignored)

structure Result where
  id : Bytes
  rawLine : Bytes
  trace : List Bytes
  traceText : Bytes
  valid : Bool
  invalidAt : Option Nat
  invalidTransition : Option Bytes
  residue : Option String

def invalidResult (c : Candidate) (reason : String) (invalidAt : Option Nat)
    (invalidTransition : Option Bytes) : Result :=
  ⟨c.id, c.rawLine, c.trace, c.traceText, false, invalidAt, invalidTransition, some reason⟩

/-- `topology.is_adjacent` on texts. -/
def adjacent (left right : Bytes) : Bool :=
  match Topology.resolve (.str left), Topology.resolve (.str right) with
  | some a, some b => Topology.isAdjacent a b
  | _, _ => false

def validateFrom : Nat → List Bytes → Option (Nat × Bytes × Bytes)
  | index, left :: right :: rest =>
    if adjacent left right then validateFrom (index + 1) (right :: rest)
    else some (index, left, right)
  | _, _ => none

def validateTrace (c : Candidate) : Result :=
  if c.trace.length < 2 then
    invalidResult c "trace requires at least two operators" none none
  else
    match c.trace.findIdx? fun glyph => !isOperator glyph with
    | some place =>
      invalidResult c "unknown operator glyph" (some (place + 1)) c.trace[place]?
    | none =>
      match validateFrom 1 c.trace with
      | some (index, left, right) =>
        invalidResult c "invalid operator transition" (some index) (some (left ++ right))
      | none => ⟨c.id, c.rawLine, c.trace, c.traceText, true, none, none, none⟩

structure Payload where
  candidates : List Candidate
  valid : List Result
  invalid : List Result
  ignoredValidityClaims : List Bytes
  residue : Option String

def validateText (text : Bytes) : Except Failure Payload := do
  let (candidates, ignored) ← extract (lines text)
  let results := candidates.map validateTrace
  let valid := results.filter Result.valid
  pure
    { candidates := candidates
      valid := valid
      invalid := results.filter fun result => !result.valid
      ignoredValidityClaims := ignored
      residue :=
        if candidates = [] then some "no trace candidates"
        else if valid = [] then some "all trace candidates invalid"
        else none }

/-! ## The lines of the form -/

/-- A line of the form `TRACE <id>: <rest>`. -/
def Proposes (line id rest : Bytes) : Prop :=
  ∃ word blanks name gap, trim line = word ++ (blanks ++ name ++ 58 :: (gap ++ rest))
    ∧ word.map lower = utf8 "trace" ∧ blanks ≠ [] ∧ (∀ b ∈ blanks, isSpace b = true)
    ∧ name ≠ [] ∧ 58 ∉ name ∧ (∀ b ∈ gap, isSpace b = true)
    ∧ (∃ b more, rest = b :: more ∧ isSpace b = false) ∧ id = trim name

def operatorOf (c : Char) : Option Operator :=
  Topology.order.find? fun op => Topology.glyph op = String.singleton c

def Occur (rest : Bytes) (trace : List Operator) : Prop :=
  ∃ text : String, rest = utf8 text ∧ trace = text.toList.filterMap operatorOf

def glyphs (trace : List Operator) : List Bytes := trace.map fun op => utf8 (Topology.glyph op)

theorem dropWhile_first {p : UInt8 → Bool} {s more : Bytes} {b : UInt8}
    (cut : s.dropWhile p = b :: more) : p b = false := by
  have first := List.head?_dropWhile_not p s
  rw [cut] at first
  simpa using first

theorem trim_blanks {blanks : Bytes} (blank : ∀ b ∈ blanks, isSpace b = true) (name : Bytes) :
    trim (blanks ++ name) = trim name := by
  rw [trim, trim, dropWhile_append_of_pos blank]

theorem traceLine_eq_some {line id rest : Bytes} :
    traceLine (trim line) = some (id, rest) ↔ Proposes line id rest := by
  constructor
  · intro read
    rw [traceLine] at read
    split at read
    · rename_i fits
      obtain ⟨word, first, long, given⟩ := fits
      cases read
      cases cut : ((trim line).drop 5).dropWhile (· ≠ 58) with
      | nil =>
        rw [cut] at given
        exact absurd rfl given
      | cons c tail =>
        have colon : c = 58 := by simpa using dropWhile_first cut
        have whole := takeWhile_append_dropWhile (p := (· ≠ 58)) (l := (trim line).drop 5)
        have closed : 58 ∉ ((trim line).drop 5).takeWhile (· ≠ 58) := fun inside => by
          simpa using mem_takeWhile_imp inside
        rw [cut] at given whole
        cases before : ((trim line).drop 5).takeWhile (· ≠ 58) with
        | nil =>
          rw [before] at first
          cases first
        | cons b name =>
          rw [before] at first long whole closed
          have blank : ∀ x ∈ [b], isSpace x = true := fun x member => by
            rw [mem_singleton.mp member]
            exact first
          obtain ⟨d, more, solid⟩ := exists_cons_of_ne_nil given
          refine ⟨(trim line).take 5, [b], name, tail.takeWhile isSpace, ?_, word,
            cons_ne_nil _ _, blank, ?_, fun inside => closed (mem_cons_of_mem _ inside),
            fun x inside => mem_takeWhile_imp inside, ⟨d, more, solid, dropWhile_first solid⟩,
            trim_blanks blank name⟩
          · rw [tail_cons, takeWhile_append_dropWhile, singleton_append, ← colon, whole,
              take_append_drop]
          · rintro rfl
            simp at long
    · cases read
  · rintro ⟨word, blanks, name, gap, whole, spelled, some, blank, given, closed, spaces,
      ⟨b, more, rfl, solid⟩, rfl⟩
    have five : word.length = 5 := by
      rw [← length_map lower, spelled]
      rfl
    have colon : ∀ x ∈ blanks ++ name, decide (x ≠ 58) = true := by
      intro x member
      rw [decide_eq_true_eq]
      rintro rfl
      rcases mem_append.mp member with space | inside
      · cases blank 58 space
      · exact closed inside
    have taken : (trim line).take 5 = word := by
      rw [whole, ← five, take_left]
    have dropped : (trim line).drop 5 = blanks ++ name ++ 58 :: (gap ++ b :: more) := by
      rw [whole, ← five, drop_left]
    obtain ⟨c, blanks, rfl⟩ := exists_cons_of_ne_nil some
    have two : 2 ≤ (c :: blanks ++ name).length := by
      have long := length_pos_of_ne_nil given
      rw [length_append, length_cons]
      omega
    simp only [traceLine, taken, dropped, takeWhile_append_of_pos colon,
      dropWhile_append_of_pos colon]
    rw [takeWhile_cons_of_neg (by simp), append_nil, dropWhile_cons_of_neg (by simp),
      tail_cons, dropWhile_append_of_pos spaces,
      dropWhile_cons_of_neg (by rw [solid]; exact Bool.false_ne_true),
      trim_blanks blank, if_pos ⟨spelled, blank c mem_cons_self, two, cons_ne_nil _ _⟩]

/-! ## The glyphs of a text -/

theorem utf8_fromUTF8 {s : Bytes} (valid : s.toByteArray.IsValidUTF8) :
    utf8 (String.fromUTF8 s.toByteArray valid) = s := by
  show s.toByteArray.data.toList = s
  rw [data_toByteArray]

theorem valid_utf8 (text : String) : (utf8 text).toByteArray.IsValidUTF8 := by
  have same : (utf8 text).toByteArray = text.toByteArray :=
    ByteArray.ext (by rw [data_toByteArray, utf8, Array.toArray_toList])
  rw [same]
  exact text.isValidUTF8

theorem codes_eq_ok {s : Bytes} {chars : List Char} :
    codes s = .ok chars ↔ ∃ text : String, s = utf8 text ∧ chars = text.toList := by
  unfold codes
  split
  · rename_i valid
    constructor
    · rintro ⟨⟩
      exact ⟨_, (utf8_fromUTF8 valid).symm, rfl⟩
    · rintro ⟨text, same, rfl⟩
      rw [(utf8_inj _ _).mp ((utf8_fromUTF8 valid).trans same)]
  · rename_i invalid
    refine iff_of_false (fun same => by cases same) ?_
    rintro ⟨text, rfl, -⟩
    exact invalid (valid_utf8 text)

theorem operator_singleton (c : Char) :
    isOperator (utf8 (String.singleton c)) = (operatorOf c).isSome := by
  have named : (Topology.order.find? fun op => Topology.name op = String.singleton c) = none := by
    refine List.find?_eq_none.mpr fun op _ same => ?_
    have letters := congrArg String.toList (of_decide_eq_true same)
    rw [String.toList_singleton] at letters
    cases op <;> cases letters
  simp only [isOperator, Topology.resolve, Value.parse, utf8_inj, named, operatorOf]
  cases Topology.order.find? fun op => Topology.glyph op = String.singleton c <;> rfl

theorem filter_isOperator (chars : List Char) :
    (chars.map fun c => utf8 (String.singleton c)).filter isOperator
      = glyphs (chars.filterMap operatorOf) := by
  induction chars with
  | nil => rfl
  | cons c rest ih =>
    rw [map_cons, filter_cons, operator_singleton, ih]
    cases found : operatorOf c with
    | none => rw [filterMap_cons_none found]; rfl
    | some op =>
      have same : Topology.glyph op = String.singleton c := by
        simpa using List.find?_some found
      rw [filterMap_cons_some found, ← same]
      rfl

theorem glyphChars_eq_ok {s : Bytes} {trace : List Bytes} :
    glyphChars s = .ok trace ↔ ∃ ops, Occur s ops ∧ trace = glyphs ops := by
  simp only [glyphChars, bind_eq_ok, pure_eq_ok, codes_eq_ok, Occur]
  constructor
  · rintro ⟨_, ⟨text, rfl, rfl⟩, rfl⟩
    exact ⟨_, ⟨text, rfl, rfl⟩, filter_isOperator _⟩
  · rintro ⟨_, ⟨text, rfl, rfl⟩, rfl⟩
    exact ⟨text.toList, ⟨text, rfl, rfl⟩, filter_isOperator _⟩

theorem occur_iff_wellFormed (s : Bytes) : (∃ trace, Occur s trace) ↔ WellFormed s := by
  rw [← validateUTF8_iff, ByteArray.validateUTF8_eq_true_iff]
  constructor
  · rintro ⟨_, text, rfl, -⟩
    exact valid_utf8 text
  · intro valid
    exact ⟨_, _, (utf8_fromUTF8 valid).symm, rfl⟩

/-! ## The check of a trace -/

def Adjacent (left right : Operator) : Prop := Topology.isAdjacent left right = true

/-- The first pair of a trace that is not adjacent, by its index from one. -/
def FirstBroken (trace : List Operator) (index : Nat) (left right : Operator) : Prop :=
  ∃ passed rest, trace = passed ++ left :: right :: rest ∧ index = passed.length + 1
    ∧ ¬ Adjacent left right ∧ (passed ++ [left]).IsChain Adjacent

theorem adjacent_glyphs (left right : Operator) :
    adjacent (utf8 (Topology.glyph left)) (utf8 (Topology.glyph right))
      = Topology.isAdjacent left right := by
  have resolved (op : Operator) : Topology.resolve (.str (utf8 (Topology.glyph op))) = some op :=
    Topology.resolve_value op
  rw [adjacent, resolved, resolved]

theorem validateFrom_glyphs : ∀ (trace : List Operator) (start : Nat),
    (validateFrom start (glyphs trace) = none ∧ trace.IsChain Adjacent)
    ∨ ∃ index left right, FirstBroken trace index left right
      ∧ validateFrom start (glyphs trace)
        = some (start + index - 1, utf8 (Topology.glyph left), utf8 (Topology.glyph right)) := by
  intro trace
  induction trace with
  | nil => exact fun _ => .inl ⟨rfl, .nil⟩
  | cons first rest ih =>
    intro start
    cases rest with
    | nil => exact .inl ⟨rfl, .singleton _⟩
    | cons second rest =>
      have unfolded : validateFrom start (glyphs (first :: second :: rest))
          = if adjacent (utf8 (Topology.glyph first)) (utf8 (Topology.glyph second)) then
              validateFrom (start + 1) (glyphs (second :: rest))
            else some (start, utf8 (Topology.glyph first), utf8 (Topology.glyph second)) := rfl
      rw [unfolded, adjacent_glyphs]
      by_cases joined : Topology.isAdjacent first second = true
      · rw [if_pos joined]
        rcases ih (start + 1) with ⟨none, chain⟩
          | ⟨index, left, right, ⟨passed, later, same, place, broken, chain⟩, found⟩
        · exact .inl ⟨none, .cons_cons joined chain⟩
        · refine .inr ⟨index + 1, left, right,
            ⟨first :: passed, later, by rw [same]; rfl, by rw [place]; rfl, broken, ?_⟩, ?_⟩
          · cases passed with
            | nil =>
              cases same
              exact .cons_cons joined (.singleton _)
            | cons next passed =>
              cases same
              exact .cons_cons joined chain
          · rw [found, show start + 1 + index - 1 = start + (index + 1) - 1 by omega]
      · rw [if_neg joined]
        exact .inr ⟨1, first, second, ⟨[], rest, rfl, rfl, joined, .singleton _⟩, rfl⟩

/-- What the result says of a candidate whose trace this is. -/
structure Judged (c : Candidate) (trace : List Operator) (r : Result) : Prop where
  same : r.id = c.id ∧ r.rawLine = c.rawLine ∧ r.trace = c.trace
  valid : r.valid = true ↔ 2 ≤ trace.length ∧ trace.IsChain Adjacent
  broken : r.valid = false → 2 ≤ trace.length → ∃ index left right,
    FirstBroken trace index left right ∧ r.invalidAt = some index
      ∧ r.invalidTransition = some (utf8 (Topology.glyph left) ++ utf8 (Topology.glyph right))

theorem not_chain_of_firstBroken {trace : List Operator} {index : Nat} {left right : Operator}
    (first : FirstBroken trace index left right) : ¬ trace.IsChain Adjacent := by
  obtain ⟨passed, rest, rfl, -, broken, -⟩ := first
  intro chain
  have tail := (isChain_append.mp chain).2.1
  exact broken (isChain_cons_cons.mp tail).1

theorem validateTrace_judged {c : Candidate} {trace : List Operator} (given : c.trace = glyphs trace) :
    Judged c trace (validateTrace c) := by
  have counted : c.trace.length = trace.length := by rw [given, glyphs, length_map]
  have known : (c.trace.findIdx? fun glyph => !isOperator glyph) = none := by
    rw [List.findIdx?_eq_none_iff, given]
    intro glyph member
    obtain ⟨op, -, rfl⟩ := mem_map.mp member
    rw [isOperator, show Topology.resolve (.str (utf8 (Topology.glyph op))) = some op from
      Topology.resolve_value op]
    rfl
  unfold validateTrace
  by_cases short : c.trace.length < 2
  · rw [if_pos short]
    exact ⟨⟨rfl, rfl, rfl⟩, iff_of_false Bool.false_ne_true (by omega), fun _ _ => by omega⟩
  rw [if_neg short, known]
  dsimp only
  rcases given ▸ validateFrom_glyphs trace 1 with ⟨none, chain⟩ | ⟨index, left, right, first, found⟩
  · rw [none]
    exact ⟨⟨rfl, rfl, rfl⟩, iff_of_true rfl ⟨by omega, chain⟩, fun invalid => by cases invalid⟩
  · rw [found]
    refine ⟨⟨rfl, rfl, rfl⟩, iff_of_false Bool.false_ne_true fun valid =>
      not_chain_of_firstBroken first valid.2, fun _ _ => ⟨index, left, right, first, ?_, rfl⟩⟩
    show some (1 + index - 1) = some index
    rw [Nat.add_sub_cancel_left]

/-! ## The text -/

/-- The proposals of the lines with their traces, one for each line of the form. -/
inductive Listed : List Bytes → List (Candidate × List Operator) → Prop where
  | nil : Listed [] []
  | other {line rest proposals} : (∀ id part, ¬ Proposes line id part) → Listed rest proposals →
      Listed (line :: rest) proposals
  | proposal {line rest proposals id part trace} : Proposes line id part → Occur part trace →
      Listed rest proposals →
      Listed (line :: rest) ((makeCandidate id (trim line) (glyphs trace), trace) :: proposals)

/-- What a payload says of the text it was made from. -/
def Exact (text : Bytes) (p : Payload) : Prop :=
  ∃ (proposals : List (Candidate × List Operator)) (results : List Result),
    Listed (lines text) proposals ∧ p.candidates = proposals.map Prod.fst
    ∧ List.Forall₂ (fun proposal result => Judged proposal.1 proposal.2 result) proposals results
    ∧ p.valid = results.filter Result.valid ∧ p.invalid = results.filter fun r => !r.valid

theorem extract_listed : ∀ {text : List Bytes} {candidates : List Candidate} {ignored : List Bytes},
    extract text = .ok (candidates, ignored) →
    ∃ proposals, Listed text proposals ∧ candidates = proposals.map Prod.fst
      ∧ ∀ proposal ∈ proposals, proposal.1.trace = glyphs proposal.2 := by
  intro text
  induction text with
  | nil =>
    rintro _ _ ⟨⟩
    exact ⟨[], .nil, rfl, forall_mem_nil _⟩
  | cons line rest ih =>
    intro candidates ignored read
    simp only [extract, bind_eq_ok, pure_eq_ok] at read
    obtain ⟨found, proposed, ⟨later, claims⟩, readRest, same⟩ := read
    cases same
    obtain ⟨proposals, listed, rfl, traced⟩ := ih readRest
    cases form : traceLine (trim line) with
    | none =>
      rw [candidateOf, form] at proposed
      cases proposed
      refine ⟨proposals, .other (fun id part proposes => ?_) listed, rfl, traced⟩
      rw [traceLine_eq_some.mpr proposes] at form
      cases form
    | some captures =>
      obtain ⟨id, part⟩ := captures
      simp only [candidateOf, form, bind_eq_ok, pure_eq_ok, glyphChars_eq_ok] at proposed
      obtain ⟨_, ⟨trace, occurs, rfl⟩, rfl⟩ := proposed
      exact ⟨(makeCandidate id (trim line) (glyphs trace), trace) :: proposals,
        .proposal (traceLine_eq_some.mp form) occurs listed, rfl, forall_mem_cons.mpr ⟨rfl, traced⟩⟩

theorem extract_succeeds_iff (text : List Bytes) : (∃ found, extract text = .ok found)
    ↔ ∀ line ∈ text, ∀ id part, Proposes line id part → WellFormed part := by
  induction text with
  | nil => exact iff_of_true ⟨_, rfl⟩ (forall_mem_nil _)
  | cons line rest ih =>
    have head : (∃ found, candidateOf (trim line) = .ok found)
        ↔ ∀ id part, Proposes line id part → WellFormed part := by
      simp only [← traceLine_eq_some, ← occur_iff_wellFormed]
      cases form : traceLine (trim line) with
      | none =>
        rw [candidateOf, form]
        exact iff_of_true ⟨_, rfl⟩ fun id part same => by cases same
      | some captures =>
        simp only [candidateOf, form, bind_eq_ok, pure_eq_ok, glyphChars_eq_ok]
        constructor
        · rintro ⟨_, _, ⟨trace, occurs, -⟩, -⟩ id part ⟨⟩
          exact ⟨trace, occurs⟩
        · intro each
          obtain ⟨trace, occurs⟩ := each _ _ rfl
          exact ⟨_, _, ⟨trace, occurs, rfl⟩, rfl⟩
    rw [forall_mem_cons, ← head, ← ih]
    simp only [extract, bind_eq_ok, pure_eq_ok]
    constructor
    · rintro ⟨_, found, proposed, later, read, -⟩
      exact ⟨⟨found, proposed⟩, later, read⟩
    · rintro ⟨⟨found, proposed⟩, later, read⟩
      exact ⟨_, found, proposed, later, read, rfl⟩

/-- A text is validated, and exactly, unless a line of the form is not UTF-8. -/
theorem text_validated_iff (text : Bytes) : (∃ p, validateText text = .ok p ∧ Exact text p)
    ↔ ∀ line ∈ lines text, ∀ id part, Proposes line id part → WellFormed part := by
  rw [← extract_succeeds_iff]
  simp only [validateText, bind_eq_ok, pure_eq_ok]
  constructor
  · rintro ⟨_, ⟨found, read, -⟩, -⟩
    exact ⟨found, read⟩
  · rintro ⟨⟨candidates, ignored⟩, read⟩
    obtain ⟨proposals, listed, rfl, traced⟩ := extract_listed read
    refine ⟨_, ⟨_, read, rfl⟩, proposals, (proposals.map Prod.fst).map validateTrace, listed, rfl, ?_,
      rfl, rfl⟩
    rw [map_map, forall₂_map_right_iff, forall₂_same]
    exact fun proposal member => validateTrace_judged (traced proposal member)

theorem broken_text_raises : ¬ ∀ text, ∃ p, validateText text = .ok p ∧ Exact text p := by
  intro all
  obtain ⟨p, made, -⟩ := all (utf8 "TRACE a: " ++ [255])
  simp only [validateText, bind_eq_ok] at made
  obtain ⟨found, read, -⟩ := made
  have formed := (extract_succeeds_iff _).mp ⟨found, read⟩ (utf8 "TRACE a: " ++ [255])
    (by decide +kernel) (utf8 "a") [255] (traceLine_eq_some.mp (by decide +kernel))
  exact absurd ((validateUTF8_iff _).mpr formed) (by decide +kernel)

end Proc17.Logic.TraceValidator
