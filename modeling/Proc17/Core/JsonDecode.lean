import Proc17.Core.Digest
import Proc17.Core.JsonArray

/-!
# Reading JSON text

`json.decode`: a recursive descent over the bytes that are left.  A reading function answers
with what it read and with the bytes after it.
-/

namespace Proc17.Core.Json

open Lua List Number

/-! ## Texts -/

def skipWs (s : Bytes) : Bytes := s.dropWhile Number.isSpace

/-- `tonumber(hex, 16)` -/
def hexNumber (hex : Bytes) : Option Int :=
  let (negative, digits) :=
    match Number.trim hex with
    | 45 :: rest => (true, rest)
    | 43 :: rest => (false, rest)
    | other => (false, other)
  if digits.isEmpty || !digits.all (fun b => (Number.hexDigit b).isSome) then none
  else some (if negative then -(Number.hexValue digits : Int) else Number.hexValue digits)

/-- `utf8.char(code)` of a code with at most four hexadecimal digits. -/
def utf8Char (code : Nat) : Bytes :=
  if code < 0x80 then [code.toUInt8]
  else if code < 0x800 then [(0xC0 + code / 0x40).toUInt8, (0x80 + code % 0x40).toUInt8]
  else [(0xE0 + code / 0x1000).toUInt8, (0x80 + code / 0x40 % 0x40).toUInt8,
    (0x80 + code % 0x40).toUInt8]

/-- A `\u` escape. -/
def unicodeEscape (hex : Bytes) : Except Failure Bytes :=
  match hexNumber hex with
  | none => .error (raise "invalid unicode escape")
  | some code =>
    if code < 0 then .error (raise "bad argument #1 to 'char' (value out of range)")
    else .ok (utf8Char code.toNat)

def readEscape : Bytes → Except Failure (Bytes × Bytes)
  | [] => .error (raise "invalid escape")
  | b :: rest =>
    if b = 34 ∨ b = 92 ∨ b = 47 then .ok ([b], rest)
    else if b = 98 then .ok ([8], rest)
    else if b = 102 then .ok ([12], rest)
    else if b = 110 then .ok ([10], rest)
    else if b = 114 then .ok ([13], rest)
    else if b = 116 then .ok ([9], rest)
    else if b = 117 then (unicodeEscape (rest.take 4)).map fun piece => (piece, rest.drop 4)
    else .error (raise "invalid escape")

/-- The loop of `parser:parse_string`, one turn for each unit of fuel. -/
def stringLoop : Nat → Bytes → Bytes → Except Failure (Bytes × Bytes)
  | _, _, [] => .error (raise "unterminated string")
  | 0, _, _ :: _ => .error (.fault "fuel")
  | fuel + 1, parts, b :: rest =>
    if b = 34 then .ok (parts, rest)
    else if b = 92 then do
      let (piece, rest) ← readEscape rest
      stringLoop fuel (parts ++ piece) rest
    else stringLoop fuel (parts ++ [b]) rest

/-- `parser:parse_string`; every turn takes a byte. -/
def parseString : Bytes → Except Failure (Bytes × Bytes)
  | 34 :: rest => stringLoop rest.length [] rest
  | _ => .error (raise "expected string")

def numberByte (b : UInt8) : Bool :=
  Number.isDigit b || b = 43 || b = 45 || b = 46 || b = 101 || b = 69

def parseNumber (s : Bytes) : Except Failure (Value × Bytes) :=
  match Number.ofText (s.takeWhile numberByte) with
  | some n => .ok (.num n, s.dropWhile numberByte)
  | none => .error (raise "invalid number")

def consumeLiteral (literal : String) (value : Value) (s : Bytes) : Except Failure (Value × Bytes) :=
  if s.take (utf8 literal).length = utf8 literal then .ok (value, s.drop (utf8 literal).length)
  else .error (raise ("expected " ++ literal))

/-! ## Values -/

mutual
/-- `parser:parse_value`; each nested call takes a byte. -/
def parseValue : Nat → Bytes → Except Failure (Value × Bytes)
  | 0, _ => .error (.fault "fuel")
  | fuel + 1, s =>
    match skipWs s with
    | [] => .error (raise "unexpected json value")
    | b :: rest =>
      if b = 34 then (parseString (b :: rest)).map fun read => (.str read.1, read.2)
      else if b = 123 then
        match skipWs rest with
        | 125 :: rest => .ok (.emptyTable, rest)
        | rest => objectLoop fuel [] rest
      else if b = 91 then
        match skipWs rest with
        | 93 :: rest => .ok (.emptyTable, rest)
        | rest => arrayLoop fuel [] rest
      else if b = 116 then consumeLiteral "true" (.bool true) (b :: rest)
      else if b = 102 then consumeLiteral "false" (.bool false) (b :: rest)
      else if b = 110 then consumeLiteral "null" .nil (b :: rest)
      else if b = 45 ∨ Number.isDigit b = true then parseNumber (b :: rest)
      else .error (raise "unexpected json value")

/-- The loop of `parser:parse_array`; a null adds no item. -/
def arrayLoop : Nat → List Value → Bytes → Except Failure (Value × Bytes)
  | 0, _, _ => .error (.fault "fuel")
  | fuel + 1, items, s => do
      let (value, s) ← parseValue fuel s
      let items := if value = .nil then items else items ++ [value]
      match skipWs s with
      | 93 :: rest => pure (.array items, rest)
      | 44 :: rest => arrayLoop fuel items rest
      | _ => .error (raise "expected comma or array end")

/-- The loop of `parser:parse_object`. -/
def objectLoop : Nat → List (Value × Value) → Bytes → Except Failure (Value × Bytes)
  | 0, _, _ => .error (.fault "fuel")
  | fuel + 1, entries, s => do
      let (key, s) ← parseString (skipWs s)
      match skipWs s with
      | 58 :: s => do
          let (value, s) ← parseValue fuel s
          let entries := Value.assign entries (.str key) value
          match skipWs s with
          | 125 :: rest => pure (.table Tag.plain entries, rest)
          | 44 :: rest => objectLoop fuel entries rest
          | _ => .error (raise "expected comma or object end")
      | _ => .error (raise "expected colon")
end

def decode (text : Bytes) : Except Failure Value := do
  let (value, rest) ← parseValue (text.length + 1) text
  require (skipWs rest = []) (raise "trailing json data")
  pure value

/-! ## Strings -/

theorem unicodeEscape_control : ∀ n < 32, unicodeEscape
    [48, 48, hexDigit (n / 16), hexDigit (n % 16)] = .ok [n.toUInt8] := by
  intro n small
  have each : ∀ n : Fin 32, hexNumber [48, 48, hexDigit (n.val / 16), hexDigit (n.val % 16)]
      = some (n.val : Int) := by decide +kernel
  rw [unicodeEscape, each ⟨n, small⟩]
  dsimp only
  rw [if_neg (by omega), Int.toNat_natCast, utf8Char, if_pos (by omega)]

theorem stringLoop_byte (fuel : Nat) (parts : Bytes) (b : UInt8) (more : Bytes) :
    stringLoop (fuel + 1) parts (escapeByte b ++ more) = stringLoop fuel (parts ++ [b]) more := by
  by_cases quote : b = 34
  · subst quote
    rfl
  by_cases slash : b = 92
  · subst slash
    rfl
  by_cases back : b = 8
  · subst back
    rfl
  by_cases feed : b = 12
  · subst feed
    rfl
  by_cases line : b = 10
  · subst line
    rfl
  by_cases carriage : b = 13
  · subst carriage
    rfl
  by_cases tab : b = 9
  · subst tab
    rfl
  rw [escapeByte, if_neg quote, if_neg slash, if_neg back, if_neg feed, if_neg line,
    if_neg carriage, if_neg tab]
  by_cases control : b < 32
  · have small : b.toNat < 32 := UInt8.lt_iff_toNat_lt.mp control
    rw [if_pos control]
    show stringLoop (fuel + 1) parts
      (92 :: 117 :: 48 :: 48 :: hexDigit (b.toNat / 16) :: hexDigit (b.toNat % 16) :: more) = _
    rw [stringLoop, if_neg (by decide), if_pos rfl]
    have read : readEscape
        (117 :: 48 :: 48 :: hexDigit (b.toNat / 16) :: hexDigit (b.toNat % 16) :: more)
        = .ok ([b], more) := by
      show (unicodeEscape [48, 48, hexDigit (b.toNat / 16), hexDigit (b.toNat % 16)]).map _ = _
      rw [unicodeEscape_control _ small]
      have same : b.toNat.toUInt8 = b := UInt8.ofNat_toNat
      show Except.ok ([b.toNat.toUInt8], more) = _
      rw [same]
    rw [read]
    rfl
  · rw [if_neg control]
    show stringLoop (fuel + 1) parts (b :: more) = _
    rw [stringLoop, if_neg quote, if_neg slash]

theorem length_le_escapeString (s : Bytes) : s.length ≤ (escapeString s).length := by
  induction s with
  | nil => exact Nat.le_refl 0
  | cons b rest ih =>
    have one : 1 ≤ (escapeByte b).length := by
      unfold escapeByte
      repeat' split
      all_goals exact Nat.succ_le_succ (Nat.zero_le _)
    show rest.length + 1 ≤ (escapeByte b ++ escapeString rest).length
    rw [length_append]
    omega

theorem stringLoop_escapeString (s rest : Bytes) : ∀ (fuel : Nat) (parts : Bytes),
    s.length < fuel →
      stringLoop fuel parts (escapeString s ++ 34 :: rest) = .ok (parts ++ s, rest) := by
  induction s with
  | nil =>
    intro fuel parts enough
    cases fuel with
    | zero => cases enough
    | succ fuel =>
      rw [append_nil]
      rfl
  | cons b more ih =>
    intro fuel parts enough
    cases fuel with
    | zero => cases enough
    | succ fuel =>
      have split : escapeString (b :: more) ++ 34 :: rest
          = escapeByte b ++ (escapeString more ++ 34 :: rest) := by
        rw [← append_assoc]
        rfl
      rw [split, stringLoop_byte, ih fuel (parts ++ [b]) (Nat.lt_of_succ_lt_succ enough),
        append_assoc]
      rfl

theorem parseString_quote (s rest : Bytes) : parseString (quote s ++ rest) = .ok (s, rest) := by
  have shape : quote s ++ rest = 34 :: (escapeString s ++ 34 :: rest) := by
    show 34 :: (escapeString s ++ [34]) ++ rest = _
    rw [cons_append, append_assoc]
    rfl
  rw [shape, parseString, stringLoop_escapeString]
  · rfl
  · rw [length_append, length_cons]
    have grown := length_le_escapeString s
    omega

/-! ## Integers -/

theorem takeWhile_all {p : UInt8 → Bool} {s : Bytes} (all : s.all p = true) (rest : Bytes) :
    (s ++ rest).takeWhile p = s ++ rest.takeWhile p ∧ (s ++ rest).dropWhile p = rest.dropWhile p := by
  have each : ∀ b ∈ s, p b = true := all_eq_true.mp all
  rw [takeWhile_append_of_pos each, dropWhile_append_of_pos each]
  exact ⟨rfl, rfl⟩

theorem utf8_int (i : Int) : utf8 (Number.tostring (.int i))
    = if i < 0 then 45 :: Number.decimal i.natAbs else Number.decimal i.natAbs := by
  cases i with
  | ofNat n => rfl
  | negSucc n =>
    rw [if_pos (Int.negSucc_lt_zero n)]
    show utf8 ("-" ++ toString (n + 1)) = 45 :: utf8 (toString (n + 1))
    rw [utf8, String.toByteArray_append, ByteArray.data_append, Array.toList_append]
    rfl

variable {b : UInt8} {v w key : Value} {tag : Tag}

theorem isSpace_of_isDigit (digit : Number.isDigit b = true) :
    Number.isSpace b = false := by
  simp only [Number.isDigit, Bool.and_eq_true, decide_eq_true_eq, UInt8.le_iff_toNat_le] at digit
  have least : 48 ≤ b.toNat := digit.1
  simp only [Number.isSpace, Bool.or_eq_false_iff, Bool.and_eq_false_iff, decide_eq_false_iff_not,
    UInt8.le_iff_toNat_le]
  refine ⟨?_, Or.inr ?_⟩
  · rintro rfl
    revert least
    decide
  · show ¬ b.toNat ≤ 13
    omega

theorem trim_spaceless {s : Bytes} (spaceless : ∀ b ∈ s, Number.isSpace b = false) :
    Number.trim s = s := by
  have kept : ∀ {t : Bytes}, (∀ b ∈ t, Number.isSpace b = false) →
      t.dropWhile Number.isSpace = t := by
    intro t none
    cases t with
    | nil => rfl
    | cons b rest =>
      rw [dropWhile_cons, none b mem_cons_self, if_neg Bool.false_ne_true]
  rw [Number.trim, kept spaceless, kept fun b inside => spaceless b (mem_reverse.mp inside),
    reverse_reverse]

theorem readDecimal_decimal (negative : Bool) (n : Nat)
    (least : -2 ^ 63 ≤ (if negative then -(n : Int) else n))
    (most : (if negative then -(n : Int) else n) < 2 ^ 63) :
    Number.readDecimal negative (Number.decimal n)
      = some (.int (if negative then -(n : Int) else n)) := by
  obtain ⟨digits, given⟩ := decimal_digits n
  obtain ⟨taken, dropped⟩ := takeWhile_all digits []
  rw [append_nil, takeWhile_nil, append_nil] at taken
  rw [append_nil, dropWhile_nil] at dropped
  have split : Number.splitNumeral Number.isDigit [101, 69] (Number.decimal n)
      = some (Number.decimal n, none, none) := by
    have nonempty : (Number.decimal n).isEmpty = false := isEmpty_eq_false_iff.mpr given
    rw [Number.splitNumeral, taken, dropped]
    simp [nonempty]
  rw [Number.readDecimal, split]
  show (if _ = true then _ else _) = _
  simp only [Option.getD_none, append_nil, ofDigits_decimal]
  rw [if_pos]
  simp only [Option.isNone_none, Bool.and_true, Bool.true_and, Bool.and_eq_true, decide_eq_true_eq]
  exact ⟨least, most⟩

theorem ofText_int {i : Int} (least : -2 ^ 63 ≤ i) (most : i < 2 ^ 63) :
    Number.ofText (utf8 (Number.tostring (.int i))) = some (.int i) := by
  obtain ⟨digits, given⟩ := decimal_digits i.natAbs
  have each : ∀ b ∈ Number.decimal i.natAbs, Number.isDigit b = true := all_eq_true.mp digits
  have spaceless : ∀ b ∈ utf8 (Number.tostring (.int i)), Number.isSpace b = false := by
    intro b inside
    rw [utf8_int] at inside
    split at inside
    · rcases mem_cons.mp inside with rfl | inside
      · decide
      · exact isSpace_of_isDigit (each b inside)
    · exact isSpace_of_isDigit (each b inside)
  have apart : ∀ {b : UInt8} {rest : Bytes}, Number.decimal i.natAbs = b :: rest →
      b ≠ 45 ∧ b ≠ 43 := by
    intro b rest shape
    have digit := each b (by rw [shape]; exact mem_cons_self)
    refine ⟨?_, ?_⟩ <;> (rintro rfl; exact absurd digit (by decide))
  -- no numeral starts like a hexadecimal one
  have second : ∀ {b c : UInt8} {rest : Bytes}, Number.decimal i.natAbs = b :: c :: rest →
      c ≠ 120 ∧ c ≠ 88 := by
    intro b c rest shape
    have digit := each c (by rw [shape]; exact mem_cons_of_mem _ mem_cons_self)
    refine ⟨?_, ?_⟩ <;> (rintro rfl; exact absurd digit (by decide))
  rw [Number.ofText, trim_spaceless spaceless, utf8_int]
  by_cases negative : i < 0
  · have value : -(i.natAbs : Int) = i := by omega
    rw [if_pos negative]
    have read := readDecimal_decimal true i.natAbs (by simp only [if_true]; omega)
      (by simp only [if_true]; omega)
    rw [if_pos rfl, value] at read
    dsimp only
    split
    · rename_i shape
      exact absurd rfl (second shape).1
    · rename_i shape
      exact absurd rfl (second shape).2
    · exact read
  · have value : (i.natAbs : Int) = i := by omega
    rw [if_neg negative]
    have read := readDecimal_decimal false i.natAbs
      (by simp only [Bool.false_eq_true, if_false]; omega)
      (by simp only [Bool.false_eq_true, if_false]; omega)
    rw [if_neg Bool.false_ne_true, value] at read
    split
    rename_i minus body parted
    have parts : minus = false ∧ body = Number.decimal i.natAbs := by
      split at parted
      · rename_i shape
        exact absurd rfl (apart shape).1
      · rename_i shape
        exact absurd rfl (apart shape).2
      · cases parted
        exact ⟨rfl, rfl⟩
    obtain ⟨rfl, rfl⟩ := parts
    split
    · rename_i shape
      exact absurd rfl (second shape).1
    · rename_i shape
      exact absurd rfl (second shape).2
    · exact read

/-! ## What reads back -/

/-- The same data: numbers, texts and truth values are the same, tables have it under each key. -/
inductive Alike : Value → Value → Prop
  | nil : Alike .nil .nil
  | bool (b : Bool) : Alike (.bool b) (.bool b)
  | num (n : Number) : Alike (.num n) (.num n)
  | str (s : Bytes) : Alike (.str s) (.str s)
  | table {left right : Tag} {xs ys : List (Value × Value)}
      (each : ∀ key, Alike (Value.lookup xs key) (Value.lookup ys key)) :
      Alike (.table left xs) (.table right ys)

theorem Alike.symm (alike : Alike v w) : Alike w v := by
  induction alike with
  | nil => exact .nil
  | bool b => exact .bool b
  | num n => exact .num n
  | str s => exact .str s
  | table _ ih => exact .table ih

theorem Alike.trans {u : Value} (first : Alike u v) (second : Alike v w) : Alike u w := by
  induction first generalizing w with
  | nil | bool | num | str => exact second
  | table _ ih =>
    cases second with
    | table each => exact .table fun key => ih key (each key)

def Follows (rest : Bytes) : Prop := rest = [] ∨ ∃ b more, rest = b :: more ∧ ends b = true

theorem follows_cons (closes : ends b = true) (more : Bytes) : Follows (b :: more) :=
  Or.inr ⟨b, more, rfl, closes⟩

theorem skipWs_cons (visible : Number.isSpace b = false) (rest : Bytes) :
    skipWs (b :: rest) = b :: rest := by
  rw [skipWs, dropWhile_cons, visible, if_neg Bool.false_ne_true]

/-- The value has this text, and the text is read as that value. -/
structure Reads (v : Value) (text : Bytes) (w : Value) : Prop where
  encoded : encode v = .ok text
  alike : Alike v w
  present : w ≠ .nil
  opens : ∃ b more, text = b :: more ∧ Number.isSpace b = false ∧ b ≠ 93 ∧ b ≠ 125
  read : ∀ fuel rest, text.length < fuel → Follows rest →
    parseValue fuel (text ++ rest) = .ok (w, rest)

theorem reads_bool (b : Bool) : ∃ text, Reads (.bool b) text (.bool b) := by
  cases b with
  | false =>
    refine ⟨utf8 "false", rfl, .bool false, fun same => (nomatch same), ?_, ?_⟩
    · exact ⟨102, [97, 108, 115, 101], rfl, by decide, by decide, by decide⟩
    · intro fuel rest enough _
      cases fuel with
      | zero => cases enough
      | succ fuel => rfl
  | true =>
    refine ⟨utf8 "true", rfl, .bool true, fun same => (nomatch same), ?_, ?_⟩
    · exact ⟨116, [114, 117, 101], rfl, by decide, by decide, by decide⟩
    · intro fuel rest enough _
      cases fuel with
      | zero => cases enough
      | succ fuel => rfl

theorem reads_str (s : Bytes) : Reads (.str s) (quote s) (.str s) := by
  refine ⟨rfl, .str s, fun same => (nomatch same), ?_, ?_⟩
  · exact ⟨34, escapeString s ++ [34], rfl, by decide, by decide, by decide⟩
  · intro fuel rest enough _
    cases fuel with
    | zero => cases enough
    | succ fuel =>
      have read := parseString_quote s rest
      show (parseString (quote s ++ rest)).map _ = _
      rw [read]
      rfl

theorem reads_int {i : Int} (least : -2 ^ 63 ≤ i) (most : i < 2 ^ 63) :
    Reads (.num (.int i)) (utf8 (Number.tostring (.int i))) (.num (.int i)) := by
  obtain ⟨digits, given⟩ := decimal_digits i.natAbs
  have each : ∀ b ∈ Number.decimal i.natAbs, Number.isDigit b = true := all_eq_true.mp digits
  have marks : ∀ b ∈ utf8 (Number.tostring (.int i)), b = 45 ∨ Number.isDigit b = true := by
    intro b inside
    rw [utf8_int] at inside
    split at inside
    · rcases mem_cons.mp inside with rfl | inside
      · exact Or.inl rfl
      · exact Or.inr (each b inside)
    · exact Or.inr (each b inside)
  have all : (utf8 (Number.tostring (.int i))).all numberByte = true := by
    rw [all_eq_true]
    intro b inside
    rcases marks b inside with rfl | digit
    · decide
    · simp [numberByte, digit]
  obtain ⟨b, more, shape⟩ : ∃ b more, utf8 (Number.tostring (.int i)) = b :: more := by
    rw [utf8_int]
    split
    · exact ⟨_, _, rfl⟩
    · exact exists_cons_of_ne_nil given
  have first := marks b (by rw [shape]; exact mem_cons_self)
  have range : b.toNat = 45 ∨ 48 ≤ b.toNat ∧ b.toNat ≤ 57 := by
    rcases first with rfl | digit
    · exact Or.inl rfl
    · simp only [Number.isDigit, Bool.and_eq_true, decide_eq_true_eq, UInt8.le_iff_toNat_le] at digit
      exact Or.inr digit
  have differs : ∀ c : UInt8, c.toNat ≠ 45 → (c.toNat < 48 ∨ 57 < c.toNat) → b ≠ c := by
    rintro c minus outside rfl
    omega
  have visible : Number.isSpace b = false := by
    rcases first with rfl | digit
    · decide
    · exact isSpace_of_isDigit digit
  refine ⟨rfl, .num _, fun same => (by cases same), ?_, ?_⟩
  · exact ⟨b, more, shape, visible, differs 93 (by decide) (by decide),
      differs 125 (by decide) (by decide)⟩
  · intro fuel rest enough follows
    cases fuel with
    | zero => cases enough
    | succ fuel =>
      have stops : rest.takeWhile numberByte = [] ∧ rest.dropWhile numberByte = rest := by
        rcases follows with rfl | ⟨c, tail, rfl, closes⟩
        · exact ⟨rfl, rfl⟩
        · have none : numberByte c = false := by
            simp only [ends, Bool.or_eq_true, decide_eq_true_eq] at closes
            rcases closes with (rfl | rfl) | rfl <;> decide
          rw [takeWhile_cons, dropWhile_cons, none]
          exact ⟨rfl, rfl⟩
      obtain ⟨taken, dropped⟩ := takeWhile_all all rest
      rw [stops.1, append_nil] at taken
      rw [stops.2] at dropped
      have number : parseNumber (utf8 (Number.tostring (.int i)) ++ rest)
          = .ok (.num (.int i), rest) := by
        rw [parseNumber, taken, dropped, ofText_int least most]
      rw [shape, cons_append] at number ⊢
      rw [parseValue, skipWs_cons visible]
      dsimp only
      rw [if_neg (differs 34 (by decide) (by decide)), if_neg (differs 123 (by decide) (by decide)),
        if_neg (differs 91 (by decide) (by decide)), if_neg (differs 116 (by decide) (by decide)),
        if_neg (differs 102 (by decide) (by decide)), if_neg (differs 110 (by decide) (by decide)),
        if_pos first]
      exact number

/-! ## Sequences -/

structure Item where
  value : Value
  text : Bytes
  result : Value
  reads : Reads value text result

theorem exists_items : ∀ {values : List Value}, (∀ v ∈ values, ∃ text w, Reads v text w) →
    ∃ items : List Item, items.map Item.value = values := by
  intro values
  induction values with
  | nil => intro _; exact ⟨[], rfl⟩
  | cons v rest ih =>
    intro each
    obtain ⟨text, w, reads⟩ := each v mem_cons_self
    obtain ⟨items, same⟩ := ih fun u inside => each u (mem_cons_of_mem _ inside)
    exact ⟨⟨v, text, w, reads⟩ :: items, by rw [map_cons, same]⟩

theorem mapM_encode (items : List Item) :
    (items.map Item.value).mapM encode = .ok (items.map Item.text) := by
  induction items with
  | nil => rfl
  | cons item rest ih =>
    rw [map_cons, mapM_cons, item.reads.encoded, ih]
    rfl

section
variable {fuel : Nat} {s rest : Bytes} {value : Value}

theorem arrayLoop_last {items : List Value}
    (read : parseValue fuel s = .ok (value, 93 :: rest)) (present : value ≠ .nil) :
    arrayLoop (fuel + 1) items s = .ok (.array (items ++ [value]), rest) := by
  rw [arrayLoop, read]
  simp only [bind, Except.bind, if_neg present]
  rw [skipWs_cons (by decide)]
  rfl

theorem arrayLoop_next {items : List Value}
    (read : parseValue fuel s = .ok (value, 44 :: rest)) (present : value ≠ .nil) :
    arrayLoop (fuel + 1) items s = arrayLoop fuel (items ++ [value]) rest := by
  rw [arrayLoop, read]
  simp only [bind, Except.bind, if_neg present]
  rw [skipWs_cons (by decide)]
  rfl

theorem objectLoop_last {entries : List (Value × Value)} {key line : Bytes}
    (read : parseValue fuel s = .ok (value, 125 :: rest)) (shape : line = quote key ++ 58 :: s) :
    objectLoop (fuel + 1) entries line
      = .ok (.table Tag.plain (Value.assign entries (.str key) value), rest) := by
  have visible : skipWs line = line := by
    rw [shape]
    exact skipWs_cons (by decide) _
  rw [objectLoop, visible, shape, parseString_quote]
  simp only [bind, Except.bind]
  rw [skipWs_cons (by decide)]
  simp only [read]
  rw [skipWs_cons (by decide)]
  rfl

theorem objectLoop_next {entries : List (Value × Value)} {key line : Bytes}
    (read : parseValue fuel s = .ok (value, 44 :: rest)) (shape : line = quote key ++ 58 :: s) :
    objectLoop (fuel + 1) entries line
      = objectLoop fuel (Value.assign entries (.str key) value) rest := by
  have visible : skipWs line = line := by
    rw [shape]
    exact skipWs_cons (by decide) _
  rw [objectLoop, visible, shape, parseString_quote]
  simp only [bind, Except.bind]
  rw [skipWs_cons (by decide)]
  simp only [read]
  rw [skipWs_cons (by decide)]
  rfl

end

theorem arrayLoop_items : ∀ (items : List Item) (before : List Value) (fuel : Nat) (rest : Bytes),
    items ≠ [] → (commaJoin (items.map Item.text)).length + 1 < fuel →
      arrayLoop fuel before (commaJoin (items.map Item.text) ++ 93 :: rest)
        = .ok (.array (before ++ items.map Item.result), rest) := by
  intro items
  induction items with
  | nil => intro _ _ _ given; exact absurd rfl given
  | cons item more ih =>
    intro before fuel rest _ enough
    cases fuel with
    | zero => cases enough
    | succ fuel =>
      cases more with
      | nil =>
        have short : item.text.length + 1 < fuel + 1 := enough
        have read := item.reads.read fuel (93 :: rest) (by omega) (follows_cons rfl rest)
        exact arrayLoop_last read item.reads.present
      | cons next others =>
        have given : (next :: others).map Item.text ≠ [] := cons_ne_nil _ _
        have sizes := congrArg List.length (commaJoin_cons item.text given [])
        rw [append_nil, append_nil, length_append, length_cons] at sizes
        rw [map_cons] at enough ⊢
        rw [commaJoin_cons item.text given (93 :: rest)]
        have read := item.reads.read fuel
          (44 :: (commaJoin ((next :: others).map Item.text) ++ 93 :: rest)) (by omega)
          (follows_cons rfl _)
        have later := ih (before ++ [item.result]) fuel rest (cons_ne_nil _ _) (by omega)
        rw [arrayLoop_next read item.reads.present, later, append_assoc]
        rfl

/-! ## Dictionaries -/

def lineText (field : Bytes × Item) : Bytes := quote field.1 ++ 58 :: field.2.text

theorem assign_fresh {key : Bytes} {value : Value} (present : value ≠ .nil) :
    ∀ entries : List (Value × Value), (.str key) ∉ entries.map Prod.fst →
      Value.assign entries (.str key) value = entries ++ [(.str key, value)] := by
  intro entries
  induction entries with
  | nil => intro _; rw [Value.assign, if_neg present]; rfl
  | cons entry rest ih =>
    intro fresh
    obtain ⟨k, v⟩ := entry
    rw [map_cons, mem_cons, not_or] at fresh
    have other : ¬ Value.eq k (.str key) = true := fun same => fresh.1 (Value.eq_of_eq_str same).symm
    rw [Value.assign, if_neg other, ih fresh.2, cons_append]

theorem objectLoop_fields : ∀ (fields : List (Bytes × Item)) (before : List (Value × Value))
    (fuel : Nat) (rest : Bytes), fields ≠ [] →
    (before.map Prod.fst ++ fields.map fun field => Value.str field.1).Nodup →
    (commaJoin (fields.map lineText)).length + 1 < fuel →
      objectLoop fuel before (commaJoin (fields.map lineText) ++ 125 :: rest)
        = .ok (.table Tag.plain
          (before ++ fields.map fun field => (.str field.1, field.2.result)), rest) := by
  intro fields
  induction fields with
  | nil => intro _ _ _ given; exact absurd rfl given
  | cons field more ih =>
    intro before fuel rest _ distinct enough
    obtain ⟨key, item⟩ := field
    have fresh : (.str key) ∉ before.map Prod.fst := by
      intro seen
      exact (nodup_append.mp distinct).2.2 _ seen _ mem_cons_self rfl
    cases fuel with
    | zero => cases enough
    | succ fuel =>
      cases more with
      | nil =>
        have whole : commaJoin ([(key, item)].map lineText) = quote key ++ 58 :: item.text := rfl
        rw [whole, length_append, length_cons] at enough
        have read := item.reads.read fuel (125 :: rest) (by omega) (follows_cons rfl rest)
        rw [whole, append_assoc, cons_append, objectLoop_last read rfl, assign_fresh item.reads.present _ fresh]
        rfl
      | cons next others =>
        have given : (next :: others).map lineText ≠ [] := cons_ne_nil _ _
        have sizes := congrArg List.length (commaJoin_cons (lineText (key, item)) given [])
        have line : (lineText (key, item)).length = (quote key).length + (item.text.length + 1) := by
          rw [lineText, length_append, length_cons]
        rw [append_nil, append_nil, length_append, length_cons, line] at sizes
        rw [map_cons] at enough ⊢
        rw [commaJoin_cons (lineText (key, item)) given (125 :: rest)]
        have read := item.reads.read fuel
          (44 :: (commaJoin ((next :: others).map lineText) ++ 125 :: rest)) (by omega)
          (follows_cons rfl _)
        have shape : lineText (key, item) ++ 44 :: (commaJoin ((next :: others).map lineText)
            ++ 125 :: rest)
            = quote key ++ 58 :: (item.text ++ 44 :: (commaJoin ((next :: others).map lineText)
              ++ 125 :: rest)) := by
          rw [lineText, append_assoc]
          rfl
        rw [objectLoop_next read shape, assign_fresh item.reads.present _ fresh]
        have later := ih (before ++ [(.str key, item.result)]) fuel rest (cons_ne_nil _ _)
          (by rw [map_append, append_assoc]; exact distinct) (by omega)
        rw [later, append_assoc]
        rfl

/-! ## Plain values -/

/-- The values that are written and read back: truth values, 64-bit integers, texts, sequences
and tables with texts as keys, in whatever order `pairs` visits them. -/
inductive Plain : Value → Prop
  | bool (b : Bool) : Plain (.bool b)
  | int {i : Int} (least : -2 ^ 63 ≤ i) (most : i < 2 ^ 63) : Plain (.num (.int i))
  | str (s : Bytes) : Plain (.str s)
  | sequence {tag : Tag} {entries : List (Value × Value)} (values : List Value)
      (listed : entries.Perm (arrayEntries values 0)) (each : ∀ v ∈ values, Plain v) :
      Plain (.table tag entries)
  | dictionary {tag : Tag} {entries : List (Value × Value)}
      (named : ∀ entry ∈ entries, ∃ s, entry.1 = .str s) (distinct : (entries.map Prod.fst).Nodup)
      (each : ∀ entry ∈ entries, Plain entry.2) : Plain (.table tag entries)

/-! ### Sequences in any order -/

variable {values : List Value}

theorem mem_arrayEntries {entry : Value × Value} :
    entry ∈ arrayEntries values 0 ↔ ∃ (i : Nat) (inside : i < values.length),
      entry = (.nat (i + 1), values[i]) := by
  simp only [arrayEntries, mem_map, Prod.exists, mem_zipIdx_iff_getElem?, List.getElem?_eq_some_iff]
  constructor
  · rintro ⟨v, i, ⟨inside, same⟩, shape⟩
    exact ⟨i, inside, by rw [same]; exact shape.symm⟩
  · rintro ⟨i, inside, shape⟩
    exact ⟨_, i, ⟨inside, rfl⟩, shape.symm⟩

theorem maxKey_nat : ∀ {entries : List (Value × Value)}, (∀ entry ∈ entries, ∃ k, entry.1 = .nat k) →
    ∃ m : Nat, maxKey entries = .int m ∧ (∀ entry ∈ entries, ∀ k, entry.1 = .nat k → k ≤ m)
      ∧ (m = 0 ∨ ∃ entry ∈ entries, entry.1 = .nat m) := by
  intro entries
  induction entries with
  | nil => intro _; exact ⟨0, rfl, fun _ inside => (nomatch inside), Or.inl rfl⟩
  | cons entry rest ih =>
    intro natural
    obtain ⟨key, v⟩ := entry
    obtain ⟨k, rfl⟩ : ∃ k, key = .nat k := natural _ mem_cons_self
    obtain ⟨m, greatest, above, attained⟩ := ih fun e inside => natural e (mem_cons_of_mem _ inside)
    have keyed : ∀ j, Value.nat k = .nat j → j = k := by
      intro j same
      injection same with same
      injection same with same
      exact (Int.ofNat.inj same).symm
    have step : maxKey ((.nat k, v) :: rest) = if Number.lt (maxKey rest) (.int k) = true then .int k
        else maxKey rest := rfl
    rw [step, greatest]
    by_cases more : m < k
    · have less : Number.lt (.int m) (.int k) = true := decide_eq_true (by omega)
      rw [if_pos less]
      refine ⟨k, rfl, ?_, Or.inr ⟨_, mem_cons_self, rfl⟩⟩
      intro e inside j named
      rcases mem_cons.mp inside with rfl | inside
      · exact Nat.le_of_eq (keyed j named)
      · have below := above e inside j named
        omega
    · have less : ¬ Number.lt (.int m) (.int k) = true := by
        simp only [Number.lt, decide_eq_true_eq]
        omega
      rw [if_neg less]
      refine ⟨m, rfl, ?_, ?_⟩
      · intro e inside j named
        rcases mem_cons.mp inside with rfl | inside
        · rw [keyed j named]
          omega
        · exact above e inside j named
      · rcases attained with zero | ⟨e, inside, named⟩
        · exact Or.inl zero
        · exact Or.inr ⟨e, mem_cons_of_mem _ inside, named⟩

section
variable {entries : List (Value × Value)}

section
variable (listed : entries.Perm (arrayEntries values 0))
include listed

theorem isArray_perm : isArray entries = true := by
  have members : ∀ entry ∈ entries, ∃ (i : Nat) (inside : i < values.length),
      entry = (.nat (i + 1), values[i]) := fun entry inside =>
    mem_arrayEntries.mp (listed.mem_iff.mp inside)
  have keys : entries.all (fun entry => arrayKey entry.1) = true := by
    have sorted := isArray_arrayEntries values
    rw [isArray, Bool.and_eq_true] at sorted
    rw [all_eq_true] at sorted ⊢
    exact fun entry inside => sorted.1 entry (listed.mem_iff.mp inside)
  have length : entries.length = values.length := by
    rw [listed.length_eq, length_arrayEntries]
  obtain ⟨m, greatest, above, attained⟩ := @maxKey_nat entries fun entry inside => by
    obtain ⟨i, -, rfl⟩ := members entry inside
    exact ⟨i + 1, rfl⟩
  have whole : m = values.length := by
    apply Nat.le_antisymm
    · rcases attained with zero | ⟨entry, inside, named⟩
      · omega
      · obtain ⟨i, bound, rfl⟩ := members entry inside
        injection named with named
        injection named with named
        have same : i + 1 = m := Int.ofNat.inj named
        omega
    · by_cases empty : values.length = 0
      · omega
      · have last : (Value.nat (values.length - 1 + 1), values[values.length - 1]) ∈ entries :=
          listed.mem_iff.mpr (mem_arrayEntries.mpr ⟨values.length - 1, by omega, rfl⟩)
        have reached := above _ last _ rfl
        omega
  rw [isArray, keys, greatest, whole, length, Bool.true_and]
  simp [Number.eq]

theorem partAt_perm {i : Nat} (inside : i < values.length) :
    partAt (encodeEntries entries) (i + 1) = encode values[i] := by
  rw [partAt, encodeEntries_eq_map]
  have present : (Value.nat (i + 1), values[i]) ∈ entries :=
    listed.mem_iff.mpr (mem_arrayEntries.mpr ⟨i, inside, rfl⟩)
  cases found : (entries.map encodeEntry).find? (fun part => part.1.eq (.nat (i + 1))) with
  | none =>
    have none := List.find?_eq_none.mp found _ (mem_map_of_mem present)
    exact absurd (by rw [encodeEntry, Value.eq_nat]; exact decide_eq_true rfl) none
  | some part =>
    have named := List.find?_some found
    obtain ⟨entry, member, rfl⟩ := mem_map.mp (mem_of_find?_eq_some found)
    obtain ⟨j, bound, rfl⟩ := mem_arrayEntries.mp (listed.mem_iff.mp member)
    rw [encodeEntry, Value.eq_nat, decide_eq_true_eq] at named
    have same : j = i := by omega
    subst same
    rfl

theorem encode_perm : encode (.table tag entries) = encode (.array values) := by
  have length : (encodeEntries entries).length = values.length := by
    rw [encodeEntries_eq_map, length_map, listed.length_eq, length_arrayEntries]
  have length' : (encodeEntries (arrayEntries values 0)).length = values.length := by
    rw [encodeEntries_eq_map, length_map, length_arrayEntries]
  have array : Value.array values = .table Tag.plain (arrayEntries values 0) := rfl
  rw [array, encode, encode, if_pos (isArray_perm listed), if_pos (isArray_arrayEntries values),
    arrayText, arrayText, length, length']
  rw [mapM_agree fun i member => ?_]
  rw [partAt_perm listed (mem_range.mp member),
    partAt_perm (List.Perm.refl _) (mem_range.mp member)]

end

end

theorem lookup_of_apart {stored : Value} : ∀ {entries : List (Value × Value)},
    (stored, v) ∈ entries → Value.eq stored key = true →
      (∀ entry ∈ entries, Value.eq entry.1 key = true → entry = (stored, v)) →
        Value.lookup entries key = v := by
  intro entries
  induction entries with
  | nil => intro member; cases member
  | cons entry rest ih =>
    obtain ⟨k, w⟩ := entry
    intro member equal apart
    rw [Value.lookup]
    by_cases same : Value.eq k key = true
    · have first := apart _ mem_cons_self same
      rw [if_pos same]
      exact (Prod.mk.inj first).2
    · rw [if_neg same]
      refine ih ?_ equal fun entry inside => apart entry (mem_cons_of_mem _ inside)
      rcases mem_cons.mp member with here | there
      · cases here
        exact absurd equal same
      · exact there

theorem lookup_of_absent : ∀ {entries : List (Value × Value)},
    (∀ entry ∈ entries, ¬ Value.eq entry.1 key = true) → Value.lookup entries key = .nil := by
  intro entries
  induction entries with
  | nil => intro _; rfl
  | cons entry rest ih =>
    obtain ⟨k, w⟩ := entry
    intro absent
    rw [Value.lookup, if_neg (absent _ mem_cons_self)]
    exact ih fun entry inside => absent entry (mem_cons_of_mem _ inside)

theorem nat_eq_unique {a b : Nat} (first : Value.eq (.nat a) key = true)
    (second : Value.eq (.nat b) key = true) : a = b := by
  cases key with
  | num n =>
    have same : Number.eq (.int a) (.int b) = true :=
      eq_euclidean (eq_symm first) (eq_symm second)
    simp only [Number.eq, beq_iff_eq] at same
    exact Int.ofNat.inj same
  | _ => cases first

theorem lookup_sequence {entries : List (Value × Value)}
    (listed : entries.Perm (arrayEntries values 0)) {i : Nat} (inside : i < values.length)
    (equal : Value.eq (.nat (i + 1)) key = true) :
    Value.lookup entries key = values[i] := by
  refine lookup_of_apart (listed.mem_iff.mpr (mem_arrayEntries.mpr ⟨i, inside, rfl⟩)) equal ?_
  intro entry member same
  obtain ⟨j, bound, rfl⟩ := mem_arrayEntries.mp (listed.mem_iff.mp member)
  have equals := nat_eq_unique same equal
  have index : j = i := by omega
  subst index
  rfl

theorem lookup_sequence_absent {entries : List (Value × Value)}
    (listed : entries.Perm (arrayEntries values 0))
    (absent : ∀ i < values.length, ¬ Value.eq (.nat (i + 1)) key = true) :
    Value.lookup entries key = .nil := by
  apply lookup_of_absent
  intro entry member
  obtain ⟨i, inside, rfl⟩ := mem_arrayEntries.mp (listed.mem_iff.mp member)
  exact absent i inside

theorem alike_sequence {tag' : Tag} {entries : List (Value × Value)} {items : List Item}
    (listed : entries.Perm (arrayEntries (items.map Item.value) 0)) :
    Alike (.table tag entries) (.table tag' (arrayEntries (items.map Item.result) 0)) := by
  refine .table fun key => ?_
  by_cases found : ∃ i, i < items.length ∧ Value.eq (.nat (i + 1)) key = true
  · obtain ⟨i, inside, equal⟩ := found
    rw [lookup_sequence listed (i := i) (by rw [length_map]; exact inside) equal,
      lookup_sequence (List.Perm.refl _) (i := i) (by rw [length_map]; exact inside) equal,
      getElem_map, getElem_map]
    exact items[i].reads.alike
  · have absent : ∀ i, i < items.length → ¬ Value.eq (.nat (i + 1)) key = true :=
      fun i inside equal => found ⟨i, inside, equal⟩
    rw [lookup_sequence_absent listed fun i inside => absent i (by rwa [length_map] at inside),
      lookup_sequence_absent (List.Perm.refl _) fun i inside =>
        absent i (by rwa [length_map] at inside)]
    exact .nil

theorem commaJoin_opens {more : Bytes} {texts : List Bytes} :
    ∃ after, commaJoin ((b :: more) :: texts) = b :: after := by
  cases texts with
  | nil => exact ⟨more, rfl⟩
  | cons next others =>
    have joined := commaJoin_cons (b :: more) (cons_ne_nil next others) []
    rw [append_nil, append_nil] at joined
    exact ⟨_, joined⟩

theorem reads_sequence {entries : List (Value × Value)} {items : List Item}
    (listed : entries.Perm (arrayEntries (items.map Item.value) 0)) :
    ∃ text w, Reads (.table tag entries) text w := by
  refine ⟨91 :: (commaJoin (items.map Item.text) ++ [93]), .array (items.map Item.result), ?_,
    alike_sequence listed, fun same => (nomatch same), ?_, ?_⟩
  · rw [encode_perm listed, encode_array, mapM_encode]
    rfl
  · exact ⟨91, _, rfl, by decide, by decide, by decide⟩
  · intro fuel rest enough _
    cases fuel with
    | zero => cases enough
    | succ fuel =>
      have shape : 91 :: (commaJoin (items.map Item.text) ++ [93]) ++ rest
          = 91 :: (commaJoin (items.map Item.text) ++ 93 :: rest) := by
        rw [cons_append, append_assoc]
        rfl
      rw [length_cons, length_append, length_singleton] at enough
      rw [shape, parseValue, skipWs_cons (by decide)]
      dsimp only
      rw [if_neg (by decide), if_neg (by decide), if_pos rfl]
      cases items with
      | nil => rfl
      | cons item others =>
        obtain ⟨b, more, opened, visible, unclosed, -⟩ := item.reads.opens
        have read := arrayLoop_items (item :: others) [] fuel rest (cons_ne_nil _ _) (by omega)
        rw [nil_append] at read
        obtain ⟨after, front⟩ := @commaJoin_opens b more (others.map Item.text)
        rw [map_cons, opened, front, cons_append] at read ⊢
        rw [skipWs_cons visible]
        split
        · rename_i same
          injection same with same
          exact absurd same unclosed
        · exact read

/-! ### Dictionaries -/

def givenEntry (field : Bytes × Item) : Value × Value := (.str field.1, field.2.value)

def readEntry (field : Bytes × Item) : Value × Value := (.str field.1, field.2.result)

theorem exists_fields : ∀ {entries : List (Value × Value)},
    (∀ entry ∈ entries, ∃ s, entry.1 = .str s) →
    (∀ entry ∈ entries, ∃ text w, Reads entry.2 text w) →
      ∃ fields : List (Bytes × Item), entries = fields.map givenEntry := by
  intro entries
  induction entries with
  | nil => intro _ _; exact ⟨[], rfl⟩
  | cons entry rest ih =>
    intro named each
    obtain ⟨fields, rfl⟩ := ih (fun e inside => named e (mem_cons_of_mem _ inside))
      fun e inside => each e (mem_cons_of_mem _ inside)
    obtain ⟨key, v⟩ := entry
    obtain ⟨s, rfl⟩ : ∃ s, key = .str s := named _ mem_cons_self
    obtain ⟨text, w, reads⟩ := each _ mem_cons_self
    exact ⟨(s, ⟨v, text, w, reads⟩) :: fields, rfl⟩

def sortFields (fields : List (Bytes × Item)) : List (Bytes × Item) :=
  fields.insertionSort fun a b => TextLe a.1 b.1

theorem mapM_lines (fields : List (Bytes × Item)) :
    (fields.map fun field => encodeEntry (givenEntry field)).mapM lineOf
      = .ok (fields.map lineText) := by
  induction fields with
  | nil => rfl
  | cons field rest ih =>
    have line : lineOf (encodeEntry (givenEntry field)) = .ok (lineText field) := by
      rw [encodeEntry, givenEntry]
      show (encode field.2.value >>= fun text => pure (quote field.1 ++ utf8 ":" ++ text)) = _
      rw [field.2.reads.encoded]
      show Except.ok (quote field.1 ++ [58] ++ field.2.text) = _
      rw [append_assoc]
      rfl
    rw [map_cons, mapM_cons, line, ih]
    rfl

variable {fields : List (Bytes × Item)}

theorem encode_dictionary (given : fields ≠ []) :
    encode (.table tag (fields.map givenEntry))
      = .ok (123 :: (commaJoin ((sortFields fields).map lineText) ++ [125])) := by
  have record : isArray (fields.map givenEntry) = false := by
    cases fields with
    | nil => exact absurd rfl given
    | cons field rest => rfl
  have sorted := map_insertionSort (fun a b : Bytes × Item => TextLe a.1 b.1)
    (fun a b : Value × Except Failure Bytes => TextLe a.1.tostring b.1.tostring)
    (fun field => encodeEntry (givenEntry field)) fields fun a _ b _ => Iff.rfl
  rw [encode, record, if_neg Bool.false_ne_true, encodeEntries_eq_map, map_map, objectText_eq]
  show ((fields.map fun field => encodeEntry (givenEntry field)).insertionSort _).mapM lineOf >>= _
    = _
  rw [← sorted, mapM_lines]
  rfl

theorem eq_str_of_eq {s : Bytes} (equal : Value.eq (.str s) key = true) :
    key = .str s := by
  cases key with
  | str t =>
    rw [Value.eq_str, decide_eq_true_eq] at equal
    rw [equal]
  | _ => cases equal

theorem lookup_fields (distinct : (fields.map Prod.fst).Nodup) {side : Bytes × Item → Value × Value}
    (keyed : ∀ field, (side field).1 = .str field.1) {field : Bytes × Item}
    (inside : field ∈ fields) (equal : Value.eq (.str field.1) key = true) :
    Value.lookup (fields.map side) key = (side field).2 := by
  have member : ((side field).1, (side field).2) ∈ fields.map side := mem_map_of_mem inside
  refine lookup_of_apart member (by rw [keyed]; exact equal) ?_
  intro entry there same
  obtain ⟨other, within, rfl⟩ := mem_map.mp there
  rw [keyed] at same
  have names : other.1 = field.1 := by
    have one := eq_str_of_eq equal
    have two := eq_str_of_eq same
    rw [one] at two
    injection two with two
    exact two.symm
  rw [inj_on_of_nodup_map distinct within inside names]

theorem lookup_fields_absent {side : Bytes × Item → Value × Value}
    (keyed : ∀ field, (side field).1 = .str field.1)
    (absent : ∀ field ∈ fields, ¬ Value.eq (.str field.1) key = true) :
    Value.lookup (fields.map side) key = .nil := by
  apply lookup_of_absent
  intro entry there
  obtain ⟨field, inside, rfl⟩ := mem_map.mp there
  rw [keyed]
  exact absent field inside

theorem alike_dictionary {tag' : Tag} {sorted : List (Bytes × Item)}
    (distinct : (fields.map Prod.fst).Nodup) (perm : sorted.Perm fields) :
    Alike (.table tag (fields.map givenEntry)) (.table tag' (sorted.map readEntry)) := by
  have distinct' : (sorted.map Prod.fst).Nodup := (perm.map Prod.fst).nodup_iff.mpr distinct
  refine .table fun key => ?_
  by_cases found : ∃ field ∈ fields, Value.eq (.str field.1) key = true
  · obtain ⟨field, inside, equal⟩ := found
    rw [lookup_fields distinct (fun _ => rfl) inside equal,
      lookup_fields distinct' (fun _ => rfl) (perm.mem_iff.mpr inside) equal]
    exact field.2.reads.alike
  · have absent : ∀ field ∈ fields, ¬ Value.eq (.str field.1) key = true :=
      fun field inside equal => found ⟨field, inside, equal⟩
    rw [lookup_fields_absent (fun _ => rfl) absent,
      lookup_fields_absent (fun _ => rfl) fun field inside => absent field (perm.mem_iff.mp inside)]
    exact .nil

theorem reads_dictionary (given : fields ≠ []) (distinct : (fields.map Prod.fst).Nodup) :
    ∃ text w, Reads (.table tag (fields.map givenEntry)) text w := by
  have perm : (sortFields fields).Perm fields := perm_insertionSort _ _
  refine ⟨123 :: (commaJoin ((sortFields fields).map lineText) ++ [125]),
    .table Tag.plain ((sortFields fields).map readEntry), encode_dictionary given,
    alike_dictionary distinct perm, fun same => (nomatch same), ?_, ?_⟩
  · exact ⟨123, _, rfl, by decide, by decide, by decide⟩
  · intro fuel rest enough _
    cases fuel with
    | zero => cases enough
    | succ fuel =>
      have shape : 123 :: (commaJoin ((sortFields fields).map lineText) ++ [125]) ++ rest
          = 123 :: (commaJoin ((sortFields fields).map lineText) ++ 125 :: rest) := by
        rw [cons_append, append_assoc]
        rfl
      have sortedGiven : sortFields fields ≠ [] := by
        intro none
        rw [none] at perm
        exact given perm.nil_eq.symm
      have names : (([] : List (Value × Value)).map Prod.fst
          ++ (sortFields fields).map fun field => Value.str field.1).Nodup := by
        rw [map_nil, nil_append]
        have sortedDistinct := (perm.map Prod.fst).nodup_iff.mpr distinct
        have mapped := sortedDistinct.map (f := Value.str) fun a b same => Value.str.inj same
        rwa [map_map] at mapped
      rw [length_cons, length_append, length_singleton] at enough
      rw [shape, parseValue, skipWs_cons (by decide)]
      dsimp only
      rw [if_neg (by decide), if_pos rfl]
      have read := objectLoop_fields (sortFields fields) [] fuel rest sortedGiven names (by omega)
      rw [nil_append] at read
      obtain ⟨first, others, front⟩ := exists_cons_of_ne_nil sortedGiven
      rw [front] at read ⊢
      obtain ⟨after, joined⟩ := @commaJoin_opens 34
        (escapeString first.1 ++ [34] ++ 58 :: first.2.text) (others.map lineText)
      have line : lineText first = 34 :: (escapeString first.1 ++ [34] ++ 58 :: first.2.text) := rfl
      rw [map_cons, line, joined, cons_append] at read ⊢
      rw [skipWs_cons (by decide)]
      exact read

/-! ## The round trip -/

theorem reads_plain (plain : Plain v) : ∃ text w, Reads v text w := by
  induction plain with
  | bool b =>
    obtain ⟨text, reads⟩ := reads_bool b
    exact ⟨text, _, reads⟩
  | int least most => exact ⟨_, _, reads_int least most⟩
  | str s => exact ⟨_, _, reads_str s⟩
  | sequence values listed _ ih =>
    obtain ⟨items, rfl⟩ := exists_items ih
    exact reads_sequence listed
  | @dictionary tag entries named distinct _ ih =>
    obtain ⟨fields, rfl⟩ := exists_fields named ih
    by_cases given : fields = []
    · subst given
      exact reads_sequence
        (List.Perm.refl (arrayEntries (([] : List Item).map Item.value) 0))
    · refine reads_dictionary given ?_
      rw [map_map] at distinct
      exact List.Nodup.of_map Value.str (by rw [map_map]; exact distinct)

theorem decode_of_reads {text : Bytes} (reads : Reads v text w) :
    decode text = .ok w := by
  have read := reads.read (text.length + 1) [] (Nat.lt_succ_self _) (Or.inl rfl)
  rw [append_nil] at read
  rw [decode, read]
  rfl

theorem alike_of_encode {u : Value} {text : Bytes} (left : Plain u) (right : Plain v)
    (written : encode u = .ok text) (written' : encode v = .ok text) : Alike u v := by
  obtain ⟨_, w, reads⟩ := reads_plain left
  obtain ⟨_, w', reads'⟩ := reads_plain right
  rw [reads.encoded] at written
  rw [reads'.encoded] at written'
  cases written
  cases written'
  have same := (decode_of_reads reads).symm.trans (decode_of_reads reads')
  cases same
  exact reads.alike.trans reads'.alike.symm

/-- Plain values are written to a text that reads back as the same data, so that a text, also the
one that a digest hashes, is written for the same data only. -/
theorem json_round_trip (v : Value) (plain : Plain v) :
    (∃ text w, encode v = .ok text ∧ Digest.record v = .ok (Digest.sha256 text)
      ∧ decode text = .ok w ∧ Alike v w)
    ∧ ∀ u, Plain u → ∀ text, encode u = .ok text → encode v = .ok text → Alike u v := by
  obtain ⟨text, w, reads⟩ := reads_plain plain
  have hashed : Digest.record v = .ok (Digest.sha256 text) := by rw [Digest.record, reads.encoded]
  refine ⟨⟨text, w, reads.encoded, hashed, decode_of_reads reads, reads.alike⟩, ?_⟩
  intro u plain' text' written written'
  exact alike_of_encode plain' plain written written'

theorem json_round_trip_nested :
    let v : Value := .record [("a\n", .array [.bool true, .num (.int (-5)), .text "\u0000"])]
    ∃ text w, encode v = .ok text ∧ decode text = .ok w ∧ Alike v w := by
  have inner : Plain (.array [.bool true, .num (.int (-5)), .text "\u0000"]) := by
    refine .sequence [.bool true, .num (.int (-5)), .text "\u0000"] (List.Perm.refl _) ?_
    intro v inside
    simp only [mem_cons, not_mem_nil, or_false] at inside
    rcases inside with rfl | rfl | rfl
    · exact .bool true
    · exact .int (by decide) (by decide)
    · exact .str _
  have plain : Plain (.record [("a\n", .array [.bool true, .num (.int (-5)), .text "\u0000"])]) := by
    refine .dictionary ?_ (nodup_singleton _) ?_
    · intro entry inside
      rw [mem_singleton.mp inside]
      exact ⟨_, rfl⟩
    · intro entry inside
      rw [mem_singleton.mp inside]
      exact inner
  obtain ⟨⟨text, w, written, -, read, alike⟩, -⟩ := json_round_trip _ plain
  exact ⟨text, w, written, read, alike⟩

end Proc17.Core.Json
