import Proc17.Core.Json

/-!
# Where a JSON text ends

The text of a value tells its own end: read from its first byte, no bracket closes and
no comma stands before the end outside the brackets and strings the text itself opens.
So the text of a record gives back the texts of its fields.
-/

namespace Proc17.Lua

namespace Number

/-! ## The bytes of number texts -/

def textChar (c : Char) : Bool := c.isDigit || "-+.einfa".toList.contains c

variable {c : Char}

theorem textChar_ascii (is : textChar c = true) : c.toNat < 128 := by
  simp only [textChar, Bool.or_eq_true] at is
  rcases is with digit | mark
  · have range := digit_range c digit
    omega
  · have marks : ("-+.einfa".toList.all fun d => decide (d.toNat < 128)) = true := by decide
    exact of_decide_eq_true (List.all_eq_true.mp marks c (List.contains_iff_mem.mp mark))

theorem textChar_of_digit (digit : c.isDigit = true) : textChar c = true := by
  rw [textChar, digit, Bool.true_or]

theorem digit_of_mem_stripZeros {digits : List Char} (member : c ∈ stripZeros digits) :
    c ∈ digits := by
  rw [stripZeros, List.mem_reverse] at member
  exact List.mem_reverse.mp ((List.dropWhile_sublist _).subset member)

theorem isDigit_of_mem_toDigits {n : Nat} (member : c ∈ Nat.toDigits 10 n) :
    c.isDigit = true :=
  Nat.isDigit_of_mem_toDigits (by decide) (by decide) member

/-- The layout of `%.14g` for significant digits and their decimal exponent. -/
def layoutG (digits : List Char) (e : Int) : List Char :=
  if e < -4 ∨ 14 ≤ e then
    digits.take 1
      ++ (if digits.length ≤ 1 then [] else '.' :: digits.drop 1)
      ++ ['e', if e < 0 then '-' else '+']
      ++ (if (Nat.toDigits 10 e.natAbs).length < 2 then '0' :: Nat.toDigits 10 e.natAbs
        else Nat.toDigits 10 e.natAbs)
  else if 0 ≤ e then
    digits.take (e.toNat + 1) ++ List.replicate (e.toNat + 1 - digits.length) '0'
      ++ (if digits.length ≤ e.toNat + 1 then [] else '.' :: digits.drop (e.toNat + 1))
  else
    ['0', '.'] ++ List.replicate ((-e).toNat - 1) '0' ++ digits

theorem formatG_eq_layoutG (num den : Nat) :
    ∃ m e, formatG num den = layoutG (stripZeros (Nat.toDigits 10 m)) e := ⟨_, _, rfl⟩

theorem textChar_of_mem_formatG {num den : Nat} (member : c ∈ formatG num den) :
    textChar c = true := by
  have stripped : ∀ m, c ∈ stripZeros (Nat.toDigits 10 m) → textChar c = true := fun m there =>
    textChar_of_digit (isDigit_of_mem_toDigits (digit_of_mem_stripZeros there))
  have point : ∀ items : List Char, (c ∈ items → textChar c = true) → c ∈ '.' :: items →
      textChar c = true := by
    intro items inside there
    rcases List.mem_cons.mp there with rfl | later
    · decide
    · exact inside later
  have zeros : ∀ k, c ∈ List.replicate k '0' → textChar c = true := by
    intro k there
    rw [(List.mem_replicate.mp there).2]
    decide
  obtain ⟨m, e, shape⟩ := formatG_eq_layoutG num den
  rw [shape, layoutG] at member
  split at member
  · simp only [List.mem_append] at member
    rcases member with ((first | fraction) | mark) | exponent
    · exact stripped _ (List.mem_of_mem_take first)
    · split at fraction
      · cases fraction
      · exact point _ (fun there => stripped _ (List.mem_of_mem_drop there)) fraction
    · have marks : c = 'e' ∨ c = '-' ∨ c = '+' := by
        split at mark <;> simp only [List.mem_cons, List.not_mem_nil, or_false] at mark <;> tauto
      rcases marks with rfl | rfl | rfl <;> decide
    · split at exponent
      · rcases List.mem_cons.mp exponent with rfl | later
        · decide
        · exact textChar_of_digit (isDigit_of_mem_toDigits later)
      · exact textChar_of_digit (isDigit_of_mem_toDigits exponent)
  · split at member
    · simp only [List.mem_append] at member
      rcases member with (whole | pad) | fraction
      · exact stripped _ (List.mem_of_mem_take whole)
      · exact zeros _ pad
      · split at fraction
        · cases fraction
        · exact point _ (fun there => stripped _ (List.mem_of_mem_drop there)) fraction
    · simp only [List.mem_append] at member
      rcases member with (lead | pad) | digits
      · have marks : c = '0' ∨ c = '.' := by simpa using lead
        rcases marks with rfl | rfl <;> decide
      · exact zeros _ pad
      · exact stripped _ digits

def intChar (c : Char) : Bool := c = '-' || c.isDigit

theorem intChar_of_mem_int {i : Int} (member : c ∈ (toString i).toList) :
    intChar c = true := by
  have digits : ∀ n : Nat, c ∈ (toString n).toList → c.isDigit = true := by
    intro n there
    rw [show (toString n) = String.ofList (Nat.toDigits 10 n) from rfl, String.toList_ofList] at there
    exact isDigit_of_mem_toDigits there
  cases i with
  | ofNat n =>
    have there : c ∈ (toString n).toList := member
    rw [intChar, digits n there, Bool.or_true]
  | negSucc n =>
    have there : c ∈ ("-" ++ toString (n + 1)).toList := member
    rw [String.toList_append, List.mem_append] at there
    rcases there with sign | rest
    · have : c = '-' := by simpa using sign
      simp [intChar, this]
    · rw [intChar, digits (n + 1) rest, Bool.or_true]

theorem textChar_of_intChar (is : intChar c = true) : textChar c = true := by
  simp only [intChar, Bool.or_eq_true, decide_eq_true_eq] at is
  rcases is with rfl | digit
  · decide
  · exact textChar_of_digit digit

theorem markFloat_not_int (text : List Char) : (markFloat text).all intChar = false := by
  unfold markFloat
  split
  · simp [List.all_append, intChar]
  · rename_i marked
    exact Bool.eq_false_iff.mpr marked

theorem textChar_of_mem_markFloat {text : List Char} (each : ∀ d ∈ text, textChar d = true)
    (member : c ∈ markFloat text) : textChar c = true := by
  unfold markFloat at member
  split at member
  · rcases List.mem_append.mp member with there | mark
    · exact each c there
    · have marks : ['.', '0'].all textChar = true := by decide
      exact List.all_eq_true.mp marks c mark
  · exact each c member

theorem textChar_of_mem_tostring {n : Number} (member : c ∈ n.tostring.toList) :
    textChar c = true := by
  cases n with
  | int i => exact textChar_of_intChar (intChar_of_mem_int member)
  | float x =>
    cases x with
    | zero =>
      have marks : ['0', '.', '0'].all textChar = true := by decide
      exact List.all_eq_true.mp marks c member
    | ofOdd n k odd =>
      simp only [tostring, String.toList_ofList] at member
      refine textChar_of_mem_markFloat (fun d there => ?_) member
      split at there
      · rcases List.mem_cons.mp there with rfl | later
        · decide
        · exact textChar_of_mem_formatG later
      · exact textChar_of_mem_formatG there
  | inf negative =>
    cases negative
    · have marks : ['i', 'n', 'f'].all textChar = true := by decide
      exact List.all_eq_true.mp marks c member
    · have marks : ['-', 'i', 'n', 'f'].all textChar = true := by decide
      exact List.all_eq_true.mp marks c member
  | nan =>
    have marks : ['n', 'a', 'n'].all textChar = true := by decide
    exact List.all_eq_true.mp marks c member

theorem eq_of_tostring_eq {a b : Number} (same : a.tostring = b.tostring) (equal : eq a b = true) :
    a = b := by
  have apart : ∀ (i : Int) (x : Dyadic), toString i ≠ (Number.float x).tostring := by
    intro i x texts
    have all : (Number.float x).tostring.toList.all intChar = true := by
      rw [← texts, List.all_eq_true]
      exact fun c member => intChar_of_mem_int member
    cases x with
    | zero => exact absurd all (by decide)
    | ofOdd n k odd =>
      simp only [tostring, String.toList_ofList, markFloat_not_int] at all
      cases all
  cases a with
  | int i =>
    cases b with
    | int j => simpa [eq] using equal
    | float x => exact absurd same (apart i x)
    | inf | nan => simp [eq, exact] at equal
  | float x =>
    cases b with
    | int j => exact absurd same.symm (apart j x)
    | float y => simpa [eq, exact] using equal
    | inf | nan => simp [eq, exact] at equal
  | inf negative =>
    cases b with
    | inf other => simpa [eq] using equal
    | _ => simp [eq, exact] at equal
  | nan => cases b <;> simp [eq, exact] at equal

end Number

end Proc17.Lua

namespace Proc17.Core.Json

open Lua List Number

/-! ## Reading a text -/

/-- Inside a string, and there after a backslash. -/
inductive Mode where
  | plain
  | quoted
  | escaped

def plainByte (b : UInt8) : Bool := !([34, 44, 91, 93, 123, 125].contains b)

/-- The depth of open brackets and the mode after one more byte; nothing where the byte
ends the text that stood at depth zero. -/
def readByte : Nat × Mode → UInt8 → Option (Nat × Mode)
  | (d, .escaped), _ => some (d, .quoted)
  | (d, .quoted), b =>
    if b = 34 then some (d, .plain) else if b = 92 then some (d, .escaped)
    else some (d, .quoted)
  | (d, .plain), b =>
    if b = 34 then some (d, .quoted)
    else if b = 91 ∨ b = 123 then some (d + 1, .plain)
    else if b = 93 ∨ b = 125 then (if d = 0 then none else some (d - 1, .plain))
    else if b = 44 then (if d = 0 then none else some (d, .plain))
    else some (d, .plain)

def readBytes (s : Nat × Mode) : Bytes → Option (Nat × Mode)
  | [] => some s
  | b :: rest => (readByte s b).bind fun t => readBytes t rest

theorem readBytes_append (left right : Bytes) : ∀ s : Nat × Mode,
    readBytes s (left ++ right) = (readBytes s left).bind fun t => readBytes t right := by
  induction left with
  | nil => intro s; rfl
  | cons b rest ih =>
    intro s
    rw [cons_append, readBytes, readBytes]
    cases readByte s b with
    | none => rfl
    | some t => exact ih t

def Complete (text : Bytes) : Prop := ∀ d, readBytes (d, .plain) text = some (d, .plain)

def ends (b : UInt8) : Bool := b = 44 || b = 93 || b = 125

theorem complete_nil : Complete [] := fun _ => rfl

theorem Complete.append {left right : Bytes} (first : Complete left) (second : Complete right) :
    Complete (left ++ right) := by
  intro d
  rw [readBytes_append, first d]
  exact second d

variable {text : Bytes}

theorem complete_of_plain (plain : ∀ b ∈ text, plainByte b = true) :
    Complete text := by
  intro d
  induction text with
  | nil => rfl
  | cons b rest ih =>
    have first := plain b mem_cons_self
    simp only [plainByte, contains_cons, contains_nil, Bool.or_false, Bool.not_eq_true',
      Bool.or_eq_false_iff, beq_eq_false_iff_ne, ne_eq] at first
    have step : readByte (d, .plain) b = some (d, .plain) := by
      simp [readByte, first]
    rw [readBytes, step]
    exact ih fun c member => plain c (mem_cons_of_mem _ member)

theorem complete_cancel {more : Bytes} {b : UInt8} (first : Complete text) (stop : ends b = true) :
    ¬ Complete (text ++ b :: more) := by
  intro whole
  have read := whole 0
  rw [readBytes_append, first 0] at read
  have none : readByte (0, .plain) b = none := by
    simp only [ends, Bool.or_eq_true, decide_eq_true_eq] at stop
    rcases stop with (rfl | rfl) | rfl <;> rfl
  simp only [Option.bind_some, readBytes, none, Option.bind_none] at read
  cases read

theorem complete_unique {first second : Bytes} {b c : UInt8} {left right : Bytes}
    (one : Complete first) (two : Complete second) (bEnds : ends b = true) (cEnds : ends c = true)
    (same : first ++ b :: left = second ++ c :: right) :
    first = second ∧ b :: left = c :: right := by
  rcases append_eq_append_iff.mp same with ⟨gap, longer, rest⟩ | ⟨gap, longer, rest⟩
  · cases gap with
    | nil => exact ⟨by simpa using longer.symm, by simpa using rest⟩
    | cons x gap =>
      cases rest
      exact absurd (longer ▸ two) (complete_cancel one bEnds)
  · cases gap with
    | nil => exact ⟨by simpa using longer, by simpa using rest.symm⟩
    | cons x gap =>
      cases rest
      exact absurd (longer ▸ one) (complete_cancel two cEnds)

/-! ## Texts of values are complete -/

theorem readBytes_escapeByte (d : Nat) (b : UInt8) :
    readBytes (d, .quoted) (escapeByte b) = some (d, .quoted) := by
  unfold escapeByte
  split
  · rfl
  · split
    · rfl
    · split
      · rfl
      · split
        · rfl
        · split
          · rfl
          · split
            · rfl
            · split
              · rfl
              · split
                · rw [readBytes_append]
                  have hex : ∀ n : Nat, n < 16 → hexDigit n ≠ 34 ∧ hexDigit n ≠ 92 := by decide
                  have high := hex (b.toNat / 16) (by have := b.toNat_lt; omega)
                  have low := hex (b.toNat % 16) (by omega)
                  show readBytes (d, .quoted) [_, _] = _
                  simp [readBytes, readByte, high, low]
                · rename_i quote slash _ _ _ _ _ _
                  simp [readBytes, readByte, quote, slash]

theorem readBytes_escapeString (d : Nat) (s : Bytes) :
    readBytes (d, .quoted) (escapeString s) = some (d, .quoted) := by
  induction s with
  | nil => rfl
  | cons b rest ih =>
    rw [escapeString, flatMap_cons, readBytes_append, readBytes_escapeByte]
    exact ih

theorem complete_quote (s : Bytes) : Complete (quote s) := by
  intro d
  rw [quote, readBytes_append, readBytes_append]
  show ((readBytes (d, .quoted) (escapeString s)).bind fun t => readBytes t (utf8 "\"")) = _
  rw [readBytes_escapeString]
  rfl

theorem complete_number (n : Number) : Complete (utf8 n.tostring) := by
  have chars : ∀ c ∈ n.tostring.toList, Number.textChar c = true := fun c member =>
    textChar_of_mem_tostring member
  have bytes := utf8_ascii n.tostring.toList fun c member =>
    textChar_ascii (chars c member)
  rw [String.ofList_toList] at bytes
  rw [bytes]
  apply complete_of_plain
  intro b member
  obtain ⟨c, there, rfl⟩ := mem_map.mp member
  have is := chars c there
  simp only [Number.textChar, Bool.or_eq_true] at is
  rcases is with digit | mark
  · have range := digit_range c digit
    have byte := digitByte_toNat c digit
    have apart : ∀ k : UInt8, k.toNat < 48 ∨ 57 < k.toNat → c.val.toUInt8 ≠ k := by
      rintro k outside rfl
      omega
    simp only [plainByte, contains_cons, contains_nil, Bool.or_false, Bool.not_eq_true',
      Bool.or_eq_false_iff, beq_eq_false_iff_ne]
    exact ⟨apart 34 (by decide), apart 44 (by decide), apart 91 (by decide), apart 93 (by decide),
      apart 123 (by decide), apart 125 (by decide)⟩
  · have marks : ("-+.einfa".toList.all fun d => plainByte d.val.toUInt8) = true := by decide
    exact List.all_eq_true.mp marks c (List.contains_iff_mem.mp mark)

def Inner (text : Bytes) : Prop := ∀ d, readBytes (d + 1, .plain) text = some (d + 1, .plain)

theorem Complete.inner (complete : Complete text) : Inner text :=
  fun d => complete (d + 1)

theorem Inner.append {left right : Bytes} (first : Inner left) (second : Inner right) :
    Inner (left ++ right) := by
  intro d
  rw [readBytes_append, first d]
  exact second d

theorem inner_commaJoin : ∀ {texts : List Bytes}, (∀ text ∈ texts, Complete text) →
    Inner (commaJoin texts)
  | [], _ => complete_nil.inner
  | [text], each => (each text mem_cons_self).inner
  | first :: second :: rest, each => by
    have head := (each first mem_cons_self).inner
    have comma : Inner (utf8 ",") := fun d => rfl
    have tail := inner_commaJoin fun text member => each text (mem_cons_of_mem first member)
    exact (head.append comma).append tail

theorem complete_array (inner : Inner text) :
    Complete (utf8 "[" ++ text ++ utf8 "]") := by
  intro d
  rw [readBytes_append, readBytes_append]
  show ((readBytes (d + 1, .plain) text).bind fun t => readBytes t (utf8 "]")) = _
  rw [inner d]
  rfl

theorem complete_object (inner : Inner text) :
    Complete (utf8 "\x7b" ++ text ++ utf8 "\x7d") := by
  intro d
  rw [readBytes_append, readBytes_append]
  show ((readBytes (d + 1, .plain) text).bind fun t => readBytes t (utf8 "\x7d")) = _
  rw [inner d]
  rfl

theorem complete_of_mapM {α : Type} {f : α → Except Failure Bytes} {items : List α}
    {texts : List Bytes} (mapped : items.mapM f = .ok texts)
    (each : ∀ item ∈ items, ∀ text, f item = .ok text → Complete text) :
    ∀ text ∈ texts, Complete text := by
  induction items generalizing texts with
  | nil =>
    cases mapped
    intro text member
    cases member
  | cons item rest ih =>
    rw [mapM_cons] at mapped
    simp only [bind_eq_ok, pure_eq_ok] at mapped
    obtain ⟨head, first, tail, others, rfl⟩ := mapped
    intro text member
    rcases List.mem_cons.mp member with rfl | there
    · exact each item mem_cons_self _ first
    · exact ih others (fun i inRest => each i (mem_cons_of_mem _ inRest)) text there

theorem complete_field (name : Bytes) (complete : Complete text) :
    Complete (quote name ++ utf8 ":" ++ text) := by
  have colon : Complete (utf8 ":") := complete_of_plain (List.all_eq_true.mp (by decide))
  exact ((complete_quote name).append colon).append complete

mutual
theorem complete_encode : ∀ (v : Value) (text : Bytes), encode v = .ok text → Complete text
  | .nil, text, encoded => by
    cases encoded
    exact complete_of_plain (List.all_eq_true.mp (by decide))
  | .bool b, text, encoded => by
    cases encoded
    cases b <;> exact complete_of_plain (List.all_eq_true.mp (by decide))
  | .num n, text, encoded => by
    cases encoded
    exact complete_number n
  | .str s, text, encoded => by
    cases encoded
    exact complete_quote s
  | .table tag entries, text, encoded => by
    have parts := complete_encodeEntries entries
    rw [encode] at encoded
    split at encoded
    · simp only [arrayText, bind_eq_ok, pure_eq_ok] at encoded
      obtain ⟨texts, mapped, rfl⟩ := encoded
      refine complete_array (inner_commaJoin (complete_of_mapM mapped fun i member item read => ?_))
      unfold partAt at read
      split at read
      · rename_i part found
        exact parts part (mem_of_find?_eq_some found) item read
      · cases read
        exact complete_of_plain (List.all_eq_true.mp (by decide))
    · simp only [objectText, bind_eq_ok, pure_eq_ok] at encoded
      obtain ⟨texts, mapped, rfl⟩ := encoded
      refine complete_object (inner_commaJoin (complete_of_mapM mapped ?_))
      intro part member line written
      simp only [bind_eq_ok, pure_eq_ok] at written
      obtain ⟨inside, read, rfl⟩ := written
      exact complete_field _ (parts part ((mem_insertionSort _).mp member) inside read)
  | .ref kind addr, text, encoded => by cases kind <;> cases encoded

theorem complete_encodeEntries : ∀ (entries : List (Value × Value)),
    ∀ part ∈ encodeEntries entries, ∀ text, part.2 = .ok text → Complete text
  | [], part, member, _, _ => by cases member
  | (k, v) :: rest, part, member, text, read => by
    rw [encodeEntries] at member
    rcases List.mem_cons.mp member with rfl | there
    · exact complete_encode v text read
    · exact complete_encodeEntries rest part there text read
end

/-! ## Texts of records -/

theorem commaJoin_injective : ∀ {left right : List Bytes}, left.length = right.length →
    (∀ text ∈ left, Complete text) → (∀ text ∈ right, Complete text) →
    commaJoin left = commaJoin right → left = right
  | [], [], _, _, _, _ => rfl
  | [a], [b], _, _, _, same => by
    have texts : a = b := same
    rw [texts]
  | a :: a' :: left, b :: b' :: right, lengths, one, two, same => by
    have cut : a ++ 44 :: commaJoin (a' :: left) = b ++ 44 :: commaJoin (b' :: right) := by
      simp only [commaJoin, append_assoc] at same
      exact same
    obtain ⟨heads, tails⟩ := complete_unique (one a mem_cons_self) (two b mem_cons_self)
      rfl rfl cut
    have rest := commaJoin_injective (Nat.succ.inj lengths)
      (fun text member => one text (mem_cons_of_mem _ member))
      (fun text member => two text (mem_cons_of_mem _ member)) (List.cons.inj tails).2
    rw [heads, rest]

theorem mapM_length {α : Type} {f : α → Except Failure Bytes} : ∀ {items : List α}
    {texts : List Bytes}, items.mapM f = .ok texts → texts.length = items.length
  | [], _, mapped => by cases mapped; rfl
  | item :: rest, _, mapped => by
    rw [mapM_cons] at mapped
    simp only [bind_eq_ok, pure_eq_ok] at mapped
    obtain ⟨head, first, tail, others, rfl⟩ := mapped
    rw [length_cons, length_cons, mapM_length others]

theorem forall₂_same {α : Type} {R : α → α → Prop} {items : List α}
    (related : List.Forall₂ R items items) : ∀ item ∈ items, R item item :=
  List.forall₂_same.mp related

def lineOf (part : Value × Except Failure Bytes) : Except Failure Bytes := do
  let text ← part.2
  pure (quote part.1.tostring ++ utf8 ":" ++ text)

theorem lineOf_ok {part : Value × Except Failure Bytes} {line : Bytes}
    (written : lineOf part = .ok line) :
    ∃ text, part.2 = .ok text ∧ line = quote part.1.tostring ++ utf8 ":" ++ text := by
  simp only [lineOf, bind_eq_ok, pure_eq_ok] at written
  obtain ⟨text, read, rfl⟩ := written
  exact ⟨text, read, rfl⟩

theorem forall₂_of_mapM {α β : Type} {f : α → Except Failure Bytes} {g : β → Except Failure Bytes} :
    ∀ {left : List α} {right : List β} {texts : List Bytes},
    left.mapM f = .ok texts → right.mapM g = .ok texts →
      List.Forall₂ (fun a b => ∃ text, f a = .ok text ∧ g b = .ok text) left right
  | [], [], _, _, _ => .nil
  | [], b :: right, _, one, two => by
    rw [mapM_cons] at two
    simp only [bind_eq_ok, pure_eq_ok] at two
    obtain ⟨_, _, _, _, rfl⟩ := two
    cases one
  | a :: left, [], _, one, two => by
    rw [mapM_cons] at one
    simp only [bind_eq_ok, pure_eq_ok] at one
    obtain ⟨_, _, _, _, rfl⟩ := one
    cases two
  | a :: left, b :: right, _, one, two => by
    rw [mapM_cons] at one two
    simp only [bind_eq_ok, pure_eq_ok] at one two
    obtain ⟨head, first, tail, others, rfl⟩ := one
    obtain ⟨head', second, tail', others', same⟩ := two
    obtain ⟨heads, tails⟩ := List.cons.inj same
    subst heads tails
    exact .cons ⟨_, first, second⟩ (forall₂_of_mapM others others')

abbrev Paired : Type := Value × Except Failure Bytes × Except Failure Bytes

def Paired.left (pair : Paired) : Value × Except Failure Bytes := (pair.1, pair.2.1)
def Paired.right (pair : Paired) : Value × Except Failure Bytes := (pair.1, pair.2.2)

theorem objectText_eq (parts : List (Value × Except Failure Bytes)) :
    objectText parts =
      (parts.insertionSort fun a b => TextLe a.1.tostring b.1.tostring).mapM lineOf >>=
        fun texts => pure (utf8 "\x7b" ++ commaJoin texts ++ utf8 "\x7d") := rfl

theorem sorted_map {side : Paired → Value × Except Failure Bytes}
    (keyed : ∀ pair, (side pair).1 = pair.1) (pairs : List Paired) :
    (pairs.map side).insertionSort (fun a b => TextLe a.1.tostring b.1.tostring) =
      (pairs.insertionSort fun a b => TextLe a.1.tostring b.1.tostring).map side := by
  refine (map_insertionSort (fun a b : Paired => TextLe a.1.tostring b.1.tostring)
    (fun a b : Value × Except Failure Bytes => TextLe a.1.tostring b.1.tostring) side pairs
    fun a _ b _ => ?_).symm
  rw [keyed, keyed]

theorem objectText_injective {pairs : List Paired}
    (left : objectText (pairs.map Paired.left) = .ok text)
    (right : objectText (pairs.map Paired.right) = .ok text)
    (one : ∀ pair ∈ pairs, ∀ text, pair.2.1 = .ok text → Complete text)
    (two : ∀ pair ∈ pairs, ∀ text, pair.2.2 = .ok text → Complete text) :
    ∀ pair ∈ pairs, pair.2.1 = pair.2.2 := by
  rw [objectText_eq, sorted_map fun pair => rfl, mapM_map] at left
  rw [objectText_eq, sorted_map fun pair => rfl, mapM_map] at right
  simp only [bind_eq_ok, pure_eq_ok] at left right
  obtain ⟨lines, first, whole⟩ := left
  obtain ⟨lines', second, same⟩ := right
  have sizes : lines.length = lines'.length := by
    rw [mapM_length first, mapM_length second]
  have each : ∀ line ∈ lines, Complete line := complete_of_mapM first fun pair member line written => by
    obtain ⟨inside, read, rfl⟩ := lineOf_ok written
    exact complete_field _ (one pair ((mem_insertionSort _).mp member) inside read)
  have each' : ∀ line ∈ lines', Complete line := complete_of_mapM second fun pair member line written => by
    obtain ⟨inside, read, rfl⟩ := lineOf_ok written
    exact complete_field _ (two pair ((mem_insertionSort _).mp member) inside read)
  have joined : commaJoin lines = commaJoin lines' := by
    rw [← same] at whole
    exact append_cancel_left (append_cancel_right whole)
  have linesSame := commaJoin_injective sizes each each' joined
  subst linesSame
  intro pair member
  have inSorted := (mem_insertionSort (fun a b : Paired => TextLe a.1.tostring b.1.tostring)).mpr member
  obtain ⟨line, written, written'⟩ := forall₂_same (forall₂_of_mapM first second) pair inSorted
  obtain ⟨inside, read, rfl⟩ := lineOf_ok written
  obtain ⟨inside', read', lineSame⟩ := lineOf_ok written'
  have texts : inside = inside' := append_cancel_left lineSame
  exact read.trans (texts ▸ read'.symm)

def PresentAlike (left right : List (String × Value)) : Prop :=
  List.Forall₂ (fun a b => a.1 = b.1 ∧ a.2 ≠ .nil ∧ b.2 ≠ .nil) left right

theorem PresentAlike.paired {left right : List (String × Value)} (alike : PresentAlike left right) :
    ∃ pairs : List Paired, encodeEntries (Value.fields left) = pairs.map Paired.left
      ∧ encodeEntries (Value.fields right) = pairs.map Paired.right
      ∧ (∀ pair ∈ pairs, ∀ text, pair.2.1 = .ok text → Complete text)
      ∧ (∀ pair ∈ pairs, ∀ text, pair.2.2 = .ok text → Complete text)
      ∧ ((∀ pair ∈ pairs, pair.2.1 = pair.2.2) →
        List.Forall₂ (fun a b => encode a.2 = encode b.2) left right) := by
  induction alike with
  | nil => exact ⟨[], rfl, rfl, by simp, by simp, fun _ => .nil⟩
  | @cons a b left right head tail ih =>
    obtain ⟨name, v⟩ := a
    obtain ⟨name', w⟩ := b
    obtain ⟨rfl, present, present'⟩ := head
    obtain ⟨pairs, one, two, complete, complete', conclude⟩ := ih
    refine ⟨(.text name, encode v, encode w) :: pairs, ?_, ?_, ?_, ?_, ?_⟩
    · rw [Value.fields, if_neg present, encodeEntries, encodeEntry, one]
      rfl
    · rw [Value.fields, if_neg present', encodeEntries, encodeEntry, two]
      rfl
    · intro pair member
      rcases List.mem_cons.mp member with rfl | there
      · exact complete_encode v
      · exact complete pair there
    · intro pair member
      rcases List.mem_cons.mp member with rfl | there
      · exact complete_encode w
      · exact complete' pair there
    · intro each
      exact .cons (each _ mem_cons_self)
        (conclude fun pair member => each pair (mem_cons_of_mem _ member))

theorem isArray_named {entries : List (Value × Value)} {s : Bytes} {v : Value} :
    isArray ((.str s, v) :: entries) = false := by
  rw [isArray, all_cons]
  rfl

theorem encode_record_injective {left right : List (String × Value)}
    (alike : PresentAlike left right) (one : encode (.record left) = .ok text)
    (two : encode (.record right) = .ok text) :
    List.Forall₂ (fun a b => encode a.2 = encode b.2) left right := by
  obtain ⟨pairs, first, second, complete, complete', conclude⟩ := alike.paired
  apply conclude
  cases alike with
  | nil =>
    cases pairs with
    | nil => simp
    | cons pair pairs => cases first
  | @cons a b left right head tail =>
    obtain ⟨name, v⟩ := a
    obtain ⟨name', w⟩ := b
    obtain ⟨rfl, present, present'⟩ := head
    rw [Value.record, encode] at one two
    rw [Value.fields, if_neg present] at one first
    rw [Value.fields, if_neg present'] at two second
    rw [if_neg (by rw [isArray_named]; exact Bool.false_ne_true), first] at one
    rw [if_neg (by rw [isArray_named]; exact Bool.false_ne_true), second] at two
    exact objectText_injective one two complete complete'

theorem PresentAlike.congr {left right : List (String × Value)} (alike : PresentAlike left right)
    (same : List.Forall₂ (fun a b => encode a.2 = encode b.2) left right) :
    encodeEntries (Value.fields left) = encodeEntries (Value.fields right)
      ∧ isArray (Value.fields left) = isArray (Value.fields right) := by
  induction alike with
  | nil => exact ⟨rfl, rfl⟩
  | @cons a b left right head tail ih =>
    obtain ⟨name, v⟩ := a
    obtain ⟨name', w⟩ := b
    obtain ⟨rfl, present, present'⟩ := head
    obtain ⟨texts, rest⟩ := forall₂_cons.mp same
    have texts : encode v = encode w := texts
    rw [Value.fields, if_neg present, Value.fields, if_neg present']
    refine ⟨?_, isArray_named.trans isArray_named.symm⟩
    rw [encodeEntries, encodeEntries, encodeEntry, encodeEntry, texts, (ih rest).1]

theorem encode_record_iff {left right : List (String × Value)} (alike : PresentAlike left right)
    (encodes : Encodes (.record left)) :
    encode (.record left) = encode (.record right)
      ↔ List.Forall₂ (fun a b => encode a.2 = encode b.2) left right := by
  constructor
  · intro same
    obtain ⟨text, encoded⟩ := encodes
    exact encode_record_injective alike encoded (same ▸ encoded)
  · intro same
    obtain ⟨parts, arrays⟩ := alike.congr same
    rw [Value.record, Value.record, encode, encode, parts, arrays]

/-! ## Texts of scalars -/

theorem encode_bool_injective {a b : Bool} (same : encode (.bool a) = encode (.bool b)) : a = b := by
  have texts := Except.ok.inj same
  cases a <;> cases b <;> first | rfl | exact absurd texts (by decide)

theorem encode_num_iff {a b : Number} :
    encode (.num a) = encode (.num b) ↔ a.tostring = b.tostring := by
  rw [encode, encode, Except.ok.injEq, Value.tostring, Value.tostring, utf8_inj]

/-- The value of a digit that `hexDigit` writes. -/
def hexRead (b : UInt8) : Nat := if b < 58 then b.toNat - 48 else b.toNat - 87

def unescape : Bytes → Option (UInt8 × Bytes)
  | 92 :: 34 :: rest => some (34, rest)
  | 92 :: 92 :: rest => some (92, rest)
  | 92 :: 98 :: rest => some (8, rest)
  | 92 :: 102 :: rest => some (12, rest)
  | 92 :: 110 :: rest => some (10, rest)
  | 92 :: 114 :: rest => some (13, rest)
  | 92 :: 116 :: rest => some (9, rest)
  | 92 :: 117 :: 48 :: 48 :: high :: low :: rest =>
    some ((16 * hexRead high + hexRead low).toUInt8, rest)
  | b :: rest => if b = 92 then none else some (b, rest)
  | [] => none

theorem unescape_escapeByte (b : UInt8) (rest : Bytes) :
    unescape (escapeByte b ++ rest) = some (b, rest) := by
  unfold escapeByte
  split
  · rename_i is
    subst is
    rfl
  · split
    · rename_i is
      subst is
      rfl
    · split
      · rename_i is
        subst is
        rfl
      · split
        · rename_i is
          subst is
          rfl
        · split
          · rename_i is
            subst is
            rfl
          · split
            · rename_i is
              subst is
              rfl
            · split
              · rename_i is
                subst is
                rfl
              · split
                · rename_i control
                  have small : b.toNat < 32 := UInt8.lt_iff_toNat_lt.mp control
                  have digits : ∀ n : Nat, n < 32 →
                      16 * hexRead (hexDigit (n / 16)) + hexRead (hexDigit (n % 16)) = n := by
                    decide
                  show some ((16 * hexRead (hexDigit (b.toNat / 16))
                    + hexRead (hexDigit (b.toNat % 16))).toUInt8, rest) = some (b, rest)
                  rw [digits b.toNat small]
                  simp
                · rename_i slash _ _ _ _ _ _
                  rw [singleton_append]
                  unfold unescape
                  split <;> simp_all

theorem escapeString_injective : ∀ {s t : Bytes}, escapeString s = escapeString t → s = t
  | [], [], _ => rfl
  | [], c :: t, same => by
    have read := unescape_escapeByte c (escapeString t)
    rw [show escapeByte c ++ escapeString t = escapeString (c :: t) from rfl, ← same] at read
    cases read
  | b :: s, [], same => by
    have read := unescape_escapeByte b (escapeString s)
    rw [show escapeByte b ++ escapeString s = escapeString (b :: s) from rfl, same] at read
    cases read
  | b :: s, c :: t, same => by
    have one := unescape_escapeByte b (escapeString s)
    have two := unescape_escapeByte c (escapeString t)
    rw [show escapeByte b ++ escapeString s = escapeString (b :: s) from rfl, same] at one
    rw [show escapeByte c ++ escapeString t = escapeString (c :: t) from rfl, one] at two
    obtain ⟨bytes, rests⟩ := Prod.mk.inj (Option.some.inj two)
    rw [bytes, escapeString_injective rests]

theorem encode_str_injective {s t : Bytes} (same : encode (.str s) = encode (.str t)) : s = t := by
  have texts := Except.ok.inj same
  rw [quote, quote] at texts
  exact escapeString_injective (append_cancel_left (append_cancel_right texts))

end Proc17.Core.Json
