import Mathlib.Data.List.Sort
import Proc17.Lua.Coerce

/-!
# JSON text

`json.encode`: numbers and keys through `tostring`, object keys in the order of their
texts, a table with exactly the keys `1 .. n` as an array.
-/

namespace Proc17.Core.Json

open Lua List

def hexDigit (n : Nat) : UInt8 := if n < 10 then 48 + n.toUInt8 else 87 + n.toUInt8

/-- `escapes[char] or string.format("\\u%04x", char:byte())` -/
def escapeByte (b : UInt8) : Bytes :=
  if b = 34 then utf8 "\\\""
  else if b = 92 then utf8 "\\\\"
  else if b = 8 then utf8 "\\b"
  else if b = 12 then utf8 "\\f"
  else if b = 10 then utf8 "\\n"
  else if b = 13 then utf8 "\\r"
  else if b = 9 then utf8 "\\t"
  else if b < 32 then utf8 "\\u00" ++ [hexDigit (b.toNat / 16), hexDigit (b.toNat % 16)]
  else [b]

def escapeString (s : Bytes) : Bytes := s.flatMap escapeByte

def quote (s : Bytes) : Bytes := utf8 "\"" ++ escapeString s ++ utf8 "\""

def arrayKey : Value → Bool
  | .num n => !Number.lt n (.int 1) && n.isFinite && Number.isIntegral n
  | _ => false

def maxKey : List (Value × Value) → Number
  | [] => .int 0
  | (.num n, _) :: rest => if Number.lt (maxKey rest) n then n else maxKey rest
  | _ :: rest => maxKey rest

def isArray (entries : List (Value × Value)) : Bool :=
  entries.all (fun entry => arrayKey entry.1)
    && Number.eq (maxKey entries) (.int entries.length)

/-- The order of `table.sort` on strings. -/
def TextLe (a b : Bytes) : Prop := List.le (a.map UInt8.toNat) (b.map UInt8.toNat)

instance (a b : Bytes) : Decidable (TextLe a b) :=
  inferInstanceAs (Decidable (List.le (a.map UInt8.toNat) (b.map UInt8.toNat)))

theorem textLe_refl (a : Bytes) : TextLe a a :=
  List.le_refl (a.map UInt8.toNat)

theorem textLe_total (a b : Bytes) : TextLe a b ∨ TextLe b a :=
  List.le_total (a.map UInt8.toNat) (b.map UInt8.toNat)

theorem textLe_trans {a b c : Bytes} (first : TextLe a b) (second : TextLe b c) :
    TextLe a c :=
  @List.le_trans Nat _ _ _ _ (a.map UInt8.toNat) (b.map UInt8.toNat) (c.map UInt8.toNat) first second

theorem textLe_antisymm {a b : Bytes} (first : TextLe a b) (second : TextLe b a) :
    a = b := by
  have same : a.map UInt8.toNat = b.map UInt8.toNat := List.le_antisymm first second
  exact map_injective_iff.mpr (fun x y => UInt8.toNat_inj.mp) same

instance : Std.Total TextLe := ⟨textLe_total⟩

instance : IsTrans Bytes TextLe := ⟨fun _ _ _ => textLe_trans⟩

instance : Std.Antisymm TextLe := ⟨fun _ _ => textLe_antisymm⟩

def commaJoin : List Bytes → Bytes
  | [] => []
  | [part] => part
  | part :: rest => part ++ utf8 "," ++ commaJoin rest

/-- The part encoded under the key `i`. -/
def partAt (parts : List (Value × Except Failure Bytes)) (i : Nat) : Except Failure Bytes :=
  match parts.find? fun part => part.1.eq (.nat i) with
  | some part => part.2
  | none => .ok (utf8 "null")

def arrayText (parts : List (Value × Except Failure Bytes)) : Except Failure Bytes := do
  let texts ← (List.range parts.length).mapM fun i => partAt parts (i + 1)
  pure (utf8 "[" ++ commaJoin texts ++ utf8 "]")

def objectText (parts : List (Value × Except Failure Bytes)) : Except Failure Bytes := do
  let sorted := parts.insertionSort fun a b => TextLe a.1.tostring b.1.tostring
  let texts ← sorted.mapM fun part => do
    let text ← part.2
    pure (quote part.1.tostring ++ utf8 ":" ++ text)
  pure (utf8 "\x7b" ++ commaJoin texts ++ utf8 "\x7d")

mutual
def encode : Value → Except Failure Bytes
  | .nil => .ok (utf8 "null")
  | .bool b => .ok (Value.tostring (.bool b))
  | .num n => .ok (Value.tostring (.num n))
  | .str s => .ok (quote s)
  | .table _ entries =>
    let parts := encodeEntries entries
    if isArray entries then arrayText parts else objectText parts
  | .ref .function _ => .error (raise "cannot encode function as json")
  | .ref .userdata _ => .error (raise "cannot encode userdata as json")
  | .ref .thread _ => .error (raise "cannot encode thread as json")

def encodeEntries : List (Value × Value) → List (Value × Except Failure Bytes)
  | [] => []
  | entry :: rest => encodeEntry entry :: encodeEntries rest

def encodeEntry : Value × Value → Value × Except Failure Bytes
  | (k, v) => (k, encode v)
end

/-- `json.encode(left) == json.encode(right)`; an encoding error propagates. -/
def same (left right : Value) : Except Failure Bool := do
  let a ← encode left
  let b ← encode right
  pure (a = b)

theorem same_trans {a b c : Value} (first : same a b = .ok true) (second : same b c = .ok true) :
    same a c = .ok true := by
  simp only [same, bind_eq_ok, pure_eq_ok, decide_eq_true_eq] at *
  obtain ⟨left, leftText, middle, middleText, rfl⟩ := first
  obtain ⟨middle', middleText', right, rightText, rfl⟩ := second
  rw [middleText] at middleText'
  exact ⟨_, leftText, _, rightText, Except.ok.inj middleText'⟩

/-! ## Copies -/

theorem tostring_deepCopy (v : Value) : v.deepCopy.tostring = v.tostring := by
  cases v <;> rfl

theorem arrayKey_deepCopy (v : Value) : arrayKey v.deepCopy = arrayKey v := by
  cases v <;> rfl

theorem eq_nat_deepCopy (v : Value) (i : Nat) : v.deepCopy.eq (.nat i) = v.eq (.nat i) := by
  cases v <;> rfl

theorem maxKey_copyEntries (entries : List (Value × Value)) :
    maxKey (Value.copyEntries entries) = maxKey entries := by
  induction entries with
  | nil => rfl
  | cons entry rest ih =>
    obtain ⟨k, v⟩ := entry
    cases k <;> simp only [Value.copyEntries, Value.copyEntry, Value.deepCopy, maxKey, ih]

theorem copyEntries_eq_map : ∀ entries : List (Value × Value),
    Value.copyEntries entries = entries.map Value.copyEntry
  | [] => rfl
  | entry :: rest => by rw [Value.copyEntries, copyEntries_eq_map rest, map_cons]

theorem encodeEntries_eq_map : ∀ entries : List (Value × Value),
    encodeEntries entries = entries.map encodeEntry
  | [] => rfl
  | entry :: rest => by rw [encodeEntries, encodeEntries_eq_map rest, map_cons]

theorem isArray_copyEntries (entries : List (Value × Value)) :
    isArray (Value.copyEntries entries) = isArray entries := by
  have keys : (Value.copyEntries entries).all (fun entry => arrayKey entry.1) =
      entries.all fun entry => arrayKey entry.1 := by
    rw [copyEntries_eq_map, all_map]
    congr 1
    funext entry
    obtain ⟨k, v⟩ := entry
    exact arrayKey_deepCopy k
  have length : (Value.copyEntries entries).length = entries.length := by
    rw [copyEntries_eq_map, length_map]
  simp only [isArray, keys, maxKey_copyEntries, length]

def copyKeys (parts : List (Value × Except Failure Bytes)) : List (Value × Except Failure Bytes) :=
  parts.map fun part => (part.1.deepCopy, part.2)

section
variable (parts : List (Value × Except Failure Bytes))
include parts

theorem partAt_copyKeys (i : Nat) : partAt (copyKeys parts) i = partAt parts i := by
  have found : (copyKeys parts).find? (fun part => part.1.eq (.nat i)) =
      (parts.find? fun part => part.1.eq (.nat i)).map fun part => (part.1.deepCopy, part.2) := by
    rw [copyKeys, List.find?_map]
    congr 2
    funext part
    exact eq_nat_deepCopy part.1 i
  unfold partAt
  rw [found]
  cases parts.find? fun part => part.1.eq (.nat i) <;> rfl

theorem arrayText_copyKeys : arrayText (copyKeys parts) = arrayText parts := by
  simp only [arrayText, partAt_copyKeys]
  rw [copyKeys, length_map]

theorem objectText_copyKeys : objectText (copyKeys parts) = objectText parts := by
  have sorted := map_insertionSort (fun a b : Value × Except Failure Bytes =>
      TextLe a.1.tostring b.1.tostring) (fun a b => TextLe a.1.tostring b.1.tostring)
    (fun part => (part.1.deepCopy, part.2)) parts
    (fun a _ b _ => by rw [tostring_deepCopy, tostring_deepCopy])
  simp only [objectText, copyKeys]
  rw [← sorted, mapM_map]
  simp only [Function.comp_def, tostring_deepCopy]

end

mutual
theorem encode_deepCopy : ∀ v : Value, encode v.deepCopy = encode v
  | .table tag entries => by
    simp only [Value.deepCopy, encode, isArray_copyEntries, encodeEntries_copyEntries entries,
      arrayText_copyKeys, objectText_copyKeys]
  | .nil => rfl
  | .bool _ => rfl
  | .num _ => rfl
  | .str _ => rfl
  | .ref _ _ => rfl

theorem encodeEntries_copyEntries : ∀ entries : List (Value × Value),
    encodeEntries (Value.copyEntries entries) = copyKeys (encodeEntries entries)
  | [] => rfl
  | (k, v) :: rest => by
    have ih := encodeEntries_copyEntries rest
    simp only [Value.copyEntries, Value.copyEntry, encodeEntries, encodeEntry, copyKeys,
      map_cons, encode_deepCopy v, ih]
end

/-! ## Values that have a text -/

def Encodes (v : Value) : Prop := ∃ text, encode v = .ok text

theorem encodes_nil : Encodes .nil := ⟨_, rfl⟩
theorem encodes_bool (b : Bool) : Encodes (.bool b) := ⟨_, rfl⟩
theorem encodes_num (n : Number) : Encodes (.num n) := ⟨_, rfl⟩
theorem same_self {v : Value} (encodes : Encodes v) : same v v = .ok true := by
  obtain ⟨text, written⟩ := encodes
  simp only [same, bind_eq_ok, pure_eq_ok, decide_eq_true_eq]
  exact ⟨text, written, text, written, rfl⟩

theorem encodes_str (s : Bytes) : Encodes (.str s) := ⟨_, rfl⟩

variable {v : Value} {parts : List (Value × Except Failure Bytes)} {given : List (String × Value)}
  {items : List Value}

theorem encodes_deepCopy (encodes : Encodes v) : Encodes v.deepCopy := by
  obtain ⟨text, encoded⟩ := encodes
  exact ⟨text, (encode_deepCopy v).trans encoded⟩

theorem mapM_ok {α β : Type} {f : α → Except Failure β} : ∀ {items : List α},
    (∀ item ∈ items, ∃ b, f item = .ok b) → ∃ out, items.mapM f = .ok out := by
  intro items
  induction items with
  | nil => intro _; exact ⟨[], rfl⟩
  | cons item rest ih =>
    intro each
    obtain ⟨b, first⟩ := each item mem_cons_self
    obtain ⟨out, others⟩ := ih fun x member => each x (mem_cons_of_mem _ member)
    refine ⟨b :: out, ?_⟩
    rw [mapM_cons, first, others]
    rfl

theorem ok_of_mapM_ok {α β : Type} {f : α → Except Failure β} : ∀ {items : List α} {out : List β},
    items.mapM f = .ok out → ∀ item ∈ items, ∃ b, f item = .ok b := by
  intro items
  induction items with
  | nil => intro out _ item member; cases member
  | cons first rest ih =>
    intro out mapped item member
    rw [mapM_cons] at mapped
    simp only [bind_eq_ok, pure_eq_ok] at mapped
    obtain ⟨b, head, tail, others, -⟩ := mapped
    rcases mem_cons.mp member with here | there
    · exact ⟨b, here ▸ head⟩
    · exact ih others item there

section
variable (each : ∀ part ∈ parts, ∃ text, part.2 = .ok text)
include each

theorem partAt_ok (i : Nat) : ∃ text, partAt parts i = .ok text := by
  rw [partAt]
  cases found : parts.find? fun part => part.1.eq (.nat i) with
  | none => exact ⟨_, rfl⟩
  | some part => exact each part (mem_of_find?_eq_some found)

theorem arrayText_ok : ∃ text, arrayText parts = .ok text := by
  have all : ∀ i ∈ List.range parts.length, ∃ text, partAt parts (i + 1) = .ok text :=
    fun i _ => partAt_ok each (i + 1)
  obtain ⟨texts, mapped⟩ := mapM_ok all
  rw [arrayText, mapped]
  exact ⟨_, rfl⟩

theorem objectText_ok : ∃ text, objectText parts = .ok text := by
  have all : ∀ part ∈ parts.insertionSort fun a b => TextLe a.1.tostring b.1.tostring,
      ∃ text, (do
        let text ← part.2
        pure (quote part.1.tostring ++ utf8 ":" ++ text) : Except Failure Bytes) = .ok text := by
    intro part member
    obtain ⟨text, encoded⟩ := each part ((mem_insertionSort _).mp member)
    rw [encoded]
    exact ⟨_, rfl⟩
  obtain ⟨texts, mapped⟩ := mapM_ok all
  rw [objectText, mapped]
  exact ⟨_, rfl⟩

end

theorem ok_of_objectText {out : Bytes} (encoded : objectText parts = .ok out) :
    ∀ part ∈ parts, ∃ text, part.2 = .ok text := by
  intro part member
  simp only [objectText, bind_eq_ok, pure_eq_ok] at encoded
  obtain ⟨texts, mapped, -⟩ := encoded
  obtain ⟨line, written⟩ := ok_of_mapM_ok mapped part ((mem_insertionSort _).mpr member)
  simp only [bind_eq_ok, pure_eq_ok] at written
  obtain ⟨text, first, -⟩ := written
  exact ⟨text, first⟩

theorem encodes_table {tag : Tag} {entries : List (Value × Value)}
    (each : ∀ entry ∈ entries, Encodes entry.2) : Encodes (.table tag entries) := by
  have parts : ∀ part ∈ encodeEntries entries, ∃ text, part.2 = .ok text := by
    intro part member
    rw [encodeEntries_eq_map] at member
    obtain ⟨entry, inEntries, rfl⟩ := mem_map.mp member
    obtain ⟨k, v⟩ := entry
    exact each (k, v) inEntries
  rw [Encodes, encode]
  by_cases isList : isArray entries = true
  · rw [if_pos isList]
    exact arrayText_ok parts
  · rw [if_neg isList]
    exact objectText_ok parts

theorem encodes_record (each : ∀ field ∈ given, Encodes field.2) :
    Encodes (.record given) := by
  apply encodes_table
  intro entry member
  obtain ⟨field, inGiven, rfl⟩ := Value.mem_fields member
  exact each field inGiven

theorem mem_of_mem_zipIdx {entry : Value × Nat} (member : entry ∈ items.zipIdx) :
    entry.1 ∈ items := by
  rw [(mem_zipIdx member).2.2]
  exact getElem_mem _

theorem encodes_array (each : ∀ item ∈ items, Encodes item) :
    Encodes (.array items) := by
  apply encodes_table
  intro entry member
  obtain ⟨item, inItems, rfl⟩ := mem_map.mp member
  exact each _ (mem_of_mem_zipIdx inItems)

theorem encodes_sparse (each : ∀ item ∈ items, Encodes item) :
    Encodes (.sparse items) := by
  apply encodes_table
  intro entry member
  obtain ⟨item, kept, rfl⟩ := mem_map.mp member
  exact each _ (mem_of_mem_zipIdx (mem_of_mem_filter kept))

theorem lookup_nil_or_mem (key : Value) : ∀ entries : List (Value × Value),
    Value.lookup entries key = .nil
      ∨ ∃ entry ∈ entries, Value.eq entry.1 key = true ∧ Value.lookup entries key = entry.2 := by
  intro entries
  induction entries with
  | nil => exact .inl rfl
  | cons entry rest ih =>
    obtain ⟨k, v⟩ := entry
    by_cases found : Value.eq k key = true
    · refine .inr ⟨(k, v), mem_cons_self, found, ?_⟩
      rw [Value.lookup, if_pos found]
    · rw [Value.lookup, if_neg found]
      rcases ih with absent | ⟨other, member, keyed, read⟩
      · exact .inl absent
      · exact .inr ⟨other, mem_cons_of_mem _ member, keyed, read⟩

theorem encodes_entry {tag : Tag} {entries : List (Value × Value)} {s : Bytes}
    (encodes : Encodes (.table tag entries)) (member : (.str s, v) ∈ entries) : Encodes v := by
  obtain ⟨text, encoded⟩ := encodes
  have object : ¬ isArray entries = true := by
    intro isList
    rw [isArray, Bool.and_eq_true, all_eq_true] at isList
    have counted := isList.1 _ member
    cases counted
  have part : encodeEntry (.str s, v) ∈ encodeEntries entries := by
    rw [encodeEntries_eq_map]
    exact mem_map_of_mem member
  rw [encode, if_neg object] at encoded
  exact ok_of_objectText encoded _ part

theorem encodes_get (encodes : Encodes v) (name : String) : Encodes (v.get name) := by
  cases v with
  | table tag entries =>
    rcases lookup_nil_or_mem (.text name) entries with absent | ⟨entry, member, keyed, read⟩
    · rw [Value.get, absent]
      exact encodes_nil
    · obtain ⟨k, value⟩ := entry
      have named : k = .text name := Value.eq_of_eq_str keyed
      subst named
      rw [Value.get, read]
      exact encodes_entry encodes member
  | _ => exact encodes_nil

theorem mem_fields_of_mem {field : String × Value} (member : field ∈ given)
    (present : field.2 ≠ .nil) :
    (Value.text field.1, field.2) ∈ Value.fields given := by
  induction given with
  | nil => cases member
  | cons first rest ih =>
    obtain ⟨name, value⟩ := first
    rw [Value.fields]
    rcases mem_cons.mp member with here | there
    · subst here
      rw [if_neg present]
      exact mem_cons_self
    · split
      · exact ih there
      · exact mem_cons_of_mem _ (ih there)

theorem encodes_record_iff :
    Encodes (.record given) ↔ ∀ field ∈ given, Encodes field.2 := by
  constructor
  · intro encodes field member
    by_cases absent : field.2 = .nil
    · rw [absent]
      exact encodes_nil
    · exact encodes_entry encodes (mem_fields_of_mem member absent)
  · exact encodes_record

theorem encodes_orElse {w : Value} (left : Encodes v) (right : Encodes w) :
    Encodes (v.orElse w) := by
  rw [Value.orElse]
  split
  · exact left
  · exact right

end Proc17.Core.Json
