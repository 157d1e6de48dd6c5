import Proc17.Lua.Number

/-!
# Lua values

Plain Lua data as finite trees.  A table carries the address it is compared by
and a mark for a metatable without metamethods; functions, userdata and threads
are opaque references.  A field read is total on tables and strings and faults
on every other value, as the Lua virtual machine does.
-/

namespace Proc17.Lua

open List

structure Tag where
  addr : Nat
  metatable : Bool
  deriving DecidableEq

/-- A table built by the modelled code itself; its address is compared nowhere. -/
def Tag.plain : Tag := ⟨0, false⟩

inductive RefKind where
  | function
  | userdata
  | thread
  deriving DecidableEq

inductive Value where
  | nil
  | bool (b : Bool)
  | num (n : Number)
  | str (s : Bytes)
  | table (tag : Tag) (entries : List (Value × Value))
  | ref (kind : RefKind) (addr : Nat)

/-- How a Lua call ends without a result: `return nil, err`, `error(err)`, or
an operation the virtual machine itself rejects. -/
inductive Failure where
  | refused (err : Value)
  | raised (err : Value)
  | fault (operation : String)

namespace Value

/-! ## Structural equality -/

mutual
def same : Value → Value → Bool
  | .nil, .nil => true
  | .bool a, .bool b => a == b
  | .num a, .num b => a == b
  | .str a, .str b => a == b
  | .table s xs, .table t ys => s == t && sameEntries xs ys
  | .ref k a, .ref l b => k == l && a == b
  | _, _ => false

def sameEntries : List (Value × Value) → List (Value × Value) → Bool
  | [], [] => true
  | x :: xs, y :: ys => sameEntry x y && sameEntries xs ys
  | _, _ => false

def sameEntry : Value × Value → Value × Value → Bool
  | (a, b), (c, d) => same a c && same b d
end

mutual
theorem same_iff : ∀ a b : Value, same a b = true ↔ a = b
  | .nil, b => by cases b <;> simp [same]
  | .bool a, b => by cases b <;> simp [same]
  | .num a, b => by cases b <;> simp [same]
  | .str a, b => by cases b <;> simp [same]
  | .table s xs, b => by
    cases b with
    | table t ys => simp [same, sameEntries_iff xs ys]
    | _ => simp [same]
  | .ref k a, b => by cases b <;> simp [same]

theorem sameEntries_iff :
    ∀ xs ys : List (Value × Value), sameEntries xs ys = true ↔ xs = ys
  | [], ys => by cases ys <;> simp [sameEntries]
  | x :: xs, ys => by
    cases ys with
    | nil => simp [sameEntries]
    | cons y ys => simp [sameEntries, sameEntry_iff x y, sameEntries_iff xs ys]

theorem sameEntry_iff : ∀ x y : Value × Value, sameEntry x y = true ↔ x = y
  | (a, b), (c, d) => by simp [sameEntry, same_iff a c, same_iff b d]
end

instance : DecidableEq Value := fun a b => decidable_of_iff _ (same_iff a b)

/-! ## Types, truth and equality as Lua sees them -/

abbrev text (s : String) : Value := .str (utf8 s)

def nat (n : Nat) : Value := .num (.int n)

def isTable : Value → Bool
  | .table _ _ => true
  | _ => false

def isString : Value → Bool
  | .str _ => true
  | _ => false

def isNonEmptyString : Value → Bool
  | .str s => !s.isEmpty
  | _ => false

/-- `getmetatable(v) ~= nil`; every string shares the string metatable. -/
def hasMetatable : Value → Bool
  | .table tag _ => tag.metatable
  | .str _ => true
  | _ => false

def truthy : Value → Bool
  | .nil => false
  | .bool b => b
  | _ => true

def orElse (a b : Value) : Value := if a.truthy then a else b

/-- Lua's `==`: numbers by value, tables and references by address. -/
def eq : Value → Value → Bool
  | .nil, .nil => true
  | .bool a, .bool b => a == b
  | .num a, .num b => Number.eq a b
  | .str a, .str b => a == b
  | .table s _, .table t _ => s.addr == t.addr
  | .ref k a, .ref l b => k == l && a == b
  | _, _ => false

@[simp] theorem eq_str (a b : Bytes) : eq (.str a) (.str b) = decide (a = b) := by
  simp [eq, Bool.beq_eq_decide_eq]

variable {v value w key : Value} {name : String} {items : List Value}

theorem eq_of_eq_str {s : Bytes} (equal : eq v (.str s) = true) : v = .str s := by
  cases v <;> simp_all [eq]

theorem eq_nat (a b : Nat) : (nat a).eq (.nat b) = decide (a = b) := by
  rw [Bool.eq_iff_iff]
  simp only [eq, nat, Number.eq, beq_iff_eq, decide_eq_true_eq]
  omega

/-! ## Tables -/

/-- The value bound to a key: the first binding counts, an absent key is nil. -/
def lookup : List (Value × Value) → Value → Value
  | [], _ => .nil
  | (k, v) :: rest, key => if eq k key then v else lookup rest key

/-- Rebinding a key keeps its place; assigning nil removes it. -/
def assign : List (Value × Value) → Value → Value → List (Value × Value)
  | [], key, value => if value = .nil then [] else [(key, value)]
  | (k, v) :: rest, key, value =>
    if eq k key then
      if value = .nil then rest else (k, value) :: rest
    else (k, v) :: assign rest key value

@[simp] theorem lookup_nil (key : Value) : lookup [] key = .nil := rfl

@[simp] theorem lookup_text_cons (k key : String) (v : Value) (rest : List (Value × Value)) :
    lookup ((text k, v) :: rest) (text key) =
      if k = key then v else lookup rest (text key) := by
  simp [lookup]

/-- The entries of a table constructor `{name = value, ...}`: a nil value
leaves no entry. -/
def fields : List (String × Value) → List (Value × Value)
  | [] => []
  | (name, value) :: rest =>
    if value = .nil then fields rest else (text name, value) :: fields rest

/-- The table constructor `{name = value, ...}`. -/
def record (entries : List (String × Value)) : Value := .table Tag.plain (fields entries)

/-- The array constructor `{a, b, ...}`. -/
def array (items : List Value) : Value :=
  .table Tag.plain (items.zipIdx.map fun (v, i) => (nat (i + 1), v))

/-- The array constructor `{a, b, ...}` over values some of which may be nil. -/
def sparse (items : List Value) : Value :=
  .table Tag.plain ((items.zipIdx.filter fun item => item.1 ≠ .nil).map fun (v, i) => (nat (i + 1), v))

def emptyTable : Value := .table Tag.plain []

/-- A field read `v.name`.  A read through a string goes to the string library,
whose members are left out, and gives nil. -/
def index (v : Value) (name : String) : Except Failure Value :=
  match v with
  | .table _ entries => .ok (lookup entries (text name))
  | .str _ => .ok .nil
  | _ => .error (.fault "index")

def get (v : Value) (name : String) : Value :=
  match v with
  | .table _ entries => lookup entries (text name)
  | _ => .nil

/-- The keys `pairs` visits. -/
def keys (v : Value) : List Value :=
  match v with
  | .table _ entries => entries.map Prod.fst
  | _ => []

/-- The assignment `v.name = value`, which only a table accepts. -/
def setField (v : Value) (name : String) (value : Value) : Except Failure Value :=
  match v with
  | .table tag entries => .ok (.table tag (assign entries (text name) value))
  | _ => .error (.fault "newindex")

theorem index_eq_get (table : v.isTable = true) (name : String) :
    v.index name = .ok (v.get name) := by
  cases v <;> simp_all [isTable, index, get]

theorem lookup_fields_of_notMem (name : String) :
    ∀ entries : List (String × Value), (∀ entry ∈ entries, entry.1 ≠ name) →
      lookup (fields entries) (text name) = .nil := by
  intro entries
  induction entries with
  | nil => intro _; rfl
  | cons entry rest ih =>
    intro absent
    obtain ⟨k, v⟩ := entry
    have headNe : k ≠ name := absent (k, v) (by simp)
    have tailAbsent : ∀ entry ∈ rest, entry.1 ≠ name := by
      intro entry member
      exact absent entry (by simp [member])
    by_cases isNil : v = .nil
    · simp [fields, isNil, ih tailAbsent]
    · simp [fields, isNil, headNe, ih tailAbsent]

theorem lookup_fields_cons (k name : String) (v : Value) (rest : List (String × Value))
    (absent : ∀ entry ∈ rest, entry.1 ≠ k) :
    lookup (fields ((k, v) :: rest)) (text name) =
      if k = name then v else lookup (fields rest) (text name) := by
  by_cases isNil : v = .nil
  · by_cases named : k = name
    · subst named
      simp [fields, isNil, lookup_fields_of_notMem k rest absent]
    · simp [fields, isNil, named]
  · simp [fields, isNil]

theorem get_record {entries : List (String × Value)} (distinct : (entries.map Prod.fst).Nodup)
    (member : (name, value) ∈ entries) :
    (record entries).get name = value := by
  show lookup (fields entries) (text name) = value
  induction entries with
  | nil => cases member
  | cons entry rest ih =>
    obtain ⟨k, v⟩ := entry
    rw [map_cons, nodup_cons] at distinct
    have absent : ∀ other ∈ rest, other.1 ≠ k := by
      intro other inRest same
      exact distinct.1 (mem_map.mpr ⟨other, inRest, same⟩)
    rw [lookup_fields_cons k name v rest absent]
    rcases mem_cons.mp member with here | there
    · cases here
      rw [if_pos rfl]
    · rw [if_neg (fun same => absent _ there same.symm)]
      exact ih distinct.2 there

theorem mem_keys_of_get (present : value.get name ≠ .nil) :
    text name ∈ value.keys := by
  cases value with
  | table tag entries =>
    have bound : lookup entries (.text name) ≠ .nil := present
    show text name ∈ entries.map Prod.fst
    clear present
    induction entries with
    | nil => exact absurd rfl bound
    | cons entry rest ih =>
      obtain ⟨key, v⟩ := entry
      by_cases here : eq key (.text name) = true
      · have named : key = .text name := eq_of_eq_str here
        simp [named]
      · have later : lookup rest (.text name) ≠ .nil := by
          simpa [lookup, here] using bound
        exact mem_cons_of_mem _ (ih later)
  | _ => exact absurd rfl present

theorem lookup_of_mem : ∀ {entries : List (Value × Value)} {s : Bytes} {v : Value},
    (entries.map Prod.fst).Nodup → (str s, v) ∈ entries →
      lookup entries (.str s) = v := by
  intro entries s v distinct member
  induction entries with
  | nil => cases member
  | cons entry rest ih =>
    obtain ⟨key, w⟩ := entry
    rw [map_cons, nodup_cons] at distinct
    rcases mem_cons.mp member with here | there
    · cases here
      simp [lookup]
    · have other : eq key (.str s) ≠ true := by
        intro same
        have named : key = .str s := eq_of_eq_str same
        exact distinct.1 (mem_map.mpr ⟨(.str s, v), there, named.symm⟩)
      rw [lookup, if_neg other]
      exact ih distinct.2 there

theorem orElse_table (table : v.isTable = true) (w : Value) : v.orElse w = v := by
  cases v with
  | table => rfl
  | _ => cases table

@[simp] theorem record_orElse (entries : List (String × Value)) (v : Value) :
    (record entries).orElse v = record entries := rfl

theorem get_record_absent {entries : List (String × Value)}
    (absent : ∀ entry ∈ entries, entry.1 ≠ name) : (record entries).get name = .nil :=
  lookup_fields_of_notMem name entries absent

theorem lookup_assign_self (s : Bytes) (v : Value) (present : v ≠ .nil) :
    ∀ entries : List (Value × Value), lookup (assign entries (.str s) v) (.str s) = v := by
  intro entries
  induction entries with
  | nil => simp [assign, present, lookup]
  | cons entry rest ih =>
    obtain ⟨k, old⟩ := entry
    by_cases found : eq k (.str s) = true
    · simp [assign, found, present, lookup]
    · simp [assign, found, lookup, ih]

theorem lookup_assign_other (s t : Bytes) (v : Value) (differ : s ≠ t) :
    ∀ entries : List (Value × Value),
      lookup (assign entries (.str s) v) (.str t) = lookup entries (.str t) := by
  intro entries
  induction entries with
  | nil =>
    by_cases isNil : v = .nil
    · simp [assign, isNil]
    · simp [assign, isNil, lookup, differ]
  | cons entry rest ih =>
    obtain ⟨k, old⟩ := entry
    by_cases found : eq k (.str s) = true
    · have key : k = .str s := eq_of_eq_str found
      by_cases isNil : v = .nil
      · simp [assign, key, isNil, lookup, differ]
      · simp [assign, key, isNil, lookup, differ]
    · simp only [assign, found, if_false, lookup, Bool.false_eq_true]
      rw [ih]

theorem get_of_setField_other {other : String} (differ : name ≠ other)
    (assigned : v.setField name value = .ok w) : w.get other = v.get other := by
  cases v with
  | table tag entries =>
    cases assigned
    exact lookup_assign_other (utf8 name) (utf8 other) value
      (fun same => differ ((utf8_inj name other).mp same)) entries
  | _ => cases assigned

theorem get_of_setField (present : value ≠ .nil) (assigned : v.setField name value = .ok w) :
    w.get name = value := by
  cases v with
  | table tag entries =>
    cases assigned
    exact lookup_assign_self (utf8 name) value present entries
  | _ => cases assigned

theorem isTable_of_setField (assigned : v.setField name value = .ok w) : w.isTable = true := by
  cases v with
  | table tag entries => cases assigned; rfl
  | _ => cases assigned

theorem setField_table (table : v.isTable = true) (name : String) (value : Value) :
    ∃ w, v.setField name value = .ok w := by
  cases v with
  | table tag entries => exact ⟨_, rfl⟩
  | _ => cases table

theorem setField_same (table : v.isTable = true) (present : value ≠ .nil)
    (read : v.get name = value) : v.setField name value = .ok v := by
  cases v with
  | table tag entries =>
    have same : assign entries (.text name) value = entries := by
      induction entries with
      | nil => exact absurd read.symm present
      | cons entry rest ih =>
        obtain ⟨k, old⟩ := entry
        rw [get] at read
        by_cases found : eq k (.text name) = true
        · rw [lookup, if_pos found] at read
          rw [assign, if_pos found, if_neg present, read]
        · rw [lookup, if_neg found] at read
          rw [assign, if_neg found, ih rfl read]
    rw [setField, same]
  | _ => cases table

theorem assign_absent (present : value ≠ .nil) :
    ∀ {entries : List (Value × Value)}, (∀ entry ∈ entries, eq entry.1 key = false) →
      assign entries key value = entries ++ [(key, value)] := by
  intro entries
  induction entries with
  | nil => intro _; rw [assign, if_neg present, nil_append]
  | cons entry rest ih =>
    intro absent
    obtain ⟨k, old⟩ := entry
    have other : eq k key = false := absent (k, old) mem_cons_self
    rw [assign, other, if_neg Bool.false_ne_true, ih fun e member =>
      absent e (mem_cons_of_mem _ member), cons_append]

theorem key_of_mem_assign {entry : Value × Value} :
    ∀ {entries : List (Value × Value)}, entry ∈ assign entries key value →
      entry.1 = key ∨ entry.1 ∈ entries.map Prod.fst := by
  intro entries
  induction entries with
  | nil =>
    intro member
    rw [assign] at member
    split at member
    · cases member
    · exact .inl (by rw [mem_singleton.mp member])
  | cons first rest ih =>
    intro member
    obtain ⟨k, old⟩ := first
    rw [assign] at member
    rw [map_cons, mem_cons]
    split at member
    · split at member
      · exact .inr (.inr (mem_map_of_mem member))
      · rcases mem_cons.mp member with rfl | there
        · exact .inr (.inl rfl)
        · exact .inr (.inr (mem_map_of_mem there))
    · rcases mem_cons.mp member with rfl | there
      · exact .inr (.inl rfl)
      · exact (ih there).imp_right .inr

theorem absent_of_assign_nil (s : Bytes) : ∀ {entries : List (Value × Value)},
    (entries.map Prod.fst).Nodup →
      ∀ entry ∈ assign entries (.str s) .nil, eq entry.1 (.str s) = false := by
  intro entries
  induction entries with
  | nil => intro _ entry member; cases member
  | cons first rest ih =>
    intro distinct entry member
    obtain ⟨k, old⟩ := first
    rw [map_cons, nodup_cons] at distinct
    rw [assign] at member
    split at member
    · rename_i found
      rw [if_pos rfl] at member
      rw [Bool.eq_false_iff]
      intro again
      rw [eq_of_eq_str found, ← eq_of_eq_str again] at distinct
      exact distinct.1 (mem_map.mpr ⟨entry, member, rfl⟩)
    · rename_i other
      rcases mem_cons.mp member with rfl | there
      · exact Bool.eq_false_iff.mpr other
      · exact ih distinct.2 entry there

/-! ## Copies and sequences -/

mutual
/-- `deep_copy`: the same tree without addresses and metatables. -/
def deepCopy : Value → Value
  | .table _ entries => .table Tag.plain (copyEntries entries)
  | v => v

def copyEntries : List (Value × Value) → List (Value × Value)
  | [] => []
  | entry :: rest => copyEntry entry :: copyEntries rest

def copyEntry : Value × Value → Value × Value
  | (k, v) => (deepCopy k, deepCopy v)
end

@[simp] theorem deepCopy_str (s : Bytes) : deepCopy (.str s) = .str s := rfl

@[simp] theorem isTable_deepCopy (v : Value) : (deepCopy v).isTable = v.isTable := by
  cases v <;> simp [deepCopy, isTable]

@[simp] theorem isString_deepCopy (v : Value) : (deepCopy v).isString = v.isString := by
  cases v <;> simp [deepCopy, isString]

@[simp] theorem truthy_deepCopy (v : Value) : (deepCopy v).truthy = v.truthy := by
  cases v <;> simp [deepCopy, truthy]

theorem eq_str_of_deepCopy {s : Bytes} (copied : deepCopy v = .str s) :
    v = .str s := by
  cases v with
  | str t => exact copied
  | _ => simp [deepCopy] at copied

theorem deepCopy_of_isNonEmptyString (named : v.isNonEmptyString = true) :
    deepCopy v = v := by
  cases v with
  | str s => rfl
  | _ => cases named

theorem eq_deepCopy_text (k : Value) (s : Bytes) :
    eq (deepCopy k) (.str s) = eq k (.str s) := by
  cases k <;> simp [deepCopy, eq]

theorem lookup_copyEntries (s : Bytes) : ∀ entries : List (Value × Value),
    lookup (copyEntries entries) (.str s) = deepCopy (lookup entries (.str s)) := by
  intro entries
  induction entries with
  | nil => rfl
  | cons entry rest ih =>
    obtain ⟨k, v⟩ := entry
    simp only [copyEntries, copyEntry, lookup, eq_deepCopy_text]
    split
    · rfl
    · exact ih

@[simp] theorem get_deepCopy (v : Value) (name : String) :
    (deepCopy v).get name = deepCopy (v.get name) := by
  cases v with
  | table tag entries => exact lookup_copyEntries (utf8 name) entries
  | _ => rfl

mutual
@[simp] theorem deepCopy_deepCopy : ∀ v : Value, v.deepCopy.deepCopy = v.deepCopy
  | .table tag entries => by simp only [deepCopy, copyEntries_copyEntries entries]
  | .nil => rfl
  | .bool _ => rfl
  | .num _ => rfl
  | .str _ => rfl
  | .ref _ _ => rfl

theorem copyEntries_copyEntries : ∀ entries : List (Value × Value),
    copyEntries (copyEntries entries) = copyEntries entries
  | [] => rfl
  | (k, v) :: rest => by
    simp only [copyEntries, copyEntry, deepCopy_deepCopy k, deepCopy_deepCopy v,
      copyEntries_copyEntries rest]
end

theorem copyEntries_assign (s : Bytes) (value : Value) : ∀ entries : List (Value × Value),
    copyEntries (assign entries (.str s) value)
      = assign (copyEntries entries) (.str s) value.deepCopy := by
  have gone : value.deepCopy = .nil ↔ value = .nil := by cases value <;> simp [deepCopy]
  intro entries
  induction entries with
  | nil =>
    by_cases isNil : value = .nil
    · simp [assign, copyEntries, isNil, deepCopy]
    · simp [assign, copyEntries, copyEntry, isNil, gone]
  | cons entry rest ih =>
    obtain ⟨k, old⟩ := entry
    by_cases found : eq k (.str s) = true
    · by_cases isNil : value = .nil
      · simp [assign, copyEntries, copyEntry, eq_deepCopy_text, found, isNil, deepCopy]
      · simp [assign, copyEntries, copyEntry, eq_deepCopy_text, found, isNil, gone]
    · simp [assign, copyEntries, copyEntry, eq_deepCopy_text, found, ih]

theorem deepCopy_of_setField (copied : v.deepCopy = v) (same : value.deepCopy = value)
    (assigned : v.setField name value = .ok w) :
    w.deepCopy = w := by
  cases v with
  | table tag entries =>
    cases assigned
    rw [deepCopy] at copied ⊢
    injection copied with plain entries'
    rw [copyEntries_assign, same, entries', plain]
  | _ => cases assigned

/-- The items `ipairs` visits from an index on, over a table's entries. -/
def itemsFrom (entries : List (Value × Value)) : Nat → Nat → List Value
  | 0, _ => []
  | fuel + 1, i =>
    match lookup entries (nat i) with
    | .nil => []
    | v => v :: itemsFrom entries fuel (i + 1)

/-- `ipairs(v)`: the items at `1, 2, ...` up to the first nil. -/
def ipairs (v : Value) : Except Failure (List Value) :=
  match v with
  | .table _ entries => .ok (itemsFrom entries entries.length 1)
  | .str _ => .ok []
  | _ => .error (.fault "ipairs")

/-- The length operator `#v`. -/
def length (v : Value) : Except Failure Nat :=
  match v with
  | .table _ entries => .ok (itemsFrom entries entries.length 1).length
  | .str s => .ok s.length
  | _ => .error (.fault "length")

/-- `tostring(v)`; the address in a table's or reference's text is left out. -/
def tostring : Value → Bytes
  | .nil => utf8 "nil"
  | .bool b => utf8 (if b then "true" else "false")
  | .num n => utf8 n.tostring
  | .str s => s
  | .table _ _ => utf8 "table"
  | .ref .function _ => utf8 "function"
  | .ref .userdata _ => utf8 "userdata"
  | .ref .thread _ => utf8 "thread"

def parse {α : Type} (all : List α) (name : α → String) (v : Value) : Option α :=
  match v with
  | .str s => all.find? fun a => utf8 (name a) = s
  | _ => none

theorem eq_text_of_parse {α : Type} {all : List α} {name : α → String} {a : α}
    (parsed : parse all name v = some a) : v = text (name a) := by
  cases v with
  | str s =>
    have named := List.find?_some parsed
    simp only [decide_eq_true_eq] at named
    rw [text, named]
  | _ => simp [parse] at parsed

theorem parse_text {α : Type} {all : List α} {name : α → String}
    (distinct : ∀ a b, name a = name b → a = b) (a : α) (member : a ∈ all) :
    parse all name (text (name a)) = some a := by
  simp only [parse, utf8_inj]
  cases found : all.find? fun b => name b = name a with
  | none =>
    have absent := List.find?_eq_none.mp found a member
    simp at absent
  | some b =>
    have named := List.find?_some found
    simp only [decide_eq_true_eq] at named
    rw [distinct b a named]

def isPositiveInteger : Value → Bool
  | .num n => !Number.lt n (.int 1) && Number.isIntegral n
  | _ => false

/-! ## Constructed tables -/

theorem fields_append (left right : List (String × Value)) :
    fields (left ++ right) = fields left ++ fields right := by
  induction left with
  | nil => rfl
  | cons entry rest ih =>
    obtain ⟨name, value⟩ := entry
    by_cases isNil : value = .nil
    · simp [fields, isNil, ih]
    · simp [fields, isNil, ih]

theorem mem_fields {entry : Value × Value} : ∀ {entries : List (String × Value)},
    entry ∈ fields entries → ∃ given ∈ entries, entry = (text given.1, given.2) := by
  intro entries member
  induction entries with
  | nil => cases member
  | cons first rest ih =>
    obtain ⟨name, value⟩ := first
    by_cases isNil : value = .nil
    · rw [fields, if_pos isNil] at member
      obtain ⟨given, inRest, same⟩ := ih member
      exact ⟨given, mem_cons_of_mem _ inRest, same⟩
    · rw [fields, if_neg isNil] at member
      rcases mem_cons.mp member with here | there
      · exact ⟨(name, value), mem_cons_self, here⟩
      · obtain ⟨given, inRest, same⟩ := ih there
        exact ⟨given, mem_cons_of_mem _ inRest, same⟩

theorem lookup_append (key : Value) (left right : List (Value × Value))
    (absent : lookup right key = .nil) : lookup (left ++ right) key = lookup left key := by
  induction left with
  | nil => exact absent
  | cons entry rest ih =>
    obtain ⟨k, v⟩ := entry
    rw [cons_append, lookup, lookup, ih]

theorem lookup_append_of_absent (name : String) (left : List (String × Value))
    (right : List (Value × Value)) (absent : ∀ entry ∈ left, entry.1 ≠ name) :
    lookup (fields left ++ right) (text name) = lookup right (text name) := by
  induction left with
  | nil => rfl
  | cons entry rest ih =>
    obtain ⟨k, v⟩ := entry
    have headNe : k ≠ name := absent (k, v) (by simp)
    have step := ih fun entry member => absent entry (by simp [member])
    by_cases isNil : v = .nil
    · simpa [fields, isNil] using step
    · simpa [fields, isNil, headNe] using step

theorem get_record_append {left right : List (String × Value)}
    (absent : ∀ entry ∈ right, entry.1 ≠ name) :
    (record (left ++ right)).get name = (record left).get name := by
  rw [record, get, fields_append, lookup_append _ _ _ (lookup_fields_of_notMem name right absent)]
  rfl

theorem get_record_after {left right : List (String × Value)}
    (absent : ∀ entry ∈ left, entry.1 ≠ name) :
    (record (left ++ right)).get name = (record right).get name := by
  rw [record, get, fields_append, lookup_append_of_absent name left _ absent]
  rfl

theorem assign_last (key value : Value) (self : eq key key = true) :
    ∀ entries : List (Value × Value), (∀ entry ∈ entries, eq entry.1 key = false) →
      assign (entries ++ [(key, value)]) key .nil = entries := by
  intro entries
  induction entries with
  | nil => intro _; simp [assign, self]
  | cons entry rest ih =>
    intro absent
    obtain ⟨k, v⟩ := entry
    have other : eq k key = false := absent (k, v) mem_cons_self
    rw [cons_append, assign, other, if_neg Bool.false_ne_true]
    rw [ih fun e member => absent e (mem_cons_of_mem _ member)]

theorem mem_keys_of_setField (assigned : v.setField name value = .ok w) (member : key ∈ w.keys) :
    key = text name ∨ key ∈ v.keys := by
  cases v with
  | table tag entries =>
    cases assigned
    obtain ⟨entry, inside, rfl⟩ := mem_map.mp member
    exact key_of_mem_assign inside
  | _ => cases assigned

theorem absent_of_setField_nil (once : v.keys.Nodup) (assigned : v.setField name .nil = .ok w) :
    text name ∉ w.keys := by
  cases v with
  | table tag entries =>
    cases assigned
    intro member
    obtain ⟨entry, inside, same⟩ := mem_map.mp member
    have other := absent_of_assign_nil (utf8 name) once entry inside
    rw [same, eq_str, decide_eq_true rfl] at other
    cases other
  | _ => cases assigned

theorem setField_back (absent : text name ∉ v.keys) (present : value ≠ .nil)
    (assigned : v.setField name value = .ok w) :
    w.setField name .nil = .ok v := by
  cases v with
  | table tag entries =>
    cases assigned
    have other : ∀ entry ∈ entries, eq entry.1 (text name) = false := by
      intro entry inside
      rw [Bool.eq_false_iff]
      intro found
      exact absent (mem_map.mpr ⟨entry, inside, eq_of_eq_str found⟩)
    rw [assign_absent present other, setField, assign_last _ _ (by simp) _ other]
  | _ => cases assigned

theorem lookup_zipIdx (items : List Value) : ∀ start i : Nat,
    lookup ((items.zipIdx start).map fun (v, i) => (nat (i + 1), v)) (nat (start + i + 1))
      = items.getD i .nil := by
  induction items with
  | nil => intro start i; rfl
  | cons item rest ih =>
    intro start i
    rw [zipIdx_cons, map_cons, lookup, eq_nat]
    cases i with
    | zero => simp
    | succ i =>
      have other : ¬ start + 1 = start + (i + 1) + 1 := by omega
      have moved : start + (i + 1) + 1 = start + 1 + i + 1 := by omega
      rw [decide_eq_false other, if_neg Bool.false_ne_true, moved, ih]
      rfl

theorem itemsFrom_array (present : ∀ item ∈ items, item ≠ .nil) {entries : List (Value × Value)}
    (reads : ∀ i, lookup entries (nat (i + 1)) = items.getD i .nil) :
    ∀ fuel i : Nat, i + fuel = items.length → itemsFrom entries fuel (i + 1) = items.drop i := by
  intro fuel
  induction fuel with
  | zero =>
    intro i sum
    rw [itemsFrom, drop_eq_nil_of_le (by omega)]
  | succ fuel ih =>
    intro i sum
    have inside : i < items.length := by omega
    have item : items.getD i .nil = items[i] := by simp [inside]
    have there : items[i] ≠ .nil := present _ (getElem_mem inside)
    rw [itemsFrom, reads, item, ih (i + 1) (by omega), drop_eq_getElem_cons inside]
    cases read : items[i] with
    | nil => exact absurd read there
    | _ => rfl

/-- `ipairs` over an array without holes visits its items. -/
theorem ipairs_array (present : ∀ item ∈ items, item ≠ .nil) :
    (array items).ipairs = .ok items := by
  have reads : ∀ i, lookup (items.zipIdx.map fun (v, i) => (nat (i + 1), v)) (nat (i + 1))
      = items.getD i .nil := by
    intro i
    have read := lookup_zipIdx items 0 i
    rwa [Nat.zero_add] at read
  have walked := itemsFrom_array present reads items.length 0 (Nat.zero_add _)
  rw [array, ipairs, length_map, length_zipIdx, walked, drop_zero]

theorem deepCopy_ne_nil (present : v ≠ .nil) : v.deepCopy ≠ .nil := by
  cases v <;> simp_all [deepCopy]

theorem keys_deepCopy (v : Value) : v.deepCopy.keys = v.keys.map deepCopy := by
  have copied : ∀ entries : List (Value × Value),
      (copyEntries entries).map Prod.fst = (entries.map Prod.fst).map deepCopy := by
    intro entries
    induction entries with
    | nil => rfl
    | cons entry rest ih =>
      obtain ⟨k, child⟩ := entry
      rw [copyEntries, copyEntry, map_cons, map_cons, map_cons, ih]
  cases v with
  | table tag entries => exact copied entries
  | _ => rfl

theorem deepCopy_fields : ∀ entries : List (String × Value),
    copyEntries (fields entries) = fields (entries.map fun entry => (entry.1, entry.2.deepCopy)) := by
  intro entries
  induction entries with
  | nil => rfl
  | cons entry rest ih =>
    obtain ⟨name, value⟩ := entry
    rw [map_cons, fields, fields]
    by_cases isNil : value = .nil
    · rw [if_pos isNil, isNil]
      exact ih.trans (if_pos rfl).symm
    · rw [if_neg isNil, if_neg (deepCopy_ne_nil isNil), copyEntries, copyEntry, deepCopy_str, ih]

theorem deepCopy_record (entries : List (String × Value)) :
    (record entries).deepCopy = record (entries.map fun entry => (entry.1, entry.2.deepCopy)) := by
  rw [record, deepCopy, deepCopy_fields]
  rfl

theorem deepCopy_array (same : ∀ item ∈ items, item.deepCopy = item) :
    (array items).deepCopy = array items := by
  have copied : ∀ start : Nat, copyEntries ((items.zipIdx start).map fun (v, i) => (nat (i + 1), v))
      = (items.zipIdx start).map fun (v, i) => (nat (i + 1), v) := by
    induction items with
    | nil => intro start; rfl
    | cons item rest ih =>
      intro start
      rw [zipIdx_cons, map_cons, copyEntries, copyEntry, same item mem_cons_self,
        ih fun other member => same other (mem_cons_of_mem _ member)]
      rfl
  rw [array, deepCopy, copied]

theorem ne_nil_of_mem_itemsFrom (entries : List (Value × Value)) : ∀ (fuel i : Nat) (v : Value),
    v ∈ itemsFrom entries fuel i → v ≠ .nil := by
  intro fuel
  induction fuel with
  | zero => intro i v member; cases member
  | succ fuel ih =>
    intro i v member
    rw [itemsFrom] at member
    cases read : lookup entries (nat i) with
    | nil => rw [read] at member; cases member
    | _ =>
      rw [read] at member
      rcases mem_cons.mp member with here | there
      · rw [here]; exact Value.noConfusion
      · exact ih _ _ there

theorem ne_nil_of_mem_ipairs {item : Value} (walked : v.ipairs = .ok items) (member : item ∈ items) :
    item ≠ .nil := by
  cases v with
  | table tag entries =>
    cases walked
    exact ne_nil_of_mem_itemsFrom _ _ _ _ member
  | str s => cases walked; cases member
  | _ => cases walked

end Value

end Proc17.Lua
