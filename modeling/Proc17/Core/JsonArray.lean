import Proc17.Core.JsonText

/-!
# JSON text of arrays

An array's text joins the texts of its items; lists of strings are read back from it.
-/

namespace Proc17.Core.Json

open Lua List

/-! ## Arrays -/

def arrayEntries (items : List Value) (start : Nat) : List (Value × Value) :=
  (items.zipIdx start).map fun (v, i) => (.nat (i + 1), v)

theorem arrayEntries_cons (item : Value) (rest : List Value) (start : Nat) :
    arrayEntries (item :: rest) start = (.nat (start + 1), item) :: arrayEntries rest (start + 1) :=
  rfl

theorem length_arrayEntries (items : List Value) (start : Nat) :
    (arrayEntries items start).length = items.length := by
  rw [arrayEntries, length_map, length_zipIdx]

theorem maxKey_arrayEntries : ∀ (items : List Value) (start : Nat), items ≠ [] →
    maxKey (arrayEntries items start) = .int (start + items.length : Nat)
  | [], _, given => absurd rfl given
  | [item], start, _ => by
    rw [arrayEntries_cons]
    show (if Number.lt (.int 0) (.int (start + 1 : Nat)) = true then Number.int (start + 1 : Nat)
      else .int 0) = _
    have above : Number.lt (.int 0) (.int (start + 1 : Nat)) = true := by
      simp only [Number.lt, decide_eq_true_eq]
      omega
    rw [if_pos above]
    rfl
  | item :: second :: rest, start, _ => by
    have ih := maxKey_arrayEntries (second :: rest) (start + 1) (by simp)
    rw [arrayEntries_cons]
    show (if Number.lt (maxKey (arrayEntries (second :: rest) (start + 1)))
      (.int (start + 1 : Nat)) = true then Number.int (start + 1 : Nat)
      else maxKey (arrayEntries (second :: rest) (start + 1))) = _
    have below : ¬ Number.lt (.int (start + 1 + (second :: rest).length : Nat))
        (.int (start + 1 : Nat)) = true := by
      simp only [Number.lt, decide_eq_true_eq]
      omega
    rw [ih, if_neg below]
    congr 2
    simp only [length_cons]
    omega

theorem isArray_arrayEntries (items : List Value) : isArray (arrayEntries items 0) = true := by
  have keys : ∀ (items : List Value) (start : Nat),
      (arrayEntries items start).all (fun entry => arrayKey entry.1) = true := by
    intro items
    induction items with
    | nil => intro start; rfl
    | cons item rest ih =>
      intro start
      rw [arrayEntries_cons, all_cons, ih, Bool.and_true]
      have above : Number.lt (.int (start + 1 : Nat)) (.int 1) = false := by
        simp only [Number.lt, decide_eq_false_iff_not]
        omega
      show (!Number.lt (.int (start + 1 : Nat)) (.int 1) && Number.isFinite (.int (start + 1 : Nat))
        && Number.isIntegral (.int (start + 1 : Nat))) = true
      rw [above]
      simp [Number.isFinite, Number.isIntegral, Number.floor, Number.eq]
  rw [isArray, keys, Bool.true_and, length_arrayEntries]
  cases items with
  | nil => rfl
  | cons item rest =>
    rw [maxKey_arrayEntries _ _ (by simp), Nat.zero_add]
    simp [Number.eq]

theorem partAt_arrayEntries : ∀ (items : List Value) (start i : Nat), i < items.length →
    partAt (encodeEntries (arrayEntries items start)) (start + i + 1) = encode (items.getD i .nil)
  | [], _, _, inside => absurd inside (Nat.not_lt_zero _)
  | item :: rest, start, 0, _ => by
    rw [arrayEntries_cons, encodeEntries, encodeEntry, partAt, List.find?_cons_of_pos]
    · rfl
    · simp [Value.eq_nat]
  | item :: rest, start, i + 1, inside => by
    have ih := partAt_arrayEntries rest (start + 1) i (Nat.lt_of_succ_lt_succ inside)
    have moved : start + (i + 1) + 1 = start + 1 + i + 1 := by omega
    have other : ¬ start + 1 = start + 1 + i + 1 := by omega
    rw [arrayEntries_cons, encodeEntries, encodeEntry, moved, partAt, List.find?_cons_of_neg]
    · exact ih
    · simp only [Value.eq_nat, other, decide_false, Bool.false_eq_true, not_false_eq_true]

theorem mapM_agree {α : Type} {f g : α → Except Failure Bytes} : ∀ {items : List α},
    (∀ item ∈ items, f item = g item) → items.mapM f = items.mapM g
  | [], _ => rfl
  | item :: rest, agree => by
    rw [mapM_cons, mapM_cons, agree item mem_cons_self,
      mapM_agree fun other member => agree other (mem_cons_of_mem _ member)]

theorem encode_array (items : List Value) :
    encode (.array items) = (do
      let texts ← items.mapM encode
      pure (utf8 "[" ++ commaJoin texts ++ utf8 "]")) := by
  have entries : Value.array items = .table Tag.plain (arrayEntries items 0) := rfl
  have walked : (List.range items.length).mapM
      (fun i => partAt (encodeEntries (arrayEntries items 0)) (i + 1)) = items.mapM encode := by
    have listed : items = (List.range items.length).map fun i => items.getD i .nil := by
      apply ext_getElem
      · simp
      · intro i inside _
        simp [inside]
    have each : ∀ i ∈ List.range items.length,
        partAt (encodeEntries (arrayEntries items 0)) (i + 1) = encode (items.getD i .nil) := by
      intro i member
      have read := partAt_arrayEntries items 0 i (mem_range.mp member)
      rwa [Nat.zero_add] at read
    rw [mapM_agree each]
    conv_rhs => rw [listed, mapM_map]
    rfl
  rw [entries, encode, if_pos (isArray_arrayEntries items), arrayText]
  have counted : (encodeEntries (arrayEntries items 0)).length = items.length := by
    rw [encodeEntries_eq_map, length_map, length_arrayEntries]
  rw [counted, walked]

/-! ## Lists of strings -/

theorem commaJoin_cons (text : Bytes) {rest : List Bytes} (more : rest ≠ []) (after : Bytes) :
    commaJoin (text :: rest) ++ after = text ++ 44 :: (commaJoin rest ++ after) := by
  cases rest with
  | nil => exact absurd rfl more
  | cons next rest =>
    rw [commaJoin, append_assoc, append_assoc]
    · rfl
    · simp

variable {text : Bytes}

theorem commaJoin_open (present : text ≠ []) (rest : List Bytes) :
    commaJoin (text :: rest) ++ [93] ≠ [93] := by
  intro same
  have lengths := congrArg List.length same
  have some_byte := length_pos_iff.mpr present
  cases rest with
  | nil =>
    simp only [commaJoin, length_append, length_singleton] at lengths
    omega
  | cons next rest =>
    rw [commaJoin_cons text (by simp)] at lengths
    simp only [length_append, length_cons, length_nil] at lengths
    omega

theorem commaJoin_closed : ∀ {left right : List Bytes}, (∀ text ∈ left, Complete text ∧ text ≠ []) →
    (∀ text ∈ right, Complete text ∧ text ≠ []) →
    commaJoin left ++ [93] = commaJoin right ++ [93] → left = right
  | [], [], _, _, _ => rfl
  | [], b :: right, _, two, same =>
    absurd same.symm (commaJoin_open (two b mem_cons_self).2 right)
  | a :: left, [], one, _, same =>
    absurd same (commaJoin_open (one a mem_cons_self).2 left)
  | [a], [b], _, _, same => by
    have texts : a ++ [93] = b ++ [93] := same
    rw [append_cancel_right texts]
  | [a], b :: b' :: right, one, two, same => by
    rw [commaJoin_cons b (by simp)] at same
    have ends := (complete_unique (one a mem_cons_self).1 (two b mem_cons_self).1
      rfl rfl same).2
    cases ends
  | a :: a' :: left, [b], one, two, same => by
    rw [commaJoin_cons a (by simp)] at same
    have ends := (complete_unique (one a mem_cons_self).1 (two b mem_cons_self).1
      rfl rfl same).2
    cases ends
  | a :: a' :: left, b :: b' :: right, one, two, same => by
    rw [commaJoin_cons a (by simp), commaJoin_cons b (by simp)] at same
    obtain ⟨heads, tails⟩ := complete_unique (one a mem_cons_self).1
      (two b mem_cons_self).1 rfl rfl same
    have rest := commaJoin_closed (fun text member => one text (mem_cons_of_mem _ member))
      (fun text member => two text (mem_cons_of_mem _ member)) (List.cons.inj tails).2
    rw [heads, rest]

theorem quote_injective {s t : Bytes} (same : quote s = quote t) : s = t :=
  encode_str_injective (congrArg Except.ok same)

theorem encode_strings (items : List Bytes) :
    encode (.array (items.map .str)) = .ok (utf8 "[" ++ commaJoin (items.map quote) ++ utf8 "]") := by
  have each : (items.map Value.str).mapM encode = .ok (items.map quote) := by
    induction items with
    | nil => rfl
    | cons item rest ih =>
      rw [map_cons, mapM_cons, ih]
      rfl
  rw [encode_array, each]
  rfl

theorem encode_strings_injective {left right : List Bytes}
    (same : encode (.array (left.map .str)) = encode (.array (right.map .str))) : left = right := by
  rw [encode_strings, encode_strings, Except.ok.injEq, append_assoc, append_assoc] at same
  have closed := append_cancel_left same
  have quoted : ∀ items : List Bytes, ∀ text ∈ items.map quote, Complete text ∧ text ≠ [] := by
    intro items text member
    obtain ⟨s, -, rfl⟩ := mem_map.mp member
    exact ⟨complete_quote s, fun empty => by cases empty⟩
  exact (map_injective_iff.mpr fun _ _ => quote_injective)
    (commaJoin_closed (quoted left) (quoted right) closed)

/-! ## Lists of tables -/

theorem encode_table_ne_nil {tag : Tag} {entries : List (Value × Value)}
    (encoded : encode (.table tag entries) = .ok text) : text ≠ [] := by
  rw [encode] at encoded
  split at encoded
  · simp only [arrayText, bind_eq_ok, pure_eq_ok] at encoded
    obtain ⟨texts, -, rfl⟩ := encoded
    exact fun empty => by cases empty
  · simp only [objectText, bind_eq_ok, pure_eq_ok] at encoded
    obtain ⟨texts, -, rfl⟩ := encoded
    exact fun empty => by cases empty

theorem mem_of_mapM {α β : Type} {f : α → Except Failure β} {items : List α} {texts : List β}
    (mapped : items.mapM f = .ok texts) : ∀ text ∈ texts, ∃ item ∈ items, f item = .ok text := by
  induction items generalizing texts with
  | nil =>
    cases mapped
    intro text member
    cases member
  | cons item rest ih =>
    rw [mapM_cons] at mapped
    simp only [bind_eq_ok, pure_eq_ok] at mapped
    obtain ⟨head, first, tail, others, rfl⟩ := mapped
    intro text member
    rcases mem_cons.mp member with rfl | there
    · exact ⟨item, mem_cons_self, first⟩
    · obtain ⟨found, inRest, encoded⟩ := ih others text there
      exact ⟨found, mem_cons_of_mem _ inRest, encoded⟩

theorem encode_tables_iff {left right : List Value} (tables : ∀ item ∈ left ++ right,
    item.isTable = true) (encodes : Encodes (.array left)) :
    encode (.array left) = encode (.array right)
      ↔ List.Forall₂ (fun a b => encode a = encode b) left right := by
  have texted : ∀ items : List Value, (∀ item ∈ items, item.isTable = true) →
      ∀ texts, items.mapM encode = .ok texts → ∀ text ∈ texts, Complete text ∧ text ≠ [] := by
    intro items all texts mapped text member
    obtain ⟨item, inItems, encoded⟩ := mem_of_mapM mapped text member
    refine ⟨complete_encode item text encoded, ?_⟩
    cases item with
    | table tag entries => exact encode_table_ne_nil encoded
    | _ => cases all _ inItems
  constructor
  · intro same
    obtain ⟨text, encoded⟩ := encodes
    have encoded' := same ▸ encoded
    rw [encode_array] at encoded encoded'
    simp only [bind_eq_ok, pure_eq_ok] at encoded encoded'
    obtain ⟨texts, mapped, rfl⟩ := encoded
    obtain ⟨texts', mapped', joined⟩ := encoded'
    rw [append_assoc, append_assoc] at joined
    have one := texted left (fun item member => tables item (mem_append_left _ member)) _ mapped
    have two := texted right (fun item member => tables item (mem_append_right _ member)) _ mapped'
    have listed := commaJoin_closed two one (append_cancel_left joined)
    rw [listed] at mapped'
    refine (forall₂_of_mapM mapped mapped').imp ?_
    rintro a b ⟨text, first, second⟩
    rw [first, second]
  · intro related
    have mapped : left.mapM encode = right.mapM encode := by
      clear encodes texted tables
      induction related with
      | nil => rfl
      | cons head _ ih => rw [mapM_cons, mapM_cons, head, ih]
    rw [encode_array, encode_array, mapped]

/-! ## Records with absent fields -/

def NamedAlike (left right : List (String × Value)) : Prop :=
  List.Forall₂ (fun a b => a.1 = b.1 ∧ (a.2 = .nil ↔ b.2 = .nil)) left right

theorem record_present (entries : List (String × Value)) :
    Value.record (entries.filter fun entry => entry.2 ≠ .nil) = .record entries := by
  have fields : Value.fields (entries.filter fun entry => entry.2 ≠ .nil) = Value.fields entries := by
    induction entries with
    | nil => rfl
    | cons entry rest ih =>
      obtain ⟨name, value⟩ := entry
      by_cases absent : value = .nil
      · rw [filter_cons_of_neg (by simp [absent]), Value.fields, if_pos absent, ih]
      · rw [filter_cons_of_pos (by simp [absent]), Value.fields, Value.fields, if_neg absent,
          if_neg absent, ih]
  rw [Value.record, Value.record, fields]

theorem NamedAlike.present {left right : List (String × Value)} (alike : NamedAlike left right) :
    PresentAlike (left.filter fun entry => entry.2 ≠ .nil) (right.filter fun entry => entry.2 ≠ .nil)
      ∧ (List.Forall₂ (fun a b => encode a.2 = encode b.2)
          (left.filter fun entry => entry.2 ≠ .nil) (right.filter fun entry => entry.2 ≠ .nil)
        ↔ List.Forall₂ (fun a b => encode a.2 = encode b.2) left right) := by
  induction alike with
  | nil => exact ⟨.nil, Iff.rfl⟩
  | @cons a b left right head _ ih =>
    obtain ⟨named, absence⟩ := head
    by_cases absent : a.2 = .nil
    · have absent' := absence.mp absent
      rw [filter_cons_of_neg (by simp [absent]), filter_cons_of_neg (by simp [absent'])]
      refine ⟨ih.1, ih.2.trans ?_⟩
      rw [forall₂_cons, absent, absent']
      exact ⟨fun rest => ⟨rfl, rest⟩, fun both => both.2⟩
    · have absent' : b.2 ≠ .nil := fun gone => absent (absence.mpr gone)
      rw [filter_cons_of_pos (by simp [absent]), filter_cons_of_pos (by simp [absent'])]
      refine ⟨.cons ⟨named, absent, absent'⟩ ih.1, ?_⟩
      rw [forall₂_cons, forall₂_cons, ih.2]

theorem encode_named_iff {left right : List (String × Value)} (alike : NamedAlike left right)
    (encodes : Encodes (.record left)) :
    encode (.record left) = encode (.record right)
      ↔ List.Forall₂ (fun a b => encode a.2 = encode b.2) left right := by
  obtain ⟨present, fields⟩ := alike.present
  rw [← record_present left] at encodes ⊢
  rw [← record_present right, encode_record_iff present encodes, fields]

theorem fields_not_array {given : List (String × Value)} (present : Value.fields given ≠ []) :
    isArray (Value.fields given) = false := by
  cases shape : Value.fields given with
  | nil => exact absurd shape present
  | cons entry rest =>
    have member : entry ∈ Value.fields given := by rw [shape]; exact mem_cons_self
    obtain ⟨field, -, rfl⟩ := Value.mem_fields member
    exact isArray_named

theorem encode_record_lines {given : List (String × Value)}
    (present : Value.fields given ≠ []) (encoded : encode (.record given) = .ok text) :
    ∃ lines, lines.length = (Value.fields given).length
      ∧ (∀ line ∈ lines, Complete line ∧ line ≠ [])
      ∧ text = utf8 "\x7b" ++ commaJoin lines ++ utf8 "\x7d" := by
  rw [Value.record, encode, fields_not_array present, if_neg Bool.false_ne_true, objectText_eq]
    at encoded
  simp only [bind_eq_ok, pure_eq_ok] at encoded
  obtain ⟨lines, mapped, rfl⟩ := encoded
  refine ⟨lines, ?_, ?_, rfl⟩
  · rw [mapM_length mapped, length_insertionSort, encodeEntries_eq_map, length_map]
  · intro line member
    have whole : ∀ line ∈ lines, Complete line := complete_of_mapM mapped
      fun part inParts line written => by
        obtain ⟨inside, read, rfl⟩ := lineOf_ok written
        exact complete_field _ (complete_encodeEntries _ part
          ((mem_insertionSort _).mp inParts) inside read)
    refine ⟨whole line member, ?_⟩
    obtain ⟨part, -, written⟩ := mem_of_mapM mapped line member
    obtain ⟨inside, -, rfl⟩ := lineOf_ok written
    exact fun empty => by cases empty

theorem encode_record_length {left right : List (String × Value)}
    (present : Value.fields left ≠ []) (present' : Value.fields right ≠ [])
    (one : encode (.record left) = .ok text) (two : encode (.record right) = .ok text) :
    (Value.fields left).length = (Value.fields right).length := by
  obtain ⟨lines, counted, whole, rfl⟩ := encode_record_lines present one
  obtain ⟨lines', counted', whole', same⟩ := encode_record_lines present' two
  have joined : commaJoin lines = commaJoin lines' :=
    append_cancel_left (append_cancel_right same)
  have listed := commaJoin_closed whole whole' (congrArg (· ++ [93]) joined)
  rw [← counted, ← counted', listed]

end Proc17.Core.Json
