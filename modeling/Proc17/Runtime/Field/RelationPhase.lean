import Proc17.Runtime.Field.Snapshots

/-!
# Phases of raw relations

What `raw_relation_phase` computes from the trace, and what a release does to it, over
every life in which `snapshot_raw_relations` alone records snapshots.
-/

namespace Proc17.Runtime.Field

open Lua Core DissolveSchema List Value Number

/-! ## Reading an epoch -/

variable {n : Nat} {v input : Value} {rows : List Row} {name : String}

theorem num_of_eq_nat (same : Value.eq (.nat n) v = true) :
    ∃ m, v = .num m ∧ Number.eq (.int n) m = true := by
  cases v with
  | num m => exact ⟨m, rfl, same⟩
  | _ => cases same

theorem eq_congr {a b : Value} (same : Value.eq (.nat n) a = true) :
    Value.eq b a = Value.eq b (.nat n) := by
  obtain ⟨m, rfl, equal⟩ := num_of_eq_nat same
  cases b with
  | num k =>
    show Number.eq k m = Number.eq k (.int n)
    cases left : Number.eq k (.int n) with
    | true => exact eq_trans left equal
    | false =>
      by_contra differ
      have right : Number.eq k m = true := by simpa using differ
      rw [eq_trans right (eq_symm equal)] at left
      cases left
  | _ => rfl

theorem nat_eq_of_eq {m : Nat} (left : Value.eq (.nat m) v = true)
    (right : Value.eq (.nat n) v = true) : m = n := by
  rw [eq_congr right, eq_nat] at left
  exact of_decide_eq_true left

theorem positive_of_eq (same : Value.eq (.nat n) v = true) (positive : v.isPositiveInteger = true) :
    n ≠ 0 := by
  rintro rfl
  obtain ⟨m, rfl, equal⟩ := num_of_eq_nat same
  have large : Number.lt m (.int 1) = false := by
    simp only [Value.isPositiveInteger, Bool.and_eq_true, Bool.not_eq_true'] at positive
    exact positive.1
  rw [← lt_congr_left equal] at large
  cases large

variable {row : Row} {relation : Value}

section
variable {book : List (List Row)} {p : Packet}

theorem fromTrace_reads {epoch : Value} : ∀ {trace : List Event},
    (∀ event ∈ trace, event.type = .relationSnapshot →
      ∃ e rows, book[e]? = some rows ∧ Records event.payload (e + 1) rows) →
    (∃ snapshot ref e rows,
        rawSnapshotForEpoch.fromTrace epoch trace = .ok (some (snapshot, ref))
        ∧ Value.eq (.nat (e + 1)) epoch = true ∧ book[e]? = some rows
        ∧ Records snapshot (e + 1) rows)
      ∨ (rawSnapshotForEpoch.fromTrace epoch trace = .ok none
        ∧ ∀ event ∈ trace, event.type = .relationSnapshot →
          Value.eq (event.payload.get "epoch") epoch = false) := by
  intro trace
  induction trace with
  | nil =>
    intro _
    exact .inr ⟨rfl, forall_mem_nil _⟩
  | cons event rest ih =>
    intro booked
    have later := ih fun other member => booked other (mem_cons_of_mem _ member)
    unfold rawSnapshotForEpoch.fromTrace
    by_cases snapshot : event.type = .relationSnapshot
    · obtain ⟨e, rows, page, records⟩ := booked event mem_cons_self snapshot
      rw [if_pos snapshot, orElse_table records.table, index_eq_get records.table, ok_then, records.epoch]
      cases same : Value.eq (.nat (e + 1)) epoch with
      | true => exact .inl ⟨_, _, e, rows, rfl, same, page, records.deepCopy⟩
      | false =>
        rcases later with found | ⟨none, apart⟩
        · exact .inl found
        · refine .inr ⟨none, ?_⟩
          intro other member recorded
          rcases mem_cons.mp member with rfl | there
          · rw [records.epoch]
            exact same
          · exact apart other there recorded
    · rw [if_neg snapshot]
      rcases later with found | ⟨none, apart⟩
      · exact .inl found
      · refine .inr ⟨none, ?_⟩
        intro other member recorded
        rcases mem_cons.mp member with rfl | there
        · exact absurd recorded snapshot
        · exact apart other there recorded

theorem rawSnapshotForEpoch_reads (booked : Booked book p) {epoch : Value}
    (positive : epoch.isPositiveInteger = true) :
    (∃ snapshot ref e rows, rawSnapshotForEpoch p epoch = .ok (some (snapshot, ref))
        ∧ Value.eq (.nat (e + 1)) epoch = true ∧ book[e]? = some rows
        ∧ Records snapshot (e + 1) rows)
      ∨ (rawSnapshotForEpoch p epoch = .ok none
        ∧ Value.eq (.nat p.field.raw.epoch) epoch = false
        ∧ ∀ event ∈ p.trace, event.type = .relationSnapshot →
          Value.eq (event.payload.get "epoch") epoch = false) := by
  unfold rawSnapshotForEpoch
  cases current : Value.eq (.nat p.field.raw.epoch) epoch with
  | true =>
    rw [if_pos rfl]
    obtain ⟨e, last⟩ := Nat.exists_eq_succ_of_ne_zero (positive_of_eq current positive)
    have records := snapshotTable_records p.field.raw
    have length := booked.length
    have page : book[e]? = some (p.field.raw.items.map rowOf) := by
      rw [booked.current, getLastD_eq_getLast?, List.getLast?_eq_getElem?,
        show book.length - 1 = e by omega, List.getElem?_eq_getElem (by omega)]
      rfl
    rw [last] at current records
    exact .inl ⟨_, _, e, _, rfl, current, page, records⟩
  | false =>
    rw [if_neg Bool.false_ne_true]
    rcases fromTrace_reads booked.events with found | ⟨none, apart⟩
    · exact .inl found
    · exact .inr ⟨none, rfl, apart⟩

theorem scan_reads {id : Bytes} : ∀ {items : List Value} {rows : List Row},
    List.Forall₂ Reads items rows →
    (∃ relation row, relationInSnapshot.scan (.str id) items = .ok (some relation)
        ∧ row ∈ rows ∧ row.1 = id ∧ Reads relation row)
      ∨ (relationInSnapshot.scan (.str id) items = .ok none ∧ ∀ row ∈ rows, row.1 ≠ id) := by
  intro items rows reads
  induction reads with
  | nil => exact .inr ⟨rfl, forall_mem_nil _⟩
  | @cons relation row items rows first _ ih =>
    rw [relationInSnapshot.scan, index_eq_get first.table, ok_then, first.id]
    by_cases here : row.1 = id
    · refine .inl ⟨relation, row, ?_, mem_cons_self, here, first⟩
      rw [here, eq_str, decide_eq_true rfl, if_pos rfl]
      rfl
    · have apart : Value.eq (.str row.1) (.str id) = false := beq_false_of_ne here
      rw [apart, if_neg Bool.false_ne_true]
      rcases ih with ⟨found, row', scanned, member, named, read⟩ | ⟨none, others⟩
      · exact .inl ⟨found, row', scanned, mem_cons_of_mem _ member, named, read⟩
      · exact .inr ⟨none, forall_mem_cons.mpr ⟨here, others⟩⟩

variable {epoch : Nat}

theorem relationInSnapshot_reads {snapshot : Value}
    (records : Records snapshot epoch rows) (id : Bytes) :
    (∃ relation row, relationInSnapshot snapshot (.str id) = .ok (some relation)
        ∧ row ∈ rows ∧ row.1 = id ∧ Reads relation row)
      ∨ (relationInSnapshot snapshot (.str id) = .ok none ∧ ∀ row ∈ rows, row.1 ≠ id) := by
  obtain ⟨items, listed, reads⟩ := records.items
  have walked : relationInSnapshot snapshot (.str id)
      = relationInSnapshot.scan (.str id) items := by
    rw [relationInSnapshot, listed]
    show ((Value.array items).ipairs >>= _) = _
    rw [ipairs_reads reads, ok_then]
  rw [walked]
  exact scan_reads reads

theorem rawRelationExact_reads (booked : Booked book p) {epoch id versions : Value}
    {exact : ExactRelation} (found : rawRelationExact p epoch id versions = .ok exact) :
    ∃ e rows row, Value.eq (.nat (e + 1)) epoch = true ∧ book[e]? = some rows ∧ row ∈ rows
      ∧ id = .str row.1 ∧ Reads exact.relation row := by
  unfold rawRelationExact at found
  simp only [bind_eq_ok, require_eq_ok] at found
  obtain ⟨-, positive, -, named, answer, looked, found⟩ := found
  rcases rawSnapshotForEpoch_reads booked positive with
    ⟨snapshot, ref, e, rows, looked', same, page, records⟩ | ⟨looked', -⟩
  · rw [looked'] at looked
    cases looked
    simp only [bind_eq_ok] at found
    obtain ⟨relation, scanned, found⟩ := found
    cases id with
    | str s =>
      rcases relationInSnapshot_reads records s with
        ⟨relation', row, scanned', member, rfl, reads⟩ | ⟨scanned', -⟩
      · rw [scanned'] at scanned
        cases scanned
        simp only [bind_eq_ok, pure_eq_ok] at found
        obtain ⟨-, -, rfl⟩ := found
        exact ⟨e, rows, row, same, page, member, rfl, reads.deepCopy⟩
      · rw [scanned'] at scanned
        cases scanned
        cases found
    | _ => cases named
  · rw [looked'] at looked
    cases looked
    cases found

/-! ## The raw relations of a Packet -/

/-- A raw relation of an epoch: in the current snapshot, or in an event that records one. -/
def RawRow (p : Packet) (epoch : Nat) (row : Row) : Prop :=
  (epoch = p.field.raw.epoch ∧ ∃ r ∈ p.field.raw.items, rowOf r = row)
    ∨ ∃ event ∈ p.trace, event.type = .relationSnapshot
      ∧ event.payload.get "epoch" = .nat epoch
      ∧ ∃ items relation, (event.payload.get "items").ipairs = .ok items ∧ relation ∈ items
        ∧ Reads relation row

theorem versionsTable_injective {left right : List (Bytes × Number)}
    (same : versionsTable left = versionsTable right) : left = right := by
  have entries : left.map (fun entry => (Value.str entry.1, Value.num entry.2))
      = right.map (fun entry => (Value.str entry.1, Value.num entry.2)) := (Value.table.inj same).2
  refine map_injective_iff.mpr ?_ entries
  rintro ⟨a, m⟩ ⟨b, n⟩ pair
  obtain ⟨key, version⟩ := Prod.mk.inj pair
  exact Prod.ext (Value.str.inj key) (Value.num.inj version)

theorem Reads.unique {row row' : Row} (left : Reads relation row)
    (right : Reads relation row') : row = row' := by
  have id := left.id.symm.trans right.id
  have versions := left.versions.symm.trans right.versions
  exact Prod.ext (Value.str.inj id) (versionsTable_injective versions)

theorem mem_of_forall₂ {items : List Value}
    (reads : List.Forall₂ Reads items rows) (member : relation ∈ items) :
    ∃ row ∈ rows, Reads relation row := by
  induction reads with
  | nil => cases member
  | cons first rest ih =>
    rcases mem_cons.mp member with rfl | there
    · exact ⟨_, mem_cons_self, first⟩
    · obtain ⟨row, later, read⟩ := ih there
      exact ⟨row, mem_cons_of_mem _ later, read⟩

theorem nat_injective {m : Nat} (same : Value.nat m = .nat n) : m = n := by
  have number := Number.int.inj (Value.num.inj same)
  omega

theorem RawRow.booked (raw : RawRow p epoch row)
    (booked : Booked book p) : ∃ e rows, epoch = e + 1 ∧ book[e]? = some rows ∧ row ∈ rows := by
  rcases raw with ⟨rfl, r, member, rfl⟩ | ⟨event, member, recorded, named, items, relation, walked,
    there, read⟩
  · have length := booked.length
    have here : rowOf r ∈ book.getLastD [] := by
      rw [← booked.current]
      exact mem_map.mpr ⟨r, member, rfl⟩
    rcases eq_nil_or_concat book with rfl | ⟨pages, last, rfl⟩
    · cases here
    · rw [concat_eq_append] at here length ⊢
      rw [getLastD_concat] at here
      rw [length_append, length_singleton] at length
      exact ⟨pages.length, last, length.symm, List.getElem?_concat_length, here⟩
  · obtain ⟨e, rows, page, records⟩ := booked.events event member recorded
    obtain ⟨items', listed, reads⟩ := records.items
    rw [listed, ipairs_reads reads] at walked
    cases walked
    obtain ⟨row', known, read'⟩ := mem_of_forall₂ reads there
    rw [records.epoch] at named
    refine ⟨e, rows, (nat_injective named).symm, page, ?_⟩
    rw [read.unique read']
    exact known

theorem RawRow.exact (raw : RawRow p epoch row)
    (booked : Booked book p) : ∃ exact,
      rawRelationExact p (.nat epoch) (.str row.1) .nil = .ok exact
        ∧ Reads exact.relation row := by
  obtain ⟨e, rows, rfl, page, member⟩ := raw.booked booked
  have legal := booked.legal rows (mem_of_getElem? page)
  have positive : (Value.nat (e + 1)).isPositiveInteger = true := by
    simp only [Value.isPositiveInteger, Value.nat, Number.lt, Number.isIntegral, Number.floor,
      Number.eq, beq_self_eq_true, Bool.and_true, Bool.not_eq_true', decide_eq_false_iff_not]
    omega
  have named : (Value.str row.1).isNonEmptyString = true := by
    simpa [Value.isNonEmptyString] using legal.named row member
  rcases rawSnapshotForEpoch_reads booked positive with
    ⟨snapshot, ref, e', rows', looked, same, page', records⟩ | ⟨-, current, apart⟩
  · rw [eq_nat] at same
    have epochs : e' = e := by
      have := of_decide_eq_true same
      omega
    subst epochs
    rw [page] at page'
    cases page'
    rcases relationInSnapshot_reads records row.1 with
      ⟨relation, row', scanned, known, twin, reads⟩ | ⟨-, others⟩
    · have same : row' = row := inj_on_of_nodup_map legal.distinct known member twin
      subst same
      refine ⟨⟨relation.deepCopy, snapshot, ref⟩, ?_, reads.deepCopy⟩
      unfold rawRelationExact
      simp only [bind_eq_ok, require_eq_ok]
      refine ⟨(), positive, (), named, _, looked, ?_⟩
      simp only [bind_eq_ok]
      refine ⟨some relation, scanned, ?_⟩
      simp only [bind_eq_ok, require_eq_ok, pure_eq_ok]
      exact ⟨(), .inl trivial, trivial⟩
    · exact absurd rfl (others row member)
  · -- the epoch is the current one or has its event
    exfalso
    rcases raw with ⟨last, -⟩ | ⟨event, there, recorded, told, -⟩
    · rw [← last, eq_nat, decide_eq_true rfl] at current
      cases current
    · have other := apart event there recorded
      rw [told, eq_nat, decide_eq_true rfl] at other
      cases other

end

/-! ## Dispositions -/

def rowTable (row : Row) : Value :=
  .record [("id", .str row.1), ("endpoint_versions", versionsTable row.2)]

theorem rowTable_reads (row : Row) : Reads (rowTable row) row where
  table := rfl
  id := get_record (by simp) (by simp)
  versions := get_record (by simp) (by simp)

theorem inputMatchesRelation_eq {epoch relation : Value} {e : Nat}
    (same : Value.eq (.nat e) epoch = true) (reads : Reads relation row) :
    inputMatchesRelation input epoch relation
      = inputMatchesRelation input (.nat e) (rowTable row) := by
  unfold inputMatchesRelation
  rw [eq_congr same, reads.id, reads.versions, (rowTable_reads row).id,
    (rowTable_reads row).versions]

def Disposes (disposition : String) (epoch : Nat) (row : Row) (event : Event) : Prop :=
  ∃ input, eventRelationInput event = .ok (input, .text disposition)
    ∧ inputMatchesRelation input (.nat epoch) (rowTable row) = .ok true

def Disposed (disposition : String) (p : Packet) (epoch : Nat) (row : Row) : Prop :=
  ∃ event ∈ p.trace, Disposes disposition epoch row event

def RawEncoded : Packet → Nat → Row → Prop := Disposed "relation_formation"

def RawReleased : Packet → Nat → Row → Prop := Disposed "raw_release"

def RawObserved : Packet → Nat → Row → Prop := Disposed "relation_native"

def Readable (epoch : Nat) (row : Row) (event : Event) : Prop :=
  ∃ input disposition matched, eventRelationInput event = .ok (input, disposition)
    ∧ inputMatchesRelation input (.nat epoch) (rowTable row) = .ok matched

def Legible (p : Packet) (epoch : Nat) (row : Row) : Prop :=
  ∀ event ∈ p.trace, Readable epoch row event

structure Noted (epoch : Nat) (row : Row) (seen seen' : Dispositions) (events : List Event) :
    Prop where
  observed : seen'.observed ≠ none
    ↔ seen.observed ≠ none ∨ ∃ event ∈ events, Disposes "relation_native" epoch row event
  encoded : seen'.encoded ≠ none
    ↔ seen.encoded ≠ none ∨ ∃ event ∈ events, Disposes "relation_formation" epoch row event
  released : seen'.released ≠ none
    ↔ seen.released ≠ none ∨ ∃ event ∈ events, Disposes "raw_release" epoch row event

section
variable {epoch : Value} {e : Nat}

variable {event : Event}

theorem disposes_iff {disposition : Value} {matched : Bool}
    (said : eventRelationInput event = .ok (input, disposition))
    (told : inputMatchesRelation input (.nat e) (rowTable row) = .ok matched) (name : String) :
    Disposes name e row event ↔ matched = true ∧ disposition = .text name := by
  constructor
  · rintro ⟨input', said', told'⟩
    rw [said] at said'
    obtain ⟨rfl, rfl⟩ := Prod.mk.inj (Except.ok.inj said')
    rw [told] at told'
    exact ⟨Except.ok.inj told', rfl⟩
  · rintro ⟨rfl, rfl⟩
    exact ⟨input, said, told⟩

theorem dispose_eq {disposition : Value} {matched : Bool} (same : Value.eq (.nat e) epoch = true)
    (reads : Reads relation row) (said : eventRelationInput event = .ok (input, disposition))
    (told : inputMatchesRelation input (.nat e) (rowTable row) = .ok matched) (seen : Dispositions) :
    dispose epoch relation seen event = .ok (if matched = false then seen
      else if disposition = .text "relation_native" then { seen with observed := some event }
      else if disposition = .text "relation_formation" then { seen with encoded := some event }
      else if disposition = .text "raw_release" then { seen with released := some event }
      else seen) := by
  unfold dispose
  rw [said, ok_then]
  simp only
  rw [inputMatchesRelation_eq same reads, told, ok_then]
  rfl

theorem dispose_facts (same : Value.eq (.nat e) epoch = true) (reads : Reads relation row)
    {seen seen' : Dispositions} (disposed : dispose epoch relation seen event = .ok seen') :
    Readable e row event ∧ Noted e row seen seen' [event] := by
  have taken := disposed
  unfold dispose at taken
  simp only [bind_eq_ok, Prod.exists] at taken
  obtain ⟨input, disposition, said, matched, told, -⟩ := taken
  rw [inputMatchesRelation_eq same reads] at told
  rw [dispose_eq same reads said told] at disposed
  have iff (name : String) : (∃ other ∈ [event], Disposes name e row other)
      ↔ matched = true ∧ disposition = .text name := by
    rw [← disposes_iff said told name]
    simp
  refine ⟨⟨input, disposition, matched, said, told⟩, ?_⟩
  obtain rfl := Except.ok.inj disposed
  constructor
  all_goals
    rw [iff]
    cases matched with
    | false => simp
    | true =>
      by_cases native : disposition = .text "relation_native"
      · simp [native]
      · by_cases formation : disposition = .text "relation_formation"
        · simp [formation]
        · by_cases release : disposition = .text "raw_release"
          · simp [release]
          · simp [native, formation, release]

theorem Noted.cons {seen seen' seen'' : Dispositions} {rest : List Event}
    (first : Noted e row seen seen' [event]) (later : Noted e row seen' seen'' rest) :
    Noted e row seen seen'' (event :: rest) := by
  obtain ⟨observed, encoded, released⟩ := first
  obtain ⟨observed', encoded', released'⟩ := later
  constructor
  · rw [observed', observed]
    simp [or_assoc]
  · rw [encoded', encoded]
    simp [or_assoc]
  · rw [released', released]
    simp [or_assoc]

theorem foldlM_facts (same : Value.eq (.nat e) epoch = true) (reads : Reads relation row)
    (trace : List Event) : ∀ {seen seen' : Dispositions},
    trace.foldlM (dispose epoch relation) seen = .ok seen' →
      (∀ event ∈ trace, Readable e row event) ∧ Noted e row seen seen' trace := by
  induction trace with
  | nil =>
    intro seen seen' folded
    cases folded
    exact ⟨forall_mem_nil _, by simp, by simp, by simp⟩
  | cons event rest ih =>
    intro seen seen' folded
    rw [foldlM_cons, bind_eq_ok] at folded
    obtain ⟨next, disposed, folded⟩ := folded
    obtain ⟨readable, noted⟩ := dispose_facts same reads disposed
    obtain ⟨legible, later⟩ := ih folded
    exact ⟨forall_mem_cons.mpr ⟨readable, legible⟩, noted.cons later⟩

theorem foldlM_succeeds (same : Value.eq (.nat e) epoch = true) (reads : Reads relation row)
    (trace : List Event) : ∀ seen : Dispositions, (∀ event ∈ trace, Readable e row event) →
    ∃ seen', trace.foldlM (dispose epoch relation) seen = .ok seen' := by
  induction trace with
  | nil =>
    intro seen _
    exact ⟨seen, rfl⟩
  | cons event rest ih =>
    intro seen legible
    obtain ⟨⟨input, disposition, matched, said, told⟩, later⟩ := forall_mem_cons.mp legible
    rw [foldlM_cons, dispose_eq same reads said told, ok_then]
    exact ih _ later

end

/-! ## Phases -/

/-- An endpoint is gone or has another version than the row says. -/
def Moved (p : Packet) (row : Row) : Prop :=
  ∃ entry ∈ row.2, ∀ unit, p.field.units.lookup entry.1 = some unit →
    Number.eq unit.version entry.2 = false

def Fits (p : Packet) (epoch : Nat) (row : Row) : Phase → Prop
  | .encoded => RawEncoded p epoch row
  | .released => ¬ RawEncoded p epoch row ∧ RawReleased p epoch row
  | .replaced => (¬ RawEncoded p epoch row ∧ ¬ RawReleased p epoch row)
      ∧ epoch < p.field.raw.epoch
  | .stale => (¬ RawEncoded p epoch row ∧ ¬ RawReleased p epoch row)
      ∧ ¬ epoch < p.field.raw.epoch ∧ Moved p row
  | .expired => (¬ RawEncoded p epoch row ∧ ¬ RawReleased p epoch row)
      ∧ ¬ epoch < p.field.raw.epoch ∧ ¬ Moved p row ∧ ended p = true
  | .observed => (¬ RawEncoded p epoch row ∧ ¬ RawReleased p epoch row)
      ∧ ¬ epoch < p.field.raw.epoch ∧ ¬ Moved p row ∧ ¬ ended p = true
      ∧ RawObserved p epoch row
  | .available => (¬ RawEncoded p epoch row ∧ ¬ RawReleased p epoch row)
      ∧ ¬ epoch < p.field.raw.epoch ∧ ¬ Moved p row ∧ ¬ ended p = true
      ∧ ¬ RawObserved p epoch row

variable {p : Packet}

theorem Fits.unique {e : Nat} {a b : Phase} (left : Fits p e row a)
    (right : Fits p e row b) : a = b := by
  cases a <;> cases b <;> first
    | rfl
    | (simp only [Fits] at left right; tauto)

def Consistent (p : Packet) (epoch : Nat) (row : Row) : Prop :=
  ¬ (RawEncoded p epoch row ∧ RawReleased p epoch row)

section
variable {epoch id : Value} {exact : ExactRelation} {e : Nat}

theorem less_epoch (same : Value.eq (.nat e) epoch = true) (n : Nat) :
    Value.less epoch (.nat n) = .ok (decide (e < n)) := by
  obtain ⟨m, rfl, equal⟩ := num_of_eq_nat same
  show Except.ok (Number.lt m (.int n)) = _
  rw [← lt_congr_left equal]
  simp [Number.lt]

theorem endpointsStale_eq (reads : Reads relation row) :
    ∃ stale, endpointsStale p relation = .ok stale ∧ (stale = true ↔ Moved p row) := by
  have entries : endpointEntries relation
      = .ok (row.2.map fun entry => (.str entry.1, .num entry.2)) := by
    unfold endpointEntries
    rw [reads.versions]
    rfl
  unfold endpointsStale
  rw [entries, ok_then]
  refine ⟨_, rfl, ?_⟩
  rw [any_map, any_eq_true]
  constructor
  · rintro ⟨entry, member, moved⟩
    refine ⟨entry, member, fun unit found => ?_⟩
    simpa [Field.find, found, Value.eq] using moved
  · rintro ⟨entry, member, moved⟩
    refine ⟨entry, member, ?_⟩
    cases found : p.field.units.lookup entry.1 with
    | none => simp [Field.find, found]
    | some unit => simpa [Field.find, found, Value.eq] using moved unit found

section
variable (found : rawRelationExact p epoch id .nil = .ok exact)
  (same : Value.eq (.nat e) epoch = true) (reads : Reads exact.relation row)
include found same reads

theorem phase_fits {phase : Phase} (computed : rawRelationPhase p epoch id = .ok phase) :
    Legible p e row ∧ Consistent p e row ∧ Fits p e row phase := by
  obtain ⟨stale, endpoints, moved⟩ := endpointsStale_eq (p := p) reads
  unfold rawRelationPhase at computed
  rw [found, ok_then] at computed
  simp only [bind_eq_ok, require_eq_ok] at computed
  obtain ⟨seen, folded, -, single, computed⟩ := computed
  obtain ⟨legible, observed, encoded, released⟩ := foldlM_facts same reads p.trace folded
  simp only [ne_eq, not_true_eq_false, false_or] at observed encoded released
  have first : seen.encoded ≠ none ↔ RawEncoded p e row := encoded
  have second : seen.released ≠ none ↔ RawReleased p e row := released
  have third : seen.observed ≠ none ↔ RawObserved p e row := observed
  refine ⟨legible, ?_, ?_⟩
  · rintro ⟨formed, freed⟩
    rcases single with absent | absent
    · exact first.mpr formed absent
    · exact second.mpr freed absent
  · rw [less_epoch same] at computed
    split at computed
    · cases computed
      exact first.mp ‹_›
    · rename_i unencoded
      split at computed
      · cases computed
        exact ⟨fun formed => unencoded (first.mpr formed), second.mp ‹_›⟩
      · rename_i unreleased
        have neither : ¬ RawEncoded p e row ∧ ¬ RawReleased p e row :=
          ⟨fun formed => unencoded (first.mpr formed), fun freed => unreleased (second.mpr freed)⟩
        simp only [ok_then] at computed
        split at computed
        · rename_i later
          cases computed
          exact ⟨neither, of_decide_eq_true later⟩
        · rename_i last
          have current : ¬ e < p.field.raw.epoch := fun later => last (decide_eq_true later)
          rw [endpoints, ok_then] at computed
          obtain rfl := Except.ok.inj computed
          cases stale with
          | true => exact ⟨neither, current, moved.mp rfl⟩
          | false =>
            have still : ¬ Moved p row := fun gone => Bool.false_ne_true (moved.mpr gone)
            cases done : ended p with
            | true => exact ⟨neither, current, still, done⟩
            | false =>
              have alive : ¬ ended p = true := by rw [done]; exact Bool.false_ne_true
              by_cases sight : seen.observed = none
              · simp only [sight]
                exact ⟨neither, current, still, alive, fun saw => third.mpr saw sight⟩
              · simp only [if_pos sight]
                exact ⟨neither, current, still, alive, third.mp sight⟩

theorem phase_succeeds (legible : Legible p e row) (consistent : Consistent p e row) :
    ∃ phase, rawRelationPhase p epoch id = .ok phase := by
  obtain ⟨stale, endpoints, -⟩ := endpointsStale_eq (p := p) reads
  obtain ⟨seen, folded⟩ := foldlM_succeeds same reads p.trace ⟨none, none, none⟩ legible
  obtain ⟨-, -, encoded, released⟩ := foldlM_facts same reads p.trace folded
  simp only [ne_eq, not_true_eq_false, false_or] at encoded released
  have single : seen.encoded = none ∨ seen.released = none := by
    by_contra both
    rw [not_or] at both
    exact consistent ⟨encoded.mp both.1, released.mp both.2⟩
  unfold rawRelationPhase
  rw [found, ok_then, folded, ok_then, require_then, if_pos single]
  split
  · exact ⟨_, rfl⟩
  · split
    · exact ⟨_, rfl⟩
    · rw [less_epoch same, ok_then]
      split
      · exact ⟨_, rfl⟩
      · rw [endpoints, ok_then]
        exact ⟨_, rfl⟩

theorem phase_contradicted (legible : Legible p e row) (formed : RawEncoded p e row)
    (freed : RawReleased p e row) : rawRelationPhase p epoch id
      = .error (refuse "raw relation has contradictory terminal dispositions") := by
  obtain ⟨seen, folded⟩ := foldlM_succeeds same reads p.trace ⟨none, none, none⟩ legible
  obtain ⟨-, -, encoded, released⟩ := foldlM_facts same reads p.trace folded
  simp only [ne_eq, not_true_eq_false, false_or] at encoded released
  unfold rawRelationPhase
  rw [found, ok_then, folded, ok_then, require_then, if_neg]
  rintro (absent | absent)
  · exact encoded.mpr formed absent
  · exact released.mpr freed absent

end

end

/-! ## Releases -/

theorem coversEndpointVersions_self (legal : Legal rows) (member : row ∈ rows) :
    coversEndpointVersions (versionsTable row.2) (versionsTable row.2) = true := by
  have once : ((row.2.map fun entry => (Value.str entry.1, Value.num entry.2)).map Prod.fst).Nodup := by
    rw [map_map]
    have keys : row.2.map (Prod.fst ∘ fun entry => (Value.str entry.1, Value.num entry.2))
        = (row.2.map Prod.fst).map Value.str := by rw [map_map]; rfl
    rw [keys]
    exact (legal.once row member).map fun a b same => Value.str.inj same
  unfold coversEndpointVersions versionsTable
  simp only [all_eq_true]
  intro entry there
  obtain ⟨version, here, rfl⟩ := mem_map.mp there
  simp only
  rw [Value.lookup_of_mem once there]
  exact eq_refl (legal.actual row member version here)

def Names (input : Value) (epoch : Nat) (id : Bytes) : Prop :=
  Value.eq (.nat epoch) (input.get "raw_epoch") = true ∧ input.get "relation_id" = .str id

theorem isTable_of_index (read : (input.orElse .emptyTable).index name = .ok v) (present : v ≠ .nil) :
    ∃ tag entries, input = .table tag entries := by
  cases input with
  | table tag entries => exact ⟨tag, entries, rfl⟩
  | str | nil => exact absurd (Except.ok.inj read).symm present
  | bool b =>
    cases b with
    | true => cases read
    | false => exact absurd (Except.ok.inj read).symm present
  | num | ref => cases read

theorem rawRelationExact_any {epoch id versions : Value} {exact : ExactRelation}
    (found : rawRelationExact p epoch id versions = .ok exact) :
    rawRelationExact p epoch id .nil = .ok exact := by
  unfold rawRelationExact at found ⊢
  simp only [bind_eq_ok] at found ⊢
  obtain ⟨_, positive, _, named, answer, looked, found⟩ := found
  refine ⟨(), positive, (), named, answer, looked, ?_⟩
  cases answer with
  | none => cases found
  | some pair =>
    simp only [bind_eq_ok] at found ⊢
    obtain ⟨scanned, there, found⟩ := found
    refine ⟨scanned, there, ?_⟩
    cases scanned with
    | none => cases found
    | some relation =>
      simp only [bind_eq_ok, require_eq_ok] at found ⊢
      obtain ⟨-, -, built⟩ := found
      exact ⟨(), .inl trivial, built⟩

def releasedFields (input : Value) (row : Row) : List (String × Value) :=
  [("scope", .text "raw"), ("disposition", .text "released"), ("raw_epoch", input.get "raw_epoch"),
    ("relation_id", .str row.1), ("endpoint_versions", versionsTable row.2)]

theorem releaseRawPlan_facts {book : List (List Row)} (booked : Booked book p)
    {actor : Value} {plan : RawRelease} (planned : releaseRawPlan p actor input = .ok plan) :
    ∃ e rows row, Names input (e + 1) row.1 ∧ book[e]? = some rows ∧ row ∈ rows
      ∧ Reads plan.relation row ∧ ¬ RawEncoded p (e + 1) row ∧ ¬ RawReleased p (e + 1) row
      ∧ ∀ name value, (name, value) ∈ releasedFields input row →
        (Value.record plan.payload).get name = value := by
  unfold releaseRawPlan at planned
  simp only [bind_eq_ok, require_eq_ok, pure_eq_ok] at planned
  obtain ⟨-, -, glyph, -, -, -, lease, -, epoch, read, exact, found, phase, computed, -,
    ⟨unencoded, unreleased, -⟩, -, -, refs, -, rfl⟩ := planned
  obtain ⟨e, rows, row, same, page, member, named, reads⟩ := rawRelationExact_reads booked found
  obtain ⟨m, number, -⟩ := num_of_eq_nat same
  obtain ⟨tag, entries, rfl⟩ := isTable_of_index read (by rw [number]; exact Value.noConfusion)
  obtain rfl : (Value.table tag entries).get "raw_epoch" = epoch := Except.ok.inj read
  have again : rawRelationExact p ((Value.table tag entries).get "raw_epoch")
      ((Value.table tag entries).get "relation_id") .nil = .ok exact :=
    rawRelationExact_any found
  obtain ⟨-, -, fits⟩ := phase_fits again same reads computed
  refine ⟨e, rows, row, ⟨same, named⟩, page, member, reads, ?_, ?_, ?_⟩
  · intro formed
    exact unencoded (fits.unique formed)
  · intro freed
    by_cases formed : RawEncoded p (e + 1) row
    · exact unencoded (fits.unique formed)
    · exact unreleased (fits.unique ⟨formed, freed⟩)
  · rw [reads.id, reads.versions, deepCopy_versionsTable]
    exact fun name value inside =>
      get_record (by simp) (mem_cons_of_mem _ (mem_append_left _ inside))

theorem releaseRaw_facts {book : List (List Row)} (booked : Booked book p) {now : Int}
    {actor : Value} (succeeded : (releaseRawRelation p now actor input).Succeeds) :
    ∃ e rows row, Names input (e + 1) row.1 ∧ book[e]? = some rows ∧ row ∈ rows
      ∧ ¬ RawEncoded p (e + 1) row ∧ ¬ RawReleased p (e + 1) row
      ∧ RawReleased (releaseRawRelation p now actor input).2 (e + 1) row := by
  unfold releaseRawRelation at succeeded ⊢
  cases planned : releaseRawPlan p actor input with
  | error failure =>
    rw [planned, transact_error] at succeeded
    exact absurd succeeded (Reply.not_succeeds_error _ _)
  | ok plan =>
    rw [planned, transact_ok] at succeeded
    rw [transact_ok]
    obtain ⟨e, rows, row, named, page, member, reads, unencoded, unreleased, payload⟩ :=
      releaseRawPlan_facts booked planned
    refine ⟨e, rows, row, named, page, member, unencoded, unreleased, ?_⟩
    have legal := booked.legal rows (mem_of_getElem? page)
    rcases recordEvent_cases p now .relationMutation .dissolve (.record plan.payload) id
        (fun event q => ((.ok ((Value.record (plan.payload
          ++ [("trace_event_id", event.id)])).deepCopy, plan.relation), q) :
            Reply Packet (Value × Value))) rfl with
      ⟨err, result⟩ | ⟨failure, result⟩ | ⟨event, typed, -, recorded, result⟩
    · rw [result] at succeeded
      exact absurd succeeded (Reply.not_succeeds_error _ _)
    · rw [result] at succeeded
      exact absurd succeeded (Reply.not_succeeds_error _ _)
    · rw [result]
      obtain ⟨m, epoch, equal⟩ := num_of_eq_nat named.1
      have field : ∀ name value, (name, value) ∈ releasedFields input row →
          event.payload.get name = value.deepCopy := by
        intro name value inside
        rw [recorded, get_deepCopy, payload name value inside]
      have scope : event.payload.get "scope" = .text "raw" :=
        field _ (.text "raw") (by simp [releasedFields])
      have disposition : event.payload.get "disposition" = .text "released" :=
        field _ (.text "released") (by simp [releasedFields])
      have rawEpoch : event.payload.get "raw_epoch" = .num m :=
        field _ (.num m) (by simp [releasedFields, epoch])
      have relationId : event.payload.get "relation_id" = .str row.1 :=
        field _ (.str row.1) (by simp [releasedFields])
      have versions := field "endpoint_versions" (versionsTable row.2) (by simp [releasedFields])
      rw [deepCopy_versionsTable] at versions
      have table : event.payload.isTable = true := by
        rw [recorded]
        rfl
      refine ⟨event, mem_append_right _ mem_cons_self, event.payload, ?_, ?_⟩
      · unfold eventRelationInput
        rw [typed, orElse_table table]
        simp only [index_eq_get table, scope, disposition, ok_then]
        rfl
      · unfold inputMatchesRelation inputNames
        rw [table, rawEpoch, relationId, versions, (rowTable_reads row).id,
          (rowTable_reads row).versions, coversEndpointVersions_self legal member, eq_str,
          decide_eq_true rfl, if_pos rfl, ok_then]
        have back : Value.eq (.num m) (.nat (e + 1)) = true := eq_symm equal
        rw [back]
        rfl

end Proc17.Runtime.Field
