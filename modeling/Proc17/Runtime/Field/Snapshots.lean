import Proc17.Runtime.Field.InheritedRelease
import Proc17.Runtime.Field.Mutators

/-!
# The book of snapshots

Every raw snapshot that was stored stays readable as it was: as the current snapshot, and
later from the event that recorded it.
-/

namespace Proc17.Runtime.Field

open Lua Core DissolveSchema List Value

/-! ## Calls that take no snapshot -/

structure Still (p q : Packet) : Prop where
  raw : q.field.raw = p.field.raw
  trace : ∃ events, q.trace = p.trace ++ events
    ∧ ∀ event ∈ events, event.type ≠ .relationSnapshot

variable {p q : Packet} {now : Int}

namespace Still

theorem of_same (raw : q.field.raw = p.field.raw) (trace : q.trace = p.trace) :
    Still p q :=
  ⟨raw, [], by rw [trace, append_nil], forall_mem_nil _⟩

theorem refl (p : Packet) : Still p p := of_same rfl rfl

theorem trans {r : Packet} (first : Still p q) (second : Still q r) : Still p r := by
  obtain ⟨raw, events, appended, plain⟩ := first
  obtain ⟨raw', later, more, plain'⟩ := second
  refine ⟨raw'.trans raw, events ++ later, ?_, ?_⟩
  · rw [more, appended, append_assoc]
  · exact forall_mem_append.mpr ⟨plain, plain'⟩

theorem push {event : Event} (plain : event.type ≠ .relationSnapshot) :
    Still p (p.push event) := by
  refine ⟨rfl, [event], rfl, ?_⟩
  intro other member
  rw [mem_singleton.mp member]
  exact plain

theorem tracked : TrackedField (fun type => type ≠ .relationSnapshot) Still where
  refl := refl
  trans := trans
  beside field _ trace := of_same (congrArg Core.Field.raw field) trace
  push plain _ := push plain
  aside := of_same

end Still

/-- A Packet call that hands no `relation_snapshot` event to `append_trace`. -/
def Genuine : Deed → Prop
  | .packet ⟨.appendTrace event, _⟩ => event.get "type" ≠ .text "relation_snapshot"
  | _ => True

theorem Genuine.hands : ∀ {d : Deed}, Genuine d →
    TrackedField.Hands (fun type => type ≠ .relationSnapshot) d
  | .packet ⟨.appendTrace event, _⟩, genuine => by
    intro type typed snapshot
    rw [snapshot] at typed
    exact genuine (eq_text_of_parse typed)
  | .packet ⟨.beginTick _ _, _⟩, _ | .packet ⟨.commitTransition _, _⟩, _
  | .packet ⟨.appendChaos _, _⟩, _ | .packet ⟨.crystallize _, _⟩, _
  | .packet ⟨.measureTension _, _⟩, _ | .packet ⟨.appendRepositoryEvent _, _⟩, _
  | .packet ⟨.appendQaEvent _, _⟩, _ | .packet ⟨.appendUnitDissolution _, _⟩, _
  | .packet ⟨.beginTerminal _, _⟩, _ | .packet ⟨.freeze _ _, _⟩, _
  | .packet ⟨.manifestPacket _ _, _⟩, _ | .packet ⟨.die _ _, _⟩, _
  | .mutate _ _, _ => trivial

theorem ordinary_still : TrackedField.Ordinary fun type => type ≠ .relationSnapshot := by
  refine ⟨⟨by decide, ?_⟩, by decide, by decide⟩
  rintro type dedicated rfl
  cases dedicated

theorem deed_still (S : Schemas) (l : Living) (d : Deed) (genuine : Genuine d)
    (other : ∀ now actor input, d ≠ .mutate now (.snapshotRawRelations actor input)) :
    Still l.packet ((lifeMachine S).after l d).packet :=
  Still.tracked.deed ordinary_still S l d genuine.hands
    fun now actor input same => absurd same (other now actor input)

/-! ## What a snapshot says of its relations -/

abbrev Row := Bytes × List (Bytes × Number)

def rowOf (r : Relation) : Row := (r.id, r.endpointVersions)

structure Reads (relation : Value) (row : Row) : Prop where
  table : relation.isTable = true
  id : relation.get "id" = .str row.1
  versions : relation.get "endpoint_versions" = versionsTable row.2

structure Records (snapshot : Value) (epoch : Nat) (rows : List Row) : Prop where
  table : snapshot.isTable = true
  epoch : snapshot.get "epoch" = .nat epoch
  items : ∃ items, snapshot.get "items" = .array items ∧ List.Forall₂ Reads items rows

theorem deepCopy_versionsTable (versions : List (Bytes × Number)) :
    (versionsTable versions).deepCopy = versionsTable versions := by
  have copied : Value.copyEntries (versions.map fun entry => (Value.str entry.1, Value.num entry.2))
      = versions.map fun entry => (Value.str entry.1, Value.num entry.2) := by
    induction versions with
    | nil => rfl
    | cons entry rest ih =>
      rw [map_cons, Value.copyEntries, ih]
      rfl
  rw [versionsTable, Value.deepCopy, copied]

theorem deepCopy_items (items : List Value) :
    (Value.array items).deepCopy = .array (items.map Value.deepCopy) := by
  have copied : ∀ start : Nat,
      Value.copyEntries ((items.zipIdx start).map fun entry => (Value.nat (entry.2 + 1), entry.1))
        = ((items.map Value.deepCopy).zipIdx start).map
          fun entry => (Value.nat (entry.2 + 1), entry.1) := by
    induction items with
    | nil => intro start; rfl
    | cons item rest ih =>
      intro start
      rw [zipIdx_cons, map_cons, Value.copyEntries, Value.copyEntry, ih]
      rfl
  rw [Value.array, Value.deepCopy]
  exact congrArg (Value.table Tag.plain) (copied 0)

theorem relationTable_reads (r : Relation) : Reads (relationTable r) (rowOf r) where
  table := rfl
  id := get_record (by simp) (by simp [rowOf])
  versions := get_record (by simp) (by simp [rowOf])

theorem Reads.deepCopy {relation : Value} {row : Row} (reads : Reads relation row) :
    Reads relation.deepCopy row where
  table := by rw [isTable_deepCopy, reads.table]
  id := by rw [get_deepCopy, reads.id]; rfl
  versions := by rw [get_deepCopy, reads.versions, deepCopy_versionsTable]

theorem Reads.ne_nil {relation : Value} {row : Row} (reads : Reads relation row) :
    relation ≠ .nil := by
  rintro rfl
  cases reads.table

theorem forall₂_reads_map (f : Relation → Value) (each : ∀ r, Reads (f r) (rowOf r)) :
    ∀ items : List Relation, List.Forall₂ Reads (items.map f) (items.map rowOf) := by
  intro items
  induction items with
  | nil => exact .nil
  | cons r rest ih => exact .cons (each r) ih

theorem ipairs_reads {items : List Value} {rows : List Row} (reads : List.Forall₂ Reads items rows) :
    (Value.array items).ipairs = .ok items := by
  refine ipairs_array ?_
  intro item member
  induction reads with
  | nil => cases member
  | cons first rest ih =>
    rcases mem_cons.mp member with rfl | later
    · exact first.ne_nil
    · exact ih later

theorem snapshotTable_items (s : RawSnapshot) :
    (snapshotTable s).get "items" = .array (s.items.map relationTable) :=
  get_record (by simp) (by simp)

theorem snapshotTable_records (s : RawSnapshot) :
    Records (snapshotTable s) s.epoch (s.items.map rowOf) where
  table := rfl
  epoch := get_record (by simp) (by simp)
  items := ⟨_, snapshotTable_items s, forall₂_reads_map relationTable relationTable_reads s.items⟩

theorem Records.deepCopy {snapshot : Value} {epoch : Nat} {rows : List Row}
    (records : Records snapshot epoch rows) : Records snapshot.deepCopy epoch rows where
  table := by rw [isTable_deepCopy, records.table]
  epoch := by
    rw [get_deepCopy, records.epoch]
    rfl
  items := by
    obtain ⟨items, listed, reads⟩ := records.items
    refine ⟨items.map Value.deepCopy, by rw [get_deepCopy, listed, deepCopy_items], ?_⟩
    rw [forall₂_map_left_iff]
    exact reads.imp fun relation row here => here.deepCopy

/-! ## Taking a snapshot -/

structure Versioned (p : Packet) (r : Relation) : Prop where
  once : (r.endpointVersions.map Prod.fst).Nodup
  ends : ∀ entry ∈ r.endpointVersions, (entry.1 = r.source ∨ entry.1 = r.target)
    ∧ ∃ unit, p.field.units.lookup entry.1 = some unit ∧ unit.version = entry.2

theorem find_tostring {α : Type} {table : List (Bytes × α)} {v : Value} {a : α}
    (found : find table v = some a) : table.lookup v.tostring = some a := by
  obtain ⟨s, rfl, -⟩ := find_str found
  exact found

theorem candidate_versioned {candidate : Value} {plannedId : Bytes} {r : Relation}
    (valid : validateRelationCandidate p candidate plannedId = .ok r) : Versioned p r := by
  unfold validateRelationCandidate at valid
  simp only [bind_eq_ok, pure_eq_ok, Prod.exists] at valid
  obtain ⟨source, target, found, -, -, -, -, -, -, confident, -, -, -, -, -, -, -, -, -, -, -,
    sourceRefs, -, provenanceRefs, -, rfl⟩ := valid
  obtain ⟨fromUnit, toUnit⟩ := relationEnds_facts found
  constructor
  · show ((put [((candidate.get "from").tostring, source.version)] (candidate.get "to").tostring
      target.version).map Prod.fst).Nodup
    by_cases twin : (candidate.get "to").tostring
        ∈ [((candidate.get "from").tostring, source.version)].map Prod.fst
    · rw [keys_put_present twin]
      exact nodup_singleton _
    · rw [keys_put_absent twin]
      refine nodup_append.mpr ⟨nodup_singleton _, nodup_singleton _, ?_⟩
      intro a here b there same
      rw [mem_singleton.mp there] at same
      exact twin (same ▸ here)
  · intro entry member
    rcases mem_put member with rfl | there
    · exact ⟨.inr rfl, target, find_tostring toUnit, rfl⟩
    · rw [mem_singleton.mp there]
      exact ⟨.inl rfl, source, find_tostring fromUnit, rfl⟩

theorem snapshotPlan_versioned {actor input : Value} {snapshot : RawSnapshot}
    (planned : snapshotPlan p actor input = .ok snapshot) :
    ∀ r ∈ snapshot.items, Versioned p r := by
  unfold snapshotPlan at planned
  simp only [bind_eq_ok, pure_eq_ok] at planned
  obtain ⟨-, -, glyph, -, -, -, lease, -, items, -, -, -, -, -, -, -, -, -, -, -, -, -, -, -,
    candidates, -, relations, made, sourceRefs, -, truncated, -, rfl⟩ := planned
  intro r member
  obtain ⟨s, there, rfl⟩ := mem_map.mp member
  obtain ⟨once, ends⟩ := planRelations_each candidate_versioned made (by simp) s there
  exact ⟨once, ends⟩

theorem snapshot_outcome (p : Packet) (now : Int) (actor input : Value) :
    (¬ (snapshotRawRelations p now actor input).Succeeds
        ∧ Still p (snapshotRawRelations p now actor input).2
        ∧ (snapshotRawRelations p now actor input).2.field.units = p.field.units)
      ∨ ∃ snapshot events, snapshotPlan p actor input = .ok snapshot
        ∧ (snapshotRawRelations p now actor input).2.field.raw.epoch = snapshot.epoch
        ∧ (snapshotRawRelations p now actor input).2.field.raw.items.map rowOf
          = snapshot.items.map rowOf
        ∧ (snapshotRawRelations p now actor input).2.trace = p.trace ++ events
        ∧ (∀ event ∈ events, event.payload = (snapshotTable snapshot).deepCopy)
        ∧ ∀ r ∈ (snapshotRawRelations p now actor input).2.field.raw.items, Versioned p r := by
  unfold snapshotRawRelations
  rcases transact_cases (snapshotPlan p actor input)
      (fun snapshot => recordEvent (withRaw p snapshot) now
        (fieldEvent .relationSnapshot .connect (snapshotTable snapshot)) (restoreRaw p)
        fun event q => (.ok (captured snapshot event), putRaw q (captured snapshot event))) p with
    ⟨failure, -, result⟩ | ⟨snapshot, planned, result⟩
  · rw [result]
    exact .inl ⟨Reply.not_succeeds_error _ _, Still.refl p, rfl⟩
  · rw [result]
    rcases recordEvent_cases (withRaw p snapshot) now .relationSnapshot .connect
        (snapshotTable snapshot) (restoreRaw p)
        (fun event q => ((.ok (captured snapshot event), putRaw q (captured snapshot event)) :
          Reply Packet RawSnapshot)) rfl with
      ⟨err, result'⟩ | ⟨failure, result'⟩ | ⟨event, -, -, payload, result'⟩
    · rw [result']
      exact .inl ⟨Reply.not_succeeds_error _ _, Still.of_same rfl rfl, rfl⟩
    · rw [result']
      exact .inr ⟨snapshot, [], planned, rfl, rfl, (append_nil _).symm,
        forall_mem_nil _, snapshotPlan_versioned planned⟩
    · rw [result']
      refine .inr ⟨snapshot, [event], planned, rfl, ?_, rfl, ?_, ?_⟩
      · show (captured snapshot event).items.map rowOf = snapshot.items.map rowOf
        simp [captured, rowOf, Function.comp_def]
      · intro other member
        rw [mem_singleton.mp member]
        exact payload
      · intro r member
        obtain ⟨s, there, rfl⟩ := mem_map.mp member
        obtain ⟨once, ends⟩ := snapshotPlan_versioned planned s there
        exact ⟨once, ends⟩

/-! ## The book -/

/-- The rows of one snapshot: named, each id once, each with the versions of its ends. -/
structure Legal (rows : List Row) : Prop where
  distinct : (rows.map Prod.fst).Nodup
  named : ∀ row ∈ rows, row.1 ≠ []
  once : ∀ row ∈ rows, (row.2.map Prod.fst).Nodup
  actual : ∀ row ∈ rows, ∀ entry ∈ row.2, entry.2 ≠ .nan

/-- The rows of every epoch so far, the first one first.  The current snapshot and every
event that records a snapshot say what the book says. -/
structure Booked (book : List (List Row)) (p : Packet) : Prop where
  length : book.length = p.field.raw.epoch
  current : p.field.raw.items.map rowOf = book.getLastD []
  events : ∀ event ∈ p.trace, event.type = .relationSnapshot →
    ∃ epoch rows, book[epoch]? = some rows ∧ Records event.payload (epoch + 1) rows
  legal : ∀ rows ∈ book, Legal rows

def Steady (p : Packet) : Prop :=
  ∀ key unit, p.field.units.lookup key = some unit → unit.version ≠ .nan

theorem Booked.still {book : List (List Row)} {p q : Packet} (booked : Booked book p)
    (still : Still p q) : Booked book q := by
  obtain ⟨raw, events, appended, plain⟩ := still
  refine ⟨by rw [raw]; exact booked.length, by rw [raw]; exact booked.current, ?_, booked.legal⟩
  intro event member snapshot
  rw [appended] at member
  rcases mem_append.mp member with there | new
  · exact booked.events event there snapshot
  · exact absurd snapshot (plain event new)

theorem relationName_ne_nil (n : Nat) : relationName n ≠ [] := by
  intro empty
  have text : utf8 ("relation:" ++ toString n) = utf8 "" := empty
  rw [utf8_inj] at text
  have letters := congrArg String.toList text
  rw [String.toList_append] at letters
  cases letters

theorem snapshot_legal {t : Tally} (kept : Represented p t) (steady : Steady p)
    {actor input : Value} {snapshot : RawSnapshot}
    (planned : snapshotPlan p actor input = .ok snapshot) :
    Legal (snapshot.items.map rowOf) := by
  obtain ⟨-, names, -⟩ := snapshotPlan_facts kept planned
  have versioned := snapshotPlan_versioned planned
  have ids : (snapshot.items.map rowOf).map Prod.fst = snapshot.items.map Relation.id := by
    simp [rowOf, Function.comp_def]
  constructor
  · rw [ids, names]
    refine List.Nodup.map ?_ nodup_range
    intro a b same
    have := relationName_injective same
    omega
  · intro row member
    have named : row.1 ∈ snapshot.items.map Relation.id := by
      rw [← ids]
      exact mem_map.mpr ⟨row, member, rfl⟩
    rw [names] at named
    obtain ⟨k, -, same⟩ := mem_map.mp named
    rw [← same]
    exact relationName_ne_nil _
  · intro row member
    obtain ⟨r, there, rfl⟩ := mem_map.mp member
    exact (versioned r there).once
  · intro row member entry here
    obtain ⟨r, there, rfl⟩ := mem_map.mp member
    obtain ⟨-, unit, found, version⟩ := (versioned r there).ends entry here
    rw [← version]
    exact steady _ unit found

theorem snapshot_booked {book : List (List Row)} {t : Tally} (booked : Booked book p)
    (kept : Represented p t) (steady : Steady p) (now : Int) (actor input : Value) :
    ∃ more, Booked (book ++ more) (snapshotRawRelations p now actor input).2 := by
  rcases snapshot_outcome p now actor input with
    ⟨-, still, -⟩ | ⟨snapshot, events, planned, epoch, items, trace, payloads, -⟩
  · exact ⟨[], by rw [append_nil]; exact booked.still still⟩
  · obtain ⟨later, -⟩ := snapshotPlan_facts kept planned
    refine ⟨[snapshot.items.map rowOf], ?_, ?_, ?_, ?_⟩
    · rw [epoch, later, length_append, length_singleton, booked.length]
    · rw [items, getLastD_concat]
    · intro event member recorded
      rw [trace] at member
      rcases mem_append.mp member with there | new
      · obtain ⟨e, rows, page, listed⟩ := booked.events event there recorded
        refine ⟨e, rows, ?_, listed⟩
        rw [List.getElem?_append_left (List.getElem?_eq_some_iff.mp page).1]
        exact page
      · refine ⟨book.length, snapshot.items.map rowOf, List.getElem?_concat_length, ?_⟩
        rw [payloads event new, booked.length, ← later]
        exact (snapshotTable_records snapshot).deepCopy
    · exact forall_mem_append.mpr
        ⟨booked.legal, forall_mem_singleton.mpr (snapshot_legal kept steady planned)⟩

/-! ## Versions that are numbers -/

theorem ofDyadic_ne_nan (x : Dyadic) : Number.ofDyadic x ≠ .nan := by
  cases x with
  | zero => exact Number.noConfusion
  | ofOdd n k odd =>
    simp only [Number.ofDyadic]
    split_ifs
    all_goals exact Number.noConfusion

theorem nextVersion_ne_nan {v : Number} (actual : v ≠ .nan) : nextVersion v ≠ .nan := by
  cases v with
  | int | inf => exact Number.noConfusion
  | float x => exact ofDyadic_ne_nan _
  | nan => exact absurd rfl actual

theorem Steady.of_same (steady : Steady p) (units : q.field.units = p.field.units) : Steady q := by
  unfold Steady
  rw [units]
  exact steady

theorem steady_put {unit : FieldUnit} {id : Bytes} (steady : Steady p)
    (actual : unit.version ≠ .nan) :
    ∀ key u, (put p.field.units id unit).lookup key = some u → u.version ≠ .nan := by
  intro key u found
  rw [lookup_put] at found
  split at found
  · cases found
    exact actual
  · exact steady key u found

theorem addUnit_steady (steady : Steady p) (actor input : Value) :
    Steady (addUnit p actor input).2 := by
  refine transact_state (motive := Steady) steady fun plan planned => ?_
  refine steady_put steady ?_
  show plan.version ≠ .nan
  rw [(unitPlan_facts planned).2.2.2]
  exact Number.noConfusion

theorem setActivation_steady (steady : Steady p) (actor id activation source : Value) :
    Steady (setActivation p actor id activation source).2 := by
  refine transact_state (motive := Steady) steady fun plan planned => ?_
  split
  · exact steady
  · obtain ⟨found, -⟩ := activationPlan_facts planned
    obtain ⟨s, rfl, -⟩ := find_str found
    exact steady_put steady (nextVersion_ne_nan (steady s plan.unit found))

theorem commit_steady {S : Schemas} {l : Living} (prepared : AllPrepared l)
    (steady : Steady l.packet) (actor : Value) (place : Nat) (eventId : Value) :
    Steady (commitInheritedFormRelease S l actor place eventId).2.packet := by
  unfold commitInheritedFormRelease
  cases taken : takePlan l actor place with
  | error failure => exact steady
  | ok plan =>
    rw [transact_ok]
    cases committed : releaseCommit S l.packet plan eventId with
    | error failure => exact steady
    | ok commit =>
      have ready := prepared plan (takePlan_mem taken)
      obtain ⟨version, written, reflexive⟩ := ready.after
      obtain ⟨-, -, residue, unit, after, -, target, written', -⟩ := releaseCommit_facts committed
      rw [written] at written'
      have dissolved : Steady (putUnit l.packet commit.target) := by
        refine steady_put steady ?_
        rw [target]
        show after ≠ .nan
        rw [← Value.num.inj written']
        rintro rfl
        cases reflexive
      refine steady_put dissolved ?_
      rw [residue]
      show plan.residueUnit.version ≠ .nan
      rw [ready.fresh]
      exact Number.noConfusion

theorem activate_units (p : Packet) (now : Int) (actor relationIds source : Value) :
    (activateRelations p now actor relationIds source).2.field.units = p.field.units := by
  refine transact_state (motive := fun q : Packet => q.field.units = p.field.units) rfl
    fun plan _ => ?_
  split
  · rfl
  · have kept : ∀ q, Framed (countActive (putActive p plan.planned)) q → q.field.units = p.field.units :=
      fun q frame => by rw [frame.field]; rfl
    exact recordEvent_rule (motive := fun q => q.field.units = p.field.units) kept kept fun _ => kept

theorem weaken_units (p : Packet) (now : Int) (actor relationId source : Value) :
    (weakenRelation p now actor relationId source).2.field.units = p.field.units := by
  refine transact_state (motive := fun q : Packet => q.field.units = p.field.units) rfl
    fun plan _ => ?_
  split
  · rfl
  · have kept : ∀ q, Framed (countActive (putActive p [weakened plan])) q → q.field.units = p.field.units :=
      fun q frame => by rw [frame.field]; rfl
    exact recordEvent_rule (motive := fun q => q.field.units = p.field.units) kept kept fun _ => kept

theorem deed_steady {S : Schemas} {l : Living} (prepared : AllPrepared l)
    (steady : Steady l.packet) (d : Deed) : Steady ((lifeMachine S).after l d).packet := by
  cases d with
  | packet s => exact steady.of_same (by rw [← (step_framed S l.packet s).field]; rfl)
  | mutate now mutation =>
    cases mutation with
    | budgetInit => exact steady.of_same (by rw [← (budgetInit_framed l.packet).field]; rfl)
    | budgetCharge input =>
      exact steady.of_same (by rw [← (budgetCharge_framed l.packet input).field]; rfl)
    | lossInit options =>
      exact steady.of_same (by rw [← (lossInit_framed l.packet options).field]; rfl)
    | lossApply input =>
      exact steady.of_same (by rw [← (lossApply_framed l.packet input).field]; rfl)
    | addUnit actor input => exact addUnit_steady steady actor input
    | setActivation actor id activation source =>
      exact setActivation_steady steady actor id activation source
    | prepareInheritedFormRelease actor input =>
      refine steady.of_same ?_
      show (prepareInheritedFormRelease S l actor input).2.packet.field.units = _
      unfold prepareInheritedFormRelease
      cases releasePlan S l.packet actor input with
      | error | ok => rfl
    | commitInheritedFormRelease actor place eventId =>
      exact commit_steady prepared steady actor place eventId
    | snapshotRawRelations actor input =>
      exact steady.of_same (snapshot_same l.packet now actor input).1
    | activateRelations actor relationIds source =>
      exact steady.of_same (activate_units l.packet now actor relationIds source)
    | weakenRelation actor relationId source =>
      exact steady.of_same (weaken_units l.packet now actor relationId source)
    | releaseRawRelation actor input =>
      exact steady.of_same (by rw [← (releaseRaw_framed l.packet now actor input).field]; rfl)
    | recordIdentityMap actor input =>
      exact steady.of_same (identityMap_same l.packet now actor input).1

/-! ## Genuine lives -/

structure Chronicled (book : List (List Row)) (l : Living) (t : Tally) : Prop where
  kept : Kept l t
  prepared : AllPrepared l
  steady : Steady l.packet
  booked : Booked book l.packet

section
variable {S : Schemas} {l : Living} {t : Tally} {book : List (List Row)}

theorem deed_chronicled (chronicled : Chronicled book l t) (d : Deed) (genuine : Genuine d) :
    ∃ more, Chronicled (book ++ more) ((lifeMachine (withRelease S)).after l d)
      (t.after (withRelease S) l d) := by
  obtain ⟨kept, prepared, steady, booked⟩ := chronicled
  have page : ∃ more, Booked (book ++ more) ((lifeMachine (withRelease S)).after l d).packet := by
    by_cases snapshot : ∃ now actor input, d = .mutate now (.snapshotRawRelations actor input)
    · obtain ⟨now, actor, input, rfl⟩ := snapshot
      exact snapshot_booked booked kept.represented steady now actor input
    · refine ⟨[], ?_⟩
      rw [append_nil]
      exact booked.still (deed_still (withRelease S) l d genuine fun now actor input same =>
        snapshot ⟨now, actor, input, same⟩)
  obtain ⟨more, booked'⟩ := page
  exact ⟨more, deed_kept (withRelease S) kept d, allPrepared_run S prepared [d],
    deed_steady prepared steady d, booked'⟩

theorem run_chronicled (deeds : List Deed) : ∀ {l : Living} {t : Tally} {book : List (List Row)},
    Chronicled book l t → (∀ d ∈ deeds, Genuine d) →
    ∃ more t', Chronicled (book ++ more) ((lifeMachine (withRelease S)).run l deeds) t'
      ∧ t.Grows t' := by
  induction deeds with
  | nil =>
    intro l t book chronicled _
    exact ⟨[], t, by rw [append_nil]; exact chronicled, t.grows_refl⟩
  | cons d rest ih =>
    intro l t book chronicled genuine
    obtain ⟨more, next⟩ := deed_chronicled chronicled d (genuine d mem_cons_self)
    obtain ⟨later, t', final, grown⟩ :=
      ih next fun d member => genuine d (mem_cons_of_mem _ member)
    obtain ⟨additions, changes⟩ := Tally.after_grows (withRelease S) t l d
    refine ⟨more ++ later, t', ?_, Nat.le_trans additions grown.1, Nat.le_trans changes grown.2⟩
    rw [← append_assoc]
    exact final

theorem new_field {counter : Nat} {prompt options : Value}
    (born : Packet.new S counter now prompt options = .ok p) : p.field = Packet.initField := by
  obtain ⟨_, _, _, _, _, _, _, _, _, _, _, birth, -, rfl⟩ := Packet.new_eq born
  rfl

theorem newborn_chronicled {counter : Nat} {prompt options : Value}
    (born : Packet.new S counter now prompt options = .ok p) :
    Chronicled [] ⟨p, []⟩ ⟨0, 0, []⟩ := by
  have field := new_field born
  obtain ⟨birth, newborn⟩ := Packet.new_newborn S counter now prompt options p born
  refine ⟨newborn_kept born, ?_, ?_, ?_⟩
  · intro plan member
    cases member
  · intro key unit found
    rw [show (⟨p, []⟩ : Living).packet.field = Packet.initField from field] at found
    cases found
  · constructor
    · exact (congrArg (fun f : Core.Field => f.raw.epoch) field).symm
    · exact congrArg (fun f : Core.Field => f.raw.items.map rowOf) field
    · intro event member recorded
      have here : event ∈ [birth] := newborn.trace ▸ member
      rw [mem_singleton.mp here, newborn.type] at recorded
      cases recorded
    · exact forall_mem_nil _

end

end Proc17.Runtime.Field
