import Mathlib.Data.List.Induction
import Proc17.Runtime.Field.RelationPhase

/-!
# The law of raw relations

Phases and releases over every life in which `snapshot_raw_relations` alone records
snapshots, and three lives that show why the law says no more.
-/

namespace Proc17.Runtime.Field

open Lua Core DissolveSchema List Machine

/-! ## Where a relation comes from -/

/-- In `q` the relation is captured with the versions its ends have; in `q'` one end has
another version. -/
def Overtaken (q q' : Packet) (row : Row) : Prop :=
  ∃ r ∈ q.field.raw.items, rowOf r = row ∧ ∃ entry ∈ row.2, (entry.1 = r.source ∨ entry.1 = r.target)
    ∧ ∃ unit unit', q.field.units.lookup entry.1 = some unit ∧ unit.version = entry.2
      ∧ q'.field.units.lookup entry.1 = some unit' ∧ Number.eq unit'.version unit.version = false

section
variable {S : Schemas}

theorem captured_origin {l : Living} (empty : l.packet.field.raw.items = [])
    (deeds : List Deed) : (∀ d ∈ deeds, Genuine d) →
    ∀ r ∈ ((lifeMachine S).run l deeds).packet.field.raw.items,
      ∃ before now actor input after,
        deeds = before ++ .mutate now (.snapshotRawRelations actor input) :: after
        ∧ ((lifeMachine S).run l deeds).packet.field.raw
          = (snapshotRawRelations ((lifeMachine S).run l before).packet now actor input).2.field.raw
        ∧ Versioned ((lifeMachine S).run l before).packet r := by
  induction deeds using List.reverseRecOn with
  | nil =>
    intro _ r member
    rw [run_nil, empty] at member
    cases member
  | append_singleton earlier d ih =>
    intro genuine r member
    have before : ∀ d ∈ earlier, Genuine d := fun d there =>
      genuine d (mem_append_left _ there)
    have last : Genuine d := genuine d (mem_append_right _ mem_cons_self)
    rw [run_append] at member ⊢
    -- a call that leaves the snapshot alone leaves its origin too
    have inherit (still : Still ((lifeMachine S).run l earlier).packet
        ((lifeMachine S).run ((lifeMachine S).run l earlier) [d]).packet) :
        ∃ before now actor input after,
          earlier ++ [d] = before ++ .mutate now (.snapshotRawRelations actor input) :: after
          ∧ ((lifeMachine S).run ((lifeMachine S).run l earlier) [d]).packet.field.raw
            = (snapshotRawRelations ((lifeMachine S).run l before).packet
                now actor input).2.field.raw
          ∧ Versioned ((lifeMachine S).run l before).packet r := by
      rw [still.raw] at member ⊢
      obtain ⟨first, now, actor, input, rest, split, same, versioned⟩ := ih before r member
      refine ⟨first, now, actor, input, rest ++ [d], ?_, same, versioned⟩
      rw [split, append_assoc]
      rfl
    by_cases snapshot : ∃ now actor input, d = .mutate now (.snapshotRawRelations actor input)
    · obtain ⟨now, actor, input, rfl⟩ := snapshot
      rcases snapshot_outcome ((lifeMachine S).run l earlier).packet now actor input with
        ⟨-, still, -⟩ | ⟨_, _, -, -, -, -, -, versioned⟩
      · exact inherit still
      · exact ⟨earlier, now, actor, input, [], rfl, rfl, versioned r member⟩
    · exact inherit (deed_still S _ d last fun now actor input same =>
        snapshot ⟨now, actor, input, same⟩)

theorem unit_stays {p q : Packet} {t t' : Tally} (kept : Represented p t)
    (later : Represented q t') (grown : t.Grows t') {key : Bytes} {unit : FieldUnit}
    (found : p.field.units.lookup key = some unit) :
    ∃ unit', q.field.units.lookup key = some unit' := by
  have here : key ∈ p.field.units.map Prod.fst :=
    lookup_isSome_iff.mp (by rw [found]; rfl)
  rw [kept.keys, kept.order, mem_map] at here
  obtain ⟨k, small, named⟩ := here
  have there : key ∈ q.field.units.map Prod.fst := by
    rw [later.keys, later.order, mem_map]
    exact ⟨k, mem_range.mpr (Nat.lt_of_lt_of_le (mem_range.mp small) grown.1), named⟩
  exact Option.isSome_iff_exists.mp (lookup_isSome_iff.mpr there)

end

/-! ## The law -/

structure PhaseLaw (S : Schemas) (p : Packet) (deeds : List Deed) : Prop where
  single : ∀ epoch row, RawRow ((lifeMachine S).run ⟨p, []⟩ deeds).packet epoch row →
    Legible ((lifeMachine S).run ⟨p, []⟩ deeds).packet epoch row →
    Consistent ((lifeMachine S).run ⟨p, []⟩ deeds).packet epoch row →
    ∃! phase, rawRelationPhase ((lifeMachine S).run ⟨p, []⟩ deeds).packet
      (.nat epoch) (.str row.1) = .ok phase
  /-- Each phase is computed when it fits, and only then. -/
  meaning : ∀ epoch row, RawRow ((lifeMachine S).run ⟨p, []⟩ deeds).packet epoch row →
    ∀ phase, rawRelationPhase ((lifeMachine S).run ⟨p, []⟩ deeds).packet
        (.nat epoch) (.str row.1) = .ok phase
      ↔ Legible ((lifeMachine S).run ⟨p, []⟩ deeds).packet epoch row
        ∧ Consistent ((lifeMachine S).run ⟨p, []⟩ deeds).packet epoch row
        ∧ Fits ((lifeMachine S).run ⟨p, []⟩ deeds).packet epoch row phase
  contradicted : ∀ epoch row, RawRow ((lifeMachine S).run ⟨p, []⟩ deeds).packet epoch row →
    Legible ((lifeMachine S).run ⟨p, []⟩ deeds).packet epoch row →
    ¬ Consistent ((lifeMachine S).run ⟨p, []⟩ deeds).packet epoch row →
    rawRelationPhase ((lifeMachine S).run ⟨p, []⟩ deeds).packet (.nat epoch) (.str row.1)
      = .error (refuse "raw relation has contradictory terminal dispositions")
  /-- A stale relation was captured by a snapshot of this life, and one of its ends has got
  another version since. -/
  stale : ∀ epoch row, RawRow ((lifeMachine S).run ⟨p, []⟩ deeds).packet epoch row →
    rawRelationPhase ((lifeMachine S).run ⟨p, []⟩ deeds).packet (.nat epoch) (.str row.1)
      = .ok .stale →
    ∃ before now actor input after,
      deeds = before ++ .mutate now (.snapshotRawRelations actor input) :: after
      ∧ (snapshotRawRelations ((lifeMachine S).run ⟨p, []⟩ before).packet
          now actor input).2.field.raw.epoch = epoch
      ∧ Overtaken
        (snapshotRawRelations ((lifeMachine S).run ⟨p, []⟩ before).packet now actor input).2
        ((lifeMachine S).run ⟨p, []⟩ deeds).packet row
  once : ∀ epoch id now actor input,
    (releaseRawRelation ((lifeMachine S).run ⟨p, []⟩ deeds).packet now actor input).Succeeds →
    Names input epoch id → ∀ later, (∀ d ∈ later, Genuine d) → ∀ now' actor' input',
    Names input' epoch id →
    ¬ (releaseRawRelation ((lifeMachine S).run ⟨p, []⟩
      (deeds ++ .mutate now (.releaseRawRelation actor input) :: later)).packet
      now' actor' input').Succeeds
  unformed : ∀ epoch row, RawRow ((lifeMachine S).run ⟨p, []⟩ deeds).packet epoch row →
    RawEncoded ((lifeMachine S).run ⟨p, []⟩ deeds).packet epoch row →
    ∀ now actor input, Names input epoch row.1 →
    ¬ (releaseRawRelation ((lifeMachine S).run ⟨p, []⟩ deeds).packet now actor input).Succeeds

variable {p : Packet}

section
variable {S : Schemas} {book : List (List Row)} {l : Living} {t : Tally}

theorem row_unique (booked : Booked book p) {e : Nat} {rows rows' : List Row}
    {row row' : Row} (page : book[e]? = some rows) (member : row ∈ rows)
    (page' : book[e]? = some rows') (member' : row' ∈ rows') (same : row.1 = row'.1) :
    row = row' := by
  rw [page] at page'
  cases page'
  exact inj_on_of_nodup_map (booked.legal rows (mem_of_getElem? page)).distinct member
    member' same

theorem names_unique {input : Value} {e e' : Nat} {id id' : Bytes} (left : Names input e id)
    (right : Names input e' id') : e = e' ∧ id = id' := by
  refine ⟨nat_eq_of_eq left.1 right.1, ?_⟩
  have same := left.2.symm.trans right.2
  exact Value.str.inj same

theorem release_unformed (booked : Booked book p) {epoch : Nat} {row : Row}
    (raw : RawRow p epoch row) (formed : RawEncoded p epoch row) {now : Int}
    {actor input : Value} (named : Names input epoch row.1) :
    ¬ (releaseRawRelation p now actor input).Succeeds := by
  intro succeeded
  obtain ⟨e, rows, row', named', page, member, unencoded, -⟩ := releaseRaw_facts booked succeeded
  obtain ⟨e', rows', rfl, page', member'⟩ := raw.booked booked
  obtain ⟨epochs, ids⟩ := names_unique named named'
  obtain rfl : e' = e := by omega
  obtain rfl := row_unique booked page' member' page member ids
  exact unencoded formed

theorem release_once (chronicled : Chronicled book l t) {epoch : Nat} {id : Bytes} {now : Int}
    {actor input : Value} (succeeded : (releaseRawRelation l.packet now actor input).Succeeds)
    (named : Names input epoch id) {later : List Deed} (genuine : ∀ d ∈ later, Genuine d)
    {now' : Int} {actor' input' : Value} (named' : Names input' epoch id) :
    ¬ (releaseRawRelation ((lifeMachine (withRelease S)).run l
      (.mutate now (.releaseRawRelation actor input) :: later)).packet
      now' actor' input').Succeeds := by
  intro again
  obtain ⟨e, rows, row, told, page, member, -, -, freed⟩ :=
    releaseRaw_facts chronicled.booked succeeded
  have all : ∀ d ∈ Deed.mutate now (.releaseRawRelation actor input) :: later, Genuine d :=
    forall_mem_cons.mpr ⟨trivial, genuine⟩
  obtain ⟨more, t', final, -⟩ := run_chronicled (S := S) _ chronicled all
  obtain ⟨e', rows', row', told', page', member', -, unreleased, -⟩ :=
    releaseRaw_facts final.booked again
  obtain ⟨epochs, ids⟩ := names_unique named told
  obtain ⟨epochs', ids'⟩ := names_unique named' told'
  obtain rfl : e' = e := by omega
  have kept : (book ++ more)[e']? = some rows := by
    rw [List.getElem?_append_left (List.getElem?_eq_some_iff.mp page).1]
    exact page
  obtain rfl := row_unique final.booked kept member page' member' (ids.symm.trans ids')
  apply unreleased
  obtain ⟨events, appended, -⟩ := run_extended (withRelease S)
    ((lifeMachine (withRelease S)).after l (.mutate now (.releaseRawRelation actor input))) later
  obtain ⟨event, there, disposes⟩ := freed
  refine ⟨event, ?_, disposes⟩
  rw [run_cons, appended]
  exact mem_append_left _ there

end

theorem phase_law {S : Schemas} {deeds : List Deed} {t : Tally}
    (fresh : p.field.raw.items = []) (start : Chronicled [] ⟨p, []⟩ t)
    (genuine : ∀ d ∈ deeds, Genuine d) : PhaseLaw (withRelease S) p deeds := by
  obtain ⟨book, t', chronicled, -⟩ := run_chronicled (S := S) deeds start genuine
  have booked := chronicled.booked
  have reflexive (epoch : Nat) : Value.eq (.nat epoch) (.nat epoch) = true := by
    rw [Value.eq_nat, decide_eq_true rfl]
  have meaning : ∀ epoch row,
      RawRow ((lifeMachine (withRelease S)).run ⟨p, []⟩ deeds).packet epoch row →
      ∀ phase, rawRelationPhase ((lifeMachine (withRelease S)).run ⟨p, []⟩ deeds).packet
          (.nat epoch) (.str row.1) = .ok phase
        ↔ Legible ((lifeMachine (withRelease S)).run ⟨p, []⟩ deeds).packet epoch row
          ∧ Consistent ((lifeMachine (withRelease S)).run ⟨p, []⟩ deeds).packet epoch row
          ∧ Fits ((lifeMachine (withRelease S)).run ⟨p, []⟩ deeds).packet epoch row phase := by
    intro epoch row raw phase
    obtain ⟨exact, found, reads⟩ := raw.exact booked
    constructor
    · intro computed
      exact phase_fits found (reflexive epoch) reads computed
    · rintro ⟨legible, consistent, fits⟩
      obtain ⟨phase', computed⟩ := phase_succeeds found (reflexive epoch) reads legible consistent
      obtain ⟨-, -, fits'⟩ := phase_fits found (reflexive epoch) reads computed
      rw [computed, fits.unique fits']
  refine ⟨?_, meaning, ?_, ?_, ?_, ?_⟩
  · intro epoch row raw legible consistent
    obtain ⟨exact, found, reads⟩ := raw.exact booked
    obtain ⟨phase, computed⟩ := phase_succeeds found (reflexive epoch) reads legible consistent
    refine ⟨phase, computed, ?_⟩
    intro other computed'
    rw [computed] at computed'
    exact (Except.ok.inj computed').symm
  · intro epoch row raw legible contradictory
    obtain ⟨exact, found, reads⟩ := raw.exact booked
    obtain ⟨formed, freed⟩ := not_not.mp contradictory
    exact phase_contradicted found (reflexive epoch) reads legible formed freed
  · intro epoch row raw computed
    obtain ⟨-, -, -, current, entry, member, moved⟩ := (meaning epoch row raw .stale).mp computed
    -- the relation stands in the current snapshot
    obtain ⟨e, rows, rfl, page, listed⟩ := raw.booked booked
    have length := booked.length
    rw [nil_append] at length page
    have short := (List.getElem?_eq_some_iff.mp page).1
    have last : book.getLastD [] = rows := by
      rw [getLastD_eq_getLast?, List.getLast?_eq_getElem?,
        show book.length - 1 = e by omega, page]
      rfl
    have items := booked.current
    rw [nil_append, last] at items
    rw [← items] at listed
    obtain ⟨r, there, rfl⟩ := mem_map.mp listed
    obtain ⟨before, now, actor, input, after, split, same, versioned⟩ :=
      captured_origin (S := withRelease S) (l := ⟨p, []⟩) fresh deeds genuine r there
    refine ⟨before, now, actor, input, after, split, ?_, ?_⟩
    · rw [← same]
      omega
    · obtain ⟨named, unit, found, version⟩ := versioned.ends entry member
      have early : ∀ d ∈ before, Genuine d := fun d here => genuine d (by
        rw [split]
        exact mem_append_left _ here)
      have rest : ∀ d ∈ Deed.mutate now (.snapshotRawRelations actor input) :: after, Genuine d :=
        fun d here => genuine d (by
          rw [split]
          exact mem_append_right _ here)
      obtain ⟨book₁, t₁, middle, -⟩ := run_chronicled (S := S) before start early
      obtain ⟨_, t₂, final, grown⟩ := run_chronicled (S := S) _ middle rest
      rw [← run_append, ← split] at final
      obtain ⟨unit', found'⟩ :=
        unit_stays middle.kept.represented final.kept.represented grown found
      refine ⟨r, by rw [← same]; exact there, rfl, entry, member, named, unit, unit', ?_, version,
        found', ?_⟩
      · rw [(snapshot_same _ now actor input).1]
        exact found
      · rw [version]
        exact moved unit' found'
  · intro epoch id now actor input succeeded named later onward now' actor' input' named'
    rw [run_append]
    exact release_once chronicled succeeded named onward named'
  · intro epoch row raw formed now actor input named
    exact release_unformed booked raw formed named

/-- Over every life of a born Packet in which `snapshot_raw_relations` alone records
snapshots. -/
theorem raw_relation_phases (S : Schemas) (counter : Nat) (now : Int) (prompt options : Value)
    (p : Packet) (born : Packet.new (withRelease S) counter now prompt options = .ok p)
    (deeds : List Deed) (genuine : ∀ d ∈ deeds, Genuine d) : PhaseLaw (withRelease S) p deeds := by
  refine phase_law ?_ (newborn_chronicled born) genuine
  rw [new_field born]
  rfl

def captureInput : List (String × Value) :=
  [("raw_epoch", .nat 1), ("relation_id", .text "relation:1"),
    ("endpoint_versions", .record [("unit:1", .nat 1)])]

def captureRow : Row := (utf8 "relation:1", [(utf8 "unit:1", .int 1)])

def dissolveAfterConnect : List Deed := travel .connect .dissolve

def releaseDeed (fields : List (String × Value)) : Deed :=
  .mutate 0 (.releaseRawRelation (Topology.value .dissolve)
    (.record (fields ++ [("reason", .record [("kind", .text "spent")])])))

theorem raw_relation_phases_prompt :
    ∃ p, Packet.new (withRelease Packet.refusingSchemas) 1 0 (.text "task") .nil = .ok p
      ∧ PhaseLaw (withRelease Packet.refusingSchemas) p
        (captureDeeds ++ dissolveAfterConnect ++ [releaseDeed captureInput]) := by
  obtain ⟨p, born, -⟩ := Packet.task_born_passing (fun _ => true) (by decide +kernel)
  refine ⟨p, born,
    raw_relation_phases Packet.refusingSchemas 1 0 (.text "task") .nil p born _ ?_⟩
  intro d member
  simp only [captureDeeds, promptDeeds, dissolveAfterConnect, travel, releaseDeed, cons_append,
    nil_append, mem_cons, not_mem_nil, or_false] at member
  rcases member with rfl | rfl | rfl | rfl | rfl | rfl | rfl | rfl <;> trivial

def formedAfterRelease : List Deed :=
  captureDeeds ++ dissolveAfterConnect ++ [releaseDeed captureInput,
    .packet ⟨Packet.legacyRoute .dissolve .connect, fun _ => 0⟩] ++ travel .connect .encode ++ [
    ownEvent "relation_formation" .encode (.record [("formed_from", .record captureInput)])]

def unreadableDeeds : List Deed :=
  captureDeeds ++ travel .connect .observe ++ [
    ownEvent "observation" .observe (.record [("payload", .nat 5)])]

def forgedInput : List (String × Value) :=
  [("raw_epoch", .nat 7), ("relation_id", .text "relation:1")]

def forgedDeeds : List Deed :=
  captureDeeds ++ [ownEvent "relation_snapshot" .connect (.record [("epoch", .nat 7),
      ("items", .array [.record [("id", .text "relation:1"),
        ("endpoint_versions", .record [("unit:1", .num .nan)])]])])]
    ++ dissolveAfterConnect

def phaseless (p : Packet) : Bool :=
  p.field.raw.epoch = 1 && (p.field.raw.items.map rowOf).contains captureRow
    && match rawRelationPhase p (.nat 1) (.text "relation:1") with
      | .ok _ => false
      | .error _ => true

theorem phaseless_facts (none : phaseless p = true) :
    RawRow p 1 captureRow
      ∧ ∀ phase, rawRelationPhase p (.nat 1) (.str captureRow.1) ≠ .ok phase := by
  unfold phaseless at none
  simp only [Bool.and_eq_true, decide_eq_true_eq, contains_iff_mem, mem_map] at none
  obtain ⟨⟨epoch, r, member, row⟩, absent⟩ := none
  refine ⟨.inl ⟨epoch.symm, r, member, row⟩, ?_⟩
  intro phase computed
  rw [show Value.text "relation:1" = .str captureRow.1 from rfl, computed] at absent
  cases absent

def releasedTwice (S : Schemas) (l : Living) : Bool :=
  ((releaseDeed forgedInput).run S l).1.isOk
    && ((releaseDeed forgedInput).run S ((lifeMachine S).after l (releaseDeed forgedInput))).1.isOk

/-- A relation that is released and then formed has no phase, nor has one behind an
observation that cannot be read; and a snapshot of CONNECT's own has a relation that is
released twice. -/
theorem raw_relation_phases_fail :
    ∃ p, Packet.new (withRelease Packet.refusingSchemas) 1 0 (.text "task") .nil = .ok p
      ∧ (∃ epoch row, RawRow ((lifeMachine (withRelease Packet.refusingSchemas)).run ⟨p, []⟩
            formedAfterRelease).packet epoch row
        ∧ ∀ phase, rawRelationPhase ((lifeMachine (withRelease Packet.refusingSchemas)).run
            ⟨p, []⟩ formedAfterRelease).packet (.nat epoch) (.str row.1) ≠ .ok phase)
      ∧ (∃ epoch row, RawRow ((lifeMachine (withRelease Packet.refusingSchemas)).run ⟨p, []⟩
            unreadableDeeds).packet epoch row
        ∧ ∀ phase, rawRelationPhase ((lifeMachine (withRelease Packet.refusingSchemas)).run
            ⟨p, []⟩ unreadableDeeds).packet (.nat epoch) (.str row.1) ≠ .ok phase)
      ∧ releasedTwice (withRelease Packet.refusingSchemas)
        ((lifeMachine (withRelease Packet.refusingSchemas)).run ⟨p, []⟩ forgedDeeds) = true := by
  obtain ⟨p, born, passes⟩ := Packet.task_born_passing
    (fun p => phaseless ((lifeMachine (withRelease Packet.refusingSchemas)).run ⟨p, []⟩
        formedAfterRelease).packet
      && phaseless ((lifeMachine (withRelease Packet.refusingSchemas)).run ⟨p, []⟩
        unreadableDeeds).packet
      && releasedTwice (withRelease Packet.refusingSchemas)
        ((lifeMachine (withRelease Packet.refusingSchemas)).run ⟨p, []⟩ forgedDeeds))
    (by decide +kernel)
  simp only [Bool.and_eq_true] at passes
  obtain ⟨⟨contradicted, unread⟩, twice⟩ := passes
  exact ⟨p, born, ⟨1, captureRow, phaseless_facts contradicted⟩,
    ⟨1, captureRow, phaseless_facts unread⟩, twice⟩

end Proc17.Runtime.Field
