import Mathlib.Data.List.Nodup
import Proc17.Runtime.Field.Frame

/-!
# The representation of the field

The table of units, the order list, the counters and the potential revision say the same
thing, over every interleaving of field mutators and Packet operations.
-/

namespace Proc17.Runtime.Field

open Lua Core List Nat

/-! ## Lives of a field -/

inductive Deed where
  | packet (step : Step)
  | mutate (now : Int) (mutation : Mutation)

def Deed.run (S : Schemas) (l : Living) : Deed → Reply Living Unit
  | .packet s => onPacket l (Packet.step S l.packet s)
  | .mutate now mutation => mutation.run S now l

def lifeMachine (S : Schemas) : Machine Living Deed Unit := ⟨Deed.run S⟩

structure Tally where
  /-- Units added, by `add_unit` or as the residue of a released form. -/
  additions : Nat
  /-- Activations set that went past the early return of `set_activation`. -/
  changes : Nat
  /-- Relation ids of all snapshots that were stored, the oldest first. -/
  issued : List Bytes

/-- `set_activation` goes past its early return. -/
def stamps (p : Packet) (actor id activation source : Value) : Bool :=
  match activationPlan p actor id activation source with
  | .ok plan =>
    !decide (plan.unit.activation = plan.activation ∧ plan.source.get "restamp" ≠ .bool true)
  | .error _ => false

def Tally.add (t : Tally) (succeeded : Bool) : Tally :=
  if succeeded then { t with additions := t.additions + 1 } else t

def Tally.stamp (t : Tally) (stamped : Bool) : Tally :=
  if stamped then { t with changes := t.changes + 1 } else t

def Tally.issue (t : Tally) (p q : Packet) : Tally :=
  if q.field.raw.epoch = p.field.raw.epoch then t
  else { t with issued := t.issued ++ q.field.raw.items.map Relation.id }

def Tally.after (S : Schemas) (t : Tally) (l : Living) : Deed → Tally
  | .mutate _ (.addUnit actor input) =>
    t.add (decide (addUnit l.packet actor input).Succeeds)
  | .mutate _ (.commitInheritedFormRelease actor place eventId) =>
    t.add (decide (commitInheritedFormRelease S l actor place eventId).Succeeds)
  | .mutate _ (.setActivation actor id activation source) =>
    t.stamp (stamps l.packet actor id activation source)
  | .mutate now (.snapshotRawRelations actor input) =>
    t.issue l.packet (snapshotRawRelations l.packet now actor input).2
  | _ => t

def tally (S : Schemas) : Tally → Living → List Deed → Tally
  | t, _, [] => t
  | t, l, d :: rest => tally S (t.after S l d) ((lifeMachine S).after l d) rest

/-! ## The invariant -/

def unitName (n : Nat) : Bytes := utf8 ("unit:" ++ toString n)

def relationName (n : Nat) : Bytes := utf8 ("relation:" ++ toString n)

def Named (trace : List Event) (eventId : Value) (operator : Operator) : Prop :=
  ∃ event ∈ trace, Value.eq event.id eventId = true ∧ event.operator = operator

def Ends (order : List Bytes) (r : Relation) : Prop := r.source ∈ order ∧ r.target ∈ order

/-- The redundant parts of the field agree with each other and with its history. -/
structure Represented (p : Packet) (t : Tally) : Prop where
  order : p.field.unitOrder = (List.range t.additions).map fun k => unitName (k + 1)
  once : p.field.unitOrder.Nodup
  keys : p.field.units.map Prod.fst = p.field.unitOrder
  own : ∀ entry ∈ p.field.units, entry.2.id = entry.1
  next : p.field.nextUnitId = t.additions + 1
  grounded : ∀ entry ∈ p.field.units, Named p.trace entry.2.createdEventId entry.2.createdBy
  raw : ∀ r ∈ p.field.raw.items, Ends p.field.unitOrder r ∧ r.id ∈ t.issued
  active : ∀ entry ∈ p.field.active, Ends p.field.unitOrder entry.2 ∧ entry.2.id ∈ t.issued
    ∧ entry.2.id = entry.1
  distinct : t.issued.Nodup
  below : ∀ id ∈ t.issued, ∃ k < p.field.nextRelationId, id = relationName k
  potential : p.revisions.potential = t.additions + t.changes

/-- A plan that is still open fits the field while the potential revision has not moved. -/
def Pending (t : Tally) (plan : ReleasePlan) : Prop :=
  ∃ additions changes, additions ≤ t.additions ∧ changes ≤ t.changes
    ∧ plan.potentialRevision = additions + changes
    ∧ plan.residueUnit.id = unitName (additions + 1) ∧ plan.residueUnit.createdBy = .dissolve

structure Kept (l : Living) (t : Tally) : Prop where
  represented : Represented l.packet t
  pending : ∀ plan, some plan ∈ l.releases → Pending t plan

/-! ## Names -/

variable {m n : Nat} {eventId actor input source : Value} {r : Relation} {unit : FieldUnit}
  {plan : ReleasePlan} {snapshot : RawSnapshot}

theorem repr_injective (same : Nat.repr m = Nat.repr n) : m = n := by
  have digits := congrArg String.toList same
  rw [toList_repr, toList_repr] at digits
  have value := congrArg (fun chars => Nat.ofDigitChars 10 chars 0) digits
  simpa only [ofDigitChars_ten_toDigits] using value

theorem unitName_injective (same : unitName m = unitName n) : m = n := by
  rw [unitName, unitName, utf8_inj, String.append_right_inj] at same
  exact repr_injective same

theorem relationName_injective (same : relationName m = relationName n) : m = n := by
  rw [relationName, relationName, utf8_inj, String.append_right_inj] at same
  exact repr_injective same

theorem unitNames_nodup (n : Nat) :
    ((List.range n).map fun k => unitName (k + 1)).Nodup := by
  refine List.Nodup.map ?_ nodup_range
  intro a b same
  have := unitName_injective same
  omega

theorem not_mem_unitNames (n : Nat) :
    unitName (n + 1) ∉ (List.range n).map fun k => unitName (k + 1) := by
  intro member
  obtain ⟨k, small, same⟩ := mem_map.mp member
  have := unitName_injective same
  have := mem_range.mp small
  omega

/-! ## Keyed tables -/

section
variable {α : Type} {table : List (Bytes × α)} {key : Bytes} {value : α}

theorem lookup_isSome_iff : (table.lookup key).isSome = true ↔ key ∈ table.map Prod.fst := by
  induction table with
  | nil => simp
  | cons entry rest ih =>
    obtain ⟨k, v⟩ := entry
    by_cases same : key = k
    · simp [same]
    · have differ : (key == k) = false := beq_false_of_ne same
      simp [lookup_cons, differ, ih, same]

theorem mem_of_lookup (found : table.lookup key = some value) : (key, value) ∈ table := by
  induction table with
  | nil => cases found
  | cons entry rest ih =>
    obtain ⟨k, v⟩ := entry
    rw [lookup_cons] at found
    split at found
    · rename_i same
      cases found
      rw [beq_iff_eq.mp same]
      exact mem_cons_self
    · exact mem_cons_of_mem _ (ih found)

theorem find_str {v : Value} (found : find table v = some value) :
    ∃ s, v = .str s ∧ (s, value) ∈ table := by
  cases v with
  | str s => exact ⟨s, rfl, mem_of_lookup found⟩
  | _ => cases found

theorem mem_put {entry : Bytes × α} (member : entry ∈ put table key value) :
    entry = (key, value) ∨ entry ∈ table := by
  unfold put at member
  split at member
  · obtain ⟨old, there, rfl⟩ := mem_map.mp member
    split
    · exact .inl rfl
    · exact .inr there
  · rcases mem_append.mp member with there | new
    · exact .inr there
    · exact .inl (mem_singleton.mp new)

theorem keys_put_present (present : key ∈ table.map Prod.fst) :
    (put table key value).map Prod.fst = table.map Prod.fst := by
  rw [put, if_pos (lookup_isSome_iff.mpr present), map_map]
  apply map_congr_left
  intro entry _
  simp only [Function.comp]
  split
  · rename_i same
    exact same.symm
  · rfl

theorem keys_put_absent (absent : key ∉ table.map Prod.fst) :
    (put table key value).map Prod.fst = table.map Prod.fst ++ [key] := by
  rw [put, if_neg fun some => absent (lookup_isSome_iff.mp some), map_append]
  rfl

end

/-! ## Writes to the units -/

theorem Named.mono {trace later : List Event} {operator : Operator}
    (named : Named trace eventId operator) : Named (trace ++ later) eventId operator := by
  obtain ⟨event, member, rest⟩ := named
  exact ⟨event, mem_append_left _ member, rest⟩

namespace Represented

variable {p q : Packet} {t : Tally}

section

variable (kept : Represented p t)
include kept

theorem framed (frame : Framed p q) : Represented q t := by
  obtain ⟨field, potential, events, trace⟩ := frame
  obtain ⟨order, once, keys, own, next, grounded, raw, active, distinct, below, counted⟩ := kept
  rw [← field] at order once keys own next grounded raw active below
  refine ⟨order, once, keys, own, next, ?_, raw, active, distinct, below, potential.trans counted⟩
  intro entry member
  rw [trace]
  exact (grounded entry member).mono

theorem mem_order {id : Value} (found : find p.field.units id = some unit) :
    ∃ s, id = .str s ∧ s ∈ p.field.unitOrder ∧ unit.id = s := by
  obtain ⟨s, rfl, member⟩ := find_str found
  refine ⟨s, rfl, ?_, kept.own _ member⟩
  rw [← kept.keys]
  exact mem_map.mpr ⟨_, member, rfl⟩

theorem putUnit (known : unit.id ∈ p.field.unitOrder)
    (named : Named p.trace unit.createdEventId unit.createdBy) :
    Represented (Field.putUnit p unit) t where
  order := kept.order
  once := kept.once
  keys := (keys_put_present (by rw [kept.keys]; exact known)).trans kept.keys
  own := by
    intro entry member
    rcases mem_put member with rfl | there
    · rfl
    · exact kept.own entry there
  next := kept.next
  grounded := by
    intro entry member
    rcases mem_put member with rfl | there
    · exact named
    · exact kept.grounded entry there
  raw := kept.raw
  active := kept.active
  distinct := kept.distinct
  below := kept.below
  potential := kept.potential

theorem countPotential :
    Represented (Field.countPotential p) { t with changes := t.changes + 1 } where
  order := kept.order
  once := kept.once
  keys := kept.keys
  own := kept.own
  next := kept.next
  grounded := kept.grounded
  raw := kept.raw
  active := kept.active
  distinct := kept.distinct
  below := kept.below
  potential := by
    have counted := kept.potential
    show p.revisions.potential + 1 = t.additions + (t.changes + 1)
    omega

end

theorem ends_append {order : List Bytes} (ends : Ends order r) (id : Bytes) :
    Ends (order ++ [id]) r := ⟨mem_append_left _ ends.1, mem_append_left _ ends.2⟩

theorem withUnit (kept : Represented p t) (identified : unit.id = unitName (t.additions + 1))
    (named : Named p.trace unit.createdEventId unit.createdBy) :
    Represented (Field.withUnit p unit) { t with additions := t.additions + 1 } := by
  have fresh : unit.id ∉ p.field.unitOrder := by
    rw [identified, kept.order]
    exact not_mem_unitNames t.additions
  have order : p.field.unitOrder ++ [unit.id]
      = (List.range (t.additions + 1)).map fun k => unitName (k + 1) := by
    rw [range_succ, map_append, ← kept.order, identified]
    rfl
  exact
    { order := order
      once := by
        show (p.field.unitOrder ++ [unit.id]).Nodup
        rw [order]
        exact unitNames_nodup (t.additions + 1)
      keys := by
        show (put p.field.units unit.id unit).map Prod.fst = p.field.unitOrder ++ [unit.id]
        rw [keys_put_absent (by rw [kept.keys]; exact fresh), kept.keys]
      own := by
        intro entry member
        rcases mem_put member with rfl | there
        · rfl
        · exact kept.own entry there
      next := by
        have next := kept.next
        show p.field.nextUnitId + 1 = t.additions + 1 + 1
        omega
      grounded := by
        intro entry member
        rcases mem_put member with rfl | there
        · exact named
        · exact kept.grounded entry there
      raw := fun r member => ⟨ends_append (kept.raw r member).1 _, (kept.raw r member).2⟩
      active := fun entry member =>
        ⟨ends_append (kept.active entry member).1 _, (kept.active entry member).2⟩
      distinct := kept.distinct
      below := kept.below
      potential := by
        have counted := kept.potential
        show p.revisions.potential + 1 = t.additions + 1 + t.changes
        omega }

end Represented

/-! ## What a plan of a unit says -/

variable {p : Packet}

theorem named_of_currentTick {operator : Operator} {event : Event}
    (found : p.eventInCurrentTick (Topology.value operator) eventId = .ok event) :
    Named p.trace eventId operator := by
  unfold Packet.eventInCurrentTick at found
  simp only [bind_eq_ok] at found
  obtain ⟨lease, -, -, -, found⟩ := found
  split at found
  · cases found
  · rename_i source index there
    simp only [bind_eq_ok, require_eq_ok, Topology.resolve_value, pure_eq_ok,
      Option.some.injEq] at found
    obtain ⟨-, ⟨same, -⟩, -⟩ := found
    have member := mem_of_find?_eq_some there
    have matched := List.find?_some there
    obtain ⟨small, here⟩ := mem_zipIdx' member
    refine ⟨source, ?_, matched, same.symm⟩
    rw [here]
    exact getElem_mem small

theorem unitPlan_facts {pending : Bool}
    (planned : validateUnitPlan p actor input pending = .ok unit) :
    unit.id = nextUnitId p.field ∧ (pending = false → Named p.trace unit.createdEventId unit.createdBy)
      ∧ (∀ glyph, Topology.resolve actor = some glyph → unit.createdBy = glyph)
      ∧ unit.version = .int 1 := by
  unfold validateUnitPlan at planned
  simp only [bind_eq_ok, pure_eq_ok, Prod.exists] at planned
  obtain ⟨-, -, glyph, resolved, -, -, -, -, kind, truthStatus, activation, -, _, created, -, -,
    sourceRefs, -, rfl⟩ := planned
  refine ⟨rfl, ?_, ?_, rfl⟩
  · intro settled
    subst settled
    simp only [creationEvent, Bool.false_eq_true, if_false, bind_eq_ok, require_eq_ok] at created
    obtain ⟨-, -, event, found, -⟩ := created
    exact named_of_currentTick found
  · intro other told
    unfold actorGlyph at resolved
    rw [told] at resolved
    exact (Except.ok.inj resolved).symm

variable {t : Tally}

theorem nextUnitId_eq (kept : Represented p t) :
    nextUnitId p.field = unitName (t.additions + 1) := by
  rw [nextUnitId, kept.next]
  rfl

theorem activationPlan_facts {id activation : Value} {plan : ActivationPlan}
    (planned : activationPlan p actor id activation source = .ok plan) :
    find p.field.units id = some plan.unit
      ∧ plan.unit.kind ≠ utf8 "inherited_rejected_form"
      ∧ (plan.unit.activation = .dissolved → plan.activation = .dissolved) := by
  unfold activationPlan at planned
  simp only [bind_eq_ok] at planned
  obtain ⟨-, -, glyph, -, target, -, -, -, planned⟩ := planned
  split at planned
  · cases planned
  · rename_i unit found
    simp only [bind_eq_ok, require_eq_ok, pure_eq_ok] at planned
    obtain ⟨-, other, -, guarded, -, -, -, -, -, -, -, -, -, -, rfl⟩ := planned
    exact ⟨found, other, fun dissolved => by_contra fun changed => guarded ⟨dissolved, changed⟩⟩

section
variable {S : Schemas} {l : Living}

theorem addUnit_kept (kept : Represented l.packet t) (actor input : Value) :
    Represented (addUnit l.packet actor input).2
      (t.add (decide (addUnit l.packet actor input).Succeeds)) := by
  unfold addUnit
  cases planned : validateUnitPlan l.packet actor input false with
  | error failure => simpa [transact_error, Tally.add] using kept
  | ok plan =>
    obtain ⟨identified, named, -⟩ := unitPlan_facts planned
    rw [transact_ok, decide_eq_true (Reply.succeeds_ok _ _)]
    refine kept.withUnit ?_ ?_
    · exact identified.trans (nextUnitId_eq kept)
    · exact named rfl

theorem setActivation_kept (kept : Represented l.packet t) (actor id activation source : Value) :
    Represented (setActivation l.packet actor id activation source).2
      (t.stamp (stamps l.packet actor id activation source)) := by
  unfold setActivation stamps
  cases planned : activationPlan l.packet actor id activation source with
  | error failure => exact kept
  | ok plan =>
    rw [transact_ok]
    by_cases idle : plan.unit.activation = plan.activation
        ∧ plan.source.get "restamp" ≠ .bool true
    · simpa [idle, Tally.stamp] using kept
    · obtain ⟨found, -⟩ := activationPlan_facts planned
      obtain ⟨s, -, known, same⟩ := kept.mem_order found
      obtain ⟨s', -, member⟩ := find_str found
      have stamped : Represented (Field.putUnit l.packet (activated plan)) t := by
        refine kept.putUnit ?_ (kept.grounded _ member)
        exact same.symm ▸ known
      simpa [idle, Tally.stamp] using stamped.countPotential

/-! ## Releases -/

theorem releasePlan_facts (planned : releasePlan S p actor input = .ok plan) :
    plan.potentialRevision = p.revisions.potential ∧ plan.residueUnit.id = nextUnitId p.field
      ∧ plan.residueUnit.createdBy = .dissolve := by
  unfold releasePlan at planned
  simp only [bind_eq_ok, require_eq_ok, pure_eq_ok] at planned
  obtain ⟨-, -, glyph, -, -, rfl, -, -, -, -, -, -, -, -, -, -, target, -, -, -, refs, -, unit,
    made, rfl⟩ := planned
  obtain ⟨identified, -, created, -⟩ := unitPlan_facts made
  exact ⟨rfl, identified, created .dissolve (Topology.resolve_value .dissolve)⟩

theorem Pending.mono {t' : Tally} (pending : Pending t plan)
    (additions : t.additions ≤ t'.additions) (changes : t.changes ≤ t'.changes) :
    Pending t' plan := by
  obtain ⟨a, c, small, few, rest⟩ := pending
  exact ⟨a, c, le_trans small additions, le_trans few changes, rest⟩

theorem prepare_kept (kept : Kept l t) (actor input : Value) :
    Kept (prepareInheritedFormRelease S l actor input).2 t := by
  refine transact_state (motive := fun m => Kept m t) kept fun plan planned => ?_
  refine ⟨kept.represented, ?_⟩
  intro other member
  rcases mem_append.mp member with there | new
  · exact kept.pending other there
  · have same : other = plan := Option.some.inj (mem_singleton.mp new)
    obtain ⟨revision, identified, created⟩ := releasePlan_facts planned
    rw [same]
    exact ⟨t.additions, t.changes, le_refl _, le_refl _, revision.trans kept.represented.potential,
      identified.trans (nextUnitId_eq kept.represented), created⟩

theorem releaseCommit_facts {commit : ReleaseCommit}
    (committed : releaseCommit S p plan eventId = .ok commit) :
    p.revisions.potential = plan.potentialRevision ∧ Named p.trace eventId .dissolve
      ∧ commit.residue = { plan.residueUnit with createdEventId := eventId }
      ∧ ∃ unit version, find p.field.units ((plan.release.get "target").get "id") = some unit
        ∧ commit.target = dissolvedTarget unit eventId version
        ∧ (plan.release.get "target").get "after_version" = .num version
        ∧ Value.eq (.num unit.version) ((plan.release.get "target").get "before_version") = true
        ∧ (plan.release.get "target").get "before_activation" = .text unit.activation.name := by
  unfold releaseCommit at committed
  simp only [bind_eq_ok] at committed
  obtain ⟨-, -, event, found, -, -, committed⟩ := committed
  split at committed
  · cases committed
  · rename_i unit there
    simp only [bind_eq_ok, require_eq_ok] at committed
    obtain ⟨-, ⟨revision, started, visible, -⟩, committed⟩ := committed
    split at committed
    · rename_i version written
      simp only [bind_eq_ok, pure_eq_ok] at committed
      obtain ⟨-, -, rfl⟩ := committed
      exact ⟨revision, named_of_currentTick found, rfl, unit, version, there, rfl, written, started,
        visible⟩
    · cases committed

theorem Pending.identified (pending : Pending t plan) (kept : Represented p t)
    (revision : p.revisions.potential = plan.potentialRevision) :
    plan.residueUnit.id = unitName (t.additions + 1) := by
  obtain ⟨additions, changes, small, few, planned, identified, -⟩ := pending
  have counted := kept.potential
  have still : additions = t.additions := by omega
  rw [identified, still]

theorem takePlan_mem {place : Nat} (taken : takePlan l actor place = .ok plan) :
    some plan ∈ l.releases := by
  unfold takePlan at taken
  simp only [bind_eq_ok] at taken
  obtain ⟨glyph, -, taken⟩ := taken
  split at taken
  · rename_i other there
    split at taken
    · cases taken
      exact mem_of_getElem? there
    · cases taken
  · cases taken

theorem mem_of_taken {place : Nat} (member : some plan ∈ l.releases.set place none) :
    some plan ∈ l.releases := by
  rcases mem_or_eq_of_mem_set member with there | other
  · exact there
  · cases other

theorem Represented.released {commit : ReleaseCommit} (kept : Represented p t)
    (pending : Pending t plan) (committed : releaseCommit S p plan eventId = .ok commit) :
    Represented (Field.withUnit (Field.putUnit p commit.target) commit.residue)
      { t with additions := t.additions + 1 } := by
  obtain ⟨revision, named, residue, unit, version, found, target, -⟩ :=
    releaseCommit_facts committed
  obtain ⟨s, -, known, same⟩ := kept.mem_order found
  obtain ⟨s', -, member⟩ := find_str found
  have rewritten : Represented (Field.putUnit p commit.target) t := by
    rw [target]
    refine kept.putUnit ?_ (kept.grounded _ member)
    exact same.symm ▸ known
  refine rewritten.withUnit ?_ ?_
  · rw [residue]
    exact pending.identified kept revision
  · obtain ⟨-, -, -, -, -, -, created⟩ := pending
    rw [residue]
    show Named p.trace eventId plan.residueUnit.createdBy
    rw [created]
    exact named

theorem commit_kept (kept : Kept l t) (actor : Value) (place : Nat) (eventId : Value) :
    Kept (commitInheritedFormRelease S l actor place eventId).2
      (t.add (decide (commitInheritedFormRelease S l actor place eventId).Succeeds)) := by
  unfold commitInheritedFormRelease
  cases taken : takePlan l actor place with
  | error failure => simpa [transact_error, Tally.add] using kept
  | ok plan =>
    rw [transact_ok]
    have pending := kept.pending plan (takePlan_mem taken)
    cases committed : releaseCommit S l.packet plan eventId with
    | error failure =>
      simpa [transact_error, Tally.add] using
        (⟨kept.represented, fun other member => kept.pending other (mem_of_taken member)⟩ :
          Kept { l with releases := l.releases.set place none } t)
    | ok commit =>
      rw [transact_ok, decide_eq_true (Reply.succeeds_ok _ _)]
      refine ⟨kept.represented.released pending committed, ?_⟩
      intro other member
      exact (kept.pending other (mem_of_taken member)).mono (le_succ _) (le_refl _)

end

/-! ## Writes to the relations -/

theorem recordEvent_rule {α : Type} {motive : Packet → Prop} {written : Packet} {now : Int}
    {event : Value} {undo : Packet → Packet} {settle : Event → Packet → Reply Packet α}
    (undone : ∀ q, Framed written q → motive (undo q)) (left : ∀ q, Framed written q → motive q)
    (settled : ∀ stored q, Framed written q → motive (settle stored q).2) :
    motive (recordEvent written now event undo settle).2 := by
  have frame := Framed.appendTrace written now event
  unfold recordEvent
  split
  · rename_i err q appended
    rw [appended] at frame
    exact undone q frame
  · rename_i failure q _ appended
    rw [appended] at frame
    exact left q frame
  · rename_i stored q appended
    rw [appended] at frame
    exact settled stored q frame

def SameEnds (r s : Relation) : Prop := r.id = s.id ∧ r.source = s.source ∧ r.target = s.target

theorem ends_of_same {order : List Bytes} {s : Relation} (same : SameEnds r s) (ends : Ends order s) :
    Ends order r := by
  rw [Ends, same.2.1, same.2.2]
  exact ends

theorem mem_foldl_put {relations : List Relation} {entry : Bytes × Relation} :
    ∀ {table : List (Bytes × Relation)},
      entry ∈ relations.foldl (fun table r => put table r.id r) table →
      entry ∈ table ∨ ∃ r ∈ relations, entry = (r.id, r) := by
  induction relations with
  | nil =>
    intro table member
    exact .inl member
  | cons r rest ih =>
    intro table member
    rcases ih member with there | ⟨other, later, rfl⟩
    · rcases mem_put there with rfl | old
      · exact .inr ⟨r, mem_cons_self, rfl⟩
      · exact .inl old
    · exact .inr ⟨other, mem_cons_of_mem _ later, rfl⟩

namespace Represented

section
variable (kept : Represented p t)
include kept

theorem relations {raw : RawSnapshot} {active : List (Bytes × Relation)} {maps : List IdentityMap}
    (rawEnds : ∀ r ∈ raw.items, Ends p.field.unitOrder r ∧ r.id ∈ t.issued)
    (activeEnds : ∀ entry ∈ active, Ends p.field.unitOrder entry.2 ∧ entry.2.id ∈ t.issued
      ∧ entry.2.id = entry.1) : Represented { p with field := { p.field with
      raw := raw, active := active, identityMaps := maps } } t :=
  { kept with raw := rawEnds, active := activeEnds }

theorem putRaw {raw : RawSnapshot} (same : ∀ r ∈ raw.items, ∃ s ∈ p.field.raw.items, SameEnds r s) :
    Represented (Field.putRaw p raw) t := by
  refine kept.relations ?_ kept.active
  intro r member
  obtain ⟨s, there, ends⟩ := same r member
  rw [ends.1]
  exact ⟨ends_of_same ends (kept.raw s there).1, (kept.raw s there).2⟩

theorem putActive {relations : List Relation}
    (known : ∀ r ∈ relations, Ends p.field.unitOrder r ∧ r.id ∈ t.issued) :
    Represented (Field.putActive p relations) t := by
  refine kept.relations kept.raw ?_
  intro entry member
  rcases mem_foldl_put member with there | ⟨r, there, rfl⟩
  · exact kept.active entry there
  · exact ⟨(known r there).1, (known r there).2, rfl⟩

theorem putMaps (maps : List IdentityMap) :
    Represented (Field.putMaps p maps) t := kept.relations kept.raw kept.active

theorem restoreActiveRevision (q : Packet) :
    Represented (Field.restoreActiveRevision q p) t := { kept with }

theorem countActive : Represented (Field.countActive p) t := { kept with }

theorem withRaw (named : snapshot.items.map Relation.id
      = (List.range snapshot.items.length).map fun k => relationName (p.field.nextRelationId + k))
    (ends : ∀ r ∈ snapshot.items, Ends p.field.unitOrder r) : Represented (Field.withRaw p snapshot)
      { t with issued := t.issued ++ snapshot.items.map Relation.id } :=
  { kept with
    raw := fun r member =>
      ⟨ends r member, mem_append_right _ (mem_map.mpr ⟨r, member, rfl⟩)⟩
    active := fun entry member =>
      ⟨(kept.active entry member).1, mem_append_left _ (kept.active entry member).2.1,
        (kept.active entry member).2.2⟩
    distinct := by
      refine nodup_append.mpr ⟨kept.distinct, ?_, ?_⟩
      · rw [named]
        refine List.Nodup.map ?_ nodup_range
        intro a b same
        have := relationName_injective same
        omega
      · intro id old id' new same
        obtain ⟨k, small, rfl⟩ := kept.below id old
        rw [named] at new
        obtain ⟨k', -, rfl⟩ := mem_map.mp new
        have := relationName_injective same
        omega
    below := by
      intro id member
      show ∃ k < p.field.nextRelationId + snapshot.items.length, id = relationName k
      rcases mem_append.mp member with old | new
      · obtain ⟨k, small, same⟩ := kept.below id old
        exact ⟨k, by omega, same⟩
      · rw [named] at new
        obtain ⟨k, small, rfl⟩ := mem_map.mp new
        have := mem_range.mp small
        exact ⟨p.field.nextRelationId + k, by omega, rfl⟩ }

end

end Represented

/-! ## What a plan of relations says -/

theorem relationEnds_facts {field : Core.Field} {candidate : Value} {ends : FieldUnit × FieldUnit}
    (found : relationEnds field candidate = .ok ends) :
    find field.units (candidate.get "from") = some ends.1
      ∧ find field.units (candidate.get "to") = some ends.2 := by
  unfold relationEnds at found
  simp only [bind_eq_ok] at found
  obtain ⟨-, -, -, -, found⟩ := found
  split at found
  · rename_i source target there there'
    simp only [bind_eq_ok, pure_eq_ok] at found
    obtain ⟨-, -, -, -, rfl⟩ := found
    exact ⟨there, there'⟩
  · cases found

theorem candidate_facts (kept : Represented p t) {candidate : Value}
    {plannedId : Bytes} (valid : validateRelationCandidate p candidate plannedId = .ok r) :
    r.id = plannedId ∧ Ends p.field.unitOrder r := by
  unfold validateRelationCandidate at valid
  simp only [bind_eq_ok, pure_eq_ok, Prod.exists] at valid
  obtain ⟨source, target, found, -, -, -, -, -, -, confident, -, -, -, -, -, -, -, -, -, -, -,
    sourceRefs, -, provenanceRefs, -, rfl⟩ := valid
  obtain ⟨from_unit, to_unit⟩ := relationEnds_facts found
  obtain ⟨s, named, known, -⟩ := kept.mem_order from_unit
  obtain ⟨s', named', known', -⟩ := kept.mem_order to_unit
  refine ⟨rfl, ?_, ?_⟩
  · show (candidate.get "from").tostring ∈ p.field.unitOrder
    rw [named]
    exact known
  · show (candidate.get "to").tostring ∈ p.field.unitOrder
    rw [named']
    exact known'

theorem planRelations_each {P : Relation → Prop}
    (each : ∀ {candidate id r}, validateRelationCandidate p candidate id = .ok r → P r) :
    ∀ {candidates : List Value} {planned result : List Relation},
      planRelations p candidates planned = .ok result → (∀ r ∈ planned, P r) →
      ∀ r ∈ result, P r := by
  intro candidates
  induction candidates with
  | nil =>
    intro planned result made known
    cases made
    exact known
  | cons candidate rest ih =>
    intro planned result made known
    simp only [planRelations, bind_eq_ok] at made
    obtain ⟨r, valid, -, -, made⟩ := made
    exact ih made (forall_mem_append.mpr ⟨known, forall_mem_singleton.mpr (each valid)⟩)

theorem planRelations_named (kept : Represented p t) :
    ∀ {candidates : List Value} {planned result : List Relation},
      planRelations p candidates planned = .ok result →
      (planned.map Relation.id
        = (List.range planned.length).map fun k => relationName (p.field.nextRelationId + k)) →
      result.map Relation.id
        = (List.range result.length).map fun k => relationName (p.field.nextRelationId + k) := by
  intro candidates
  induction candidates with
  | nil =>
    intro planned result made named
    cases made
    exact named
  | cons candidate rest ih =>
    intro planned result made named
    simp only [planRelations, bind_eq_ok] at made
    obtain ⟨r, valid, -, -, made⟩ := made
    refine ih made ?_
    rw [map_append, named, length_append, length_singleton, range_succ,
      map_append, map_singleton, map_singleton, (candidate_facts kept valid).1]
    rfl

theorem snapshotPlan_facts (kept : Represented p t)
    (planned : snapshotPlan p actor input = .ok snapshot) :
    snapshot.epoch = p.field.raw.epoch + 1
      ∧ (snapshot.items.map Relation.id = (List.range snapshot.items.length).map
        fun k => relationName (p.field.nextRelationId + k))
      ∧ ∀ r ∈ snapshot.items, Ends p.field.unitOrder r := by
  unfold snapshotPlan at planned
  simp only [bind_eq_ok, pure_eq_ok] at planned
  obtain ⟨-, -, glyph, -, -, -, lease, -, items, -, -, -, -, -, -, -, -, -, -, -, -, -, -, -,
    candidates, -, relations, made, sourceRefs, -, truncated, -, rfl⟩ := planned
  have named := planRelations_named kept made rfl
  have ends := planRelations_each (fun valid => (candidate_facts kept valid).2) made (by simp)
  refine ⟨rfl, ?_, ?_⟩
  · simpa [rawSnapshot, Function.comp_def] using named
  · intro r member
    obtain ⟨s, there, rfl⟩ := mem_map.mp member
    exact ends s there

theorem planActivation_facts {field : Core.Field} : ∀ {ids seen : List Value}
    {planned result : List Relation}, planActivation field ids seen planned = .ok result →
    (∀ r ∈ planned, (∃ s ∈ field.raw.items, SameEnds r s) ∧ field.active.lookup r.id = none) →
    ∀ r ∈ result, (∃ s ∈ field.raw.items, SameEnds r s) ∧ field.active.lookup r.id = none := by
  intro ids
  induction ids with
  | nil =>
    intro seen planned result made known
    cases made
    exact known
  | cons id rest ih =>
    intro seen planned result made known
    simp only [planActivation, bind_eq_ok] at made
    obtain ⟨-, -, made⟩ := made
    split at made
    · cases made
    · rename_i relation found
      split at made
      · simp only [bind_eq_ok] at made
        obtain ⟨-, -, made⟩ := made
        exact ih made known
      · rename_i absent
        refine ih made fun r member => ?_
        rcases mem_append.mp member with there | new
        · exact known r there
        · have named : id = .str relation.id := by
            simpa [rawRelationById] using List.find?_some found
          rw [mem_singleton.mp new]
          rw [named] at absent
          exact ⟨⟨relation, mem_of_find?_eq_some found, rfl, rfl, rfl⟩, absent⟩

theorem activateRelationsPlan_facts {relationIds : Value} {plan : ActivateRelations}
    (planned : activateRelationsPlan p actor relationIds source = .ok plan) :
    ∀ r ∈ plan.planned, (∃ s ∈ p.field.raw.items, SameEnds r s)
      ∧ p.field.active.lookup r.id = none := by
  unfold activateRelationsPlan at planned
  simp only [bind_eq_ok, pure_eq_ok] at planned
  obtain ⟨-, -, glyph, -, -, -, -, -, -, -, -, -, -, -, ids, -, relations, made, -, -, rfl⟩ := planned
  exact planActivation_facts made (by simp)

theorem weakenPlan_facts {relationId : Value} {plan : Weakening}
    (planned : weakenPlan p actor relationId source = .ok plan) :
    find p.field.active relationId = some plan.relation
      ∧ (plan.relation.state = .dissolved → plan.target = .dissolved) := by
  unfold weakenPlan at planned
  simp only [bind_eq_ok] at planned
  obtain ⟨-, -, glyph, -, targetState, -, planned⟩ := planned
  split at planned
  · cases planned
  · simp only [bind_eq_ok] at planned
    obtain ⟨-, -, planned⟩ := planned
    split at planned
    · cases planned
    · rename_i relation found
      simp only [bind_eq_ok, require_eq_ok, pure_eq_ok] at planned
      obtain ⟨-, guarded, -, -, -, -, rfl⟩ := planned
      exact ⟨found, fun dissolved => by_contra fun changed => guarded ⟨dissolved, changed⟩⟩

/-! ## Relation writers -/

section
variable {q : Packet}

theorem restoreRaw_framed (frame : Framed (withRaw p snapshot) q) :
    Framed p (restoreRaw p q) where
  field := by
    show { q.field with raw := p.field.raw, nextRelationId := p.field.nextRelationId } = p.field
    rw [frame.field]
    rfl
  potential := frame.potential
  trace := frame.trace

theorem captured_ids (snapshot : RawSnapshot) (event : Event) :
    (captured snapshot event).items.map Relation.id = snapshot.items.map Relation.id := by
  simp [captured, Function.comp_def]

theorem Tally.issue_same (same : q.field.raw.epoch = p.field.raw.epoch) :
    t.issue p q = t := by
  rw [Tally.issue, if_pos same]

theorem Tally.issue_later (later : snapshot.epoch = p.field.raw.epoch + 1)
    (epoch : q.field.raw.epoch = snapshot.epoch)
    (ids : q.field.raw.items.map Relation.id = snapshot.items.map Relation.id) :
    t.issue p q = { t with issued := t.issued ++ snapshot.items.map Relation.id } := by
  rw [Tally.issue, if_neg (by omega), ids]

theorem snapshot_kept (kept : Represented p t) (now : Int) (actor input : Value) :
    Represented (snapshotRawRelations p now actor input).2
      (t.issue p (snapshotRawRelations p now actor input).2) := by
  refine transact_state (motive := fun r => Represented r (t.issue p r)) ?_
    fun snapshot planned => ?_
  · rw [Tally.issue_same rfl]
    exact kept
  obtain ⟨later, named, ends⟩ := snapshotPlan_facts kept planned
  have written := kept.withRaw named ends
  have raw : ∀ {q}, Framed (withRaw p snapshot) q → q.field.raw = snapshot := by
    intro q frame
    rw [frame.field]
    rfl
  refine recordEvent_rule (motive := fun r => Represented r (t.issue p r)) ?_ ?_ ?_
  · intro q frame
    have restored : (restoreRaw p q).field.raw.epoch = p.field.raw.epoch := rfl
    rw [Tally.issue_same restored]
    exact kept.framed (restoreRaw_framed frame)
  · intro q frame
    rw [Tally.issue_later later (by rw [raw frame]) (by rw [raw frame])]
    exact written.framed frame
  · intro event q frame
    rw [Tally.issue_later later rfl (captured_ids snapshot event)]
    refine (written.framed frame).putRaw ?_
    intro r member
    obtain ⟨s, there, rfl⟩ := mem_map.mp member
    exact ⟨s, raw frame ▸ there, rfl, rfl, rfl⟩

theorem activate_kept (kept : Represented p t) (now : Int) (actor relationIds source : Value) :
    Represented (activateRelations p now actor relationIds source).2 t := by
  refine transact_state (motive := fun r => Represented r t) kept fun plan planned => ?_
  split
  · exact kept
  have known : ∀ r ∈ plan.planned, Ends p.field.unitOrder r ∧ r.id ∈ t.issued := by
    intro r member
    obtain ⟨⟨s, there, same⟩, -⟩ := activateRelationsPlan_facts planned r member
    rw [same.1]
    exact ⟨ends_of_same same (kept.raw s there).1, (kept.raw s there).2⟩
  have written := (kept.putActive known).countActive
  refine recordEvent_rule (motive := fun r => Represented r t) ?_ ?_ ?_
  · exact fun q frame => (written.framed frame).restoreActiveRevision p
  · exact fun q frame => written.framed frame
  · intro event q frame
    refine (written.framed frame).putActive ?_
    intro r member
    obtain ⟨s, there, rfl⟩ := mem_map.mp member
    have order : q.field.unitOrder = p.field.unitOrder := by
      rw [frame.field]
      rfl
    rw [order]
    exact known s there

theorem weaken_kept (kept : Represented p t) (now : Int) (actor relationId source : Value) :
    Represented (weakenRelation p now actor relationId source).2 t := by
  refine transact_state (motive := fun r => Represented r t) kept fun plan planned => ?_
  split
  · exact kept
  obtain ⟨s, -, member⟩ := find_str (weakenPlan_facts planned).1
  have known := kept.active _ member
  -- the relation before and after the weakening has the same ends and id
  have same : ∀ r ∈ [weakened plan], Ends p.field.unitOrder r ∧ r.id ∈ t.issued := by
    intro r here
    rw [mem_singleton.mp here]
    exact ⟨known.1, known.2.1⟩
  have written := (kept.putActive same).countActive
  have order : ∀ {q : Packet}, Framed (countActive (putActive p [weakened plan])) q →
      q.field.unitOrder = p.field.unitOrder := by
    intro q frame
    rw [frame.field]
    rfl
  refine recordEvent_rule (motive := fun r => Represented r t) ?_ ?_ ?_
  · intro q frame
    refine Represented.restoreActiveRevision ((written.framed frame).putActive ?_) p
    intro r here
    rw [mem_singleton.mp here, order frame]
    exact ⟨known.1, known.2.1⟩
  · exact fun q frame => written.framed frame
  · intro event q frame
    refine (written.framed frame).putActive ?_
    intro r here
    rw [mem_singleton.mp here, order frame]
    exact ⟨known.1, known.2.1⟩

theorem releaseRaw_framed (p : Packet) (now : Int) (actor input : Value) :
    Framed p (releaseRawRelation p now actor input).2 := by
  exact Framed.tracked.transact _ _ fun plan _ =>
    recordEvent_rule (fun q frame => frame) (fun q frame => frame) fun event q frame => frame

theorem identityMap_kept (kept : Represented p t) (now : Int) (actor input : Value) :
    Represented (recordIdentityMap p now actor input).2 t := by
  refine transact_state (motive := fun r => Represented r t) kept fun map _ => ?_
  have written := kept.putMaps (p.field.identityMaps ++ [map])
  refine recordEvent_rule (motive := fun r => Represented r t) ?_ ?_ ?_
  · exact fun q frame => (written.framed frame).putMaps _
  · exact fun q frame => written.framed frame
  · exact fun event q frame => (written.framed frame).putMaps _

end

/-! ## Whole lives -/

theorem Tally.add_pending (succeeded : Bool) (pending : Pending t plan) :
    Pending (t.add succeeded) plan := by
  cases succeeded with
  | false => exact pending
  | true => exact pending.mono (le_succ _) (le_refl _)

theorem Tally.stamp_pending (stamped : Bool) (pending : Pending t plan) :
    Pending (t.stamp stamped) plan := by
  cases stamped with
  | false => exact pending
  | true => exact pending.mono (le_refl _) (le_succ _)

theorem Tally.issue_pending (p q : Packet) (pending : Pending t plan) :
    Pending (t.issue p q) plan := by
  unfold Tally.issue
  split
  · exact pending
  · exact pending

theorem deed_kept (S : Schemas) {l : Living} (kept : Kept l t) (d : Deed) :
    Kept ((lifeMachine S).after l d) (t.after S l d) := by
  obtain ⟨represented, pending⟩ := kept
  cases d with
  | packet s => exact ⟨represented.framed (step_framed S l.packet s), pending⟩
  | mutate now mutation =>
    cases mutation with
    | budgetInit => exact ⟨represented.framed (budgetInit_framed l.packet), pending⟩
    | budgetCharge input => exact ⟨represented.framed (budgetCharge_framed l.packet input), pending⟩
    | lossInit options => exact ⟨represented.framed (lossInit_framed l.packet options), pending⟩
    | lossApply input => exact ⟨represented.framed (lossApply_framed l.packet input), pending⟩
    | addUnit actor input =>
      exact ⟨addUnit_kept represented actor input,
        fun plan member => Tally.add_pending _ (pending plan member)⟩
    | setActivation actor id activation source =>
      exact ⟨setActivation_kept represented actor id activation source,
        fun plan member => Tally.stamp_pending _ (pending plan member)⟩
    | prepareInheritedFormRelease actor input =>
      exact prepare_kept ⟨represented, pending⟩ actor input
    | commitInheritedFormRelease actor place eventId =>
      exact commit_kept ⟨represented, pending⟩ actor place eventId
    | snapshotRawRelations actor input =>
      exact ⟨snapshot_kept represented now actor input,
        fun plan member => Tally.issue_pending _ _ (pending plan member)⟩
    | activateRelations actor relationIds source =>
      exact ⟨activate_kept represented now actor relationIds source, pending⟩
    | weakenRelation actor relationId source =>
      exact ⟨weaken_kept represented now actor relationId source, pending⟩
    | releaseRawRelation actor input =>
      exact ⟨represented.framed (releaseRaw_framed l.packet now actor input), pending⟩
    | recordIdentityMap actor input =>
      exact ⟨identityMap_kept represented now actor input, pending⟩

theorem run_kept (S : Schemas) (deeds : List Deed) : ∀ {l : Living} {t : Tally}, Kept l t →
    Kept ((lifeMachine S).run l deeds) (tally S t l deeds) := by
  induction deeds with
  | nil =>
    intro l t kept
    exact kept
  | cons d rest ih =>
    intro l t kept
    exact ih (deed_kept S kept d)

theorem newborn_kept {S : Schemas} {counter : Nat} {now : Int} {prompt options : Value}
    (born : Packet.new S counter now prompt options = .ok p) :
    Kept ⟨p, []⟩ ⟨0, 0, []⟩ := by
  obtain ⟨_, _, _, _, _, _, _, _, _, _, _, birth, -, rfl⟩ := Packet.new_eq born
  refine ⟨Represented.framed ?_ (Framed.push _ birth), fun plan member => by cases member⟩
  constructor
  · rfl
  · exact nodup_nil
  · rfl
  · exact fun entry member => by cases member
  · rfl
  · exact fun entry member => by cases member
  · exact fun entry member => by cases member
  · exact fun entry member => by cases member
  · exact nodup_nil
  · exact fun id member => by cases member
  · rfl

/-- The representation holds after every life of a born Packet. -/
theorem field_represented (S : Schemas) (counter : Nat) (now : Int) (prompt options : Value)
    (p : Packet) (born : Packet.new S counter now prompt options = .ok p) (deeds : List Deed) :
    Represented ((lifeMachine S).run ⟨p, []⟩ deeds).packet
      (tally S ⟨0, 0, []⟩ ⟨p, []⟩ deeds) :=
  (run_kept S deeds (newborn_kept born)).represented

def promptDeeds : List Deed :=
  [.packet ⟨Packet.tickAt .flow, fun _ => 0⟩,
    .mutate 0 (.addUnit (Topology.value .flow) (.record [("kind", .text "prompt"),
      ("carrier", .text "task"), ("source_refs", .emptyTable),
      ("created_event_id", .text "event-2")]))]

def travel (source target : Operator) : List Deed :=
  [.packet ⟨Packet.legacyRoute source target, fun _ => 0⟩,
    .packet ⟨Packet.tickAt target, fun _ => 0⟩]

def captureDeeds : List Deed :=
  promptDeeds ++ travel .flow .connect ++ [
    .mutate 0 (.snapshotRawRelations (Topology.value .connect)
      (.record [("items", .array [.record [("from", .text "unit:1"), ("to", .text "unit:1"),
          ("allow_self", .bool true), ("kind", .text "same"),
          ("source_refs", .array [.text "event-2"])]]),
        ("source_refs", .array [.text "event-2"]), ("source_revision", .nat 1)]))]

def activateDeeds : List Deed :=
  travel .connect .observe ++ travel .observe .runtime ++ [
    .mutate 0 (.activateRelations (Topology.value .runtime) (.array [.text "relation:1"]) .nil)]

def ownEvent (type : String) (operator : Operator) (payload : Value) : Deed :=
  .packet ⟨.appendTrace (.record [("type", .text type), ("operator", Topology.value operator),
    ("truth_status", .text "runtime_confirmed"), ("payload", payload)]), fun _ => 0⟩

def weakenDeed (target : String) : Deed :=
  .mutate 0 (.weakenRelation (Topology.value .dissolve) (.text "relation:1")
    (.record [("target_state", .text target), ("reason_kind", .text "stale"),
      ("event_id", .text "event-15")]))

def dissolveDeeds : List Deed :=
  travel .runtime .observe ++ travel .observe .dissolve ++ [
    ownEvent "relation_mutation" .dissolve (.record [("relation_id", .text "relation:1")]),
    weakenDeed "dissolved",
    .mutate 0 (.setActivation (Topology.value .dissolve) (.text "unit:1") (.text "dissolved")
      (.record [("event_id", .text "event-15")])),
    weakenDeed "weakened"]

def unitStates (p : Packet) : List (Activation × Number) :=
  p.field.units.map fun entry => (entry.2.activation, entry.2.version)

def relationStates (p : Packet) : List (RelationState × Nat) :=
  p.field.active.map fun entry => (entry.2.state, entry.2.version)

theorem field_represented_prompt :
    ∃ p, Packet.new Packet.refusingSchemas 1 0 (.text "task") .nil = .ok p
      ∧ (let t := tally Packet.refusingSchemas ⟨0, 0, []⟩ ⟨p, []⟩
          (captureDeeds ++ activateDeeds ++ dissolveDeeds)
        let l := (lifeMachine Packet.refusingSchemas).run ⟨p, []⟩
          (captureDeeds ++ activateDeeds ++ dissolveDeeds)
        ((t.additions, t.changes, t.issued) = (1, 1, [utf8 "relation:1"])
          ∧ unitStates l.packet = [(.dissolved, .int 2)]
          ∧ relationStates l.packet = [(.dissolved, 3)])
        ∧ Represented l.packet t) := by
  obtain ⟨p, born, came⟩ := Packet.task_born_passing
    (fun p =>
      let t := tally Packet.refusingSchemas ⟨0, 0, []⟩ ⟨p, []⟩
        (captureDeeds ++ activateDeeds ++ dissolveDeeds)
      let l := (lifeMachine Packet.refusingSchemas).run ⟨p, []⟩
        (captureDeeds ++ activateDeeds ++ dissolveDeeds)
      decide ((t.additions, t.changes, t.issued) = (1, 1, [utf8 "relation:1"])
        ∧ unitStates l.packet = [(.dissolved, .int 2)]
        ∧ relationStates l.packet = [(.dissolved, 3)]))
    (by decide +kernel)
  exact ⟨p, born, of_decide_eq_true came,
    field_represented Packet.refusingSchemas 1 0 (.text "task") .nil p born _⟩

end Proc17.Runtime.Field
