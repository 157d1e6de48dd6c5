import Proc17.Lua.Log
import Proc17.Runtime.Field.Irreversible

/-!
# The release of an inherited form, write by write

`field.commit_inherited_form_release` with the assignments of its protected call and the
rollback that follows a failed postcondition, against the commit that either writes or
leaves the Packet.
-/

namespace Proc17.Runtime.Field

open Lua Core DissolveSchema List Nat

/-! ## The protected call -/

def erase {α : Type} (table : List (Bytes × α)) (key : Bytes) : List (Bytes × α) :=
  table.filter fun entry => entry.1 ≠ key

def putUnitAt (p : Packet) (key : Bytes) (unit : FieldUnit) : Packet :=
  { p with field := { p.field with units := put p.field.units key unit } }

structure ReleaseSnapshot where
  target : FieldUnit
  orderLength : Nat
  nextUnitId : Nat
  potential : Nat

def releaseSnapshot (p : Packet) (target : FieldUnit) : ReleaseSnapshot :=
  ⟨target, p.field.unitOrder.length, p.field.nextUnitId, p.revisions.potential⟩

def targetKey (release : Value) : Bytes := ((release.get "target").get "id").tostring

def residueKey (release : Value) : Bytes := (release.get "residue_unit_id").tostring

def releaseWrites (p : Packet) (release : Value) (target residue : FieldUnit) : Packet :=
  withUnit (putUnitAt p (targetKey release) target) residue

def settledResidue (plan : ReleasePlan) (eventId : Value) : FieldUnit :=
  { plan.residueUnit with createdEventId := eventId }

def releasePostcondition (before : ReleaseSnapshot) (release : Value) (target : FieldUnit)
    (written : Packet) : Bool :=
  (release.get "target").get "after_activation" = .text target.activation.name
    && Value.eq (.num target.version) ((release.get "target").get "after_version")
    && written.field.nextUnitId = before.nextUnitId + 1
    && written.revisions.potential = before.potential + 1

def releaseRollback (before : ReleaseSnapshot) (release : Value) (written : Packet) : Packet :=
  { written with
    field :=
      { written.field with
        units := erase (put written.field.units (targetKey release) before.target)
          (residueKey release)
        unitOrder := written.field.unitOrder.take before.orderLength
        nextUnitId := before.nextUnitId }
    revisions := { written.revisions with potential := before.potential } }

def commitTarget (S : Schemas) (p : Packet) (plan : ReleasePlan) (eventId : Value) :
    Except Failure FieldUnit := do
  let _ ← p.assertActorTick (Topology.value .dissolve) "commit inherited form release"
  let event ← p.eventInCurrentTick (Topology.value .dissolve) eventId
  require (event.type = .unitDissolution ∧ S.releaseSame event.payload plan.release = true)
    (refuse "release event does not match field plan")
  let target := plan.release.get "target"
  match find p.field.units (target.get "id") with
  | none => .error (refuse "inherited form release plan became stale")
  | some unit => do
      require (p.revisions.potential = plan.potentialRevision
          ∧ Value.eq (.num unit.version) (target.get "before_version") = true
          ∧ target.get "before_activation" = .text unit.activation.name
          ∧ (unitOrdinal (plan.release.get "residue_unit_id")).map
            (Number.eq (.int p.field.nextUnitId)) = some true
          ∧ find p.field.units (plan.release.get "residue_unit_id") = none)
        (refuse "inherited form release plan became stale")
      pure unit

/-- The protected call and what becomes of its error.  `after_version` is a number in
every plan, so the version of a unit stays one. -/
def protectedRelease (p : Packet) (plan : ReleasePlan) (eventId : Value) (unit : FieldUnit) :
    Reply Packet ReleaseCommit :=
  match (plan.release.get "target").get "after_version" with
  | .num version =>
    let before := releaseSnapshot p unit
    let target := dissolvedTarget unit eventId version
    let residue := settledResidue plan eventId
    let written := releaseWrites p plan.release target residue
    if releasePostcondition before plan.release target written then
      (.ok ⟨target, residue⟩, written)
    else (.error (refuse "inherited form release postcondition failed"),
      releaseRollback before plan.release written)
  | _ => (.error (refuse "inherited form release postcondition failed"), p)

def commitByWrites (S : Schemas) (l : Living) (actor : Value) (place : Nat)
    (eventId : Value) : Reply Living ReleaseCommit :=
  transact (takePlan l actor place)
    (fun plan =>
      let taken : Living := { l with releases := l.releases.set place none }
      let reply := transact (commitTarget S l.packet plan eventId)
        (protectedRelease l.packet plan eventId) l.packet
      (reply.1, { taken with packet := reply.2 })) l

/-! ## The rollback -/

section
variable {α : Type} {table : List (Bytes × α)} {key other : Bytes} {a b : α}

section

variable (absent : key ∉ table.map Prod.fst)
include absent

theorem erase_of_absent : erase table key = table := by
  apply filter_eq_self.mpr
  intro entry member
  refine decide_eq_true ?_
  rintro rfl
  exact absent (mem_map.mpr ⟨entry, member, rfl⟩)

theorem erase_appended :
    erase (table ++ [(key, a)]) key = table := by
  have kept := erase_of_absent absent
  unfold erase at kept ⊢
  rw [filter_append, kept]
  simp

theorem put_absent :
    put table key a = table ++ [(key, a)] := by
  rw [put, if_neg fun found => absent (lookup_isSome_iff.mp found)]

end

theorem put_appended (present : key ∈ table.map Prod.fst) (differ : other ≠ key) :
    put (table ++ [(other, b)]) key a = put table key a ++ [(other, b)] := by
  have there : key ∈ (table ++ [(other, b)]).map Prod.fst := by
    rw [map_append]
    exact mem_append_left _ present
  rw [put, put, if_pos (lookup_isSome_iff.mpr there), if_pos (lookup_isSome_iff.mpr present),
    map_append, map_singleton, if_neg differ]

theorem lookup_of_mem (once : (table.map Prod.fst).Nodup) (member : (key, a) ∈ table) :
    table.lookup key = some a := by
  induction table with
  | nil => cases member
  | cons entry rest ih =>
    obtain ⟨k, v⟩ := entry
    obtain ⟨fresh, once⟩ := nodup_cons.mp once
    rw [lookup_cons]
    rcases mem_cons.mp member with here | there
    · cases here
      simp
    · have differ : key ≠ k := by
        rintro rfl
        exact fresh (mem_map.mpr ⟨_, there, rfl⟩)
      rw [beq_false_of_ne differ]
      exact ih once there

theorem put_back (once : (table.map Prod.fst).Nodup) (found : table.lookup key = some a) :
    put (put table key b) key a = table := by
  have present : key ∈ table.map Prod.fst :=
    lookup_isSome_iff.mp (by rw [found]; rfl)
  have still : key ∈ (put table key b).map Prod.fst := by
    rw [keys_put_present present]
    exact present
  rw [put, if_pos (lookup_isSome_iff.mpr still), put, if_pos (lookup_isSome_iff.mpr present),
    map_map]
  refine (map_congr_left ?_).trans (map_id table)
  rintro ⟨k, v⟩ member
  by_cases same : k = key
  · subst same
    have here := lookup_of_mem once member
    rw [found] at here
    cases here
    simp
  · simp [same]

end

variable {p : Packet} {unit : FieldUnit} {actor : Value} {place : Nat}

theorem releaseRollback_restores {release : Value} {target residue : FieldUnit}
    (once : (p.field.units.map Prod.fst).Nodup)
    (found : p.field.units.lookup (targetKey release) = some unit)
    (absent : p.field.units.lookup (residueKey release) = none)
    (planned : residue.id = residueKey release) :
    releaseRollback (releaseSnapshot p unit) release (releaseWrites p release target residue)
      = p := by
  have present : targetKey release ∈ p.field.units.map Prod.fst :=
    lookup_isSome_iff.mp (by rw [found]; rfl)
  have missing : residueKey release ∉ p.field.units.map Prod.fst := by
    rw [← lookup_isSome_iff, absent]
    exact Bool.false_ne_true
  have differ : residueKey release ≠ targetKey release := by
    intro same
    exact missing (same ▸ present)
  have units : erase (put (put (put p.field.units (targetKey release) target) residue.id residue)
      (targetKey release) unit) (residueKey release) = p.field.units := by
    have keys : (put p.field.units (targetKey release) target).map Prod.fst
        = p.field.units.map Prod.fst := keys_put_present present
    have appended : put (put p.field.units (targetKey release) target) (residueKey release) residue
        = put p.field.units (targetKey release) target ++ [(residueKey release, residue)] :=
      put_absent (by rw [keys]; exact missing)
    rw [planned, appended, put_appended (by rw [keys]; exact present) differ,
      put_back once found, erase_appended missing]
  have order : (p.field.unitOrder ++ [residue.id]).take p.field.unitOrder.length
      = p.field.unitOrder := take_left
  unfold releaseRollback releaseWrites withUnit countPotential putUnitAt releaseSnapshot
  simp only [units, order]

/-! ## Prepared plans -/

/-- What `prepare_inherited_form_release` has checked of a plan. -/
structure Prepared (plan : ReleasePlan) : Prop where
  residue : plan.release.get "residue_unit_id" = .str plan.residueUnit.id
  fresh : plan.residueUnit.version = .int 1
  transition : ∃ before, Transition (plan.release.get "target") before
  dissolved : (plan.release.get "target").get "after_activation" = .text "dissolved"

variable {l : Living}

section
variable {S : Schemas} {t : Tally} {plan : ReleasePlan}

theorem releasePlan_prepared {input : Value}
    (planned : releasePlan (withRelease S) p actor input = .ok plan) : Prepared plan := by
  unfold releasePlan at planned
  simp only [bind_eq_ok, require_eq_ok, pure_eq_ok] at planned
  obtain ⟨-, -, glyph, -, -, rfl, -, -, -, -, _, verified, -, -, -, -, target, -, -, ⟨next, -⟩, refs,
    -, unit, made, rfl⟩ := planned
  obtain ⟨identified, -, -, one⟩ := unitPlan_facts made
  unfold verifyNormalized at verified
  simp only [bind_eq_ok] at verified
  obtain ⟨normalized, accepted, -⟩ := verified
  constructor
  · show (input.get "release").deepCopy.get "residue_unit_id" = .str unit.id
    rw [Value.get_deepCopy, next, identified]
    rfl
  · exact one
  · obtain ⟨⟨before, transition⟩, -⟩ := transition_of_release accepted
    exact ⟨before, transition_deepCopy transition⟩
  · show ((input.get "release").deepCopy.get "target").get "after_activation" = .text "dissolved"
    rw [Value.get_deepCopy, Value.get_deepCopy, (transition_of_release accepted).2]
    rfl

theorem Prepared.residueKey_eq (prepared : Prepared plan) :
    residueKey plan.release = plan.residueUnit.id := by
  rw [residueKey, prepared.residue]
  rfl

theorem Prepared.after (prepared : Prepared plan) :
    ∃ version, (plan.release.get "target").get "after_version" = .num version
      ∧ Number.eq version version = true := by
  obtain ⟨before, transition⟩ := prepared.transition
  have next := transition.next
  cases read : (plan.release.get "target").get "after_version" with
  | num version =>
    rw [read] at next
    exact ⟨version, rfl, Number.eq_trans next (Number.eq_symm next)⟩
  | _ => rw [read] at next; cases next

/-! ## The commit that writes or leaves the Packet -/

variable {eventId : Value} {version : Number}

theorem releaseCommit_eq (written : (plan.release.get "target").get "after_version" = .num version)
    (dissolved : (plan.release.get "target").get "after_activation" = .text "dissolved") :
    releaseCommit S p plan eventId = (commitTarget S p plan eventId).map fun unit =>
      ⟨dissolvedTarget unit eventId version, settledResidue plan eventId⟩ := by
  unfold releaseCommit commitTarget
  cases p.assertActorTick (Topology.value .dissolve) "commit inherited form release" with
  | error failure => rfl
  | ok lease =>
    cases p.eventInCurrentTick (Topology.value .dissolve) eventId with
    | error failure => rfl
    | ok event =>
      simp only [ok_then, require_then]
      split
      · cases find p.field.units ((plan.release.get "target").get "id") with
        | none => rfl
        | some unit =>
          simp only [written]
          split
          · rfl
          · rfl
      · rfl

theorem commitTarget_facts (guarded : commitTarget S p plan eventId = .ok unit) :
    find p.field.units ((plan.release.get "target").get "id") = some unit
      ∧ p.revisions.potential = plan.potentialRevision
      ∧ (plan.release.get "target").get "before_activation" = .text unit.activation.name
      ∧ find p.field.units (plan.release.get "residue_unit_id") = none := by
  unfold commitTarget at guarded
  simp only [bind_eq_ok] at guarded
  obtain ⟨-, -, event, -, -, -, guarded⟩ := guarded
  split at guarded
  · cases guarded
  · rename_i other there
    simp only [bind_eq_ok, require_eq_ok, pure_eq_ok] at guarded
    obtain ⟨-, ⟨revision, -, visible, -, absent⟩, rfl⟩ := guarded
    exact ⟨there, revision, visible, absent⟩

theorem protectedRelease_eq (prepared : Prepared plan) (kept : Represented p t)
    (found : find p.field.units ((plan.release.get "target").get "id") = some unit)
    (written : (plan.release.get "target").get "after_version" = .num version)
    (reflexive : Number.eq version version = true) :
    protectedRelease p plan eventId unit
      = (.ok ⟨dissolvedTarget unit eventId version, settledResidue plan eventId⟩,
        withUnit (putUnit p (dissolvedTarget unit eventId version))
          (settledResidue plan eventId)) := by
  obtain ⟨s, named, -, same⟩ := kept.mem_order found
  have key : targetKey plan.release = unit.id := by
    rw [targetKey, named, same]
    rfl
  have stored : releaseWrites p plan.release (dissolvedTarget unit eventId version)
      (settledResidue plan eventId) = withUnit (putUnit p (dissolvedTarget unit eventId version))
        (settledResidue plan eventId) := by
    rw [releaseWrites, putUnitAt, key]
    rfl
  have holds : releasePostcondition (releaseSnapshot p unit) plan.release
      (dissolvedTarget unit eventId version)
      (releaseWrites p plan.release (dissolvedTarget unit eventId version)
        (settledResidue plan eventId)) = true := by
    unfold releasePostcondition
    rw [prepared.dissolved, written]
    simpa [dissolvedTarget, Activation.name, releaseWrites, withUnit, countPotential, putUnitAt,
      releaseSnapshot, Value.eq] using reflexive
  rw [stored] at holds
  unfold protectedRelease
  rw [written]
  simp only [stored, holds, if_true]

theorem commitByWrites_eq (kept : Kept l t)
    (prepared : ∀ plan, some plan ∈ l.releases → Prepared plan) (actor : Value) (place : Nat)
    (eventId : Value) :
    commitByWrites S l actor place eventId = commitInheritedFormRelease S l actor place eventId := by
  unfold commitByWrites commitInheritedFormRelease
  cases taken : takePlan l actor place with
  | error failure => rfl
  | ok plan =>
    have ready := prepared plan (takePlan_mem taken)
    obtain ⟨version, written, reflexive⟩ := ready.after
    rw [transact_ok, transact_ok]
    simp only
    rw [releaseCommit_eq written ready.dissolved]
    cases guarded : commitTarget S l.packet plan eventId with
    | error failure => rfl
    | ok unit =>
      rw [transact_ok, protectedRelease_eq ready kept.represented
        (commitTarget_facts guarded).1 written reflexive]
      rfl

/-! ## The outcome of a commit -/

/-- A release as a whole: the target dissolved, the residue appended, two counters one on,
and nothing else. -/
structure Released (plan : ReleasePlan) (eventId : Value) (unit : FieldUnit) (version : Number)
    (p q : Packet) : Prop where
  named : (plan.release.get "target").get "after_version" = .num version
  before : p.field.units.lookup (targetKey plan.release) = some unit
  live : unit.activation ≠ .dissolved
  target : q.field.units.lookup (targetKey plan.release)
    = some (dissolvedTarget unit eventId version)
  absent : p.field.units.lookup (residueKey plan.release) = none
  residue : q.field.units.lookup (residueKey plan.release) = some (settledResidue plan eventId)
  others : ∀ key, key ≠ targetKey plan.release → key ≠ residueKey plan.release →
    q.field.units.lookup key = p.field.units.lookup key
  keys : q.field.units.map Prod.fst = p.field.units.map Prod.fst ++ [residueKey plan.release]
  order : q.field.unitOrder = p.field.unitOrder ++ [residueKey plan.release]
  next : q.field.nextUnitId = p.field.nextUnitId + 1
  revisions : q.revisions = { p.revisions with potential := p.revisions.potential + 1 }
  rest : q = { p with
    field := { p.field with
      units := q.field.units, unitOrder := q.field.unitOrder, nextUnitId := q.field.nextUnitId }
    revisions := q.revisions }

theorem released_of_guarded (prepared : Prepared plan) (kept : Represented p t)
    (guarded : commitTarget S p plan eventId = .ok unit)
    (written : (plan.release.get "target").get "after_version" = .num version) :
    Released plan eventId unit version p
      (withUnit (putUnit p (dissolvedTarget unit eventId version))
        (settledResidue plan eventId)) := by
  obtain ⟨found, -, visible, missing⟩ := commitTarget_facts guarded
  obtain ⟨before, transition⟩ := prepared.transition
  obtain ⟨s, named, -, same⟩ := kept.mem_order found
  have key : targetKey plan.release = s := by
    rw [targetKey, named]
    rfl
  have id : residueKey plan.release = (settledResidue plan eventId).id := prepared.residueKey_eq
  rw [named] at found
  have there : p.field.units.lookup s = some unit := found
  have absent : p.field.units.lookup (settledResidue plan eventId).id = none := by
    rw [prepared.residue] at missing
    exact missing
  have differ : (settledResidue plan eventId).id ≠ s := by
    intro twin
    rw [twin, there] at absent
    cases absent
  have present : (dissolvedTarget unit eventId version).id ∈ p.field.units.map Prod.fst := by
    have here : p.field.units.lookup (dissolvedTarget unit eventId version).id = some unit := by
      show p.field.units.lookup unit.id = some unit
      rw [same]
      exact there
    exact lookup_isSome_iff.mp (by rw [here]; rfl)
  have units : ∀ other, (withUnit (putUnit p (dissolvedTarget unit eventId version))
      (settledResidue plan eventId)).field.units.lookup other
      = if other = (settledResidue plan eventId).id then some (settledResidue plan eventId)
        else if other = s then some (dissolvedTarget unit eventId version)
        else p.field.units.lookup other := by
    intro other
    rw [← same]
    exact (lookup_put _ _ other _).trans (by rw [putUnit, lookup_put]; rfl)
  constructor
  · exact written
  · rw [key]
    exact there
  · exact visible_of_name transition.visible visible
  · rw [units, key, if_neg differ.symm, if_pos rfl]
  · rw [id]
    exact absent
  · rw [units, id, if_pos rfl]
  · intro other apart fresh
    rw [units, if_neg (by rw [← id]; exact fresh), if_neg (by rw [← key]; exact apart)]
  · have missing : (settledResidue plan eventId).id
        ∉ (put p.field.units (dissolvedTarget unit eventId version).id
          (dissolvedTarget unit eventId version)).map Prod.fst := by
      rw [keys_put_present present, ← lookup_isSome_iff, absent]
      exact Bool.false_ne_true
    rw [id]
    exact (keys_put_absent missing).trans (by rw [keys_put_present present])
  · rw [id]
    rfl
  · rfl
  · rfl
  · rfl

def AllOrNothing (S : Schemas) (l : Living) (actor : Value) (place : Nat) (eventId : Value) :
    Prop :=
  (∃ plan unit version, l.releases[place]? = some (some plan)
      ∧ (commitByWrites S l actor place eventId).Succeeds
      ∧ Released plan eventId unit version l.packet
        (commitByWrites S l actor place eventId).2.packet)
    ∨ (¬ (commitByWrites S l actor place eventId).Succeeds
      ∧ (commitByWrites S l actor place eventId).2.packet = l.packet)

theorem takePlan_facts (taken : takePlan l actor place = .ok plan) :
    l.releases[place]? = some (some plan) := by
  unfold takePlan at taken
  simp only [bind_eq_ok] at taken
  obtain ⟨glyph, -, taken⟩ := taken
  split at taken
  · rename_i other there
    split at taken
    · cases taken
      exact there
    · cases taken
  · cases taken

theorem commit_all_or_nothing (kept : Kept l t)
    (prepared : ∀ plan, some plan ∈ l.releases → Prepared plan) (actor : Value) (place : Nat)
    (eventId : Value) : AllOrNothing S l actor place eventId := by
  unfold AllOrNothing commitByWrites
  cases taken : takePlan l actor place with
  | error failure => exact .inr ⟨by simp [transact], rfl⟩
  | ok plan =>
    have ready := prepared plan (takePlan_mem taken)
    obtain ⟨version, written, reflexive⟩ := ready.after
    rw [transact_ok]
    cases guarded : commitTarget S l.packet plan eventId with
    | error failure => exact .inr ⟨by simp [transact], rfl⟩
    | ok unit =>
      rw [transact_ok, protectedRelease_eq ready kept.represented
        (commitTarget_facts guarded).1 written reflexive]
      exact .inl ⟨plan, unit, version, takePlan_facts taken, Reply.succeeds_ok _ _,
        released_of_guarded ready kept.represented guarded written⟩

/-! ## Plans over a life -/

theorem releases_after (S : Schemas) (l : Living) (d : Deed) :
    ((lifeMachine S).after l d).releases = l.releases
      ∨ (∃ actor input plan, releasePlan S l.packet actor input = .ok plan
        ∧ ((lifeMachine S).after l d).releases = l.releases ++ [some plan])
      ∨ ∃ place, ((lifeMachine S).after l d).releases = l.releases.set place none := by
  cases d with
  | packet s => exact .inl rfl
  | mutate now mutation =>
    cases mutation with
    | prepareInheritedFormRelease actor input =>
      show (prepareInheritedFormRelease S l actor input).2.releases = l.releases ∨ _
      unfold prepareInheritedFormRelease
      rcases transact_cases (releasePlan S l.packet actor input) _ l with
        ⟨failure, -, result⟩ | ⟨plan, planned, result⟩
      · exact .inl (by rw [result])
      · refine .inr (.inl ⟨actor, input, plan, planned, ?_⟩)
        exact congrArg (fun reply : Reply Living Nat => reply.2.releases) result
    | commitInheritedFormRelease actor place eventId =>
      show (commitInheritedFormRelease S l actor place eventId).2.releases = l.releases ∨ _
      unfold commitInheritedFormRelease
      rcases transact_cases (takePlan l actor place) _ l with
        ⟨failure, -, result⟩ | ⟨plan, -, result⟩
      · exact .inl (by rw [result])
      · refine .inr (.inr ⟨place, ?_⟩)
        refine (congrArg (fun reply : Reply Living ReleaseCommit => reply.2.releases)
          result).trans ?_
        cases releaseCommit S l.packet plan eventId with
        | error | ok => rfl
    | _ => exact .inl rfl

/-- Every open plan is as `prepare_inherited_form_release` has left it. -/
def AllPrepared (l : Living) : Prop := ∀ plan, some plan ∈ l.releases → Prepared plan

theorem allPrepared_run (S : Schemas) (prepared : AllPrepared l) (deeds : List Deed) :
    AllPrepared ((lifeMachine (withRelease S)).run l deeds) := by
  refine Machine.run_invariant _ AllPrepared ?_ deeds l prepared
  intro l d prepared plan member
  rcases releases_after (withRelease S) l d with same | ⟨actor, input, new, planned, added⟩
    | ⟨place, taken⟩
  · exact prepared plan (same ▸ member)
  · rw [added] at member
    rcases mem_append.mp member with old | last
    · exact prepared plan old
    · rw [Option.some.inj (mem_singleton.mp last)]
      exact releasePlan_prepared planned
  · rw [taken] at member
    rcases mem_or_eq_of_mem_set member with old | other
    · exact prepared plan old
    · cases other

/-- The place is given out, and a plan that is still open there is one of `P`. -/
structure Slot (P : ReleasePlan → Prop) (place : Nat) (l : Living) : Prop where
  given : place < l.releases.length
  holds : ∀ plan, l.releases[place]? = some (some plan) → P plan

theorem Slot.run {P : ReleasePlan → Prop} (slot : Slot P place l) (deeds : List Deed) :
    Slot P place ((lifeMachine S).run l deeds) := by
  refine Machine.run_invariant _ (Slot P place) ?_ deeds l slot
  intro l d slot
  obtain ⟨given, holds⟩ := slot
  rcases releases_after S l d with same | ⟨actor, input, new, -, added⟩ | ⟨other, taken⟩
  · exact ⟨by rw [same]; exact given, by rw [same]; exact holds⟩
  · constructor
    · rw [added, length_append]
      exact Nat.lt_add_right _ given
    · intro plan here
      rw [added, List.getElem?_append_left given] at here
      exact holds plan here
  · constructor
    · rw [taken, length_set]
      exact given
    · intro plan here
      rw [taken] at here
      rcases Log.getElem?_set_cases here with ⟨-, gone⟩ | ⟨-, old⟩
      · cases gone
      · exact holds plan old

theorem commit_taken (succeeded : (commitByWrites S l actor place eventId).Succeeds) :
    ∃ plan, takePlan l actor place = .ok plan
      ∧ l.packet.revisions.potential = plan.potentialRevision := by
  unfold commitByWrites at succeeded
  cases taken : takePlan l actor place with
  | error failure =>
    rw [taken, transact_error] at succeeded
    exact absurd succeeded (Reply.not_succeeds_error _ _)
  | ok plan =>
    rw [taken, transact_ok] at succeeded
    refine ⟨plan, rfl, ?_⟩
    cases guarded : commitTarget S l.packet plan eventId with
    | error failure =>
      rw [guarded, transact_error] at succeeded
      exact absurd succeeded (Reply.not_succeeds_error _ _)
    | ok unit => exact (commitTarget_facts guarded).2.1

theorem commit_takes (succeeded : (commitByWrites S l actor place eventId).Succeeds) :
    Slot (fun _ => False) place (commitByWrites S l actor place eventId).2 := by
  obtain ⟨plan, taken, -⟩ := commit_taken succeeded
  have given : place < l.releases.length := (List.getElem?_eq_some_iff.mp (takePlan_facts taken)).1
  unfold commitByWrites
  rw [taken, transact_ok]
  constructor
  · show place < (l.releases.set place none).length
    rw [length_set]
    exact given
  · intro plan found
    have gone : (l.releases.set place none)[place]? = some (some plan) := found
    rw [List.getElem?_set_self given] at gone
    cases gone

/-! ## The potential revision -/

def Tally.Grows (t t' : Tally) : Prop := t.additions ≤ t'.additions ∧ t.changes ≤ t'.changes

theorem Tally.grows_refl (t : Tally) : t.Grows t := ⟨le_refl _, le_refl _⟩

theorem Tally.add_grows (t : Tally) (succeeded : Bool) : t.Grows (t.add succeeded) := by
  cases succeeded with
  | false => exact t.grows_refl
  | true => exact ⟨le_succ _, le_refl _⟩

theorem Tally.stamp_grows (t : Tally) (stamped : Bool) : t.Grows (t.stamp stamped) := by
  cases stamped with
  | false => exact t.grows_refl
  | true => exact ⟨le_refl _, le_succ _⟩

theorem Tally.issue_grows (t : Tally) (p q : Packet) : t.Grows (t.issue p q) := by
  unfold Tally.issue
  split
  · exact t.grows_refl
  · exact ⟨le_refl _, le_refl _⟩

theorem Tally.after_grows (S : Schemas) (t : Tally) (l : Living) (d : Deed) :
    t.Grows (t.after S l d) := by
  cases d with
  | packet s => exact t.grows_refl
  | mutate now mutation =>
    cases mutation with
    | addUnit | commitInheritedFormRelease => exact t.add_grows _
    | setActivation actor id activation source => exact t.stamp_grows _
    | snapshotRawRelations actor input => exact t.issue_grows _ _
    | _ => exact t.grows_refl

theorem potential_after (kept : Kept l t) (d : Deed) :
    l.packet.revisions.potential ≤ ((lifeMachine S).after l d).packet.revisions.potential := by
  have before := kept.represented.potential
  have after := (deed_kept S kept d).represented.potential
  obtain ⟨additions, changes⟩ := Tally.after_grows S t l d
  omega

theorem potential_run (deeds : List Deed) : ∀ {l : Living} {t : Tally}, Kept l t →
    l.packet.revisions.potential ≤ ((lifeMachine S).run l deeds).packet.revisions.potential := by
  induction deeds with
  | nil =>
    intro l t kept
    exact le_refl _
  | cons d rest ih =>
    intro l t kept
    exact le_trans (potential_after kept d) (ih (deed_kept S kept d))

end

/-! ## Whole lives -/

/-- What a release of an inherited form keeps to in a state. -/
structure ReleaseLaw (S : Schemas) (l : Living) : Prop where
  /-- Write by write, the commit is the one of every life. -/
  agrees : ∀ actor place eventId,
    commitByWrites S l actor place eventId = commitInheritedFormRelease S l actor place eventId
  atomic : ∀ actor place eventId, AllOrNothing S l actor place eventId
  /-- The rollback leaves the Packet as it was, whatever the target had become. -/
  rollback : ∀ plan eventId unit target, some plan ∈ l.releases →
    commitTarget S l.packet plan eventId = .ok unit →
    releaseRollback (releaseSnapshot l.packet unit) plan.release
      (releaseWrites l.packet plan.release target (settledResidue plan eventId)) = l.packet
  once : ∀ actor place eventId, (commitByWrites S l actor place eventId).Succeeds →
    ∀ later actor' eventId', ¬ (commitByWrites S
      ((lifeMachine S).run (commitByWrites S l actor place eventId).2 later)
      actor' place eventId').Succeeds
  /-- A plan prepared here is stale once a deed has moved the potential revision. -/
  stale : ∀ actor input place, (prepareInheritedFormRelease S l actor input).1 = .ok place →
    ∀ before d, ((lifeMachine S).after ((lifeMachine S).run
          (prepareInheritedFormRelease S l actor input).2 before) d).packet.revisions.potential
        ≠ ((lifeMachine S).run
          (prepareInheritedFormRelease S l actor input).2 before).packet.revisions.potential →
      ∀ after actor' eventId', ¬ (commitByWrites S ((lifeMachine S).run
        (prepareInheritedFormRelease S l actor input).2 (before ++ d :: after))
        actor' place eventId').Succeeds

theorem prepare_slot {S : Schemas} {input : Value}
    (prepared : (prepareInheritedFormRelease S l actor input).1 = .ok place) :
    Slot (fun plan => plan.potentialRevision = l.packet.revisions.potential) place
        (prepareInheritedFormRelease S l actor input).2
      ∧ (prepareInheritedFormRelease S l actor input).2.packet = l.packet := by
  unfold prepareInheritedFormRelease at prepared ⊢
  rcases transact_cases (releasePlan S l.packet actor input)
      (fun plan => ((.ok l.releases.length, { l with releases := l.releases ++ [some plan] }) :
        Reply Living Nat)) l with
    ⟨failure, -, result⟩ | ⟨plan, planned, result⟩
  · rw [result] at prepared
    cases prepared
  · rw [result] at prepared ⊢
    obtain rfl : l.releases.length = place := Except.ok.inj prepared
    refine ⟨⟨by simp, ?_⟩, rfl⟩
    intro other here
    simp only [List.getElem?_concat_length, Option.some.injEq] at here
    rw [← here]
    exact (releasePlan_facts planned).1

theorem release_law {S : Schemas} {t : Tally} (kept : Kept l t)
    (prepared : AllPrepared l) : ReleaseLaw S l where
  agrees := commitByWrites_eq kept prepared
  atomic := commit_all_or_nothing kept prepared
  rollback := by
    intro plan eventId unit target member guarded
    have ready := prepared plan member
    obtain ⟨found, -, -, missing⟩ := commitTarget_facts guarded
    obtain ⟨s, named, -⟩ := find_str found
    have key : targetKey plan.release = s := by
      rw [targetKey, named]
      rfl
    rw [named] at found
    rw [ready.residue] at missing
    have planned := ready.residueKey_eq
    refine releaseRollback_restores ?_ ?_ ?_ planned.symm
    · rw [kept.represented.keys]
      exact kept.represented.once
    · rw [key]
      exact found
    · rw [planned]
      exact missing
  once := by
    intro actor place eventId succeeded later actor' eventId' again
    obtain ⟨plan, taken, -⟩ := commit_taken again
    exact ((commit_takes succeeded).run later).holds plan (takePlan_facts taken)
  stale := by
    intro actor input place made before d moved after actor' eventId' succeeded
    obtain ⟨slot, same⟩ := prepare_slot made
    obtain ⟨plan, taken, revision⟩ := commit_taken succeeded
    have planned := (slot.run (before ++ d :: after)).holds plan (takePlan_facts taken)
    have start := prepare_kept (S := S) kept actor input
    have first := potential_run (S := S) before start
    have middle := run_kept S before start
    have step := potential_after (S := S) middle d
    have last := potential_run (S := S) after (deed_kept S middle d)
    rw [Machine.run_append, Machine.run_cons] at revision
    rw [same] at first
    omega

/-- Over every life of a born Packet the release of an inherited form is all or nothing, once,
and never from a plan that an addition or an activation has overtaken. -/
theorem inherited_release_atomic (S : Schemas) (counter : Nat) (now : Int)
    (prompt options : Value) (p : Packet)
    (born : Packet.new (withRelease S) counter now prompt options = .ok p) (deeds : List Deed) :
    ReleaseLaw (withRelease S) ((lifeMachine (withRelease S)).run ⟨p, []⟩ deeds) := by
  have none_open : AllPrepared ⟨p, []⟩ := fun plan member => by cases member
  exact release_law (run_kept (withRelease S) deeds (newborn_kept born))
    (allPrepared_run S none_open deeds)

def acceptingSchemas : Schemas := withRelease { Packet.refusingSchemas with normalizeResidue := .ok }

def sampleRelease : Value :=
  let tagged (tag : String) : Value := .str (utf8 tag ++ List.replicate 64 48)
  let reason := [("network_projection_id", tagged "network-projection:"),
    ("historical_qa_id", tagged "qa-history:"), ("candidate_seal_id", tagged "candidate-seal:"),
    ("verdict_id", tagged "qa-verdict:"), ("carrier_id", .text "c"), ("source_corpse_id", .text "d")]
  let given : Value := .record [("protocol_version", releaseProtocol),
    ("target", .record [("kind", .text "unit"), ("id", .text "unit:1"), ("before_version", .nat 1),
      ("after_version", .nat 2), ("before_activation", .text "live"),
      ("after_activation", .text "dissolved")]),
    ("reason", .record (("kind", .text "rejected") :: ("subtype", .text "ancestor_candidate")
      :: reason)),
    ("residue_unit_id", .text "unit:2"),
    ("released_mass", .record [("forms", .nat 1), ("relations", .nat 0)]),
    ("irreversible_identity_loss", .nat 0),
    ("source_refs", .array (.text "coverage:field_unit:unit:1:1" :: reason.map Prod.snd)),
    ("event_truth_status", .text "runtime_confirmed"), ("content_truth_status", .text "mixed")]
  ((normalizeRelease given).toOption).getD .nil

def prepareDeed : Deed :=
  .mutate 0 (.prepareInheritedFormRelease (Topology.value .dissolve) (.record [
    ("release", sampleRelease),
    ("residue_carrier", .record [("release_id", sampleRelease.get "release_id")]),
    ("residue_source_refs", .array [.text "event-2"])]))

def releaseDeeds : List Deed :=
  [.packet ⟨Packet.tickAt .flow, fun _ => 0⟩,
    .mutate 0 (.addUnit (Topology.value .flow) (.record [("kind", .str inheritedKind),
      ("carrier", .text "task"), ("source_refs", .emptyTable),
      ("created_event_id", .text "event-2")]))]
    ++ travel .flow .dissolve ++ [prepareDeed, prepareDeed,
      .packet ⟨.appendUnitDissolution (.record [("type", .text "unit_dissolution"),
        ("operator", Topology.value .dissolve), ("truth_status", .text "runtime_confirmed"),
        ("cost", .emptyTable), ("payload", sampleRelease)]), fun _ => 0⟩]
def readyLife (p : Packet) : Living := (lifeMachine acceptingSchemas).run ⟨p, []⟩ releaseDeeds

def commitOn (l : Living) (place : Nat) : Reply Living ReleaseCommit :=
  commitByWrites acceptingSchemas l (Topology.value .dissolve) place (.text "event-5")

/-- The first plan commits; neither it nor the overtaken second plan commits after that. -/
theorem inherited_release_atomic_prompt :
    ∃ p, Packet.new acceptingSchemas 1 0 (.text "task") .nil = .ok p
      ∧ ((commitOn (readyLife p) 0).Succeeds
        ∧ unitStates (commitOn (readyLife p) 0).2.packet = [(.dissolved, .int 2), (.live, .int 1)]
        ∧ ¬ (commitOn (commitOn (readyLife p) 0).2 0).Succeeds
        ∧ ¬ (commitOn (commitOn (readyLife p) 0).2 1).Succeeds)
      ∧ ReleaseLaw acceptingSchemas (readyLife p) := by
  obtain ⟨p, born, came⟩ := Packet.task_born_passing
    (fun p =>
      let done := commitOn (readyLife p) 0
      decide (done.Succeeds
        ∧ unitStates done.2.packet = [(.dissolved, .int 2), (.live, .int 1)]
        ∧ ¬ (commitOn done.2 0).Succeeds ∧ ¬ (commitOn done.2 1).Succeeds))
    (by decide +kernel)
  exact ⟨p, born, of_decide_eq_true came, inherited_release_atomic
    { Packet.refusingSchemas with normalizeResidue := .ok } 1 0 (.text "task") .nil p born
    releaseDeeds⟩

end Proc17.Runtime.Field
