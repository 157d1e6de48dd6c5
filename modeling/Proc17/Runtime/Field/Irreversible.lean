import Proc17.Lua.Order
import Proc17.Runtime.Field.DissolveSchema
import Proc17.Runtime.Field.Representation

/-!
# Dissolution and versions

A dissolved unit or relation stays dissolved and versions only grow, over every
interleaving of field mutators and Packet operations.
-/

namespace Proc17.Runtime.Field

open Lua Core DissolveSchema List Number Machine

/-! ## Later tables -/

variable {key : Bytes} {p q : Packet} {unit : FieldUnit} {activation actor source : Value}
  {plan : ActivationPlan}

section
variable {α : Type} {R : α → α → Prop} {table later : List (Bytes × α)}

/-- Every entry is still there, as a value that its old one leads to. -/
def Later (R : α → α → Prop) (table later : List (Bytes × α)) : Prop :=
  ∀ key a, table.lookup key = some a → ∃ b, later.lookup key = some b ∧ R a b

theorem lookup_rewrite (table : List (Bytes × α)) (key other : Bytes) (value : α) :
    (table.map fun entry => if entry.1 = key then (key, value) else entry).lookup other
      = if other = key then (table.lookup key).map fun _ => value else table.lookup other := by
  induction table with
  | nil => simp
  | cons entry rest ih =>
    obtain ⟨k, v⟩ := entry
    by_cases here : k = key
    · subst here
      by_cases same : other = k
      · simp [same]
      · simp [lookup_cons, beq_false_of_ne same, ih, same]
    · by_cases same : other = k
      · subst same
        simp [here]
      · have differ : (key == k) = false := beq_false_of_ne fun h => here h.symm
        simp [lookup_cons, here, beq_false_of_ne same, ih, differ]

theorem lookup_append_absent (key other : Bytes) (value : α) (absent : table.lookup key = none) :
    (table ++ [(key, value)]).lookup other
      = if other = key then some value else table.lookup other := by
  rw [lookup_append]
  by_cases same : other = key
  · subst same
    rw [absent, if_pos rfl]
    simp
  · rw [if_neg same, lookup_cons, beq_false_of_ne same]
    simp

theorem lookup_put (table : List (Bytes × α)) (key other : Bytes) (value : α) :
    (put table key value).lookup other
      = if other = key then some value else table.lookup other := by
  unfold put
  split
  · rename_i present
    obtain ⟨old, found⟩ := Option.isSome_iff_exists.mp present
    rw [lookup_rewrite, found]
    rfl
  · rename_i absent
    exact lookup_append_absent key other value (by simpa only [Option.not_isSome_iff_eq_none] using absent)

namespace Later

theorem refl (each : ∀ key a, table.lookup key = some a → R a a) : Later R table table :=
  fun key a found => ⟨a, found, each key a found⟩

theorem trans {third : List (Bytes × α)} (compose : ∀ {a b c}, R a b → R b c → R a c)
    (first : Later R table later) (second : Later R later third) : Later R table third := by
  intro key a found
  obtain ⟨b, found', step⟩ := first key a found
  obtain ⟨c, found'', step'⟩ := second key b found'
  exact ⟨c, found'', compose step step'⟩

theorem put_over (each : ∀ key a, table.lookup key = some a → R a a) {value : α}
    (elsewhere : ∀ other, other ≠ key → later.lookup other = table.lookup other)
    (here : ∀ a, table.lookup key = some a → R a value) : Later R table (put later key value) := by
  intro other a found
  rw [lookup_put]
  by_cases same : other = key
  · subst same
    exact ⟨value, if_pos rfl, here a found⟩
  · refine ⟨a, ?_, each other a found⟩
    rw [if_neg same, elsewhere other same]
    exact found

theorem put (each : ∀ key a, table.lookup key = some a → R a a) {value : α}
    (here : ∀ a, table.lookup key = some a → R a value) : Later R table (put table key value) :=
  put_over each (fun _ _ => rfl) here

end Later

end

/-! ## What a unit and a relation keep -/

structure UnitOnward (u v : FieldUnit) : Prop where
  kind : v.kind = u.kind
  dissolved : u.activation = .dissolved → v.activation = .dissolved
  version : Number.le u.version v.version = true
  moved : v.activation ≠ u.activation → Number.lt u.version v.version = true

structure RelationOnward (r s : Relation) : Prop where
  dissolved : r.state = .dissolved → s.state = .dissolved
  version : r.version ≤ s.version
  moved : s.state ≠ r.state → r.version < s.version

/-- `q` is `p` at a later time: units and active relations stay, with what a dissolution
and a version mean. -/
structure Onward (p q : Packet) : Prop where
  units : Later UnitOnward p.field.units q.field.units
  relations : Later RelationOnward p.field.active q.field.active

theorem UnitOnward.trans {u v w : FieldUnit} (first : UnitOnward u v) (second : UnitOnward v w) :
    UnitOnward u w where
  kind := second.kind.trans first.kind
  dissolved := second.dissolved ∘ first.dissolved
  version := le_trans first.version second.version
  moved := by
    intro changed
    by_cases early : v.activation = u.activation
    · rw [← early] at changed
      exact lt_of_le_of_lt first.version (second.moved changed)
    · exact lt_of_lt_of_le (first.moved early) second.version

theorem RelationOnward.refl (r : Relation) : RelationOnward r r :=
  ⟨id, Nat.le_refl _, fun changed => absurd rfl changed⟩

theorem RelationOnward.trans {r s t : Relation} (first : RelationOnward r s)
    (second : RelationOnward s t) : RelationOnward r t where
  dissolved := second.dissolved ∘ first.dissolved
  version := Nat.le_trans first.version second.version
  moved := by
    intro changed
    by_cases early : s.state = r.state
    · rw [← early] at changed
      exact Nat.lt_of_le_of_lt first.version (second.moved changed)
    · exact Nat.lt_of_lt_of_le (first.moved early) second.version

theorem Onward.trans {r : Packet} (first : Onward p q) (second : Onward q r) : Onward p r :=
  ⟨first.units.trans UnitOnward.trans second.units,
    first.relations.trans RelationOnward.trans second.relations⟩

/-! ## The versions of a field -/

def inheritedKind : Bytes := utf8 "inherited_rejected_form"

/-- What the version of a unit can be: an inherited form is released once, any other unit
counts in integers. -/
def Numbered (unit : FieldUnit) : Prop :=
  if unit.kind = inheritedKind then
    unit.version = .int 1 ∨ (unit.activation = .dissolved ∧ Number.eq (.int 2) unit.version = true)
  else ∃ v : Int, unit.version = .int v

/-- An open plan releases an inherited form from a visible activation. -/
def Drawn (p : Packet) (plan : ReleasePlan) : Prop :=
  plan.residueUnit.version = .int 1
    ∧ (∃ before, Transition (plan.release.get "target") before)
    ∧ ∃ unit, find p.field.units ((plan.release.get "target").get "id") = some unit
      ∧ unit.kind = inheritedKind

structure Sound (l : Living) : Prop where
  numbered : ∀ key unit, l.packet.field.units.lookup key = some unit → Numbered unit
  drawn : ∀ plan, some plan ∈ l.releases → Drawn l.packet plan

theorem Numbered.refl (numbered : Numbered unit) : UnitOnward unit unit := by
  refine ⟨rfl, id, (le_iff _ _).mpr (.inr ?_), fun changed => absurd rfl changed⟩
  unfold Numbered at numbered
  split at numbered
  · rcases numbered with one | ⟨-, two⟩
    · rw [one]
      rfl
    · exact eq_euclidean two two
  · obtain ⟨v, counted⟩ := numbered
    rw [counted]
    simp [Number.eq]

theorem Numbered.newborn (one : unit.version = .int 1) : Numbered unit := by
  unfold Numbered
  split
  · exact .inl one
  · exact ⟨1, one⟩

theorem Drawn.onward {p q : Packet} {plan : ReleasePlan} (drawn : Drawn p plan)
    (onward : Onward p q) : Drawn q plan := by
  obtain ⟨one, transition, unit, found, kind⟩ := drawn
  refine ⟨one, transition, ?_⟩
  obtain ⟨s, named, -⟩ := find_str found
  rw [named] at found ⊢
  obtain ⟨later, found', step⟩ := onward.units s unit found
  exact ⟨later, found', step.kind.trans kind⟩

theorem Onward.of_same (numbered : ∀ key unit, p.field.units.lookup key = some unit → Numbered unit)
    (units : q.field.units = p.field.units) (active : q.field.active = p.field.active) :
    Onward p q := by
  constructor
  · rw [units]
    exact Later.refl fun key unit found => (numbered key unit found).refl
  · rw [active]
    exact Later.refl fun key r _ => RelationOnward.refl r

/-! ## Deeds -/

def Advances (l m : Living) : Prop := Sound m ∧ Onward l.packet m.packet

variable {id : Value}

section
variable {S : Schemas} {l : Living} {t : Tally}

theorem Sound.advance (sound : Sound l)
    (numbered : ∀ key unit, q.field.units.lookup key = some unit → Numbered unit)
    (onward : Onward l.packet q) : Advances l { l with packet := q } :=
  ⟨⟨numbered, fun plan member => (sound.drawn plan member).onward onward⟩, onward⟩

theorem Sound.advance_same (sound : Sound l) (units : q.field.units = l.packet.field.units)
    (active : q.field.active = l.packet.field.active) : Advances l { l with packet := q } :=
  sound.advance (by rw [units]; exact sound.numbered) (Onward.of_same sound.numbered units active)

theorem Sound.advance_framed (sound : Sound l) (frame : Framed l.packet q) :
    Advances l { l with packet := q } :=
  sound.advance_same (by rw [frame.field]) (by rw [frame.field])

theorem numbered_put {table : List (Bytes × FieldUnit)} {id : Bytes}
    (each : ∀ key u, table.lookup key = some u → Numbered u) (numbered : Numbered unit) :
    ∀ key u, (put table id unit).lookup key = some u → Numbered u := by
  intro key u found
  rw [lookup_put] at found
  split at found
  · cases found
    exact numbered
  · exact each key u found

theorem Onward.putUnit (each : ∀ key unit, p.field.units.lookup key = some unit → Numbered unit)
    (here : ∀ old, p.field.units.lookup unit.id = some old → UnitOnward old unit) :
    Onward p (Field.putUnit p unit) where
  units := Later.put (fun key u found => (each key u found).refl) here
  relations := Later.refl fun _ r _ => RelationOnward.refl r

theorem Represented.absent (kept : Represented p t) :
    p.field.units.lookup (unitName (t.additions + 1)) = none := by
  rw [← Option.not_isSome_iff_eq_none, lookup_isSome_iff, kept.keys, kept.order]
  exact not_mem_unitNames t.additions

theorem Onward.withUnit (each : ∀ key unit, p.field.units.lookup key = some unit → Numbered unit)
    (fresh : p.field.units.lookup unit.id = none) : Onward p (Field.withUnit p unit) where
  units := by
    refine Later.put (fun key u found => (each key u found).refl) ?_
    intro old found
    rw [fresh] at found
    cases found
  relations := Later.refl fun key r _ => RelationOnward.refl r

theorem addUnit_advances (kept : Represented l.packet t) (sound : Sound l) (actor input : Value) :
    Advances l { l with packet := (addUnit l.packet actor input).2 } := by
  refine transact_state (motive := fun q => Advances l { l with packet := q })
    (sound.advance_same rfl rfl) fun plan planned => ?_
  obtain ⟨identified, -, -, one⟩ := unitPlan_facts planned
  refine sound.advance (numbered_put sound.numbered (Numbered.newborn (by exact one)))
    (Onward.withUnit sound.numbered ?_)
  show l.packet.field.units.lookup plan.id = none
  rw [identified, nextUnitId_eq kept]
  exact kept.absent

/-! ### Activation -/

theorem activated_onward (numbered : Numbered plan.unit) (other : plan.unit.kind ≠ inheritedKind)
    (guarded : plan.unit.activation = .dissolved → plan.activation = .dissolved) :
    Numbered (activated plan) ∧ UnitOnward plan.unit (activated plan) := by
  rw [Numbered, if_neg other] at numbered
  obtain ⟨v, counted⟩ := numbered
  have next : (activated plan).version = .int (v + 1) := by
    show nextVersion plan.unit.version = _
    rw [counted, nextVersion]
  have less : Number.lt plan.unit.version (activated plan).version = true := by
    rw [next, counted]
    exact decide_eq_true (by omega)
  constructor
  · rw [Numbered, if_neg (show (activated plan).kind ≠ inheritedKind from other)]
    exact ⟨v + 1, next⟩
  · exact ⟨rfl, guarded, le_of_lt less, fun _ => less⟩

theorem setActivation_advances (kept : Represented l.packet t) (sound : Sound l)
    (actor id activation source : Value) :
    Advances l { l with packet := (setActivation l.packet actor id activation source).2 } := by
  unfold setActivation
  cases planned : activationPlan l.packet actor id activation source with
  | error failure => exact sound.advance_same rfl rfl
  | ok plan =>
    rw [transact_ok]
    by_cases idle : plan.unit.activation = plan.activation
        ∧ plan.source.get "restamp" ≠ .bool true
    · rw [if_pos idle]
      exact sound.advance_same rfl rfl
    · rw [if_neg idle]
      obtain ⟨found, other, guarded⟩ := activationPlan_facts planned
      obtain ⟨s, rfl, -, same⟩ := kept.mem_order found
      obtain ⟨numbered, onward⟩ := activated_onward (sound.numbered s plan.unit found) other
        guarded
      have written : Onward l.packet (Field.putUnit l.packet (activated plan)) := by
        refine Onward.putUnit sound.numbered ?_
        intro old there
        have stored : l.packet.field.units.lookup plan.unit.id = some old := there
        rw [same] at stored
        cases (show some plan.unit = some old from found.symm.trans stored)
        exact onward
      exact sound.advance (numbered_put sound.numbered numbered)
        ⟨written.units, written.relations⟩

/-! ### Releases -/

theorem transition_deepCopy {release : Value} {before : Number}
    (transition : Transition (release.get "target") before) :
    Transition (release.deepCopy.get "target") before := by
  obtain ⟨started, next, visible⟩ := transition
  constructor
  · rw [Value.get_deepCopy, Value.get_deepCopy, started]
    rfl
  · rw [Value.get_deepCopy, Value.get_deepCopy]
    cases read : (release.get "target").get "after_version" with
    | num n =>
      rw [read] at next
      exact next
    | _ => rw [read] at next; cases next
  · rw [Value.get_deepCopy, Value.get_deepCopy]
    rcases visible with live | selected
    · exact .inl (by rw [live]; rfl)
    · exact .inr (by rw [selected]; rfl)

theorem releaseTarget_facts {release : Value} (found : releaseTarget p release = .ok unit) :
    find p.field.units ((release.get "target").get "id") = some unit
      ∧ unit.kind = inheritedKind := by
  simp only [releaseTarget] at found
  split at found
  · cases found
  · rename_i other there
    simp only [bind_eq_ok, require_eq_ok, pure_eq_ok] at found
    obtain ⟨-, ⟨kind, -⟩, rfl⟩ := found
    exact ⟨there, kind⟩

theorem releasePlan_drawn {input : Value} {plan : ReleasePlan}
    (planned : releasePlan (withRelease S) p actor input = .ok plan) : Drawn p plan := by
  unfold releasePlan at planned
  simp only [bind_eq_ok, require_eq_ok, pure_eq_ok] at planned
  obtain ⟨-, -, glyph, -, -, rfl, -, -, -, -, _, verified, -, -, -, -, target, stale, -, -, refs, -,
    unit, made, rfl⟩ := planned
  obtain ⟨-, -, -, one⟩ := unitPlan_facts made
  obtain ⟨found, kind⟩ := releaseTarget_facts stale
  refine ⟨by exact one, ?_, target, ?_, kind⟩
  · unfold verifyNormalized at verified
    simp only [bind_eq_ok] at verified
    obtain ⟨normalized, accepted, -⟩ := verified
    obtain ⟨⟨before, transition⟩, -⟩ := transition_of_release accepted
    exact ⟨before, transition_deepCopy transition⟩
  · obtain ⟨s, named, -⟩ := find_str found
    rw [named] at found
    show find p.field.units (((input.get "release").deepCopy.get "target").get "id") = some target
    rw [Value.get_deepCopy, Value.get_deepCopy, named]
    exact found

theorem prepare_advances (sound : Sound l) (actor input : Value) :
    Advances l (prepareInheritedFormRelease (withRelease S) l actor input).2 := by
  refine transact_state (motive := Advances l) (sound.advance_same rfl rfl) fun plan planned => ?_
  refine ⟨⟨sound.numbered, ?_⟩, Onward.of_same sound.numbered rfl rfl⟩
  intro other member
  rcases mem_append.mp member with there | new
  · exact sound.drawn other there
  · rw [Option.some.inj (mem_singleton.mp new)]
    exact releasePlan_drawn planned

variable {commit : ReleaseCommit} {eventId : Value}

theorem visible_of_name {activation : Activation} {v : Value}
    (visible : v = .text "live" ∨ v = .text "selected") (named : v = .text activation.name) :
    activation ≠ .dissolved := by
  rintro rfl
  rcases visible with same | same <;> rw [same] at named <;> revert named <;> decide

theorem dissolvedTarget_onward {target : Value} {version before : Number} (numbered : Numbered unit)
    (kind : unit.kind = inheritedKind) (transition : Transition target before)
    (written : target.get "after_version" = .num version)
    (started : Value.eq (.num unit.version) (target.get "before_version") = true)
    (visible : target.get "before_activation" = .text unit.activation.name) :
    Numbered (dissolvedTarget unit eventId version)
      ∧ UnitOnward unit (dissolvedTarget unit eventId version) := by
  have live : unit.activation ≠ .dissolved := visible_of_name transition.visible visible
  have one : unit.version = .int 1 := by
    rw [Numbered, if_pos kind] at numbered
    rcases numbered with one | ⟨dissolved, -⟩
    · exact one
    · exact absurd dissolved live
  have two : Number.eq (.int 2) version = true := by
    have next := transition.next
    rw [written] at next
    rw [transition.started, one] at started
    exact eq_trans (add_one_of_eq_one started) (eq_symm next)
  have less : Number.lt unit.version version = true := by
    rw [one, ← lt_congr_right two]
    rfl
  constructor
  · rw [Numbered, if_pos (show (dissolvedTarget unit eventId version).kind = inheritedKind from kind)]
    exact .inr ⟨rfl, two⟩
  · exact ⟨rfl, fun _ => rfl, le_of_lt less, fun _ => less⟩

theorem residue_absent {plan : ReleasePlan} (kept : Represented p t) (pending : Pending t plan)
    (committed : releaseCommit S p plan eventId = .ok commit) :
    p.field.units.lookup commit.residue.id = none := by
  obtain ⟨revision, -, residue, -⟩ := releaseCommit_facts committed
  rw [residue]
  show p.field.units.lookup plan.residueUnit.id = none
  rw [pending.identified kept revision]
  exact kept.absent

theorem released_advances {plan : ReleasePlan} (kept : Represented p t) (pending : Pending t plan)
    (drawn : Drawn p plan)
    (sound : ∀ key unit, p.field.units.lookup key = some unit → Numbered unit)
    (committed : releaseCommit S p plan eventId = .ok commit) :
    (∀ key unit, (withUnit (putUnit p commit.target) commit.residue).field.units.lookup key
      = some unit → Numbered unit)
      ∧ Onward p (withUnit (putUnit p commit.target) commit.residue) := by
  obtain ⟨one, ⟨before, transition⟩, unit, found, kind⟩ := drawn
  obtain ⟨-, -, residue, other, version, found', target, written, started, visible⟩ :=
    releaseCommit_facts committed
  cases (show some unit = some other from found.symm.trans found')
  obtain ⟨s, named, -, same⟩ := kept.mem_order found
  rw [named] at found
  have stored : p.field.units.lookup s = some unit := found
  obtain ⟨numbered, onward⟩ : Numbered (dissolvedTarget unit eventId version)
      ∧ UnitOnward unit (dissolvedTarget unit eventId version) :=
    dissolvedTarget_onward (sound s unit stored) kind transition written started visible
  have residueOne : commit.residue.version = .int 1 := by
    rw [residue]
    exact one
  have sound' : ∀ key u, (putUnit p commit.target).field.units.lookup key = some u →
      Numbered u := by
    rw [target]
    exact numbered_put sound numbered
  have rewritten : Onward p (putUnit p commit.target) := by
    rw [target]
    refine Onward.putUnit sound ?_
    intro old there
    have stored' : p.field.units.lookup unit.id = some old := there
    rw [same, stored] at stored'
    cases stored'
    exact onward
  have fresh : (putUnit p commit.target).field.units.lookup commit.residue.id = none := by
    have absent := residue_absent kept pending committed
    have differ : commit.residue.id ≠ commit.target.id := by
      intro twin
      have here : commit.target.id = s := by
        rw [target]
        exact same
      rw [twin, here, stored] at absent
      cases absent
    show (put p.field.units commit.target.id commit.target).lookup commit.residue.id = none
    rw [lookup_put, if_neg differ]
    exact absent
  exact ⟨numbered_put sound' (Numbered.newborn residueOne),
    rewritten.trans (Onward.withUnit sound' fresh)⟩

theorem commit_advances (kept : Kept l t) (sound : Sound l) (actor : Value) (place : Nat)
    (eventId : Value) : Advances l (commitInheritedFormRelease S l actor place eventId).2 := by
  refine transact_state (motive := Advances l) (sound.advance_same rfl rfl) fun plan taken => ?_
  have pending := kept.pending plan (takePlan_mem taken)
  have drawn := sound.drawn plan (takePlan_mem taken)
  refine transact_state (motive := Advances l) ?_ fun commit committed => ?_
  · have onward : Onward l.packet l.packet := Onward.of_same sound.numbered rfl rfl
    exact ⟨⟨sound.numbered, fun other member => sound.drawn other (mem_of_taken member)⟩, onward⟩
  · obtain ⟨numbered, onward⟩ := released_advances kept.represented pending drawn
      sound.numbered committed
    exact ⟨⟨numbered, fun other member =>
      (sound.drawn other (mem_of_taken member)).onward onward⟩, onward⟩

/-! ### Relations -/

theorem lookup_foldl_put {relations : List Relation} :
    ∀ {table : List (Bytes × Relation)}, (∀ r ∈ relations, r.id ≠ key) →
      (relations.foldl (fun table r => put table r.id r) table).lookup key = table.lookup key := by
  induction relations with
  | nil => intro table _; rfl
  | cons r rest ih =>
    intro table other
    rw [foldl_cons, ih fun s member => other s (mem_cons_of_mem _ member), lookup_put,
      if_neg fun same => other r mem_cons_self same.symm]

theorem later_of_fresh {relations : List Relation}
    (fresh : ∀ r ∈ relations, p.field.active.lookup r.id = none) {active : List (Bytes × Relation)}
    (later : Later RelationOnward p.field.active active) :
    Later RelationOnward p.field.active
      (relations.foldl (fun table r => put table r.id r) active) := by
  intro key r found
  obtain ⟨s, found', step⟩ := later key r found
  refine ⟨s, ?_, step⟩
  rw [lookup_foldl_put, found']
  intro new member same
  have absent := fresh new member
  rw [same, found] at absent
  cases absent

theorem Sound.advance_relations (sound : Sound l) (units : q.field.units = l.packet.field.units)
    (active : Later RelationOnward l.packet.field.active q.field.active) :
    Advances l { l with packet := q } := by
  refine sound.advance (by rw [units]; exact sound.numbered) ⟨?_, active⟩
  rw [units]
  exact Later.refl fun key unit found => (sound.numbered key unit found).refl

theorem activate_advances (sound : Sound l) (now : Int) (actor relationIds source : Value) :
    Advances l { l with packet := (activateRelations l.packet now actor relationIds source).2 } := by
  refine transact_state (motive := fun q => Advances l { l with packet := q })
    (sound.advance_same rfl rfl) fun plan planned => ?_
  split
  · exact sound.advance_same rfl rfl
  have fresh := fun r member => (activateRelationsPlan_facts planned r member).2
  have written : Later RelationOnward l.packet.field.active
      (putActive l.packet plan.planned).field.active :=
    later_of_fresh fresh (Later.refl fun key r _ => RelationOnward.refl r)
  have kept : ∀ {q}, Framed (countActive (putActive l.packet plan.planned)) q →
      q.field.units = l.packet.field.units
        ∧ Later RelationOnward l.packet.field.active q.field.active := by
    intro q frame
    rw [frame.field]
    exact ⟨rfl, written⟩
  refine recordEvent_rule (motive := fun q => Advances l { l with packet := q }) ?_ ?_ ?_
  · exact fun q frame => sound.advance_relations (kept frame).1 (kept frame).2
  · exact fun q frame => sound.advance_relations (kept frame).1 (kept frame).2
  · intro event q frame
    refine sound.advance_relations (kept frame).1 (later_of_fresh ?_ (kept frame).2)
    intro r member
    obtain ⟨s, there, rfl⟩ := mem_map.mp member
    exact fresh s there

theorem weaken_advances (kept : Represented l.packet t) (sound : Sound l) (now : Int)
    (actor relationId source : Value) :
    Advances l { l with packet := (weakenRelation l.packet now actor relationId source).2 } := by
  refine transact_state (motive := fun q => Advances l { l with packet := q })
    (sound.advance_same rfl rfl) fun plan planned => ?_
  split
  · exact sound.advance_same rfl rfl
  obtain ⟨there, guarded⟩ := weakenPlan_facts planned
  obtain ⟨s, rfl, member⟩ := find_str there
  have found : l.packet.field.active.lookup s = some plan.relation := there
  have named : plan.relation.id = s := (kept.active _ member).2.2
  have onward : RelationOnward plan.relation (weakened plan) :=
    ⟨guarded, Nat.le_succ _, fun _ => Nat.lt_succ_self _⟩
  -- whatever is written under the id of the relation follows the relation
  have follow : ∀ {table : List (Bytes × Relation)} {next : Relation}, next.id = s →
      (∀ other, other ≠ s → table.lookup other = l.packet.field.active.lookup other) →
      RelationOnward plan.relation next →
      Later RelationOnward l.packet.field.active (put table next.id next) := by
    intro table next same elsewhere onward
    rw [same]
    refine Later.put_over (fun key r _ => RelationOnward.refl r) elsewhere ?_
    intro old there
    rw [found] at there
    cases there
    exact onward
  have stays : ∀ {q}, Framed (countActive (putActive l.packet [weakened plan])) q →
      q.field.units = l.packet.field.units
        ∧ q.field.active = put l.packet.field.active plan.relation.id (weakened plan) := by
    intro q frame
    rw [frame.field]
    exact ⟨rfl, rfl⟩
  have elsewhere : ∀ {q}, Framed (countActive (putActive l.packet [weakened plan])) q →
      ∀ other, other ≠ s → q.field.active.lookup other = l.packet.field.active.lookup other := by
    intro q frame other differ
    rw [(stays frame).2, lookup_put, if_neg (by rw [named]; exact differ)]
  refine recordEvent_rule (motive := fun q => Advances l { l with packet := q }) ?_ ?_ ?_
  · exact fun q frame => sound.advance_relations (stays frame).1
      (follow named (elsewhere frame) (RelationOnward.refl _))
  · intro q frame
    refine sound.advance_relations (stays frame).1 ?_
    rw [(stays frame).2]
    have here : (weakened plan).id = s := named
    exact follow here (fun _ _ => rfl) onward
  · intro event q frame
    refine sound.advance_relations (stays frame).1 (follow ?_ (elsewhere frame) ?_)
    · exact named
    · exact ⟨onward.dissolved, onward.version, onward.moved⟩

def SameUnits (p q : Packet) : Prop :=
  q.field.units = p.field.units ∧ q.field.active = p.field.active

theorem SameUnits.framed {written : Packet} (same : SameUnits p written)
    (frame : Framed written q) : SameUnits p q := by
  rw [SameUnits, frame.field]
  exact same

theorem snapshot_same (p : Packet) (now : Int) (actor input : Value) :
    SameUnits p (snapshotRawRelations p now actor input).2 := by
  refine transact_state (motive := SameUnits p) ⟨rfl, rfl⟩ fun snapshot _ => ?_
  have same : SameUnits p (withRaw p snapshot) := ⟨rfl, rfl⟩
  exact recordEvent_rule (motive := SameUnits p) (fun q => same.framed) (fun q => same.framed)
    fun event q => same.framed

theorem identityMap_same (p : Packet) (now : Int) (actor input : Value) :
    SameUnits p (recordIdentityMap p now actor input).2 := by
  refine transact_state (motive := SameUnits p) ⟨rfl, rfl⟩ fun map _ => ?_
  have same : SameUnits p (putMaps p (p.field.identityMaps ++ [map])) := ⟨rfl, rfl⟩
  exact recordEvent_rule (motive := SameUnits p) (fun q => same.framed) (fun q => same.framed)
    fun event q => same.framed

end

/-! ## Whole lives -/

variable {l : Living}

theorem deed_advances (S : Schemas) {t : Tally} (kept : Kept l t) (sound : Sound l)
    (d : Deed) : Advances l ((lifeMachine (withRelease S)).after l d) := by
  cases d with
  | packet s => exact sound.advance_framed (step_framed (withRelease S) l.packet s)
  | mutate now mutation =>
    cases mutation with
    | budgetInit => exact sound.advance_framed (budgetInit_framed l.packet)
    | budgetCharge input => exact sound.advance_framed (budgetCharge_framed l.packet input)
    | lossInit options => exact sound.advance_framed (lossInit_framed l.packet options)
    | lossApply input => exact sound.advance_framed (lossApply_framed l.packet input)
    | addUnit actor input => exact addUnit_advances kept.represented sound actor input
    | setActivation actor id activation source =>
      exact setActivation_advances kept.represented sound actor id activation source
    | prepareInheritedFormRelease actor input => exact prepare_advances sound actor input
    | commitInheritedFormRelease actor place eventId =>
      exact commit_advances kept sound actor place eventId
    | snapshotRawRelations actor input =>
      obtain ⟨units, active⟩ := snapshot_same l.packet now actor input
      exact sound.advance_same units active
    | activateRelations actor relationIds source =>
      exact activate_advances sound now actor relationIds source
    | weakenRelation actor relationId source =>
      exact weaken_advances kept.represented sound now actor relationId source
    | releaseRawRelation actor input =>
      exact sound.advance_framed (releaseRaw_framed l.packet now actor input)
    | recordIdentityMap actor input =>
      obtain ⟨units, active⟩ := identityMap_same l.packet now actor input
      exact sound.advance_same units active

theorem run_advances (S : Schemas) (deeds : List Deed) : ∀ {l : Living} {t : Tally}, Kept l t →
    Sound l → Advances l ((lifeMachine (withRelease S)).run l deeds) := by
  induction deeds with
  | nil =>
    intro l t kept sound
    exact ⟨sound, Onward.of_same sound.numbered rfl rfl⟩
  | cons d rest ih =>
    intro l t kept sound
    obtain ⟨sound', first⟩ := deed_advances S kept sound d
    obtain ⟨final, later⟩ := ih (deed_kept (withRelease S) kept d) sound'
    exact ⟨final, first.trans later⟩

theorem newborn_sound {S : Schemas} {counter : Nat} {now : Int} {prompt options : Value}
    (born : Packet.new S counter now prompt options = .ok p) : Sound ⟨p, []⟩ := by
  obtain ⟨_, _, _, _, _, _, _, _, _, _, _, birth, -, rfl⟩ := Packet.new_eq born
  exact ⟨fun _ _ found => (by cases found), fun plan member => by cases member⟩

/-- Units and active relations only go onward between any two points of a life. -/
theorem dissolution_irreversible (S : Schemas) (counter : Nat) (now : Int)
    (prompt options : Value) (p : Packet)
    (born : Packet.new (withRelease S) counter now prompt options = .ok p)
    (earlier later : List Deed) :
    Onward ((lifeMachine (withRelease S)).run ⟨p, []⟩ earlier).packet
      ((lifeMachine (withRelease S)).run ⟨p, []⟩ (earlier ++ later)).packet := by
  obtain ⟨sound, -⟩ := run_advances S earlier (newborn_kept born) (newborn_sound born)
  rw [run_append]
  exact (run_advances S later (run_kept _ earlier (newborn_kept born)) sound).2

/-- The unit and the relation are dissolved between the two points, and later writes that
would restore the relation change nothing. -/
theorem dissolution_irreversible_prompt :
    ∃ p, Packet.new (withRelease Packet.refusingSchemas) 1 0 (.text "task") .nil = .ok p
      ∧ (let early := (lifeMachine (withRelease Packet.refusingSchemas)).run ⟨p, []⟩
          (captureDeeds ++ activateDeeds)
        let late := (lifeMachine (withRelease Packet.refusingSchemas)).run ⟨p, []⟩
          (captureDeeds ++ activateDeeds ++ dissolveDeeds)
        (unitStates early.packet = [(.live, .int 1)] ∧ unitStates late.packet = [(.dissolved, .int 2)]
          ∧ relationStates early.packet = [(.active, 2)]
          ∧ relationStates late.packet = [(.dissolved, 3)])
        ∧ Onward early.packet late.packet) := by
  obtain ⟨p, born, came⟩ := Packet.task_born_passing
    (fun p =>
      let early := (lifeMachine (withRelease Packet.refusingSchemas)).run ⟨p, []⟩
        (captureDeeds ++ activateDeeds)
      let late := (lifeMachine (withRelease Packet.refusingSchemas)).run ⟨p, []⟩
        (captureDeeds ++ activateDeeds ++ dissolveDeeds)
      decide (unitStates early.packet = [(.live, .int 1)]
        ∧ unitStates late.packet = [(.dissolved, .int 2)]
        ∧ relationStates early.packet = [(.active, 2)]
        ∧ relationStates late.packet = [(.dissolved, 3)]))
    (by decide +kernel)
  exact ⟨p, born, of_decide_eq_true came,
    dissolution_irreversible Packet.refusingSchemas 1 0 (.text "task") .nil p born
      (captureDeeds ++ activateDeeds) dissolveDeeds⟩

end Proc17.Runtime.Field
