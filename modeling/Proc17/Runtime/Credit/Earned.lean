import Mathlib.Data.List.Induction
import Proc17.Runtime.Credit.Facts

/-!
# Edge credit is earned

Over every run of the strict operations each route goes through its phases once and in order,
credit is given only where the tree under a qualified policy chose the route and nothing had
tainted the life before the commit, and the life is tainted at most once.
-/

namespace Proc17.Runtime.Credit

open Lua Core List
open Core.Json (encode PresentAlike encode_record_iff)
open Runtime.Epoch (isTaggedHash texts sameValue)

/-! ## Phases of a route -/

inductive Phase where
  | selection
  | commit
  | terminal
  | decision
  deriving DecidableEq

def Event.phase (routeId : Bytes) : Event → Option Phase
  | .selection r => if r.routeEvidenceId = routeId then some .selection else none
  | .commit c => if c.routeEvidenceId = routeId then some .commit else none
  | .arrival a => if a.routeEvidenceId = routeId then some .terminal else none
  | .failure f => if f.routeEvidenceId = routeId then some .terminal else none
  | .pending p => if p.routeEvidenceId = routeId then some .terminal else none
  | .decision d => if d.routeEvidenceId = routeId then some .decision else none
  | _ => none

def phases (events : List Event) (routeId : Bytes) : List Phase :=
  events.filterMap (Event.phase routeId)

def course : List Phase := [.selection, .commit, .terminal, .decision]

theorem course_cases {done : List Phase} (inOrder : done <+: course) :
    done = [] ∨ done = [.selection] ∨ done = [.selection, .commit]
      ∨ done = [.selection, .commit, .terminal] ∨ done = course := by
  rw [prefix_iff_eq_take] at inOrder
  have length : done.length ≤ 4 := by
    rw [inOrder, length_take]
    exact Nat.min_le_right _ _
  generalize done.length = n at inOrder length
  subst inOrder
  match n, length with
  | 0, _ => exact .inl rfl
  | 1, _ => exact .inr (.inl rfl)
  | 2, _ => exact .inr (.inr (.inl rfl))
  | 3, _ => exact .inr (.inr (.inr (.inl rfl)))
  | 4, _ => exact .inr (.inr (.inr (.inr rfl)))

theorem phases_append (events more : List Event) (routeId : Bytes) :
    phases (events ++ more) routeId = phases events routeId ++ phases more routeId :=
  filterMap_append

variable {events : List Event} {routeId : Bytes} {r : Selection} {c : Commit}

theorem phases_silent (silent : events.all Event.silent = true) (routeId : Bytes) :
    phases events routeId = [] := by
  rw [phases, filterMap_eq_nil_iff]
  intro event member
  have quiet := all_eq_true.mp silent event member
  cases event <;> first | rfl | cases quiet

theorem mem_phases {event : Event} {phase : Phase} (member : event ∈ events)
    (shows : event.phase routeId = some phase) :
    phase ∈ phases events routeId := mem_filterMap.mpr ⟨event, member, shows⟩

theorem mem_selections :
    r ∈ events.filterMap Event.asSelection ↔ .selection r ∈ events := by
  rw [mem_filterMap]
  constructor
  · rintro ⟨event, member, read⟩
    cases event with
    | selection other =>
      cases read
      exact member
    | _ => cases read
  · exact fun member => ⟨_, member, rfl⟩

theorem mem_commits :
    c ∈ events.filterMap Event.asCommit ↔ .commit c ∈ events := by
  rw [mem_filterMap]
  constructor
  · rintro ⟨event, member, read⟩
    cases event with
    | commit other =>
      cases read
      exact member
    | _ => cases read
  · exact fun member => ⟨_, member, rfl⟩

theorem of_mem_phases {phase : Phase} (gone : phase ∈ phases events routeId) :
    ∃ event ∈ events, event.phase routeId = some phase :=
  mem_filterMap.mp gone

theorem named_of_phase {event : Event} {phase : Phase} (shows : event.phase routeId = some phase) :
    (phase = .selection → ∃ r, event = .selection r ∧ r.routeEvidenceId = routeId)
      ∧ (phase = .commit → ∃ c, event = .commit c ∧ c.routeEvidenceId = routeId)
      ∧ (phase = .terminal → ∃ t, event.asTerminal = some t ∧ t.1 = routeId) := by
  cases event with
  | request | eligibility | taint | error => cases shows
  | _ =>
    simp only [Event.phase] at shows
    split at shows
    · cases shows
      simp [Event.asTerminal, *]
    · cases shows

theorem unselected (absent : selectionOf events routeId = none) :
    Phase.selection ∉ phases events routeId := by
  intro gone
  obtain ⟨event, member, shows⟩ := of_mem_phases gone
  obtain ⟨r, rfl, same⟩ := (named_of_phase shows).1 rfl
  exact List.find?_eq_none.mp absent r (mem_selections.mpr member) (decide_eq_true same)

theorem uncommitted (absent : commitOf events routeId = none) :
    Phase.commit ∉ phases events routeId := by
  intro gone
  obtain ⟨event, member, shows⟩ := of_mem_phases gone
  obtain ⟨c, rfl, same⟩ := (named_of_phase shows).2.1 rfl
  exact List.find?_eq_none.mp absent c (mem_commits.mpr member) (decide_eq_true same)

theorem unended (running : ended events routeId = false) :
    Phase.terminal ∉ phases events routeId := by
  intro gone
  obtain ⟨event, member, shows⟩ := of_mem_phases gone
  obtain ⟨terminal, read, same⟩ := (named_of_phase shows).2.2 rfl
  exact any_eq_false.mp running terminal (mem_filterMap.mpr ⟨event, member, read⟩)
    (decide_eq_true same)

/-! ## Taints -/

def Foreign (owner : Value) (c : Commit) : Prop := c.routeAuthority.value ≠ owner

def Calm (owner : Value) (event : Event) : Prop :=
  event.isTaint = false ∧ ∀ c, event = .commit c → ¬ Foreign owner c

/-- The life is tainted at most once, right after the first commit whose authority differs from
the configured owner, and always there; a life without an epoch never is. -/
def TaintedOnce (s : State) : Prop :=
  match s.authorityEpoch with
  | none => ∀ event ∈ s.events, event.isTaint = false
  | some epoch =>
    (∀ event ∈ s.events, Calm (State.configuredOwner epoch) event)
      ∨ ∃ before c t after, s.events = before ++ .commit c :: .taint t :: after
        ∧ (∀ event ∈ before, Calm (State.configuredOwner epoch) event)
        ∧ Foreign (State.configuredOwner epoch) c
        ∧ t.commitRef = c.recordId ∧ t.routeEvidenceId = c.routeEvidenceId
        ∧ ∀ event ∈ after, event.isTaint = false

variable {s : State}

theorem untainted_iff : s.tainted = false ↔ ∀ event ∈ s.events, event.isTaint = false := by
  rw [State.tainted, any_eq_false]
  refine forall₂_congr fun event _ => ?_
  rw [Bool.not_eq_true]

theorem TaintedOnce.extend {more : List Event} (once : TaintedOnce s)
    (quiet : ∀ event ∈ more, event.isTaint = false)
    (native : ∀ c, .commit c ∈ more → s.tainted = false → ∀ epoch, s.authorityEpoch = some epoch →
      ¬ Foreign (State.configuredOwner epoch) c) : TaintedOnce (s.extend more) := by
  unfold TaintedOnce at once ⊢
  show match s.authorityEpoch with
    | none => ∀ event ∈ s.events ++ more, event.isTaint = false
    | some epoch => _
  cases given : s.authorityEpoch with
  | none =>
    rw [given] at once
    exact forall_mem_append.mpr ⟨once, quiet⟩
  | some epoch =>
    rw [given] at once
    rcases once with calm | ⟨before, c, t, after, split, calm, foreign, ref, route, kept⟩
    · refine .inl fun event member => ?_
      have untainted : s.tainted = false := untainted_iff.mpr fun e here => (calm e here).1
      rcases mem_append.mp member with earlier | later
      · exact calm event earlier
      · refine ⟨quiet event later, ?_⟩
        rintro c rfl
        exact native c later untainted epoch given
    · refine .inr ⟨before, c, t, after ++ more, ?_, calm, foreign, ref, route, ?_⟩
      · show s.events ++ more = _
        rw [split]
        simp
      · exact forall_mem_append.mpr ⟨kept, quiet⟩

theorem TaintedOnce.taint {epoch : Value} {t : Taint} (once : TaintedOnce s)
    (given : s.authorityEpoch = some epoch) (untainted : s.tainted = false)
    (foreign : Foreign (State.configuredOwner epoch) c) (ref : t.commitRef = c.recordId)
    (route : t.routeEvidenceId = c.routeEvidenceId) :
    TaintedOnce (s.extend [.commit c, .taint t]) := by
  unfold TaintedOnce at once ⊢
  show match s.authorityEpoch with
    | none => _
    | some epoch => _
  rw [given] at once ⊢
  rcases once with calm | ⟨before, c', t', after, split, -⟩
  · exact .inr ⟨s.events, c, t, [], rfl, calm, foreign, ref, route, forall_mem_nil _⟩
  · have impossible := untainted_iff.mp untainted (.taint t') (by rw [split]; simp)
    cases impossible

/-! ## The invariant -/

def PreparedBy (born : State) (calls : List Call) (r : Selection) : Prop :=
  ∃ before decision context after body, calls = before ++ .prepare decision context :: after
    ∧ ((Call.prepare decision context).strict (strictRun born before)).1 = .ok (.selection r)
    ∧ Promoted decision context body

def Qualified (s : State) : Prop :=
  ∃ epoch, s.authorityEpoch = some epoch ∧ State.configuredOwner epoch = .text "tree"
    ∧ qualifiedTreePolicy (some epoch) = true ∧ anyConsumerAblation (some epoch) = false

structure Merits (born : State) (calls : List Call) (s : State) (r : Selection) : Prop where
  tree : r.route.routeAuthority = .tree
  epoch : Qualified s
  plan : ∃ id, nonEmpty r.route.selectedActionPlanId = some id
  prepared : PreparedBy born calls r

def CleanlyCommitted (s : State) (c : Commit) : Prop :=
  ∃ before after, s.events = before ++ .commit c :: after ∧ ∀ event ∈ before, event.isTaint = false

structure Kept (born : State) (calls : List Call) (s : State) : Prop where
  once : ∀ routeId, phases s.events routeId <+: course
  taint : TaintedOnce s
  selected : ∀ r, .selection r ∈ s.events → ∀ e, r.eligibility = some e →
    e.physicsEpochId = s.epochField "physics_epoch_id"
      ∧ e.evidenceEpochId = s.epochField "evidence_epoch_id"
      ∧ (e.reasons = [] → Merits born calls s r)
  committed : ∀ c, .commit c ∈ s.events → ∃ r, selectionForCommit s c = some r
    ∧ c.routeEvidenceId = r.routeEvidenceId
    ∧ ∀ e, r.eligibility = some e → e.reasons = [] → CleanlyCommitted s c
  decided : ∀ d, .decision d ∈ s.events → ∃ c r e, .commit c ∈ s.events
    ∧ selectionForCommit s c = some r ∧ r.eligibility = some e
    ∧ d.routeEvidenceId = c.routeEvidenceId ∧ d.credited = e.eligible

theorem mem_of_selectionForCommit (found : selectionForCommit s c = some r) :
    .selection r ∈ s.events :=
  mem_selections.mp (mem_of_find?_eq_some found)

theorem selectionForCommit_extend (more : List Event)
    (found : selectionForCommit s c = some r) : selectionForCommit (s.extend more) c = some r := by
  unfold selectionForCommit at found ⊢
  rw [State.extend, filterMap_append, List.find?_append, found, Option.some_or]

theorem CleanlyCommitted.extend (clean : CleanlyCommitted s c) (more : List Event) :
    CleanlyCommitted (s.extend more) c := by
  obtain ⟨before, after, split, quiet⟩ := clean
  refine ⟨before, after ++ more, ?_, quiet⟩
  rw [State.extend, split]
  simp

section
variable {born : State} {calls : List Call}

theorem Merits.extend {call : Call} (merits : Merits born calls s r) (more : List Event) :
    Merits born (calls ++ [call]) (s.extend more) r := by
  obtain ⟨before, decision, context, after, body, rfl, made, promoted⟩ := merits.prepared
  refine ⟨merits.tree, merits.epoch, merits.plan, before, decision, context, after ++ [call], body,
    ?_, made, promoted⟩
  simp

theorem Kept.later (kept : Kept born calls s) (call : Call) (more : List Event)
    (once : ∀ routeId, phases (s.events ++ more) routeId <+: course)
    (taint : TaintedOnce (s.extend more))
    (selected : ∀ r, .selection r ∈ more → ∀ e, r.eligibility = some e →
      e.physicsEpochId = s.epochField "physics_epoch_id"
        ∧ e.evidenceEpochId = s.epochField "evidence_epoch_id"
        ∧ (e.reasons = [] → Merits born (calls ++ [call]) (s.extend more) r))
    (committed : ∀ c, .commit c ∈ more → ∃ r, selectionForCommit s c = some r
      ∧ c.routeEvidenceId = r.routeEvidenceId
      ∧ ∀ e, r.eligibility = some e → e.reasons = [] → CleanlyCommitted (s.extend more) c)
    (decided : ∀ d, .decision d ∈ more → ∃ c r e, .commit c ∈ s.events
      ∧ selectionForCommit s c = some r ∧ r.eligibility = some e
      ∧ d.routeEvidenceId = c.routeEvidenceId ∧ d.credited = e.eligible) :
    Kept born (calls ++ [call]) (s.extend more) where
  once := once
  taint := taint
  selected := by
    intro r member e given
    rcases mem_append.mp member with earlier | later
    · obtain ⟨physics, evidence, merits⟩ := kept.selected r earlier e given
      exact ⟨physics, evidence, fun clear => (merits clear).extend more⟩
    · exact selected r later e given
  committed := by
    intro c member
    rcases mem_append.mp member with earlier | later
    · obtain ⟨r, found, route, clean⟩ := kept.committed c earlier
      exact ⟨r, selectionForCommit_extend more found, route,
        fun e given clear => (clean e given clear).extend more⟩
    · obtain ⟨r, found, route, clean⟩ := committed c later
      exact ⟨r, selectionForCommit_extend more found, route, clean⟩
  decided := by
    intro d member
    rcases mem_append.mp member with earlier | later
    · obtain ⟨c, r, e, there, found, given, route, credited⟩ := kept.decided d earlier
      exact ⟨c, r, e, mem_append_left _ there, selectionForCommit_extend more found, given,
        route, credited⟩
    · obtain ⟨c, r, e, there, found, given, route, credited⟩ := decided d later
      exact ⟨c, r, e, mem_append_left _ there, selectionForCommit_extend more found, given,
        route, credited⟩

end

/-! ## Steps -/

variable {calls : List Call} {born : State}

theorem Kept.unselected (kept : Kept born calls s)
    (absent : Phase.selection ∉ phases s.events routeId) :
    phases s.events routeId = [] := by
  rcases course_cases (kept.once routeId) with empty | some | some | some | some
  · exact empty
  all_goals
    rw [some] at absent
    exact absurd (by decide) absent

theorem verifyEvents_selection {r : Selection} (later : List Event) :
    ∀ (earlier seen : List Event),
      verifyEvents s seen (earlier ++ .selection r :: later) = .ok () →
      selectionOf (seen ++ earlier) r.routeEvidenceId = none
  | [], seen, checked => by
    simp only [nil_append, verifyEvents, bind_eq_ok] at checked
    obtain ⟨-, -, -, -, checked⟩ := checked
    split at checked
    · cases checked
    · rename_i fresh
      simp only [replays] at fresh
      split at fresh
      · cases fresh
      · rename_i new
        obtain ⟨absent, -⟩ := not_or.mp new
        rw [append_nil]
        exact Option.not_isSome_iff_eq_none.mp absent
  | event :: earlier, seen, checked => by
    simp only [cons_append, verifyEvents, bind_eq_ok] at checked
    obtain ⟨-, -, -, -, checked⟩ := checked
    split at checked
    · cases checked
    · have rest := verifyEvents_selection later earlier (seen ++ [event]) checked
      rwa [append_assoc, singleton_append] at rest

theorem of_verify (checked : verify s = .ok ()) :
    verifyEpoch s.authorityEpoch = .ok () ∧ verifyEvents s [] s.events = .ok () := by
  simp only [verify, verifyLedger, bind_eq_ok, require_eq_ok] at checked
  obtain ⟨_, _, _, epoch, _, events, _⟩ := checked
  exact ⟨epoch, events⟩

theorem epochField_ne_nil {epoch : Value} (given : s.authorityEpoch = some epoch)
    (checked : verifyEpoch s.authorityEpoch = .ok ()) :
    s.epochField "physics_epoch_id" ≠ .nil ∧ s.epochField "evidence_epoch_id" ≠ .nil := by
  rw [given] at checked
  simp only [verifyEpoch, Epoch.verify, bind_eq_ok, require_eq_ok] at checked
  obtain ⟨-, ⟨-, -, -, -, physics, evidence⟩, -⟩ := checked
  simp only [State.epochField, given]
  constructor
  · intro absent
    rw [absent] at physics
    cases physics
  · intro absent
    rw [absent] at evidence
    cases evidence

theorem Eligibility.reasons_of_same {e f : Eligibility} (physics : e.physicsEpochId = f.physicsEpochId)
    (evidence : e.evidenceEpochId = f.evidenceEpochId) (named : f.physicsEpochId ≠ .nil)
    (named' : f.evidenceEpochId ≠ .nil) (same : sameValue e.toValue f.toValue = true) :
    e.reasons = f.reasons := by
  obtain ⟨text, one, two⟩ := (sameValue_iff _ _).mp same
  have alike : encode e.toValue = encode f.toValue := one.trans two.symm
  rw [toValue, toValue, physics, evidence] at alike
  rw [encode_record_iff
    (by simp [PresentAlike, fields, reasonTexts, texts, Value.array, named, named',
      protocolVersion, runtimeConfirmed])
    ⟨text, by rw [← physics, ← evidence]; exact one⟩] at alike
  simp only [fields, cons_append, nil_append, forall₂_cons, forall₂_nil_left_iff] at alike
  obtain ⟨-, -, -, -, -, -, reasons, -⟩ := alike
  exact reasonTexts_injective reasons

section
variable (kept : Kept born calls s)

variable {next : State}

section
variable (kept : Kept born calls s)
include kept

theorem Kept.untainted (checked : verify s = .ok ()) {taint : Option Taint}
    (committed : Committed s next c taint) (found : selectionForCommit s c = some r)
    {e : Eligibility} (given : r.eligibility = some e) (clear : e.reasons = []) :
    s.tainted = false := by
  obtain ⟨physics, evidence, merits⟩ := kept.selected r (mem_of_selectionForCommit found) e given
  have merits := merits clear
  obtain ⟨epoch, there, -⟩ := merits.epoch
  obtain ⟨named, named'⟩ := epochField_ne_nil there (of_verify checked).1
  obtain ⟨r', found', -, -, matched⟩ := committed.selected
  rw [found] at found'
  cases found'
  obtain ⟨body, expected, made, same⟩ := matched e given merits.tree
  obtain ⟨evaluated, physics', evidence'⟩ := makeEligibility_ok made
  have reasons := Eligibility.reasons_of_same (physics'.trans physics.symm)
    (evidence'.trans evidence.symm) (physics ▸ named) (evidence ▸ named') same
  rw [clear, evaluated] at reasons
  exact (unobjected reasons).untainted

theorem Kept.prepare {decision context : Value} (prepared : Prepared s next decision context r)
    (checked : verify next = .ok ())
    (made : ((Call.prepare decision context).strict (strictRun born calls)).1 = .ok (.selection r)) :
    Kept born (calls ++ [.prepare decision context]) next := by
  obtain ⟨before, after, rfl, quiet, quiet'⟩ := prepared.grown
  have silent : ∀ {events : List Event}, events.all Event.silent = true → ∀ event ∈ events,
      event.silent = true := fun all event member => all_eq_true.mp all event member
  have only : ∀ event ∈ before ++ .selection r :: after,
      event.silent = true ∨ event = .selection r := by
    intro event member
    rcases mem_append.mp member with earlier | later
    · exact .inl (silent quiet event earlier)
    · rcases mem_cons.mp later with here | later
      · exact .inr here
      · exact .inl (silent quiet' event later)
  have fresh : selectionOf s.events r.routeEvidenceId = none := by
    have scanned := (of_verify checked).2
    rw [State.extend, ← append_assoc] at scanned
    have absent := verifyEvents_selection after (s.events ++ before) [] scanned
    rw [nil_append] at absent
    have earlier := List.find?_eq_none.mp absent
    exact List.find?_eq_none.mpr fun other member => earlier other (by
      rw [filterMap_append]
      exact mem_append_left _ member)
  refine kept.later _ _ ?_ ?_ ?_ ?_ ?_
  · intro routeId
    rw [phases_append, phases_append, phases_silent quiet, nil_append]
    show phases s.events routeId ++ List.filterMap _ (.selection r :: after) <+: course
    rw [filterMap_cons]
    have rest : List.filterMap (Event.phase routeId) after = [] := phases_silent quiet' routeId
    rw [rest]
    by_cases here : r.routeEvidenceId = routeId
    · have empty := kept.unselected (here ▸ Credit.unselected fresh)
      rw [empty]
      simp only [Event.phase, if_pos here]
      exact ⟨[.commit, .terminal, .decision], rfl⟩
    · simp only [Event.phase, if_neg here, append_nil]
      exact kept.once routeId
  · refine kept.taint.extend ?_ ?_
    · intro event member
      rcases only event member with told | rfl
      · cases event <;> first | rfl | cases told
      · rfl
    · intro c member
      rcases only _ member with told | same
      · cases told
      · cases same
  · intro other member e given
    rcases only _ member with told | same
    · cases told
    · cases same
      obtain ⟨physics, evidence, earns⟩ := prepared.eligible e given
      refine ⟨physics, evidence, fun clear => ?_⟩
      have earns := earns clear
      obtain ⟨body, promoted⟩ := earns.promoted
      exact ⟨earns.tree, earns.epoch, earns.plan, calls, decision, context, [], body, rfl, made,
        promoted⟩
  · intro c member
    rcases only _ member with told | same
    · cases told
    · cases same
  · intro d member
    rcases only _ member with told | same
    · cases told
    · cases same

omit kept in
theorem mem_cons_toList {α : Type} {o : Option α} {make : α → Event} {first event : Event}
    (member : event ∈ first :: (o.map make).toList) :
    event = first ∨ ∃ a, o = some a ∧ event = make a := by
  refine (mem_cons.mp member).imp_right fun later => ?_
  cases o with
  | none => cases later
  | some a => exact ⟨a, rfl, mem_singleton.mp later⟩

theorem Kept.commit (checked : verify s = .ok ()) {taint : Option Taint}
    (committed : Committed s next c taint) {call : Call} : Kept born (calls ++ [call]) next := by
  have grown := committed.grown
  subst grown
  obtain ⟨r, found, route, authority, -⟩ := committed.selected
  have only : ∀ event ∈ Event.commit c :: (taint.map Event.taint).toList,
      event = .commit c ∨ ∃ t, taint = some t ∧ event = .taint t :=
    fun _ => mem_cons_toList
  refine kept.later _ _ ?_ ?_ ?_ ?_ ?_
  · intro routeId
    have quiet : List.filterMap (Event.phase routeId) (taint.map Event.taint).toList = [] := by
      cases taint <;> rfl
    rw [phases_append]
    show phases s.events routeId ++ List.filterMap _ (Event.commit c :: _) <+: course
    rw [filterMap_cons, quiet]
    by_cases here : c.routeEvidenceId = routeId
    · have selected : Phase.selection ∈ phases s.events routeId :=
        mem_phases (mem_of_selectionForCommit found) (if_pos (route.symm.trans here))
      have waiting := uncommitted (here ▸ committed.fresh)
      simp only [Event.phase, if_pos here]
      rcases course_cases (kept.once routeId) with done | done | done | done | done <;>
        rw [done] at selected waiting ⊢
      · cases selected
      · exact ⟨[.terminal, .decision], rfl⟩
      all_goals exact absurd (by decide) waiting
    · simp only [Event.phase, if_neg here, append_nil]
      exact kept.once routeId
  · have taints := committed.taints
    cases given : taint with
    | none =>
      rw [given] at taints
      refine kept.taint.extend ?_ ?_
      · intro event member
        rw [mem_singleton.mp member]
        rfl
      · intro c' member untainted epoch there foreign
        cases mem_singleton.mp member
        exact absurd (taints.mpr ⟨epoch, there, untainted, foreign⟩) Bool.false_ne_true
    | some t =>
      rw [given] at taints
      obtain ⟨epoch, there, untainted, foreign⟩ := taints.mp rfl
      obtain ⟨ref, told⟩ := committed.tells t given
      exact kept.taint.taint there untainted foreign ref told
  · intro other member
    rcases only _ member with same | ⟨t, -, same⟩ <;> cases same
  · intro other member
    rcases only _ member with same | ⟨t, -, same⟩
    · cases same
      refine ⟨r, found, route, fun e given clear => ?_⟩
      have untainted := kept.untainted checked committed found given clear
      exact ⟨s.events, _, rfl, untainted_iff.mp untainted⟩
    · cases same
  · intro d member
    rcases only _ member with same | ⟨t, -, same⟩ <;> cases same

theorem Kept.waiting {c : Commit} (waiting : Open s c) :
    phases s.events c.routeEvidenceId = [.selection, .commit] := by
  have committed : Phase.commit ∈ phases s.events c.routeEvidenceId :=
    mem_phases waiting.1 (if_pos rfl)
  have running := unended waiting.2
  rcases course_cases (kept.once c.routeEvidenceId) with done | done | done | done | done <;>
    rw [done] at committed running ⊢
  · cases committed
  · exact absurd committed (by decide)
  all_goals exact absurd (by decide) running

theorem Kept.ending (waiting : Open s c) (event : Event) (decision : Option Decision) (call : Call)
    (ends : ∀ routeId, event.phase routeId
      = if c.routeEvidenceId = routeId then some .terminal else none)
    (neither : event.isTaint = false ∧ (∀ r, event ≠ .selection r) ∧ (∀ c', event ≠ .commit c')
      ∧ ∀ d, event ≠ .decision d)
    (decided : ∀ d, decision = some d → d.routeEvidenceId = c.routeEvidenceId
      ∧ ∃ r e, selectionForCommit s c = some r ∧ r.eligibility = some e
        ∧ d.credited = e.eligible) :
    Kept born (calls ++ [call]) (s.extend (event :: (decision.map Event.decision).toList)) := by
  obtain ⟨quiet, unselected, uncommitted, undecided⟩ := neither
  have only : ∀ other ∈ event :: (decision.map Event.decision).toList,
      other = event ∨ ∃ d, decision = some d ∧ other = .decision d := fun _ => mem_cons_toList
  refine kept.later _ _ ?_ ?_ ?_ ?_ ?_
  · intro routeId
    rw [phases_append]
    show phases s.events routeId ++ List.filterMap _ (event :: _) <+: course
    rw [filterMap_cons, ends routeId]
    by_cases here : c.routeEvidenceId = routeId
    · rw [if_pos here, ← here, kept.waiting waiting]
      cases decision with
      | none => exact ⟨[.decision], rfl⟩
      | some d =>
        have told := (decided d rfl).1
        refine ⟨[], ?_⟩
        simp [Event.phase, told, course]
    · rw [if_neg here]
      have rest : List.filterMap (Event.phase routeId) (decision.map Event.decision).toList = [] := by
        cases decision with
        | none => rfl
        | some d =>
          have told := (decided d rfl).1
          simp [Event.phase, told, here]
      dsimp only
      rw [rest, append_nil]
      exact kept.once routeId
  · refine kept.taint.extend ?_ ?_
    · intro other member
      rcases only other member with rfl | ⟨d, -, rfl⟩
      · exact quiet
      · rfl
    · intro c' member
      rcases only _ member with same | ⟨d, -, same⟩
      · exact absurd same.symm (uncommitted c')
      · cases same
  · intro r member
    rcases only _ member with same | ⟨d, -, same⟩
    · exact absurd same.symm (unselected r)
    · cases same
  · intro c' member
    rcases only _ member with same | ⟨d, -, same⟩
    · exact absurd same.symm (uncommitted c')
    · cases same
  · intro d member
    rcases only _ member with same | ⟨d', given, same⟩
    · exact absurd same.symm (undecided d)
    · cases same
      obtain ⟨route, r, e, found, eligible, credited⟩ := decided d given
      exact ⟨c, r, e, waiting.1, found, eligible, route, credited⟩

end

end

/-! ## Runs -/

theorem strict_cases (call : Call) (s : State) :
    (call.strict s).2 = s ∨ ∃ next answer, call.on s = .ok (next, answer) ∧ verify s = .ok ()
      ∧ verify next = .ok () ∧ call.strict s = (.ok answer, next) := by
  unfold Call.strict
  cases before : verify s with
  | error _ => exact .inl rfl
  | ok _ =>
    cases step : call.on s with
    | error _ => exact .inl rfl
    | ok result =>
      obtain ⟨next, answer⟩ := result
      dsimp only
      cases after : verify next with
      | error _ => exact .inl rfl
      | ok _ => exact .inr ⟨next, answer, rfl, rfl, after, rfl⟩

theorem Kept.idle (kept : Kept born calls s) (call : Call) :
    Kept born (calls ++ [call]) s := by
  have empty : s.extend [] = s := by
    rw [State.extend, append_nil]
  have once : ∀ routeId, phases (s.events ++ []) routeId <+: course := by
    rw [append_nil]
    exact kept.once
  have later := kept.later call [] once (empty.symm ▸ kept.taint)
    (fun _ member => absurd member not_mem_nil)
    (fun _ member => absurd member not_mem_nil)
    (fun _ member => absurd member not_mem_nil)
  rwa [empty] at later

theorem Kept.step (kept : Kept born calls s)
    (run : strictRun born calls = s) (call : Call) :
    Kept born (calls ++ [call]) (call.strict s).2 := by
  rcases strict_cases call s with same | ⟨next, answer, step, before, after, result⟩
  · rw [same]
    exact kept.idle call
  rw [result]
  cases call
  all_goals simp only [Call.on, bind_eq_ok, pure_eq_ok, Prod.exists, Prod.mk.injEq] at step
  case prepare decision context =>
    obtain ⟨_, r, made, rfl, rfl⟩ := step
    refine kept.prepare (prepareOn_ok made) after ?_
    rw [run, result]
  case commit supplied routeEvent =>
    obtain ⟨_, c, taint, made, rfl, rfl⟩ := step
    exact kept.commit before (recordCommitOn_ok made)
  case arrival supplied input =>
    obtain ⟨_, a, decision, made, rfl, rfl⟩ := step
    have arrived := recordArrivalOn_ok made
    obtain ⟨c, waiting, route, decided⟩ := arrived.ends
    rw [arrived.grown]
    refine kept.ending waiting (.arrival a) decision _ ?_ ⟨rfl, ?_, ?_, ?_⟩ decided
    · intro routeId
      rw [Event.phase, route]
    all_goals exact fun _ same => by cases same
  case failure supplied input =>
    obtain ⟨_, f, made, rfl, rfl⟩ := step
    obtain ⟨rfl, c, waiting, route⟩ := recordFailureOn_ok made
    refine kept.ending waiting (.failure f) none _ ?_ ⟨rfl, ?_, ?_, ?_⟩ ?_
    · intro routeId
      rw [Event.phase, route]
    all_goals exact fun _ same => by cases same
  case pending supplied input =>
    obtain ⟨_, p, made, rfl, rfl⟩ := step
    obtain ⟨rfl, c, waiting, route⟩ := recordPendingOn_ok made
    refine kept.ending waiting (.pending p) none _ ?_ ⟨rfl, ?_, ?_, ?_⟩ ?_
    · intro routeId
      rw [Event.phase, route]
    all_goals exact fun _ same => by cases same

theorem kept_born (empty : born.events = []) : Kept born [] born where
  once := by
    intro routeId
    rw [empty]
    exact nil_prefix
  taint := by
    unfold TaintedOnce
    rw [empty]
    split
    · exact forall_mem_nil _
    · exact .inl (forall_mem_nil _)
  selected := by
    rw [empty]
    exact fun _ member => absurd member not_mem_nil
  committed := by
    rw [empty]
    exact fun _ member => absurd member not_mem_nil
  decided := by
    rw [empty]
    exact fun _ member => absurd member not_mem_nil

theorem kept_run (empty : born.events = []) (calls : List Call) :
    Kept born calls (strictRun born calls) := by
  induction calls using List.reverseRecOn with
  | nil => exact kept_born empty
  | append_singleton calls call ih =>
    have step := ih.step rfl call
    rw [strictRun, List.foldl_append]
    exact step

/-- The route of a credited decision: the tree selected it under a qualified epoch, with an action
plan and four equal records that allow promotion, and it was committed before any taint. -/
structure CreditedRoute (born : State) (calls : List Call) (s : State) (routeId : Bytes) : Prop where
  selection : ∃ r, .selection r ∈ s.events ∧ r.routeEvidenceId = routeId ∧ Merits born calls s r
  commit : ∃ c, c.routeEvidenceId = routeId ∧ CleanlyCommitted s c

structure Earned (born : State) (calls : List Call) (s : State) : Prop where
  once : ∀ routeId, phases s.events routeId <+: course
  credited : ∀ d, .decision d ∈ s.events → d.credited = true →
    CreditedRoute born calls s d.routeEvidenceId
  tainted : TaintedOnce s

theorem new_events {epochRecord identity : Value}
    (made : new epochRecord identity = .ok born) : born.events = [] := by
  simp only [new, bind_eq_ok] at made
  obtain ⟨_, -, made⟩ := made
  split at made
  · cases made
  · simp only [bind_eq_ok, pure_eq_ok] at made
    obtain ⟨_, -, rfl⟩ := made
    rfl

/-- Whatever the strict operations are called with, credit is earned. -/
theorem credit_earned (epochRecord identity : Value) (born : State)
    (made : new epochRecord identity = .ok born) (calls : List Call) :
    Earned born calls (strictRun born calls) := by
  have kept := kept_run (new_events made) calls
  refine ⟨kept.once, ?_, kept.taint⟩
  intro d member credited
  obtain ⟨c, r, e, there, found, given, route, eligible⟩ := kept.decided d member
  obtain ⟨r', found', told, clean⟩ := kept.committed c there
  rw [found] at found'
  cases found'
  have clear : e.reasons = [] := by
    rw [credited] at eligible
    exact isEmpty_iff.mp eligible.symm
  have selected := mem_of_selectionForCommit found
  obtain ⟨-, -, merits⟩ := kept.selected r selected e given
  exact ⟨⟨r, selected, told.symm.trans route.symm, merits clear⟩, c, route.symm,
    clean e given clear⟩

/-! ## A credited route and a taint -/

def sampleSettings : Epoch.Settings :=
  ⟨.tree ⟨⟨.qualifiedNeed, fun _ => false, []⟩, .int 0, false⟩ false, Epoch.Bound.default⟩

def hash (digits : String) : Bytes := utf8 "sha256:" ++ utf8 digits

def sampleEpoch : Value :=
  sampleSettings.record
    (.str (hash "121ba1d3320d7f8e41ea6d18f091bf04ab394d5801e41feca5b5cdf4de88b0b5"))
    (.str (hash "4f490b981531b8c8a1e1757df9851b435f9aef30c2b080e55402cec28a265b90"))
    (.str (hash "7af91634d1d298e95c767220370a89f97c0673b46158af7d3d437e9c2ffb19e1"))

def sampleIdentity : Value :=
  .record [("life_id", .text "life"), ("packet_id", .text "packet"), ("lineage_id", .text "lineage"),
    ("generation", .nat 1)]

def sampleBorn : State :=
  ⟨some sampleEpoch, ⟨utf8 "life", utf8 "packet", utf8 "lineage", .int 1⟩, []⟩

def sampleBody : List (String × Value) :=
  [("promotion_eligible", .bool true), ("promotion_ineligibility_reasons", texts []),
    ("promotion_eligibility_basis", .record [("witness_ids", texts [utf8 "witness"]),
      ("unqualified_snapshot", .bool false), ("fixture_witness_ids", texts [])])]

def sampleJudged : List (String × Value) :=
  sampleBody ++ [("selected_candidate", .record sampleBody),
    ("pressure_snapshot_ref", .text "snapshot"), ("selected_action_plan_id", .text "plan")]

def treeRoute : Call :=
  .prepare
    (.record (sampleJudged ++ [("authority", .text "tree"), ("truth_status", runtimeConfirmed),
      ("derivation_ref", .text "derivation"), ("from", Topology.value .flow),
      ("to", Topology.value .connect)]))
    (.record [("route_ordinal", .nat 1), ("derivation_event",
      .record [("id", .text "derivation"), ("type", .text "route_derivation"),
        ("truth_status", runtimeConfirmed),
        ("payload", .record (sampleJudged ++ [("current_operator", Topology.value .flow),
          ("selected_to", Topology.value .connect), ("outcome", .text "selected")]))])])

def harnessRoute : Call :=
  .prepare
    (.record [("authority", .text "harness_override"), ("truth_status", runtimeConfirmed),
      ("from", Topology.value .connect), ("to", Topology.value .encode)])
    (.record [("route_ordinal", .nat 2)])

def routeEvent (id authority : String) (fromOp toOp : Operator) (judged : List (String × Value)) :
    Value :=
  .record [("id", .text id), ("type", .text "route"), ("truth_status", runtimeConfirmed),
    ("operator", Topology.value toOp),
    ("payload", .record ([("from", Topology.value fromOp), ("to", Topology.value toOp),
      ("authority", .text authority)] ++ judged))]

def treeEligibility : Eligibility :=
  ⟨hash "9972722e48867b36d873ed24c8a40743c7107f6cb3b1e703b92d6826cf33777a",
    hash "c26c758db9df79523ff96c51164c59d2d7da80bce8f0c511b02e1b125e179046",
    sampleBorn.epochField "physics_epoch_id", sampleBorn.epochField "evidence_epoch_id", [],
    [utf8 "witness"]⟩

def treeSelection : Selection :=
  { recordId := hash "94192a0fb938a9ffbb9199ab339f916ecba43a2da328aeb403c5f0b8d310b9a0"
    routeEvidenceId := treeEligibility.routeEvidenceId
    sequence := 1
    physicsEpochId := treeEligibility.physicsEpochId
    route := ⟨treeEligibility.evidenceEpochId, sampleBorn.identity, .int 1, .flow, .connect, .tree,
      utf8 "derivation", .text "derivation", .text "snapshot", .text "plan"⟩
    edgeId := "E01"
    classificationErrorCodes := []
    eligibility := some treeEligibility }

def treeCommit : Commit :=
  ⟨hash "7fd6a90369d96fc561b1e4bda6be4e932dd919e6e19d4d1d38eb6fc95f411b37",
    treeSelection.routeEvidenceId, treeSelection.recordId, utf8 "entry", .flow, .connect, .tree⟩

def harnessRequest : Request :=
  ⟨hash "a6d7a724a63f1843db715704a0b6130898c23672650cdcc549fbc684646da3ef", 4, utf8 "life",
    utf8 "packet", .int 2, .connect, .encode, .harnessOverride, utf8 "unspecified_route_request"⟩

def harnessEligibility : Eligibility :=
  { treeEligibility with
    eligibilityRef := hash "a977914fcfb03c699c8d8cdb48bd4e2a52af9aa1aaeb951d0b2fc8f7c8e1f3a4"
    routeEvidenceId := hash "90c44f57912daa19ebd691a27c58455dce6de252033d421168c816cf82bfaf8f"
    reasons := [.harnessOverride, .nonTreeAuthority]
    basisRefs := [harnessRequest.recordId] }

def harnessSelection : Selection :=
  { recordId := hash "1684b8bfb81b87516d88d625d48e8f28a79219441b5a7c493e0b63d84c9fa425"
    routeEvidenceId := harnessEligibility.routeEvidenceId
    sequence := 5
    physicsEpochId := treeEligibility.physicsEpochId
    route := ⟨treeEligibility.evidenceEpochId, sampleBorn.identity, .int 2, .connect, .encode,
      .harnessOverride, harnessRequest.recordId, .nil, .nil, .nil⟩
    edgeId := "E06"
    classificationErrorCodes := []
    eligibility := some harnessEligibility }

def harnessCommit : Commit :=
  ⟨hash "7961ee8f4cd330be9b8ea7d2e91b7413493f4553051092a436ec4fdb12d6af65",
    harnessSelection.routeEvidenceId, harnessSelection.recordId, utf8 "stray", .connect, .encode,
    .harnessOverride⟩

def sampleTaint : Taint :=
  ⟨hash "9c48709b18d0d2c0263c6fb2805c58a32284652db903a6a65c75f224efa8716b",
    harnessSelection.routeEvidenceId, harnessCommit.recordId, 8, .text "tree", .harnessOverride⟩

def treeArrival : Arrival :=
  ⟨hash "2e1292f3b721ed281f378a1f640ad58a1c0114788266058657f3d385ce004abe",
    treeSelection.routeEvidenceId, treeCommit.recordId, utf8 "tick", [], utf8 "process"⟩

def treeDecision : Decision :=
  { creditDecisionRef := hash "fad8c0591399fb8f84157e94caa84cc44bb2fa9852d0baf8ef16df021148cf1d"
    routeEvidenceId := treeSelection.routeEvidenceId
    selectionEligibilityRef := treeEligibility.eligibilityRef
    commitRef := treeCommit.recordId
    arrivalRef := treeArrival.recordId
    credited := true
    reasons := []
    basisRefs := [treeArrival.recordId, treeCommit.recordId, treeEligibility.eligibilityRef] }

def sampleEvents : List Event :=
  [.selection treeSelection, .eligibility treeEligibility, .commit treeCommit,
    .request harnessRequest, .selection harnessSelection, .eligibility harnessEligibility,
    .commit harnessCommit, .taint sampleTaint, .arrival treeArrival, .decision treeDecision]

def reached (n : Nat) : State := { sampleBorn with events := sampleEvents.take n }

def treeEntry : Call :=
  .commit treeSelection.toValue (routeEvent "entry" "tree" .flow .connect
    (sampleJudged ++ [("derivation_ref", .text "derivation")]))

def harnessEntry : Call :=
  .commit harnessSelection.toValue (routeEvent "stray" "harness_override" .connect .encode [])

def treeTick : Call :=
  .arrival treeCommit.toValue (.record [("destination_tick_ref", .text "tick"),
    ("payload_kind", .text "process"), ("effect_refs", texts [])])

def sampleCalls : List Call := [treeRoute, treeEntry, harnessRoute, harnessEntry, treeTick]

theorem ok_of_toBool {ε : Type} {result : Except ε Unit} (accepted : result.toBool = true) :
    result = .ok () := by
  cases result with
  | error err => cases accepted
  | ok _ => rfl

theorem sampleEpoch_verified : verifyEpoch (some sampleEpoch) = .ok () :=
  ok_of_toBool (by decide +kernel)

theorem reached_verified {n : Nat} (between : n ∈ [0, 2, 3, 6, 8, 10]) :
    verify (reached n) = .ok () := by
  have accepted : ∀ n ∈ [0, 2, 3, 6, 8, 10], (verifyLedger (reached n)).toBool = true := by
    decide +kernel
  have named : sampleBorn.identity.valid = true := by decide +kernel
  have epoch : verifyEpoch (reached n).authorityEpoch = .ok () := sampleEpoch_verified
  unfold verify
  rw [epoch, ok_of_toBool (accepted n between), show (reached n).identity = sampleBorn.identity
    from rfl, named]
  rfl

def Call.moves (call : Call) (s next : State) : Bool :=
  match call.on s with
  | .ok (made, _) => decide (made = next)
  | .error _ => false

theorem strict_of_moves {call : Call} {s next : State} (moved : call.moves s next = true)
    (before : verify s = .ok ()) (after : verify next = .ok ()) : (call.strict s).2 = next := by
  unfold Call.moves at moved
  unfold Call.strict
  rw [before]
  cases step : call.on s with
  | error err => rw [step] at moved; cases moved
  | ok result =>
    rw [step] at moved
    cases of_decide_eq_true moved
    dsimp only
    rw [after]

theorem sampleCalls_move :
    treeRoute.moves (reached 0) (reached 2) = true ∧ treeEntry.moves (reached 2) (reached 3) = true
      ∧ harnessRoute.moves (reached 3) (reached 6) = true
      ∧ harnessEntry.moves (reached 6) (reached 8) = true
      ∧ treeTick.moves (reached 8) (reached 10) = true := by
  decide +kernel

theorem new_of_verified {epochRecord identity : Value} {named : Identity}
    (present : epochRecord ≠ .nil) (copied : epochRecord.deepCopy = epochRecord)
    (epoch : verifyEpoch (some epochRecord) = .ok ())
    (read : readIdentity identity = some named)
    (checked : verify ⟨some epochRecord, named, []⟩ = .ok ()) :
    new epochRecord identity = .ok ⟨some epochRecord, named, []⟩ := by
  simp only [new, if_neg present, epoch, read, Option.map_some, copied, checked, bind, Except.bind,
    pure, Except.pure]

theorem sampleBorn_new : new sampleEpoch sampleIdentity = .ok sampleBorn := by
  have copied : sampleEpoch.deepCopy = sampleEpoch := by decide +kernel
  have named : readIdentity sampleIdentity = some sampleBorn.identity := by decide +kernel
  exact new_of_verified Value.noConfusion copied sampleEpoch_verified named
    (reached_verified (n := 0) (by decide))

theorem strictRun_cons (s : State) (call : Call) (calls : List Call) :
    strictRun s (call :: calls) = strictRun (call.strict s).2 calls := rfl

theorem sampleCalls_run : strictRun sampleBorn sampleCalls = reached 10 := by
  have step {call : Call} {m n : Nat} (moved : call.moves (reached m) (reached n) = true)
      (before : m ∈ [0, 2, 3, 6, 8, 10]) (after : n ∈ [0, 2, 3, 6, 8, 10]) :
      (call.strict (reached m)).2 = reached n :=
    strict_of_moves moved (reached_verified before) (reached_verified after)
  obtain ⟨selected, entered, overridden, tainted, arrived⟩ := sampleCalls_move
  rw [show sampleBorn = reached 0 from rfl, sampleCalls, strictRun_cons,
    step selected (by decide) (by decide), strictRun_cons, step entered (by decide) (by decide),
    strictRun_cons, step overridden (by decide) (by decide), strictRun_cons,
    step tainted (by decide) (by decide), strictRun_cons, step arrived (by decide) (by decide)]
  rfl

theorem credit_earned_open :
    (strictRun sampleBorn sampleCalls).events = sampleEvents
      ∧ Earned sampleBorn sampleCalls (strictRun sampleBorn sampleCalls) :=
  ⟨congrArg State.events sampleCalls_run,
    credit_earned sampleEpoch sampleIdentity sampleBorn sampleBorn_new sampleCalls⟩

end Proc17.Runtime.Credit
