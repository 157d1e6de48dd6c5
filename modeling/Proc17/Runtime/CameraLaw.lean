import Mathlib.Data.List.Perm.Basic
import Mathlib.Tactic.Linarith
import Proc17.Runtime.Camera
import Proc17.Lua.Exact

/-!
# The watermark of the camera

The frames of the trace are numbered without a gap, and the reconciliations list the frames up
to the watermark, each once: whatever else happens to the Packet, and whichever watermarks are
asked for.
-/

namespace Proc17.Runtime.Camera

open Lua Core Runtime.Field List Value Number Packet

/-! ## What other deeds do to the trace -/

def Filmic (type : EventType) : Prop := type = .runtimeFrame ∨ type = .runtimeReconciliation

instance : DecidablePred Filmic := fun type =>
  inferInstanceAs (Decidable (type = .runtimeFrame ∨ type = .runtimeReconciliation))

/-- The trace grew by events that are not the camera's, and its ids stay distinct. -/
structure Grown (p q : Packet) : Prop where
  trace : ∃ events, q.trace = p.trace ++ events ∧ ∀ event ∈ events, ¬ Filmic event.type
  distinct : Packet.DistinctIds p.trace → Packet.DistinctIds q.trace

variable {p : Packet} {events : List Event} {e : Event} {n : Nat} {through : Number}

namespace Grown

theorem of_same {q : Packet} (trace : q.trace = p.trace) : Grown p q :=
  ⟨⟨[], by rw [trace, append_nil], forall_mem_nil _⟩, fun distinct => trace ▸ distinct⟩

theorem trans {q r : Packet} (first : Grown p q) (second : Grown q r) : Grown p r := by
  obtain ⟨⟨events, appended, plain⟩, distinct⟩ := first
  obtain ⟨⟨later, more, plain'⟩, distinct'⟩ := second
  refine ⟨⟨events ++ later, ?_, ?_⟩, fun given => distinct' (distinct given)⟩
  · rw [more, appended, append_assoc]
  · exact forall_mem_append.mpr ⟨plain, plain'⟩

end Grown

theorem push_distinct {event : Event} (distinct : Packet.DistinctIds p.trace)
    (unused : Unused p event) : Packet.DistinctIds (p.push event).trace := by
  refine pairwise_append.mpr ⟨distinct, pairwise_singleton _ event, ?_⟩
  intro earlier member other isEvent
  rw [mem_singleton.mp isEvent]
  exact unused earlier member

theorem Grown.push {event : Event} (plain : ¬ Filmic event.type) (unused : Unused p event) :
    Grown p (p.push event) := by
  refine ⟨⟨[event], rfl, ?_⟩, fun distinct => push_distinct distinct unused⟩
  intro other member
  rw [mem_singleton.mp member]
  exact plain

theorem Grown.tracked : TrackedField (fun type => ¬ Filmic type) Grown where
  refl _ := of_same rfl
  trans := trans
  beside _ _ trace := of_same trace
  push := push
  aside _ trace := of_same trace

theorem ordinary_grown : TrackedField.Ordinary fun type => ¬ Filmic type := by
  refine ⟨⟨by decide, ?_⟩, by decide, by decide⟩
  intro type dedicated filmic
  rcases filmic with rfl | rfl <;> cases dedicated

/-- A deed that hands no event of the camera to `append_trace`. -/
def Indirect (d : Deed) : Prop := TrackedField.Hands (fun type => ¬ Filmic type) d

theorem deed_grown (S : Schemas) (l : Living) (d : Deed) (indirect : Indirect d) :
    Grown l.packet ((lifeMachine S).after l d).packet :=
  Grown.tracked.deed ordinary_grown S l d indirect
    fun now actor input _ => Grown.tracked.snapshot Grown.of_same (by decide) l.packet now actor input

/-! ## What the camera appends -/

theorem record_cases (f : Filmed) (now : Int) (type : EventType) (operator : Operator)
    (fields : List (String × Value)) (advance : Event → Index) :
    (∃ failure, record f now type operator (.record fields) advance = (.error failure, f))
      ∨ ∃ event, (record f now type operator (.record fields) advance).2
          = ⟨{ f.living with packet := f.living.packet.push event }, advance event⟩
        ∧ event.type = type ∧ event.payload = (Value.record fields).deepCopy
        ∧ (∃ s, event.id = .str s) ∧ Unused f.living.packet event := by
  unfold record Packet.appendTrace
  cases planned : f.living.packet.tracePlan (cameraEvent type operator (.record fields)) with
  | error failure => exact .inl ⟨failure, rfl⟩
  | ok draft =>
    obtain ⟨acting, -⟩ := tracePlan_facts _ _ draft planned
    obtain ⟨-, -, -, -, rfl⟩ := actorPlan_eq_ok _ _ draft acting
    simp only [transact_ok, Packet.emit, Packet.emitThen]
    cases stored : f.living.packet.storedEvent now
        (.ofTable (cameraEvent type operator (.record fields))) with
    | error failure => exact .inl ⟨failure, rfl⟩
    | ok event =>
      have facts := (storedEvent_eq_ok _ now _ event).mp stored
      refine .inr ⟨event, rfl, ?_, ?_, ?_, facts.fresh⟩
      · have typed := facts.type
        have named : (cameraEvent type operator (.record fields)).get "type"
            = .text type.name := get_record (by simp) mem_cons_self
        rw [Draft.ofTable, named, EventType.parse_name] at typed
        exact (Option.some.inj typed).symm
      · have given : (cameraEvent type operator (.record fields)).get "payload"
            = .record fields := get_record (by simp) (by simp)
        rw [facts.payload, Draft.ofTable, given, record_orElse]
      · obtain ⟨lane, -, identified, -⟩ := facts.lane
        have unnamed : (cameraEvent type operator (.record fields)).get "id" = .nil :=
          get_record_absent (by simp)
        rw [Draft.ofTable, unnamed] at identified
        exact ⟨_, identified⟩

/-! ## The reel -/

def framesOf (trace : List Event) : List Event := trace.filter fun e => e.type = .runtimeFrame

def seqOf (e : Event) : Value := e.payload.get "seq"

def frameRefs (e : Event) : List Value :=
  if e.type = .runtimeReconciliation then
    match (e.payload.get "frame_refs").ipairs with
    | .ok refs => refs
    | .error _ => []
  else []

def listedRefs (trace : List Event) : List Value := trace.flatMap frameRefs

def reached (watermark : Number) (e : Event) : Bool :=
  match seqOf e with
  | .num n => Number.le n watermark
  | _ => false

def between (after through : Number) (e : Event) : Bool :=
  !reached after e && reached through e

structure Reel (trace : List Event) (index : Index) : Prop where
  distinct : Packet.DistinctIds trace
  named : ∀ e ∈ framesOf trace, ∃ s, e.id = .str s
  numbered : (framesOf trace).map seqOf = (List.range index.headSeq).map fun k => .nat (k + 1)
  finite : index.reconciledThrough.isFinite = true
  least : 0 ≤ index.reconciledThrough.value
  most : index.reconciledThrough.value ≤ index.headSeq
  listed : (listedRefs trace).Perm
    (((framesOf trace).filter (reached index.reconciledThrough)).map Event.id)

theorem framesOf_append (trace events : List Event) :
    framesOf (trace ++ events) = framesOf trace ++ framesOf events := filter_append ..

theorem listedRefs_append (trace events : List Event) :
    listedRefs (trace ++ events) = listedRefs trace ++ listedRefs events := flatMap_append ..

theorem framesOf_plain (plain : ∀ e ∈ events, ¬ Filmic e.type) :
    framesOf events = [] := by
  rw [framesOf, filter_eq_nil_iff]
  intro e member frame
  exact plain e member (.inl (of_decide_eq_true frame))

theorem listedRefs_plain (plain : ∀ e ∈ events, ¬ Filmic e.type) :
    listedRefs events = [] := by
  rw [listedRefs, flatMap_eq_nil_iff]
  intro e member
  exact if_neg fun reconciliation => plain e member (.inr reconciliation)

namespace Reel

variable {trace : List Event} {index : Index}

theorem seq_le (reel : Reel trace index) (member : e ∈ framesOf trace) :
    ∃ k, k < index.headSeq ∧ seqOf e = .nat (k + 1) := by
  have listed : seqOf e ∈ (framesOf trace).map seqOf := mem_map_of_mem member
  rw [reel.numbered] at listed
  obtain ⟨k, below, same⟩ := mem_map.mp listed
  exact ⟨k, mem_range.mp below, same.symm⟩

theorem reached_iff {w : Number} (seq : seqOf e = .nat n) (finite : w.isFinite = true) :
    reached w e = true ↔ (n : ℚ) ≤ w.value := by
  rw [reached, seq]
  show Number.le (.int n) w = true ↔ _
  rw [le_iff_value rfl finite, value_int]
  norm_cast

theorem grown (reel : Reel trace index) (plain : ∀ e ∈ events, ¬ Filmic e.type)
    (distinct : Packet.DistinctIds (trace ++ events)) : Reel (trace ++ events) index := by
  have frames : framesOf (trace ++ events) = framesOf trace := by
    rw [framesOf_append, framesOf_plain plain, append_nil]
  have refs : listedRefs (trace ++ events) = listedRefs trace := by
    rw [listedRefs_append, listedRefs_plain plain, append_nil]
  refine ⟨distinct, ?_, ?_, reel.finite, reel.least, reel.most, ?_⟩
  · rw [frames]
    exact reel.named
  · rw [frames]
    exact reel.numbered
  · rw [frames, refs]
    exact reel.listed

theorem frame (reel : Reel trace index) {e : Event} (frame : e.type = .runtimeFrame)
    (seq : seqOf e = .nat (index.headSeq + 1)) (named : ∃ s, e.id = .str s)
    (distinct : Packet.DistinctIds (trace ++ [e])) (latest : Value) :
    Reel (trace ++ [e])
      { index with headSeq := index.headSeq + 1, latestFrameId := latest } := by
  have frames : framesOf (trace ++ [e]) = framesOf trace ++ [e] := by
    have one : framesOf [e] = [e] := by simp [framesOf, frame]
    rw [framesOf_append, one]
  have refs : listedRefs (trace ++ [e]) = listedRefs trace := by
    have none : frameRefs e = [] := if_neg (by simp [frame])
    rw [listedRefs_append, listedRefs, listedRefs, flatMap_singleton, none, append_nil]
  have above : reached index.reconciledThrough e = false := by
    rw [Bool.eq_false_iff]
    intro below
    rw [reached_iff seq reel.finite] at below
    have most := reel.most
    push_cast at below
    linarith
  refine ⟨distinct, ?_, ?_, reel.finite, reel.least, ?_, ?_⟩
  · rw [frames]
    exact forall_mem_append.mpr ⟨reel.named, forall_mem_singleton.mpr named⟩
  · rw [frames, map_append, reel.numbered, range_succ, map_append,
      map_singleton, map_singleton, seq]
  · have most := reel.most
    push_cast
    linarith
  · rw [refs, frames, filter_append, filter_singleton, above, cond_false, append_nil]
    exact reel.listed

theorem reconciliation (reel : Reel trace index) (reconciles : e.type = .runtimeReconciliation)
    (finite : through.isFinite = true) (above : index.reconciledThrough.value ≤ through.value)
    (below : through.value ≤ index.headSeq) (refs : frameRefs e
      = ((framesOf trace).filter (between index.reconciledThrough through)).map Event.id)
    (distinct : Packet.DistinctIds (trace ++ [e])) (latest : Value) :
    Reel (trace ++ [e])
      { index with reconciledThrough := through, latestReconciliationId := latest } := by
  have frames : framesOf (trace ++ [e]) = framesOf trace := by
    rw [framesOf_append]
    have none : framesOf [e] = [] := by simp [framesOf, reconciles]
    rw [none, append_nil]
  have listed : listedRefs (trace ++ [e]) = listedRefs trace ++ frameRefs e := by
    rw [listedRefs_append]
    simp [listedRefs]
  -- the frames below the new watermark are those below the old one and the new ones
  have split : ((framesOf trace).filter (reached through)).Perm
      ((framesOf trace).filter (reached index.reconciledThrough)
        ++ (framesOf trace).filter (between index.reconciledThrough through)) := by
    have parts := (filter_append_perm (reached index.reconciledThrough)
      ((framesOf trace).filter (reached through))).symm
    rw [filter_filter, filter_filter] at parts
    have old : (framesOf trace).filter (fun f =>
        reached index.reconciledThrough f && reached through f)
        = (framesOf trace).filter (reached index.reconciledThrough) := by
      apply filter_congr
      intro f member
      obtain ⟨k, -, seq⟩ := reel.seq_le member
      by_cases already : reached index.reconciledThrough f = true
      · have now : reached through f = true :=
          (reached_iff seq finite).mpr (((reached_iff seq reel.finite).mp already).trans above)
        rw [already, now, Bool.true_and]
      · rw [Bool.not_eq_true] at already
        rw [already, Bool.false_and]
    rwa [old] at parts
  refine ⟨distinct, ?_, ?_, finite, reel.least.trans above, below, ?_⟩
  · rw [frames]
    exact reel.named
  · rw [frames]
    exact reel.numbered
  · rw [listed, frames, refs]
    have ids := (split.map Event.id).symm
    rw [map_append] at ids
    exact (reel.listed.append_right _).trans ids

end Reel

/-! ## The pending frames -/

/-- The tables `frame_from_event` makes of these events. -/
def Shown (events : List Event) (frames : List Value) : Prop :=
  List.Forall₂ (fun e frame => frameOf e = .ok frame) events frames

theorem frameOf_facts (seq : seqOf e = .nat n) :
    ∃ frame, frameOf e = .ok frame ∧ frame.get "seq" = .nat n
      ∧ ∀ s, e.id = .str s → frame.get "trace_event_id" = .str s := by
  unfold frameOf
  cases payload : e.payload with
  | table tag entries =>
    have assigned : (((Value.table tag entries).orElse .emptyTable).deepCopy.setField
        "trace_event_id" e.id) = .ok (.table Tag.plain (Value.assign
          (Value.copyEntries entries) (.text "trace_event_id") e.id)) := rfl
    refine ⟨_, assigned, ?_, ?_⟩
    · rw [get_of_setField_other (by decide) assigned]
      show (Value.table tag entries).deepCopy.get "seq" = _
      rw [get_deepCopy, ← payload]
      exact congrArg Value.deepCopy seq
    · intro s named
      rw [named] at assigned ⊢
      exact get_of_setField (by simp) assigned
  | _ =>
    rw [seqOf, payload] at seq
    cases seq

theorem collect_frame {after : Number} (through : Number) (finite : after.isFinite = true)
    (rest : List Event) (found : List Value) (isFrame : e.type = .runtimeFrame)
    (seq : seqOf e = .nat n) {frame : Value} (made : frameOf e = .ok frame)
    (shown : frame.get "seq" = .nat n) :
    collect after through (.inf false) (e :: rest) found
      = if between after through e = true then
          collect after through (.inf false) rest (found ++ [frame])
        else collect after through (.inf false) rest found := by
  have above : Number.lt after (.int n) = !reached after e := by
    rw [Bool.eq_iff_iff, Bool.not_eq_true', ← Bool.not_eq_true, Reel.reached_iff seq finite,
      lt_iff_value finite rfl, not_le, value_int]
    norm_cast
  have below : Number.le (.int n) through = reached through e := by
    rw [reached, seq]
    rfl
  have late : Value.less (.num after) (.nat n) = .ok (!reached after e) :=
    congrArg Except.ok above
  have selected : Value.atMost (.nat n) (.num through) = .ok (reached through e) :=
    congrArg Except.ok below
  rw [collect, frameFromEvent, if_pos isFrame, made]
  show (do
    let late ← Value.less (.num after) (frame.get "seq")
    let selected ← if late then Value.atMost (frame.get "seq") (.num through) else .ok false
    if selected then
      if Number.le (.inf false) (.int (found ++ [frame]).length) then .ok (found ++ [frame])
      else collect after through (.inf false) rest (found ++ [frame])
    else collect after through (.inf false) rest found) = _
  rw [shown, late, selected, between]
  cases reached after e <;> cases reached through e <;> rfl

theorem collect_eq {after : Number} (through : Number) (finite : after.isFinite = true) :
    ∀ (trace : List Event) (found : List Value),
      (∀ e ∈ framesOf trace, ∃ n : Nat, seqOf e = .nat n) →
      ∃ frames, collect after through (.inf false) trace found = .ok (found ++ frames)
        ∧ Shown ((framesOf trace).filter (between after through)) frames := by
  intro trace
  induction trace with
  | nil =>
    intro found _
    exact ⟨[], by rw [append_nil]; rfl, List.Forall₂.nil⟩
  | cons e rest ih =>
    intro found numbered
    by_cases isFrame : e.type = .runtimeFrame
    · have frames : framesOf (e :: rest) = e :: framesOf rest := by
        rw [framesOf, filter_cons_of_pos (by simpa using isFrame)]
        rfl
      rw [frames] at numbered ⊢
      obtain ⟨n, seq⟩ := numbered e mem_cons_self
      have later := fun f member => numbered f (mem_cons_of_mem _ member)
      obtain ⟨frame, made, shown, -⟩ := frameOf_facts seq
      rw [collect_frame through finite rest found isFrame seq made shown]
      by_cases inside : between after through e = true
      · rw [if_pos inside, filter_cons_of_pos inside]
        obtain ⟨tail, collected, shownTail⟩ := ih (found ++ [frame]) later
        refine ⟨frame :: tail, ?_, List.Forall₂.cons made shownTail⟩
        rw [collected, append_assoc]
        rfl
      · rw [if_neg inside, filter_cons_of_neg inside]
        exact ih found later
    · have frames : framesOf (e :: rest) = framesOf rest := by
        rw [framesOf, filter_cons_of_neg (by simpa using isFrame)]
        rfl
      rw [frames] at numbered ⊢
      have turn : collect after through (.inf false) (e :: rest) found
          = collect after through (.inf false) rest found := by
        rw [collect, frameFromEvent, if_neg isFrame]
        rfl
      rw [turn]
      exact ih found numbered

namespace Reel

variable {f : Filmed}

section

variable (reel : Reel f.living.packet.trace f.index)
include reel

theorem window_eq
    (above : Number.lt through f.index.reconciledThrough = false) :
    ∃ frames, window f (.num f.index.reconciledThrough) (.num through) (.num (.inf false))
        = .ok frames
      ∧ Shown ((framesOf f.living.packet.trace).filter
        (between f.index.reconciledThrough through)) frames := by
  have least : Number.lt f.index.reconciledThrough (.int 0) = false := by
    rw [← Bool.not_eq_true, lt_iff_value reel.finite rfl, not_lt, value_int]
    exact_mod_cast reel.least
  obtain ⟨frames, collected, shown⟩ := collect_eq through reel.finite f.living.packet.trace []
    fun e member => by
      obtain ⟨k, -, seq⟩ := reel.seq_le member
      exact ⟨k + 1, seq⟩
  refine ⟨frames, ?_, shown⟩
  have positive : Number.lt (.inf false) (.int 1) = false := rfl
  simp only [window, numberOr, bind, Except.bind, require, least, above, positive, if_true]
  rw [collected, nil_append]

theorem pending_eq :
    ∃ frames, pending f .nil = .ok frames
      ∧ Shown ((framesOf f.living.packet.trace).filter fun e =>
        !reached f.index.reconciledThrough e) frames := by
  have above : Number.lt (.int f.index.headSeq) f.index.reconciledThrough = false := by
    rw [← Bool.not_eq_true, lt_iff_value rfl reel.finite, not_lt, value_int]
    exact_mod_cast reel.most
  obtain ⟨frames, given, shown⟩ := reel.window_eq above
  refine ⟨frames, given, ?_⟩
  have all : ∀ e ∈ framesOf f.living.packet.trace,
      between f.index.reconciledThrough (.int f.index.headSeq) e
        = !reached f.index.reconciledThrough e := by
    intro e member
    obtain ⟨k, below, seq⟩ := reel.seq_le member
    have inside : reached (.int f.index.headSeq) e = true := by
      rw [reached_iff seq rfl, value_int]
      exact_mod_cast below
    rw [between, inside, Bool.and_true]
  rwa [filter_congr all] at shown

theorem planned {input : Value} {plan : ReconcilePlan}
    (planned : reconcilePlan f input = .ok plan) :
    Number.lt plan.through f.index.reconciledThrough = false
      ∧ Number.lt (.int f.index.headSeq) plan.through = false
      ∧ Shown ((framesOf f.living.packet.trace).filter
        (between f.index.reconciledThrough plan.through)) plan.frames := by
  unfold reconcilePlan at planned
  simp only [bind_eq_ok, require_eq_ok] at planned
  obtain ⟨-, -, -, -, resolved, -, -, -, -, -, planned⟩ := planned
  split at planned
  · cases planned
  · simp only [bind_eq_ok, require_eq_ok, pure_eq_ok] at planned
    obtain ⟨through, -, -, ⟨above, below⟩, frames, pending, rfl⟩ := planned
    refine ⟨above, below, ?_⟩
    obtain ⟨frames', given, shown⟩ := reel.window_eq above
    have asked : Camera.pending f (.record [("after_seq", .num f.index.reconciledThrough),
        ("through_seq", .num through)])
        = window f (.num f.index.reconciledThrough) (.num through) (.num (.inf false)) := rfl
    rw [asked, given] at pending
    cases pending
    exact shown

end

end Reel

/-! ## The calls of the camera -/

theorem shown_ids {frames : List Value} (shown : Shown events frames)
    (named : ∀ e ∈ events, ∃ s, e.id = .str s)
    (numbered : ∀ e ∈ events, ∃ n : Nat, seqOf e = .nat n) :
    frames.map (fun frame => frame.get "trace_event_id") = events.map Event.id := by
  induction shown with
  | nil => rfl
  | cons made rest ih =>
    rename_i e frame events frames
    obtain ⟨n, seq⟩ := numbered e mem_cons_self
    obtain ⟨s, id⟩ := named e mem_cons_self
    obtain ⟨frame', made', -, ref⟩ := frameOf_facts seq
    rw [made] at made'
    cases made'
    rw [map_cons, map_cons, ref s id, id,
      ih (fun e member => named e (mem_cons_of_mem _ member))
        (fun e member => numbered e (mem_cons_of_mem _ member))]

theorem finite_between {h : Nat} (reaches : Number.le (.int n) through = true)
    (inside : Number.lt (.int h) through = false) : through.isFinite = true := by
  cases through with
  | int i => rfl
  | float x => rfl
  | inf negative =>
    cases negative with
    | true => cases reaches
    | false => cases inside
  | nan => cases reaches

theorem frameRefs_eq (reconciles : e.type = .runtimeReconciliation) {index : Index}
    {frames : List Value} {input : Value} {state : CompletionState}
    (payload : e.payload = (reconciliationTable index through frames input state).deepCopy)
    {ids : List Value} (listed : frames.map (fun frame => frame.get "trace_event_id") = ids)
    (named : ∀ id ∈ ids, ∃ s, id = .str s) : frameRefs e = ids := by
  have own : ∀ id ∈ ids, id.deepCopy = id := by
    intro id member
    obtain ⟨s, rfl⟩ := named id member
    rfl
  have there : ∀ id ∈ ids, id ≠ .nil := by
    intro id member
    obtain ⟨s, rfl⟩ := named id member
    simp
  have refs : e.payload.get "frame_refs" = .array ids := by
    have stored : (reconciliationTable index through frames input state).get "frame_refs"
        = .array (frames.map fun frame => frame.get "trace_event_id") :=
      get_record (by simp) (by simp)
    rw [payload, get_deepCopy, stored, listed, deepCopy_array own]
  rw [frameRefs, if_pos reconciles, refs, ipairs_array there]

/-- The trace and the index still agree, and the watermark is where it was or higher. -/
structure Advanced (f g : Filmed) : Prop where
  reel : Reel g.living.packet.trace g.index
  up : f.index.reconciledThrough.value ≤ g.index.reconciledThrough.value

variable {f : Filmed}

theorem reconcile_advanced (reel : Reel f.living.packet.trace f.index) (now : Int)
    (input : Value) : Advanced f (reconcile now f input).2 := by
  unfold reconcile
  cases planned : reconcilePlan f input with
  | error failure => exact ⟨reel, le_refl _⟩
  | ok plan =>
    rw [transact_ok]
    obtain ⟨above, below, shown⟩ := reel.planned planned
    by_cases idle : plan.frames = []
    · rw [if_pos idle]
      exact ⟨reel, le_refl _⟩
    rw [if_neg idle]
    rcases record_cases f now .runtimeReconciliation .runtime _ _ with
      ⟨failure, result⟩ | ⟨event, result, type, payload, -, unused⟩
    · rw [reconciliationTable, result]
      exact ⟨reel, le_refl _⟩
    -- a listed frame bounds the watermark from below, the head from above
    have finite : plan.through.isFinite = true := by
      cases found : (framesOf f.living.packet.trace).filter
          (between f.index.reconciledThrough plan.through) with
      | nil =>
        rw [found] at shown
        exact absurd (forall₂_nil_left_iff.mp shown) idle
      | cons e rest =>
        have member : e ∈ e :: rest := mem_cons_self
        rw [← found, mem_filter, between, Bool.and_eq_true] at member
        obtain ⟨k, -, seq⟩ := reel.seq_le member.1
        have reaches := member.2.2
        rw [reached, seq] at reaches
        exact finite_between reaches below
    have members : ∀ e ∈ (framesOf f.living.packet.trace).filter
        (between f.index.reconciledThrough plan.through), e ∈ framesOf f.living.packet.trace :=
      fun e member => mem_of_mem_filter member
    have listed := shown_ids shown (fun e member => reel.named e (members e member))
      fun e member => by
        obtain ⟨k, -, seq⟩ := reel.seq_le (members e member)
        exact ⟨k + 1, seq⟩
    rw [reconciliationTable, result]
    have up := value_le_of_lt_eq_false finite reel.finite above
    refine ⟨reel.reconciliation type finite up ?_ (frameRefs_eq type payload listed ?_)
      (push_distinct reel.distinct unused) event.id, up⟩
    · have most := value_le_of_lt_eq_false rfl finite below
      rw [value_int] at most
      exact_mod_cast most
    · intro id member
      obtain ⟨e, there, rfl⟩ := mem_map.mp member
      exact reel.named e (members e there)

theorem capture_advanced (R : Readings) (reel : Reel f.living.packet.trace f.index)
    (now : Int) (input : Value) : Advanced f (capture R now f input).2 := by
  unfold capture
  cases planned : capturePlan R f.living.packet f.index input with
  | error failure => exact ⟨reel, le_refl _⟩
  | ok plan =>
    obtain ⟨fields, numbered, table⟩ : ∃ fields : List (String × Value),
        (Value.record fields).get "seq" = .nat (f.index.headSeq + 1)
          ∧ plan.2 = .record fields := by
      unfold capturePlan at planned
      simp only [bind_eq_ok] at planned
      obtain ⟨-, -, named, -, planned⟩ := planned
      split at planned
      · cases planned
      · simp only [bind_eq_ok, pure_eq_ok] at planned
        obtain ⟨-, -, -, -, -, -, -, -, -, -, -, -, frame, built, rfl⟩ := planned
        simp only [frameTable, bind_eq_ok, pure_eq_ok] at built
        obtain ⟨-, -, -, -, -, -, -, -, -, -, -, -, -, -, rfl⟩ := built
        exact ⟨_, get_record (by simp) (by simp), rfl⟩
    rw [transact_ok, table]
    rcases record_cases f now .runtimeFrame plan.1 fields _ with
      ⟨failure, result⟩ | ⟨event, result, type, payload, named, unused⟩
    · rw [result]
      exact ⟨reel, le_refl _⟩
    · rw [result]
      have seq : seqOf event = .nat (f.index.headSeq + 1) := by
        rw [seqOf, payload, get_deepCopy, numbered]
        rfl
      exact ⟨reel.frame type seq named (push_distinct reel.distinct unused) event.id, le_refl _⟩

/-! ## Filmed lives -/

/-- No call hands an event of the camera to `append_trace`. -/
def Take.Indirect : Take → Prop
  | .deed d => Camera.Indirect d
  | _ => True

theorem take_advanced (R : Readings) (S : Schemas)
    (reel : Reel f.living.packet.trace f.index) (take : Take) (indirect : take.Indirect) :
    Advanced f ((machine R S).after f take) := by
  cases take with
  | capture now input => exact capture_advanced R reel now input
  | reconcile now input => exact reconcile_advanced reel now input
  | deed d =>
    obtain ⟨⟨events, trace, plain⟩, distinct⟩ := deed_grown S f.living d indirect
    have kept := distinct reel.distinct
    refine ⟨?_, le_refl _⟩
    show Reel ((lifeMachine S).after f.living d).packet.trace f.index
    rw [trace] at kept ⊢
    exact reel.grown plain kept

theorem run_advanced (R : Readings) (S : Schemas) (takes : List Take) :
    ∀ {f : Filmed}, Reel f.living.packet.trace f.index → (∀ take ∈ takes, take.Indirect) →
      Advanced f ((machine R S).run f takes) := by
  induction takes with
  | nil =>
    intro f reel _
    exact ⟨reel, le_refl _⟩
  | cons take rest ih =>
    intro f reel indirect
    have first := take_advanced R S reel take (indirect take mem_cons_self)
    have later := ih first.reel fun other member => indirect other (mem_cons_of_mem _ member)
    exact ⟨later.reel, first.up.trans later.up⟩

theorem newborn_reel {birth : Event} (born : Packet.Newborn p birth) :
    Reel p.trace Index.fresh := by
  have plain : ∀ e ∈ [birth], ¬ Filmic e.type := by
    intro e member filmic
    rw [mem_singleton.mp member, Filmic, born.type] at filmic
    rcases filmic with same | same <;> cases same
  rw [born.trace]
  have none : framesOf [birth] = [] := framesOf_plain plain
  refine ⟨pairwise_singleton _ birth, ?_, ?_, rfl, ?_, ?_, ?_⟩
  · rw [none]
    exact forall_mem_nil _
  · rw [none]
    rfl
  · simp [Index.fresh]
  · simp [Index.fresh]
  · rw [none, listedRefs_plain plain]
    exact List.Perm.refl _

/-! ## The law -/

def unlisted (trace : List Event) : List Event :=
  (framesOf trace).filter fun e => !(listedRefs trace).contains e.id

structure Watermarked (f : Filmed) : Prop where
  numbered : (framesOf f.living.packet.trace).map seqOf
    = (List.range f.index.headSeq).map fun k => .nat (k + 1)
  bounded : Number.le f.index.reconciledThrough (.int f.index.headSeq) = true
  /-- A frame is listed by exactly one reconciliation when the watermark has reached it, and
  by none before. -/
  covered : ∀ e ∈ framesOf f.living.packet.trace,
    f.living.packet.trace.countP (fun r => (frameRefs r).contains e.id)
      = if reached f.index.reconciledThrough e then 1 else 0
  once : (listedRefs f.living.packet.trace).Nodup
  frames : ∀ id ∈ listedRefs f.living.packet.trace,
    ∃ e ∈ framesOf f.living.packet.trace, e.id = id
  pending : ∃ frames, Camera.pending f .nil = .ok frames
    ∧ Shown (unlisted f.living.packet.trace) frames

theorem countP_contains {β : Type} [DecidableEq β] {α : Type} (g : α → List β) (b : β) :
    ∀ items : List α, (items.flatMap g).Nodup →
      items.countP (fun a => (g a).contains b) = (items.flatMap g).count b := by
  intro items
  induction items with
  | nil => intro _; rfl
  | cons a rest ih =>
    intro once
    rw [flatMap_cons] at once ⊢
    obtain ⟨first, later, -⟩ := nodup_append.mp once
    rw [countP_cons, ih later, count_append, Nat.add_comm, first.count]
    simp only [contains_iff_mem]

namespace Reel

variable {trace : List Event} {index : Index}

section

variable (reel : Reel trace index)
include reel

theorem ids_nodup : ((framesOf trace).map Event.id).Nodup := by
  rw [List.Nodup, pairwise_map]
  have apart : (framesOf trace).Pairwise fun a b => Value.eq a.id b.id = false :=
    List.Pairwise.sublist filter_sublist reel.distinct
  refine apart.imp_of_mem ?_
  intro a b inA _ different equal
  obtain ⟨t, name⟩ := reel.named a inA
  rw [← equal, name, eq_str, decide_eq_false_iff_not] at different
  exact different rfl

theorem same_of_id {e' : Event} (member : e ∈ framesOf trace)
    (member' : e' ∈ framesOf trace) (same : e.id = e'.id) : e = e' :=
  inj_on_of_nodup_map reel.ids_nodup member member' same

theorem once : (listedRefs trace).Nodup := by
  rw [reel.listed.nodup_iff]
  exact reel.ids_nodup.sublist (filter_sublist.map _)

theorem listed_iff (member : e ∈ framesOf trace) :
    e.id ∈ listedRefs trace ↔ reached index.reconciledThrough e = true := by
  rw [reel.listed.mem_iff]
  constructor
  · intro there
    obtain ⟨e', inside, same⟩ := mem_map.mp there
    obtain ⟨member', done⟩ := mem_filter.mp inside
    rwa [reel.same_of_id member member' same.symm]
  · intro done
    exact mem_map.mpr ⟨e, mem_filter.mpr ⟨member, done⟩, rfl⟩

end

end Reel

theorem Reel.watermarked (reel : Reel f.living.packet.trace f.index) :
    Watermarked f := by
  refine ⟨reel.numbered, ?_, ?_, reel.once, ?_, ?_⟩
  · rw [le_iff_value reel.finite rfl, value_int]
    exact_mod_cast reel.most
  · intro e member
    rw [countP_contains frameRefs e.id _ reel.once]
    show (listedRefs f.living.packet.trace).count e.id = _
    rw [reel.once.count]
    simp only [reel.listed_iff member]
  · intro id listed
    rw [reel.listed.mem_iff] at listed
    obtain ⟨e, inside, same⟩ := mem_map.mp listed
    exact ⟨e, mem_of_mem_filter inside, same⟩
  · obtain ⟨frames, given, shown⟩ := reel.pending_eq
    refine ⟨frames, given, ?_⟩
    have same : unlisted f.living.packet.trace
        = (framesOf f.living.packet.trace).filter fun e =>
          !reached f.index.reconciledThrough e := by
      apply filter_congr
      intro e member
      rw [Bool.eq_iff_iff, Bool.not_eq_true', Bool.not_eq_true', ← Bool.not_eq_true,
        ← Bool.not_eq_true, contains_iff_mem, reel.listed_iff member]
    rw [same]
    exact shown

/-- Whatever is done to a Packet beside the camera, its frames are numbered in order, the
watermark only rises, and the reconciliations list what it has passed. -/
theorem camera_watermark (R : Readings) (S : Schemas) (counter : Nat) (now : Int)
    (prompt options : Value) (p : Packet) (born : Packet.new S counter now prompt options = .ok p)
    (earlier later : List Take) (indirect : ∀ take ∈ earlier ++ later, take.Indirect) :
    Watermarked ((machine R S).run ⟨⟨p, []⟩, .fresh⟩ (earlier ++ later))
      ∧ Number.le ((machine R S).run ⟨⟨p, []⟩, .fresh⟩ earlier).index.reconciledThrough
        ((machine R S).run ⟨⟨p, []⟩, .fresh⟩ (earlier ++ later)).index.reconciledThrough
          = true := by
  obtain ⟨birth, newborn⟩ := new_newborn S counter now prompt options p born
  have first := run_advanced R S earlier (newborn_reel newborn : Reel
    (⟨⟨p, []⟩, .fresh⟩ : Filmed).living.packet.trace _)
    fun take member => indirect take (mem_append_left _ member)
  have second := run_advanced R S later first.reel
    fun take member => indirect take (mem_append_right _ member)
  rw [Machine.run_append]
  exact ⟨second.reel.watermarked, (le_iff_value first.reel.finite second.reel.finite).mpr second.up⟩

def quietReadings : Readings where
  budgetSnapshot _ := .ok (.record [("kind", .text "runtime_budget_snapshot"),
    ("exhausted", .bool false)])
  lossSnapshot _ := .ok (.record [("kind", .text "packet_loss_snapshot"),
    ("near_death", .bool false), ("exhausted", .bool false)])
  progress _ := .ok (.record [("needed_count", .nat 0)])
  evidenceFingerprint _ := .ok (.text "0")

def shoot : Take := .capture 0 (.record [("revisions_before", .emptyTable)])

def walk (source target : Operator) : Take :=
  .deed (.packet ⟨.commitTransition (.record [("from", Topology.value source),
    ("to", Topology.value target)]), fun _ => 0⟩)

def arrival : List Take :=
  [shoot, walk .flow .connect, walk .connect .encode, walk .encode .runtime,
    .deed (.packet ⟨.beginTick (Topology.value .runtime) .nil, fun _ => 0⟩), shoot]

def firstReconciled : List Take :=
  [.reconcile 0 (.record [("through_seq", .nat 1)]), shoot]

theorem camera_watermark_partial :
    ∃ p, Packet.new Packet.refusingSchemas 1 0 (.text "task") .nil = .ok p
      ∧ ∃ f, f = (machine quietReadings Packet.refusingSchemas).run ⟨⟨p, []⟩, .fresh⟩
          (arrival ++ firstReconciled)
        ∧ f.index.headSeq = 3 ∧ f.index.reconciledThrough = .int 1
        ∧ (unlisted f.living.packet.trace).length = 2 ∧ Watermarked f := by
  obtain ⟨p, born, checked⟩ := task_born_passing
    (fun p =>
      let f := (machine quietReadings Packet.refusingSchemas).run ⟨⟨p, []⟩, .fresh⟩
        (arrival ++ firstReconciled)
      decide (f.index.headSeq = 3 ∧ f.index.reconciledThrough = .int 1
        ∧ (unlisted f.living.packet.trace).length = 2)) (by decide +kernel)
  obtain ⟨head, watermark, pending⟩ := of_decide_eq_true checked
  have indirect : ∀ take ∈ arrival ++ firstReconciled, take.Indirect := by
    intro take member
    simp only [arrival, firstReconciled, cons_append, nil_append, mem_cons,
      not_mem_nil, or_false] at member
    rcases member with rfl | rfl | rfl | rfl | rfl | rfl | rfl | rfl <;> trivial
  exact ⟨p, born, _, rfl, head, watermark, pending,
    (camera_watermark quietReadings Packet.refusingSchemas 1 0 (.text "task") .nil p born
      arrival firstReconciled indirect).1⟩

/-! ## The trace of a filmed life -/

theorem record_extended (f : Filmed) (now : Int) (type : EventType) (operator : Operator)
    (payload : Value) (advance : Event → Index) :
    Extended f.living.packet (record f now type operator payload advance).2.living.packet := by
  have appended : Extended f.living.packet
      (f.living.packet.appendTrace now (cameraEvent type operator payload)).2 :=
    Extended.tracked.step ⟨trivial, fun _ _ => trivial⟩ Packet.refusingSchemas _
      ⟨.appendTrace _, fun _ => now⟩ fun _ _ => trivial
  unfold record
  split
  · rename_i same
    rwa [same] at appended
  · rename_i same
    rwa [same] at appended

theorem take_extended (R : Readings) (S : Schemas) (f : Filmed) (take : Take) :
    Extended f.living.packet ((machine R S).after f take).living.packet := by
  have kept := Extended.tracked.refl f.living.packet
  cases take with
  | capture now input =>
    exact transact_state (motive := fun g : Filmed => Extended f.living.packet g.living.packet)
      kept fun plan _ => record_extended ..
  | reconcile now input =>
    refine transact_state (motive := fun g : Filmed => Extended f.living.packet g.living.packet)
      kept fun plan _ => ?_
    split
    · exact kept
    · exact record_extended ..
  | deed d => exact deed_extended S f.living d

/-- Whatever is done to a Packet from whatever state, no event of its trace is moved, changed or
dropped, and no id is given a second time. -/
theorem trace_extended (R : Readings) (S : Schemas) (f : Filmed) (takes : List Take) :
    Extended f.living.packet ((machine R S).run f takes).living.packet :=
  (machine R S).run_invariant (fun g => Extended f.living.packet g.living.packet)
    (fun g take grew => grew.trans (take_extended R S g take)) takes f (Extended.tracked.refl _)

end Proc17.Runtime.Camera
