import Proc17.Core.JsonArray
import Proc17.Runtime.Credit.Steps

/-!
# What the steps of edge credit append

One lemma for each low-level step: the events it appends, and what the eligibility of a
selection without reasons rests on.
-/

namespace Proc17.Runtime.Credit

open Lua Core List
open Core.Json (encode Encodes encode_strings_injective PresentAlike encode_record_iff)
open Runtime.Epoch (isTaggedHash texts sameValue Definition)

/-! ## Equal texts -/

theorem sameValue_iff (left right : Value) :
    sameValue left right = true ↔ ∃ text, encode left = .ok text ∧ encode right = .ok text := by
  unfold sameValue Json.same
  cases one : encode left with
  | error failure =>
    constructor
    · intro impossible
      cases impossible
    · rintro ⟨text, read, -⟩
      cases read
  | ok text =>
    cases two : encode right with
    | error failure =>
      constructor
      · intro impossible
        cases impossible
      · rintro ⟨_, -, read⟩
        cases read
    | ok text' =>
      constructor
      · intro same
        have same : text = text' := of_decide_eq_true same
        exact ⟨text, rfl, by rw [same]⟩
      · rintro ⟨_, read, read'⟩
        cases read
        cases read'
        exact decide_eq_true rfl

theorem Reason.text_injective {a b : Reason} (same : a.text = b.text) : a = b := by
  have names := (utf8_inj _ _).mp same
  cases a <;> cases b <;> first | rfl | exact absurd names (by decide)

theorem reasonTexts_injective {left right : List Reason}
    (same : encode (reasonTexts left) = encode (reasonTexts right)) : left = right :=
  (map_injective_iff.mpr fun _ _ => Reason.text_injective) (encode_strings_injective same)

theorem encodes_texts (items : List Bytes) : Encodes (texts items) :=
  ⟨_, Json.encode_strings items⟩

theorem encode_basis {witnesses witnesses' fixtures fixtures' : List Bytes} {snapshot snapshot' : Bool}
    (same : encode (.record [("witness_ids", texts witnesses),
        ("unqualified_snapshot", .bool snapshot), ("fixture_witness_ids", texts fixtures)])
      = encode (.record [("witness_ids", texts witnesses'),
        ("unqualified_snapshot", .bool snapshot'), ("fixture_witness_ids", texts fixtures')])) :
    witnesses = witnesses' ∧ snapshot = snapshot' ∧ fixtures = fixtures' := by
  rw [encode_record_iff (by simp [PresentAlike, texts, Value.array])] at same
  · simp only [forall₂_cons, forall₂_nil_left_iff] at same
    obtain ⟨one, two, three, -⟩ := same
    exact ⟨encode_strings_injective one, Json.encode_bool_injective two,
      encode_strings_injective three⟩
  · refine Json.encodes_record fun field member => ?_
    simp only [mem_cons, not_mem_nil, or_false] at member
    rcases member with rfl | rfl | rfl
    · exact encodes_texts _
    · exact Json.encodes_bool _
    · exact encodes_texts _

theorem BodyEligibility.eq_of_same {a b : BodyEligibility}
    (same : sameValue a.toValue b.toValue = true) : a = b := by
  obtain ⟨text, one, two⟩ := (sameValue_iff _ _).mp same
  have alike : encode a.toValue = encode b.toValue := one.trans two.symm
  rw [toValue, toValue, encode_record_iff
    (by simp [PresentAlike, reasonTexts, texts, Value.array, Value.record]) ⟨text, one⟩] at alike
  simp only [forall₂_cons, forall₂_nil_left_iff] at alike
  obtain ⟨eligible, reasons, basis, -⟩ := alike
  obtain ⟨witnesses, snapshot, fixtures⟩ := encode_basis basis
  have eligible := Json.encode_bool_injective eligible
  have reasons := reasonTexts_injective reasons
  cases a
  cases b
  simp only [BodyEligibility.mk.injEq]
  exact ⟨eligible, reasons, witnesses, snapshot, fixtures⟩

/-! ## Reasons -/

theorem appendUnique_ne_nil (items : List Reason) (item : Reason) :
    appendUnique Reason.text items item ≠ [] := by
  unfold appendUnique
  split
  · rename_i member
    exact ne_nil_of_mem member
  · intro empty
    have counted := perm_insertionSort (fun a b => Json.TextLe (Reason.text a) (Reason.text b))
      (items ++ [item])
    rw [show List.insertionSort _ (items ++ [item]) = [] from empty] at counted
    have nothing := nil_perm.mp counted
    simp at nothing

theorem addWhen_eq_nil {condition : Bool} {reason : Reason} {reasons : List Reason} :
    addWhen condition reason reasons = [] ↔ condition = false ∧ reasons = [] := by
  cases condition with
  | true => simp [addWhen, appendUnique_ne_nil]
  | false => simp [addWhen]

structure Unobjected (s : State) (authority : RouteAuthority) (body : BodyEligibility)
    (plan : Value) : Prop where
  tree : authority = .tree
  body : body.reasons = []
  untainted : s.tainted = false
  epoch : ∃ epoch, s.authorityEpoch = some epoch ∧ State.configuredOwner epoch = .text "tree"
    ∧ qualifiedTreePolicy (some epoch) = true ∧ anyConsumerAblation (some epoch) = false
  plan : ∃ id, nonEmpty plan = some id

variable {authority : RouteAuthority} {body : BodyEligibility} {s next : State}
  {context decision supplied input : Value} {fromOp toOp : Operator} {basis : Bytes} {c : Commit}

theorem unobjected {plan : Value} (empty : evaluatedReasons s authority body plan = []) :
    Unobjected s authority body plan := by
  simp only [evaluatedReasons, addWhen_eq_nil, Bool.and_eq_false_iff, Bool.not_eq_false',
    decide_eq_true_eq, decide_eq_false_iff_not, ne_eq, not_not] at empty
  obtain ⟨plan, ablated, qualified, untainted, owner, -, tree, body⟩ := empty
  have owner := owner.resolve_left fun no => no tree
  have qualified := qualified.resolve_left fun no => no tree
  have ablated := (ablated.resolve_left fun no => by
    rcases no with no | no
    · exact no tree
    · rw [qualified] at no
      cases no)
  have plan := (plan.resolve_left fun no => by
    rcases no with no | no
    · exact no tree
    · rw [qualified] at no
      cases no)
  cases given : s.authorityEpoch with
  | none =>
    rw [given] at owner
    cases owner
  | some epoch =>
    rw [given] at owner qualified ablated
    refine ⟨tree, body, untainted, ⟨epoch, given, Option.some.inj owner, qualified, ablated⟩, ?_⟩
    cases read : nonEmpty _ with
    | none =>
      rw [read] at plan
      cases plan
    | some id => exact ⟨id, rfl⟩

/-! ## The chain of bodies -/

structure Promoted (decision context : Value) (body : BodyEligibility) : Prop where
  eligible : body.promotionEligible = true
  decided : normalizeBodyEligibility decision = .ok body
  selected : normalizeBodyEligibility (decision.get "selected_candidate") = .ok body
  derived : normalizeBodyEligibility ((context.get "derivation_event").get "payload") = .ok body
  recorded : normalizeBodyEligibility
    (((context.get "derivation_event").get "payload").get "selected_candidate") = .ok body

theorem bothBodies_ok {first second : Except ChainFault BodyEligibility}
    {pair : BodyEligibility × BodyEligibility} (read : bothBodies first second = .ok pair) :
    first = .ok pair.1 ∧ second = .ok pair.2 := by
  unfold bothBodies at read
  split at read
  · cases read
  · cases read
  · cases read
    exact ⟨rfl, rfl⟩
  · cases read

theorem promotionEligible_of_ok {value : Value} (read : normalizeBodyEligibility value = .ok body)
    (clear : body.reasons = []) :
    body.promotionEligible = true := by
  unfold normalizeBodyEligibility at read
  split at read
  · split at read
    · rename_i eligible _ _ parts found
      cases read
      unfold bodyParts at found
      simp only [Option.bind_eq_bind, Option.bind_eq_some_iff, Option.guard_eq_some',
        Option.some.injEq, Option.pure_def] at found
      obtain ⟨reasons, -, -, -, snapshot, -, witnesses, -, fixtures, -, -, formed, rfl⟩ := found
      simp only [BodyEligibility.wellFormed, Bool.and_eq_true] at formed
      cases eligible with
      | true => rfl
      | false =>
        have given := formed.1.1.2
        rw [show reasons = [] from clear] at given
        cases given
    · cases read
  · cases read

theorem promoted_of_chain
    (chain : bodyEligibilityChain decision (context.get "derivation_event") fromOp toOp = .ok body)
    (clear : body.reasons = []) : Promoted decision context body := by
  unfold bodyEligibilityChain at chain
  simp only [bind_eq_ok, Prod.exists] at chain
  obtain ⟨decided, selected, first, chain⟩ := chain
  obtain ⟨one, two⟩ := bothBodies_ok first
  split at chain
  · cases chain
  split at chain
  · cases chain
  simp only [bind_eq_ok, Prod.exists] at chain
  obtain ⟨derived, recorded, second, chain⟩ := chain
  obtain ⟨three, four⟩ := bothBodies_ok second
  split at chain
  · rename_i same
    cases chain
    simp only [Bool.and_eq_true] at same
    obtain ⟨⟨left, middle⟩, right⟩ := same
    have left := BodyEligibility.eq_of_same left
    have middle := BodyEligibility.eq_of_same middle
    have right := BodyEligibility.eq_of_same right
    dsimp only at one two three four
    exact ⟨promotionEligible_of_ok one clear, one, left ▸ two, middle ▸ three, right ▸ four⟩
  · cases chain

/-! ## Appending -/

def Event.silent : Event → Bool
  | .request _ => true
  | .eligibility _ => true
  | .error _ => true
  | _ => false

theorem foldl_append (following : List Event) : ∀ s : State,
    following.foldl State.append s = { s with events := s.events ++ following } := by
  induction following with
  | nil =>
    intro s
    rw [append_nil]
    rfl
  | cons event rest ih =>
    intro s
    rw [foldl_cons, ih, State.append, append_assoc]
    rfl

def State.extend (s : State) (events : List Event) : State := { s with events := s.events ++ events }

theorem tainted_append (s : State) {events : List Event} (silent : events.all Event.silent = true) :
    (s.extend events).tainted = s.tainted := by
  have none : events.any Event.isTaint = false := by
    rw [any_eq_false]
    intro event member
    have quiet := all_eq_true.mp silent event member
    cases event with
    | taint t => cases quiet
    | _ => simp [Event.isTaint]
  rw [State.tainted, State.extend, any_append, none, Bool.or_false]
  rfl

/-! ## Selection -/

structure Earns (s : State) (decision context : Value) (r : Selection) : Prop where
  tree : r.route.routeAuthority = .tree
  untainted : s.tainted = false
  epoch : ∃ epoch, s.authorityEpoch = some epoch ∧ State.configuredOwner epoch = .text "tree"
    ∧ qualifiedTreePolicy (some epoch) = true ∧ anyConsumerAblation (some epoch) = false
  plan : ∃ id, nonEmpty r.route.selectedActionPlanId = some id
  promoted : ∃ body, Promoted decision context body

structure Prepared (s next : State) (decision context : Value) (r : Selection) : Prop where
  grown : ∃ before after : List Event, next = s.extend (before ++ .selection r :: after)
    ∧ before.all Event.silent = true ∧ after.all Event.silent = true
  eligible : ∀ e, r.eligibility = some e → e.physicsEpochId = s.epochField "physics_epoch_id"
    ∧ e.evidenceEpochId = s.epochField "evidence_epoch_id"
    ∧ (e.reasons = [] → Earns s decision context r)

variable {id : Bytes}

theorem makeEligibility_ok {plan ref : Value} {e : Eligibility}
    (made : makeEligibility s id authority body plan basis ref = .ok e) :
    e.reasons = evaluatedReasons s authority body plan
      ∧ e.physicsEpochId = s.epochField "physics_epoch_id"
      ∧ e.evidenceEpochId = s.epochField "evidence_epoch_id" := by
  simp only [makeEligibility, bind_eq_ok, pure_eq_ok] at made
  obtain ⟨_, -, rfl⟩ := made
  exact ⟨rfl, rfl, rfl⟩

theorem followUp_silent {codes : List ClassificationError}
    {eligibility : Option Eligibility} {following : List Event}
    (made : followUp decision id codes eligibility = .ok following) :
    following.all Event.silent = true := by
  cases eligibility with
  | some e =>
    cases made
    rfl
  | none =>
    simp only [followUp, bind_eq_ok, pure_eq_ok] at made
    obtain ⟨errors, -, rfl⟩ := made
    rw [all_map, all_eq_true]
    intro error _
    rfl

theorem authorityBasis_ok {ordinal : Number}
    (made : authorityBasis s decision ordinal fromOp toOp authority = .ok (next, basis)) :
    ∃ before : List Event, next = s.extend before ∧ before.all Event.silent = true := by
  unfold authorityBasis at made
  split at made
  · cases made
    refine ⟨[], ?_, rfl⟩
    rw [State.extend, append_nil]
  · split at made
    · rename_i request _
      cases made
      exact ⟨[.request request], rfl, rfl⟩
    · cases made

theorem prepareEligibility_ok {codes : List ClassificationError} {e : Eligibility}
    (made : prepareEligibility s id authority codes
      (readBody authority decision context fromOp toOp) decision basis = .ok (some e)) :
    e.physicsEpochId = s.epochField "physics_epoch_id"
      ∧ e.evidenceEpochId = s.epochField "evidence_epoch_id"
      ∧ (e.reasons = [] → ∃ body, Promoted decision context body
        ∧ Unobjected s authority body (decision.get "selected_action_plan_id")) := by
  unfold prepareEligibility at made
  split at made
  · rename_i body read
    split at made
    · rename_i found
      cases made
      obtain ⟨evaluated, physics, evidence⟩ := makeEligibility_ok found
      refine ⟨physics, evidence, fun clear => ?_⟩
      rw [evaluated] at clear
      have clear := unobjected clear
      refine ⟨body, ?_, clear⟩
      unfold readBody at read
      rw [if_pos clear.tree] at read
      dsimp only at read
      split at read
      · cases read
      · exact promoted_of_chain read clear.body
    · cases made
  · cases made

theorem treeField_text {name : String} (read : nonEmpty (decision.get name) = some id) :
    nonEmpty (treeField .tree decision name) = some id := by
  unfold nonEmpty at read
  split at read
  · rename_i b rest given
    cases read
    unfold treeField
    rw [given, if_pos ⟨rfl, rfl⟩]
    rfl
  · cases read

theorem prepareOn_ok {r : Selection} (made : prepareOn s decision context = .ok (next, r)) :
    Prepared s next decision context r := by
  unfold prepareOn at made
  split at made
  · cases made
  split at made
  · cases made
  simp only [bind_eq_ok, require_eq_ok] at made
  obtain ⟨-, -, -, -, made⟩ := made
  simp only [selectRoute, bind_eq_ok, pure_eq_ok, Prod.exists, Prod.mk.injEq] at made
  obtain ⟨middle, basis, based, id, -, eligibility, prepared, ref, -, following, followed, grown,
    rfl⟩ := made
  obtain ⟨before, rfl, quiet⟩ := authorityBasis_ok based
  refine ⟨⟨before, following, ?_, quiet, followUp_silent followed⟩, ?_⟩
  · rw [foldl_append] at grown
    rw [← grown]
    simp only [State.append, State.extend, append_assoc, cons_append, nil_append]
  · intro e given
    dsimp only at given
    rw [given] at prepared
    obtain ⟨physics, evidence, clear⟩ := prepareEligibility_ok prepared
    refine ⟨physics, evidence, fun empty => ?_⟩
    obtain ⟨body, promoted, unobjected⟩ := clear empty
    obtain ⟨plan, named⟩ := unobjected.plan
    have tree := unobjected.tree
    refine ⟨tree, ?_, unobjected.epoch, ⟨plan, ?_⟩, body, promoted⟩
    · rw [← tainted_append s quiet]
      exact unobjected.untainted
    · dsimp only
      rw [tree]
      exact treeField_text named

/-! ## Commit -/

theorem stored_ok {α : Type} {records : List α} {recordId : α → Bytes} {toValue : α → Value}
    {malformed unresolved : String} {record : α}
    (found : stored records recordId toValue malformed unresolved supplied = .ok record) :
    record ∈ records ∧ records.find? (fun other => recordId other = recordId record) = some record := by
  unfold stored at found
  split at found
  · cases found
  split at found
  · cases found
  rename_i first located
  split at found
  · cases found
    have named := List.find?_some located
    simp only [decide_eq_true_eq] at named
    refine ⟨mem_of_find?_eq_some located, ?_⟩
    rw [← located, named]
    congr 1
    funext other
    rw [decide_eq_decide, Value.str.injEq, eq_comm]
  · cases found

structure Committed (s next : State) (c : Commit) (taint : Option Taint) : Prop where
  grown : next = s.extend (.commit c :: (taint.map Event.taint).toList)
  fresh : commitOf s.events c.routeEvidenceId = none
  selected : ∃ r, selectionForCommit s c = some r ∧ c.routeEvidenceId = r.routeEvidenceId
    ∧ c.routeAuthority = r.route.routeAuthority
    ∧ ∀ e, r.eligibility = some e → r.route.routeAuthority = .tree →
      ∃ body expected, makeEligibility s r.routeEvidenceId .tree body r.route.selectedActionPlanId
        r.route.authorityBasisRef r.route.pressureSnapshotRef = .ok expected
        ∧ sameValue expected.toValue e.toValue = true
  taints : taint.isSome = true ↔ ∃ epoch, s.authorityEpoch = some epoch ∧ s.tainted = false
    ∧ c.routeAuthority.value ≠ State.configuredOwner epoch
  tells : ∀ t, taint = some t → t.commitRef = c.recordId ∧ t.routeEvidenceId = c.routeEvidenceId

theorem tainted_commit (s : State) (c : Commit) : (s.append (.commit c)).tainted = s.tainted := by
  rw [State.tainted, State.append, any_append]
  exact Bool.or_false _

theorem makeTaint_ok {r : Selection} {taint : Option Taint} (made : makeTaint s r c = .ok taint) :
    (taint.isSome = true ↔ ∃ epoch, s.authorityEpoch = some epoch ∧ s.tainted = false
      ∧ r.route.routeAuthority.value ≠ State.configuredOwner epoch)
      ∧ ∀ t, taint = some t → t.commitRef = c.recordId ∧ t.routeEvidenceId = r.routeEvidenceId := by
  unfold makeTaint at made
  split at made
  · rename_i absent
    cases made
    refine ⟨⟨nofun, ?_⟩, nofun⟩
    rintro ⟨epoch, given, -⟩
    rw [absent] at given
    cases given
  · rename_i epoch given
    dsimp only at made
    split at made
    · rename_i kept
      cases made
      refine ⟨⟨nofun, ?_⟩, nofun⟩
      rintro ⟨epoch', given', untainted, foreign⟩
      rw [given] at given'
      cases given'
      rcases kept with tainted | same
      · rw [untainted] at tainted
        cases tainted
      · exact absurd same foreign
    · rename_i foreign
      simp only [bind_eq_ok, pure_eq_ok] at made
      obtain ⟨id, -, rfl⟩ := made
      obtain ⟨untainted, foreign⟩ := not_or.mp foreign
      refine ⟨⟨fun _ => ⟨epoch, given, Bool.eq_false_iff.mpr untainted, foreign⟩, fun _ => rfl⟩, ?_⟩
      intro t made
      cases made
      exact ⟨rfl, rfl⟩

theorem recordCommitOn_ok {routeEvent : Value} {taint : Option Taint}
    (made : recordCommitOn s supplied routeEvent = .ok (next, c, taint)) :
    Committed s next c taint := by
  simp only [recordCommitOn, bind_eq_ok, require_eq_ok, pure_eq_ok, Prod.mk.injEq] at made
  obtain ⟨r, found, -, fresh, -, matched, id, -, taint', tainted, grown, rfl, rfl⟩ := made
  obtain ⟨member, located⟩ := stored_ok found
  obtain ⟨taints, tells⟩ := makeTaint_ok tainted
  refine ⟨?_, fresh, ⟨r, located, rfl, rfl, ?_⟩, ?_, tells⟩
  · rw [foldl_append] at grown
    rw [← grown]
    simp only [State.append, State.extend, append_assoc, cons_append, nil_append]
  · intro e given tree
    have classified : r.classified = true := by
      rw [Selection.classified, given]
      rfl
    simp only [routeEventMatches, tree, classified, Bool.and_eq_true, Bool.or_eq_true,
      decide_true, Bool.not_true, Bool.false_eq_true, false_or] at matched
    have evaluated := matched.2
    unfold eligibilityMatches at evaluated
    dsimp only at evaluated
    split at evaluated
    · cases evaluated
    rename_i body _
    split at evaluated
    · cases evaluated
    rename_i expected made
    rw [given, Option.any_some] at evaluated
    rw [tree] at made
    exact ⟨body, expected, made, evaluated⟩
  · rw [taints]
    rw [tainted_commit]
    exact Iff.rfl

/-! ## Endings -/

def Open (s : State) (c : Commit) : Prop := .commit c ∈ s.events ∧ ended s.events c.routeEvidenceId = false

theorem openCommit_ok (found : openCommit s supplied = .ok c) : Open s c := by
  simp only [openCommit, bind_eq_ok, require_eq_ok, pure_eq_ok] at found
  obtain ⟨c, located, -, waiting, rfl⟩ := found
  refine ⟨?_, waiting⟩
  obtain ⟨event, member, read⟩ := mem_filterMap.mp (stored_ok located).1
  cases event with
  | commit other =>
    cases read
    exact member
  | _ => cases read

structure Arrived (s next : State) (a : Arrival) (decision : Option Decision) : Prop where
  grown : next = s.extend (.arrival a :: (decision.map Event.decision).toList)
  ends : ∃ c, Open s c ∧ a.routeEvidenceId = c.routeEvidenceId
    ∧ ∀ d, decision = some d → d.routeEvidenceId = c.routeEvidenceId
      ∧ ∃ r e, selectionForCommit s c = some r ∧ r.eligibility = some e
        ∧ d.credited = e.eligible

theorem recordArrivalOn_ok {a : Arrival} {decision : Option Decision}
    (made : recordArrivalOn s supplied input = .ok (next, a, decision)) :
    Arrived s next a decision := by
  simp only [recordArrivalOn, bind_eq_ok] at made
  obtain ⟨c, found, made⟩ := made
  have waiting := openCommit_ok found
  split at made
  · split at made
    · cases made
    simp only [bind_eq_ok] at made
    obtain ⟨id, -, made⟩ := made
    split at made
    · cases made
    rename_i r selected
    have selected : selectionForCommit s c = some r := by
      rw [← selected]
      simp only [selectionForCommit, State.append, filterMap_append, filterMap_cons,
        Event.asSelection, filterMap_nil, append_nil]
    split at made
    · cases made
      exact ⟨rfl, c, waiting, rfl, fun _ same => (by cases same)⟩
    · rename_i e eligible
      simp only [bind_eq_ok, pure_eq_ok, Prod.mk.injEq] at made
      obtain ⟨d, decided, rfl, rfl, rfl⟩ := made
      simp only [makeDecision, bind_eq_ok, pure_eq_ok] at decided
      obtain ⟨ref, -, rfl⟩ := decided
      refine ⟨?_, c, waiting, rfl, ?_⟩
      · simp [State.append, State.extend]
      · intro d same
        cases same
        exact ⟨rfl, r, e, selected, eligible, rfl⟩
  · cases made

theorem recordFailureOn_ok {f : RouteFailure}
    (made : recordFailureOn s supplied input = .ok (next, f)) :
    next = s.extend [.failure f] ∧ ∃ c, Open s c ∧ f.routeEvidenceId = c.routeEvidenceId := by
  simp only [recordFailureOn, bind_eq_ok] at made
  obtain ⟨c, found, made⟩ := made
  split at made
  · simp only [bind_eq_ok, pure_eq_ok, Prod.mk.injEq] at made
    obtain ⟨id, -, rfl, rfl⟩ := made
    exact ⟨rfl, c, openCommit_ok found, rfl⟩
  · cases made

theorem recordPendingOn_ok {p : Pending} (made : recordPendingOn s supplied input = .ok (next, p)) :
    next = s.extend [.pending p] ∧ ∃ c, Open s c ∧ p.routeEvidenceId = c.routeEvidenceId := by
  simp only [recordPendingOn, bind_eq_ok, require_eq_ok, pure_eq_ok, Prod.mk.injEq] at made
  obtain ⟨c, found, -, -, id, -, rfl, rfl⟩ := made
  exact ⟨rfl, c, openCommit_ok found, rfl⟩

end Proc17.Runtime.Credit
