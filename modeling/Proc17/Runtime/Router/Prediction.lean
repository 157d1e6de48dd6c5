import Proc17.Runtime.Router.Eligibility

/-!
# What a shadow predicts

The target that each shadow records against the target that the other authority gives
for the same Packet, tick and options.
-/

namespace Proc17.Runtime.Router

open Lua Value
open Core

/-! ## Policies that predict -/

/-- Two answers of `tree_router.predict` that name the same route, or fail alike. -/
def SameRoute : Except Failure Value → Except Failure Value → Prop
  | .ok v, .ok w => v.get "kind" = w.get "kind" ∧ v.get "to" = w.get "to"
  | .error f, .error g => f = g
  | _, _ => False

/-- A tree policy as the source has it: a snapshot names its kind and the tick's operator, a
decision names one of its candidates, and a prediction finds the router's own events in the trace
by their ids only, as `provenance_resolves` and `reason_is_visible` look events up. -/
structure Predictor extends TreePolicy where
  derived : ∀ i tick operator options snapshot, derive i tick operator options = .ok snapshot →
    snapshot.isTable = true ∧ Trace.observerKind (snapshot.get "kind") = true
      ∧ ∀ source, Topology.resolve operator = some source →
        snapshot.get "current_operator" = Topology.value source
  decided : ∀ i snapshot context prediction, predict i snapshot context = .ok prediction →
    prediction.isTable = true ∧ (isDecision prediction = true →
      (∃ target, prediction.get "to" = Topology.value target)
        ∧ ∃ entry, selectedCandidate prediction = .ok (some entry))
  /-- The ids that a prediction looks up. -/
  named : Instance → Value → Context → List Value
  blind : ∀ (i : Instance) context (snapshot first second : Value) (e f : Event),
    telling e.type = true → telling f.type = true →
    snapshot.setField "trace_event_id" e.id = .ok first →
    snapshot.setField "trace_event_id" f.id = .ok second →
    e.id ∉ named i snapshot context → f.id ∉ named i snapshot context →
    SameRoute (predict (i.push e) first context) (predict (i.push f) second context)

/-- The prediction of a position looks up the id that the next event gets in neither lane. -/
def Unforeseen (policy : Predictor) (i : Instance) (tick : Value) (o : Options) : Prop :=
  ∀ snapshot, derivePressure policy.toTreePolicy i tick o = .ok snapshot →
    ∀ lane, Trace.nextTraceId i.packet.trace lane ∉ policy.named i snapshot o.context

/-! ## What a shadow promises -/

def AgreementExact (live : Value) : Prop :=
  let shadow := live.get "shadow"
  shadow.get "agreement" = .bool (agree (shadow.get "predicted_to") (live.get "to"))

def LegacyShadowFaithful (world : World) (policy : TreePolicy) (i : Instance)
    (clock : Nat → Int) (tick : Value) (o : Options) : Prop :=
  ∀ live, (afterTick world policy i clock tick o.treeShadowed).1 = .ok live →
    AgreementExact live ∧
      match (afterTick world policy i clock tick o.legacyAlone).1 with
      | .ok decision => (live.get "shadow").get "predicted_to" = decision.get "to"
      | .error _ => (live.get "shadow").get "predicted_to" = .nil

def treeTarget (outcome : Value) : Value :=
  if isDecision outcome then outcome.get "to" else .nil

def TreeShadowFaithful (world : World) (policy : TreePolicy) (i : Instance)
    (clock : Nat → Int) (tick : Value) (o : Options) : Prop :=
  ∀ live, (afterTick world policy i clock tick o.legacyShadowed).1 = .ok live →
    AgreementExact live ∧
      match (afterTick world policy i clock tick o.treeAlone).1 with
      | .ok outcome => (live.get "shadow").get "predicted_to" = treeTarget outcome
      | .error _ => (live.get "shadow").get "predicted_to" = .nil

/-! ## The historical shadow -/

variable {i k : Instance} {tick shadow : Value} {world : World} {o : Options}

theorem legacyAfterTick_options {operator : Value} {source : Operator}
    (read : tick.index "operator" = .ok operator)
    (resolved : Topology.resolve operator = some source) (away : source ≠ .flow)
    (options other : Value) :
    legacyAfterTick world i tick options = legacyAfterTick world i tick other := by
  have rule : ∀ pressure, legacyChoice source pressure options
      = legacyChoice source pressure other := by
    intro pressure
    cases source <;> first | rfl | exact absurd rfl away
  unfold legacyAfterTick
  rw [read]
  simp only [bind, Except.bind, resolved, rule]

theorem legacyAfterTick_ok {options : Value} {decision : LegacyDecision}
    (made : legacyAfterTick world i tick options = .ok decision) :
    ∃ operator, tick.index "operator" = .ok operator
      ∧ Topology.resolve operator = some decision.source
      ∧ (decision.source = .flow → startOperator options = .ok (some decision.target)) := by
  unfold legacyAfterTick at made
  rw [bind_eq_ok] at made
  obtain ⟨operator, read, made⟩ := made
  refine ⟨operator, read, ?_⟩
  cases resolved : Topology.resolve operator with
  | none => rw [resolved] at made; cases made
  | some source =>
    rw [resolved] at made
    simp only [bind_eq_ok] at made
    obtain ⟨pressure, -, choice, chosen, taken⟩ := made
    obtain ⟨target, reason⟩ := choice
    cases target with
    | none => cases taken
    | some target =>
      simp only [takeRoute, bind_eq_ok, require_eq_ok, pure_eq_ok] at taken
      obtain ⟨-, -, rfl⟩ := taken
      refine ⟨rfl, ?_⟩
      rintro rfl
      simp only [legacyChoice, bind_eq_ok, pure_eq_ok, Prod.mk.injEq] at chosen
      obtain ⟨start, started, rfl, -⟩ := chosen
      exact started

theorem recordShadow_get {now : Int} {recorded : Value} (is : IsShadow shadow)
    (run : recordShadow i now shadow = (.ok recorded, k)) (name : String)
    (other : "trace_event_id" ≠ name) : recorded.get name = shadow.get name := by
  rcases recordShadow_cases i now is with
    ⟨-, err, reply⟩ | ⟨-, -, err, reply⟩ | ⟨-, -, noted, assigned, reply⟩
  · rw [reply] at run
    cases run
  · rw [reply] at run
    cases run
  · rw [reply] at run
    cases run
    exact get_of_setField_other other assigned

theorem legacyShadowTable_get (live predicted reason divergence : Value) (agreement : Bool)
    (status : String) :
    let shadow := legacyShadowTable live predicted reason agreement divergence status
    shadow.get "predicted_to" = predicted ∧ shadow.get "agreement" = .bool agreement :=
  ⟨get_record (by simp) (by simp), get_record (by simp) (by simp)⟩

theorem legacyShadowFromTree_ok {now : Int} {live : Value}
    (run : legacyShadowFromTree world i now tick live o = (.ok shadow, k)) :
    shadow.get "agreement" = .bool (agree (shadow.get "predicted_to") (live.get "to"))
      ∧ ((∃ prediction, legacyAfterTick world i tick o.body = .ok prediction
          ∧ shadow.get "predicted_to" = Topology.value prediction.target)
        ∨ legacyAfterTick world i tick o.body = .error unsupportedRouteSource
          ∧ shadow.get "predicted_to" = .nil) := by
  unfold legacyShadowFromTree at run
  split at run
  · rename_i prediction answered
    have is : IsShadow (observedLegacyShadow live prediction) :=
      (isShadow_legacyShadowTable live _ _ _ _ _).1
    obtain ⟨predicted, agreed⟩ : (observedLegacyShadow live prediction).get "predicted_to"
          = Topology.value prediction.target
        ∧ (observedLegacyShadow live prediction).get "agreement"
          = .bool (agree (Topology.value prediction.target) (live.get "to")) :=
      legacyShadowTable_get live _ _ _ _ _
    rw [recordShadow_get is run "agreement" (by decide),
      recordShadow_get is run "predicted_to" (by decide)]
    refine ⟨?_, .inl ⟨prediction, answered, predicted⟩⟩
    rw [predicted]
    exact agreed
  · rename_i err answered
    split at run
    · rename_i unsupported
      have is : IsShadow (unavailableLegacyShadow live) :=
        (isShadow_legacyShadowTable live _ _ _ _ _).1
      obtain ⟨predicted, agreed⟩ : (unavailableLegacyShadow live).get "predicted_to" = .nil
          ∧ (unavailableLegacyShadow live).get "agreement" = .bool false :=
        legacyShadowTable_get live _ _ _ _ _
      rw [recordShadow_get is run "agreement" (by decide),
        recordShadow_get is run "predicted_to" (by decide)]
      refine ⟨?_, .inr ⟨by rw [answered, unsupported]; rfl, predicted⟩⟩
      rw [predicted]
      exact agreed
    · cases run
  · cases run

theorem ne_nil_of_get {v : Value} {name : String} (present : v.get name ≠ .nil) : v ≠ .nil := by
  rintro rfl
  exact present rfl

theorem withShadow_ok {live marked : Value} {reply : Reply Instance Value}
    (run : (withShadow live reply).1 = .ok marked) :
    ∃ shadow, reply.1 = .ok shadow ∧ (shadow ≠ .nil → marked.get "shadow" = shadow)
      ∧ ∀ name, "shadow" ≠ name → marked.get name = live.get name := by
  obtain ⟨answer, k⟩ := reply
  cases answer with
  | error failure => cases run
  | ok shadow =>
    rw [withShadow, Reply.andThen] at run
    exact ⟨shadow, rfl, fun present => get_of_setField present run,
      fun name other => get_of_setField_other other run⟩

theorem legacyAfterTick_flow {options operator : Value} {decision : LegacyDecision}
    (read : tick.index "operator" = .ok operator)
    (resolved : Topology.resolve operator = some .flow)
    (made : legacyAfterTick world i tick options = .ok decision) :
    ∃ plain, legacyAfterTick world i tick .emptyTable = .ok plain ∧ plain.target = .observe := by
  unfold legacyAfterTick at made ⊢
  rw [read] at made ⊢
  simp only [bind, Except.bind, resolved] at made ⊢
  cases sensed : legacyPressureSnapshot world i tick with
  | error failure => rw [sensed] at made; cases made
  | ok pressure => exact ⟨⟨.flow, .observe, "runner_entry", pressure⟩, rfl, rfl⟩

theorem legacyShadow_predicts (world : World) (policy : TreePolicy) (i : Instance)
    (clock : Nat → Int) (tick live : Value) (o : Options)
    (run : (afterTreeTick world policy i clock tick o.treeShadowed).1 = .ok live) :
    AgreementExact live ∧ ∃ operator source, tick.index "operator" = .ok operator
      ∧ Topology.resolve operator = some source
      ∧ (source ≠ .flow →
        match legacyAfterTick world i tick .emptyTable with
        | .ok decision => (live.get "shadow").get "predicted_to" = Topology.value decision.target
        | .error _ => (live.get "shadow").get "predicted_to" = .nil)
      ∧ (source = .flow →
        ∃ start decision, startOperator o.body = .ok (some start)
          ∧ (live.get "shadow").get "predicted_to" = Topology.value start
          ∧ legacyAfterTick world i tick .emptyTable = .ok decision
          ∧ decision.target = .observe) := by
  have kept : o.treeShadowed.legacyShadow ≠ .bool false := by
    unfold Options.treeShadowed
    by_cases off : o.legacyShadow = .bool false <;> simp [off]
  unfold afterTreeTick at run
  rw [show treeAuthority policy i clock tick o.treeShadowed
    = treeAuthority policy i clock tick o from rfl] at run
  cases authority : treeAuthority policy i clock tick o with
  | mk answer k =>
    rw [authority] at run
    cases answer with
    | error failure => cases run
    | ok decision =>
      obtain ⟨first, second, toldFirst, toldSecond, rfl, table, -⟩ := treeAuthority_ok authority
      rw [Reply.andThen, if_neg kept] at run
      obtain ⟨shadow, left, reads, others⟩ := withShadow_ok run
      have reply : legacyShadowFromTree world ((i.push first).push second) (clock 2) tick
          decision o.treeShadowed = (.ok shadow, (legacyShadowFromTree world
            ((i.push first).push second) (clock 2) tick decision o.treeShadowed).2) :=
        Prod.ext left rfl
      obtain ⟨agreed, answered⟩ := legacyShadowFromTree_ok reply
      have here := reads (ne_nil_of_get (by rw [agreed]; simp))
      rw [legacyAfterTick_push world _ toldSecond, legacyAfterTick_push world _ toldFirst,
        show o.treeShadowed.body = o.body from rfl] at answered
      refine ⟨?_, ?_⟩
      · unfold AgreementExact
        rw [here, others "to" (by decide)]
        exact agreed
      rw [here]
      rcases answered with ⟨prediction, made, predicted⟩ | ⟨refused, absent⟩
      · obtain ⟨operator, read, resolved, started⟩ := legacyAfterTick_ok made
        refine ⟨operator, prediction.source, read, resolved, ?_, ?_⟩
        · intro away
          rw [legacyAfterTick_options read resolved away .emptyTable o.body, made]
          exact predicted
        · intro atFlow
          obtain ⟨plain, answers, observes⟩ :=
            legacyAfterTick_flow read (resolved.trans (congrArg some atFlow)) made
          exact ⟨prediction.target, plain, started atFlow, predicted, answers, observes⟩
      · -- the refusal that stands for an operator without a rule
        obtain ⟨operator, source, pressure, read, resolved, sensed, routable⟩ :=
          (legacyAfterTick_answers_iff world i tick o.body).mp (.inr refused)
        have away : source ≠ .flow := by
          rintro rfl
          obtain ⟨target, started, near⟩ := routable
          unfold legacyAfterTick at refused
          rw [read] at refused
          simp only [bind, Except.bind, resolved, sensed, legacyChoice, started, pure,
            Except.pure, takeRoute, near, require, if_true] at refused
          cases refused
        refine ⟨operator, source, read, resolved, ?_, fun atFlow => absurd atFlow away⟩
        intro _
        rw [legacyAfterTick_options read resolved away .emptyTable o.body, refused]
        exact absent

/-! ## The tree's shadow -/

theorem treeShadowError_get (live : LegacyDecision) (err ref : Value) :
    (treeShadowError live err ref).get "predicted_to" = .nil
      ∧ (treeShadowError live err ref).get "agreement" = .bool false :=
  ⟨get_record_absent (by simp), get_record (by simp) (by simp)⟩

theorem observedTreeShadow_get (live : LegacyDecision) (snapshot prediction : Value) :
    (observedTreeShadow live snapshot prediction).get "predicted_to" = predictedTo prediction
      ∧ (observedTreeShadow live snapshot prediction).get "agreement"
        = .bool (agree (predictedTo prediction) (Topology.value live.target)) :=
  ⟨get_record (by simp) (by simp), get_record (by simp) (by simp)⟩

/-- A shadow that agrees exactly when its prediction is the live target. -/
def Exact (live : LegacyDecision) (shadow : Value) : Prop :=
  shadow.get "agreement"
    = .bool (agree (shadow.get "predicted_to") (Topology.value live.target))

theorem exact_treeShadowError (live : LegacyDecision) (err ref : Value) :
    Exact live (treeShadowError live err ref) := by
  obtain ⟨absent, disagrees⟩ := treeShadowError_get live err ref
  rw [Exact, absent, disagrees]
  rfl

theorem exact_protectedShadow (policy : TreePolicy) (i : Instance) (now : Int) (tick : Value)
    (live : LegacyDecision) (o : Options) :
    Exact live (protectedShadow live (deriveShadow policy i now tick live o).1) := by
  have predicted : ∀ j snapshot shadow, predictShadow policy j snapshot live o = .ok shadow →
      Exact live shadow := by
    intro j snapshot shadow made
    unfold predictShadow at made
    split at made
    · simp only [bind_eq_ok, pure_eq_ok] at made
      obtain ⟨-, -, rfl⟩ := made
      obtain ⟨target, agreed⟩ := observedTreeShadow_get live snapshot _
      rw [Exact, target, agreed]
    · cases made
      exact exact_treeShadowError live _ _
    · cases made
  cases made : (deriveShadow policy i now tick live o).1 with
  | error failure => exact exact_treeShadowError live _ _
  | ok shadow =>
    unfold deriveShadow at made
    split at made
    · cases made
      exact exact_treeShadowError live _ _
    · cases made
    · split at made
      · cases made
        exact exact_treeShadowError live _ _
      · cases made
      · exact predicted _ _ shadow made

theorem shadowWithoutAuthority_get {policy : TreePolicy} {clock : Nat → Int} {live : LegacyDecision}
    (run : (shadowWithoutAuthority policy i clock tick live o).1 = .ok shadow) (name : String)
    (event : "trace_event_id" ≠ name) (error : "trace_error" ≠ name) :
    shadow.get name
      = (protectedShadow live (deriveShadow policy i (clock 0) tick live o).1).get name := by
  obtain ⟨is, -⟩ := isShadow_protectedShadow policy i (clock 0) tick live o
  unfold shadowWithoutAuthority at run
  dsimp only at run
  split at run
  · exact get_of_setField_other error run
  · cases recorded : recordShadow (deriveShadow policy i (clock 0) tick live o).2 (clock 1)
        (protectedShadow live (deriveShadow policy i (clock 0) tick live o).1) with
    | mk answer k =>
      rw [recorded] at run
      dsimp only at run
      rw [run] at recorded
      exact recordShadow_get is recorded name event

/-- The tree's answer against a prediction: the same target, nothing for a refusal, and no
claim where the call raises. -/
def Foretells (predicted : Value) : Except Failure Value → Prop
  | .ok outcome => predicted = treeTarget outcome
  | .error (.refused _) => predicted = .nil
  | .error _ => True

theorem foretells_of_thrown (predicted : Value) {failure : Failure} (thrown : Thrown failure) :
    Foretells predicted (.error failure) := by
  cases failure with
  | refused err => exact absurd rfl (thrown err)
  | raised | fault => trivial

theorem treeLive_foretells {snapshot prediction : Value} {derivation : Event}
    (target : isDecision prediction = true → ∃ target, prediction.get "to" = Topology.value target)
    (selects : isDecision prediction = true → Selects prediction) :
    Foretells (predictedTo prediction) (treeLive snapshot prediction derivation) := by
  unfold treeLive
  by_cases decided : isDecision prediction = true
  · obtain ⟨operator, named⟩ := target decided
    obtain ⟨entry, found⟩ := selects decided
    rw [if_pos decided, predictedTo, if_pos decided, named]
    unfold treeDecision
    simp only [found, bind, Except.bind]
    cases planned : selectedPlanId (some entry) with
    | error failure => exact foretells_of_thrown _ (thrown_selectedPlanId _ failure planned)
    | ok planId =>
      have kind : isDecision (decisionTable snapshot prediction entry.2 planId derivation)
          = true := by
        have named : (decisionTable snapshot prediction entry.2 planId derivation).get "kind"
            = .text "tree_route_decision" := get_record (by simp) (by simp)
        simp [isDecision, named]
      have reached : (decisionTable snapshot prediction entry.2 planId derivation).get "to"
          = prediction.get "to" := get_record (by simp) (by simp)
      show _ = treeTarget _
      rw [treeTarget, if_pos kind, reached, named]
      rfl
  · rw [if_neg decided, predictedTo, if_neg decided]
    cases made : treeOutcome snapshot prediction derivation with
    | error failure => exact foretells_of_thrown _ (thrown_treeOutcome _ _ _ failure made)
    | ok outcome =>
      unfold treeOutcome at made
      simp only [bind_eq_ok] at made
      obtain ⟨a, first, b, second, c, third, d, fourth, fifth⟩ := made
      have kind : outcome.get "kind" = prediction.get "kind" := by
        rw [get_of_setField_other (by decide) fifth,
          get_of_setField_other (by decide) fourth,
          get_of_setField_other (by decide) third,
          get_of_setField_other (by decide) second,
          get_of_setField_other (by decide) first]
      show _ = treeTarget _
      rw [treeTarget, if_neg]
      unfold isDecision at decided ⊢
      rw [kind]
      exact decided

theorem given_ok {v : Value} (table : v.isTable = true) : given (.ok v) = .ok v := by
  cases v with
  | table tag entries => rfl
  | _ => cases table

theorem prediction_foretells {policy : Predictor} {j : Instance} {clock : Nat → Int}
    {own watched : Value} {live : LegacyDecision}
    (alike : SameRoute (policy.predict j own o.context) (policy.predict k watched o.context))
    (acting : Acting j.packet (own.get "current_operator")) :
    Foretells
      ((protectedShadow live (predictShadow policy.toTreePolicy k watched live o)).get
        "predicted_to")
      (match given (policy.predict j own o.context) >>= normalizeTreeEligibility own with
        | .error failure => ((.error failure, j) : Reply Instance Value)
        | .ok prediction =>
          (recordDerivation j (clock 1) own prediction).andThen fun derivation k =>
            (treeLive own prediction derivation, k)).1 := by
  cases mine : policy.predict j own o.context with
  | error failure =>
    rw [mine] at alike
    cases theirs : policy.predict k watched o.context with
    | ok prediction => rw [theirs] at alike; cases alike
    | error other =>
      rw [theirs] at alike
      cases alike
      -- the shadow of a failed prediction names no target
      have silent : (protectedShadow live (predictShadow policy.toTreePolicy k watched
          live o)).get "predicted_to" = .nil := by
        unfold predictShadow
        rw [theirs]
        cases failure <;> exact (treeShadowError_get live _ _).1
      rw [silent]
      cases failure <;> trivial
  | ok prediction =>
    rw [mine] at alike
    cases theirs : policy.predict k watched o.context with
    | error other => rw [theirs] at alike; cases alike
    | ok foreseen =>
      rw [theirs] at alike
      obtain ⟨sameKind, sameTarget⟩ := alike
      obtain ⟨table, decided⟩ := policy.decided j own o.context prediction mine
      obtain ⟨otherTable, -⟩ := policy.decided k watched o.context foreseen theirs
      have shown : (protectedShadow live (predictShadow policy.toTreePolicy k watched
          live o)).get "predicted_to" = predictedTo foreseen := by
        unfold predictShadow
        rw [theirs, given_ok otherTable]
        simp only [index_eq_get otherTable, bind, Except.bind, protectedShadow, pure, Except.pure]
        exact (observedTreeShadow_get live watched foreseen).1
      rw [shown, given_ok table]
      cases normalized : normalizeTreeEligibility own prediction with
      | error failure =>
        simp only [bind, Except.bind, normalized]
        exact foretells_of_thrown _ (thrown_normalizeTreeEligibility _ _ failure normalized)
      | ok normal =>
        obtain ⟨-, kind, target, selects⟩ := normalizeTreeEligibility_ok table normalized
        have same : predictedTo foreseen = predictedTo normal := by
          unfold predictedTo isDecision
          rw [← sameKind, ← sameTarget, kind, target]
        have stillDecided : isDecision normal = true → isDecision prediction = true := by
          unfold isDecision
          rw [kind]
          exact id
        simp only [bind, Except.bind, normalized]
        cases recorded : recordDerivation j (clock 1) own normal with
        | mk answer state =>
          cases answer with
          | ok derivation =>
            rw [same]
            refine treeLive_foretells ?_ ?_
            · intro decision
              rw [target]
              exact (decided (stillDecided decision)).1
            · intro decision
              exact selects (decided (stillDecided decision)).2
          | error failure =>
            refine foretells_of_thrown _ ?_
            exact thrown_recordDerivation (clock 1) acting failure
              (congrArg Prod.fst recorded)

theorem treeAuthority_foretold (policy : Predictor) (i : Instance) (clock : Nat → Int)
    (tick operator : Value) (live : LegacyDecision) (o : Options)
    (read : tick.index "operator" = .ok operator)
    (resolved : Topology.resolve operator = some live.source)
    (unforeseen : Unforeseen policy i tick o)
    (room : Acting i.packet (Topology.value live.source) →
      ObserverIdFree (deriveShadow policy.toTreePolicy i (clock 0) tick live o).2.packet.trace) :
    Foretells
      ((protectedShadow live (deriveShadow policy.toTreePolicy i (clock 0) tick live o).1).get
        "predicted_to")
      (treeAuthority policy.toTreePolicy i clock tick o).1 := by
  unfold treeAuthority deriveShadow at *
  cases derivation : derivePressure policy.toTreePolicy i tick o with
  | error failure =>
    cases failure with
    | refused err => exact (treeShadowError_get live _ _).1
    | raised | fault => trivial
  | ok pressure =>
    rw [derivation] at room
    dsimp only at room ⊢
    -- the snapshot is one of the policy's, taken at the tick's operator
    have made : policy.derive i tick operator o.body = .ok pressure := by
      unfold derivePressure given at derivation
      rw [read] at derivation
      simp only [bind_eq_ok, Except.ok.injEq, exists_eq_left'] at derivation
      obtain ⟨v, derived, kept⟩ := derivation
      split at kept
      · cases kept
        exact derived
      · cases kept
    obtain ⟨table, kind, placed⟩ := policy.derived i tick operator o.body pressure made
    have here := placed live.source resolved
    have evidence : Trace.observerEvidence .tensionMeasure pressure = true := by
      simp [Trace.observerEvidence, table, kind]
    have index : pressure.index "current_operator" = .ok (Topology.value live.source) := by
      rw [index_eq_get table, here]
    unfold recordPressureSnapshot at room ⊢
    rw [index] at room ⊢
    dsimp only at room ⊢
    rw [if_pos rfl] at room ⊢
    rw [if_neg Bool.false_ne_true]
    rcases appendTrace_observer i (clock 0) (Topology.value live.source) pressure evidence with
      ⟨idle, err, reply⟩ | ⟨acting, used, err, reply⟩ | ⟨acting, unused, reply⟩
    · -- away from a visit both lanes refuse the snapshot
      rw [reply]
      rcases tracePlan_router i.packet .tensionMeasure rfl (Topology.value live.source) pressure
        .nil with ⟨-, acting⟩ | ⟨⟨err', planned⟩, -⟩
      · exact absurd acting idle
      · have refused : i.appendTrace (clock 0) (routerEvent .tensionMeasure
            (Topology.value live.source) pressure .nil) = (.error (.refused err'), i) := by
          unfold Instance.appendTrace Packet.appendTrace
          rw [planned, transact_error]
        rw [refused]
        exact (treeShadowError_get live _ _).1
    · -- a shadow without room for its snapshot is not left
      rw [reply] at room
      exact absurd (room acting) used
    · rw [reply]
      obtain ⟨watched, marked⟩ := setField_table table "trace_event_id"
        (observerEvent i.packet (clock 0) pressure).id
      simp only [Reply.andThen, marked]
      have spec := appendTrace_ok i (clock 0) .tensionMeasure rfl (Topology.value live.source)
        pressure .nil
      have thrown := @thrown_appendTrace i (clock 0) .tensionMeasure rfl _ pressure .nil acting
      cases appended : i.appendTrace (clock 0) (routerEvent .tensionMeasure
          (Topology.value live.source) pressure .nil) with
      | mk answer j =>
        rw [appended] at spec thrown
        cases answer with
        | error failure => exact foretells_of_thrown _ (thrown failure rfl)
        | ok event =>
          obtain ⟨-, stored, pushed⟩ := spec event rfl
          obtain ⟨told, identified⟩ := told_of_stored rfl stored
          obtain ⟨own, noted⟩ := setField_table table "trace_event_id" event.id
          dsimp only at pushed
          simp only [noted]
          rw [pushed]
          refine prediction_foretells ?_ ?_
          · exact policy.blind i o.context pressure own watched event _ told.telling rfl noted marked
              (identified ▸ unforeseen pressure derivation .body)
              (unforeseen pressure derivation .observerInstrumentation)
          · rw [get_of_setField_other (by decide) noted, here]
            exact (acting_push told.telling _).mpr acting

theorem treeShadow_predicts (world : World) (policy : Predictor) (i : Instance)
    (clock : Nat → Int) (tick live : Value) (o : Options)
    (run : (afterLegacyTick world policy.toTreePolicy i clock tick o true).1 = .ok live) :
    AgreementExact live ∧ (Unforeseen policy i tick o →
      Foretells ((live.get "shadow").get "predicted_to")
        (treeAuthority policy.toTreePolicy i clock tick o).1) := by
  unfold afterLegacyTick at run
  cases answered : legacyAfterTick world i tick .emptyTable with
  | error failure => rw [answered] at run; cases run
  | ok decision =>
    rw [answered] at run
    dsimp only at run
    rw [if_pos rfl] at run
    obtain ⟨operator, read, resolved, -⟩ := legacyAfterTick_ok answered
    obtain ⟨shadow, left, reads, others⟩ := withShadow_ok run
    have fields := shadowWithoutAuthority_get left
    have exactly := exact_protectedShadow policy.toTreePolicy i (clock 0) tick decision o
    rw [Exact, ← fields "agreement" (by decide) (by decide),
      ← fields "predicted_to" (by decide) (by decide)] at exactly
    have here := reads (ne_nil_of_get (by rw [exactly]; simp))
    have room := (shadowWithoutAuthority_succeeds_iff policy.toTreePolicy i clock tick decision
      o).mp ⟨shadow, left⟩
    refine ⟨?_, ?_⟩
    · unfold AgreementExact
      rw [here, others "to" (by decide)]
      exact exactly
    · intro unforeseen
      rw [here, fields "predicted_to" (by decide) (by decide)]
      refine treeAuthority_foretold policy i clock tick operator decision o read resolved unforeseen
        fun acting => ?_
      exact (deriveShadow_idFree _ i (clock 0) tick decision o).mpr (room acting)

/-! ## What the shadows predict -/

/-- At an operator other than FLOW the historical shadow predicts the answer of the
historical mode; at FLOW it predicts the start operator it is given, while the historical
mode reads no options and answers OBSERVE. -/
def LegacyForetold (predicted tick : Value) (o : Options) (answer : Except Failure Value) :
    Prop :=
  ∃ operator source, tick.index "operator" = .ok operator
    ∧ Topology.resolve operator = some source
    ∧ (source ≠ .flow →
      match answer with
      | .ok decision => predicted = decision.get "to"
      | .error _ => predicted = .nil)
    ∧ (source = .flow → ∃ start decision, startOperator o.body = .ok (some start)
      ∧ predicted = Topology.value start ∧ answer = .ok decision
      ∧ decision.get "to" = Topology.value .observe)

theorem toValue_target (decision : LegacyDecision) :
    decision.toValue.get "to" = Topology.value decision.target :=
  get_record (by simp) (by simp)

/-- Each shadow notes the target that the other authority gives in the same position, and
whether it is the live one; the tree's shadow where no id looked up is one that its own event or
the tree's gets. -/
theorem shadow_predictions (world : World) (policy : Predictor) (i : Instance)
    (clock : Nat → Int) (tick : Value) (o : Options) :
    (∀ live, (afterTick world policy.toTreePolicy i clock tick o.treeShadowed).1 = .ok live →
      AgreementExact live
        ∧ LegacyForetold ((live.get "shadow").get "predicted_to") (tick.orElse .emptyTable) o
          (afterTick world policy.toTreePolicy i clock tick o.legacyAlone).1)
      ∧ ∀ live,
        (afterTick world policy.toTreePolicy i clock tick o.legacyShadowed).1 = .ok live →
        AgreementExact live
          ∧ (Unforeseen policy i (tick.orElse .emptyTable) o →
            Foretells ((live.get "shadow").get "predicted_to")
              (afterTick world policy.toTreePolicy i clock tick o.treeAlone).1) := by
  have plain : (afterTick world policy.toTreePolicy i clock tick o.legacyAlone).1
      = (legacyAfterTick world i (tick.orElse .emptyTable) .emptyTable).map
        LegacyDecision.toValue := by
    show (afterLegacyTick _ _ _ _ _ _ false).1 = _
    unfold afterLegacyTick
    cases legacyAfterTick world i (tick.orElse .emptyTable) .emptyTable <;> rfl
  have alone : (afterTick world policy.toTreePolicy i clock tick o.treeAlone).1
      = (treeAuthority policy.toTreePolicy i clock (tick.orElse .emptyTable) o).1 := by
    show (afterTreeTick _ _ _ _ _ _).1 = _
    unfold afterTreeTick
    rw [show treeAuthority policy.toTreePolicy i clock (tick.orElse .emptyTable) o.treeAlone
      = treeAuthority policy.toTreePolicy i clock (tick.orElse .emptyTable) o from rfl]
    cases treeAuthority policy.toTreePolicy i clock (tick.orElse .emptyTable) o with
    | mk answer k =>
      cases answer with
      | error failure => rfl
      | ok live => rw [Reply.andThen, if_pos (by rfl)]
  constructor
  · intro live run
    obtain ⟨agreed, operator, source, read, resolved, away, atFlow⟩ :=
      legacyShadow_predicts world policy.toTreePolicy i clock (tick.orElse .emptyTable) live o run
    refine ⟨agreed, operator, source, read, resolved, ?_, ?_⟩
    · intro elsewhere
      have predicted := away elsewhere
      rw [plain]
      cases answered : legacyAfterTick world i (tick.orElse .emptyTable) .emptyTable with
      | error failure =>
        rw [answered] at predicted
        exact predicted
      | ok decision =>
        rw [answered] at predicted
        show _ = decision.toValue.get "to"
        rw [toValue_target]
        exact predicted
    · intro flow
      obtain ⟨start, decision, started, predicted, answered, observes⟩ := atFlow flow
      refine ⟨start, decision.toValue, started, predicted, ?_, ?_⟩
      · rw [plain, answered]
        rfl
      · rw [toValue_target, observes]
  · intro live run
    rw [alone]
    exact treeShadow_predicts world policy i clock (tick.orElse .emptyTable) live o run

/-! ## A policy that reads the trace -/

theorem quietPolicy_derived (i : Instance) (tick operator options snapshot : Value)
    (made : quietPolicy.derive i tick operator options = .ok snapshot) :
    snapshot.isTable = true ∧ Trace.observerKind (snapshot.get "kind") = true
      ∧ ∀ source, Topology.resolve operator = some source →
        snapshot.get "current_operator" = Topology.value source := by
  unfold quietPolicy at made
  dsimp only at made
  split at made
  · cases made
  · rename_i source resolved
    cases made
    have kind : (Value.record [("kind", .text "edge_pressure_snapshot"),
        ("packet_id", i.packet.id), ("current_operator", Topology.value source),
        ("derivation_version", .text "pressure.binary.v0"),
        ("contributions", .emptyTable)]).get "kind" = .text "edge_pressure_snapshot" :=
      Value.get_record (by simp) (by simp)
    refine ⟨rfl, by rw [kind]; decide, ?_⟩
    intro other same
    rw [resolved] at same
    cases same
    exact Value.get_record (by simp) (by simp)

def citedDecision : Value :=
  .record [("kind", .text "tree_route_decision"), ("to", Topology.value .connect),
    ("candidates", .array [.record [("to", Topology.value .connect), ("total", .nat 1)]])]

/-- A policy whose need rests on an event of the trace that the options name. -/
def citingPolicy : TreePolicy where
  derive := quietPolicy.derive
  predict i _ context :=
    if i.packet.trace.any fun event => event.id = context.options.get "provenance" then
      .ok citedDecision
    else .error (refuse "unresolved qualified provenance ref")

def citingPredictor : Predictor where
  toTreePolicy := citingPolicy
  derived := quietPolicy_derived
  decided i snapshot context prediction made := by
    unfold citingPolicy at made
    dsimp only at made
    split at made
    · cases made
      exact ⟨rfl, fun _ => ⟨⟨.connect, by decide⟩, _, rfl⟩⟩
    · cases made
  named _ _ context := [context.options.get "provenance"]
  blind i context snapshot first second e f _ _ _ _ unread unread' := by
    rw [List.mem_singleton] at unread unread'
    have elsewhere : ∀ event : Event, event.id ≠ context.options.get "provenance" →
        citingPolicy.predict (i.push event) first context = citingPolicy.predict i first context := by
      intro event other
      simp [citingPolicy, Instance.push, Packet.push, other]
    show SameRoute (citingPolicy.predict _ first context) (citingPolicy.predict _ first context)
    rw [elsewhere e unread, elsewhere f unread']
    unfold citingPolicy
    dsimp only
    split
    · exact ⟨rfl, rfl⟩
    · rfl

def citing (id : String) : Options :=
  { strayStart with options := .record [("provenance", .text id)] }

def connectStart : Options :=
  { strayStart with options := .record [("start_operator", Topology.value .connect)] }

def tells (test : Value → Value → Bool) : Except Failure Value → Except Failure Value → Bool
  | .ok live, .ok decision => test ((live.get "shadow").get "predicted_to") decision
  | _, _ => false

theorem tells_eq_true {test : Value → Value → Bool} {shadowed alone : Except Failure Value}
    (told : tells test shadowed alone = true) :
    ∃ live decision, shadowed = .ok live ∧ alone = .ok decision
      ∧ test ((live.get "shadow").get "predicted_to") decision = true := by
  cases shadowed with
  | error failure => cases told
  | ok live =>
    cases alone with
    | error failure => cases told
    | ok decision => exact ⟨live, decision, rfl, rfl, told⟩

/-- Where the need rests on the birth, the shadow predicts what the tree decides. -/
theorem shadow_predictions_cited :
    ∃ p live decision, Packet.new Packet.refusingSchemas 1 0 (.text "task") .nil = .ok p
      ∧ (afterTick emptyWorld citingPolicy (bare p) (fun _ => 0) flowTick
        (citing "event-1").legacyShadowed).1 = .ok live
      ∧ (afterTick emptyWorld citingPolicy (bare p) (fun _ => 0) flowTick
        (citing "event-1").treeAlone).1 = .ok decision
      ∧ treeTarget decision = Topology.value .connect ∧ AgreementExact live
      ∧ (live.get "shadow").get "predicted_to" = treeTarget decision := by
  obtain ⟨p, born, passed⟩ := Packet.task_born_passing
    (fun p => tells (fun _ decision => treeTarget decision = Topology.value .connect)
        (afterTick emptyWorld citingPolicy (bare p) (fun _ => 0) flowTick
          (citing "event-1").legacyShadowed).1
        (afterTick emptyWorld citingPolicy (bare p) (fun _ => 0) flowTick
          (citing "event-1").treeAlone).1
      && [Lane.body, .observerInstrumentation].all fun lane =>
        Trace.nextTraceId p.trace lane ≠ .text "event-1")
    (by decide +kernel)
  simp only [Bool.and_eq_true, List.all_cons, List.all_nil, decide_eq_true_eq, and_true] at passed
  obtain ⟨told, body, observer⟩ := passed
  obtain ⟨live, decision, shadowed, alone, target⟩ := tells_eq_true told
  have unforeseen : Unforeseen citingPredictor (bare p) flowTick (citing "event-1") := by
    intro snapshot _ lane
    have cited : citingPredictor.named (bare p) snapshot (citing "event-1").context
        = [.text "event-1"] := rfl
    rw [cited, List.mem_singleton]
    cases lane with
    | body => exact body
    | observerInstrumentation => exact observer
  obtain ⟨-, shadows⟩ := shadow_predictions emptyWorld citingPredictor (bare p) (fun _ => 0)
    flowTick (citing "event-1")
  obtain ⟨exactly, foretold⟩ := shadows live shadowed
  have foretells := foretold unforeseen
  rw [show (afterTick emptyWorld citingPredictor.toTreePolicy (bare p) (fun _ => 0) flowTick
    (citing "event-1").treeAlone).1 = .ok decision from alone] at foretells
  exact ⟨p, live, decision, born, shadowed, alone, of_decide_eq_true target, exactly, foretells⟩

/-- At FLOW with a start operator the historical shadow predicts another target than the
historical mode answers; a need that rests on the snapshot's own event in the body lane is met by
the tree's authority and not by its shadow. -/
theorem shadows_mispredict :
    ∃ p, Packet.new Packet.refusingSchemas 1 0 (.text "task") .nil = .ok p
      ∧ ¬ LegacyShadowFaithful emptyWorld quietPolicy (bare p) (fun _ => 0) flowTick connectStart
      ∧ ¬ TreeShadowFaithful emptyWorld citingPolicy (bare p) (fun _ => 0) flowTick
        (citing "event-2") := by
  obtain ⟨p, born, differ⟩ := Packet.task_born_passing
    (fun p =>
      tells (fun predicted decision => predicted ≠ decision.get "to")
        (afterTick emptyWorld quietPolicy (bare p) (fun _ => 0) flowTick
          connectStart.treeShadowed).1
        (afterTick emptyWorld quietPolicy (bare p) (fun _ => 0) flowTick
          connectStart.legacyAlone).1
      && tells (fun predicted decision => predicted ≠ treeTarget decision)
        (afterTick emptyWorld citingPolicy (bare p) (fun _ => 0) flowTick
          (citing "event-2").legacyShadowed).1
        (afterTick emptyWorld citingPolicy (bare p) (fun _ => 0) flowTick
          (citing "event-2").treeAlone).1)
    (by decide +kernel)
  rw [Bool.and_eq_true] at differ
  refine ⟨p, born, ?_, ?_⟩
  · intro faithful
    obtain ⟨live, decision, shadowed, alone, apart⟩ := tells_eq_true differ.1
    obtain ⟨-, predicted⟩ := faithful live shadowed
    rw [alone] at predicted
    exact of_decide_eq_true apart predicted
  · intro faithful
    obtain ⟨live, decision, shadowed, alone, apart⟩ := tells_eq_true differ.2
    obtain ⟨-, predicted⟩ := faithful live shadowed
    rw [alone] at predicted
    exact of_decide_eq_true apart predicted

end Proc17.Runtime.Router
