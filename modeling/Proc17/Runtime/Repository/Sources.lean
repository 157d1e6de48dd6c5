import Proc17.Runtime.Repository.Exercise
import Proc17.Runtime.Repository.Ownership

/-!
# QA sources over whole runs

What `with_qa_source` gives back is detached from the source, and every handle has one
owner in every run.
-/

namespace Proc17.Runtime.Repository.Registry

open Lua Core Proc17.Custody List

variable {asked : Value → Prop}

/-! ## Values inside values -/

/-- No reference, no metatable and no key but numbers and the strings that are allowed. -/
def Public : Value → Prop
  | .ref _ _ => False
  | .table tag entries => tag.metatable = false ∧ ∀ entry ∈ entries, detachedKey entry.1 = .ok ()
  | _ => True

def Detached (v : Value) : Prop := ∀ x, Within x v → Public x

theorem detached_str (s : Bytes) : Detached (.str s) := by
  intro x inside
  cases inside
  trivial

/-! ## Detaching -/

theorem detached_iff (handle provider v : Value) :
    (sourceGate handle provider).Detached v ↔ Detached v := Iff.rfl

theorem detach_detached {handle provider v out : Value} {seen : List Nat}
    (copied : detach handle provider seen v = .ok out) : Detached out :=
  (detached_iff handle provider out).mp (Gate.detach_detached v seen out copied)

abbrev consumerGate : Gate := sourceGate .nil .nil

open Gate (guarded_ok guarded_refuse guarded_require)

theorem detach_guarded (handle provider v : Value) (seen : List Nat) :
    consumerGate.Guarded (detach handle provider seen v) :=
  @Gate.detach_guarded (sourceGate handle provider) v seen

theorem consumerAnswer_detached (handle provider : Value) (outcome : Outcome) :
    consumerGate.Guarded (consumerAnswer handle provider outcome)
      ∧ ∀ v, consumerAnswer handle provider outcome = .ok v → Detached v := by
  cases outcome with
  | raised err =>
    constructor
    · intro v refused
      cases refused
      exact detached_str _
    · intro v answered
      cases answered
  | returned values =>
    simp only [consumerAnswer]
    split
    · refine ⟨guarded_refuse _, ?_⟩
      intro v answered
      cases answered
    · split
      · cases copied : detach handle provider [] (values.getD 1 .nil) with
        | error failure =>
          constructor
          · intro v refused
            cases refused
            exact detach_guarded handle provider (values.getD 1 .nil) [] v copied
          · intro v answered
            cases answered
        | ok out =>
          constructor
          · intro v refused
            cases refused
            unfold Value.orElse
            split
            · exact detach_detached copied
            · exact detached_str _
          · intro v answered
            cases answered
      · exact ⟨detach_guarded _ _ _ _, fun v => detach_detached⟩

theorem liveSource_guarded (r : Registry) (lease : QaLease) : consumerGate.Guarded (r.liveSource lease) := by
  unfold liveSource
  cases r.roots lease.rootId with
  | none =>
    intro v refused
    cases refused
  | some root =>
    simp only
    cases root.qaSource with
    | none => exact guarded_refuse _
    | some source =>
      simp only
      cases source.handle with
      | none => exact guarded_refuse _
      | some handle => exact (guarded_require _ _).bind fun _ => guarded_ok _

theorem withPlan_guarded (r : Registry) (i : Nat) (consumer : Value) :
    consumerGate.Guarded (r.withPlan i consumer) := by
  have leased : consumerGate.Guarded (r.qaLeaseAt i) := by
    unfold qaLeaseAt
    cases r.qaLeases[i]? with
    | none => exact guarded_refuse _
    | some lease => exact guarded_ok lease
  unfold withPlan
  refine leased.bind fun lease => ?_
  refine (guarded_require _ _).bind fun _ => ?_
  refine (liveSource_guarded r lease).bind fun live => ?_
  refine (guarded_require _ _).bind fun _ => ?_
  exact (guarded_require _ _).bind fun _ => guarded_ok live

def Returned {σ : Type} (reply : Reply σ Value) (v : Value) : Prop :=
  reply.1 = .ok v ∨ reply.1 = .error (.refused v)

theorem withQaSource_detached (r : Registry) (w : World) (i : Nat) (consumer : Value) {v : Value}
    (returned : Returned (r.withQaSource w i consumer) v) : Detached v := by
  unfold withQaSource at returned
  obtain ⟨failure, planned, refused⟩ | ⟨live, -, done⟩ :=
    transact_cases (r.withPlan i consumer) _ r
  · rw [refused] at returned
    rcases returned with answered | rejected
    · cases answered
    · cases rejected
      exact withPlan_guarded r i consumer v planned
  · rw [done] at returned
    have answer :=
      consumerAnswer_detached (handleValue live.handle) (r.provider.getD .nil) w.consumer
    rcases returned with answered | rejected
    · exact answer.2 v answered
    · exact answer.1 v rejected

/-! ## The provider -/

theorem within_of_lookup {key v : Value} {entries : List (Value × Value)} {tag : Tag}
    (found : Value.lookup entries key = v) (present : v ≠ .nil) :
    Within v (.table tag entries) := by
  have member : ∃ entry ∈ entries, entry.2 = v := by
    induction entries with
    | nil => exact absurd found.symm present
    | cons entry rest ih =>
      obtain ⟨k, child⟩ := entry
      unfold Value.lookup at found
      split at found
      · exact ⟨(k, child), by simp, found⟩
      · obtain ⟨other, later, same⟩ := ih found
        exact ⟨other, mem_cons_of_mem _ later, same⟩
  obtain ⟨entry, member, same⟩ := member
  exact .child member (same ▸ .self)

theorem validateProvider_function {provider : Value} {u : Unit}
    (valid : validateProvider provider = .ok u) :
    ∃ addr, Within (.ref .function addr) provider := by
  simp only [validateProvider, providerMethods, forM_eq_forM, forM_cons, bind_eq_ok,
    require_eq_ok] at valid
  obtain ⟨-, ⟨table, -, -⟩, -, ⟨-, method, -⟩, -⟩ := valid
  cases provider with
  | table tag entries =>
    unfold isFunction at method
    split at method
    · next addr named => exact ⟨addr, within_of_lookup named (by simp)⟩
    · cases method
  | _ => cases table

def Armed (r : Registry) : Prop :=
  ∀ provider, r.provider = some provider → ∃ addr, Within (.ref .function addr) provider

variable {r r' : Registry}

theorem Change.provider (change : Change asked r r') :
    r'.provider = r.provider := by
  cases change with
  | abandoned fresh => cases fresh <;> rfl
  | _ => rfl

theorem new_armed {options : Value} (made : new options = .ok r) : Armed r := by
  simp only [new, bind_eq_ok, pure_eq_ok] at made
  obtain ⟨_, -, _, -, _, -, _, -, chosen, choice, rfl⟩ := made
  intro provider here
  cases listed : (options.orElse .emptyTable).get "providers" with
  | table tag entries =>
    simp only [chooseProvider, listed, bind_eq_ok, pure_eq_ok] at choice
    obtain ⟨_, checked, rfl⟩ := choice
    cases entries with
    | nil => cases here
    | cons entry rest =>
      simp only [forM_eq_forM, forM_cons, bind_eq_ok, require_eq_ok] at checked
      obtain ⟨_, ⟨_, _, valid⟩, -⟩ := checked
      cases here
      exact validateProvider_function valid
  | _ =>
    rw [listed] at choice
    cases choice

/-! ## Custody over whole runs -/

structure Owning (r : Registry) : Prop where
  ledger : ∃ custody, Ledger r custody
  sourced : Sourced r.roots
  lent : Lent r.log (taken r.roots) r.qaLeases
  armed : Armed r

theorem Change.owning (change : Change asked r r') (owning : Owning r) :
    Owning r' := by
  obtain ⟨custody, ledger⟩ := owning.ledger
  refine ⟨change.ledger ledger, change.sourced owning.sourced, change.lent owning.lent, ?_⟩
  intro provider here
  rw [change.provider] at here
  exact owning.armed provider here

theorem new_owning {options : Value} (made : new options = .ok r) : Owning r := by
  have armed := new_armed made
  simp only [new, bind_eq_ok, pure_eq_ok] at made
  obtain ⟨_, -, _, -, _, -, _, -, provider, -, rfl⟩ := made
  refine ⟨⟨fun _ => none, ?_⟩, ?_, ?_, armed⟩
  · refine ⟨?_, by simp, by simp, by simp⟩
    intro handle holder
    cases holder <;> simp [Holds, grantHandle, sourceHandle, sourceAt]
  · intro id root found
    cases found
  · exact ⟨by simp [taken, bound, sourceAt], by simp, by simp, by simp, by simp⟩

theorem changes_qaKeeps (course : Changes asked r r') (owning : Owning r) :
    QaKeeps r r' := by
  have both : Owning r' ∧ QaKeeps r r' := by
    induction course with
    | refl => exact ⟨owning, QaKeeps.refl r⟩
    | tail _ last ih =>
      exact ⟨last.owning ih.1, ih.2.trans (last.qaKeeps ih.1.sourced)⟩
  exact both.2

/-- Each handle opened has one owner: a grant, the source of a sealed root, or the close it
was given to once; a source is reserved once and consumed once. -/
structure Owned (r : Registry) : Prop where
  owner : ∀ handle, .opened handle ∈ r.log → ∃! holder, Holds r handle holder
  closedOnce : ∀ handle, r.log.count (.closed handle) ≤ 1
  sealed : ∀ id root, r.roots id = some root → root.qaSource ≠ none → root.state = .sealed
  reservedOnce : ∀ id, r.log.count (.reserved id) ≤ 1
  consumedOnce : ∀ id, r.log.countP (consumesFor id) ≤ 1

theorem Owning.owned (owning : Owning r) : Owned r := by
  obtain ⟨custody, ledger⟩ := owning.ledger
  refine ⟨?_, ledger.once, ?_, ?_, owning.lent.once⟩
  · intro handle opened
    exact ledger.reads.existsUnique ((ledger.known handle).mpr (ledger.below handle opened))
  · intro id root found
    exact (owning.sourced id root found).sealed
  · intro id
    rw [owning.lent.reserved]
    split <;> omega

theorem Owning.returned_detached (owning : Owning r) {w : World} {i : Nat} {consumer v : Value}
    (returned : Returned (r.withQaSource w i consumer) v) :
    Detached v ∧ ∀ x, Within x v → (∀ handle, x ≠ handleValue handle) ∧ r.provider ≠ some x := by
  have detached := withQaSource_detached r w i consumer returned
  refine ⟨detached, ?_⟩
  intro x inside
  constructor
  · rintro handle rfl
    exact detached _ inside
  · intro registered
    obtain ⟨addr, inner⟩ := owning.armed x registered
    exact detached _ (inner.trans inside)

theorem handles_owned (derive : DeriveIntent) (options : Value) (r : Registry)
    (made : new options = .ok r) (steps more : List Step) :
    Owned ((machine derive).run r steps)
      ∧ QaKeeps ((machine derive).run r steps) ((machine derive).run r (steps ++ more))
      ∧ ∀ w i consumer v,
        Returned (((machine derive).run r steps).withQaSource w i consumer) v →
          Detached v ∧ ∀ x, Within x v →
            (∀ handle, x ≠ handleValue handle)
              ∧ ((machine derive).run r steps).provider ≠ some x := by
  have owning : Owning ((machine derive).run r steps) :=
    run_keeps derive Owning (fun _ _ change holds => change.owning holds) steps r
      (new_owning made)
  refine ⟨owning.owned, ?_, ?_⟩
  · rw [Machine.run_append]
    exact changes_qaKeeps (run_changes derive more _) owning
  · intro w i consumer v returned
    exact owning.returned_detached returned

/-! ## A whole life -/

def answering : World := { sampleWorld with consumer := .returned [.text "seen"] }

/-- What a message of the sample says under a name. -/
def sampleSays (root : Root) (claim : Claim) (name : String) : Value :=
  match name with
  | "generation" => .nat 1
  | "session_id" => .text "s"
  | "grant_revision" => sampleGrant.get "revision"
  | "inventory_bounds" => defaultInventoryBounds
  | "source_refs" | "expected_files" | "expected_directories" => .emptyTable
  | "event_truth_status" => .text "runtime_confirmed"
  | "content_truth_status" => .text "mixed"
  | "comparison" => .text "exact"
  | "transaction_kind" => .text "provider_witness"
  | "state" => .text "consumed"
  | "lifecycle_id" => .str claim.lifecycleId
  | "lifecycle_revision" => .nat root.revision
  | "request_id" | "closure_request_id" => root.sealRequestId.elim .nil .str
  | "closure_id" => root.closureId.elim .nil .str
  | "transaction_id" =>
    ((root.qaSource.bind QaSource.transactionId).or root.sealTransactionId).elim .nil .str
  | _ => (sampleGrant.get name).orElse (.text name)

def message (r : Registry) (protocol : String) (keys : List String) : List (String × Value) :=
  match sampleGrant.get "root_authority_id" with
  | .str id => (r.roots id).elim [] fun root => root.claim.elim [] fun claim =>
    ("protocol_version", .text protocol) :: keys.map fun key => (key, sampleSays root claim key)
  | _ => []

def marked (tag key : String) (seed fields : List (String × Value)) : Value :=
  match Digest.identify tag (.record seed) with
  | .ok id => .record ((key, .str id) :: fields)
  | .error _ => .nil

def sampleCalls : List (Registry → Call) := [
  fun _ => .mint sampleMint,
  fun _ => .beginEffect (sampleAction (.int 1)) sampleInstance,
  fun _ => .effectCreate 0 sampleRequest,
  fun r =>
    let fields := message r "repository.candidate_seal_request.v0" (candidateSealRequestKeys.drop 2)
    .beginCandidateSeal (marked "candidate-seal-request:" "request_id" fields fields),
  fun r => .inventoryCandidate 0 (.record (message r "repository.candidate_inventory_request.v0"
    ["request_id", "transaction_id", "inventory_bounds"])),
  fun r => .commitCandidateSeal 0 (.record (message r "repository.candidate_seal_commit.v0"
    ["request_id", "transaction_id", "inventory_id", "inventory_digest", "inventory_bounds",
      "root_fingerprint", "comparison", "source_refs"])),
  fun r =>
    let names := seedNames ++ ["inventory_id", "inventory_digest", "inventory_bounds"]
    .reserveQaSource (marked "qa-provider-transaction:" "transaction_id"
      (message r "qa.provider_source_transaction_seed.v0" names)
      (message r "repository.qa_source_binding.v1" (names ++ ["event_truth_status"]))),
  fun _ => .withQaSource 0 (.ref .function 9),
  fun r => .finishQaSource 0 (.record (message r "repository.qa_source_disposition.v0"
    ["transaction_id", "state", "event_truth_status"]))]

def stepsFrom (r : Registry) : List (Registry → Call) → List Step
  | [] => []
  | call :: calls =>
    ⟨call r, answering⟩ :: stepsFrom ((machine sampleDerive).after r ⟨call r, answering⟩) calls

def sampleSteps : List Step := stepsFrom sampleRegistry sampleCalls

def sampleLived (steps : List Step) : Registry := (machine sampleDerive).run sampleRegistry steps

/-- The handle of a mint is kept by the seal, lent once and closed at the finish. -/
theorem handles_owned_finished :
    ((sampleLived sampleSteps).log.countP (fun h => h = .opened 0 ∨ h = .closed 0) = 2
        ∧ (sampleLived sampleSteps).qaLeases.map QaLease.disposition = [some .consumed]
        ∧ ((sampleLived (sampleSteps.take 7)).withQaSource answering 0
          (.ref .function 9)).1.toOption = some (.text "seen"))
      ∧ Owned (sampleLived sampleSteps)
      ∧ QaKeeps (sampleLived (sampleSteps.take 7)) (sampleLived sampleSteps)
      ∧ ∀ v, Returned ((sampleLived (sampleSteps.take 7)).withQaSource answering 0
          (.ref .function 9)) v → Detached v := by
  obtain ⟨-, keeps, detached⟩ := handles_owned sampleDerive sampleOptions sampleRegistry
    sample_made (sampleSteps.take 7) (sampleSteps.drop 7)
  rw [take_append_drop] at keeps
  obtain ⟨owned, -⟩ := handles_owned sampleDerive sampleOptions sampleRegistry sample_made
    sampleSteps []
  exact ⟨by decide +kernel, owned, keeps, fun v answered => (detached _ _ _ v answered).1⟩

end Proc17.Runtime.Repository.Registry
