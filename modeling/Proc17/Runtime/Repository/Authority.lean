import Proc17.Runtime.Repository.Lifecycle

/-!
# Write authority

An effect lease is backed by one action, one grant and the claim of one root; its create
and its read-back enter the provider at most once each.
-/

namespace Proc17.Runtime.Repository.Registry

open Lua Core Proc17.Log List Function

variable {asked : Value → Prop}

/-! ## What every change keeps of grants and the log -/

variable {r r' : Registry} {grant : Grant} {lease lease' : EffectLease} {plan : EffectPlan}

theorem Change.grows (change : Change asked r r') :
    ∀ entry ∈ r.log, entry ∈ r'.log := by
  intro entry member
  cases change with
  | abandoned fresh serial => cases fresh <;> simp [note, counted, opened, advance, member]
  | granted serial id grant => simp [setGrant, counted, opened, advance, member]
  | rooted serial id grant =>
    simp [moveRoot, setRoot, note, setGrant, counted, opened, advance, member]
  | rootMoved id root root' => simp [moveRoot, note, setRoot, advance, member]
  | committed id grantId root root' =>
    simp [moveRoot, note, setRoot, setGrant, advance, member]
  | createRefused | readRefused | sealMarked | rootTouched => exact member
  | _ => exact mem_cons_of_mem _ member

structure GrantLater (grant grant' : Grant) : Prop where
  bounds : grant'.bounds = grant.bounds
  repositoryId : grant'.repositoryId = grant.repositoryId
  dispatches : ∀ id, grant.actionDispatches id = true → grant'.actionDispatches id = true

theorem GrantLater.refl (grant : Grant) : GrantLater grant grant :=
  ⟨rfl, rfl, fun _ spent => spent⟩

def GrantsKeep (grants grants' : Bytes → Option Grant) : Prop :=
  ∀ id grant, grants id = some grant → ∃ grant', grants' id = some grant' ∧ GrantLater grant grant'

theorem GrantsKeep.refl (grants : Bytes → Option Grant) : GrantsKeep grants grants :=
  fun _ grant found => ⟨grant, found, GrantLater.refl grant⟩

variable {grants : Bytes → Option Grant} {id : Bytes}

theorem GrantsKeep.replace {new : Grant}
    (later : ∀ grant, grants id = some grant → GrantLater grant new) :
    GrantsKeep grants (Function.update grants id (some new)) :=
  update_keeps GrantLater.refl later

theorem GrantsKeep.replaceFound {new : Grant}
    (found : grants id = some grant) (later : GrantLater grant new) :
    GrantsKeep grants (Function.update grants id (some new)) :=
  GrantsKeep.replace fun _ here => Option.some.inj (found.symm.trans here) ▸ later

theorem spend_later (grant : Grant) (envelope : Envelope) :
    GrantLater grant (spend grant envelope) := by
  refine ⟨rfl, rfl, ?_⟩
  intro id spent
  by_cases same : id = envelope.actionId
  · subst same
    exact update_self ..
  · show Function.update grant.actionDispatches envelope.actionId true id = true
    rw [update_of_ne same]
    exact spent

theorem Change.grantsKeep (change : Change asked r r') :
    GrantsKeep r.grants r'.grants := by
  cases change with
  | abandoned fresh serial => cases fresh <;> exact GrantsKeep.refl _
  | granted serial id grant absent | rooted serial id grant absent =>
    apply GrantsKeep.replace
    intro other here
    rw [show r.grants id = some other from here] at absent
    cases absent
  | ended id grant state found | closedGrant id grant handle found =>
    exact GrantsKeep.replaceFound found ⟨rfl, rfl, fun _ spent => spent⟩
  | leased plan action admitted =>
    exact GrantsKeep.replaceFound admitted.grant (spend_later _ _)
  | committed id grantId root root' grant handle source found _ _ granted =>
    exact GrantsKeep.replaceFound granted ⟨rfl, rfl, fun _ spent => spent⟩
  | _ => exact GrantsKeep.refl _

/-! ## Leases -/

structure Carries (envelope : Envelope) (lease : EffectLease) : Prop where
  actionId : lease.actionId = envelope.actionId
  generation : lease.generation = envelope.generation
  relativePath : lease.relativePath = envelope.relativePath
  contentBytes : lease.contentBytes = envelope.contentBytes
  contentSha256 : lease.contentSha256 = envelope.contentSha256
  precondition : lease.precondition = envelope.precondition

def Paid (grants : Bytes → Option Grant) (lease : EffectLease) : Prop :=
  ∃ grant, grants lease.grantId = some grant
    ∧ grant.actionDispatches lease.actionId = true
    ∧ Number.lt grant.bounds.maxRelativePathBytes (.int lease.relativePath.length) = false
    ∧ Number.lt grant.bounds.maxContentBytes lease.contentBytes = false

/-- The action a lease was issued for belongs to the claim of the root. -/
def Claimed (grants : Bytes → Option Grant) (roots : Bytes → Option Root) (lease : EffectLease)
    (envelope : Envelope) : Prop :=
  ∃ root claim grant, roots lease.rootId = some root ∧ root.claim = some claim
    ∧ grants lease.grantId = some grant ∧ claim.lineageId = envelope.lineageId
    ∧ Number.eq claim.generation envelope.generation = true
    ∧ claim.repositoryId = grant.repositoryId

structure Backed (grants : Bytes → Option Grant) (roots : Bytes → Option Root)
    (log : List Happening) (i : Nat) (lease : EffectLease) : Prop where
  paid : Paid grants lease
  origin : ∃ action envelope, .leased (lease.warrant i) action ∈ log
    ∧ envelopeOf action = some envelope ∧ Carries envelope lease
    ∧ Claimed grants roots lease envelope

variable {i : Nat}

theorem Backed.kept {grants grants' : Bytes → Option Grant} {roots roots' : Bytes → Option Root}
    {log log' : List Happening} (backed : Backed grants roots log i lease)
    (granted : GrantsKeep grants grants') (rooted : Keeps roots roots')
    (grows : ∀ entry ∈ log, entry ∈ log') :
    Backed grants' roots' log' i lease := by
  constructor
  · obtain ⟨grant, found, spent, path, bytes⟩ := backed.paid
    obtain ⟨grant', found', later⟩ := granted _ grant found
    refine ⟨grant', found', later.dispatches _ spent, ?_, ?_⟩
    · rw [later.bounds]
      exact path
    · rw [later.bounds]
      exact bytes
  · obtain ⟨action, envelope, member, read, carries, claimed⟩ := backed.origin
    obtain ⟨root, claim, grant, found, known, paid, lineage, generation, repository⟩ := claimed
    obtain ⟨root', found', later⟩ := rooted _ root found
    obtain ⟨grant', paid', later'⟩ := granted _ grant paid
    refine ⟨action, envelope, grows _ member, read, carries, root', claim, grant', found',
      later.claim claim known, paid', lineage, generation, ?_⟩
    rw [later'.repositoryId]
    exact repository

/-- Marks leave the terms of a lease, and are never taken back. -/
structure Marked (lease lease' : EffectLease) : Prop where
  warrant : ∀ i, lease'.warrant i = lease.warrant i
  generation : lease'.generation = lease.generation
  relativePath : lease'.relativePath = lease.relativePath
  contentBytes : lease'.contentBytes = lease.contentBytes
  contentSha256 : lease'.contentSha256 = lease.contentSha256
  precondition : lease'.precondition = lease.precondition
  created : lease.createCalled = true → lease'.createCalled = true
  read : lease.readCalled = true → lease'.readCalled = true

theorem Marked.grantId (marked : Marked lease lease') :
    lease'.grantId = lease.grantId := congrArg Warrant.grant (marked.warrant 0)

theorem Marked.rootId (marked : Marked lease lease') :
    lease'.rootId = lease.rootId := congrArg Warrant.root (marked.warrant 0)

theorem Marked.actionId (marked : Marked lease lease') :
    lease'.actionId = lease.actionId := congrArg Warrant.action (marked.warrant 0)

theorem marked_created (lease : EffectLease) :
    Marked lease { lease with createCalled := true } :=
  ⟨fun _ => rfl, rfl, rfl, rfl, rfl, rfl, fun _ => rfl, fun read => read⟩

theorem marked_returned (lease : EffectLease) :
    Marked lease { lease with createSucceeded := true } :=
  ⟨fun _ => rfl, rfl, rfl, rfl, rfl, rfl, fun created => created, fun read => read⟩

theorem marked_read (lease : EffectLease) : Marked lease { lease with readCalled := true } :=
  ⟨fun _ => rfl, rfl, rfl, rfl, rfl, rfl, fun created => created, fun _ => rfl⟩

theorem Backed.marked {roots : Bytes → Option Root}
    {log : List Happening}
    (backed : Backed grants roots log i lease) (marked : Marked lease lease') :
    Backed grants roots log i lease' := by
  constructor
  · obtain ⟨grant, found, spent, path, bytes⟩ := backed.paid
    refine ⟨grant, ?_, ?_, ?_, ?_⟩
    · rw [marked.grantId]
      exact found
    · rw [marked.actionId]
      exact spent
    · rw [marked.relativePath]
      exact path
    · rw [marked.contentBytes]
      exact bytes
  · obtain ⟨action, envelope, member, read, carries, claimed⟩ := backed.origin
    refine ⟨action, envelope, ?_, read, ?_, ?_⟩
    · rw [marked.warrant]
      exact member
    · exact ⟨marked.actionId.trans carries.actionId, marked.generation.trans carries.generation,
        marked.relativePath.trans carries.relativePath,
        marked.contentBytes.trans carries.contentBytes,
        marked.contentSha256.trans carries.contentSha256,
        marked.precondition.trans carries.precondition⟩
    · unfold Claimed
      rw [marked.rootId, marked.grantId]
      exact claimed

theorem Change.leases (change : Change asked r r') :
    r'.effectLeases = r.effectLeases
      ∨ (∃ i lease lease', r.effectLeases[i]? = some lease ∧ Marked lease lease'
        ∧ r'.effectLeases = r.effectLeases.set i lease')
      ∨ ∃ plan action, Admitted r plan action ∧ asked action ∧ r' = r.issueLease plan action := by
  cases change with
  | abandoned fresh => cases fresh <;> exact .inl rfl
  | leased plan action admitted called =>
    exact .inr (.inr ⟨plan, action, admitted, called, rfl⟩)
  | created i lease handle request entered =>
    exact .inr (.inl ⟨i, lease, _, entered.found, marked_created lease, rfl⟩)
  | createRefused i lease found =>
    exact .inr (.inl ⟨i, lease, _, found, marked_created lease, rfl⟩)
  | createReturned i lease found =>
    exact .inr (.inl ⟨i, lease, _, found, marked_returned lease, rfl⟩)
  | readBack i lease handle entered =>
    exact .inr (.inl ⟨i, lease, _, entered.found, marked_read lease, rfl⟩)
  | readRefused i lease found =>
    exact .inr (.inl ⟨i, lease, _, found, marked_read lease, rfl⟩)
  | _ => exact .inl rfl

/-- Leases are told apart by grant and action, and each is backed. -/
structure Issued (r : Registry) : Prop where
  backed : ∀ (i : Nat) (lease : EffectLease), r.effectLeases[i]? = some lease →
    Backed r.grants r.roots r.log i lease
  unique : ∀ (i j : Nat) (a b : EffectLease), r.effectLeases[i]? = some a →
    r.effectLeases[j]? = some b → a.grantId = b.grantId → a.actionId = b.actionId → i = j

theorem Issued.marked
    (issued : Issued r) (found : r.effectLeases[i]? = some lease) (marked : Marked lease lease')
    (leases : r'.effectLeases = r.effectLeases.set i lease')
    (backed : ∀ (j : Nat) (old : EffectLease), r.effectLeases[j]? = some old →
      Backed r'.grants r'.roots r'.log j old) : Issued r' := by
  have source : ∀ (j : Nat) (a : EffectLease), r'.effectLeases[j]? = some a →
      ∃ old, r.effectLeases[j]? = some old ∧ a.grantId = old.grantId
        ∧ a.actionId = old.actionId := by
    intro j a here
    rw [leases] at here
    obtain ⟨rfl, rfl⟩ | ⟨-, here⟩ := getElem?_set_cases here
    · exact ⟨lease, found, marked.grantId, marked.actionId⟩
    · exact ⟨a, here, rfl, rfl⟩
  constructor
  · intro j a here
    rw [leases] at here
    obtain ⟨rfl, rfl⟩ | ⟨-, here⟩ := getElem?_set_cases here
    · exact (backed j lease found).marked marked
    · exact backed j a here
  · intro j k a b hereA hereB sameGrant sameAction
    obtain ⟨oldA, foundA, grantA, actionA⟩ := source j a hereA
    obtain ⟨oldB, foundB, grantB, actionB⟩ := source k b hereB
    exact issued.unique j k oldA oldB foundA foundB
      (grantA.symm.trans (sameGrant.trans grantB)) (actionA.symm.trans (sameAction.trans actionB))

theorem Issued.issue {action : Value} (issued : Issued r) (admitted : Admitted r plan action)
    (backed : ∀ (j : Nat) (old : EffectLease), r.effectLeases[j]? = some old →
      Backed (r.issueLease plan action).grants (r.issueLease plan action).roots
        (r.issueLease plan action).log j old) : Issued (r.issueLease plan action) := by
  have spent : (spend plan.exact.grant plan.exact.envelope).actionDispatches
      plan.exact.envelope.actionId = true := update_self ..
  have granted : (r.issueLease plan action).grants plan.exact.grantId
      = some (spend plan.exact.grant plan.exact.envelope) := update_self ..
  -- an older lease of this grant and action would have spent the action already
  have fresh : ∀ (j : Nat) (old : EffectLease), r.effectLeases[j]? = some old →
      old.grantId = plan.exact.grantId → old.actionId ≠ plan.exact.envelope.actionId := by
    intro j old found sameGrant sameAction
    obtain ⟨grant, paid, used, -⟩ := (issued.backed j old found).paid
    rw [sameGrant, admitted.grant] at paid
    cases paid
    rw [sameAction, admitted.unspent] at used
    cases used
  constructor
  · intro j a here
    obtain ⟨rfl, rfl⟩ | here := getElem?_append_cases here
    · refine ⟨⟨_, granted, spent, admitted.path, admitted.bytes⟩, action, plan.exact.envelope,
        mem_cons_self .., admitted.envelope, ⟨rfl, rfl, rfl, rfl, rfl, rfl⟩, plan.root,
        plan.claim, _, admitted.root, admitted.claim, granted, admitted.lineage,
        admitted.generation, admitted.repository⟩
    · exact backed j a here
  · intro j k a b hereA hereB sameGrant sameAction
    obtain ⟨rfl, rfl⟩ | oldA := getElem?_append_cases hereA
    · obtain ⟨rfl, rfl⟩ | oldB := getElem?_append_cases hereB
      · rfl
      · exact absurd sameAction.symm (fresh k b oldB sameGrant.symm)
    · obtain ⟨rfl, rfl⟩ | oldB := getElem?_append_cases hereB
      · exact absurd sameAction (fresh j a oldA sameGrant)
      · exact issued.unique j k a b oldA oldB sameGrant sameAction

theorem Change.issued (change : Change asked r r') (unclaimed : Unclaimed r.roots)
    (issued : Issued r) : Issued r' := by
  have backed : ∀ (j : Nat) (old : EffectLease), r.effectLeases[j]? = some old →
      Backed r'.grants r'.roots r'.log j old := fun j old found =>
    (issued.backed j old found).kept change.grantsKeep (change.keeps unclaimed) change.grows
  rcases change.leases with same | ⟨i, lease, lease', found, marked, leases⟩
    | ⟨plan, action, admitted, -, rfl⟩
  · constructor
    · intro j a here
      rw [same] at here
      exact backed j a here
    · rw [same]
      exact issued.unique
  · exact issued.marked found marked leases backed
  · exact issued.issue admitted backed

/-! ## Counts -/

def spelledLeases (leases : List EffectLease) (id key : Bytes) : Nat :=
  leases.countP fun lease =>
    decide (lease.grantId = id ∧ Value.tostring (.num lease.generation) = key)

/-- `effect_counts` of a grant counts its leases and stays within its bound. -/
structure Tallied (leases : List EffectLease) (id : Bytes) (grant : Grant) : Prop where
  counts : ∀ key, grant.effectCounts key = spelledLeases leases id key
  within : ∀ key, grant.effectCounts key ≠ 0 →
    Number.le (.int (grant.effectCounts key : Nat)) grant.bounds.maxEffectsPerGeneration = true
  positive : Number.lt grant.bounds.maxEffectsPerGeneration (.int 1) = false
  integral : grant.bounds.maxEffectsPerGeneration.isIntegral = true

def Counted (grants : Bytes → Option Grant) (leases : List EffectLease) : Prop :=
  ∀ id grant, grants id = some grant → Tallied leases id grant

theorem Tallied.again {leases : List EffectLease} {grant' : Grant}
    (tallied : Tallied leases id grant) (counts : grant'.effectCounts = grant.effectCounts)
    (bounds : grant'.bounds = grant.bounds) : Tallied leases id grant' := by
  constructor
  · rw [counts]
    exact tallied.counts
  · rw [counts, bounds]
    exact tallied.within
  · rw [bounds]
    exact tallied.positive
  · rw [bounds]
    exact tallied.integral

theorem Tallied.leases {leases leases' : List EffectLease}
    (tallied : Tallied leases id grant)
    (same : ∀ key, spelledLeases leases' id key = spelledLeases leases id key) :
    Tallied leases' id grant :=
  ⟨fun key => (tallied.counts key).trans (same key).symm, tallied.within, tallied.positive,
    tallied.integral⟩

theorem spelledLeases_append_other {leases : List EffectLease} {id key : Bytes}
    (other : ¬ (lease.grantId = id ∧ Value.tostring (.num lease.generation) = key)) :
    spelledLeases (leases ++ [lease]) id key = spelledLeases leases id key := by
  simp [spelledLeases, countP_append, other]

theorem Tallied.spent {leases : List EffectLease}
    (tallied : Tallied leases plan.exact.grantId plan.exact.grant)
    (within : limitExhausted plan.exact.grant (.num plan.exact.envelope.generation) = false) :
    Tallied (leases ++ [newLease plan]) plan.exact.grantId
      (spend plan.exact.grant plan.exact.envelope) := by
  have count (key : Bytes) : (spend plan.exact.grant plan.exact.envelope).effectCounts key
      = if key = Value.tostring (.num plan.exact.envelope.generation)
        then plan.exact.grant.effectCounts key + 1 else plan.exact.grant.effectCounts key := by
    simp only [spend, update_apply]
    split
    · next same => rw [same]
    · rfl
  refine ⟨?_, ?_, tallied.positive, tallied.integral⟩
  · intro key
    rw [count key]
    by_cases same : key = Value.tostring (.num plan.exact.envelope.generation)
    · rw [if_pos same, tallied.counts key]
      simp [spelledLeases, countP_append, newLease, same]
    · rw [if_neg same, tallied.counts key]
      refine (spelledLeases_append_other ?_).symm
      intro both
      exact same both.2.symm
  · intro key used
    rw [count key] at used ⊢
    by_cases same : key = Value.tostring (.num plan.exact.envelope.generation)
    · rw [if_pos same, same]
      exact Number.succ_le_of_not_le tallied.integral tallied.positive within
    · rw [if_neg same] at used ⊢
      exact tallied.within key used

theorem Counted.replaceFound {leases : List EffectLease}
    {grant' : Grant} (counted : Counted grants leases) (found : grants id = some grant)
    (counts : grant'.effectCounts = grant.effectCounts) (bounds : grant'.bounds = grant.bounds) :
    Counted (Function.update grants id (some grant')) leases :=
  update_all counted ((counted id grant found).again counts bounds)

theorem Counted.mint (issued : Issued r) (counted : Counted r.grants r.effectLeases)
    (absent : r.grants id = none) (fresh : Fresh r grant) :
    Counted (Function.update r.grants id (some grant)) r.effectLeases := by
  refine update_all counted ⟨?_, ?_, fresh.positive, fresh.integral⟩
  · intro key
    rw [fresh.counts]
    -- no lease names a grant that is not there
    refine (countP_eq_zero.mpr ?_).symm
    intro lease member
    obtain ⟨i, found⟩ := mem_iff_getElem?.mp member
    obtain ⟨grant', paid, -⟩ := (issued.backed i lease found).paid
    simp only [decide_eq_true_eq, not_and]
    intro named
    rw [named, absent] at paid
    cases paid
  · intro key used
    rw [fresh.counts] at used
    exact absurd rfl used

theorem Counted.marked {leases : List EffectLease}
    (counted : Counted grants leases)
    (found : leases[i]? = some lease) (marked : Marked lease lease') :
    Counted grants (leases.set i lease') := by
  intro id grant here
  refine (counted id grant here).leases fun key => countP_set_same _ found ?_
  rw [marked.grantId, marked.generation]

theorem Counted.issue {action : Value} (counted : Counted r.grants r.effectLeases)
    (admitted : Admitted r plan action) :
    Counted (r.issueLease plan action).grants (r.issueLease plan action).effectLeases := by
  intro id grant here
  by_cases same : id = plan.exact.grantId
  · subst same
    have spent : (r.issueLease plan action).grants plan.exact.grantId
        = some (spend plan.exact.grant plan.exact.envelope) := update_self ..
    rw [spent] at here
    cases here
    exact (counted _ _ admitted.grant).spent admitted.within
  · have kept : (r.issueLease plan action).grants id = r.grants id :=
      update_of_ne same ..
    rw [kept] at here
    refine (counted id grant here).leases fun key => spelledLeases_append_other ?_
    intro both
    exact same both.1.symm

theorem Change.counted (change : Change asked r r') (issued : Issued r)
    (counted : Counted r.grants r.effectLeases) : Counted r'.grants r'.effectLeases := by
  cases change with
  | abandoned fresh serial => cases fresh <;> exact counted
  | granted serial id grant absent new | rooted serial id grant absent new =>
    have minted := counted.mint issued absent new
    exact minted
  | ended id grant state found | closedGrant id grant handle found =>
    exact counted.replaceFound found rfl rfl
  | leased plan action admitted => exact counted.issue admitted
  | created i lease handle request entered =>
    exact counted.marked entered.found (marked_created lease)
  | createRefused i lease found => exact counted.marked found (marked_created lease)
  | createReturned i lease found => exact counted.marked found (marked_returned lease)
  | readBack i lease handle entered => exact counted.marked entered.found (marked_read lease)
  | readRefused i lease found => exact counted.marked found (marked_read lease)
  | committed id grantId root root' grant handle source found _ _ granted =>
    exact counted.replaceFound granted rfl rfl
  | _ => exact counted

end Proc17.Runtime.Repository.Registry
