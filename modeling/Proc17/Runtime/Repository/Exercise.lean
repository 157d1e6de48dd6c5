import Proc17.Runtime.Repository.Authority

/-!
# Exercise of write authority

Each lease enters the provider at most once to create and at most once to read back,
with what its action says; the leases of a grant stay within its bound for every
generation that is always spelled alike.
-/

namespace Proc17.Runtime.Repository.Registry

open Lua Core Proc17.Log List Number

variable {asked : Value → Prop}

/-! ## Entries into the provider -/

def createsFor (grant action : Bytes) : Happening → Bool
  | .created warrant _ _ => decide (warrant.grant = grant ∧ warrant.action = action)
  | _ => false

def readsFor (grant action : Bytes) : Happening → Bool
  | .readBack warrant _ => decide (warrant.grant = grant ∧ warrant.action = action)
  | _ => false

def Idle : Happening → Prop
  | .created _ _ _ => False
  | .createReturned _ => False
  | .readBack _ _ => False
  | _ => True

/-- A read-back follows the return of its create, and the return follows the entry. -/
def OrderLaw : Happening → List Happening → Prop
  | .readBack warrant _, earlier => .createReturned warrant ∈ earlier
  | .createReturned warrant, earlier =>
    ∃ handle request, .created warrant handle request ∈ earlier
  | _, _ => True

def Named (leases : List EffectLease) (warrant : Warrant) (lease : EffectLease) : Prop :=
  leases[warrant.lease]? = some lease ∧ lease.warrant warrant.lease = warrant

structure Exercised (leases : List EffectLease) (log : List Happening) : Prop where
  created : ∀ warrant handle request, .created warrant handle request ∈ log →
    ∃ lease, Named leases warrant lease ∧ lease.createCalled = true ∧ Fits lease request
  read : ∀ warrant handle, .readBack warrant handle ∈ log →
    ∃ lease, Named leases warrant lease ∧ lease.readCalled = true
  succeeded : ∀ (i : Nat) (lease : EffectLease), leases[i]? = some lease →
    lease.createSucceeded = true → .createReturned (lease.warrant i) ∈ log
  createdOnce : ∀ grant action, log.countP (createsFor grant action) ≤ 1
  readOnce : ∀ grant action, log.countP (readsFor grant action) ≤ 1
  ordered : Past OrderLaw log

variable {i : Nat} {lease : EffectLease} {r : Registry} {warrant : Warrant}

section Exercised

variable {leases : List EffectLease} {log : List Happening}

section
variable (exercised : Exercised leases log)
include exercised

theorem Exercised.push (entry : Happening)
    (created : ∀ warrant handle request, entry = .created warrant handle request →
      ∃ lease, Named leases warrant lease ∧ lease.createCalled = true ∧ Fits lease request)
    (read : ∀ warrant handle, entry = .readBack warrant handle →
      ∃ lease, Named leases warrant lease ∧ lease.readCalled = true)
    (createdOnce : ∀ grant action, createsFor grant action entry = true →
      log.countP (createsFor grant action) = 0)
    (readOnce : ∀ grant action, readsFor grant action entry = true →
      log.countP (readsFor grant action) = 0) (ordered : Past OrderLaw (entry :: log)) :
    Exercised leases (entry :: log) := by
  constructor
  · intro warrant handle request member
    rcases mem_cons.mp member with same | earlier
    · exact created warrant handle request same.symm
    · exact exercised.created warrant handle request earlier
  · intro warrant handle member
    rcases mem_cons.mp member with same | earlier
    · exact read warrant handle same.symm
    · exact exercised.read warrant handle earlier
  · intro i lease found succeeded
    exact mem_cons_of_mem _ (exercised.succeeded i lease found succeeded)
  · intro grant action
    by_cases own : createsFor grant action entry = true
    · rw [countP_cons_of_pos own, createdOnce grant action own]
    · rw [countP_cons_of_neg own]
      exact exercised.createdOnce grant action
  · intro grant action
    by_cases own : readsFor grant action entry = true
    · rw [countP_cons_of_pos own, readOnce grant action own]
    · rw [countP_cons_of_neg own]
      exact exercised.readOnce grant action
  · exact ordered

theorem Exercised.note (entry : Happening) (idle : Idle entry) :
    Exercised leases (entry :: log) := by
  apply exercised.push
  · rintro warrant handle request rfl
    cases idle
  · rintro warrant handle rfl
    cases idle
  · intro grant action own
    cases entry <;> first | cases own | cases idle
  · intro grant action own
    cases entry <;> first | cases own | cases idle
  · refine ⟨?_, exercised.ordered⟩
    cases entry <;> trivial

theorem Exercised.marked {i : Nat} {lease lease' : EffectLease} (found : leases[i]? = some lease)
    (marked : Marked lease lease') (succeeded : lease'.createSucceeded = true →
      lease.createSucceeded = true ∨ .createReturned (lease.warrant i) ∈ log) :
    Exercised (leases.set i lease') log := by
  have within : i < leases.length := (List.getElem?_eq_some_iff.mp found).1
  have renamed : ∀ warrant old, Named leases warrant old →
      ∃ lease'', Named (leases.set i lease') warrant lease'' ∧ Marked old lease'' := by
    intro warrant old named
    by_cases same : warrant.lease = i
    · have here := named.1
      rw [same, found] at here
      cases here
      refine ⟨lease', ⟨?_, (marked.warrant _).trans named.2⟩, marked⟩
      rw [same]
      exact List.getElem?_set_self within
    · refine ⟨old, ⟨?_, named.2⟩, ⟨fun _ => rfl, rfl, rfl, rfl, rfl, rfl, fun h => h, fun h => h⟩⟩
      rw [List.getElem?_set_ne (Ne.symm same)]
      exact named.1
  refine ⟨?_, ?_, ?_, exercised.createdOnce, exercised.readOnce, exercised.ordered⟩
  · intro warrant handle request member
    obtain ⟨old, named, called, fits⟩ := exercised.created warrant handle request member
    obtain ⟨new, named', marked'⟩ := renamed warrant old named
    refine ⟨new, named', marked'.created called, ?_⟩
    constructor
    · rw [marked'.relativePath]
      exact fits.relativePath
    · rw [marked'.contentBytes]
      exact fits.contentBytes
    · rw [marked'.precondition]
      exact fits.precondition
    · rw [marked'.contentBytes]
      exact fits.length
    · rw [marked'.contentSha256]
      exact fits.sha256
  · intro warrant handle member
    obtain ⟨old, named, called⟩ := exercised.read warrant handle member
    obtain ⟨new, named', marked'⟩ := renamed warrant old named
    exact ⟨new, named', marked'.read called⟩
  · intro j a here success
    obtain ⟨rfl, rfl⟩ | ⟨-, here⟩ := getElem?_set_cases here
    · rw [marked.warrant]
      rcases succeeded success with before | returned
      · exact exercised.succeeded j lease found before
      · exact returned
    · exact exercised.succeeded j a here success

theorem Exercised.issue (fresh : lease.createSucceeded = false) :
    Exercised (leases ++ [lease]) log := by
  have renamed : ∀ warrant old, Named leases warrant old →
      Named (leases ++ [lease]) warrant old := by
    intro warrant old named
    have within := (List.getElem?_eq_some_iff.mp named.1).1
    refine ⟨?_, named.2⟩
    rw [List.getElem?_append_left within]
    exact named.1
  refine ⟨?_, ?_, ?_, exercised.createdOnce, exercised.readOnce, exercised.ordered⟩
  · intro warrant handle request member
    obtain ⟨old, named, called, fits⟩ := exercised.created warrant handle request member
    exact ⟨old, renamed warrant old named, called, fits⟩
  · intro warrant handle member
    obtain ⟨old, named, called⟩ := exercised.read warrant handle member
    exact ⟨old, renamed warrant old named, called⟩
  · intro j a here success
    obtain ⟨rfl, rfl⟩ | here := getElem?_append_cases here
    · rw [fresh] at success
      cases success
    · exact exercised.succeeded j a here success

theorem Exercised.create (handle : Nat) {request : CreateRequest} (found : leases[i]? = some lease)
    (called : lease.createCalled = true) (fits : Fits lease request)
    (first : log.countP (createsFor lease.grantId lease.actionId) = 0) :
    Exercised leases (.created (lease.warrant i) handle request :: log) := by
  apply exercised.push
  · intro warrant handle' request' same
    cases same
    exact ⟨lease, ⟨found, rfl⟩, called, fits⟩
  · intro warrant handle' same
    cases same
  · intro grant action own
    obtain ⟨rfl, rfl⟩ := of_decide_eq_true own
    exact first
  · intro grant action own
    cases own
  · exact ⟨trivial, exercised.ordered⟩

theorem Exercised.readBack (handle : Nat) (found : leases[i]? = some lease)
    (called : lease.readCalled = true) (written : lease.createSucceeded = true)
    (first : log.countP (readsFor lease.grantId lease.actionId) = 0) :
    Exercised leases (.readBack (lease.warrant i) handle :: log) := by
  apply exercised.push
  · intro warrant handle' request same
    cases same
  · intro warrant handle' same
    cases same
    exact ⟨lease, ⟨found, rfl⟩, called⟩
  · intro grant action own
    cases own
  · intro grant action own
    obtain ⟨rfl, rfl⟩ := of_decide_eq_true own
    exact first
  · exact ⟨exercised.succeeded i lease found written, exercised.ordered⟩

theorem Exercised.returned
    (entered : ∃ handle request, .created warrant handle request ∈ log) :
    Exercised leases (.createReturned warrant :: log) := by
  apply exercised.push
  · intro warrant' handle request same
    cases same
  · intro warrant' handle same
    cases same
  · intro grant action own
    cases own
  · intro grant action own
    cases own
  · exact ⟨entered, exercised.ordered⟩

end

end Exercised

/-! ## First entries -/

theorem Issued.named {r : Registry} (issued : Issued r) {i : Nat} {lease old : EffectLease}
    (found : r.effectLeases[i]? = some lease)
    (named : Named r.effectLeases warrant old)
    (same : warrant.grant = lease.grantId ∧ warrant.action = lease.actionId) : old = lease := by
  have sameGrant : old.grantId = lease.grantId := (congrArg Warrant.grant named.2).trans same.1
  have sameAction : old.actionId = lease.actionId := (congrArg Warrant.action named.2).trans same.2
  have place := issued.unique warrant.lease i old lease named.1 found sameGrant sameAction
  have here := named.1
  rw [place, found] at here
  exact (Option.some.inj here).symm

theorem Exercised.uncreated (exercised : Exercised r.effectLeases r.log) (issued : Issued r)
    (found : r.effectLeases[i]? = some lease) (uncalled : lease.createCalled = false) :
    r.log.countP (createsFor lease.grantId lease.actionId) = 0 := by
  rw [countP_eq_zero]
  intro entry member entered
  cases entry with
  | created warrant handle request =>
    obtain ⟨old, named, called, -⟩ := exercised.created warrant handle request member
    rw [issued.named found named (of_decide_eq_true entered), uncalled] at called
    cases called
  | _ => cases entered

theorem Exercised.unread (exercised : Exercised r.effectLeases r.log) (issued : Issued r)
    (found : r.effectLeases[i]? = some lease) (uncalled : lease.readCalled = false) :
    r.log.countP (readsFor lease.grantId lease.actionId) = 0 := by
  rw [countP_eq_zero]
  intro entry member entered
  cases entry with
  | readBack warrant handle =>
    obtain ⟨old, named, called⟩ := exercised.read warrant handle member
    rw [issued.named found named (of_decide_eq_true entered), uncalled] at called
    cases called
  | _ => cases entered

variable {r' : Registry}

theorem Change.exercised (change : Change asked r r') (issued : Issued r)
    (exercised : Exercised r.effectLeases r.log) : Exercised r'.effectLeases r'.log := by
  have counted (fresh : Bool) (serial : Nat) :
      Exercised (r.counted fresh serial).effectLeases (r.counted fresh serial).log := by
    cases fresh with
    | false => exact exercised.note (.opened _) trivial
    | true => exact (exercised.note (.opened _) trivial).note (.revised _) trivial
  have self (i : Nat) (lease lease' : EffectLease) (found : r.effectLeases[i]? = some lease) :
      (r.effectLeases.set i lease')[i]? = some lease' :=
    List.getElem?_set_self (List.getElem?_eq_some_iff.mp found).1
  cases change with
  | abandoned fresh serial => exact (counted fresh serial).note _ trivial
  | granted serial => exact (counted false serial).note _ trivial
  | rooted serial id grant _ _ _ rootId root =>
    exact ((counted true serial).note (.revised _) trivial).note (.moved rootId root.state) trivial
  | rootMoved id root root' | committed id grantId root root' =>
    exact (exercised.note (.moved id root'.state) trivial).note (.revised _) trivial
  | rootTouched | sealMarked => exact exercised
  | leased plan action admitted => exact (exercised.issue rfl).note _ trivial
  | created i lease handle request entered uncalled fits =>
    have first := exercised.uncreated issued entered.found uncalled
    have found := self i lease { lease with createCalled := true } entered.found
    have marked := exercised.marked entered.found (marked_created lease) .inl
    have fits' : Fits { lease with createCalled := true } request :=
      ⟨fits.relativePath, fits.contentBytes, fits.precondition, fits.length, fits.sha256⟩
    have noted := marked.create handle found rfl fits' first
    exact noted
  | createRefused i lease found => exact exercised.marked found (marked_created lease) .inl
  | createReturned i lease found entry =>
    refine Exercised.marked (exercised.returned entry) found (marked_returned lease) ?_
    intro _
    exact .inr (mem_cons_self ..)
  | readBack i lease handle entered written unread =>
    have first := exercised.unread issued entered.found unread
    have found := self i lease { lease with readCalled := true } entered.found
    have marked := exercised.marked entered.found (marked_read lease) .inl
    have noted := marked.readBack handle found rfl written first
    exact noted
  | readRefused i lease found => exact exercised.marked found (marked_read lease) .inl
  | _ => exact exercised.note _ trivial

/-! ## Spellings of a generation -/

def Spoken (asked : Value → Prop) (leases : List EffectLease) (id : Bytes)
    (generation : Number) : Prop :=
  (∃ lease ∈ leases, lease.grantId = id ∧ lease.generation = generation)
    ∨ ∃ action, asked action ∧ (action.get "capability").get "grant_id" = .str id
      ∧ action.get "generation" = .num generation

variable {id : Bytes}

theorem Spoken.widen {leases : List EffectLease} {generation : Number}
    (spoken : Spoken (fun _ => False) leases id generation) :
    Spoken asked leases id generation := by
  rcases spoken with issued | ⟨_, wanted, -⟩
  · exact .inl issued
  · exact wanted.elim

def Alike (spoken : Bytes → Number → Prop) : Prop :=
  ∀ id g g', spoken id g → spoken id g' → Number.eq g g' = true →
    Value.tostring (.num g) = Value.tostring (.num g')

theorem Change.spoken (change : Change asked r r') {g : Number}
    (spoken : Spoken asked r'.effectLeases id g) : Spoken asked r.effectLeases id g := by
  rcases spoken with ⟨lease, member, named, generation⟩ | wanted
  · rcases change.leases with same | ⟨i, old, new, found, marked, leases⟩
      | ⟨plan, action, admitted, called, rfl⟩
    · rw [same] at member
      exact .inl ⟨lease, member, named, generation⟩
    · rw [leases] at member
      rcases mem_or_eq_of_mem_set member with before | rfl
      · exact .inl ⟨lease, before, named, generation⟩
      · exact .inl ⟨old, mem_of_getElem? found, marked.grantId.symm.trans named,
          marked.generation.symm.trans generation⟩
    · rcases mem_append.mp member with before | last
      · exact .inl ⟨lease, before, named, generation⟩
      · rw [mem_singleton] at last
        subst last
        subst named generation
        exact .inr ⟨action, called, admitted.named, (envelopeOf_facts admitted.envelope).2⟩
  · exact .inr wanted

theorem changes_spoken {r' : Registry} (course : Changes asked r r') {g : Number}
    (spoken : Spoken asked r'.effectLeases id g) : Spoken asked r.effectLeases id g := by
  induction course with
  | refl => exact spoken
  | tail _ last ih => exact ih (last.spoken spoken)

/-- An action asked for spells its generation as the leases of its grant do. -/
def Spelled (r : Registry) (s : Step) : Prop :=
  match s.call with
  | .beginEffect action _ => ∀ lease ∈ r.effectLeases,
      (action.get "capability").get "grant_id" = .str lease.grantId →
      (action.get "generation").eq (.num lease.generation) = true →
        (action.get "generation").tostring = Value.tostring (.num lease.generation)
  | _ => True

instance (r : Registry) (s : Step) : Decidable (Spelled r s) := by
  unfold Spelled
  split <;> infer_instance

def Asked (s : Step) (action : Value) : Prop := ∃ inst, s.call = .beginEffect action inst

theorem Spelled.alike {r : Registry} {s : Step} (spelled : Spelled r s)
    (alike : Alike (Spoken (fun _ => False) r.effectLeases)) :
    Alike (Spoken (Asked s) r.effectLeases) := by
  have own : ∀ lease ∈ r.effectLeases,
      Spoken (fun _ => False) r.effectLeases lease.grantId lease.generation :=
    fun lease member => .inl ⟨lease, member, rfl, rfl⟩
  have compared : ∀ (id : Bytes) (g : Number) (action : Value) (lease : EffectLease),
      lease ∈ r.effectLeases → Asked s action → lease.grantId = id →
      (action.get "capability").get "grant_id" = .str id → action.get "generation" = .num g →
      Number.eq g lease.generation = true →
      Value.tostring (.num g) = Value.tostring (.num lease.generation) := by
    rintro id g action lease member ⟨inst, called⟩ rfl named generation same
    unfold Spelled at spelled
    rw [called] at spelled
    have spelt := spelled lease member named
    rw [generation] at spelt
    exact spelt same
  intro id g g' first second same
  rcases first with ⟨lease, member, rfl, rfl⟩ | ⟨action, called, named, generation⟩
  · rcases second with ⟨other, member', named', rfl⟩ | ⟨action, called, named, generation⟩
    · refine alike lease.grantId _ _ (own lease member) ?_ same
      exact named' ▸ own other member'
    · exact (compared _ g' action lease member called rfl named generation
        (eq_symm same)).symm
  · rcases second with ⟨other, member', named', rfl⟩ | ⟨action', called', named', generation'⟩
    · exact compared id g action other member' called named' named generation same
    · obtain ⟨inst, called⟩ := called
      obtain ⟨inst', called'⟩ := called'
      rw [called] at called'
      cases called'
      rw [generation] at generation'
      cases generation'
      rfl

/-! ## One-use authority over whole runs -/

structure Authorized (r : Registry) : Prop where
  living : Living r
  issued : Issued r
  counted : Counted r.grants r.effectLeases
  exercised : Exercised r.effectLeases r.log

theorem Change.authorized (change : Change asked r r')
    (authorized : Authorized r) : Authorized r' :=
  ⟨change.living authorized.living,
    change.issued authorized.living.unclaimed authorized.issued,
    change.counted authorized.issued authorized.counted,
    change.exercised authorized.issued authorized.exercised⟩

theorem new_authorized {options : Value} (made : new options = .ok r) :
    Authorized r := by
  have living := new_living made
  simp only [new, bind_eq_ok, pure_eq_ok] at made
  obtain ⟨_, -, _, -, _, -, _, -, provider, -, rfl⟩ := made
  refine ⟨living, ⟨by simp, by simp⟩, ?_, ?_⟩
  · intro id grant found
    cases found
  · exact ⟨by simp, by simp, by simp, by simp, by simp, trivial⟩

def leasesFor (r : Registry) (id : Bytes) (generation : Number) : Nat :=
  r.effectLeases.countP fun lease =>
    decide (lease.grantId = id ∧ Number.eq lease.generation generation = true)

theorem leasesFor_le {grant : Grant} (generation : Number)
    (counted : Counted r.grants r.effectLeases)
    (alike : Alike (Spoken (fun _ => False) r.effectLeases)) (found : r.grants id = some grant) :
    Number.le (.int (r.leasesFor id generation)) grant.bounds.maxEffectsPerGeneration = true := by
  have tallied := counted id grant found
  by_cases none : r.leasesFor id generation = 0
  · rw [none]
    exact zero_le_of_not_lt_one tallied.integral tallied.positive
  -- one of the leases tells how all of them spell the generation
  obtain ⟨lease, member, named⟩ := countP_pos_iff.mp (Nat.pos_of_ne_zero none)
  simp only [decide_eq_true_eq] at named
  have fewer : r.leasesFor id generation
      ≤ spelledLeases r.effectLeases id (Value.tostring (.num lease.generation)) := by
    apply countP_mono_left
    intro other member' named'
    simp only [decide_eq_true_eq] at named' ⊢
    refine ⟨named'.1, alike id _ _ ?_ ?_ ?_⟩
    · exact .inl ⟨other, member', named'.1, rfl⟩
    · exact .inl ⟨lease, member, named.1, rfl⟩
    · exact eq_euclidean (eq_symm named'.2) (eq_symm named.2)
  rw [← tallied.counts] at fewer
  exact le_of_le_nat fewer (tallied.within _ (by omega))

/-- A create was entered with what the action of its lease says, within the bounds of the
grant, for the claim of the root. -/
structure Warranted (r : Registry) (warrant : Warrant) (request : CreateRequest) (action : Value)
    (envelope : Envelope) (grant : Grant) (claim : Claim) : Prop where
  leased : .leased warrant action ∈ r.log
  read : envelopeOf action = some envelope
  actionId : warrant.action = envelope.actionId
  granted : r.grants warrant.grant = some grant
  rooted : ∃ root, r.roots warrant.root = some root ∧ root.claim = some claim
  relativePath : request.relativePath = envelope.relativePath
  precondition : request.precondition = envelope.precondition
  contentBytes : request.contentBytes = envelope.contentBytes
  contentLength : Number.eq (.int request.content.length) envelope.contentBytes = true
  contentSha256 : Digest.sha256 request.content = envelope.contentSha256
  pathBound : Number.lt grant.bounds.maxRelativePathBytes
    (.int request.relativePath.length) = false
  contentBound : Number.lt grant.bounds.maxContentBytes (.int request.content.length) = false
  lineage : claim.lineageId = envelope.lineageId
  generation : Number.eq claim.generation envelope.generation = true
  repository : claim.repositoryId = grant.repositoryId

structure OneUse (r : Registry) : Prop where
  createdOnce : ∀ grant action, r.log.countP (createsFor grant action) ≤ 1
  readOnce : ∀ grant action, r.log.countP (readsFor grant action) ≤ 1
  readAfter : ∀ later earlier warrant handle, r.log = later ++ .readBack warrant handle :: earlier →
    .createReturned warrant ∈ earlier
  returnedAfter : ∀ later earlier warrant, r.log = later ++ .createReturned warrant :: earlier →
    ∃ handle request, .created warrant handle request ∈ earlier
  bounded : ∀ id grant generation, r.grants id = some grant →
    Number.le (.int (r.leasesFor id generation)) grant.bounds.maxEffectsPerGeneration = true
  warranted : ∀ warrant handle request, .created warrant handle request ∈ r.log →
    ∃ action envelope grant claim, Warranted r warrant request action envelope grant claim

theorem Authorized.warranted (authorized : Authorized r) {handle : Nat}
    {request : CreateRequest} (entered : .created warrant handle request ∈ r.log) :
    ∃ action envelope grant claim, Warranted r warrant request action envelope grant claim := by
  obtain ⟨lease, ⟨found, named⟩, -, fits⟩ :=
    authorized.exercised.created warrant handle request entered
  have backed := authorized.issued.backed _ lease found
  obtain ⟨action, envelope, leased, read, carries, claimed⟩ := backed.origin
  obtain ⟨root, claim, grant, rooted, known, granted, lineage, generation, repository⟩ := claimed
  obtain ⟨grant', paid, -, path, bytes⟩ := backed.paid
  rw [granted] at paid
  cases paid
  have grantId : lease.grantId = warrant.grant := congrArg Warrant.grant named
  have rootId : lease.rootId = warrant.root := congrArg Warrant.root named
  have actionId : lease.actionId = warrant.action := congrArg Warrant.action named
  rw [named] at leased
  rw [grantId] at granted
  rw [rootId] at rooted
  refine ⟨action, envelope, grant, claim, leased, read, actionId.symm.trans carries.actionId,
    granted, ⟨root, rooted, known⟩, fits.relativePath.trans carries.relativePath,
    fits.precondition.trans carries.precondition, fits.contentBytes.trans carries.contentBytes,
    ?_, fits.sha256.trans carries.contentSha256, ?_, ?_, lineage, generation, repository⟩
  · rw [← carries.contentBytes]
    exact fits.length
  · rw [fits.relativePath]
    exact path
  · rw [lt_congr_right fits.length]
    exact bytes

theorem Authorized.oneUse (authorized : Authorized r)
    (alike : Alike (Spoken (fun _ => False) r.effectLeases)) : OneUse r := by
  have exercised := authorized.exercised
  refine ⟨exercised.createdOnce, exercised.readOnce, ?_, ?_, ?_, ?_⟩
  · intro later earlier warrant handle shape
    have ordered := exercised.ordered
    rw [shape] at ordered
    exact ordered.at
  · intro later earlier warrant shape
    have ordered := exercised.ordered
    rw [shape] at ordered
    exact ordered.at
  · intro id grant generation found
    exact leasesFor_le generation authorized.counted alike found
  · intro warrant handle request entered
    exact authorized.warranted entered

theorem write_authority_one_use (derive : DeriveIntent) (options : Value) (r : Registry)
    (made : new options = .ok r) (steps : List Step)
    (spelled : (machine derive).Along Spelled r steps) : OneUse ((machine derive).run r steps) := by
  have kept : Authorized ((machine derive).run r steps)
      ∧ Alike (Spoken (fun _ => False) ((machine derive).run r steps).effectLeases) := by
    refine (machine derive).along_invariant
      (fun r => Authorized r ∧ Alike (Spoken (fun _ => False) r.effectLeases)) ?_ steps r spelled
      ⟨new_authorized made, ?_⟩
    · rintro r s spelt ⟨authorized, alike⟩
      have course : Changes (Asked s) r ((machine derive).after r s) :=
        step_changes derive r s fun action inst called => ⟨inst, called⟩
      refine ⟨changes_keep Authorized (fun _ _ change holds => change.authorized holds) course
        authorized, ?_⟩
      intro id g g' first second same
      exact spelt.alike alike id g g' (changes_spoken course first.widen)
        (changes_spoken course second.widen) same
    · simp only [new, bind_eq_ok, pure_eq_ok] at made
      obtain ⟨_, -, _, -, _, -, _, -, provider, -, rfl⟩ := made
      rintro id g g' (⟨lease, member, -⟩ | ⟨_, wanted, -⟩)
      · cases member
      · exact wanted.elim
  exact kept.1.oneUse kept.2

/-! ## A sample action -/

def sampleContent : Bytes := utf8 "hi"

def sampleInstance : Value :=
  .record [("id", .text "p"), ("session_id", .text "s"), ("lineage_id", .text "l"),
    ("generation", .nat 1),
    ("regime", .record [("encoding", .record [("bounds",
      .record [("max_output_units", .nat 4)])])]),
    ("field", .record [("units", .record [("u", .record [("id", .text "u"), ("version", .nat 1),
      ("activation", .text "live"),
      ("carrier", .record [("value", .record [("content", .str sampleContent)])])])])])]

def sampleDerive : DeriveIntent := fun _ _ => .ok (.record [
  ("intent_id", .text "i"), ("source_unit_id", .text "u"), ("source_unit_version", .nat 1),
  ("source_formation_event_ref", .text "e"), ("relative_path", .text "a.txt"),
  ("content_bytes", .nat 2), ("content_sha256", .str (Digest.sha256 sampleContent)),
  ("content_truth_status", .text "unknown"), ("scope_refs", .emptyTable),
  ("provenance_refs", .emptyTable)])

def sampleFields (generation : Number) : List (String × Value) := [
  ("protocol_version", .text "repository.action.v0"), ("intent_id", .text "i"),
  ("packet_id", .text "p"), ("session_id", .text "s"), ("lineage_id", .text "l"),
  ("generation", .num generation),
  ("work_unit", .record [("id", .text "u"), ("version", .nat 1),
    ("formation_event_ref", .text "e")]),
  ("capability", .record (["grant_id", "revision", "repository_id", "provider_id",
    "root_fingerprint", "root_authority_id", "policy_digest"].map fun name =>
      (name, sampleGrant.get name))),
  ("operation", .text "create_text_file"),
  ("target", .record [("relative_path", .text "a.txt"), ("precondition", .text "absent")]),
  ("content", .record [("ref", .record [("unit_id", .text "u"), ("unit_version", .nat 1),
      ("selector", .text "carrier.value.content")]),
    ("bytes", .nat 2), ("sha256", .str (Digest.sha256 sampleContent))]),
  ("required_budget", .record [("tool_calls", .nat 2), ("file_writes", .nat 1)]),
  ("scope_refs", .emptyTable), ("provenance_refs", .emptyTable),
  ("event_truth_status", .text "runtime_confirmed"), ("content_truth_status", .text "unknown")]

def sampleAction (generation : Number) : Value :=
  match Digest.identify "repository-action:" (.record (sampleFields generation)) with
  | .ok id => .record (("action_id", .str id) :: sampleFields generation)
  | .error _ => .nil

def sampleRequest : Value :=
  .record [("protocol_version", .text "repository.create_text_file.request.v0"),
    ("action_id", (sampleAction (.int 1)).get "action_id"),
    ("grant_id", sampleGrant.get "grant_id"), ("grant_revision", sampleGrant.get "revision"),
    ("root_fingerprint", sampleGrant.get "root_fingerprint"), ("relative_path", .text "a.txt"),
    ("content", .str sampleContent), ("content_bytes", .nat 2),
    ("content_sha256", .str (Digest.sha256 sampleContent)), ("precondition", .text "absent")]

def sampleActionId : Bytes :=
  match (sampleAction (.int 1)).get "action_id" with
  | .str id => id
  | _ => []

/-- A create, and its action asked for once more. -/
def sampleWrite : List Step :=
  [⟨.mint sampleMint, sampleWorld⟩,
    ⟨.beginEffect (sampleAction (.int 1)) sampleInstance, sampleWorld⟩,
    ⟨.effectCreate 0 sampleRequest, sampleWorld⟩,
    ⟨.beginEffect (sampleAction (.int 1)) sampleInstance, sampleWorld⟩]

/-- A second action that writes the same generation as `1.0`. -/
def sampleTwice : List Step :=
  [⟨.mint sampleMint, sampleWorld⟩,
    ⟨.beginEffect (sampleAction (.int 1)) sampleInstance, sampleWorld⟩,
    ⟨.beginEffect (sampleAction (.float 1)) sampleInstance, sampleWorld⟩]

theorem sample_spent :
    ((machine sampleDerive).run sampleRegistry sampleWrite).log.countP
        (createsFor sampleGrantId sampleActionId) = 1
      ∧ (((machine sampleDerive).run sampleRegistry sampleTwice).grants sampleGrantId).map
        (fun grant => Number.le
          (.int (((machine sampleDerive).run sampleRegistry sampleTwice).leasesFor sampleGrantId
            (.int 1))) grant.bounds.maxEffectsPerGeneration) = some false := by
  decide +kernel

theorem sample_spelled :
    Spelled ((machine sampleDerive).run sampleRegistry (sampleWrite.take 1))
        ⟨.beginEffect (sampleAction (.int 1)) sampleInstance, sampleWorld⟩
      ∧ Spelled ((machine sampleDerive).run sampleRegistry (sampleWrite.take 3))
        ⟨.beginEffect (sampleAction (.int 1)) sampleInstance, sampleWorld⟩ := by
  decide +kernel

theorem write_authority_one_use_sample :
    ((machine sampleDerive).run sampleRegistry sampleWrite).log.countP
        (createsFor sampleGrantId sampleActionId) = 1
      ∧ OneUse ((machine sampleDerive).run sampleRegistry sampleWrite) := by
  refine ⟨sample_spent.1, ?_⟩
  exact write_authority_one_use sampleDerive sampleOptions sampleRegistry sample_made sampleWrite
    ⟨trivial, sample_spelled.1, trivial, sample_spelled.2, trivial⟩

theorem effect_limit_evaded : new sampleOptions = .ok sampleRegistry
    ∧ ¬ OneUse ((machine sampleDerive).run sampleRegistry sampleTwice) := by
  refine ⟨sample_made, ?_⟩
  intro oneUse
  obtain ⟨grant, found, beyond⟩ := Option.map_eq_some_iff.mp sample_spent.2
  have within := oneUse.bounded sampleGrantId grant (.int 1) found
  rw [beyond] at within
  cases within

end Proc17.Runtime.Repository.Registry
