import Proc17.Layout.Counter
import Proc17.Lua.Log
import Proc17.Runtime.Repository.Course

/-!
# The life of a root authority

Roots move along `Move` only, every revision goes to one root or grant and is never handed
out again, and no write enters the provider unless the root is materializing and no seal was
begun since the lease.
-/

namespace Proc17.Runtime.Repository.Registry

open Lua Core Proc17.Log List Function

variable {asked : Value → Prop}

/-! ## Revisions -/

def revisionsOf (log : List Happening) : List Nat :=
  log.filterMap fun
    | .revised revision => some revision
    | _ => none

inductive Owner where
  | root (id : Bytes)
  | grant (id : Bytes)
  deriving DecidableEq

def bears (r : Registry) : Owner → Option (Nat × (RootState ⊕ GrantState))
  | .root id => (r.roots id).map fun root => (root.revision, .inl root.state)
  | .grant id => (r.grants id).map fun grant => (grant.revision, .inr grant.state)

def book (r : Registry) : Counter.Book Owner (RootState ⊕ GrantState) :=
  ⟨revisionsOf r.log, r.nextRevision, r.bears⟩

variable {log : List Happening} {r r' : Registry}

variable {id : Bytes}

theorem update_all {α : Type} {table : Bytes → Option α} {P : Bytes → α → Prop}
    {new : α} (all : ∀ other value, table other = some value → P other value)
    (holds : P id new) :
    ∀ other value, Function.update table id (some new) other = some value → P other value := by
  intro other value found
  by_cases same : other = id
  · subst same
    rw [update_self] at found
    cases found
    exact holds
  · rw [update_of_ne same] at found
    exact all other value found

theorem update_keeps {α : Type} {table : Bytes → Option α} {R : α → α → Prop} {new : α}
    (refl : ∀ a, R a a) (later : ∀ old, table id = some old → R old new) : ∀ other old,
    table other = some old → ∃ kept, Function.update table id (some new) other = some kept
      ∧ R old kept := by
  intro other old found
  by_cases same : other = id
  · subst same
    exact ⟨new, update_self .., later old found⟩
  · exact ⟨old, by rw [update_of_ne same]; exact found, refl old⟩

section Book

variable {root root' : Root} {grant grant' : Grant}

theorem bears_setRoot (r : Registry) (id : Bytes) (root : Root) : (r.setRoot id root).bears
    = Function.update r.bears (.root id) (some (root.revision, .inl root.state)) := by
  funext owner
  by_cases same : owner = .root id
  · subst same
    simp [bears]
  · cases owner with
    | root other =>
      have differ : other ≠ id := fun equal => same (congrArg Owner.root equal)
      simp [bears, setRoot, differ]
    | grant other => simp [bears, setRoot]

theorem bears_setGrant (r : Registry) (id : Bytes) (grant : Grant) : (r.setGrant id grant).bears
    = Function.update r.bears (.grant id) (some (grant.revision, .inr grant.state)) := by
  funext owner
  by_cases same : owner = .grant id
  · subst same
    simp [bears]
  · cases owner with
    | root other => simp [bears, setGrant]
    | grant other =>
      have differ : other ≠ id := fun equal => same (congrArg Owner.grant equal)
      simp [bears, setGrant, differ]

theorem book_setRoot (found : r.roots id = some root) (state : root'.state = root.state)
    (revision : root'.revision = root.revision) : (r.setRoot id root').book = r.book := by
  have same : (r.setRoot id root').bears = r.bears := by
    rw [bears_setRoot, state, revision, update_eq_self_iff]
    simp [bears, found]
  rw [book, same]
  rfl

theorem book_setGrant (found : r.grants id = some grant) (state : grant'.state = grant.state)
    (revision : grant'.revision = grant.revision) : (r.setGrant id grant').book = r.book := by
  have same : (r.setGrant id grant').bears = r.bears := by
    rw [bears_setGrant, state, revision, update_eq_self_iff]
    simp [bears, found]
  rw [book, same]
  rfl

theorem moveRoot_step (r : Registry) (id : Bytes) (root : Root)
    (revision : root.revision = r.nextRevision) :
    Counter.Step r.book (r.moveRoot id root).advance.book := by
  have made : (r.moveRoot id root).advance.book = ⟨r.book.next :: r.book.issued, r.book.next + 1,
      Function.update r.book.bears (.root id) (some (r.book.next, .inl root.state))⟩ := by
    rw [book]
    congr 1
    exact (bears_setRoot r id root).trans (by rw [revision]; rfl)
  rw [made]
  exact .taken _ _

theorem setGrant_step (r : Registry) (id : Bytes) (grant : Grant)
    (revision : grant.revision = r.nextRevision) :
    Counter.Step r.book (r.setGrant id grant).advance.book := by
  have made : (r.setGrant id grant).advance.book = ⟨r.book.next :: r.book.issued, r.book.next + 1,
      Function.update r.book.bears (.grant id) (some (r.book.next, .inr grant.state))⟩ := by
    rw [book]
    congr 1
    exact (bears_setGrant r id grant).trans (by rw [revision]; rfl)
  rw [made]
  exact .taken _ _

end Book

theorem Change.book (change : Change asked r r') : Counter.Steps r.book r'.book := by
  cases change with
  | abandoned fresh serial =>
    cases fresh with
    | false => exact .refl
    | true => exact .single .spent
  | granted serial id grant absent new revision => exact .single (setGrant_step r id grant revision)
  | rooted serial id grant absent new revision rootId root unrooted _ _ _ first =>
    exact (Relation.ReflTransGen.single (moveRoot_step r rootId root first)).tail
      (setGrant_step _ id grant revision)
  | ended id grant state found => exact .single (setGrant_step r id _ rfl)
  | closedGrant id grant handle found =>
    have same : (r.setGrant id { grant with handle := none }).book = r.book :=
      book_setGrant found rfl rfl
    exact same ▸ .refl
  | rootMoved id root root' found moved => exact .single (moveRoot_step r id root' moved.revision)
  | rootTouched id root root' found kept =>
    rw [book_setRoot found kept.state kept.revision]
  | leased plan action admitted =>
    have same : (r.issueLease plan action).book = r.book := book_setGrant admitted.grant rfl rfl
    rw [same]
  | committed id grantId root root' grant handle source found _ _ granted _ _ _ _ _ revision =>
    have same : ((r.moveRoot id root').advance.setGrant grantId
        { grant with handle := none }).book = (r.moveRoot id root').advance.book :=
      book_setGrant granted rfl rfl
    rw [same]
    exact .single (moveRoot_step r id root' revision)
  | reserved plan found =>
    have same : (r.reserve plan).book = r.book := book_setRoot found rfl rfl
    rw [same]
  | consumed i live lease found =>
    have same : (r.consume i live).book = r.book := book_setRoot found rfl rfl
    rw [same]
  | finished i live verdict lease found =>
    have same : (r.finish i live verdict).book = r.book := book_setRoot found rfl rfl
    rw [same]
  | _ => exact .refl

/-! ## States -/

def historyOf (id : Bytes) (log : List Happening) : List RootState :=
  log.filterMap fun
    | .moved root state => if root = id then some state else none
    | _ => none

/-- The log holds the states of every root, each reached from the one before. -/
structure Tracked (roots : Bytes → Option Root) (log : List Happening) : Prop where
  absent : ∀ id, roots id = none → historyOf id log = []
  current : ∀ id root, roots id = some root → (historyOf id log).head? = some root.state
  ordered : ∀ id, (historyOf id log).IsChain fun later earlier => Move earlier later
  born : ∀ id state, (historyOf id log).getLast? = some state → state = .unclaimed

theorem historyOf_moved_self (id : Bytes) (state : RootState) (log : List Happening) :
    historyOf id (.moved id state :: log) = state :: historyOf id log := by
  simp [historyOf]

theorem historyOf_moved_other {id other : Bytes} (differ : other ≠ id) (state : RootState)
    (log : List Happening) : historyOf id (.moved other state :: log) = historyOf id log := by
  simp [historyOf, differ]

variable {root root' : Root}

section
variable {roots : Bytes → Option Root} (tracked : Tracked roots log)
include tracked

theorem Tracked.kept (found : roots id = some root) (state : root'.state = root.state) :
    Tracked (Function.update roots id (some root')) log := by
  refine ⟨?_, update_all tracked.current ?_, tracked.ordered, tracked.born⟩
  · intro other absent
    by_cases same : other = id
    · subst same
      simp at absent
    · rw [update_of_ne same] at absent
      exact tracked.absent other absent
  · rw [state]
    exact tracked.current id root found

theorem Tracked.entered
    (chain : (root'.state :: historyOf id log).IsChain fun later earlier => Move earlier later)
    (born : historyOf id log = [] → root'.state = .unclaimed) :
    Tracked (Function.update roots id (some root')) (.moved id root'.state :: log) := by
  refine ⟨?_, ?_, ?_, ?_⟩
  · intro other absent
    by_cases same : other = id
    · subst same
      simp at absent
    · rw [update_of_ne same] at absent
      rw [historyOf_moved_other (Ne.symm same)]
      exact tracked.absent other absent
  · intro other root here
    by_cases same : other = id
    · subst same
      rw [update_self] at here
      cases here
      rw [historyOf_moved_self]
      rfl
    · rw [update_of_ne same] at here
      rw [historyOf_moved_other (Ne.symm same)]
      exact tracked.current other root here
  · intro other
    by_cases same : other = id
    · subst same
      rw [historyOf_moved_self]
      exact chain
    · rw [historyOf_moved_other (Ne.symm same)]
      exact tracked.ordered other
  · intro other state last
    by_cases same : other = id
    · subst same
      rw [historyOf_moved_self] at last
      cases past : historyOf other log with
      | nil =>
        rw [past] at last
        cases last
        exact born past
      | cons newest rest =>
        rw [past, List.getLast?_cons_cons, ← past] at last
        exact tracked.born other state last
    · rw [historyOf_moved_other (Ne.symm same)] at last
      exact tracked.born other state last

theorem Tracked.move {root root' : Root} (found : roots id = some root)
    (move : Move root.state root'.state) :
    Tracked (Function.update roots id (some root')) (.moved id root'.state :: log) := by
  have current := tracked.current id root found
  have ordered := tracked.ordered id
  apply tracked.entered
  · cases past : historyOf id log with
    | nil => simp [past] at current
    | cons newest rest =>
      rw [past] at current ordered
      cases current
      exact isChain_cons_cons.mpr ⟨move, ordered⟩
  · intro past
    simp [past] at current

theorem Tracked.store (absent : roots id = none) (state : root.state = .unclaimed) :
    Tracked (Function.update roots id (some root)) (.moved id root.state :: log) := by
  apply tracked.entered
  · rw [tracked.absent id absent]
    exact List.IsChain.singleton _
  · intro _
    exact state

end

variable {roots : Bytes → Option Root}

theorem Tracked.quiet {log log' : List Happening}
    (tracked : Tracked roots log) (same : ∀ id, historyOf id log' = historyOf id log) :
    Tracked roots log' := by
  constructor
  · intro id absent
    rw [same]
    exact tracked.absent id absent
  · intro id root found
    rw [same]
    exact tracked.current id root found
  · intro id
    rw [same]
    exact tracked.ordered id
  · intro id state last
    rw [same] at last
    exact tracked.born id state last

theorem counted_history (r : Registry) (fresh : Bool) (serial : Nat) (id : Bytes) :
    historyOf id (r.counted fresh serial).log = historyOf id r.log := by
  cases fresh <;> rfl

theorem counted_roots (r : Registry) (fresh : Bool) (serial : Nat) :
    (r.counted fresh serial).roots = r.roots := by
  cases fresh <;> rfl

theorem Change.tracked (change : Change asked r r')
    (tracked : Tracked r.roots r.log) : Tracked r'.roots r'.log := by
  have counted (fresh : Bool) (serial : Nat) :
      Tracked (r.counted fresh serial).roots (r.counted fresh serial).log := by
    rw [counted_roots]
    exact tracked.quiet (counted_history r fresh serial)
  cases change with
  | abandoned fresh serial => exact (counted fresh serial).quiet fun _ => rfl
  | granted serial => exact (counted false serial).quiet fun _ => rfl
  | rooted serial id grant absent new revision rootId root unrooted state =>
    have noted : Tracked _ (r.counted true serial).advance.log :=
      (counted true serial).quiet fun _ => rfl
    exact noted.store unrooted state
  | rootMoved id root root' found moved =>
    exact (tracked.move found moved.move).quiet fun _ => rfl
  | rootTouched id root root' found kept => exact tracked.kept found kept.state
  | committed id grantId root root' grant handle source found pending _ _ _ _ _ _ sealed =>
    have move : Move root.state root'.state := by
      rw [pending, sealed]
      exact .sealed
    exact (tracked.move found move).quiet fun _ => rfl
  | reserved plan found | consumed i live lease found | finished i live verdict lease found =>
    exact Tracked.quiet (tracked.kept found rfl) fun _ => rfl
  | _ => exact tracked.quiet fun _ => rfl

/-! ## Writes and seals -/

def SealedSince (log : List Happening) (warrant : Warrant) : Prop :=
  ∃ later action earlier, log = later ++ .leased warrant action :: earlier
    ∧ .moved warrant.root .sealPending ∈ later

theorem sealedSince_cons {entry : Happening} {warrant : Warrant}
    (since : SealedSince (entry :: log) warrant) :
    SealedSince log warrant ∨ entry = .moved warrant.root .sealPending := by
  obtain ⟨later, action, earlier, shape, begun⟩ := since
  cases later with
  | nil => cases begun
  | cons newest rest =>
    rw [cons_append] at shape
    cases shape
    rcases mem_cons.mp begun with same | before
    · exact .inr same.symm
    · exact .inl ⟨rest, action, earlier, rfl, before⟩

theorem leased_mem_of_sealedSince {warrant : Warrant}
    (since : SealedSince log warrant) : ∃ action, .leased warrant action ∈ log := by
  obtain ⟨later, action, earlier, rfl, -⟩ := since
  exact ⟨action, by simp⟩

/-- The root of a lease carries the lease's revision, or a later one once a seal was
begun on it. -/
structure Dated (roots : Bytes → Option Root) (leases : List EffectLease)
    (log : List Happening) (next : Nat) : Prop where
  below : ∀ id root, roots id = some root → root.revision < next
  issued : ∀ (i : Nat) (lease : EffectLease), leases[i]? = some lease →
    ∃ root, roots lease.rootId = some root ∧ lease.rootRevision ≤ root.revision
    ∧ (SealedSince log (lease.warrant i) → lease.rootRevision < root.revision)
  places : ∀ warrant action, .leased warrant action ∈ log → warrant.lease < leases.length

section Dated

variable {leases : List EffectLease}
  {next : Nat}

variable (dated : Dated roots leases log next)
include dated

theorem Dated.note (entry : Happening) (calm : ∀ id state, entry ≠ .moved id state)
    (unleased : ∀ warrant action, entry ≠ .leased warrant action) :
    Dated roots leases (entry :: log) next := by
  refine ⟨dated.below, ?_, ?_⟩
  · intro i lease found
    obtain ⟨root, rooted, atMost, later⟩ := dated.issued i lease found
    refine ⟨root, rooted, atMost, ?_⟩
    intro since
    exact later ((sealedSince_cons since).resolve_right (calm _ _))
  · intro warrant action member
    rcases mem_cons.mp member with same | before
    · exact absurd same.symm (unleased warrant action)
    · exact dated.places warrant action before

theorem Dated.advance : Dated roots leases (.revised next :: log) (next + 1) := by
  have noted := dated.note (.revised next) (by simp) (by simp)
  refine ⟨?_, noted.issued, noted.places⟩
  intro id root found
  have := dated.below id root found
  omega

theorem Dated.kept (found : roots id = some root)
    (revision : root'.revision = root.revision) :
    Dated (Function.update roots id (some root')) leases log next := by
  refine ⟨update_all dated.below ?_, ?_, dated.places⟩
  · rw [revision]
    exact dated.below id root found
  · intro i lease leased
    obtain ⟨root'', rooted, atMost, later⟩ := dated.issued i lease leased
    by_cases same : lease.rootId = id
    · subst same
      rw [found] at rooted
      cases rooted
      exact ⟨root', update_self .., by rw [revision]; exact atMost,
        by rw [revision]; exact later⟩
    · exact ⟨root'', by rw [update_of_ne same]; exact rooted, atMost, later⟩

theorem Dated.move (found : roots id = some root) (revision : root'.revision = next) :
    Dated (Function.update roots id (some root')) leases
      (.revised next :: .moved id root'.state :: log) (next + 1) := by
  refine ⟨update_all (fun other root'' here => Nat.lt_succ_of_lt (dated.below other root'' here))
    (by omega), ?_, ?_⟩
  · intro i lease leased
    obtain ⟨root'', rooted, atMost, later⟩ := dated.issued i lease leased
    by_cases same : lease.rootId = id
    · subst same
      rw [found] at rooted
      cases rooted
      have earlier := dated.below lease.rootId root found
      exact ⟨root', update_self .., by omega, fun _ => by omega⟩
    · refine ⟨root'', by rw [update_of_ne same]; exact rooted, atMost, ?_⟩
      intro since
      rcases sealedSince_cons since with since | revised
      · rcases sealedSince_cons since with since | moved
        · exact later since
        · injection moved with here
          exact absurd here.symm same
      · cases revised
  · intro warrant action member
    simp only [mem_cons, reduceCtorEq, false_or] at member
    exact dated.places warrant action member

theorem Dated.store (absent : roots id = none) (revision : root.revision < next) :
    Dated (Function.update roots id (some root)) leases (.moved id root.state :: log) next := by
  refine ⟨update_all dated.below revision, ?_, ?_⟩
  · intro i lease leased
    obtain ⟨root'', rooted, atMost, later⟩ := dated.issued i lease leased
    have same : lease.rootId ≠ id := by
      intro same
      rw [same, absent] at rooted
      cases rooted
    refine ⟨root'', by rw [update_of_ne same]; exact rooted, atMost, ?_⟩
    intro since
    rcases sealedSince_cons since with since | moved
    · exact later since
    · injection moved with here
      exact absurd here.symm same
  · intro warrant action member
    simp only [mem_cons, reduceCtorEq, false_or] at member
    exact dated.places warrant action member

theorem Dated.marked {i : Nat} {lease lease' : EffectLease} (found : leases[i]? = some lease)
    (warrant : lease'.warrant i = lease.warrant i)
    (revision : lease'.rootRevision = lease.rootRevision) :
    Dated roots (leases.set i lease') log next := by
  refine ⟨dated.below, ?_, ?_⟩
  · intro j other here
    obtain ⟨rfl, rfl⟩ | ⟨-, here⟩ := getElem?_set_cases here
    · have root : other.rootId = lease.rootId := congrArg Warrant.root warrant
      rw [root, revision, warrant]
      exact dated.issued j lease found
    · exact dated.issued j other here
  · intro w action member
    rw [length_set]
    exact dated.places w action member

theorem Dated.issue {lease : EffectLease} {action : Value} (found : roots lease.rootId = some root)
    (revision : lease.rootRevision = root.revision) :
    Dated roots (leases ++ [lease]) (.leased (lease.warrant leases.length) action :: log)
      next := by
  refine ⟨dated.below, ?_, ?_⟩
  · intro i other here
    obtain ⟨rfl, rfl⟩ | here := getElem?_append_cases here
    · refine ⟨root, found, by omega, ?_⟩
      intro since
      -- a fresh place occurs in no earlier entry of the log
      have before := (sealedSince_cons since).resolve_right (by simp)
      obtain ⟨earlier, member⟩ := leased_mem_of_sealedSince before
      have := dated.places _ _ member
      exact absurd this (Nat.lt_irrefl _)
    · obtain ⟨root', rooted, atMost, later⟩ := dated.issued i other here
      refine ⟨root', rooted, atMost, ?_⟩
      intro since
      exact later ((sealedSince_cons since).resolve_right (by simp))
  · intro warrant given member
    rw [length_append, length_singleton]
    rcases mem_cons.mp member with same | before
    · cases same
      exact Nat.lt_succ_self _
    · have := dated.places warrant given before
      omega

end Dated

theorem Change.dated (change : Change asked r r')
    (dated : Dated r.roots r.effectLeases r.log r.nextRevision) :
    Dated r'.roots r'.effectLeases r'.log r'.nextRevision := by
  have opened := dated.note (.opened r.nextHandle) (by simp) (by simp)
  have counted (fresh : Bool) (serial : Nat) : Dated (r.counted fresh serial).roots
      (r.counted fresh serial).effectLeases (r.counted fresh serial).log
      (r.counted fresh serial).nextRevision := by
    cases fresh with
    | false => exact opened
    | true => exact opened.advance
  cases change with
  | abandoned fresh serial => exact (counted fresh serial).note _ (by simp) (by simp)
  | granted serial id grant => exact (counted false serial).advance
  | rooted serial id grant absent new revision rootId root unrooted state claim qaSource first =>
    refine (counted true serial).advance.store unrooted ?_
    rw [first]
    exact Nat.lt_succ_of_lt (Nat.lt_succ_self _)
  | ended id grant state => exact dated.advance
  | closedGrant | inventoried => exact dated.note _ (by simp) (by simp)
  | rootMoved id root root' found moved => exact dated.move found moved.revision
  | rootTouched id root root' found kept => exact dated.kept found kept.revision
  | leased plan action admitted => exact dated.issue admitted.root rfl
  | created i lease handle request entered | readBack i lease handle entered =>
    refine Dated.note (dated.marked entered.found ?_ ?_) _ ?_ ?_ <;> first | rfl | simp
  | createRefused i lease found | readRefused i lease found => exact dated.marked found rfl rfl
  | createReturned i lease found =>
    refine Dated.note (dated.marked found ?_ ?_) _ ?_ ?_ <;> first | rfl | simp
  | sealMarked leases => exact dated
  | committed id grantId root root' grant handle source found _ _ _ _ _ _ _ _ revision =>
    exact dated.move found revision
  | reserved plan found | consumed i live lease found | finished i live verdict lease found =>
    refine Dated.note (dated.kept found ?_) _ ?_ ?_ <;> simp

/-- A create enters the provider of a materializing root, with no seal begun since its
lease. -/
def CreateLaw : Happening → List Happening → Prop
  | .created warrant _ _, earlier =>
    (historyOf warrant.root earlier).head? = some .materializing ∧ ¬ SealedSince earlier warrant
  | _, _ => True

theorem Change.creates (change : Change asked r r')
    (tracked : Tracked r.roots r.log)
    (dated : Dated r.roots r.effectLeases r.log r.nextRevision)
    (creates : Past CreateLaw r.log) : Past CreateLaw r'.log := by
  have counted (fresh : Bool) (serial : Nat) : Past CreateLaw (r.counted fresh serial).log := by
    cases fresh with
    | false => exact ⟨trivial, creates⟩
    | true => exact ⟨trivial, trivial, creates⟩
  cases change with
  | abandoned fresh serial => exact ⟨trivial, counted fresh serial⟩
  | granted serial => exact ⟨trivial, counted false serial⟩
  | rooted serial => exact ⟨trivial, trivial, counted true serial⟩
  | created i lease handle request entered =>
    obtain ⟨root, rooted, materializing, revision⟩ := entered.root
    refine ⟨⟨?_, ?_⟩, creates⟩
    · have current := tracked.current lease.rootId root rooted
      rw [materializing] at current
      exact current
    · intro since
      obtain ⟨root', rooted', -, later⟩ := dated.issued i lease entered.found
      rw [rooted] at rooted'
      cases rooted'
      have := later since
      omega
  | rootMoved | committed => exact ⟨trivial, trivial, creates⟩
  | createRefused | readRefused | sealMarked | rootTouched => exact creates
  | _ => exact ⟨trivial, creates⟩

/-! ## Claims and closures -/

def Unclaimed (roots : Bytes → Option Root) : Prop :=
  ∀ id root, roots id = some root → root.state = .unclaimed → root.claim = none

theorem Unclaimed.replace (unclaimed : Unclaimed roots)
    (free : root'.state = .unclaimed → root'.claim = none) :
    Unclaimed (Function.update roots id (some root')) :=
  update_all unclaimed free

theorem Move.claimed_after {before after : RootState} (move : Move before after) :
    after ≠ .unclaimed := by
  cases move <;> decide

theorem Change.unclaimed (change : Change asked r r')
    (unclaimed : Unclaimed r.roots) : Unclaimed r'.roots := by
  cases change with
  | abandoned fresh => cases fresh <;> exact unclaimed
  | rooted serial id grant absent new revision rootId root unrooted state claim =>
    exact unclaimed.replace fun _ => claim
  | rootMoved id root root' found moved =>
    exact unclaimed.replace fun state => absurd state moved.move.claimed_after
  | rootTouched id root root' found kept =>
    refine unclaimed.replace fun state => ?_
    rw [kept.claim]
    exact unclaimed id root found (kept.state ▸ state)
  | committed id grantId root root' grant handle source found _ _ _ _ _ _ _ sealed =>
    refine unclaimed.replace fun state => ?_
    rw [sealed] at state
    cases state
  | reserved plan found =>
    exact unclaimed.replace fun state => unclaimed plan.rootId plan.root found state
  | consumed i live lease found | finished i live verdict lease found =>
    exact unclaimed.replace fun state => unclaimed live.lease.rootId live.root found state
  | _ => exact unclaimed

structure Later (root root' : Root) : Prop where
  claim : ∀ claim, root.claim = some claim → root'.claim = some claim
  sealed : root.state = .sealed → root'.state = .sealed ∧ root'.closureId = root.closureId
    ∧ root'.inventoryDigest = root.inventoryDigest
    ∧ root'.closureProjection = root.closureProjection
  quarantined : root.state = .quarantined → root'.state = .quarantined

theorem Later.refl (root : Root) : Later root root :=
  ⟨fun _ known => known, fun state => ⟨state, rfl, rfl, rfl⟩, fun state => state⟩

theorem Later.trans {a b c : Root} (first : Later a b) (second : Later b c) : Later a c := by
  constructor
  · intro claim known
    exact second.claim claim (first.claim claim known)
  · intro state
    obtain ⟨sealed, closureId, digest, projection⟩ := first.sealed state
    obtain ⟨sealed', closureId', digest', projection'⟩ := second.sealed sealed
    exact ⟨sealed', closureId'.trans closureId, digest'.trans digest, projection'.trans projection⟩
  · intro state
    exact second.quarantined (first.quarantined state)

theorem Move.not_from_sealed (after : RootState) : ¬ Move .sealed after := by
  intro move
  cases move
  contradiction

theorem Move.not_from_quarantined (after : RootState) : ¬ Move .quarantined after := by
  intro move
  cases move
  contradiction

theorem Later.moved (move : Move root.state root'.state)
    (claim : ∀ claim, root.claim = some claim → root'.claim = some claim) : Later root root' := by
  refine ⟨claim, ?_, ?_⟩
  · intro state
    rw [state] at move
    exact absurd move (Move.not_from_sealed _)
  · intro state
    rw [state] at move
    exact absurd move (Move.not_from_quarantined _)

def Keeps (roots roots' : Bytes → Option Root) : Prop :=
  ∀ id root, roots id = some root → ∃ root', roots' id = some root' ∧ Later root root'

theorem Keeps.refl (roots : Bytes → Option Root) : Keeps roots roots :=
  fun _ root found => ⟨root, found, Later.refl root⟩

theorem Keeps.trans {a b c : Bytes → Option Root} (first : Keeps a b) (second : Keeps b c) :
    Keeps a c := by
  intro id root found
  obtain ⟨root', found', later⟩ := first id root found
  obtain ⟨root'', found'', later'⟩ := second id root' found'
  exact ⟨root'', found'', later.trans later'⟩

theorem Keeps.replace
    (later : ∀ root, roots id = some root → Later root root') :
    Keeps roots (Function.update roots id (some root')) :=
  update_keeps Later.refl later

theorem Keeps.replaceFound (found : roots id = some root)
    (later : Later root root') :
    Keeps roots (Function.update roots id (some root')) :=
  Keeps.replace fun _ here => Option.some.inj (found.symm.trans here) ▸ later

theorem Change.keeps {r' : Registry} (change : Change asked r r') (unclaimed : Unclaimed r.roots) :
    Keeps r.roots r'.roots := by
  cases change with
  | abandoned fresh => cases fresh <;> exact Keeps.refl _
  | rooted serial id grant absent new revision rootId root unrooted =>
    apply Keeps.replace
    intro other here
    rw [unrooted] at here
    cases here
  | rootMoved id root root' found moved =>
    refine Keeps.replaceFound found (.moved moved.move ?_)
    intro claim known
    rcases moved.claim with same | free
    · rw [same]
      exact known
    · rw [unclaimed id root found free] at known
      cases known
  | rootTouched id root root' found kept =>
    refine Keeps.replaceFound found ⟨?_, ?_, ?_⟩
    · intro claim known
      rw [kept.claim]
      exact known
    · intro state
      exact ⟨kept.state.trans state, kept.closureId, kept.inventoryDigest, kept.closureProjection⟩
    · intro state
      exact kept.state.trans state
  | committed id grantId root root' grant handle source found pending _ _ _ _ _ _ sealed _
      claim =>
      refine Keeps.replaceFound found (.moved ?_ ?_)
      · rw [pending, sealed]
        exact .sealed
      · intro claim' known
        rw [claim]
        exact known
  | reserved plan found | consumed i live lease found | finished i live verdict lease found =>
    exact Keeps.replaceFound found ⟨fun _ known => known, fun state => ⟨state, rfl, rfl, rfl⟩,
      fun state => state⟩
  | _ => exact Keeps.refl _

/-! ## Lifecycle over whole runs -/

structure Living (r : Registry) : Prop where
  numbered : Counter.Sound r.book
  tracked : Tracked r.roots r.log
  dated : Dated r.roots r.effectLeases r.log r.nextRevision
  creates : Past CreateLaw r.log
  unclaimed : Unclaimed r.roots

theorem Change.living (change : Change asked r r') (living : Living r) :
    Living r' :=
  ⟨(change.book.sound living.numbered).1, change.tracked living.tracked, change.dated living.dated, change.creates living.tracked living.dated living.creates,
    change.unclaimed living.unclaimed⟩

theorem new_living {options : Value} (made : new options = .ok r) :
    Living r := by
  simp only [new, bind_eq_ok, pure_eq_ok] at made
  obtain ⟨_, -, _, -, _, -, _, -, provider, -, rfl⟩ := made
  constructor
  · refine ⟨List.Pairwise.nil, by simp [book, revisionsOf], ?_, ?_⟩
    · intro owner n standing held
      cases owner <;> cases held
    · intro owner other n standing standing' held
      cases owner <;> cases held
  · exact ⟨fun _ _ => rfl, by simp, fun _ => List.IsChain.nil, by simp [historyOf]⟩
  · exact ⟨by simp, by simp, by simp⟩
  · trivial
  · intro id root found
    cases found

theorem changes_book (course : Changes asked r r') : Counter.Steps r.book r'.book := by
  induction course with
  | refl => exact .refl
  | tail _ last ih => exact ih.trans last.book

theorem changes_keeps {r' : Registry} (course : Changes asked r r') (living : Living r) :
    Keeps r.roots r'.roots := by
  have both : Living r' ∧ Keeps r.roots r'.roots := by
    induction course with
    | refl => exact ⟨living, Keeps.refl _⟩
    | tail _ last ih =>
      exact ⟨last.living ih.1, ih.2.trans (last.keeps ih.1.unclaimed)⟩
  exact both.2

/-- The laws of a registry at any point of its life: the revisions logged grow with time, and
each is borne by one root or grant at most, as every revision that is borne is logged; each root
has passed through the states of its history, oldest `unclaimed`, one move at a time; and
a create was entered only on a materializing root with no seal begun since its lease. -/
structure Lawful (r : Registry) : Prop where
  revisions : Counter.Sound r.book
  current : ∀ id root, r.roots id = some root → (historyOf id r.log).head? = some root.state
  moves : ∀ id, (historyOf id r.log).IsChain fun later earlier => Move earlier later
  born : ∀ id state, (historyOf id r.log).getLast? = some state → state = .unclaimed
  creates : ∀ later earlier warrant handle request,
    r.log = later ++ .created warrant handle request :: earlier →
      (historyOf warrant.root earlier).head? = some .materializing
        ∧ ¬ SealedSince earlier warrant

theorem Living.lawful (living : Living r) : Lawful r := by
  refine ⟨living.numbered, living.tracked.current,
    living.tracked.ordered, living.tracked.born, ?_⟩
  intro later earlier warrant handle request shape
  have creates := living.creates
  rw [shape] at creates
  exact creates.at

theorem run_living (derive : DeriveIntent) {options : Value} (made : new options = .ok r)
    (steps : List Step) :
    Living ((machine derive).run r steps) :=
  run_keeps derive Living (fun _ _ change living => change.living living) steps r
    (new_living made)

/-- The registry is lawful at every point of a run; and between any two points its roots keep
their claims and closures, and a root or grant whose revision or state has changed bears a
number handed out in between, as no other owner did or does. -/
theorem roots_lawful (derive : DeriveIntent) (options : Value) (r : Registry)
    (made : new options = .ok r) (steps more : List Step) :
    Lawful ((machine derive).run r steps)
      ∧ Keeps ((machine derive).run r steps).roots
        ((machine derive).run r (steps ++ more)).roots
      ∧ Counter.Later ((machine derive).run r steps).book
        ((machine derive).run r (steps ++ more)).book := by
  have living := run_living derive made steps
  refine ⟨living.lawful, ?_⟩
  rw [Machine.run_append]
  have course := run_changes derive more ((machine derive).run r steps)
  exact ⟨changes_keeps course living, ((changes_book course).sound living.numbered).2⟩

/-! ## A sample registry -/

def sampleProvider : Value :=
  .table ⟨7, false⟩ (Value.fields [
    ("provider_id", .str allowedProviderId),
    ("contract_id", .text "repository.provider.create_readback.v0"),
    ("available", .ref .function 1), ("open_repository", .ref .function 2),
    ("revalidate", .ref .function 3), ("create_text_file", .ref .function 4),
    ("read_text_file", .ref .function 5), ("inventory_tree", .ref .function 6),
    ("close", .ref .function 7),
    ("limits", .record [
      ("max_relative_path_bytes", .nat 1024), ("max_component_bytes", .nat 255),
      ("max_components", .nat 64), ("max_content_bytes", .nat 1048576),
      ("file_mode", .nat 384)])])

def sampleOptions : Value :=
  .record [("session_id", .text "s"),
    ("providers", .table Tag.plain [(.str allowedProviderId, sampleProvider)])]

def sampleRegistry : Registry where
  sessionId := utf8 "s"
  provider := some sampleProvider
  idSource := false
  grants := fun _ => none
  roots := fun _ => none
  nextSerial := 1
  nextRevision := 1
  nextHandle := 0
  effectLeases := []
  sealLeases := []
  qaLeases := []
  log := []

theorem sample_made : new sampleOptions = .ok sampleRegistry := by rfl

def sampleWorld : World where
  available := .returned [.bool true]
  opening := .opened (.record [
    ("project_base", .record [("device", .nat 1), ("inode", .nat 2)]),
    ("root", .record [("device", .nat 1), ("inode", .nat 3)]),
    ("host_path", .text "/p/r")])
  suppliedId := .raised .nil
  close := fun _ => .returned [.bool true]
  dispatch := .returned [.text "written"]
  consumer := .raised .nil

def sampleMint : Value :=
  .record [("lineage_id", .text "l"), ("repository_id", .text "repo"),
    ("provider_id", .str allowedProviderId), ("project_base", .text "/p"),
    ("repository_path", .text "r"),
    ("operations", .record [("create_text_file", .bool true)]),
    ("bounds", .record [("max_relative_path_bytes", .nat 100), ("max_content_bytes", .nat 100),
      ("max_effects_per_generation", .nat 1)]),
    ("policy", .record [("file_mode", .nat 384)])]

def sampleGrant : Value := ((sampleRegistry.mint sampleWorld sampleMint).1.toOption).getD .nil

def sampleGrantId : Bytes :=
  match sampleGrant.get "grant_id" with
  | .str id => id
  | _ => []

def sampleLife (steps : List Call) : Registry :=
  (machine fun _ _ => .ok .nil).run sampleRegistry (steps.map fun call => ⟨call, sampleWorld⟩)

def sampleMints : List Call := [.mint sampleMint, .mint sampleMint]

/-- The first mint makes the root and a grant, the second a grant of that root; then the first
grant is revoked. -/
theorem roots_lawful_minted :
    (revisionsOf (sampleLife (sampleMints ++ [.revoke (.str sampleGrantId)])).log = [4, 3, 2, 1]
      ∧ (sampleLife sampleMints).bears (.grant sampleGrantId) = some (2, .inr .active)
      ∧ (sampleLife (sampleMints ++ [.revoke (.str sampleGrantId)])).bears (.grant sampleGrantId)
        = some (4, .inr .revoked))
      ∧ Lawful (sampleLife sampleMints)
      ∧ Counter.Later (sampleLife sampleMints).book
        (sampleLife (sampleMints ++ [.revoke (.str sampleGrantId)])).book := by
  obtain ⟨lawful, -, later⟩ := roots_lawful (fun _ _ => .ok .nil) sampleOptions sampleRegistry
    sample_made (sampleMints.map fun call => ⟨call, sampleWorld⟩)
    [⟨.revoke (.str sampleGrantId), sampleWorld⟩]
  exact ⟨by decide +kernel, lawful, later⟩

end Proc17.Runtime.Repository.Registry
