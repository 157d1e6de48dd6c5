import Proc17.Lua.Custody
import Proc17.Runtime.Repository.Lifecycle

/-!
# Ownership of handles

A handle that `mint` opened is held by one grant, then perhaps by the QA source of one
sealed root, and is closed once.
-/

namespace Proc17.Runtime.Repository.Registry

open Lua Core Proc17.Log Proc17.Custody List

variable {asked : Value → Prop}

/-! ## Holders -/

inductive Holder where
  | grant (id : Bytes)
  | source (root : Bytes)
  | closed

def grantHandle (grants : Bytes → Option Grant) (id : Bytes) : Option Nat :=
  (grants id).bind Grant.handle

def sourceAt (roots : Bytes → Option Root) (id : Bytes) : Option QaSource :=
  (roots id).bind Root.qaSource

def sourceHandle (roots : Bytes → Option Root) (id : Bytes) : Option Nat :=
  (sourceAt roots id).bind QaSource.handle

def Holds (r : Registry) (handle : Nat) : Holder → Prop
  | .grant id => grantHandle r.grants id = some handle
  | .source id => sourceHandle r.roots id = some handle
  | .closed => .closed handle ∈ r.log

theorem grantHandle_update (grants : Bytes → Option Grant) (id : Bytes) (grant : Grant)
    (other : Bytes) : grantHandle (Function.update grants id (some grant)) other
      = if other = id then grant.handle else grantHandle grants other := by
  by_cases same : other = id
  · subst same
    simp [grantHandle]
  · simp [grantHandle, same]

theorem sourceAt_update (roots : Bytes → Option Root) (id : Bytes) (root : Root)
    (other : Bytes) : sourceAt (Function.update roots id (some root)) other
      = if other = id then root.qaSource else sourceAt roots other := by
  by_cases same : other = id
  · subst same
    simp [sourceAt]
  · simp [sourceAt, same]

theorem sourceHandle_update (roots : Bytes → Option Root) (id : Bytes) (root : Root)
    (other : Bytes) : sourceHandle (Function.update roots id (some root)) other
      = if other = id then root.qaSource.bind QaSource.handle else sourceHandle roots other := by
  unfold sourceHandle
  rw [sourceAt_update]
  split <;> rfl

variable {root root' : Root} {handle i : Nat} {lease : QaLease} {roots : Bytes → Option Root}

variable {id : Bytes}

theorem sourceHandle_again (found : roots id = some root)
    (same : root'.qaSource.bind QaSource.handle = root.qaSource.bind QaSource.handle) :
    sourceHandle (Function.update roots id (some root')) = sourceHandle roots := by
  funext other
  rw [sourceHandle_update]
  split
  · next here =>
      subst here
      rw [same]
      simp [sourceHandle, sourceAt, found]
  · rfl

theorem grantHandle_again {grants : Bytes → Option Grant} {grant grant' : Grant}
    (found : grants id = some grant) (same : grant'.handle = grant.handle) :
    grantHandle (Function.update grants id (some grant')) = grantHandle grants := by
  funext other
  rw [grantHandle_update]
  split
  · next here =>
      subst here
      rw [same]
      simp [grantHandle, found]
  · rfl

theorem Kept.sourceHandle (kept : Kept root root') :
    root'.qaSource.bind QaSource.handle = root.qaSource.bind QaSource.handle := by
  rcases kept.qaSource with same | ⟨source, use, before, after⟩
  · rw [same]
  · rw [before, after]
    rfl

/-! ## The ledger -/

/-- A ledger of the handles opened so far agrees with the registry. -/
structure Ledger (r : Registry) (custody : Nat → Option Holder) : Prop where
  reads : Reads (Holds r) custody
  below : ∀ handle, .opened handle ∈ r.log → handle < r.nextHandle
  known : ∀ handle, custody handle ≠ none ↔ handle < r.nextHandle
  once : ∀ handle, r.log.count (.closed handle) ≤ 1

section Ledger

variable {r r' : Registry} {custody : Nat → Option Holder}

section

variable (ledger : Ledger r custody)
include ledger

theorem Ledger.fresh : custody r.nextHandle = none := by
  by_contra present
  have := (ledger.known r.nextHandle).mp present
  omega

theorem Ledger.still (grants : grantHandle r'.grants = grantHandle r.grants)
    (roots : sourceHandle r'.roots = sourceHandle r.roots) (next : r'.nextHandle = r.nextHandle)
    (opens : ∀ handle, .opened handle ∈ r'.log → .opened handle ∈ r.log)
    (closes : ∀ handle, r'.log.count (.closed handle) = r.log.count (.closed handle)) :
    Ledger r' custody := by
  refine ⟨ledger.reads.same ?_, ?_, ?_, ?_⟩
  · intro handle holder
    cases holder with
    | grant id => simp only [Holds, grants]
    | source id => simp only [Holds, roots]
    | closed => simp only [Holds, ← count_pos_iff, closes]
  · intro handle member
    rw [next]
    exact ledger.below handle (opens handle member)
  · intro handle
    rw [next]
    exact ledger.known handle
  · intro handle
    rw [closes]
    exact ledger.once handle

theorem Ledger.open {holder : Holder}
    (holders : ∀ handle k, Holds r' handle k ↔
      (handle = r.nextHandle ∧ k = holder) ∨ Holds r handle k)
    (next : r'.nextHandle = r.nextHandle + 1)
    (opens : ∀ handle, .opened handle ∈ r'.log → handle = r.nextHandle ∨ .opened handle ∈ r.log)
    (closes : ∀ handle, r'.log.count (.closed handle) ≤ r.log.count (.closed handle)
      + if handle = r.nextHandle then 1 else 0) :
    Ledger r' (Function.update custody r.nextHandle (some holder)) := by
  have free := ledger.fresh
  refine ⟨ledger.reads.take free holders, ?_, ?_, ?_⟩
  · intro handle member
    rcases opens handle member with same | before
    · omega
    · have := ledger.below handle before
      omega
  · intro handle
    rw [next]
    by_cases same : handle = r.nextHandle
    · subst same
      simp
    · rw [Function.update_of_ne same, ledger.known]
      omega
  · intro handle
    have bound := closes handle
    by_cases same : handle = r.nextHandle
    · subst same
      -- the new handle was not closed before it was opened
      have unclosed : r.log.count (.closed r.nextHandle) = 0 := by
        rw [count_eq_zero]
        intro member
        have held := (ledger.reads r.nextHandle .closed).mp member
        rw [free] at held
        cases held
      rw [unclosed, if_pos rfl] at bound
      omega
    · rw [if_neg same] at bound
      have := ledger.once handle
      omega

theorem Ledger.pass {giver taker : Holder} (held : Holds r handle giver)
    (unclosed : giver ≠ .closed) (holders : ∀ other k, Holds r' other k ↔
      (other = handle ∧ k = taker) ∨ (Holds r other k ∧ ¬ (other = handle ∧ k = giver)))
    (next : r'.nextHandle = r.nextHandle)
    (opens : ∀ other, .opened other ∈ r'.log → .opened other ∈ r.log)
    (closes : ∀ other, r'.log.count (.closed other) ≤ r.log.count (.closed other)
      + if other = handle then 1 else 0) :
    Ledger r' (Function.update custody handle (some taker)) := by
  refine ⟨ledger.reads.pass held holders, ?_, ?_, ?_⟩
  · intro other member
    rw [next]
    exact ledger.below other (opens other member)
  · intro other
    rw [next]
    by_cases same : other = handle
    · subst same
      rw [Function.update_self]
      have known : custody other ≠ none := by
        rw [(ledger.reads other giver).mp held]
        exact Option.some_ne_none _
      simp [(ledger.known other).mp known]
    · rw [Function.update_of_ne same]
      exact ledger.known other
  · intro other
    have bound := closes other
    by_cases same : other = handle
    · subst same
      have none : r.log.count (.closed other) = 0 := by
        rw [count_eq_zero]
        intro member
        exact unclosed (ledger.reads.unique held member)
      rw [none, if_pos rfl] at bound
      omega
    · rw [if_neg same] at bound
      have := ledger.once other
      omega

end

end Ledger

theorem count_closed_cons (other handle : Nat) (log : List Happening) :
    (Happening.closed handle :: log).count (.closed other)
      = log.count (.closed other) + if other = handle then 1 else 0 := by
  rw [count_cons]
  by_cases same : other = handle
  · subst same
    simp
  · have differ : handle ≠ other := Ne.symm same
    simp [same, differ]

variable {custody : Nat → Option Holder} {r : Registry}

section
variable (ledger : Ledger r custody)
include ledger

theorem Ledger.abandon (fresh : Bool) (serial : Nat) :
    Ledger ((r.counted fresh serial).note (.closed r.nextHandle))
      (Function.update custody r.nextHandle (some .closed)) := by
  refine ledger.open ?_ ?_ ?_ ?_
  · intro handle k
    cases k with
    | closed | _ => cases fresh <;> simp [Holds, note, counted, opened, advance]
  · cases fresh <;> rfl
  · intro handle member
    cases fresh <;> simpa [note, counted, opened, advance] using member
  · intro handle
    cases fresh <;> simp [note, counted, opened, advance, count_closed_cons]

theorem Ledger.grant (fresh : Bool) (serial : Nat) {grant : Grant} (absent : r.grants id = none)
    (new : Fresh r grant) : Ledger ((r.counted fresh serial).advance.setGrant id grant)
      (Function.update custody r.nextHandle (some (.grant id))) := by
  have empty : grantHandle r.grants id = none := by simp [grantHandle, absent]
  have grants : ((r.counted fresh serial).advance.setGrant id grant).grants
      = Function.update r.grants id (some grant) := by cases fresh <;> rfl
  refine ledger.open ?_ ?_ ?_ ?_
  · intro handle k
    cases k with
    | grant other =>
      simp only [Holds, grants, grantHandle_update, Holder.grant.injEq]
      by_cases same : other = id
      · subst same
        simp [empty, new.handle, eq_comm]
      · simp [same]
    | source | closed => cases fresh <;> simp [Holds, setGrant, counted, opened, advance]
  · cases fresh <;> rfl
  · intro handle member
    cases fresh <;> simpa [setGrant, counted, opened, advance] using member
  · intro handle
    cases fresh <;> simp [setGrant, counted, opened, advance]

theorem Ledger.close {grant : Grant} (found : r.grants id = some grant)
    (held : grant.handle = some handle) :
    Ledger ((r.setGrant id { grant with handle := none }).note (.closed handle))
      (Function.update custody handle (some .closed)) := by
  have own : Holds r handle (.grant id) := by simp [Holds, grantHandle, found, held]
  refine ledger.pass own (by simp) ?_ rfl ?_ ?_
  · intro other k
    cases k with
    | grant id' =>
      simp only [Holds, note, setGrant, grantHandle_update, Holder.grant.injEq, reduceCtorEq,
        and_false, false_or]
      by_cases same : id' = id
      · subst same
        have held' : grantHandle r.grants id' = some handle := own
        simp [held', eq_comm]
      · simp [same]
    | source | closed => simp [Holds, note, setGrant]
  · intro other member
    simpa [note, setGrant] using member
  · intro other
    exact Nat.le_of_eq (count_closed_cons other handle r.log)

theorem Ledger.commit {id grantId : Bytes} {grant : Grant} {source : QaSource}
    (found : r.roots id = some root) (bare : root.qaSource = none)
    (granted : r.grants grantId = some grant) (held : grant.handle = some handle)
    (taken : source.handle = some handle) (qaSource : root'.qaSource = some source) :
    Ledger ((r.moveRoot id root').advance.setGrant grantId { grant with handle := none })
      (Function.update custody handle (some (.source id))) := by
  have own : Holds r handle (.grant grantId) := by simp [Holds, grantHandle, granted, held]
  have empty : sourceHandle r.roots id = none := by simp [sourceHandle, sourceAt, found, bare]
  refine ledger.pass own (by simp) ?_ rfl ?_ ?_
  · intro other k
    cases k with
    | grant id' =>
      simp only [Holds, moveRoot, setRoot, note, advance, setGrant, grantHandle_update,
        Holder.grant.injEq, reduceCtorEq, and_false, false_or]
      by_cases same : id' = grantId
      · subst same
        have held' : grantHandle r.grants id' = some handle := own
        simp [held', eq_comm]
      · simp [same]
    | source id' =>
      simp only [Holds, moveRoot, setRoot, note, advance, setGrant, sourceHandle_update,
        Holder.source.injEq, reduceCtorEq, and_false, not_false_eq_true, and_true]
      by_cases same : id' = id
      · subst same
        simp [empty, qaSource, taken, eq_comm]
      · simp [same]
    | closed => simp [Holds, moveRoot, setRoot, note, advance, setGrant]
  · intro other member
    simpa [moveRoot, setRoot, note, advance, setGrant] using member
  · intro other
    simp [moveRoot, setRoot, note, advance, setGrant]

theorem Ledger.finish {live : LiveSource} (verdict : Verdict)
    (found : r.roots live.lease.rootId = some live.root)
    (source : live.root.qaSource = some live.source) (held : live.source.handle = some live.handle) :
    Ledger (r.finish i live verdict) (Function.update custody live.handle (some .closed)) := by
  have own : Holds r live.handle (.source live.lease.rootId) := by
    simp [Holds, sourceHandle, sourceAt, found, source, held]
  refine ledger.pass own (by simp) ?_ rfl ?_ ?_
  · intro other k
    cases k with
    | grant | closed => simp [Holds, Registry.finish, setSource, setQaLease, setRoot, note]
    | source id' =>
      simp only [Holds, Registry.finish, setSource, setQaLease, setRoot, note,
        sourceHandle_update, Holder.source.injEq, reduceCtorEq, and_false, false_or]
      by_cases same : id' = live.lease.rootId
      · subst same
        have held' : sourceHandle r.roots live.lease.rootId = some live.handle := own
        simp [held', eq_comm]
      · simp [same]
  · intro other member
    simpa [Registry.finish, setSource, setQaLease, setRoot, note] using member
  · intro other
    exact Nat.le_of_eq (count_closed_cons other live.handle r.log)

end

variable {r' : Registry}

theorem Change.ledger (change : Change asked r r')
    (ledger : Ledger r custody) :
    ∃ custody', Ledger r' custody' := by
  have still (grants : grantHandle r'.grants = grantHandle r.grants)
      (roots : sourceHandle r'.roots = sourceHandle r.roots)
      (next : r'.nextHandle = r.nextHandle)
      (opens : ∀ handle, .opened handle ∈ r'.log → .opened handle ∈ r.log)
      (closes : ∀ handle, r'.log.count (.closed handle) = r.log.count (.closed handle)) :
      ∃ custody', Ledger r' custody' := ⟨custody, ledger.still grants roots next opens closes⟩
  cases change with
  | abandoned fresh serial => exact ⟨_, ledger.abandon fresh serial⟩
  | granted serial id grant absent new => exact ⟨_, ledger.grant false serial absent new⟩
  | rooted serial id grant absent new _ rootId root unrooted _ _ qaSource =>
    refine ⟨_, (ledger.grant true serial absent new).still rfl ?_ rfl (by simp [moveRoot, setRoot, note])
      (by simp [moveRoot, setRoot, note])⟩
    funext other
    show sourceHandle (Function.update r.roots rootId (some root)) other = sourceHandle r.roots other
    rw [sourceHandle_update]
    split
    · next same => simp [same, qaSource, sourceHandle, sourceAt, unrooted]
    · rfl
  | closedGrant id grant handle found held => exact ⟨_, ledger.close found held⟩
  | committed id grantId root root' grant handle source found _ bare granted held taken _ _ _ _ _
      _ _ qaSource =>
      exact ⟨_, ledger.commit found bare granted held taken qaSource⟩
  | finished i live verdict lease found source held => exact ⟨_, ledger.finish verdict found source held⟩
  | ended id grant state found =>
    exact still (grantHandle_again found rfl) rfl rfl (by simp [setGrant, advance])
      (by simp [setGrant, advance])
  | rootMoved id root root' found moved =>
    exact still rfl (sourceHandle_again found (by rw [moved.qaSource])) rfl
      (by simp [moveRoot, setRoot, note, advance]) (by simp [moveRoot, setRoot, note, advance])
  | rootTouched id root root' found kept =>
    exact still rfl (sourceHandle_again found kept.sourceHandle) rfl (fun _ h => h)
      (fun _ => rfl)
  | leased plan action admitted =>
    exact still (grantHandle_again admitted.grant rfl) rfl rfl (by simp [issueLease])
      (by simp [issueLease])
  | reserved plan found sealed source =>
    exact still rfl (sourceHandle_again found (by simp [source])) rfl
      (by simp [reserve, setSource, setRoot, note]) (by simp [reserve, setSource, setRoot, note])
  | consumed i live lease found source =>
    exact still rfl (sourceHandle_again found (by simp [source])) rfl
      (by simp [consume, setSource, setRoot, setQaLease, note])
      (by simp [consume, setSource, setRoot, setQaLease, note])
  | createRefused i lease found => exact still rfl rfl rfl (fun _ h => h) (fun _ => rfl)
  | readRefused i lease found => exact still rfl rfl rfl (fun _ h => h) (fun _ => rfl)
  | sealMarked leases => exact still rfl rfl rfl (fun _ h => h) (fun _ => rfl)
  | _ => exact still rfl rfl rfl (by simp [note, setEffectLease]) (by simp [note, setEffectLease])

/-! ## Sources -/

/-- A source belongs to a sealed root, and a disposition takes its handle away. -/
structure SourceFit (root : Root) : Prop where
  sealed : root.qaSource ≠ none → root.state = .sealed
  disposed : ∀ source, root.qaSource = some source → source.disposition ≠ none →
    source.handle = none

def Sourced (roots : Bytes → Option Root) : Prop :=
  ∀ id root, roots id = some root → SourceFit root

theorem Sourced.replace (sourced : Sourced roots)
    (fit : SourceFit root) :
    Sourced (Function.update roots id (some root)) :=
  update_all sourced fit

theorem Change.sourced (change : Change asked r r')
    (sourced : Sourced r.roots) : Sourced r'.roots := by
  cases change with
  | abandoned fresh => cases fresh <;> exact sourced
  | rooted _ _ _ _ _ _ _ root _ _ _ bare =>
    refine sourced.replace ⟨fun some => absurd bare some, ?_⟩
    intro source here
    rw [bare] at here
    cases here
  | rootMoved id root root' found moved =>
    have fit := sourced id root found
    refine sourced.replace ⟨?_, ?_⟩
    · intro some
      rw [moved.qaSource] at some
      have move := moved.move
      rw [fit.sealed some] at move
      exact absurd move (Move.not_from_sealed _)
    · intro source here
      rw [moved.qaSource] at here
      exact fit.disposed source here
  | rootTouched id root root' found kept =>
    have fit := sourced id root found
    rcases kept.qaSource with same | ⟨source, use, before, after⟩
    · refine sourced.replace ⟨?_, ?_⟩
      · rw [same, kept.state]
        exact fit.sealed
      · rw [same]
        exact fit.disposed
    · refine sourced.replace ⟨?_, ?_⟩
      · intro _
        rw [kept.state]
        exact fit.sealed (by simp [before])
      · intro source' here
        rw [after] at here
        cases here
        exact fit.disposed source before
  | committed id grantId root root' grant handle source found _ _ _ _ _ _ undisposed sealed _ _ _
      _ qaSource =>
      refine sourced.replace ⟨fun _ => sealed, ?_⟩
      intro source' here
      rw [qaSource] at here
      cases here
      intro disposed
      exact absurd undisposed disposed
  | reserved plan found sealed source =>
    have fit := sourced plan.rootId plan.root found
    refine sourced.replace ⟨fun _ => sealed, ?_⟩
    intro source' here
    cases here
    exact fit.disposed plan.source source
  | consumed i live lease found source =>
    have fit := sourced live.lease.rootId live.root found
    refine sourced.replace ⟨fun _ => fit.sealed (by simp [source]), ?_⟩
    intro source' here
    cases here
    exact fit.disposed live.source source
  | finished i live verdict lease found source =>
    have fit := sourced live.lease.rootId live.root found
    refine sourced.replace ⟨fun _ => fit.sealed (by simp [source]), ?_⟩
    intro source' here
    cases here
    exact fun _ => rfl
  | _ => exact sourced

/-! ## One reservation, one consumption -/

def bound (source : Option QaSource) : Bool :=
  source.any fun source => source.transactionId.isSome

def taken (roots : Bytes → Option Root) (id : Bytes) : Bool := bound (sourceAt roots id)

theorem taken_update (found : roots id = some root)
    (same : bound root'.qaSource = bound root.qaSource) :
    taken (Function.update roots id (some root')) = taken roots := by
  funext other
  unfold taken
  rw [sourceAt_update]
  split
  · next here =>
      subst here
      rw [same]
      simp [sourceAt, found]
  · rfl

theorem Kept.bound (kept : Kept root root') :
    bound root'.qaSource = bound root.qaSource := by
  rcases kept.qaSource with same | ⟨source, use, before, after⟩
  · rw [same]
  · rw [before, after]
    rfl

theorem Change.binding (change : Change asked r r') :
    taken r'.roots = taken r.roots
      ∨ ∃ plan, taken r.roots plan.rootId = false ∧ r' = r.reserve plan := by
  cases change with
  | abandoned fresh => cases fresh <;> exact .inl rfl
  | rooted _ _ _ _ _ _ id root absent _ _ bare =>
    left
    funext other
    show taken (Function.update r.roots id (some root)) other = _
    unfold taken
    rw [sourceAt_update]
    split
    · next same => simp [same, bare, sourceAt, absent]
    · rfl
  | rootMoved id root root' found moved =>
    exact .inl (taken_update found (by rw [moved.qaSource]))
  | rootTouched id root root' found kept => exact .inl (taken_update found kept.bound)
  | committed id grantId root root' grant handle source found _ bare _ _ _ free _ _ _ _ _ _
      qaSource =>
      exact .inl (taken_update found (by simp [bound, qaSource, free, bare]))
  | reserved plan found sealed source free =>
    refine .inr ⟨plan, ?_, rfl⟩
    simp [taken, bound, sourceAt, found, source, free]
  | consumed i live lease found source =>
    exact .inl (taken_update found (by simp [bound, source]))
  | finished i live verdict lease found source =>
    exact .inl (taken_update found (by simp [bound, source]))
  | _ => exact .inl rfl

theorem taken_reserve (r : Registry) (plan : ReservePlan) (id : Bytes) :
    taken (r.reserve plan).roots id
      = if id = plan.rootId then true else taken r.roots id := by
  show taken (Function.update r.roots plan.rootId _) id = _
  unfold taken
  rw [sourceAt_update]
  split
  · next same => simp [bound]
  · rfl

def consumesFor (id : Bytes) : Happening → Bool
  | .consumed root _ => decide (root = id)
  | _ => false

def Unused : Happening → Prop
  | .reserved _ => False
  | .consumed _ _ => False
  | _ => True

structure Lent (log : List Happening) (taken : Bytes → Bool) (leases : List QaLease) : Prop where
  reserved : ∀ id, log.count (.reserved id) = if taken id then 1 else 0
  issued : ∀ (i : Nat) (lease : QaLease), leases[i]? = some lease → taken lease.rootId = true
  unique : ∀ (i j : Nat) (a b : QaLease), leases[i]? = some a → leases[j]? = some b →
    a.rootId = b.rootId → i = j
  consumed : ∀ id handle, .consumed id handle ∈ log → ∃ (i : Nat) (lease : QaLease),
    leases[i]? = some lease ∧ lease.rootId = id ∧ lease.attempted = true
  once : ∀ id, log.countP (consumesFor id) ≤ 1

section Lent

variable {log : List Happening} {taken : Bytes → Bool} {leases : List QaLease}

section
variable (lent : Lent log taken leases)
include lent

theorem Lent.note (entry : Happening) (unused : Unused entry) :
    Lent (entry :: log) taken leases := by
  refine ⟨?_, lent.issued, lent.unique, ?_, ?_⟩
  · intro id
    rw [count_cons_of_ne, lent.reserved]
    rintro rfl
    exact unused
  · intro id handle member
    rcases mem_cons.mp member with rfl | earlier
    · exact unused.elim
    · exact lent.consumed id handle earlier
  · intro id
    have silent : consumesFor id entry = false := by
      cases entry <;> first | rfl | exact unused.elim
    rw [countP_cons_of_neg (by simp [silent])]
    exact lent.once id

theorem Lent.reserve (lease : QaLease) (free : taken id = false) (own : lease.rootId = id) :
    Lent (.reserved id :: log) (fun other => if other = id then true else taken other)
      (leases ++ [lease]) := by
  -- a lease of this root would have bound the source before
  have others : ∀ (i : Nat) (old : QaLease), leases[i]? = some old → old.rootId ≠ id := by
    intro i old found same
    have bound := lent.issued i old found
    rw [same, free] at bound
    cases bound
  constructor
  · intro other
    by_cases same : other = id
    · subst same
      rw [count_cons_self, lent.reserved, free]
      simp
    · rw [count_cons_of_ne (by simpa using Ne.symm same), lent.reserved]
      simp [same]
  · intro i old found
    obtain ⟨rfl, rfl⟩ | before := getElem?_append_cases found
    · simp [own]
    · simp [lent.issued i old before]
  · intro i j a b foundA foundB same
    obtain ⟨rfl, rfl⟩ | oldA := getElem?_append_cases foundA
    · obtain ⟨rfl, rfl⟩ | oldB := getElem?_append_cases foundB
      · rfl
      · exact absurd (same.symm.trans own) (others j b oldB)
    · obtain ⟨rfl, rfl⟩ | oldB := getElem?_append_cases foundB
      · exact absurd (same.trans own) (others i a oldA)
      · exact lent.unique i j a b oldA oldB same
  · intro other handle member
    rcases mem_cons.mp member with clash | earlier
    · cases clash
    · obtain ⟨i, old, found, rest⟩ := lent.consumed other handle earlier
      refine ⟨i, old, ?_, rest⟩
      rw [List.getElem?_append_left (List.getElem?_eq_some_iff.mp found).1]
      exact found
  · intro other
    rw [countP_cons_of_neg (by simp [consumesFor])]
    exact lent.once other

theorem Lent.mark (lease' : QaLease) (found : leases[i]? = some lease)
    (rootId : lease'.rootId = lease.rootId)
    (attempted : lease.attempted = true → lease'.attempted = true) :
    Lent log taken (leases.set i lease') := by
  have source : ∀ (j : Nat) (a : QaLease), (leases.set i lease')[j]? = some a →
      ∃ old, leases[j]? = some old ∧ a.rootId = old.rootId := by
    intro j a here
    obtain ⟨rfl, rfl⟩ | ⟨-, here⟩ := getElem?_set_cases here
    · exact ⟨lease, found, rootId⟩
    · exact ⟨a, here, rfl⟩
  refine ⟨lent.reserved, ?_, ?_, ?_, lent.once⟩
  · intro j a here
    obtain ⟨old, before, same⟩ := source j a here
    rw [same]
    exact lent.issued j old before
  · intro j k a b hereA hereB same
    obtain ⟨oldA, foundA, sameA⟩ := source j a hereA
    obtain ⟨oldB, foundB, sameB⟩ := source k b hereB
    exact lent.unique j k oldA oldB foundA foundB (sameA.symm.trans (same.trans sameB))
  · intro id handle member
    obtain ⟨j, old, before, own, tried⟩ := lent.consumed id handle member
    by_cases same : j = i
    · subst same
      rw [found] at before
      cases before
      refine ⟨j, lease', ?_, rootId.trans own, attempted tried⟩
      exact List.getElem?_set_self (List.getElem?_eq_some_iff.mp found).1
    · refine ⟨j, old, ?_, own, tried⟩
      rw [List.getElem?_set_ne (Ne.symm same)]
      exact before

theorem Lent.consume (handle : Nat) (found : leases[i]? = some lease)
    (untried : lease.attempted = false) : Lent (.consumed lease.rootId handle :: log) taken
      (leases.set i { lease with attempted := true }) := by
  have first : log.countP (consumesFor lease.rootId) = 0 := by
    rw [countP_eq_zero]
    intro entry member used
    cases entry with
    | consumed id handle' =>
      obtain ⟨j, old, before, own, tried⟩ := lent.consumed id handle' member
      simp only [consumesFor, decide_eq_true_eq] at used
      have place := lent.unique j i old lease before found (own.trans used)
      rw [place, found] at before
      cases before
      rw [untried] at tried
      cases tried
    | _ => cases used
  have marked := lent.mark { lease with attempted := true } found rfl (fun _ => rfl)
  refine ⟨?_, marked.issued, marked.unique, ?_, ?_⟩
  · intro id
    rw [count_cons_of_ne (by simp), lent.reserved]
  · intro id handle' member
    rcases mem_cons.mp member with same | earlier
    · cases same
      refine ⟨i, { lease with attempted := true }, ?_, rfl, rfl⟩
      exact List.getElem?_set_self (List.getElem?_eq_some_iff.mp found).1
    · exact marked.consumed id handle' earlier
  · intro id
    by_cases own : lease.rootId = id
    · subst own
      rw [countP_cons, first]
      split <;> omega
    · rw [countP_cons_of_neg (by simp [consumesFor, own])]
      exact lent.once id

end

end Lent

theorem Change.lent (change : Change asked r r')
    (lent : Lent r.log (taken r.roots) r.qaLeases) :
    Lent r'.log (taken r'.roots) r'.qaLeases := by
  have counted (fresh : Bool) (serial : Nat) :
      Lent (r.counted fresh serial).log (taken r.roots) (r.counted fresh serial).qaLeases := by
    cases fresh with
    | false => exact lent.note (.opened _) trivial
    | true => exact (lent.note (.opened _) trivial).note (.revised _) trivial
  rcases change.binding with same | ⟨plan, unbound, rfl⟩
  · rw [same]
    cases change with
    | abandoned fresh serial => exact (counted fresh serial).note _ trivial
    | granted serial => exact (counted false serial).note _ trivial
    | rooted serial id grant _ _ _ rootId root =>
      exact ((counted true serial).note (.revised _) trivial).note (.moved rootId root.state) trivial
    | rootMoved id root root' | committed id grantId root root' =>
      exact (lent.note (.moved id root'.state) trivial).note (.revised _) trivial
    | reserved plan found sealed source free =>
      have own := congrFun same plan.rootId
      rw [taken_reserve, if_pos rfl] at own
      simp [taken, bound, sourceAt, found, source, free] at own
    | consumed i live lease found source untried => exact lent.consume live.handle lease untried
    | finished i live verdict lease =>
      have marked := lent.mark { live.lease with finished := true, disposition := some verdict }
        lease rfl (fun tried => tried)
      exact marked.note _ trivial
    | rootTouched | sealMarked | createRefused | readRefused => exact lent
    | _ => exact lent.note _ trivial
  · rw [funext (taken_reserve r plan)]
    exact lent.reserve (newQaLease plan) unbound rfl

/-! ## Dispositions -/

structure QaLater (lease lease' : QaLease) : Prop where
  rootId : lease'.rootId = lease.rootId
  finished : lease.finished = true →
    lease'.finished = true ∧ lease'.disposition = lease.disposition

/-- What later registries keep of QA leases and sources. -/
structure QaKeeps (r r' : Registry) : Prop where
  leases : ∀ (i : Nat) (lease : QaLease), r.qaLeases[i]? = some lease →
    ∃ lease', r'.qaLeases[i]? = some lease' ∧ QaLater lease lease'
  sources : ∀ id source, sourceAt r.roots id = some source → source.disposition ≠ none →
    ∃ source', sourceAt r'.roots id = some source' ∧ source'.disposition = source.disposition

theorem QaKeeps.refl (r : Registry) : QaKeeps r r :=
  ⟨fun _ lease found => ⟨lease, found, rfl, fun finished => ⟨finished, rfl⟩⟩,
    fun _ source found _ => ⟨source, found, rfl⟩⟩

theorem QaKeeps.trans {a b c : Registry} (first : QaKeeps a b) (second : QaKeeps b c) :
    QaKeeps a c := by
  constructor
  · intro i lease found
    obtain ⟨lease', found', later⟩ := first.leases i lease found
    obtain ⟨lease'', found'', later'⟩ := second.leases i lease' found'
    refine ⟨lease'', found'', later'.rootId.trans later.rootId, ?_⟩
    intro finished
    obtain ⟨finished', disposition⟩ := later.finished finished
    obtain ⟨finished'', disposition'⟩ := later'.finished finished'
    exact ⟨finished'', disposition'.trans disposition⟩
  · intro id source found disposed
    obtain ⟨source', found', disposition⟩ := first.sources id source found disposed
    rw [← disposition] at disposed
    obtain ⟨source'', found'', disposition'⟩ := second.sources id source' found' disposed
    exact ⟨source'', found'', disposition'.trans disposition⟩

theorem qaLeases_set {leases : List QaLease} {lease' : QaLease} (found : leases[i]? = some lease)
    (later : QaLater lease lease') :
    ∀ (j : Nat) (old : QaLease), leases[j]? = some old →
      ∃ new, (leases.set i lease')[j]? = some new ∧ QaLater old new := by
  intro j old before
  by_cases same : j = i
  · subst same
    rw [found] at before
    cases before
    exact ⟨lease', List.getElem?_set_self (List.getElem?_eq_some_iff.mp found).1, later⟩
  · refine ⟨old, ?_, rfl, fun finished => ⟨finished, rfl⟩⟩
    rw [List.getElem?_set_ne (Ne.symm same)]
    exact before

theorem sources_update (found : roots id = some root)
    (kept : ∀ source, root.qaSource = some source → source.disposition ≠ none →
      ∃ source', root'.qaSource = some source' ∧ source'.disposition = source.disposition) :
    ∀ other source, sourceAt roots other = some source → source.disposition ≠ none →
      ∃ source', sourceAt (Function.update roots id (some root')) other = some source'
        ∧ source'.disposition = source.disposition := by
  intro other source here disposed
  rw [sourceAt_update]
  by_cases same : other = id
  · subst same
    have own : root.qaSource = some source := by simpa [sourceAt, found] using here
    rw [if_pos rfl]
    exact kept source own disposed
  · rw [if_neg same]
    exact ⟨source, here, rfl⟩

theorem Change.qaKeeps (change : Change asked r r')
    (sourced : Sourced r.roots) : QaKeeps r r' := by
  have kept := QaKeeps.refl r
  cases change with
  | abandoned fresh => cases fresh <;> exact ⟨kept.leases, kept.sources⟩
  | rooted _ _ _ _ _ _ id root absent =>
    refine ⟨kept.leases, ?_⟩
    intro other source here disposed
    refine ⟨source, ?_, rfl⟩
    show sourceAt (Function.update r.roots id (some root)) other = some source
    rw [sourceAt_update, if_neg]
    · exact here
    · rintro rfl
      simp [sourceAt, absent] at here
  | rootMoved id root root' found moved =>
    refine ⟨kept.leases, sources_update found ?_⟩
    intro source here disposed
    exact ⟨source, moved.qaSource.trans here, rfl⟩
  | rootTouched id root root' found same =>
    refine ⟨kept.leases, sources_update found ?_⟩
    intro source here disposed
    rcases same.qaSource with equal | ⟨source', use, before, after⟩
    · exact ⟨source, equal.trans here, rfl⟩
    · rw [before] at here
      cases here
      exact ⟨_, after, rfl⟩
  | committed id grantId root root' grant handle source found _ bare =>
    refine ⟨kept.leases, sources_update found ?_⟩
    intro source here
    rw [bare] at here
    cases here
  | reserved plan found sealed source =>
    constructor
    · intro i lease before
      refine ⟨lease, ?_, rfl, fun finished => ⟨finished, rfl⟩⟩
      show (r.qaLeases ++ [newQaLease plan])[i]? = some lease
      rw [List.getElem?_append_left (List.getElem?_eq_some_iff.mp before).1]
      exact before
    · refine sources_update found ?_
      intro source' here disposed
      rw [source] at here
      cases here
      exact ⟨_, rfl, rfl⟩
  | consumed i live lease found source =>
    refine ⟨qaLeases_set lease ⟨rfl, fun finished => ⟨finished, rfl⟩⟩, sources_update found ?_⟩
    intro source' here disposed
    rw [source] at here
    cases here
    exact ⟨_, rfl, rfl⟩
  | finished i live verdict lease found source held unfinished =>
    refine ⟨qaLeases_set lease ⟨rfl, ?_⟩, sources_update found ?_⟩
    · intro finished
      rw [unfinished] at finished
      cases finished
    · intro source' here disposed
      rw [source] at here
      cases here
      have gone := (sourced _ _ found).disposed live.source source disposed
      rw [held] at gone
      cases gone
  | _ => exact ⟨kept.leases, kept.sources⟩

end Proc17.Runtime.Repository.Registry
