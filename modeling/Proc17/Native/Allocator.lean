import Proc17.Native.Measurements

/-!
# The candidate's allocator

`native/proc17_qa_allocator.c`: the telemetry record, its snapshot, and the allocation
function handed to the candidate's Lua state.  A course is any sequence of calls on NULL or
live pointers, with `malloc` and `realloc` answering as they like.
-/

namespace Proc17.Native.Allocator

open Native.Wire List

/-! ## Telemetry -/

/-- What the compiler fixes: `SIZE_MAX`, the size of the allocation header and whether the
counters are lock free. -/
structure Platform where
  sizeMax : Nat
  headerBytes : Nat
  atomicsLockFree : Bool
  sizeNarrow : sizeMax < 2 ^ 64
  headerFits : headerBytes ≤ sizeMax

abbrev Platform.Size (p : Platform) : Type := Fin (p.sizeMax + 1)

/-- A `size_t` as a `uint64_t`. -/
def wide {p : Platform} (size : p.Size) : UInt64 := UInt64.ofNat size.val

structure Telemetry where
  magic : UInt64
  version : UInt16
  recordBytes : UInt16
  reservedHeader : UInt32
  ceilingBytes : UInt64
  currentBytes : UInt64
  peakBytes : UInt64
  ceilingDenied : UInt32
  systemAllocationFailed : UInt32
  statusNotificationFailed : UInt32
  reservedFlags : UInt32
  reservedTail : UInt64

def telemetryMagic : UInt64 := 0x5031375141485031

def telemetryVersion : UInt16 := 1

def telemetryBytes : UInt16 := 64

def headerValid (p : Platform) (telemetry : Telemetry) : Bool :=
  decide (telemetry.magic = telemetryMagic ∧ telemetry.version = telemetryVersion
    ∧ telemetry.recordBytes = telemetryBytes ∧ telemetry.reservedHeader = 0
    ∧ telemetry.ceilingBytes ≠ 0 ∧ telemetry.ceilingBytes.toNat ≤ p.sizeMax
    ∧ telemetry.reservedFlags = 0 ∧ telemetry.reservedTail = 0)
  && p.atomicsLockFree

/-- The record `proc17_qa_allocator_telemetry_init` writes. -/
def Telemetry.init (ceilingBytes : UInt64) : Telemetry where
  magic := telemetryMagic
  version := telemetryVersion
  recordBytes := telemetryBytes
  reservedHeader := 0
  ceilingBytes := ceilingBytes
  currentBytes := 0
  peakBytes := 0
  ceilingDenied := 0
  systemAllocationFailed := 0
  statusNotificationFailed := 0
  reservedFlags := 0
  reservedTail := 0

def telemetryInit (p : Platform) (ceilingBytes : UInt64) : Option Telemetry :=
  if ceilingBytes = 0 ∨ p.sizeMax < ceilingBytes.toNat then none
  else if headerValid p (.init ceilingBytes) then some (.init ceilingBytes) else none

def snapshot (p : Platform) (telemetry : Telemetry) : Option AllocatorSnapshot :=
  if headerValid p telemetry = false then none
  else if telemetry.peakBytes < telemetry.currentBytes
      ∨ telemetry.ceilingBytes < telemetry.peakBytes ∨ 1 < telemetry.ceilingDenied
      ∨ 1 < telemetry.systemAllocationFailed ∨ 1 < telemetry.statusNotificationFailed
      ∨ (telemetry.statusNotificationFailed ≠ 0 ∧ telemetry.ceilingDenied = 0) then none
  else some
    { ceilingBytes := telemetry.ceilingBytes
      currentBytes := telemetry.currentBytes
      peakBytes := telemetry.peakBytes
      ceilingDenied := telemetry.ceilingDenied.toUInt8
      systemAllocationFailed := telemetry.systemAllocationFailed.toUInt8
      statusNotificationFailed := telemetry.statusNotificationFailed.toUInt8 }

/-- `struct proc17_qa_allocator_state`; of the callback only whether there is one. -/
structure State where
  telemetry : Telemetry
  notifyHeapDenied : Bool

def stateInit (p : Platform) (telemetry : Telemetry) (notifyHeapDenied : Bool) : Option State :=
  match snapshot p telemetry with
  | none => none
  | some taken =>
    if taken.currentBytes ≠ 0 ∨ taken.peakBytes ≠ 0 ∨ taken.ceilingDenied ≠ 0
        ∨ taken.systemAllocationFailed ≠ 0 ∨ taken.statusNotificationFailed ≠ 0 then none
    else some ⟨telemetry, notifyHeapDenied⟩

def publishPeak (telemetry : Telemetry) (value : UInt64) : Telemetry :=
  if telemetry.peakBytes < value then { telemetry with peakBytes := value } else telemetry

/-- `mark_ceiling_denied`, with the callback's answer; whether the callback ran. -/
def markCeilingDenied (state : State) (answer : Int32) : State × Bool :=
  let denied := { state.telemetry with ceilingDenied := 1 }
  if state.telemetry.ceilingDenied = 0 ∧ state.notifyHeapDenied = true then
    if answer ≠ 0 then
      ({ state with telemetry := { denied with statusNotificationFailed := 1 } }, true)
    else ({ state with telemetry := denied }, true)
  else ({ state with telemetry := denied }, false)

/-! ## The heap -/

abbrev Address : Type := Nat

/-- The blocks handed out and not freed, each with the `bytes` of its header. -/
abbrev Heap (p : Platform) : Type := List (Address × p.Size)

/-- `((header *)pointer - 1)->bytes`; reading behind a dead pointer is undefined in C. -/
def Heap.headerBytes {p : Platform} : Heap p → Address → p.Size
  | [], _ => 0
  | (address, bytes) :: rest, pointer =>
    if address = pointer then bytes else headerBytes rest pointer

/-- The heap without the block at `pointer`, if it is not NULL. -/
def Heap.without {p : Platform} (heap : Heap p) (pointer : Option Address) : Heap p :=
  heap.filter fun block => decide (some block.1 ≠ pointer)

def Heap.total {p : Platform} (heap : Heap p) : Nat := (heap.map fun block => block.2.val).sum

/-! ## The allocation function -/

structure Call (p : Platform) where
  pointer : Option Address
  oldSize : p.Size
  newSize : p.Size
  system : Option Address
  callback : Int32

/-- An addition or a subtraction the function carries out. -/
inductive Arithmetic (p : Platform)
  | subWide (a b : UInt64)
  | addWide (a b : UInt64)
  | subSize (a b : p.Size)
  | addSize (a b : p.Size)

/-- The exact result does not fit the operands' width. -/
def Arithmetic.Wraps {p : Platform} : Arithmetic p → Prop
  | .subWide a b => a.toNat < b.toNat
  | .addWide a b => 2 ^ 64 ≤ a.toNat + b.toNat
  | .subSize a b => a.val < b.val
  | .addSize a b => p.sizeMax < a.val + b.val

structure Session (p : Platform) where
  state : State
  heap : Heap p

/-- What a call leaves and answers, the values it stored in `current_bytes`, and the
arithmetic it did. -/
structure Outcome (p : Platform) where
  session : Session p
  pointer : Option Address
  notified : Bool
  published : List UInt64
  arithmetic : List (Arithmetic p)

/-- `SIZE_MAX` and `sizeof(union proc17_qa_allocation_header)` as `size_t`. -/
def Platform.sizeMaxSize (p : Platform) : p.Size := ⟨p.sizeMax, p.sizeMax.lt_succ_self⟩
def Platform.headerSize (p : Platform) : p.Size :=
  ⟨p.headerBytes, Nat.lt_succ_of_le p.headerFits⟩

def Session.prior {p : Platform} (session : Session p) : Option Address → UInt64
  | none => 0
  | some pointer => wide (session.heap.headerBytes pointer)

/-- `malloc` or `realloc` of `total` bytes once the new size is published. -/
def Session.reserve {p : Platform} (session : Session p) (call : Call p) (base : UInt64)
    (before : List (Arithmetic p)) : Outcome p :=
  let current := session.state.telemetry.currentBytes
  let next := base + wide call.newSize
  let arithmetic := before ++ [.addSize p.headerSize call.newSize, .addWide base (wide call.newSize)]
  let raised := { publishPeak session.state.telemetry next with currentBytes := next }
  match call.system with
  | none =>
    ⟨{ session with state := { session.state with telemetry :=
        { raised with systemAllocationFailed := 1, currentBytes := current } } },
      none, false, [next, current], arithmetic⟩
  | some address =>
    ⟨⟨{ session.state with telemetry := raised },
        (address, call.newSize) :: session.heap.without call.pointer⟩,
      some address, false, [next], arithmetic⟩

/-- `mark_ceiling_denied` and NULL. -/
def Session.deny {p : Platform} (session : Session p) (call : Call p)
    (before : List (Arithmetic p)) : Outcome p :=
  let marked := markCeilingDenied session.state call.callback
  ⟨{ session with state := marked.1 }, none, marked.2, [], before⟩

/-- `free`, when the new size is zero. -/
def Session.release {p : Platform} (session : Session p) (call : Call p) (base : UInt64)
    (before : List (Arithmetic p)) : Outcome p :=
  match call.pointer with
  | none => ⟨session, none, false, [], before⟩
  | some _ =>
    ⟨⟨{ session.state with telemetry :=
        { session.state.telemetry with currentBytes := base } },
        session.heap.without call.pointer⟩, none, false, [base], before⟩

def luaAllocator {p : Platform} (session : Session p) (call : Call p) : Outcome p :=
  let telemetry := session.state.telemetry
  if headerValid p telemetry = false then ⟨session, none, false, [], []⟩
  else
    let current := telemetry.currentBytes
    let prior := session.prior call.pointer
    if current < prior then
      ⟨{ session with state := { session.state with telemetry :=
        { telemetry with systemAllocationFailed := 1 } } }, none, false, [], []⟩
    else
      let base := current - prior
      let first := [Arithmetic.subWide current prior]
      if call.newSize = 0 then session.release call base first
      else if telemetry.ceilingBytes - base < wide call.newSize then
        session.deny call (first ++ [.subWide telemetry.ceilingBytes base])
      else
        let second := first ++ [.subWide telemetry.ceilingBytes base,
          .subSize p.sizeMaxSize p.headerSize]
        if p.sizeMaxSize - p.headerSize < call.newSize then session.deny call second
        else session.reserve call base second

/-! ## Courses -/

/-- What the caller and the system keep to: a pointer is NULL or live, and a new block does
not lie where another live one is. -/
structure Call.Admissible {p : Platform} (call : Call p) (session : Session p) : Prop where
  live : ∀ pointer, call.pointer = some pointer → pointer ∈ session.heap.map Prod.fst
  fresh : ∀ address, call.system = some address →
    address ∉ (session.heap.without call.pointer).map Prod.fst

structure Step (p : Platform) where
  before : Session p
  call : Call p

def Step.outcome {p : Platform} (step : Step p) : Outcome p := luaAllocator step.before step.call

def Step.Failed {p : Platform} (step : Step p) : Prop :=
  step.outcome.pointer = none ∧ step.call.newSize ≠ 0

def Step.Exceeds {p : Platform} (step : Step p) : Prop :=
  step.before.state.telemetry.ceilingBytes.toNat
    < (step.before.heap.without step.call.pointer).total + step.call.newSize.val

/-- The request and its header do not fit a `size_t`. -/
def Step.Oversized {p : Platform} (step : Step p) : Prop :=
  p.sizeMax < p.headerBytes + step.call.newSize.val

def account {p : Platform} (live : Heap p) (step : Step p) : Heap p :=
  if step.call.newSize = 0 then live.without step.call.pointer
  else match step.outcome.pointer with
    | none => live
    | some address => (address, step.call.newSize) :: live.without step.call.pointer

/-- The live blocks after the calls of `past`, from their requests and answers alone. -/
def requested {p : Platform} (past : List (Step p)) : Heap p := past.foldl account []

inductive Course {p : Platform} (start : Session p) : List (Step p) → Session p → Prop
  | begun : Course start [] start
  | called {past : List (Step p)} {now : Session p} (call : Call p) :
      Course start past now → call.Admissible now →
      Course start (past ++ [⟨now, call⟩]) (luaAllocator now call).session

/-! ## Sums over the heap -/

variable {p : Platform}

theorem wide_toNat (size : p.Size) : (wide size).toNat = size.val := by
  have bound : size.val < 2 ^ 64 := lt_of_le_of_lt (Nat.le_of_lt_succ size.isLt) p.sizeNarrow
  simpa [wide] using Nat.mod_eq_of_lt bound

@[simp] theorem without_none (heap : Heap p) : heap.without none = heap := by
  simp [Heap.without]

variable {heap : Heap p} {session : Session p} {step : Step p} {done : List (Arithmetic p)}

theorem without_of_not_mem {pointer : Address} (absent : pointer ∉ heap.map Prod.fst) :
    heap.without (some pointer) = heap := by
  refine filter_eq_self.mpr ?_
  intro block member
  refine decide_eq_true ?_
  intro same
  exact absent (Option.some.inj same ▸ mem_map_of_mem member)

theorem total_without (distinct : (heap.map Prod.fst).Nodup) {pointer : Address}
    (live : pointer ∈ heap.map Prod.fst) :
    heap.total = (heap.headerBytes pointer).val + (heap.without (some pointer)).total := by
  induction heap with
  | nil => cases live
  | cons block rest ih =>
    obtain ⟨address, bytes⟩ := block
    have parts := nodup_cons.mp distinct
    by_cases here : address = pointer
    · subst here
      have kept : Heap.without ((address, bytes) :: rest) (some address) = rest := by
        have same := without_of_not_mem parts.1
        simp only [Heap.without, filter_cons] at same ⊢
        simpa using same
      rw [kept]
      simp [Heap.total, Heap.headerBytes]
    · have further : pointer ∈ rest.map Prod.fst := mem_of_ne_of_mem (Ne.symm here) live
      have kept : Heap.without ((address, bytes) :: rest) (some pointer)
          = (address, bytes) :: Heap.without rest (some pointer) := by
        simp [Heap.without, here]
      have rests := ih parts.2 further
      rw [kept]
      simp only [Heap.total, Heap.headerBytes, map_cons, sum_cons, if_neg here] at rests ⊢
      omega

theorem nodup_without (distinct : (heap.map Prod.fst).Nodup) (pointer : Option Address) :
    ((heap.without pointer).map Prod.fst).Nodup :=
  distinct.sublist (filter_sublist.map Prod.fst)

/-! ## One call -/

/-- What holds between calls: the counters describe the heap, and the snapshot's checks
pass. -/
structure Session.Sound (session : Session p) : Prop where
  header : headerValid p session.state.telemetry = true
  distinct : (session.heap.map Prod.fst).Nodup
  current : session.state.telemetry.currentBytes.toNat = session.heap.total
  peak : session.state.telemetry.currentBytes ≤ session.state.telemetry.peakBytes
  ceiling : session.state.telemetry.peakBytes ≤ session.state.telemetry.ceilingBytes
  denied : session.state.telemetry.ceilingDenied ≤ 1
  failed : session.state.telemetry.systemAllocationFailed ≤ 1
  notice : session.state.telemetry.statusNotificationFailed ≤ 1
  noticeDenied : session.state.telemetry.statusNotificationFailed ≠ 0 →
    session.state.telemetry.ceilingDenied ≠ 0

theorem Session.Sound.charged (sound : session.Sound) {pointer : Option Address}
    (live : ∀ address, pointer = some address → address ∈ session.heap.map Prod.fst) :
    session.state.telemetry.currentBytes.toNat
      = (session.prior pointer).toNat + (session.heap.without pointer).total := by
  rw [sound.current]
  cases pointer with
  | none => simp [Session.prior]
  | some address =>
    rw [total_without sound.distinct (live address rfl), Session.prior, wide_toNat]

structure Step.Facts (step : Step p) : Prop where
  sound : step.outcome.session.Sound
  ceiling : step.outcome.session.state.telemetry.ceilingBytes
    = step.before.state.telemetry.ceilingBytes
  callback : step.outcome.session.state.notifyHeapDenied = step.before.state.notifyHeapDenied
  exact : ∀ operation ∈ step.outcome.arithmetic, ¬ operation.Wraps
  raised : step.before.state.telemetry.peakBytes ≤ step.outcome.session.state.telemetry.peakBytes
  published : ∀ value ∈ step.outcome.published,
    value ≤ step.outcome.session.state.telemetry.peakBytes
  failed : step.Failed → step.outcome.session.heap = step.before.heap
    ∧ step.outcome.session.state.telemetry.currentBytes = step.before.state.telemetry.currentBytes
  denied : step.outcome.session.state.telemetry.ceilingDenied ≠ 0 ↔
    step.before.state.telemetry.ceilingDenied ≠ 0 ∨ step.Exceeds ∨ step.Oversized
  notified : step.outcome.notified = true ↔ step.before.state.telemetry.ceilingDenied = 0
    ∧ step.outcome.session.state.telemetry.ceilingDenied ≠ 0
    ∧ step.before.state.notifyHeapDenied = true
  heap : step.outcome.session.heap = account step.before.heap step

theorem markCeilingDenied_telemetry (state : State) (answer : Int32) :
    ∃ notice, (markCeilingDenied state answer).1 = { state with telemetry :=
      { state.telemetry with ceilingDenied := 1, statusNotificationFailed := notice } }
      ∧ (notice = state.telemetry.statusNotificationFailed ∨ notice = 1) := by
  unfold markCeilingDenied
  split
  · split
    · exact ⟨1, rfl, Or.inr rfl⟩
    · exact ⟨_, rfl, Or.inl rfl⟩
  · exact ⟨_, rfl, Or.inl rfl⟩

theorem markCeilingDenied_notified (state : State) (answer : Int32) :
    (markCeilingDenied state answer).2 = true ↔
      state.telemetry.ceilingDenied = 0 ∧ state.notifyHeapDenied = true := by
  unfold markCeilingDenied
  split
  next fresh =>
    refine ⟨fun _ => fresh, fun _ => ?_⟩
    split <;> rfl
  next stale => exact ⟨fun ran => absurd ran Bool.false_ne_true, fun fresh => absurd fresh stale⟩

theorem headerValid_of {before after : Telemetry}
    (magic : after.magic = before.magic) (version : after.version = before.version)
    (record : after.recordBytes = before.recordBytes)
    (header : after.reservedHeader = before.reservedHeader)
    (ceiling : after.ceilingBytes = before.ceilingBytes)
    (flags : after.reservedFlags = before.reservedFlags)
    (tail : after.reservedTail = before.reservedTail) :
    headerValid p after = headerValid p before := by
  simp only [headerValid, magic, version, record, header, ceiling, flags, tail]

variable (t : Telemetry) (v : UInt64)

@[simp] theorem publishPeak_ceilingBytes :
    (publishPeak t v).ceilingBytes = t.ceilingBytes := by
  unfold publishPeak; split <;> rfl
@[simp] theorem publishPeak_ceilingDenied :
    (publishPeak t v).ceilingDenied = t.ceilingDenied := by
  unfold publishPeak; split <;> rfl
@[simp] theorem publishPeak_systemAllocationFailed :
    (publishPeak t v).systemAllocationFailed = t.systemAllocationFailed := by
  unfold publishPeak; split <;> rfl
@[simp] theorem publishPeak_statusNotificationFailed :
    (publishPeak t v).statusNotificationFailed = t.statusNotificationFailed := by
  unfold publishPeak; split <;> rfl

theorem publishPeak_peakBytes :
    t.peakBytes ≤ (publishPeak t v).peakBytes ∧ v ≤ (publishPeak t v).peakBytes
      ∧ ∀ bound, t.peakBytes ≤ bound → v ≤ bound → (publishPeak t v).peakBytes ≤ bound := by
  unfold publishPeak
  split
  next less => exact ⟨UInt64.le_of_lt less, UInt64.le_refl v, fun _ _ most => most⟩
  next atLeast => exact ⟨UInt64.le_refl _, UInt64.not_lt.mp atLeast, fun _ most _ => most⟩

theorem headerValid_publishPeak :
    headerValid p (publishPeak t v) = headerValid p t := by
  unfold publishPeak
  split
  · exact headerValid_of rfl rfl rfl rfl rfl rfl rfl
  · rfl

/-! ### The branches -/

theorem within_of_zero (sound : step.before.Sound) (admissible : step.call.Admissible step.before)
    (zero : step.call.newSize = 0) :
    ¬ (step.Exceeds ∨ step.Oversized) := by
  have most := UInt64.le_iff_toNat_le.mp (UInt64.le_trans sound.peak sound.ceiling)
  have charged := sound.charged admissible.live
  have room := p.headerFits
  unfold Step.Exceeds Step.Oversized
  rw [zero]
  simp only [Fin.val_zero]
  omega

section
variable (sound : step.before.Sound)
include sound

theorem release_facts (admissible : step.call.Admissible step.before) (zero : step.call.newSize = 0)
    {base : UInt64} (left : base.toNat = (step.before.heap.without step.call.pointer).total)
    (unwrapped : ∀ operation ∈ done, ¬ operation.Wraps)
    (taken : step.outcome = step.before.release step.call base done) : step.Facts := by
  have within := within_of_zero sound admissible zero
  have accounted : account step.before.heap step
      = step.before.heap.without step.call.pointer := by rw [account, if_pos zero]
  cases pointed : step.call.pointer with
  | none =>
    simp only [Session.release, pointed] at taken
    constructor
    case heap => rw [accounted, pointed, taken, without_none]
    all_goals rw [taken]
    case sound => exact sound
    case exact => exact unwrapped
    case raised => exact UInt64.le_refl _
    case published => exact fun _ member => absurd member not_mem_nil
    case failed => exact fun failed => absurd zero failed.2
    case denied => exact ⟨Or.inl, fun either => either.resolve_right within⟩
    case notified =>
      exact ⟨fun ran => absurd ran Bool.false_ne_true, fun fresh => absurd fresh.1 fresh.2.1⟩
  | some pointer =>
    simp only [Session.release, pointed] at taken
    rw [← pointed] at taken
    have charged := sound.charged admissible.live
    have lower : base ≤ step.before.state.telemetry.peakBytes := by
      have peak := UInt64.le_iff_toNat_le.mp sound.peak
      refine UInt64.le_iff_toNat_le.mpr ?_
      omega
    constructor
    case heap => rw [accounted, taken]
    all_goals rw [taken]
    case sound =>
      exact
        { header := (headerValid_of rfl rfl rfl rfl rfl rfl rfl).trans sound.header
          distinct := nodup_without sound.distinct step.call.pointer
          current := left
          peak := lower
          ceiling := sound.ceiling
          denied := sound.denied
          failed := sound.failed
          notice := sound.notice
          noticeDenied := sound.noticeDenied }
    case exact => exact unwrapped
    case raised => exact UInt64.le_refl _
    case published => exact fun value member => mem_singleton.mp member ▸ lower
    case failed => exact fun failed => absurd zero failed.2
    case denied => exact ⟨Or.inl, fun either => either.resolve_right within⟩
    case notified =>
      exact ⟨fun ran => absurd ran Bool.false_ne_true, fun fresh => absurd fresh.1 fresh.2.1⟩

theorem deny_facts (asked : step.call.newSize ≠ 0) (beyond : step.Exceeds ∨ step.Oversized)
    (unwrapped : ∀ operation ∈ done, ¬ operation.Wraps)
    (taken : step.outcome = step.before.deny step.call done) : step.Facts := by
  obtain ⟨notice, marked, flag⟩ :=
    markCeilingDenied_telemetry step.before.state step.call.callback
  simp only [Session.deny, marked] at taken
  have raised : (1 : UInt32) ≠ 0 := by decide
  constructor
  case heap =>
    rw [account, if_neg asked, taken]
  all_goals rw [taken]
  case sound =>
    exact
      { header := (headerValid_of rfl rfl rfl rfl rfl rfl rfl).trans sound.header
        distinct := sound.distinct
        current := sound.current
        peak := sound.peak
        ceiling := sound.ceiling
        denied := UInt32.le_refl _
        failed := sound.failed
        notice := by
          rcases flag with same | one
          · exact same ▸ sound.notice
          · exact one ▸ UInt32.le_refl _
        noticeDenied := fun _ => raised }
  case exact => exact unwrapped
  case raised => exact UInt64.le_refl _
  case published => exact fun _ member => absurd member not_mem_nil
  case failed => exact fun _ => ⟨rfl, rfl⟩
  case denied => exact ⟨fun _ => Or.inr beyond, fun _ => raised⟩
  case notified =>
    refine (markCeilingDenied_notified _ _).trans ?_
    exact ⟨fun both => ⟨both.1, raised, both.2⟩, fun all => ⟨all.1, all.2.2⟩⟩

theorem reserve_facts (admissible : step.call.Admissible step.before)
    (asked : step.call.newSize ≠ 0) (within : ¬ (step.Exceeds ∨ step.Oversized)) {base : UInt64}
    (left : base.toNat = (step.before.heap.without step.call.pointer).total)
    (unwrapped : ∀ operation ∈ done, ¬ operation.Wraps)
    (taken : step.outcome = step.before.reserve step.call base done) : step.Facts := by
  have size := wide_toNat step.call.newSize
  have most := UInt64.toNat_lt step.before.state.telemetry.ceilingBytes
  have below : (step.before.heap.without step.call.pointer).total + step.call.newSize.val
      ≤ step.before.state.telemetry.ceilingBytes.toNat :=
    not_lt.mp fun beyond => within (Or.inl beyond)
  have next : (base + wide step.call.newSize).toNat
      = (step.before.heap.without step.call.pointer).total + step.call.newSize.val := by
    rw [UInt64.toNat_add, size, left]
    exact Nat.mod_eq_of_lt (by omega)
  have fitting : base + wide step.call.newSize ≤ step.before.state.telemetry.ceilingBytes :=
    UInt64.le_iff_toNat_le.mpr (next ▸ below)
  obtain ⟨higher, reached, least⟩ :=
    publishPeak_peakBytes step.before.state.telemetry (base + wide step.call.newSize)
  have capped := least _ sound.ceiling fitting
  have header := (headerValid_publishPeak (p := p) step.before.state.telemetry
    (base + wide step.call.newSize)).trans sound.header
  have unwrapped' : ∀ operation ∈ done ++ [.addSize p.headerSize step.call.newSize,
      .addWide base (wide step.call.newSize)], ¬ operation.Wraps := by
    intro operation member
    rcases mem_append.mp member with earlier | last
    · exact unwrapped operation earlier
    · rcases mem_pair.mp last with rfl | rfl
      · exact fun wraps => within (Or.inr wraps)
      · intro wraps
        have all : 2 ^ 64 ≤ base.toNat + (wide step.call.newSize).toNat := wraps
        omega
  cases answer : step.call.system with
  | none =>
    simp only [Session.reserve, answer] at taken
    constructor
    case heap => rw [account, if_neg asked, taken]
    all_goals rw [taken]
    case sound =>
      exact
        { header := (headerValid_of rfl rfl rfl rfl rfl rfl rfl).trans header
          distinct := sound.distinct
          current := sound.current
          peak := UInt64.le_trans sound.peak higher
          ceiling := by simpa using capped
          denied := by simpa using sound.denied
          failed := UInt32.le_refl _
          notice := by simpa using sound.notice
          noticeDenied := by simpa using sound.noticeDenied }
    case ceiling => exact publishPeak_ceilingBytes _ _
    case exact => exact unwrapped'
    case raised => exact higher
    case published =>
      intro value member
      rcases mem_pair.mp member with rfl | rfl
      · exact reached
      · exact UInt64.le_trans sound.peak higher
    case failed => exact fun _ => ⟨rfl, rfl⟩
    case denied =>
      rw [show _ = _ from publishPeak_ceilingDenied _ _]
      exact ⟨Or.inl, fun either => either.resolve_right within⟩
    case notified =>
      refine ⟨fun ran => absurd ran Bool.false_ne_true, fun fresh => ?_⟩
      exact absurd ((publishPeak_ceilingDenied _ _).trans fresh.1) fresh.2.1
  | some address =>
    simp only [Session.reserve, answer] at taken
    constructor
    case heap => rw [account, if_neg asked, taken]
    all_goals rw [taken]
    case sound =>
      exact
        { header := (headerValid_of rfl rfl rfl rfl rfl rfl rfl).trans header
          distinct := nodup_cons.mpr
            ⟨admissible.fresh address answer, nodup_without sound.distinct step.call.pointer⟩
          current := by
            refine next.trans ?_
            simp [Heap.total, Nat.add_comm]
          peak := reached
          ceiling := by simpa using capped
          denied := by simpa using sound.denied
          failed := by simpa using sound.failed
          notice := by simpa using sound.notice
          noticeDenied := by simpa using sound.noticeDenied }
    case ceiling => exact publishPeak_ceilingBytes _ _
    case exact => exact unwrapped'
    case raised => exact higher
    case published => exact fun value member => mem_singleton.mp member ▸ reached
    case failed =>
      rintro ⟨null, _⟩
      rw [taken] at null
      cases null
    case denied =>
      rw [show _ = _ from publishPeak_ceilingDenied _ _]
      exact ⟨Or.inl, fun either => either.resolve_right within⟩
    case notified =>
      refine ⟨fun ran => absurd ran Bool.false_ne_true, fun fresh => ?_⟩
      exact absurd ((publishPeak_ceilingDenied _ _).trans fresh.1) fresh.2.1

/-! ### The whole call -/

theorem call_facts (admissible : step.call.Admissible step.before) : step.Facts := by
  have charged := sound.charged admissible.live
  have enough : ¬ step.before.state.telemetry.currentBytes < step.before.prior step.call.pointer :=
    fun less => by
      have strictly := UInt64.lt_iff_toNat_lt.mp less
      omega
  have left : (step.before.state.telemetry.currentBytes - step.before.prior step.call.pointer).toNat
      = (step.before.heap.without step.call.pointer).total := by
    rw [UInt64.toNat_sub_of_le _ _ (UInt64.not_lt.mp enough)]
    omega
  generalize basis : step.before.state.telemetry.currentBytes
    - step.before.prior step.call.pointer = base at left
  have current := UInt64.le_iff_toNat_le.mp (UInt64.le_trans sound.peak sound.ceiling)
  have room : (step.before.state.telemetry.ceilingBytes - base).toNat
      = step.before.state.telemetry.ceilingBytes.toNat
        - (step.before.heap.without step.call.pointer).total := by
    rw [UInt64.toNat_sub_of_le _ _ (UInt64.le_iff_toNat_le.mpr (by omega)), left]
  have size := wide_toNat step.call.newSize
  have headroom : (p.sizeMaxSize - p.headerSize).val = p.sizeMax - p.headerBytes :=
    Fin.sub_val_of_le (show p.headerSize ≤ p.sizeMaxSize from p.headerFits)
  let first : Arithmetic p := .subWide step.before.state.telemetry.currentBytes
    (step.before.prior step.call.pointer)
  let second : Arithmetic p := .subWide step.before.state.telemetry.ceilingBytes base
  let third : Arithmetic p := .subSize p.sizeMaxSize p.headerSize
  have sub1 : ¬ first.Wraps := fun wraps => enough (UInt64.lt_iff_toNat_lt.mpr wraps)
  have sub2 : ¬ second.Wraps := fun wraps => by
    have less : step.before.state.telemetry.ceilingBytes.toNat < base.toNat := wraps
    omega
  have sub3 : ¬ third.Wraps := not_lt.mpr p.headerFits
  by_cases zero : step.call.newSize = 0
  · have unwrapped : ∀ operation ∈ [first], ¬ operation.Wraps :=
      fun operation member => mem_singleton.mp member ▸ sub1
    refine release_facts sound admissible zero left unwrapped ?_
    simp only [Step.outcome, luaAllocator, sound.header, enough, zero, basis]
    simp [first]
  · by_cases beyond : step.before.state.telemetry.ceilingBytes - base < wide step.call.newSize
    · have unwrapped : ∀ operation ∈ [first, second], ¬ operation.Wraps := by
        intro operation member
        rcases mem_pair.mp member with rfl | rfl
        · exact sub1
        · exact sub2
      refine deny_facts sound zero (Or.inl ?_) unwrapped ?_
      · have less := UInt64.lt_iff_toNat_lt.mp beyond
        unfold Step.Exceeds
        omega
      · simp [Step.outcome, luaAllocator, sound.header, enough, zero, basis, beyond, first, second]
    · have below : ¬ step.Exceeds := by
        have atMost := UInt64.le_iff_toNat_le.mp (UInt64.not_lt.mp beyond)
        unfold Step.Exceeds
        omega
      have unwrapped : ∀ operation ∈ [first, second, third], ¬ operation.Wraps := by
        intro operation member
        rcases mem_cons.mp member with rfl | further
        · exact sub1
        · rcases mem_pair.mp further with rfl | rfl
          · exact sub2
          · exact sub3
      by_cases oversized : p.sizeMaxSize - p.headerSize < step.call.newSize
      · refine deny_facts sound zero (Or.inr ?_) unwrapped ?_
        · have less : (p.sizeMaxSize - p.headerSize).val < step.call.newSize.val := oversized
          unfold Step.Oversized
          omega
        · simp [Step.outcome, luaAllocator, sound.header, enough, zero, basis, beyond, oversized,
            first, second, third]
      · refine reserve_facts sound admissible zero ?_ left unwrapped ?_
        · have atMost : step.call.newSize.val ≤ (p.sizeMaxSize - p.headerSize).val :=
            not_lt.mp oversized
          have fits : ¬ step.Oversized := by
            have room' := p.headerFits
            unfold Step.Oversized
            omega
          exact fun either => either.elim below fits
        · simp [Step.outcome, luaAllocator, sound.header, enough, zero, basis, beyond, oversized,
            first, second, third]

end

/-! ## Whole courses -/

def start (p : Platform) (ceilingBytes : UInt64) (notifyHeapDenied : Bool) : Option (Session p) := do
  let telemetry ← telemetryInit p ceilingBytes
  let state ← stateInit p telemetry notifyHeapDenied
  return ⟨state, []⟩

/-- The accounts after the calls of `past`. -/
structure Accounted (ceilingBytes : UInt64) (callback : Bool) (past : List (Step p))
    (now : Session p) : Prop where
  heap : now.heap = requested past
  current : now.state.telemetry.currentBytes.toNat = (requested past).total
  peak : now.state.telemetry.currentBytes ≤ now.state.telemetry.peakBytes
  bounded : now.state.telemetry.peakBytes ≤ ceilingBytes
  ceiling : now.state.telemetry.ceilingBytes = ceilingBytes
    ∧ ∀ step ∈ past, step.before.state.telemetry.ceilingBytes = ceilingBytes
  exact : ∀ step ∈ past, ∀ operation ∈ step.outcome.arithmetic, ¬ operation.Wraps
  highest : ∀ step ∈ past,
    step.before.state.telemetry.currentBytes ≤ now.state.telemetry.peakBytes
      ∧ ∀ value ∈ step.outcome.published, value ≤ now.state.telemetry.peakBytes
  failed : ∀ step ∈ past, step.Failed → step.outcome.session.heap = step.before.heap
    ∧ step.outcome.session.state.telemetry.currentBytes
      = step.before.state.telemetry.currentBytes
  denied : now.state.telemetry.ceilingDenied ≠ 0 ↔ ∃ step ∈ past, step.Exceeds ∨ step.Oversized
  notified : (past.filter fun step => step.outcome.notified).length
    = if now.state.telemetry.ceilingDenied ≠ 0 ∧ callback = true then 1 else 0
  taken : ∃ taken, snapshot p now.state.telemetry = some taken
    ∧ taken.ceilingBytes = ceilingBytes ∧ taken.currentBytes = now.state.telemetry.currentBytes
    ∧ taken.peakBytes = now.state.telemetry.peakBytes
    ∧ (taken.ceilingDenied ≠ 0 ↔ now.state.telemetry.ceilingDenied ≠ 0)

theorem headerValid_init (ceiling : UInt64) : headerValid p (.init ceiling) = true ↔
    ceiling ≠ 0 ∧ ceiling.toNat ≤ p.sizeMax ∧ p.atomicsLockFree = true := by
  simp only [headerValid, Telemetry.init, Bool.and_eq_true, decide_eq_true_eq, true_and, and_true,
    and_assoc]

theorem Session.Sound.snapshot (sound : session.Sound) :
    ∃ taken, snapshot p session.state.telemetry = some taken
      ∧ taken.ceilingBytes = session.state.telemetry.ceilingBytes
      ∧ taken.currentBytes = session.state.telemetry.currentBytes
      ∧ taken.peakBytes = session.state.telemetry.peakBytes
      ∧ (taken.ceilingDenied ≠ 0 ↔ session.state.telemetry.ceilingDenied ≠ 0) := by
  have passes : ¬ (session.state.telemetry.peakBytes < session.state.telemetry.currentBytes
      ∨ session.state.telemetry.ceilingBytes < session.state.telemetry.peakBytes
      ∨ 1 < session.state.telemetry.ceilingDenied
      ∨ 1 < session.state.telemetry.systemAllocationFailed
      ∨ 1 < session.state.telemetry.statusNotificationFailed
      ∨ (session.state.telemetry.statusNotificationFailed ≠ 0
        ∧ session.state.telemetry.ceilingDenied = 0)) := by
    rintro (high | high | high | high | high | ⟨noticed, undenied⟩)
    · exact UInt64.not_lt.mpr sound.peak high
    · exact UInt64.not_lt.mpr sound.ceiling high
    · exact UInt32.not_lt.mpr sound.denied high
    · exact UInt32.not_lt.mpr sound.failed high
    · exact UInt32.not_lt.mpr sound.notice high
    · exact sound.noticeDenied noticed undenied
  refine ⟨_, by rw [Allocator.snapshot, if_neg (by simp [sound.header]), if_neg passes],
    rfl, rfl, rfl, ?_⟩
  have small : session.state.telemetry.ceilingDenied = 0
      ∨ session.state.telemetry.ceilingDenied = 1 := by
    have bound := UInt32.le_iff_toNat_le.mp sound.denied
    rcases Nat.le_one_iff_eq_zero_or_eq_one.mp bound with zero | one
    · exact Or.inl (UInt32.toNat.inj zero)
    · exact Or.inr (UInt32.toNat.inj one)
  rcases small with zero | one
  · simp [zero]
  · simp [one]

variable {ceiling : UInt64}

theorem init_sound (callback : Bool)
    (header : headerValid p (.init ceiling) = true) :
    Session.Sound ⟨⟨.init ceiling, callback⟩, ([] : Heap p)⟩ where
  header := header
  distinct := nodup_nil
  current := rfl
  peak := UInt64.le_refl 0
  ceiling := UInt64.zero_le
  denied := UInt32.zero_le
  failed := UInt32.zero_le
  notice := UInt32.zero_le
  noticeDenied := fun noticed => absurd rfl noticed

theorem start_eq_some_iff {callback : Bool} :
    start p ceiling callback = some session ↔
      (ceiling ≠ 0 ∧ ceiling.toNat ≤ p.sizeMax ∧ p.atomicsLockFree = true)
        ∧ session = ⟨⟨.init ceiling, callback⟩, []⟩ := by
  rw [← headerValid_init]
  by_cases valid : headerValid p (.init ceiling) = true
  · have ranged := headerValid_init (p := p) ceiling |>.mp valid
    have made : telemetryInit p ceiling = some (.init ceiling) := by
      rw [telemetryInit, if_neg (fun outside => outside.elim ranged.1
        (Nat.not_lt.mpr ranged.2.1)), if_pos valid]
    have least : ¬ ceiling < 0 := UInt64.not_lt.mpr UInt64.zero_le
    have ready : stateInit p (.init ceiling) callback = some ⟨.init ceiling, callback⟩ := by
      have taken : snapshot p (.init ceiling) = some ⟨ceiling, 0, 0, 0, 0, 0⟩ := by
        rw [snapshot, if_neg (by simp [valid])]
        simp [Telemetry.init, least]
      simp [stateInit, taken]
    simp only [start, made, ready, valid, Option.bind_eq_bind, Option.bind_some, Option.pure_def,
      Option.some.injEq, true_and]
    exact eq_comm
  · have unmade : telemetryInit p ceiling = none := by
      rw [telemetryInit, if_neg valid, ite_self]
    simp [start, unmade, valid]

theorem Course.sound {callback : Bool} {session now : Session p}
    (started : start p ceiling callback = some session) {past : List (Step p)}
    (course : Course session past now) : now.Sound
      ∧ now.state.telemetry.ceilingBytes = ceiling ∧ now.state.notifyHeapDenied = callback := by
  obtain ⟨ranged, rfl⟩ := start_eq_some_iff.mp started
  induction course with
  | begun => exact ⟨init_sound callback ((headerValid_init ceiling).mpr ranged), rfl, rfl⟩
  | @called past now call _ admissible ih =>
    obtain ⟨sound, ceiled, called⟩ := ih
    have facts : Step.Facts ⟨now, call⟩ := call_facts sound admissible
    exact ⟨facts.sound, facts.ceiling.trans ceiled, facts.callback.trans called⟩

theorem notices_snoc (past : List (Step p)) (step : Step p) :
    ((past ++ [step]).filter fun step => step.outcome.notified).length
      = (past.filter fun step => step.outcome.notified).length
        + if step.outcome.notified = true then 1 else 0 := by
  rw [filter_append, length_append]
  by_cases sent : step.outcome.notified = true
  · simp [sent]
  · simp [sent]

theorem course_accounted {ceiling : UInt64} {callback : Bool} {session now : Session p}
    (started : start p ceiling callback = some session) {past : List (Step p)}
    (course : Course session past now) : Accounted ceiling callback past now := by
  induction course with
  | begun =>
    have begun := Course.sound started .begun
    obtain ⟨ranged, rfl⟩ := start_eq_some_iff.mp started
    exact
      { heap := rfl
        current := rfl
        peak := begun.1.peak
        bounded := begun.1.ceiling
        ceiling := ⟨rfl, fun _ member => absurd member not_mem_nil⟩
        exact := fun _ member => absurd member not_mem_nil
        highest := fun _ member => absurd member not_mem_nil
        failed := fun _ member => absurd member not_mem_nil
        denied := ⟨fun denied => absurd rfl denied,
          fun ⟨_, member, _⟩ => absurd member not_mem_nil⟩
        notified := rfl
        taken := begun.1.snapshot }
  | @called past now call course admissible ih =>
    obtain ⟨sound, ceiled, called⟩ := course.sound started
    have after := (Course.called call course admissible).sound started
    have facts : Step.Facts ⟨now, call⟩ := call_facts sound admissible
    have snoc : requested (past ++ [⟨now, call⟩]) = account (requested past) ⟨now, call⟩ := by
      simp [requested]
    have heap : (luaAllocator now call).session.heap = requested (past ++ [⟨now, call⟩]) := by
      rw [snoc, ← ih.heap]
      exact facts.heap
    have every : ∀ {P : Step p → Prop}, (∀ step ∈ past, P step) → P ⟨now, call⟩ →
        ∀ step ∈ past ++ [⟨now, call⟩], P step := by
      intro P earlier last
      exact forall_mem_append.mpr ⟨earlier, forall_mem_singleton.mpr last⟩
    refine
      { heap := heap
        current := after.1.current.trans (congrArg Heap.total heap)
        peak := after.1.peak
        bounded := UInt64.le_trans after.1.ceiling (after.2.1 ▸ UInt64.le_refl _)
        ceiling := ⟨after.2.1, every ih.ceiling.2 ceiled⟩
        exact := every ih.exact facts.exact
        highest := every (fun step member => ?_)
          ⟨UInt64.le_trans sound.peak facts.raised, facts.published⟩
        failed := every ih.failed facts.failed
        denied := ?_
        notified := ?_
        taken := ?_ }
    · obtain ⟨current, stored⟩ := ih.highest step member
      exact ⟨UInt64.le_trans current facts.raised,
        fun value held => UInt64.le_trans (stored value held) facts.raised⟩
    · refine facts.denied.trans ?_
      rw [ih.denied]
      constructor
      · rintro (⟨step, member, beyond⟩ | beyond)
        · exact ⟨step, mem_append_left _ member, beyond⟩
        · exact ⟨_, mem_append_right _ (mem_singleton_self _), beyond⟩
      · rintro ⟨step, member, beyond⟩
        rcases mem_append.mp member with old | new
        · exact Or.inl ⟨step, old, beyond⟩
        · exact Or.inr (mem_singleton.mp new ▸ beyond)
    · rw [notices_snoc, ih.notified]
      have sent := facts.notified
      rw [called] at sent
      by_cases undenied : now.state.telemetry.ceilingDenied = 0
      · have sentIff : (luaAllocator now call).notified = true ↔
            (luaAllocator now call).session.state.telemetry.ceilingDenied ≠ 0 ∧ callback = true :=
          sent.trans (and_iff_right undenied)
        simp [undenied, Step.outcome, sentIff]
      · have still : (luaAllocator now call).session.state.telemetry.ceilingDenied ≠ 0 :=
          facts.denied.mpr (Or.inl undenied)
        have unsent : ¬ (Step.mk now call).outcome.notified = true :=
          fun ran => undenied (sent.mp ran).1
        simp [undenied, still, unsent]
    · obtain ⟨taken, answer, same⟩ := after.1.snapshot
      exact ⟨taken, answer, same.1.trans after.2.1, same.2⟩

/-! ## A request at the width of `size_t` -/

def lp64 : Platform := ⟨2 ^ 64 - 1, 32, true, by decide, by decide⟩

def unlimited : Session lp64 := ⟨⟨.init 18446744073709551615, true⟩, []⟩

def largest : Call lp64 := ⟨none, 0, lp64.sizeMaxSize, none, 0⟩

theorem largest_denied_within_ceiling : ¬ ∀ (p : Platform) (ceiling : UInt64) (callback : Bool)
    (session now : Session p) (past : List (Step p)), start p ceiling callback = some session →
    Course session past now →
    (now.state.telemetry.ceilingDenied ≠ 0 ↔ ∃ step ∈ past, step.Exceeds) := by
  intro all
  have started : start lp64 18446744073709551615 true = some unlimited :=
    start_eq_some_iff.mpr ⟨by decide +kernel, rfl⟩
  have admissible : largest.Admissible unlimited :=
    ⟨fun _ held => (Option.some_ne_none _ held.symm).elim,
      fun _ held => (Option.some_ne_none _ held.symm).elim⟩
  have step := all lp64 _ true unlimited _ _ started (.called largest .begun admissible)
  obtain ⟨_, member, beyond⟩ := step.mp (by decide +kernel)
  rw [mem_singleton.mp member] at beyond
  exact absurd beyond (by unfold Step.Exceeds; decide +kernel)

def eightBytes : Call lp64 := ⟨none, 0, ⟨8, by decide⟩, some 4096, 0⟩

def hundredBytes : Call lp64 := ⟨none, 0, ⟨100, by decide⟩, some 8192, 0⟩

def failedGrowth : Call lp64 := ⟨some 4096, ⟨8, by decide⟩, ⟨16, by decide⟩, none, 0⟩

def freed : Call lp64 := ⟨some 4096, ⟨8, by decide⟩, 0, none, 0⟩

/-- A block, a request above the ceiling, a `realloc` that fails, and the block given back. -/
theorem course_accounted_block : ∃ (session now : Session lp64) (past : List (Step lp64)),
    start lp64 64 true = some session ∧ Accounted 64 true past now
      ∧ past.map Step.call = [eightBytes, hundredBytes, failedGrowth, freed]
      ∧ now.state.telemetry.currentBytes = 0 ∧ now.state.telemetry.peakBytes = 16
      ∧ now.state.telemetry.ceilingDenied ≠ 0 := by
  have started : start lp64 64 true = some ⟨⟨.init 64, true⟩, []⟩ :=
    start_eq_some_iff.mpr ⟨by decide +kernel, rfl⟩
  have first := Course.called eightBytes (@Course.begun lp64 ⟨⟨.init 64, true⟩, []⟩)
    ⟨fun _ none => (Option.some_ne_none _ none.symm).elim, fun _ _ => not_mem_nil⟩
  have second := first.called hundredBytes
    ⟨fun _ none => (Option.some_ne_none _ none.symm).elim, by
      rintro _ ⟨⟩
      decide +kernel⟩
  have third := second.called failedGrowth ⟨by rintro _ ⟨⟩; decide +kernel, nofun⟩
  have fourth := third.called freed ⟨by rintro _ ⟨⟩; decide +kernel, nofun⟩
  exact ⟨_, _, _, started, course_accounted started fourth, rfl, by decide +kernel,
    by decide +kernel, by decide +kernel⟩

end Proc17.Native.Allocator
