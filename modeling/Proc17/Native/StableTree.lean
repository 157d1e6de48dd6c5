import Mathlib.Algebra.BigOperators.Group.List.Basic
import Proc17.Native.InventoryTree

/-!
# Trees that stand still

A finite tree of files as `inventory_tree` finds it when nothing changes during the call: every
call about it succeeds and answers what the tree holds, in any order of the names of a directory
and in any pieces of a file.  A scan of such a tree collects all of it when its bounds hold, and
says that a bound was crossed when one does not.
-/

namespace Proc17.Native

open Lua Core Runtime.Repository List

/-! ## Trees -/

/-- The names of one directory, each with what is below it and what follows it. -/
inductive Tree where
  | empty
  | entry (name : Bytes) (status : Status) (content : Bytes) (inside rest : Tree)

namespace Tree

def names : Tree → List Bytes
  | .empty => []
  | .entry name _ _ _ rest => name :: rest.names

def IsName (name : Bytes) : Prop :=
  name ≠ [] ∧ 47 ∉ name ∧ 0 ∉ name ∧ isDot name = false

/-- Names are distinct, only a directory has something below it, and a regular file is as long as
its content. -/
def Sound : Tree → Prop
  | .empty => True
  | .entry name status content inside rest =>
    IsName name ∧ name ∉ rest.names
      ∧ (if status.kind = .regular then status.size = content.length else content = [])
      ∧ (status.kind ≠ .directory → inside = .empty) ∧ inside.Sound ∧ rest.Sound

end Tree

structure Found where
  components : List Bytes
  status : Status
  content : Bytes

def joinAll (components : List Bytes) : Bytes := [47].intercalate components

namespace Found

def path (found : Found) : Bytes := joinAll found.components

def bytes (found : Found) : Nat := if found.status.kind = .regular then found.content.length else 0

end Found

def Tree.found : Tree → List Bytes → List Found
  | .empty, _ => []
  | .entry name status content inside rest, parent =>
    ⟨parent ++ [name], status, content⟩ :: (inside.found (parent ++ [name]) ++ rest.found parent)

/-! ## What a scan is told about a tree -/

/-- The reads of a file give its content in pieces, and then its end. -/
inductive Delivers : Bytes → List (Sys Bytes) → Prop
  | done (rest : List (Sys Bytes)) : Delivers [] (.ok [] :: rest)
  | piece {content : Bytes} {rest : List (Sys Bytes)} (bytes : Bytes) (present : bytes ≠ [])
      (more : Delivers content rest) : Delivers (bytes ++ content) (.ok bytes :: rest)

structure FileCalls.Answers (calls : FileCalls) (status : Status) (content : Bytes) : Prop where
  openFile : calls.openFile = .ok ()
  before : calls.before = .ok status
  buffer : calls.buffer = true
  reads : Delivers content calls.reads
  after : calls.after = .ok status
  close : calls.close = .ok ()

structure StreamCalls.Answers (calls : StreamCalls) : Prop where
  dup : calls.dup = .ok ()
  fdopendir : calls.fdopendir = .ok ()
  closedir : calls.closedir = .ok ()

structure ItemCalls.Answers (calls : ItemCalls) (status : Status) (content : Bytes) : Prop where
  path : calls.path = true
  found : calls.status = .ok status
  grow : calls.grow = true
  file : status.kind = .regular → calls.file.Answers status content
  openChild : status.kind = .directory → calls.openChild = .ok ()
  childStatus : status.kind = .directory → calls.childStatus = .ok status
  childStream : status.kind = .directory → calls.childStream.Answers
  closeChild : status.kind = .directory → calls.closeChild = .ok ()

inductive Picks : Tree → Bytes → Status → Bytes → Tree → Tree → Prop
  | here (name : Bytes) (status : Status) (content : Bytes) (inside rest : Tree) :
      Picks (.entry name status content inside rest) name status content inside rest
  | there {name : Bytes} {status : Status} {content : Bytes} {inside rest left : Tree}
      (other : Bytes) (otherStatus : Status) (otherContent : Bytes) (otherInside : Tree)
      (picked : Picks rest name status content inside left) :
      Picks (.entry other otherStatus otherContent otherInside rest) name status content inside
        (.entry other otherStatus otherContent otherInside left)

/-- The listing is one of the tree: the dots anywhere, and the names in any order. -/
inductive Shows : Tree → Listing → Prop
  | ending : Shows .empty (.ending 0)
  | dots {tree : Tree} {calls : ItemCalls} {inside rest : Listing}
      (dots : isDot calls.name = true) (more : Shows tree rest) :
      Shows tree (.item calls inside rest)
  | item {tree below left : Tree} {calls : ItemCalls} {status : Status} {content : Bytes}
      {inside rest : Listing} (picked : Picks tree calls.name status content below left)
      (answers : calls.Answers status content)
      (deeper : status.kind = .directory → Shows below inside) (more : Shows left rest) :
      Shows tree (.item calls inside rest)

/-! ## Bounds -/

def Admits (bounds : InventoryBounds) (found : Found) : Prop :=
  (∀ name ∈ found.components, name.length ≤ bounds.maxComponentBytes)
    ∧ found.path.length ≤ bounds.maxPathBytes ∧ found.components.length ≤ bounds.maxDepth
    ∧ found.bytes ≤ bounds.maxFileBytes

def totalOf (found : List Found) : Nat := (found.map Found.bytes).sum

def Reaches (bounds : InventoryBounds) (found : Found) : Prop :=
  Admits bounds found ∧ found.components.length ≤ bounds.maxEntries
    ∧ found.bytes ≤ bounds.maxTotalBytes

structure Within (bounds : InventoryBounds) (tree : Tree) : Prop where
  each : ∀ found ∈ tree.found [], Admits bounds found
  entries : (tree.found []).length ≤ bounds.maxEntries
  total : totalOf (tree.found []) ≤ bounds.maxTotalBytes

/-! ## Reading one file -/

theorem readToEnd_delivers {content : Bytes} {reads : List (Sys Bytes)}
    (delivers : Delivers content reads) : ∀ (retries : Nat) (read : Bytes),
    readToEnd content.length retries read reads = some (.ok (some (read ++ content))) := by
  induction delivers with
  | done rest =>
    intro retries read
    simp [readToEnd]
  | piece bytes present more ih =>
    rename_i content rest
    intro retries read
    have length : (bytes ++ content).length = (bytes.length - 1 + content.length) + 1 := by
      have := length_pos_iff.mpr present
      rw [length_append]
      omega
    have kept : (bytes.isEmpty
        || decide (bytes.length - 1 + content.length + 1 < bytes.length)) = false := by
      have := length_pos_iff.mpr present
      simp [present]
      omega
    have left : bytes.length - 1 + content.length + 1 - bytes.length = content.length := by
      have := length_pos_iff.mpr present
      omega
    rw [length, readToEnd, kept, left]
    simpa using ih retries (read ++ bytes)

theorem readInventoryFile_answers {calls : FileCalls} {status : Status} {content : Bytes}
    (answers : calls.Answers status content) (regular : status.kind = .regular) :
    readInventoryFile calls status content.length = some (.ok (some ⟨content, status, status⟩)) := by
  have opened : openInventoryFile calls status = .ok (some status) := by
    simp [openInventoryFile, answers.openFile, answers.before, answers.buffer, regular,
      sameFileIdentity]
  simp [readInventoryFile, opened, readToEnd_delivers answers.reads, answers.after, answers.close,
    sameFileVersion]

/-! ## Scanning one directory -/

def Found.entry (capture : Bool) (found : Found) : InventoryEntry where
  relativePath := found.path
  kind := found.status.kind
  identityBefore := found.status
  identityAfter := found.status
  bytes := found.bytes
  content := if capture && found.status.kind = .regular then found.content else []

variable {tree below left : Tree} {name content : Bytes}

theorem picks_found {status : Status}
    (picked : Picks tree name status content below left) (parent : List Bytes) :
    (⟨parent ++ [name], status, content⟩
      :: (below.found (parent ++ [name]) ++ left.found parent)).Perm (tree.found parent) := by
  induction picked with
  | here => exact List.Perm.refl _
  | there other otherStatus otherContent otherInside picked ih =>
    rename_i name status content inside rest left
    simp only [Tree.found]
    refine List.Perm.trans ?_ (List.Perm.cons _ (List.Perm.append_left _ ih))
    rw [← cons_append, ← cons_append]
    exact perm_append_comm_assoc
      (⟨parent ++ [name], status, content⟩ :: inside.found (parent ++ [name]))
      (⟨parent ++ [other], otherStatus, otherContent⟩ :: otherInside.found (parent ++ [other]))
      (left.found parent)

theorem picks_names {status : Status}
    (picked : Picks tree name status content below left) :
    name ∈ tree.names ∧ ∀ other ∈ left.names, other ∈ tree.names := by
  induction picked with
  | here => exact ⟨mem_cons_self, fun _ member => mem_cons_of_mem _ member⟩
  | there other otherStatus otherContent otherInside picked ih =>
    exact ⟨mem_cons_of_mem _ ih.1, cons_subset_cons _ ih.2⟩

theorem picks_sound {status : Status}
    (picked : Picks tree name status content below left) (sound : tree.Sound) :
    Tree.IsName name
      ∧ (if status.kind = .regular then status.size = content.length else content = [])
      ∧ (status.kind ≠ .directory → below = .empty) ∧ below.Sound ∧ left.Sound := by
  induction picked with
  | here =>
    obtain ⟨named, -, sized, leaf, inside, rest⟩ := sound
    exact ⟨named, sized, leaf, inside, rest⟩
  | there other otherStatus otherContent otherInside picked ih =>
    obtain ⟨named, fresh, sized, leaf, inside, rest⟩ := sound
    obtain ⟨named', sized', leaf', below, left⟩ := ih rest
    exact ⟨named', sized', leaf', below, named, fun member => fresh ((picks_names picked).2 _ member),
      sized, leaf, inside, left⟩

theorem joinAll_push (parent : List Bytes) (name : Bytes) (named : ∀ c ∈ parent, c ≠ []) :
    joinPath (joinAll parent) name = joinAll (parent ++ [name]) := by
  induction parent with
  | nil => simp [joinPath, joinAll]
  | cons first rest ih =>
    have present := named first mem_cons_self
    cases rest with
    | nil => simp [joinPath, joinAll, present]
    | cons second more =>
      have again := ih fun c member => named c (mem_cons_of_mem _ member)
      have nonempty : joinAll (second :: more) ≠ [] := by
        have := named second (by simp)
        cases more <;> simp [joinAll, this]
      have whole : joinAll (first :: second :: more) ≠ [] := by simp [joinAll]
      rw [joinPath, if_neg (by simpa using nonempty)] at again
      rw [joinPath, if_neg (by simpa using whole)]
      have split : joinAll (first :: second :: more) = first ++ 47 :: joinAll (second :: more) := by
        simp [joinAll]
      have split' : joinAll (first :: second :: more ++ [name])
          = first ++ 47 :: joinAll (second :: more ++ [name]) := by
        simp [joinAll]
      rw [split, split', ← again]
      simp

/-- What a scan that started from `s` made of the places it was to find. -/
structure Scanned (bounds : InventoryBounds) (capture : Bool) (s : Snapshot) (all : List Found)
    (result : Snapshot) (taken : List Found) : Prop where
  entries : result.entries = s.entries ++ taken.map (Found.entry capture)
  total : result.totalBytes = s.totalBytes + totalOf taken
  stable : result.unstable = false
  reached : ∀ found ∈ taken, Reaches bounds found
  room : result.entries.length ≤ bounds.maxEntries
  small : result.totalBytes ≤ bounds.maxTotalBytes
  outcome : (result.boundExceeded = false ∧ taken.Perm all)
    ∨ (result.boundExceeded = true ∧ ∃ left, (taken ++ left).Perm all
      ∧ ∃ found ∈ left, ¬ Admits bounds found ∨ bounds.maxTotalBytes < result.totalBytes + found.bytes
        ∨ bounds.maxEntries ≤ result.entries.length)

section

variable {bounds : InventoryBounds} {capture : Bool} {s next result : Snapshot}
  {all others : List Found} {before taken : List Found}

theorem totalOf_append (left right : List Found) :
    totalOf (left ++ right) = totalOf left + totalOf right := by
  simp [totalOf]

theorem Scanned.after
    (entries : next.entries = s.entries ++ before.map (Found.entry capture))
    (total : next.totalBytes = s.totalBytes + totalOf before)
    (reached : ∀ found ∈ before, Reaches bounds found) (whole : (before ++ others).Perm all)
    (rest : Scanned bounds capture next others result taken) :
    Scanned bounds capture s all result (before ++ taken) := by
  refine ⟨?_, ?_, rest.stable, ?_, rest.room, rest.small, ?_⟩
  · rw [rest.entries, entries, map_append, append_assoc]
  · rw [rest.total, total, totalOf_append]
    omega
  · intro found member
    rcases mem_append.mp member with inBefore | inTaken
    · exact reached found inBefore
    · exact rest.reached found inTaken
  · rcases rest.outcome with ⟨within, complete⟩ | ⟨exceeded, left, split, beyond⟩
    · exact .inl ⟨within, (List.Perm.append_left before complete).trans whole⟩
    · refine .inr ⟨exceeded, left, ?_, beyond⟩
      rw [append_assoc]
      exact (List.Perm.append_left before split).trans whole

theorem Scanned.widen (rest : Scanned bounds capture next others result taken)
    (exceeded : result.boundExceeded = true) (more : List Found) :
    Scanned bounds capture next (others ++ more) result taken := by
  refine ⟨rest.entries, rest.total, rest.stable, rest.reached, rest.room, rest.small, ?_⟩
  rcases rest.outcome with ⟨within, -⟩ | ⟨-, left, split, found, member, beyond⟩
  · rw [exceeded] at within
    cases within
  · refine .inr ⟨exceeded, left ++ more, ?_, found, mem_append_left _ member, beyond⟩
    rw [← append_assoc]
    exact List.Perm.append_right more split

theorem Scanned.stopped {found : Found} (room : s.entries.length ≤ bounds.maxEntries)
    (small : s.totalBytes ≤ bounds.maxTotalBytes) (stable : s.unstable = false)
    (member : found ∈ all) (beyond : ¬ Admits bounds found
      ∨ bounds.maxTotalBytes < s.totalBytes + found.bytes
      ∨ bounds.maxEntries ≤ s.entries.length) :
    Scanned bounds capture s all { s with boundExceeded := true } [] := by
  refine ⟨by simp, by simp [totalOf], stable, forall_mem_nil _, room, small, .inr ⟨rfl, all, ?_⟩⟩
  exact ⟨List.Perm.refl _, found, member, beyond⟩

end

theorem collectItems_halted (bounds : InventoryBounds) (capture : Bool) (listing : Listing)
    (parent : Bytes) (depth : Nat) {s : Snapshot} (halted : s.halted = true) :
    collectItems bounds capture listing parent depth s = some (.ok s) := by
  cases listing with
  | ending | item => simp [collectItems, halted]

variable {bounds : InventoryBounds}

/-- A scan that goes on in the directory of some components, within its bounds. -/
structure Going (bounds : InventoryBounds) (parent : List Bytes) (s : Snapshot) : Prop where
  named : ∀ c ∈ parent, c ≠ [] ∧ c.length ≤ bounds.maxComponentBytes
  running : s.halted = false
  room : s.entries.length ≤ bounds.maxEntries
  small : s.totalBytes ≤ bounds.maxTotalBytes
  deep : parent.length ≤ s.entries.length

theorem Going.up {parent more : List Bytes} {s : Snapshot}
    (going : Going bounds (parent ++ more) s) : Going bounds parent s := by
  obtain ⟨named, running, room, small, deep⟩ := going
  rw [length_append] at deep
  exact ⟨fun c member => named c (mem_append_left _ member), running, room, small, by omega⟩

theorem Scanned.going {capture : Bool} {s result : Snapshot} {all taken : List Found}
    {parent : List Bytes} (scanned : Scanned bounds capture s all result taken)
    (going : Going bounds parent s) (running : result.halted = false) :
    Going bounds parent result := by
  have deep := going.deep
  refine ⟨going.named, running, scanned.room, scanned.small, ?_⟩
  rw [scanned.entries, length_append]
  omega

theorem Going.scanned {capture : Bool} {parent : List Bytes} {s : Snapshot}
    (going : Going bounds parent s) : Scanned bounds capture s [] s [] := by
  have flags := going.running
  simp only [Snapshot.halted, Bool.or_eq_false_iff] at flags
  exact ⟨by simp, by simp [totalOf], flags.2, forall_mem_nil _, going.room, going.small,
    .inl ⟨flags.1, List.Perm.refl _⟩⟩

theorem Going.start (bounds : InventoryBounds) : Going bounds [] Snapshot.empty :=
  ⟨forall_mem_nil _, rfl, Nat.zero_le _, Nat.zero_le _, Nat.zero_le _⟩

/-- `collect_items` in the directory of some components. -/
def collectIn (bounds : InventoryBounds) (capture : Bool) (listing : Listing)
    (parent : List Bytes) (s : Snapshot) : Option (Except Errno Snapshot) :=
  collectItems bounds capture listing (joinAll parent) parent.length s

theorem admitItem_answers {calls : ItemCalls} {status : Status}
    {content : Bytes} {parent : List Bytes} {s : Snapshot} (capture : Bool)
    (answers : calls.Answers status content)
    (going : Going bounds parent s) (present : calls.name ≠ [])
    (sized : if status.kind = .regular then status.size = content.length else content = [])
    {all : List Found}
    (member : ⟨parent ++ [calls.name], status, content⟩ ∈ all) :
    (∃ stopped, admitItem bounds (joinAll parent) parent.length calls s = .stop stopped
      ∧ Scanned bounds capture s all stopped [])
    ∨ ∃ capacity, admitItem bounds (joinAll parent) parent.length calls s = .entry status capacity
      ∧ Admits bounds ⟨parent ++ [calls.name], status, content⟩
      ∧ s.entries.length + 1 ≤ bounds.maxEntries
      ∧ s.totalBytes + Found.bytes ⟨parent ++ [calls.name], status, content⟩ ≤ bounds.maxTotalBytes := by
  obtain ⟨named, running, room, small, -⟩ := going
  have stable : s.unstable = false := by
    simp only [Snapshot.halted, Bool.or_eq_false_iff] at running
    exact running.2
  have joined := joinAll_push parent calls.name fun c member => (named c member).1
  have components : (∀ c ∈ parent ++ [calls.name], c.length ≤ bounds.maxComponentBytes)
      ↔ calls.name.length ≤ bounds.maxComponentBytes := by
    constructor
    · intro each
      exact each _ (by simp)
    · intro last
      exact forall_mem_append.mpr
        ⟨fun c above => (named c above).2, forall_mem_singleton.mpr last⟩
  have admits_iff : Admits bounds ⟨parent ++ [calls.name], status, content⟩
      ↔ outOfPathBounds bounds (joinAll parent) calls.name parent.length = false
        ∧ Found.bytes ⟨parent ++ [calls.name], status, content⟩ ≤ bounds.maxFileBytes := by
    rw [Admits, components]
    simp [outOfPathBounds, joined, Found.path, present, and_assoc]
  have bytes_eq : status.kind = .regular →
      (Found.bytes ⟨parent ++ [calls.name], status, content⟩ : Int) = status.size := by
    intro regular
    rw [if_pos regular] at sized
    simp [Found.bytes, regular, sized]
  unfold admitItem
  by_cases path : outOfPathBounds bounds (joinAll parent) calls.name parent.length = true
  · rw [if_pos path]
    refine .inl ⟨_, rfl, Scanned.stopped room small stable member (.inl fun admits => ?_)⟩
    rw [(admits_iff.mp admits).1] at path
    cases path
  rw [if_neg path, answers.path, answers.found]
  simp only [Bool.not_true, Bool.false_eq_true, if_false]
  by_cases heavy : outOfByteBounds bounds s.totalBytes status = true
  · rw [if_pos heavy]
    refine .inl ⟨_, rfl, Scanned.stopped room small stable member ?_⟩
    simp only [outOfByteBounds, Bool.and_eq_true, Bool.or_eq_true, decide_eq_true_eq] at heavy
    have same := bytes_eq heavy.1
    rcases heavy.2 with (negative | large) | beyond
    · omega
    · exact .inl fun admits => absurd (admits_iff.mp admits).2 (by omega)
    · exact .inr (.inl (by omega))
  rw [if_neg heavy]
  have light : Found.bytes ⟨parent ++ [calls.name], status, content⟩ ≤ bounds.maxFileBytes
      ∧ s.totalBytes + Found.bytes ⟨parent ++ [calls.name], status, content⟩
        ≤ bounds.maxTotalBytes := by
    by_cases regular : status.kind = .regular
    · have same := bytes_eq regular
      simp only [outOfByteBounds, regular, decide_true, Bool.true_and, Bool.or_eq_true,
        decide_eq_true_eq, not_or] at heavy
      omega
    · simp [Found.bytes, regular, small]
  unfold reserveInventoryEntry
  by_cases full : bounds.maxEntries ≤ s.entries.length
  · rw [if_pos full]
    exact .inl ⟨_, rfl, Scanned.stopped room small stable member (.inr (.inr full))⟩
  rw [if_neg full, answers.grow]
  have admits := admits_iff.mpr ⟨by simpa using path, light.1⟩
  right
  by_cases spare : s.entries.length < s.capacity
  · rw [if_pos spare]
    exact ⟨s.capacity, rfl, admits, by omega, light.2⟩
  · rw [if_neg spare]
    have grows : ¬ min (if s.capacity = 0 then 16 else s.capacity * 2) bounds.maxEntries
        ≤ s.capacity := by
      split <;> omega
    simp only [if_neg grows, if_true]
    exact ⟨_, rfl, admits, by omega, light.2⟩

theorem collectItems_item {calls : ItemCalls} {status : Status}
    {content : Bytes} {parent : List Bytes} {s : Snapshot} (capture : Bool) {inside rest : Listing}
    (answers : calls.Answers status content)
    (going : Going bounds parent s) (valid : Tree.IsName calls.name)
    (sized : if status.kind = .regular then status.size = content.length else content = [])
    {all : List Found} (member : ⟨parent ++ [calls.name], status, content⟩ ∈ all) :
    (∃ stopped, collectIn bounds capture (.item calls inside rest) parent s = some (.ok stopped)
      ∧ Scanned bounds capture s all stopped [])
    ∨ ∃ next, Going bounds (parent ++ [calls.name]) next
      ∧ next.entries
        = s.entries ++ [Found.entry capture ⟨parent ++ [calls.name], status, content⟩]
      ∧ next.totalBytes
        = s.totalBytes + Found.bytes ⟨parent ++ [calls.name], status, content⟩
      ∧ Reaches bounds ⟨parent ++ [calls.name], status, content⟩
      ∧ (status.kind ≠ .directory →
        collectIn bounds capture (.item calls inside rest) parent s
          = collectIn bounds capture rest parent next)
      ∧ (status.kind = .directory → ∀ mid,
        collectIn bounds capture inside (parent ++ [calls.name]) next = some (.ok mid) →
        collectIn bounds capture (.item calls inside rest) parent s
          = collectIn bounds capture rest parent mid) := by
  have admitted := admitItem_answers capture answers going valid.1 sized member
  obtain ⟨present, -, -, undotted⟩ := valid
  obtain ⟨named, running, room, small, deep⟩ := going
  obtain ⟨stopped, admission, scanned⟩ | ⟨capacity, admission, admits, oneMore, within⟩ := admitted
  · exact .inl ⟨stopped, by simp [collectIn, collectItems, running, undotted, admission], scanned⟩
  right
  have joined := joinAll_push parent calls.name fun c above => (named c above).1
  let found : Found := ⟨parent ++ [calls.name], status, content⟩
  let next := s.push capacity (found.entry capture)
  have nextEntries : next.entries = s.entries ++ [found.entry capture] := rfl
  have path : joinPath (joinAll parent) calls.name = found.path := joined
  have entryPlain : status.kind ≠ .regular →
      entryOf (joinPath (joinAll parent) calls.name) status = found.entry capture := by
    intro plain
    simp [entryOf, Found.entry, Found.bytes, found, plain, joined, Found.path]
  refine ⟨next, ⟨?_, running, ?_, within, ?_⟩, nextEntries, rfl, ⟨admits, ?_, ?_⟩, ?_, ?_⟩
  · intro c memberOf
    refine ⟨?_, admits.1 c memberOf⟩
    rcases mem_append.mp memberOf with above | last
    · exact (named c above).1
    · rw [mem_singleton.mp last]
      exact present
  · rw [nextEntries, length_append, length_singleton]
    exact oneMore
  · rw [nextEntries, length_append, length_append]
    exact Nat.add_le_add_right deep 1
  · rw [length_append, length_singleton]
    omega
  · exact le_trans (Nat.le_add_left _ _) within
  · intro leaf
    cases kind : status.kind with
    | regular =>
      have sized' : status.size = content.length := by simpa [kind] using sized
      have filed : collectFile capture calls.file capacity
          (entryOf (joinPath (joinAll parent) calls.name) status) s = some (.ok next) := by
        have bytes : (entryOf (joinPath (joinAll parent) calls.name) status).bytes
            = content.length := by simp [entryOf, kind, sized']
        have before : (entryOf (joinPath (joinAll parent) calls.name) status).identityBefore
            = status := rfl
        unfold collectFile
        rw [bytes, before, readInventoryFile_answers (answers.file kind) kind]
        cases capture with
        | true => simp [next, found, Found.entry, entryOf, kind, joined, Found.path, Found.bytes,
            sized']
        | false => simp [next, found, Found.entry, entryOf, kind, joined, Found.path, Found.bytes,
            sized']
      simp [collectIn, collectItems, running, undotted, admission, kind, filed]
    | directory => exact absurd kind leaf
    | symlink | special =>
      simp [collectIn, collectItems, running, undotted, admission, kind, next,
        entryPlain (by rw [kind]; decide)]
  · intro kind mid collected
    have opened : openDirectory calls status = .ok (some status) := by
      simp [openDirectory, answers.openChild kind, answers.childStatus kind, sameFileIdentity]
    have streamed : ∀ items, throughStream calls.childStream (some (.ok items))
        = some (.ok items) := by
      intro items
      obtain ⟨dup, fdopendir, closedir⟩ := answers.childStream kind
      simp [throughStream, dup, fdopendir, closedir]
    have deeper : (parent ++ [calls.name]).length = parent.length + 1 := by simp
    have entered : s.push capacity { entryOf (joinPath (joinAll parent) calls.name) status with
        identityAfter := status } = next := by
      simp only [next]
      rw [← entryPlain (by rw [kind]; decide)]
      rfl
    rw [collectIn, deeper, ← joined] at collected
    simp [collectIn, collectItems, running, undotted, admission, kind, opened, entered, collected,
      streamed, answers.closeChild kind]

variable {capture : Bool}

theorem collectItems_shows {tree : Tree}
    {listing : Listing} (shown : Shows tree listing) : ∀ (_ : tree.Sound) (parent : List Bytes)
    (s : Snapshot) (_ : Going bounds parent s),
    ∃ result taken, collectIn bounds capture listing parent s = some (.ok result)
      ∧ Scanned bounds capture s (tree.found parent) result taken := by
  induction shown with
  | ending =>
    intro _ parent s going
    exact ⟨s, [], by simp [collectIn, collectItems, going.running], going.scanned⟩
  | dots dots more ih =>
    intro sound parent s going
    obtain ⟨result, taken, collected, scanned⟩ := ih sound parent s going
    rw [collectIn] at collected
    exact ⟨result, taken, by simp [collectIn, collectItems, going.running, dots, collected], scanned⟩
  | item picked answers deeper more ihDeeper ih =>
    rename_i tree below left calls status content inside rest
    intro sound parent s going
    obtain ⟨valid, sized, leaf, soundBelow, soundLeft⟩ := picks_sound picked sound
    have whole := picks_found picked parent
    let found : Found := ⟨parent ++ [calls.name], status, content⟩
    have member : found ∈ tree.found parent := whole.subset mem_cons_self
    obtain ⟨stopped, collected, scanned⟩ | ⟨next, going', nextEntries, nextTotal, reaches, onLeaf,
        onDirectory⟩ :=
      @collectItems_item bounds calls status content parent s capture inside rest answers going
        valid sized _ member
    · exact ⟨stopped, [], collected, scanned⟩
    have entriesMap : next.entries = s.entries ++ [found].map (Found.entry capture) := nextEntries
    have totalMap : next.totalBytes = s.totalBytes + totalOf [found] := by
      rw [nextTotal]
      simp [totalOf, found]
    have reached : ∀ f ∈ [found], Reaches bounds f := by simpa [found] using reaches
    -- what follows the name, once the place is an entry and nothing below it is left
    have onward : ∀ {mid : Snapshot} {inner : List Found}, Scanned bounds capture next
          (below.found (parent ++ [calls.name])) mid inner → mid.boundExceeded = false →
        collectIn bounds capture (.item calls inside rest) parent s
          = collectIn bounds capture rest parent mid →
        ∃ result taken, collectIn bounds capture (.item calls inside rest) parent s
            = some (.ok result)
          ∧ Scanned bounds capture s (tree.found parent) result taken := by
      intro mid inner scanned within same
      have complete : inner.Perm (below.found (parent ++ [calls.name])) := by
        rcases scanned.outcome with ⟨-, complete⟩ | ⟨exceeded, -⟩
        · exact complete
        · rw [within] at exceeded
          cases exceeded
      have midRunning : mid.halted = false := by simp [Snapshot.halted, within, scanned.stable]
      obtain ⟨result, taken, collected, rested⟩ :=
        ih soundLeft parent mid (scanned.going going'.up midRunning)
      refine ⟨result, (found :: inner) ++ taken, same.trans collected, rested.after ?_ ?_ ?_ ?_⟩
      · rw [scanned.entries, entriesMap]
        simp
      · rw [scanned.total, totalMap]
        simp [totalOf]
        omega
      · exact forall_mem_cons.mpr ⟨reaches, scanned.reached⟩
      · refine List.Perm.trans ?_ whole
        exact List.Perm.cons _ (List.Perm.append_right _ complete)
    by_cases kind : status.kind = .directory
    · obtain ⟨mid, inner, collected, scanned⟩ := ihDeeper kind soundBelow _ next going'
      have same := onDirectory kind mid collected
      by_cases within : mid.boundExceeded = false
      · exact onward scanned within same
      · have exceeded : mid.boundExceeded = true := by simpa using within
        refine ⟨mid, [found] ++ inner, ?_, ?_⟩
        · rw [same]
          exact collectItems_halted _ _ _ _ _ (by simp [Snapshot.halted, exceeded])
        · exact (scanned.widen exceeded (left.found parent)).after entriesMap totalMap reached whole
    · have empty : Scanned bounds capture next (below.found (parent ++ [calls.name])) next [] := by
        rw [leaf kind]
        exact going'.scanned
      have within := going'.running
      simp only [Snapshot.halted, Bool.or_eq_false_iff] at within
      exact onward empty within.1 (onLeaf kind)

/-! ## Paths -/

theorem splitPath_joinAll {components : List Bytes} (named : ∀ c ∈ components, c ≠ [] ∧ 47 ∉ c) :
    splitPath (joinAll components) = components := by
  cases components with
  | nil => rfl
  | cons first rest =>
    rw [splitPath, joinAll, splitOn_intercalate 47 (fun c member => (named c member).2)
      (cons_ne_nil _ _)]
    rw [filter_eq_self]
    exact fun c member => decide_eq_true (named c member).1

theorem found_components {tree : Tree} (sound : tree.Sound) : ∀ (parent : List Bytes),
    ∀ found ∈ tree.found parent, ∃ name ∈ tree.names, ∃ more,
      found.components = parent ++ name :: more ∧ ∀ c ∈ name :: more, Tree.IsName c := by
  induction tree with
  | empty =>
    intro parent found member
    cases member
  | entry name status content inside rest ihInside ihRest =>
    obtain ⟨named, -, -, -, soundInside, soundRest⟩ := sound
    intro parent found member
    rcases mem_cons.mp member with here | deeper
    · refine ⟨name, mem_cons_self, [], by rw [here], ?_⟩
      simpa using named
    · rcases mem_append.mp deeper with inInside | inRest
      · obtain ⟨next, -, more, split, valid⟩ := ihInside soundInside _ found inInside
        refine ⟨name, mem_cons_self, next :: more, by rw [split]; simp, ?_⟩
        exact forall_mem_cons.mpr ⟨named, valid⟩
      · obtain ⟨next, listed, more, split, valid⟩ := ihRest soundRest _ found inRest
        exact ⟨next, mem_cons_of_mem _ listed, more, split, valid⟩

theorem found_nodup {tree : Tree} (sound : tree.Sound) : ∀ (parent : List Bytes),
    ((tree.found parent).map Found.components).Nodup := by
  induction tree with
  | empty =>
    intro parent
    exact nodup_nil
  | entry name status content inside rest ihInside ihRest =>
    obtain ⟨named, fresh, -, -, soundInside, soundRest⟩ := sound
    intro parent
    simp only [Tree.found, map_cons, map_append, nodup_cons, nodup_append, mem_append, mem_map]
    refine ⟨?_, ihInside soundInside _, ihRest soundRest _, ?_⟩
    · intro repeated
      rcases repeated with ⟨found, member, same⟩ | ⟨found, member, same⟩
      · obtain ⟨next, -, more, split, -⟩ := found_components soundInside _ found member
        have lengths := congrArg List.length (split.symm.trans same)
        simp at lengths
      · obtain ⟨next, listed, more, split, -⟩ := found_components soundRest _ found member
        have heads := append_cancel_left (split.symm.trans same)
        cases heads
        exact fresh listed
    · intro left leftIn right rightIn same
      obtain ⟨one, member, rfl⟩ := leftIn
      obtain ⟨two, member', rfl⟩ := rightIn
      obtain ⟨next, -, more, split, -⟩ := found_components soundInside _ one member
      obtain ⟨next', listed, more', split', -⟩ := found_components soundRest _ two member'
      have heads : name :: next :: more = next' :: more' := by
        have whole := split.symm.trans (same.trans split')
        rw [append_assoc] at whole
        exact append_cancel_left whole
      cases heads
      exact fresh listed

theorem found_path_injective {tree : Tree} (sound : tree.Sound) {one two : Found}
    (first : one ∈ tree.found []) (second : two ∈ tree.found []) (same : one.path = two.path) :
    one = two := by
  have split : ∀ found ∈ tree.found [], splitPath found.path = found.components := by
    intro found member
    obtain ⟨name, -, more, split, valid⟩ := found_components sound [] found member
    apply splitPath_joinAll
    intro c inside
    rw [split, nil_append] at inside
    exact ⟨(valid c inside).1, (valid c inside).2.1⟩
  have components : one.components = two.components := by
    rw [← split one first, ← split two second, same]
  exact inj_on_of_nodup_map (found_nodup sound []) first second components

/-! ## Sorting -/

def sortFound (taken : List Found) : List Found :=
  taken.insertionSort fun left right => Json.TextLe left.path right.path

theorem sortInventorySnapshot_map (capture : Bool) (taken : List Found) :
    sortInventorySnapshot (taken.map (Found.entry capture))
      = (sortFound taken).map (Found.entry capture) := by
  rw [sortInventorySnapshot, sortFound]
  symm
  apply map_insertionSort
  intro left _ right _
  exact Iff.rfl

theorem sortFound_perm (taken : List Found) : (sortFound taken).Perm taken :=
  perm_insertionSort _ taken

theorem sortFound_pairwise (taken : List Found) :
    (sortFound taken).Pairwise fun left right => Json.TextLe left.path right.path := by
  have total : Std.Total fun left right : Found => Json.TextLe left.path right.path :=
    ⟨fun a b => Json.textLe_total a.path b.path⟩
  have trans : IsTrans Found fun left right => Json.TextLe left.path right.path :=
    ⟨fun a b c => Json.textLe_trans⟩
  exact pairwise_insertionSort _ taken

theorem sortFound_eq_of_perm {tree : Tree} (sound : tree.Sound) {one two : List Found}
    (first : one.Perm (tree.found [])) (second : two.Perm (tree.found [])) :
    sortFound one = sortFound two := by
  have perm : (sortFound one).Perm (sortFound two) :=
    (sortFound_perm one).trans ((first.trans second.symm).trans (sortFound_perm two).symm)
  apply perm.eq_of_pairwise _ (sortFound_pairwise one) (sortFound_pairwise two)
  intro left right inOne inTwo below above
  apply found_path_injective sound
  · exact first.subset ((sortFound_perm one).subset inOne)
  · exact second.subset ((sortFound_perm two).subset inTwo)
  · exact Json.textLe_antisymm below above

/-! ## Both scans -/

theorem compareEntries_same (taken : List Found) :
    compareEntries (taken.map (Found.entry true)) (taken.map (Found.entry false))
      = (taken.map (Found.entry true), true) := by
  induction taken with
  | nil => rfl
  | cons found rest ih =>
    simp only [map_cons, compareEntries, ih]
    simp [Found.entry, sameFileVersion]

structure ScanCalls.Answers (calls : ScanCalls) (tree : Tree) : Prop where
  openRoot : calls.openRoot = .ok ()
  stream : calls.stream.Answers
  listing : Shows tree calls.listing
  close : calls.close = .ok ()

/-- Every call of `inventory_tree` succeeds, and finds the root of the handle and the tree. -/
structure InventoryCalls.Answers (calls : InventoryCalls) (handle : FsHandle) (tree : Tree) :
    Prop where
  root : openIdentityPair calls.root = .ok (handle.project, handle.repository)
  first : calls.first.Answers tree
  second : calls.second.Answers tree
  again : openIdentityPair calls.again = .ok (handle.project, handle.repository)
  closes : ∀ answer ∈ [calls.closeRepository, calls.closeBase, calls.closeRepositoryAgain,
    calls.closeBaseAgain], answer = .ok ()

theorem collectInventoryDirectory_answers {calls : ScanCalls} {tree : Tree} (sound : tree.Sound)
    (answers : calls.Answers tree) (bounds : InventoryBounds) (capture : Bool) :
    ∃ result taken, collectInventoryDirectory bounds capture calls.stream calls.listing
        = some (.ok result)
      ∧ Scanned bounds capture Snapshot.empty (tree.found []) result taken := by
  obtain ⟨result, taken, collected, scanned⟩ :=
    @collectItems_shows bounds capture tree calls.listing answers.listing sound [] Snapshot.empty
      (Going.start bounds)
  refine ⟨result, taken, ?_, scanned⟩
  have collected' : collectItems bounds capture calls.listing [] 0 Snapshot.empty
      = some (.ok result) := collected
  rw [collectInventoryDirectory, collected']
  simp [throughStream, answers.stream.dup, answers.stream.fdopendir, answers.stream.closedir]

variable {taken : List Found}

theorem bytes_le_totalOf {found : Found} (member : found ∈ taken) :
    found.bytes ≤ totalOf taken := by
  induction taken with
  | nil => cases member
  | cons first rest ih =>
    have split : totalOf (first :: rest) = first.bytes + totalOf rest := by simp [totalOf]
    rcases mem_cons.mp member with rfl | later
    · omega
    · have := ih later
      omega

theorem Scanned.fresh {found : List Found} {result : Snapshot}
    (scanned : Scanned bounds capture Snapshot.empty found result taken) :
    result.entries = taken.map (Found.entry capture) ∧ result.totalBytes = totalOf taken := by
  rw [scanned.entries, scanned.total]
  simp [Snapshot.empty]

theorem Scanned.within_iff {tree : Tree}
    {result : Snapshot}
    (scanned : Scanned bounds capture Snapshot.empty (tree.found []) result taken) :
    result.boundExceeded = false ↔ Within bounds tree := by
  obtain ⟨entries, total⟩ := scanned.fresh
  have count : result.entries.length = taken.length := by rw [entries, length_map]
  have totalPerm : ∀ {a b : List Found}, a.Perm b → totalOf a = totalOf b := fun perm =>
    (perm.map Found.bytes).sum_eq
  constructor
  · intro within
    rcases scanned.outcome with ⟨-, complete⟩ | ⟨exceeded, -⟩
    · refine ⟨fun found member => (scanned.reached found (complete.symm.subset member)).1, ?_, ?_⟩
      · rw [← complete.length_eq, ← count]
        exact scanned.room
      · rw [← totalPerm complete, ← total]
        exact scanned.small
    · rw [within] at exceeded
      cases exceeded
  · intro within
    rcases scanned.outcome with ⟨ended, -⟩ | ⟨-, left, split, found, member, beyond⟩
    · exact ended
    · exfalso
      have inTree := split.subset (mem_append_right taken member)
      have lengths := split.length_eq
      have totals := totalPerm split
      rw [totalOf_append] at totals
      have part := bytes_le_totalOf member
      have positive := length_pos_of_mem member
      have entriesBound := within.entries
      have totalBound := within.total
      rw [length_append] at lengths
      rcases beyond with forbidden | heavy | full
      · exact forbidden (within.each found inTree)
      · omega
      · omega

/-! ## The transaction -/

/-- What a scan of the tree may take: all of it when the bounds hold, else a part that they
admit. -/
structure Takes (bounds : InventoryBounds) (tree : Tree) (taken : List Found) : Prop where
  reached : ∀ found ∈ taken, Reaches bounds found
  entries : taken.length ≤ bounds.maxEntries
  total : totalOf taken ≤ bounds.maxTotalBytes
  part : ∃ left, (taken ++ left).Perm (tree.found [])
  whole : Within bounds tree → taken.Perm (tree.found [])
  sorted : taken.Pairwise fun left right => Json.TextLe left.path right.path

theorem Scanned.takes {tree : Tree}
    {result : Snapshot}
    (scanned : Scanned bounds capture Snapshot.empty (tree.found []) result taken) :
    Takes bounds tree (sortFound taken) ∧ result.totalBytes = totalOf (sortFound taken) := by
  obtain ⟨entries, total⟩ := scanned.fresh
  have count : result.entries.length = taken.length := by rw [entries, length_map]
  have perm := sortFound_perm taken
  have totals : totalOf (sortFound taken) = totalOf taken := (perm.map Found.bytes).sum_eq
  refine ⟨⟨fun found member => scanned.reached found (perm.subset member), ?_, ?_, ?_, ?_,
    sortFound_pairwise taken⟩, total.trans totals.symm⟩
  · rw [perm.length_eq, ← count]
    exact scanned.room
  · rw [totals, ← total]
    exact scanned.small
  · rcases scanned.outcome with ⟨-, complete⟩ | ⟨-, left, split, -⟩
    · exact ⟨[], by simpa using perm.trans complete⟩
    · exact ⟨left, (List.Perm.append_right left perm).trans split⟩
  · intro within
    have ended := scanned.within_iff.mpr within
    rcases scanned.outcome with ⟨-, complete⟩ | ⟨exceeded, -⟩
    · exact perm.trans complete
    · rw [ended] at exceeded
      cases exceeded

def Found.isRepresentable (found : Found) : Bool := found.status.isRepresentable

theorem secondScan_answers {calls : ScanCalls} {tree : Tree} (sound : tree.Sound)
    (answers : calls.Answers tree) {first : Snapshot}
    (scanned : Scanned bounds true Snapshot.empty (tree.found []) first taken) :
    secondScan bounds calls first
      = some (.ok ((sortFound taken).map (Found.entry true), true)) := by
  have entries := scanned.fresh.1
  unfold secondScan
  by_cases exceeded : first.boundExceeded = true
  · rw [if_pos exceeded, entries, sortInventorySnapshot_map]
  · rw [if_neg exceeded, answers.openRoot]
    have within := scanned.within_iff.mp (by simpa using exceeded)
    obtain ⟨second, others, collected, again⟩ :=
      collectInventoryDirectory_answers sound answers bounds false
    have secondEntries := again.fresh.1
    have firstWhole := scanned.takes.1.whole within
    have secondWhole := again.takes.1.whole within
    have same : sortFound taken = sortFound others := by
      apply sortFound_eq_of_perm sound
      · exact (sortFound_perm taken).symm.trans firstWhole
      · exact (sortFound_perm others).symm.trans secondWhole
    have flags : first.boundExceeded = second.boundExceeded := by
      rw [scanned.within_iff.mpr within, again.within_iff.mpr within]
    have counts : first.entries.length = second.entries.length := by
      rw [entries, secondEntries, length_map, length_map, ← (sortFound_perm taken).length_eq,
        same, (sortFound_perm others).length_eq]
    have totals : first.totalBytes = second.totalBytes := by
      rw [scanned.takes.2, again.takes.2, same]
    have compared : compareInventorySnapshots first second
        = ((sortFound taken).map (Found.entry true), true) := by
      simp only [compareInventorySnapshots, counts, flags, totals]
      rw [entries, secondEntries, sortInventorySnapshot_map, sortInventorySnapshot_map, ← same]
      simpa using compareEntries_same (sortFound taken)
    simp only [collected, answers.close, again.stable]
    simp only [Sys.orHalt, compared]
    rfl

theorem revalidateRoot_answers {handle : FsHandle} {calls : InventoryCalls} {tree : Tree}
    (answers : calls.Answers handle tree) :
    revalidateRoot handle calls = .ok handle.repository := by
  have closes := answers.closes
  simp only [forall_mem_cons] at closes
  obtain ⟨repository, base, repositoryAgain, baseAgain, -⟩ := closes
  simp [revalidateRoot, answers.first.close, repository, base, repositoryAgain, baseAgain,
    answers.again, Sys.orHalt, closePairOrHalt, firstCloseError, FsHandle.isSame, Except.mapError]

theorem inventoryTransaction_answers {handle : FsHandle} {calls : InventoryCalls} {tree : Tree}
    (sound : tree.Sound) (answers : calls.Answers handle tree) (bounds : InventoryBounds) :
    ∃ first taken exceeded,
      collectInventoryDirectory bounds true calls.first.stream calls.first.listing = some (.ok first)
      ∧ first.entries.Perm (taken.map (Found.entry true))
      ∧ Takes bounds tree taken ∧ (exceeded = false ↔ Within bounds tree)
      ∧ inventoryTransaction handle bounds calls
        = some (if taken.all Found.isRepresentable then
          .ok {
            boundExceeded := exceeded
            rootBefore := handle.repository
            rootAfter := handle.repository
            stable := true
            entries := taken.map (Found.entry true)
            bounds := bounds
            totalBytes := totalOf taken
            timeMs := elapsedMilliseconds calls.started calls.finished }
        else .error (.identityUnrepresentable, .projectInventoryIdentity, Errno.eoverflow)) := by
  obtain ⟨first, taken, collected, scanned⟩ :=
    collectInventoryDirectory_answers sound answers.first bounds true
  have opened : openHandleRoot handle calls.root = .ok handle.repository := by
    simp [openHandleRoot, answers.root, FsHandle.isSame]
  have scan : firstScan bounds calls.first = some (.ok first) := by
    simp [firstScan, answers.first.openRoot, collected, scanned.stable]
  have entries : first.entries.Perm ((sortFound taken).map (Found.entry true)) := by
    rw [scanned.entries]
    exact ((sortFound_perm taken).map _).symm
  refine ⟨first, sortFound taken, first.boundExceeded, collected, entries, scanned.takes.1,
    scanned.within_iff, ?_⟩
  simp only [inventoryTransaction, opened, scan, secondScan_answers sound answers.second scanned,
    revalidateRoot_answers answers]
  have unfit : (((sortFound taken).map (Found.entry true)).any fun entry =>
      !entry.identityBefore.isRepresentable || !entry.identityAfter.isRepresentable)
      = !(sortFound taken).all Found.isRepresentable := by
    rw [any_map, not_all_eq_any_not]
    congr 1
    funext found
    simp [Found.entry, Found.isRepresentable]
  cases fit : (sortFound taken).all Found.isRepresentable with
  | true =>
    rw [fit] at unfit
    simp only [bind, Except.bind, unfit, scanned.takes.2, Bool.not_true, Bool.false_eq_true,
      if_false, if_true]
    rfl
  | false =>
    rw [fit] at unfit
    simp only [bind, Except.bind, unfit, Bool.not_false, if_true]
    rfl

end Proc17.Native
