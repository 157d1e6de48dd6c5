import Proc17.Native.StableTree

/-!
# Listings of a tree

A tree can be listed with any of its places first.  A scan of such a listing reaches the place
whenever its own bounds and those of the directories above it hold, whatever else the tree holds.
-/

namespace Proc17.Native

open Lua Core Runtime.Repository List

/-! ## Calls that answer -/

def fileCallsOf (status : Status) (content : Bytes) : FileCalls where
  openFile := .ok ()
  before := .ok status
  buffer := true
  reads := if content = [] then [.ok []] else [.ok content, .ok []]
  after := .ok status
  close := .ok ()

def quietStream : StreamCalls := ⟨.ok (), .ok (), .ok (), .ok ()⟩

def itemCallsOf (name : Bytes) (status : Status) (content : Bytes) : ItemCalls where
  name := name
  path := true
  status := .ok status
  grow := true
  file := fileCallsOf status content
  openChild := .ok ()
  childStatus := .ok status
  childStream := quietStream
  closeChild := .ok ()

theorem itemCallsOf_answers (name : Bytes) (status : Status) (content : Bytes) :
    (itemCallsOf name status content).Answers status content := by
  have delivers : Delivers content (fileCallsOf status content).reads := by
    by_cases empty : content = []
    · subst empty
      exact Delivers.done []
    · have reads : (fileCallsOf status content).reads = [.ok content, .ok []] := by
        simp [fileCallsOf, empty]
      rw [reads]
      simpa using Delivers.piece content empty (Delivers.done [])
  exact ⟨rfl, rfl, rfl, fun _ => ⟨rfl, rfl, rfl, delivers, rfl, rfl⟩, fun _ => rfl, fun _ => rfl,
    fun _ => ⟨rfl, rfl, rfl⟩, fun _ => rfl⟩

theorem exists_shows (tree : Tree) : ∃ listing, Shows tree listing := by
  induction tree with
  | empty => exact ⟨.ending 0, Shows.ending⟩
  | entry name status content inside rest ihInside ihRest =>
    obtain ⟨below, deeper⟩ := ihInside
    obtain ⟨after, more⟩ := ihRest
    refine ⟨.item (itemCallsOf name status content) below after, ?_⟩
    exact Shows.item (Picks.here name status content inside rest)
      (itemCallsOf_answers name status content) (fun _ => deeper) more

/-! ## One place of a tree -/

variable {name : Bytes} {tree : Tree} {found : Found} {more parent : List Bytes} {listing : Listing}

theorem exists_picks (listed : name ∈ tree.names) :
    ∃ status content below left, Picks tree name status content below left := by
  induction tree with
  | empty => cases listed
  | entry other status content inside rest ihInside ihRest =>
    by_cases same : name = other
    · subst same
      exact ⟨status, content, inside, rest, Picks.here name status content inside rest⟩
    · have later : name ∈ rest.names := mem_of_ne_of_mem same listed
      obtain ⟨found, bytes, below, left, picked⟩ := ihRest later
      exact ⟨found, bytes, below, _, Picks.there other status content inside picked⟩

theorem picks_fresh {below left : Tree} {content : Bytes} {status : Status}
    (picked : Picks tree name status content below left) (sound : tree.Sound) :
    name ∉ left.names := by
  induction picked with
  | here => exact sound.2.1
  | there other otherStatus otherContent otherInside picked ih =>
    obtain ⟨-, fresh, -, -, -, soundRest⟩ := sound
    intro listed
    rcases mem_cons.mp listed with here | later
    · rw [here] at picked
      exact fresh (picks_names picked).1
    · exact ih soundRest later

theorem picks_place {below left : Tree} {content : Bytes} {status : Status}
    (picked : Picks tree name status content below left) (sound : tree.Sound)
    (member : found ∈ tree.found parent) (split : found.components = parent ++ name :: more) :
    (more = [] ∧ found = ⟨parent ++ [name], status, content⟩)
      ∨ (more ≠ [] ∧ found ∈ below.found (parent ++ [name])) := by
  obtain ⟨-, -, -, soundBelow, soundLeft⟩ := picks_sound picked sound
  rcases mem_cons.mp ((picks_found picked parent).symm.subset member) with here | other
  · left
    refine ⟨?_, here⟩
    rw [here] at split
    simpa using split.symm
  · rcases mem_append.mp other with inBelow | inLeft
    · right
      refine ⟨?_, inBelow⟩
      obtain ⟨next, -, rest, deeper, -⟩ := found_components soundBelow _ found inBelow
      rintro rfl
      have lengths := congrArg List.length (deeper.symm.trans split)
      simp at lengths
    · obtain ⟨next, listed, rest, aside, -⟩ := found_components soundLeft _ found inLeft
      cases append_cancel_left (aside.symm.trans split)
      exact absurd listed (picks_fresh picked sound)

/-! ## A place first -/

inductive Leads : Listing → List Bytes → Prop
  | last (calls : ItemCalls) (inside rest : Listing) : Leads (.item calls inside rest) [calls.name]
  | under {inside : Listing} {more : List Bytes} (calls : ItemCalls) (rest : Listing)
      (deeper : Leads inside more) : Leads (.item calls inside rest) (calls.name :: more)

theorem exists_leads : ∀ (components : List Bytes) {tree : Tree} {parent : List Bytes}
    {found : Found}, tree.Sound → found ∈ tree.found parent →
      found.components = parent ++ components →
      ∃ listing, Shows tree listing ∧ Leads listing components := by
  intro components
  induction components with
  | nil =>
    intro tree parent found sound member split
    obtain ⟨name, -, more, deeper, -⟩ := found_components sound parent found member
    have lengths := congrArg List.length (deeper.symm.trans split)
    simp at lengths
  | cons name more ih =>
    intro tree parent found sound member split
    obtain ⟨first, listed, others, deeper, -⟩ := found_components sound parent found member
    cases append_cancel_left (deeper.symm.trans split)
    obtain ⟨status, content, below, left, picked⟩ := exists_picks listed
    obtain ⟨-, -, -, soundBelow, -⟩ := picks_sound picked sound
    obtain ⟨after, shownAfter⟩ := exists_shows left
    let calls := itemCallsOf name status content
    have answers := itemCallsOf_answers name status content
    rcases picks_place picked sound member split with ⟨rfl, -⟩ | ⟨-, inBelow⟩
    · obtain ⟨inside, shownInside⟩ := exists_shows below
      exact ⟨.item calls inside after, Shows.item picked answers (fun _ => shownInside) shownAfter,
        Leads.last calls inside after⟩
    · obtain ⟨inside, shownInside, leads⟩ := ih soundBelow inBelow (by rw [split]; simp)
      exact ⟨.item calls inside after, Shows.item picked answers (fun _ => shownInside) shownAfter,
        Leads.under calls after leads⟩

/-! ## The scan reaches it -/

section

variable {bounds : InventoryBounds} {capture : Bool}

theorem joinAll_append_length (above more : List Bytes) :
    (joinAll above).length ≤ (joinAll (above ++ more)).length := by
  induction above with
  | nil => simp [joinAll]
  | cons first rest ih =>
    cases rest with
    | nil =>
      cases more with
      | nil => simp
      | cons next others => simp [joinAll]
    | cons second others =>
      have split : ∀ tail : List Bytes, joinAll (first :: second :: tail)
          = first ++ 47 :: joinAll (second :: tail) := by
        intro tail
        simp [joinAll]
      rw [cons_append, cons_append, split, split]
      simp only [length_append, length_cons]
      have := ih
      rw [cons_append] at this
      omega

theorem Reaches.above {directory : Found} (split : found.components = directory.components ++ more)
    (kind : directory.status.kind = .directory) (reaches : Reaches bounds found) :
    Reaches bounds directory := by
  obtain ⟨⟨short, brief, shallow, -⟩, few, -⟩ := reaches
  have bytes : directory.bytes = 0 := if_neg (by rw [kind]; decide)
  rw [split, length_append] at shallow few
  have path := joinAll_append_length directory.components more
  rw [Found.path, split] at brief
  refine ⟨⟨?_, ?_, by omega, by omega⟩, by omega, by omega⟩
  · intro name member
    apply short name
    rw [split]
    exact mem_append_left _ member
  · exact le_trans path brief

theorem collectItems_keeps {s result : Snapshot} (shown : Shows tree listing) (sound : tree.Sound)
    (going : s.halted = false → Going bounds parent s)
    (collected : collectIn bounds capture listing parent s = some (.ok result)) :
    ∀ entry ∈ s.entries, entry ∈ result.entries := by
  intro entry member
  by_cases halted : s.halted = true
  · rw [collectIn, collectItems_halted bounds capture listing _ _ halted] at collected
    cases collected
    exact member
  · obtain ⟨other, taken, again, scanned⟩ := @collectItems_shows bounds capture _ _ shown sound
      parent s (going (by simpa using halted))
    rw [collected] at again
    cases again
    rw [scanned.entries]
    exact mem_append_left _ member

theorem collectItems_first {calls : ItemCalls} {inside rest : Listing}
    (shown : Shows tree (.item calls inside rest)) (sound : tree.Sound) {s result : Snapshot}
    (going : Going bounds parent s) (counted : s.entries.length = parent.length)
    (light : s.totalBytes = 0) (member : found ∈ tree.found parent)
    (split : found.components = parent ++ calls.name :: more) (reaches : Reaches bounds found)
    (deeper : ∀ below : Tree, found ∈ below.found (parent ++ [calls.name]) → Shows below inside →
      below.Sound → ∀ next mid : Snapshot, Going bounds (parent ++ [calls.name]) next →
      next.entries.length = parent.length + 1 → next.totalBytes = 0 →
      collectIn bounds capture inside (parent ++ [calls.name]) next = some (.ok mid) →
      found.entry capture ∈ mid.entries)
    (collected : collectIn bounds capture (.item calls inside rest) parent s = some (.ok result)) :
    found.entry capture ∈ result.entries := by
  have few := reaches.2.1
  rw [split, length_append, length_cons] at few
  obtain ⟨name, listed, others, aside, valid⟩ := found_components sound parent found member
  cases append_cancel_left (aside.symm.trans split)
  have validName := valid calls.name mem_cons_self
  cases shown with
  | dots dots more =>
    rw [validName.2.2.2] at dots
    cases dots
  | item picked answers shownInside shownRest =>
    rename_i below left status content
    obtain ⟨-, sized, leaf, soundBelow, soundLeft⟩ := picks_sound picked sound
    have place := picks_place picked sound member split
    have reachesPlace : Reaches bounds ⟨parent ++ [calls.name], status, content⟩ := by
      rcases place with ⟨-, same⟩ | ⟨-, inBelow⟩
      · rw [← same]
        exact reaches
      · have kind : status.kind = .directory := by
          by_contra plain
          rw [leaf plain] at inBelow
          cases inBelow
        have whole : found.components = (parent ++ [calls.name]) ++ more := by
          rw [split]
          simp
        exact Reaches.above whole kind reaches
    obtain ⟨stopped, -, scanned⟩ | ⟨next, going', nextEntries, nextTotal, -, onLeaf, onDirectory⟩ :=
      @collectItems_item bounds calls status content parent s capture inside rest answers going
        validName sized [⟨parent ++ [calls.name], status, content⟩] mem_cons_self
    · exfalso
      have total := scanned.total
      have entries := congrArg List.length scanned.entries
      rcases scanned.outcome with ⟨-, complete⟩ | ⟨-, rest, perm, place, inRest, beyond⟩
      · simpa using complete.length_eq
      · have same := mem_singleton.mp (perm.subset (mem_append_right _ inRest))
        have bytes := reachesPlace.2.2
        simp [totalOf] at total
        simp at entries
        rw [same] at beyond
        rcases beyond with forbidden | heavy | full
        · exact forbidden reachesPlace.1
        · omega
        · omega
    · have nextLength : next.entries.length = parent.length + 1 := by
        rw [nextEntries, length_append, length_singleton, counted]
      by_cases kind : status.kind = .directory
      · obtain ⟨mid, inner, collectedInside, scanned⟩ :=
          @collectItems_shows bounds capture _ _ (shownInside kind) soundBelow _ next going'
        rw [onDirectory kind mid collectedInside] at collected
        apply collectItems_keeps shownRest soundLeft (scanned.going going'.up) collected
        rcases place with ⟨-, same⟩ | ⟨-, inBelow⟩
        · rw [scanned.entries, nextEntries, same]
          simp
        · have nothing : next.totalBytes = 0 := by
            rw [nextTotal, light, Nat.zero_add]
            exact if_neg (by rw [kind]; decide)
          exact deeper below inBelow (shownInside kind) soundBelow next mid going' nextLength
            nothing collectedInside
      · rw [onLeaf kind] at collected
        apply collectItems_keeps shownRest soundLeft (fun _ => going'.up) collected
        rcases place with ⟨-, same⟩ | ⟨-, inBelow⟩
        · rw [nextEntries, same]
          simp
        · rw [leaf kind] at inBelow
          cases inBelow

theorem collectItems_leads {components : List Bytes} (leads : Leads listing components) :
    ∀ {tree : Tree} (_ : Shows tree listing) (_ : tree.Sound)
    {parent : List Bytes} {s result : Snapshot} (_ : Going bounds parent s)
    (_ : s.entries.length = parent.length)
    (_ : s.totalBytes = 0) {found : Found} (_ : found ∈ tree.found parent)
    (_ : found.components = parent ++ components) (_ : Reaches bounds found)
    (_ : collectIn bounds capture listing parent s = some (.ok result)),
    found.entry capture ∈ result.entries := by
  induction leads with
  | last calls inside rest =>
    intro tree shown sound parent s result going counted light found member split reaches collected
    refine collectItems_first shown sound going counted light member split reaches ?_ collected
    intro below inBelow _ soundBelow next mid _ _ _ _
    -- the place is the name's own, which is not below itself
    obtain ⟨name, -, more, deeper, -⟩ := found_components soundBelow _ found inBelow
    have lengths := congrArg List.length (deeper.symm.trans split)
    simp at lengths
  | under calls rest deeper ih =>
    intro tree shown sound parent s result going counted light found member split reaches collected
    refine collectItems_first shown sound going counted light member split reaches ?_ collected
    intro below inBelow shownInside soundBelow next mid going' nextLength nothing collectedInside
    exact ih shownInside soundBelow going' (by simpa using nextLength) nothing inBelow
      (by rw [split]; simp) reaches collectedInside

end

/-! ## The whole call -/

def scanCallsOf (listing : Listing) : ScanCalls := ⟨.ok (), quietStream, listing, .ok ()⟩

def identityStatus (identity : FsIdentity) : Status :=
  ⟨identity.device, identity.inode, .directory, 0, 0, 0, 0, 0, 0, 0⟩

def pairCallsOf (handle : FsHandle) : PairCalls where
  openBase := .ok ()
  baseStatus := .ok (identityStatus handle.project)
  baseMount := .ok (some handle.project.mountId)
  openRoot := .ok ()
  rootStatus := .ok (identityStatus handle.repository)
  rootMount := .ok (some handle.repository.mountId)

def inventoryCallsOf (handle : FsHandle) (listing : Listing) : InventoryCalls where
  root := pairCallsOf handle
  first := scanCallsOf listing
  second := scanCallsOf listing
  closeRepository := .ok ()
  closeBase := .ok ()
  again := pairCallsOf handle
  closeRepositoryAgain := .ok ()
  closeBaseAgain := .ok ()
  started := 0
  finished := 0

theorem inventoryCallsOf_answers {handle : FsHandle}
    (mount : handle.repository.mountId = handle.project.mountId) (shown : Shows tree listing) :
    (inventoryCallsOf handle listing).Answers handle tree := by
  have pair : openIdentityPair (pairCallsOf handle) = .ok (handle.project, handle.repository) := by
    obtain ⟨⟨_, _, one⟩, ⟨_, _, other⟩, _⟩ := handle
    cases mount
    simp [openIdentityPair, pairCallsOf, Sys.atStage, observeIdentity, identityStatus,
      Except.mapError, bind, Except.bind, pure, Except.pure]
  have scan : (scanCallsOf listing).Answers tree := ⟨rfl, ⟨rfl, rfl, rfl⟩, shown, rfl⟩
  refine ⟨pair, scan, scan, pair, ?_⟩
  simp [inventoryCallsOf]

end Proc17.Native
