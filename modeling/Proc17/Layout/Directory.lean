import Mathlib.Logic.Function.Basic

/-!
# Directories with several writers

A directory maps names to files.  Its history is a list of changes: the effects of one party,
whose files are marked as its own, and files that others create under a name that is free.
-/

namespace Proc17.Directory

open Function

variable {ν β : Type}

structure File (β : Type) where
  content : List β
  /-- The party whose history is told made this file. -/
  mine : Bool
  deriving DecidableEq

abbrev Dir (ν β : Type) := ν → Option (File β)

/-- The directory before the history, where nothing is the party's own. -/
def foreign (entries : ν → Option (List β)) : Dir ν β := fun name =>
  (entries name).map fun content => ⟨content, false⟩

inductive Effect (ν β : Type) where
  | create (name : ν)
  | append (name : ν) (bytes : List β)
  | rename (old new : ν)
  | unlink (name : ν)
  deriving DecidableEq

namespace Effect

def Touches (name : ν) : Effect ν β → Prop
  | .create other => other = name
  | .append other _ => other = name
  | .rename old new => old = name ∨ new = name
  | .unlink other => other = name

/-- The effect changes what stands under this name only. -/
def Within (name : ν) : Effect ν β → Prop
  | .create other => other = name
  | .append other _ => other = name
  | .rename _ _ => False
  | .unlink other => other = name

end Effect

inductive Change (ν β : Type) where
  | own (effect : Effect ν β)
  /-- Others create a file, unless the name is taken. -/
  | other (name : ν) (content : List β)
  deriving DecidableEq

abbrev History (ν β : Type) := List (Change ν β)

def arrivals (name : ν) (contents : List (List β)) : History ν β := contents.map (.other name)

theorem own_not_mem_arrivals (name : ν) (contents : List (List β)) (effect : Effect ν β) :
    .own effect ∉ arrivals name contents := by
  intro member
  obtain ⟨content, -, same⟩ := List.mem_map.mp member
  cases same

def Foreign (d : Dir ν β) : Prop := ∀ name file, d name = some file → file.mine = false

/-- The party has one file, with this content under this name. -/
structure Holds (d : Dir ν β) (name : ν) (content : List β) : Prop where
  there : d name = some ⟨content, true⟩
  only : ∀ other file, d other = some file → file.mine = true → other = name

theorem foreign_foreign (entries : ν → Option (List β)) : Foreign (foreign entries) := by
  intro name file found
  obtain ⟨content, -, rfl⟩ := Option.map_eq_some_iff.mp found
  rfl

/-! ## Replaying a history -/

variable [DecidableEq ν]

def apply (d : Dir ν β) : Change ν β → Dir ν β
  | .own (.create name) => Function.update d name (some ⟨[], true⟩)
  | .own (.append name bytes) =>
    Function.update d name ((d name).map fun file => { file with content := file.content ++ bytes })
  | .own (.rename old new) => Function.update (Function.update d new (d old)) old none
  | .own (.unlink name) => Function.update d name none
  | .other name content =>
    match d name with
    | some _ => d
    | none => Function.update d name (some ⟨content, false⟩)

def replay (d : Dir ν β) (history : History ν β) : Dir ν β := history.foldl apply d

@[simp] theorem replay_nil (d : Dir ν β) : replay d [] = d := rfl

theorem replay_append (d : Dir ν β) (first second : History ν β) :
    replay d (first ++ second) = replay (replay d first) second := List.foldl_append ..

theorem replay_own (d : Dir ν β) (history : History ν β) (effect : Effect ν β) :
    replay d (history ++ [.own effect]) = apply (replay d history) (.own effect) :=
  replay_append d history _

/-! ## What others do -/

variable {d : Dir ν β} {name : ν} {held : List β}

theorem apply_other_of_some {file : File β} (found : d name = some file) (content : List β) :
    apply d (.other name content) = d := by
  simp only [apply, found]

theorem apply_other_of_none (free : d name = none) (content : List β) :
    apply d (.other name content) = Function.update d name (some ⟨content, false⟩) := by
  simp only [apply, free]

theorem Foreign.other {d : Dir ν β} (none : Foreign d) (name : ν) (content : List β) :
    Foreign (apply d (.other name content)) := by
  cases taken : d name with
  | some file =>
    rw [apply_other_of_some taken]
    exact none
  | none =>
    rw [apply_other_of_none taken]
    intro other file found
    by_cases same : other = name
    · subst same
      rw [update_self] at found
      cases found
      rfl
    · rw [update_of_ne same] at found
      exact none other file found

theorem Holds.other {d : Dir ν β} {own : ν} {held : List β} (holds : Holds d own held) (name : ν)
    (content : List β) : Holds (apply d (.other name content)) own held := by
  cases taken : d name with
  | some file =>
    rw [apply_other_of_some taken]
    exact holds
  | none =>
    rw [apply_other_of_none taken]
    have differ : own ≠ name := by
      rintro rfl
      rw [holds.there] at taken
      cases taken
    refine ⟨?_, ?_⟩
    · rw [update_of_ne differ]
      exact holds.there
    · intro other file found mine
      by_cases same : other = name
      · subst same
        rw [update_self] at found
        cases found
        cases mine
      · rw [update_of_ne same] at found
        exact holds.only other file found mine

theorem Foreign.arrivals (none : Foreign d) (name : ν) (contents : List (List β)) :
    Foreign (replay d (arrivals name contents)) := by
  induction contents generalizing d with
  | nil => exact none
  | cons content rest ih => exact ih (none.other name content)

theorem Holds.arrivals {own : ν} (holds : Holds d own held) (name : ν) (contents : List (List β)) :
    Holds (replay d (arrivals name contents)) own held := by
  induction contents generalizing d with
  | nil => exact holds
  | cons content rest ih => exact ih (holds.other name content)

/-! ## What the party's own effects do -/

theorem Foreign.create (none : Foreign d) (name : ν) :
    Holds (apply d (.own (.create name))) name [] := by
  refine ⟨update_self .., ?_⟩
  intro other file found mine
  by_contra differ
  rw [apply, update_of_ne differ] at found
  rw [none other file found] at mine
  cases mine

theorem Holds.append (holds : Holds d name held) (bytes : List β) :
    Holds (apply d (.own (.append name bytes))) name (held ++ bytes) := by
  refine ⟨?_, ?_⟩
  · rw [apply, update_self, holds.there]
    rfl
  · intro other file found mine
    by_contra differ
    rw [apply, update_of_ne differ] at found
    exact differ (holds.only other file found mine)

theorem Holds.unlink (holds : Holds d name held) :
    Foreign (apply d (.own (.unlink name))) := by
  intro other file found
  by_cases same : other = name
  · subst same
    rw [apply, update_self] at found
    cases found
  · rw [apply, update_of_ne same] at found
    rw [← Bool.not_eq_true]
    exact fun mine => same (holds.only other file found mine)

theorem Holds.rename {old new : ν} (holds : Holds d old held) (free : d new = none) :
    Holds (apply d (.own (.rename old new))) new held := by
  have differ : new ≠ old := by
    rintro rfl
    rw [holds.there] at free
    cases free
  refine ⟨?_, ?_⟩
  · rw [apply, update_of_ne differ, update_self]
    exact holds.there
  · intro other file found mine
    by_contra away
    rw [apply] at found
    by_cases same : other = old
    · subst same
      rw [update_self] at found
      cases found
    · rw [update_of_ne same, update_of_ne away] at found
      exact same (holds.only other file found mine)

end Proc17.Directory
