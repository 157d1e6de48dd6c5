import Mathlib.Logic.Function.Basic
import Mathlib.Logic.Relation

/-!
# Numbers from one counter

A counter hands out ascending numbers, each to one owner or to none.  An owner bears the last
number it was given, beside a standing that changes only together with the number.
-/

namespace Proc17.Counter

open List Function Relation

/-- The numbers handed out, newest first, the next one, and what each owner bears. -/
structure Book (Owner Standing : Type) where
  issued : List Nat
  next : Nat
  bears : Owner → Option (Nat × Standing)

section

variable {Owner Standing : Type}

/-- The numbers handed out descend towards the past, and no two owners bear the same. -/
structure Sound (b : Book Owner Standing) : Prop where
  descending : b.issued.Pairwise (· > ·)
  below : ∀ n ∈ b.issued, n < b.next
  borne : ∀ owner n standing, b.bears owner = some (n, standing) → n ∈ b.issued
  apart : ∀ owner other n standing standing', b.bears owner = some (n, standing) →
    b.bears other = some (n, standing') → owner = other

/-- What a later book keeps: an owner bears what it bore, or a number greater than all that
were handed out before, and what one owner bore no other bears. -/
structure Later (b b' : Book Owner Standing) : Prop where
  issued : b.issued <:+ b'.issued
  kept : ∀ owner n standing, b.bears owner = some (n, standing) →
    ∃ n' standing', b'.bears owner = some (n', standing') ∧ n ≤ n'
  taken : ∀ owner n standing, b'.bears owner = some (n, standing) →
    b.bears owner = some (n, standing) ∨ ∀ m ∈ b.issued, m < n
  single : ∀ owner other n standing standing', b.bears owner = some (n, standing) →
    b'.bears other = some (n, standing') → owner = other

variable {a b c : Book Owner Standing}

theorem Sound.later_refl (sound : Sound b) : Later b b :=
  ⟨suffix_rfl, fun _ n standing bears => ⟨n, standing, bears, Nat.le_refl n⟩,
    fun _ _ _ bears => .inl bears, sound.apart⟩

theorem Sound.fresh (sound : Sound b) {owner : Owner} {n : Nat} {standing : Standing}
    (bears : b.bears owner = some (n, standing)) : n < b.next :=
  sound.below n (sound.borne owner n standing bears)

theorem Sound.cons (sound : Sound b) : (b.next :: b.issued).Pairwise (· > ·)
    ∧ ∀ n ∈ b.next :: b.issued, n < b.next + 1 := by
  refine ⟨pairwise_cons.mpr ⟨sound.below, sound.descending⟩, ?_⟩
  intro n member
  rcases mem_cons.mp member with rfl | old
  · exact Nat.lt_succ_self _
  · exact Nat.lt_succ_of_lt (sound.below n old)

theorem Later.trans (first : Later a b) (second : Later b c) (sound : Sound a) : Later a c where
  issued := first.issued.trans second.issued
  kept := by
    intro owner n standing bears
    obtain ⟨m, standing', bears', atMost⟩ := first.kept owner n standing bears
    obtain ⟨k, standing'', bears'', atMost'⟩ := second.kept owner m standing' bears'
    exact ⟨k, standing'', bears'', Nat.le_trans atMost atMost'⟩
  taken := by
    intro owner n standing bears
    rcases second.taken owner n standing bears with same | newer
    · exact first.taken owner n standing same
    · exact .inr fun m member => newer m (first.issued.subset member)
  single := by
    intro owner other n standing standing' bears bears'
    rcases second.taken other n standing' bears' with same | newer
    · exact first.single owner other n standing standing' bears same
    · have member := first.issued.subset (sound.borne owner n standing bears)
      exact absurd (newer n member) (Nat.lt_irrefl n)

end

variable {Owner Standing : Type} [DecidableEq Owner]

/-- A number is handed out, to nobody or to an owner. -/
inductive Step (b : Book Owner Standing) : Book Owner Standing → Prop where
  | spent : Step b ⟨b.next :: b.issued, b.next + 1, b.bears⟩
  | taken (owner : Owner) (standing : Standing) : Step b
      ⟨b.next :: b.issued, b.next + 1, update b.bears owner (some (b.next, standing))⟩

abbrev Steps : Book Owner Standing → Book Owner Standing → Prop := ReflTransGen Step

variable {b b' : Book Owner Standing}

theorem update_cases {bears : Owner → Option (Nat × Standing)} {owner other : Owner} {n next : Nat}
    {standing standing' : Standing}
    (found : update bears owner (some (next, standing)) other = some (n, standing')) :
    (other = owner ∧ n = next) ∨ (other ≠ owner ∧ bears other = some (n, standing')) := by
  by_cases same : other = owner
  · subst same
    rw [update_self] at found
    cases found
    exact .inl ⟨rfl, rfl⟩
  · rw [update_of_ne same] at found
    exact .inr ⟨same, found⟩

theorem Step.sound (step : Step b b') (sound : Sound b) : Sound b' := by
  obtain ⟨descending, below⟩ := sound.cons
  cases step with
  | spent =>
    exact ⟨descending, below, fun owner n standing bears =>
      mem_cons_of_mem _ (sound.borne owner n standing bears), sound.apart⟩
  | taken owner standing =>
    refine ⟨descending, below, ?_, ?_⟩
    · intro other n standing' bears
      rcases update_cases bears with ⟨-, rfl⟩ | ⟨-, old⟩
      · exact mem_cons_self ..
      · exact mem_cons_of_mem _ (sound.borne other n standing' old)
    · intro one other n left right bears bears'
      rcases update_cases bears with ⟨rfl, rfl⟩ | ⟨-, old⟩ <;>
        rcases update_cases bears' with ⟨rfl, same⟩ | ⟨-, old'⟩
      · rfl
      · exact absurd (sound.fresh old') (Nat.lt_irrefl _)
      · rw [same] at old
        exact absurd (sound.fresh old) (Nat.lt_irrefl _)
      · exact sound.apart one other n left right old old'

theorem Step.later (step : Step b b') (sound : Sound b) : Later b b' := by
  cases step with
  | spent =>
    exact ⟨suffix_cons _ _, sound.later_refl.kept, sound.later_refl.taken, sound.apart⟩
  | taken owner standing =>
    refine ⟨suffix_cons _ _, ?_, ?_, ?_⟩
    · intro other n standing' bears
      by_cases same : other = owner
      · subst same
        exact ⟨b.next, standing, update_self .., Nat.le_of_lt (sound.fresh bears)⟩
      · exact ⟨n, standing', (update_of_ne same ..).trans bears, Nat.le_refl n⟩
    · intro other n standing' bears
      rcases update_cases bears with ⟨-, rfl⟩ | ⟨-, old⟩
      · exact .inr sound.below
      · exact .inl old
    · intro one other n left right bears bears'
      rcases update_cases bears' with ⟨-, rfl⟩ | ⟨-, old⟩
      · exact absurd (sound.fresh bears) (Nat.lt_irrefl _)
      · exact sound.apart one other n left right bears old

theorem Steps.sound (course : Steps b b') (sound : Sound b) : Sound b' ∧ Later b b' := by
  induction course with
  | refl => exact ⟨sound, sound.later_refl⟩
  | tail _ last ih => exact ⟨last.sound ih.1, ih.2.trans (last.later ih.1) sound⟩

end Proc17.Counter
