import Mathlib.Logic.ExistsUnique
import Mathlib.Logic.Function.Basic

/-!
# Custody

Things that pass from holder to holder.  A custody names the one holder of each thing
that exists, and a relation `holds` that reads off the same holders gives every thing
exactly one.
-/

namespace Proc17.Custody

variable {ι κ : Type}

def Reads (holds : ι → κ → Prop) (custody : ι → Option κ) : Prop :=
  ∀ i k, holds i k ↔ custody i = some k

section Reads

variable {holds holds' : ι → κ → Prop} {custody : ι → Option κ}

section
variable (reads : Reads holds custody)
include reads

theorem Reads.unique {i : ι} {k k' : κ} (first : holds i k) (second : holds i k') : k = k' := by
  have named := (reads i k).mp first
  rw [(reads i k').mp second] at named
  exact (Option.some.inj named).symm

theorem Reads.existsUnique {i : ι} (present : custody i ≠ none) : ∃! k, holds i k := by
  obtain ⟨k, named⟩ := Option.ne_none_iff_exists'.mp present
  exact ⟨k, (reads i k).mpr named, fun k' held => reads.unique held ((reads i k).mpr named)⟩

theorem Reads.same (after : ∀ i k, holds' i k ↔ holds i k) : Reads holds' custody :=
  fun i k => (after i k).trans (reads i k)

theorem Reads.take [DecidableEq ι] {new : ι} {holder : κ} (free : custody new = none)
    (after : ∀ i k, holds' i k ↔ (i = new ∧ k = holder) ∨ holds i k) :
    Reads holds' (Function.update custody new (some holder)) := by
  intro i k
  rw [after]
  by_cases same : i = new
  · subst same
    rw [Function.update_self, reads, free]
    simp [eq_comm]
  · rw [Function.update_of_ne same, reads]
    simp [same]

theorem Reads.pass [DecidableEq ι] {thing : ι} {giver taker : κ} (held : holds thing giver)
    (after : ∀ i k, holds' i k ↔
      (i = thing ∧ k = taker) ∨ (holds i k ∧ ¬ (i = thing ∧ k = giver))) :
    Reads holds' (Function.update custody thing (some taker)) := by
  intro i k
  rw [after]
  by_cases same : i = thing
  · subst same
    rw [Function.update_self]
    constructor
    · rintro (⟨-, rfl⟩ | ⟨holding, other⟩)
      · rfl
      · exact absurd ⟨rfl, reads.unique holding held⟩ other
    · intro named
      exact .inl ⟨rfl, (Option.some.inj named).symm⟩
  · rw [Function.update_of_ne same, reads]
    simp [same]

end

end Reads

end Proc17.Custody
