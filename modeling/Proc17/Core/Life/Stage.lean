import Proc17.Core.Packet.Course

/-!
# Stages of a life

A life is living, dying or dead.  The stage fixes the status, the terminal and
death records and the terminal events of the trace together; a stage is left only
forward.
-/

namespace Proc17.Core.Packet

open Lua

def terminalEvents (trace : List Event) : List Event :=
  trace.filter fun event => event.type = .terminal

inductive Stage (p : Packet) : Prop where
  | living (terminal : p.terminal = none) (death : p.death = none)
      (status : p.status = .born ∨ p.status = .running)
      (events : terminalEvents p.trace = [])
  | dying (terminal : Terminal) (event : Event) (recorded : p.terminal = some terminal)
      (death : p.death = none) (status : p.status = .dying)
      (events : terminalEvents p.trace = [event])
      (cause : event.payload.get "cause" = .text terminal.cause.name)
  | dead (terminal : Terminal) (death : Death) (event : Event)
      (recorded : p.terminal = some terminal) (died : p.death = some death)
      (status : p.status = .dead) (events : terminalEvents p.trace = [event])
      (cause : event.payload.get "cause" = .text terminal.cause.name)
      (same : death.cause = terminal.cause)

variable {p : Packet}

theorem Stage.mutable_iff (stage : Stage p) : p.Mutable ↔ p.terminal = none := by
  constructor
  · intro mutable
    exact mutable.unended
  · intro unended
    cases stage with
    | living terminal death status events =>
      rcases status with born | running
      · exact ⟨by rw [born]; decide, by rw [born]; decide, by rw [born]; decide, unended⟩
      · exact ⟨by rw [running]; decide, by rw [running]; decide, by rw [running]; decide,
          unended⟩
    | dying terminal event recorded | dead terminal death event recorded =>
      rw [recorded] at unended
      cases unended

theorem Stage.living_of_mutable (stage : Stage p) (mutable : p.Mutable) :
    p.terminal = none ∧ p.death = none ∧ (p.status = .born ∨ p.status = .running)
      ∧ terminalEvents p.trace = [] := by
  have unended := mutable.unended
  cases stage with
  | living terminal death status events => exact ⟨terminal, death, status, events⟩
  | dying terminal event recorded | dead terminal death event recorded =>
    rw [recorded] at unended
    cases unended

theorem terminalEvents_append_other (trace : List Event) (event : Event)
    (other : event.type ≠ .terminal) :
    terminalEvents (trace ++ [event]) = terminalEvents trace := by
  simp [terminalEvents, other]

theorem terminalPayload_cause (terminal : Terminal) :
    (terminalPayload terminal).get "cause" = .text terminal.cause.name :=
  Value.get_record (by simp) (by simp)

theorem terminal_stored (p : Packet) (now : Int) (terminal : Terminal) (event : Event)
    (stored : p.storedEvent now (terminalDraft terminal) = .ok event) :
    event.type = .terminal ∧ event.payload.get "cause" = .text terminal.cause.name := by
  obtain ⟨typed, -, -, -, payload⟩ := storedEvent_own p now _ _ _ _ _ event stored
  refine ⟨typed, ?_⟩
  have kept : (terminalPayload terminal).orElse .emptyTable = terminalPayload terminal := rfl
  rw [payload, kept, Value.get_deepCopy, terminalPayload_cause]
  rfl

theorem newborn_stage (p : Packet) (birth : Event) (born : Newborn p birth) : Stage p := by
  refine .living born.terminal born.death (.inl born.status) ?_
  rw [born.trace]
  simp [terminalEvents, born.type]

theorem living_push (stage : Stage p) (mutable : p.Mutable) (event : Event)
    (other : event.type ≠ .terminal) : Stage (p.push event) := by
  obtain ⟨terminal, death, status, events⟩ := stage.living_of_mutable mutable
  refine .living terminal death status ?_
  rw [push, terminalEvents_append_other p.trace event other, events]

theorem change_preserves_stage (supplied : Value) (p : Packet) (events : List Event)
    (q : Packet) (stage : Stage p) (change : Change supplied p events q) : Stage q := by
  cases change with
  | edit q mutable same =>
    obtain ⟨terminal, death, status, ended⟩ := stage.living_of_mutable mutable
    refine .living (same.terminal.trans terminal) (same.death.trans death) ?_ ?_
    · rcases same.status with kept | woke
      · rw [kept]
        exact status
      · rw [woke]
        rcases status with born | running
        · exact .inr (by rw [born]; rfl)
        · exact .inr (by rw [running]; rfl)
    · rw [same.trace, ended]
  | tick now inputRefs event mutable stored | manifest now plan event mutable here stored
  | death now plan event mutable stored =>
    obtain ⟨typed, -⟩ := storedEvent_own p now _ _ _ _ _ event stored
    exact living_push stage mutable event (by simp [typed])
  | route now decision target draft event planned stored =>
    obtain ⟨mutable, -, -, -, selected, planId, -, rfl⟩ :=
      routePlan_facts p decision target draft planned
    obtain ⟨typed, -⟩ := storedEvent_own p now _ _ _ _ _ event stored
    have pushed := living_push stage mutable event (by simp [typed])
    obtain ⟨terminal, death, status, ended⟩ := pushed.living_of_mutable (mutable.push event)
    refine .living terminal death ?_ ended
    rcases status with born | running
    · exact .inr (by simp [routed, born, Status.wake])
    · exact .inr (by simp [routed, running, Status.wake])
  | act now draft lease event mutable leased here acted permitted identified stored =>
    refine living_push stage mutable event ?_
    intro typed
    rw [typed] at acted
    cases acted
  | terminal now terminal event mutable here stored =>
    obtain ⟨-, death, -, ended⟩ := stage.living_of_mutable mutable
    obtain ⟨typed, cause⟩ := terminal_stored p now terminal event stored
    refine .dying _ event rfl death rfl ?_ cause
    simp only [storeTerminal, push, terminalEvents] at ended ⊢
    rw [List.filter_append, ended]
    simp [typed]
  | freeze now cause residue terminal planned =>
    obtain ⟨dying, recorded, -⟩ := (freezePlan_eq_ok p cause terminal).mp planned
    cases stage with
    | living unended death status ended =>
      rw [unended] at recorded
      cases recorded
    | dead terminal' death event recorded' died status ended cause' same =>
      rw [status] at dying
      cases dying
    | dying terminal' event recorded' death status ended cause' =>
      rw [recorded'] at recorded
      cases recorded
      exact .dead (p.closedTerminal terminal) (deathOf terminal now) event rfl rfl rfl
        ended cause' rfl

theorem life_stage (S : Schemas) (counter : Nat) (now : Int) (prompt options : Value)
    (p : Packet) (born : Packet.new S counter now prompt options = .ok p)
    (steps : List Step) : Stage ((machine S).run p steps) := by
  obtain ⟨birth, newborn⟩ := new_newborn S counter now prompt options p born
  exact life_invariant S Stage change_preserves_stage steps p (newborn_stage p birth newborn)

end Proc17.Core.Packet
