import Proc17.Runtime.Writes

/-!
# What leaves the field alone

Every writer of the Packet, and every mutator of its budget and loss, keeps the field and
the potential revision and only adds to the trace.
-/

namespace Proc17.Runtime.Field

open Lua Core

/-- The field and its revision are the same, and no event is gone. -/
structure Framed (p q : Packet) : Prop where
  field : q.field = p.field
  potential : q.revisions.potential = p.revisions.potential
  trace : ∃ events, q.trace = p.trace ++ events

namespace Framed

theorem refl (p : Packet) : Framed p p := ⟨rfl, rfl, [], (List.append_nil _).symm⟩

theorem trans {p q r : Packet} (first : Framed p q) (second : Framed q r) : Framed p r := by
  obtain ⟨events, appended⟩ := first.trace
  obtain ⟨later, more⟩ := second.trace
  refine ⟨second.field.trans first.field, second.potential.trans first.potential,
    events ++ later, ?_⟩
  rw [more, appended, List.append_assoc]

theorem of_eq {p q : Packet} (field : q.field = p.field)
    (potential : q.revisions.potential = p.revisions.potential) (trace : q.trace = p.trace) :
    Framed p q := ⟨field, potential, [], by rw [trace, List.append_nil]⟩

theorem push (p : Packet) (event : Event) : Framed p (p.push event) := ⟨rfl, rfl, [event], rfl⟩

theorem tracked : Tracked (fun _ => True) Framed where
  refl := refl
  trans := trans
  beside := of_eq
  push _ _ := push _ _

theorem appendTrace (p : Packet) (now : Int) (event : Value) :
    Framed p (p.appendTrace now event).2 :=
  tracked.transact _ _ fun draft _ => tracked.emit p now draft fun _ _ => trivial

end Framed

theorem step_framed (S : Schemas) (p : Packet) (s : Step) : Framed p (Packet.step S p s).2 := by
  refine Framed.tracked.step ⟨trivial, fun _ _ => trivial⟩ S p s ?_
  cases s.call with
  | appendTrace event => exact fun _ _ => trivial
  | _ => trivial

/-! ## Budget and loss -/

theorem budgetInit_framed (p : Packet) : Framed p (Budget.init p).2 := Framed.tracked.budgetInit p

theorem lossInit_framed (p : Packet) (options : Value) : Framed p (Loss.init p options).2 :=
  Framed.tracked.lossInit p options

theorem lossApply_framed (p : Packet) (input : Value) : Framed p (Loss.apply p input).2 :=
  Framed.tracked.lossApply p input

theorem budgetCharge_framed (p : Packet) (input : Value) :
    Framed p (Budget.charge p input).2 := Framed.tracked.budgetCharge p input

end Proc17.Runtime.Field
