import Proc17.Runtime.Repository.QaSource

/-!
# Runs of the capability registry

Every entry point that writes the registry, as one step function.
-/

namespace Proc17.Runtime.Repository.Registry

open Lua Core

inductive Call where
  | mint (input : Value)
  | revoke (grantId : Value)
  | beginEffect (action inst : Value)
  | effectCreate (lease : Nat) (request : Value)
  | effectReadBack (lease : Nat)
  | quarantineEffect (lease : Nat) (reason : Value)
  | beginCandidateSeal (request : Value)
  | inventoryCandidate (lease : Nat) (input : Value)
  | abortCandidateSeal (lease : Nat) (proof : Value)
  | commitCandidateSeal (lease : Nat) (input : Value)
  | quarantineCandidateSeal (lease : Nat) (reason : Value)
  | reserveQaSource (binding : Value)
  | withQaSource (lease : Nat) (consumer : Value)
  | finishQaSource (lease : Nat) (disposition : Value)

structure Step where
  call : Call
  world : World

inductive Answer where
  | values (values : List Value)
  | lease (place : Nat)
  | done

def step (derive : DeriveIntent) (r : Registry) (s : Step) : Reply Registry Answer :=
  match s.call with
  | .mint input => (r.mint s.world input).map fun v => .values [v]
  | .revoke grantId => (r.revoke s.world grantId).map fun v => .values [v]
  | .beginEffect action inst => (r.beginEffect derive action inst).map .lease
  | .effectCreate i request => (r.effectCreate s.world i request).map .values
  | .effectReadBack i => (r.effectReadBack s.world i).map .values
  | .quarantineEffect i reason => (r.quarantineEffect s.world i reason).map fun v => .values [v]
  | .beginCandidateSeal request => (r.beginCandidateSeal request).map .lease
  | .inventoryCandidate i input => (r.inventoryCandidate s.world i input).map .values
  | .abortCandidateSeal i proof => (r.abortCandidateSeal i proof).map fun v => .values [v]
  | .commitCandidateSeal i input =>
    (r.commitCandidateSeal s.world i input).map fun v => .values [v]
  | .quarantineCandidateSeal i reason =>
    (r.quarantineCandidateSeal s.world i reason).map fun v => .values [v]
  | .reserveQaSource binding => (r.reserveQaSource binding).map .lease
  | .withQaSource i consumer => (r.withQaSource s.world i consumer).map fun v => .values [v]
  | .finishQaSource i disposition =>
    (r.finishQaSource s.world i disposition).map fun _ => .done

def machine (derive : DeriveIntent) : Machine Registry Step Answer := ⟨step derive⟩

end Proc17.Runtime.Repository.Registry
