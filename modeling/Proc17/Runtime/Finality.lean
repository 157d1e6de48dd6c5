import Proc17.Core.Life.Stage
import Proc17.Runtime.Budget
import Proc17.Runtime.Loss
import Proc17.Runtime.Field.Relations

/-!
# Finality

Once a terminal is recorded every writer of the Packet and every mutator of its
budget, loss and field refuses and changes nothing; only `freeze` still goes
through, once, with the recorded cause.
-/

namespace Proc17.Runtime

open Lua Core

/-! ## The mutators beside the Packet writers -/

def Field.init (p : Packet) : Reply Packet Core.Field := (.ok p.field, p)

inductive Mutation where
  | budgetInit
  | budgetCharge (input : Value)
  | lossInit (options : Value)
  | lossApply (input : Value)
  | addUnit (actor input : Value)
  | setActivation (actor id activation source : Value)
  | prepareInheritedFormRelease (actor input : Value)
  | commitInheritedFormRelease (actor : Value) (place : Nat) (eventId : Value)
  | snapshotRawRelations (actor input : Value)
  | activateRelations (actor relationIds source : Value)
  | weakenRelation (actor relationId source : Value)
  | releaseRawRelation (actor input : Value)
  | recordIdentityMap (actor input : Value)

def onPacket {α : Type} (l : Field.Living) (reply : Reply Packet α) :
    Reply Field.Living Unit :=
  (reply.1.map fun _ => (), { l with packet := reply.2 })

def Mutation.run (S : Schemas) (now : Int) (l : Field.Living) :
    Mutation → Reply Field.Living Unit
  | .budgetInit => onPacket l (Budget.init l.packet)
  | .budgetCharge input => onPacket l (Budget.charge l.packet input)
  | .lossInit options => onPacket l (Loss.init l.packet options)
  | .lossApply input => onPacket l (Loss.apply l.packet input)
  | .addUnit actor input => onPacket l (Field.addUnit l.packet actor input)
  | .setActivation actor id activation source =>
    onPacket l (Field.setActivation l.packet actor id activation source)
  | .prepareInheritedFormRelease actor input =>
    (Field.prepareInheritedFormRelease S l actor input).map fun _ => ()
  | .commitInheritedFormRelease actor place eventId =>
    (Field.commitInheritedFormRelease S l actor place eventId).map fun _ => ()
  | .snapshotRawRelations actor input =>
    onPacket l (Field.snapshotRawRelations l.packet now actor input)
  | .activateRelations actor relationIds source =>
    onPacket l (Field.activateRelations l.packet now actor relationIds source)
  | .weakenRelation actor relationId source =>
    onPacket l (Field.weakenRelation l.packet now actor relationId source)
  | .releaseRawRelation actor input =>
    onPacket l (Field.releaseRawRelation l.packet now actor input)
  | .recordIdentityMap actor input =>
    onPacket l (Field.recordIdentityMap l.packet now actor input)

/-! ## Refusals -/

def Refused {σ α : Type} (s : σ) (reply : Reply σ α) : Prop := ¬ reply.Succeeds ∧ reply.2 = s

variable {σ α β : Type}

theorem refused_transact (plan : Except Failure β) (commit : β → Reply σ α)
    (s : σ) (blocked : ∀ b, plan ≠ .ok b) : Refused s (transact plan commit s) := by
  cases plan with
  | error failure => exact ⟨by simp [transact], rfl⟩
  | ok b => exact absurd rfl (blocked b)

theorem refused_map {s : σ} {reply : Reply σ α} (f : α → β)
    (refused : Refused s reply) : Refused s (reply.map f) := by
  obtain ⟨failed, kept⟩ := refused
  refine ⟨?_, kept⟩
  rintro ⟨b, same⟩
  apply failed
  cases result : reply.1 with
  | error failure =>
    rw [Reply.map, result] at same
    cases same
  | ok a => exact ⟨a, result⟩

theorem refused_onPacket {α : Type} {l : Field.Living} {reply : Reply Packet α}
    (refused : Refused l.packet reply) : Refused l (onPacket l reply) := by
  obtain ⟨failed, kept⟩ := refused
  refine ⟨?_, by rw [onPacket, kept]⟩
  rintro ⟨u, same⟩
  apply failed
  cases result : reply.1 with
  | error failure =>
    rw [onPacket, result] at same
    cases same
  | ok a => exact ⟨a, result⟩

theorem mutable_of_plan {p : Packet} {β : Type} {operation : String}
    {next : Unit → Except Failure β} {b : β}
    (planned : (p.assertMutable operation >>= next) = .ok b) : p.Mutable := by
  obtain ⟨u, asserted, -⟩ := (bind_eq_ok _ _ b).mp planned
  exact (Packet.assertMutable_eq_ok p operation u).mp asserted

section Terminal

variable {p : Packet} (ended : ¬ p.Mutable)
include ended

theorem refused_plan {s : σ} (plan : Except Failure β) (commit : β → Reply σ α)
    (facts : ∀ b, plan = .ok b → p.Mutable) : Refused s (transact plan commit s) :=
  refused_transact plan commit s fun b planned => ended (facts b planned)

theorem writer_refused (S : Schemas) (s : Step)
    (other : ∀ cause residue, s.call ≠ .freeze cause residue) :
    Refused p (Packet.step S p s) := by
  obtain ⟨call, clock⟩ := s
  cases call with
  | beginTick operator inputRefs =>
    refine refused_map _ (refused_plan ended _ _ fun draft planned => ?_)
    exact ((Packet.tickPlan_eq_ok p operator inputRefs draft).mp planned).1
  | commitTransition decision =>
    refine refused_map _ (refused_plan ended _ _ fun plan planned => ?_)
    exact (Packet.routePlan_facts p decision plan.1 plan.2 planned).1
  | appendChaos | measureTension =>
    refine refused_map _ (refused_plan ended _ _ fun stored copied => ?_)
    exact (Packet.actorCopy_eq_ok p _ _ stored copied).1
  | crystallize record =>
    refine refused_map _ (refused_plan ended _ _ fun plan planned => ?_)
    exact (Packet.crystalPlan_facts p record plan planned).1
  | appendTrace event =>
    refine refused_map _ (refused_plan ended _ _ fun draft planned => ?_)
    obtain ⟨acting, -⟩ := Packet.tracePlan_facts p event draft planned
    exact (Packet.actorPlan_eq_ok p event draft acting).1
  | appendRepositoryEvent event =>
    refine refused_map _ (refused_plan ended _ _ fun draft planned => ?_)
    obtain ⟨acting, -⟩ := Packet.repositoryPlan_facts p event draft planned
    exact (Packet.actorPlan_eq_ok p event draft acting).1
  | appendQaEvent | appendUnitDissolution =>
    exact refused_map _ (refused_plan ended _ _ fun _ => mutable_of_plan)
  | beginTerminal input =>
    refine refused_map _ (refused_plan ended _ _ fun terminal planned => ?_)
    exact ((Packet.terminalPlan_eq_ok p input terminal).mp planned).1
  | freeze cause residue => exact absurd rfl (other cause residue)
  | manifestPacket payload residue =>
    refine refused_map _ (refused_plan ended _ _ fun plan planned => ?_)
    exact (Packet.manifestPlan_facts p payload residue plan planned).1
  | die cause residue =>
    refine refused_map _ (refused_plan ended _ _ fun plan planned => ?_)
    exact (Packet.deathPlan_facts p cause residue plan planned).1

theorem mutation_refused (S : Schemas) (now : Int) (releases : List (Option Field.ReleasePlan))
    (mutation : Mutation) :
    ¬ (mutation.run S now ⟨p, releases⟩).Succeeds
      ∧ (mutation.run S now ⟨p, releases⟩).2.packet = p := by
  have kept {reply : Reply Field.Living Unit} (refused : Refused ⟨p, releases⟩ reply) :
      ¬ reply.Succeeds ∧ reply.2.packet = p := by
    obtain ⟨failed, same⟩ := refused
    exact ⟨failed, by rw [same]⟩
  cases mutation with
  | budgetInit | budgetCharge | lossInit | lossApply | addUnit | setActivation
  | snapshotRawRelations | activateRelations | weakenRelation | releaseRawRelation
  | recordIdentityMap =>
    exact kept (refused_onPacket (refused_plan ended _ _ fun _ => mutable_of_plan))
  | prepareInheritedFormRelease actor input =>
    exact kept (refused_map _ (refused_plan ended _ _ fun _ => mutable_of_plan))
  | commitInheritedFormRelease actor place eventId =>
    -- a plan may be taken off the table, but the Packet is not written
    rw [Mutation.run, Field.commitInheritedFormRelease]
    cases Field.takePlan ⟨p, releases⟩ actor place with
    | error failure => exact kept (refused_map _ ⟨by simp [transact_error], rfl⟩)
    | ok plan =>
      have refused := refused_plan (σ := Field.Living) (α := Field.ReleaseCommit)
        (s := { packet := p, releases := releases.set place none }) ended
        (Field.releaseCommit S p plan eventId)
        (fun commit => (.ok commit,
          { packet := Field.withUnit (Field.putUnit p commit.target) commit.residue
            releases := releases.set place none }))
        (fun commit planned => by
          unfold Field.releaseCommit at planned
          simp only [bind_eq_ok, Packet.assertActorTick_eq_ok] at planned
          obtain ⟨lease, ⟨mutable, -⟩, -⟩ := planned
          exact mutable)
      obtain ⟨failed, same⟩ := refused_map (fun _ => ()) refused
      exact ⟨failed, congrArg Field.Living.packet same⟩

end Terminal

/-! ## Freezing -/

def freezes : Call → Bool
  | .freeze _ _ | .manifestPacket _ _ | .die _ _ => true
  | _ => false

def freezings (S : Schemas) : Packet → List Step → Nat
  | _, [] => 0
  | p, s :: rest =>
    (if freezes s.call = true ∧ (Packet.step S p s).Succeeds then 1 else 0)
      + freezings S ((Packet.machine S).after p s) rest

theorem freeze_dead (p : Packet) (now : Int) (cause residue : Value)
    (succeeds : (p.freeze now cause residue).Succeeds) :
    (p.freeze now cause residue).2.status = .dead := by
  exact transact_succeeded (motive := fun q => q.status = .dead) succeeds fun terminal _ => rfl

theorem closeWith_dead (event : Event) (now : Int) (cause : DeathCause) (residue : Value)
    (ended : Reply Packet Event)
    (succeeds : (Packet.closeWith event now cause residue ended).Succeeds) :
    (Packet.closeWith event now cause residue ended).2.status = .dead := by
  refine andThen_succeeded (motive := fun q => q.status = .dead) succeeds
    fun terminalEvent _ froze => ?_
  exact andThen_succeeded (motive := fun q => q.status = .dead) froze
    fun corpse frozen _ => freeze_dead _ now _ residue ⟨corpse, frozen⟩

theorem succeeds_of_map (f : α → β) (reply : Reply σ α)
    (succeeds : (reply.map f).Succeeds) : reply.Succeeds := by
  obtain ⟨b, same⟩ := succeeds
  cases result : reply.1 with
  | error failure =>
    rw [Reply.map, result] at same
    cases same
  | ok a => exact ⟨a, result⟩

section

variable (S : Schemas)

section

variable (p : Packet)

theorem froze_dead (s : Step) (froze : freezes s.call = true)
    (succeeds : (Packet.step S p s).Succeeds) :
    ((Packet.machine S).after p s).status = .dead := by
  obtain ⟨call, clock⟩ := s
  cases call with
  | freeze cause residue =>
    exact freeze_dead p (clock 0) cause residue (succeeds_of_map _ _ succeeds)
  | manifestPacket cause residue | die cause residue =>
    refine transact_succeeded (motive := fun q => q.status = .dead) (succeeds_of_map _ _ succeeds)
      fun plan written => ?_
    exact andThen_succeeded (motive := fun q => q.status = .dead) written
      fun event _ => closeWith_dead event _ _ _ _
  | _ => cases froze

theorem freeze_refused_when_dead (dead : p.status = .dead) (now : Int)
    (cause residue : Value) : Refused p (p.freeze now cause residue) := by
  refine refused_transact _ _ p fun terminal planned => ?_
  obtain ⟨dying, -⟩ := (Packet.freezePlan_eq_ok p cause terminal).mp planned
  rw [dead] at dying
  cases dying

theorem dead_step_refused (dead : p.status = .dead) (s : Step) :
    Refused p (Packet.step S p s) := by
  have immutable : ¬ p.Mutable := fun mutable => mutable.notDead dead
  by_cases other : ∀ cause residue, s.call ≠ .freeze cause residue
  · exact writer_refused immutable S s other
  · obtain ⟨call, clock⟩ := s
    cases call with
    | freeze cause residue =>
      exact refused_map _ (freeze_refused_when_dead p dead (clock 0) cause residue)
    | _ => exact absurd (fun _ _ => by simp) other

theorem dead_freezings (dead : p.status = .dead)
    (steps : List Step) : freezings S p steps = 0 := by
  induction steps with
  | nil => rfl
  | cons s rest ih =>
    obtain ⟨failed, kept⟩ := dead_step_refused S p dead s
    have same : (Packet.machine S).after p s = p := kept
    rw [freezings, if_neg (fun both => failed both.2), same, ih]

theorem freezings_le_one (steps : List Step) :
    freezings S p steps ≤ 1 := by
  induction steps generalizing p with
  | nil => exact Nat.zero_le 1
  | cons s rest ih =>
    rw [freezings]
    by_cases froze : freezes s.call = true ∧ (Packet.step S p s).Succeeds
    · have still := dead_freezings S _ (froze_dead S p s froze.1 froze.2) rest
      rw [if_pos froze]
      omega
    · rw [if_neg froze, Nat.zero_add]
      exact ih _

/-! ## Finality over whole lives -/

structure Final (S : Schemas) (p : Packet) : Prop where
  writers : p.terminal ≠ none → ∀ s : Step, (∀ cause residue, s.call ≠ .freeze cause residue) →
    Refused p (Packet.step S p s)
  mutators : p.terminal ≠ none → ∀ now releases (mutation : Mutation),
    ¬ (mutation.run S now ⟨p, releases⟩).Succeeds
      ∧ (mutation.run S now ⟨p, releases⟩).2.packet = p
  fieldKept : (Field.init p).2 = p
  freezeCause : ∀ now cause residue, (p.freeze now cause residue).Succeeds →
    ∃ terminal, p.terminal = some terminal ∧ cause = .text terminal.cause.name
  dead : p.status = .dead → ∃ death event, p.death = some death
    ∧ Packet.terminalEvents p.trace = [event]
    ∧ event.payload.get "cause" = .text death.cause.name

theorem final_of_stage (stage : p.Stage) : Final S p := by
  have immutable (ended : p.terminal ≠ none) : ¬ p.Mutable := fun mutable =>
    ended mutable.unended
  refine ⟨?_, ?_, rfl, ?_, ?_⟩
  · intro ended s other
    exact writer_refused (immutable ended) S s other
  · intro ended now releases mutation
    exact mutation_refused (immutable ended) S now releases mutation
  · intro now cause residue succeeds
    unfold Packet.freeze at succeeds
    rcases transact_cases (p.freezePlan cause) _ p with
      ⟨failure, -, result⟩ | ⟨terminal, planned, -⟩
    · rw [result] at succeeds
      exact absurd succeeds (by simp)
    · obtain ⟨-, recorded, same⟩ := (Packet.freezePlan_eq_ok p cause terminal).mp planned
      exact ⟨terminal, recorded, same⟩
  · intro dead
    cases stage with
    | living terminal death status events =>
      rcases status with born | running
      · rw [born] at dead
        cases dead
      · rw [running] at dead
        cases dead
    | dying terminal event recorded death status events cause =>
      rw [status] at dead
      cases dead
    | dead terminal death event recorded died status events cause same =>
      exact ⟨death, event, died, events, by rw [same]; exact cause⟩

end

end

/-- In every life the terminal is final in each state reached, and the life is
frozen at most once. -/
theorem life_final (S : Schemas) (counter : Nat) (now : Int) (prompt options : Value)
    (p : Packet) (born : Packet.new S counter now prompt options = .ok p)
    (steps : List Step) :
    Final S ((Packet.machine S).run p steps) ∧ freezings S p steps ≤ 1 := by
  have stage := Packet.life_stage S counter now prompt options p born steps
  exact ⟨final_of_stage S _ stage, freezings_le_one S p steps⟩

theorem life_final_cancelled :
    ∃ p, Packet.new Packet.refusingSchemas 1 0 (.text "task") .nil = .ok p
      ∧ Final Packet.refusingSchemas (Packet.lived p [.die (.text "cancelled") .nil]) := by
  obtain ⟨p, born, -⟩ := Packet.task_born_passing (fun _ => true) (by decide)
  exact ⟨p, born,
    (life_final Packet.refusingSchemas 1 0 (.text "task") .nil p born _).1⟩

end Proc17.Runtime
