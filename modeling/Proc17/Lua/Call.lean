import Proc17.Lua.Value

/-!
# Lua calls on a mutable state

A checking phase runs in `Except Failure`; a call answers with its result and
the state it leaves behind, which a failure does not roll back.  A machine is a
state with calls on it, and a run is a finite sequence of calls.
-/

namespace Proc17.Lua

open List

def refuse (message : String) : Failure := .refused (.text message)

def raise (message : String) : Failure := .raised (.text message)

def require (condition : Prop) [Decidable condition] (failure : Failure) :
    Except Failure Unit :=
  if condition then .ok () else .error failure

@[simp] theorem require_eq_ok (condition : Prop) [Decidable condition] (failure : Failure)
    (u : Unit) : require condition failure = .ok u ↔ condition := by
  by_cases holds : condition <;> simp [require, holds]

@[simp] theorem bind_eq_ok {ε α β : Type} (first : Except ε α)
    (next : α → Except ε β) (b : β) :
    (first >>= next) = .ok b ↔ ∃ a, first = .ok a ∧ next a = .ok b := by
  cases first with
  | error failure =>
    constructor
    · intro same; cases same
    · rintro ⟨a, same, -⟩; cases same
  | ok a =>
    constructor
    · intro same; exact ⟨a, rfl, same⟩
    · rintro ⟨a', same, result⟩; cases same; exact result

@[simp] theorem pure_eq_ok {ε α : Type} (a b : α) :
    (pure a : Except ε α) = .ok b ↔ a = b := by
  simp [pure, Except.pure]

theorem ok_then {α β : Type} (a : α) (next : α → Except Failure β) :
    (Except.ok a >>= next) = next a := rfl

theorem require_then {α : Type} (condition : Prop) [Decidable condition] (failure : Failure)
    (next : Unit → Except Failure α) :
    (require condition failure >>= next) = if condition then next () else .error failure := by
  by_cases holds : condition
  · rw [require, if_pos holds, if_pos holds]
    rfl
  · rw [require, if_neg holds, if_neg holds]
    rfl

theorem forM_ok {α : Type} {f : α → Except Failure Unit} : ∀ items : List α,
    (∀ x ∈ items, f x = .ok ()) → items.forM f = .ok () := by
  intro items
  induction items with
  | nil => intro _; rfl
  | cons x rest ih =>
    intro each
    simp only [forM_eq_forM, forM_cons, bind_eq_ok]
    exact ⟨(), each x (by simp), ih (fun y member => each y (by simp [member]))⟩

theorem mem_of_forM_ok {α : Type} {f : α → Except Failure Unit} {items : List α}
    (done : items.forM f = .ok ()) : ∀ item ∈ items, f item = .ok () := by
  induction items with
  | nil => exact forall_mem_nil _
  | cons item rest ih =>
    simp only [forM_eq_forM, forM_cons, bind_eq_ok] at done
    obtain ⟨⟨⟩, here, after⟩ := done
    exact forall_mem_cons.mpr ⟨here, ih after⟩

/-! ## Where a computation can end -/

variable {condition : Prop}

section Errors

variable {ε δ α β : Type} {P : ε → Prop}

/-- Every error of the answer is one of `P`. -/
def OnError (P : ε → Prop) (answer : Except ε α) : Prop := ∀ e, answer = .error e → P e

theorem OnError.ok (a : α) : OnError P (.ok a) := by
  intro e same
  cases same

theorem OnError.error {e : ε} (holds : P e) : OnError P (.error e : Except ε α) := by
  intro e' same
  cases same
  exact holds

theorem OnError.bind {answer : Except ε α} {next : α → Except ε β} (first : OnError P answer)
    (rest : ∀ a, OnError P (next a)) : OnError P (answer >>= next) := by
  cases answer with
  | error e => exact OnError.error (first e rfl)
  | ok a => exact rest a

theorem OnError.throw {e : ε} {next : α → Except ε β} (holds : P e) :
    OnError P ((throw e : Except ε α) >>= next) := OnError.error holds

theorem OnError.ite [Decidable condition] {left right : Except ε α}
    (yes : OnError P left) (no : OnError P right) :
    OnError P (if condition then left else right) := by
  by_cases holds : condition
  · rw [if_pos holds]
    exact yes
  · rw [if_neg holds]
    exact no

theorem OnError.mapM {f : α → Except ε β} (each : ∀ x, OnError P (f x)) :
    ∀ items : List α, OnError P (items.mapM f) := by
  intro items
  induction items with
  | nil => exact OnError.ok _
  | cons x rest ih =>
    rw [mapM_cons]
    exact (each x).bind fun y => ih.bind fun ys => OnError.ok _

theorem OnError.require [Decidable condition] {P : Failure → Prop}
    {failure : Failure} (holds : P failure) : OnError P (require condition failure) :=
  OnError.ite (OnError.ok _) (OnError.error holds)

theorem OnError.mapError {answer : Except δ α} {f : δ → ε} (each : ∀ d, P (f d)) :
    OnError P (answer.mapError f) := by
  cases answer with
  | error d => exact OnError.error (each d)
  | ok a => exact OnError.ok a

end Errors

/-! ## What a computation can give -/

section Results

variable {ε α β : Type} {P : α → Prop}

/-- Every result of the answer is one of `P`. -/
def OnResult (P : α → Prop) (answer : Except ε α) : Prop := ∀ a, answer = .ok a → P a

theorem OnResult.pure {a : α} (holds : P a) : OnResult P (pure a : Except ε α) := by
  intro a' same
  cases same
  exact holds

theorem OnResult.bind {answer : Except ε β} {next : β → Except ε α}
    (rest : ∀ b, OnResult P (next b)) : OnResult P (answer >>= next) := by
  cases answer with
  | error e => intro a same; cases same
  | ok b => exact rest b

theorem OnResult.ite [Decidable condition] {left right : Except ε α}
    (yes : OnResult P left) (no : OnResult P right) :
    OnResult P (if condition then left else right) := by
  by_cases holds : condition
  · rw [if_pos holds]
    exact yes
  · rw [if_neg holds]
    exact no

end Results

abbrev Reply (σ α : Type) := Except Failure α × σ

namespace Reply

variable {σ α : Type}

def Succeeds (reply : Reply σ α) : Prop := ∃ a, reply.1 = .ok a

instance (reply : Reply σ α) : Decidable reply.Succeeds :=
  match h : reply.1 with
  | .ok a => .isTrue ⟨a, h⟩
  | .error _ => .isFalse (by rintro ⟨a, same⟩; rw [h] at same; cases same)

@[simp] theorem succeeds_ok (a : α) (s : σ) : Succeeds (.ok a, s) := ⟨a, rfl⟩

@[simp] theorem not_succeeds_error (failure : Failure) (s : σ) :
    ¬ Succeeds ((.error failure, s) : Reply σ α) := by
  rintro ⟨a, same⟩
  cases same

def andThen {β : Type} (reply : Reply σ α) (next : α → σ → Reply σ β) : Reply σ β :=
  match reply with
  | (.error failure, s) => (.error failure, s)
  | (.ok a, s) => next a s

theorem andThen_succeeds {β : Type} (reply : Reply σ α) (next : α → σ → Reply σ β) :
    (reply.andThen next).Succeeds ↔ ∃ a, reply.1 = .ok a ∧ (next a reply.2).Succeeds := by
  obtain ⟨result, s⟩ := reply
  cases result with
  | error | ok => simp [andThen]

def map {β : Type} (f : α → β) (reply : Reply σ α) : Reply σ β := (reply.1.map f, reply.2)

@[simp] theorem map_state {β : Type} (f : α → β) (reply : Reply σ α) :
    (map f reply).2 = reply.2 := rfl

end Reply

/-- A call that checks everything first: a failed check leaves the state. -/
def transact {σ α β : Type} (plan : Except Failure β) (commit : β → Reply σ α) (s : σ) :
    Reply σ α :=
  match plan with
  | .error failure => (.error failure, s)
  | .ok b => commit b

variable {σ α β : Type}

theorem transact_ok (b : β) (commit : β → Reply σ α) (s : σ) :
    transact (.ok b) commit s = commit b := rfl

theorem transact_error (failure : Failure) (commit : β → Reply σ α) (s : σ) :
    transact (.error failure) commit s = (.error failure, s) := rfl

theorem transact_cases (plan : Except Failure β) (commit : β → Reply σ α)
    (s : σ) :
    (∃ failure, plan = .error failure ∧ transact plan commit s = (.error failure, s)) ∨
      ∃ b, plan = .ok b ∧ transact plan commit s = commit b := by
  cases plan with
  | error failure => exact Or.inl ⟨failure, rfl, rfl⟩
  | ok b => exact Or.inr ⟨b, rfl, rfl⟩

theorem transact_state {motive : σ → Prop} {plan : Except Failure β}
    {commit : β → Reply σ α} {s : σ} (kept : motive s)
    (committed : ∀ b, plan = .ok b → motive (commit b).2) :
    motive (transact plan commit s).2 := by
  cases plan with
  | error failure => exact kept
  | ok b => exact committed b rfl

theorem transact_succeeded {motive : σ → Prop} {plan : Except Failure β} {commit : β → Reply σ α}
    {s : σ} (succeeds : (transact plan commit s).Succeeds)
    (committed : ∀ b, (commit b).Succeeds → motive (commit b).2) :
    motive (transact plan commit s).2 := by
  cases plan with
  | error failure => exact absurd succeeds (Reply.not_succeeds_error failure s)
  | ok b => exact committed b succeeds

theorem andThen_succeeded {motive : σ → Prop} {reply : Reply σ α} {next : α → σ → Reply σ β}
    (succeeds : (reply.andThen next).Succeeds)
    (went : ∀ a, reply.1 = .ok a → (next a reply.2).Succeeds → motive (next a reply.2).2) :
    motive (reply.andThen next).2 := by
  obtain ⟨result, s⟩ := reply
  cases result with
  | error failure => exact absurd succeeds (Reply.not_succeeds_error failure s)
  | ok a => exact went a rfl succeeds

/-! ## Runs -/

/-- A state with the calls that can be made on it. -/
structure Machine (σ ι ρ : Type) where
  step : σ → ι → Reply σ ρ

namespace Machine

variable {ι ρ : Type} (M : Machine σ ι ρ)

def after (s : σ) (i : ι) : σ := (M.step s i).2

def run (s : σ) (calls : List ι) : σ := calls.foldl M.after s

@[simp] theorem run_nil (s : σ) : M.run s [] = s := rfl

@[simp] theorem run_cons (s : σ) (i : ι) (calls : List ι) :
    M.run s (i :: calls) = M.run (M.after s i) calls := rfl

theorem run_append (s : σ) (left right : List ι) :
    M.run s (left ++ right) = M.run (M.run s left) right :=
  foldl_append ..

theorem run_invariant (inv : σ → Prop) (step : ∀ s i, inv s → inv (M.after s i)) :
    ∀ (calls : List ι) (s : σ), inv s → inv (M.run s calls) := by
  intro calls
  induction calls with
  | nil => intro s holds; exact holds
  | cons i rest ih => intro s holds; exact ih _ (step s i holds)

/-- Every call of a run meets a condition in the state it is made in. -/
def Along (P : σ → ι → Prop) : σ → List ι → Prop
  | _, [] => True
  | s, i :: rest => P s i ∧ Along P (M.after s i) rest

theorem along_append {P : σ → ι → Prop} : ∀ (left right : List ι) (s : σ),
    M.Along P s (left ++ right) ↔ M.Along P s left ∧ M.Along P (M.run s left) right := by
  intro left
  induction left with
  | nil => intro right s; exact ⟨fun along => ⟨trivial, along⟩, fun along => along.2⟩
  | cons i rest ih =>
    intro right s
    simp only [cons_append, Along, run_cons, ih right (M.after s i), and_assoc]

theorem along_invariant {P : σ → ι → Prop} (inv : σ → Prop)
    (step : ∀ s i, P s i → inv s → inv (M.after s i)) :
    ∀ (calls : List ι) (s : σ), M.Along P s calls → inv s → inv (M.run s calls) := by
  intro calls
  induction calls with
  | nil => intro s _ holds; exact holds
  | cons i rest ih => intro s along holds; exact ih _ along.2 (step s i along.1 holds)

end Machine

end Proc17.Lua
