import Proc17.Lua.Call

/-!
# Detaching

A value that crosses a trust boundary is copied without identities: tables become plain,
references and the tables of the boundary itself are refused, keys are numbers and the
strings the boundary allows.
-/

namespace Proc17.Lua

inductive Within (x : Value) : Value → Prop where
  | self : Within x x
  | key {tag : Tag} {entries : List (Value × Value)} {entry : Value × Value}
      (member : entry ∈ entries) (inside : Within x entry.1) : Within x (.table tag entries)
  | child {tag : Tag} {entries : List (Value × Value)} {entry : Value × Value}
      (member : entry ∈ entries) (inside : Within x entry.2) : Within x (.table tag entries)

theorem Within.trans {x y z : Value} (first : Within x y) (second : Within y z) : Within x z := by
  induction second with
  | self => exact first
  | key member _ ih => exact .key member ih
  | child member _ ih => exact .child member ih

/-- Who returned the value, the keys it may not use and the tables it may not hold. -/
structure Gate where
  owner : String
  keys : List String
  forbidden : List Value

namespace Gate

def owns (gate : Gate) (tag : Tag) : Bool :=
  tag.addr ≠ 0 && gate.forbidden.any fun own => (Value.table tag []).eq own

def authority (gate : Gate) : Failure := refuse (gate.owner ++ " returned private authority")

def key (gate : Gate) (key : Value) : Except Failure Unit :=
  match key with
  | .str s =>
    require ((gate.keys.any fun name => s = utf8 name) = false)
      (.refused (.str (utf8 (gate.owner ++ " returned forbidden field: ") ++ s)))
  | .num _ => .ok ()
  | _ => .error (refuse (gate.owner ++ " returned invalid key"))

mutual
/-- The copy of a value; `seen` holds the tables on the way to it.  A table built by the
modelled code is on the way to no other occurrence of itself. -/
def detach (gate : Gate) (seen : List Nat) : Value → Except Failure Value
  | .table tag entries =>
    if gate.owns tag || tag.metatable then .error gate.authority
    else if tag.addr ≠ 0 ∧ tag.addr ∈ seen then
      .error (refuse (gate.owner ++ " returned cyclic data"))
    else (detachEntries gate (tag.addr :: seen) entries).map (.table Tag.plain)
  | .ref _ _ => .error gate.authority
  | v => .ok v

def detachEntries (gate : Gate) (seen : List Nat) :
    List (Value × Value) → Except Failure (List (Value × Value))
  | [] => .ok []
  | entry :: rest => do
      let detached ← detachEntry gate seen entry
      let others ← detachEntries gate seen rest
      pure (detached :: others)

def detachEntry (gate : Gate) (seen : List Nat) :
    Value × Value → Except Failure (Value × Value)
  | (key, child) => do
      gate.key key
      let detached ← detach gate seen child
      pure (key, detached)
end

variable {gate : Gate}

/-! ## What comes out -/

/-- No reference, no metatable and no key but numbers and the strings that are allowed. -/
def Public (gate : Gate) : Value → Prop
  | .ref _ _ => False
  | .table tag entries => tag.metatable = false ∧ ∀ entry ∈ entries, gate.key entry.1 = .ok ()
  | _ => True

def Detached (gate : Gate) (v : Value) : Prop := ∀ x, Within x v → gate.Public x

theorem detached_str (s : Bytes) : gate.Detached (.str s) := by
  intro x inside
  cases inside
  trivial

theorem detached_num (n : Number) : gate.Detached (.num n) := by
  intro x inside
  cases inside
  trivial

theorem detached_bool (b : Bool) : gate.Detached (.bool b) := by
  intro x inside
  cases inside
  trivial

theorem detached_nil : gate.Detached .nil := by
  intro x inside
  cases inside
  trivial

theorem detached_key {key : Value} (allowed : gate.key key = .ok ()) : gate.Detached key := by
  cases key with
  | str s => exact detached_str s
  | num n => exact detached_num n
  | _ => cases allowed

theorem detached_table {entries : List (Value × Value)}
    (all : ∀ entry ∈ entries, gate.key entry.1 = .ok () ∧ gate.Detached entry.2) :
    gate.Detached (.table Tag.plain entries) := by
  intro x inside
  cases inside with
  | self => exact ⟨rfl, fun entry member => (all entry member).1⟩
  | key member inner => exact detached_key (all _ member).1 x inner
  | child member inner => exact (all _ member).2 x inner

mutual
theorem detach_detached : ∀ (v : Value) (seen : List Nat) (out : Value),
    gate.detach seen v = .ok out → gate.Detached out
  | .table tag entries, seen, out, copied => by
    simp only [detach] at copied
    split at copied
    · cases copied
    · split at copied
      · cases copied
      · cases inner : detachEntries gate (tag.addr :: seen) entries with
        | error failure =>
          rw [inner] at copied
          cases copied
        | ok others =>
          rw [inner] at copied
          cases copied
          exact detached_table (detachEntries_detached entries _ others inner)
  | .ref _ _, _, _, copied => by cases copied
  | .nil, _, _, copied => by
    cases copied
    exact detached_nil
  | .bool b, _, _, copied => by
    cases copied
    exact detached_bool b
  | .num n, _, _, copied => by
    cases copied
    exact detached_num n
  | .str s, _, _, copied => by
    cases copied
    exact detached_str s

theorem detachEntries_detached : ∀ (entries : List (Value × Value)) (seen : List Nat)
    (out : List (Value × Value)), gate.detachEntries seen entries = .ok out →
      ∀ entry ∈ out, gate.key entry.1 = .ok () ∧ gate.Detached entry.2
  | [], _, _, copied => by
    cases copied
    intro entry member
    cases member
  | entry :: rest, seen, out, copied => by
    simp only [detachEntries, bind_eq_ok, pure_eq_ok] at copied
    obtain ⟨first, one, others, more, rfl⟩ := copied
    intro other member
    rcases List.mem_cons.mp member with rfl | later
    · exact detachEntry_detached entry seen other one
    · exact detachEntries_detached rest seen others more other later

theorem detachEntry_detached : ∀ (entry : Value × Value) (seen : List Nat)
    (out : Value × Value), gate.detachEntry seen entry = .ok out →
      gate.key out.1 = .ok () ∧ gate.Detached out.2
  | (key, child), seen, out, copied => by
    simp only [detachEntry, bind_eq_ok, pure_eq_ok] at copied
    obtain ⟨_, allowed, inner, done, rfl⟩ := copied
    exact ⟨allowed, detach_detached child seen inner done⟩
end

theorem lookup_detachEntries (name : Value) : ∀ (entries out : List (Value × Value))
    (seen : List Nat), gate.detachEntries seen entries = .ok out →
      gate.detach seen (Value.lookup entries name) = .ok (Value.lookup out name)
  | [], out, seen, copied => by
    cases copied
    rfl
  | (k, child) :: rest, out, seen, copied => by
    simp only [detachEntries, detachEntry, bind_eq_ok, pure_eq_ok] at copied
    obtain ⟨head, ⟨_, _, inner, done, rfl⟩, others, later, rfl⟩ := copied
    by_cases here : Value.eq k name = true
    · simpa [Value.lookup, here] using done
    · simpa [Value.lookup, here] using lookup_detachEntries name rest others seen later

variable {out v : Value} {seen : List Nat} {α : Type}

theorem detach_table {tag : Tag} {entries : List (Value × Value)}
    (copied : gate.detach seen (.table tag entries) = .ok out) :
    ∃ others, gate.detachEntries (tag.addr :: seen) entries = .ok others
      ∧ out = .table Tag.plain others := by
  simp only [detach] at copied
  split at copied
  · cases copied
  · split at copied
    · cases copied
    · cases inner : gate.detachEntries (tag.addr :: seen) entries with
      | error failure => simp [inner, Except.map] at copied
      | ok others =>
        simp only [inner, Except.map, Except.ok.injEq] at copied
        exact ⟨others, rfl, copied.symm⟩

section

variable (copied : gate.detach seen v = .ok out)
include copied

theorem detach_get (name : String) :
    ∃ deeper, gate.detach deeper (v.get name) = .ok (out.get name) := by
  cases v with
  | table tag entries =>
    obtain ⟨others, inner, rfl⟩ := detach_table copied
    exact ⟨_, lookup_detachEntries _ entries others _ inner⟩
  | ref kind addr => cases copied
  | _ =>
    cases copied
    exact ⟨seen, rfl⟩

theorem detach_get_str {name : String} {s : Bytes}
    (field : v.get name = .str s) : out.get name = .str s := by
  obtain ⟨deeper, same⟩ := detach_get copied name
  rw [field] at same
  exact (Except.ok.inj same).symm

theorem detach_truthy (table : v.isTable = true) :
    out.truthy = true := by
  cases v with
  | table tag entries =>
    obtain ⟨others, -, rfl⟩ := detach_table copied
    rfl
  | _ => cases table

end

/-! ## Refusals -/

def Guarded (gate : Gate) {α : Type} (x : Except Failure α) : Prop :=
  ∀ v, x = .error (.refused v) → gate.Detached v

theorem guarded_ok (a : α) : gate.Guarded (.ok a : Except Failure α) := by
  intro v refused
  cases refused

theorem guarded_refuse (message : String) :
    gate.Guarded (.error (refuse message) : Except Failure α) := by
  intro v refused
  cases refused
  exact detached_str _

theorem guarded_require (condition : Prop) [Decidable condition] (message : String) :
    gate.Guarded (require condition (refuse message)) := by
  unfold require
  split
  · exact guarded_ok ()
  · exact guarded_refuse message

theorem Guarded.bind {α β : Type} {first : Except Failure α} {next : α → Except Failure β}
    (guarded : gate.Guarded first) (later : ∀ a, gate.Guarded (next a)) :
    gate.Guarded (first >>= next) := by
  cases first with
  | error failure =>
    intro v refused
    refine guarded v ?_
    cases refused
    rfl
  | ok a => exact later a

theorem key_guarded (key : Value) : gate.Guarded (gate.key key) := by
  cases key with
  | str s =>
    simp only [Gate.key, require]
    split
    · exact guarded_ok ()
    · intro v refused
      cases refused
      exact detached_str _
  | num n => exact guarded_ok ()
  | _ => exact guarded_refuse _

mutual
theorem detach_guarded : ∀ (v : Value) (seen : List Nat), gate.Guarded (gate.detach seen v)
  | .table tag entries, seen => by
    simp only [detach]
    split
    · exact guarded_refuse _
    · split
      · exact guarded_refuse _
      · have inner := detachEntries_guarded entries (tag.addr :: seen)
        cases copied : detachEntries gate (tag.addr :: seen) entries with
        | error failure =>
          rw [copied] at inner
          intro v refused
          cases refused
          exact inner v rfl
        | ok others => exact guarded_ok _
  | .ref _ _, _ => guarded_refuse _
  | .nil, _ => guarded_ok _
  | .bool _, _ => guarded_ok _
  | .num _, _ => guarded_ok _
  | .str _, _ => guarded_ok _

theorem detachEntries_guarded : ∀ (entries : List (Value × Value)) (seen : List Nat),
    gate.Guarded (gate.detachEntries seen entries)
  | [], _ => guarded_ok _
  | entry :: rest, seen => by
    simp only [detachEntries]
    refine (detachEntry_guarded entry seen).bind fun _ => ?_
    exact (detachEntries_guarded rest seen).bind fun _ => guarded_ok _

theorem detachEntry_guarded : ∀ (entry : Value × Value) (seen : List Nat),
    gate.Guarded (gate.detachEntry seen entry)
  | (key, child), seen => by
    simp only [detachEntry]
    refine (key_guarded key).bind fun _ => ?_
    exact (detach_guarded child seen).bind fun _ => guarded_ok _
end

def Refusing {α : Type} (x : Except Failure α) : Prop :=
  ∀ failure, x = .error failure → ∃ err, failure = .refused err

theorem refusing_refuse (message : String) :
    Refusing (.error (refuse message) : Except Failure α) := by
  intro failure failed
  cases failed
  exact ⟨_, rfl⟩

theorem refusing_ok (a : α) : Refusing (.ok a : Except Failure α) := by
  intro failure failed
  cases failed

theorem Refusing.bind {α β : Type} {first : Except Failure α} {next : α → Except Failure β}
    (refusing : Refusing first) (later : ∀ a, Refusing (next a)) : Refusing (first >>= next) := by
  cases first with
  | error failure =>
    intro same failed
    cases failed
    exact refusing failure rfl
  | ok a => exact later a

theorem key_refusing (gate : Gate) (key : Value) : Refusing (gate.key key) := by
  cases key with
  | str s =>
    simp only [Gate.key, require]
    split
    · exact refusing_ok ()
    · intro failure failed
      cases failed
      exact ⟨_, rfl⟩
  | num n => exact refusing_ok ()
  | _ => exact refusing_refuse _

mutual
theorem detach_refusing (gate : Gate) : ∀ (v : Value) (seen : List Nat),
    Refusing (gate.detach seen v)
  | .table tag entries, seen => by
    simp only [detach]
    split
    · exact refusing_refuse _
    · split
      · exact refusing_refuse _
      · have inner := detachEntries_refusing gate entries (tag.addr :: seen)
        cases copied : detachEntries gate (tag.addr :: seen) entries with
        | error failure =>
          rw [copied] at inner
          intro same failed
          cases failed
          exact inner failure rfl
        | ok others => exact refusing_ok _
  | .ref _ _, _ => refusing_refuse _
  | .nil, _ => refusing_ok _
  | .bool _, _ => refusing_ok _
  | .num _, _ => refusing_ok _
  | .str _, _ => refusing_ok _

theorem detachEntries_refusing (gate : Gate) : ∀ (entries : List (Value × Value))
    (seen : List Nat), Refusing (gate.detachEntries seen entries)
  | [], _ => refusing_ok _
  | entry :: rest, seen => by
    rw [detachEntries]
    exact (detachEntry_refusing gate entry seen).bind fun _ =>
      (detachEntries_refusing gate rest seen).bind fun _ => refusing_ok _

theorem detachEntry_refusing (gate : Gate) : ∀ (entry : Value × Value) (seen : List Nat),
    Refusing (gate.detachEntry seen entry)
  | (key, child), seen => by
    rw [detachEntry]
    exact (key_refusing gate key).bind fun _ =>
      (detach_refusing gate child seen).bind fun _ => refusing_ok _
end

end Gate

end Proc17.Lua
