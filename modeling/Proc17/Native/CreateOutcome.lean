import Proc17.Native.CreateRun
import Proc17.Native.Vocabulary

/-!
# The outcome of a creation

The record of a transaction describes the directory: what it published, what it left behind,
and what it never touched, on every path through its failures.
-/

namespace Proc17.Native

open Lua Runtime.Repository Proc17.Directory List

/-! ## The private file -/

structure Working (start : Entries) (name held : Bytes) (history : Changes) : Prop where
  holds : Holds (replay start history) name held
  only : ∀ effect, .own effect ∈ history → effect.Within name

variable {effect : Effect Bytes UInt8} {p : Progress} {content final path : Bytes} {mode : Nat}
  {s : Surroundings} {calls : CreateCalls} {run : CreateRun}

variable {history : Changes}

theorem own_of_mem_append {last : Effect Bytes UInt8}
    (member : Change.own effect ∈ history ++ [.own last]) :
    .own effect ∈ history ∨ effect = last := by
  rcases mem_append.mp member with old | new
  · exact .inl old
  · cases mem_singleton.mp new
    exact .inr rfl

variable {name : Bytes}

theorem own_of_mem_arrivals {contents : List Bytes}
    (member : .own effect ∈ history ++ arrivals name contents) :
    .own effect ∈ history := by
  rcases mem_append.mp member with old | new
  · exact old
  · exact absurd new (own_not_mem_arrivals name contents effect)

namespace Working

variable {start : Entries} {held : Bytes}

theorem arrivals (working : Working start name held history) (final : Bytes)
    (contents : List Bytes) :
    Working start name held (history ++ Directory.arrivals final contents) := by
  refine ⟨?_, fun effect member => working.only effect (own_of_mem_arrivals member)⟩
  rw [replay_append]
  exact working.holds.arrivals final contents

theorem append (working : Working start name held history) (bytes : Bytes) :
    Working start name (held ++ bytes) (history ++ [.own (.append name bytes)]) := by
  refine ⟨?_, ?_⟩
  · rw [replay_own]
    exact working.holds.append bytes
  · intro effect member
    rcases own_of_mem_append member with old | rfl
    · exact working.only effect old
    · rfl

end Working

variable {start : Entries}

theorem writeAllOn_working (others : Nat → List Bytes)
    (final : Bytes) (answers : List (Sys Nat)) : ∀ {content held : Bytes} {retries moment : Nat}
      {history : Changes} {p : Progress}, Working start name held history →
      writeAllOn others final name answers content retries moment history = some p →
      ∃ written, Working start name written p.history
        ∧ (p.outcome = .ok () → written = held ++ content) := by
  induction answers with
  | nil =>
    intro content held retries moment history p working ran
    rw [writeAllOn] at ran
    split at ran
    · rename_i done
      cases ran
      exact ⟨held, working, fun _ => by rw [done, append_nil]⟩
    · cases ran
  | cons answer later ih =>
    intro content held retries moment history p working ran
    rw [writeAllOn] at ran
    split at ran
    · rename_i done
      cases ran
      exact ⟨held, working, fun _ => by rw [done, append_nil]⟩
    · have waited := working.arrivals final (others moment)
      cases answer with
      | error errno =>
        simp only at ran
        split at ran
        · split at ran
          · cases ran
            exact ⟨held, waited, fun failed => by cases failed⟩
          · exact ih waited ran
        · cases ran
          exact ⟨held, waited, fun failed => by cases failed⟩
      | ok written =>
        have wrote := waited.append (content.take written)
        simp only at ran
        split at ran
        · cases ran
          exact ⟨_, wrote, fun failed => by cases failed⟩
        · obtain ⟨whole, kept, complete⟩ := ih wrote ran
          refine ⟨whole, kept, fun done => ?_⟩
          rw [complete done, append_assoc, take_append_drop]

structure Published (start : Entries) (name final held : Bytes) (history : Changes) : Prop where
  split : ∃ before, history = before ++ [.own (.rename name final)]
    ∧ Working start name held before ∧ replay start before final = none

theorem renameNoReplace_cases (d : Entries) (old new : Bytes) (answer : Sys Unit) :
    (∃ errno, renameNoReplace d old new answer = (.error errno, []))
      ∨ (d new = none ∧ renameNoReplace d old new answer = (.ok (), [.own (.rename old new)])) := by
  unfold renameNoReplace
  cases answer with
  | error errno => exact .inl ⟨errno, rfl⟩
  | ok _ =>
    cases d old with
    | none => exact .inl ⟨_, rfl⟩
    | some file =>
      cases taken : d new with
      | none => exact .inr ⟨rfl, rfl⟩
      | some other => exact .inl ⟨_, rfl⟩

def Prepared (start : Entries) (name final content : Bytes) (p : Progress) : Prop :=
  (∃ halted held, p.outcome = .error halted ∧ Working start name held p.history)
    ∨ (p.outcome = .ok () ∧ Published start name final content p.history)

variable {held : Bytes}

theorem publishOn_prepared (final : Bytes) (s : Surroundings)
    (working : Working start name held p.history) :
    Prepared start name final held (publishOn start final name s p) := by
  unfold publishOn
  split
  · rename_i halted _
    exact .inl ⟨halted, held, rfl, working⟩
  · have waited := working.arrivals final (s.others p.moment)
    dsimp only
    rcases renameNoReplace_cases (replay start (p.history ++ arrivals final (s.others p.moment)))
        name final s.calls.rename with ⟨errno, failed⟩ | ⟨free, renamed⟩
    · rw [failed, append_nil]
      exact .inl ⟨_, held, rfl, waited⟩
    · rw [renamed]
      exact .inr ⟨rfl, _, rfl, waited, free⟩

theorem prepareTempOn_prepared {moment : Nat}
    (working : Working start name [] history)
    (ran : prepareTempOn start final name content mode s moment history = some p) :
    Prepared start name final content p := by
  unfold prepareTempOn at ran
  split at ran
  · rename_i halted _
    cases ran
    exact .inl ⟨halted, [], rfl, working⟩
  · obtain ⟨q, wrote, rfl⟩ := Option.map_eq_some_iff.mp ran
    obtain ⟨held, kept, complete⟩ := writeAllOn_working s.others final s.calls.writes working wrote
    cases outcome : q.outcome with
    | error halted => exact .inl ⟨halted, held, outcome, kept⟩
    | ok _ =>
      have whole := complete outcome
      rw [nil_append] at whole
      rw [whole] at kept
      exact publishOn_prepared final s kept

/-! ## The record and the directory -/

def CreateRun.published (run : CreateRun) : Bool :=
  match run.result with
  | .ok _ => true
  | .error e => e.published

structure Created.Honest (start : Entries) (final content : Bytes) (history : Changes) : Prop where
  /-- The last change is the rename, to a name that was free. -/
  rename : ∃ temp before, history = before ++ [.own (.rename temp final)]
    ∧ replay start before final = none
  /-- The final name holds the content, and nothing else is left of the transaction. -/
  holds : Holds (replay start history) final content

structure FsError.Honest (start : Entries) (final : Bytes) (history : Changes) (e : FsError) :
    Prop where
  unchanged : e.published = false → ∀ effect, .own effect ∈ history → ¬ effect.Touches final
  removed : e.published = false → e.residue = none → Foreign (replay start history)
  residue : ∀ name, e.residue = some name → ∃ held, Holds (replay start history) name held
  untouched : e.mutationEntered = false → ∀ effect, .own effect ∉ history

structure CreateRun.Honest (start : Entries) (path content : Bytes) (run : CreateRun) : Prop where
  succeeded : ∀ created, run.result = .ok created →
    ∃ parent final, splitTargetPath path = some (parent, final)
      ∧ Created.Honest start final content run.history
  failed : ∀ e, run.result = .error e →
    ∀ parent final, splitTargetPath path = some (parent, final) →
      e.Honest start final run.history
  /-- It reports a publication exactly when its rename took effect. -/
  published : run.published = true ↔ ∃ old new, .own (.rename old new) ∈ run.history

theorem Working.not_renamed
    (working : Working start name held history) (old new : Bytes) :
    .own (.rename old new) ∉ history :=
  fun member => working.only _ member

theorem within_touches (within : effect.Within name) (touches : effect.Touches final) :
    name = final := by
  cases effect with
  | create | append | unlink => exact within.symm.trans touches
  | rename old new => exact within.elim

theorem final_ne_temp {parent : Bytes} (valid : validRepositoryPath path = true)
    (names : splitTargetPath path = some (parent, final))
    (temp : Provider.isTempName (.str name) = true) : name ≠ final := by
  rintro rfl
  simp only [validRepositoryPath, Bool.and_eq_true] at valid
  obtain ⟨count, taken⟩ := baseName_of_scanPath path [] 0 (by simp) valid.2
  have last : baseName path = name := by
    simp only [splitTargetPath] at names
    split_ifs at names <;> exact congrArg Prod.snd (Option.some.inj names)
  rw [nil_append, last] at taken
  simp only [Provider.isTempName, Bool.and_eq_true, decide_eq_true_eq] at temp
  -- a component starts with a letter or a digit, a private file with a dot
  cases name with
  | nil => cases taken
  | cons first rest =>
    have dot : first = 46 := by
      have start := congrArg List.head? temp.1.2
      exact Option.some.inj start
    simp only [nativeComponent, dot, Bool.and_eq_true] at taken
    exact absurd taken.1.1.2 (by decide)

theorem unlinkAt_cases (d : Entries) (name : Bytes) (answer : Sys Unit) :
    (∃ errno, unlinkAt d name answer = (.error errno, []))
      ∨ unlinkAt d name answer = (.ok (), [.own (.unlink name)]) := by
  unfold unlinkAt
  cases answer with
  | error errno => exact .inl ⟨errno, rfl⟩
  | ok _ =>
    cases d name with
    | none => exact .inl ⟨_, rfl⟩
    | some file => exact .inr rfl

theorem failPrivateOn_honest {parent : Bytes}
    (working : Working start name held p.history) (apart : name ≠ final)
    (names : splitTargetPath path = some (parent, final)) (halted : Halted) :
    (failPrivateOn start final name s p halted).Honest start path content := by
  have waited := working.arrivals final (s.others p.moment)
  unfold failPrivateOn
  dsimp only
  rcases unlinkAt_cases (replay start (p.history ++ arrivals final (s.others p.moment))) name
      s.calls.unlink with ⟨errno, failed⟩ | removed
  · rw [failed, append_nil]
    have left := waited.arrivals final (s.others (p.moment + 1))
    refine ⟨fun created same => (by cases same), ?_, ?_⟩
    · rintro e same parent' final' names'
      cases same
      rw [names] at names'
      cases names'
      refine ⟨fun _ effect member touches => ?_, fun _ none => (by cases none), ?_,
        fun entered => by cases entered⟩
      · exact apart (within_touches (left.only effect member) touches)
      · intro other same
        cases same
        exact ⟨held, left.holds⟩
    · refine ⟨fun published => (by cases published), ?_⟩
      rintro ⟨old, new, member⟩
      exact absurd member (left.not_renamed old new)
  · rw [removed]
    have gone : Foreign (replay start (p.history ++ arrivals final (s.others p.moment)
        ++ [.own (.unlink name)] ++ arrivals final (s.others (p.moment + 1)))) := by
      rw [replay_append, replay_own]
      exact (waited.holds.unlink).arrivals final _
    have only : ∀ effect, .own effect ∈ p.history ++ arrivals final (s.others p.moment)
        ++ [.own (.unlink name)] ++ arrivals final (s.others (p.moment + 1)) →
        effect.Within name := by
      intro effect member
      rcases own_of_mem_append (own_of_mem_arrivals member) with old | rfl
      · exact waited.only effect old
      · rfl
    refine ⟨fun created same => (by cases same), ?_, ?_⟩
    · rintro e same parent' final' names'
      cases same
      rw [names] at names'
      cases names'
      refine ⟨fun _ effect member touches => ?_, fun _ _ => gone,
        fun other none => (by cases none), fun entered => by cases entered⟩
      exact apart (within_touches (only effect member) touches)
    · refine ⟨fun published => (by cases published), ?_⟩
      rintro ⟨old, new, member⟩
      exact (only _ member).elim

theorem unopened_honest {e : FsError} (failed : run.result = .error e)
    (unpublished : e.published = false) (residueless : e.residue = none)
    (none : Foreign (replay start run.history)) (idle : ∀ effect, .own effect ∉ run.history) :
    run.Honest start path content := by
  refine ⟨fun created same => (by rw [failed] at same; cases same), ?_, ?_⟩
  · intro e' same parent final _
    rw [failed] at same
    cases same
    refine ⟨fun _ effect member => absurd member (idle effect), fun _ _ => none, ?_,
      fun _ => idle⟩
    intro name left
    rw [residueless] at left
    cases left
  · constructor
    · intro published
      rw [CreateRun.published, failed] at published
      dsimp only at published
      rw [unpublished] at published
      cases published
    · rintro ⟨old, new, member⟩
      exact absurd member (idle _)

theorem openExclusive_cases (d : Entries) (name : Bytes) (answer : Sys Unit) :
    (∃ errno, openExclusive d name answer = (.error errno, []))
      ∨ openExclusive d name answer = (.ok (), [.own (.create name)]) := by
  unfold openExclusive
  cases answer with
  | error errno => exact .inl ⟨errno, rfl⟩
  | ok _ =>
    cases d name with
    | none => exact .inr rfl
    | some file => exact .inl ⟨_, rfl⟩

theorem Published.honest {parent name : Bytes}
    (published : Published start name final content history)
    (names : splitTargetPath path = some (parent, final)) (same : run.history = history)
    (reported : run.published = true)
    (entered : ∀ e, run.result = .error e → e.mutationEntered = true)
    (residueless : ∀ e, run.result = .error e → e.residue = none) :
    run.Honest start path content := by
  obtain ⟨before, split, working, free⟩ := published.split
  rw [← same] at split
  refine ⟨?_, ?_, ?_⟩
  · intro created _
    refine ⟨parent, final, names, ⟨name, before, split, free⟩, ?_⟩
    rw [split, replay_own]
    exact working.holds.rename free
  · intro e failed parent' final' _
    have told : e.published = true := by
      rw [CreateRun.published, failed] at reported
      exact reported
    have noted := entered e failed
    refine ⟨?_, ?_, ?_, ?_⟩
    · intro unpublished
      rw [told] at unpublished
      cases unpublished
    · intro unpublished
      rw [told] at unpublished
      cases unpublished
    · intro other left
      rw [residueless e failed] at left
      cases left
    · intro unentered
      rw [noted] at unentered
      cases unentered
  · refine ⟨fun _ => ⟨name, final, ?_⟩, fun _ => reported⟩
    rw [split]
    exact mem_append_right _ mem_cons_self

/-- Every run's record describes the directory it leaves. -/
theorem create_outcome_honest (entries : Bytes → Option Bytes) (handle : FsHandle)
    (path content : Bytes) (mode : Nat) (s : Surroundings) (run : CreateRun)
    (valid : validRepositoryPath path = true)
    (ran : createFileOn (foreign entries) handle path content mode s = some run) :
    run.Honest (foreign entries) path content := by
  unfold createFileOn at ran
  cases names : splitTargetPath path with
  | none =>
    rw [names] at ran
    cases ran
    exact unopened_honest rfl rfl rfl (foreign_foreign entries) fun effect member => by
      cases member
  | some ends =>
    obtain ⟨parent, final⟩ := ends
    rw [names] at ran
    dsimp only at ran
    have early : Foreign (replay (foreign entries) (arrivals final (s.others 0))) :=
      (foreign_foreign entries).arrivals final _
    cases opened : beforeTemp handle s.calls with
    | error halted =>
      rw [opened] at ran
      cases ran
      exact unopened_honest rfl rfl rfl early (own_not_mem_arrivals final _)
    | ok root =>
      obtain ⟨root, name⟩ := root
      have apart := final_ne_temp valid names (beforeTemp_name opened)
      rw [opened] at ran
      dsimp only at ran
      rcases openExclusive_cases (replay (foreign entries) (arrivals final (s.others 0))) name
          s.calls.openTemp with ⟨errno, failed⟩ | created
      · rw [failed] at ran
        cases ran
        refine unopened_honest rfl rfl rfl ?_ fun effect member => ?_
        · dsimp only
          rw [append_nil, replay_append]
          exact early.arrivals final _
        · rw [append_nil] at member
          exact own_not_mem_arrivals final _ effect (own_of_mem_arrivals member)
      · rw [created] at ran
        obtain ⟨p, prepared, rfl⟩ := Option.map_eq_some_iff.mp ran
        have working : Working (foreign entries) name []
            (arrivals final (s.others 0) ++ [.own (.create name)]) := by
          refine ⟨?_, fun effect member => ?_⟩
          · rw [replay_own]
            exact early.create name
          · rcases own_of_mem_append member with old | rfl
            · exact absurd old (own_not_mem_arrivals final _ effect)
            · rfl
        rcases prepareTempOn_prepared working prepared with
          ⟨halted, held, outcome, kept⟩ | ⟨outcome, published⟩
        · simp only [outcome]
          exact failPrivateOn_honest kept apart names halted
        · simp only [outcome]
          cases settlePublished s.calls with
          | error halted =>
            refine published.honest names rfl rfl ?_ ?_
            · rintro e ⟨⟩
              rfl
            · rintro e ⟨⟩
              rfl
          | ok _ =>
            exact published.honest names rfl rfl (fun e same => by cases same)
              fun e same => by cases same

/-! ## Every transaction returns -/

theorem writeAllOn_returns (others : Nat → List Bytes) (final name : Bytes)
    (answers : List (Sys Nat)) : ∀ {content : Bytes} {retries moment : Nat} {history : Changes},
      content.length + (maxEintrRetries + 1 - retries) ≤ answers.length →
      ∃ p, writeAllOn others final name answers content retries moment history = some p := by
  induction answers with
  | nil =>
    intro content retries moment history enough
    have done : content = [] := eq_nil_of_length_eq_zero (by
      rw [length_nil] at enough
      omega)
    exact ⟨_, by rw [writeAllOn, if_pos done]⟩
  | cons answer later ih =>
    intro content retries moment history enough
    rw [length_cons] at enough
    rw [writeAllOn]
    by_cases done : content = []
    · exact ⟨_, if_pos done⟩
    rw [if_neg done]
    have positive := length_pos_of_ne_nil done
    cases answer with
    | error errno =>
      simp only
      by_cases interrupted : errno = Errno.eintr
      · rw [if_pos interrupted]
        by_cases tired : maxEintrRetries < retries + 1
        · exact ⟨_, if_pos tired⟩
        · rw [if_neg tired]
          exact ih (by omega)
      · exact ⟨_, if_neg interrupted⟩
    | ok written =>
      simp only
      by_cases wrong : written = 0 ∨ content.length < written
      · exact ⟨_, if_pos wrong⟩
      · rw [if_neg wrong]
        refine ih ?_
        rw [length_drop]
        omega

/-- A transaction returns once its writes have been answered often enough. -/
theorem createFileOn_returns (start : Entries) (handle : FsHandle) (path content : Bytes)
    (mode : Nat) (s : Surroundings)
    (enough : content.length + (maxEintrRetries + 1) ≤ s.calls.writes.length) :
    ∃ run, createFileOn start handle path content mode s = some run := by
  unfold createFileOn
  cases splitTargetPath path with
  | none => exact ⟨_, rfl⟩
  | some ends =>
    obtain ⟨parent, final⟩ := ends
    cases beforeTemp handle s.calls with
    | error halted => exact ⟨_, rfl⟩
    | ok root =>
      obtain ⟨root, name⟩ := root
      dsimp only
      cases openExclusive (replay start (arrivals final (s.others 0))) name
          s.calls.openTemp with
      | mk answer changes =>
        cases answer with
        | error errno => exact ⟨_, rfl⟩
        | ok _ =>
          unfold prepareTempOn
          cases checkTemp s.calls mode with
          | error halted => exact ⟨_, rfl⟩
          | ok _ =>
            have loop : ∃ p, writeAllOn s.others final name s.calls.writes content 0 1
                (arrivals final (s.others 0) ++ changes) = some p :=
              writeAllOn_returns s.others final name s.calls.writes enough
            obtain ⟨p, wrote⟩ := loop
            dsimp only
            rw [wrote]
            exact ⟨_, rfl⟩

/-! ## Two runs -/

def plainFile : Status where
  device := 1
  inode := 5
  kind := .regular
  permissions := 384
  uid := 1000
  gid := 1000
  links := 1
  size := 0
  modified := 0
  changed := 0

/-- Every call succeeds, `getrandom` gives zeros and `write` takes two bytes at most. -/
def plainCreation : CreateCalls where
  root := plainPair
  openParent := .ok ()
  parentStatus := .ok (plainDirectory 4)
  effectiveUid := 1000
  random := .ok (List.replicate 16 0)
  openTemp := .ok ()
  chmod := .ok ()
  tempStatus := .ok plainFile
  writes := [.ok 2, .error Errno.eintr, .ok 1]
  fsyncTemp := .ok ()
  closeTemp := .ok ()
  rename := .ok ()
  fsyncParent := .ok ()
  closeParent := .ok ()
  closeRepository := .ok ()
  closeBase := .ok ()
  unlink := .ok ()
  started := 0
  finished := 1

def racedCreation : Surroundings where
  calls := plainCreation
  others moment := if moment = 4 then [utf8 "racer"] else []

theorem create_outcome_honest_raced :
    ∃ run, createFileOn (foreign fun _ => none) plainHandle (utf8 "notes.txt") (utf8 "abc") fileMode
        racedCreation = some run
      ∧ replay (foreign fun _ => none) run.history (utf8 "notes.txt") = some ⟨utf8 "racer", false⟩
      ∧ run.Honest (foreign fun _ => none) (utf8 "notes.txt") (utf8 "abc") := by
  have ran : ∃ run, createFileOn (foreign fun _ => none) plainHandle (utf8 "notes.txt")
      (utf8 "abc") fileMode racedCreation = some run := ⟨_, rfl⟩
  obtain ⟨run, ran⟩ := ran
  refine ⟨run, ran, ?_, create_outcome_honest (fun _ => none) plainHandle (utf8 "notes.txt")
    (utf8 "abc") fileMode racedCreation run (by decide) ran⟩
  cases ran
  decide +kernel

/-- Every `write` is interrupted. -/
def interruptedCreation : Surroundings :=
  { racedCreation with calls := { plainCreation with writes := .replicate 68 (.error Errno.eintr) } }

theorem createFileOn_returns_interrupted :
    ∃ run, createFileOn (foreign fun _ => none) plainHandle (utf8 "notes.txt") (utf8 "abc") fileMode
      interruptedCreation = some run :=
  createFileOn_returns _ plainHandle _ _ fileMode interruptedCreation (by decide)

end Proc17.Native
