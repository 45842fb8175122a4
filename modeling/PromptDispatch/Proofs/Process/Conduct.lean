import Mathlib.Logic.Relation
import PromptDispatch.Proofs.Process.Trace

/-!
# The conduct of processes

A conduct says what processes of a kind do to a shared state: what a change may
do, what the handler of a pause may do, and whether they end by cancellations
of their own.  A process that keeps to a conduct keeps to it in every turn,
whoever else is at work, as long as the others leave the states in which the
conduct applies.

Whatever a batch does, it advances or cancels one task after another.
-/

namespace PromptDispatch

/-- What processes of a kind do. -/
structure Conduct (σ : Type) where
  /-- the states in which it applies -/
  holds : σ → Prop
  /-- what a change may do -/
  acts : σ → σ → Prop
  /-- what the handler of a pause may do -/
  parts : σ → σ → Prop
  /-- whether a process may end by a cancellation of its own -/
  halts : Prop
  idle : ∀ s, acts s s
  keeps : ∀ {s s'}, holds s → acts s s' → holds s'

/-- A conduct still applies after any changes of its kind. -/
theorem Conduct.holds_of_reflTransGen {σ : Type} {conduct : Conduct σ} {s s' : σ}
    (holds : conduct.holds s) (acts : Relation.ReflTransGen conduct.acts s s') :
    conduct.holds s' := by
  induction acts with
  | refl => exact holds
  | tail _ last ih => exact conduct.keeps ih last

namespace Process

variable {σ α β : Type}

/-- A process keeps to a conduct. -/
def Heeds (conduct : Conduct σ) : Process σ α → Prop
  | .done _ => True
  | .halted => conduct.halts
  | .act change next => ∀ s, conduct.holds s → conduct.acts s (change s) ∧ Heeds conduct (next s)
  | .pause onCancel next => (∀ s, conduct.parts s (onCancel s)) ∧ Heeds conduct (next ())

variable {conduct : Conduct σ}

theorem Heeds.bind {p : Process σ α} {f : α → Process σ β} (first : p.Heeds conduct)
    (second : ∀ a, (f a).Heeds conduct) : (p.bind f).Heeds conduct := by
  induction p with
  | done a => exact second a
  | halted => exact first
  | act change next ih =>
      intro s holds
      rcases first s holds with ⟨acts, rest⟩
      exact ⟨acts, ih s rest⟩
  | pause onCancel next ih => exact ⟨first.1, ih () first.2⟩

theorem Heeds.map {p : Process σ α} (heeds : p.Heeds conduct) (f : α → β) :
    (p.map f).Heeds conduct :=
  heeds.bind fun _ => trivial

theorem heeds_change {f : σ → σ} {next : Process σ α}
    (acts : ∀ s, conduct.holds s → conduct.acts s (f s)) (rest : next.Heeds conduct) :
    (change f next).Heeds conduct :=
  fun s holds => ⟨acts s holds, rest⟩

theorem heeds_look {next : σ → Process σ α}
    (rest : ∀ s, conduct.holds s → (next s).Heeds conduct) : (look next).Heeds conduct :=
  fun s holds => ⟨conduct.idle s, rest s holds⟩

/-- A conduct that allows more and applies in fewer states is kept to as well. -/
theorem Heeds.mono {freer : Conduct σ} {p : Process σ α} (heeds : p.Heeds conduct)
    (holds : ∀ s, freer.holds s → conduct.holds s)
    (acts : ∀ s s', conduct.acts s s' → freer.acts s s')
    (parts : ∀ s s', conduct.parts s s' → freer.parts s s')
    (halts : conduct.halts → freer.halts) : p.Heeds freer := by
  induction p with
  | done a => trivial
  | halted => exact halts heeds
  | act change next ih =>
      intro s freerHolds
      rcases heeds s (holds s freerHolds) with ⟨changes, rest⟩
      exact ⟨acts _ _ changes, ih s rest⟩
  | pause onCancel next ih => exact ⟨fun s => parts _ _ (heeds.1 s), ih () heeds.2⟩

/-- The states that a process passes through before it gives up control or
ends. -/
inductive Passes : Process σ α → σ → σ → Prop where
  | here {p : Process σ α} {s : σ} : Passes p s s
  | act {change : σ → σ} {next : σ → Process σ α} {s s' : σ}
      (later : Passes (next s) (change s) s') : Passes (.act change next) s s'

theorem Heeds.passes {p : Process σ α} (heeds : p.Heeds conduct) {s s' : σ}
    (passes : p.Passes s s') (holds : conduct.holds s) :
    Relation.ReflTransGen conduct.acts s s' := by
  induction passes with
  | here => exact .refl
  | act _ ih =>
      rcases heeds _ holds with ⟨acts, rest⟩
      exact .head acts (ih rest (conduct.keeps holds acts))

/-- A conduct without cancellations leads to a result. -/
theorem Heeds.ensures {p : Process σ α} (heeds : p.Heeds conduct) (never : ¬ conduct.halts) :
    p.Ensures conduct.holds fun _ => True := by
  induction p with
  | done a => trivial
  | halted => exact never heeds
  | act change next ih =>
      intro s holds
      rcases heeds s holds with ⟨acts, rest⟩
      exact ⟨conduct.keeps holds acts, ih s rest⟩
  | pause onCancel next ih => exact ih () heeds.2

end Process

namespace Task

variable {σ α β : Type}

/-- What can be done with a task. -/
inductive Move where
  | step
  | cancel

/-- Does something with a task. -/
def move : Move → Task σ α → σ → σ × Task σ α
  | .step => step
  | .cancel => cancel

/-- What is left of a task keeps to a conduct. -/
def Heeds (conduct : Conduct σ) : Task σ α → Prop
  | .finished _ => True
  | .halted => True
  | .waiting onCancel rest => (∀ s, conduct.parts s (onCancel s)) ∧ rest.Heeds conduct

variable {conduct : Conduct σ}

/-- In one turn a process that keeps to a conduct makes changes of its kind
only. -/
theorem heeds_advance {p : Process σ α} (heeds : p.Heeds conduct) {s : σ}
    (holds : conduct.holds s) :
    Relation.ReflTransGen conduct.acts s (advance p s).1 ∧ conduct.holds (advance p s).1 ∧
      (advance p s).2.Heeds conduct := by
  induction p generalizing s with
  | done a => exact ⟨.refl, holds, trivial⟩
  | halted => exact ⟨.refl, holds, trivial⟩
  | act change next ih =>
      rcases heeds s holds with ⟨acts, rest⟩
      rcases ih s rest (conduct.keeps holds acts) with ⟨more, after, task⟩
      exact ⟨.head acts more, after, task⟩
  | pause onCancel next _ => exact ⟨.refl, holds, heeds⟩

theorem Heeds.step {t : Task σ α} (heeds : t.Heeds conduct) {s : σ} (holds : conduct.holds s) :
    Relation.ReflTransGen conduct.acts s (t.step s).1 ∧ conduct.holds (t.step s).1 ∧
      (t.step s).2.Heeds conduct := by
  cases t with
  | finished a => exact ⟨.refl, holds, trivial⟩
  | halted => exact ⟨.refl, holds, trivial⟩
  | waiting onCancel rest => exact heeds_advance heeds.2 holds

/-- A conduct in which whatever handlers do could be done by a change as well is
kept to by every move of a task. -/
theorem Heeds.move {t : Task σ α} (heeds : t.Heeds conduct) {s : σ} (holds : conduct.holds s)
    (parts : ∀ s s', conduct.parts s s' → conduct.acts s s') (kind : Move) :
    Relation.ReflTransGen conduct.acts s (t.move kind s).1 ∧ conduct.holds (t.move kind s).1 ∧
      (t.move kind s).2.Heeds conduct := by
  cases kind with
  | step => exact heeds.step holds
  | cancel =>
      cases t with
      | finished a => exact ⟨.refl, holds, trivial⟩
      | halted => exact ⟨.refl, holds, trivial⟩
      | waiting onCancel rest =>
          have acts := parts _ _ (heeds.1 s)
          exact ⟨.single acts, conduct.keeps holds acts, trivial⟩

/-- A process that goes on with a result is advanced to the end of its first
part, and from there along the second one in the same turn. -/
theorem advance_bind (p : Process σ α) (f : α → Process σ β) (s : σ) :
    advance (p.bind f) s =
      match advance p s with
      | (after, .finished a) => advance (f a) after
      | (after, .halted) => (after, .halted)
      | (after, .waiting onCancel rest) => (after, .waiting onCancel (rest.bind f)) := by
  induction p generalizing s with
  | done a => rfl
  | halted => rfl
  | act change next ih => exact ih s (change s)
  | pause onCancel next _ => rfl

end Task

namespace Batch

variable {σ α : Type}

/-- The states and tasks that come about when tasks are advanced and cancelled,
one after another and in any order. -/
inductive Stirs (start : σ) (tasks : List (Task σ α)) : σ → List (Task σ α) → Prop where
  | refl : Stirs start tasks start tasks
  | move {s : σ} {before after : List (Task σ α)} {t : Task σ α} (kind : Task.Move)
      (earlier : Stirs start tasks s (before ++ t :: after)) :
      Stirs start tasks (t.move kind s).1 (before ++ (t.move kind s).2 :: after)

variable {start : σ} {tasks : List (Task σ α)}

theorem Advances.stirs {s : σ} {ts : List (Task σ α)} (advances : Advances start tasks s ts) :
    Stirs start tasks s ts := by
  induction advances with
  | refl => exact .refl
  | step _ ih => exact ih.move .step

/-- Whatever is done with tasks that keep to a conduct is done in its way. -/
theorem Stirs.heeds {conduct : Conduct σ}
    (parts : ∀ s s', conduct.parts s s' → conduct.acts s s')
    (heeds : ∀ t ∈ tasks, t.Heeds conduct) (holds : conduct.holds start) {s : σ}
    {ts : List (Task σ α)} (stirs : Stirs start tasks s ts) :
    Relation.ReflTransGen conduct.acts start s ∧ conduct.holds s ∧
      ∀ t ∈ ts, t.Heeds conduct := by
  induction stirs with
  | refl => exact ⟨.refl, holds, heeds⟩
  | move kind _ ih =>
      rw [List.forall_mem_append, List.forall_mem_cons] at ih ⊢
      rcases ih with ⟨earlier, sHolds, ahead, heeds, behind⟩
      obtain ⟨acts, afterHolds, moved⟩ := heeds.move sHolds parts kind
      exact ⟨earlier.trans acts, afterHolds, ahead, moved, behind⟩

theorem Stirs.each (kind : Task.Move) {s : σ} {before ts after : List (Task σ α)}
    (earlier : Stirs start tasks s (before ++ ts ++ after)) :
    Stirs start tasks (each (Task.move kind) ts s).1
      (before ++ (each (Task.move kind) ts s).2 ++ after) := by
  induction ts generalizing before s with
  | nil => exact earlier
  | cons t ts ih =>
      rw [List.append_assoc, List.cons_append] at earlier
      have moved := earlier.move kind
      rw [← List.cons_append, ← List.append_assoc, List.append_cons] at moved
      have rest := ih moved
      rw [List.append_assoc before] at rest
      exact rest

theorem Stirs.turn {s : σ} {before ts : List (Task σ α)}
    (earlier : Stirs start tasks s (before ++ ts)) :
    Stirs start tasks (turn ts s).1 (before ++ (turn ts s).2) := by
  rw [← List.append_nil (before ++ ts)] at earlier
  have turned := earlier.each .step
  rw [List.append_nil] at turned
  exact turned

theorem Stirs.cancelAll {s : σ} {before ts : List (Task σ α)}
    (earlier : Stirs start tasks s (before ++ ts)) :
    Stirs start tasks (cancelAll ts s).1 (before ++ (cancelAll ts s).2) := by
  rw [← List.append_nil (before ++ ts)] at earlier
  have cancelled := earlier.each .cancel
  rw [List.append_nil] at cancelled
  exact cancelled

/-- When a batch is wound down, its tasks are advanced before they are
cancelled. -/
theorem Stirs.windDown (place : Nat) {s : σ} {before ts : List (Task σ α)}
    (earlier : Stirs start tasks s (before ++ ts)) :
    ∃ left, Stirs start tasks (windDown place ts s) left := by
  have turned := earlier.turn
  rw [← List.take_append_drop place (Batch.turn ts s).2, ← List.append_assoc] at turned
  have again := turned.each .step
  have behind := again.cancelAll
  exact ⟨_, behind.each .cancel⟩

/-- Running along a leading process advances its own task and those behind
it. -/
theorem Stirs.lead {others : List (Task σ α) → σ → σ × Option (List α)}
    (othersStir : ∀ {before ts s}, Stirs start tasks s (before ++ ts) →
      ∃ left, Stirs start tasks (others ts s).1 left)
    {p begun : Process σ α} {onCancel : σ → σ} {before ts : List (Task σ α)} {s earlier : σ}
    (reached : Stirs start tasks earlier (before ++ .waiting onCancel begun :: ts))
    (sameTurn : Task.advance begun earlier = Task.advance p s) :
    ∃ left, Stirs start tasks (lead others p ts s).1 left := by
  induction p generalizing begun onCancel ts s earlier with
  | act change next ih => exact ih s reached sameTurn
  | done a =>
      have advanced := reached.move .step
      rw [Task.move, Task.step, sameTurn, Task.advance, List.append_cons] at advanced
      have turned := advanced.turn
      simp only [Batch.lead]
      split
      · exact turned.windDown _
      · exact othersStir turned
  | halted =>
      have advanced := reached.move .step
      rw [Task.move, Task.step, sameTurn, Task.advance, List.append_cons] at advanced
      have turned := advanced.turn
      rw [List.append_assoc] at turned
      exact turned.windDown 0
  | pause waitCancel next ih =>
      have advanced := reached.move .step
      rw [Task.move, Task.step, sameTurn, Task.advance, List.append_cons] at advanced
      have turned := advanced.turn
      rw [List.append_assoc] at turned
      simp only [Batch.lead]
      split
      · next place _ => exact turned.windDown (place + 1)
      · exact ih () turned rfl

theorem Stirs.settle {count : Nat} {before ts : List (Task σ α)} {s : σ}
    (reached : Stirs start tasks s (before ++ ts)) :
    ∃ left, Stirs start tasks (settle count ts s).1 left := by
  induction count generalizing before ts s with
  | zero =>
      cases ts with
      | nil => exact ⟨_, by simpa [Batch.settle] using reached⟩
      | cons t ts => exact ⟨_, reached⟩
  | succ count ih =>
      cases ts with
      | nil => exact ⟨_, by simpa [Batch.settle] using reached⟩
      | cons t ts =>
          cases t with
          | finished a =>
              rw [List.append_cons] at reached
              exact ih reached
          | halted => exact reached.windDown 0
          | waiting onCancel p => exact Stirs.lead ih reached rfl

/-- Whichever way a batch ends, its tasks got there by being advanced and
cancelled; when it has results, all of them have finished. -/
theorem stirs_run (ps : List (Process σ α)) (s : σ) :
    ∃ left, Stirs s (ps.map Task.ofProcess) (run ps s).1 left ∧
      ∀ as, (run ps s).2 = some as → left = as.map .finished := by
  cases ended : (run ps s).2 with
  | some as =>
      have advances := advances_run (Prod.ext rfl ended : run ps s = ((run ps s).1, some as))
      exact ⟨_, advances.stirs, fun _ same => by rw [Option.some.inj same]⟩
  | none =>
      have reached : Stirs s (ps.map Task.ofProcess) s ([] ++ ps.map Task.ofProcess) := .refl
      rcases reached.settle with ⟨left, stirs⟩
      exact ⟨left, stirs, by simp⟩

theorem Stirs.cancelAfter {count : Nat} {ts : List (Task σ α)} {s : σ}
    (reached : Stirs start tasks s ts) :
    ∃ left, Stirs start tasks (cancelAfter count ts s) left := by
  induction count generalizing ts s with
  | zero =>
      rw [← List.nil_append ts] at reached
      exact ⟨_, reached.cancelAll⟩
  | succ count ih =>
      rw [← List.nil_append ts] at reached
      have turned := reached.turn
      simp only [Batch.cancelAfter]
      split
      · split
        · exact ⟨_, turned.cancelAll⟩
        · exact turned.windDown _
      · exact ih turned

theorem Stirs.turns {count : Nat} {ts : List (Task σ α)} {s : σ}
    (reached : Stirs start tasks s ts) :
    Stirs start tasks (turns count ts s).1 (turns count ts s).2 := by
  induction count generalizing ts s with
  | zero => exact reached
  | succ count ih =>
      rw [← List.nil_append ts] at reached
      exact ih reached.turn

theorem map_finished_of_results? {ts : List (Task σ α)} {as : List α}
    (results : results? ts = some as) : ts = as.map .finished := by
  induction ts generalizing as with
  | nil =>
      obtain rfl : [] = as := by simpa [results?] using results
      rfl
  | cons t ts ih =>
      simp only [results?, Option.bind_eq_bind, Option.bind_eq_some_iff] at results
      rcases results with ⟨a, first, more, rest, same⟩
      obtain rfl : a :: more = as := Option.some.inj same
      cases t with
      | finished b =>
          obtain rfl : b = a := Option.some.inj first
          rw [ih rest, List.map_cons]
      | _ => simp [Task.result?] at first

/-- The same holds of a batch that is cancelled from outside. -/
theorem stirs_runCancelled (count : Nat) (ps : List (Process σ α)) (s : σ) :
    ∃ left, Stirs s (ps.map Task.ofProcess) (runCancelled count ps s).1 left ∧
      ∀ as, (runCancelled count ps s).2 = some as → left = as.map .finished := by
  have reached : Stirs s (ps.map Task.ofProcess) s (ps.map Task.ofProcess) := .refl
  rw [runCancelled]
  dsimp only
  split
  · next as results =>
    refine ⟨_, reached.turns, ?_⟩
    intro others same
    rw [← Option.some.inj same]
    exact map_finished_of_results? results
  · obtain ⟨left, stirs⟩ : ∃ left, Stirs s (ps.map Task.ofProcess)
        (cancelAfter count (ps.map Task.ofProcess) s) left := reached.cancelAfter
    exact ⟨left, stirs, by simp⟩

end Batch

end PromptDispatch
