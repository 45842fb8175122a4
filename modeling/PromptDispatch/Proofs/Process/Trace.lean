import PromptDispatch.Proofs.Process.Interference

/-!
# What a batch leaves in a log

Every batch that comes to its results is a succession of single turns, in which
one task after another is advanced.  What a process adds to a log on its way is
a list of its own, however it is interrupted, as long as the others only add to
the log and keep the invariant.  The log of a batch is therefore an interleaving
of the lists of its tasks: nothing is lost, nothing is added twice, and what one
task adds stays in order.
-/

namespace PromptDispatch

/-- A list made of several lists: each entry is the next one of some list, and
in the end all lists are used up. -/
inductive Interleaves {μ : Type} : List (List μ) → List μ → Prop where
  | nil {lists : List (List μ)} (usedUp : ∀ list ∈ lists, list = []) : Interleaves lists []
  | cons {before after : List (List μ)} {list rest : List μ} {entry : μ}
      (others : Interleaves (before ++ list :: after) rest) :
      Interleaves (before ++ (entry :: list) :: after) (entry :: rest)

theorem Interleaves.append {μ : Type} {before after : List (List μ)} {later rest : List μ}
    (now : List μ) (others : Interleaves (before ++ later :: after) rest) :
    Interleaves (before ++ (now ++ later) :: after) (now ++ rest) := by
  induction now with
  | nil => exact others
  | cons entry now ih => exact .cons ih

namespace Process

variable {σ α β μ : Type}

/-- A process keeps an invariant, ends with a result of a kind, and adds a list
to a log on its way, whatever is done to the state at its pauses as long as the
invariant is kept. -/
def Logs (inv : σ → Prop) (log : σ → List μ) (post : α → Prop) : Process σ α → List μ → Prop
  | .done a, list => list = [] ∧ post a
  | .halted, _ => False
  | .act change next, list => ∀ s, inv s → inv (change s) ∧
      ∃ now later, list = now ++ later ∧ log (change s) = log s ++ now ∧
        Logs inv log post (next s) later
  | .pause _ next, list => Logs inv log post (next ()) list

variable {inv : σ → Prop} {log : σ → List μ} {post : α → Prop} {post' : β → Prop}

/-- Whoever tells what is logged on the way to a result ensures the result. -/
theorem Logs.ensures {p : Process σ α} {list : List μ} (logs : p.Logs inv log post list) :
    p.Ensures inv post := by
  induction p generalizing list with
  | done a => exact logs.2
  | halted => exact logs.elim
  | act change next ih =>
      intro s holds
      rcases logs s holds with ⟨kept, now, later, -, -, rest⟩
      exact ⟨kept, ih s rest⟩
  | pause onCancel next ih => exact ih () logs

theorem logs_done {a : α} (holds : post a) : (done a : Process σ α).Logs inv log post [] :=
  ⟨rfl, holds⟩

/-- One process after another adds one list after another. -/
theorem Logs.bind {p : Process σ α} {f : α → Process σ β} {first second : List μ}
    (logs : p.Logs inv log post first)
    (rest : ∀ a, post a → (f a).Logs inv log post' second) :
    (p.bind f).Logs inv log post' (first ++ second) := by
  induction p generalizing first with
  | done a =>
      rcases logs with ⟨rfl, holds⟩
      exact rest a holds
  | halted => exact logs.elim
  | act change next ih =>
      intro s holds
      rcases logs s holds with ⟨kept, now, later, rfl, logged, more⟩
      exact ⟨kept, now, later ++ second, List.append_assoc now later second, logged, ih s more⟩
  | pause onCancel next ih => exact ih () logs

/-- A change that adds to the log comes first in the list. -/
theorem logs_change {f : σ → σ} {next : Process σ α} {now later : List μ}
    (keeps : ∀ s, inv s → inv (f s)) (logged : ∀ s, log (f s) = log s ++ now)
    (rest : next.Logs inv log post later) : (change f next).Logs inv log post (now ++ later) :=
  fun s holds => ⟨keeps s holds, now, later, rfl, logged s, rest⟩

/-- A change that leaves the log alone. -/
theorem logs_change_silent {f : σ → σ} {next : Process σ α} {list : List μ}
    (keeps : ∀ s, inv s → inv (f s)) (silent : ∀ s, log (f s) = log s)
    (rest : next.Logs inv log post list) : (change f next).Logs inv log post list := by
  have logged : ∀ s, log (f s) = log s ++ [] := by
    intro s
    rw [silent s, List.append_nil]
  exact logs_change keeps logged rest

theorem logs_look {next : σ → Process σ α} {list : List μ}
    (rest : ∀ s, inv s → (next s).Logs inv log post list) :
    (look next).Logs inv log post list :=
  fun s holds => ⟨holds, [], list, rfl, (List.append_nil (log s)).symm, rest s holds⟩

end Process

namespace Task

variable {σ α μ : Type}

/-- What a task has still to add to a log. -/
def Logs (inv : σ → Prop) (log : σ → List μ) (post : α → Prop) : Task σ α → List μ → Prop
  | .finished a, list => list = [] ∧ post a
  | .halted, _ => False
  | .waiting _ rest, list => rest.Logs inv log post list

variable {inv : σ → Prop} {log : σ → List μ} {post : α → Prop}

theorem logs_advance {p : Process σ α} {list : List μ} (logs : p.Logs inv log post list)
    {s : σ} (holds : inv s) :
    inv (advance p s).1 ∧ ∃ now later, list = now ++ later ∧
      log (advance p s).1 = log s ++ now ∧ (advance p s).2.Logs inv log post later := by
  induction p generalizing list s with
  | done a => exact ⟨holds, [], list, rfl, (List.append_nil _).symm, logs⟩
  | halted => exact logs.elim
  | act change next ih =>
      rcases logs s holds with ⟨kept, now, later, rfl, logged, more⟩
      rcases ih s more kept with ⟨after, soon, last, rfl, loggedSoon, rest⟩
      refine ⟨after, now ++ soon, last, (List.append_assoc now soon last).symm, ?_, rest⟩
      calc
        log (advance (next s) (change s)).1 = log (change s) ++ soon := loggedSoon
        _ = log s ++ (now ++ soon) := by rw [logged, List.append_assoc]
  | pause onCancel next _ => exact ⟨holds, [], list, rfl, (List.append_nil _).symm, logs⟩

/-- In its turn a task adds the beginning of its list and keeps the rest. -/
theorem Logs.step {t : Task σ α} {list : List μ} (logs : t.Logs inv log post list) {s : σ}
    (holds : inv s) :
    inv (t.step s).1 ∧ ∃ now later, list = now ++ later ∧
      log (t.step s).1 = log s ++ now ∧ (t.step s).2.Logs inv log post later := by
  cases t with
  | finished a => exact ⟨holds, [], list, rfl, (List.append_nil _).symm, logs⟩
  | halted => exact logs.elim
  | waiting onCancel rest => exact logs_advance logs holds

end Task

namespace Batch

variable {σ α μ : Type}

/-! ## Single turns -/

/-- The states and tasks that come about when one task after another is given a
turn, in any order. -/
inductive Advances (start : σ) (tasks : List (Task σ α)) : σ → List (Task σ α) → Prop where
  | refl : Advances start tasks start tasks
  | step {s : σ} {before after : List (Task σ α)} {t : Task σ α}
      (earlier : Advances start tasks s (before ++ t :: after)) :
      Advances start tasks (t.step s).1 (before ++ (t.step s).2 :: after)

section

variable {start : σ} {tasks : List (Task σ α)}

theorem Advances.turn {s : σ} {before ts : List (Task σ α)}
    (earlier : Advances start tasks s (before ++ ts)) :
    Advances start tasks (turn ts s).1 (before ++ (turn ts s).2) := by
  induction ts generalizing before s with
  | nil => exact earlier
  | cons t ts ih =>
      have stepped := earlier.step
      rw [List.append_cons] at stepped
      have rest := ih stepped
      rw [List.append_assoc] at rest
      exact rest

/-- The leading process is in the middle of a turn that began in an earlier
state. -/
theorem advances_lead {others : List (Task σ α) → σ → σ × Option (List α)}
    (othersAdvance : ∀ {before ts s after as}, Advances start tasks s (before ++ ts) →
      others ts s = (after, some as) → Advances start tasks after (before ++ as.map .finished))
    {p begun : Process σ α} {onCancel : σ → σ} {before ts : List (Task σ α)} {s earlier after : σ}
    {as : List α} (reached : Advances start tasks earlier (before ++ .waiting onCancel begun :: ts))
    (sameTurn : Task.advance begun earlier = Task.advance p s)
    (result : lead others p ts s = (after, some as)) :
    Advances start tasks after (before ++ as.map .finished) := by
  induction p generalizing begun onCancel ts s earlier with
  | act change next ih => exact ih s reached sameTurn result
  | done a =>
      have advanced := reached.step
      rw [Task.step, sameTurn, Task.advance, List.append_cons] at advanced
      have turned := advanced.turn
      simp only [lead] at result
      split at result
      · simp at result
      · obtain ⟨rfl, rest, restResult, rfl⟩ := by
          simpa [Prod.ext_iff] using result
        have all := othersAdvance turned (Prod.ext rfl restResult)
        rw [List.append_assoc] at all
        exact all
  | halted => simp [lead] at result
  | pause waitCancel next ih =>
      have advanced := reached.step
      rw [Task.step, sameTurn, Task.advance, List.append_cons] at advanced
      have turned := advanced.turn
      rw [List.append_assoc] at turned
      simp only [lead] at result
      split at result
      · simp at result
      · exact ih () turned rfl result

theorem advances_settle {count : Nat} {before ts : List (Task σ α)} {s after : σ} {as : List α}
    (reached : Advances start tasks s (before ++ ts))
    (result : settle count ts s = (after, some as)) :
    Advances start tasks after (before ++ as.map .finished) := by
  induction count generalizing before ts s after as with
  | zero =>
      cases ts with
      | nil =>
          obtain ⟨rfl, rfl⟩ := by simpa [settle] using result
          exact reached
      | cons t ts => simp [settle] at result
  | succ count ih =>
      cases ts with
      | nil =>
          obtain ⟨rfl, rfl⟩ := by simpa [settle] using result
          exact reached
      | cons t ts =>
          cases t with
          | finished a =>
              obtain ⟨rfl, rest, restResult, rfl⟩ := by
                simpa [settle, Prod.ext_iff] using result
              rw [List.append_cons] at reached
              have all := ih reached (Prod.ext rfl restResult)
              rw [List.append_assoc] at all
              exact all
          | halted => simp [settle] at result
          | waiting onCancel p => exact advances_lead ih reached rfl result

end

/-- A batch that comes to its results gets there by single turns of its tasks. -/
theorem advances_run {ps : List (Process σ α)} {s after : σ} {as : List α}
    (result : run ps s = (after, some as)) :
    Advances s (ps.map Task.ofProcess) after (as.map .finished) := by
  have reached : Advances s (ps.map Task.ofProcess) s ([] ++ ps.map Task.ofProcess) := .refl
  exact advances_settle reached result

/-! ## The log of a batch -/

variable {inv : σ → Prop} {log : σ → List μ}

/-- Tasks in order, each with what it has still to add to a log. -/
abbrev Log (inv : σ → Prop) (log : σ → List μ) : List (List μ) → List (Task σ α) → Prop :=
  List.Forall₂ fun list t => ∃ post, t.Logs inv log post list

/-- What one task adds in its turn comes before all that is still to be added. -/
theorem Log.turnOne {lists : List (List μ)} {before after : List (Task σ α)} {t : Task σ α}
    (logs : Log inv log lists (before ++ t :: after)) {s : σ} (holds : inv s) :
    inv (t.step s).1 ∧ ∃ now left, log (t.step s).1 = log s ++ now ∧
      Log inv log left (before ++ (t.step s).2 :: after) ∧
      ∀ rest, Interleaves left rest → Interleaves lists (now ++ rest) := by
  have beforeLogs := List.forall₂_take_append lists before (t :: after) logs
  have restLogs := List.forall₂_drop_append lists before (t :: after) logs
  have split := List.take_append_drop before.length lists
  cases same : lists.drop before.length with
  | nil =>
      rw [same] at restLogs
      cases restLogs
  | cons list others =>
      rw [same] at restLogs split
      cases restLogs with
      | cons head tail =>
          rcases head with ⟨post, head⟩
          rcases head.step holds with ⟨stepHolds, now, later, rfl, logged, stepLogs⟩
          refine ⟨stepHolds, now, _, logged,
            List.rel_append beforeLogs (.cons ⟨post, stepLogs⟩ tail), ?_⟩
          intro rest interleaves
          rw [← split]
          exact interleaves.append now

/-- After any turns, what was added to the log comes before all that the tasks
have still to add. -/
theorem Advances.logs {start s : σ} {tasks ts : List (Task σ α)}
    (advances : Advances start tasks s ts) (holds : inv start) {lists : List (List μ)}
    (logs : Log inv log lists tasks) :
    inv s ∧ ∃ added left, log s = log start ++ added ∧ Log inv log left ts ∧
      ∀ rest, Interleaves left rest → Interleaves lists (added ++ rest) := by
  induction advances with
  | refl =>
      exact ⟨holds, [], lists, (List.append_nil _).symm, logs, fun _ interleaves => interleaves⟩
  | step _ ih =>
      rcases ih with ⟨sHolds, added, left, logged, leftLogs, close⟩
      rcases leftLogs.turnOne sHolds with ⟨stepHolds, now, later, loggedNow, laterLogs, closeNow⟩
      refine ⟨stepHolds, added ++ now, later, ?_, laterLogs, ?_⟩
      · rw [loggedNow, logged, List.append_assoc]
      · intro rest interleaves
        rw [List.append_assoc]
        exact close _ (closeNow rest interleaves)

/-- Finished tasks have nothing to add. -/
theorem Log.usedUp {left : List (List μ)} {as : List α}
    (logs : Log inv log left (as.map .finished)) : ∀ list ∈ left, list = [] := by
  rw [Log, List.forall₂_map_right_iff] at logs
  induction logs with
  | nil => simp
  | cons head _ ih =>
      rcases head with ⟨post, isNil, -⟩
      exact List.forall_mem_cons.mpr ⟨isNil, ih⟩

/-- The log of a batch is an interleaving of what its processes log. -/
theorem logs_run {ps : List (Process σ α)} {lists : List (List μ)}
    (logs : List.Forall₂ (fun list p => ∃ post, Process.Logs inv log post p list) lists ps)
    {s after : σ} (holds : inv s) {as : List α} (result : run ps s = (after, some as)) :
    ∃ added, log after = log s ++ added ∧ Interleaves lists added := by
  have taskLogs : Log inv log lists (ps.map Task.ofProcess) := by
    rw [Log, List.forall₂_map_right_iff]
    exact logs
  obtain ⟨-, added, left, logged, leftLogs, close⟩ := (advances_run result).logs holds taskLogs
  refine ⟨added, logged, ?_⟩
  have closed := close [] (.nil leftLogs.usedUp)
  rwa [List.append_nil] at closed

end Batch

end PromptDispatch
