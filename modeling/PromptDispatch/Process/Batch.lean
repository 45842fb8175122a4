import PromptDispatch.Process.Basic

/-!
# Batches

A batch is a list of tasks that take turns.  In every turn each unfinished task
runs, in the order of the list, up to its next pause or its end.  A batch ends
with the results of all tasks, in the order of the list, whatever the order in
which they ended.

A task that ends by a cancellation of its own ends the whole batch: the news
reaches the batch two turns later at the place of that task, and every task
that is unfinished then is cancelled.
-/

namespace PromptDispatch

/-- Where a task stands. -/
inductive Task (σ α : Type) : Type where
  | finished (a : α)
  | halted
  /-- has something left to do; the handler runs when it is cancelled here -/
  | waiting (onCancel : σ → σ) (rest : Process σ α)

namespace Task

variable {σ α : Type}

/-- A task that has not started; cancelled now, it never starts. -/
def ofProcess (p : Process σ α) : Task σ α := .waiting id p

/-- Runs a process up to its next pause or its end. -/
def advance : Process σ α → σ → σ × Task σ α
  | .done a, s => (s, .finished a)
  | .halted, s => (s, .halted)
  | .act change next, s => advance (next s) (change s)
  | .pause onCancel next, s => (s, .waiting onCancel (next ()))

/-- Gives a task its turn. -/
def step (t : Task σ α) (s : σ) : σ × Task σ α :=
  match t with
  | .waiting _ rest => advance rest s
  | t => (s, t)

/-- Cancels a task that is unfinished. -/
def cancel (t : Task σ α) (s : σ) : σ × Task σ α :=
  match t with
  | .waiting onCancel _ => (onCancel s, .halted)
  | t => (s, t)

/-- Whether a task ended by a cancellation. -/
def isHalted : Task σ α → Bool
  | .halted => true
  | _ => false

/-- The result of a finished task. -/
def result? : Task σ α → Option α
  | .finished a => some a
  | _ => none

end Task

namespace Batch

variable {σ α : Type}

/-- Does something with every task in order. -/
def each (f : Task σ α → σ → σ × Task σ α) : List (Task σ α) → σ → σ × List (Task σ α)
  | [], s => (s, [])
  | t :: ts, s =>
    let (s, t) := f t s
    let (s, ts) := each f ts s
    (s, t :: ts)

/-- One turn. -/
def turn (ts : List (Task σ α)) (s : σ) : σ × List (Task σ α) := each Task.step ts s

/-- A number of turns. -/
def turns : Nat → List (Task σ α) → σ → σ × List (Task σ α)
  | 0, ts, s => (s, ts)
  | n + 1, ts, s =>
    let (s, ts) := turn ts s
    turns n ts s

/-- Cancels all unfinished tasks. -/
def cancelAll (ts : List (Task σ α)) (s : σ) : σ × List (Task σ α) := each Task.cancel ts s

/-- The results, when all tasks have finished. -/
def results? : List (Task σ α) → Option (List α)
  | [] => some []
  | t :: ts => do
    let a ← t.result?
    let as ← results? ts
    return a :: as

/-- The place of the first task that ended by a cancellation. -/
def haltedAt? (ts : List (Task σ α)) : Option Nat :=
  ts.findIdx? Task.isHalted

/-- What follows when the task at a place has ended by a cancellation: all
tasks have one more turn, those before the place another one, and then the
tasks after the place and those before it are cancelled. -/
def windDown (place : Nat) (ts : List (Task σ α)) (s : σ) : σ :=
  let (s, ts) := turn ts s
  let (s, before) := turn (ts.take place) s
  let (s, _) := cancelAll (ts.drop place) s
  (cancelAll before s).1

/-- Runs a batch whose tasks before the leading one have all finished, along
the leading process.  What is left when that process is done is up to
`others`. -/
def lead (others : List (Task σ α) → σ → σ × Option (List α)) :
    Process σ α → List (Task σ α) → σ → σ × Option (List α)
  | .act change next, ts, s => lead others (next s) ts (change s)
  | .done a, ts, s =>
    let (s, ts) := turn ts s
    match haltedAt? ts with
    | some place => (windDown place ts s, none)
    | none =>
      let (s, as) := others ts s
      (s, as.map (a :: ·))
  | .halted, ts, s =>
    let (s, ts) := turn ts s
    (windDown 0 (.halted :: ts) s, none)
  | .pause onCancel next, ts, s =>
    let (s, ts) := turn ts s
    match haltedAt? ts with
    | some place => (windDown (place + 1) (.waiting onCancel (next ()) :: ts) s, none)
    | none => lead others (next ()) ts s

/-- Runs at most `count` tasks to their end. -/
def settle : Nat → List (Task σ α) → σ → σ × Option (List α)
  | _, [], s => (s, some [])
  | 0, _, s => (s, none)
  | count + 1, .waiting _ p :: ts, s => lead (settle count) p ts s
  | count + 1, .finished a :: ts, s =>
    let (s, as) := settle count ts s
    (s, as.map (a :: ·))
  | _ + 1, .halted :: ts, s => (windDown 0 (.halted :: ts) s, none)

/-- Runs processes as a batch; the results are missing when it was
cancelled. -/
def run (ps : List (Process σ α)) (s : σ) : σ × Option (List α) :=
  settle ps.length (ps.map Task.ofProcess) s

/-- Runs tasks for a number of turns and cancels what is unfinished then; a
task that ends by a cancellation of its own before the last of these turns ends
the batch at once. -/
def cancelAfter : Nat → List (Task σ α) → σ → σ
  | 0, ts, s => (cancelAll ts s).1
  | count + 1, ts, s =>
    let (s, ts) := turn ts s
    match haltedAt? ts with
    | some place => if count = 0 then (cancelAll ts s).1 else windDown place ts s
    | none => cancelAfter count ts s

/-- Runs processes as a batch that is cancelled from outside after a number of
turns.  A batch whose tasks have all finished two turns before is over by then
and is not cancelled. -/
def runCancelled (count : Nat) (ps : List (Process σ α)) (s : σ) : σ × Option (List α) :=
  let start := ps.map Task.ofProcess
  let (early, ts) := turns (count - 2) start s
  match results? ts with
  | some as => (early, some as)
  | none => (cancelAfter count start s, none)

end Batch

end PromptDispatch
