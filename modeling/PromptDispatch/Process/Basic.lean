/-!
# Processes

A process works on a shared state, gives up control at its pauses, and ends
with a result or by a cancellation.  Between two pauses nothing else touches
the state.  A process that is cancelled at a pause runs that pause's handler
and nothing more.

A process is a well-founded tree, so every process that is never cancelled
comes to its end.
-/

namespace PromptDispatch

/-- A process over states `σ` with results `α`. -/
inductive Process (σ α : Type) : Type where
  /-- ended with a result -/
  | done (a : α)
  /-- ended by a cancellation -/
  | halted
  /-- changes the state and goes on, knowing the state before -/
  | act (change : σ → σ) (next : σ → Process σ α)
  /-- gives up control; the handler runs when the process is cancelled here -/
  | pause (onCancel : σ → σ) (next : Unit → Process σ α)

namespace Process

variable {σ α β : Type}

/-- Goes on with a result. -/
def bind : Process σ α → (α → Process σ β) → Process σ β
  | .done a, f => f a
  | .halted, _ => .halted
  | .act change next, f => .act change fun s => bind (next s) f
  | .pause onCancel next, f => .pause onCancel fun u => bind (next u) f

/-- Changes a result. -/
def map (f : α → β) (p : Process σ α) : Process σ β := p.bind fun a => .done (f a)

/-- Changes the state and goes on. -/
def change (f : σ → σ) (next : Process σ α) : Process σ α := .act f fun _ => next

/-- Looks at the state and goes on. -/
def look (next : σ → Process σ α) : Process σ α := .act id next

/-- Runs a process that shares its state with nobody to its end. -/
def run : Process σ α → σ → σ × Option α
  | .done a, s => (s, some a)
  | .halted, s => (s, none)
  | .act change next, s => run (next s) (change s)
  | .pause _ next, s => run (next ()) s

end Process

end PromptDispatch
