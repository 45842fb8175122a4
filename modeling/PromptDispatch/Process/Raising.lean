import PromptDispatch.Process.Batch

/-!
# Batches of processes that may raise

A process may end with a fault in the place of a result.  For its batch that is what a
cancellation of its own is: the batch ends at the same turn, and whatever is unfinished
then is cancelled.  The batch itself ends as the first of its tasks did that did not
come to a result.
-/

namespace PromptDispatch

variable {σ ε α : Type}

/-- How the first process ended that came to no result, if one did: by a fault, or by a
cancellation. -/
abbrev Breach (ε : Type) := Option (Option ε)

/-- Keeps how a process ended, unless one did before. -/
def Breach.keep (ending : Option ε) (breach : Breach ε) : Breach ε := breach.or (some ending)

namespace Process

/-- A process that ends by a cancellation where the given one ends by a fault.  How it
ended is kept beside the state. -/
def raising : Process σ (Except ε α) → Process (σ × Breach ε) α
  | .done (.ok a) => .done a
  | .done (.error fault) => change (Prod.map id (Breach.keep (some fault))) .halted
  | .halted => change (Prod.map id (Breach.keep none)) .halted
  | .act step next => .act (Prod.map step id) fun w => raising (next w.1)
  | .pause onCancel next => .pause (Prod.map onCancel id) fun u => raising (next u)

end Process

/-- Runs processes that may raise as a batch: with all results, with the fault of one, or
with nothing when it was cancelled. -/
def Batch.runRaising (ps : List (Process σ (Except ε α))) (s : σ) :
    σ × Except (Option ε) (List α) :=
  match run (ps.map Process.raising) (s, none) with
  | ((s, _), some results) => (s, .ok results)
  | ((s, breach), none) => (s, .error (breach.getD none))

end PromptDispatch
