import PromptDispatch.Process.Raising
import PromptDispatch.Proofs.Process.Conduct
import PromptDispatch.Proofs.Process.Likeness

/-!
# Batches of processes that may raise

Whatever a batch does with processes that may raise, it advances and cancels their
tasks: what is kept beside the state does not show in it.  Processes that could raise,
and never do on the states they work on, come to the results of a batch of processes
that cannot.
-/

namespace PromptDispatch

variable {σ τ ε α : Type}

namespace Task

/-- Where a task that may raise stands for its batch. -/
def raising : Task σ (Except ε α) → Task (σ × Breach ε) α
  | .finished (.ok a) => .finished a
  | .finished (.error _) => .halted
  | .halted => .halted
  | .waiting onCancel rest => .waiting (Prod.map onCancel id) rest.raising

theorem advance_raising (p : Process σ (Except ε α)) (w : σ × Breach ε) :
    (advance p.raising w).1.1 = (advance p w.1).1 ∧
      (advance p.raising w).2 = (advance p w.1).2.raising := by
  induction p generalizing w with
  | done result => cases result <;> exact ⟨rfl, rfl⟩
  | halted => exact ⟨rfl, rfl⟩
  | act step next ih => exact ih w.1 (Prod.map step id w)
  | pause onCancel next _ => exact ⟨rfl, rfl⟩

theorem move_raising (kind : Move) (t : Task σ (Except ε α)) (w : σ × Breach ε) :
    (t.raising.move kind w).1.1 = (t.move kind w.1).1 ∧
      (t.raising.move kind w).2 = (t.move kind w.1).2.raising := by
  cases t with
  | finished result => cases result <;> cases kind <;> exact ⟨rfl, rfl⟩
  | halted => cases kind <;> exact ⟨rfl, rfl⟩
  | waiting onCancel rest =>
      cases kind with
      | step => exact advance_raising rest w
      | cancel => exact ⟨rfl, rfl⟩

end Task

namespace Batch

variable {start w : σ × Breach ε} {tasks : List (Task σ (Except ε α))}

/-- What is done with tasks as they stand for their batch is done with the tasks. -/
theorem Stirs.of_raising {places : List (Task (σ × Breach ε) α)}
    (stirs : Stirs start (tasks.map Task.raising) w places) :
    ∃ left, left.map Task.raising = places ∧ Stirs start.1 tasks w.1 left := by
  induction stirs with
  | refl => exact ⟨tasks, rfl, .refl⟩
  | @move w ahead behind _ kind _ ih =>
      rcases ih with ⟨left, samePlaces, stirs⟩
      rcases List.map_eq_append_iff.mp samePlaces with ⟨before, rest, rfl, rfl, restPlaces⟩
      rcases List.map_eq_cons_iff.mp restPlaces with ⟨t, after, rfl, rfl, rfl⟩
      obtain ⟨sameState, samePlace⟩ := Task.move_raising kind t w
      rw [sameState, samePlace]
      exact ⟨_, by simp, stirs.move kind⟩

theorem fst_runRaising (ps : List (Process σ (Except ε α))) (s : σ) :
    (runRaising ps s).1 = (run (ps.map Process.raising) (s, none)).1.1 := by
  rw [runRaising]
  split
  · next ran => rw [ran]
  · next ran => rw [ran]

/-- Whichever way a batch ends, its tasks got there by being advanced and cancelled. -/
theorem stirs_runRaising (ps : List (Process σ (Except ε α))) (s : σ) :
    ∃ left, Stirs s (ps.map Task.ofProcess) (runRaising ps s).1 left := by
  rcases stirs_run (ps.map Process.raising) (s, none) with ⟨places, stirs, -⟩
  have begun : (ps.map Process.raising).map Task.ofProcess =
      (ps.map Task.ofProcess).map Task.raising := by
    rw [List.map_map, List.map_map]
    rfl
  rw [begun] at stirs
  rcases stirs.of_raising with ⟨left, -, stirred⟩
  rw [fst_runRaising]
  exact ⟨left, stirred⟩

end Batch

/-! ## Processes that never raise -/

/-- Related states, where no process has raised anything so far. -/
def Calm (related : σ → τ → Prop) (w : σ × Breach ε) (t : τ) : Prop :=
  related w.1 t ∧ w.2.getD none = none

variable {related : σ → τ → Prop}

theorem calm_keep {w : σ × Breach ε} {t : τ} (calm : Calm related w t) :
    Calm related (Prod.map id (Breach.keep none) w) t := by
  refine ⟨calm.1, ?_⟩
  rcases w with ⟨s, breach⟩
  cases breach with
  | none => rfl
  | some ending => exact calm.2

namespace Process

/-- A process that does what one does that cannot raise. -/
theorem Alike.raising {p : Process σ (Except ε α)} {q' : Process τ (Except ε α)}
    (alike : p.Alike related q') {q : Process τ α} (cannot : q' = q.map .ok) :
    p.raising.Alike (Calm related) q := by
  induction alike generalizing q with
  | done result =>
      cases q with
      | done a =>
          obtain rfl := Process.done.inj cannot
          exact .done a
      | _ => cases cannot
  | halted =>
      cases q with
      | halted => exact .besides (fun _ _ calm => calm_keep calm) fun _ _ _ => .halted
      | _ => cases cannot
  | besides keeps _ ih =>
      refine .besides (fun w t calm => ⟨keeps w.1 t calm.1, calm.2⟩) ?_
      exact fun w t calm => ih w.1 t calm.1 cannot
  | act keeps _ ih =>
      cases q with
      | act change next =>
          obtain ⟨rfl, rfl⟩ := Process.act.inj cannot
          refine .act (fun w t calm => ⟨keeps w.1 t calm.1, calm.2⟩) ?_
          exact fun w t calm => ih w.1 t calm.1 rfl
      | _ => cases cannot
  | pause keeps _ ih =>
      cases q with
      | pause onCancel next =>
          obtain ⟨rfl, rfl⟩ := Process.pause.inj cannot
          exact .pause (fun w t calm => ⟨keeps w.1 t calm.1, calm.2⟩) (ih rfl)
      | _ => cases cannot

end Process

/-- A batch of processes that never raise leaves related states and comes to the same
results as one of processes that cannot. -/
theorem Batch.alike_runRaising {ps : List (Process σ (Except ε α))} {qs : List (Process τ α)}
    (alike : List.Forall₂ (fun p q => p.Alike related (q.map .ok)) ps qs) {s : σ} {t : τ}
    (same : related s t) :
    related (runRaising ps s).1 (run qs t).1 ∧
      (runRaising ps s).2 = (run qs t).2.elim (.error none) .ok := by
  have raisingAlike : List.Forall₂ (Process.Alike (Calm related)) (ps.map Process.raising) qs := by
    rw [List.forall₂_map_left_iff]
    exact alike.imp fun _ _ alike => alike.raising rfl
  have begun : Calm related (s, (none : Breach ε)) t := ⟨same, rfl⟩
  obtain ⟨⟨left, calm⟩, results⟩ := alike_run raisingAlike begun
  rw [runRaising]
  split
  · next ran =>
    rw [ran] at left results
    exact ⟨left, by rw [← results]; rfl⟩
  · next breach ran =>
    rw [ran] at left calm results
    dsimp only at calm
    exact ⟨left, by rw [← results, calm]; rfl⟩

end PromptDispatch
