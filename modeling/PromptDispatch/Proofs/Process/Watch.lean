import PromptDispatch.Proofs.Process.Likeness

/-!
# Processes with a record

A watched process works on the state and on a record beside it.  At some moments
it writes something down, and what it does to the state does not depend on the
record.  A batch of watched processes therefore does to the state what the batch
itself does, turn by turn, and comes to the same results.
-/

namespace PromptDispatch

namespace Process

variable {σ ρ α β : Type}

/-- A process that leaves the record beside its state alone. -/
def beside : Process σ α → Process (σ × ρ) α
  | .done a => .done a
  | .halted => .halted
  | .act change next => .act (fun w => (change w.1, w.2)) fun w => beside (next w.1)
  | .pause onCancel next => .pause (fun w => (onCancel w.1, w.2)) fun u => beside (next u)

/-- Writes something down and goes on. -/
def tell (record : ρ → ρ) (next : Process (σ × ρ) α) : Process (σ × ρ) α :=
  .change (fun w => (w.1, record w.2)) next

/-- A process with a record does to the state what one without does. -/
inductive Watches : Process (σ × ρ) α → Process σ α → Prop where
  | done (a : α) : Watches (.done a) (.done a)
  | halted : Watches .halted .halted
  | tell {record : ρ → ρ} {watched : Process (σ × ρ) α} {p : Process σ α}
      (rest : Watches watched p) : Watches (watched.tell record) p
  | act {watchedChange : σ × ρ → σ × ρ} {change : σ → σ}
      {watchedNext : σ × ρ → Process (σ × ρ) α} {next : σ → Process σ α}
      (same : ∀ w, (watchedChange w).1 = change w.1)
      (rest : ∀ w, Watches (watchedNext w) (next w.1)) :
      Watches (.act watchedChange watchedNext) (.act change next)
  | pause {watchedCancel : σ × ρ → σ × ρ} {onCancel : σ → σ}
      {watchedNext : Unit → Process (σ × ρ) α} {next : Unit → Process σ α}
      (same : ∀ w, (watchedCancel w).1 = onCancel w.1)
      (rest : Watches (watchedNext ()) (next ())) :
      Watches (.pause watchedCancel watchedNext) (.pause onCancel next)

theorem watches_beside (p : Process σ α) : (beside p : Process (σ × ρ) α).Watches p := by
  induction p with
  | done a => exact .done a
  | halted => exact .halted
  | act change next ih => exact .act (fun _ => rfl) fun w => ih w.1
  | pause onCancel next ih => exact .pause (fun _ => rfl) (ih ())

theorem beside_bind (p : Process σ α) (f : α → Process σ β) :
    ((p.bind f).beside : Process (σ × ρ) β) = p.beside.bind fun a => (f a).beside := by
  induction p with
  | done a => rfl
  | halted => rfl
  | act change next ih =>
      simp only [Process.bind, beside]
      congr 1
      funext w
      exact ih w.1
  | pause onCancel next ih =>
      simp only [Process.bind, beside]
      congr 1
      funext u
      exact ih u

theorem Watches.bind {watched : Process (σ × ρ) α} {p : Process σ α}
    {watchedRest : α → Process (σ × ρ) β} {rest : α → Process σ β} (first : watched.Watches p)
    (second : ∀ a, (watchedRest a).Watches (rest a)) :
    (watched.bind watchedRest).Watches (p.bind rest) := by
  induction first with
  | done a => exact second a
  | halted => exact .halted
  | tell _ ih => exact .tell ih
  | act same _ ih => exact .act same ih
  | pause same _ ih => exact .pause same ih

/-- A state with a record beside it, and that state. -/
def Beside (w : σ × ρ) (s : σ) : Prop := w.1 = s

theorem Watches.alike {watched : Process (σ × ρ) α} {p : Process σ α}
    (watches : watched.Watches p) : watched.Alike Beside p := by
  induction watches with
  | done a => exact .done a
  | halted => exact .halted
  | tell _ ih => exact .besides (fun _ _ beside => beside) fun _ _ _ => ih
  | act same _ ih =>
      refine .act ?_ ?_
      · rintro w _ rfl
        exact same w
      · rintro w _ rfl
        exact ih w
  | pause same _ ih =>
      refine .pause ?_ ih
      rintro w _ rfl
      exact same w

end Process

namespace Batch

open Process (Beside)

variable {σ ρ α : Type}

/-- Tasks in order, each with a record and without. -/
abbrev Watch : List (Task (σ × ρ) α) → List (Task σ α) → Prop := Alike Beside

section

variable {watched : List (Process (σ × ρ) α)} {ps : List (Process σ α)}
variable (watches : List.Forall₂ Process.Watches watched ps)
include watches

theorem watch_ofProcess : Watch (watched.map Task.ofProcess) (ps.map Task.ofProcess) :=
  alike_ofProcess (watches.imp fun _ _ watches => watches.alike)

/-- A batch leaves the same state and comes to the same results when it is
watched. -/
theorem watches_run (w : σ × ρ) :
    (run watched w).1.1 = (run ps w.1).1 ∧ (run watched w).2 = (run ps w.1).2 :=
  alike_run (watches.imp fun _ _ watches => watches.alike) rfl

end

theorem Watch.eq_finished {watched : List (Task (σ × ρ) α)} {as : List α}
    (watch : Watch watched (as.map .finished)) : watched = as.map .finished := by
  rw [Watch, Alike, List.forall₂_map_right_iff] at watch
  induction watch with
  | nil => rfl
  | cons head _ ih =>
      cases head
      rw [ih, List.map_cons]

/-- Every succession of turns can be watched. -/
theorem Advances.watched {start s : σ} {tasks ts : List (Task σ α)}
    (advances : Advances start tasks s ts) {watched : List (Task (σ × ρ) α)}
    (watch : Watch watched tasks) (r : ρ) :
    ∃ r' watchedThen, Advances (start, r) watched (s, r') watchedThen ∧ Watch watchedThen ts := by
  have beside : Beside (start, r) start := rfl
  obtain ⟨⟨_, r'⟩, watchedThen, reached, rfl, watchThen⟩ := advances.alike beside watch
  exact ⟨r', watchedThen, reached, watchThen⟩

end Batch

end PromptDispatch
