import PromptDispatch.Dispatch.Basic
import PromptDispatch.Proofs.Dispatch.Likeness

/-!
# What the clock and the journal do not decide

A journal is only written, and the clock is only read by the throttle.  Sessions that
agree in everything else therefore come to the same answers, and still agree in
everything else afterwards.
-/

namespace PromptDispatch

namespace Session

/-- Two sessions agree in everything but their clocks and journals. -/
structure Resembles (s t : Session) : Prop where
  throttle : s.throttle = t.throttle
  store : s.store = t.store
  archive : s.archive = t.archive
  disk : s.disk = t.disk
  roster : s.roster = t.roster
  runs : s.runs = t.runs
  events : s.events = t.events

namespace Resembles

variable {s t u : Session}

theorem refl (s : Session) : Resembles s s := ⟨rfl, rfl, rfl, rfl, rfl, rfl, rfl⟩

theorem symm (same : s.Resembles t) : t.Resembles s :=
  ⟨same.throttle.symm, same.store.symm, same.archive.symm, same.disk.symm, same.roster.symm,
    same.runs.symm, same.events.symm⟩

theorem trans (first : s.Resembles t) (second : t.Resembles u) : s.Resembles u :=
  ⟨first.throttle.trans second.throttle, first.store.trans second.store,
    first.archive.trans second.archive, first.disk.trans second.disk,
    first.roster.trans second.roster, first.runs.trans second.runs,
    first.events.trans second.events⟩

theorem exists_eq (same : s.Resembles t) :
    ∃ clock journal, t = { s with clock := clock, journal := journal } := by
  rcases s with ⟨_, _, _, _, _, _, _, _, _⟩
  rcases t with ⟨clock, _, _, _, _, _, _, _, journal⟩
  obtain ⟨rfl, rfl, rfl, rfl, rfl, rfl, rfl⟩ := same
  exact ⟨clock, journal, rfl⟩

end Resembles

theorem resembles_of_clock_journal (s : Session) (clock : Binary64) (journal : List Journal.Line) :
    s.Resembles { s with clock := clock, journal := journal } :=
  ⟨rfl, rfl, rfl, rfl, rfl, rfl, rfl⟩

/-! ## Changes -/

theorem kept_note (level : Journal.Level) (part : Journal.Part) (text : String) :
    Kept Resembles fun s => s.note level part text := by
  intro s t same
  obtain ⟨clock, journal, rfl⟩ := same.exists_eq
  exact resembles_of_clock_journal _ _ _

theorem kept_emit (event : String) : Kept Resembles fun s => s.emit event := by
  intro s t same
  obtain ⟨clock, journal, rfl⟩ := same.exists_eq
  exact resembles_of_clock_journal _ _ _

theorem kept_countRun (name : String) : Kept Resembles fun s => s.countRun name := by
  intro s t same
  obtain ⟨clock, journal, rfl⟩ := same.exists_eq
  exact resembles_of_clock_journal _ _ _

theorem kept_write (agent key : Option String) (value : Json) :
    Kept Resembles fun s => s.write agent key value := by
  intro s t same
  obtain ⟨clock, journal, rfl⟩ := same.exists_eq
  exact resembles_of_clock_journal _ _ _

theorem kept_unregister (name : String) : Kept Resembles fun s => (s.unregister name).1 := by
  intro s t same
  obtain ⟨clock, journal, rfl⟩ := same.exists_eq
  simp only [unregister]
  split <;> exact resembles_of_clock_journal _ _ _

/-- Sessions that agree in everything but their clocks and journals look alike to agents,
whatever these save. -/
theorem looksAlike_resembles : LooksAlike (fun _ => True) Resembles where
  store := Resembles.store
  roster := Resembles.roster
  saves _ _ _ _ _ _ _ := Behaviour.savesOnly_of_forall (fun _ => trivial) _
  note := kept_note
  emit := kept_emit
  countRun := kept_countRun
  unregister := kept_unregister
  write _ := kept_write _ _ _

/-! ## Chains -/

/-- A process does not read the clock or the journal. -/
abbrev Oblivious {α : Type} (p : Process Session α) : Prop := p.Alike Resembles p

theorem oblivious_dispatchWithin (prompt : String) (depth : Nat) (visited : List String)
    (name : String) (task : Errand) : Oblivious (dispatchWithin prompt depth visited name task) := by
  induction depth generalizing visited name task with
  | zero =>
      exact looksAlike_resembles.alike_dispatchStep (fun _ _ _ => .done _) prompt visited name task
  | succ depth ih =>
      exact looksAlike_resembles.alike_dispatchStep (fun visited name task =>
        (ih visited name task).map _) prompt visited name task

theorem oblivious_dispatch (prompt : String) (visited : List String) (name : String)
    (task : Errand) : Oblivious (dispatch prompt visited name task) := by
  apply Process.alike_look
  intro s t same
  rw [same.roster]
  exact oblivious_dispatchWithin prompt t.roster.size visited name task

end Session

namespace Dispatcher

open Session (Resembles Oblivious)

theorem oblivious_runSubtask (task : Subtask) : Oblivious (runSubtask task) := by
  apply (Session.oblivious_dispatch _ _ _ _).bind
  rintro ⟨visited, text⟩
  cases text with
  | none => exact .done _
  | some text =>
      dsimp only
      split
      · exact .done _
      · apply Process.alike_change _ (.done _)
        intro s t same
        exact Session.kept_write _ _ _ _ _ (Session.kept_write _ _ _ _ _ same)

/-! ## Calls -/

variable {s t : Session}

theorem breakUp_resembles (d : Dispatcher) (prompt : String) (same : s.Resembles t) :
    (d.breakUp prompt s).1.Resembles (d.breakUp prompt t).1 ∧
      (d.breakUp prompt s).2 = (d.breakUp prompt t).2 := by
  rw [breakUp, breakUp]
  cases distinct (Route.agentsFor d.routes prompt) with
  | nil => exact ⟨Session.kept_note _ _ _ _ _ same, rfl⟩
  | cons name names => exact ⟨same, rfl⟩

/-- Prompts are accepted alike at the same time. -/
theorem accept_resembles (d : Dispatcher) (prompt : String) (same : s.Resembles t)
    (sameTime : s.clock = t.clock) :
    (d.accept prompt s).1.Resembles (d.accept prompt t).1 ∧
      (d.accept prompt s).2 = (d.accept prompt t).2 := by
  rw [accept, accept, same.throttle, sameTime]
  cases t.throttle.acquire t.clock with
  | error wait => exact ⟨Session.kept_note _ _ _ _ _ same, rfl⟩
  | ok throttle =>
      apply breakUp_resembles
      obtain ⟨clock, journal, rfl⟩ := same.exists_eq
      exact Session.resembles_of_clock_journal _ _ _

/-- Prompts are handled alike at the same time, whatever the journal holds. -/
theorem handle_resembles (d : Dispatcher) (prompt : String) (same : s.Resembles t)
    (sameTime : s.clock = t.clock) :
    (d.handle prompt s).1.Resembles (d.handle prompt t).1 ∧
      (d.handle prompt s).2 = (d.handle prompt t).2 := by
  obtain ⟨accepted, sameArrival⟩ := accept_resembles d prompt same sameTime
  rw [handle, handle, handleWith, handleWith]
  generalize d.accept prompt s = first at accepted sameArrival ⊢
  generalize d.accept prompt t = second at accepted sameArrival ⊢
  rcases first with ⟨s, arrival⟩
  rcases second with ⟨t, _⟩
  obtain rfl := sameArrival
  cases arrival with
  | error fault => exact ⟨accepted, rfl⟩
  | ok tasks =>
      have alike : List.Forall₂ (Process.Alike Resembles) (tasks.map runSubtask)
          (tasks.map runSubtask) :=
        List.forall₂_same.mpr fun p pMem => by
          obtain ⟨task, -, rfl⟩ := List.mem_map.mp pMem
          exact oblivious_runSubtask task
      obtain ⟨left, results⟩ := Batch.alike_run alike accepted
      exact ⟨left, congrArg (fun texts => Finish.ofResults (texts.map (answer tasks))) results⟩

end Dispatcher

end PromptDispatch
