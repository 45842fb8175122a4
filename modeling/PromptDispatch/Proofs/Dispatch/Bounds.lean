import PromptDispatch.Proofs.Dispatch.OnMachine
import PromptDispatch.Proofs.Dispatch.Progress
import PromptDispatch.Proofs.Dispatch.Scheduling
import PromptDispatch.Proofs.Process.Raising
import PromptDispatch.Proofs.Store.Bounds
import PromptDispatch.Proofs.Store.DatabaseArchive

/-!
# The bounds of the store of a session

While prompts are called for and their jobs move on, others may ask anything of
the store as well: they save and merge, delete and clear, persist and load.
Whatever the order, the store of the session is within its bounds, also in the
middle of the turn of a job.

On a machine a job may be broken off as well, where it cannot be handed the entries of
its agent.  The bounds do not depend on it.
-/

namespace PromptDispatch

namespace Dispatcher

open Store (Limits Operation)

/-- The sessions and the unfinished and finished jobs that come about from a
session while prompts are called for, jobs move on, and others do as they like,
as long as they ask of the store what can be asked of it. -/
inductive Evolves (d : Dispatcher) (start : Session) : Session → List Job → Prop where
  | begin : Evolves d start start []
  | call {s : Session} {jobs : List Job} (prompt : String) (before : Evolves d start s jobs) :
      Evolves d start (d.accept prompt s).1
        (jobs ++ (arrivedTasks [(d.accept prompt s).2]).map .begin)
  | move {s : Session} {earlier later : List Job} {job : Job} (kind : Task.Move)
      (before : Evolves d start s (earlier ++ job :: later)) :
      Evolves d start (job.place.move kind s).1
        (earlier ++ ⟨job.task, (job.place.move kind s).2⟩ :: later)
  | meanwhile {s after : Session} {jobs : List Job} (operations : List Operation)
      (asked : after.store = s.store.performAll operations) (before : Evolves d start s jobs) :
      Evolves d start after jobs

variable {d : Dispatcher} {start s after : Session} {jobs : List Job} {limits : Limits}

/-! ## Jobs within bounds -/

/-- The conduct of processes that keep the store within bounds. -/
def keepingWithin (limits : Limits) : Conduct Session where
  holds s := s.store.Within limits
  acts s s' := s.store.Within limits → s'.store.Within limits
  parts s s' := s.store.Within limits → s'.store.Within limits
  halts := True
  idle _ := id
  keeps within acts := acts within

theorem within_of_acts {rules : Rules} (acts : Session.Acts rules s after)
    (within : s.store.Within limits) : after.store.Within limits := by
  rcases acts.store with same | ⟨name, key, value, -, written⟩
  · rw [same]
    exact within
  · rw [written]
    exact within.write _ _ _

theorem allows_keepingWithin (limits : Limits) : Session.Allows (keepingWithin limits) where
  acts _ _ acts := within_of_acts acts
  parts s s' parts := by
    have acts : Session.Acts .free s s' := parts.acts
    exact within_of_acts acts
  halts := trivial

theorem Report.within (report : Report) (within : s.store.Within limits) :
    (report.save s).store.Within limits :=
  (within.write _ _ _).write _ _ _

theorem heeds_begin_keepingWithin (limits : Limits) (task : Subtask) :
    (Job.begin task).place.Heeds (keepingWithin limits) :=
  ⟨fun _ within => within, heeds_runSubtask_of_allows (allows_keepingWithin limits)
    (fun report _ _ => report.within) task⟩

theorem Accepts.within {prompt : String} {arrival : Arrival}
    (accepts : Accepts prompt s after arrival) (within : s.store.Within limits) :
    after.store.Within limits := by
  rcases accepts.store with same | recorded
  · rw [same]
    exact within
  · rw [recorded]
    exact within.perform (.record (Prompt.sanitize prompt))

/-- On the way the store stays within its bounds, and what is left of every job
keeps it there. -/
theorem Evolves.within (begun : start.store.Within limits) (evolves : Evolves d start s jobs) :
    s.store.Within limits ∧ ∀ job ∈ jobs, job.place.Heeds (keepingWithin limits) := by
  induction evolves with
  | begin => exact ⟨begun, by simp⟩
  | call prompt _ ih =>
      rcases ih with ⟨within, heeds⟩
      constructor
      · exact (accepts_accept d prompt _).within within
      · rw [List.forall_mem_append, List.forall_mem_map]
        exact ⟨heeds, fun task _ => heeds_begin_keepingWithin limits task⟩
  | move kind _ ih =>
      rw [List.forall_mem_append, List.forall_mem_cons] at ih ⊢
      rcases ih with ⟨within, ahead, heeds, behind⟩
      obtain ⟨-, withinThen, left⟩ := heeds.move within (fun _ _ parts => parts) kind
      exact ⟨withinThen, ahead, left, behind⟩
  | meanwhile operations asked _ ih =>
      rw [asked]
      exact ⟨ih.1.performAll operations, ih.2⟩

/-! ## Jobs on a machine -/

/-- The task of a prompt's subtask on a machine, which may be broken off. -/
abbrev MachineTask := Task Session (Except Fault (Option String))

/-- The tasks of subtasks that have just begun on a machine. -/
def beginOn (machine : Machine) (subtasks : List Subtask) : List MachineTask :=
  (subtasks.map (runSubtaskOn machine)).map .ofProcess

/-- The sessions and the tasks that come about from a session on a machine, while prompts
are called for, tasks move on, and others do as they like, as long as they ask of the
store what can be asked of it.  What is broken off there leaves the store as it is. -/
inductive EvolvesOn (machine : Machine) (d : Dispatcher) (start : Session) :
    Session → List MachineTask → Prop where
  | begin : EvolvesOn machine d start start []
  | call {s : Session} {tasks : List MachineTask} (prompt : String)
      (before : EvolvesOn machine d start s tasks) :
      EvolvesOn machine d start (d.accept prompt s).1
        (tasks ++ beginOn machine (arrivedTasks [(d.accept prompt s).2]))
  | move {s : Session} {earlier later : List MachineTask} {task : MachineTask}
      (kind : Task.Move) (before : EvolvesOn machine d start s (earlier ++ task :: later)) :
      EvolvesOn machine d start (task.move kind s).1 (earlier ++ (task.move kind s).2 :: later)
  | meanwhile {s after : Session} {tasks : List MachineTask} (operations : List Operation)
      (asked : after.store = s.store.performAll operations)
      (before : EvolvesOn machine d start s tasks) : EvolvesOn machine d start after tasks

/-- The session that is left on a machine when a prompt was processed there, or entries
were loaded or saved. -/
inductive ProcessedOn (machine : Machine) (d : Dispatcher) (s : Session) : Session → Prop where
  | handle (prompt : String) : ProcessedOn machine d s (d.handleOn machine prompt s).1
  | receive (prompt : String) : ProcessedOn machine d s (d.receiveOn machine prompt s).1
  | load : ProcessedOn machine d s (s.loadOn machine).1
  | persist : ProcessedOn machine d s (s.persistOn machine).1

variable {machine : Machine} {tasks : List MachineTask}

/-- Whatever a batch does with the last tasks is on the way as well. -/
theorem EvolvesOn.stirs {begun left : List MachineTask}
    (before : EvolvesOn machine d start s (tasks ++ begun))
    (stirs : Batch.Stirs s begun after left) : EvolvesOn machine d start after (tasks ++ left) := by
  induction stirs with
  | refl => exact before
  | move kind _ ih =>
      rw [← List.append_assoc] at ih ⊢
      exact ih.move kind

theorem EvolvesOn.handleOn (before : EvolvesOn machine d start s tasks) (prompt : String) :
    ∃ more, EvolvesOn machine d start (d.handleOn machine prompt s).1 (tasks ++ more) := by
  have called := before.call prompt
  rw [Dispatcher.handleOn]
  rcases accepted : d.accept prompt s with ⟨middle, arrival⟩
  rw [accepted] at called
  cases arrival with
  | error fault => exact ⟨_, called⟩
  | ok subtasks =>
      have begun : arrivedTasks [.ok subtasks] = subtasks := List.append_nil subtasks
      rw [begun] at called
      rcases Batch.stirs_runRaising (subtasks.map (runSubtaskOn machine)) middle with
        ⟨left, stirs⟩
      refine ⟨left, ?_⟩
      have evolves := called.stirs stirs
      dsimp only
      split
      · next ran => rwa [ran] at evolves
      · next ran => rwa [ran] at evolves
      · next ran => rwa [ran] at evolves

/-- So is the session that anything done on a machine ends with. -/
theorem EvolvesOn.processed (before : EvolvesOn machine d start s tasks)
    (processed : ProcessedOn machine d s after) :
    ∃ more, EvolvesOn machine d start after (tasks ++ more) := by
  have unasked {later : Session} (same : later.store = s.store) :
      ∃ more, EvolvesOn machine d start later (tasks ++ more) := by
    refine ⟨[], ?_⟩
    rw [List.append_nil]
    exact before.meanwhile [] same
  cases processed with
  | handle prompt => exact before.handleOn prompt
  | receive prompt => exact before.handleOn prompt
  | load =>
      cases crashed : s.archive.loadCrash? machine s.disk with
      | some crash =>
          rw [Session.loadOn_of_crash crashed]
          exact unasked rfl
      | none =>
          rw [Session.loadOn_of_passes crashed]
          refine ⟨[], ?_⟩
          rw [List.append_nil]
          exact before.meanwhile [.load s.archive s.disk] rfl
  | persist =>
      cases overtaxes : s.archive.persistFault? machine s.disk s.store with
      | some fault =>
          rw [Session.persistOn_of_fault overtaxes]
          exact unasked rfl
      | none =>
          rw [Session.persistOn_of_passes overtaxes]
          exact unasked (Archive.store_persist s.archive s.disk s.store)

theorem heeds_beginOn_keepingWithin (limits : Limits) (machine : Machine)
    (subtasks : List Subtask) :
    ∀ task ∈ beginOn machine subtasks, task.Heeds (keepingWithin limits) := by
  rw [beginOn, List.map_map, List.forall_mem_map]
  intro subtask _
  exact ⟨fun _ within => within, heeds_runSubtaskOn_of_allows (allows_keepingWithin limits)
    (fun report _ _ => report.within) machine subtask⟩

/-- On the way the store stays within its bounds, and what is left of every task keeps it
there. -/
theorem EvolvesOn.within (begun : start.store.Within limits)
    (evolves : EvolvesOn machine d start s tasks) :
    s.store.Within limits ∧ ∀ task ∈ tasks, task.Heeds (keepingWithin limits) := by
  induction evolves with
  | begin => exact ⟨begun, by simp⟩
  | call prompt _ ih =>
      rcases ih with ⟨within, heeds⟩
      constructor
      · exact (accepts_accept d prompt _).within within
      · rw [List.forall_mem_append]
        exact ⟨heeds, heeds_beginOn_keepingWithin limits machine _⟩
  | move kind _ ih =>
      rw [List.forall_mem_append, List.forall_mem_cons] at ih ⊢
      rcases ih with ⟨within, ahead, heeds, behind⟩
      obtain ⟨-, withinThen, left⟩ := heeds.move within (fun _ _ parts => parts) kind
      exact ⟨withinThen, ahead, left, behind⟩
  | meanwhile operations asked _ ih =>
      rw [asked]
      exact ⟨ih.1.performAll operations, ih.2⟩

/-- The store of a session that starts empty fits its bounds at every moment on a machine:
whenever control passes, in the middle of the turn of a task, and after prompts were
processed there or entries were loaded or saved, whatever was asked of the store in
between. -/
theorem store_fits (empty : start.store = .empty limits)
    (evolves : EvolvesOn machine d start s tasks) :
    s.store.Fits machine limits ∧
    (∀ task ∈ tasks, ∀ onCancel rest inside, task = .waiting onCancel rest →
      rest.Passes s inside → inside.store.Fits machine limits) ∧
    ∀ after, ProcessedOn machine d s after → after.store.Fits machine limits ∧
      ∃ more, EvolvesOn machine d start after (tasks ++ more) := by
  have begun : start.store.Within limits := by
    rw [empty]
    exact Store.within_empty limits
  obtain ⟨within, heeds⟩ := evolves.within begun
  refine ⟨within.fits machine, ?_, ?_⟩
  · rintro _ taskMem onCancel rest inside rfl passes
    have acts := (heeds _ taskMem).2.passes passes within
    have withinThen : (keepingWithin limits).holds inside := Conduct.holds_of_reflTransGen within acts
    exact Store.Within.fits withinThen machine
  · intro after processed
    rcases evolves.processed processed with ⟨more, evolvesThen⟩
    exact ⟨(evolvesThen.within begun).1.fits machine, more, evolvesThen⟩

/-- The session of the two agents with a store of given bounds. -/
def pairWithin (limits : Limits) : Session := { pairSession with store := .empty limits }

/-- Rows of more entries than there is room for. -/
def crowdedRows : List Disk.Row :=
  [⟨some "coder", some "plan", some "[true]"⟩, ⟨some "coder", some "limits", some "7"⟩,
    ⟨some "coder", some "plan", some "[]"⟩]

/-- What is asked of the store while two jobs are going on. -/
def crowdedRun : List Operation :=
  [.save (some "coder") (some "draft") .null,
    .load Archive.notesDatabase (Archive.diskOfRows crowdedRows), .record "Hello"]

/-- There is room for one entry of each agent and for one prompt.  While two tasks are
going on, more is loaded than that and another prompt is kept. -/
theorem store_fits_pairWithin :
    let limits := Archive.roomFor 1 (Nat.le_refl 1)
    (pairWithin limits).store = .empty limits ∧
      ∃ s tasks, EvolvesOn .standard forPair (pairWithin limits) s tasks ∧ tasks.length = 2 ∧
        s.store.copied .standard (some "coder") = .ok [(some "limits", .int 7)] ∧
        s.store.prompts = ["Hello"] ∧ s.store.Fits .standard limits ∧
        (forPair.receiveOn .standard "Fix the docs" s).1.store.Fits .standard limits := by
  intro limits
  have empty : (pairWithin limits).store = .empty limits := rfl
  have begun : EvolvesOn .standard forPair (pairWithin limits) _ _ := .begin
  have called := begun.call "Fix the <b>docs</b>"
  let middle := (forPair.accept "Fix the <b>docs</b>" (pairWithin limits)).1
  let s := { middle with store := middle.store.performAll crowdedRun }
  have asked : s.store = middle.store.performAll crowdedRun := rfl
  have evolves := called.meanwhile crowdedRun asked
  obtain ⟨fits, -, processed⟩ := store_fits empty evolves
  obtain ⟨fitsThen, -⟩ := processed _ (.receive "Fix the docs")
  refine ⟨empty, s, _, evolves, by decide +kernel, ?_, by decide +kernel, fits, fitsThen⟩
  have loaded (prompts : List String) : (Store.performAll ⟨limits, [], prompts⟩ crowdedRun).copied
      .standard (some "coder") = .ok [(some "limits", .int 7)] := rfl
  rw [asked]
  rcases (accepts_accept forPair "Fix the <b>docs</b>" (pairWithin limits)).store with
    same | recorded
  · rw [same]
    exact loaded []
  · rw [recorded]
    exact loaded _

/-- A lock that an agent keeps is an entry like any other, and nothing of the agent is
handed out. -/
theorem store_refuses_pairWithin :
    let limits := Archive.roomFor 1 (Nat.le_refl 1)
    (pairWithin limits).store = .empty limits ∧
      ∃ s, EvolvesOn .standard forPair (pairWithin limits) s [] ∧
        s.store.size (some "coder") = 1 ∧ s.store.has (some "coder") (some "guard") = true ∧
        s.store.copied .standard (some "coder") =
          .error (.badKind "cannot pickle '_thread.lock' object") := by
  intro limits
  let s := { pairWithin limits with
    store := (Store.empty limits).performAll
      [.save (some "coder") (some "guard") (.sealed "lock")] }
  have begun : EvolvesOn .standard forPair (pairWithin limits) _ _ := .begin
  exact ⟨rfl, s, begun.meanwhile _ rfl, rfl, rfl, rfl⟩

end Dispatcher

end PromptDispatch
