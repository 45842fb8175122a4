import PromptDispatch.Proofs.Dispatch.Admission
import PromptDispatch.Proofs.Process.Outcome

/-!
# Cancellation

A batch of subtasks and the batch of a prompt may be called off at any moment
between the creation of their tasks and their end.  Among agents that never end
by a cancellation of their own, the call then ends by a cancellation, and only
after every task.  A task that was unfinished gets nothing done any more but
the last words of the pause at which it stood; what the others saved stays, and
so do the time and the text that a prompt left when it was let in.
-/

namespace PromptDispatch

/-- The rules for agents that never end by a cancellation of their own. -/
def Rules.patient : Rules where
  saving _ := True
  halting := False

namespace Session

variable {α : Type} {fit : Agent → Prop}

/-- The conduct of processes that never end by a cancellation of their own. -/
def patience (fit : Agent → Prop) : Conduct Session where
  holds s := s.roster.All fit
  acts s s' := s'.roster.agents ⊆ s.roster.agents ∧ KeepsCalls s s'
  parts := Parts
  halts := False
  idle s := ⟨List.Subset.refl _, .refl s⟩
  keeps holds acts := fun agent agentMem => holds agent (acts.1 agentMem)

theorem Acts.patience {rules : Rules} {s s' : Session} (acts : Acts rules s s') :
    (patience fit).acts s s' :=
  ⟨acts.roster, acts.keepsCalls⟩

theorem heeds_patience {p : Process Session α} (heeds : p.Heeds (conduct .patient fit)) :
    p.Heeds (patience fit) :=
  heeds.mono (fun _ holds => holds) (fun _ _ acts => acts.patience) (fun _ _ parts => parts)
    fun halts => halts

/-! ## After a call was called off -/

/-- A moment after a call was called off. -/
structure Aftermath (l l' : Loop Session α) : Prop where
  /-- a call that has ended did so by a cancellation and after all its tasks -/
  last : ∀ result, l'.finish = some result → result = none ∧ ∀ t ∈ l'.tasks, t.ended = true
  /-- a task is as it was then, or it was unfinished and is cancelled -/
  since : Loop.SinceThen l.tasks l'.tasks
  /-- the next thing that is done is to cancel one task, if it is anything -/
  next : l'.Cancels l'.pop.state l'.pop.tasks
  /-- and all it can do to the session is to add the last words of that task -/
  words : Parts l'.state l'.pop.state

/-- A call may be called off at any moment before it has ended. -/
structure Cancellable (fit : Agent → Prop) (start : Loop Session α) : Prop where
  aftermath : ∀ l, start.Comes (patience fit) l → l.finish = none →
    ∀ l', l.callOff.Comes (patience fit) l' → Aftermath l l'
  /-- the call ends when all that was to come has been done, whatever others do
  before each thing that is -/
  ends : ∀ l, start.Comes (patience fit) l → l.finish = none →
    ∀ others : Nat → Session → Session,
      (∀ n s, s.roster.All fit → (others n s).roster.All fit) →
        ∀ n, l.callOff.remaining ≤ n → (Loop.after others n l.callOff).finish = some none
  /-- neither before nor after are the throttle and the kept prompts touched -/
  keeps : ∀ l, start.Comes (patience fit) l → KeepsCalls l.state l.pop.state ∧
    (l.finish = none → ∀ l', l.callOff.Comes (patience fit) l' →
      KeepsCalls l'.state l'.pop.state)

theorem Parts.keepsCalls {s s' : Session} (parts : Parts s s') : KeepsCalls s s' := by
  have acts : Acts .free s s' := parts.acts
  exact acts.keepsCalls

theorem ready_patience {ps : List (Process Session α)} (some_task : ps ≠ [])
    (heeds : ∀ p ∈ ps, p.Heeds (patience fit)) {start : Session} (fits : start.roster.All fit) :
    Loop.Ready (patience fit) ps start :=
  ⟨fun halts => halts, some_task, heeds, fun _ => .silently, fits⟩

theorem cancellable_begin {ps : List (Process Session α)} {start : Session}
    (ready : Loop.Ready (patience fit) ps start) : Cancellable fit (.begin ps start) := by
  have never := ready.never
  have sound := ready.sound
  have words (l l' : Loop Session α) (comes : (Loop.begin ps start).Comes (patience fit) l)
      (unfinished : l.finish = none) (later : l.callOff.Comes (patience fit) l') :
      l'.Cancels l'.pop.state l'.pop.tasks ∧ Parts l'.state l'.pop.state := by
    have soundThen := comes.sound never sound
    have soundLater := later.sound never soundThen.callOff
    have cancels := ((later.calledOff never soundThen unfinished).1.pop soundLater).cancels
    refine ⟨cancels, ?_⟩
    generalize l'.pop.state = s at cancels
    generalize l'.pop.tasks = ts at cancels
    cases cancels with
    | nothing => exact .silently
    | cancel waits => exact (soundLater.heeds _ (List.mem_of_getElem? waits)).1 l'.state
  refine ⟨?_, ?_, ?_⟩
  · intro l comes unfinished l' later
    have soundThen := comes.sound never sound
    have soundLater := later.sound never soundThen.callOff
    obtain ⟨calledOff, since⟩ := later.calledOff never soundThen unfinished
    obtain ⟨next, said⟩ := words l l' comes unfinished later
    refine ⟨?_, since, next, said⟩
    intro result finish
    exact ⟨calledOff.failed result finish, soundLater.ended_of_finish finish⟩
  · intro l comes unfinished others keeps n enough
    exact Loop.finish_after never (comes.sound never sound) unfinished keeps enough
  · intro l comes
    have acts : Relation.ReflTransGen (patience fit).acts l.state l.pop.state := by
      apply (comes.sound never sound).acts_pop
      intro s s' parts
      have acts : Acts .free s s' := parts.acts
      exact acts.patience
    have keeps : Relation.ReflTransGen KeepsCalls l.state l.pop.state :=
      Relation.ReflTransGen.mono (fun _ _ acts => acts.2) _ _ acts
    refine ⟨keepsCalls_of_reflTransGen keeps, ?_⟩
    intro unfinished l' later
    exact (words l l' comes unfinished later).2.keepsCalls

/-! ## Calls that are called off between two rounds -/

/-- What a call that is called off has come to when it ends, if nobody else
changes the session. -/
structure Stopped (l : Loop Session α) (after : Session) : Prop where
  comes : ∃ n, (Loop.pop^[n] l.callOff).state = after ∧
    (Loop.pop^[n] l.callOff).finish = some none
  /-- since then at most the last words of each unfinished task were added -/
  words : ∃ words : List String, words.length ≤ (l.tasks.filter fun t => !t.ended).length ∧
    after = { l.state with events := l.state.events ++ words }

theorem words_cancelAll {ts : List (Task Session α)} (heeds : ∀ t ∈ ts, t.Heeds (patience fit))
    (s : Session) :
    ∃ words : List String, words.length ≤ (ts.filter fun t => !t.ended).length ∧
      (Batch.cancelAll ts s).1 = { s with events := s.events ++ words } := by
  induction ts generalizing s with
  | nil => exact ⟨[], Nat.le_refl 0, by simp [Batch.cancelAll, Batch.each]⟩
  | cons t ts ih =>
      have rest (s : Session) := ih (fun other mem => heeds other (List.mem_cons_of_mem _ mem)) s
      cases t with
      | waiting onCancel next =>
          have parts : Parts s (onCancel s) := (heeds _ List.mem_cons_self).1 s
          obtain ⟨words, few, same⟩ := rest (onCancel s)
          have cancelled : (Batch.cancelAll (.waiting onCancel next :: ts) s).1 =
              (Batch.cancelAll ts (onCancel s)).1 := rfl
          rw [cancelled, same]
          generalize onCancel s = said at parts
          cases parts with
          | silently => exact ⟨words, by simpa [Task.ended] using Nat.le_succ_of_le few, rfl⟩
          | speaking event =>
              refine ⟨event :: words, by simpa [Task.ended] using few, ?_⟩
              simp [emit]
      | _ =>
          obtain ⟨words, few, same⟩ := rest s
          exact ⟨words, by simpa [Task.ended] using few, same⟩

/-- A batch that is cancelled after a number of turns has come to what the call
comes to when it is called off after as many rounds. -/
theorem exists_stopped {ps : List (Process Session α)} {start : Session}
    (ready : Loop.Ready (patience fit) ps start) {count : Nat}
    (unfinished : (Loop.rounds count (.begin ps start)).finish = none) :
    ∃ after, Stopped (Loop.rounds count (.begin ps start)) after ∧
      Batch.runCancelled count ps start = (after, none) := by
  have never := ready.never
  have sound := ready.sound
  have comes : (Loop.begin ps start).Comes (patience fit) (Loop.rounds count (.begin ps start)) :=
    Loop.comes_rounds count _
  have soundThen := comes.sound never sound
  have ran := ready.runCancelled_eq unfinished (Nat.le_refl _)
  refine ⟨_, ⟨⟨_, rfl, ?_⟩, ?_⟩, ran⟩
  · rw [← Loop.after_of_idle]
    exact Loop.finish_after never soundThen unfinished (fun _ _ holds => holds) (Nat.le_refl _)
  · have between := ((Loop.inRound_begin ps start).rounds never sound count).2.2
    rw [Loop.state_callOff_of_inRound soundThen unfinished between (Nat.le_refl _)]
    exact words_cancelAll soundThen.heeds _

/-! ## Batches of subtasks -/

/-- The tasks of a batch, when they have just been created. -/
def batchLoop (tasks : List Subtask) (s : Session) : Loop Session Outcome :=
  .begin ((Subtask.byPriority tasks).map runSubtask)
    (s.announce (Subtask.byPriority tasks).length)

/-- What cancelling a batch of subtasks comes to. -/
structure BatchCancels (s : Session) (tasks : List Subtask) : Prop where
  cancellable : Cancellable (Agent.ObeysInBatches .patient) (s.batchLoop tasks)
  /-- to be cancelled after a number of turns is to be called off between two
  rounds of the event loop -/
  calledOff : ∀ count, (Loop.rounds count (s.batchLoop tasks)).finish = none →
    ∃ after, Stopped (Loop.rounds count (s.batchLoop tasks)) after ∧
      s.runSubtasksCancelled count tasks = (after, .cancelled)
  /-- a batch that nobody calls off ends -/
  finishes : ∃ count result, (Loop.rounds count (s.batchLoop tasks)).finish = some result
  /-- a batch that has ended by then ended as if nobody called it off -/
  ended : ∀ count result, (Loop.rounds count (s.batchLoop tasks)).finish = some result →
    s.runSubtasks tasks =
        ((Loop.rounds count (s.batchLoop tasks)).state, .ofResults result) ∧
      s.runSubtasksCancelled count tasks = s.runSubtasks tasks

theorem runBatch_eq {runner : List (Process Session Outcome) → Session →
      Session × Option (List Outcome)} {tasks : List Subtask} (some_task : tasks ≠ [])
    {s after : Session} {results : Option (List Outcome)}
    (ran : runner ((Subtask.byPriority tasks).map runSubtask)
      (s.announce (Subtask.byPriority tasks).length) = (after, results)) :
    runBatch runner tasks s = (after, .ofResults results) := by
  rw [runBatch, if_neg (by simpa using some_task)]
  dsimp only
  rw [ran]

theorem batchCancels {tasks : List Subtask} (some_task : tasks ≠ []) {s : Session}
    (fits : s.roster.All (Agent.ObeysInBatches .patient)) : s.BatchCancels tasks := by
  have some_process : (Subtask.byPriority tasks).map runSubtask ≠ [] := by
    rw [Ne, List.map_eq_nil_iff, ← List.length_eq_zero_iff, Subtask.byPriority,
      List.length_mergeSort, List.length_eq_zero_iff]
    exact some_task
  have heeds : ∀ p ∈ (Subtask.byPriority tasks).map runSubtask,
      p.Heeds (patience (Agent.ObeysInBatches .patient)) := by
    simp only [List.forall_mem_map]
    exact fun task _ => heeds_patience (heeds_runSubtask task)
  have fitsThen : (s.announce (Subtask.byPriority tasks).length).roster.All
      (Agent.ObeysInBatches .patient) := fits
  have ready := ready_patience some_process heeds fitsThen
  refine ⟨cancellable_begin ready, ?_, ready.exists_finish_rounds, ?_⟩
  · intro count unfinished
    obtain ⟨after, stopped, ran⟩ := exists_stopped ready unfinished
    exact ⟨after, stopped, runBatch_eq some_task ran⟩
  · intro count result ended
    obtain ⟨ran, cancelled⟩ := ready.run_eq_of_finish ended
    rw [runSubtasks, runSubtasksCancelled, runBatch_eq some_task ran,
      runBatch_eq some_task cancelled]
    exact ⟨rfl, rfl⟩

end Session

namespace Dispatcher

open Session (patience KeepsCalls Cancellable Stopped)

/-- The tasks of a prompt, when they have just been created. -/
def promptLoop (tasks : List Subtask) (s : Session) : Loop Session (Option String) :=
  .begin (tasks.map runSubtask) s

theorem heeds_runSubtask_patience (task : Subtask) :
    (runSubtask task).Heeds (patience (Agent.ObeysInChains .patient)) := by
  rw [runSubtask_eq]
  apply (Session.heeds_patience (Session.heeds_dispatch _ _ _ _)).bind
  rintro ⟨visited, text⟩
  cases text with
  | none => trivial
  | some text =>
      rw [closing]
      split
      · trivial
      · apply Process.heeds_change
        · intro s _
          exact ⟨List.Subset.refl _, Report.keepsCalls ⟨task.agent, task.input, text⟩ s⟩
        · trivial

/-- A prompt that is let in has a task. -/
theorem subtasksFor_ne_nil {prompt : String} {names : List String} {tasks : List Subtask}
    (some_name : names ≠ []) (broken : subtasksFor prompt names = .ok tasks) : tasks ≠ [] := by
  rw [subtasksFor.eq_def] at broken
  split at broken
  · exact absurd rfl some_name
  · split at broken
    · simp at broken
    · rcases exists_of_map_eq_ok broken with ⟨rest, -, rfl⟩
      exact List.cons_ne_nil _ _

theorem ne_nil_of_accept {d : Dispatcher} {prompt : String} {s after : Session}
    {tasks : List Subtask} (accepted : d.accept prompt s = (after, .ok tasks)) : tasks ≠ [] := by
  rw [accept] at accepted
  split at accepted
  · simp at accepted
  · rw [breakUp.eq_def] at accepted
    split at accepted
    · exact subtasksFor_ne_nil (List.cons_ne_nil _ _) (Prod.ext_iff.mp accepted).2
    · next some_name => exact subtasksFor_ne_nil some_name (Prod.ext_iff.mp accepted).2

/-- What cancelling a prompt comes to that was let in. -/
structure PromptCancels (d : Dispatcher) (prompt : String) (s begun : Session)
    (tasks : List Subtask) : Prop where
  /-- the time and the text of the prompt were kept when it was let in -/
  timed : begun.throttle.accepted = some s.clock
  recorded : begun.store = s.store.record (Prompt.sanitize prompt)
  cancellable : Cancellable (Agent.ObeysInChains .patient) (promptLoop tasks begun)
  /-- to be cancelled after a number of turns is to be called off between two
  rounds of the event loop -/
  calledOff : ∀ count, (Loop.rounds count (promptLoop tasks begun)).finish = none →
    ∃ after, Stopped (Loop.rounds count (promptLoop tasks begun)) after ∧
      KeepsCalls begun after ∧
      d.handleWith (Batch.runCancelled count) prompt s = (after, .cancelled) ∧
      d.receiveCancelled count prompt s = (after, .cancelled)
  /-- a prompt that nobody calls off ends -/
  finishes : ∃ count result, (Loop.rounds count (promptLoop tasks begun)).finish = some result
  /-- a prompt that has ended by then ended as if nobody called it off -/
  ended : ∀ count result, (Loop.rounds count (promptLoop tasks begun)).finish = some result →
    d.handle prompt s = ((Loop.rounds count (promptLoop tasks begun)).state,
        .ofResults (result.map (answer tasks))) ∧
      d.handleWith (Batch.runCancelled count) prompt s = d.handle prompt s ∧
      d.receiveCancelled count prompt s = d.receive prompt s

theorem handleWith_eq {runner : Runner} {d : Dispatcher} {prompt : String} {s begun : Session}
    {tasks : List Subtask} (accepted : d.accept prompt s = (begun, .ok tasks)) {after : Session}
    {texts : Option (List (Option String))}
    (ran : runner (tasks.map runSubtask) begun = (after, texts)) :
    d.handleWith runner prompt s = (after, .ofResults (texts.map (answer tasks))) := by
  rw [handleWith, accepted]
  dsimp only
  rw [ran]

theorem promptCancels {d : Dispatcher} {prompt : String} {s begun : Session}
    {tasks : List Subtask} (fits : s.roster.All (Agent.ObeysInChains .patient))
    (accepted : d.accept prompt s = (begun, .ok tasks)) :
    d.PromptCancels prompt s begun tasks := by
  have accepts := accepts_accept d prompt s
  rw [accepted] at accepts
  have fitsThen : begun.roster.All (Agent.ObeysInChains .patient) := by
    rw [accepts.roster]
    exact fits
  have some_process : tasks.map runSubtask ≠ [] := by
    rw [Ne, List.map_eq_nil_iff]
    exact ne_nil_of_accept accepted
  have heeds : ∀ p ∈ tasks.map runSubtask,
      p.Heeds (patience (Agent.ObeysInChains .patient)) := by
    simp only [List.forall_mem_map]
    exact fun task _ => heeds_runSubtask_patience task
  have kept : begun.throttle.accepted = some s.clock ∧
      begun.store = s.store.record (Prompt.sanitize prompt) := by
    cases accepts with
    | letIn lines arrival passes outside unthrottled => exact ⟨rfl, rfl⟩
  have ready := Session.ready_patience some_process heeds fitsThen
  refine ⟨kept.1, kept.2, Session.cancellable_begin ready, ?_, ready.exists_finish_rounds, ?_⟩
  · intro count unfinished
    obtain ⟨after, stopped, ran⟩ := Session.exists_stopped ready unfinished
    have keeps := (orderly_runCancelled count).keepsCalls tasks begun
    rw [ran] at keeps
    have handled : d.handleWith (Batch.runCancelled count) prompt s = (after, .cancelled) :=
      handleWith_eq accepted ran
    refine ⟨after, stopped, keeps, handled, ?_⟩
    rw [receiveCancelled, handled]
    rfl
  · intro count result ended
    obtain ⟨ran, cancelled⟩ := ready.run_eq_of_finish ended
    have handled := handleWith_eq accepted ran
    have same : d.handleWith (Batch.runCancelled count) prompt s = d.handle prompt s :=
      (handleWith_eq accepted cancelled).trans handled.symm
    refine ⟨handled, same, ?_⟩
    rw [receiveCancelled, same, receive]

/-- An agent that takes its time for a run, and even more to follow it up. -/
def working (name : String) (turns : Nat) : Agent where
  name := name
  capabilities := []
  kind := none
  run := fun _ _ => .pauses (some ("cancelled: " ++ name)) turns fun _ =>
    .done (.text (name ++ " is done"))
  afterSubtask := some fun _ _ => .pauses (some ("left: " ++ name)) 9 fun _ => .done (.text "")
  start := none
  stop := none

theorem obeys_pauses {rules : Rules} {lastWords : Option String} {next : Unit → Behaviour}
    (obeys : (next ()).Obeys rules) (times : Nat) :
    (Behaviour.pauses lastWords times next).Obeys rules := by
  induction times with
  | zero => exact obeys
  | succ times ih => exact ih

/-- A session with a quick agent and a slow one. -/
def workingSession : Session :=
  { pairSession with roster := ⟨[working "writer" 1, working "coder" 9]⟩ }

/-- A subtask for each of the two. -/
def workingTasks : List Subtask := [⟨"writer", "docs", 1, []⟩, ⟨"coder", "docs", 0, []⟩]

end Dispatcher

end PromptDispatch
