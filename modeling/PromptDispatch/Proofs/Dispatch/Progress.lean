import PromptDispatch.Proofs.Dispatch.Report

/-!
# The progress of prompts

Prompts may be called for at any time, while the jobs of earlier ones are still
going on.  What has come of all calls so far is a progress: the session, the
jobs, the prompts that were let in, and the reports in the order in which the
jobs ended.  It unfolds by single events: a call, a move of one job, or the
passing of time.  Handling prompts one after another or together, with or
without a cancellation from outside, is one way for it to unfold.

Told without its jobs, a progress is a chronicle of calls, acts of agents and
reports.
-/

namespace PromptDispatch

namespace Dispatcher

/-! ## Calls -/

/-- All that accepting a prompt does: it is turned away and only that is noted,
or the time of the call and its sanitized text are kept before anything else
happens. -/
inductive Accepts (prompt : String) (s : Session) : Session → Arrival → Prop where
  | turnedAway (wait : Binary64) (waits : s.throttle.wait? s.clock = some wait) :
      Accepts prompt s
        (s.note .warning .dispatcher ("Prompt rejected: " ++ (Fault.rateLimited wait).message))
        (.error (.rateLimited wait))
  | letIn (lines : List Journal.Line) (arrival : Arrival)
      (passes : s.throttle.wait? s.clock = none)
      (outside : ∀ line ∈ lines, line.part ≠ .store)
      (unthrottled : ∀ wait, arrival ≠ .error (.rateLimited wait)) :
      Accepts prompt s
        { s with
          throttle := { s.throttle with accepted := some s.clock }
          store := s.store.record (Prompt.sanitize prompt)
          journal := s.journal ++ lines }
        arrival

theorem subtasksFor_ne_rateLimited (prompt : String) (names : List String) (wait : Binary64) :
    subtasksFor prompt names ≠ .error (.rateLimited wait) := by
  induction names with
  | nil => simp [subtasksFor]
  | cons name names ih =>
      rw [subtasksFor]
      split
      · simp
      · cases rest : subtasksFor prompt names with
        | error fault =>
            intro same
            apply ih
            rw [rest]
            exact congrArg _ (Except.error.inj same)
        | ok tasks => simp [Except.map]

/-- Breaking a prompt up reports something at most. -/
theorem exists_breakUp_eq (d : Dispatcher) (prompt : String) (s : Session) :
    ∃ lines names, (∀ line ∈ lines, line.part ≠ Journal.Part.store) ∧
      d.breakUp prompt s = (s.report lines, subtasksFor prompt names) := by
  rw [breakUp.eq_def]
  split
  · refine ⟨[⟨.info, .dispatcher, _⟩], [d.defaultAgent], ?_, rfl⟩
    simp
  · refine ⟨[], distinct (Route.agentsFor d.routes prompt), by simp, ?_⟩
    simp [Session.report]

theorem accepts_accept (d : Dispatcher) (prompt : String) (s : Session) :
    Accepts prompt s (d.accept prompt s).1 (d.accept prompt s).2 := by
  rw [accept, Throttle.acquire]
  cases waits : s.throttle.wait? s.clock with
  | some wait => exact .turnedAway wait waits
  | none =>
      dsimp only
      obtain ⟨lines, names, outside, broken⟩ :=
        exists_breakUp_eq d (Prompt.sanitize prompt) { s with
          throttle := { s.throttle with accepted := some s.clock }
          store := s.store.record (Prompt.sanitize prompt)
          journal := s.journal ++
            [⟨.info, .dispatcher, "Received prompt: " ++ Prompt.sanitize prompt⟩] }
      have admitted : Accepts prompt s _ _ := .letIn
        (⟨.info, .dispatcher, "Received prompt: " ++ Prompt.sanitize prompt⟩ :: lines)
        (subtasksFor (Prompt.sanitize prompt) names) waits
        (List.forall_mem_cons.mpr ⟨by simp, outside⟩) (subtasksFor_ne_rateLimited _ names)
      rw [List.append_cons] at admitted
      rw [Session.note, Session.report, broken]
      exact admitted

theorem Accepts.roster {prompt : String} {s after : Session} {arrival : Arrival}
    (accepts : Accepts prompt s after arrival) : after.roster = s.roster := by
  cases accepts with
  | turnedAway wait waits => rfl
  | letIn lines arrival passes outside unthrottled => rfl

/-- Accepting a prompt keeps the entries of all agents. -/
theorem Accepts.store {prompt : String} {s after : Session} {arrival : Arrival}
    (accepts : Accepts prompt s after arrival) :
    after.store = s.store ∨ after.store = s.store.record (Prompt.sanitize prompt) := by
  cases accepts with
  | turnedAway wait waits => exact .inl rfl
  | letIn lines arrival passes outside unthrottled => exact .inr rfl

theorem roster_accept (d : Dispatcher) (prompt : String) (s : Session) :
    (d.accept prompt s).1.roster = s.roster :=
  (accepts_accept d prompt s).roster

/-- The prompts that a call lets in. -/
def letIn (prompt : String) (s : Session) : List String :=
  match s.throttle.wait? s.clock with
  | none => [prompt]
  | some _ => []

/-! ## Progress -/

/-- What has come of the calls for prompts so far. -/
structure Progress where
  session : Session
  jobs : List Job
  /-- the prompts that were let in, oldest first -/
  admitted : List String
  /-- what jobs reported, in the order in which they ended -/
  reports : List Report

/-- The progress that comes about from a session, event by event. -/
inductive Unfolds (d : Dispatcher) (start : Session) : Progress → Prop where
  | begin : Unfolds d start ⟨start, [], [], []⟩
  | call {p : Progress} (prompt : String) (before : Unfolds d start p) :
      Unfolds d start {
        session := (d.accept prompt p.session).1
        jobs := p.jobs ++ (arrivedTasks [(d.accept prompt p.session).2]).map .begin
        admitted := p.admitted ++ letIn prompt p.session
        reports := p.reports }
  | move {s : Session} {earlier later : List Job} {job : Job} {admitted : List String}
      {reports : List Report} (kind : Task.Move)
      (before : Unfolds d start ⟨s, earlier ++ job :: later, admitted, reports⟩) :
      Unfolds d start {
        session := (job.place.move kind s).1
        jobs := earlier ++ ⟨job.task, (job.place.move kind s).2⟩ :: later
        admitted := admitted
        reports := reports ++ job.reported (job.place.move kind s).2 }
  | wait {p : Progress} (span : Binary64) (before : Unfolds d start p) :
      Unfolds d start { p with session := p.session.advance span }

/-- What happened to a session on the way, with the prompts let in and the
reports. -/
inductive Chronicle (rules : Rules) (d : Dispatcher) (start : Session) :
    Session → List String → List Report → Prop where
  | begin : Chronicle rules d start start [] []
  | call {s : Session} {admitted : List String} {reports : List Report} (prompt : String)
      (before : Chronicle rules d start s admitted reports) :
      Chronicle rules d start (d.accept prompt s).1 (admitted ++ letIn prompt s) reports
  | act {s after : Session} {admitted : List String} {reports : List Report}
      (before : Chronicle rules d start s admitted reports) (acts : Session.Acts rules s after) :
      Chronicle rules d start after admitted reports
  | report {s : Session} {admitted : List String} {reports : List Report} (report : Report)
      (said : report.text ≠ "") (before : Chronicle rules d start s admitted reports) :
      Chronicle rules d start (report.save s) admitted (reports ++ [report])
  | wait {s : Session} {admitted : List String} {reports : List Report} (span : Binary64)
      (before : Chronicle rules d start s admitted reports) :
      Chronicle rules d start (s.advance span) admitted reports

section

variable {rules : Rules} {d : Dispatcher} {start : Session}

/-- No agent comes to be registered. -/
theorem Chronicle.roster {s : Session} {admitted : List String} {reports : List Report}
    (chronicle : Chronicle rules d start s admitted reports) :
    s.roster.agents ⊆ start.roster.agents := by
  induction chronicle with
  | begin => exact List.Subset.refl _
  | call prompt _ ih =>
      rw [roster_accept]
      exact ih
  | act _ acts ih => exact List.Subset.trans acts.roster ih
  | report report _ _ ih => exact ih
  | wait span _ ih => exact ih

theorem Chronicle.acts {s after : Session} {admitted : List String} {reports : List Report}
    (before : Chronicle rules d start s admitted reports)
    (acts : Relation.ReflTransGen (Session.Acts rules) s after) :
    Chronicle rules d start after admitted reports := by
  induction acts with
  | refl => exact before
  | tail _ act ih => exact ih.act act

theorem Chronicle.moves {s after : Session} {admitted : List String}
    {reports more : List Report} (before : Chronicle rules d start s admitted reports)
    (moves : Job.Moves rules s after more) :
    Chronicle rules d start after admitted (reports ++ more) := by
  cases moves with
  | quietly acts =>
      rw [List.append_nil]
      exact before.acts acts
  | reporting report said acts => exact .report report said (before.acts acts)

/-- Among agents that obey rules every progress has its chronicle, and every job
keeps to the rules. -/
theorem Unfolds.chronicle (fits : start.roster.All (Agent.ObeysInChains rules))
    {p : Progress} (unfolds : Unfolds d start p) :
    Chronicle rules d start p.session p.admitted p.reports ∧
      p.session.roster.All (Agent.ObeysInChains rules) ∧ ∀ job ∈ p.jobs, job.Obeys rules := by
  induction unfolds with
  | begin => exact ⟨.begin, fits, by simp⟩
  | @call p prompt _ ih =>
      rcases ih with ⟨chronicle, sessionFits, obey⟩
      refine ⟨chronicle.call prompt, ?_, ?_⟩
      · rw [roster_accept]
        exact sessionFits
      · rw [List.forall_mem_append, List.forall_mem_map]
        exact ⟨obey, fun task _ => Job.obeys_begin rules task⟩
  | @move s earlier later job admitted reports kind _ ih =>
      rcases ih with ⟨chronicle, sessionFits, obey⟩
      obtain ⟨moves, moved⟩ := (obey job (by simp)).move kind sessionFits
      refine ⟨chronicle.moves moves, fun agent mem => sessionFits agent (moves.roster mem), ?_⟩
      rw [List.forall_mem_append, List.forall_mem_cons] at obey ⊢
      exact ⟨obey.1, moved, obey.2.2⟩
  | @wait p span _ ih => exact ⟨ih.1.wait span, ih.2⟩

/-! ## Reports of jobs -/

theorem Job.report?_begin (task : Subtask) : (Job.begin task).report? = none := rfl

/-- A move adds the report of the job to what it reported before. -/
theorem Job.report?_move (kind : Task.Move) (job : Job) (s : Session) :
    (Job.report? ⟨job.task, (job.place.move kind s).2⟩).toList =
      job.report?.toList ++ job.reported (job.place.move kind s).2 := by
  rcases job with ⟨task, place⟩
  cases place with
  | finished text => cases kind <;> simp [Task.move, Task.step, Task.cancel, reported]
  | halted => cases kind <;> simp [Task.move, Task.step, Task.cancel, reported]
  | waiting onCancel rest => simp [reported, report?]

/-- The reports are those of the jobs that have ended. -/
theorem Unfolds.perm_reports {p : Progress} (unfolds : Unfolds d start p) :
    p.reports.Perm (p.jobs.flatMap fun job => job.report?.toList) := by
  induction unfolds with
  | begin => exact .refl _
  | call prompt _ ih =>
      have none_new (tasks : List Subtask) :
          ((tasks.map Job.begin).flatMap fun job => job.report?.toList) = [] := by
        simp [List.flatMap_map, Job.report?_begin]
      simpa [none_new] using ih
  | @move s earlier later job admitted reports kind _ ih =>
      simp only [List.flatMap_append, List.flatMap_cons, Job.report?_move] at ih ⊢
      refine (ih.append_right _).trans ?_
      simp only [List.append_assoc]
      exact (List.perm_append_comm.append_left _).append_left _
  | wait span _ ih => exact ih

/-! ## Ways to unfold -/

/-- Whatever a batch does with the last jobs is a way for progress to unfold. -/
theorem Unfolds.stirs {s after : Session} {earlier jobs : List Job} {admitted : List String}
    {reports : List Report}
    (before : Unfolds d start ⟨s, earlier ++ jobs, admitted, reports⟩)
    {places : List (Task Session (Option String))}
    (stirs : Batch.Stirs s (jobs.map Job.place) after places) :
    ∃ left more, left.map Job.place = places ∧ left.map Job.task = jobs.map Job.task ∧
      Unfolds d start ⟨after, earlier ++ left, admitted, reports ++ more⟩ := by
  induction stirs with
  | refl => exact ⟨jobs, [], rfl, rfl, by simpa using before⟩
  | move kind _ ih =>
      rcases ih with ⟨left, more, samePlaces, sameTasks, unfolds⟩
      rcases List.map_eq_append_iff.mp samePlaces with ⟨ahead, rest, rfl, rfl, restPlaces⟩
      rcases List.map_eq_cons_iff.mp restPlaces with ⟨job, behind, rfl, rfl, rfl⟩
      rw [← List.append_assoc] at unfolds
      have moved := unfolds.move kind
      rw [List.append_assoc, List.append_assoc] at moved
      exact ⟨_, _, by simp, by simpa using sameTasks, moved⟩

/-- A way to run a batch: it advances and cancels tasks, and when there are
results, all tasks have finished. -/
def Orderly (runner : Runner) : Prop :=
  ∀ ps s, ∃ left, Batch.Stirs s (ps.map Task.ofProcess) (runner ps s).1 left ∧
    ∀ texts, (runner ps s).2 = some texts → left = texts.map .finished

theorem orderly_run : Orderly Batch.run := Batch.stirs_run

theorem orderly_runCancelled (count : Nat) : Orderly (Batch.runCancelled count) :=
  Batch.stirs_runCancelled count

/-- Running the jobs that have just begun is a way for progress to unfold; when
there are results, the jobs have ended with them. -/
theorem Unfolds.run {runner : Runner} (orderly : Orderly runner) {s : Session}
    {earlier : List Job} {tasks : List Subtask} {admitted : List String}
    {reports : List Report}
    (before : Unfolds d start ⟨s, earlier ++ tasks.map .begin, admitted, reports⟩) :
    ∃ left more, left.map Job.task = tasks ∧
      (∀ texts, (runner (tasks.map runSubtask) s).2 = some texts →
        left.map Job.place = texts.map .finished) ∧
      Unfolds d start
        ⟨(runner (tasks.map runSubtask) s).1, earlier ++ left, admitted, reports ++ more⟩ := by
  rcases orderly (tasks.map runSubtask) s with ⟨places, stirs, finished⟩
  have begun : (tasks.map runSubtask).map Task.ofProcess =
      (tasks.map Job.begin).map Job.place := by
    rw [List.map_map, List.map_map]
    rfl
  rw [begun] at stirs
  rcases before.stirs stirs with ⟨left, more, rfl, sameTasks, unfolds⟩
  refine ⟨left, more, ?_, finished, unfolds⟩
  rw [sameTasks, List.map_map]
  exact List.map_id tasks

/-- A session that a progress leads to: more prompts may have been let in by
then, and more may have been reported. -/
def Leads (d : Dispatcher) (start : Session) (p : Progress) (s : Session) : Prop :=
  ∃ later, Unfolds d start later ∧ later.session = s ∧
    p.admitted <+: later.admitted ∧ p.reports <+: later.reports

/-- Handling a prompt is a way for progress to unfold. -/
theorem Unfolds.leads_handleWith {runner : Runner} (orderly : Orderly runner) {p : Progress}
    (before : Unfolds d start p) (prompt : String) :
    Leads d start p (d.handleWith runner prompt p.session).1 := by
  have called := before.call prompt
  rw [handleWith]
  cases accepted : d.accept prompt p.session with
  | mk s arrival =>
      rw [accepted] at called
      cases arrival with
      | error fault => exact ⟨_, called, rfl, List.prefix_append _ _, List.prefix_rfl⟩
      | ok tasks =>
          simp only [arrivedTasks, List.flatMap_cons, List.flatMap_nil, List.append_nil] at called
          rcases called.run orderly with ⟨left, more, -, -, unfolds⟩
          exact ⟨_, unfolds, rfl, List.prefix_append _ _, List.prefix_append _ _⟩

theorem Unfolds.acceptAll {p : Progress} (before : Unfolds d start p) (prompts : List String) :
    ∃ more, Unfolds d start {
      session := (d.acceptAll prompts p.session).1
      jobs := p.jobs ++ (arrivedTasks (d.acceptAll prompts p.session).2).map .begin
      admitted := p.admitted ++ more
      reports := p.reports } := by
  induction prompts generalizing p with
  | nil => exact ⟨[], by simpa [Dispatcher.acceptAll, arrivedTasks] using before⟩
  | cons prompt prompts ih =>
      rcases ih (before.call prompt) with ⟨more, unfolds⟩
      refine ⟨letIn prompt p.session ++ more, ?_⟩
      simpa [Dispatcher.acceptAll, arrivedTasks] using unfolds

/-- So is receiving prompts that arrive together. -/
theorem Unfolds.leads_receiveTogether {p : Progress} (before : Unfolds d start p)
    (prompts : List String) : Leads d start p (d.receiveTogether prompts p.session).1 := by
  rcases before.acceptAll prompts with ⟨admitted, accepted⟩
  rcases accepted.run orderly_run with ⟨left, more, -, -, unfolds⟩
  refine ⟨_, unfolds, ?_, List.prefix_append _ _, List.prefix_append _ _⟩
  rw [receiveTogether]
  dsimp only
  split
  · rfl
  · split <;> rfl

/-- The session that any of the ways to process prompts ends with. -/
inductive Processed (d : Dispatcher) (s : Session) : Session → Prop where
  | handle (prompt : String) : Processed d s (d.handle prompt s).1
  | receive (prompt : String) : Processed d s (d.receive prompt s).1
  | receiveCancelled (count : Nat) (prompt : String) :
      Processed d s (d.receiveCancelled count prompt s).1
  | receiveTogether (prompts : List String) : Processed d s (d.receiveTogether prompts s).1

/-- Whichever way prompts are processed, progress unfolds. -/
theorem Unfolds.leads {p : Progress} (before : Unfolds d start p) {after : Session}
    (processed : Processed d p.session after) : Leads d start p after := by
  cases processed with
  | handle prompt => exact before.leads_handleWith orderly_run prompt
  | receive prompt => exact before.leads_handleWith orderly_run prompt
  | receiveCancelled count prompt =>
      exact before.leads_handleWith (orderly_runCancelled count) prompt
  | receiveTogether prompts => exact before.leads_receiveTogether prompts

end

end Dispatcher

end PromptDispatch
