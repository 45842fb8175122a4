import PromptDispatch.Proofs.Dispatch.Progress
import PromptDispatch.Proofs.Dispatch.Scheduling
import PromptDispatch.Proofs.Store.Eviction

/-!
# Admission

Only calls touch the throttle and the kept prompts.  A call that is turned away
is noted and told, and that is all it does.  A call that is let in leaves its
time and its sanitized text before any agent runs on its behalf; nothing that
agents do later changes either.  At every moment the kept prompts are therefore
the latest of those let in, in the order in which they were.

That a prompt is turned away is told by an answer.  No other answer is the same
text, since every line of an answer has a colon.
-/

namespace PromptDispatch

namespace Session

/-- What was kept of calls is as before. -/
structure KeepsCalls (s s' : Session) : Prop where
  throttle : s'.throttle = s.throttle
  limits : s'.store.limits = s.store.limits
  prompts : s'.store.prompts = s.store.prompts

theorem KeepsCalls.refl (s : Session) : KeepsCalls s s := ⟨rfl, rfl, rfl⟩

theorem KeepsCalls.trans {s s' s'' : Session} (first : KeepsCalls s s')
    (second : KeepsCalls s' s'') : KeepsCalls s s'' where
  throttle := second.throttle.trans first.throttle
  limits := second.limits.trans first.limits
  prompts := second.prompts.trans first.prompts

theorem keepsCalls_of_reflTransGen {s s' : Session}
    (keeps : Relation.ReflTransGen KeepsCalls s s') : KeepsCalls s s' := by
  induction keeps with
  | refl => exact .refl s
  | tail _ last ih => exact ih.trans last

/-- Whatever agents do, they keep what was kept of calls. -/
theorem Acts.keepsCalls {rules : Rules} {s s' : Session} (acts : Acts rules s s') :
    KeepsCalls s s' := by
  refine ⟨acts.throttle, ?_, ?_⟩
  · rcases acts.store with same | ⟨name, key, value, -, written⟩
    · rw [same]
    · rw [written]
      rfl
  · rcases acts.store with same | ⟨name, key, value, -, written⟩
    · rw [same]
    · rw [written]
      rfl

/-- The conduct of processes that keep what was kept of calls. -/
def keepingCalls : Conduct Session where
  holds _ := True
  acts := KeepsCalls
  parts := KeepsCalls
  halts := True
  idle := KeepsCalls.refl
  keeps _ _ := trivial

theorem allows_keepingCalls : Allows keepingCalls where
  acts _ _ acts := acts.keepsCalls
  parts s s' parts := by
    have acts : Acts .free s s' := parts.acts
    exact acts.keepsCalls
  halts := trivial

/-- A call is turned away. -/
def turnAway (wait : Binary64) (s : Session) : Session :=
  s.note .warning .dispatcher ("Prompt rejected: " ++ (Fault.rateLimited wait).message)

end Session

namespace Dispatcher

open Session (KeepsCalls keepingCalls)
open Store (newest)

variable {d : Dispatcher} {start : Session}

/-! ## Jobs -/

/-- Saving a report keeps what was kept of calls. -/
theorem Report.keepsCalls (report : Report) (s : Session) : KeepsCalls s (report.save s) :=
  ⟨rfl, rfl, rfl⟩

theorem heeds_runSubtask_keepingCalls (task : Subtask) :
    (runSubtask task).Heeds keepingCalls :=
  heeds_runSubtask_of_allows Session.allows_keepingCalls
    (fun report s _ => report.keepsCalls s) task

theorem Orderly.keepsCalls {runner : Runner} (orderly : Orderly runner) (tasks : List Subtask)
    (s : Session) : KeepsCalls s (runner (tasks.map runSubtask) s).1 := by
  rcases orderly (tasks.map runSubtask) s with ⟨left, stirs, -⟩
  have heeds : ∀ t ∈ (tasks.map runSubtask).map Task.ofProcess, t.Heeds keepingCalls := by
    simp only [List.map_map, List.forall_mem_map]
    intro task _
    exact ⟨KeepsCalls.refl, heeds_runSubtask_keepingCalls task⟩
  exact Session.keepsCalls_of_reflTransGen
    (stirs.heeds (fun _ _ parts => parts) heeds trivial).1

/-- What is left of every job keeps what was kept of calls. -/
theorem Unfolds.heeds_keepingCalls {p : Progress} (unfolds : Unfolds d start p) :
    ∀ job ∈ p.jobs, job.place.Heeds keepingCalls := by
  induction unfolds with
  | begin => simp
  | call prompt _ ih =>
      rw [List.forall_mem_append, List.forall_mem_map]
      exact ⟨ih, fun task _ => ⟨KeepsCalls.refl, heeds_runSubtask_keepingCalls task⟩⟩
  | move kind _ ih =>
      rw [List.forall_mem_append, List.forall_mem_cons] at ih ⊢
      rcases ih with ⟨ahead, heeds, behind⟩
      exact ⟨ahead, (heeds.move trivial (fun _ _ parts => parts) kind).2.2, behind⟩
  | wait span _ ih => exact ih

/-! ## History -/

theorem Chronicle.prompts {rules : Rules} {s : Session} {admitted : List String}
    {reports : List Report}
    (within : start.store.prompts.length ≤ start.store.limits.prompts)
    (chronicle : Chronicle rules d start s admitted reports) :
    s.store.limits = start.store.limits ∧
      s.store.prompts = newest start.store.limits.prompts
        (start.store.prompts ++ admitted.map Prompt.sanitize) := by
  induction chronicle with
  | begin =>
      refine ⟨rfl, ?_⟩
      rw [List.map_nil, List.append_nil, Store.newest_of_length_le within]
  | @call s admitted reports prompt _ ih =>
      rcases ih with ⟨limits, prompts⟩
      have accepts := accepts_accept d prompt s
      generalize (d.accept prompt s).1 = after at accepts ⊢
      generalize (d.accept prompt s).2 = arrival at accepts
      cases accepts with
      | turnedAway wait waits =>
          rw [letIn, waits, List.append_nil]
          exact ⟨limits, prompts⟩
      | letIn lines arrival passes outside unthrottled =>
          refine ⟨limits, ?_⟩
          have recorded : (s.store.record (Prompt.sanitize prompt)).prompts =
              newest s.store.limits.prompts (s.store.prompts ++ [Prompt.sanitize prompt]) := rfl
          rw [letIn, passes, recorded, limits, prompts, Store.newest_newest_append,
            List.map_append, List.append_assoc]
          rfl
  | act _ acts ih =>
      have keeps := acts.keepsCalls
      rw [keeps.limits, keeps.prompts]
      exact ih
  | report report _ _ ih => exact ih
  | wait span _ ih => exact ih

/-! ## Answers -/

theorem colon_mem_line {agent : String} {text : Option String} {line : String}
    (isLine : line? agent text = some line) : ':' ∈ line.toList := by
  rw [line?] at isLine
  rcases Option.map_eq_some_iff.mp isLine with ⟨text, -, rfl⟩
  simp

/-- No answer reads like the one to a prompt that is turned away. -/
theorem answer_ne_turnedAway (tasks : List Subtask) (texts : List (Option String)) :
    answer tasks texts ≠ turnedAway := by
  intro same
  rw [answer, lines_eq] at same
  generalize isLines : ((tasks.map (·.agent)).zip texts).filterMap _ = lines at same
  cases lines with
  | nil => exact absurd same (by decide)
  | cons line lines =>
      have isLine : line ∈ line :: lines := List.mem_cons_self
      rw [← isLines, List.mem_filterMap] at isLine
      rcases isLine with ⟨⟨agent, text⟩, -, told⟩
      have colon : ':' ∈ (String.intercalate "\n" (line :: lines)).toList := by
        rw [String.toList_intercalate]
        cases lines with
        | nil =>
            rw [List.map_singleton, List.intercalate_singleton]
            exact colon_mem_line told
        | cons next lines =>
            rw [List.map_cons, List.map_cons, List.intercalate_cons_cons, List.append_assoc]
            exact List.mem_append_left _ (colon_mem_line told)
      rw [same] at colon
      exact absurd colon (by decide)

theorem told_ne_turnedAway {finish : Finish String} (answered : finish ≠ .done turnedAway)
    (unthrottled : ∀ wait, finish ≠ .failed (.rateLimited wait)) :
    told finish ≠ .done turnedAway := by
  rw [told.eq_def]
  split
  · next wait => exact absurd rfl (unthrottled wait)
  · exact answered

theorem exists_of_map_eq_ok {ε α β : Type} {f : α → β} {result : Except ε α} {b : β}
    (mapped : result.map f = .ok b) : ∃ a, result = .ok a ∧ f a = b := by
  cases result with
  | error fault => simp [Except.map] at mapped
  | ok a => exact ⟨a, rfl, Except.ok.inj mapped⟩

/-- Among prompts that arrive together, exactly those that are turned away are
told so. -/
theorem answers_turnedAway {arrivals : List Arrival} {texts : List (Option String)}
    {replies : List String} (answered : answers arrivals texts = .ok replies) :
    List.Forall₂
      (fun arrival reply => reply = turnedAway ↔ ∃ wait, arrival = .error (.rateLimited wait))
      arrivals replies := by
  induction arrivals generalizing texts replies with
  | nil =>
      obtain rfl : [] = replies := Except.ok.inj answered
      exact .nil
  | cons arrival arrivals ih =>
      rw [answers.eq_def] at answered
      split at answered
      · next none_left => simp at none_left
      · next tasks rest _ split =>
        obtain ⟨rfl, rfl⟩ := List.cons.inj split
        rcases exists_of_map_eq_ok answered with ⟨others, othersAnswered, rfl⟩
        exact .cons (by simp [answer_ne_turnedAway]) (ih othersAnswered)
      · next wait rest _ split =>
        obtain ⟨rfl, rfl⟩ := List.cons.inj split
        rcases exists_of_map_eq_ok answered with ⟨others, othersAnswered, rfl⟩
        exact .cons (by simp) (ih othersAnswered)
      · simp at answered

/-! ## Calls -/

/-- All that a call for a prompt comes to. -/
structure Admission (d : Dispatcher) (prompt : String) (s : Session) : Prop where
  /-- a call that is turned away is noted and told, and nothing else is done -/
  turnsAway : ∀ wait, s.throttle.wait? s.clock = some wait →
    d.accept prompt s = (s.turnAway wait, .error (.rateLimited wait)) ∧
      d.handle prompt s = (s.turnAway wait, .failed (.rateLimited wait)) ∧
      d.receive prompt s = (s.turnAway wait, .done turnedAway)
  /-- a call that is let in leaves its time and its text before anything is run,
  and what is run keeps them -/
  letsIn : s.throttle.wait? s.clock = none →
    (∃ lines, (d.accept prompt s).1 = { s with
      throttle := { s.throttle with accepted := some s.clock }
      store := s.store.record (Prompt.sanitize prompt)
      journal := s.journal ++ lines }) ∧
      KeepsCalls (d.accept prompt s).1 (d.handle prompt s).1 ∧
      KeepsCalls (d.accept prompt s).1 (d.receive prompt s).1 ∧
      (∀ wait, (d.handle prompt s).2 ≠ .failed (.rateLimited wait)) ∧
      (d.receive prompt s).2 ≠ .done turnedAway

theorem accept_of_wait {prompt : String} {s : Session} {wait : Binary64}
    (waits : s.throttle.wait? s.clock = some wait) (d : Dispatcher) :
    d.accept prompt s = (s.turnAway wait, .error (.rateLimited wait)) := by
  rw [accept, Throttle.acquire, waits]
  rfl

/-- What is run for a prompt that was let in keeps what was kept of its call, and
its end is not that of a prompt that is turned away. -/
theorem handleWith_of_passes {runner : Runner} (orderly : Orderly runner) {prompt : String}
    {s : Session} (passes : s.throttle.wait? s.clock = none) (d : Dispatcher) :
    KeepsCalls (d.accept prompt s).1 (d.handleWith runner prompt s).1 ∧
      (∀ wait, (d.handleWith runner prompt s).2 ≠ .failed (.rateLimited wait)) ∧
      (d.handleWith runner prompt s).2 ≠ .done turnedAway := by
  have accepts := accepts_accept d prompt s
  rw [handleWith]
  generalize d.accept prompt s = accepted at accepts
  rcases accepted with ⟨after, arrival⟩
  cases accepts with
  | turnedAway wait waits => simp [passes] at waits
  | letIn lines arrival _ outside unthrottled =>
      cases arrival with
      | error fault =>
          refine ⟨.refl _, ?_, by simp⟩
          intro wait same
          apply unthrottled wait
          exact congrArg _ (Finish.failed.inj same)
      | ok tasks =>
          refine ⟨orderly.keepsCalls tasks _, ?_, ?_⟩
          · intro wait
            dsimp only
            cases (runner (tasks.map runSubtask) _).2 <;> simp [Finish.ofResults]
          · dsimp only
            cases (runner (tasks.map runSubtask) _).2 with
            | none => simp [Finish.ofResults]
            | some texts =>
                intro same
                exact answer_ne_turnedAway tasks texts (Finish.done.inj same)

theorem admission (d : Dispatcher) (prompt : String) (s : Session) : d.Admission prompt s where
  turnsAway := by
    intro wait waits
    have rejected : d.accept prompt s = (s.turnAway wait, .error (.rateLimited wait)) :=
      accept_of_wait waits d
    have handled : d.handle prompt s = (s.turnAway wait, .failed (.rateLimited wait)) := by
      rw [handle, handleWith, rejected]
    refine ⟨rejected, handled, ?_⟩
    rw [receive, handled]
    rfl
  letsIn := by
    intro passes
    obtain ⟨keeps, unthrottled, answered⟩ := handleWith_of_passes orderly_run passes d
    refine ⟨?_, keeps, keeps, unthrottled, told_ne_turnedAway answered unthrottled⟩
    have accepts := accepts_accept d prompt s
    generalize (d.accept prompt s).1 = after at accepts ⊢
    generalize (d.accept prompt s).2 = arrival at accepts
    cases accepts with
    | turnedAway wait waits => simp [passes] at waits
    | letIn lines arrival _ outside unthrottled => exact ⟨lines, rfl⟩

/-- The kept prompts are the latest of those let in, at every moment of every
run: whenever control passes, and while a job is at work.  In every session that
comes about, a call is turned away without a trace or leaves its time and its
text before anything is run; being turned away is told by an answer that no
agents' names and texts can make up. -/
theorem prompts_eq_admitted {p : Progress}
    (within : start.store.prompts.length ≤ start.store.limits.prompts)
    (unfolds : Unfolds d start p) :
    p.session.store.prompts = newest start.store.limits.prompts
      (start.store.prompts ++ p.admitted.map Prompt.sanitize) ∧
    (∀ job ∈ p.jobs, ∀ onCancel rest s, job.place = .waiting onCancel rest →
      rest.Passes p.session s → KeepsCalls p.session s) ∧
    (∀ prompt, d.Admission prompt p.session) ∧
    (∀ prompts after replies, d.receiveTogether prompts p.session = (after, .done replies) →
      List.Forall₂
        (fun arrival reply => reply = turnedAway ↔ ∃ wait, arrival = .error (.rateLimited wait))
        (d.acceptAll prompts p.session).2 replies) ∧
    (∀ tasks texts, answer tasks texts ≠ turnedAway) ∧
    ∀ after, Processed d p.session after → Leads d start p after := by
  refine ⟨?_, ?_, fun prompt => admission d prompt p.session, ?_, answer_ne_turnedAway,
    fun _ => unfolds.leads⟩
  · exact ((unfolds.chronicle (Session.all_free _)).1.prompts within).2
  · intro job jobMem onCancel rest s isPlace passes
    have heeds := unfolds.heeds_keepingCalls job jobMem
    rw [isPlace] at heeds
    exact Session.keepsCalls_of_reflTransGen (heeds.2.passes passes trivial)
  · intro prompts after replies received
    rw [receiveTogether] at received
    dsimp only at received
    split at received
    · simp at received
    · split at received
      · next answered =>
        obtain rfl := Finish.done.inj (Prod.ext_iff.mp received).2
        exact answers_turnedAway answered
      · simp at received

/-- The two agents that ask each other, behind a throttle of two seconds. -/
def throttledPair : Session := { pairSession with throttle := .fresh (.ofInt 2) }

/-- A prompt is let in; another one a second later is turned away, before the
jobs of the first one have begun. -/
theorem prompts_eq_admitted_throttledPair :
    throttledPair.store.prompts.length ≤ throttledPair.store.limits.prompts ∧
      ∃ p, Unfolds forPair throttledPair p ∧ p.jobs.length = 2 ∧
        p.session.store.prompts = ["Fix the docs"] ∧
        (forPair.receive "Hello" p.session).1.store.prompts = ["Fix the docs"] ∧
        (forPair.receive "Hello" p.session).2 = .done turnedAway := by
  have within : throttledPair.store.prompts.length ≤ throttledPair.store.limits.prompts := by
    decide
  have begun : Unfolds forPair throttledPair _ := .begin
  obtain ⟨p, unfolds, begunJobs, admitted, waits⟩ :
      ∃ p, Unfolds forPair throttledPair p ∧ p.jobs.length = 2 ∧
        newest throttledPair.store.limits.prompts
          (throttledPair.store.prompts ++ p.admitted.map Prompt.sanitize) = ["Fix the docs"] ∧
        p.session.throttle.wait? p.session.clock = some (.ofInt 1) :=
    ⟨_, (begun.call "Fix the <b>docs</b>").wait (.ofInt 1), by decide +kernel,
      by decide +kernel, by decide +kernel⟩
  obtain ⟨prompts, -, calls, -⟩ := prompts_eq_admitted within unfolds
  obtain ⟨-, -, received⟩ := (calls "Hello").turnsAway (.ofInt 1) waits
  rw [admitted] at prompts
  refine ⟨within, p, unfolds, begunJobs, prompts, ?_, ?_⟩
  · rw [received]
    exact prompts
  · rw [received]

end Dispatcher

end PromptDispatch
