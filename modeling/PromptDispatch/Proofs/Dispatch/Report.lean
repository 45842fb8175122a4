import PromptDispatch.Proofs.Dispatch.Routing
import PromptDispatch.Proofs.Session.Rules

/-!
# Reports

A prompt's subtask goes along its chain, where nothing is done to the session
but what agents do, and then closes: when its agent said something, the task
and the result are saved as the last thing the subtask does.  A job is a
subtask with the place where its task stands; whatever is done with it, either
the session is changed by agents alone and nothing is reported, or the job ends
with a report, and its saving is the last change.
-/

namespace PromptDispatch

namespace Session

variable {rules : Rules}

/-! ## Chains -/

theorem heeds_failedInChain {fit : Agent → Prop} (name : String) (visited : List String)
    (told : String) : (failedInChain name visited told).Heeds (conduct rules fit) :=
  heeds_note (by decide) trivial

theorem heeds_sayingOf {fit : Agent → Prop} (name : String) (visited : List String)
    (result : Except Fault (List String × Outcome)) :
    (sayingOf name visited result).Heeds (conduct rules fit) := by
  rw [sayingOf.eq_def]
  split
  · exact heeds_failedInChain _ _ _
  · split
    · trivial
    · exact heeds_failedInChain _ _ _

theorem heeds_dispatchStep {delegation : Delegation}
    (delegates : ∀ visited name task,
      (delegation visited name task).Heeds (conduct rules (Agent.ObeysInChains rules)))
    (prompt : String) (visited : List String) (name : String) (task : Errand) :
    (dispatchStep delegation prompt visited name task).Heeds
      (conduct rules (Agent.ObeysInChains rules)) := by
  apply Process.heeds_look
  intro s _
  split
  · split
    · exact heeds_note (by decide) trivial
    · apply Process.heeds_look
      intro shown _
      apply (heeds_executeTask delegates (fun _ fit input => fit input _ _ _) name task _).bind
      exact heeds_sayingOf name _
  · exact heeds_note (by decide) trivial

theorem heeds_dispatchWithin (prompt : String) (depth : Nat) (visited : List String)
    (name : String) (task : Errand) :
    (dispatchWithin prompt depth visited name task).Heeds
      (conduct rules (Agent.ObeysInChains rules)) := by
  induction depth generalizing visited name task with
  | zero =>
      have told (visited : List String) (name : String) (task : Errand) :
          (Process.done (visited, .ok "") : Process Session
            (List String × Except Fault String)).Heeds
              (conduct rules (Agent.ObeysInChains rules)) := trivial
      exact heeds_dispatchStep (fun visited name task => told visited name task) prompt visited
        name task
  | succ depth ih =>
      exact heeds_dispatchStep (fun visited name task => (ih visited name task).map _)
        prompt visited name task

theorem heeds_dispatch (prompt : String) (visited : List String) (name : String)
    (task : Errand) :
    (dispatch prompt visited name task).Heeds (conduct rules (Agent.ObeysInChains rules)) :=
  Process.heeds_look fun s _ => heeds_dispatchWithin prompt s.roster.size visited name task

theorem all_free (roster : Roster) : roster.All (Agent.ObeysInChains .free) :=
  fun _ _ _ _ _ _ => Behaviour.obeys_free _

/-- A conduct that allows whatever agents do. -/
structure Allows (freer : Conduct Session) : Prop where
  acts : ∀ s s', Acts .free s s' → freer.acts s s'
  parts : ∀ s s', Parts s s' → freer.parts s s'
  halts : freer.halts

/-- Chains keep to a conduct that allows whatever agents do. -/
theorem Allows.heeds_dispatch {freer : Conduct Session} (allows : Allows freer)
    (prompt : String) (visited : List String) (name : String) (task : Errand) :
    (dispatch prompt visited name task).Heeds freer := by
  have heeds : (dispatch prompt visited name task).Heeds
      (conduct .free (Agent.ObeysInChains .free)) :=
    Session.heeds_dispatch prompt visited name task
  exact heeds.mono (fun s _ => all_free s.roster) allows.acts allows.parts fun _ => allows.halts

end Session

namespace Dispatcher

/-- What an agent reported on. -/
structure Report where
  agent : String
  input : String
  text : String

/-- Saves a report. -/
def Report.save (report : Report) (s : Session) : Session :=
  remember report.agent report.input report.text s

/-- What a subtask does with what its agent was made to say. -/
def closing (task : Subtask) : Session.Saying → Process Session (Option String)
  | (_, none) => .done none
  | (_, some text) =>
      if text = "" then .done (some "")
      else .change (remember task.agent task.input text) (.done (some text))

theorem runSubtask_eq (task : Subtask) :
    runSubtask task =
      (Session.dispatch task.input [] task.agent (.str task.input)).bind (closing task) := by
  rw [runSubtask]
  congr 1
  funext saying
  rcases saying with ⟨visited, text⟩
  cases text with
  | none => rfl
  | some text => rfl

/-- Subtasks keep to a conduct that allows whatever agents do and the saving of
reports. -/
theorem heeds_runSubtask_of_allows {freer : Conduct Session} (allows : Session.Allows freer)
    (saves : ∀ (report : Report) s, freer.holds s → freer.acts s (report.save s))
    (task : Subtask) : (runSubtask task).Heeds freer := by
  rw [runSubtask_eq]
  apply (allows.heeds_dispatch _ _ _ _).bind
  rintro ⟨visited, text⟩
  cases text with
  | none => trivial
  | some text =>
      rw [closing]
      split
      · trivial
      · exact Process.heeds_change (saves ⟨task.agent, task.input, text⟩) trivial

/-- A subtask of a prompt, and where its task stands. -/
structure Job where
  task : Subtask
  place : Task Session (Option String)

namespace Job

/-- A job that has not started. -/
def begin (task : Subtask) : Job := ⟨task, .ofProcess (runSubtask task)⟩

/-- What a job reported, once it has ended with something said. -/
def report? (job : Job) : Option Report :=
  match job.place with
  | .finished (some text) =>
      if text = "" then none else some ⟨job.task.agent, job.task.input, text⟩
  | _ => none

/-- What a job reports when it moves on to a place: a job that has ended reports
nothing again. -/
def reported (job : Job) (place : Task Session (Option String)) : List Report :=
  match job.place with
  | .waiting _ _ => (report? ⟨job.task, place⟩).toList
  | _ => []

/-- What is left of a job is a chain among agents that obey rules, and then its
closing. -/
def Obeys (rules : Rules) (job : Job) : Prop :=
  match job.place with
  | .waiting onCancel rest =>
      (∀ s, Session.Parts s (onCancel s)) ∧
        ∃ chain : Process Session Session.Saying,
          chain.Heeds (Session.conduct rules (Agent.ObeysInChains rules)) ∧
            rest = chain.bind (closing job.task)
  | _ => True

theorem obeys_begin (rules : Rules) (task : Subtask) : (begin task).Obeys rules :=
  ⟨fun _ => .silently, _, Session.heeds_dispatch _ _ _ _, runSubtask_eq task⟩

/-- What a move of a job does to a session: agents alone change it and nothing
is reported, or the job ends with a report, which is saved last. -/
inductive Moves (rules : Rules) (s : Session) : Session → List Report → Prop where
  | quietly {after : Session} (acts : Relation.ReflTransGen (Session.Acts rules) s after) :
      Moves rules s after []
  | reporting {middle : Session} (report : Report) (said : report.text ≠ "")
      (acts : Relation.ReflTransGen (Session.Acts rules) s middle) :
      Moves rules s (report.save middle) [report]

variable {rules : Rules} {job : Job} {s : Session}

/-- The closing of a job that was begun in an unfinished place. -/
theorem moves_closing (task : Subtask) {middle : Session} (saying : Session.Saying)
    (acts : Relation.ReflTransGen (Session.Acts rules) s middle) :
    Moves rules s (Task.advance (closing task saying) middle).1
        (report? ⟨task, (Task.advance (closing task saying) middle).2⟩).toList ∧
      Obeys rules ⟨task, (Task.advance (closing task saying) middle).2⟩ := by
  rcases saying with ⟨visited, text⟩
  cases text with
  | none => exact ⟨.quietly acts, trivial⟩
  | some text =>
      rw [closing]
      split
      · exact ⟨.quietly acts, trivial⟩
      · next said =>
        refine ⟨?_, trivial⟩
        have report : report? ⟨task, .finished (some text)⟩ =
            some ⟨task.agent, task.input, text⟩ := by
          simp [report?, said]
        simp only [Process.change, Task.advance, report]
        exact .reporting ⟨task.agent, task.input, text⟩ said acts

theorem Moves.roster {after : Session} {reports : List Report}
    (moves : Moves rules s after reports) : after.roster.agents ⊆ s.roster.agents := by
  have shrinks {s after : Session}
      (acts : Relation.ReflTransGen (Session.Acts rules) s after) :
      after.roster.agents ⊆ s.roster.agents := by
    induction acts with
    | refl => exact List.Subset.refl _
    | tail _ act ih => exact List.Subset.trans act.roster ih
  cases moves with
  | quietly acts => exact shrinks acts
  | @reporting middle report said acts =>
      have same : (report.save middle).roster = middle.roster := rfl
      rw [same]
      exact shrinks acts

/-- All that a move of a job can do. -/
theorem Obeys.move (kind : Task.Move) (obeys : job.Obeys rules)
    (fits : s.roster.All (Agent.ObeysInChains rules)) :
    Moves rules s (job.place.move kind s).1 (job.reported (job.place.move kind s).2) ∧
      Obeys rules ⟨job.task, (job.place.move kind s).2⟩ := by
  rcases job with ⟨task, place⟩
  cases place with
  | finished text => cases kind <;> exact ⟨.quietly .refl, trivial⟩
  | halted => cases kind <;> exact ⟨.quietly .refl, trivial⟩
  | waiting onCancel rest =>
      rcases obeys with ⟨parts, chain, heeds, isChain⟩
      cases kind with
      | cancel => exact ⟨.quietly (.single (parts s).acts), trivial⟩
      | step =>
          obtain ⟨acts, after, left⟩ := Task.heeds_advance heeds fits
          dsimp only at isChain
          simp only [Task.move, Task.step, isChain, Task.advance_bind, reported]
          cases ended : Task.advance chain s with
          | mk middle chainPlace =>
              rw [ended] at acts left
              cases chainPlace with
              | finished saying => exact moves_closing task saying acts
              | halted => exact ⟨.quietly acts, trivial⟩
              | waiting onCancel' rest' => exact ⟨.quietly acts, left.1, rest', left.2, rfl⟩

end Job

end Dispatcher

end PromptDispatch
