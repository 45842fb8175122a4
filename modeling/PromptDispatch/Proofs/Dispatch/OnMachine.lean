import PromptDispatch.Dispatch.OnMachine
import PromptDispatch.Proofs.Dispatch.Report
import PromptDispatch.Proofs.Store.OnMachine

/-!
# Sessions on a machine

What a machine gets to the end of leads where it leads without one.  Where it does not
make a copy, nothing is done to the session, so chains and subtasks do what they do
without a machine, or less.
-/

namespace PromptDispatch

namespace Session

variable {machine : Machine} {s : Session}

/-! ## Loading and saving -/

theorem loadOn_of_crash {crash : Archive.Crash}
    (crashed : s.archive.loadCrash? machine s.disk = some crash) :
    s.loadOn machine = ({ s with disk := crash.disk }, .error crash.fault) := by
  rw [loadOn, Archive.loadOn, crashed]

theorem loadOn_of_passes (passes : s.archive.loadCrash? machine s.disk = none) :
    s.loadOn machine = (s.load.1, .ok s.load.2) := by
  rw [loadOn, Archive.loadOn, passes]
  rfl

theorem persistOn_of_fault {fault : Fault}
    (overtaxes : s.archive.persistFault? machine s.disk s.store = some fault) :
    s.persistOn machine = (s, .error fault) := by
  rw [persistOn, Archive.persistOn, overtaxes]

theorem persistOn_of_passes (passes : s.archive.persistFault? machine s.disk s.store = none) :
    s.persistOn machine = (s.persist.1, .ok s.persist.2) := by
  rw [persistOn, Archive.persistOn, passes]
  rfl

/-! ## Chains -/

variable {rules : Rules}

theorem heeds_dispatchStepOn {delegation : Delegation}
    (delegates : ∀ visited name task,
      (delegation visited name task).Heeds (conduct rules (Agent.ObeysInChains rules)))
    (machine : Machine) (prompt : String) (visited : List String) (name : String)
    (task : Errand) :
    (dispatchStepOn machine delegation prompt visited name task).Heeds
      (conduct rules (Agent.ObeysInChains rules)) := by
  apply Process.heeds_look
  intro s _
  split
  · trivial
  · exact (heeds_dispatchStep delegates prompt visited name task).map _

theorem heeds_dispatchWithinOn (machine : Machine) (prompt : String) (depth : Nat)
    (visited : List String) (name : String) (task : Errand) :
    (dispatchWithinOn machine prompt depth visited name task).Heeds
      (conduct rules (Agent.ObeysInChains rules)) := by
  induction depth generalizing visited name task with
  | zero =>
      have told (visited : List String) (name : String) (task : Errand) :
          (Process.done (visited, .ok "") : Process Session
            (List String × Except Fault String)).Heeds
              (conduct rules (Agent.ObeysInChains rules)) := trivial
      exact heeds_dispatchStepOn (fun visited name task => told visited name task) machine prompt
        visited name task
  | succ depth ih =>
      exact heeds_dispatchStepOn (fun visited name task => (ih visited name task).map _)
        machine prompt visited name task

/-- Chains keep to a conduct that allows whatever agents do. -/
theorem Allows.heeds_dispatchOn {freer : Conduct Session} (allows : Allows freer)
    (machine : Machine) (prompt : String) (visited : List String) (name : String)
    (task : Errand) : (dispatchOn machine prompt visited name task).Heeds freer := by
  have heeds : (dispatchOn machine prompt visited name task).Heeds
      (conduct .free (Agent.ObeysInChains .free)) :=
    Process.heeds_look fun s _ =>
      heeds_dispatchWithinOn machine prompt s.roster.size visited name task
  exact heeds.mono (fun s _ => all_free s.roster) allows.acts allows.parts fun _ => allows.halts

end Session

namespace Dispatcher

/-- Subtasks keep to a conduct that allows whatever agents do and the saving of
reports. -/
theorem heeds_runSubtaskOn_of_allows {freer : Conduct Session} (allows : Session.Allows freer)
    (saves : ∀ (report : Report) s, freer.holds s → freer.acts s (report.save s))
    (machine : Machine) (task : Subtask) : (runSubtaskOn machine task).Heeds freer := by
  apply (allows.heeds_dispatchOn machine _ _ _ _).bind
  rintro ⟨visited, fault | text⟩
  · trivial
  · cases text with
    | none => trivial
    | some text =>
        dsimp only
        split
        · trivial
        · exact Process.heeds_change (saves ⟨task.agent, task.input, text⟩) trivial

end Dispatcher

end PromptDispatch
