import PromptDispatch.Proofs.Dispatch.Likeness
import PromptDispatch.Proofs.Dispatch.OnMachine
import PromptDispatch.Proofs.Dispatch.Progress
import PromptDispatch.Proofs.Process.Raising
import PromptDispatch.Proofs.Store.Copying

/-!
# Prompts among entries that can be copied

A machine that can copy all entries of a session, and whatever its agents save, hands
every agent that is entered its entries.  No chain is broken off there, and prompts are
handled as they are without a machine, which leaves a session of the same kind.
-/

namespace PromptDispatch

/-- Values that a machine can copy as entries. -/
def Machine.CanCopy (machine : Machine) (v : Json) : Prop := ¬ machine.CannotCopy 1 v

theorem Machine.canCopy_str (machine : Machine) (text : String) : machine.CanCopy (.str text) := by
  intro cannot
  cases cannot with
  | deep inside holds =>
      obtain ⟨-, rfl⟩ := inside.eq_of_scalar rfl
      exact holds rfl
  | lacksCopy inside =>
      obtain ⟨-, same⟩ := inside.eq_of_scalar rfl
      cases same

namespace Store

variable {P : Json → Prop} {store : Store}

theorem forall_value_getAll (all : ∀ entry ∈ store.agents, ∀ field ∈ entry.2, P field.2)
    (agent : Option String) : ∀ field ∈ store.getAll agent, P field.2 :=
  WellFormed.getAll_induction (P := fun entries => ∀ field ∈ entries, P field.2) (by simp) all
    agent

/-- What holds of the values of all entries and of a written one holds of the values of all
entries after the write. -/
theorem forall_value_write {agent key : Option String} {value : Json}
    (all : ∀ entry ∈ store.agents, ∀ field ∈ entry.2, P field.2) (written : P value) :
    ∀ entry ∈ (store.write agent key value).agents, ∀ field ∈ entry.2, P field.2 := by
  apply Keyed.forall_mem_put all
  intro field member
  have all_written : ∀ field ∈ store.written agent key value, P field.2 :=
    Keyed.forall_mem_put (forall_value_getAll all agent) written
  exact all_written field ((bounded_sublist _ _).subset member)

end Store

namespace Session

/-- A machine can copy all entries of a session, and whatever its agents save. -/
structure Copies (machine : Machine) (s : Session) : Prop where
  room : 0 < machine.copying
  entries : ∀ entry ∈ s.store.agents, ∀ field ∈ entry.2, machine.CanCopy field.2
  agents : s.roster.All (Agent.SavesOnlyInChains machine.CanCopy)

namespace Copies

variable {machine : Machine} {s t : Session}

/-- Whether everything can be copied is a matter of the entries and of the agents. -/
theorem of_fewer (copies : s.Copies machine) (store : t.store.agents = s.store.agents)
    (roster : t.roster.agents ⊆ s.roster.agents) : t.Copies machine where
  room := copies.room
  entries := by
    rw [store]
    exact copies.entries
  agents agent agentMem := copies.agents agent (roster agentMem)

theorem write (copies : s.Copies machine) (agent key : Option String) {value : Json}
    (canCopy : machine.CanCopy value) : (s.write agent key value).Copies machine where
  room := copies.room
  entries := Store.forall_value_write copies.entries canCopy
  agents := copies.agents

theorem copyFault?_eq_none (copies : s.Copies machine) (agent : Option String) :
    s.store.copyFault? machine agent = none := by
  rw [Store.copyFault?_eq_none_iff]
  exact ⟨copies.room, Store.forall_value_getAll copies.entries agent⟩

theorem entryFault?_eq_none (copies : s.Copies machine) (visited : List String)
    (name : String) : s.entryFault? machine visited name = none := by
  rw [entryFault?, copies.copyFault?_eq_none, ite_self]

end Copies

/-- A session whose entries can be copied, and itself. -/
def Copied (machine : Machine) (s t : Session) : Prop := s = t ∧ t.Copies machine

variable {machine : Machine}

theorem kept_copied {change : Session → Session}
    (keeps : ∀ s, s.Copies machine → (change s).Copies machine) :
    Kept (Copied machine) change := by
  rintro s _ ⟨rfl, copies⟩
  exact ⟨rfl, keeps s copies⟩

theorem looksAlike_copied (machine : Machine) :
    LooksAlike machine.CanCopy (Copied machine) where
  store same := by rw [same.1]
  roster same := by rw [same.1]
  saves same := same.2.agents
  note _ _ _ := kept_copied fun _ copies => copies.of_fewer rfl (List.Subset.refl _)
  emit _ := kept_copied fun _ copies => copies.of_fewer rfl (List.Subset.refl _)
  countRun _ := kept_copied fun _ copies => copies.of_fewer rfl (List.Subset.refl _)
  unregister name := by
    refine kept_copied fun s copies => copies.of_fewer ?_ ?_
    · rw [unregister]
      split <;> rfl
    · have acts : Acts .free s (s.unregister name).1 := .unregisters name
      exact acts.roster
  write canCopy := kept_copied fun _ copies => copies.write _ _ canCopy

/-! ## Chains -/

/-- A step along a chain on a machine is told as the step without one. -/
theorem alike_dispatchStepOn {delegation delegation' : Delegation}
    (delegates : ∀ visited name task,
      (delegation visited name task).Alike (Copied machine) (delegation' visited name task))
    (prompt : String) (visited : List String) (name : String) (task : Errand) :
    (dispatchStepOn machine delegation prompt visited name task).Alike (Copied machine)
      ((dispatchStep delegation' prompt visited name task).map spoken) := by
  refine .besides (fun _ _ same => same) ?_
  rintro s _ ⟨rfl, copies⟩
  rw [copies.entryFault?_eq_none]
  exact ((looksAlike_copied machine).alike_dispatchStep delegates prompt visited name task).map _

theorem map_overheard_spoken (p : Process Session Saying) :
    (p.map spoken).map overheard = p.map heard := by
  rw [Process.map, Process.map, Process.bind_assoc]
  rfl

theorem alike_dispatchWithinOn (prompt : String) (depth : Nat) (visited : List String)
    (name : String) (task : Errand) :
    (dispatchWithinOn machine prompt depth visited name task).Alike (Copied machine)
      ((dispatchWithin prompt depth visited name task).map spoken) := by
  induction depth generalizing visited name task with
  | zero => exact alike_dispatchStepOn (fun _ _ _ => .done _) prompt visited name task
  | succ depth ih =>
      apply alike_dispatchStepOn
      intro visited name task
      rw [← map_overheard_spoken]
      exact (ih visited name task).map _

theorem alike_dispatchOn (prompt : String) (visited : List String) (name : String)
    (task : Errand) :
    (dispatchOn machine prompt visited name task).Alike (Copied machine)
      ((dispatch prompt visited name task).map spoken) := by
  apply Process.alike_look
  rintro s _ ⟨rfl, -⟩
  exact alike_dispatchWithinOn prompt s.roster.size visited name task

end Session

namespace Dispatcher

open Session (Copied)

variable {machine : Machine} {s : Session}

/-- What a subtask does on a machine with what is told of its agent. -/
def closingOn (task : Subtask) : Session.Telling → Process Session (Except Fault (Option String))
  | (_, .error fault) => .done (.error fault)
  | (visited, .ok text) => (closing task (visited, text)).map .ok

theorem runSubtaskOn_eq (task : Subtask) :
    runSubtaskOn machine task =
      (Session.dispatchOn machine task.input [] task.agent (.str task.input)).bind
        (closingOn task) := by
  rw [runSubtaskOn]
  congr 1
  funext telling
  rcases telling with ⟨visited, fault | text⟩
  · rfl
  · cases text with
    | none => rfl
    | some text =>
        dsimp only [closingOn, closing]
        split <;> rfl

theorem alike_closingOn (task : Subtask) (telling : Session.Telling) :
    (closingOn task telling).Alike (Copied machine) (closingOn task telling) := by
  rcases telling with ⟨visited, fault | text⟩
  · exact .done _
  · apply Process.Alike.map
    cases text with
    | none => exact .done _
    | some text =>
        rw [closing]
        split
        · exact .done _
        · apply Process.alike_change _ (.done _)
          apply Session.kept_copied
          intro s copies
          exact (copies.write _ _ (machine.canCopy_str _)).write _ _ (machine.canCopy_str _)

theorem alike_runSubtaskOn (task : Subtask) :
    (runSubtaskOn machine task).Alike (Copied machine) ((runSubtask task).map .ok) := by
  have course : (runSubtask task).map Except.ok =
      ((Session.dispatch task.input [] task.agent (.str task.input)).map Session.spoken).bind
        (closingOn task) := by
    rw [runSubtask_eq, Process.map, Process.map, Process.bind_assoc, Process.bind_assoc]
    rfl
  rw [runSubtaskOn_eq, course]
  exact (Session.alike_dispatchOn task.input [] task.agent (.str task.input)).bind
    (alike_closingOn task)

/-- Where all entries can be copied a machine handles a prompt as it is handled without
one, and all entries can be copied afterwards. -/
theorem handleOn_eq (copies : s.Copies machine) (d : Dispatcher) (prompt : String) :
    d.handleOn machine prompt s = d.handle prompt s ∧
      (d.handle prompt s).1.Copies machine := by
  have accepts := accepts_accept d prompt s
  rw [handleOn, handle, handleWith]
  rcases accepted : d.accept prompt s with ⟨middle, arrival⟩
  rw [accepted] at accepts
  have copiesThen : middle.Copies machine := by
    refine copies.of_fewer ?_ (by rw [accepts.roster]; exact List.Subset.refl _)
    rcases accepts.store with same | recorded
    · rw [same]
    · rw [recorded]
      rfl
  cases arrival with
  | error fault => exact ⟨rfl, copiesThen⟩
  | ok tasks =>
      have alike : List.Forall₂ (fun p q => p.Alike (Copied machine) (q.map .ok))
          (tasks.map (runSubtaskOn machine)) (tasks.map runSubtask) := by
        rw [List.forall₂_map_left_iff, List.forall₂_map_right_iff, List.forall₂_same]
        exact fun task _ => alike_runSubtaskOn task
      obtain ⟨⟨left, copiesLast⟩, results⟩ := Batch.alike_runRaising alike ⟨rfl, copiesThen⟩
      refine ⟨?_, copiesLast⟩
      dsimp only
      rcases onMachine : Batch.runRaising (tasks.map (runSubtaskOn machine)) middle with
        ⟨last, told⟩
      rcases without : Batch.run (tasks.map runSubtask) middle with ⟨lastToo, texts⟩
      rw [onMachine, without] at left results
      obtain rfl : last = lastToo := left
      obtain rfl : told = texts.elim (.error none) .ok := results
      cases texts <;> rfl

end Dispatcher

end PromptDispatch
