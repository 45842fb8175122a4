import PromptDispatch.Dispatch.Basic
import PromptDispatch.Proofs.Process.Interference

/-!
# Steady agents

What a steady agent does follows from its input, the prompt and the agents
visited so far.  It may pause, write to the store, fail and delegate to anyone;
it does not look at stored entries, ends by no cancellation and gives up no
name.

Among steady agents a delegation has one result, whatever else goes on in the
session, as long as the roster stays what it is.
-/

namespace PromptDispatch

/-- A behaviour ends by no cancellation and gives up no name. -/
def Behaviour.Stays : Behaviour → Prop
  | .done _ => True
  | .fail _ => True
  | .halt => False
  | .pause _ next => (next ()).Stays
  | .emit _ next => next.Stays
  | .note _ next => next.Stays
  | .count next => next.Stays
  | .save _ _ next => next.Stays
  | .unregister _ _ => False
  | .delegate _ _ next => ∀ text visited, (next text visited).Stays

/-- An agent whose runs along a chain stay and do not depend on what is
stored. -/
structure Agent.Steady (agent : Agent) : Prop where
  ignoresEntries : ∀ input prompt entries entries' visited,
    agent.run input (.chained prompt entries visited) =
      agent.run input (.chained prompt entries' visited)
  stays : ∀ input prompt entries visited,
    (agent.run input (.chained prompt entries visited)).Stays

/-- All registered agents are steady. -/
def Roster.Steady (roster : Roster) : Prop := ∀ agent ∈ roster.agents, agent.Steady

theorem Roster.Steady.of_find? {roster : Roster} (steady : roster.Steady) {name : String}
    {agent : Agent} (found : roster.find? name = some agent) : agent.Steady :=
  steady agent (List.mem_of_find?_eq_some found)

namespace Session

/-- The sessions with a roster. -/
def Holding (roster : Roster) (s : Session) : Prop := s.roster = roster

/-! ## Behaviours -/

section

variable {roster : Roster} {delegation : Delegation}

/-- A behaviour that stays comes to one conclusion, if every delegation has one
result. -/
theorem determined_perform
    (delegates : ∀ visited name task,
      (delegation visited name task).Determined (Holding roster))
    (own : String) {behaviour : Behaviour} (stays : behaviour.Stays) (visited : List String) :
    (perform own delegation behaviour visited).Determined (Holding roster) := by
  induction behaviour generalizing visited with
  | done reply => exact Process.determined_done _
  | fail fault => exact Process.determined_done _
  | halt => exact stays.elim
  | pause lastWords next ih => exact ih () stays visited
  | emit event next ih => exact Process.determined_change (fun _ holds => holds) (ih stays visited)
  | note text next ih => exact Process.determined_change (fun _ holds => holds) (ih stays visited)
  | count next ih => exact Process.determined_change (fun _ holds => holds) (ih stays visited)
  | save key value next ih =>
      rw [perform]
      split
      · exact Process.determined_change (fun _ holds => holds) (ih stays visited)
      · exact Process.determined_done _
  | unregister agent next _ => exact stays.elim
  | delegate agent task next ih =>
      rw [perform]
      apply (delegates visited agent task).bind
      rintro ⟨visited, fault | text⟩
      · exact Process.determined_done _
      · exact ih text visited (stays text visited) visited

theorem determined_look_has {α : Type} {registered missing : Process Session α} (name : String)
    (whenRegistered : registered.Determined (Holding roster))
    (whenMissing : missing.Determined (Holding roster)) :
    (Process.look fun s => if s.roster.has name then registered else missing).Determined
      (Holding roster) := by
  apply Process.determined_look (if roster.has name then registered else missing)
  · rintro s rfl
    rfl
  · split
    · exact whenRegistered
    · exact whenMissing

theorem determined_conclude (agent : String) (visited : List String)
    (reply : Except Fault Reply) :
    (conclude agent visited reply).Determined (Holding roster) := by
  rw [conclude]
  split
  · exact Process.determined_change (fun _ holds => holds) (Process.determined_done _)
  · exact Process.determined_change (fun _ holds => holds) (Process.determined_done _)

theorem determined_missingAgent (name : String) (visited : List String) :
    (missingAgent name visited).Determined (Holding roster) :=
  Process.determined_change (fun _ holds => holds) (Process.determined_done _)

/-- Along a chain the execution of an agent has one result, whatever entries
the agent is shown. -/
theorem exists_ensures_execute (steady : roster.Steady)
    (delegates : ∀ visited name task,
      (delegation visited name task).Determined (Holding roster))
    (name input prompt : String) (chain visited : List String) :
    ∃ result, ∀ entries,
      (execute delegation name input (.chained prompt entries chain) visited).Ensures
        (Holding roster) fun a => a = result := by
  cases found : roster.find? name with
  | none =>
      have missing : (missingAgent name visited).Determined (Holding roster) :=
        determined_missingAgent name visited
      rcases missing with ⟨result, ensures⟩
      refine ⟨result, fun entries => Process.ensures_look ?_⟩
      rintro s rfl
      simpa only [found] using ensures
  | some agent =>
      have agentSteady := steady.of_find? found
      have stays := agentSteady.stays input prompt [] chain
      have performed := determined_perform delegates agent.name stays visited
      obtain ⟨result, ensures⟩ := performed.bind
        fun conclusion => determined_conclude agent.name conclusion.1 conclusion.2
      refine ⟨result, fun entries => Process.ensures_look ?_⟩
      rintro s rfl
      simp only [found, runAgent]
      rw [agentSteady.ignoresEntries input prompt entries [] chain]
      exact Process.ensures_change (fun _ holds => holds) ensures

theorem exists_ensures_executeTask (steady : roster.Steady)
    (delegates : ∀ visited name task,
      (delegation visited name task).Determined (Holding roster))
    (name prompt : String) (task : Errand) (chain visited : List String) :
    ∃ result, ∀ entries,
      (executeTask delegation name task (.chained prompt entries chain) visited).Ensures
        (Holding roster) fun a => a = result := by
  cases task with
  | str input =>
      obtain ⟨result, ensures⟩ :=
        exists_ensures_execute steady delegates name input prompt chain visited
      exact ⟨.ok result, fun entries => (ensures entries).map fun a same => congrArg _ same⟩
  | _ =>
      have missing : (missingAgent name visited).Determined (Holding roster) :=
        determined_missingAgent name visited
      obtain ⟨result, ensures⟩ :=
        determined_look_has name (Process.determined_done _) (missing.map Except.ok)
      exact ⟨result, fun _ => ensures⟩

/-! ## Steps along a chain -/

theorem determined_failedInChain (name : String) (visited : List String) (told : String) :
    (failedInChain name visited told).Determined (Holding roster) :=
  Process.determined_change (fun _ holds => holds) (Process.determined_done _)

theorem determined_sayingOf (name : String) (visited : List String)
    (result : Except Fault (List String × Outcome)) :
    (sayingOf name visited result).Determined (Holding roster) := by
  rw [sayingOf.eq_def]
  split
  · exact determined_failedInChain _ _ _
  · split
    · exact Process.determined_done _
    · exact determined_failedInChain _ _ _

/-- Entering an agent has one result: the entries that the agent is shown are
all that entering takes from the store. -/
theorem determined_enter (steady : roster.Steady)
    (delegates : ∀ visited name task,
      (delegation visited name task).Determined (Holding roster))
    (prompt name : String) (task : Errand) (visited : List String) :
    (enter delegation prompt name task visited).Determined (Holding roster) := by
  obtain ⟨result, executed⟩ := exists_ensures_executeTask steady delegates name prompt task
    (visited ++ [name]) (visited ++ [name])
  have determined : (sayingOf name (visited ++ [name]) result).Determined (Holding roster) :=
    determined_sayingOf name (visited ++ [name]) result
  rcases determined with ⟨saying, said⟩
  refine ⟨saying, Process.ensures_look fun s _ => (executed _).bind ?_⟩
  rintro _ rfl
  exact said

theorem determined_dispatchStep (steady : roster.Steady)
    (delegates : ∀ visited name task,
      (delegation visited name task).Determined (Holding roster))
    (prompt : String) (visited : List String) (name : String) (task : Errand) :
    (dispatchStep delegation prompt visited name task).Determined (Holding roster) := by
  apply determined_look_has name
  · split
    · exact Process.determined_change (fun _ holds => holds) (Process.determined_done _)
    · exact determined_enter steady delegates prompt name task visited
  · exact Process.determined_change (fun _ holds => holds) (Process.determined_done _)

end

variable {roster : Roster}

theorem determined_dispatchWithin (steady : roster.Steady) (prompt : String) (depth : Nat)
    (visited : List String) (name : String) (task : Errand) :
    (dispatchWithin prompt depth visited name task).Determined (Holding roster) := by
  induction depth generalizing visited name task with
  | zero =>
      exact determined_dispatchStep steady (fun _ _ _ => Process.determined_done _)
        prompt visited name task
  | succ depth ih =>
      exact determined_dispatchStep steady (fun visited name task => (ih visited name task).map _)
        prompt visited name task

/-- Among steady agents a dispatch has one result. -/
theorem determined_dispatch (steady : roster.Steady) (prompt : String)
    (visited : List String) (name : String) (task : Errand) :
    (dispatch prompt visited name task).Determined (Holding roster) := by
  refine Process.determined_look (dispatchWithin prompt roster.size visited name task) ?_
    (determined_dispatchWithin steady prompt _ visited name task)
  rintro s rfl
  rfl

end Session

/-- Among steady agents a subtask of a prompt has one text. -/
theorem Dispatcher.determined_runSubtask {roster : Roster} (steady : roster.Steady)
    (task : Subtask) : (runSubtask task).Determined (Session.Holding roster) := by
  apply (Session.determined_dispatch steady task.input [] task.agent (.str task.input)).bind
  rintro ⟨visited, text⟩
  cases text with
  | none => exact Process.determined_done _
  | some text =>
      dsimp only
      split
      · exact Process.determined_done _
      · exact Process.determined_change (fun _ holds => holds) (Process.determined_done _)

end PromptDispatch
