import PromptDispatch.Proofs.Dispatch.Moment
import PromptDispatch.Proofs.Process.Trace

/-!
# Batches of subtasks

What a behaviour comes to outside a chain, and what it emits on its way, follow
from the behaviour alone.  A batch of subtasks therefore gives every subtask the
outcome that it has when it is executed alone, in the order of priority, and the
events of the batch are an interleaving of what its agents emit: for every
subtask of a registered agent one run, and after it one follow-up of the
subtask's own outcome.
-/

namespace PromptDispatch

/-! ## The order of subtasks -/

/-- The subtasks in descending priority; those of one priority keep their places
among themselves. -/
structure Subtask.Ordered (tasks ordered : List Subtask) : Prop where
  perm : ordered.Perm tasks
  descending : ordered.Pairwise fun earlier later => later.priority ≤ earlier.priority
  stable : ∀ priority : Int, ordered.filter (fun task => task.priority = priority) =
    tasks.filter fun task => task.priority = priority

theorem Subtask.ordered_byPriority (tasks : List Subtask) : Ordered tasks (byPriority tasks) := by
  have trans : ∀ a b c : Subtask, decide (b.priority ≤ a.priority) = true →
      decide (c.priority ≤ b.priority) = true → decide (c.priority ≤ a.priority) = true := by
    intro a b c
    simpa using fun first second => Int.le_trans second first
  have total : ∀ a b : Subtask,
      (decide (b.priority ≤ a.priority) || decide (a.priority ≤ b.priority)) = true := by
    intro a b
    simpa using Int.le_total b.priority a.priority
  have perm : (byPriority tasks).Perm tasks := List.mergeSort_perm _ _
  refine ⟨perm, ?_, ?_⟩
  · have sorted := List.pairwise_mergeSort trans total tasks
    simpa [byPriority] using sorted
  · intro priority
    have ofOne : (tasks.filter fun task => task.priority = priority).Pairwise fun a b =>
        decide (b.priority ≤ a.priority) = true := by
      apply List.pairwise_of_forall_mem_list
      intro a aMem b bMem
      have aPriority : a.priority = priority := by simpa using (List.mem_filter.mp aMem).2
      have bPriority : b.priority = priority := by simpa using (List.mem_filter.mp bMem).2
      simp [aPriority, bPriority]
    have sub := List.sublist_mergeSort trans total ofOne List.filter_sublist
    have subFilter := sub.filter fun task => decide (task.priority = priority)
    rw [List.filter_filter] at subFilter
    simp only [Bool.and_self] at subFilter
    exact (subFilter.eq_of_length (perm.filter _).length_eq.symm).symm

/-! ## Behaviours outside a chain -/

/-- What a behaviour comes to when nobody can be delegated to.  A cancellation of
its own comes to no reply. -/
def Behaviour.reply (own : String) (context : Json) : Behaviour → Except Fault Reply
  | .done reply => .ok reply
  | .fail fault => .error fault
  | .halt => .error (.foreign "CancelledError" "")
  | .pause _ next => (next ()).reply own context
  | .emit _ next => next.reply own context
  | .note _ next => next.reply own context
  | .count next => next.reply own context
  | .save _ _ next =>
      if Store.isName (some own) then next.reply own context else .error .namelessAgent
  | .unregister _ next => next.reply own context
  | .delegate _ _ _ => .error (Session.chainMissing context)

/-- The events that a behaviour emits when nobody can be delegated to. -/
def Behaviour.emitted (own : String) : Behaviour → List String
  | .done _ => []
  | .fail _ => []
  | .halt => []
  | .pause _ next => (next ()).emitted own
  | .emit event next => event :: next.emitted own
  | .note _ next => next.emitted own
  | .count next => next.emitted own
  | .save _ _ next => if Store.isName (some own) then next.emitted own else []
  | .unregister _ next => next.emitted own
  | .delegate _ _ _ => []

/-- An agent whose runs and follow-ups, on what a caller hands over, end by no
cancellation and give up no name. -/
structure Agent.Reliable (agent : Agent) : Prop where
  runs : ∀ input context, (agent.run input (.given context)).Stays
  follows : ∀ follow, agent.afterSubtask = some follow → ∀ o context, (follow o context).Stays

/-- All registered agents are reliable. -/
def Roster.Reliable (roster : Roster) : Prop := ∀ agent ∈ roster.agents, agent.Reliable

theorem Roster.Reliable.of_find? {roster : Roster} (reliable : roster.Reliable) {name : String}
    {agent : Agent} (found : roster.find? name = some agent) : agent.Reliable :=
  reliable agent (List.mem_of_find?_eq_some found)

/-- The outcome of what an agent's logic came to. -/
def Outcome.concluding (agent : String) (reply : Except Fault Reply) : Outcome :=
  match reply.bind Reply.outcome? with
  | .ok o => o
  | .error fault =>
      let told := (Fault.agentExecution agent fault).message
      .failWith told ("Error executing agent: " ++ told)

namespace Roster

variable (roster : Roster) (task : Subtask)

/-- The outcome of a subtask among the agents of a roster. -/
def outcomeOf : Outcome :=
  match roster.find? task.agent with
  | none => .fail (Fault.agentNotFound task.agent).message
  | some agent =>
      .concluding task.agent
        ((agent.run task.input (.given (.obj task.context))).reply task.agent (.obj task.context))

/-- What the run of a subtask's agent emits. -/
def runEvents : List String :=
  match roster.find? task.agent with
  | none => []
  | some agent => (agent.run task.input (.given (.obj task.context))).emitted task.agent

/-- What a subtask's agent emits when it follows up an outcome. -/
def followEvents (o : Outcome) : List String :=
  match (roster.find? task.agent).bind (·.afterSubtask) with
  | none => []
  | some follow => (follow o (.obj task.context)).emitted task.agent

end Roster

namespace Session

section

variable {roster : Roster}

/-- Among agents that stay, nothing but emitting adds to the events. -/
theorem logs_perform (own : String) (context : Json) {behaviour : Behaviour}
    (stays : behaviour.Stays) (visited : List String) :
    (perform own (noDelegation context) behaviour visited).Logs (Holding roster) Session.events
      (fun conclusion => conclusion = (visited, behaviour.reply own context))
      (behaviour.emitted own) := by
  induction behaviour with
  | done reply => exact Process.logs_done rfl
  | fail fault => exact Process.logs_done rfl
  | halt => exact stays.elim
  | pause lastWords next ih => exact ih () stays
  | emit event next ih =>
      rw [perform, Behaviour.emitted, ← List.singleton_append]
      exact Process.logs_change (fun _ holds => holds) (fun _ => rfl) (ih stays)
  | note text next ih =>
      exact Process.logs_change_silent (fun _ holds => holds) (fun _ => rfl) (ih stays)
  | count next ih =>
      exact Process.logs_change_silent (fun _ holds => holds) (fun _ => rfl) (ih stays)
  | save key value next ih =>
      rw [perform, Behaviour.reply, Behaviour.emitted]
      split
      · exact Process.logs_change_silent (fun _ holds => holds) (fun _ => rfl) (ih stays)
      · exact Process.logs_done rfl
  | unregister agent next _ => exact stays.elim
  | delegate agent task next _ =>
      rw [perform]
      exact Process.logs_done rfl

theorem logs_conclude (agent : String) (visited : List String) (reply : Except Fault Reply) :
    (conclude agent visited reply).Logs (Holding roster) Session.events
      (fun result => result = (visited, Outcome.concluding agent reply)) [] := by
  cases result : reply.bind Reply.outcome? with
  | ok o =>
      simp only [conclude, Outcome.concluding, result]
      exact Process.logs_change_silent (fun _ holds => holds) (fun _ => rfl) (Process.logs_done rfl)
  | error fault =>
      simp only [conclude, Outcome.concluding, result]
      exact Process.logs_change_silent (fun _ holds => holds) (fun _ => rfl) (Process.logs_done rfl)

variable (reliable : roster.Reliable) (task : Subtask)
include reliable

/-- An execution runs the agent once. -/
theorem logs_execute :
    (execute (noDelegation (.obj task.context)) task.agent task.input
      (.given (.obj task.context)) []).Logs (Holding roster) Session.events
      (fun result => result = ([], roster.outcomeOf task)) (roster.runEvents task) := by
  apply Process.logs_look
  rintro s rfl
  rw [Roster.outcomeOf, Roster.runEvents]
  cases found : s.roster.find? task.agent with
  | none =>
      exact Process.logs_change_silent (fun _ holds => holds) (fun _ => rfl) (Process.logs_done rfl)
  | some agent =>
      have stays := (reliable.of_find? found).runs task.input (.obj task.context)
      simp only [runAgent, Roster.name_of_find? found]
      refine Process.logs_change_silent (fun _ holds => holds) (fun _ => rfl) ?_
      rw [← List.append_nil (Behaviour.emitted _ _)]
      apply (logs_perform task.agent (.obj task.context) stays []).bind
      rintro _ rfl
      exact logs_conclude task.agent [] _

/-- A follow-up runs the agent's follow-up once and keeps the outcome. -/
theorem logs_followUp (o : Outcome) :
    (followUp task o).Logs (Holding roster) Session.events (fun result => result = o)
      (roster.followEvents task o) := by
  apply Process.logs_look
  rintro s rfl
  rw [Roster.followEvents]
  cases found : (s.roster.find? task.agent).bind (·.afterSubtask) with
  | none => exact Process.logs_done rfl
  | some follow =>
      obtain ⟨agent, isAgent, isFollow⟩ := Option.bind_eq_some_iff.mp found
      have stays := (reliable.of_find? isAgent).follows follow isFollow o (.obj task.context)
      dsimp only
      rw [← List.append_nil (Behaviour.emitted _ _)]
      apply (logs_perform task.agent (.obj task.context) stays []).bind
      rintro _ rfl
      cases Behaviour.reply task.agent (.obj task.context) (follow o (.obj task.context)) with
      | ok reply => exact Process.logs_done rfl
      | error fault =>
          exact Process.logs_change_silent (fun _ holds => holds) (fun _ => rfl)
            (Process.logs_done rfl)

/-- A subtask is run once, and then followed up once with its own outcome. -/
theorem logs_runSubtask :
    (runSubtask task).Logs (Holding roster) Session.events
      (fun result => result = roster.outcomeOf task)
      (roster.runEvents task ++ roster.followEvents task (roster.outcomeOf task)) := by
  apply (logs_execute reliable task).bind
  rintro _ rfl
  exact logs_followUp reliable task _

end

/-! ## Batches -/

/-- A subtask executed alone comes to its outcome in the roster. -/
theorem executeAlone_eq {s : Session} (reliable : s.roster.Reliable) (task : Subtask) :
    (executeAlone task.agent (.str task.input) (.obj task.context) s).2 =
      .done (s.roster.outcomeOf task) := by
  have executed : (executeTask (noDelegation (.obj task.context)) task.agent (.str task.input)
      (.given (.obj task.context)) []).Ensures (Holding s.roster)
      fun result => result = .ok ([], s.roster.outcomeOf task) :=
    (logs_execute reliable task).ensures.map fun _ same => congrArg Except.ok same
  have holds : Holding s.roster s := rfl
  obtain ⟨after, result, ran, rfl, -⟩ := executed.run holds
  rw [executeAlone, ran]

/-- A batch gives the outcomes that its subtasks have in the roster, and its
events are what their runs and follow-ups emit. -/
theorem runSubtasks_eq {s : Session} (reliable : s.roster.Reliable) (tasks : List Subtask) :
    ∃ after events,
      runSubtasks tasks s = (after, .done ((Subtask.byPriority tasks).map s.roster.outcomeOf)) ∧
      after.events = s.events ++ events ∧
      Interleaves ((Subtask.byPriority tasks).map fun task =>
        s.roster.runEvents task ++ s.roster.followEvents task (s.roster.outcomeOf task)) events := by
  cases empty : tasks.isEmpty with
  | true =>
      obtain rfl := List.isEmpty_iff.mp empty
      have none_ordered : Subtask.byPriority [] = [] := by simp [Subtask.byPriority]
      rw [none_ordered]
      exact ⟨s, [], rfl, (List.append_nil _).symm, .nil (by simp)⟩
  | false =>
      have ensures : List.Forall₂ (fun post p => Process.Ensures (Holding s.roster) post p)
          ((Subtask.byPriority tasks).map fun task o => o = s.roster.outcomeOf task)
          ((Subtask.byPriority tasks).map runSubtask) := by
        rw [List.forall₂_map_left_iff, List.forall₂_map_right_iff, List.forall₂_same]
        exact fun task _ => (logs_runSubtask reliable task).ensures
      have logs : List.Forall₂
          (fun list p => ∃ post, Process.Logs (Holding s.roster) Session.events post p list)
          ((Subtask.byPriority tasks).map fun task =>
            s.roster.runEvents task ++ s.roster.followEvents task (s.roster.outcomeOf task))
          ((Subtask.byPriority tasks).map runSubtask) := by
        rw [List.forall₂_map_left_iff, List.forall₂_map_right_iff, List.forall₂_same]
        exact fun task _ => ⟨_, logs_runSubtask reliable task⟩
      have holds : Holding s.roster (s.announce (Subtask.byPriority tasks).length) := rfl
      obtain ⟨after, outcomes, ran, meet, -⟩ := Batch.settled_run ensures holds
      obtain ⟨events, logged, interleaves⟩ := Batch.logs_run logs holds ran
      have outcomes_eq : outcomes = (Subtask.byPriority tasks).map s.roster.outcomeOf := by
        rw [Batch.Meet, List.forall₂_map_left_iff] at meet
        rw [← List.forall₂_eq_eq_eq, List.forall₂_map_right_iff]
        exact meet.flip
      refine ⟨after, events, ?_, logged, interleaves⟩
      rw [runSubtasks, runBatch, if_neg (by simp [empty])]
      dsimp only
      rw [ran, outcomes_eq]
      rfl

/-! ## Announced calls -/

end Session

/-- A call of an agent's own logic. -/
inductive Call where
  | run (agent input : String) (context : Context)
  | followUp (agent : String) (outcome : Outcome) (context : Json)

/-- An agent that announces every call by an event and then does what it does. -/
def Agent.announcing (announce : Call → String) (agent : Agent) : Agent :=
  { agent with
    run := fun input context =>
      .emit (announce (.run agent.name input context)) (agent.run input context)
    afterSubtask := agent.afterSubtask.map fun follow o context =>
      .emit (announce (.followUp agent.name o context)) (follow o context) }

namespace Roster

/-- The roster with every agent announcing its calls. -/
def announcing (announce : Call → String) (roster : Roster) : Roster :=
  ⟨roster.agents.map (Agent.announcing announce)⟩

/-- The events of a subtask when its agent announces its calls: none for a missing
agent, else one run on the subtask's input and context, and when the agent follows
subtasks up, one follow-up of the outcome after it. -/
def announced (announce : Call → String) (roster : Roster) (task : Subtask) (o : Outcome) :
    List String :=
  match roster.find? task.agent with
  | none => []
  | some agent =>
      let context := Json.obj task.context
      let run := agent.run task.input (.given context)
      announce (.run task.agent task.input (.given context)) :: run.emitted task.agent ++
        match agent.afterSubtask with
        | none => []
        | some follow =>
            announce (.followUp task.agent o context) :: (follow o context).emitted task.agent

variable {announce : Call → String} {roster : Roster}

theorem find?_announcing (name : String) :
    (roster.announcing announce).find? name =
      (roster.find? name).map (Agent.announcing announce) := by
  rw [announcing, find?, List.find?_map]
  rfl

theorem reliable_announcing (reliable : roster.Reliable) :
    (roster.announcing announce).Reliable := by
  intro agent agentMem
  rcases List.mem_map.mp agentMem with ⟨silent, silentMem, rfl⟩
  have silentReliable := reliable silent silentMem
  refine ⟨silentReliable.runs, ?_⟩
  intro follow isFollow o context
  rcases Option.map_eq_some_iff.mp isFollow with ⟨silentFollow, isSilent, rfl⟩
  exact silentReliable.follows silentFollow isSilent o context

/-- Announcing changes no outcome. -/
theorem outcomeOf_announcing : (roster.announcing announce).outcomeOf = roster.outcomeOf := by
  funext task
  rw [outcomeOf, outcomeOf, find?_announcing]
  cases roster.find? task.agent with
  | none => rfl
  | some agent => rfl

/-- What an announcing agent emits for a subtask are its calls, each with what it
emits of its own. -/
theorem events_announcing (task : Subtask) (o : Outcome) :
    (roster.announcing announce).runEvents task ++
        (roster.announcing announce).followEvents task o =
      roster.announced announce task o := by
  rw [runEvents, followEvents, announced, find?_announcing]
  cases found : roster.find? task.agent with
  | none => rfl
  | some agent =>
      have named := name_of_find? found
      cases follows : agent.afterSubtask with
      | none => simp [Agent.announcing, Behaviour.emitted, follows, named]
      | some follow => simp [Agent.announcing, Behaviour.emitted, follows, named]

end Roster

namespace Session

/-- A session whose agents announce their calls. -/
def announcing (announce : Call → String) (s : Session) : Session :=
  { s with roster := s.roster.announcing announce }

/-- Two agents: one gives up control before it answers and fails when it follows
up, the other refuses an input. -/
def teamRoster : Roster := ⟨[
  { name := "slow", capabilities := [], kind := none
    run := fun input _ => .pause none fun _ => .done (.text ("slowly " ++ input))
    afterSubtask := some fun _ _ => .pause none fun _ => .fail (.general "no follow-up")
    start := none, stop := none },
  { name := "picky", capabilities := [], kind := none
    run := fun input _ =>
      if input = "bad" then .fail (.general "refused") else .done (.text input)
    afterSubtask := none, start := none, stop := none }]⟩

/-- A session with the two of them. -/
def teamSession : Session where
  clock := .zero
  throttle := .fresh .zero
  store := .empty .standard
  archive := .none
  disk := .empty
  roster := teamRoster
  runs := []
  events := []
  journal := []

/-- Subtasks of three priorities, one of them for an agent that is missing. -/
def teamTasks : List Subtask :=
  [⟨"picky", "bad", -1, []⟩, ⟨"slow", "first", 2, []⟩, ⟨"missing", "x", 0, []⟩,
    ⟨"slow", "second", 2, []⟩, ⟨"picky", "good", 0, []⟩]

/-- The wording of calls by agent and input or output. -/
def wording : Call → String
  | .run agent input _ => agent ++ " runs " ++ input
  | .followUp agent o _ => agent ++ " follows up " ++ o.output

theorem reliable_teamRoster : teamRoster.Reliable := by
  intro agent agentMem
  rcases List.mem_cons.mp agentMem with rfl | agentMem
  · refine ⟨fun _ _ => trivial, ?_⟩
    intro follow isFollow o context
    obtain rfl := Option.some.inj isFollow
    exact trivial
  · obtain rfl := List.mem_singleton.mp agentMem
    refine ⟨?_, fun _ isFollow => by cases isFollow⟩
    intro input context
    dsimp only
    split <;> trivial

theorem byPriority_teamTasks : Subtask.byPriority teamTasks =
    [⟨"slow", "first", 2, []⟩, ⟨"slow", "second", 2, []⟩, ⟨"missing", "x", 0, []⟩,
      ⟨"picky", "good", 0, []⟩, ⟨"picky", "bad", -1, []⟩] := by
  simp [Subtask.byPriority, teamTasks, List.mergeSort, List.MergeSort.Internal.splitInTwo]

end Session

end PromptDispatch
