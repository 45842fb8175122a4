import PromptDispatch.Proofs.Process.Treaty
import PromptDispatch.Proofs.Session.Rules
import PromptDispatch.Proofs.Session.Subtasks

/-!
# Follow-ups

Between the moment at which a subtask finds its agent and the moment at which its
run has ended, anybody may give up the agent's name.  A subtask looks its agent up
again after the run and follows up with what it finds then: the agent that ran, if
it is still registered, and otherwise nobody.  A ledger beside the session tells
which calls were made for which subtask.
-/

namespace PromptDispatch

/-- What is written down of a subtask on its way. -/
inductive Subtask.Mark where
  /-- an agent was found and is run -/
  | run (agent : Agent) (input : String) (context : Context)
  /-- the run has ended with an outcome, and perhaps an agent is registered under the
  name then -/
  | ended (o : Outcome) (still : Option Agent)
  /-- an agent follows up an outcome -/
  | followUp (agent : Agent) (o : Outcome) (context : Json)

namespace Subtask

/-- What is written down from the end of a subtask's run on. -/
def followMarks (t : Subtask) (o : Outcome) (still : Option Agent) : List Mark :=
  .ended o still :: match still with
    | none => []
    | some agent =>
      match agent.afterSubtask with
      | none => []
      | some _ => [.followUp agent o (.obj t.context)]

/-- The entries of a subtask that has come to an outcome, for each way that it can
go. -/
inductive Course (roster : Roster) (t : Subtask) (o : Outcome) : List Mark → Prop where
  /-- no agent was registered when the subtask began -/
  | missing (outcome : o = .fail (Fault.agentNotFound t.agent).message) :
      Course roster t o [.ended o none]
  /-- the agent that ran is no longer registered when its run has ended -/
  | gone {agent : Agent} (found : roster.find? t.agent = some agent) :
      Course roster t o [.run agent t.input (.given (.obj t.context)), .ended o none]
  /-- the agent that ran is still registered and has nothing to follow up with -/
  | silent {agent : Agent} (found : roster.find? t.agent = some agent)
      (nothing : agent.afterSubtask = none) :
      Course roster t o [.run agent t.input (.given (.obj t.context)), .ended o (some agent)]
  /-- the agent that ran is still registered and follows up the outcome -/
  | followed {agent : Agent} {follow : Outcome → Json → Behaviour}
      (found : roster.find? t.agent = some agent) (follows : agent.afterSubtask = some follow) :
      Course roster t o [.run agent t.input (.given (.obj t.context)), .ended o (some agent),
        .followUp agent o (.obj t.context)]

end Subtask

/-- A name that is given up is no longer registered, and the others stay as they
are. -/
theorem Roster.find?_unregister (roster : Roster) (given name : String) :
    (roster.unregister given).find? name = if name = given then none else roster.find? name := by
  rw [find?, unregister, List.find?_filter]
  split
  · next same =>
    rw [List.find?_eq_none]
    simp [same]
  · next different =>
    rw [find?]
    congr 1
    funext agent
    by_cases named : agent.name = name
    · simp [named, different]
    · simp [named]

namespace Session

open Subtask (Mark Course)

/-! ## Rosters that shrink -/

/-- Who is registered later was registered before. -/
def Shrinks (s s' : Session) : Prop :=
  ∀ name agent, s'.roster.find? name = some agent → s.roster.find? name = some agent

theorem Shrinks.refl (s : Session) : Shrinks s s := fun _ _ found => found

theorem Shrinks.trans {s s' s'' : Session} (first : Shrinks s s') (second : Shrinks s' s'') :
    Shrinks s s'' :=
  fun name agent found => first name agent (second name agent found)

theorem Shrinks.find?_eq_none {s s' : Session} (shrinks : Shrinks s s') {name : String}
    (missing : s.roster.find? name = none) : s'.roster.find? name = none := by
  cases found : s'.roster.find? name with
  | none => rfl
  | some agent => rw [shrinks name agent found] at missing; cases missing

/-- Whatever agents do, the roster can only shrink. -/
theorem Acts.shrinks {rules : Rules} {s s' : Session} (acts : Acts rules s s') : Shrinks s s' := by
  cases acts with
  | unregisters given =>
      rw [unregister]
      split
      · intro name agent found
        have kept : (s.roster.unregister given).find? name = some agent := found
        rw [Roster.find?_unregister] at kept
        split at kept
        · cases kept
        · exact kept
      · exact Shrinks.refl s
  | _ => exact Shrinks.refl s

/-! ## Subtasks that are watched -/

/-- What a subtask does with what its agent has to follow up with. -/
def followWith (t : Subtask) (o : Outcome) (follow : Outcome → Json → Behaviour) :
    Process Session Outcome :=
  (perform t.agent (noDelegation (.obj t.context)) (follow o (.obj t.context)) []).bind
    fun
    | (_, .ok _) => .done o
    | (_, .error fault) =>
      .change (fun s => s.note .error .roster
        s!"Subtask result hook failed for {t.agent}: {fault.message}") (.done o)

/-- The execution of a subtask at a place of a batch.  That an agent is run is written
down right before. -/
def watchExecution (place : Nat) (t : Subtask) :
    Process (Session × Ledger Mark) (List String × Outcome) :=
  .look fun w =>
    match w.1.roster.find? t.agent with
    | none => (missingAgent t.agent []).beside
    | some agent =>
      .tell (.write place [.run agent t.input (.given (.obj t.context))])
        (runAgent (noDelegation (.obj t.context)) agent t.input (.given (.obj t.context))
          []).beside

/-- The follow-up of a subtask at a place of a batch.  What it finds is written down,
and right before an agent follows up also that it does. -/
def watchFollowUp (place : Nat) (t : Subtask) (o : Outcome) :
    Process (Session × Ledger Mark) Outcome :=
  .look fun w =>
    .tell (.write place [.ended o (w.1.roster.find? t.agent)]) <|
      match w.1.roster.find? t.agent with
      | none => .done o
      | some agent =>
        match agent.afterSubtask with
        | none => .done o
        | some follow =>
          .tell (.write place [.followUp agent o (.obj t.context)]) (followWith t o follow).beside

/-- A subtask at a place of a batch, with its calls written down. -/
def watchSubtask (place : Nat) (t : Subtask) : Process (Session × Ledger Mark) Outcome :=
  (watchExecution place t).bind fun (_, o) => watchFollowUp place t o

theorem watches_watchExecution (place : Nat) (t : Subtask) :
    (watchExecution place t).Watches
      (execute (noDelegation (.obj t.context)) t.agent t.input (.given (.obj t.context)) []) := by
  refine .act (fun _ => rfl) fun w => ?_
  cases w.1.roster.find? t.agent with
  | none => exact Process.watches_beside _
  | some agent => exact .tell (Process.watches_beside _)

theorem watches_watchFollowUp (place : Nat) (t : Subtask) (o : Outcome) :
    (watchFollowUp place t o).Watches (followUp t o) := by
  refine .act (fun _ => rfl) fun w => .tell ?_
  cases w.1.roster.find? t.agent with
  | none => exact .done o
  | some agent =>
      dsimp only [Option.bind_some]
      cases agent.afterSubtask with
      | none => exact .done o
      | some follow => exact .tell (Process.watches_beside _)

theorem watches_watchSubtask (place : Nat) (t : Subtask) :
    (watchSubtask place t).Watches (runSubtask t) :=
  (watches_watchExecution place t).bind fun (_, o) => watches_watchFollowUp place t o

/-- Agents may shrink the roster, and every place has its own entries. -/
abbrev callTreaty : Treaty (Session × Ledger Mark) :=
  Ledger.treaty Shrinks Shrinks.refl Shrinks.trans

/-- A process among agents that writes nothing down leaves its entries as they
were. -/
theorem honours_beside {α : Type} {p : Process Session α}
    (heeds : p.Heeds (conduct .free fun _ => True)) (place : Nat) (w : Session × Ledger Mark) :
    p.beside.Honours callTreaty place (fun w' _ => callTreaty.others place w w') w :=
  Ledger.honours_beside (fun _ _ _ => trivial) (fun _ _ => Acts.shrinks) heeds place w

/-- A missing agent leaves nothing to write down. -/
theorem honours_missingAgent (name : String) (place : Nat) (w : Session × Ledger Mark) :
    (missingAgent name []).beside.Honours callTreaty place
      (fun w' a => callTreaty.others place w w' ∧ a.2 = .fail (Fault.agentNotFound name).message)
      w := by
  have shrinks : Shrinks w.1 (w.1.note .error .roster (Fault.agentNotFound name).message) :=
    fun _ _ found => found
  exact ⟨⟨shrinks, fun _ _ => rfl⟩, ⟨shrinks, rfl⟩, rfl⟩

/-- What an agent does when it follows up writes nothing down and keeps the outcome. -/
theorem honours_followWith (t : Subtask) (o : Outcome) (follow : Outcome → Json → Behaviour)
    (place : Nat) (w : Session × Ledger Mark) :
    (followWith t o follow).beside.Honours callTreaty place
      (fun w' o' => o' = o ∧ w'.2.ofPlace place = w.2.ofPlace place) w := by
  rw [followWith, Process.beside_bind]
  apply (honours_beside (heeds_perform (heeds_noDelegation _) t.agent
    (Behaviour.obeys_free _) []) place w).bind
  rintro w' ⟨visited, reply⟩ ⟨-, unwritten⟩
  cases reply with
  | ok reply => exact ⟨rfl, unwritten⟩
  | error fault =>
      have shrinks (text : String) : Shrinks w'.1 (w'.1.note .error .roster text) :=
        fun _ _ found => found
      exact ⟨⟨shrinks _, fun _ _ => rfl⟩, rfl, unwritten⟩

/-- A follow-up keeps the outcome. -/
theorem honours_watchFollowUp (place : Nat) (t : Subtask) (o : Outcome)
    (w : Session × Ledger Mark) :
    (watchFollowUp place t o).Honours callTreaty place
      (fun w' o' => o' = o ∧ w'.2.ofPlace place =
        w.2.ofPlace place ++ t.followMarks o (w.1.roster.find? t.agent)) w := by
  apply Process.honours_look
  apply Ledger.honours_tell
  have ended := Ledger.ofPlace_write_self place [.ended o (w.1.roster.find? t.agent)] w.2
  cases found : w.1.roster.find? t.agent with
  | none =>
      rw [found] at ended
      exact ⟨rfl, ended⟩
  | some agent =>
      rw [found] at ended
      dsimp only [Subtask.followMarks]
      cases agent.afterSubtask with
      | none => exact ⟨rfl, ended⟩
      | some follow =>
          apply Ledger.honours_tell
          apply (honours_followWith t o follow place _).imp
          rintro w' _ ⟨rfl, unwritten⟩
          rw [Ledger.ofPlace_write_self, ended, List.append_assoc] at unwritten
          exact ⟨rfl, unwritten⟩

/-- An agent that is run writes nothing more down. -/
theorem honours_runAgent (agent : Agent) (input : String) (context : Json) (place : Nat)
    (w : Session × Ledger Mark) :
    (runAgent (noDelegation context) agent input (.given context) []).beside.Honours callTreaty
      place (fun w' _ => callTreaty.others place w w') w := by
  apply honours_beside
  apply heeds_note (by decide)
  apply (heeds_perform (heeds_noDelegation _) agent.name (Behaviour.obeys_free _) []).bind
  rintro ⟨visited, reply⟩
  exact heeds_conclude agent.name visited reply

/-- What is written down when the run of an agent has ended, if nobody else can be
registered under its name then. -/
theorem course_of_found {roster : Roster} {t : Subtask} {agent : Agent}
    (found : roster.find? t.agent = some agent) {still : Option Agent}
    (same : ∀ other, still = some other → other = agent) (o : Outcome) :
    Course roster t o
      (.run agent t.input (.given (.obj t.context)) :: t.followMarks o still) := by
  cases still with
  | none => exact .gone found
  | some other =>
      obtain rfl := same other rfl
      dsimp only [Subtask.followMarks]
      cases follows : other.afterSubtask with
      | none => exact .silent found follows
      | some follow => exact .followed found follows

section

variable (place : Nat) (t : Subtask) {w : Session × Ledger Mark}

variable (unwritten : w.2.ofPlace place = [])
include unwritten

theorem ofPlace_write_first (entries : List Mark) :
    (w.2.write place entries).ofPlace place = entries := by
  rw [Ledger.ofPlace_write_self, unwritten, List.nil_append]

theorem honours_execution_missing (missing : w.1.roster.find? t.agent = none) :
    (watchExecution place t).Honours callTreaty place
      (fun w' a => (Shrinks w.1 w'.1 ∧ w'.2.ofPlace place = []) ∧
        a.2 = .fail (Fault.agentNotFound t.agent).message) w := by
  apply Process.honours_look
  have failed := honours_missingAgent t.agent place w
  simp only [missing]
  simpa only [Ledger.treaty, unwritten] using failed

theorem honours_execution_found {agent : Agent} (found : w.1.roster.find? t.agent = some agent) :
    (watchExecution place t).Honours callTreaty place
      (fun w' _ => Shrinks w.1 w'.1 ∧
        w'.2.ofPlace place = [.run agent t.input (.given (.obj t.context))]) w := by
  apply Process.honours_look
  simp only [found]
  apply Ledger.honours_tell
  have run := honours_runAgent agent t.input (.obj t.context) place
    (w.1, w.2.write place [.run agent t.input (.given (.obj t.context))])
  simpa only [Ledger.treaty, ofPlace_write_first place unwritten] using run

/-- A subtask goes one of its ways. -/
theorem honours_watchSubtask {start : Session} (shrinks : Shrinks start w.1) :
    (watchSubtask place t).Honours callTreaty place
      (fun w' o => Course start.roster t o (w'.2.ofPlace place)) w := by
  cases found : w.1.roster.find? t.agent with
  | none =>
      apply (honours_execution_missing place t unwritten found).bind
      rintro w' ⟨visited, o⟩ ⟨⟨later, unwrittenThen⟩, isFailure⟩
      apply (honours_watchFollowUp place t o w').imp
      rintro w'' _ ⟨rfl, course⟩
      rw [course, unwrittenThen, later.find?_eq_none found]
      exact .missing isFailure
  | some agent =>
      apply (honours_execution_found place t unwritten found).bind
      rintro w' ⟨visited, o⟩ ⟨later, runWritten⟩
      apply (honours_watchFollowUp place t o w').imp
      rintro w'' _ ⟨rfl, course⟩
      rw [course, runWritten]
      apply course_of_found (shrinks _ _ found)
      intro other now
      have before := later _ _ now
      rw [found] at before
      exact (Option.some.inj before).symm

end

/-! ## Batches that are watched -/

/-- Subtasks at the places of a batch. -/
def watched (tasks : List Subtask) : List (Process (Session × Ledger Mark) Outcome) :=
  tasks.mapIdx watchSubtask

/-- A batch of subtasks with its calls written down. -/
def watchSubtasks (tasks : List Subtask) (s : Session) :
    (Session × Ledger Mark) × Finish (List Outcome) :=
  if tasks.isEmpty then ((s, []), .done [])
  else
    let ordered := Subtask.byPriority tasks
    let (w, results) := Batch.run (watched ordered) (s.announce ordered.length, [])
    (w, .ofResults results)

/-- A ledger accounts for the outcomes of subtasks. -/
structure Accounts (roster : Roster) (tasks : List Subtask) (outcomes : List Outcome)
    (ledger : Ledger Mark) : Prop where
  length_eq : outcomes.length = tasks.length
  /-- every subtask went one of its ways -/
  course : ∀ place t o, tasks[place]? = some t → outcomes[place]? = some o →
    Course roster t o (ledger.ofPlace place)
  /-- and nothing else was written down -/
  nothing_else : ∀ place, tasks.length ≤ place → ledger.ofPlace place = []

theorem forall₂_watches_watched (tasks : List Subtask) :
    List.Forall₂ Process.Watches (watched tasks) (tasks.map runSubtask) := by
  rw [List.forall₂_iff_get]
  refine ⟨by simp [watched], ?_⟩
  intro place _ _
  simpa [watched] using watches_watchSubtask place _

/-- What becomes of the subtask at a place. -/
def CourseAt (roster : Roster) (tasks : List Subtask) (place : Nat) (w : Session × Ledger Mark)
    (o : Outcome) : Prop :=
  ∀ t, tasks[place]? = some t → Course roster t o (w.2.ofPlace place)

theorem honour_watched (tasks : List Subtask) (s : Session) :
    Batch.Honour callTreaty (CourseAt s.roster tasks) ((watched tasks).map Task.ofProcess)
      (s, []) := by
  intro place task isTask w others
  rw [watched, List.getElem?_map, List.getElem?_mapIdx] at isTask
  cases isSubtask : tasks[place]? with
  | none => simp [isSubtask] at isTask
  | some t =>
      obtain rfl : Task.ofProcess (watchSubtask place t) = task := by
        simpa [isSubtask] using isTask
      apply (honours_watchSubtask place t others.2 others.1).imp
      intro w' o course other isOther
      rw [isSubtask] at isOther
      obtain rfl := Option.some.inj isOther
      exact course

/-- Whatever order the tasks take their turns in, the ledger accounts for what they
come to. -/
theorem accounts_of_advances {s : Session} {tasks : List Subtask} {w : Session × Ledger Mark}
    {outcomes : List Outcome}
    (advances : Batch.Advances (s, []) ((watched tasks).map Task.ofProcess) w
      (outcomes.map .finished)) : Accounts s.roster tasks outcomes w.2 := by
  have lasting (place : Nat) (w w' : Session × Ledger Mark) (o : Outcome)
      (others : callTreaty.others place w w') (course : CourseAt s.roster tasks place w o) :
      CourseAt s.roster tasks place w' o := by
    intro t isSubtask
    rw [others.2]
    exact course t isSubtask
  have honour := honour_watched tasks s
  refine ⟨?_, ?_, ?_⟩
  · simpa [watched] using advances.length_eq
  · intro place t o isSubtask isOutcome
    exact advances.honoured lasting honour isOutcome t isSubtask
  · intro place beyond
    exact (advances.untouched lasting honour (by simpa [watched] using beyond)).2

/-- To write the calls down changes nothing else. -/
theorem watchSubtasks_alike (tasks : List Subtask) (s : Session) :
    (watchSubtasks tasks s).1.1 = (runSubtasks tasks s).1 ∧
      (watchSubtasks tasks s).2 = (runSubtasks tasks s).2 := by
  rw [watchSubtasks, runSubtasks, runBatch]
  split
  · exact ⟨rfl, rfl⟩
  · obtain ⟨sameState, sameResults⟩ :=
      Batch.watches_run (forall₂_watches_watched (Subtask.byPriority tasks))
        (s.announce (Subtask.byPriority tasks).length, [])
    exact ⟨sameState, congrArg Finish.ofResults sameResults⟩

/-- Which calls a batch of subtasks makes.  To write them down changes nothing else.
When the batch comes to its outcomes, then for every subtask whose agent was found
the agent was run once on its input and context, and after that the same agent
followed up the outcome once, if it has something to follow up with and was still
registered when its run had ended; no other follow-up was made.  The same holds of
every order in which the tasks of a batch can take their turns. -/
theorem calls_in_course (tasks : List Subtask) (s : Session) :
    ((watchSubtasks tasks s).1.1 = (runSubtasks tasks s).1 ∧
      (watchSubtasks tasks s).2 = (runSubtasks tasks s).2) ∧
    (∀ outcomes, (runSubtasks tasks s).2 = .done outcomes →
      Accounts s.roster (Subtask.byPriority tasks) outcomes (watchSubtasks tasks s).1.2) ∧
    ∀ after outcomes,
      Batch.Advances s ((tasks.map runSubtask).map Task.ofProcess) after
          (outcomes.map .finished) →
        (∃ ledger, Batch.Advances (s, []) ((watched tasks).map Task.ofProcess) (after, ledger)
          (outcomes.map .finished)) ∧
        ∀ ledger, Batch.Advances (s, []) ((watched tasks).map Task.ofProcess) (after, ledger)
          (outcomes.map .finished) → Accounts s.roster tasks outcomes ledger := by
  have same := watchSubtasks_alike tasks s
  refine ⟨same, ?_, ?_⟩
  · intro outcomes done
    rw [← same.2, watchSubtasks] at done
    rw [watchSubtasks]
    split at done
    · next empty =>
      obtain rfl := List.isEmpty_iff.mp empty
      obtain rfl : [] = outcomes := by simpa using done
      refine ⟨by simp [Subtask.byPriority], by simp, ?_⟩
      exact fun _ _ => rfl
    · next some_task =>
      rw [if_neg some_task]
      dsimp only at done ⊢
      generalize ran : Batch.run (watched (Subtask.byPriority tasks))
        (s.announce (Subtask.byPriority tasks).length, []) = ended at done ⊢
      rcases ended with ⟨w, results⟩
      cases results with
      | none => cases done
      | some results =>
          cases done
          have accounts := accounts_of_advances (Batch.advances_run ran)
          exact accounts
  · intro after outcomes advances
    refine ⟨?_, fun ledger => accounts_of_advances⟩
    obtain ⟨ledger, watchedThen, reached, watch⟩ :=
      advances.watched (Batch.watch_ofProcess (forall₂_watches_watched tasks)) []
    rw [watch.eq_finished] at reached
    exact ⟨ledger, reached⟩

/-! ## A guest and a host -/

/-- An agent that follows up, and gives up its name when it is run, if it is a
guest. -/
def visiting (name : String) (guest : Bool) : Agent where
  name := name
  capabilities := []
  kind := none
  run := fun input _ =>
    if guest then .unregister name (.done (.text ("goodbye " ++ input)))
    else .pause none fun _ => .done (.text ("hello " ++ input))
  afterSubtask := some fun o _ => .emit (name ++ " heard " ++ o.output) (.done (.text ""))
  start := none
  stop := none

/-- A session with a guest and a host. -/
def visitSession : Session :=
  { teamSession with roster := ⟨[visiting "guest" true, visiting "host" false]⟩ }

/-- A subtask for the host and two for the guest. -/
def visitTasks : List Subtask :=
  [⟨"host", "all", 0, []⟩, ⟨"guest", "all", 1, []⟩, ⟨"guest", "again", 0, []⟩]

theorem byPriority_visitTasks : Subtask.byPriority visitTasks =
    [⟨"guest", "all", 1, []⟩, ⟨"host", "all", 0, []⟩, ⟨"guest", "again", 0, []⟩] := by
  simp [Subtask.byPriority, visitTasks, List.mergeSort, List.MergeSort.Internal.splitInTwo]

/-- What the three subtasks come to. -/
def visitOutcomes : List Outcome :=
  [.ok "goodbye all", .ok "hello all", .fail "Agent not found: guest"]

theorem runSubtasks_visit : (runSubtasks visitTasks visitSession).2 = .done visitOutcomes := by
  rw [runSubtasks, runBatch, byPriority_visitTasks]
  rfl

/-- The host follows up, and nobody does for the guest. -/
theorem ofPlace_visit :
    let ledger := (watchSubtasks visitTasks visitSession).1.2
    ledger.ofPlace 0 = [.run (visiting "guest" true) "all" (.given (.obj [])),
        .ended (.ok "goodbye all") none] ∧
      ledger.ofPlace 1 = [.run (visiting "host" false) "all" (.given (.obj [])),
        .ended (.ok "hello all") (some (visiting "host" false)),
        .followUp (visiting "host" false) (.ok "hello all") (.obj [])] := by
  rw [watchSubtasks, byPriority_visitTasks]
  exact ⟨rfl, rfl⟩

theorem calls_in_course_visit :
    (runSubtasks visitTasks visitSession).2 = .done visitOutcomes ∧
      (watchSubtasks visitTasks visitSession).2 = .done visitOutcomes ∧
      Accounts visitSession.roster (Subtask.byPriority visitTasks) visitOutcomes
        (watchSubtasks visitTasks visitSession).1.2 := by
  obtain ⟨⟨-, same⟩, accounts, -⟩ := calls_in_course visitTasks visitSession
  exact ⟨runSubtasks_visit, same.trans runSubtasks_visit, accounts _ runSubtasks_visit⟩

/-- Whenever a batch comes to its outcomes, every agent that was run for a subtask
and has something to follow up with has followed up the outcome once after that. -/
def AllFollowUp (tasks : List Subtask) (s : Session) : Prop :=
  ∀ outcomes, (watchSubtasks tasks s).2 = .done outcomes →
    ∀ place t o agent, (Subtask.byPriority tasks)[place]? = some t →
      outcomes[place]? = some o →
      .run agent t.input (.given (.obj t.context)) ∈
        (watchSubtasks tasks s).1.2.ofPlace place →
      agent.afterSubtask.isSome = true →
      ∃ still, (watchSubtasks tasks s).1.2.ofPlace place =
        [.run agent t.input (.given (.obj t.context)), .ended o still,
          .followUp agent o (.obj t.context)]

/-- The guest has something to follow up with, and it does not. -/
theorem not_allFollowUp_visit : ¬ AllFollowUp visitTasks visitSession := by
  intro all
  have done := (watchSubtasks_alike visitTasks visitSession).2.trans runSubtasks_visit
  obtain ⟨guestEntries, -⟩ := ofPlace_visit
  obtain ⟨still, followed⟩ := all visitOutcomes done 0 ⟨"guest", "all", 1, []⟩
    (.ok "goodbye all") (visiting "guest" true) (by rw [byPriority_visitTasks]; rfl) rfl
    (by rw [guestEntries]; exact List.mem_cons_self) rfl
  rw [guestEntries] at followed
  cases followed

end Session

end PromptDispatch
