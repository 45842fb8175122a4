import PromptDispatch.Agent.Script
import PromptDispatch.Proofs.Dispatch.Cancellation
import PromptDispatch.Proofs.Session.Subtasks

/-!
# What an execution comes to

The run of an agent ends with a reply or a fault, or by a cancellation; what others do
while it pauses may have a part in that.  Unless it is cancelled, an execution comes to an
outcome whatever the agent is and does, also when no agent has the name, and a failed
outcome says what went wrong.
-/

namespace PromptDispatch

/-! ## Outcomes -/

namespace Outcome

/-- A failure says what went wrong. -/
def Explained (o : Outcome) : Prop := ∃ error, o.error = some error ∧ error ≠ ""

theorem fallbackError_ne_empty (output : String) : fallbackError output ≠ "" := by
  rw [fallbackError]
  split
  · decide
  · next given => exact given

theorem success_make (success : Bool) (output : String) (error : Option String) :
    (make success output error).success = success := by
  cases success with
  | true => rfl
  | false => cases error <;> rfl

theorem explained_make_false (output : String) (error : Option String) :
    (make false output error).Explained := by
  cases error with
  | none => exact ⟨_, rfl, fallbackError_ne_empty output⟩
  | some text =>
      by_cases empty : text = ""
      · exact ⟨fallbackError output, by simp [make, empty], fallbackError_ne_empty output⟩
      · exact ⟨text, by simp [make, empty], empty⟩

end Outcome

/-! ## Fates -/

/-- How the run of an agent ends. -/
inductive Fate where
  /-- no agent has the name -/
  | missing
  | cancelled
  /-- with the agents visited, and a reply or a fault -/
  | ended (visited : List String) (reply : Except Fault Reply)

namespace Fate

/-- The fates that make an execution fail. -/
inductive Fails : Fate → Prop where
  | missing : Fails missing
  | faulty (visited : List String) (fault : Fault) : Fails (ended visited (.error fault))
  | unsupported (visited : List String) (kind : String) : Fails (ended visited (.ok (.other kind)))
  | failed (visited : List String) (output : String) (error : Option String) :
      Fails (ended visited (.ok (.built false output error)))

/-- What is made of a fate: the agents visited, and the outcome. -/
def conclusion? (name : String) (before : List String) : Fate → Option (List String × Outcome)
  | missing => some (before, .fail (Fault.agentNotFound name).message)
  | cancelled => none
  | ended visited reply => some (visited, .concluding name reply)

theorem exists_conclusion {fate : Fate} (uncancelled : fate ≠ cancelled) (name : String)
    (before : List String) : ∃ visited o, fate.conclusion? name before = some (visited, o) := by
  cases fate with
  | missing => exact ⟨_, _, rfl⟩
  | cancelled => exact absurd rfl uncancelled
  | ended visited reply => exact ⟨_, _, rfl⟩

variable {fate : Fate} {name : String} {before visited : List String} {o : Outcome}

/-- What is made of a fate is a failure exactly when the fate makes an execution fail. -/
theorem success_conclusion_iff (concluded : fate.conclusion? name before = some (visited, o)) :
    o.success = false ↔ fate.Fails := by
  cases fate with
  | missing => cases concluded; exact iff_of_true rfl .missing
  | cancelled => cases concluded
  | ended _ reply =>
      cases concluded
      cases reply with
      | error fault => exact iff_of_true rfl (.faulty visited fault)
      | ok reply =>
          cases reply with
          | built success output error =>
              have success_eq := Outcome.success_make success output error
              cases success with
              | true => exact iff_of_false (fun failed => by cases success_eq.symm.trans failed) nofun
              | false => exact iff_of_true success_eq (.failed visited output error)
          | text said => exact iff_of_false (fun failed => by cases failed) nofun
          | other kind => exact iff_of_true rfl (.unsupported visited kind)

/-- A failure that is made of a fate says what went wrong. -/
theorem explained_conclusion
    (concluded : fate.conclusion? name before = some (visited, o)) (failed : o.success = false) :
    o.Explained := by
  cases fate with
  | missing => cases concluded; exact Outcome.explained_make_false _ _
  | cancelled => cases concluded
  | ended _ reply =>
      cases concluded
      cases reply with
      | error fault => exact Outcome.explained_make_false _ _
      | ok reply =>
          cases reply with
          | built success output error =>
              change (Outcome.make success output error).Explained
              change (Outcome.make success output error).success = false at failed
              rw [Outcome.success_make] at failed
              rw [failed]
              exact Outcome.explained_make_false output error
          | text said => cases failed
          | other kind => exact Outcome.explained_make_false _ _

end Fate

/-! ## Executions -/

namespace Session

variable (others : Nat → Session → Session) (delegation : Delegation) (name input : String)
  (context : Context) (visited : List String) (s : Session)

/-- What the run of an agent finds. -/
def started (agent : Agent) (input : String) (s : Session) : Session :=
  s.note .info .roster s!"Executing with agent {agent.name}: {preview input}"

/-- How the run of the agent of a name ends, among others who change the session at its
pauses. -/
def fate : Fate :=
  match s.roster.find? name with
  | none => .missing
  | some agent =>
      let run := perform agent.name delegation (agent.run input context) visited
      match (run.runAmong others 0 (s.started agent input)).2 with
      | none => .cancelled
      | some (visited, reply) => .ended visited reply

theorem unpausing_conclude (agent : String) (visited : List String)
    (reply : Except Fault Reply) : (conclude agent visited reply).Unpausing := by
  rw [conclude]
  split <;> exact fun _ => trivial

theorem run_conclude (agent : String) (visited : List String) (reply : Except Fault Reply)
    (s : Session) :
    ((conclude agent visited reply).run s).2 = some (visited, .concluding agent reply) := by
  rw [conclude, Outcome.concluding]
  cases reply.bind Reply.outcome? <;> rfl

/-- An execution comes to what is made of the fate of its agent. -/
theorem runAmong_execute :
    ((execute delegation name input context visited).runAmong others 0 s).2 =
      (fate others delegation name input context visited s).conclusion? name visited := by
  rw [execute, Process.look, Process.runAmong, fate]
  cases found : s.roster.find? name with
  | none => rfl
  | some agent =>
      obtain rfl := Roster.name_of_find? found
      -- A conclusion never pauses, so others have no part in it.
      have unpausing (own : Conclusion) : (conclude agent.name own.1 own.2).Unpausing :=
        unpausing_conclude agent.name own.1 own.2
      have ran := Process.runAmong_bind unpausing others
        (perform agent.name delegation (agent.run input context) visited) 0 (s.started agent input)
      refine (congrArg Prod.snd ran).trans ?_
      dsimp only
      rcases Process.runAmong others (perform ..) 0 (s.started agent input) with ⟨after, _ | own⟩
      · rfl
      · exact run_conclude agent.name own.1 own.2 after

variable {others delegation name input context visited s}

/-- With nobody to delegate to, a patient behaviour comes to its reply, whatever others do. -/
theorem ensures_perform_alone (own : String) (handed : Json) {behaviour : Behaviour}
    (patient : behaviour.Obeys .patient) (visited : List String) :
    (perform own (noDelegation handed) behaviour visited).Ensures (fun _ => True)
      fun conclusion => conclusion = (visited, behaviour.reply own handed) := by
  induction behaviour with
  | done reply => rfl
  | fail fault => rfl
  | halt => exact patient.elim
  | pause lastWords next ih => exact ih () patient
  | emit event next ih => exact Process.ensures_change (fun _ _ => trivial) (ih patient)
  | note text next ih => exact Process.ensures_change (fun _ _ => trivial) (ih patient)
  | count next ih => exact Process.ensures_change (fun _ _ => trivial) (ih patient)
  | save key value next ih =>
      rw [perform, Behaviour.reply]
      split
      · exact Process.ensures_change (fun _ _ => trivial) (ih patient.2)
      · rfl
  | unregister agent next ih => exact Process.ensures_change (fun _ _ => trivial) (ih patient)
  | delegate agent task next _ =>
      rw [perform]
      exact rfl

/-- The fate of an agent by what its run comes to. -/
theorem fate_of_ran {agent : Agent} (found : s.roster.find? name = some agent)
    {after : Session} {own : List String} {reply : Except Fault Reply}
    (ran : (perform agent.name delegation (agent.run input context) visited).runAmong others 0
      (s.started agent input) = (after, some (own, reply))) :
    fate others delegation name input context visited s = .ended own reply := by
  rw [fate, found]
  dsimp only
  rw [ran]

/-- Among agents that are patient nobody's run is cancelled. -/
theorem fate_ne_cancelled {fit : Agent → Prop}
    (delegates : ∀ visited name task,
      (delegation visited name task).Heeds (conduct .patient fit))
    (fits : s.roster.All fit)
    (keeps : ∀ pauses s, s.roster.All fit → (others pauses s).roster.All fit)
    (patient : ∀ agent, s.roster.find? name = some agent →
      (agent.run input context).Obeys .patient) :
    fate others delegation name input context visited s ≠ .cancelled := by
  cases found : s.roster.find? name with
  | none =>
      rw [fate, found]
      nofun
  | some agent =>
      have heeds := heeds_perform delegates agent.name (patient agent found) visited
      have ensures := heeds.ensures (fun halts => halts)
      obtain ⟨after, ⟨own, reply⟩, ran, -⟩ :=
        ensures.runAmong keeps 0 (s := s.started agent input) fits
      rw [fate_of_ran found ran]
      nofun

/-- What is promised of an execution of the agent of a name, among others who change the
session at its pauses. -/
structure Concludes (others : Nat → Session → Session) (delegation : Delegation)
    (name input : String) (context : Context) (visited : List String) (s : Session) : Prop where
  /-- a run of its own ends as the agent's behaviour says, unless that is a cancellation -/
  alone : ∀ handed, delegation = noDelegation handed → ∀ agent,
    s.roster.find? name = some agent → (agent.run input context).Obeys .patient →
      fate others delegation name input context visited s =
        .ended visited ((agent.run input context).reply name handed)
  /-- a run among others is cancelled only by a cancellation of its own or of an agent that
  it delegates to -/
  patient : ∀ fit : Agent → Prop,
    (∀ visited name task, (delegation visited name task).Heeds (conduct .patient fit)) →
    s.roster.All fit →
    (∀ pauses s, s.roster.All fit → (others pauses s).roster.All fit) →
    (∀ agent, s.roster.find? name = some agent → (agent.run input context).Obeys .patient) →
      fate others delegation name input context visited s ≠ .cancelled
  /-- unless the run is cancelled an outcome is returned, and a failure says what went
  wrong -/
  returns : fate others delegation name input context visited s ≠ .cancelled →
    ∃ own o, ((executeTask delegation name (.str input) context visited).runAmong others 0 s).2 =
        some (.ok (own, o)) ∧
      (o.success = false ↔ (fate others delegation name input context visited s).Fails) ∧
      (o.success = false → o.Explained)

/-- A session with an agent that gives up its own name and then fails without a message,
and one that returns a failure without a text. -/
def moody : Session :=
  { teamSession with
    roster := ⟨[
      Script.agent none "fickle" []
        ⟨[.yield 2, .unregister "fickle", .finish (.raise (.foreign "ValueError" ""))],
          none, none, none⟩,
      Script.agent none "curt" [] ⟨[.finish (.fail "" none)], none, none, none⟩]⟩ }

/-- What executing the two comes to while others clear the roster. -/
def moodyResult (name : String) : Option (Except Fault (List String × Outcome)) :=
  ((executeTask (noDelegation .null) name (.str "hello") (.given .null) []).runAmong
    (fun _ s => s.clearRoster) 0 moody).2

example : moodyResult "fickle" =
    some (.ok ([], ⟨false, "Error executing agent: ValueError", some "ValueError"⟩)) := rfl

example : moodyResult "curt" = some (.ok ([], ⟨false, "", some "unknown error"⟩)) := rfl

end Session

end PromptDispatch
