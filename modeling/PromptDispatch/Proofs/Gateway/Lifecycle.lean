import PromptDispatch.Gateway.Basic
import PromptDispatch.Proofs.Session.Subtasks

/-!
# The start and the end of service

At the start and at the end of service every registered agent that has something to
do then does it, one agent after another in the order of registration.  A fault of
one agent does not keep the others from their turn; a cancellation of its own does,
and then the store is not kept either.
-/

namespace PromptDispatch

/-- Whether a behaviour ends by a cancellation of its own when nobody can be
delegated to. -/
def Behaviour.cancels (own : String) : Behaviour → Bool
  | .done _ => false
  | .fail _ => false
  | .halt => true
  | .pause _ next => (next ()).cancels own
  | .emit _ next => next.cancels own
  | .note _ next => next.cancels own
  | .count next => next.cancels own
  | .save _ _ next => Store.isName (some own) && next.cancels own
  | .unregister _ next => next.cancels own
  | .delegate _ _ _ => false

/-- The two moments at which agents are served. -/
inductive Lifecycle where
  | start
  | stop

namespace Lifecycle

/-- What an agent does at a moment. -/
def hook : Lifecycle → Agent → Option Behaviour
  | .start => Agent.start
  | .stop => Agent.stop

/-- What a moment is called in reports. -/
def verb : Lifecycle → String
  | .start => "initialize"
  | .stop => "shutdown"

/-- Serves all registered agents. -/
def serve (moment : Lifecycle) : Session → Session × Finish Unit :=
  match moment with
  | .start => Session.startAgents
  | .stop => Session.stopAgents

theorem serve_eq (moment : Lifecycle) (s : Session) :
    moment.serve s =
      (((Session.service moment.hook moment.verb s.roster.agents).run s).1,
        .ofResults ((Session.service moment.hook moment.verb s.roster.agents).run s).2) := by
  cases moment <;> rfl

variable (moment : Lifecycle)

/-- Whether an agent ends the service by a cancellation of its own. -/
def cancels (agent : Agent) : Bool :=
  (moment.hook agent).any (·.cancels agent.name)

/-- The agents that come to their turn: those that have something to do, up to the
first that ends by a cancellation. -/
def called : List Agent → List Agent
  | [] => []
  | agent :: agents =>
    match moment.hook agent with
    | none => called agents
    | some behaviour => agent :: if behaviour.cancels agent.name then [] else called agents

/-- What an agent emits when it has its turn. -/
def emitted (agent : Agent) : List String :=
  match moment.hook agent with
  | none => []
  | some behaviour => behaviour.emitted agent.name

/-- How far the service of agents goes and how it ends. -/
inductive Serves (agents : List Agent) : List Agent → Finish Unit → Prop where
  /-- every agent that has something to do has its turn -/
  | all (patient : ∀ agent ∈ agents, moment.cancels agent = false) :
      Serves agents (agents.filter fun agent => (moment.hook agent).isSome) (.done ())
  /-- the first that ends by a cancellation of its own is the last to have a turn -/
  | upTo {before after : List Agent} {agent : Agent} (split : agents = before ++ agent :: after)
      (patient : ∀ earlier ∈ before, moment.cancels earlier = false)
      (cancels : moment.cancels agent = true) :
      Serves agents ((before.filter fun agent => (moment.hook agent).isSome) ++ [agent]) .cancelled

/-- How the service of agents ends. -/
def finish (agents : List Agent) : Finish Unit :=
  if agents.any moment.cancels then .cancelled else .done ()

theorem called_cons (agent : Agent) (agents : List Agent) :
    moment.called (agent :: agents) =
      [agent].filter (fun agent => (moment.hook agent).isSome) ++
        if moment.cancels agent then [] else moment.called agents := by
  rw [called, cancels]
  cases does : moment.hook agent with
  | none => simp [does]
  | some behaviour => simp [does]

theorem Serves.cons {moment : Lifecycle} {agents called : List Agent} {finish : Finish Unit}
    (serves : moment.Serves agents called finish) {agent : Agent}
    (patient : moment.cancels agent = false) :
    moment.Serves (agent :: agents)
      ([agent].filter (fun agent => (moment.hook agent).isSome) ++ called) finish := by
  cases serves with
  | all others =>
      rw [← List.filter_append, List.singleton_append]
      exact .all (List.forall_mem_cons.mpr ⟨patient, others⟩)
  | @upTo before after last split others cancels =>
      rw [← List.append_assoc, ← List.filter_append, List.singleton_append, split]
      exact .upTo (List.cons_append ..).symm (List.forall_mem_cons.mpr ⟨patient, others⟩) cancels

theorem serves_called (agents : List Agent) :
    moment.Serves agents (moment.called agents) (moment.finish agents) := by
  induction agents with
  | nil => exact .all (by simp)
  | cons agent agents ih =>
      rw [called_cons, finish, List.any_cons]
      cases cancels : moment.cancels agent with
      | true =>
          have does : (moment.hook agent).isSome = true := by
            rw [Lifecycle.cancels] at cancels
            cases does : moment.hook agent with
            | none => simp [does] at cancels
            | some behaviour => rfl
          have cut : moment.Serves (agent :: agents) ([] ++ [agent]) .cancelled :=
            .upTo (List.nil_append _).symm (by simp) cancels
          simpa [does] using cut
      | false =>
          rw [Bool.false_or, if_neg Bool.false_ne_true]
          exact ih.cons cancels

end Lifecycle

namespace Process

variable {σ α β : Type}

/-- A process that goes on with a result is run to the end of its first part and
from there along the second. -/
theorem run_bind (p : Process σ α) (f : α → Process σ β) (s : σ) :
    (p.bind f).run s =
      match p.run s with
      | (after, some a) => (f a).run after
      | (after, none) => (after, none) := by
  induction p generalizing s with
  | done a => rfl
  | halted => rfl
  | act change next ih => exact ih s (change s)
  | pause onCancel next ih => exact ih () s

end Process

namespace Session

/-- A run that ends in some way, emits events and leaves the disk alone. -/
structure Runs {α : Type} (ends : Option α) (emits : List String) (s : Session)
    (ran : Session × Option α) : Prop where
  result : ran.2 = ends
  events : ran.1.events = s.events ++ emits
  disk : ran.1.disk = s.disk

theorem runs_ended {α : Type} (ends : Option α) (s : Session) : Runs ends [] s (s, ends) :=
  ⟨rfl, (List.append_nil _).symm, rfl⟩

/-- A change that emits nothing and leaves the disk alone may come first. -/
theorem Runs.after {α : Type} {ends : Option α} {emits : List String} {s before : Session}
    {ran : Session × Option α} (runs : Runs ends emits before ran)
    (events : before.events = s.events) (disk : before.disk = s.disk) : Runs ends emits s ran :=
  ⟨runs.result, by rw [runs.events, events], by rw [runs.disk, disk]⟩

section

variable {α β : Type} {p : Process Session α} {f : α → Process Session β} {s : Session}
variable {emits more : List String}

theorem Runs.bind_none (first : Runs none emits s (p.run s)) :
    Runs none emits s ((p.bind f).run s) := by
  rw [Process.run_bind]
  generalize p.run s = ran at first
  rcases ran with ⟨after, ended⟩
  obtain rfl : ended = none := first.result
  exact ⟨rfl, first.events, first.disk⟩

theorem Runs.bind_some {a : α} {ends : Option β} (first : Runs (some a) emits s (p.run s))
    (second : ∀ after, Runs ends more after ((f a).run after)) :
    Runs ends (emits ++ more) s ((p.bind f).run s) := by
  rw [Process.run_bind]
  generalize p.run s = ran at first
  rcases ran with ⟨after, ended⟩
  obtain rfl : ended = some a := first.result
  obtain ⟨result, events, disk⟩ := second after
  refine ⟨result, ?_, disk.trans first.disk⟩
  rw [events, first.events, List.append_assoc]

end

/-- What a behaviour ends with outside a chain. -/
def endOf (own : String) (context : Json) (visited : List String) (behaviour : Behaviour) :
    Option Conclusion :=
  if behaviour.cancels own then none else some (visited, behaviour.reply own context)

theorem unregister_keeps (s : Session) (name : String) :
    (s.unregister name).1.events = s.events ∧ (s.unregister name).1.disk = s.disk := by
  rw [unregister]
  split <;> exact ⟨rfl, rfl⟩

theorem runs_perform (own : String) (context : Json) (visited : List String)
    (behaviour : Behaviour) (s : Session) :
    Runs (endOf own context visited behaviour) (behaviour.emitted own) s
      ((perform own (noDelegation context) behaviour visited).run s) := by
  induction behaviour generalizing s with
  | done reply => exact runs_ended _ s
  | fail fault => exact runs_ended _ s
  | halt => exact runs_ended _ s
  | pause lastWords next ih => exact ih () s
  | emit event next ih =>
      obtain ⟨result, events, disk⟩ := ih (s.emit event)
      exact ⟨result, events.trans (List.append_assoc _ _ _), disk⟩
  | note text next ih => exact (ih _).after rfl rfl
  | count next ih => exact (ih _).after rfl rfl
  | save key value next ih =>
      by_cases named : Store.isName (some own) = true
      · simp only [perform, endOf, Behaviour.cancels, Behaviour.reply, Behaviour.emitted, named,
          if_true, Bool.true_and]
        exact (ih (s.write (some own) (some key) value)).after rfl rfl
      · simp only [perform, endOf, Behaviour.cancels, Behaviour.reply, Behaviour.emitted, named,
          Bool.false_and]
        exact runs_ended _ s
  | unregister agent next ih =>
      obtain ⟨events, disk⟩ := unregister_keeps s agent
      exact (ih (s.unregister agent).1).after events disk
  | delegate agent task next ih =>
      rw [perform]
      exact runs_ended _ s

/-- The service of agents at a moment. -/
theorem runs_service (moment : Lifecycle) (agents : List Agent) (s : Session) :
    Runs (if agents.any moment.cancels then none else some ())
      ((moment.called agents).flatMap moment.emitted) s
      ((service moment.hook moment.verb agents).run s) := by
  induction agents generalizing s with
  | nil => exact runs_ended _ s
  | cons agent agents ih =>
      rw [service, Lifecycle.called_cons, List.any_cons, Lifecycle.cancels]
      cases does : moment.hook agent with
      | none => simpa [does] using ih s
      | some behaviour =>
          have emits : moment.emitted agent = behaviour.emitted agent.name := by
            rw [Lifecycle.emitted, does]
          have runs := runs_perform agent.name .null [] behaviour s
          rw [endOf] at runs
          cases cancels : behaviour.cancels agent.name with
          | true =>
              rw [cancels] at runs
              simpa [does, cancels, emits] using runs.bind_none
          | false =>
              rw [cancels] at runs
              simp only [does, Option.any_some, cancels, Bool.false_or, List.flatMap_append,
                List.filter_cons, Option.isSome_some, if_true, List.filter_nil, List.flatMap_cons,
                List.flatMap_nil, emits, List.append_nil]
              apply runs.bind_some
              intro after
              cases behaviour.reply agent.name .null with
              | ok reply => exact ih after
              | error fault => exact (ih _).after rfl rfl

end Session

/-! ## Announced turns -/

/-- An agent that announces its turns by an event and then does what it does. -/
def Agent.announcingTurns (announce : Lifecycle → String → String) (agent : Agent) : Agent :=
  { agent with
    start := agent.start.map (.emit (announce .start agent.name))
    stop := agent.stop.map (.emit (announce .stop agent.name)) }

/-- A session whose agents announce their turns. -/
def Session.announcingTurns (announce : Lifecycle → String → String) (s : Session) : Session :=
  { s with roster := ⟨s.roster.agents.map (Agent.announcingTurns announce)⟩ }

namespace Lifecycle

variable (announce : Lifecycle → String → String) (moment : Lifecycle)

theorem hook_announcingTurns (agent : Agent) :
    moment.hook (agent.announcingTurns announce) =
      (moment.hook agent).map (.emit (announce moment agent.name)) := by
  cases moment <;> rfl

theorem cancels_announcingTurns (agent : Agent) :
    moment.cancels (agent.announcingTurns announce) = moment.cancels agent := by
  rw [cancels, cancels, hook_announcingTurns]
  cases moment.hook agent <;> rfl

theorem called_announcingTurns (agents : List Agent) :
    moment.called (agents.map (Agent.announcingTurns announce)) =
      (moment.called agents).map (Agent.announcingTurns announce) := by
  induction agents with
  | nil => rfl
  | cons agent agents ih =>
      rw [List.map_cons, called_cons, called_cons, cancels_announcingTurns, List.map_append, ih]
      congr 1
      · cases does : moment.hook agent <;> simp [hook_announcingTurns, does]
      · split <;> rfl

theorem emitted_announcingTurns {agent : Agent} (does : (moment.hook agent).isSome = true) :
    moment.emitted (agent.announcingTurns announce) =
      announce moment agent.name :: moment.emitted agent := by
  rw [emitted, emitted, hook_announcingTurns]
  cases isHook : moment.hook agent with
  | none => simp [isHook] at does
  | some behaviour => rfl

theorem finish_announcingTurns (agents : List Agent) :
    moment.finish (agents.map (Agent.announcingTurns announce)) = moment.finish agents := by
  have same : moment.cancels ∘ Agent.announcingTurns announce = moment.cancels :=
    funext (cancels_announcingTurns announce moment)
  rw [finish, finish, List.any_map, same]

variable {moment}

theorem does_of_mem_called {agents : List Agent} {agent : Agent}
    (mem : agent ∈ moment.called agents) : (moment.hook agent).isSome = true := by
  induction agents with
  | nil => simp [called] at mem
  | cons first agents ih =>
      rw [called_cons, List.mem_append] at mem
      rcases mem with here | later
      · exact (List.mem_filter.mp here).2
      · split at later
        · cases later
        · exact ih later

/-- The events of the turns of agents that announce them. -/
theorem flatMap_emitted_announcingTurns (agents : List Agent) :
    (moment.called (agents.map (Agent.announcingTurns announce))).flatMap moment.emitted =
      (moment.called agents).flatMap fun agent =>
        announce moment agent.name :: moment.emitted agent := by
  rw [called_announcingTurns, List.flatMap_map]
  apply List.flatMap_congr
  intro agent mem
  exact emitted_announcingTurns announce moment (does_of_mem_called mem)

/-! ## The service of a session -/

variable (moment) (s : Session)

/-- What the service of a session comes to. -/
theorem serve_spec : (moment.serve s).2 = moment.finish s.roster.agents ∧
    (moment.serve s).1.events =
      s.events ++ (moment.called s.roster.agents).flatMap moment.emitted ∧
    (moment.serve s).1.disk = s.disk := by
  obtain ⟨result, events, disk⟩ := Session.runs_service moment s.roster.agents s
  rw [serve_eq, result, finish]
  refine ⟨?_, events, disk⟩
  split <;> rfl

theorem Serves.finish_eq {moment : Lifecycle} {agents called : List Agent} {finish : Finish Unit}
    (serves : moment.Serves agents called finish) : finish = moment.finish agents := by
  cases serves with
  | all patient =>
      have nobody : agents.any moment.cancels = false := by simpa using patient
      rw [Lifecycle.finish, nobody, if_neg Bool.false_ne_true]
  | @upTo before after agent split _ cancels =>
      have somebody : agents.any moment.cancels = true := by
        rw [split]
        simp [cancels]
      rw [Lifecycle.finish, somebody, if_pos rfl]

end Lifecycle

namespace Gateway

theorem stop_of_done {s : Session} (done : s.stopAgents.2 = .done ()) :
    Gateway.stop s = (s.stopAgents.1.persist.1, .done ()) := by
  rw [Gateway.stop]
  split
  · next after stopped => rw [stopped]
  · next after finish other stopped =>
    rw [stopped] at done
    exact (other done).elim

theorem stop_of_cancelled {s : Session} (cancelled : s.stopAgents.2 = .cancelled) :
    Gateway.stop s = (s.stopAgents.1, .cancelled) := by
  rw [Gateway.stop]
  split
  · next after stopped =>
    rw [stopped] at cancelled
    cases cancelled
  · next after finish other stopped =>
    rw [stopped] at cancelled ⊢
    exact Prod.ext rfl cancelled

/-- An agent that only has something to do at the end of service. -/
def closing (name : String) (stop : Behaviour) : Agent where
  name := name
  capabilities := []
  kind := none
  run := fun _ _ => .done (.text "")
  afterSubtask := none
  start := none
  stop := some stop

/-- Agents of which the first saves its notes and fails, the second ends by a
cancellation, and the third saves its notes. -/
def closingSession : Session :=
  { Session.teamSession with
    archive := { Archive.none with backend := .file }
    roster := ⟨[closing "first" (.save "notes" .null (.fail (.general "no more"))),
      closing "second" (.pause none fun _ => .halt),
      closing "third" (.save "notes" .null (.done (.text "")))]⟩ }

/-- The wording of turns by moment and agent. -/
def turnWording : Lifecycle → String → String
  | .start, name => name ++ " starts"
  | .stop, name => name ++ " stops"

/-- At either moment every agent that has something to do has its turn. -/
def CallsAll (s : Session) : Prop :=
  ∀ (moment : Lifecycle) announce,
    (moment.serve (s.announcingTurns announce)).1.events = s.events ++
      (s.roster.agents.filter fun agent => (moment.hook agent).isSome).flatMap fun agent =>
        announce moment agent.name :: moment.emitted agent

/-- After the last request the store is kept, however stopping the agents ended. -/
def KeepsStore (s : Session) : Prop :=
  (Gateway.stop s).1 = s.stopAgents.1.persist.1

end Gateway

end PromptDispatch
