import Mathlib.Data.List.Dedup
import PromptDispatch.Dispatch.OnMachine
import PromptDispatch.Proofs.Dispatch.Steady

/-!
# Moments of a chain

A chain of delegations is taken apart into moments.  At every moment an agent
is asked, is at work or has been told of, and the agents that wait for it
are its callers.  Moments follow one another without any bound on the depth of
the chain; whenever an agent pauses, others may change the session.

An agent that is entered is run unless the machine cannot copy its entries.  Then it
has been visited all the same, and its caller ends by the fault.

As long as others register nobody, every chain comes to an end: each agent that
is entered is one less that can be.
-/

namespace PromptDispatch

/-- All tasks that a behaviour delegates are texts. -/
def Behaviour.AsksInText : Behaviour → Prop
  | .done _ => True
  | .fail _ => True
  | .halt => True
  | .pause _ next => (next ()).AsksInText
  | .emit _ next => next.AsksInText
  | .note _ next => next.AsksInText
  | .count next => next.AsksInText
  | .save _ _ next => next.AsksInText
  | .unregister _ next => next.AsksInText
  | .delegate _ task next =>
      (∃ text, task = .str text) ∧ ∀ text visited, (next text visited).AsksInText

/-- All tasks that an agent delegates along a chain are texts. -/
def Agent.AsksInText (agent : Agent) : Prop :=
  ∀ input prompt entries visited,
    (agent.run input (.chained prompt entries visited)).AsksInText

theorem Roster.name_mem_names {roster : Roster} {agent : Agent} (member : agent ∈ roster.agents) :
    agent.name ∈ roster.names :=
  List.mem_map_of_mem member

theorem Roster.name_of_find? {roster : Roster} {name : String} {agent : Agent}
    (found : roster.find? name = some agent) : agent.name = name := by
  simpa using List.find?_some found

namespace Session

/-- An agent that waits for what another one says. -/
structure Caller where
  name : String
  next : String → List String → Behaviour

/-- What goes on at the head of a chain. -/
inductive Focus where
  /-- an agent is asked to work on a task -/
  | asked (name task : String)
  /-- an agent is at work -/
  | working (name : String) (behaviour : Behaviour)
  /-- an agent has said something, is missing, or was refused by a fault -/
  | told (told : Except Fault (Option String))

/-- A moment of a chain. -/
structure Moment where
  session : Session
  /-- pauses so far -/
  pauses : Nat
  visited : List String
  /-- the agents whose run was started, in that order -/
  started : List String
  /-- the agents that were entered and not run, their entries not being copied -/
  refused : List String
  /-- the agents that wait, innermost first -/
  callers : List Caller
  focus : Focus

namespace Moment

/-- The first moment of a chain along which some agents were visited before. -/
def first (s : Session) (before : List String) (name task : String) : Moment where
  session := s
  pauses := 0
  visited := before
  started := []
  refused := []
  callers := []
  focus := .asked name task

/-- The agents whose run was started and has not ended. -/
def depth (m : Moment) : Nat :=
  match m.focus with
  | .working _ _ => m.callers.length + 1
  | _ => m.callers.length

/-- What is reported and said when an agent's work has come to a reply. -/
def conclusion (name : String) (visited : List String) (reply : Except Fault Reply) :
    Process Session Saying :=
  (conclude name visited reply).bind fun result => sayingOf name visited (.ok result)

/-- The work of an agent ends with a reply. -/
def finish (m : Moment) (name : String) (reply : Except Fault Reply) : Moment :=
  let (session, saying) := (conclusion name m.visited reply).run m.session
  { m with session, focus := .told (.ok (saying.bind (·.2))) }

/-- An agent goes on with its work in a session. -/
def goOn (m : Moment) (session : Session) (name : String) (next : Behaviour) : Moment :=
  { m with session, focus := .working name next }

variable (machine : Machine) (prompt : String) (others : Nat → Session → Session)

/-- An agent is asked: it is missing, it was visited before, its entries cannot be
copied, or its run is started. -/
def ask (m : Moment) (name task : String) : Moment :=
  match m.session.roster.find? name with
  | none =>
      { m with
        session := m.session.note .error .dispatcher
          ("Skipping subtask: " ++ (Fault.agentNotFound name).message)
        focus := .told (.ok none) }
  | some agent =>
      if m.visited.contains name then
        { m with
          session := m.session.note .warning .dispatcher
            s!"Circular call detected for {name}"
          focus := .told (.ok (some "")) }
      else
        match m.session.store.copyFault? machine (some name) with
        | some fault =>
            { m with
              visited := m.visited ++ [name]
              refused := m.refused ++ [name]
              focus := .told (.error fault) }
        | none =>
            { m with
              session := m.session.note .info .roster
                s!"Executing with agent {name}: {preview task}"
              visited := m.visited ++ [name]
              started := m.started ++ [name]
              focus := .working name (agent.run task
                (.chained prompt (m.session.store.getAll (some name)) (m.visited ++ [name]))) }

section

variable {m : Moment} {name : String} {agent : Agent}

theorem ask_missing (missing : m.session.roster.find? name = none) (task : String) :
    m.ask machine prompt name task =
      { m with
        session := m.session.note .error .dispatcher
          ("Skipping subtask: " ++ (Fault.agentNotFound name).message)
        focus := .told (.ok none) } := by
  rw [ask, missing]

theorem ask_visited (found : m.session.roster.find? name = some agent)
    (visited : name ∈ m.visited) (task : String) :
    m.ask machine prompt name task =
      { m with
        session := m.session.note .warning .dispatcher
          s!"Circular call detected for {name}"
        focus := .told (.ok (some "")) } := by
  rw [ask, found]
  dsimp only
  rw [if_pos (by simpa using visited)]

variable (found : m.session.roster.find? name = some agent) (unvisited : name ∉ m.visited)
include found unvisited

theorem ask_refused {fault : Fault}
    (uncopied : m.session.store.copyFault? machine (some name) = some fault) (task : String) :
    m.ask machine prompt name task =
      { m with
        visited := m.visited ++ [name]
        refused := m.refused ++ [name]
        focus := .told (.error fault) } := by
  rw [ask, found]
  dsimp only
  rw [if_neg (by simpa using unvisited), uncopied]

theorem ask_started (copied : m.session.store.copyFault? machine (some name) = none)
    (task : String) :
    m.ask machine prompt name task =
      { m with
        session := m.session.note .info .roster s!"Executing with agent {name}: {preview task}"
        visited := m.visited ++ [name]
        started := m.started ++ [name]
        focus := .working name (agent.run task
          (.chained prompt (m.session.store.getAll (some name)) (m.visited ++ [name]))) } := by
  rw [ask, found]
  dsimp only
  rw [if_neg (by simpa using unvisited), copied]

end

/-- The moment after one in which an agent is at work; there is none after a
cancellation. -/
def work (m : Moment) (name : String) : Behaviour → Option Moment
  | .done reply => some (m.finish name (.ok reply))
  | .fail fault => some (m.finish name (.error fault))
  | .halt => none
  | .pause _ next =>
      some { m.goOn (others m.pauses m.session) name (next ()) with pauses := m.pauses + 1 }
  | .emit event next => some (m.goOn (m.session.emit event) name next)
  | .note text next => some (m.goOn (m.session.note .debug .agents text) name next)
  | .count next => some (m.goOn (m.session.countRun name) name next)
  | .save key value next =>
      if Store.isName (some name) then
        some (m.goOn (m.session.write (some name) (some key) value) name next)
      else some (m.finish name (.error .namelessAgent))
  | .unregister agent next => some (m.goOn (m.session.unregister agent).1 name next)
  | .delegate agent (.str task) next =>
      some { m with callers := ⟨name, next⟩ :: m.callers, focus := .asked agent task }
  | .delegate _ _ _ => none

/-- The innermost caller hears what is told: it goes on with its work, or it ends by the
fault. -/
def hear (m : Moment) (caller : Caller) (callers : List Caller) :
    Except Fault (Option String) → Moment
  | .ok text =>
      { m with
        callers
        focus := .working caller.name (caller.next (text.getD "") m.visited) }
  | .error fault => { m with callers }.finish caller.name (.error fault)

/-- The next moment of a chain. -/
def step (m : Moment) : Option Moment :=
  match m.focus with
  | .asked name task => some (m.ask machine prompt name task)
  | .working name behaviour => m.work others name behaviour
  | .told told =>
      match m.callers with
      | [] => none
      | caller :: callers => some (m.hear caller callers told)

/-- The moment after a number of steps. -/
def after : Nat → Moment → Option Moment
  | 0, m => some m
  | n + 1, m => (m.step machine prompt others).bind (after n)

/-! ## What a step can do -/

/-- All that a step can do. -/
inductive Follows (m : Moment) : Moment → Prop where
  /-- something is said, and nobody is entered -/
  | speaks (session : Session) (text : Option String)
      (staff : session.roster.agents ⊆ m.session.roster.agents) :
      Follows m { m with session, focus := .told (.ok text) }
  /-- the run of a registered agent that was not visited before is started -/
  | enters (session : Session) (agent : Agent) (task : String) (entries : Store.Entries)
      (asked : m.focus = .asked agent.name task)
      (member : agent ∈ m.session.roster.agents) (unvisited : agent.name ∉ m.visited)
      (staff : session.roster = m.session.roster) :
      Follows m { m with
        session
        visited := m.visited ++ [agent.name]
        started := m.started ++ [agent.name]
        focus := .working agent.name
          (agent.run task (.chained prompt entries (m.visited ++ [agent.name]))) }
  /-- a registered agent that was not visited before is entered and not run -/
  | refuses (agent : Agent) (task : String) (fault : Fault)
      (asked : m.focus = .asked agent.name task)
      (member : agent ∈ m.session.roster.agents) (unvisited : agent.name ∉ m.visited) :
      Follows m { m with
        visited := m.visited ++ [agent.name]
        refused := m.refused ++ [agent.name]
        focus := .told (.error fault) }
  /-- an agent goes on with its work -/
  | goesOn (session : Session) (pauses : Nat) (name : String) (behaviour next : Behaviour)
      (working : m.focus = .working name behaviour)
      (inText : behaviour.AsksInText → next.AsksInText)
      (staff : session.roster.agents ⊆ m.session.roster.agents) :
      Follows m { m with session, pauses, focus := .working name next }
  /-- an agent delegates and becomes a caller -/
  | delegates (name agent task : String) (next : String → List String → Behaviour)
      (working : m.focus = .working name (.delegate agent (.str task) next)) :
      Follows m { m with callers := ⟨name, next⟩ :: m.callers, focus := .asked agent task }
  /-- the innermost caller hears something and goes on with its work -/
  | hears (text : Option String) (caller : Caller) (callers : List Caller)
      (told : m.focus = .told (.ok text)) (waiting : m.callers = caller :: callers) :
      Follows m { m with
        callers
        focus := .working caller.name (caller.next (text.getD "") m.visited) }
  /-- the innermost caller ends by a fault that it hears -/
  | fails (session : Session) (text : Option String) (caller : Caller) (callers : List Caller)
      (waiting : m.callers = caller :: callers) (staff : session.roster = m.session.roster) :
      Follows m { m with session, callers, focus := .told (.ok text) }

theorem ensures_sayingOf (roster : Roster) (name : String) (visited : List String)
    (o : Outcome) :
    (sayingOf name visited (.ok (visited, o))).Ensures (Holding roster)
      fun saying => ∃ text, saying = (visited, some text) := by
  rw [sayingOf]
  split
  · exact ⟨o.output, rfl⟩
  · exact Process.ensures_change (fun _ holds => holds) ⟨errorFrom name, rfl⟩

/-- A conclusion comes to a text; it leaves the visited agents and the roster
alone. -/
theorem ensures_conclusion (roster : Roster) (name : String) (visited : List String)
    (reply : Except Fault Reply) :
    (conclusion name visited reply).Ensures (Holding roster)
      fun saying => ∃ text, saying = (visited, some text) := by
  rw [conclusion, conclude]
  split
  · next o _ =>
    exact Process.ensures_change (fun _ holds => holds) (ensures_sayingOf roster name visited o)
  · next fault _ =>
    refine Process.ensures_change (fun _ holds => holds) ?_
    exact ensures_sayingOf roster name visited (.failWith _ _)

theorem finish_eq (m : Moment) (name : String) (reply : Except Fault Reply) :
    ∃ session text,
      (conclusion name m.visited reply).run m.session =
          (session, some (m.visited, some text)) ∧
        m.finish name reply = { m with session, focus := .told (.ok (some text)) } ∧
        session.roster = m.session.roster := by
  obtain ⟨session, _, ran, ⟨text, rfl⟩, sameRoster⟩ :=
    (ensures_conclusion m.session.roster name m.visited reply).run (s := m.session) rfl
  refine ⟨session, text, ran, ?_, sameRoster⟩
  rw [finish, ran]
  rfl

variable {machine : Machine} {prompt : String} {others : Nat → Session → Session}
variable {m m' : Moment}

theorem follows_finish (name : String) (reply : Except Fault Reply) :
    Follows prompt m (m.finish name reply) := by
  rcases finish_eq m name reply with ⟨session, text, -, finished, sameRoster⟩
  rw [finished]
  exact .speaks session (some text) (by rw [sameRoster]; exact List.Subset.refl _)

theorem follows_ask {name task : String} (asked : m.focus = .asked name task) :
    Follows prompt m (m.ask machine prompt name task) := by
  cases found : m.session.roster.find? name with
  | none =>
      rw [ask_missing machine prompt found]
      exact .speaks _ none (List.Subset.refl _)
  | some agent =>
      obtain rfl := Roster.name_of_find? found
      have member := List.mem_of_find?_eq_some found
      by_cases visited : agent.name ∈ m.visited
      · rw [ask_visited machine prompt found visited]
        exact .speaks _ (some "") (List.Subset.refl _)
      · cases uncopied : m.session.store.copyFault? machine (some agent.name) with
        | some fault =>
            rw [ask_refused machine prompt found visited uncopied]
            exact .refuses agent task fault asked member visited
        | none =>
            rw [ask_started machine prompt found visited uncopied]
            exact .enters _ agent task _ asked member visited rfl

theorem follows_hear {told : Except Fault (Option String)} {caller : Caller}
    {callers : List Caller} (isTold : m.focus = .told told)
    (waiting : m.callers = caller :: callers) :
    Follows prompt m (m.hear caller callers told) := by
  cases told with
  | ok text => exact .hears text caller callers isTold waiting
  | error fault =>
      rcases finish_eq { m with callers } caller.name (.error fault) with
        ⟨session, text, -, finished, sameRoster⟩
      rw [hear, finished]
      exact .fails session (some text) caller callers waiting sameRoster

theorem agents_unregister_subset (s : Session) (agent : String) :
    (s.unregister agent).1.roster.agents ⊆ s.roster.agents := by
  rw [unregister]
  split
  · exact List.filter_sublist.subset
  · exact List.Subset.refl _

/-- A step does nothing else, if others register nobody. -/
theorem follows_of_step
    (registersNobody : ∀ i s, (others i s).roster.agents ⊆ s.roster.agents)
    (stepped : m.step machine prompt others = some m') : Follows prompt m m' := by
  cases focus : m.focus with
  | asked name task =>
      obtain rfl : m.ask machine prompt name task = m' := by simpa [step, focus] using stepped
      exact follows_ask focus
  | told told =>
      cases waiting : m.callers with
      | nil => simp [step, focus, waiting] at stepped
      | cons caller callers =>
          rw [step, focus] at stepped
          dsimp only at stepped
          rw [waiting] at stepped
          obtain rfl := Option.some.inj stepped
          exact follows_hear focus waiting
  | working name behaviour =>
      rw [step, focus] at stepped
      dsimp only at stepped
      cases behaviour with
      | done reply => exact Option.some.inj stepped ▸ follows_finish name _
      | fail fault => exact Option.some.inj stepped ▸ follows_finish name _
      | halt => simp [work] at stepped
      | pause lastWords next =>
          obtain rfl := Option.some.inj stepped
          exact .goesOn _ _ name _ (next ()) focus id (registersNobody _ _)
      | emit event next =>
          obtain rfl := Option.some.inj stepped
          exact .goesOn _ _ name _ next focus id (List.Subset.refl _)
      | note text next =>
          obtain rfl := Option.some.inj stepped
          exact .goesOn _ _ name _ next focus id (List.Subset.refl _)
      | count next =>
          obtain rfl := Option.some.inj stepped
          exact .goesOn _ _ name _ next focus id (List.Subset.refl _)
      | save key value next =>
          rw [work] at stepped
          split at stepped
          · obtain rfl := Option.some.inj stepped
            exact .goesOn _ _ name _ next focus id (List.Subset.refl _)
          · exact Option.some.inj stepped ▸ follows_finish name _
      | unregister agent next =>
          obtain rfl := Option.some.inj stepped
          exact .goesOn _ _ name _ next focus id (agents_unregister_subset _ agent)
      | delegate agent task next =>
          cases task with
          | str task =>
              obtain rfl := Option.some.inj stepped
              exact .delegates name agent task next focus
          | _ => simp [work] at stepped

/-! ## The invariant -/

/-- The visited agents are those visited before and those that were entered: each was
entered once, was registered and had not been visited before. -/
structure Entered (roster : Roster) (before visited entered : List String) : Prop where
  perm : visited.Perm (before ++ entered)
  nodup : entered.Nodup
  unvisited : ∀ name ∈ entered, name ∉ before
  registered : entered ⊆ roster.names

/-- One more registered agent is entered. -/
theorem Entered.add {roster : Roster} {before visited entered more : List String} {name : String}
    (all : Entered roster before visited entered) (registered : name ∈ roster.names)
    (unvisited : name ∉ visited) (perm : more.Perm (entered ++ [name])) :
    Entered roster before (visited ++ [name]) more := by
  rw [all.perm.mem_iff, List.mem_append, not_or] at unvisited
  have each {P : String → Prop} (old : ∀ other ∈ entered, P other) (new : P name) :
      ∀ other ∈ more, P other := by
    intro other otherMem
    rcases List.mem_append.mp (perm.mem_iff.mp otherMem) with mem | mem
    · exact old other mem
    · exact List.mem_singleton.mp mem ▸ new
  exact {
    perm := by
      have longer := all.perm.append_right [name]
      rw [List.append_assoc] at longer
      exact longer.trans (perm.symm.append_left before)
    nodup := by
      rw [perm.nodup_iff, List.nodup_append]
      refine ⟨all.nodup, List.nodup_singleton name, ?_⟩
      intro other otherMem same sameMem isSame
      rw [List.mem_singleton.mp sameMem] at isSame
      exact unvisited.2 (isSame ▸ otherMem)
    unvisited := each all.unvisited unvisited.1
    registered := fun _ mem => each (fun _ old => all.registered old) registered _ mem }

/-- What holds at every moment of a chain that was begun with a roster, after
some agents had been visited. -/
structure Sound (roster : Roster) (before : List String) (m : Moment) : Prop where
  staff : m.session.roster.agents ⊆ roster.agents
  entered : Entered roster before m.visited (m.started ++ m.refused)
  depth : m.depth ≤ m.started.length
  callers : ∀ caller ∈ m.callers, ∀ text visited, (caller.next text visited).AsksInText
  working : ∀ name behaviour, m.focus = .working name behaviour → behaviour.AsksInText

theorem length_callers_le_depth (m : Moment) : m.callers.length ≤ m.depth := by
  rw [depth]
  split <;> omega

theorem depth_of_working {name : String} {behaviour : Behaviour}
    (working : m.focus = .working name behaviour) : m.depth = m.callers.length + 1 := by
  rw [depth, working]

theorem sound_first (s : Session) (before : List String) (name task : String) :
    Sound s.roster before (first s before name task) where
  staff := List.Subset.refl _
  entered := {
    perm := by simp [first]
    nodup := by simp [first]
    unvisited := by simp [first]
    registered := by simp [first] }
  depth := Nat.le_refl 0
  callers := by simp [first]
  working := by simp [first]

/-- More agents were started than wait for the one that is at work. -/
theorem Sound.length_callers_lt {roster : Roster} {before : List String} {name : String}
    {behaviour : Behaviour} (sound : m.Sound roster before)
    (working : m.focus = .working name behaviour) : m.callers.length < m.started.length := by
  rw [Nat.lt_iff_add_one_le, ← depth_of_working working]
  exact sound.depth

/-- Every step keeps the invariant. -/
theorem Follows.sound {roster : Roster} {before : List String}
    (inText : ∀ agent ∈ roster.agents, agent.AsksInText) (sound : m.Sound roster before)
    (follows : Follows prompt m m') : m'.Sound roster before := by
  have outer := Nat.le_trans (length_callers_le_depth m) sound.depth
  cases follows with
  | speaks session text staff =>
      exact {
        sound with
        staff := List.Subset.trans staff sound.staff
        depth := outer
        working := by simp }
  | enters session agent task entries asked member unvisited staff =>
      have registered := Roster.name_mem_names (sound.staff member)
      exact {
        staff := staff ▸ sound.staff
        entered := sound.entered.add registered unvisited (by
          rw [List.append_assoc, List.append_assoc]
          exact List.perm_append_comm.append_left _)
        depth := by simpa [depth] using outer
        callers := sound.callers
        working := by
          intro name behaviour focus
          rcases Focus.working.inj focus with ⟨rfl, rfl⟩
          exact inText agent (sound.staff member) _ _ _ _ }
  | refuses agent task fault asked member unvisited =>
      have registered := Roster.name_mem_names (sound.staff member)
      exact {
        sound with
        entered := sound.entered.add registered unvisited (by rw [List.append_assoc])
        depth := outer
        working := by simp }
  | goesOn session pauses name behaviour next working nextInText staff =>
      exact {
        sound with
        staff := List.Subset.trans staff sound.staff
        depth := sound.length_callers_lt working
        working := by
          intro other following focus
          rcases Focus.working.inj focus with ⟨rfl, rfl⟩
          exact nextInText (sound.working _ _ working) }
  | delegates name agent task next working =>
      have asks := sound.working _ _ working
      exact {
        sound with
        depth := sound.length_callers_lt working
        callers := by
          intro caller callerMem
          rcases List.mem_cons.mp callerMem with rfl | waiting
          · exact asks.2
          · exact sound.callers caller waiting
        working := by simp }
  | hears text caller callers told waiting =>
      have callersInText := sound.callers
      rw [waiting] at callersInText outer
      exact {
        sound with
        depth := by simpa [depth] using outer
        callers := fun other otherMem =>
          callersInText other (List.mem_cons_of_mem _ otherMem)
        working := by
          intro name behaviour focus
          rcases Focus.working.inj focus with ⟨rfl, rfl⟩
          exact callersInText caller List.mem_cons_self _ _ }
  | fails session text caller callers waiting staff =>
      have callersInText := sound.callers
      rw [waiting] at callersInText outer
      exact {
        sound with
        staff := staff ▸ sound.staff
        depth := Nat.le_of_succ_le outer
        callers := fun other otherMem =>
          callersInText other (List.mem_cons_of_mem _ otherMem)
        working := by simp }

/-- Neither the visited agents nor those that were started or refused ever become fewer. -/
theorem Follows.grows (follows : Follows prompt m m') :
    m.visited <+: m'.visited ∧ m.started <+: m'.started ∧ m.refused <+: m'.refused := by
  cases follows with
  | enters =>
      exact ⟨List.prefix_append _ _, List.prefix_append _ _, List.prefix_rfl⟩
  | refuses =>
      exact ⟨List.prefix_append _ _, List.prefix_rfl, List.prefix_append _ _⟩
  | _ => exact ⟨List.prefix_rfl, List.prefix_rfl, List.prefix_rfl⟩

end Moment

end Session

end PromptDispatch
