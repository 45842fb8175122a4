import PromptDispatch.Proofs.Process.Conduct
import PromptDispatch.Session.Subtask

/-!
# What agents can do to a session

Whatever agents are made of, a change that one of them makes to a session is
one of a few: it reports, emits, counts, saves under its own name, or gives up
a name.  Rules restrict what it saves and whether it may end by a cancellation
of its own.  Among agents that obey rules, every process of a session keeps to
the conduct that the rules describe.
-/

namespace PromptDispatch

/-- Rules for agents. -/
structure Rules where
  /-- the keys that may be saved under -/
  saving : String → Prop
  /-- whether an agent may end by a cancellation of its own -/
  halting : Prop

/-- Rules that allow everything. -/
def Rules.free : Rules := ⟨fun _ => True, True⟩

/-- A behaviour obeys rules. -/
def Behaviour.Obeys (rules : Rules) : Behaviour → Prop
  | .done _ => True
  | .fail _ => True
  | .halt => rules.halting
  | .pause _ next => (next ()).Obeys rules
  | .emit _ next => next.Obeys rules
  | .note _ next => next.Obeys rules
  | .count next => next.Obeys rules
  | .save key _ next => rules.saving key ∧ next.Obeys rules
  | .unregister _ next => next.Obeys rules
  | .delegate _ _ next => ∀ text visited, (next text visited).Obeys rules

theorem Behaviour.obeys_free (behaviour : Behaviour) : behaviour.Obeys .free := by
  induction behaviour with
  | done => trivial
  | fail => trivial
  | halt => trivial
  | pause lastWords next ih => exact ih ()
  | emit event next ih => exact ih
  | note text next ih => exact ih
  | count next ih => exact ih
  | save key value next ih => exact ⟨trivial, ih⟩
  | unregister agent next ih => exact ih
  | delegate agent task next ih => exact fun text visited => ih text visited

/-- The runs of an agent along a chain obey rules. -/
def Agent.ObeysInChains (rules : Rules) (agent : Agent) : Prop :=
  ∀ input prompt entries visited,
    (agent.run input (.chained prompt entries visited)).Obeys rules

/-- The runs and follow-ups of an agent, on what a caller hands over, obey
rules. -/
structure Agent.ObeysInBatches (rules : Rules) (agent : Agent) : Prop where
  runs : ∀ input context, (agent.run input (.given context)).Obeys rules
  follows : ∀ follow, agent.afterSubtask = some follow → ∀ o context,
    (follow o context).Obeys rules

/-- All registered agents are of a kind. -/
def Roster.All (fit : Agent → Prop) (roster : Roster) : Prop := ∀ agent ∈ roster.agents, fit agent

namespace Session

/-- All that an agent that obeys rules can do to a session at once. -/
inductive Acts (rules : Rules) (s : Session) : Session → Prop where
  | nothing : Acts rules s s
  /-- a part other than the store reports something -/
  | reports (level : Journal.Level) (part : Journal.Part) (text : String)
      (outside : part ≠ .store) : Acts rules s (s.note level part text)
  | emits (event : String) : Acts rules s (s.emit event)
  | counts (name : String) : Acts rules s (s.countRun name)
  | saves (name key : String) (value : Json) (allowed : rules.saving key) :
      Acts rules s (s.write (some name) (some key) value)
  | unregisters (name : String) : Acts rules s (s.unregister name).1

/-- All that an agent can do when it is cancelled. -/
inductive Parts (s : Session) : Session → Prop where
  | silently : Parts s s
  | speaking (event : String) : Parts s (s.emit event)

section

variable {rules : Rules} {fit : Agent → Prop}

theorem Acts.roster {s s' : Session} (acts : Acts rules s s') :
    s'.roster.agents ⊆ s.roster.agents := by
  cases acts with
  | unregisters name =>
      rw [unregister]
      split
      · exact List.filter_sublist.subset
      · exact List.Subset.refl _
  | _ => exact List.Subset.refl _

/-- To the store an act is a save under a key that the rules allow, or
nothing. -/
theorem Acts.store {s s' : Session} (acts : Acts rules s s') :
    s'.store = s.store ∨ ∃ name key value, rules.saving key ∧
      s'.store = s.store.write (some name) (some key) value := by
  cases acts with
  | saves name key value allowed => exact .inr ⟨name, key, value, allowed, rfl⟩
  | unregisters name =>
      rw [unregister]
      split <;> exact .inl rfl
  | _ => exact .inl rfl

theorem Acts.throttle {s s' : Session} (acts : Acts rules s s') : s'.throttle = s.throttle := by
  cases acts with
  | unregisters name =>
      rw [unregister]
      split <;> rfl
  | _ => rfl

theorem Parts.acts {s s' : Session} (parts : Parts s s') : Acts rules s s' := by
  cases parts with
  | silently => exact .nothing
  | speaking event => exact .emits event

/-- The conduct of processes among registered agents of a kind. -/
def conduct (rules : Rules) (fit : Agent → Prop) : Conduct Session where
  holds s := s.roster.All fit
  acts := Acts rules
  parts := Parts
  halts := rules.halting
  idle _ := .nothing
  keeps holds acts := fun agent agentMem => holds agent (acts.roster agentMem)

/-! ## Behaviours -/

theorem heeds_note {α : Type} {level : Journal.Level} {part : Journal.Part}
    {text : String} (outside : part ≠ .store) {next : Process Session α}
    (rest : next.Heeds (conduct rules fit)) :
    (Process.change (fun s => s.note level part text) next).Heeds (conduct rules fit) :=
  Process.heeds_change (fun _ _ => .reports level part text outside) rest

theorem heeds_perform {delegation : Delegation}
    (delegates : ∀ visited name task,
      (delegation visited name task).Heeds (conduct rules fit))
    (own : String) {behaviour : Behaviour} (obeys : behaviour.Obeys rules)
    (visited : List String) :
    (perform own delegation behaviour visited).Heeds (conduct rules fit) := by
  induction behaviour generalizing visited with
  | done reply => trivial
  | fail fault => trivial
  | halt => exact obeys
  | pause lastWords next ih =>
      refine ⟨?_, ih () obeys visited⟩
      intro s
      cases lastWords with
      | none => exact .silently
      | some event => exact .speaking event
  | emit event next ih => exact Process.heeds_change (fun _ _ => .emits event) (ih obeys visited)
  | note text next ih => exact heeds_note (by decide) (ih obeys visited)
  | count next ih => exact Process.heeds_change (fun _ _ => .counts own) (ih obeys visited)
  | save key value next ih =>
      rw [perform]
      split
      · exact Process.heeds_change (fun _ _ => .saves own key value obeys.1) (ih obeys.2 visited)
      · trivial
  | unregister agent next ih =>
      exact Process.heeds_change (fun _ _ => .unregisters agent) (ih obeys visited)
  | delegate agent task next ih =>
      rw [perform]
      apply (delegates visited agent task).bind
      rintro ⟨visited, fault | text⟩
      · trivial
      · exact ih text visited (obeys text visited) visited

/-! ## Execution -/

theorem heeds_conclude (agent : String) (visited : List String) (reply : Except Fault Reply) :
    (conclude agent visited reply).Heeds (conduct rules fit) := by
  rw [conclude]
  split
  · exact heeds_note (by decide) trivial
  · exact heeds_note (by decide) trivial

theorem heeds_missingAgent (name : String) (visited : List String) :
    (missingAgent name visited).Heeds (conduct rules fit) :=
  heeds_note (by decide) trivial

section

variable {delegation : Delegation} {context : Context}
variable (delegates : ∀ visited name task,
  (delegation visited name task).Heeds (conduct rules fit))
variable (runs : ∀ agent, fit agent → ∀ input, (agent.run input context).Obeys rules)
include delegates runs

theorem heeds_execute (name input : String) (visited : List String) :
    (execute delegation name input context visited).Heeds (conduct rules fit) := by
  apply Process.heeds_look
  intro s fits
  cases found : s.roster.find? name with
  | none => exact heeds_missingAgent name visited
  | some agent =>
      have obeys := runs agent (fits agent (List.mem_of_find?_eq_some found)) input
      apply heeds_note (by decide)
      apply (heeds_perform delegates agent.name obeys visited).bind
      rintro ⟨visited, reply⟩
      exact heeds_conclude agent.name visited reply

theorem heeds_executeTask (name : String) (task : Errand) (visited : List String) :
    (executeTask delegation name task context visited).Heeds (conduct rules fit) := by
  cases task with
  | str input => exact (heeds_execute delegates runs name input visited).map _
  | _ =>
      apply Process.heeds_look
      intro s _
      split
      · trivial
      · exact (heeds_missingAgent name visited).map _

end

end

/-! ## Subtasks of a batch -/

section

variable {rules : Rules}

theorem heeds_noDelegation {fit : Agent → Prop} (context : Json) (visited : List String)
    (name : String) (task : Errand) :
    (noDelegation context visited name task).Heeds (conduct rules fit) :=
  trivial

theorem heeds_followUp (t : Subtask) (o : Outcome) :
    (followUp t o).Heeds (conduct rules (Agent.ObeysInBatches rules)) := by
  apply Process.heeds_look
  intro s fits
  cases found : (s.roster.find? t.agent).bind (·.afterSubtask) with
  | none => trivial
  | some follow =>
      obtain ⟨agent, isAgent, isFollow⟩ := Option.bind_eq_some_iff.mp found
      have fit := fits agent (List.mem_of_find?_eq_some isAgent)
      have obeys := fit.follows follow isFollow o (.obj t.context)
      apply (heeds_perform (heeds_noDelegation _) t.agent obeys []).bind
      rintro ⟨visited, reply⟩
      cases reply with
      | ok reply => trivial
      | error fault => exact heeds_note (by decide) trivial

theorem heeds_runSubtask (t : Subtask) :
    (runSubtask t).Heeds (conduct rules (Agent.ObeysInBatches rules)) := by
  apply (heeds_execute (heeds_noDelegation _) (fun _ fit input => fit.runs input _)
    t.agent t.input []).bind
  rintro ⟨visited, o⟩
  exact heeds_followUp t o

end

end Session

end PromptDispatch
