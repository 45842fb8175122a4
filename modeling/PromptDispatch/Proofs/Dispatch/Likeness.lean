import PromptDispatch.Dispatch.Chain
import PromptDispatch.Proofs.Process.Likeness
import PromptDispatch.Proofs.Session.Rules

/-!
# Chains on related sessions

Agents do the same to two sessions that look alike to them: that hold the same entries and
the same agents.  As long as whatever agents do keeps the sessions so, and agents save
nothing but values of some kind, a chain on the one is alike to a chain on the other,
even where the two delegate in ways of their own, if these are alike.
-/

namespace PromptDispatch

/-- A behaviour saves values of one kind only. -/
def Behaviour.SavesOnly (saving : Json → Prop) : Behaviour → Prop
  | .done _ => True
  | .fail _ => True
  | .halt => True
  | .pause _ next => (next ()).SavesOnly saving
  | .emit _ next => next.SavesOnly saving
  | .note _ next => next.SavesOnly saving
  | .count next => next.SavesOnly saving
  | .save _ value next => saving value ∧ next.SavesOnly saving
  | .unregister _ next => next.SavesOnly saving
  | .delegate _ _ next => ∀ text visited, (next text visited).SavesOnly saving

theorem Behaviour.savesOnly_of_forall {saving : Json → Prop} (all : ∀ v, saving v)
    (behaviour : Behaviour) : behaviour.SavesOnly saving := by
  induction behaviour with
  | done => trivial
  | fail => trivial
  | halt => trivial
  | pause lastWords next ih => exact ih ()
  | emit event next ih => exact ih
  | note text next ih => exact ih
  | count next ih => exact ih
  | save key value next ih => exact ⟨all value, ih⟩
  | unregister agent next ih => exact ih
  | delegate agent task next ih => exact fun text visited => ih text visited

/-- The runs of an agent along a chain save values of one kind only. -/
def Agent.SavesOnlyInChains (saving : Json → Prop) (agent : Agent) : Prop :=
  ∀ input prompt entries visited,
    (agent.run input (.chained prompt entries visited)).SavesOnly saving

namespace Session

/-- A change that is made to two related sessions keeps them related. -/
def Kept (related : Session → Session → Prop) (change : Session → Session) : Prop :=
  ∀ s t, related s t → related (change s) (change t)

/-- Related sessions look alike to agents that save values of one kind only, and whatever
such agents do to both keeps them so. -/
structure LooksAlike (saving : Json → Prop) (related : Session → Session → Prop) : Prop where
  store : ∀ {s t}, related s t → s.store = t.store
  roster : ∀ {s t}, related s t → s.roster = t.roster
  saves : ∀ {s t}, related s t → t.roster.All (Agent.SavesOnlyInChains saving)
  note : ∀ level part text, Kept related fun s => s.note level part text
  emit : ∀ event, Kept related fun s => s.emit event
  countRun : ∀ name, Kept related fun s => s.countRun name
  unregister : ∀ name, Kept related fun s => (s.unregister name).1
  write : ∀ {agent key : Option String} {value : Json}, saving value →
    Kept related fun s => s.write agent key value

namespace LooksAlike

variable {saving : Json → Prop} {related : Session → Session → Prop}
variable (looksAlike : LooksAlike saving related)
include looksAlike

theorem alike_note {α : Type} (level : Journal.Level) (part : Journal.Part) (text : String)
    {p q : Process Session α} (rest : p.Alike related q) :
    (Process.change (fun s => s.note level part text) p).Alike related
      (.change (fun s => s.note level part text) q) :=
  Process.alike_change (looksAlike.note level part text) rest

theorem alike_conclude (agent : String) (visited : List String) (reply : Except Fault Reply) :
    (conclude agent visited reply).Alike related (conclude agent visited reply) := by
  rw [conclude]
  split <;> exact looksAlike.alike_note _ _ _ (.done _)

theorem alike_missingAgent (name : String) (visited : List String) :
    (missingAgent name visited).Alike related (missingAgent name visited) :=
  looksAlike.alike_note _ _ _ (.done _)

theorem alike_failedInChain (name : String) (visited : List String) (told : String) :
    (failedInChain name visited told).Alike related (failedInChain name visited told) :=
  looksAlike.alike_note _ _ _ (.done _)

theorem alike_sayingOf (name : String) (visited : List String)
    (result : Except Fault (List String × Outcome)) :
    (sayingOf name visited result).Alike related (sayingOf name visited result) := by
  rcases result with fault | ⟨visited, o⟩
  · exact looksAlike.alike_failedInChain _ _ _
  · rw [sayingOf]
    split
    · exact .done _
    · exact looksAlike.alike_failedInChain _ _ _

section

variable {delegation delegation' : Delegation}
variable (delegates : ∀ visited name task,
  (delegation visited name task).Alike related (delegation' visited name task))
include delegates

theorem alike_perform (own : String) {behaviour : Behaviour} (saves : behaviour.SavesOnly saving)
    (visited : List String) :
    (perform own delegation behaviour visited).Alike related
      (perform own delegation' behaviour visited) := by
  induction behaviour generalizing visited with
  | done reply => exact .done _
  | fail fault => exact .done _
  | halt => exact .halted
  | pause lastWords next ih =>
      refine .pause ?_ (ih () saves visited)
      cases lastWords with
      | none => exact fun _ _ same => same
      | some event => exact looksAlike.emit event
  | emit event next ih => exact Process.alike_change (looksAlike.emit event) (ih saves visited)
  | note text next ih => exact looksAlike.alike_note _ _ _ (ih saves visited)
  | count next ih => exact Process.alike_change (looksAlike.countRun own) (ih saves visited)
  | save key value next ih =>
      rw [perform, perform]
      split
      · exact Process.alike_change (looksAlike.write saves.1) (ih saves.2 visited)
      · exact .done _
  | unregister agent next ih =>
      exact Process.alike_change (looksAlike.unregister agent) (ih saves visited)
  | delegate agent task next ih =>
      rw [perform, perform]
      apply (delegates visited agent task).bind
      rintro ⟨visited, fault | text⟩
      · exact .done _
      · exact ih text visited (saves text visited) visited

theorem alike_execute (prompt name input : String) (entries : Store.Entries)
    (chain visited : List String) :
    (execute delegation name input (.chained prompt entries chain) visited).Alike related
      (execute delegation' name input (.chained prompt entries chain) visited) := by
  apply Process.alike_look
  intro s t same
  rw [looksAlike.roster same]
  cases found : t.roster.find? name with
  | none => exact looksAlike.alike_missingAgent name visited
  | some agent =>
      have saves := looksAlike.saves same agent (List.mem_of_find?_eq_some found)
      apply looksAlike.alike_note
      apply (looksAlike.alike_perform delegates agent.name (saves _ _ _ _) visited).bind
      rintro ⟨visited, reply⟩
      exact looksAlike.alike_conclude agent.name visited reply

theorem alike_executeTask (prompt name : String) (task : Errand) (entries : Store.Entries)
    (chain visited : List String) :
    (executeTask delegation name task (.chained prompt entries chain) visited).Alike related
      (executeTask delegation' name task (.chained prompt entries chain) visited) := by
  cases task with
  | str input =>
      exact (looksAlike.alike_execute delegates prompt name input entries chain visited).map _
  | unmeasured kind =>
      apply Process.alike_look
      intro s t same
      rw [looksAlike.roster same]
      split
      · exact .done _
      · exact (looksAlike.alike_missingAgent name visited).map _

theorem alike_enter (prompt name : String) (task : Errand) (visited : List String) :
    (enter delegation prompt name task visited).Alike related
      (enter delegation' prompt name task visited) := by
  apply Process.alike_look
  intro s t same
  rw [looksAlike.store same]
  exact (looksAlike.alike_executeTask delegates prompt name task _ _ _).bind
    (looksAlike.alike_sayingOf name _)

/-- A step along a chain does the same to related sessions. -/
theorem alike_dispatchStep (prompt : String) (visited : List String) (name : String)
    (task : Errand) :
    (dispatchStep delegation prompt visited name task).Alike related
      (dispatchStep delegation' prompt visited name task) := by
  apply Process.alike_look
  intro s t same
  rw [looksAlike.roster same]
  split
  · split
    · exact looksAlike.alike_note _ _ _ (.done _)
    · exact looksAlike.alike_enter delegates prompt name task visited
  · exact looksAlike.alike_note _ _ _ (.done _)

end

end LooksAlike

end Session

end PromptDispatch
