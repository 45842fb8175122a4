import Mathlib.Data.List.Nodup
import PromptDispatch.Dispatch.Basic
import PromptDispatch.Proofs.Json.Plain

/-!
# The subtasks of a prompt

A prompt goes to every agent with a route whose pattern occurs in it, once and
at the place of the first such route, and to the default agent when there is
none.  As long as the routes and the default agent have names, breaking an
accepted prompt up cannot fail, and it does not look at the session.
-/

namespace PromptDispatch

/-- A route that was made has a name. -/
theorem Route.agent_ne_of_make {agent pattern description : Json} {route : Route}
    (made : Route.make agent pattern description = .ok route) : route.agent ≠ "" := by
  rw [Route.make.eq_def] at made
  split at made
  · simp at made
  · next name text unnamed =>
    split at made
    · obtain rfl := by simpa using made
      intro empty
      exact unnamed empty
    · simp at made
  · simp at made
  · simp at made

theorem Route.agent_ne_of_makeAll {table : List (Json × Json × Json)} {routes : List Route}
    (made : Route.makeAll table = .ok routes) : ∀ route ∈ routes, route.agent ≠ "" := by
  induction table generalizing routes with
  | nil =>
      obtain rfl := by simpa [Route.makeAll] using made
      simp
  | cons row table ih =>
      rcases bind_eq_ok_iff.mp made with ⟨route, routeMade, made⟩
      rcases bind_eq_ok_iff.mp made with ⟨rest, restMade, made⟩
      obtain rfl : route :: rest = routes := Except.ok.inj made
      intro other otherMem
      rcases List.mem_cons.mp otherMem with rfl | restMem
      · exact agent_ne_of_make routeMade
      · exact ih restMade other restMem

namespace Dispatcher

/-- Every route and the default agent have a name. -/
structure Named (d : Dispatcher) : Prop where
  routes : ∀ route ∈ d.routes, route.agent ≠ ""
  defaultAgent : d.defaultAgent ≠ ""

/-- The agents of a prompt. -/
def routed (d : Dispatcher) (prompt : String) : List String :=
  match (Route.agentsFor d.routes prompt).eraseDups with
  | [] => [d.defaultAgent]
  | names => names

/-- The subtasks of a prompt, one for each of its agents. -/
def subtasks (d : Dispatcher) (prompt : String) : List Subtask :=
  (d.routed prompt).map fun name => { agent := name, input := prompt }

/-! ## Agents in the order of the routes -/

theorem distinct_eq_eraseDups (names : List String) : distinct names = names.eraseDups := by
  have kept := Keyed.foldl_keep (· == ·) [] names
  simp only [← List.contains_eq_any_beq] at kept
  rw [distinct, kept]
  simp [List.eraseDups]

/-- No agent of a prompt occurs twice. -/
theorem nodup_routed (d : Dispatcher) (prompt : String) : (d.routed prompt).Nodup := by
  rw [routed]
  split
  · exact List.nodup_singleton _
  · exact Keyed.nodup_eraseDups _

theorem ne_empty_of_mem_routed {d : Dispatcher} (named : d.Named) {prompt name : String}
    (nameMem : name ∈ d.routed prompt) : name ≠ "" := by
  rw [routed] at nameMem
  split at nameMem
  · rw [List.mem_singleton.mp nameMem]
    exact named.defaultAgent
  · rw [List.mem_eraseDups] at nameMem
    rcases List.mem_map.mp nameMem with ⟨route, routeMem, rfl⟩
    exact named.routes route (List.mem_filter.mp routeMem).1

/-! ## Breaking a prompt up -/

theorem subtasksFor_eq {names : List String} (named : ∀ name ∈ names, name ≠ "")
    (prompt : String) :
    subtasksFor prompt names =
      .ok (names.map fun name => { agent := name, input := prompt }) := by
  induction names with
  | nil => rfl
  | cons name names ih =>
      have long : ¬ name.length < 1 := by
        intro short
        apply named name List.mem_cons_self
        exact String.length_eq_zero_iff.mp (by omega)
      have read : Subtask.ofFields [("agent_id", .str name), ("input", .str prompt)] =
          .ok { agent := name, input := prompt } := by
        simp [Subtask.ofFields, Field.form, Field.both, Field.required, Field.optional,
          Keyed.get?, Field.textFrom, Field.text, long, bind, Except.bind, pure, Except.pure]
      rw [subtasksFor, read]
      dsimp only
      rw [ih fun other otherMem => named other (List.mem_cons_of_mem _ otherMem)]
      rfl

/-- Breaking a prompt up gives its subtasks in every session, and leaves the
roster alone. -/
theorem breakUp_eq {d : Dispatcher} (named : d.Named) (prompt : String) (s : Session) :
    ∃ after, after.roster = s.roster ∧ d.breakUp prompt s = (after, .ok (d.subtasks prompt)) := by
  have allNamed : ∀ name ∈ d.routed prompt, name ≠ "" :=
    fun _ nameMem => ne_empty_of_mem_routed named nameMem
  have all := subtasksFor_eq allNamed prompt
  rw [← subtasks] at all
  rw [breakUp, distinct_eq_eraseDups]
  cases found : (Route.agentsFor d.routes prompt).eraseDups with
  | nil =>
      rw [routed, found] at all
      refine ⟨_, ?_, Prod.ext rfl all⟩
      rfl
  | cons name names =>
      rw [routed, found] at all
      exact ⟨s, rfl, Prod.ext rfl all⟩

/-- An accepted prompt gives its subtasks; a prompt that is not accepted is
turned away by the throttle. -/
theorem accept_cases {d : Dispatcher} (named : d.Named) (prompt : String) (s : Session) :
    ∃ after, after.roster = s.roster ∧
      (d.accept prompt s = (after, .ok (d.subtasks (Prompt.sanitize prompt))) ∨
        ∃ wait, d.accept prompt s = (after, .error (.rateLimited wait))) := by
  rw [accept]
  split
  · next wait _ =>
    refine ⟨_, ?_, .inr ⟨wait, rfl⟩⟩
    rfl
  · next throttle _ =>
    obtain ⟨after, same, broken⟩ := breakUp_eq named (Prompt.sanitize prompt)
      { s with
        throttle := throttle
        store := s.store.record (Prompt.sanitize prompt)
        journal := s.journal ++
          [⟨.info, .dispatcher, "Received prompt: " ++ Prompt.sanitize prompt⟩] }
    exact ⟨after, same, .inl broken⟩

end Dispatcher

end PromptDispatch
