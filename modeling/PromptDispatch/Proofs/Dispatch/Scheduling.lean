import PromptDispatch.Proofs.Dispatch.Routing
import PromptDispatch.Proofs.Dispatch.Steady

/-!
# Scheduling

The answer to a prompt is defined here a second time, by letting its agents
work one after another, each to its end.  Among steady agents it is the answer
that every prompt gets, when prompts arrive together and their subtasks take
turns, and also when prompts arrive at any time and the tasks of all of them
are advanced in any order, while the session changes in between in any way
that leaves the roster alone.
-/

namespace PromptDispatch

namespace Dispatcher

/-- The line of an agent that said something. -/
def line? (agent : String) (text : Option String) : Option String :=
  (text.filter (· ≠ "")).map fun text => agent ++ ": " ++ text

/-- The answer to a prompt whose agents work one after another; it is missing
when one of them is cancelled. -/
def answerInOrder (d : Dispatcher) (prompt : String) (s : Session) : Option String :=
  (Batch.inOrder ((d.subtasks prompt).map runSubtask) s).2.map fun texts =>
    String.intercalate "\n"
      (((d.routed prompt).zip texts).filterMap fun (agent, text) => line? agent text)

theorem lines_eq (tasks : List Subtask) (texts : List (Option String)) :
    lines tasks texts =
      ((tasks.map (·.agent)).zip texts).filterMap fun (agent, text) => line? agent text := by
  induction tasks generalizing texts with
  | nil => rfl
  | cons task tasks ih =>
      cases texts with
      | nil => rfl
      | cons text texts =>
          cases text with
          | none => simp [lines, line?, ih]
          | some text =>
              by_cases silent : text = ""
              · simp [lines, line?, silent, ih]
              · simp [lines, line?, silent, ih]

/-! ## The text of a subtask -/

/-- A subtask that is run alone in a session ends with a text. -/
def Tells (s : Session) (task : Subtask) (text : Option String) : Prop :=
  ((runSubtask task).run s).2 = some text

theorem tells_rightUnique (s : Session) : Relator.RightUnique (Tells s) :=
  fun _ _ _ told toldAgain => Option.some.inj (told.symm.trans toldAgain)

section

variable {s : Session} (steady : s.roster.Steady)
include steady

/-- The subtasks of a prompt ensure the texts that they tell when they run
alone. -/
theorem forall₂_ensures_runSubtask (tasks : List Subtask) :
    List.Forall₂ (fun post p => Process.Ensures (Session.Holding s.roster) post p)
      (tasks.map (Tells s)) (tasks.map runSubtask) := by
  rw [List.forall₂_map_left_iff, List.forall₂_map_right_iff, List.forall₂_same]
  intro task _
  exact (determined_runSubtask steady task).ensures_run rfl

/-- Whichever way the texts of a prompt's subtasks were come by, the answer made
of them is the one of agents that work one after another. -/
theorem answerInOrder_eq_some {d : Dispatcher} {prompt : String} {texts : List (Option String)}
    (told : List.Forall₂ (Tells s) (d.subtasks prompt) texts) {other : Session}
    (sameRoster : other.roster = s.roster) :
    d.answerInOrder prompt other = some (answer (d.subtasks prompt) texts) := by
  obtain ⟨after, inTurn, ran, meet, -⟩ := Batch.settled_inOrder
    (forall₂_ensures_runSubtask steady (d.subtasks prompt)) (s := other) sameRoster
  rw [Batch.Meet, List.forall₂_map_left_iff] at meet
  have sameTexts : inTurn = texts :=
    List.right_unique_forall₂' (tells_rightUnique s) meet told
  have sameAgents : (d.subtasks prompt).map (·.agent) = d.routed prompt := by
    rw [subtasks, List.map_map]
    exact List.map_id _
  rw [answerInOrder, ran, answer, lines_eq, sameTexts, sameAgents]
  rfl

/-! ## Prompts that arrive together -/

omit steady in
/-- Prompts that arrive together are accepted with their subtasks or turned
away. -/
theorem acceptAll_cases {d : Dispatcher} (named : d.Named) (prompts : List String)
    (s : Session) :
    ∃ after arrivals, d.acceptAll prompts s = (after, arrivals) ∧ after.roster = s.roster ∧
      List.Forall₂ (fun prompt arrival =>
        arrival = .ok (d.subtasks (Prompt.sanitize prompt)) ∨
          ∃ wait, arrival = .error (.rateLimited wait)) prompts arrivals := by
  induction prompts generalizing s with
  | nil => exact ⟨s, [], rfl, rfl, .nil⟩
  | cons prompt prompts ih =>
      rcases accept_cases named prompt s with ⟨middle, middleRoster, cases⟩
      rcases ih middle with ⟨after, arrivals, restEq, afterRoster, rest⟩
      rw [acceptAll]
      rcases cases with accepted | ⟨wait, rejected⟩
      · rw [accepted]
        dsimp only
        rw [restEq]
        exact ⟨after, _, rfl, afterRoster.trans middleRoster, .cons (.inl rfl) rest⟩
      · rw [rejected]
        dsimp only
        rw [restEq]
        exact ⟨after, _, rfl, afterRoster.trans middleRoster, .cons (.inr ⟨wait, rfl⟩) rest⟩

/-- The right reply to a prompt, given what became of it. -/
def Replied (d : Dispatcher) (roster : Roster) (prompt : String) (arrival : Arrival)
    (reply : String) : Prop :=
  match arrival with
  | .ok _ => ∀ s : Session, s.roster = roster →
      d.answerInOrder (Prompt.sanitize prompt) s = some reply
  | .error _ => reply = turnedAway

/-- The texts of all subtasks together are dealt out to the prompts that they
belong to. -/
theorem answers_replied {d : Dispatcher} {prompts : List String} {arrivals : List Arrival}
    (cases : List.Forall₂ (fun prompt arrival =>
      arrival = .ok (d.subtasks (Prompt.sanitize prompt)) ∨
        ∃ wait, arrival = .error (.rateLimited wait)) prompts arrivals)
    {texts : List (Option String)}
    (told : List.Forall₂ (Tells s) (arrivedTasks arrivals) texts) :
    ∃ replies, answers arrivals texts = .ok replies ∧
      List.Forall₂ (fun entry reply => Replied d s.roster entry.1 entry.2 reply)
        (prompts.zip arrivals) replies := by
  induction cases generalizing texts with
  | nil => exact ⟨[], rfl, .nil⟩
  | @cons prompt arrival prompts arrivals head _ ih =>
      rcases head with rfl | ⟨wait, rfl⟩
      · have own := List.forall₂_take (d.subtasks (Prompt.sanitize prompt)).length told
        have others := List.forall₂_drop (d.subtasks (Prompt.sanitize prompt)).length told
        simp only [arrivedTasks, List.flatMap_cons, List.take_left', List.drop_left'] at own others
        rcases ih others with ⟨replies, rest, replied⟩
        refine ⟨_ :: replies, by rw [answers, rest]; rfl, .cons ?_ replied⟩
        intro other sameRoster
        exact answerInOrder_eq_some steady own sameRoster
      · rcases ih told with ⟨replies, rest, replied⟩
        exact ⟨turnedAway :: replies, by rw [answers, rest]; rfl, .cons rfl replied⟩

end

/-! ## Prompts that arrive at any time -/

/-- An accepted prompt and the tasks of its agents. -/
structure Group where
  prompt : String
  tasks : List (Task Session (Option String))

/-- The sessions and groups that come about from a session when prompts are
accepted at any time, any task is given its next turn, and in between anything
is done to the session that leaves the roster alone. -/
inductive Reaches (d : Dispatcher) (start : Session) : Session → List Group → Prop where
  | idle : Reaches d start start []
  | accept {s after : Session} {groups : List Group} {prompt : String} {tasks : List Subtask}
      (before : Reaches d start s groups) (accepted : d.accept prompt s = (after, .ok tasks)) :
      Reaches d start after (groups ++ [⟨prompt, (tasks.map runSubtask).map .ofProcess⟩])
  | turn {s : Session} {earlier later : List Group} {prompt : String}
      {done rest : List (Task Session (Option String))} {task : Task Session (Option String)}
      (before : Reaches d start s (earlier ++ ⟨prompt, done ++ task :: rest⟩ :: later)) :
      Reaches d start (task.step s).1
        (earlier ++ ⟨prompt, done ++ (task.step s).2 :: rest⟩ :: later)
  | meanwhile {s other : Session} {groups : List Group} (before : Reaches d start s groups)
      (sameRoster : other.roster = s.roster) : Reaches d start other groups

/-- The tasks of a group have come to, or ensure, the texts that the prompt's
subtasks tell when they run alone. -/
def Group.OnCourse (d : Dispatcher) (start : Session) (group : Group) : Prop :=
  Batch.Ensure (Session.Holding start.roster)
    ((d.subtasks (Prompt.sanitize group.prompt)).map (Tells start)) group.tasks

/-- Whatever happens, the roster stays and every group stays on course. -/
theorem Reaches.onCourse {d : Dispatcher} {start : Session} (named : d.Named)
    (steady : start.roster.Steady) {s : Session} {groups : List Group}
    (reaches : Reaches d start s groups) :
    s.roster = start.roster ∧ ∀ group ∈ groups, group.OnCourse d start := by
  induction reaches with
  | idle => exact ⟨rfl, by simp⟩
  | @accept s after groups prompt tasks _ accepted ih =>
      rcases ih with ⟨sameRoster, onCourse⟩
      rcases accept_cases named prompt s with ⟨result, resultRoster, cases⟩
      rw [accepted] at cases
      have settled : after = result ∧ tasks = d.subtasks (Prompt.sanitize prompt) := by
        rcases cases with same | ⟨wait, different⟩
        · simpa using same
        · simp at different
      rcases settled with ⟨rfl, rfl⟩
      constructor
      · exact resultRoster.trans sameRoster
      · rw [List.forall_mem_append, List.forall_mem_singleton]
        exact ⟨onCourse, Batch.ensure_ofProcess (forall₂_ensures_runSubtask steady _)⟩
  | @turn s earlier later prompt done rest task _ ih =>
      rcases ih with ⟨sameRoster, onCourse⟩
      obtain ⟨afterRoster, advanced⟩ := Batch.Ensure.turnOne
        (onCourse ⟨prompt, done ++ task :: rest⟩ (by simp)) sameRoster
      rw [List.forall_mem_append, List.forall_mem_cons] at onCourse ⊢
      exact ⟨afterRoster, onCourse.1, advanced, onCourse.2.2⟩
  | meanwhile _ sameRoster ih => exact ⟨sameRoster.trans ih.1, ih.2⟩

/-! ## The answers -/

/-- An agent that pauses, asks another agent, and keeps and passes on what it
heard. -/
def asking (name other : String) : Agent where
  name := name
  capabilities := []
  kind := none
  run := fun input _ => .pause none fun _ => .delegate other (.str input) fun text _ =>
    .save "heard" (.str text) (.done (.text (name ++ " heard <" ++ text ++ ">")))
  afterSubtask := none
  start := none
  stop := none

theorem steady_asking (name other : String) : (asking name other).Steady where
  ignoresEntries := fun _ _ _ _ _ => rfl
  stays := fun _ _ _ _ _ _ => trivial

/-- Two agents that ask each other. -/
def pair : Roster := ⟨[asking "coder" "writer", asking "writer" "coder"]⟩

/-- Routes to the two of them. -/
def pairTable : List (Json × Json × Json) :=
  [(.str "writer", .str "docs", .null), (.str "coder", .str "fix|bug", .null),
    (.str "writer", .str "text", .null)]

/-- A dispatcher for the two of them. -/
def forPair : Dispatcher where
  routes := (Route.makeAll pairTable).toOption.getD []
  defaultAgent := "coder"

/-- A session with the two of them. -/
def pairSession : Session where
  clock := .zero
  throttle := .fresh .zero
  store := .empty ⟨3, 3, Nat.le_add_left 1 2, Nat.le_add_left 1 2⟩
  archive := .none
  disk := .empty
  roster := pair
  runs := []
  events := []
  journal := []

theorem named_forPair : forPair.Named where
  routes := by
    have made : (Route.makeAll pairTable).isOk = true := by decide +kernel
    rw [forPair]
    cases result : Route.makeAll pairTable with
    | error fault => simp [result, Except.isOk, Except.toBool] at made
    | ok routes => exact Route.agent_ne_of_makeAll result
  defaultAgent := by decide

theorem steady_pair : pair.Steady := by
  intro agent agentMem
  rcases List.mem_cons.mp agentMem with rfl | agentMem
  · exact steady_asking "coder" "writer"
  · obtain rfl := List.mem_singleton.mp agentMem
    exact steady_asking "writer" "coder"

end Dispatcher

end PromptDispatch
