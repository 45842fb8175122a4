import PromptDispatch.Proofs.Dispatch.Admission
import PromptDispatch.Proofs.Dispatch.Pairing

/-!
# Answers and entries

What a prompt is answered and what it leaves in the store are decided apart
from each other: a job saves what it says on its own, and the lines of the
answer are put together from what all jobs said.  They agree.  Among agents
that save nothing of their own, the jobs with a line are those that saved a
report, the report holds the text of the line, and the entries of every other
agent are as before.
-/

namespace PromptDispatch

namespace Dispatcher

open Store (Entries)

/-- Agents save nothing of their own and never end by a cancellation. -/
def savingNothing : Rules where
  saving _ := False
  halting := False

/-! ## Reports in a store -/

/-- Keeps reports in a store, one after another. -/
def keepAll (reports : List Report) (store : Store) : Store :=
  reports.foldl (fun store report => report.keep store) store

/-- The entries of those who report nothing stay as they are. -/
theorem getAll_keepAll_of_ne {reports : List Report} {owner : Option String}
    (foreign : ∀ report ∈ reports, owner ≠ some report.agent) (store : Store) :
    (keepAll reports store).getAll owner = store.getAll owner := by
  induction reports generalizing store with
  | nil => rfl
  | cons report reports ih =>
      rw [List.forall_mem_cons] at foreign
      rw [keepAll, List.foldl_cons, ← keepAll, ih foreign.2, report.getAll_keep_of_ne _ foreign.1]

/-- When nobody reports twice, whoever reports has the entries of that
report. -/
theorem getAll_keepAll_of_mem {reports : List Report}
    (distinct : (reports.map Report.agent).Nodup) {report : Report} (mem : report ∈ reports)
    (store : Store) :
    (keepAll reports store).getAll (some report.agent) =
      report.entriesAfter store.limits (store.getAll (some report.agent)) := by
  induction reports generalizing store with
  | nil => simp at mem
  | cons first reports ih =>
      rw [List.map_cons, List.nodup_cons] at distinct
      rw [keepAll, List.foldl_cons, ← keepAll]
      rcases List.mem_cons.mp mem with rfl | later
      · rw [getAll_keepAll_of_ne, report.getAll_keep_self]
        intro other otherMem same
        apply distinct.1
        rw [Option.some.inj same]
        exact List.mem_map_of_mem otherMem
      · have foreign : some report.agent ≠ some first.agent := by
          intro same
          apply distinct.1
          rw [← Option.some.inj same]
          exact List.mem_map_of_mem later
        rw [ih distinct.2 later, first.getAll_keep_of_ne _ foreign]
        rfl

theorem get?_lastResult_entriesAfter {limits : Store.Limits} (report : Report)
    {entries : Entries} (distinct : (Keyed.keys entries).Nodup)
    (within : entries.length ≤ limits.entries) :
    Keyed.get? (some lastResultKey) (report.entriesAfter limits entries) =
      some (.str report.text) := by
  have distinctThen : (Keyed.keys (Store.bounded limits
      (Keyed.put (some lastTaskKey) (.str report.input) entries))).Nodup :=
    Keyed.nodup_keys_of_sublist (Store.bounded_sublist _ _) (Keyed.nodup_keys_put _ _ distinct)
  have withinThen := Store.length_bounded_put_le within (some lastTaskKey) (.str report.input)
  rw [Report.entriesAfter, Store.get?_bounded_put distinctThen, if_pos rfl]
  exact Store.mem_keys_bounded_put withinThen _ _

section

variable {d : Dispatcher} {start : Session}

/-- In a chronicle of agents that save nothing, the entries change by the
reports alone. -/
theorem Chronicle.store {s : Session} {admitted : List String} {reports : List Report}
    (chronicle : Chronicle savingNothing d start s admitted reports) :
    s.store = { keepAll reports start.store with prompts := s.store.prompts } := by
  induction chronicle with
  | begin => rfl
  | @call s admitted reports prompt _ ih =>
      rcases (accepts_accept d prompt s).store with same | recorded
      · rw [same]
        exact ih
      · rw [recorded]
        exact congrArg (fun store : Store => { store with
          prompts := (s.store.record (Prompt.sanitize prompt)).prompts }) ih
  | act _ acts ih =>
      rcases acts.store with same | ⟨name, key, value, never, -⟩
      · rw [same]
        exact ih
      · exact never.elim
  | @report s admitted reports report _ _ ih =>
      rw [keepAll, List.foldl_append, ← keepAll]
      exact congrArg report.keep ih
  | wait span _ ih => exact ih

/-! ## Notes of the store -/

/-- The note that an agent's last result was saved. -/
def savedNote (name : String) : Journal.Line :=
  Store.debugLine ("Saved context for " ++ name ++ "." ++ lastResultKey)

/-- Between two sessions the store noted the saving of results of exactly the
given agents. -/
def NotesSaves (s after : Session) (who : String → Prop) : Prop :=
  ∃ added, after.journal = s.journal ++ added ∧ ∀ name, savedNote name ∈ added ↔ who name

theorem savedNote_not_mem_writeNotes (name : String) (store : Store)
    (agent key : Option String) : savedNote name ∉ store.writeNotes agent key := by
  rw [Store.writeNotes]
  split
  · next oldest _ =>
    intro mem
    have texts := congrArg (fun line => line.text.toList) (List.mem_singleton.mp mem)
    simp [savedNote, Store.debugLine, toString] at texts
  · simp

theorem savedNote_mem_saveNotes_iff (name : String) (store : Store) (agent key : String) :
    savedNote name ∈ store.saveNotes (some agent) (some key) ↔
      name ++ "." ++ lastResultKey = agent ++ "." ++ key := by
  have others := savedNote_not_mem_writeNotes name store (some agent) (some key)
  rw [Store.saveNotes, List.mem_append, List.mem_singleton, or_iff_right others]
  simp [savedNote, Store.debugLine, Store.shownName, toString, String.append_assoc]

theorem lastResult_ne_lastTask (name agent : String) :
    name ++ "." ++ lastResultKey ≠ agent ++ "." ++ lastTaskKey := by
  intro same
  have lastLetters := congrArg (fun text => text.toList.getLast?) same
  simp [lastResultKey, lastTaskKey] at lastLetters

/-- Saving a report is noted under the name of its agent, and under no other. -/
theorem Report.notesSaves (report : Report) (s : Session) :
    NotesSaves s (report.save s) fun name => report.agent = name := by
  refine ⟨_, List.append_assoc .., ?_⟩
  intro name
  rw [List.mem_append, savedNote_mem_saveNotes_iff, savedNote_mem_saveNotes_iff,
    or_iff_right (lastResult_ne_lastTask name report.agent), String.append_left_inj,
    String.append_left_inj, eq_comm]

/-- Lines that are added to a journal, none of them by the store. -/
def NotedElsewhere (s after : Session) : Prop :=
  ∃ lines, after.journal = s.journal ++ lines ∧
    ∀ line ∈ lines, line.part ≠ Journal.Part.store

theorem notedElsewhere_of_same {s after : Session} (same : after.journal = s.journal) :
    NotedElsewhere s after :=
  ⟨[], by rw [same, List.append_nil], by simp⟩

theorem notedElsewhere_of_acts {s after : Session}
    (acts : Session.Acts savingNothing s after) : NotedElsewhere s after := by
  cases acts with
  | nothing => exact notedElsewhere_of_same rfl
  | reports level part text outside => exact ⟨[⟨level, part, text⟩], rfl, by simpa using outside⟩
  | emits event => exact notedElsewhere_of_same rfl
  | counts name => exact notedElsewhere_of_same rfl
  | saves name key value never => exact never.elim
  | unregisters name =>
      rw [Session.unregister]
      split
      · exact ⟨[⟨.info, .roster, _⟩], rfl, by simp⟩
      · exact notedElsewhere_of_same rfl

theorem Accepts.notedElsewhere {prompt : String} {s after : Session} {arrival : Arrival}
    (accepts : Accepts prompt s after arrival) : NotedElsewhere s after := by
  cases accepts with
  | turnedAway wait waits => exact ⟨[⟨.warning, .dispatcher, _⟩], rfl, by simp⟩
  | letIn lines arrival passes outside unthrottled => exact ⟨lines, rfl, outside⟩

theorem NotedElsewhere.notesSaves {start s after : Session} {who : String → Prop}
    (elsewhere : NotedElsewhere s after) (before : NotesSaves start s who) :
    NotesSaves start after who := by
  rcases before with ⟨added, grown, noted⟩
  rcases elsewhere with ⟨lines, more, outside⟩
  refine ⟨added ++ lines, by rw [more, grown, List.append_assoc], ?_⟩
  intro name
  rw [List.mem_append, or_iff_left, noted]
  exact fun mem => outside _ mem rfl

/-- In a chronicle of agents that save nothing, the store notes the saved
results of exactly those that reported. -/
theorem Chronicle.notesSaves {s : Session} {admitted : List String} {reports : List Report}
    (chronicle : Chronicle savingNothing d start s admitted reports) :
    NotesSaves start s fun name => ∃ report ∈ reports, report.agent = name := by
  induction chronicle with
  | begin => exact ⟨[], by simp, by simp⟩
  | @call s admitted reports prompt _ ih =>
      exact (accepts_accept d prompt s).notedElsewhere.notesSaves ih
  | act _ acts ih => exact (notedElsewhere_of_acts acts).notesSaves ih
  | @report s admitted reports report _ _ ih =>
      rcases ih with ⟨added, grown, noted⟩
      obtain ⟨lines, more, notedNow⟩ := report.notesSaves s
      refine ⟨added ++ lines, by rw [more, grown, List.append_assoc], ?_⟩
      intro name
      simp [noted, notedNow, or_and_right, exists_or]
  | wait span _ ih => exact ih

/-! ## What agents said -/

/-- The agents that said something, each with its text. -/
def saidBy (names : List String) (texts : List (Option String)) : List (String × String) :=
  (names.zip texts).filterMap fun (name, text) => (text.filter (· ≠ "")).map (name, ·)

theorem saidBy_cons (name : String) (names : List String) (text : Option String)
    (texts : List (Option String)) :
    saidBy (name :: names) (text :: texts) =
      ((text.filter (· ≠ "")).map (name, ·)).toList ++ saidBy names texts := by
  rw [saidBy, List.zip_cons_cons, List.filterMap_cons, saidBy]
  dsimp only
  split
  · next silent => rw [silent, Option.toList_none, List.nil_append]
  · next said => rw [said, Option.toList_some, List.singleton_append]

theorem fst_saidBy_sublist (names : List String) (texts : List (Option String)) :
    ((saidBy names texts).map Prod.fst).Sublist names := by
  induction names generalizing texts with
  | nil => simp [saidBy]
  | cons name names ih =>
      cases texts with
      | nil => simp [saidBy]
      | cons text texts =>
          rw [saidBy_cons, List.map_append, ← List.singleton_append]
          refine List.Sublist.append ?_ (ih texts)
          cases text.filter (· ≠ "") <;> simp

theorem text_ne_of_mem_saidBy {names : List String} {texts : List (Option String)}
    {name text : String} (mem : (name, text) ∈ saidBy names texts) : text ≠ "" := by
  rcases List.mem_filterMap.mp mem with ⟨⟨other, told⟩, -, heard⟩
  rcases Option.map_eq_some_iff.mp heard with ⟨said, isSaid, same⟩
  obtain ⟨rfl, rfl⟩ := Prod.mk.inj same
  simpa using (Option.filter_eq_some_iff.mp isSaid).2

/-- The lines of an answer are those of the agents that said something. -/
theorem lines_eq_saidBy (prompt : String) (names : List String) (texts : List (Option String)) :
    lines (names.map fun name => { agent := name, input := prompt }) texts =
      (saidBy names texts).map fun (name, text) => name ++ ": " ++ text := by
  rw [lines_eq, saidBy, List.map_filterMap, List.map_map]
  simp [line?, Function.comp_def]

/-- The reports of jobs that have ended are those of the agents that said
something. -/
theorem reports_eq_saidBy {prompt : String} {names : List String}
    {texts : List (Option String)} {jobs : List Job}
    (tasks : jobs.map Job.task = names.map fun name => { agent := name, input := prompt })
    (places : jobs.map Job.place = texts.map .finished) :
    (jobs.flatMap fun job => job.report?.toList) =
      (saidBy names texts).map fun (name, text) => ⟨name, prompt, text⟩ := by
  induction jobs generalizing names texts with
  | nil =>
      obtain rfl : names = [] := by simpa using tasks.symm
      rfl
  | cons job jobs ih =>
      rcases job with ⟨task, place⟩
      rcases List.map_eq_cons_iff.mp tasks.symm with ⟨name, names, rfl, rfl, laterTasks⟩
      rcases List.map_eq_cons_iff.mp places.symm with ⟨text, texts, rfl, rfl, laterPlaces⟩
      rw [List.flatMap_cons, ih laterTasks.symm laterPlaces.symm, saidBy_cons, List.map_append]
      congr 1
      cases text with
      | none => rfl
      | some text =>
          by_cases silent : text = ""
          · simp [Job.report?, silent]
          · simp [Job.report?, Option.filter, silent]

end

/-! ## Prompts one after another -/

/-- The sessions that come about when prompts are processed one after
another. -/
inductive Served (d : Dispatcher) (start : Session) : Session → Prop where
  | begin : Served d start start
  | handle {s : Session} (prompt : String) (before : Served d start s) :
      Served d start (d.handle prompt s).1
  | receive {s : Session} (prompt : String) (before : Served d start s) :
      Served d start (d.receive prompt s).1
  | wait {s : Session} (span : Binary64) (before : Served d start s) :
      Served d start (s.advance span)

variable {d : Dispatcher} {start s : Session}

theorem Served.unfolds (served : Served d start s) :
    ∃ p, Unfolds d start p ∧ p.session = s := by
  induction served with
  | begin => exact ⟨_, .begin, rfl⟩
  | handle prompt _ ih =>
      rcases ih with ⟨p, unfolds, rfl⟩
      obtain ⟨later, unfoldsLater, same, -⟩ := unfolds.leads (.handle prompt)
      exact ⟨later, unfoldsLater, same⟩
  | receive prompt _ ih =>
      rcases ih with ⟨p, unfolds, rfl⟩
      obtain ⟨later, unfoldsLater, same, -⟩ := unfolds.leads (.receive prompt)
      exact ⟨later, unfoldsLater, same⟩
  | wait span _ ih =>
      rcases ih with ⟨p, unfolds, rfl⟩
      exact ⟨_, unfolds.wait span, rfl⟩

/-- A subtask among agents that never end by a cancellation ends with a
result. -/
theorem ensures_runSubtask {rules : Rules} (never : ¬ rules.halting) (task : Subtask) :
    (runSubtask task).Ensures (fun s => s.roster.All (Agent.ObeysInChains rules))
      fun _ => True := by
  rw [runSubtask_eq]
  have chain : (Session.dispatch task.input [] task.agent (.str task.input)).Ensures
      (fun s => s.roster.All (Agent.ObeysInChains rules)) fun _ => True :=
    (Session.heeds_dispatch _ _ _ _).ensures never
  apply chain.bind
  rintro ⟨visited, text⟩ -
  cases text with
  | none => trivial
  | some text =>
      rw [closing]
      split
      · trivial
      · exact Process.ensures_change (fun _ fits => fits) trivial

theorem accept_of_passes (named : d.Named) (prompt : String)
    (passes : s.throttle.wait? s.clock = none) :
    ∃ after, after.roster = s.roster ∧
      d.accept prompt s = (after, .ok (d.subtasks (Prompt.sanitize prompt))) := by
  rcases accept_cases named prompt s with ⟨after, sameRoster, accepted | ⟨wait, rejected⟩⟩
  · exact ⟨after, sameRoster, accepted⟩
  · have accepts := accepts_accept d prompt s
    rw [rejected] at accepts
    cases accepts with
    | turnedAway wait waits => simp [passes] at waits
    | letIn lines arrival _ outside unthrottled => exact absurd rfl (unthrottled wait)

/-- A prompt that is let in is answered, and the jobs with something said are
those that reported. -/
theorem handle_of_passes {rules : Rules} (never : ¬ rules.halting) (named : d.Named)
    (fits : s.roster.All (Agent.ObeysInChains rules)) (prompt : String)
    (passes : s.throttle.wait? s.clock = none) :
    ∃ after texts reports,
      d.handle prompt s =
        (after, .done (answer (d.subtasks (Prompt.sanitize prompt)) texts)) ∧
      Chronicle rules d s after [prompt] reports ∧
      reports.Perm ((saidBy (d.routed (Prompt.sanitize prompt)) texts).map
        fun (name, text) => ⟨name, Prompt.sanitize prompt, text⟩) := by
  obtain ⟨middle, sameRoster, accepted⟩ := accept_of_passes named prompt passes
  have middleFits : middle.roster.All (Agent.ObeysInChains rules) := by
    rw [sameRoster]
    exact fits
  have called := (Unfolds.begin : Unfolds d s _).call prompt
  rw [accepted] at called
  simp only [arrivedTasks, List.flatMap_cons, List.flatMap_nil, List.append_nil,
    List.nil_append, letIn, passes] at called
  have begun : Unfolds d s
      ⟨middle, [] ++ (d.subtasks (Prompt.sanitize prompt)).map .begin, [prompt], []⟩ := called
  rcases begun.run orderly_run with ⟨left, reports, tasks, places, unfolds⟩
  have ensure : List.Forall₂ (fun post p => Process.Ensures
      (fun s : Session => s.roster.All (Agent.ObeysInChains rules)) post p)
      ((d.subtasks (Prompt.sanitize prompt)).map fun _ _ => True)
      ((d.subtasks (Prompt.sanitize prompt)).map runSubtask) := by
    rw [List.forall₂_map_left_iff, List.forall₂_map_right_iff, List.forall₂_same]
    exact fun task _ => ensures_runSubtask never task
  obtain ⟨after, texts, ran, -, -⟩ := Batch.settled_run ensure middleFits
  rw [ran] at places unfolds
  refine ⟨after, texts, reports, ?_, (unfolds.chronicle fits).1, ?_⟩
  · rw [handle, handleWith, accepted]
    dsimp only
    rw [ran]
    rfl
  · have perm := unfolds.perm_reports
    simp only [List.nil_append] at perm
    rwa [reports_eq_saidBy tasks (places texts rfl)] at perm

/-- What a prompt did to the entries agrees with what its answer says. -/
structure Agrees (d : Dispatcher) (prompt : String) (before after : Session)
    (said : List (String × String)) : Prop where
  /-- the agents with a line are some of those of the prompt, in their order -/
  routed : (said.map Prod.fst).Sublist (d.routed (Prompt.sanitize prompt))
  /-- no agent has two lines -/
  distinct : (said.map Prod.fst).Nodup
  spoken : ∀ name text, (name, text) ∈ said → text ≠ ""
  /-- the last result of an agent with a line is the text of the line -/
  result : ∀ name text, (name, text) ∈ said →
    after.store.get? (some name) (some lastResultKey) = some (.str text)
  entries : ∀ name text, (name, text) ∈ said →
    after.store.getAll (some name) =
      Report.entriesAfter before.store.limits ⟨name, Prompt.sanitize prompt, text⟩
        (before.store.getAll (some name))
  /-- the entries of agents without a line are as before -/
  others : ∀ owner, (∀ name text, (name, text) ∈ said → owner ≠ some name) →
    after.store.getAll owner = before.store.getAll owner
  /-- what was written is one report for each line, in some order -/
  written : ∃ reports : List Report,
    reports.Perm (said.map fun (name, text) => ⟨name, Prompt.sanitize prompt, text⟩) ∧
      after.store.agents = (keepAll reports before.store).agents
  /-- the store noted writes of the agents with a line, and of no others -/
  noted : NotesSaves before after fun name => ∃ text, (name, text) ∈ said

/-- The entries after a chronicle of agents that save nothing, told by what
agents said. -/
theorem Chronicle.agrees (named : d.Named) {prompt : String} {after : Session}
    (wellFormed : s.store.WellFormed) {texts : List (Option String)} {reports : List Report}
    (chronicle : Chronicle savingNothing d s after [prompt] reports)
    (perm : reports.Perm ((saidBy (d.routed (Prompt.sanitize prompt)) texts).map
      fun (name, text) => ⟨name, Prompt.sanitize prompt, text⟩)) :
    d.Agrees prompt s after (saidBy (d.routed (Prompt.sanitize prompt)) texts) := by
  have sublist := fst_saidBy_sublist (d.routed (Prompt.sanitize prompt)) texts
  have distinct := (d.nodup_routed (Prompt.sanitize prompt)).sublist sublist
  generalize isSaid : saidBy (d.routed (Prompt.sanitize prompt)) texts = said at *
  have agents : (reports.map Report.agent).Perm (said.map Prod.fst) := by
    have mapped := perm.map Report.agent
    rwa [List.map_map] at mapped
  have reportDistinct : (reports.map Report.agent).Nodup := agents.nodup_iff.mpr distinct
  have getAll (owner : Option String) :
      after.store.getAll owner = (keepAll reports s.store).getAll owner := by
    rw [chronicle.store]
    rfl
  have mem {name text : String} (nameMem : (name, text) ∈ said) :
      (⟨name, Prompt.sanitize prompt, text⟩ : Report) ∈ reports :=
    perm.mem_iff.mpr (List.mem_map.mpr ⟨_, nameMem, rfl⟩)
  have entries : ∀ name text, (name, text) ∈ said →
      after.store.getAll (some name) =
        Report.entriesAfter s.store.limits ⟨name, Prompt.sanitize prompt, text⟩
          (s.store.getAll (some name)) := by
    intro name text nameMem
    rw [getAll]
    exact getAll_keepAll_of_mem reportDistinct (mem nameMem) s.store
  refine ⟨sublist, distinct, ?_, ?_, entries, ?_, ⟨reports, perm, ?_⟩, ?_⟩
  · intro name text nameMem
    rw [← isSaid] at nameMem
    exact text_ne_of_mem_saidBy nameMem
  · intro name text nameMem
    have nameNe : name ≠ "" :=
      ne_empty_of_mem_routed named (sublist.subset (List.mem_map.mpr ⟨_, nameMem, rfl⟩))
    rw [Store.get?, if_pos (by simpa [Store.isName] using nameNe), entries name text nameMem]
    exact get?_lastResult_entriesAfter _ (wellFormed.nodup_keys_getAll _)
      (wellFormed.length_getAll_le _)
  · intro owner foreign
    rw [getAll, getAll_keepAll_of_ne]
    intro report reportMem
    rcases List.mem_map.mp (perm.mem_iff.mp reportMem) with ⟨⟨name, text⟩, nameMem, rfl⟩
    exact foreign name text nameMem
  · rw [chronicle.store]
  · have same : (fun name => ∃ report ∈ reports, report.agent = name) =
        fun name => ∃ text, (name, text) ∈ said := by
      funext name
      have reported := agents.mem_iff (a := name)
      simpa using reported
    rw [← same]
    exact chronicle.notesSaves

/-- Answers and entries agree.  Whatever prompts were processed before, a prompt
that is let in is answered by one line for each agent that said something; these
agents are exactly those under whose name something was written, what was
written holds the text of the line as their last result, and the entries of
every other agent are as before. -/
theorem answer_agrees (named : d.Named) (wellFormed : start.store.WellFormed)
    (fits : start.roster.All (Agent.ObeysInChains savingNothing)) (served : Served d start s)
    (prompt : String) (passes : s.throttle.wait? s.clock = none) :
    ∃ after said,
      d.handle prompt s = (after, .done (String.intercalate "\n"
        (said.map fun (name, text) => name ++ ": " ++ text))) ∧
      d.receive prompt s = d.handle prompt s ∧
      d.Agrees prompt s after said := by
  rcases served.unfolds with ⟨p, unfolds, rfl⟩
  obtain ⟨chronicle, nowFits, -⟩ := unfolds.chronicle fits
  obtain ⟨after, texts, reports, handled, told, perm⟩ :=
    handle_of_passes (by simp [savingNothing]) named nowFits prompt passes
  refine ⟨after, _, ?_, ?_, told.agrees named (chronicle.wellFormed wellFormed) perm⟩
  · rw [handled, answer, subtasks, lines_eq_saidBy]
  · rw [receive, handled]
    rfl

/-- An agent that passes on what another one says. -/
def relaying (name other : String) : Agent where
  name := name
  capabilities := []
  kind := none
  run := fun input _ => .pause none fun _ => .delegate other (.str input) fun text _ =>
    .done (.text (name ++ " heard <" ++ text ++ ">"))
  afterSubtask := none
  start := none
  stop := none

/-- An agent that says nothing. -/
def mute (name : String) : Agent where
  name := name
  capabilities := []
  kind := none
  run := fun _ _ => .done (.text "")
  afterSubtask := none
  start := none
  stop := none

/-- A session in which one agent asks another that says nothing. -/
def relaySession : Session :=
  { pairSession with roster := ⟨[relaying "writer" "coder", mute "coder"]⟩ }

/-- The answer that a call ends with, if it is one. -/
def answered? : Finish String → Option String
  | .done answer => some answer
  | _ => none

/-- After a prompt without an answer, one to both agents gets the line of one of
them. -/
theorem answer_agrees_relaySession :
    forPair.Named ∧ relaySession.store.WellFormed ∧
      relaySession.roster.All (Agent.ObeysInChains savingNothing) ∧
      ∃ s after said, Served forPair relaySession s ∧
        s.throttle.wait? s.clock = none ∧
        forPair.handle "Fix the docs" s = (after, .done "writer: writer heard <>") ∧
        forPair.routed (Prompt.sanitize "Fix the docs") = ["writer", "coder"] ∧
        forPair.Agrees "Fix the docs" s after said := by
  have wellFormed : relaySession.store.WellFormed := Store.wellFormed_empty _
  have fits : relaySession.roster.All (Agent.ObeysInChains savingNothing) := by
    intro agent agentMem
    rcases List.mem_cons.mp agentMem with rfl | agentMem
    · exact fun _ _ _ _ _ _ => trivial
    · obtain rfl := List.mem_singleton.mp agentMem
      exact fun _ _ _ _ => trivial
  have served : Served forPair relaySession (forPair.receive "Hello" relaySession).1 :=
    Served.begin.receive "Hello"
  have passes : (forPair.receive "Hello" relaySession).1.throttle.wait?
      (forPair.receive "Hello" relaySession).1.clock = none := by decide +kernel
  have answered : answered? (forPair.handle "Fix the docs"
      (forPair.receive "Hello" relaySession).1).2 = some "writer: writer heard <>" := by
    decide +kernel
  obtain ⟨after, said, handled, -, agrees⟩ :=
    answer_agrees named_forPair wellFormed fits served "Fix the docs" passes
  rw [handled] at answered
  refine ⟨named_forPair, wellFormed, fits, _, after, said, served, passes, ?_,
    by decide +kernel, agrees⟩
  rw [handled]
  exact Prod.ext rfl (congrArg Finish.done (Option.some.inj answered))

end Dispatcher

end PromptDispatch
