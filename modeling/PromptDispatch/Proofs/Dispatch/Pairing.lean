import PromptDispatch.Proofs.Dispatch.Progress
import PromptDispatch.Proofs.Dispatch.Scheduling
import PromptDispatch.Proofs.Store.Eviction

/-!
# Paired tasks and results

The last task and the last result of an agent belong together.  At every point
where control passes between jobs, what an agent's entries hold under either
key is of the latest report of that agent, whatever prompts go on at the same
time, as long as agents save under other keys only.

Either half may have been dropped.  A half that is older than the latest report
is never left: saving a report overwrites both, and what an overwritten half
had been is gone even when the half itself is dropped by the other one.
-/

namespace PromptDispatch

namespace Dispatcher

open Store (Entries)

/-- The latest report of an agent. -/
def latestReport? (reports : List Report) (name : String) : Option Report :=
  (reports.filter fun report => report.agent = name).getLast?

theorem latestReport?_concat (reports : List Report) (report : Report) (name : String) :
    latestReport? (reports ++ [report]) name =
      if report.agent = name then some report else latestReport? reports name := by
  rw [latestReport?, List.filter_append]
  split
  · next same => simp [same]
  · next different => simp [different, latestReport?]

/-- Agents save neither a last task nor a last result of their own. -/
def keepingOff : Rules where
  saving key := key ≠ lastTaskKey ∧ key ≠ lastResultKey
  halting := True

/-- Whatever entries hold as the last task and the last result is of a report. -/
structure Echoes (report? : Option Report) (entries : Entries) : Prop where
  task : ∀ value, Keyed.get? (some lastTaskKey) entries = some value →
    ∃ report, report? = some report ∧ value = .str report.input
  result : ∀ value, Keyed.get? (some lastResultKey) entries = some value →
    ∃ report, report? = some report ∧ value = .str report.text

theorem echoes_nil : Echoes none [] where
  task := by simp
  result := by simp

/-- What is found after a write was written or was there before. -/
theorem cases_of_get?_bounded_put {limits : Store.Limits} {entries : Entries}
    (distinct : (Keyed.keys entries).Nodup) {key other : Option String} {value found : Json}
    (isFound : Keyed.get? other (Store.bounded limits (Keyed.put key value entries)) =
      some found) :
    (other = key ∧ found = value) ∨ (other ≠ key ∧ Keyed.get? other entries = some found) := by
  have stays : other ∈ Keyed.keys (Store.bounded limits (Keyed.put key value entries)) := by
    rw [← Keyed.isSome_get?_iff, isFound]
    rfl
  rw [Store.get?_bounded_put distinct stays] at isFound
  split at isFound
  · next same => exact .inl ⟨same, (Option.some.inj isFound).symm⟩
  · next different => exact .inr ⟨different, isFound⟩

/-- An entry under another key may drop one half of the pair, and no more. -/
theorem Echoes.put {limits : Store.Limits} {report? : Option Report} {entries : Entries}
    (echoes : Echoes report? entries) (distinct : (Keyed.keys entries).Nodup) {key : String}
    (other : keepingOff.saving key) (value : Json) :
    Echoes report? (Store.bounded limits (Keyed.put (some key) value entries)) where
  task := by
    intro found isFound
    rcases cases_of_get?_bounded_put distinct isFound with ⟨same, -⟩ | ⟨-, before⟩
    · exact absurd (Option.some.inj same).symm other.1
    · exact echoes.task found before
  result := by
    intro found isFound
    rcases cases_of_get?_bounded_put distinct isFound with ⟨same, -⟩ | ⟨-, before⟩
    · exact absurd (Option.some.inj same).symm other.2
    · exact echoes.result found before

namespace Report

/-- Keeps a report in a store. -/
def keep (report : Report) (store : Store) : Store :=
  (store.write (some report.agent) (some lastTaskKey) (.str report.input)).write
    (some report.agent) (some lastResultKey) (.str report.text)

theorem store_save (report : Report) (s : Session) :
    (report.save s).store = report.keep s.store := rfl

/-- The entries of an agent after one of its reports is kept. -/
def entriesAfter (limits : Store.Limits) (report : Report) (entries : Entries) : Entries :=
  Store.bounded limits (Keyed.put (some lastResultKey) (.str report.text)
    (Store.bounded limits (Keyed.put (some lastTaskKey) (.str report.input) entries)))

theorem getAll_keep_self (report : Report) (store : Store) :
    (report.keep store).getAll (some report.agent) =
      report.entriesAfter store.limits (store.getAll (some report.agent)) := by
  rw [keep, Store.getAll_write_self, Store.getAll_write_self]
  rfl

theorem getAll_keep_of_ne (report : Report) (store : Store) {owner : Option String}
    (ne : owner ≠ some report.agent) :
    (report.keep store).getAll owner = store.getAll owner := by
  rw [keep, Store.getAll_write_of_ne _ ne, Store.getAll_write_of_ne _ ne]

theorem wellFormed_keep (report : Report) {store : Store} (wellFormed : store.WellFormed) :
    (report.keep store).WellFormed :=
  Store.wellFormed_write (Store.wellFormed_write wellFormed _ _ _) _ _ _

end Report

/-- A report that is saved is echoed, whatever was echoed before. -/
theorem echoes_entriesAfter {limits : Store.Limits} (report : Report) {entries : Entries}
    (distinct : (Keyed.keys entries).Nodup) :
    Echoes (some report) (report.entriesAfter limits entries) := by
  have distinctThen : (Keyed.keys (Store.bounded limits
      (Keyed.put (some lastTaskKey) (.str report.input) entries))).Nodup :=
    Keyed.nodup_keys_of_sublist (Store.bounded_sublist _ _) (Keyed.nodup_keys_put _ _ distinct)
  constructor
  · intro found isFound
    rcases cases_of_get?_bounded_put distinctThen isFound with ⟨same, -⟩ | ⟨-, before⟩
    · exact absurd (Option.some.inj same) (by decide)
    · rcases cases_of_get?_bounded_put distinct before with ⟨-, rfl⟩ | ⟨different, -⟩
      · exact ⟨report, rfl, rfl⟩
      · exact absurd rfl different
  · intro found isFound
    rcases cases_of_get?_bounded_put distinctThen isFound with ⟨-, rfl⟩ | ⟨different, -⟩
    · exact ⟨report, rfl, rfl⟩
    · exact absurd rfl different

/-- Recording a prompt changes no entries. -/
theorem Accepts.getAll {prompt : String} {s after : Session} {arrival : Arrival}
    (accepts : Accepts prompt s after arrival) (owner : Option String) :
    after.store.getAll owner = s.store.getAll owner := by
  rcases accepts.store with same | recorded
  · rw [same]
  · rw [recorded]
    rfl

theorem Accepts.wellFormed {prompt : String} {s after : Session} {arrival : Arrival}
    (accepts : Accepts prompt s after arrival) (wellFormed : s.store.WellFormed) :
    after.store.WellFormed := by
  rcases accepts.store with same | recorded
  · rw [same]
    exact wellFormed
  · rw [recorded]
    exact ⟨wellFormed.distinct, wellFormed.bounded⟩

section

variable {rules : Rules} {d : Dispatcher} {start s : Session} {admitted : List String}
variable {reports : List Report}

theorem Chronicle.wellFormed (wellFormed : start.store.WellFormed)
    (chronicle : Chronicle rules d start s admitted reports) : s.store.WellFormed := by
  induction chronicle with
  | begin => exact wellFormed
  | @call s admitted reports prompt _ ih => exact (accepts_accept d prompt s).wellFormed ih
  | act _ acts ih =>
      rcases acts.store with same | ⟨owner, key, value, -, written⟩
      · rw [same]
        exact ih
      · rw [written]
        exact Store.wellFormed_write ih _ _ _
  | report report _ _ ih => exact report.wellFormed_keep ih
  | wait span _ ih => exact ih

theorem Chronicle.text_ne (chronicle : Chronicle rules d start s admitted reports) :
    ∀ report ∈ reports, report.text ≠ "" := by
  induction chronicle with
  | begin => simp
  | call prompt _ ih => exact ih
  | act _ _ ih => exact ih
  | report report said _ ih =>
      intro other otherMem
      rcases List.mem_append.mp otherMem with old | new
      · exact ih other old
      · rw [List.mem_singleton.mp new]
        exact said
  | wait span _ ih => exact ih

end

/-- Throughout a chronicle the entries of every agent echo its latest report. -/
theorem Chronicle.echoes {d : Dispatcher} {start s : Session} {admitted : List String}
    {reports : List Report} (empty : start.store.agents = [])
    (chronicle : Chronicle keepingOff d start s admitted reports) (name : String) :
    Echoes (latestReport? reports name) (s.store.getAll (some name)) := by
  have wellFormed : start.store.WellFormed :=
    ⟨⟨by simp [empty, Keyed.keys], by simp [empty]⟩, by simp [empty]⟩
  induction chronicle with
  | begin =>
      have none_held : start.store.getAll (some name) = [] := by
        rw [Store.getAll, empty]
        rfl
      rw [none_held]
      exact echoes_nil
  | @call s admitted reports prompt _ ih =>
      rw [(accepts_accept d prompt s).getAll]
      exact ih
  | @act s after admitted reports before acts ih =>
      rcases acts.store with same | ⟨owner, key, value, allowed, written⟩
      · rw [same]
        exact ih
      · rw [written]
        by_cases own : name = owner
        · subst own
          rw [Store.getAll_write_self]
          exact ih.put ((before.wellFormed wellFormed).nodup_keys_getAll _) allowed value
        · rw [Store.getAll_write_of_ne]
          · exact ih
          · exact fun same => own (Option.some.inj same)
  | @report s admitted reports report said before ih =>
      rw [latestReport?_concat, report.store_save]
      split
      · next own =>
        rw [← own, report.getAll_keep_self]
        exact echoes_entriesAfter report ((before.wellFormed wellFormed).nodup_keys_getAll _)
      · next foreign =>
        rw [report.getAll_keep_of_ne]
        · exact ih
        · exact fun same => foreign (Option.some.inj same).symm
  | wait span _ ih => exact ih

/-- The last task and the last result stay paired.  From an empty store, among
agents that keep off the two keys, at every point where control passes between
jobs: entries that hold both hold the task and the result of the latest report
of their agent, and the reports are those of the jobs that have ended with
something said.  Progress covers every way to process prompts, one after
another and together. -/
theorem entries_paired {d : Dispatcher} {start : Session} (empty : start.store.agents = [])
    (fits : start.roster.All (Agent.ObeysInChains keepingOff)) {p : Progress}
    (unfolds : Unfolds d start p) :
    (∀ name task result,
      Keyed.get? (some lastTaskKey) (p.session.store.getAll (some name)) = some task →
      Keyed.get? (some lastResultKey) (p.session.store.getAll (some name)) = some result →
      ∃ report, latestReport? p.reports name = some report ∧
        task = .str report.input ∧ result = .str report.text ∧ report.text ≠ "") ∧
    p.reports.Perm (p.jobs.flatMap fun job => job.report?.toList) ∧
    ∀ after, Processed d p.session after → Leads d start p after := by
  have chronicle := (unfolds.chronicle fits).1
  refine ⟨?_, unfolds.perm_reports, fun _ => unfolds.leads⟩
  intro name task result taskHeld resultHeld
  have echo := chronicle.echoes empty name
  rcases echo.task task taskHeld with ⟨report, latest, taskEq⟩
  rcases echo.result result resultHeld with ⟨again, latestAgain, resultEq⟩
  obtain rfl : report = again := Option.some.inj (latest.symm.trans latestAgain)
  refine ⟨report, latest, taskEq, resultEq, chronicle.text_ne report ?_⟩
  exact (List.mem_filter.mp (List.mem_of_getLast? latest)).1

theorem keepingOff_asking (name other : String) :
    (asking name other).ObeysInChains keepingOff :=
  fun _ _ _ _ _ _ => ⟨⟨by decide, by decide⟩, trivial⟩

/-- Two agents that ask each other work on two prompts at the same time, one of
them on both. -/
theorem entries_paired_of_pair :
    pairSession.store.agents = [] ∧
      pairSession.roster.All (Agent.ObeysInChains keepingOff) ∧
      ∃ later task result report, Unfolds forPair pairSession later ∧
        later.session = (forPair.receiveTogether ["Fix the docs", "Hello"] pairSession).1 ∧
        Keyed.get? (some lastTaskKey) (later.session.store.getAll (some "coder")) =
          some task ∧
        Keyed.get? (some lastResultKey) (later.session.store.getAll (some "coder")) =
          some result ∧
        task.line = "\"Hello\"" ∧ result.line = "\"coder heard <writer heard <>>\"" ∧
        latestReport? later.reports "coder" = some report ∧
        task = .str report.input ∧ result = .str report.text := by
  have fits : pairSession.roster.All (Agent.ObeysInChains keepingOff) := by
    intro agent agentMem
    rcases List.mem_cons.mp agentMem with rfl | agentMem
    · exact keepingOff_asking "coder" "writer"
    · obtain rfl := List.mem_singleton.mp agentMem
      exact keepingOff_asking "writer" "coder"
  obtain ⟨later, unfolds, sameSession, -⟩ :=
    (entries_paired rfl fits (.begin : Unfolds forPair pairSession _)).2.2 _
      (.receiveTogether ["Fix the docs", "Hello"])
  have held : (Keyed.get? (some lastTaskKey)
        (later.session.store.getAll (some "coder"))).map Json.line = some "\"Hello\"" ∧
      (Keyed.get? (some lastResultKey)
        (later.session.store.getAll (some "coder"))).map Json.line =
          some "\"coder heard <writer heard <>>\"" := by
    rw [sameSession]
    decide +kernel
  simp only [Option.map_eq_some_iff] at held
  rcases held with ⟨⟨task, taskHeld, taskLine⟩, result, resultHeld, resultLine⟩
  obtain ⟨report, latest, taskEq, resultEq, -⟩ :=
    (entries_paired rfl fits unfolds).1 "coder" task result taskHeld resultHeld
  exact ⟨rfl, fits, later, task, result, report, unfolds, sameSession, taskHeld, resultHeld,
    taskLine, resultLine, latest, taskEq, resultEq⟩

end Dispatcher

end PromptDispatch
