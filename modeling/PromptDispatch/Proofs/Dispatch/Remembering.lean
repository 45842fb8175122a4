import PromptDispatch.Proofs.Dispatch.Agreement
import PromptDispatch.Proofs.Dispatch.Bounds
import PromptDispatch.Proofs.Dispatch.Cancellation

/-!
# What a report leaves behind

A report is saved by two writes, the task before the result, and either of them
may drop the oldest entry.  The result is written last and is always there
afterwards.  The task is there as well unless the result takes its place: when
there is room for one entry only, or when the entries are full, a task from before
is the oldest of them, which keeps its place, and there is no result among them.
-/

namespace PromptDispatch

open Store (Entries Limits bounded newest)

/-- What is there stays beside one more item, unless it is the oldest of as many
as there is room for. -/
theorem Store.mem_newest_concat_iff {α : Type} {n : Nat} {xs : List α} {x y : α}
    (within : xs.length ≤ n) (distinct : xs.Nodup) (different : x ≠ y) :
    x ∈ newest n (xs ++ [y]) ↔ x ∈ xs ∧ ¬ (xs.length = n ∧ xs.head? = some x) := by
  cases xs with
  | nil =>
      have dropped := (newest_sublist n [y]).subset (a := x)
      simpa [different] using dropped
  | cons oldest rest =>
      have oldestOnce : oldest ∉ rest := (List.nodup_cons.mp distinct).1
      by_cases full : (oldest :: rest).length = n
      · have kept : newest n (oldest :: rest ++ [y]) = rest ++ [y] := by
          rw [newest, ← full]
          simp
        rw [kept]
        grind
      · have kept : newest n (oldest :: rest ++ [y]) = oldest :: rest ++ [y] := by
          apply newest_of_length_le
          simp only [List.length_append, List.length_cons, List.length_nil] at *
          omega
        have notFull : rest.length + 1 ≠ n := by simpa using full
        rw [kept]
        simp [notFull, different]

/-- An item that has just been added is the oldest of as many as there is room for
only if there is room for one. -/
theorem Store.eq_one_of_head?_newest_concat {α : Type} {n : Nat} (positive : 1 ≤ n) {xs : List α}
    {x : α} (added : x ∉ xs) (full : (newest n (xs ++ [x])).length = n)
    (oldest : (newest n (xs ++ [x])).head? = some x) : n = 1 := by
  have kept : newest n (xs ++ [x]) = newest (n - 1) xs ++ [x] := by
    simp only [newest, List.length_append, List.length_singleton]
    rw [List.drop_append_of_le_length (by omega)]
    congr 2
    omega
  rw [kept] at full oldest
  cases before : newest (n - 1) xs with
  | nil =>
      rw [before] at full
      exact full.symm
  | cons first rest =>
      rw [before] at oldest
      obtain rfl : first = x := by simpa using oldest
      have among : first ∈ newest (n - 1) xs := by
        rw [before]
        exact List.mem_cons_self
      exact absurd ((newest_sublist _ _).subset among) added

namespace Dispatcher

/-- There is no room for a task beside the result that is written after it. -/
def Crowded (limits : Limits) (entries : Entries) : Prop :=
  limits.entries = 1 ∨
    (entries.length = limits.entries ∧
      (Keyed.keys entries).head? = some (some lastTaskKey) ∧
      some lastResultKey ∉ Keyed.keys entries)

instance (limits : Limits) (entries : Entries) : Decidable (Crowded limits entries) :=
  inferInstanceAs (Decidable (_ ∨ _))

section

variable {limits : Limits} {entries : Entries} (within : entries.length ≤ limits.entries)
include within

/-- The entries are crowded when the task that has been written is the oldest of as
many as there is room for, and the result is still to come. -/
theorem crowded_iff (value : Json) {noted : List (Option String)}
    (isNoted : Keyed.keys (bounded limits (Keyed.put (some lastTaskKey) value entries)) = noted) :
    Crowded limits entries ↔
      some lastResultKey ∉ noted ∧ noted.length = limits.entries ∧
        noted.head? = some (some lastTaskKey) := by
  have different : some lastResultKey ≠ some lastTaskKey := by decide
  have fits : (Keyed.keys entries).length ≤ limits.entries := by rwa [Keyed.length_keys]
  rw [Crowded, ← Keyed.length_keys entries, ← isNoted, Store.keys_bounded_put within]
  by_cases held : some lastTaskKey ∈ Keyed.keys entries
  · -- the task stays where it was, so room for one means that it was alone
    rw [if_pos held, List.append_nil, Store.newest_of_length_le fits]
    constructor
    · rintro (one | ⟨full, oldest, unanswered⟩)
      · rw [one] at fits ⊢
        obtain ⟨name, alone⟩ := List.length_eq_one_iff.mp
          (Nat.le_antisymm fits (List.length_pos_of_mem held))
        rw [alone] at held ⊢
        obtain rfl := List.mem_singleton.mp held
        exact ⟨by simpa using different, rfl, rfl⟩
      · exact ⟨unanswered, full, oldest⟩
    · rintro ⟨unanswered, full, oldest⟩
      exact .inr ⟨full, oldest, unanswered⟩
  · -- the task comes last, so it is the oldest only when it is alone
    rw [if_neg held]
    constructor
    · rintro (one | ⟨-, oldest, -⟩)
      · rw [one]
        have alone : newest 1 (Keyed.keys entries ++ [some lastTaskKey]) = [some lastTaskKey] := by
          simp [newest]
        rw [alone]
        exact ⟨by simpa using different, rfl, rfl⟩
      · exact absurd (List.mem_of_head? oldest) held
    · rintro ⟨-, full, oldest⟩
      exact .inl (Store.eq_one_of_head?_newest_concat limits.entries_pos held full oldest)

/-- The task of a report is found afterwards unless the entries were crowded. -/
theorem get?_lastTask_entriesAfter (report : Report) (distinct : (Keyed.keys entries).Nodup) :
    Keyed.get? (some lastTaskKey) (report.entriesAfter limits entries) =
      if Crowded limits entries then none else some (.str report.input) := by
  have different : some lastTaskKey ≠ some lastResultKey := by decide
  have noted : some lastTaskKey ∈ Keyed.keys (bounded limits
      (Keyed.put (some lastTaskKey) (.str report.input) entries)) :=
    Store.mem_keys_bounded_put within _ _
  have notedDistinct : (Keyed.keys (bounded limits
      (Keyed.put (some lastTaskKey) (.str report.input) entries))).Nodup :=
    Keyed.nodup_keys_of_sublist (Store.bounded_sublist _ _) (Keyed.nodup_keys_put _ _ distinct)
  have notedWithin := Store.length_bounded_put_le within (some lastTaskKey) (.str report.input)
  have stays_iff : some lastTaskKey ∈ Keyed.keys (report.entriesAfter limits entries) ↔
      ¬ Crowded limits entries := by
    rw [crowded_iff within (.str report.input) rfl, Report.entriesAfter,
      Store.keys_bounded_put notedWithin]
    split
    · next answered =>
      rw [List.append_nil, Store.newest_of_length_le (by rwa [Keyed.length_keys])]
      simp [noted, answered]
    · next unanswered =>
      rw [Store.mem_newest_concat_iff (by rwa [Keyed.length_keys]) notedDistinct different]
      simp [noted, unanswered]
  split
  · next crowded =>
    rw [← Option.not_isSome_iff_eq_none, Keyed.isSome_get?_iff, stays_iff]
    exact not_not_intro crowded
  · next roomy =>
    rw [Report.entriesAfter, Store.get?_bounded_put notedDistinct (stays_iff.mpr roomy),
      if_neg different, Store.get?_bounded_put distinct noted, if_pos rfl]

end

/-! ## Jobs that end with something said -/

/-- A job has something left to do and ends, given a turn, with something said. -/
structure Job.Concludes (job : Job) (s : Session) (text : String) : Prop where
  unfinished : ∃ onCancel rest, job.place = .waiting onCancel rest
  ended : (job.place.step s).2 = .finished (some text)
  said : text ≠ ""

/-- The entries of a job's agent when the job has had its turn. -/
def Job.entriesThen (job : Job) (s : Session) : Entries :=
  (job.place.step s).1.store.getAll (some job.task.agent)

variable {d : Dispatcher} {start s : Session} {jobs : List Job} {limits : Limits}

/-- Whatever others ask of the store, what is left of every job is a chain and its
closing. -/
theorem Evolves.obeys (evolves : Evolves d start s jobs) : ∀ job ∈ jobs, job.Obeys .free := by
  induction evolves with
  | begin => simp
  | call prompt _ ih =>
      rw [List.forall_mem_append, List.forall_mem_map]
      exact ⟨ih, fun task _ => Job.obeys_begin .free task⟩
  | move kind _ ih =>
      rw [List.forall_mem_append, List.forall_mem_cons] at ih ⊢
      exact ⟨ih.1, (ih.2.1.move kind (Session.all_free _)).2, ih.2.2⟩
  | meanwhile _ _ _ ih => exact ih

theorem within_of_reflTransGen {rules : Rules} {after : Session}
    (acts : Relation.ReflTransGen (Session.Acts rules) s after)
    (within : s.store.Within limits) : after.store.Within limits := by
  induction acts with
  | refl => exact within
  | tail _ last ih => exact within_of_acts last ih

/-- Right after a job has ended with something said, the entries of its agent hold
its result.  They hold its task as well, unless they were crowded when the job came
to save its report. -/
theorem remembered_unless_crowded (within : start.store.Within limits) {earlier later : List Job}
    {job : Job} (evolves : Evolves d start s (earlier ++ job :: later)) {text : String}
    (concludes : job.Concludes s text) :
    Keyed.get? (some lastResultKey) (job.entriesThen s) = some (.str text) ∧
    ∃ middle, Relation.ReflTransGen (Session.Acts .free) s middle ∧
      (job.place.step s).1 = Report.save ⟨job.task.agent, job.task.input, text⟩ middle ∧
      Keyed.get? (some lastTaskKey) (job.entriesThen s) =
        if Crowded limits (middle.store.getAll (some job.task.agent)) then none
        else some (.str job.task.input) := by
  have obeys := evolves.obeys job (by simp)
  obtain ⟨moves, -⟩ := obeys.move .step (Session.all_free s.roster)
  have reported : job.reported (job.place.move .step s).2 =
      [⟨job.task.agent, job.task.input, text⟩] := by
    obtain ⟨onCancel, rest, unfinished⟩ := concludes.unfinished
    have ended : (job.place.move .step s).2 = .finished (some text) := concludes.ended
    rw [ended]
    simp [Job.reported, unfinished, Job.report?, concludes.said]
  rw [reported] at moves
  generalize isAfter : (job.place.move .step s).1 = after at moves
  cases moves with
  | @reporting middle report said acts =>
      have middleWithin := within_of_reflTransGen acts (evolves.within within).1
      obtain ⟨rfl, wellFormed, -⟩ := middleWithin
      have stepped : (job.place.step s).1 =
          Report.save ⟨job.task.agent, job.task.input, text⟩ middle := isAfter
      have entries := Report.getAll_keep_self ⟨job.task.agent, job.task.input, text⟩ middle.store
      rw [Job.entriesThen, stepped, Report.store_save, entries]
      have distinct := wellFormed.nodup_keys_getAll (some job.task.agent)
      have fits := wellFormed.length_getAll_le (some job.task.agent)
      exact ⟨get?_lastResult_entriesAfter _ distinct fits, middle, acts, rfl,
        get?_lastTask_entriesAfter fits _ distinct⟩

/-! ## A quick agent and a store with little room -/

/-- A session of a quick agent with entries from before. -/
def quickSession (limits : Limits) (entries : Entries) : Session :=
  { pairSession with
    roster := ⟨[working "coder" 0]⟩
    store := ⟨limits, [(some "coder", entries)], []⟩ }

/-- The session when a prompt for the quick agent has been let in. -/
def calledSession (limits : Limits) (entries : Entries) : Session :=
  (forPair.accept "Hello" (quickSession limits entries)).1

/-- The job of that prompt. -/
def helloJob : Job := .begin { agent := "coder", input := "Hello" }

theorem within_quickSession {limits : Limits} {entries : Entries}
    (within : entries.length ≤ limits.entries) (distinct : (Keyed.keys entries).Nodup) :
    (quickSession limits entries).store.Within limits where
  limits_eq := rfl
  wellFormed := by
    refine ⟨⟨List.nodup_singleton _, ?_⟩, ?_⟩
    · rintro entry entryMem
      obtain rfl := List.mem_singleton.mp entryMem
      exact distinct
    · rintro entry entryMem
      obtain rfl := List.mem_singleton.mp entryMem
      exact within
  prompts_le := Nat.zero_le _

theorem evolves_helloJob (limits : Limits) (entries : Entries) :
    Evolves forPair (quickSession limits entries) (calledSession limits entries)
      ([] ++ helloJob :: []) := by
  have begun : Evolves forPair (quickSession limits entries) _ _ := .begin
  have passes : (quickSession limits entries).throttle.wait? (quickSession limits entries).clock =
      none := (by decide +kernel : pairSession.throttle.wait? pairSession.clock = none)
  obtain ⟨after, -, accepted⟩ := accept_of_passes named_forPair "Hello" passes
  have routed : forPair.routed (Prompt.sanitize "Hello") = ["coder"] := by decide +kernel
  have sanitized : Prompt.sanitize "Hello" = "Hello" := by decide +kernel
  have called := begun.call "Hello"
  rw [accepted, subtasks, routed, sanitized] at called
  rw [calledSession, accepted]
  exact called

/-- The keys of the entries of the quick agent when its job has had its turn. -/
def keysThen (limits : Limits) (entries : Entries) : List (Option String) :=
  Keyed.keys (helloJob.entriesThen (calledSession limits entries))

theorem concludes_helloJob {limits : Limits} {entries : Entries}
    (ended : (helloJob.place.step (calledSession limits entries)).2.result? =
      some (some "coder is done")) :
    helloJob.Concludes (calledSession limits entries) "coder is done" where
  unfinished := ⟨_, _, rfl⟩
  ended := by
    revert ended
    cases (helloJob.place.step (calledSession limits entries)).2 <;> simp [Task.result?]
  said := by decide

/-- Room for two entries. -/
abbrev roomForTwo : Limits := Archive.roomFor 2 Nat.zero_lt_two

/-- There is room for two entries and there are two already.  The task replaces an
older result and the result an older note. -/
theorem remembered_unless_crowded_quickSession :
    let entries : Entries := [(some lastResultKey, .str "before"), (some "plan", .null)]
    let s := calledSession roomForTwo entries
    (quickSession roomForTwo entries).store.Within roomForTwo ∧
      Evolves forPair (quickSession roomForTwo entries) s ([] ++ helloJob :: []) ∧
      helloJob.Concludes s "coder is done" ∧
      keysThen roomForTwo entries = [some lastTaskKey, some lastResultKey] ∧
      Keyed.get? (some lastResultKey) (helloJob.entriesThen s) = some (.str "coder is done") ∧
      ∃ middle, Relation.ReflTransGen (Session.Acts .free) s middle ∧
        (helloJob.place.step s).1 = Report.save ⟨"coder", "Hello", "coder is done"⟩ middle ∧
        Keyed.get? (some lastTaskKey) (helloJob.entriesThen s) =
          if Crowded roomForTwo (middle.store.getAll (some "coder")) then none
          else some (.str "Hello") := by
  intro entries s
  have within : (quickSession roomForTwo entries).store.Within roomForTwo :=
    within_quickSession (by decide) (by decide)
  have evolves := evolves_helloJob roomForTwo entries
  have concludes : helloJob.Concludes s "coder is done" := concludes_helloJob (by decide +kernel)
  exact ⟨within, evolves, concludes, by decide +kernel,
    remembered_unless_crowded within evolves concludes⟩

/-- With given bounds, the entries of an agent always hold both the task and the
result of a job right after the job has ended with something said. -/
def RemembersBoth (limits : Limits) : Prop :=
  ∀ (d : Dispatcher) (start s : Session) (earlier later : List Job) (job : Job) (text : String),
    start.store.Within limits → Evolves d start s (earlier ++ job :: later) →
      job.Concludes s text →
        Keyed.get? (some lastTaskKey) (job.entriesThen s) = some (.str job.task.input) ∧
          Keyed.get? (some lastResultKey) (job.entriesThen s) = some (.str text)

theorem not_remembersBoth_of_lost {limits : Limits} (entries : Entries)
    (within : entries.length ≤ limits.entries) (distinct : (Keyed.keys entries).Nodup)
    (ended : (helloJob.place.step (calledSession limits entries)).2.result? =
      some (some "coder is done"))
    (lost : some lastTaskKey ∉ keysThen limits entries) : ¬ RemembersBoth limits := by
  intro remembers
  obtain ⟨found, -⟩ := remembers forPair _ _ [] [] helloJob "coder is done"
    (within_quickSession within distinct) (evolves_helloJob limits entries)
    (concludes_helloJob ended)
  apply lost
  rw [keysThen, ← Keyed.isSome_get?_iff, found]
  rfl

/-- The task is lost where there is room for one entry, and where there is room for
two and a task from before is the older of two entries without a result. -/
theorem not_remembersBoth :
    ¬ RemembersBoth (Archive.roomFor 1 (Nat.le_refl 1)) ∧ ¬ RemembersBoth roomForTwo := by
  constructor
  · apply not_remembersBoth_of_lost [] <;> decide +kernel
  · apply not_remembersBoth_of_lost [(some lastTaskKey, .str "before"), (some "plan", .null)] <;>
      decide +kernel

end Dispatcher

end PromptDispatch
