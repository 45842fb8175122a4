import Mathlib.Data.List.Nodup
import PromptDispatch.Proofs.Process.Conduct

/-!
# The event loop

A call that runs a batch creates a task for each process and waits for all of
them.  The event loop has a queue, first in, first out, of what is to be done
next: the turns of tasks, the news that a task has ended, and the turn of the
call once its wait has come out.  The wait comes out with the first news of a
cancellation, or with the last news.

A call that is called off has its unfinished tasks cancelled; when there are
none, it is cancelled itself.  Either way it ends by a cancellation, and since
the queue keeps its order, not before every task has ended: what tasks were to
do next stands before the news of the first one that was cancelled.
-/

namespace PromptDispatch

namespace Task

variable {σ α : Type}

/-- Whether a task has come to its end. -/
def ended : Task σ α → Bool
  | .waiting _ _ => false
  | _ => true

theorem ended_eq_false_iff {t : Task σ α} :
    t.ended = false ↔ ∃ onCancel rest, t = .waiting onCancel rest := by
  cases t <;> simp [ended]

/-- A process that keeps to a conduct without cancellations does not end by
one. -/
theorem isHalted_advance {conduct : Conduct σ} (never : ¬ conduct.halts) {p : Process σ α}
    (heeds : p.Heeds conduct) {s : σ} (holds : conduct.holds s) :
    (advance p s).2.isHalted = false := by
  induction p generalizing s with
  | done a => rfl
  | halted => exact absurd heeds never
  | act change next ih =>
      rcases heeds s holds with ⟨acts, rest⟩
      exact ih s rest (conduct.keeps holds acts)
  | pause onCancel next _ => rfl

end Task

/-- What waits in the queue of an event loop. -/
inductive Entry where
  /-- the next turn of the task at a place -/
  | resume (place : Nat)
  /-- the news that the task at a place has ended, and whether by a cancellation -/
  | news (place : Nat) (halted : Bool)
  /-- the next turn of the call -/
  | wake

namespace Entry

variable {σ α : Type}

/-- The place of the task that an entry is about. -/
def place? : Entry → Option Nat
  | .resume place => some place
  | .news place _ => some place
  | .wake => none

/-- Entries after which no task has a turn. -/
def IsLast : Entry → Prop
  | .resume _ => False
  | .news _ halted => halted = true
  | .wake => True

/-- How much is still to come of an entry. -/
def weight : Entry → Nat
  | .resume _ => 3
  | .news _ _ => 2
  | .wake => 1

/-- What follows the turn of a task. -/
def after (place : Nat) (t : Task σ α) : Entry :=
  if t.ended then .news place t.isHalted else .resume place

theorem place?_after (place : Nat) (t : Task σ α) : (after place t).place? = some place := by
  rw [after]
  split <;> rfl

theorem after_ne_wake (place : Nat) (t : Task σ α) : after place t ≠ .wake := by
  rw [after]
  split <;> simp

theorem after_eq_resume_iff {place other : Nat} {t : Task σ α} :
    after place t = .resume other ↔ t.ended = false ∧ place = other := by
  rw [after]
  split
  · next ended => simp [ended]
  · next unfinished => simp [unfinished]

end Entry

/-- A call that runs a batch, and the event loop that it runs in. -/
structure Loop (σ α : Type) where
  state : σ
  tasks : List (Task σ α)
  /-- what is to be done, next first -/
  queue : List Entry
  /-- how much of the news was heard -/
  heard : Nat
  /-- how the wait came out, once it has: whether there are results -/
  verdict : Option Bool
  /-- whether tasks were cancelled -/
  doomed : Bool
  /-- whether the call itself was cancelled -/
  interrupted : Bool
  /-- how the call ended, once it has: with results, or by a cancellation -/
  finish : Option (Option (List α))

namespace Loop

variable {σ α : Type}

/-- A call that has created its tasks. -/
def begin (ps : List (Process σ α)) (s : σ) : Loop σ α where
  state := s
  tasks := ps.map Task.ofProcess
  queue := (List.range ps.length).map .resume
  heard := 0
  verdict := none
  doomed := false
  interrupted := false
  finish := none

/-- Whether some task has not ended. -/
def busy (l : Loop σ α) : Bool := l.tasks.any fun t => !t.ended

/-- What is done with a task in its turn. -/
def kind (l : Loop σ α) : Task.Move := if l.doomed then .cancel else .step

/-- The task at a place has its turn. -/
def resume (l : Loop σ α) (place : Nat) : Loop σ α :=
  match l.tasks[place]? with
  | none => l
  | some t =>
    { l with
      state := (t.move l.kind l.state).1
      tasks := l.tasks.set place (t.move l.kind l.state).2
      queue := l.queue ++ [.after place (t.move l.kind l.state).2] }

/-- The wait comes out. -/
def comeOut (l : Loop σ α) (results : Bool) : Loop σ α :=
  { l with verdict := some results, queue := l.queue ++ [.wake] }

/-- The news that a task has ended is heard. -/
def hear (l : Loop σ α) (halted : Bool) : Loop σ α :=
  let heard := { l with heard := l.heard + 1 }
  if l.verdict.isSome then heard
  else if halted then heard.comeOut false
  else if l.heard + 1 = l.tasks.length then heard.comeOut !l.doomed
  else heard

/-- The call has its turn: it ends with results, or it cancels what has not
ended and ends by a cancellation. -/
def wakeUp (l : Loop σ α) : Loop σ α :=
  if l.verdict = some true ∧ l.interrupted = false then
    { l with finish := some (Batch.results? l.tasks) }
  else { l with doomed := l.doomed || l.busy, finish := some none }

/-- The next thing is done. -/
def pop (l : Loop σ α) : Loop σ α :=
  match l.queue with
  | [] => l
  | .resume place :: queue => { l with queue }.resume place
  | .news _ halted :: queue => { l with queue }.hear halted
  | .wake :: queue => { l with queue }.wakeUp

section

variable {l : Loop σ α} {place : Nat} {halted : Bool} {rest : List Entry}

theorem pop_nil (queue : l.queue = []) : l.pop = l := by
  rw [pop, queue]

theorem pop_resume (queue : l.queue = .resume place :: rest) :
    l.pop = ({ l with queue := rest } : Loop σ α).resume place := by
  rw [pop, queue]

theorem pop_news (queue : l.queue = .news place halted :: rest) :
    l.pop = ({ l with queue := rest } : Loop σ α).hear halted := by
  rw [pop, queue]

theorem pop_wake (queue : l.queue = .wake :: rest) :
    l.pop = ({ l with queue := rest } : Loop σ α).wakeUp := by
  rw [pop, queue]

end

/-- The call is called off: its unfinished tasks are cancelled while it waits
for them, and else it is cancelled itself. -/
def callOff (l : Loop σ α) : Loop σ α :=
  if l.finish.isSome then l
  else if l.verdict = none ∧ l.busy = true then { l with doomed := true }
  else { l with interrupted := true }

/-! ## What stays true -/

/-- The queue of a loop says of every task what is still to come. -/
structure Booked (conduct : Conduct σ) (l : Loop σ α) : Prop where
  heeds : ∀ t ∈ l.tasks, t.Heeds conduct
  /-- as long as no task was cancelled, none has ended by a cancellation -/
  lively : l.doomed = false → conduct.holds l.state ∧ (∀ t ∈ l.tasks, t.isHalted = false) ∧
    ∀ place, .news place true ∉ l.queue
  /-- there is one entry at most about a task -/
  once : (l.queue.filterMap Entry.place?).Nodup
  resumes : ∀ place, .resume place ∈ l.queue ↔ ∃ t, l.tasks[place]? = some t ∧ t.ended = false
  count : l.heard + (l.queue.filterMap Entry.place?).length = l.tasks.length
  /-- no task has a turn after the news of a cancellation -/
  order : l.queue.Pairwise fun first later => first.IsLast → ∀ place, later ≠ .resume place

/-- What is true of a loop at every moment, when its processes keep to a conduct
without cancellations. -/
structure Sound (conduct : Conduct σ) (l : Loop σ α) : Prop extends Booked conduct l where
  /-- the call waits as long as there is news to be heard -/
  pending : l.verdict = none → l.heard < l.tasks.length ∧ l.finish = none ∧ .wake ∉ l.queue
  /-- the wait comes out when no task has another turn, and the call ends after
  that -/
  decided : ∀ results, l.verdict = some results →
    (∀ place, .resume place ∉ l.queue) ∧ (l.finish = none → .wake ∈ l.queue)

variable {conduct : Conduct σ} {l : Loop σ α}

theorem Sound.verdict_of_finish (sound : l.Sound conduct) {result : Option (List α)}
    (finish : l.finish = some result) : ∃ results, l.verdict = some results := by
  cases verdict : l.verdict with
  | some results => exact ⟨results, rfl⟩
  | none => simp [(sound.pending verdict).2.1] at finish

theorem Booked.ended_of_no_resume (booked : l.Booked conduct)
    (none_waits : ∀ place, .resume place ∉ l.queue) : ∀ t ∈ l.tasks, t.ended = true := by
  intro t tMem
  rcases List.getElem?_of_mem tMem with ⟨place, isTask⟩
  by_contra unfinished
  apply none_waits place
  exact (booked.resumes place).mpr ⟨t, isTask, by simpa using unfinished⟩

/-- When a call ends, all its tasks have ended. -/
theorem Sound.ended_of_finish (sound : l.Sound conduct) {result : Option (List α)}
    (finish : l.finish = some result) : ∀ t ∈ l.tasks, t.ended = true := by
  rcases sound.verdict_of_finish finish with ⟨results, verdict⟩
  exact sound.ended_of_no_resume (sound.decided results verdict).1

theorem busy_eq_false_iff : l.busy = false ↔ ∀ t ∈ l.tasks, t.ended = true := by
  simp [busy]

theorem busy_iff : l.busy = true ↔ ∃ t ∈ l.tasks, t.ended = false := by
  simp [busy]

theorem Booked.no_resume_of_idle (booked : l.Booked conduct) (idle : l.busy = false) :
    ∀ place, .resume place ∉ l.queue := by
  intro place mem
  rcases (booked.resumes place).mp mem with ⟨t, isTask, unfinished⟩
  have ended := busy_eq_false_iff.mp idle t (List.mem_of_getElem? isTask)
  simp [ended] at unfinished

/-! ## One thing after another -/

section Resume

variable {place : Nat} {rest : List Entry} {t : Task σ α}

theorem resume_eq (isTask : l.tasks[place]? = some t) :
    ({ l with queue := rest } : Loop σ α).resume place =
      { l with
        state := (t.move l.kind l.state).1
        tasks := l.tasks.set place (t.move l.kind l.state).2
        queue := rest ++ [.after place (t.move l.kind l.state).2] } := by
  rw [resume]
  dsimp only
  rw [isTask]
  rfl

/-- What a task is left as after its turn. -/
theorem Booked.moved (never : ¬ conduct.halts) (booked : l.Booked conduct) (tMem : t ∈ l.tasks)
    (unfinished : t.ended = false) :
    (t.move l.kind l.state).2.Heeds conduct ∧
      (l.doomed = true → (t.move l.kind l.state).2 = .halted) ∧
      (l.doomed = false → conduct.holds (t.move l.kind l.state).1 ∧
        (t.move l.kind l.state).2.isHalted = false) := by
  rcases Task.ended_eq_false_iff.mp unfinished with ⟨onCancel, rest, rfl⟩
  have heeds := booked.heeds _ tMem
  cases doomed : l.doomed with
  | true => simp [kind, doomed, Task.move, Task.cancel, Task.Heeds]
  | false =>
      obtain ⟨holds, -, -⟩ := booked.lively doomed
      obtain ⟨-, after, left⟩ := Task.heeds_advance heeds.2 holds
      have alive := Task.isHalted_advance never heeds.2 holds
      simp only [kind, doomed, Bool.false_eq_true, if_false, Task.move, Task.step]
      exact ⟨left, by simp, fun _ => ⟨after, alive⟩⟩

/-- After a turn there is no news of a cancellation, as long as no task was
cancelled. -/
theorem Booked.lively_turn (booked : l.Booked conduct) (queue : l.queue = .resume place :: rest)
    {s : σ} (stepped : l.doomed = false → conduct.holds s ∧ t.isHalted = false)
    (spared : l.doomed = false) :
    conduct.holds s ∧ (∀ other ∈ l.tasks.set place t, other.isHalted = false) ∧
      ∀ other, .news other true ∉ rest ++ [.after place t] := by
  obtain ⟨-, alive, calm⟩ := booked.lively spared
  rcases stepped spared with ⟨holds, unhalted⟩
  rw [queue] at calm
  refine ⟨holds, ?_, ?_⟩
  · intro other otherMem
    rcases List.mem_or_eq_of_mem_set otherMem with old | rfl
    · exact alive other old
    · exact unhalted
  · intro other mem
    rcases List.mem_append.mp mem with old | new
    · exact calm other (List.mem_cons_of_mem _ old)
    · have same := List.mem_singleton.mp new
      rw [Entry.after, unhalted] at same
      split at same <;> simp at same

/-- A task has another turn exactly when it is unfinished after this one. -/
theorem Booked.resumes_turn (booked : l.Booked conduct) (queue : l.queue = .resume place :: rest)
    (other : Nat) :
    .resume other ∈ rest ++ [.after place t] ↔
      ∃ left, (l.tasks.set place t)[other]? = some left ∧ left.ended = false := by
  have once := booked.once
  have resumes := booked.resumes
  rw [queue] at once resumes
  rw [List.mem_append, List.mem_singleton, eq_comm, Entry.after_eq_resume_iff]
  by_cases own : place = other
  · subst own
    simp only [List.filterMap_cons, Entry.place?, List.nodup_cons] at once
    have noMore : .resume place ∉ rest :=
      fun mem => once.1 (List.mem_filterMap.mpr ⟨_, mem, rfl⟩)
    rcases (resumes place).mp List.mem_cons_self with ⟨_, isTask, -⟩
    have inside : place < l.tasks.length := (List.getElem?_eq_some_iff.mp isTask).1
    simp [noMore, inside]
  · have others := resumes other
    rw [List.mem_cons, or_iff_right (by simp [Ne.symm own])] at others
    rw [List.getElem?_set_ne own, others]
    simp [own]

/-- A turn is never added behind the news of a cancellation. -/
theorem Booked.order_turn (booked : l.Booked conduct) (queue : l.queue = .resume place :: rest)
    (asleep : .wake ∉ rest) (cancelled : l.doomed = true → t.ended = true) :
    (rest ++ [Entry.after place t]).Pairwise fun first later =>
      first.IsLast → ∀ place, later ≠ .resume place := by
  have order := booked.order
  rw [queue, List.pairwise_cons] at order
  refine List.pairwise_append.mpr ⟨order.2, List.pairwise_singleton _ _, ?_⟩
  intro first firstMem later laterMem isLast other same
  rw [List.mem_singleton.mp laterMem, Entry.after_eq_resume_iff] at same
  have spared : l.doomed = false := by
    cases doomed : l.doomed with
    | false => rfl
    | true => simp [cancelled doomed] at same
  obtain ⟨-, -, calm⟩ := booked.lively spared
  rw [queue] at calm
  cases first with
  | resume other => exact isLast
  | news other halted =>
      obtain rfl : halted = true := isLast
      exact calm other (List.mem_cons_of_mem _ firstMem)
  | wake => exact asleep firstMem

theorem Booked.resume (never : ¬ conduct.halts) (booked : l.Booked conduct)
    (queue : l.queue = .resume place :: rest) (asleep : .wake ∉ rest) :
    (({ l with queue := rest } : Loop σ α).resume place).Booked conduct := by
  rcases (booked.resumes place).mp (by simp [queue]) with ⟨t, isTask, unfinished⟩
  obtain ⟨heeds, cancelled, stepped⟩ :=
    booked.moved never (List.mem_of_getElem? isTask) unfinished
  rw [resume_eq isTask]
  generalize t.move l.kind l.state = moved at *
  rcases moved with ⟨after, left⟩
  dsimp only at *
  have once := booked.once
  have count := booked.count
  rw [queue] at once count
  simp only [List.filterMap_cons, Entry.place?, List.length_cons] at once count
  have ends : l.doomed = true → left.ended = true := by
    intro doomed
    rw [cancelled doomed]
    rfl
  refine ⟨?_, booked.lively_turn queue stepped, ?_, booked.resumes_turn queue, ?_,
    booked.order_turn queue asleep ends⟩
  · intro other otherMem
    rcases List.mem_or_eq_of_mem_set otherMem with old | rfl
    · exact booked.heeds other old
    · exact heeds
  · rw [List.filterMap_append]
    apply List.nodup_append_comm.mpr
    simpa [Entry.place?_after] using once
  · rw [List.filterMap_append, List.length_append, List.length_set]
    simpa [Entry.place?_after, Nat.add_comm] using count

theorem Sound.resume (never : ¬ conduct.halts) (sound : l.Sound conduct)
    (queue : l.queue = .resume place :: rest) :
    (({ l with queue := rest } : Loop σ α).resume place).Sound conduct := by
  -- a task only has a turn while the wait has not come out
  have verdict : l.verdict = none := by
    cases verdict : l.verdict with
    | none => rfl
    | some results => exact absurd (by simp [queue]) ((sound.decided results verdict).1 place)
  obtain ⟨fewer, unfinished, asleep⟩ := sound.pending verdict
  rw [queue] at asleep
  have asleepThen : .wake ∉ rest := fun mem => asleep (List.mem_cons_of_mem _ mem)
  have booked := sound.toBooked.resume never queue asleepThen
  rcases (sound.resumes place).mp (by simp [queue]) with ⟨t, isTask, -⟩
  rw [resume_eq isTask] at booked ⊢
  refine ⟨booked, fun _ => ⟨?_, unfinished, ?_⟩, by simp [verdict]⟩
  · rw [List.length_set]
    exact fewer
  · intro mem
    rcases List.mem_append.mp mem with old | new
    · exact asleepThen old
    · exact Entry.after_ne_wake _ _ (List.mem_singleton.mp new).symm

end Resume

/-- News that is heard is taken off the queue. -/
theorem Booked.heard (booked : l.Booked conduct) {place : Nat} {halted : Bool}
    {rest : List Entry} (queue : l.queue = .news place halted :: rest) :
    ({ l with queue := rest, heard := l.heard + 1 } : Loop σ α).Booked conduct := by
  rcases booked with ⟨heeds, lively, once, resumes, count, order⟩
  rw [queue] at lively once resumes count order
  simp only [List.filterMap_cons, Entry.place?, List.nodup_cons, List.length_cons] at once count
  refine ⟨heeds, ?_, once.2, ?_, ?_, (List.pairwise_cons.mp order).2⟩
  · intro spared
    obtain ⟨holds, alive, calm⟩ := lively spared
    exact ⟨holds, alive, fun other mem => calm other (List.mem_cons_of_mem _ mem)⟩
  · intro other
    rw [← resumes other, List.mem_cons, or_iff_right (by simp)]
  · dsimp only
    omega

/-- The wait may come out when no task has another turn. -/
theorem Booked.comeOut (booked : l.Booked conduct)
    (none_waits : ∀ place, .resume place ∉ l.queue) (results : Bool) :
    (l.comeOut results).Sound conduct := by
  rcases booked with ⟨heeds, lively, once, resumes, count, order⟩
  have places : (l.queue ++ [Entry.wake]).filterMap Entry.place? =
      l.queue.filterMap Entry.place? := by
    simp [List.filterMap_cons, Entry.place?]
  refine ⟨⟨heeds, ?_, ?_, ?_, ?_, ?_⟩, by simp [Loop.comeOut], ?_⟩
  · intro spared
    obtain ⟨holds, alive, calm⟩ := lively spared
    refine ⟨holds, alive, ?_⟩
    intro place mem
    rcases List.mem_append.mp mem with old | new
    · exact calm place old
    · simp at new
  · rw [Loop.comeOut, places]
    exact once
  · intro place
    rw [Loop.comeOut, List.mem_append, or_iff_left (by simp)]
    exact resumes place
  · rw [Loop.comeOut, places]
    exact count
  · refine List.pairwise_append.mpr ⟨order, List.pairwise_singleton _ _, ?_⟩
    intro first _ later laterMem _ place same
    rw [List.mem_singleton.mp laterMem] at same
    simp at same
  · intro _ _
    refine ⟨?_, fun _ => List.mem_append_right _ List.mem_cons_self⟩
    intro place mem
    rcases List.mem_append.mp mem with old | new
    · exact none_waits place old
    · simp at new

/-- When all the news was heard, no task has another turn. -/
theorem Booked.no_resume_of_heard (booked : l.Booked conduct)
    (all : l.heard = l.tasks.length) : ∀ place, .resume place ∉ l.queue := by
  have count := booked.count
  have none_left : l.queue.filterMap Entry.place? = [] := List.length_eq_zero_iff.mp (by omega)
  intro place mem
  have placeMem : place ∈ l.queue.filterMap Entry.place? := List.mem_filterMap.mpr ⟨_, mem, rfl⟩
  rw [none_left] at placeMem
  simp at placeMem

theorem Sound.hear (sound : l.Sound conduct) {place : Nat} {halted : Bool} {rest : List Entry}
    (queue : l.queue = .news place halted :: rest) :
    (({ l with queue := rest } : Loop σ α).hear halted).Sound conduct := by
  have booked := sound.toBooked.heard queue
  have order := sound.order
  rw [queue, List.pairwise_cons] at order
  rw [Loop.hear]
  dsimp only
  split
  · next isDecided =>
    rcases Option.isSome_iff_exists.mp isDecided with ⟨results, verdict⟩
    obtain ⟨none_waits, awake⟩ := sound.decided results verdict
    rw [queue] at none_waits awake
    refine ⟨booked, by simp [verdict], fun _ _ => ⟨?_, ?_⟩⟩
    · exact fun other mem => none_waits other (List.mem_cons_of_mem _ mem)
    · exact fun unfinished => by simpa using awake unfinished
  · next isPending =>
    have verdict : l.verdict = none := by simpa using isPending
    obtain ⟨fewer, unfinished, asleep⟩ := sound.pending verdict
    split
    · next last =>
      apply booked.comeOut
      exact fun other mem => order.1 _ mem last other rfl
    · split
      · next all =>
        apply booked.comeOut
        exact booked.no_resume_of_heard all
      · next more =>
        refine ⟨booked, fun _ => ⟨?_, unfinished, ?_⟩, by simp [verdict]⟩
        · exact Nat.lt_of_le_of_ne fewer more
        · rw [queue] at asleep
          exact fun mem => asleep (List.mem_cons_of_mem _ mem)

theorem wakeUp_eq (idle : l.busy = false) :
    l.wakeUp = { l with
      finish := some (if l.verdict = some true ∧ l.interrupted = false then
        Batch.results? l.tasks else none) } := by
  rw [Loop.wakeUp, idle, Bool.or_false]
  split <;> rfl

theorem Sound.verdict_of_wake (sound : l.Sound conduct) (awake : .wake ∈ l.queue) :
    ∃ results, l.verdict = some results := by
  cases verdict : l.verdict with
  | none => exact absurd awake (sound.pending verdict).2.2
  | some results => exact ⟨results, rfl⟩

theorem Sound.idle_of_verdict (sound : l.Sound conduct) {results : Bool}
    (verdict : l.verdict = some results) : l.busy = false :=
  busy_eq_false_iff.mpr (sound.ended_of_no_resume (sound.decided results verdict).1)

theorem Sound.wakeUp (sound : l.Sound conduct) {rest : List Entry}
    (queue : l.queue = .wake :: rest) :
    (({ l with queue := rest } : Loop σ α).wakeUp).Sound conduct := by
  rcases sound.verdict_of_wake (by simp [queue]) with ⟨results, verdict⟩
  have idle : ({ l with queue := rest } : Loop σ α).busy = false :=
    sound.idle_of_verdict verdict
  rw [wakeUp_eq idle]
  rcases sound with ⟨⟨heeds, lively, once, resumes, count, order⟩, -, decided⟩
  rw [queue] at lively once resumes count order decided
  have none_waits := (decided results verdict).1
  refine ⟨⟨heeds, ?_, once, ?_, count, (List.pairwise_cons.mp order).2⟩, by simp [verdict], ?_⟩
  · intro spared
    obtain ⟨holds, alive, calm⟩ := lively spared
    exact ⟨holds, alive, fun other mem => calm other (List.mem_cons_of_mem _ mem)⟩
  · intro other
    rw [← resumes other, List.mem_cons, or_iff_right (by simp)]
  · intro _ _
    exact ⟨fun other mem => none_waits other (List.mem_cons_of_mem _ mem), by simp⟩

/-- Whatever is done next, what stays true stays true. -/
theorem Sound.pop (never : ¬ conduct.halts) (sound : l.Sound conduct) : l.pop.Sound conduct := by
  rw [Loop.pop.eq_def]
  split
  · exact sound
  · next queue => exact sound.resume never queue
  · next queue => exact sound.hear queue
  · next queue => exact sound.wakeUp queue

/-- What the next thing does to the state is done in the way of the conduct. -/
theorem Sound.acts_pop (parts : ∀ s s', conduct.parts s s' → conduct.acts s s')
    (sound : l.Sound conduct) : Relation.ReflTransGen conduct.acts l.state l.pop.state := by
  rw [Loop.pop.eq_def]
  split
  · exact .refl
  · next place rest queue =>
    rcases (sound.resumes place).mp (by simp [queue]) with ⟨t, isTask, unfinished⟩
    rcases Task.ended_eq_false_iff.mp unfinished with ⟨onCancel, next, rfl⟩
    have heeds := sound.heeds _ (List.mem_of_getElem? isTask)
    rw [resume_eq isTask]
    cases doomed : l.doomed with
    | true =>
        simp only [kind, doomed, if_true, Task.move, Task.cancel]
        exact .single (parts _ _ (heeds.1 l.state))
    | false =>
        simp only [kind, doomed, Bool.false_eq_true, if_false, Task.move]
        exact (heeds.step (sound.lively doomed).1).1
  · rw [Loop.hear]
    dsimp only
    split
    · exact .refl
    · split
      · exact .refl
      · split <;> exact .refl
  · rw [Loop.wakeUp]
    split <;> exact .refl

theorem Sound.callOff (sound : l.Sound conduct) : l.callOff.Sound conduct := by
  rcases sound with ⟨⟨heeds, lively, once, resumes, count, order⟩, pending, decided⟩
  rw [Loop.callOff]
  split
  · exact ⟨⟨heeds, lively, once, resumes, count, order⟩, pending, decided⟩
  · split
    · exact ⟨⟨heeds, by simp, once, resumes, count, order⟩, pending, decided⟩
    · exact ⟨⟨heeds, lively, once, resumes, count, order⟩, pending, decided⟩

theorem Sound.meanwhile (sound : l.Sound conduct) {s : σ}
    (keeps : conduct.holds l.state → conduct.holds s) :
    ({ l with state := s } : Loop σ α).Sound conduct := by
  rcases sound with ⟨⟨heeds, lively, once, resumes, count, order⟩, pending, decided⟩
  refine ⟨⟨heeds, ?_, once, resumes, count, order⟩, pending, decided⟩
  intro spared
  obtain ⟨holds, calm⟩ := lively spared
  exact ⟨keeps holds, calm⟩

/-- Processes that may be run as a batch: there are some, and they keep to a
conduct without cancellations, in which a handler may do nothing. -/
structure Ready (conduct : Conduct σ) (ps : List (Process σ α)) (s : σ) : Prop where
  never : ¬ conduct.halts
  some_task : ps ≠ []
  heeds : ∀ p ∈ ps, p.Heeds conduct
  idle : ∀ s, conduct.parts s s
  holds : conduct.holds s

theorem Ready.sound {ps : List (Process σ α)} {s : σ} (ready : Ready conduct ps s) :
    (begin ps s).Sound conduct := by
  rcases ready with ⟨-, some_task, heeds, idle, holds⟩
  have places : ((List.range ps.length).map Entry.resume).filterMap Entry.place? =
      List.range ps.length := by
    rw [List.filterMap_map]
    exact List.filterMap_some
  have waits : ∀ t ∈ ps.map Task.ofProcess, t.ended = false ∧ t.isHalted = false := by
    simp [Task.ofProcess, Task.ended, Task.isHalted]
  refine ⟨⟨?_, fun _ => ⟨holds, fun t tMem => (waits t tMem).2, ?_⟩, ?_, ?_, ?_, ?_⟩, ?_, ?_⟩
  · simp only [begin, List.forall_mem_map]
    exact fun p pMem => ⟨idle, heeds p pMem⟩
  · simp [begin]
  · rw [begin, places]
    exact List.nodup_range
  · intro place
    have inside : place < ps.length ↔ ∃ p, ps[place]? = some p := by
      rw [← Option.isSome_iff_exists]
      simp
    simpa [begin, Task.ofProcess, Task.ended] using inside
  · rw [begin, places]
    simp
  · rw [begin, List.pairwise_map]
    exact List.pairwise_of_forall fun _ _ isLast => isLast.elim
  · intro _
    simpa [begin, List.length_pos_iff] using some_task
  · simp [begin]

end Loop

end PromptDispatch
