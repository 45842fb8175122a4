import Mathlib.Logic.Function.Iterate
import PromptDispatch.Proofs.Process.CallOff

/-!
# Rounds of the event loop

In a round of the event loop everything is done that is in the queue when the
round begins.  As long as a batch is busy, a round gives every unfinished task
one turn, in the order of the tasks; a call has ended two rounds after the last
of its tasks.  A batch that is cancelled after a number of turns is therefore
the call in the event loop, called off after as many rounds.
-/

namespace PromptDispatch

namespace Loop

variable {σ α : Type} {conduct : Conduct σ} {l : Loop σ α}

/-- Everything that is in the queue is done. -/
def round (l : Loop σ α) : Loop σ α := pop^[l.queue.length] l

/-- The loop after a number of rounds. -/
def rounds (n : Nat) (l : Loop σ α) : Loop σ α := round^[n] l

/-! ## What a round leaves alone -/

theorem comes_iterate (n : Nat) (l : Loop σ α) : l.Comes conduct (pop^[n] l) := by
  induction n with
  | zero => exact .refl
  | succ n ih =>
      rw [Function.iterate_succ_apply']
      exact ih.pop

/-- When others do nothing, the loop goes on by itself. -/
theorem after_of_idle (n : Nat) (l : Loop σ α) : after (fun _ s => s) n l = pop^[n] l := by
  induction n with
  | zero => rfl
  | succ n ih =>
      rw [Function.iterate_succ_apply', ← ih]
      rfl

theorem Comes.trans {l' l'' : Loop σ α} (first : l.Comes conduct l')
    (second : l'.Comes conduct l'') : l.Comes conduct l'' := by
  induction second with
  | refl => exact first
  | pop _ ih => exact ih.pop
  | meanwhile keeps _ ih => exact ih.meanwhile keeps

theorem comes_rounds (n : Nat) (l : Loop σ α) : l.Comes conduct (rounds n l) := by
  induction n with
  | zero => exact .refl
  | succ n ih =>
      rw [rounds, Function.iterate_succ_apply']
      exact ih.trans (comes_iterate _ _)

/-- Doing one thing takes it off the queue and may add to the end of it; only the
turn of a task adds anything but the turn of the call. -/
theorem exists_queue_pop {entry : Entry} {rest : List Entry} (queue : l.queue = entry :: rest) :
    ∃ pushed, l.pop.queue = rest ++ pushed ∧
      ∀ new ∈ pushed, new = .wake ∨ ∃ place, entry = .resume place := by
  cases entry with
  | resume place =>
      rw [pop_resume queue, resume]
      split
      · exact ⟨[], by simp, by simp⟩
      · exact ⟨[_], rfl, fun _ _ => .inr ⟨place, rfl⟩⟩
  | news place halted =>
      rw [pop_news queue]
      rcases hear_cases ({ l with queue := rest } : Loop σ α) halted with same | ⟨results, -, same⟩
      · exact ⟨[], by simp [same], by simp⟩
      · exact ⟨[.wake], by simp [same, comeOut], by simp⟩
  | wake =>
      refine ⟨[], ?_, by simp⟩
      rw [pop_wake queue, wakeUp]
      split <;> simp

theorem pop_of_no_resume (none_waits : ∀ place, .resume place ∉ l.queue) :
    l.pop.state = l.state ∧ l.pop.tasks = l.tasks ∧ ∀ place, .resume place ∉ l.pop.queue := by
  cases queue : l.queue with
  | nil => exact ⟨by rw [pop_nil queue], by rw [pop_nil queue], by rwa [pop_nil queue]⟩
  | cons entry rest =>
      rw [queue] at none_waits
      have still : ∀ place, .resume place ∉ l.pop.queue := by
        rcases exists_queue_pop queue with ⟨pushed, afterwards, kinds⟩
        intro place mem
        rw [afterwards] at mem
        rcases List.mem_append.mp mem with old | new
        · exact none_waits place (List.mem_cons_of_mem _ old)
        · rcases kinds _ new with isWake | ⟨turn, isTurn⟩
          · simp at isWake
          · exact none_waits turn (by simp [isTurn])
      have same : l.pop.state = l.state ∧ l.pop.tasks = l.tasks := by
        cases entry with
        | resume place => exact absurd List.mem_cons_self (none_waits place)
        | news place halted =>
            rw [pop_news queue]
            rcases hear_cases ({ l with queue := rest } : Loop σ α) halted with
              same | ⟨results, -, same⟩
            · rw [same]
              exact ⟨rfl, rfl⟩
            · rw [same]
              exact ⟨rfl, rfl⟩
        | wake =>
            rw [pop_wake queue, wakeUp]
            split
            · exact ⟨rfl, rfl⟩
            · exact ⟨rfl, rfl⟩
      exact ⟨same.1, same.2, still⟩

/-- Without turns of tasks, nothing is done to the state and the tasks. -/
theorem iterate_pop_of_no_resume (none_waits : ∀ place, .resume place ∉ l.queue) (n : Nat) :
    (pop^[n] l).state = l.state ∧ (pop^[n] l).tasks = l.tasks ∧
      ∀ place, .resume place ∉ (pop^[n] l).queue := by
  induction n with
  | zero => exact ⟨rfl, rfl, none_waits⟩
  | succ n ih =>
      rw [Function.iterate_succ_apply']
      rcases ih with ⟨state, tasks, still⟩
      obtain ⟨stateNow, tasksNow, stillNow⟩ := pop_of_no_resume still
      exact ⟨stateNow.trans state, tasksNow.trans tasks, stillNow⟩

/-! ## A round of turns -/

/-- The queue after a round: what follows the turns of the tasks that were
unfinished before it. -/
def agenda : Nat → List (Task σ α) → List (Task σ α) → List Entry
  | _, [], _ => []
  | _, _ :: _, [] => []
  | place, before :: prev, t :: ts =>
      (if before.ended then [] else [.after place t]) ++ agenda (place + 1) prev ts

/-- Tasks that ended before a round are the same after it. -/
abbrev Follows (prev ts : List (Task σ α)) : Prop :=
  List.Forall₂ (fun before t => before.ended = true → t.ended = true) prev ts

theorem move_of_ended {t : Task σ α} (ended : t.ended = true) (kind : Task.Move) (s : σ) :
    t.move kind s = (s, t) := by
  cases t with
  | waiting onCancel rest => simp [Task.ended] at ended
  | _ => cases kind <;> rfl

/-- An unfinished task is on the agenda. -/
theorem places_agenda_ne_nil {prev ts : List (Task σ α)} (follows : Follows prev ts)
    (waits : ∃ t ∈ ts, t.ended = false) (place : Nat) :
    (agenda place prev ts).filterMap Entry.place? ≠ [] := by
  induction follows generalizing place with
  | nil => simp at waits
  | @cons before t prev ts stays _ ih =>
      rw [agenda, List.filterMap_append]
      split
      · next wasEnded =>
        rw [List.filterMap_nil, List.nil_append]
        exact ih (by simpa [stays wasEnded] using waits) (place + 1)
      · simp [Entry.place?_after]

/-- What a loop is after the tasks behind some others had their turns, with
entries in the queue before what follows these turns. -/
structure Swept (l : Loop σ α) (done ts : List (Task σ α)) (pushed : List Entry)
    (after : Loop σ α) : Prop where
  state : after.state = (Batch.each (Task.move l.kind) ts l.state).1
  tasks : after.tasks = done ++ (Batch.each (Task.move l.kind) ts l.state).2
  queue : after.queue =
    pushed ++ agenda done.length ts (Batch.each (Task.move l.kind) ts l.state).2
  verdict : after.verdict = none
  doomed : after.doomed = l.doomed
  interrupted : after.interrupted = l.interrupted
  finish : after.finish = l.finish

/-- The turn of a first task comes before those of the others. -/
theorem Swept.cons {done ts : List (Task σ α)} {t left : Task σ α} {s : σ}
    {l l' after : Loop σ α} {pushed pushed' : List Entry}
    (moved : t.move l.kind l.state = (s, left)) (swept : Swept l' (done ++ [left]) ts pushed' after)
    (queued : pushed' = pushed ++ if t.ended then [] else [.after done.length left])
    (state : l'.state = s) (doomed : l'.doomed = l.doomed)
    (interrupted : l'.interrupted = l.interrupted) (finish : l'.finish = l.finish) :
    Swept l done (t :: ts) pushed after := by
  have kind : l'.kind = l.kind := by rw [Loop.kind, doomed, Loop.kind]
  have each : Batch.each (Task.move l.kind) (t :: ts) l.state =
      ((Batch.each (Task.move l'.kind) ts l'.state).1,
        left :: (Batch.each (Task.move l'.kind) ts l'.state).2) := by
    rw [Batch.each, moved, kind, state]
  refine ⟨?_, ?_, ?_, swept.verdict, swept.doomed.trans doomed,
    swept.interrupted.trans interrupted, swept.finish.trans finish⟩
  · rw [each, swept.state]
  · rw [each, swept.tasks, List.append_assoc, List.singleton_append]
  · rw [each, swept.queue, queued, List.append_assoc, List.length_append, List.length_singleton,
      agenda]

/-- News that is not the last one and of no cancellation changes nothing but what
was heard. -/
theorem pop_news_of_more {place : Nat} {rest : List Entry}
    (queue : l.queue = .news place false :: rest) (verdict : l.verdict = none)
    (more : l.heard + 1 ≠ l.tasks.length) :
    l.pop = { l with queue := rest, heard := l.heard + 1 } := by
  rw [pop_news queue, hear]
  simp [verdict, more]

/-- A loop in the middle of a round of turns: some tasks are done with, and what
follows the last turns of the others is next in the queue.  There is more to
come behind that, or at the place of an unfinished task. -/
structure Sweeping (prev done ts : List (Task σ α)) (pushed : List Entry) (l : Loop σ α) :
    Prop where
  tasks : l.tasks = done ++ ts
  queue : l.queue = agenda done.length prev ts ++ pushed
  verdict : l.verdict = none
  alive : ∀ t ∈ ts, t.isHalted = false
  count : l.heard + (l.queue.filterMap Entry.place?).length = l.tasks.length
  more : (∃ t ∈ ts, t.ended = false) ∨ pushed.filterMap Entry.place? ≠ []

section

variable {prev done ts : List (Task σ α)} {before t : Task σ α} {pushed : List Entry}

/-- Nothing is on the agenda about a task that had ended before. -/
theorem Sweeping.skip (sweeping : Sweeping (before :: prev) done (t :: ts) pushed l)
    (wasEnded : before.ended = true) (ended : t.ended = true) :
    Sweeping prev (done ++ [t]) ts pushed l := by
  rcases sweeping with ⟨tasks, queue, verdict, alive, count, more⟩
  rw [agenda, if_pos wasEnded, List.nil_append] at queue
  refine ⟨?_, ?_, verdict, fun other mem => alive other (List.mem_cons_of_mem _ mem), count, ?_⟩
  · rw [tasks, List.append_cons]
  · rw [queue, List.length_append, List.length_singleton]
  · simpa [ended] using more

/-- The news of a task that has ended since is heard. -/
theorem Sweeping.news (sweeping : Sweeping (before :: prev) done (t :: ts) pushed l)
    (follows : Follows prev ts) (wasUnfinished : ¬ before.ended = true)
    (ended : t.ended = true) :
    l.pop = { l with
        queue := agenda (done ++ [t]).length prev ts ++ pushed
        heard := l.heard + 1 } ∧
      Sweeping prev (done ++ [t]) ts pushed l.pop := by
  rcases sweeping with ⟨tasks, queue, verdict, alive, count, more⟩
  have next : done.length + 1 = (done ++ [t]).length := by simp
  rw [agenda, if_neg wasUnfinished, List.singleton_append, List.cons_append, Entry.after,
    if_pos ended, alive t List.mem_cons_self, next] at queue
  have moreThen : (∃ t ∈ ts, t.ended = false) ∨ pushed.filterMap Entry.place? ≠ [] := by
    simpa [ended] using more
  have some_left : 0 <
      ((agenda (done ++ [t]).length prev ts ++ pushed).filterMap Entry.place?).length := by
    rw [List.filterMap_append, List.length_pos_iff]
    intro none_left
    rcases List.append_eq_nil_iff.mp none_left with ⟨noAgenda, noPushed⟩
    rcases moreThen with waits | isPushed
    · exact places_agenda_ne_nil follows waits _ noAgenda
    · exact isPushed noPushed
  rw [queue, List.filterMap_cons, Entry.place?, List.length_cons] at count
  have popped := pop_news_of_more queue verdict (by omega)
  rw [popped]
  refine ⟨rfl, ?_, rfl, verdict, fun other mem => alive other (List.mem_cons_of_mem _ mem), ?_,
    moreThen⟩
  · rw [tasks, List.append_cons]
  · dsimp only
    omega

/-- An unfinished task has its turn, and what follows it is added to the
queue. -/
theorem Sweeping.turn (sweeping : Sweeping (before :: prev) done (t :: ts) pushed l)
    (wasUnfinished : ¬ before.ended = true) (unfinished : ¬ t.ended = true) {s : σ}
    {left : Task σ α} (moved : t.move l.kind l.state = (s, left)) :
    l.pop = { l with
        state := s
        tasks := l.tasks.set done.length left
        queue := agenda (done ++ [left]).length prev ts ++
          (pushed ++ [.after done.length left]) } ∧
      Sweeping prev (done ++ [left]) ts (pushed ++ [.after done.length left]) l.pop := by
  rcases sweeping with ⟨tasks, queue, verdict, alive, count, -⟩
  have isTask : l.tasks[done.length]? = some t := by simp [tasks]
  have next : done.length + 1 = (done ++ [left]).length := by simp
  rw [agenda, if_neg wasUnfinished, List.singleton_append, List.cons_append, Entry.after,
    if_neg unfinished, next] at queue
  rw [queue, List.filterMap_cons, Entry.place?, List.length_cons] at count
  have popped := (pop_resume queue).trans (resume_eq isTask)
  rw [moved, List.append_assoc] at popped
  rw [popped]
  refine ⟨rfl, ?_, rfl, verdict, fun other mem => alive other (List.mem_cons_of_mem _ mem), ?_, ?_⟩
  · simp [tasks]
  · simp only [List.filterMap_append, List.length_append, List.length_set] at count ⊢
    simp [Entry.place?_after]
    omega
  · simp [Entry.place?_after]

end

/-- What is on the agenda is done: every unfinished task has its turn, in order.
The wait does not come out before the last of them. -/
theorem swept_agenda {prev done ts : List (Task σ α)} {l : Loop σ α} {pushed : List Entry}
    (follows : Follows prev ts) (sweeping : Sweeping prev done ts pushed l) :
    Swept l done ts pushed (pop^[(agenda done.length prev ts).length] l) := by
  induction follows generalizing done l pushed with
  | nil =>
      rcases sweeping with ⟨tasks, queue, verdict, -⟩
      rw [agenda, List.nil_append] at queue
      exact ⟨rfl, tasks, by simpa [agenda] using queue, verdict, rfl, rfl, rfl⟩
  | @cons before t prev ts stays follows ih =>
      have next (left : Task σ α) : done.length + 1 = (done ++ [left]).length := by simp
      by_cases wasEnded : before.ended = true
      · have ended := stays wasEnded
        have swept := ih (sweeping.skip wasEnded ended)
        have queued : pushed = pushed ++ if t.ended then [] else [.after done.length t] := by
          rw [if_pos ended, List.append_nil]
        rw [agenda, if_pos wasEnded, List.nil_append, next t]
        exact .cons (move_of_ended ended l.kind l.state) swept queued rfl rfl rfl rfl
      · rw [agenda, if_neg wasEnded, List.singleton_append, List.length_cons,
          Function.iterate_succ_apply]
        by_cases ended : t.ended = true
        · obtain ⟨popped, sweepingThen⟩ := sweeping.news follows wasEnded ended
          have swept := ih sweepingThen
          have queued : pushed = pushed ++ if t.ended then [] else [.after done.length t] := by
            rw [if_pos ended, List.append_nil]
          rw [next t]
          exact .cons (move_of_ended ended l.kind l.state) swept queued (by rw [popped])
            (by rw [popped]) (by rw [popped]) (by rw [popped])
        · rcases moved : t.move l.kind l.state with ⟨s, left⟩
          obtain ⟨popped, sweepingThen⟩ := sweeping.turn wasEnded ended moved
          have swept := ih sweepingThen
          have queued : pushed ++ [.after done.length left] =
              pushed ++ if t.ended then [] else [.after done.length left] := by
            rw [if_neg ended]
          rw [next left]
          exact .cons moved swept queued (by rw [popped]) (by rw [popped]) (by rw [popped])
            (by rw [popped])

/-! ## Rounds and turns -/

/-- A loop between two rounds of turns: what follows the last turns is on the
agenda. -/
structure InRound (prev : List (Task σ α)) (l : Loop σ α) : Prop where
  queue : l.queue = agenda 0 prev l.tasks
  follows : Follows prev l.tasks
  verdict : l.verdict = none
  doomed : l.doomed = false

theorem follows_each (kind : Task.Move) (ts : List (Task σ α)) (s : σ) :
    Follows ts (Batch.each (Task.move kind) ts s).2 := by
  induction ts generalizing s with
  | nil => exact .nil
  | cons t ts ih =>
      refine .cons ?_ (ih _)
      intro ended
      have same := congrArg (fun moved => moved.2.ended) (move_of_ended ended kind s)
      exact same.trans ended

/-- A round gives every unfinished task one turn. -/
theorem InRound.round {prev : List (Task σ α)} (inRound : InRound prev l)
    (sound : l.Sound conduct) (busy : l.busy = true) :
    InRound l.tasks l.round ∧ l.round.state = (Batch.turn l.tasks l.state).1 ∧
      l.round.tasks = (Batch.turn l.tasks l.state).2 := by
  rcases inRound with ⟨queue, follows, verdict, spared⟩
  obtain ⟨-, alive, -⟩ := sound.lively spared
  have sweeping : Sweeping prev [] l.tasks [] l := by
    refine ⟨(List.nil_append _).symm, ?_, verdict, alive, sound.count, .inl (busy_iff.mp busy)⟩
    rw [queue, List.append_nil, List.length_nil]
  have swept := swept_agenda follows sweeping
  rw [List.length_nil, ← queue] at swept
  have step : l.kind = .step := by rw [kind, if_neg (by simp [spared])]
  rcases swept with ⟨state, tasks, queueAfter, verdictAfter, doomedAfter, -, -⟩
  rw [step, List.nil_append] at tasks
  rw [step, List.nil_append, ← tasks] at queueAfter
  rw [step] at state
  refine ⟨⟨queueAfter, ?_, verdictAfter, doomedAfter.trans spared⟩, state, tasks⟩
  rw [Loop.round, tasks]
  exact follows_each .step l.tasks l.state

theorem each_of_ended {ts : List (Task σ α)} (ended : ∀ t ∈ ts, t.ended = true)
    (kind : Task.Move) (s : σ) : Batch.each (Task.move kind) ts s = (s, ts) := by
  induction ts generalizing s with
  | nil => rfl
  | cons t ts ih =>
      rw [Batch.each, move_of_ended (ended t List.mem_cons_self)]
      dsimp only
      rw [ih fun other mem => ended other (List.mem_cons_of_mem _ mem)]

theorem turns_of_ended {ts : List (Task σ α)} (ended : ∀ t ∈ ts, t.ended = true) (n : Nat)
    (s : σ) : Batch.turns n ts s = (s, ts) := by
  induction n with
  | zero => rfl
  | succ n ih =>
      have same : Batch.turn ts s = (s, ts) := each_of_ended ended .step s
      rw [Batch.turns, same]
      exact ih

/-- When all tasks have ended, rounds change neither the state nor the tasks. -/
theorem rounds_of_no_resume (none_waits : ∀ place, .resume place ∉ l.queue) (n : Nat) :
    (rounds n l).state = l.state ∧ (rounds n l).tasks = l.tasks := by
  induction n generalizing l with
  | zero => exact ⟨rfl, rfl⟩
  | succ n ih =>
      obtain ⟨state, tasks, still⟩ := iterate_pop_of_no_resume none_waits l.queue.length
      obtain ⟨stateThen, tasksThen⟩ := ih still
      exact ⟨stateThen.trans state, tasksThen.trans tasks⟩

/-- After a number of rounds, the state and the tasks are those after as many
turns. -/
theorem InRound.rounds (never : ¬ conduct.halts) {prev : List (Task σ α)}
    (inRound : InRound prev l) (sound : l.Sound conduct) (n : Nat) :
    (rounds n l).state = (Batch.turns n l.tasks l.state).1 ∧
      (rounds n l).tasks = (Batch.turns n l.tasks l.state).2 ∧
      ((rounds n l).busy = true → ∃ prev, InRound prev (rounds n l)) := by
  induction n generalizing l prev with
  | zero => exact ⟨rfl, rfl, fun _ => ⟨prev, inRound⟩⟩
  | succ n ih =>
      cases busy : l.busy with
      | true =>
          obtain ⟨inRoundThen, state, tasks⟩ := inRound.round sound busy
          have rest := ih inRoundThen ((comes_iterate _ l).sound never sound)
          rw [state, tasks] at rest
          exact rest
      | false =>
          have ended := busy_eq_false_iff.mp busy
          obtain ⟨state, tasks⟩ :=
            rounds_of_no_resume (sound.no_resume_of_idle busy) (n + 1)
          rw [turns_of_ended ended]
          refine ⟨state, tasks, fun busyThen => ?_⟩
          rw [Loop.busy, tasks, ← Loop.busy, busy] at busyThen
          simp at busyThen

/-! ## The end of a call -/

theorem isSome_finish_pop (ended : l.finish.isSome) : l.pop.finish.isSome := by
  rw [pop.eq_def]
  split
  · exact ended
  · rw [resume]
    split <;> exact ended
  · next halted queue _ =>
    rcases hear_cases ({ l with queue } : Loop σ α) halted with same | ⟨results, -, same⟩
    · rw [same]
      exact ended
    · rw [same]
      exact ended
  · rw [wakeUp]
    split <;> rfl

/-- A call has ended once its own turn is over. -/
theorem isSome_finish_iterate {queue pushed : List Entry} (parts : l.queue = queue ++ pushed)
    (ends : l.finish.isSome ∨ .wake ∈ queue) : (pop^[queue.length] l).finish.isSome := by
  induction queue generalizing l pushed with
  | nil => simpa using ends
  | cons entry queue ih =>
      rw [List.cons_append] at parts
      rcases exists_queue_pop parts with ⟨new, afterwards, -⟩
      rw [List.append_assoc] at afterwards
      apply ih afterwards
      rcases ends with ended | awake
      · exact .inl (isSome_finish_pop ended)
      · rcases List.mem_cons.mp awake with rfl | later
        · left
          rw [pop_wake parts, wakeUp]
          split <;> rfl
        · exact .inr later

/-- Without turns of tasks, nothing but the turn of the call is added to the
queue. -/
theorem mem_queue_iterate {queue pushed : List Entry} (parts : l.queue = queue ++ pushed)
    (none_waits : ∀ place, .resume place ∉ l.queue) (isWake : ∀ entry ∈ pushed, entry = .wake) :
    ∀ entry ∈ (pop^[queue.length] l).queue, entry = .wake := by
  induction queue generalizing l pushed with
  | nil =>
      rw [List.nil_append] at parts
      rw [List.length_nil, Function.iterate_zero, id, parts]
      exact isWake
  | cons entry queue ih =>
      rw [List.cons_append] at parts
      rcases exists_queue_pop parts with ⟨new, afterwards, kinds⟩
      rw [List.append_assoc] at afterwards
      apply ih afterwards (pop_of_no_resume none_waits).2.2
      intro other otherMem
      rcases List.mem_append.mp otherMem with old | isNew
      · exact isWake other old
      · rcases kinds other isNew with isWake | ⟨place, isTurn⟩
        · exact isWake
        · exact absurd (by simp [parts, isTurn]) (none_waits place)

/-- A call ends within two rounds after the last of its tasks. -/
theorem Sound.isSome_finish_of_idle (never : ¬ conduct.halts) (sound : l.Sound conduct)
    (idle : l.busy = false) : l.round.round.finish.isSome := by
  have soundThen : l.round.Sound conduct := (comes_iterate _ l).sound never sound
  have parts : l.queue = l.queue ++ [] := (List.append_nil _).symm
  have wakes : ∀ entry ∈ l.round.queue, entry = .wake :=
    mem_queue_iterate parts (sound.no_resume_of_idle idle) (by simp)
  have partsThen : l.round.queue = l.round.queue ++ [] := (List.append_nil _).symm
  apply isSome_finish_iterate partsThen
  have none_left : l.round.queue.filterMap Entry.place? = [] := by
    rw [List.filterMap_eq_nil_iff]
    intro entry mem
    rw [wakes entry mem]
    rfl
  cases verdict : l.round.verdict with
  | none =>
      have count := soundThen.count
      have fewer := (soundThen.pending verdict).1
      rw [none_left, List.length_nil] at count
      omega
  | some results =>
      cases finish : l.round.finish with
      | some result => exact .inl rfl
      | none => exact .inr ((soundThen.decided results verdict).2 finish)

/-- A call that has not ended was busy two rounds before. -/
theorem busy_of_unfinished (never : ¬ conduct.halts) (sound : l.Sound conduct) {n : Nat}
    (unfinished : (rounds (n + 2) l).finish = none) : (rounds n l).busy = true := by
  by_contra isIdle
  have idle : (rounds n l).busy = false := by simpa using isIdle
  have ended := ((comes_rounds n l).sound never sound).isSome_finish_of_idle never idle
  have same : rounds (n + 2) l = (rounds n l).round.round := by
    rw [rounds, Function.iterate_succ_apply', Function.iterate_succ_apply', rounds]
  rw [← same, unfinished] at ended
  simp at ended

/-! ## A batch that is cancelled -/

theorem ended_cancel (t : Task σ α) (s : σ) : (t.cancel s).2.ended = true := by
  cases t <;> rfl

theorem ended_of_mem_cancelAll {ts : List (Task σ α)} {s : σ} :
    ∀ t ∈ (Batch.cancelAll ts s).2, t.ended = true := by
  induction ts generalizing s with
  | nil => simp [Batch.cancelAll, Batch.each]
  | cons t ts ih =>
      intro other otherMem
      rcases List.mem_cons.mp otherMem with rfl | later
      · exact ended_cancel t s
      · exact ih other later

theorem no_resume_agenda {prev ts : List (Task σ α)} (ended : ∀ t ∈ ts, t.ended = true)
    (start : Nat) : ∀ place, .resume place ∉ agenda start prev ts := by
  induction prev generalizing start ts with
  | nil => simp [agenda]
  | cons before prev ih =>
      cases ts with
      | nil => simp [agenda]
      | cons t ts =>
          intro place mem
          rw [agenda] at mem
          rcases List.mem_append.mp mem with first | later
          · split at first
            · simp at first
            · have same := List.mem_singleton.mp first
              rw [eq_comm, Entry.after_eq_resume_iff, ended t List.mem_cons_self] at same
              simp at same
          · exact ih (fun other mem => ended other (List.mem_cons_of_mem _ mem)) (start + 1)
              place later

/-- A call that is called off between two rounds has its unfinished tasks
cancelled, in order, and nothing else is done to the state. -/
theorem state_callOff_of_inRound (sound : l.Sound conduct) (unfinished : l.finish = none)
    (between : l.busy = true → ∃ prev, InRound prev l) {n : Nat}
    (enough : l.callOff.remaining ≤ n) :
    (pop^[n] l.callOff).state = (Batch.cancelAll l.tasks l.state).1 := by
  cases busy : l.busy with
  | false =>
      have still : ∀ place, .resume place ∉ l.callOff.queue :=
        sound.callOff.no_resume_of_idle (by rw [Loop.busy, tasks_callOff]; exact busy)
      have ended := busy_eq_false_iff.mp busy
      rw [(iterate_pop_of_no_resume still n).1, state_callOff]
      exact (congrArg Prod.fst (each_of_ended ended .cancel l.state)).symm
  | true =>
      rcases between busy with ⟨prev, queue, follows, verdict, spared⟩
      obtain ⟨-, alive, -⟩ := sound.lively spared
      have doomed : l.callOff = { l with doomed := true } := by
        rw [callOff, unfinished, Option.isSome_none, if_neg (by simp), if_pos ⟨verdict, busy⟩]
      have sweeping : Sweeping prev [] l.tasks [] ({ l with doomed := true } : Loop σ α) := by
        refine ⟨(List.nil_append _).symm, ?_, verdict, alive, sound.count, .inl (busy_iff.mp busy)⟩
        rw [queue, List.append_nil, List.length_nil]
      have swept := swept_agenda follows sweeping
      rw [List.length_nil, ← queue] at swept
      have still : ∀ place, .resume place ∉
          (pop^[l.queue.length] ({ l with doomed := true } : Loop σ α)).queue := by
        rw [swept.queue]
        have ended : ∀ t ∈ (Batch.each (Task.move ({ l with doomed := true } : Loop σ α).kind)
            l.tasks l.state).2, t.ended = true := ended_of_mem_cancelAll
        exact no_resume_agenda ended _
      have split : n = (n - l.queue.length) + l.queue.length := by
        have all := length_queue_le l.callOff
        have same : l.callOff.queue = l.queue := by rw [doomed]
        rw [same] at all
        omega
      rw [doomed, split, Function.iterate_add_apply, (iterate_pop_of_no_resume still _).1,
        swept.state]
      rfl

theorem agenda_of_unfinished {ts : List (Task σ α)} (waits : ∀ t ∈ ts, t.ended = false)
    (start : Nat) : agenda start ts ts = (List.range' start ts.length).map .resume := by
  induction ts generalizing start with
  | nil => rfl
  | cons t ts ih =>
      have unfinished := waits t List.mem_cons_self
      rw [agenda, ih fun other mem => waits other (List.mem_cons_of_mem _ mem), Entry.after,
        unfinished]
      rfl

/-- When a call begins, the first turns of all its tasks are on the agenda. -/
theorem inRound_begin (ps : List (Process σ α)) (s : σ) :
    InRound (ps.map Task.ofProcess) (begin ps s) := by
  have waits : ∀ t ∈ ps.map Task.ofProcess, t.ended = false := by
    simp [Task.ofProcess, Task.ended]
  refine ⟨?_, ?_, rfl, rfl⟩
  · have queue := agenda_of_unfinished waits 0
    rw [List.length_map, ← List.range_eq_range'] at queue
    exact queue.symm
  · exact List.forall₂_same.mpr fun _ _ ended => ended

/-- Tasks that do not end by cancellations of their own are cancelled after the
last turn. -/
theorem cancelAfter_eq {inv : σ → Prop} {posts : List (α → Prop)} {ts : List (Task σ α)}
    (ensure : Batch.Ensure inv posts ts) {s : σ} (holds : inv s) (n : Nat) :
    Batch.cancelAfter n ts s = (Batch.cancelAll (Batch.turns n ts s).2 (Batch.turns n ts s).1).1 := by
  induction n generalizing ts s with
  | zero => rfl
  | succ n ih =>
      rcases ensure.turn holds with ⟨turnHolds, turnEnsure⟩
      rw [Batch.cancelAfter]
      dsimp only
      rw [turnEnsure.haltedAt?]
      exact ih turnEnsure turnHolds

/-- A batch that is cancelled after a number of turns is the call in the event
loop, called off after as many rounds. -/
theorem Ready.runCancelled_eq {ps : List (Process σ α)} {s : σ} (ready : Ready conduct ps s)
    {count n : Nat} (unfinished : (Loop.rounds count (begin ps s)).finish = none)
    (enough : (Loop.rounds count (begin ps s)).callOff.remaining ≤ n) :
    Batch.runCancelled count ps s =
      ((Loop.pop^[n] (Loop.rounds count (begin ps s)).callOff).state, none) := by
  have sound := ready.sound
  have reached (turns : Nat) := (inRound_begin ps s).rounds ready.never sound turns
  obtain ⟨state, tasks, between⟩ := reached count
  have comes : (begin ps s).Comes conduct (Loop.rounds count (begin ps s)) :=
    comes_rounds count _
  have soundThen := comes.sound ready.never sound
  have ended := state_callOff_of_inRound soundThen unfinished between enough
  have busy : (Loop.rounds (count - 2) (begin ps s)).busy = true := by
    rcases Nat.lt_or_ge count 2 with early | late
    · rw [Nat.sub_eq_zero_of_le (Nat.le_of_lt early), busy_iff]
      rcases List.exists_mem_of_ne_nil ps ready.some_task with ⟨p, pMem⟩
      exact ⟨Task.ofProcess p, List.mem_map_of_mem pMem, rfl⟩
    · apply busy_of_unfinished ready.never sound
      rw [Nat.sub_add_cancel late]
      exact unfinished
  have unsettled : Batch.results?
      (Batch.turns (count - 2) (ps.map Task.ofProcess) s).2 = none := by
    cases results : Batch.results? (Batch.turns (count - 2) (ps.map Task.ofProcess) s).2 with
    | none => rfl
    | some as =>
        rcases busy_iff.mp busy with ⟨t, tMem, waits⟩
        rw [(reached (count - 2)).2.1] at tMem
        have finished := Batch.map_finished_of_results? results
        rw [begin, finished] at tMem
        rcases List.mem_map.mp tMem with ⟨a, -, rfl⟩
        simp [Task.ended] at waits
  have ensure : Batch.Ensure conduct.holds (ps.map fun _ => fun _ => True)
      (ps.map Task.ofProcess) := by
    apply Batch.ensure_ofProcess
    rw [List.forall₂_map_left_iff, List.forall₂_same]
    exact fun p pMem => (ready.heeds p pMem).ensures ready.never
  rw [Batch.runCancelled]
  dsimp only
  rw [unsettled, cancelAfter_eq ensure ready.holds, ended, tasks, state]
  rfl

end Loop

end PromptDispatch
