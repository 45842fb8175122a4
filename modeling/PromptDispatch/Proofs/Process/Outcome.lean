import PromptDispatch.Proofs.Process.Rounds

/-!
# Calls that are left alone

A call that nobody calls off ends with what its batch comes to when it is run
turn by turn.  It makes no difference to a call that has ended to be called off.
-/

namespace PromptDispatch

namespace Batch

variable {σ α : Type} {inv : σ → Prop}

/-! ## Runs and turns -/

theorem turns_add (m n : Nat) (ts : List (Task σ α)) (s : σ) :
    turns (m + n) ts s = turns n (turns m ts s).2 (turns m ts s).1 := by
  induction m generalizing ts s with
  | zero => rw [Nat.zero_add, turns]
  | succ m ih =>
      rw [Nat.succ_add, turns, turns]
      exact ih _ _

theorem turns_cons_finished (n : Nat) (a : α) (ts : List (Task σ α)) (s : σ) :
    turns n (.finished a :: ts) s = ((turns n ts s).1, .finished a :: (turns n ts s).2) := by
  induction n generalizing ts s with
  | zero => rfl
  | succ n ih => exact ih _ _

/-- Running along a leading process takes a number of turns, and then goes on
with the others. -/
theorem exists_turns_lead {post : α → Prop} {posts : List (α → Prop)} {p : Process σ α}
    (ensures : p.Ensures inv post) {ts : List (Task σ α)} (ensure : Ensure inv posts ts) {s : σ}
    (holds : inv s) (onCancel : σ → σ) :
    ∃ n a after left, turns (n + 1) (.waiting onCancel p :: ts) s = (after, .finished a :: left) ∧
      inv after ∧ Ensure inv posts left ∧
      ∀ others, lead others p ts s =
        ((others left after).1, (others left after).2.map (a :: ·)) := by
  induction p generalizing ts s onCancel with
  | done a =>
      rcases ensure.turn holds with ⟨turnHolds, turnEnsure⟩
      refine ⟨0, a, (turn ts s).1, (turn ts s).2, rfl, turnHolds, turnEnsure, ?_⟩
      intro others
      simp only [lead, turnEnsure.haltedAt?]
  | halted => exact ensures.elim
  | act change next ih =>
      rcases ensures s holds with ⟨kept, rest⟩
      exact ih s rest ensure kept onCancel
  | pause waitCancel next ih =>
      rcases ensure.turn holds with ⟨turnHolds, turnEnsure⟩
      obtain ⟨n, a, after, left, reached, afterHolds, leftEnsure, leads⟩ :=
        ih () ensures turnEnsure turnHolds waitCancel
      refine ⟨n + 1, a, after, left, reached, afterHolds, leftEnsure, ?_⟩
      intro others
      simp only [lead, turnEnsure.haltedAt?]
      exact leads others

theorem exists_turns_settle {count : Nat} {posts : List (α → Prop)} {ts : List (Task σ α)}
    (enough : ts.length ≤ count) (ensure : Ensure inv posts ts) {s : σ} (holds : inv s) :
    ∃ n as, turns n ts s = ((settle count ts s).1, as.map .finished) ∧
      (settle count ts s).2 = some as := by
  induction count generalizing posts ts s with
  | zero =>
      obtain rfl := List.eq_nil_of_length_eq_zero (Nat.le_zero.mp enough)
      exact ⟨0, [], by simp [turns, settle], by simp [settle]⟩
  | succ count ih =>
      cases ensure with
      | nil => exact ⟨0, [], by simp [turns, settle], by simp [settle]⟩
      | @cons post t posts ts head rest =>
          have shorter : ts.length ≤ count := by simpa using enough
          cases t with
          | finished a =>
              obtain ⟨n, as, reached, results⟩ := ih shorter rest holds
              refine ⟨n, a :: as, ?_, ?_⟩
              · rw [turns_cons_finished, reached]
                rfl
              · simp only [settle]
                rw [results]
                rfl
          | halted => exact head.elim
          | waiting onCancel p =>
              obtain ⟨m, a, after, left, reached, afterHolds, leftEnsure, leads⟩ :=
                exists_turns_lead head rest holds onCancel
              have leftShorter : left.length ≤ count := by
                rw [← leftEnsure.length_eq, rest.length_eq]
                exact shorter
              obtain ⟨n, as, reachedThen, results⟩ := ih leftShorter leftEnsure afterHolds
              refine ⟨m + 1 + n, a :: as, ?_, ?_⟩
              · rw [turns_add, reached, turns_cons_finished, reachedThen]
                simp only [settle]
                rw [leads]
                rfl
              · simp only [settle]
                rw [leads, results]
                rfl

/-- A batch of processes that ensure their results is run in turns, until all of
them have finished. -/
theorem exists_turns_run {posts : List (α → Prop)} {ps : List (Process σ α)}
    (ensure : List.Forall₂ (fun post p => Process.Ensures inv post p) posts ps) {s : σ}
    (holds : inv s) :
    ∃ n as, turns n (ps.map Task.ofProcess) s = ((run ps s).1, as.map .finished) ∧
      (run ps s).2 = some as :=
  exists_turns_settle (by simp) (ensure_ofProcess ensure) holds

theorem results?_map_finished (as : List α) :
    results? (as.map (Task.finished (σ := σ))) = some as := by
  induction as with
  | nil => rfl
  | cons a as ih => simp [results?, Task.result?, ih]

end Batch

namespace Loop

variable {σ α : Type} {conduct : Conduct σ} {l : Loop σ α}

/-! ## A call that is not called off -/

/-- What is true of a call that nobody calls off. -/
structure LeftAlone (l : Loop σ α) : Prop where
  spared : l.doomed = false
  uninterrupted : l.interrupted = false
  verdict : ∀ results, l.verdict = some results → results = true
  finish : ∀ result, l.finish = some result → result = Batch.results? l.tasks

theorem leftAlone_begin (ps : List (Process σ α)) (s : σ) : (begin ps s).LeftAlone :=
  ⟨rfl, rfl, by simp [begin], by simp [begin]⟩

theorem LeftAlone.pop (alone : l.LeftAlone) (sound : l.Sound conduct) : l.pop.LeftAlone := by
  rcases alone with ⟨spared, uninterrupted, verdict, finish⟩
  rw [Loop.pop.eq_def]
  split
  · exact ⟨spared, uninterrupted, verdict, finish⟩
  · next place rest queue =>
    rcases (sound.resumes place).mp (by simp [queue]) with ⟨t, isTask, -⟩
    rw [resume_eq isTask]
    refine ⟨spared, uninterrupted, verdict, ?_⟩
    -- no task has a turn after the end of its call
    intro result ended
    rcases sound.verdict_of_finish ended with ⟨results, decided⟩
    exact absurd (by simp [queue]) ((sound.decided results decided).1 place)
  · next place halted rest queue =>
    obtain ⟨-, -, calm⟩ := sound.lively spared
    have unhalted : halted = false := by
      cases halted with
      | false => rfl
      | true => exact absurd (by simp [queue]) (calm place)
    rw [Loop.hear, unhalted]
    dsimp only
    split
    · exact ⟨spared, uninterrupted, verdict, finish⟩
    · split
      · next never => simp at never
      · split
        · refine ⟨spared, uninterrupted, ?_, finish⟩
          intro results decided
          rw [← Option.some.inj decided, spared]
          rfl
        · exact ⟨spared, uninterrupted, verdict, finish⟩
  · next rest queue =>
    rcases sound.verdict_of_wake (by simp [queue]) with ⟨results, decided⟩
    obtain rfl := verdict results decided
    rw [Loop.wakeUp, if_pos ⟨decided, uninterrupted⟩]
    exact ⟨spared, uninterrupted, verdict, fun _ ended => (Option.some.inj ended).symm⟩

theorem LeftAlone.iterate (alone : l.LeftAlone) (never : ¬ conduct.halts)
    (sound : l.Sound conduct) (n : Nat) : (Loop.pop^[n] l).LeftAlone := by
  induction n with
  | zero => exact alone
  | succ n ih =>
      rw [Function.iterate_succ_apply']
      exact ih.pop ((comes_iterate n l).sound never sound)

theorem LeftAlone.rounds (alone : l.LeftAlone) (never : ¬ conduct.halts)
    (sound : l.Sound conduct) (n : Nat) : (Loop.rounds n l).LeftAlone := by
  induction n with
  | zero => exact alone
  | succ n ih =>
      rw [Loop.rounds, Function.iterate_succ_apply']
      exact ih.iterate never ((comes_rounds n l).sound never sound) _

/-- A call does not end before its own turn. -/
theorem finish_iterate_of_no_wake {queue pushed : List Entry} (parts : l.queue = queue ++ pushed)
    (asleep : .wake ∉ queue) (unfinished : l.finish = none) :
    (pop^[queue.length] l).finish = none := by
  induction queue generalizing l pushed with
  | nil => exact unfinished
  | cons entry queue ih =>
      rw [List.cons_append] at parts
      rcases exists_queue_pop parts with ⟨new, afterwards, -⟩
      rw [List.append_assoc] at afterwards
      have asleepThen : .wake ∉ queue := fun mem => asleep (List.mem_cons_of_mem _ mem)
      apply ih afterwards asleepThen
      cases entry with
      | resume place =>
          rw [pop_resume parts, resume]
          split <;> exact unfinished
      | news place halted =>
          rw [pop_news parts]
          rcases hear_cases ({ l with queue := queue ++ pushed } : Loop σ α) halted with
            same | ⟨results, -, same⟩
          · rw [same]
            exact unfinished
          · rw [same]
            exact unfinished
      | wake => exact absurd List.mem_cons_self asleep

theorem finish_round_of_pending (sound : l.Sound conduct) (pending : l.verdict = none) :
    l.round.finish = none := by
  obtain ⟨-, unfinished, asleep⟩ := sound.pending pending
  exact finish_iterate_of_no_wake (List.append_nil _).symm asleep unfinished

theorem isSome_finish_rounds {m n : Nat} (later : m ≤ n)
    (ended : (rounds m l).finish.isSome) : (rounds n l).finish.isSome := by
  induction later with
  | refl => exact ended
  | step _ ih =>
      rw [rounds, Function.iterate_succ_apply']
      exact isSome_finish_iterate (List.append_nil _).symm (.inl ih)

/-- A call that was busy has not ended two rounds later: the news of the last
task is heard in one round, and the call has its turn in the next. -/
theorem unfinished_of_busy (never : ¬ conduct.halts) {prev : List (Task σ α)}
    (inRound : InRound prev l) (sound : l.Sound conduct) {n : Nat}
    (busy : (rounds n l).busy = true) : (rounds (n + 2) l).finish = none := by
  obtain ⟨-, -, between⟩ := inRound.rounds never sound n
  rcases between busy with ⟨before, inRoundThen⟩
  have soundThen := (comes_rounds n l).sound never sound
  obtain ⟨inRoundNext, -, -⟩ := inRoundThen.round soundThen busy
  have soundNext : (rounds n l).round.Sound conduct :=
    (comes_iterate _ _).sound never soundThen
  have two : rounds (n + 2) l = (rounds n l).round.round := by
    rw [rounds, Function.iterate_succ_apply', Function.iterate_succ_apply', rounds]
  rw [two]
  exact finish_round_of_pending soundNext inRoundNext.verdict

/-! ## What a call comes to -/

variable {ps : List (Process σ α)} {s : σ}

/-- Once all tasks have ended, the turns have come to what the batch comes to. -/
theorem Ready.turns_eq_run (ready : Ready conduct ps s) :
    ∃ n as, (Batch.run ps s).2 = some as ∧
      ∀ m, (∀ t ∈ (Batch.turns m (ps.map Task.ofProcess) s).2, t.ended = true) ∨ n ≤ m →
        Batch.turns m (ps.map Task.ofProcess) s = ((Batch.run ps s).1, as.map .finished) := by
  have ensure : List.Forall₂ (fun post p => Process.Ensures conduct.holds post p)
      (ps.map fun _ => fun _ => True) ps := by
    rw [List.forall₂_map_left_iff, List.forall₂_same]
    exact fun p pMem => (ready.heeds p pMem).ensures ready.never
  obtain ⟨n, as, reached, results⟩ := Batch.exists_turns_run ensure ready.holds
  have stays (m : Nat) (late : n ≤ m) :
      Batch.turns m (ps.map Task.ofProcess) s = ((Batch.run ps s).1, as.map .finished) := by
    have ended : ∀ t ∈ as.map (Task.finished (σ := σ)), t.ended = true := by
      simp [Task.ended]
    rw [← Nat.add_sub_cancel' late, Batch.turns_add, reached, turns_of_ended ended]
  refine ⟨n, as, results, ?_⟩
  rintro m (ended | late)
  · have same := Batch.turns_add m n (ps.map Task.ofProcess) s
    rw [turns_of_ended ended, stays _ (Nat.le_add_left n m)] at same
    exact same.symm
  · exact stays m late

/-- A call that has ended did so with what its batch comes to, and to cancel it
then changes nothing. -/
theorem Ready.run_eq_of_finish (ready : Ready conduct ps s) {count : Nat}
    {result : Option (List α)} (ended : (rounds count (begin ps s)).finish = some result) :
    Batch.run ps s = ((rounds count (begin ps s)).state, result) ∧
      Batch.runCancelled count ps s = ((rounds count (begin ps s)).state, result) := by
  have never := ready.never
  have sound := ready.sound
  have comes (m : Nat) : (begin ps s).Comes conduct (rounds m (begin ps s)) := comes_rounds m _
  have begun := inRound_begin ps s
  have reached (m : Nat) := begun.rounds never sound m
  obtain ⟨_, as, results, settled⟩ := ready.turns_eq_run
  have atEnd : Batch.turns count (ps.map Task.ofProcess) s =
      ((Batch.run ps s).1, as.map .finished) := by
    apply settled count
    left
    have allEnded := ((comes count).sound never sound).ended_of_finish ended
    rw [(reached count).2.1] at allEnded
    exact allEnded
  have earlier : Batch.turns (count - 2) (ps.map Task.ofProcess) s =
      ((Batch.run ps s).1, as.map .finished) := by
    apply settled (count - 2)
    left
    have isIdle : (rounds (count - 2) (begin ps s)).busy = false := by
      by_contra isBusy
      have unfinished := unfinished_of_busy never begun sound (by simpa using isBusy)
      have isEnd : (rounds count (begin ps s)).finish.isSome := by
        rw [ended]
        rfl
      have later : count ≤ count - 2 + 2 := by omega
      have endedThen := isSome_finish_rounds later isEnd
      simp [unfinished] at endedThen
    have allEnded := busy_eq_false_iff.mp isIdle
    rw [(reached (count - 2)).2.1] at allEnded
    exact allEnded
  have state : (rounds count (begin ps s)).state = (Batch.run ps s).1 := by
    rw [(reached count).1]
    exact congrArg Prod.fst atEnd
  have told : result = some as := by
    have alone := (leftAlone_begin ps s).rounds never sound count
    have tasks : (rounds count (begin ps s)).tasks = as.map .finished := by
      rw [(reached count).2.1]
      exact congrArg Prod.snd atEnd
    rw [alone.finish result ended, tasks, Batch.results?_map_finished]
  constructor
  · rw [state, told, ← results]
  · rw [Batch.runCancelled]
    dsimp only
    rw [earlier, Batch.results?_map_finished, state, told]

/-- A call that nobody calls off ends. -/
theorem Ready.exists_finish_rounds (ready : Ready conduct ps s) :
    ∃ count result, (rounds count (begin ps s)).finish = some result := by
  have never := ready.never
  have sound := ready.sound
  obtain ⟨n, as, -, settled⟩ := ready.turns_eq_run
  cases finish : (rounds (n + 2) (begin ps s)).finish with
  | some result => exact ⟨n + 2, result, finish⟩
  | none =>
      rcases busy_iff.mp (busy_of_unfinished never sound finish) with ⟨t, tMem, waits⟩
      have tasks := ((inRound_begin ps s).rounds never sound n).2.1
      have all : (Batch.turns n (ps.map Task.ofProcess) s).2 = as.map .finished :=
        congrArg Prod.snd (settled n (.inr (Nat.le_refl n)))
      rw [tasks, begin, all] at tMem
      rcases List.mem_map.mp tMem with ⟨a, -, rfl⟩
      simp [Task.ended] at waits

end Loop

end PromptDispatch
