import Mathlib.Algebra.GroupWithZero.Nat
import PromptDispatch.Proofs.Process.Loop

/-!
# Calls that are called off

From when a call is called off, its tasks are only cancelled: each one runs the
handler of the pause at which it stood and nothing else.  The call ends by a
cancellation, after all its tasks, as soon as what was to come has been done;
nothing that others do in between can change that.
-/

namespace PromptDispatch

namespace Loop

variable {σ α : Type} {conduct : Conduct σ} {l : Loop σ α}

/-- What is true of a call from when it is called off. -/
structure CalledOff (l : Loop σ α) : Prop where
  lost : l.interrupted = true ∨ (l.doomed = true ∧ l.verdict ≠ some true)
  /-- no task has another turn but to be cancelled -/
  still : l.doomed = false → ∀ place, .resume place ∉ l.queue
  failed : ∀ result, l.finish = some result → result = none

theorem Sound.calledOff (sound : l.Sound conduct) (unfinished : l.finish = none) :
    l.callOff.CalledOff := by
  rw [Loop.callOff, unfinished, Option.isSome_none, if_neg (by simp)]
  split
  · next waits =>
    exact ⟨.inr ⟨rfl, by simp [waits.1]⟩, by simp, by simp⟩
  · next decided =>
    refine ⟨.inl rfl, fun _ => ?_, by simp⟩
    cases verdict : l.verdict with
    | some results => exact (sound.decided results verdict).1
    | none => exact sound.no_resume_of_idle (by simpa [verdict] using decided)

theorem state_callOff (l : Loop σ α) : l.callOff.state = l.state := by
  rw [callOff]
  split
  · rfl
  · split <;> rfl

theorem tasks_callOff (l : Loop σ α) : l.callOff.tasks = l.tasks := by
  rw [callOff]
  split
  · rfl
  · split <;> rfl

/-- All that the next thing can do to a call that is called off: nothing to the
state and the tasks, or an unfinished task is cancelled. -/
inductive Cancels (l : Loop σ α) : σ → List (Task σ α) → Prop where
  | nothing : Cancels l l.state l.tasks
  | cancel {place : Nat} {onCancel : σ → σ} {rest : Process σ α}
      (waits : l.tasks[place]? = some (.waiting onCancel rest)) :
      Cancels l (onCancel l.state) (l.tasks.set place .halted)

/-- How much is still to come. -/
def remaining (l : Loop σ α) : Nat := (l.queue.map Entry.weight).sum

theorem length_queue_le (l : Loop σ α) : l.queue.length ≤ l.remaining := by
  rw [remaining]
  generalize l.queue = queue
  induction queue with
  | nil => exact Nat.le_refl 0
  | cons entry queue ih =>
      have positive : 1 ≤ entry.weight := by cases entry <;> simp [Entry.weight]
      simp only [List.length_cons, List.map_cons, List.sum_cons]
      omega

/-- All that the next thing does to a call that is called off. -/
structure Winds (l after : Loop σ α) : Prop where
  calledOff : after.CalledOff
  cancels : l.Cancels after.state after.tasks
  less : l.queue ≠ [] → after.remaining < l.remaining
  stays : l.finish.isSome → after.finish.isSome

theorem CalledOff.resume (calledOff : l.CalledOff) (sound : l.Sound conduct) {place : Nat}
    {rest : List Entry} (queue : l.queue = .resume place :: rest) :
    l.Winds (({ l with queue := rest } : Loop σ α).resume place) := by
  rcases (sound.resumes place).mp (by simp [queue]) with ⟨t, isTask, unfinished⟩
  rcases Task.ended_eq_false_iff.mp unfinished with ⟨onCancel, next, rfl⟩
  have doomed : l.doomed = true := by
    by_contra spared
    exact calledOff.still (by simpa using spared) place (by simp [queue])
  rw [resume_eq isTask]
  simp only [kind, doomed, if_true, Task.move, Task.cancel]
  refine ⟨⟨?_, by simp, calledOff.failed⟩, .cancel isTask, ?_, fun ended => ended⟩
  · rcases calledOff.lost with interrupted | ⟨-, verdict⟩
    · exact .inl interrupted
    · exact .inr ⟨rfl, verdict⟩
  · intro _
    simp [remaining, queue, Entry.after, Task.ended, Entry.weight]
    omega

theorem hear_cases (l : Loop σ α) (halted : Bool) :
    l.hear halted = { l with heard := l.heard + 1 } ∨
      ∃ results, (l.doomed = true → results = false) ∧
        l.hear halted = ({ l with heard := l.heard + 1 } : Loop σ α).comeOut results := by
  rw [hear]
  split
  · exact .inl rfl
  · split
    · exact .inr ⟨false, fun _ => rfl, rfl⟩
    · split
      · exact .inr ⟨!l.doomed, fun doomed => by simp [doomed], rfl⟩
      · exact .inl rfl

theorem CalledOff.hear (calledOff : l.CalledOff) {place : Nat} {halted : Bool}
    {rest : List Entry} (queue : l.queue = .news place halted :: rest) :
    l.Winds (({ l with queue := rest } : Loop σ α).hear halted) := by
  have still : l.doomed = false → ∀ other, .resume other ∉ rest := by
    intro spared other mem
    apply calledOff.still spared other
    rw [queue]
    exact List.mem_cons_of_mem _ mem
  rcases hear_cases ({ l with queue := rest } : Loop σ α) halted with
    same | ⟨results, without, same⟩
  · rw [same]
    refine ⟨⟨calledOff.lost, still, calledOff.failed⟩, .nothing, ?_, fun ended => ended⟩
    intro _
    simp [remaining, queue, Entry.weight]
  · rw [same]
    refine ⟨⟨?_, ?_, calledOff.failed⟩, .nothing, ?_, fun ended => ended⟩
    · rcases calledOff.lost with interrupted | ⟨doomed, -⟩
      · exact .inl interrupted
      · exact .inr ⟨doomed, by simp [comeOut, without doomed]⟩
    · intro spared other mem
      rcases List.mem_append.mp mem with old | new
      · exact still spared other old
      · simp at new
    · intro _
      simp [remaining, comeOut, queue, Entry.weight]
      omega

theorem CalledOff.wakeUp (calledOff : l.CalledOff) (sound : l.Sound conduct) {rest : List Entry}
    (queue : l.queue = .wake :: rest) :
    l.Winds (({ l with queue := rest } : Loop σ α).wakeUp) := by
  rcases sound.verdict_of_wake (by simp [queue]) with ⟨results, verdict⟩
  have idle : ({ l with queue := rest } : Loop σ α).busy = false :=
    sound.idle_of_verdict verdict
  have none_waits := (sound.decided results verdict).1
  rw [wakeUp_eq idle]
  refine ⟨⟨calledOff.lost, ?_, ?_⟩, .nothing, ?_, fun _ => rfl⟩
  · intro _ other mem
    apply none_waits other
    rw [queue]
    exact List.mem_cons_of_mem _ mem
  · intro result finish
    have failed : ¬ (l.verdict = some true ∧ l.interrupted = false) := by
      rintro ⟨isVerdict, uninterrupted⟩
      rcases calledOff.lost with interrupted | ⟨-, lost⟩
      · simp [uninterrupted] at interrupted
      · exact lost isVerdict
    rw [if_neg failed] at finish
    exact (Option.some.inj finish).symm
  · intro _
    simp [remaining, queue, Entry.weight]

/-- Whatever is done next, a call that is called off winds down. -/
theorem CalledOff.pop (calledOff : l.CalledOff) (sound : l.Sound conduct) : l.Winds l.pop := by
  rw [Loop.pop.eq_def]
  split
  · next empty => exact ⟨calledOff, .nothing, fun some_left => absurd empty some_left, id⟩
  · next queue => exact calledOff.resume sound queue
  · next queue => exact calledOff.hear queue
  · next queue => exact calledOff.wakeUp sound queue

/-! ## Runs -/

/-- The moments that come about in a loop: the next thing is done, and in
between others change the state. -/
inductive Comes (conduct : Conduct σ) (l : Loop σ α) : Loop σ α → Prop where
  | refl : Comes conduct l l
  | pop {l' : Loop σ α} (before : Comes conduct l l') : Comes conduct l l'.pop
  | meanwhile {l' : Loop σ α} {s : σ} (keeps : conduct.holds l'.state → conduct.holds s)
      (before : Comes conduct l l') : Comes conduct l { l' with state := s }

variable {l' : Loop σ α}

theorem Comes.sound (never : ¬ conduct.halts) (sound : l.Sound conduct)
    (comes : l.Comes conduct l') : l'.Sound conduct := by
  induction comes with
  | refl => exact sound
  | pop _ ih => exact ih.pop never
  | meanwhile keeps _ ih => exact ih.meanwhile keeps

/-- Tasks as they were when their call was called off, or cancelled since. -/
def SinceThen (before after : List (Task σ α)) : Prop :=
  ∀ place : Nat, after[place]? = before[place]? ∨
    ∃ onCancel rest, before[place]? = some (Task.waiting onCancel rest) ∧
      after[place]? = some Task.halted

/-- A task that has not been cancelled since is as it was. -/
theorem SinceThen.of_waiting {before after : List (Task σ α)} (since : SinceThen before after)
    {place : Nat} {onCancel : σ → σ} {rest : Process σ α}
    (waits : after[place]? = some (.waiting onCancel rest)) :
    before[place]? = some (.waiting onCancel rest) := by
  rcases since place with same | ⟨_, _, -, halted⟩
  · rw [← same, waits]
  · simp [halted] at waits

theorem Cancels.sinceThen {before : List (Task σ α)} {s : σ} {ts : List (Task σ α)}
    (since : SinceThen before l.tasks) (cancels : l.Cancels s ts) : SinceThen before ts := by
  cases cancels with
  | nothing => exact since
  | @cancel place onCancel rest waits =>
      intro other
      by_cases own : place = other
      · subst own
        have inside := (List.getElem?_eq_some_iff.mp waits).1
        exact .inr ⟨onCancel, rest, since.of_waiting waits, List.getElem?_set_self inside⟩
      · rw [List.getElem?_set_ne own]
        exact since other

/-- From when a call is called off, its tasks are only cancelled. -/
theorem Comes.calledOff (never : ¬ conduct.halts) (sound : l.Sound conduct)
    (unfinished : l.finish = none) (comes : l.callOff.Comes conduct l') :
    l'.CalledOff ∧ SinceThen l.tasks l'.tasks := by
  induction comes with
  | refl =>
      rw [tasks_callOff]
      exact ⟨sound.calledOff unfinished, fun _ => .inl rfl⟩
  | pop before ih =>
      rcases ih with ⟨calledOff, since⟩
      have winds := calledOff.pop (before.sound never sound.callOff)
      exact ⟨winds.calledOff, winds.cancels.sinceThen since⟩
  | meanwhile _ _ ih =>
      rcases ih with ⟨⟨lost, still, failed⟩, since⟩
      exact ⟨⟨lost, still, failed⟩, since⟩

/-- The loop after a number of things were done, others changing the state
before each of them. -/
def after (others : Nat → σ → σ) : Nat → Loop σ α → Loop σ α
  | 0, l => l
  | n + 1, l => ({ after others n l with state := others n (after others n l).state }).pop

theorem comes_after {others : Nat → σ → σ}
    (keeps : ∀ n s, conduct.holds s → conduct.holds (others n s)) (n : Nat) (l : Loop σ α) :
    l.Comes conduct (after others n l) := by
  induction n with
  | zero => exact .refl
  | succ n ih => exact (ih.meanwhile (keeps n _)).pop

theorem Sound.queue_ne_nil (sound : l.Sound conduct) (unfinished : l.finish = none) :
    l.queue ≠ [] := by
  intro empty
  cases verdict : l.verdict with
  | none =>
      have count := sound.count
      have fewer := (sound.pending verdict).1
      rw [empty] at count
      simp only [List.filterMap_nil, List.length_nil] at count
      omega
  | some results =>
      have awake := (sound.decided results verdict).2 unfinished
      simp [empty] at awake

/-- A call that is called off ends by a cancellation, once as much was done as
there was still to come, whatever others do meanwhile. -/
theorem finish_after (never : ¬ conduct.halts) (sound : l.Sound conduct)
    (unfinished : l.finish = none) {others : Nat → σ → σ}
    (keeps : ∀ n s, conduct.holds s → conduct.holds (others n s)) {n : Nat}
    (enough : l.callOff.remaining ≤ n) : (after others n l.callOff).finish = some none := by
  have progress (m : Nat) : (after others m l.callOff).finish.isSome ∨
      (after others m l.callOff).remaining + m ≤ l.callOff.remaining := by
    induction m with
    | zero => exact .inr (Nat.le_refl _)
    | succ m ih =>
        have comes : l.callOff.Comes conduct
            { after others m l.callOff with state := others m (after others m l.callOff).state } :=
          (comes_after keeps m l.callOff).meanwhile (keeps m _)
        have soundThen := comes.sound never sound.callOff
        have winds := (comes.calledOff never sound unfinished).1.pop soundThen
        rcases ih with ended | less
        · exact .inl (winds.stays ended)
        · cases finish : (after others m l.callOff).finish with
          | some result => exact .inl (winds.stays (by simp [finish]))
          | none =>
              have lessNow := winds.less (soundThen.queue_ne_nil finish)
              right
              simp only [after]
              simp only [remaining] at *
              omega
  have comes := comes_after keeps n l.callOff
  have failed := (comes.calledOff never sound unfinished).1.failed
  rcases progress n with ended | less
  · rcases Option.isSome_iff_exists.mp ended with ⟨result, finish⟩
    rw [finish, failed result finish]
  · have soundThen := comes.sound never sound.callOff
    cases finish : (after others n l.callOff).finish with
    | some result => rw [failed result finish]
    | none =>
        have some_left := List.length_pos_iff.mpr (soundThen.queue_ne_nil finish)
        have more := length_queue_le (after others n l.callOff)
        omega

end Loop

end PromptDispatch
