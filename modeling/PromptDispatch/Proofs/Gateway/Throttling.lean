import Mathlib.Tactic.Linarith
import PromptDispatch.Gateway.Basic
import PromptDispatch.Proofs.Binary64.Value

/-!
# Calls of a throttle

A run makes calls and resets one after another and tells what each call comes to.  What a
throttle remembers after a run is the last accepted call, unless it was reset since then;
that call alone stands against the next one.  So a call is rejected exactly when less than
a window has passed since the standing call, a rejected call changes nothing, and what it
is told to wait is the time that is left: a retry is accepted as soon as that has passed,
and in whole seconds as soon as the response says.
-/

namespace PromptDispatch

namespace Throttle

/-- What is asked of a throttle. -/
inductive Call (τ : Type) where
  | acquire (time : τ)
  | reset
deriving DecidableEq

/-- What a throttle did. -/
inductive Event (τ : Type) where
  | accepted (time : τ)
  | rejected (time wait : τ)
  | reset
deriving DecidableEq

namespace Event

variable {τ : Type}

/-- What the throttle was asked. -/
def call : Event τ → Call τ
  | accepted time => .acquire time
  | rejected time _ => .acquire time
  | reset => .reset

/-- A call was rejected. -/
def IsRejection (e : Event τ) : Prop := ∃ time wait, e = rejected time wait

/-- The call that is remembered after an event. -/
def remembers (before : Option τ) : Event τ → Option τ
  | accepted time => some time
  | rejected _ _ => before
  | reset => none

end Event

section

variable {τ : Type}

/-- The time of a call. -/
def Call.time? : Call τ → Option τ
  | acquire time => some time
  | reset => none

/-- The call that is remembered after events. -/
def standing? (events : List (Event τ)) : Option τ := events.foldl Event.remembers none

/-- A call was accepted, and since then calls were only rejected. -/
def Stands (events : List (Event τ)) (time : τ) : Prop :=
  ∃ earlier later, events = earlier ++ .accepted time :: later ∧ ∀ e ∈ later, e.IsRejection

variable [Zero τ] [Sub τ] [LT τ] [DecidableLT τ]

/-- One call: the throttle after it, and what it did. -/
def step (t : Throttle τ) : Call τ → Throttle τ × Event τ
  | .acquire now =>
    match t.acquire now with
    | .error wait => (t, .rejected now wait)
    | .ok after => (after, .accepted now)
  | .reset => (t.reset, .reset)

/-- Calls one after another: the throttle after them, and what it did. -/
def run (t : Throttle τ) : List (Call τ) → Throttle τ × List (Event τ)
  | [] => (t, [])
  | c :: calls =>
    ((run (t.step c).1 calls).1, (t.step c).2 :: (run (t.step c).1 calls).2)

end

/-- The times of calls never run backwards. -/
def Forward (calls : List (Call ℚ)) : Prop := (calls.filterMap Call.time?).Pairwise (· ≤ ·)

/-! ## The standing call -/

section

variable {τ : Type} {events : List (Event τ)}

theorem standing?_append (events later : List (Event τ)) :
    standing? (events ++ later) = later.foldl Event.remembers (standing? events) := by
  rw [standing?, List.foldl_append, ← standing?]

theorem foldl_remembers_of_rejections {later : List (Event τ)}
    (rejections : ∀ e ∈ later, e.IsRejection) (before : Option τ) :
    later.foldl Event.remembers before = before := by
  induction later with
  | nil => rfl
  | cons e later ih =>
      rw [List.forall_mem_cons] at rejections
      obtain ⟨time, wait, rfl⟩ := rejections.1
      exact ih rejections.2

/-- What is remembered is the call that stands. -/
theorem standing?_eq_some_iff (time : τ) : standing? events = some time ↔ Stands events time := by
  constructor
  · intro isStanding
    induction events using List.reverseRecOn with
    | nil => cases isStanding
    | append_singleton events e ih =>
        rw [standing?_append, List.foldl_cons, List.foldl_nil] at isStanding
        cases e with
        | accepted own =>
            cases isStanding
            exact ⟨events, [], rfl, by simp⟩
        | rejected own wait =>
            obtain ⟨earlier, later, rfl, rejections⟩ := ih isStanding
            refine ⟨earlier, later ++ [.rejected own wait], by simp, ?_⟩
            rw [List.forall_mem_append, List.forall_mem_singleton]
            exact ⟨rejections, own, wait, rfl⟩
        | reset => cases isStanding
  · rintro ⟨earlier, later, rfl, rejections⟩
    rw [standing?_append, List.foldl_cons, Event.remembers,
      foldl_remembers_of_rejections rejections]

end

/-! ## Steps and runs -/

section

variable {τ : Type} [Zero τ] [Sub τ] [LT τ] [DecidableLT τ] (t : Throttle τ)

@[simp] theorem call_step (c : Call τ) : (t.step c).2.call = c := by
  cases c with
  | acquire now =>
      rw [step]
      cases t.acquire now <;> rfl
  | reset => rfl

/-- The throttle after a step is told by what it did. -/
theorem step_fst (c : Call τ) :
    (t.step c).1 = ⟨t.window, (t.step c).2.remembers t.accepted⟩ := by
  cases c with
  | acquire now =>
      rw [step, acquire]
      cases t.wait? now <;> rfl
  | reset => rfl

theorem step_eq_rejected_iff (now wait : τ) :
    (t.step (.acquire now)).2 = .rejected now wait ↔ t.wait? now = some wait := by
  rw [step, acquire]
  cases t.wait? now <;> simp

theorem step_eq_accepted_iff (now : τ) :
    (t.step (.acquire now)).2 = .accepted now ↔ t.wait? now = none := by
  rw [step, acquire]
  cases t.wait? now <;> simp

theorem run_append (calls more : List (Call τ)) :
    t.run (calls ++ more) =
      (((t.run calls).1.run more).1, (t.run calls).2 ++ ((t.run calls).1.run more).2) := by
  induction calls generalizing t with
  | nil => rfl
  | cons c calls ih => rw [List.cons_append, run, ih, run, List.cons_append]

theorem map_call_run (calls : List (Call τ)) : (t.run calls).2.map Event.call = calls := by
  induction calls generalizing t with
  | nil => rfl
  | cons c calls ih => rw [run, List.map_cons, call_step, ih]

/-- The throttle after a run is told by what it did. -/
theorem run_fst (calls : List (Call τ)) :
    (t.run calls).1 = ⟨t.window, (t.run calls).2.foldl Event.remembers t.accepted⟩ := by
  induction calls generalizing t with
  | nil => rfl
  | cons c calls ih => rw [run, ih, step_fst, List.foldl_cons]

/-- What a fresh throttle did in a run is the same up to any place when it is asked up to
there, and goes on from there. -/
theorem run_split {window : τ} {calls : List (Call τ)} {before after : List (Event τ)}
    (events : ((fresh window).run calls).2 = before ++ after) :
    (fresh window).run (before.map Event.call) = (⟨window, standing? before⟩, before) ∧
      run ⟨window, standing? before⟩ (after.map Event.call) =
        (((fresh window).run calls).1, after) := by
  have asked : calls = before.map Event.call ++ after.map Event.call := by
    rw [← List.map_append, ← events, map_call_run]
  -- What is asked up to the place does as many things as stand before it, so the whole run
  -- splits there.
  have sameLength : ((fresh window).run (before.map Event.call)).2.length = before.length := by
    have told := congrArg List.length (map_call_run (fresh window) (before.map Event.call))
    rwa [List.length_map, List.length_map] at told
  have whole := run_append (fresh window) (before.map Event.call) (after.map Event.call)
  rw [← asked] at whole
  have told := events
  rw [whole] at told
  obtain ⟨first, second⟩ := List.append_inj told sameLength
  have left := run_fst (fresh window) (before.map Event.call)
  rw [first] at left
  refine ⟨Prod.ext left first, Prod.ext ?_ ?_⟩
  · rw [whole, left]
    rfl
  · rw [left] at second
    exact second

/-- Every event of a run is what the throttle does that remembers the call which stands
before it. -/
theorem event_of_split {window : τ} {calls : List (Call τ)} {before after : List (Event τ)}
    {e : Event τ} (events : ((fresh window).run calls).2 = before ++ e :: after) :
    (step ⟨window, standing? before⟩ e.call).2 = e := by
  have onwards := congrArg Prod.snd (run_split events).2
  rw [List.map_cons, run] at onwards
  exact (List.cons.inj onwards).1

end

/-! ## Rejections -/

/-- A call has to wait when another stands against it. -/
theorem wait?_eq_some_iff (window now wait : ℚ) (before : Option ℚ) :
    wait? ⟨window, before⟩ now = some wait ↔
      ∃ earlier, before = some earlier ∧ 0 < window ∧ now - earlier < window ∧
        wait = window - (now - earlier) := by
  rw [wait?]
  cases before with
  | none => simp
  | some earlier =>
      by_cases positive : 0 < window
      · by_cases soon : now - earlier < window
        · simp [positive, soon, eq_comm]
        · simp [positive, soon]
      · simp [positive]

/-- What is told to wait is let in once that has passed, and not before. -/
theorem wait?_eq_none_iff_of_waits {window now wait : ℚ} {before : Option ℚ}
    (waits : wait? ⟨window, before⟩ now = some wait) (retry : ℚ) :
    wait? ⟨window, before⟩ retry = none ↔ now + wait ≤ retry := by
  obtain ⟨earlier, rfl, positive, -, rfl⟩ := (wait?_eq_some_iff _ _ _ _).mp waits
  rw [Option.eq_none_iff_forall_ne_some]
  constructor
  · intro passes
    by_contra tooEarly
    refine passes (window - (retry - earlier)) ?_
    rw [wait?_eq_some_iff]
    exact ⟨earlier, rfl, positive, by linarith, rfl⟩
  · intro late again waitsAgain
    obtain ⟨_, isEarlier, -, soon, -⟩ := (wait?_eq_some_iff _ _ _ _).mp waitsAgain
    cases isEarlier
    linarith

section

variable {window : ℚ} {calls : List (Call ℚ)} {before after : List (Event ℚ)}

theorem rejected_iff_of_split {e : Event ℚ} {now : ℚ}
    (events : ((fresh window).run calls).2 = before ++ e :: after)
    (asked : e.call = .acquire now) (wait : ℚ) :
    e = .rejected now wait ↔ wait? ⟨window, standing? before⟩ now = some wait := by
  have did := event_of_split events
  rw [asked] at did
  rw [← did, step_eq_rejected_iff]

theorem accepted_iff_of_split {e : Event ℚ} {now : ℚ}
    (events : ((fresh window).run calls).2 = before ++ e :: after)
    (asked : e.call = .acquire now) :
    e = .accepted now ↔ wait? ⟨window, standing? before⟩ now = none := by
  have did := event_of_split events
  rw [asked] at did
  rw [← did, step_eq_accepted_iff]

/-- Time does not run backwards between the calls of a run. -/
theorem le_of_split (forward : Forward calls) {earlier later : Event ℚ} {between : List (Event ℚ)}
    (events : ((fresh window).run calls).2 = before ++ earlier :: between ++ later :: after)
    {time now : ℚ} (asked : earlier.call = .acquire time) (askedThen : later.call = .acquire now) :
    time ≤ now := by
  have made := map_call_run (fresh window) calls
  rw [events] at made
  rw [Forward, ← made] at forward
  simp only [List.map_append, List.map_cons, asked, askedThen, List.filterMap_append,
    List.filterMap_cons, Call.time?] at forward
  have ordered := (List.pairwise_append.mp forward).2.2
  exact ordered time (by simp) now (by simp)

/-- A rejected call waits for what is left of the window since the call that stands, which
came before it. -/
theorem wait_of_rejected (forward : Forward calls) {now wait : ℚ}
    (events : ((fresh window).run calls).2 = before ++ .rejected now wait :: after) :
    0 < wait ∧ wait ≤ window := by
  have waits := (rejected_iff_of_split events rfl wait).mp rfl
  obtain ⟨earlier, isStanding, -, soon, rfl⟩ := (wait?_eq_some_iff _ _ _ _).mp waits
  obtain ⟨first, later, rfl, -⟩ := (standing?_eq_some_iff earlier).mp isStanding
  have ordered : earlier ≤ now := le_of_split forward events rfl rfl
  constructor <;> linarith

end

/-! ## What calls come to -/

/-- What a throttle of a window answers to calls. -/
structure Answers (window : ℚ) (calls : List (Call ℚ)) (events : List (Event ℚ)) : Prop where
  /-- every call is answered, in order -/
  asked : events.map Event.call = calls
  /-- a window that is not positive lets everything in -/
  unlimited : window ≤ 0 → ∀ e ∈ events, ∀ now, e.call = .acquire now → e = .accepted now
  /-- a call is rejected exactly when another stands against it -/
  limited : 0 < window → ∀ (before : List (Event ℚ)) (e : Event ℚ) (after : List (Event ℚ)) now,
    events = before ++ e :: after → e.call = .acquire now →
      (e.IsRejection ↔ ∃ earlier, Stands before earlier ∧ now - earlier < window)
  /-- accepted calls keep their distance until a reset -/
  apart : ∀ (before between after : List (Event ℚ)) (earlier now : ℚ),
    events = before ++ Event.accepted earlier :: between ++ Event.accepted now :: after →
      .reset ∉ between → window ≤ now - earlier
  /-- a rejected call makes no difference to what comes after it -/
  traceless : ∀ (before after : List (Event ℚ)) (now wait : ℚ),
    events = before ++ Event.rejected now wait :: after →
      (fresh window).run ((before ++ after).map Event.call) =
        (((fresh window).run calls).1, before ++ after)
  /-- what a rejected call is told to wait is positive and within the window -/
  wait : ∀ now wait, .rejected now wait ∈ events → 0 < wait ∧ wait ≤ window
  /-- the next call is accepted exactly when it comes that late -/
  next : ∀ (before between after : List (Event ℚ)) (e : Event ℚ) (now wait retry : ℚ),
    events = before ++ Event.rejected now wait :: between ++ e :: after →
      (∀ e ∈ between, e.IsRejection) → e.call = .acquire retry →
        (e = .accepted retry ↔ now + wait ≤ retry)
  /-- the response says the least number of seconds after which a retry is accepted -/
  seconds : ∀ (before : List (Event ℚ)) (now wait : ℚ),
    events = before ++ [Event.rejected now wait] →
      IsLeast {seconds : ℤ | 0 < seconds ∧
          ((fresh window).run (calls ++ [Call.acquire (now + (seconds : ℚ))])).2 =
            events ++ [Event.accepted (now + (seconds : ℚ))]} (max 1 ⌈wait⌉) ∧
        ∀ told : Binary64, told.value? = some wait →
          (Gateway.promptResponse (.failed (.rateLimited told))).retryAfter = some (max 1 ⌈wait⌉)

section

variable {window : ℚ} {calls : List (Call ℚ)} {before after : List (Event ℚ)}

/-- An event is a rejection exactly when its call has to wait. -/
theorem isRejection_iff_of_split {e : Event ℚ} {now : ℚ}
    (events : ((fresh window).run calls).2 = before ++ e :: after)
    (asked : e.call = .acquire now) :
    e.IsRejection ↔ 0 < window ∧ ∃ earlier, Stands before earlier ∧ now - earlier < window := by
  have isRejection : e.IsRejection ↔ ∃ wait, e = .rejected now wait := by
    constructor
    · rintro ⟨time, wait, rfl⟩
      cases asked
      exact ⟨wait, rfl⟩
    · rintro ⟨wait, rfl⟩
      exact ⟨now, wait, rfl⟩
  rw [isRejection]
  simp only [rejected_iff_of_split events asked, wait?_eq_some_iff, standing?_eq_some_iff]
  constructor
  · rintro ⟨_, earlier, isStanding, positive, soon, -⟩
    exact ⟨positive, earlier, isStanding, soon⟩
  · rintro ⟨positive, earlier, isStanding, soon⟩
    exact ⟨_, earlier, isStanding, positive, soon, rfl⟩

/-- Until a reset, the call that is remembered is the last that was accepted. -/
theorem foldl_remembers_of_unreset {between : List (Event ℚ)} (unreset : .reset ∉ between)
    (time : ℚ) : ∃ latest, between.foldl Event.remembers (some time) = some latest ∧
      (latest = time ∨ .accepted latest ∈ between) := by
  induction between generalizing time with
  | nil => exact ⟨time, rfl, .inl rfl⟩
  | cons e between ih =>
      rw [List.mem_cons, not_or] at unreset
      cases e with
      | accepted own =>
          obtain ⟨latest, remembered, rfl | mem⟩ := ih unreset.2 own
          · exact ⟨latest, remembered, .inr List.mem_cons_self⟩
          · exact ⟨latest, remembered, .inr (List.mem_cons_of_mem _ mem)⟩
      | rejected own wait =>
          obtain ⟨latest, remembered, which⟩ := ih unreset.2 time
          exact ⟨latest, remembered, which.imp_right (List.mem_cons_of_mem _)⟩
      | reset => exact absurd rfl unreset.1

theorem apart_of_split (forward : Forward calls) {between : List (Event ℚ)} {earlier now : ℚ}
    (events : ((fresh window).run calls).2 =
      before ++ .accepted earlier :: between ++ .accepted now :: after)
    (unreset : .reset ∉ between) : window ≤ now - earlier := by
  have passes := (accepted_iff_of_split events rfl).mp rfl
  -- Others may have been accepted in between; the latest of them stands, and is not older.
  obtain ⟨latest, remembered, which⟩ := foldl_remembers_of_unreset unreset earlier
  have notBefore : earlier ≤ latest := by
    rcases which with rfl | mem
    · exact le_rfl
    · obtain ⟨first, later, rfl⟩ := List.append_of_mem mem
      have split : ((fresh window).run calls).2 = before ++ .accepted earlier :: first ++
          .accepted latest :: (later ++ .accepted now :: after) := by simpa using events
      exact le_of_split forward split rfl rfl
  have forwards : earlier ≤ now := le_of_split forward events rfl rfl
  by_contra tooClose
  rw [Option.eq_none_iff_forall_ne_some] at passes
  refine passes (window - (now - latest)) ((wait?_eq_some_iff _ _ _ _).mpr ?_)
  rw [standing?_append, List.foldl_cons, Event.remembers]
  exact ⟨latest, remembered, by linarith, by linarith, rfl⟩

/-- Without a rejected call the rest of a run stays as it is. -/
theorem run_without_rejected {now wait : ℚ}
    (events : ((fresh window).run calls).2 = before ++ .rejected now wait :: after) :
    (fresh window).run ((before ++ after).map Event.call) =
      (((fresh window).run calls).1, before ++ after) := by
  have split : ((fresh window).run calls).2 = before ++ [.rejected now wait] ++ after := by
    rw [events, List.append_assoc, List.singleton_append]
  have onwards := (run_split split).2
  rw [standing?_append, List.foldl_cons, List.foldl_nil, Event.remembers] at onwards
  rw [List.map_append, run_append, (run_split events).1, onwards]

theorem accepted_iff_of_rejected {now wait retry : ℚ} {between : List (Event ℚ)} {e : Event ℚ}
    (events : ((fresh window).run calls).2 =
      before ++ .rejected now wait :: between ++ e :: after)
    (rejections : ∀ e ∈ between, e.IsRejection) (asked : e.call = .acquire retry) :
    e = .accepted retry ↔ now + wait ≤ retry := by
  have split : ((fresh window).run calls).2 =
      before ++ .rejected now wait :: (between ++ e :: after) := by simpa using events
  have waits := (rejected_iff_of_split split rfl wait).mp rfl
  rw [accepted_iff_of_split events asked, standing?_append, List.foldl_cons, Event.remembers,
    foldl_remembers_of_rejections rejections, wait?_eq_none_iff_of_waits waits]

/-- A retry right after a rejection is accepted exactly when it comes late enough. -/
theorem run_retry_iff {now wait : ℚ}
    (events : ((fresh window).run calls).2 = before ++ [Event.rejected now wait]) (retry : ℚ) :
    ((fresh window).run (calls ++ [Call.acquire retry])).2 =
        ((fresh window).run calls).2 ++ [Event.accepted retry] ↔ now + wait ≤ retry := by
  have waits := (rejected_iff_of_split events rfl wait).mp rfl
  have remembers : ((fresh window).run calls).1 = ⟨window, standing? before⟩ := by
    rw [run_fst, events, List.foldl_append]
    rfl
  rw [run_append, remembers, List.append_cancel_left_eq, run, run, List.cons.injEq,
    step_eq_accepted_iff, wait?_eq_none_iff_of_waits waits]
  exact and_iff_left rfl

/-- The least positive number of seconds that is not less than a wait. -/
theorem isLeast_seconds (wait : ℚ) :
    IsLeast {seconds : ℤ | 0 < seconds ∧ wait ≤ seconds} (max 1 ⌈wait⌉) := by
  refine ⟨⟨?_, ?_⟩, ?_⟩
  · exact lt_of_lt_of_le one_pos (le_max_left 1 ⌈wait⌉)
  · exact Int.ceil_le.mp (le_max_right 1 ⌈wait⌉)
  · rintro seconds ⟨positive, late⟩
    exact max_le positive (Int.ceil_le.mpr late)

/-- The response to a prompt that comes too early says the wait in whole seconds, rounded
up and at least one. -/
theorem retryAfter_promptResponse {told : Binary64} {wait : ℚ} (value : told.value? = some wait) :
    (Gateway.promptResponse (.failed (.rateLimited told))).retryAfter = some (max 1 ⌈wait⌉) := by
  rw [Gateway.promptResponse]
  cases told with
  | finite negative rank =>
      rw [Gateway.Response.throttled, Binary64.ceil?_eq value]
      rfl
  | _ => cases value

/-- Over every run a throttle keeps its window: it rejects exactly the calls that come less
than a window after the call that stands, and what it tells a rejected call to wait, as in
the response to a prompt, is the least wait that helps. -/
theorem answers_run (window : ℚ) {calls : List (Call ℚ)} (forward : Forward calls) :
    Answers window calls ((fresh window).run calls).2 where
  asked := map_call_run _ calls
  unlimited := by
    intro closed e mem now asked
    obtain ⟨before, after, events⟩ := List.append_of_mem mem
    rw [accepted_iff_of_split events asked, Option.eq_none_iff_forall_ne_some]
    intro wait waits
    obtain ⟨_, _, positive, _⟩ := (wait?_eq_some_iff _ _ _ _).mp waits
    linarith
  limited := by
    intro positive before e after now events asked
    rw [isRejection_iff_of_split events asked, and_iff_right positive]
  apart := fun _ _ _ _ _ events unreset => apart_of_split forward events unreset
  traceless := fun _ _ _ _ events => run_without_rejected events
  wait := by
    intro now wait mem
    obtain ⟨before, after, events⟩ := List.append_of_mem mem
    exact wait_of_rejected forward events
  next := fun _ _ _ _ _ _ _ events rejections asked =>
    accepted_iff_of_rejected events rejections asked
  seconds := by
    intro before now wait events
    refine ⟨?_, fun told value => retryAfter_promptResponse value⟩
    simp only [run_retry_iff events, add_le_add_iff_left]
    exact isLeast_seconds wait

end

/-- Calls inside the window and at its edge, and a reset between two calls of one time. -/
def hasty : List (Call ℚ) :=
  [.acquire 10, .acquire (23 / 2), .acquire 12, .acquire (25 / 2), .acquire 13, .reset,
    .acquire 13, .acquire 14]

/-- In a window of two and a half seconds the calls inside it are told the time that is
left. -/
theorem answers_run_hasty :
    Forward hasty ∧
      ((fresh (5 / 2)).run hasty).2 =
        [.accepted 10, .rejected (23 / 2) 1, .rejected 12 (1 / 2), .accepted (25 / 2),
          .rejected 13 2, .reset, .accepted 13, .rejected 14 (3 / 2)] ∧
      Answers (5 / 2) hasty ((fresh (5 / 2)).run hasty).2 := by
  have forward : Forward hasty := by
    rw [Forward]
    decide +kernel
  exact ⟨forward, by decide +kernel, answers_run (5 / 2) forward⟩

end Throttle

end PromptDispatch
