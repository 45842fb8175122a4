import Mathlib.Data.List.Forall2
import PromptDispatch.Process.Batch

/-!
# Processes under interference

A process that shares its state is judged by an invariant: every change of its
own keeps the invariant, and what others do while it pauses may be anything
that keeps it too.  A process that ensures a kind of result under an invariant
ensures it alone, in a batch, and in every other interleaving with tasks that
keep the invariant.

A process that is cancelled ensures nothing.
-/

namespace PromptDispatch

namespace Process

variable {σ α β : Type}

/-- A process keeps an invariant and ends with a result of a kind, whatever is
done to the state at its pauses as long as the invariant is kept. -/
def Ensures (inv : σ → Prop) (post : α → Prop) : Process σ α → Prop
  | .done a => post a
  | .halted => False
  | .act change next => ∀ s, inv s → inv (change s) ∧ Ensures inv post (next s)
  | .pause _ next => Ensures inv post (next ())

variable {inv : σ → Prop} {post : α → Prop} {post' : β → Prop}

theorem Ensures.bind {p : Process σ α} {f : α → Process σ β} (first : p.Ensures inv post)
    (second : ∀ a, post a → (f a).Ensures inv post') : (p.bind f).Ensures inv post' := by
  induction p with
  | done a => exact second a first
  | halted => exact first.elim
  | act change next ih =>
      intro s holds
      rcases first s holds with ⟨kept, rest⟩
      exact ⟨kept, ih s rest⟩
  | pause onCancel next ih => exact ih () first

theorem Ensures.map {p : Process σ α} {f : α → β} (ensures : p.Ensures inv post)
    (image : ∀ a, post a → post' (f a)) : (p.map f).Ensures inv post' :=
  ensures.bind image

theorem ensures_change {f : σ → σ} {next : Process σ α} (keeps : ∀ s, inv s → inv (f s))
    (rest : next.Ensures inv post) : (change f next).Ensures inv post :=
  fun s holds => ⟨keeps s holds, rest⟩

theorem ensures_look {next : σ → Process σ α} (rest : ∀ s, inv s → (next s).Ensures inv post) :
    (look next).Ensures inv post :=
  fun s holds => ⟨holds, rest s holds⟩

/-- A process that is alone ends with the result that it ensures. -/
theorem Ensures.run {p : Process σ α} (ensures : p.Ensures inv post) {s : σ} (holds : inv s) :
    ∃ after a, p.run s = (after, some a) ∧ post a ∧ inv after := by
  induction p generalizing s with
  | done a => exact ⟨s, a, rfl, ensures, holds⟩
  | halted => exact ensures.elim
  | act change next ih =>
      rcases ensures s holds with ⟨kept, rest⟩
      exact ih s rest kept
  | pause onCancel next ih => exact ih () ensures holds

/-! ## Runs among others -/

theorem bind_assoc {γ : Type} (p : Process σ α) (f : α → Process σ β) (g : β → Process σ γ) :
    (p.bind f).bind g = p.bind fun a => (f a).bind g := by
  induction p with
  | done a => rfl
  | halted => rfl
  | act change next ih =>
      simp only [Process.bind]
      congr 1
      funext s
      exact ih s
  | pause onCancel next ih =>
      simp only [Process.bind]
      congr 1
      funext u
      exact ih u

/-- Runs a process to its end among others, who change the state whenever it
pauses; they are told how often it has paused before. -/
def runAmong (others : Nat → σ → σ) : Process σ α → Nat → σ → σ × Option α
  | .done a, _, s => (s, some a)
  | .halted, _, s => (s, none)
  | .act change next, pauses, s => runAmong others (next s) pauses (change s)
  | .pause _ next, pauses, s => runAmong others (next ()) (pauses + 1) (others pauses s)

/-- A process that never pauses. -/
def Unpausing : Process σ α → Prop
  | .done _ => True
  | .halted => True
  | .act _ next => ∀ s, Unpausing (next s)
  | .pause _ _ => False

/-- A process ends among others with the result that it ensures. -/
theorem Ensures.runAmong {others : Nat → σ → σ} (keeps : ∀ pauses s, inv s → inv (others pauses s))
    {p : Process σ α} (ensures : p.Ensures inv post) (pauses : Nat) {s : σ} (holds : inv s) :
    ∃ after a, p.runAmong others pauses s = (after, some a) ∧ post a := by
  induction p generalizing pauses s with
  | done a => exact ⟨s, a, rfl, ensures⟩
  | halted => exact ensures.elim
  | act change next ih =>
      rcases ensures s holds with ⟨kept, rest⟩
      exact ih s rest pauses kept
  | pause onCancel next ih => exact ih () ensures (pauses + 1) (keeps pauses s holds)

/-- To a process that never pauses others do nothing. -/
theorem Unpausing.runAmong {p : Process σ α} (unpausing : p.Unpausing) (others : Nat → σ → σ)
    (pauses : Nat) (s : σ) : p.runAmong others pauses s = p.run s := by
  induction p generalizing s with
  | done a => rfl
  | halted => rfl
  | act change next ih => exact ih s (unpausing s) (change s)
  | pause onCancel next _ => exact unpausing.elim

theorem Unpausing.map {p : Process σ α} (unpausing : p.Unpausing) (f : α → β) :
    (p.map f).Unpausing := by
  induction p with
  | done a => trivial
  | halted => trivial
  | act change next ih => exact fun s => ih s (unpausing s)
  | pause onCancel next _ => exact unpausing.elim

theorem run_map (f : α → β) (p : Process σ α) (s : σ) :
    (p.map f).run s = ((p.run s).1, (p.run s).2.map f) := by
  induction p generalizing s with
  | done a => rfl
  | halted => rfl
  | act change next ih => exact ih s (change s)
  | pause onCancel next ih => exact ih () s

/-- What goes on without a pause after a process is run once that has come to its result. -/
theorem runAmong_bind {f : α → Process σ β} (unpausing : ∀ a, (f a).Unpausing)
    (others : Nat → σ → σ) (p : Process σ α) (pauses : Nat) (s : σ) :
    (p.bind f).runAmong others pauses s =
      (p.runAmong others pauses s).2.elim ((p.runAmong others pauses s).1, none) fun a =>
        (f a).run (p.runAmong others pauses s).1 := by
  induction p generalizing pauses s with
  | done a => exact (unpausing a).runAmong others pauses s
  | halted => rfl
  | act change next ih => exact ih s pauses (change s)
  | pause onCancel next ih => exact ih () (pauses + 1) (others pauses s)

theorem runAmong_map (f : α → β) (others : Nat → σ → σ) (p : Process σ α) (pauses : Nat) (s : σ) :
    (p.map f).runAmong others pauses s =
      ((p.runAmong others pauses s).1, (p.runAmong others pauses s).2.map f) := by
  have unpausing (a : α) : (done (f a) : Process σ β).Unpausing := trivial
  rw [map, runAmong_bind unpausing]
  rcases p.runAmong others pauses s with ⟨after, _ | a⟩ <;> rfl

/-! ## One result -/

/-- There is one result that a process ensures. -/
def Determined (inv : σ → Prop) (p : Process σ α) : Prop :=
  ∃ a, p.Ensures inv fun b => b = a

theorem determined_done (a : α) : (done a : Process σ α).Determined inv :=
  ⟨a, rfl⟩

theorem Determined.bind {p : Process σ α} {f : α → Process σ β} (first : p.Determined inv)
    (second : ∀ a, (f a).Determined inv) : (p.bind f).Determined inv := by
  rcases first with ⟨a, ensures⟩
  rcases second a with ⟨b, rest⟩
  refine ⟨b, ensures.bind ?_⟩
  rintro _ rfl
  exact rest

theorem Determined.map {p : Process σ α} (determined : p.Determined inv) (f : α → β) :
    (p.map f).Determined inv :=
  determined.bind fun a => determined_done (f a)

theorem determined_change {f : σ → σ} {next : Process σ α} (keeps : ∀ s, inv s → inv (f s))
    (rest : next.Determined inv) : (change f next).Determined inv := by
  rcases rest with ⟨a, ensures⟩
  exact ⟨a, ensures_change keeps ensures⟩

/-- A look at the state does no harm when it shows the same in every state of
the invariant. -/
theorem determined_look {next : σ → Process σ α} (shown : Process σ α)
    (same : ∀ s, inv s → next s = shown) (rest : shown.Determined inv) :
    (look next).Determined inv := by
  rcases rest with ⟨a, ensures⟩
  refine ⟨a, ensures_look ?_⟩
  intro s holds
  rw [same s holds]
  exact ensures

/-- Which result it is can be told by running the process alone. -/
theorem Determined.ensures_run {p : Process σ α} (determined : p.Determined inv) {s : σ}
    (holds : inv s) : p.Ensures inv fun a => (p.run s).2 = some a := by
  rcases determined with ⟨a, ensures⟩
  rcases ensures.run holds with ⟨after, b, runEq, rfl, -⟩
  rw [runEq]
  have told : (fun c => c = b) = fun c => some b = some c := by
    funext c
    simp [eq_comm]
  exact told ▸ ensures

end Process

namespace Task

variable {σ α : Type}

/-- A task whose result is of a kind already or is ensured to be. -/
def Ensures (inv : σ → Prop) (post : α → Prop) : Task σ α → Prop
  | .finished a => post a
  | .halted => False
  | .waiting _ rest => rest.Ensures inv post

variable {inv : σ → Prop} {post : α → Prop}

theorem ensures_advance {p : Process σ α} (ensures : p.Ensures inv post) {s : σ}
    (holds : inv s) : inv (advance p s).1 ∧ (advance p s).2.Ensures inv post := by
  induction p generalizing s with
  | done a => exact ⟨holds, ensures⟩
  | halted => exact ensures.elim
  | act change next ih =>
      rcases ensures s holds with ⟨kept, rest⟩
      exact ih s rest kept
  | pause onCancel next _ => exact ⟨holds, ensures⟩

/-- A turn of a task keeps the invariant and what the task ensures. -/
theorem Ensures.step {t : Task σ α} (ensures : t.Ensures inv post) {s : σ} (holds : inv s) :
    inv (t.step s).1 ∧ (t.step s).2.Ensures inv post := by
  cases t with
  | finished a => exact ⟨holds, ensures⟩
  | halted => exact ensures.elim
  | waiting onCancel rest => exact ensures_advance ensures holds

theorem Ensures.isHalted {t : Task σ α} (ensures : t.Ensures inv post) : t.isHalted = false := by
  cases t with
  | halted => exact ensures.elim
  | _ => rfl

theorem Ensures.of_result? {t : Task σ α} (ensures : t.Ensures inv post) {a : α}
    (result : t.result? = some a) : post a := by
  cases t with
  | finished b => exact Option.some.inj result ▸ ensures
  | _ => simp [result?] at result

end Task

namespace Batch

variable {σ α : Type} {inv : σ → Prop}

/-- Tasks in order, each with the kind of its own result. -/
abbrev Ensure (inv : σ → Prop) : List (α → Prop) → List (Task σ α) → Prop :=
  List.Forall₂ fun post t => t.Ensures inv post

/-- Results in order, each of its own kind. -/
abbrev Meet : List (α → Prop) → List α → Prop :=
  List.Forall₂ fun post a => post a

theorem ensure_ofProcess {posts : List (α → Prop)} {ps : List (Process σ α)}
    (ensure : List.Forall₂ (fun post p => Process.Ensures inv post p) posts ps) :
    Ensure inv posts (ps.map Task.ofProcess) := by
  induction ensure with
  | nil => exact .nil
  | cons head _ ih => exact .cons head ih

theorem Ensure.turn {posts : List (α → Prop)} {ts : List (Task σ α)}
    (ensure : Ensure inv posts ts) {s : σ} (holds : inv s) :
    inv (turn ts s).1 ∧ Ensure inv posts (turn ts s).2 := by
  induction ensure generalizing s with
  | nil => exact ⟨holds, .nil⟩
  | cons head _ ih =>
      rcases Task.Ensures.step head holds with ⟨stepHolds, stepEnsures⟩
      rcases ih stepHolds with ⟨restHolds, restEnsure⟩
      exact ⟨restHolds, .cons stepEnsures restEnsure⟩

/-- A single task that advances leaves all others as they are. -/
theorem Ensure.turnOne {posts : List (α → Prop)} {before after : List (Task σ α)}
    {t : Task σ α} (ensure : Ensure inv posts (before ++ t :: after)) {s : σ} (holds : inv s) :
    inv (t.step s).1 ∧ Ensure inv posts (before ++ (t.step s).2 :: after) := by
  induction before generalizing posts with
  | nil =>
      cases ensure with
      | cons head rest =>
          rcases Task.Ensures.step head holds with ⟨stepHolds, stepEnsures⟩
          exact ⟨stepHolds, .cons stepEnsures rest⟩
  | cons first before ih =>
      cases ensure with
      | cons head rest =>
          rcases ih rest with ⟨stepHolds, restEnsure⟩
          exact ⟨stepHolds, .cons head restEnsure⟩

theorem Ensure.haltedAt? {posts : List (α → Prop)} {ts : List (Task σ α)}
    (ensure : Ensure inv posts ts) : haltedAt? ts = none := by
  rw [Batch.haltedAt?, List.findIdx?_eq_none_iff]
  induction ensure with
  | nil => simp
  | cons head _ ih =>
      intro t member
      rcases List.mem_cons.mp member with rfl | rest
      · exact Task.Ensures.isHalted head
      · exact ih t rest

/-- Running to the end gives results of every kind that is ensured. -/
def Settled (inv : σ → Prop) (posts : List (α → Prop)) (outcome : σ × Option (List α)) : Prop :=
  ∃ after as, outcome = (after, some as) ∧ Meet posts as ∧ inv after

theorem Settled.cons {post : α → Prop} {posts : List (α → Prop)} {outcome : σ × Option (List α)}
    (settled : Settled inv posts outcome) {a : α} (holds : post a) :
    Settled inv (post :: posts) (outcome.1, outcome.2.map (a :: ·)) := by
  rcases settled with ⟨after, as, rfl, meet, afterHolds⟩
  exact ⟨after, a :: as, rfl, .cons holds meet, afterHolds⟩

theorem settled_lead {others : List (Task σ α) → σ → σ × Option (List α)} {post : α → Prop}
    {posts : List (α → Prop)}
    (othersSettle : ∀ ts s, Ensure inv posts ts → inv s → Settled inv posts (others ts s))
    {p : Process σ α} (ensures : p.Ensures inv post) {ts : List (Task σ α)}
    (ensure : Ensure inv posts ts) {s : σ} (holds : inv s) :
    Settled inv (post :: posts) (lead others p ts s) := by
  induction p generalizing ts s with
  | done a =>
      rcases ensure.turn holds with ⟨turnHolds, turnEnsure⟩
      simp only [lead, turnEnsure.haltedAt?]
      exact (othersSettle _ _ turnEnsure turnHolds).cons ensures
  | halted => exact ensures.elim
  | act change next ih =>
      rcases ensures s holds with ⟨kept, rest⟩
      exact ih s rest ensure kept
  | pause onCancel next ih =>
      rcases ensure.turn holds with ⟨turnHolds, turnEnsure⟩
      simp only [lead, turnEnsure.haltedAt?]
      exact ih () ensures turnEnsure turnHolds

theorem settled_settle {count : Nat} {posts : List (α → Prop)} {ts : List (Task σ α)}
    (enough : ts.length ≤ count) (ensure : Ensure inv posts ts) {s : σ} (holds : inv s) :
    Settled inv posts (settle count ts s) := by
  induction count generalizing posts ts s with
  | zero =>
      obtain rfl := List.eq_nil_of_length_eq_zero (Nat.le_zero.mp enough)
      cases ensure
      exact ⟨s, [], by simp [settle], .nil, holds⟩
  | succ count ih =>
      cases ensure with
      | nil => exact ⟨s, [], by simp [settle], .nil, holds⟩
      | @cons post t posts ts head rest =>
          have shorter : ts.length ≤ count := by simpa using enough
          cases t with
          | finished a => exact (ih shorter rest holds).cons head
          | halted => exact head.elim
          | waiting onCancel p =>
              have sameLength := rest.length_eq
              refine settled_lead ?_ head rest holds
              intro ts' s' ensure' holds'
              exact ih (by rw [← ensure'.length_eq, sameLength]; exact shorter) ensure' holds'

/-- A batch of processes that ensure their results gives all of them, in the
order of the batch. -/
theorem settled_run {posts : List (α → Prop)} {ps : List (Process σ α)}
    (ensure : List.Forall₂ (fun post p => Process.Ensures inv post p) posts ps) {s : σ}
    (holds : inv s) : Settled inv posts (run ps s) :=
  settled_settle (by simp) (ensure_ofProcess ensure) holds

/-- Runs processes one after another, each to its end. -/
def inOrder : List (Process σ α) → σ → σ × Option (List α)
  | [], s => (s, some [])
  | p :: ps, s =>
      match p.run s with
      | (s, some a) => ((inOrder ps s).1, (inOrder ps s).2.map (a :: ·))
      | (s, none) => (s, none)

theorem settled_inOrder {posts : List (α → Prop)} {ps : List (Process σ α)}
    (ensure : List.Forall₂ (fun post p => Process.Ensures inv post p) posts ps) {s : σ}
    (holds : inv s) : Settled inv posts (inOrder ps s) := by
  induction ensure generalizing s with
  | nil => exact ⟨s, [], rfl, .nil, holds⟩
  | cons head _ ih =>
      rcases Process.Ensures.run head holds with ⟨after, a, runEq, aHolds, afterHolds⟩
      rw [inOrder, runEq]
      exact (ih afterHolds).cons aHolds

theorem Ensure.meet_of_results? {posts : List (α → Prop)} {ts : List (Task σ α)}
    (ensure : Ensure inv posts ts) {as : List α} (results : results? ts = some as) :
    Meet posts as := by
  induction ensure generalizing as with
  | nil =>
      obtain rfl : [] = as := by simpa [results?] using results
      exact .nil
  | cons head _ ih =>
      simp only [results?, Option.bind_eq_bind, Option.bind_eq_some_iff] at results
      rcases results with ⟨a, headResult, more, restResults, same⟩
      obtain rfl : a :: more = as := Option.some.inj same
      exact .cons (head.of_result? headResult) (ih restResults)

end Batch

end PromptDispatch
