import PromptDispatch.Proofs.Process.Conduct
import PromptDispatch.Proofs.Process.Watch

/-!
# What processes rely on and guarantee

Processes that share a state may each have a part of it to themselves.  A treaty
tells, for every place of a batch, what the process at that place may do to the
state and what it may rely on the others to do.  A process that keeps to the treaty
and ends with something that the others cannot undo still has it when the whole
batch has ended, in whatever order the tasks took their turns.
-/

namespace PromptDispatch

/-- What processes may do to a shared state, told by their places. -/
structure Treaty (σ : Type) where
  own : Nat → σ → σ → Prop
  others : Nat → σ → σ → Prop
  own_refl : ∀ place s, own place s s
  own_trans : ∀ {place s s' s''}, own place s s' → own place s' s'' → own place s s''
  others_refl : ∀ place s, others place s s
  others_trans : ∀ {place s s' s''}, others place s s' → others place s' s'' → others place s s''
  /-- whatever one may do, the others take into account -/
  allowed : ∀ {place other s s'}, place ≠ other → own place s s' → others other s s'

variable {σ α β : Type}

namespace Process

/-- From a state on, a process does what is its own to do at its place, and ends, if
not by a cancellation, with a state and a result of a kind, as long as at its pauses
the others do what is theirs. -/
def Honours (treaty : Treaty σ) (place : Nat) (post : σ → α → Prop) : Process σ α → σ → Prop
  | .done a, s => post s a
  | .halted, _ => True
  | .act change next, s =>
    treaty.own place s (change s) ∧ Honours treaty place post (next s) (change s)
  | .pause _ next, s => ∀ s', treaty.others place s s' → Honours treaty place post (next ()) s'

variable {treaty : Treaty σ} {place : Nat}

theorem Honours.imp {post post' : σ → α → Prop} {p : Process σ α} {s : σ}
    (honours : p.Honours treaty place post s) (implies : ∀ s a, post s a → post' s a) :
    p.Honours treaty place post' s := by
  induction p generalizing s with
  | done a => exact implies s a honours
  | halted => trivial
  | act change next ih => exact ⟨honours.1, ih s honours.2⟩
  | pause onCancel next ih => exact fun s' others => ih () (honours s' others)

theorem honours_look {post : σ → α → Prop} {next : σ → Process σ α} {s : σ}
    (rest : (next s).Honours treaty place post s) : (look next).Honours treaty place post s :=
  ⟨treaty.own_refl place s, rest⟩

theorem Honours.bind {mid : σ → α → Prop} {post : σ → β → Prop} {p : Process σ α}
    {f : α → Process σ β} {s : σ} (first : p.Honours treaty place mid s)
    (second : ∀ s a, mid s a → (f a).Honours treaty place post s) :
    (p.bind f).Honours treaty place post s := by
  induction p generalizing s with
  | done a => exact second s a first
  | halted => trivial
  | act change next ih => exact ⟨first.1, ih s first.2⟩
  | pause onCancel next ih => exact fun s' others => ih () (first s' others)

end Process

namespace Task

/-- What is left of a task honours a treaty, and a result is of a kind, whatever the
others do before its next turn. -/
def Honours (treaty : Treaty σ) (place : Nat) (post : σ → α → Prop) (t : Task σ α) (s : σ) :
    Prop :=
  ∀ s', treaty.others place s s' →
    match t with
    | .finished a => post s' a
    | .halted => True
    | .waiting _ rest => rest.Honours treaty place post s'

variable {treaty : Treaty σ} {place : Nat} {post : σ → α → Prop}

theorem Honours.meanwhile {t : Task σ α} {s s' : σ} (honours : t.Honours treaty place post s)
    (others : treaty.others place s s') : t.Honours treaty place post s' :=
  fun s'' later => honours s'' (treaty.others_trans others later)

variable (lasting : ∀ s s' a, treaty.others place s s' → post s a → post s' a)
include lasting

theorem honours_advance {p : Process σ α} {s : σ} (honours : p.Honours treaty place post s) :
    treaty.own place s (advance p s).1 ∧
      (advance p s).2.Honours treaty place post (advance p s).1 := by
  induction p generalizing s with
  | done a => exact ⟨treaty.own_refl place s, fun s' others => lasting s s' a others honours⟩
  | halted => exact ⟨treaty.own_refl place s, fun _ _ => trivial⟩
  | act change next ih =>
      obtain ⟨own, rest⟩ := honours
      obtain ⟨ownLater, task⟩ := ih s rest
      exact ⟨treaty.own_trans own ownLater, task⟩
  | pause onCancel next _ => exact ⟨treaty.own_refl place s, honours⟩

/-- In its turn a task does what is its own to do. -/
theorem Honours.step {t : Task σ α} {s : σ} (honours : t.Honours treaty place post s) :
    treaty.own place s (t.step s).1 ∧
      (t.step s).2.Honours treaty place post (t.step s).1 := by
  cases t with
  | finished a => exact ⟨treaty.own_refl place s, honours⟩
  | halted => exact ⟨treaty.own_refl place s, honours⟩
  | waiting onCancel rest => exact honours_advance lasting (honours s (treaty.others_refl place s))

end Task

namespace Batch

/-- The task at every place honours a treaty. -/
def Honour (treaty : Treaty σ) (posts : Nat → σ → α → Prop) (ts : List (Task σ α)) (s : σ) : Prop :=
  ∀ place (t : Task σ α), ts[place]? = some t → t.Honours treaty place (posts place) s

variable {treaty : Treaty σ} {posts : Nat → σ → α → Prop}
variable (lasting : ∀ place s s' a, treaty.others place s s' → posts place s a → posts place s' a)
include lasting

theorem Honour.turnOne {before after : List (Task σ α)} {t : Task σ α} {s : σ}
    (honour : Honour treaty posts (before ++ t :: after) s) :
    Honour treaty posts (before ++ (t.step s).2 :: after) (t.step s).1 := by
  have here : (before ++ t :: after)[before.length]? = some t := by simp
  obtain ⟨own, stepped⟩ := (honour _ t here).step (lasting _)
  intro place other isOther
  by_cases same : place = before.length
  · subst same
    obtain rfl : (t.step s).2 = other := by simpa using isOther
    exact stepped
  · apply (honour place other ?_).meanwhile (treaty.allowed (Ne.symm same) own)
    rw [List.getElem?_append] at isOther ⊢
    split at isOther
    · next ahead => rw [if_pos ahead]; exact isOther
    · next behind =>
      rw [if_neg behind]
      rw [List.getElem?_cons, if_neg (by omega)] at isOther ⊢
      exact isOther

/-- Tasks that honour a treaty honour it in every succession of turns. -/
theorem Advances.honour {start s : σ} {tasks ts : List (Task σ α)}
    (advances : Advances start tasks s ts) (honour : Honour treaty posts tasks start) :
    Honour treaty posts ts s := by
  induction advances with
  | refl => exact honour
  | step _ ih => exact ih.turnOne lasting

omit lasting in
theorem Advances.length_eq {start s : σ} {tasks ts : List (Task σ α)}
    (advances : Advances start tasks s ts) : ts.length = tasks.length := by
  induction advances with
  | refl => rfl
  | step _ ih => simpa using ih

/-- What is the part of a place without a task is touched by nobody. -/
theorem Advances.untouched {start s : σ} {tasks ts : List (Task σ α)}
    (advances : Advances start tasks s ts) (honour : Honour treaty posts tasks start) {place : Nat}
    (beyond : tasks.length ≤ place) : treaty.others place start s := by
  induction advances with
  | refl => exact treaty.others_refl place start
  | @step s before after t earlier ih =>
      have here : (before ++ t :: after)[before.length]? = some t := by simp
      have own := ((earlier.honour lasting honour _ t here).step (lasting _)).1
      have sameLength := earlier.length_eq
      rw [List.length_append, List.length_cons] at sameLength
      have different : before.length ≠ place := by omega
      exact treaty.others_trans ih (treaty.allowed different own)

/-- When all tasks have ended with results, every result is of its kind. -/
theorem Advances.honoured {start s : σ} {tasks : List (Task σ α)} {as : List α}
    (advances : Advances start tasks s (as.map .finished))
    (honour : Honour treaty posts tasks start) {place : Nat} {a : α}
    (result : as[place]? = some a) : posts place s a := by
  have ended : (as.map Task.finished)[place]? = some (.finished a : Task σ α) := by
    rw [List.getElem?_map, result]
    rfl
  exact advances.honour lasting honour place _ ended s (treaty.others_refl place s)

end Batch

/-! ## A record with a part for every place -/

/-- What is written down of the processes of a batch, each entry with the place of
its process. -/
abbrev Ledger (μ : Type) := List (Nat × μ)

namespace Ledger

variable {μ : Type}

/-- What is written down of the process at a place. -/
def ofPlace (ledger : Ledger μ) (place : Nat) : List μ :=
  ledger.filterMap fun (owner, entry) => if owner = place then some entry else none

/-- Writes down entries of the process at a place. -/
def write (place : Nat) (entries : List μ) (ledger : Ledger μ) : Ledger μ :=
  ledger ++ entries.map (place, ·)

theorem ofPlace_write_self (place : Nat) (entries : List μ) (ledger : Ledger μ) :
    (ledger.write place entries).ofPlace place = ledger.ofPlace place ++ entries := by
  simp [ofPlace, write, List.filterMap_map]

theorem ofPlace_write_of_ne {place other : Nat} (different : other ≠ place) (entries : List μ)
    (ledger : Ledger μ) : (ledger.write place entries).ofPlace other = ledger.ofPlace other := by
  simp [ofPlace, write, List.filterMap_map, different.symm]

/-- Everybody may change the state in some way and write down entries of their
own. -/
def treaty (moves : σ → σ → Prop) (refl : ∀ s, moves s s)
    (trans : ∀ {s s' s''}, moves s s' → moves s' s'' → moves s s'') : Treaty (σ × Ledger μ) where
  own place w w' := moves w.1 w'.1 ∧ ∀ other, other ≠ place → w'.2.ofPlace other = w.2.ofPlace other
  others place w w' := moves w.1 w'.1 ∧ w'.2.ofPlace place = w.2.ofPlace place
  own_refl _ w := ⟨refl w.1, fun _ _ => rfl⟩
  own_trans first second := ⟨trans first.1 second.1, fun other different =>
    (second.2 other different).trans (first.2 other different)⟩
  others_refl _ w := ⟨refl w.1, rfl⟩
  others_trans first second := ⟨trans first.1 second.1, second.2.trans first.2⟩
  allowed different own := ⟨own.1, own.2 _ different.symm⟩

section

variable {moves : σ → σ → Prop} {refl : ∀ s, moves s s}
variable {trans : ∀ {s s' s''}, moves s s' → moves s' s'' → moves s s''}

/-- A process that writes nothing down leaves its own entries as they were. -/
theorem honours_beside {conduct : Conduct σ} (always : ∀ s, conduct.holds s)
    (acts : ∀ s s', conduct.acts s s' → moves s s') {p : Process σ α} (heeds : p.Heeds conduct)
    (place : Nat) (w : σ × Ledger μ) :
    p.beside.Honours (treaty moves refl trans) place
      (fun w' _ => (treaty moves refl trans).others place w w') w := by
  have general (w' : σ × Ledger μ) (before : (treaty moves refl trans).others place w w') :
      p.beside.Honours (treaty moves refl trans) place
        (fun w' _ => (treaty moves refl trans).others place w w') w' := by
    induction p generalizing w' with
    | done a => exact before
    | halted => trivial
    | act change next ih =>
        obtain ⟨changes, rest⟩ := heeds w'.1 (always w'.1)
        have moved := acts _ _ changes
        exact ⟨⟨moved, fun _ _ => rfl⟩, ih w'.1 rest _ ⟨trans before.1 moved, before.2⟩⟩
    | pause onCancel next ih =>
        intro w'' others
        exact ih () heeds.2 w'' (Treaty.others_trans _ before others)
  exact general w (Treaty.others_refl _ place w)

/-- To write down something of one's own is one's own to do. -/
theorem honours_tell (place : Nat) (entries : List μ) {next : Process (σ × Ledger μ) α}
    {post : σ × Ledger μ → α → Prop} {w : σ × Ledger μ}
    (rest : next.Honours (treaty moves refl trans) place post (w.1, w.2.write place entries)) :
    (next.tell (write place entries)).Honours (treaty moves refl trans) place post w :=
  ⟨⟨refl w.1, fun _ different => ofPlace_write_of_ne different _ w.2⟩, rest⟩

end

end Ledger

end PromptDispatch
