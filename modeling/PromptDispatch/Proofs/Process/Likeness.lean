import PromptDispatch.Proofs.Process.Trace

/-!
# Processes on related states

Two processes that work on states of their own are alike under a relation of these
states when every change of the one is answered by a change of the other that keeps
the states related, and both pause and end in the same way.  The first one may
also do things that the relation does not see.  Batches of processes that are alike
leave related states and come to the same results, turn by turn.
-/

namespace PromptDispatch

variable {σ τ α β : Type}

namespace Process

/-- On related states the first process does what the second one does, and may do
more besides. -/
inductive Alike (related : σ → τ → Prop) : Process σ α → Process τ α → Prop where
  | done (a : α) : Alike related (.done a) (.done a)
  | halted : Alike related .halted .halted
  | besides {change : σ → σ} {next : σ → Process σ α} {q : Process τ α}
      (keeps : ∀ s t, related s t → related (change s) t)
      (rest : ∀ s t, related s t → Alike related (next s) q) : Alike related (.act change next) q
  | act {change : σ → σ} {next : σ → Process σ α} {change' : τ → τ} {next' : τ → Process τ α}
      (keeps : ∀ s t, related s t → related (change s) (change' t))
      (rest : ∀ s t, related s t → Alike related (next s) (next' t)) :
      Alike related (.act change next) (.act change' next')
  | pause {onCancel : σ → σ} {next : Unit → Process σ α} {onCancel' : τ → τ}
      {next' : Unit → Process τ α}
      (keeps : ∀ s t, related s t → related (onCancel s) (onCancel' t))
      (rest : Alike related (next ()) (next' ())) :
      Alike related (.pause onCancel next) (.pause onCancel' next')

variable {related : σ → τ → Prop}

theorem Alike.bind {p : Process σ α} {q : Process τ α} {f : α → Process σ β}
    {g : α → Process τ β} (first : p.Alike related q)
    (second : ∀ a, (f a).Alike related (g a)) : (p.bind f).Alike related (q.bind g) := by
  induction first with
  | done a => exact second a
  | halted => exact .halted
  | besides keeps _ ih => exact .besides keeps ih
  | act keeps _ ih => exact .act keeps ih
  | pause keeps _ ih => exact .pause keeps ih

theorem Alike.map {p : Process σ α} {q : Process τ α} (alike : p.Alike related q) (f : α → β) :
    (p.map f).Alike related (q.map f) :=
  alike.bind fun a => .done (f a)

theorem alike_change {f : σ → σ} {g : τ → τ} {p : Process σ α} {q : Process τ α}
    (keeps : ∀ s t, related s t → related (f s) (g t)) (rest : p.Alike related q) :
    (change f p).Alike related (change g q) :=
  .act keeps fun _ _ _ => rest

theorem alike_look {next : σ → Process σ α} {next' : τ → Process τ α}
    (rest : ∀ s t, related s t → (next s).Alike related (next' t)) :
    (look next).Alike related (look next') :=
  .act (fun _ _ same => same) rest

end Process

namespace Task

/-- Two tasks stand at the same place, with processes left that are alike. -/
inductive Alike (related : σ → τ → Prop) : Task σ α → Task τ α → Prop where
  | finished (a : α) : Alike related (.finished a) (.finished a)
  | halted : Alike related .halted .halted
  | waiting {onCancel : σ → σ} {rest : Process σ α} {onCancel' : τ → τ} {rest' : Process τ α}
      (keeps : ∀ s t, related s t → related (onCancel s) (onCancel' t))
      (alike : rest.Alike related rest') :
      Alike related (.waiting onCancel rest) (.waiting onCancel' rest')

variable {related : σ → τ → Prop}

/-- What is done with tasks is done to the same effect on either side. -/
def AlikeOn (related : σ → τ → Prop) (move : Task σ α → σ → σ × Task σ α)
    (move' : Task τ α → τ → τ × Task τ α) : Prop :=
  ∀ {t t'}, Alike related t t' → ∀ {s s'}, related s s' →
    related (move t s).1 (move' t' s').1 ∧ (move t s).2.Alike related (move' t' s').2

theorem alike_advance {p : Process σ α} {q : Process τ α} (alike : p.Alike related q) {s : σ}
    {t : τ} (same : related s t) : related (advance p s).1 (advance q t).1 ∧
      (advance p s).2.Alike related (advance q t).2 := by
  induction alike generalizing s t with
  | done a => exact ⟨same, .finished a⟩
  | halted => exact ⟨same, .halted⟩
  | besides keeps _ ih => exact ih s t same (keeps s t same)
  | act keeps _ ih => exact ih s t same (keeps s t same)
  | pause keeps rest _ => exact ⟨same, .waiting keeps rest⟩

theorem alikeOn_step : AlikeOn related (step : Task σ α → _) step := by
  intro t t' alike s s' same
  cases alike with
  | finished a => exact ⟨same, .finished a⟩
  | halted => exact ⟨same, .halted⟩
  | waiting _ alike => exact alike_advance alike same

theorem alikeOn_cancel : AlikeOn related (cancel : Task σ α → _) cancel := by
  intro t t' alike s s' same
  cases alike with
  | finished a => exact ⟨same, .finished a⟩
  | halted => exact ⟨same, .halted⟩
  | waiting keeps _ => exact ⟨keeps s s' same, .halted⟩

end Task

namespace Batch

/-- Tasks in order, alike place by place. -/
abbrev Alike (related : σ → τ → Prop) : List (Task σ α) → List (Task τ α) → Prop :=
  List.Forall₂ (Task.Alike related)

/-- Tasks that are alike and are run to their end in some way leave related states and
come to the same results. -/
def AlikeTo (related : σ → τ → Prop) (run : List (Task σ α) → σ → σ × Option (List α))
    (run' : List (Task τ α) → τ → τ × Option (List α)) : Prop :=
  ∀ {ts ts'}, Alike related ts ts' → ∀ {s s'}, related s s' →
    related (run ts s).1 (run' ts' s').1 ∧ (run ts s).2 = (run' ts' s').2

variable {related : σ → τ → Prop}

section

variable {ts : List (Task σ α)} {ts' : List (Task τ α)} (alike : Alike related ts ts')
variable {s : σ} {s' : τ} (same : related s s')
include alike

theorem Alike.haltedAt?_eq : haltedAt? ts = haltedAt? ts' := by
  rw [haltedAt?, haltedAt?]
  induction alike with
  | nil => rfl
  | cons head _ ih =>
      rw [List.findIdx?_cons, List.findIdx?_cons, ih]
      cases head <;> rfl

include same

theorem Alike.each {move : Task σ α → σ → σ × Task σ α} {move' : Task τ α → τ → τ × Task τ α}
    (alikeOn : Task.AlikeOn related move move') :
    related (each move ts s).1 (each move' ts' s').1 ∧
      Alike related (each move ts s).2 (each move' ts' s').2 := by
  induction alike generalizing s s' with
  | nil => exact ⟨same, .nil⟩
  | cons head _ ih =>
      obtain ⟨sameThen, task⟩ := alikeOn head same
      obtain ⟨sameEnd, rest⟩ := ih sameThen
      exact ⟨sameEnd, .cons task rest⟩

theorem Alike.turn : related (turn ts s).1 (turn ts' s').1 ∧
    Alike related (turn ts s).2 (turn ts' s').2 :=
  alike.each same Task.alikeOn_step

theorem Alike.cancelAll : related (cancelAll ts s).1 (cancelAll ts' s').1 ∧
    Alike related (cancelAll ts s).2 (cancelAll ts' s').2 :=
  alike.each same Task.alikeOn_cancel

theorem Alike.windDown (place : Nat) :
    related (windDown place ts s) (windDown place ts' s') := by
  obtain ⟨sameTurn, turned⟩ := alike.turn same
  have ahead : Alike related _ _ := List.forall₂_take place turned
  have behind : Alike related _ _ := List.forall₂_drop place turned
  obtain ⟨sameAgain, aheadTurned⟩ := ahead.turn sameTurn
  exact (aheadTurned.cancelAll (behind.cancelAll sameAgain).1).1

end

theorem alike_lead {others : List (Task σ α) → σ → σ × Option (List α)}
    {others' : List (Task τ α) → τ → τ × Option (List α)}
    (alikeTo : AlikeTo related others others') {p : Process σ α} {q : Process τ α}
    (leading : p.Alike related q) {ts : List (Task σ α)} {ts' : List (Task τ α)}
    (alike : Alike related ts ts') {s : σ} {s' : τ} (same : related s s') :
    related (lead others p ts s).1 (lead others' q ts' s').1 ∧
      (lead others p ts s).2 = (lead others' q ts' s').2 := by
  induction leading generalizing ts ts' s s' with
  | besides keeps _ ih => exact ih s s' same alike (keeps s s' same)
  | act keeps _ ih => exact ih s s' same alike (keeps s s' same)
  | done a =>
      obtain ⟨sameTurn, turned⟩ := alike.turn same
      simp only [lead, turned.haltedAt?_eq]
      split
      · exact ⟨turned.windDown sameTurn _, rfl⟩
      · obtain ⟨sameEnd, sameResults⟩ := alikeTo turned sameTurn
        exact ⟨sameEnd, congrArg (Option.map (a :: ·)) sameResults⟩
  | halted =>
      obtain ⟨sameTurn, turned⟩ := alike.turn same
      exact ⟨Alike.windDown (.cons .halted turned) sameTurn 0, rfl⟩
  | pause keeps rest ih =>
      obtain ⟨sameTurn, turned⟩ := alike.turn same
      simp only [lead, turned.haltedAt?_eq]
      split
      · next place _ =>
        exact ⟨Alike.windDown (.cons (.waiting keeps rest) turned) sameTurn (place + 1), rfl⟩
      · exact ih turned sameTurn

theorem alikeTo_settle (count : Nat) :
    AlikeTo related (settle count : List (Task σ α) → _) (settle count) := by
  induction count with
  | zero =>
      intro ts ts' alike s s' same
      cases alike with
      | nil => exact ⟨by simpa [settle] using same, by simp [settle]⟩
      | cons head rest => exact ⟨same, rfl⟩
  | succ count ih =>
      intro ts ts' alike s s' same
      cases alike with
      | nil => exact ⟨by simpa [settle] using same, by simp [settle]⟩
      | cons head rest =>
          cases head with
          | finished a =>
              obtain ⟨sameEnd, sameResults⟩ := ih rest same
              exact ⟨sameEnd, congrArg (Option.map (a :: ·)) sameResults⟩
          | halted => exact ⟨Alike.windDown (.cons .halted rest) same 0, rfl⟩
          | waiting _ leading => exact alike_lead ih leading rest same

theorem alike_ofProcess {ps : List (Process σ α)} {qs : List (Process τ α)}
    (alike : List.Forall₂ (Process.Alike related) ps qs) :
    Alike related (ps.map Task.ofProcess) (qs.map Task.ofProcess) := by
  rw [Alike, List.forall₂_map_left_iff, List.forall₂_map_right_iff]
  exact alike.imp fun _ _ alike => .waiting (fun _ _ same => same) alike

/-- Batches of processes that are alike leave related states and come to the same
results. -/
theorem alike_run {ps : List (Process σ α)} {qs : List (Process τ α)}
    (alike : List.Forall₂ (Process.Alike related) ps qs) {s : σ} {t : τ} (same : related s t) :
    related (run ps s).1 (run qs t).1 ∧ (run ps s).2 = (run qs t).2 := by
  rw [run, run, alike.length_eq]
  exact alikeTo_settle qs.length (alike_ofProcess alike) same

/-- Whatever order the second tasks take their turns in, the first ones can take
theirs in the same order. -/
theorem Advances.alike {start t : τ} {tasks ts : List (Task τ α)}
    (advances : Advances start tasks t ts) {start' : σ} {tasks' : List (Task σ α)}
    (same : related start' start) (alike : Alike related tasks' tasks) :
    ∃ s ts', Advances start' tasks' s ts' ∧ related s t ∧ Alike related ts' ts := by
  induction advances with
  | refl => exact ⟨start', tasks', .refl, same, alike⟩
  | @step t before after task _ ih =>
      obtain ⟨s, ts', reached, sameThen, alikeThen⟩ := ih
      have split := List.take_append_drop before.length ts'
      have ahead := List.forall₂_take_append ts' before (task :: after) alikeThen
      have rest := List.forall₂_drop_append ts' before (task :: after) alikeThen
      obtain ⟨first, others, head, tail, isRest⟩ := List.forall₂_cons_right_iff.mp rest
      rw [isRest] at split
      rw [← split] at reached
      obtain ⟨sameStep, stepped⟩ := Task.alikeOn_step head sameThen
      exact ⟨_, _, reached.step, sameStep, List.rel_append ahead (.cons stepped tail)⟩

end Batch

end PromptDispatch
