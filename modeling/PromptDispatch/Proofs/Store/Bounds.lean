import PromptDispatch.Proofs.Store.Copying
import PromptDispatch.Proofs.Store.Run

/-!
# The bounds of a store

A write drops one entry at most, so it keeps to the bound of a store that is
within it already.  What is loaded may have any size and is cut down to the
bound; prompts are cut down whenever one is recorded.  No operation takes a
store beyond its bounds, and the bounds are never changed.
-/

namespace PromptDispatch

/-- Loading leaves the prompts as they are. -/
@[simp]
theorem Archive.prompts_load (archive : Archive) (disk : Disk) (store : Store) :
    (archive.load disk store).store.prompts = store.prompts := by
  rw [load]
  split
  · rfl
  · split <;> rfl

namespace Store

/-- A store that is within given bounds, in the state in which every operation
leaves it. -/
structure Within (limits : Limits) (store : Store) : Prop where
  limits_eq : store.limits = limits
  wellFormed : store.WellFormed
  prompts_le : store.prompts.length ≤ limits.prompts

/-- What is seen on a machine of a store that is within given bounds. -/
structure Fits (machine : Machine) (limits : Limits) (store : Store) : Prop where
  /-- no agent has more keys than there is room for -/
  keys_le : ∀ entry ∈ store.agents, (Keyed.keys entry.2).length ≤ limits.entries
  /-- no key of an agent occurs twice -/
  keys_nodup : ∀ entry ∈ store.agents, (Keyed.keys entry.2).Nodup
  /-- no agent occurs twice -/
  agentIds_nodup : store.agentIds.Nodup
  /-- the size is the number of the keys that are handed out -/
  size_eq : ∀ agent entries, store.copied machine agent = .ok entries →
    store.size agent = (Keyed.keys entries).length
  /-- an agent has the entries that are handed out -/
  has_iff : ∀ agent entries, store.copied machine agent = .ok entries →
    ∀ key, store.has agent key = true ↔ ∃ value, (key, value) ∈ entries
  /-- nothing is handed out exactly where there is a value that cannot be copied -/
  refuses_iff : ∀ agent, (∃ fault, store.copied machine agent = .error fault) ↔
    machine.copying = 0 ∨ ∃ entry ∈ store.getAll agent, machine.CannotCopy 1 entry.2
  /-- there are no more prompts than there is room for -/
  prompts_le : store.prompts.length ≤ limits.prompts

variable {limits : Limits} {store : Store}

theorem within_empty (limits : Limits) : (empty limits).Within limits where
  limits_eq := rfl
  wellFormed := wellFormed_empty limits
  prompts_le := Nat.zero_le _

/-- No operation leaves more prompts than there is room for. -/
theorem length_prompts_le_of_attempt {after : Store} {operation : Operation}
    (within : store.prompts.length ≤ store.limits.prompts)
    (done : store.attempt operation = .ok after) : after.prompts.length ≤ store.limits.prompts := by
  cases operation with
  | save agent key value =>
      rcases save_eq_ok_iff.mp done with ⟨-, rfl⟩
      exact within
  | merge agent key value deep strategy =>
      rcases merge_eq_ok_iff.mp done with ⟨-, fields, chosen, -, -, rfl⟩
      exact within
  | delete agent key =>
      obtain rfl := Except.ok.inj done
      rw [delete]
      split <;> exact within
  | clearAgent agent =>
      obtain rfl := Except.ok.inj done
      exact within
  | clearAll =>
      obtain rfl := Except.ok.inj done
      exact within
  | record prompt =>
      obtain rfl := Except.ok.inj done
      exact length_newest_le _ _
  | clearPrompts =>
      obtain rfl := Except.ok.inj done
      exact Nat.zero_le _
  | persist archive disk =>
      obtain rfl := Except.ok.inj done
      rw [Archive.store_persist]
      exact within
  | load archive disk =>
      obtain rfl := Except.ok.inj done
      rw [Archive.prompts_load]
      exact within

namespace Within

/-- Every operation keeps a store within its bounds. -/
theorem perform (within : store.Within limits) (operation : Operation) :
    (store.perform operation).Within limits := by
  apply perform_induction within
  intro after done
  rcases within with ⟨rfl, wellFormed, prompts_le⟩
  rcases attempt_preserves wellFormed done with ⟨limits_eq, preserved⟩
  exact ⟨limits_eq, preserved, length_prompts_le_of_attempt prompts_le done⟩

theorem performAll (within : store.Within limits) (operations : List Operation) :
    (store.performAll operations).Within limits :=
  performAll_induction within fun operation _ _ stepWithin => stepWithin.perform operation

theorem write (within : store.Within limits) (agent key : Option String) (value : Json) :
    (store.write agent key value).Within limits where
  limits_eq := within.limits_eq
  wellFormed := wellFormed_write within.wellFormed agent key value
  prompts_le := within.prompts_le

/-- The bounds are seen by every observer. -/
theorem fits (within : store.Within limits) (machine : Machine) : store.Fits machine limits where
  keys_le entry entryMem := by
    rw [Keyed.length_keys, ← within.limits_eq]
    exact within.wellFormed.bounded entry entryMem
  keys_nodup := within.wellFormed.distinct.2
  agentIds_nodup := within.wellFormed.distinct.1
  size_eq agent entries handedOut := by
    obtain ⟨-, rfl⟩ := copied_eq_ok_iff.mp handedOut
    rw [Keyed.length_keys, size]
  has_iff agent entries handedOut key := by
    obtain ⟨-, rfl⟩ := copied_eq_ok_iff.mp handedOut
    rw [has, Keyed.has_iff_mem_keys, Keyed.keys, List.mem_map]
    simp
  refuses_iff _ := exists_copied_eq_error_iff
  prompts_le := within.prompts_le

end Within

end Store

end PromptDispatch
