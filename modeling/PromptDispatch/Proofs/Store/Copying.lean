import PromptDispatch.Proofs.Json.Nesting
import PromptDispatch.Store.OnMachine

/-!
# Copies of entries

All entries of an agent are handed out as a copy.  A machine makes it exactly when it
can copy every value among them: when nothing in a value is too deep, and nothing in it
is sealed and of a kind without a copy.
-/

namespace PromptDispatch

namespace Machine

variable {machine : Machine} {level : Nat} {v : Json}

/-- Something in a value at a level keeps a machine from copying it. -/
inductive CannotCopy (machine : Machine) (level : Nat) (v : Json) : Prop where
  | deep {meant : Nat} {inner : Json} (inside : Json.Inside meant inner level v)
      (holds : inner.holder? ≠ none) (deep : machine.copying ≤ meant)
  | lacksCopy {meant : Nat} {kind : String} {fault : Fault}
      (inside : Json.Inside meant (.sealed kind) level v)
      (lacks : machine.sealedFault kind = some fault)

theorem obstruction?_eq_none_iff : machine.obstruction? level v = none ↔
    (v.holder? ≠ none → level < machine.copying) ∧
      ∀ kind, v = .sealed kind → machine.sealedFault kind = none := by
  rw [obstruction?.eq_def, Json.beyond?]
  by_cases deep : machine.copying ≤ level
  · rw [if_pos deep]
    cases v <;> simp [Json.holder?, deep]
  · rw [if_neg deep]
    cases v <;> simp [Json.holder?, Nat.not_le.mp deep]

theorem not_cannotCopy_iff :
    ¬ machine.CannotCopy level v ↔ v.firstMet machine.obstruction? level = none := by
  rw [Json.firstMet_eq_none_iff]
  constructor
  · intro copies meant inner inside
    rw [obstruction?_eq_none_iff]
    refine ⟨fun holds => Nat.lt_of_not_le fun deep => copies (.deep inside holds deep), ?_⟩
    rintro kind rfl
    exact Option.eq_none_iff_forall_ne_some.mpr fun fault lacks => copies (.lacksCopy inside lacks)
  · intro unobstructed cannot
    cases cannot with
    | deep inside holds deep =>
        exact Nat.not_lt.mpr deep ((obstruction?_eq_none_iff.mp (unobstructed _ _ inside)).1 holds)
    | lacksCopy inside lacks =>
        cases lacks.symm.trans ((obstruction?_eq_none_iff.mp (unobstructed _ _ inside)).2 _ rfl)

end Machine

namespace Store

variable {machine : Machine} {store : Store} {agent : Option String}

theorem copyFault?_eq_none_iff : store.copyFault? machine agent = none ↔
    0 < machine.copying ∧ ∀ entry ∈ store.getAll agent, ¬ machine.CannotCopy 1 entry.2 := by
  have shallow_iff (fields : List (String × Json)) :
      machine.obstruction? 0 (.obj fields) = none ↔ 0 < machine.copying := by
    simp [Machine.obstruction?_eq_none_iff, Json.holder?]
  rw [copyFault?, Machine.copyFault?, Json.firstMet, Option.or_eq_none_iff, shallow_iff,
    Json.firstInFields_eq_none_iff, List.forall_mem_map]
  simp only [Machine.not_cannotCopy_iff, Nat.zero_add]

theorem copied_eq_ok_iff {entries : Entries} : store.copied machine agent = .ok entries ↔
    store.copyFault? machine agent = none ∧ store.getAll agent = entries := by
  rw [copied]
  cases store.copyFault? machine agent <;> simp

/-- No copy is made exactly where there is a value that cannot be copied. -/
theorem exists_copied_eq_error_iff : (∃ fault, store.copied machine agent = .error fault) ↔
    machine.copying = 0 ∨ ∃ entry ∈ store.getAll agent, machine.CannotCopy 1 entry.2 := by
  have fails_iff : (∃ fault, store.copied machine agent = .error fault) ↔
      store.copyFault? machine agent ≠ none := by
    rw [copied]
    cases store.copyFault? machine agent <;> simp
  rw [fails_iff, ne_eq, copyFault?_eq_none_iff, not_and_or, Nat.pos_iff_ne_zero, not_not]
  push Not
  rfl

end Store

end PromptDispatch
