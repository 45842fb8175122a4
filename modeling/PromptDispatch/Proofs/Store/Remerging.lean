import PromptDispatch.Proofs.Json.Remerging
import PromptDispatch.Proofs.Store.Eviction

/-!
# Merging twice into an entry

A deep merge writes what the entry becomes as a field of an object would.  The second of
two equal merges finds what the first one wrote, whatever the bound has dropped, so it
changes the store exactly when it changes that value.  It does when a list that was copied
the first time repeats an item; the third merge never changes anything.
-/

namespace PromptDispatch.Store

variable {store : Store}

/-! ## Writing what is there -/

/-- The key that has been written holds what was written. -/
theorem get?_getAll_write_self (wellFormed : store.WellFormed) (agent key : Option String)
    (value : Json) : Keyed.get? key ((store.write agent key value).getAll agent) = some value := by
  have present := mem_keys_bounded_put (wellFormed.length_getAll_le agent) key value
  rw [getAll_write_self, get?_bounded_put (wellFormed.nodup_keys_getAll agent) present, if_pos rfl]

/-- Writing the value that a key holds changes nothing. -/
theorem write_of_get? (wellFormed : store.WellFormed) {agent key : Option String} {value : Json}
    (found : Keyed.get? key (store.getAll agent) = some value) :
    store.write agent key value = store := by
  cases listed : Keyed.get? agent store.agents with
  | none =>
      rw [getAll, listed] at found
      cases found
  | some entries =>
      have entries_eq : store.getAll agent = entries := by rw [getAll, listed, Option.getD_some]
      have within := wellFormed.length_getAll_le agent
      rw [write, written, Keyed.put_of_get? found, bounded, if_neg (Nat.not_lt.mpr within),
        entries_eq, Keyed.put_of_get? listed]

/-- Writing a key again changes the store exactly when it changes the value. -/
theorem write_write_eq_self_iff (wellFormed : store.WellFormed) (agent key : Option String)
    (value again : Json) :
    (store.write agent key value).write agent key again = store.write agent key value ↔
      again = value := by
  have afterWrite := wellFormed_write wellFormed agent key value
  have found := get?_getAll_write_self wellFormed agent key value
  constructor
  · intro stays
    have foundAgain := get?_getAll_write_self afterWrite agent key again
    rw [stays, found] at foundAgain
    exact (Option.some.inj foundAgain).symm
  · rintro rfl
    exact write_of_get? afterWrite found

/-! ## Deep merges -/

/-- A deep merge writes what the key's value becomes as a field of an object would. -/
theorem mergeFields_deepUnion (store : Store) (agent key : Option String)
    (fields : List (String × Json)) :
    store.mergeFields agent key fields .deepUnion =
      store.write agent key
        (Json.mergeSlot (Keyed.get? key (store.getAll agent)) (.obj fields)) := by
  have held_eq : store.heldFields agent key =
      Json.heldFields (Keyed.get? key (store.getAll agent)) := rfl
  rw [mergeFields, Strategy.merge, held_eq, Json.mergeSlot_obj]

/-- The second of two equal deep merges. -/
theorem mergeFields_mergeFields_eq_self_iff (wellFormed : store.WellFormed)
    (agent key : Option String) {fields : List (String × Json)}
    (proper : (Json.obj fields).Proper) :
    let once := store.mergeFields agent key fields .deepUnion
    once.mergeFields agent key fields .deepUnion = once ↔
      Json.CopiesNoRepeats (Keyed.get? key (store.getAll agent)) (.obj fields) := by
  simp only [mergeFields_deepUnion]
  rw [get?_getAll_write_self wellFormed, write_write_eq_self_iff wellFormed,
    Json.mergeSlot_mergeSlot_iff _ _ proper]

/-- The third of three equal deep merges. -/
theorem mergeFields_thrice (wellFormed : store.WellFormed) (agent key : Option String)
    {fields : List (String × Json)} (proper : (Json.obj fields).Proper) :
    let twice := (store.mergeFields agent key fields .deepUnion).mergeFields agent key fields
      .deepUnion
    twice.mergeFields agent key fields .deepUnion = twice := by
  have onceWellFormed : (store.mergeFields agent key fields .deepUnion).WellFormed :=
    wellFormed_write wellFormed agent key _
  refine (mergeFields_mergeFields_eq_self_iff onceWellFormed agent key proper).mpr ?_
  rw [mergeFields_deepUnion, get?_getAll_write_self wellFormed]
  exact Json.copiesNoRepeats_mergeSlot proper.once _

/-- In every state of a run a deep merge that is accepted is accepted again and again.  The
second time it changes nothing exactly when no list that was copied the first time repeats
an item; the third time it changes nothing. -/
theorem attempt_merge_twice (limits : Limits) (operations : List Operation)
    {agent : Option String} (isNamed : isName agent = true) (key : Option String)
    {fields : List (String × Json)} (proper : (Json.obj fields).Proper) {deep : Bool}
    {strategy : Json} (deepUnion : Strategy.choose deep strategy = .ok .deepUnion) :
    let store := (empty limits).performAll operations
    let merging := Operation.merge agent key (.obj fields) deep strategy
    ∃ once twice, store.attempt merging = .ok once ∧ once.attempt merging = .ok twice ∧
      (twice = once ↔
        Json.CopiesNoRepeats (Keyed.get? key (store.getAll agent)) (.obj fields)) ∧
      twice.attempt merging = .ok twice := by
  intro store merging
  have wellFormed := (performAll_preserves (wellFormed_empty limits) operations).2
  have accepted (s : Store) : s.attempt merging = .ok (s.mergeFields agent key fields .deepUnion) :=
    merge_eq_ok_iff.mpr ⟨isNamed, fields, .deepUnion, rfl, deepUnion, rfl⟩
  refine ⟨_, _, accepted store, accepted _, ?_, ?_⟩
  · exact mergeFields_mergeFields_eq_self_iff wellFormed agent key proper
  · rw [accepted, mergeFields_thrice wellFormed agent key proper]

/-- A list that repeats an item. -/
def repeatedTags : List (String × Json) := [("x", .arr [.int 1, .int 1])]

theorem proper_repeatedTags : (Json.obj repeatedTags).Proper where
  once := by
    simp [repeatedTags, Json.NamesOnce, Json.AllNameOnce, Json.FieldsNameOnce, Json.FieldNamesOnce]
  unsealed := by
    simp [repeatedTags, Json.Unsealed, Json.AllUnsealed, Json.FieldsUnsealed, Json.FieldUnsealed]

/-- Where a list is held, a list that repeats an item may be merged twice. -/
theorem attempt_merge_twice_tagged :
    let store := (empty .standard).performAll [.save (some "a") (some "k") (.obj [("x", .arr [])])]
    let merging := Operation.merge (some "a") (some "k") (.obj repeatedTags) true .null
    ∃ once, store.attempt merging = .ok once ∧ once.attempt merging = .ok once := by
  intro store merging
  have isNamed : isName (some "a") = true := rfl
  have deepUnion : Strategy.choose true .null = .ok .deepUnion := rfl
  obtain ⟨once, twice, first, second, twice_eq_iff, -⟩ :=
    attempt_merge_twice .standard [.save (some "a") (some "k") (.obj [("x", .arr [])])] isNamed
      (some "k") proper_repeatedTags deepUnion
  have united : Json.CopiesNoRepeats (some (.obj [("x", .arr [])])) (.obj repeatedTags) := by
    rw [Json.copiesNoRepeats_obj_iff proper_repeatedTags.once.keys]
    simp [repeatedTags, Json.copiesNoRepeats_arr_iff, Json.heldFields, Keyed.get?]
  obtain rfl := twice_eq_iff.mpr united
  exact ⟨twice, first, second⟩

/-- Where nothing is held, the first merge keeps both equal items and the second one makes
one of them. -/
theorem not_merge_idempotent :
    let merging := Operation.merge (some "a") (some "k") (.obj repeatedTags) true .null
    ∃ once twice, (empty .standard).attempt merging = .ok once ∧
      once.attempt merging = .ok twice ∧
      once.get? (some "a") (some "k") = some (.obj [("x", .arr [.int 1, .int 1])]) ∧
      twice.get? (some "a") (some "k") = some (.obj [("x", .arr [.int 1])]) ∧ twice ≠ once := by
  intro merging
  have united : Json.mergeSlot (some (.obj repeatedTags)) (.obj repeatedTags) =
      .obj [("x", .arr [.int 1])] := by
    simp [repeatedTags, Json.mergeSlot, Json.mergeFields, Json.mergeField, Keyed.get?, Keyed.put,
      Json.union, Json.addNew, Json.same, Json.number?, Json.Number.same]
  let once := (empty .standard).write (some "a") (some "k") (.obj repeatedTags)
  have left : (once.mergeFields (some "a") (some "k") repeatedTags .deepUnion).get? (some "a")
      (some "k") = some (.obj [("x", .arr [.int 1])]) := by
    have wellFormed := wellFormed_write (wellFormed_empty .standard) (some "a") (some "k")
      (.obj repeatedTags)
    have isNamed : isName (some "a") = true := rfl
    rw [get?, if_pos isNamed, mergeFields_deepUnion, get?_getAll_write_self wellFormed,
      get?_getAll_write_self (wellFormed_empty .standard), united]
  refine ⟨once, once.mergeFields (some "a") (some "k") repeatedTags .deepUnion, rfl, rfl, rfl,
    left, ?_⟩
  intro stays
  rw [stays] at left
  cases left

end PromptDispatch.Store
