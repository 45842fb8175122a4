import PromptDispatch.Proofs.Store.Run

/-!
# Eviction over runs

What a run of saves, merges and reads leaves of one agent's entries, in closed
form: the newest keys of those before the run followed by the keys written
while absent, each with the value of its latest write.  A key that was dropped
may arrive again and is then the newest one; a key that is present keeps its
place whatever is written to it.

The closed form rests on the bound holding before every write, since a write
drops one entry at most.
-/

namespace PromptDispatch.Store

/-! ## Accesses and their answers -/

/-- A step of a run that writes and reads only. -/
inductive Access where
  | save (agent key : Option String) (value : Json)
  | merge (agent key : Option String) (value : Json) (deep : Bool) (strategy : Json)
  | get (agent key : Option String)
  | getAll (agent : Option String)
  | has (agent key : Option String)
  | size (agent : Option String)
  | agentIds

/-- What the caller of an access gets to see. -/
inductive Answer where
  | written
  | refused (fault : Fault)
  | value (found : Option Json)
  | entries (all : Entries)
  | presence (present : Bool)
  | count (n : Nat)
  | names (agents : List (Option String))

/-- The store and the answer after a write. -/
def answered (store : Store) : Except Fault Store → Store × Answer
  | .ok after => (after, .written)
  | .error fault => (store, .refused fault)

/-- The store and the answer after an access. -/
def access (store : Store) : Access → Store × Answer
  | .save agent key value => store.answered (store.save agent key value)
  | .merge agent key value deep strategy =>
      store.answered (store.merge agent key value (Strategy.choose deep strategy))
  | .get agent key => (store, .value (store.get? agent key))
  | .getAll agent => (store, .entries (store.getAll agent))
  | .has agent key => (store, .presence (store.has agent key))
  | .size agent => (store, .count (store.size agent))
  | .agentIds => (store, .names store.agentIds)

/-- The store after accesses. -/
def accessAll (store : Store) (accesses : List Access) : Store :=
  accesses.foldl (fun store access => (store.access access).1) store

/-- The agent and the key that an access asks to write. -/
def Access.slot? : Access → Option (Option String × Option String)
  | .save agent key _ => some (agent, key)
  | .merge agent key _ _ _ => some (agent, key)
  | _ => none

/-- The key of an agent that an access writes; a refused one writes none. -/
def writtenKey? (store : Store) (agent : Option String) (access : Access) :
    Option (Option String) :=
  match (store.access access).2, access.slot? with
  | .written, some (owner, key) => if owner = agent then some key else none
  | _, _ => none

/-- The fields that a merge starts from, given what its key holds; a key that
is absent counts as empty. -/
def fieldsHeld : Option Json → List (String × Json)
  | some (.obj fields) => fields
  | _ => []

/-- The value that an access writes, given what its key holds. -/
def Access.valueOver (held : Option Json) : Access → Option Json
  | .save _ _ value => some value
  | .merge _ _ (.obj fields) deep strategy =>
      match Strategy.choose deep strategy with
      | .ok chosen => some (.obj (chosen.merge (fieldsHeld held) fields))
      | .error _ => none
  | _ => none

/-- The keys of an agent in the order in which they are written while absent. -/
def arrivals (agent : Option String) : Store → List Access → List (Option String)
  | _, [] => []
  | store, access :: rest =>
      let later := arrivals agent (store.access access).1 rest
      match store.writtenKey? agent access with
      | some key => if store.has agent key then later else key :: later
      | none => later

/-- The value of the latest write to a key of an agent. -/
def latest? (agent key : Option String) : Store → List Access → Option Json
  | _, [] => none
  | store, access :: rest =>
      (latest? agent key (store.access access).1 rest).or
        (if store.writtenKey? agent access = some key then
          access.valueOver (Keyed.get? key (store.getAll agent))
        else none)

/-! ## One access -/

theorem getAll_write_self (store : Store) (agent key : Option String) (value : Json) :
    (store.write agent key value).getAll agent =
      bounded store.limits (Keyed.put key value (store.getAll agent)) := by
  rw [write, getAll, Keyed.get?_put_self, Option.getD_some, written]

theorem getAll_write_of_ne (store : Store) {agent owner : Option String} (ne : agent ≠ owner)
    (key : Option String) (value : Json) :
    (store.write owner key value).getAll agent = store.getAll agent := by
  rw [write, getAll, Keyed.get?_put_of_ne ne, getAll]

/-- All that an access can do: it leaves the store as it is and answers that
it has written nothing, or it is a write of a value that depends only on what
its key holds. -/
theorem access_cases (store : Store) (access : Access) :
    ((store.access access).1 = store ∧ (store.access access).2 ≠ .written) ∨
      ∃ agent key value, access.slot? = some (agent, key) ∧
        access.valueOver (Keyed.get? key (store.getAll agent)) = some value ∧
        store.access access = (store.write agent key value, .written) := by
  cases access with
  | save agent key value =>
      cases saved : store.save agent key value with
      | error fault => exact .inl (by simp [Store.access, saved, answered])
      | ok after =>
          rcases save_eq_ok_iff.mp saved with ⟨-, rfl⟩
          exact .inr ⟨agent, key, value, rfl, rfl, by simp [Store.access, saved, answered]⟩
  | merge agent key value deep strategy =>
      cases merged : store.merge agent key value (Strategy.choose deep strategy) with
      | error fault => exact .inl (by simp [Store.access, merged, answered])
      | ok after =>
          rcases merge_eq_ok_iff.mp merged with ⟨-, fields, chosen, rfl, chosenEq, rfl⟩
          let held := fieldsHeld (Keyed.get? key (store.getAll agent))
          refine .inr ⟨agent, key, .obj (chosen.merge held fields), rfl, ?_, ?_⟩
          · rw [Access.valueOver, chosenEq]
          · rw [Store.access, merged, answered]
            rfl
  | get => exact .inl (by simp [Store.access])
  | getAll => exact .inl (by simp [Store.access])
  | has => exact .inl (by simp [Store.access])
  | size => exact .inl (by simp [Store.access])
  | agentIds => exact .inl (by simp [Store.access])

/-- An access that writes no key of an agent leaves all its entries. -/
theorem getAll_access_of_none {store : Store} {agent : Option String} {access : Access}
    (writesNone : store.writtenKey? agent access = none) :
    (store.access access).1.getAll agent = store.getAll agent := by
  rcases access_cases store access with ⟨same, -⟩ | ⟨owner, key, value, slot, -, done⟩
  · rw [same]
  · have ownerNe : agent ≠ owner := by
      rintro rfl
      simp [writtenKey?, done, slot] at writesNone
    rw [done, getAll_write_of_ne store ownerNe]

/-- An access that writes a key of an agent puts its value among the entries
and drops the oldest one when there is one too many. -/
theorem getAll_access_of_some {store : Store} {agent key : Option String} {access : Access}
    (writesKey : store.writtenKey? agent access = some key) :
    ∃ value, access.valueOver (Keyed.get? key (store.getAll agent)) = some value ∧
      (store.access access).1.getAll agent =
        bounded store.limits (Keyed.put key value (store.getAll agent)) := by
  rcases access_cases store access with ⟨-, unwritten⟩ | ⟨owner, key', value, slot, whole, done⟩
  · rw [writtenKey?.eq_def] at writesKey
    split at writesKey
    · next answer _ => exact absurd answer unwritten
    · simp at writesKey
  · obtain ⟨rfl, rfl⟩ : owner = agent ∧ key' = key := by
      simpa [writtenKey?, done, slot] using writesKey
    refine ⟨value, whole, ?_⟩
    rw [done, getAll_write_self]

theorem access_preserves {store : Store} (wellFormed : store.WellFormed) (access : Access) :
    (store.access access).1.limits = store.limits ∧ (store.access access).1.WellFormed := by
  rcases access_cases store access with ⟨same, -⟩ | ⟨owner, key, value, -, -, done⟩
  · rw [same]
    exact ⟨rfl, wellFormed⟩
  · rw [done]
    exact ⟨rfl, wellFormed_write wellFormed owner key value⟩

theorem kindName_of_choose_error {deep : Bool} {name : Json} {fault : Fault}
    (unknown : Strategy.choose deep name = .error fault) : fault.kindName = "ValueError" := by
  rw [Strategy.choose.eq_def] at unknown
  split at unknown
  · simp at unknown
  · simp at unknown
  · simp at unknown
  · obtain rfl := Except.error.inj unknown
    rfl

/-- A write is refused for its agent, its value or its strategy only. -/
theorem kindName_of_refused {store : Store} {access : Access} {fault : Fault}
    (refused : (store.access access).2 = .refused fault) :
    fault.kindName ∈ ["InvalidIdentifierError", "TypeError", "ValueError"] := by
  cases access with
  | save agent key value =>
      by_cases named : isName agent = true
      · simp [Store.access, save, named, answered] at refused
      · obtain rfl : Fault.namelessAgent = fault := by
          simpa [Store.access, save, named, answered] using refused
        simp [Fault.namelessAgent, Fault.kindName]
  | merge agent key value deep strategy =>
      by_cases named : isName agent = true
      · cases value with
        | obj fields =>
            cases chosen : Strategy.choose deep strategy with
            | ok strategy' => simp [Store.access, merge, named, answered, chosen] at refused
            | error fault' =>
                obtain rfl : fault' = fault := by
                  simpa [Store.access, merge, named, answered, chosen] using refused
                simp [kindName_of_choose_error chosen]
        | _ =>
            obtain rfl : Fault.badKind "merge value must be a mapping" = fault := by
              simpa [Store.access, merge, named, answered] using refused
            simp [Fault.badKind, Fault.kindName]
      · obtain rfl : Fault.namelessAgent = fault := by
          simpa [Store.access, merge, named, answered] using refused
        simp [Fault.namelessAgent, Fault.kindName]
  | _ => simp [Store.access] at refused

/-! ## The newest of a list -/

theorem newest_of_length_le {α : Type} {n : Nat} {xs : List α} (short : xs.length ≤ n) :
    newest n xs = xs := by
  rw [newest, Nat.sub_eq_zero_of_le short, List.drop_zero]

/-- Taking the newest early loses nothing that the newest would keep later. -/
theorem newest_newest_append {α : Type} (n : Nat) (xs ys : List α) :
    newest n (newest n xs ++ ys) = newest n (xs ++ ys) := by
  by_cases short : xs.length ≤ n
  · rw [newest_of_length_le short]
  · have split : newest n xs ++ ys = (xs ++ ys).drop (xs.length - n) := by
      rw [newest, List.drop_append_of_le_length (Nat.sub_le ..)]
    rw [split, newest, newest, List.drop_drop]
    congr 1
    simp only [List.length_drop, List.length_append]
    omega

/-! ## One write -/

section Write

variable {limits : Limits} {entries : Entries} (within : entries.length ≤ limits.entries)
include within

/-- Writing a present key drops nothing and leaves the keys in place. -/
theorem bounded_put_of_mem {key : Option String} (present : key ∈ Keyed.keys entries)
    (value : Json) :
    bounded limits (Keyed.put key value entries) = Keyed.put key value entries := by
  have sameLength : (Keyed.put key value entries).length = entries.length := by
    rw [← Keyed.length_keys, Keyed.keys_put_of_mem present, Keyed.length_keys]
  rw [bounded, if_neg (by omega)]

/-- Writing an absent key appends it and keeps the newest. -/
theorem bounded_put_of_not_mem {key : Option String} (absent : key ∉ Keyed.keys entries)
    (value : Json) :
    bounded limits (Keyed.put key value entries) =
      newest limits.entries (entries ++ [(key, value)]) := by
  rw [Keyed.put_of_not_mem absent, bounded, newest]
  split
  · congr 1
    simp only [List.length_append, List.length_singleton] at *
    omega
  · next fits =>
    rw [Nat.sub_eq_zero_of_le (Nat.le_of_not_lt fits), List.drop_zero]

theorem keys_bounded_put (key : Option String) (value : Json) :
    Keyed.keys (bounded limits (Keyed.put key value entries)) =
      newest limits.entries (Keyed.keys entries ++
        if key ∈ Keyed.keys entries then [] else [key]) := by
  by_cases present : key ∈ Keyed.keys entries
  · rw [bounded_put_of_mem within present, Keyed.keys_put_of_mem present, if_pos present,
      List.append_nil, newest_of_length_le]
    rwa [Keyed.length_keys]
  · rw [bounded_put_of_not_mem within present, if_neg present, newest, Keyed.keys_drop]
    simp [newest]

/-- A key that has just been written is present: the bound is at least one, and
the oldest entry goes. -/
theorem mem_keys_bounded_put (key : Option String) (value : Json) :
    key ∈ Keyed.keys (bounded limits (Keyed.put key value entries)) := by
  by_cases present : key ∈ Keyed.keys entries
  · rw [bounded_put_of_mem within present]
    exact Keyed.mem_keys_put_self key value entries
  · have positive := limits.entries_pos
    rw [keys_bounded_put within, if_neg present, newest, List.drop_append_of_le_length]
    · simp
    · simp only [List.length_append, List.length_singleton]
      omega

omit within in
/-- The values after a write: the written one under its key, and those before
under every other key that stays. -/
theorem get?_bounded_put (distinct : (Keyed.keys entries).Nodup) {key other : Option String}
    {value : Json}
    (stays : other ∈ Keyed.keys (bounded limits (Keyed.put key value entries))) :
    Keyed.get? other (bounded limits (Keyed.put key value entries)) =
      if other = key then some value else Keyed.get? other entries := by
  have written : Keyed.get? other (Keyed.put key value entries) =
      if other = key then some value else Keyed.get? other entries := by
    split
    · next same => rw [same, Keyed.get?_put_self]
    · next ne => exact Keyed.get?_put_of_ne ne value entries
  rw [← written]
  rw [bounded] at stays ⊢
  split at stays
  · next tooMany =>
    rw [if_pos tooMany]
    exact Keyed.get?_drop_of_mem (Keyed.nodup_keys_put key value distinct) stays
  · next fits => rw [if_neg fits]

end Write

/-! ## Runs -/

section Run

variable {store : Store} (wellFormed : store.WellFormed) (agent : Option String)
include wellFormed

theorem accessAll_preserves (accesses : List Access) :
    (store.accessAll accesses).limits = store.limits ∧
      (store.accessAll accesses).WellFormed := by
  induction accesses generalizing store with
  | nil => exact ⟨rfl, wellFormed⟩
  | cons access rest ih =>
      rcases access_preserves wellFormed access with ⟨limitsEq, stepWellFormed⟩
      rcases ih stepWellFormed with ⟨restLimits, restWellFormed⟩
      exact ⟨restLimits.trans limitsEq, restWellFormed⟩

/-- One access in closed form: the newest of the keys before and the key that
arrives, if one does. -/
theorem keys_getAll_access (access : Access) :
    Keyed.keys ((store.access access).1.getAll agent) =
      newest store.limits.entries
        (Keyed.keys (store.getAll agent) ++ arrivals agent store [access]) := by
  have within := wellFormed.length_getAll_le agent
  cases writes : store.writtenKey? agent access with
  | none =>
      rw [getAll_access_of_none writes, newest_of_length_le]
      · simp [arrivals, writes]
      · simpa [arrivals, writes] using within
  | some key =>
      rcases getAll_access_of_some writes with ⟨value, -, getAllEq⟩
      rw [getAllEq, keys_bounded_put within]
      simp [arrivals, writes, has, Keyed.has_iff_mem_keys]

/-- The keys after a run. -/
theorem keys_getAll_accessAll (accesses : List Access) :
    Keyed.keys ((store.accessAll accesses).getAll agent) =
      newest store.limits.entries
        (Keyed.keys (store.getAll agent) ++ arrivals agent store accesses) := by
  induction accesses generalizing store with
  | nil =>
      rw [arrivals, List.append_nil, newest_of_length_le]
      · rfl
      · rw [Keyed.length_keys]
        exact wellFormed.length_getAll_le agent
  | cons access rest ih =>
      rcases access_preserves wellFormed access with ⟨limitsEq, stepWellFormed⟩
      have split : arrivals agent store (access :: rest) =
          arrivals agent store [access] ++ arrivals agent (store.access access).1 rest := by
        simp only [arrivals]
        split
        · split <;> rfl
        · rfl
      calc
        Keyed.keys ((store.accessAll (access :: rest)).getAll agent)
            = newest store.limits.entries
                (Keyed.keys ((store.access access).1.getAll agent) ++
                  arrivals agent (store.access access).1 rest) := by
              rw [← limitsEq, ← ih stepWellFormed]
              rfl
        _ = newest store.limits.entries
              (Keyed.keys (store.getAll agent) ++ arrivals agent store (access :: rest)) := by
              rw [keys_getAll_access wellFormed, newest_newest_append, split,
                List.append_assoc]

/-- The value of a key that is present after an access. -/
theorem get?_getAll_access {access : Access} {key : Option String}
    (present : key ∈ Keyed.keys ((store.access access).1.getAll agent)) :
    Keyed.get? key ((store.access access).1.getAll agent) =
      (latest? agent key store [access]).or (Keyed.get? key (store.getAll agent)) := by
  cases writes : store.writtenKey? agent access with
  | none =>
      rw [getAll_access_of_none writes]
      simp [latest?, writes]
  | some written =>
      rcases getAll_access_of_some writes with ⟨value, whole, getAllEq⟩
      rw [getAllEq] at present ⊢
      rw [get?_bounded_put (wellFormed.nodup_keys_getAll agent) present]
      by_cases same : key = written
      · subst same
        simp [latest?, writes, whole]
      · simp [latest?, writes, same, Ne.symm same]

/-- The values after a run. -/
theorem get?_getAll_accessAll {accesses : List Access} {key : Option String}
    (present : key ∈ Keyed.keys ((store.accessAll accesses).getAll agent)) :
    Keyed.get? key ((store.accessAll accesses).getAll agent) =
      (latest? agent key store accesses).or (Keyed.get? key (store.getAll agent)) := by
  induction accesses generalizing store with
  | nil => simp [accessAll, latest?]
  | cons access rest ih =>
      have stepWellFormed := (access_preserves wellFormed access).2
      have later := ih stepWellFormed present
      have split : latest? agent key store (access :: rest) =
          (latest? agent key (store.access access).1 rest).or
            (latest? agent key store [access]) := by
        simp [latest?]
      rw [split, Option.or_assoc]
      refine later.trans ?_
      cases written : latest? agent key (store.access access).1 rest with
      | some value => rfl
      | none =>
          -- A key that is present at the end and not written later was present all along.
          have presentNow : key ∈ Keyed.keys ((store.access access).1.getAll agent) := by
            rw [written, Option.none_or] at later
            rw [← Keyed.isSome_get?_iff, ← later, Keyed.isSome_get?_iff]
            exact present
          rw [Option.none_or, Option.none_or, get?_getAll_access wellFormed agent presentNow]

end Run

end PromptDispatch.Store
