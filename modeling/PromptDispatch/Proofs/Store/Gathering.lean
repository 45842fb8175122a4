import PromptDispatch.Proofs.Json.RoundTrip
import PromptDispatch.Proofs.Store.Named

/-!
# Rows and the entries they make

Rows are added one after another.  What they come to is told by the rows alone:
agents, and the keys of every agent, stand in the order of their first rows, and
every value is the one of the last row of its agent and key.  One unreadable
value anywhere makes the whole of them unreadable.

The rows of a snapshot come to the snapshot's own agents, save those without
entries, which have no rows.
-/

namespace PromptDispatch

/-- The agents that have entries. -/
def Store.withEntries (agents : List (Option String × Entries)) : List (Option String × Entries) :=
  agents.filter fun entry => !entry.2.isEmpty

namespace Archive

open Disk (Row)
open Store (Distinct Entries Named Snapshot ValuesPlain withEntries)

/-! ## Any rows -/

/-- The entries under an agent. -/
def entriesOf (agents : List (Option String × Entries)) (agent : Option String) : Entries :=
  (Keyed.get? agent agents).getD []

/-- The text that a column holds, be it encoded. -/
def HoldsText (datum? : Option Disk.Datum) (text : String) : Prop :=
  ∃ datum, datum? = some datum ∧ textOf datum = .ok text

theorem HoldsText.unique {datum? : Option Disk.Datum} {text other : String}
    (holds : HoldsText datum? text) (holdsToo : HoldsText datum? other) : text = other := by
  rcases holds with ⟨datum, rfl, isText⟩
  rcases holdsToo with ⟨_, same, isTextToo⟩
  obtain rfl := Option.some.inj same
  exact Except.ok.inj (isText.symm.trans isTextToo)

/-- A value can be read from a row. -/
def Readable (row : Row) : Prop :=
  ∃ text value, HoldsText row.value text ∧ Json.read text = .ok value

theorem rowValue_eq_ok_iff {datum? : Option Disk.Datum} {value : Json} :
    rowValue datum? = .ok value ↔ ∃ text, HoldsText datum? text ∧ Json.read text = .ok value := by
  cases datum? with
  | none => simp [rowValue, HoldsText]
  | some datum =>
      cases isText : textOf datum with
      | error reason => simp [rowValue, HoldsText, isText]
      | ok text => cases isRead : Json.read text <;> simp [rowValue, HoldsText, isText, isRead]

/-- A row with a value is added to the entries under its agent. -/
theorem gather_cons {row : Row} {value : Json} (isValue : rowValue row.value = .ok value)
    (agents : List (Option String × Entries)) (rows : List Row) :
    gather agents (row :: rows) =
      gather (Keyed.put row.agent (Keyed.put row.key value (entriesOf agents row.agent)) agents)
        rows := by
  rw [gather, isValue]
  rfl

/-- Rows can be added exactly when a value can be read from each. -/
theorem exists_gather_iff {agents : List (Option String × Entries)} {rows : List Row} :
    (∃ after, gather agents rows = .ok after) ↔ ∀ row ∈ rows, Readable row := by
  induction rows generalizing agents with
  | nil => simp [gather]
  | cons row rows ih =>
      rw [List.forall_mem_cons]
      constructor
      · rintro ⟨after, gathered⟩
        rcases bind_eq_ok_iff.mp gathered with ⟨value, isValue, rest⟩
        rcases rowValue_eq_ok_iff.mp isValue with ⟨text, isText, isRead⟩
        exact ⟨⟨text, value, isText, isRead⟩, ih.mp ⟨after, rest⟩⟩
      · rintro ⟨⟨text, value, isText, isRead⟩, others⟩
        rcases ih.mpr others with ⟨after, rest⟩
        have isValue := rowValue_eq_ok_iff.mpr ⟨text, isText, isRead⟩
        exact ⟨after, bind_eq_ok_iff.mpr ⟨value, isValue, rest⟩⟩

/-- The rows of an agent. -/
def ofAgent (agent : Option String) (rows : List Row) : List Row :=
  rows.filter fun row => row.agent = agent

/-- The rows of an agent and a key. -/
def ofKey (agent key : Option String) (rows : List Row) : List Row :=
  (ofAgent agent rows).filter fun row => row.key = key

/-- Agents and entries that rows come to. -/
structure Gathered (rows : List Row) (agents : List (Option String × Entries)) : Prop where
  agents_eq : Keyed.keys agents = (rows.map Row.agent).eraseDups
  keys_eq : ∀ agent, Keyed.keys (entriesOf agents agent) =
    ((ofAgent agent rows).map Row.key).eraseDups
  values : ∀ agent key value, Keyed.get? key (entriesOf agents agent) = some value →
    ∃ row text, (ofKey agent key rows).getLast? = some row ∧ HoldsText row.value text ∧
      Json.read text = .ok value

theorem gathered_nil : Gathered [] [] where
  agents_eq := rfl
  keys_eq _ := rfl
  values _ _ _ found := by cases found

theorem entriesOf_put_self (agents : List (Option String × Entries)) (agent : Option String)
    (entries : Entries) : entriesOf (Keyed.put agent entries agents) agent = entries := by
  rw [entriesOf, Keyed.get?_put_self, Option.getD_some]

theorem entriesOf_put_of_ne {agents : List (Option String × Entries)}
    {agent other : Option String} (different : other ≠ agent) (entries : Entries) :
    entriesOf (Keyed.put agent entries agents) other = entriesOf agents other := by
  rw [entriesOf, Keyed.get?_put_of_ne different, entriesOf]

/-- One row more. -/
theorem Gathered.concat {rows : List Row} {agents : List (Option String × Entries)}
    (gathered : Gathered rows agents) {row : Row} {text : String} {value : Json}
    (isText : HoldsText row.value text) (isRead : Json.read text = .ok value) :
    Gathered (rows ++ [row])
      (Keyed.put row.agent (Keyed.put row.key value (entriesOf agents row.agent)) agents) where
  agents_eq := by
    rw [List.map_append]
    exact Keyed.keys_put_eraseDups gathered.agents_eq row.agent _
  keys_eq agent := by
    by_cases own : agent = row.agent
    · subst own
      have rows_eq : ofAgent row.agent (rows ++ [row]) = ofAgent row.agent rows ++ [row] := by
        simp [ofAgent]
      rw [entriesOf_put_self, rows_eq, List.map_append]
      exact Keyed.keys_put_eraseDups (gathered.keys_eq row.agent) row.key value
    · have rows_eq : ofAgent agent (rows ++ [row]) = ofAgent agent rows := by
        simp [ofAgent, Ne.symm own]
      rw [entriesOf_put_of_ne own, rows_eq]
      exact gathered.keys_eq agent
  values agent key found := by
    intro isValue
    by_cases own : row.agent = agent ∧ row.key = key
    · rcases own with ⟨rfl, rfl⟩
      rw [entriesOf_put_self, Keyed.get?_put_self] at isValue
      obtain rfl := Option.some.inj isValue
      have rows_eq : ofKey row.agent row.key (rows ++ [row]) =
          ofKey row.agent row.key rows ++ [row] := by
        simp [ofKey, ofAgent]
      exact ⟨row, text, by rw [rows_eq, List.getLast?_concat], isText, isRead⟩
    · have rows_eq : ofKey agent key (rows ++ [row]) = ofKey agent key rows := by
        simpa [ofKey, ofAgent, and_comm] using own
      have held : Keyed.get? key (entriesOf agents agent) = some found := by
        by_cases ownAgent : agent = row.agent
        · have otherKey : key ≠ row.key := fun same => own ⟨ownAgent.symm, same.symm⟩
          rwa [ownAgent, entriesOf_put_self, Keyed.get?_put_of_ne otherKey, ← ownAgent] at isValue
        · rwa [entriesOf_put_of_ne ownAgent] at isValue
      rw [rows_eq]
      exact gathered.values agent key found held

/-- Rows added to what earlier rows come to. -/
theorem Gathered.append {done rows : List Row} {agents after : List (Option String × Entries)}
    (before : Gathered done agents) (gathered : gather agents rows = .ok after) :
    Gathered (done ++ rows) after := by
  induction rows generalizing done agents with
  | nil =>
      obtain rfl : agents = after := Except.ok.inj gathered
      rwa [List.append_nil]
  | cons row rows ih =>
      rcases bind_eq_ok_iff.mp gathered with ⟨value, isValue, rest⟩
      rcases rowValue_eq_ok_iff.mp isValue with ⟨text, isText, isRead⟩
      have next := ih (before.concat isText isRead) rest
      rwa [List.append_assoc, List.singleton_append] at next

/-- What is read from rows is what they come to. -/
theorem gathered_of_gather {rows : List Row} {agents : List (Option String × Entries)}
    (gathered : gather [] rows = .ok agents) : Gathered rows agents :=
  gathered_nil.append gathered

namespace Gathered

variable {rows : List Row} {agents other : List (Option String × Entries)}

theorem keys_nodup (gathered : Gathered rows agents) : (Keyed.keys agents).Nodup := by
  rw [gathered.agents_eq]
  exact Keyed.nodup_eraseDups _

/-- The entries under an agent are told by the rows. -/
theorem entriesOf_eq (gathered : Gathered rows agents) (gatheredToo : Gathered rows other)
    (agent : Option String) : entriesOf agents agent = entriesOf other agent := by
  have keys_eq := (gathered.keys_eq agent).trans (gatheredToo.keys_eq agent).symm
  refine Keyed.eq_of_get? ?_ keys_eq fun key keyMem => ?_
  · rw [gathered.keys_eq]
    exact Keyed.nodup_eraseDups _
  rcases Option.isSome_iff_exists.mp ((Keyed.isSome_get?_iff _ _).mpr keyMem) with ⟨value, found⟩
  rcases Option.isSome_iff_exists.mp ((Keyed.isSome_get?_iff _ _).mpr (keys_eq ▸ keyMem)) with
    ⟨valueToo, foundToo⟩
  rcases gathered.values agent key value found with ⟨row, text, isLast, isText, isRead⟩
  rcases gatheredToo.values agent key valueToo foundToo with
    ⟨rowToo, textToo, isLastToo, isTextToo, isReadToo⟩
  obtain rfl := Option.some.inj (isLast.symm.trans isLastToo)
  obtain rfl := isText.unique isTextToo
  obtain rfl := Except.ok.inj (isRead.symm.trans isReadToo)
  rw [found, foundToo]

/-- Rows come to one mapping only. -/
theorem unique (gathered : Gathered rows agents) (gatheredToo : Gathered rows other) :
    agents = other := by
  have keys_eq := gathered.agents_eq.trans gatheredToo.agents_eq.symm
  refine Keyed.eq_of_get? gathered.keys_nodup keys_eq fun agent agentMem => ?_
  rcases Option.isSome_iff_exists.mp ((Keyed.isSome_get?_iff _ _).mpr agentMem) with
    ⟨entries, found⟩
  rcases Option.isSome_iff_exists.mp ((Keyed.isSome_get?_iff _ _).mpr (keys_eq ▸ agentMem)) with
    ⟨entriesToo, foundToo⟩
  have same := gathered.entriesOf_eq gatheredToo agent
  rw [entriesOf, entriesOf, found, foundToo, Option.getD_some, Option.getD_some] at same
  rw [found, foundToo, same]

theorem entriesOf_of_mem (gathered : Gathered rows agents) {entry : Option String × Entries}
    (entryMem : entry ∈ agents) : entriesOf agents entry.1 = entry.2 := by
  have found : Keyed.get? entry.1 agents = some entry.2 :=
    Keyed.get?_of_mem gathered.keys_nodup entryMem
  rw [entriesOf, found, Option.getD_some]

/-- The keys of an agent are those of its rows. -/
theorem keys_of_mem (gathered : Gathered rows agents) {entry : Option String × Entries}
    (entryMem : entry ∈ agents) :
    Keyed.keys entry.2 = ((ofAgent entry.1 rows).map Row.key).eraseDups := by
  rw [← gathered.entriesOf_of_mem entryMem]
  exact gathered.keys_eq entry.1

theorem distinct (gathered : Gathered rows agents) : Distinct agents := by
  constructor
  · exact gathered.keys_nodup
  · intro entry entryMem
    rw [gathered.keys_of_mem entryMem]
    exact Keyed.nodup_eraseDups _

/-- Every value was read from a text. -/
theorem valuesPlain (gathered : Gathered rows agents) : ValuesPlain agents := by
  intro entry entryMem field fieldMem
  have found : Keyed.get? field.1 entry.2 = some field.2 :=
    Keyed.get?_of_mem (gathered.distinct.2 entry entryMem) fieldMem
  rw [← gathered.entriesOf_of_mem entryMem] at found
  rcases gathered.values _ _ _ found with ⟨row, text, -, -, isRead⟩
  exact Json.isPlain_of_read isRead

/-- An agent is there because of a row of it. -/
theorem exists_row (gathered : Gathered rows agents) {entry : Option String × Entries}
    (entryMem : entry ∈ agents) : ∃ row ∈ rows, row.agent = entry.1 := by
  have listed : entry.1 ∈ Keyed.keys agents := List.mem_map_of_mem entryMem
  rw [gathered.agents_eq, List.mem_eraseDups, List.mem_map] at listed
  exact listed

/-- No agent is without entries. -/
theorem ne_nil (gathered : Gathered rows agents) : ∀ entry ∈ agents, entry.2 ≠ [] := by
  intro entry entryMem isEmpty
  rcases gathered.exists_row entryMem with ⟨row, rowMem, own⟩
  have listed : row.key ∈ Keyed.keys entry.2 := by
    rw [gathered.keys_of_mem entryMem, List.mem_eraseDups]
    apply List.mem_map_of_mem
    simpa [ofAgent, own] using rowMem
  rw [isEmpty] at listed
  cases listed

/-- Rows without missing names come to agents and keys with names. -/
theorem named (gathered : Gathered rows agents)
    (complete : ∀ row ∈ rows, row.agent.isSome ∧ row.key.isSome) : Named agents := by
  intro entry entryMem
  constructor
  · rcases gathered.exists_row entryMem with ⟨row, rowMem, own⟩
    rw [← own]
    exact (complete row rowMem).1
  · intro field fieldMem
    have listed : field.1 ∈ Keyed.keys entry.2 := List.mem_map_of_mem fieldMem
    rw [gathered.keys_of_mem entryMem, List.mem_eraseDups, List.mem_map] at listed
    rcases listed with ⟨row, rowMem, own⟩
    rw [← own]
    exact (complete row (List.mem_of_mem_filter rowMem)).2

end Gathered

/-! ## The rows of a snapshot -/

theorem gather_append (agents : List (Option String × Entries)) (first second : List Row) :
    gather agents (first ++ second) = gather agents first >>= fun m => gather m second := by
  induction first generalizing agents with
  | nil => rfl
  | cons row first ih =>
      rw [List.cons_append, gather, gather]
      cases rowValue row.value with
      | error reason => rfl
      | ok value => exact ih _

/-- The rows of one agent's fields. -/
def fieldRows (agent : String) (fields : List (String × Json)) : List Row :=
  fields.map fun field => keptRow agent field.1 field.2

/-- The rows of a snapshot as they are kept. -/
def keptRows (snapshot : Snapshot) : List Row :=
  snapshot.flatMap fun entry => fieldRows entry.1 entry.2

theorem map_rows (snapshot : Snapshot) :
    snapshot.rows.map (fun (agent, key, value) => keptRow agent key value) = keptRows snapshot := by
  rw [Snapshot.rows, List.map_flatMap, keptRows]
  congr 1
  funext entry
  rw [List.map_map, fieldRows]
  rfl

/-- Fields with their keys as names. -/
def entriesOfFields (fields : List (String × Json)) : Entries :=
  fields.map fun field => (some field.1, field.2)

theorem put_last {κ α : Type} [DecidableEq κ] {k : κ} {m : List (κ × α)}
    (absent : k ∉ Keyed.keys m) (old new : α) :
    Keyed.put k new (m ++ [(k, old)]) = m ++ [(k, new)] := by
  induction m with
  | nil => simp [Keyed.put]
  | cons entry rest ih =>
      obtain ⟨headNe, tailAbsent⟩ : k ≠ entry.1 ∧ k ∉ Keyed.keys rest := by
        simpa using absent
      rw [List.cons_append, Keyed.put, if_neg headNe, ih tailAbsent]
      rfl

theorem entriesOf_last {agents : List (Option String × Entries)} {agent : Option String}
    (absent : agent ∉ Keyed.keys agents) (entries : Entries) :
    entriesOf (agents ++ [(agent, entries)]) agent = entries := by
  rw [entriesOf, Keyed.get?_append_of_not_mem absent]
  simp [Keyed.get?]

theorem entriesOf_of_not_mem {agents : List (Option String × Entries)} {agent : Option String}
    (absent : agent ∉ Keyed.keys agents) : entriesOf agents agent = [] := by
  rw [← Keyed.isSome_get?_iff, Option.not_isSome_iff_eq_none] at absent
  rw [entriesOf, absent]
  rfl

/-- The row of a plain value is read again. -/
theorem gather_keptRow {value : Json} (plain : value.IsPlain) (agent key : String)
    (agents : List (Option String × Entries)) (rows : List Row) :
    gather agents (keptRow agent key value :: rows) =
      gather (Keyed.put (some agent)
        (Keyed.put (some key) value (entriesOf agents (some agent))) agents) rows :=
  gather_cons (rowValue_eq_ok_iff.mpr ⟨_, ⟨_, rfl, rfl⟩, Json.read_line plain⟩) agents rows

/-- One agent's rows are added to the entries of the agent that came last. -/
theorem gather_fieldRows {agents : List (Option String × Entries)} {agent : String}
    (absent : some agent ∉ Keyed.keys agents) {held : Entries} {fields : List (String × Json)}
    (distinct : (Keyed.keys (held ++ entriesOfFields fields)).Nodup)
    (plain : ∀ field ∈ fields, field.2.IsPlain) :
    gather (agents ++ [(some agent, held)]) (fieldRows agent fields) =
      .ok (agents ++ [(some agent, held ++ entriesOfFields fields)]) := by
  induction fields generalizing held with
  | nil =>
      rw [entriesOfFields, List.map_nil, List.append_nil]
      rfl
  | cons field fields ih =>
      rcases List.forall_mem_cons.mp plain with ⟨fieldPlain, othersPlain⟩
      have split : held ++ entriesOfFields (field :: fields) =
          (held ++ [(some field.1, field.2)]) ++ entriesOfFields fields := by
        simp [entriesOfFields]
      have newKey : some field.1 ∉ Keyed.keys held := by
        rw [Keyed.keys_append, List.nodup_append] at distinct
        intro isHeld
        exact distinct.2.2 _ isHeld (some field.1) (by simp [entriesOfFields]) rfl
      rw [split] at distinct ⊢
      rw [← ih distinct othersPlain, fieldRows, List.map_cons, gather_keptRow fieldPlain,
        entriesOf_last absent, put_last absent, Keyed.put_of_not_mem newKey]
      rfl

/-- The rows of an agent are added at the end when the agent is new. -/
theorem gather_newAgent {agents : List (Option String × Entries)} {agent : String}
    {fields : List (String × Json)} (absent : some agent ∉ Keyed.keys agents)
    (plain : (Json.obj fields).IsPlain) :
    gather agents (fieldRows agent fields) =
      .ok (agents ++ withEntries (Snapshot.agents [(agent, fields)])) := by
  rw [Json.isPlain_obj_iff] at plain
  rcases plain with ⟨distinct, valuesPlain⟩
  cases fields with
  | nil =>
      rw [show withEntries (Snapshot.agents [(agent, [])]) = [] from rfl, List.append_nil]
      rfl
  | cons field fields =>
      rcases List.forall_mem_cons.mp valuesPlain with ⟨fieldPlain, othersPlain⟩
      have someDistinct :
          (Keyed.keys ([(some field.1, field.2)] ++ entriesOfFields fields)).Nodup := by
        have namesDistinct := distinct.map fun _ _ => Option.some.inj
        simpa [Keyed.keys, entriesOfFields, Function.comp_def] using namesDistinct
      rw [fieldRows, List.map_cons, gather_keptRow fieldPlain, entriesOf_of_not_mem absent,
        Keyed.put_of_not_mem absent]
      exact gather_fieldRows absent someDistinct othersPlain

theorem isPlain_cons_iff {entry : String × List (String × Json)} {snapshot : Snapshot} :
    (Snapshot.toJson (entry :: snapshot)).IsPlain ↔
      entry.1 ∉ Keyed.keys snapshot ∧ (Json.obj entry.2).IsPlain ∧ snapshot.toJson.IsPlain := by
  have keys_eq : Keyed.keys (snapshot.map fun entry => (entry.1, Json.obj entry.2)) =
      Keyed.keys snapshot := Keyed.keys_map_value Json.obj snapshot
  have rest_iff : snapshot.toJson.IsPlain ↔ (Keyed.keys snapshot).Nodup ∧
      ∀ field ∈ snapshot.map (fun entry => (entry.1, Json.obj entry.2)), field.2.IsPlain := by
    rw [Snapshot.toJson, Json.isPlain_obj_iff]
    exact and_congr_left' (by rw [← keys_eq])
  rw [Snapshot.toJson, Json.isPlain_obj_iff, List.map_cons, Keyed.keys_cons, List.nodup_cons,
    List.forall_mem_cons, rest_iff]
  constructor
  · rintro ⟨⟨newName, distinct⟩, entryPlain, othersPlain⟩
    exact ⟨keys_eq ▸ newName, entryPlain, keys_eq ▸ distinct, othersPlain⟩
  · rintro ⟨newName, entryPlain, distinct, othersPlain⟩
    exact ⟨⟨keys_eq.symm ▸ newName, keys_eq.symm ▸ distinct⟩, entryPlain, othersPlain⟩

/-- The rows of a plain snapshot come to its agents that have entries. -/
theorem gather_keptRows {snapshot : Snapshot} (plain : snapshot.toJson.IsPlain)
    {agents : List (Option String × Entries)}
    (apart : ∀ entry ∈ snapshot, some entry.1 ∉ Keyed.keys agents) :
    gather agents (keptRows snapshot) = .ok (agents ++ withEntries snapshot.agents) := by
  induction snapshot generalizing agents with
  | nil =>
      rw [show withEntries (Snapshot.agents []) = [] from rfl, List.append_nil]
      rfl
  | cons entry snapshot ih =>
      rcases isPlain_cons_iff.mp plain with ⟨newName, entryPlain, othersPlain⟩
      rcases List.forall_mem_cons.mp apart with ⟨entryApart, othersApart⟩
      have othersApartToo : ∀ other ∈ snapshot,
          some other.1 ∉ Keyed.keys (agents ++ withEntries (Snapshot.agents [entry])) := by
        intro other otherMem
        rw [Keyed.keys_append, List.mem_append, not_or]
        refine ⟨othersApart other otherMem, ?_⟩
        intro among
        rcases List.mem_map.mp among with ⟨agent, agentMem, sameName⟩
        obtain rfl := List.mem_singleton.mp (List.mem_of_mem_filter agentMem)
        have same : entry.1 = other.1 := Option.some.inj sameName
        exact newName (same ▸ List.mem_map_of_mem otherMem)
      have rows_eq : keptRows (entry :: snapshot) =
          fieldRows entry.1 entry.2 ++ keptRows snapshot := List.flatMap_cons
      have agents_eq : withEntries (Snapshot.agents (entry :: snapshot)) =
          withEntries (Snapshot.agents [entry]) ++ withEntries (Snapshot.agents snapshot) := by
        rw [withEntries, withEntries, withEntries, ← List.filter_append]
        rfl
      rw [rows_eq, agents_eq, gather_append, gather_newAgent entryApart entryPlain,
        ← List.append_assoc]
      exact ih othersPlain othersApartToo

end Archive

end PromptDispatch
