import PromptDispatch.Proofs.Json.Nesting
import PromptDispatch.Proofs.Store.Loading
import PromptDispatch.Proofs.Store.Saving
import PromptDispatch.Store.OnMachine

/-!
# Where loading and saving break off

Loading breaks off at a file that cannot be told to be there or not, and at a text that
is deeper than the machine reads.  Saving breaks off at entries that are deeper than it
prints or reads again, and both at folders that are missing too far up.  Neither is told
of malformed content: whatever a machine goes through comes to the ends that loading and
saving have without one.

What is broken off has written nothing.
-/

namespace PromptDispatch

/-! ## Depth -/

namespace Machine

variable {machine : Machine}

theorem readFault?_eq_some_iff {text : String} {fault : Fault} :
    machine.readFault? text = some fault ↔ ∃ holder,
      Json.openedBeyond? machine.reading text = some holder ∧
        overtaxed ("decoding a JSON " ++ holder.text ++ " from a unicode string") = fault := by
  rw [readFault?, Option.map_eq_some_iff]

theorem writeFault?_eq_some {v : Json} {fault : Fault} (tooDeep : machine.writeFault? v = some fault) :
    fault = overtaxed "encoding a JSON object" := by
  rw [writeFault?] at tooDeep
  split at tooDeep
  · next found met =>
    obtain rfl := Option.some.inj tooDeep
    rcases Json.exists_inside_of_firstMet v 0 met with ⟨level, inner, -, isMet⟩
    rw [hindrance?.eq_def] at isMet
    split at isMet
    · exact (Hindrance.overtaxed.inj (Option.some.inj isMet)).symm
    · split at isMet
      · cases isMet
      · cases isMet
      · rcases Option.map_eq_some_iff.mp isMet with ⟨obstacle, -, isObstacle⟩
        cases isObstacle
  · cases tooDeep

end Machine

namespace Archive

open Disk (Opens Spares)
open Store (Snapshot ValuesNameOnce ValuesPlain namedSnapshot settledSnapshot)

variable {machine : Machine} {disk : Disk} {path : Disk.Path}

/-! ## Loading -/

/-- How the reading of a file breaks off: it cannot be told whether the file is there, or
its text is deeper than the machine reads. -/
inductive BreaksFile (machine : Machine) (disk : Disk) (path : Disk.Path) : Fault → Prop where
  | untold {trouble : Disk.Trouble} (untold : disk.look path = .error trouble) :
      BreaksFile machine disk path
        (.foreign trouble.kindName (Disk.Refusal.message ⟨trouble, path⟩))
  | deep {entry : Disk.Entry} {s : String} {fault : Fault} (found : disk.find path = .ok entry)
      (holds : entry.HoldsText s) (deep : machine.readFault? (Text.unified s) = some fault) :
      BreaksFile machine disk path fault

/-- A row whose value is deeper than a machine reads. -/
def Overtaxing (machine : Machine) (row : Disk.Row) (fault : Fault) : Prop :=
  ∃ text, HoldsText row.value text ∧ machine.readFault? text = some fault

/-- How the reading of a database breaks off: folders are missing too far up, or the value
of a row is deeper than the machine reads and all rows before it are read. -/
inductive BreaksDatabase (machine : Machine) (disk : Disk) (path : Disk.Path) : Fault → Prop where
  | far (far : machine.climbing < disk.rungs path) :
      BreaksDatabase machine disk path Machine.calling
  | deep {made : Disk} {place : List String} {table : Disk.Table} {before after : List Disk.Row}
      {row : Disk.Row} {fault : Fault} (near : disk.rungs path ≤ machine.climbing)
      (opens : Opens disk path made place table)
      (isTable : table.rows? = some (before ++ row :: after))
      (legible : ∀ other ∈ before ++ row :: after, other.garbled? = .none)
      (areRead : ∀ other ∈ before, HasJson other ∧ ∀ fault, ¬ Overtaxing machine other fault)
      (deep : Overtaxing machine row fault) : BreaksDatabase machine disk path fault

/-- How loading breaks off. -/
def Breaks (machine : Machine) (archive : Archive) (disk : Disk) (fault : Fault) : Prop :=
  match archive.backend with
  | .memory => False
  | .file => BreaksFile machine disk archive.filePath fault
  | .database => BreaksDatabase machine disk archive.databasePath fault

theorem fileCrash?_eq_some_iff {crash : Crash} :
    fileCrash? machine disk path = some crash ↔
      BreaksFile machine disk path crash.fault ∧ crash.disk = disk := by
  rcases crash with ⟨fault, left⟩
  dsimp only
  constructor
  · intro crashed
    rw [fileCrash?] at crashed
    split at crashed
    · next untold =>
      cases crashed
      exact ⟨.untold untold, rfl⟩
    · cases crashed
    · split at crashed
      · cases crashed
      · next text isRead =>
        rcases Option.map_eq_some_iff.mp crashed with ⟨fault', deep, same⟩
        cases same
        cases found : disk.find path with
        | error trouble =>
            rw [Disk.readText, found] at isRead
            cases isRead
        | ok entry =>
            rcases (Disk.readText_eq_ok_iff found).mp isRead with ⟨s, holds, rfl⟩
            exact ⟨.deep found holds deep, rfl⟩
  · rintro ⟨breaks, rfl⟩
    rw [fileCrash?]
    cases breaks with
    | untold untold => rw [untold]
    | deep found holds deep =>
        rw [Disk.look_of_find found]
        dsimp only
        rw [(Disk.readText_eq_ok_iff found).mpr ⟨_, holds, rfl⟩]
        dsimp only
        rw [deep, Option.map_some]

theorem rowFault?_eq_some_iff {row : Disk.Row} {fault : Fault} :
    rowFault? machine row = some fault ↔ Overtaxing machine row fault := by
  have toOption_iff (datum : Disk.Datum) (text : String) :
      (textOf datum).toOption = some text ↔ textOf datum = .ok text := by
    cases textOf datum <;> simp [Except.toOption]
  rw [rowFault?, Option.bind_eq_some_iff]
  refine exists_congr fun text => and_congr_left' ?_
  rw [Option.bind_eq_some_iff]
  exact exists_congr fun datum => and_congr_right' (toOption_iff datum text)

/-- The first item of one kind behind items of another kind is the head of a list, or it is
found in the tail. -/
theorem exists_first_cons_iff {α : Type} {P Q : α → Prop} {head : α} {tail : List α} :
    (∃ before item after, head :: tail = before ++ item :: after ∧ (∀ other ∈ before, P other) ∧
        Q item) ↔
      Q head ∨ P head ∧ ∃ before item after, tail = before ++ item :: after ∧
        (∀ other ∈ before, P other) ∧ Q item := by
  constructor
  · rintro ⟨before, item, after, isSplit, first, isItem⟩
    cases before with
    | nil =>
        obtain ⟨rfl, -⟩ := List.cons.inj isSplit
        exact .inl isItem
    | cons other before =>
        obtain ⟨rfl, rfl⟩ := List.cons.inj isSplit
        rw [List.forall_mem_cons] at first
        exact .inr ⟨first.1, before, item, after, rfl, first.2, isItem⟩
  · rintro (isItem | ⟨isOther, before, item, after, rfl, first, isItem⟩)
    · exact ⟨[], head, tail, rfl, by simp, isItem⟩
    · exact ⟨head :: before, item, after, rfl, List.forall_mem_cons.mpr ⟨isOther, first⟩, isItem⟩

/-- The rows break off at the first one that is too deep, when all before it are read. -/
theorem rowsFault?_eq_some_iff {rows : List Disk.Row} {fault : Fault} :
    rowsFault? machine rows = some fault ↔ ∃ before row after, rows = before ++ row :: after ∧
      (∀ other ∈ before, HasJson other ∧ ∀ fault, ¬ Overtaxing machine other fault) ∧
      Overtaxing machine row fault := by
  induction rows with
  | nil => simp [rowsFault?]
  | cons row rows ih =>
      rw [exists_first_cons_iff, ← ih, rowsFault?]
      cases tooDeep : rowFault? machine row with
      | some found =>
          constructor
          · intro same
            obtain rfl := Option.some.inj same
            exact .inl (rowFault?_eq_some_iff.mp tooDeep)
          · rintro (deep | ⟨⟨-, shallow⟩, -⟩)
            · exact tooDeep.symm.trans (rowFault?_eq_some_iff.mpr deep)
            · exact absurd (rowFault?_eq_some_iff.mp tooDeep) (shallow found)
      | none =>
          have shallow : ∀ fault, ¬ Overtaxing machine row fault := by
            intro fault deep
            cases tooDeep.symm.trans (rowFault?_eq_some_iff.mpr deep)
          rw [or_iff_right (shallow fault), and_iff_left shallow, ← readable_iff]
          dsimp only
          cases isValue : rowValue row.value with
          | error reason =>
              refine iff_of_false (fun absent => by cases absent) ?_
              rintro ⟨⟨text, value, holds, isRead⟩, -⟩
              cases isValue.symm.trans (rowValue_eq_ok_iff.mpr ⟨text, holds, isRead⟩)
          | ok value =>
              rcases rowValue_eq_ok_iff.mp isValue with ⟨text, holds, isRead⟩
              exact (and_iff_right ⟨text, value, holds, isRead⟩).symm

theorem databaseCrash?_eq_some {crash : Crash}
    (crashed : databaseCrash? machine disk path = some crash) :
    BreaksDatabase machine disk path crash.fault ∧ Spares path disk crash.disk := by
  rw [databaseCrash?] at crashed
  split at crashed
  · next far =>
    cases crashed
    exact ⟨.far far, .refl path disk⟩
  · next near =>
    rcases Disk.opens_or_unopenable disk path with
      ⟨made, place, table, opens⟩ | ⟨made, fleeting⟩ | ⟨-, left, fault, refused, -⟩
    · rw [opens.openDatabase] at crashed
      dsimp only at crashed
      cases rowsRead : table.readRows with
      | error fault =>
          rw [rowsRead] at crashed
          cases crashed
      | ok rows =>
          rw [rowsRead] at crashed
          obtain ⟨isTable, legible⟩ := Disk.Table.readRows_eq_ok_iff.mp rowsRead
          rcases Option.map_eq_some_iff.mp crashed with ⟨fault, tooDeep, rfl⟩
          rcases rowsFault?_eq_some_iff.mp tooDeep with
            ⟨before, row, after, rfl, areRead, deep⟩
          exact ⟨.deep (Nat.le_of_not_lt near) opens isTable legible areRead deep, opens.spares⟩
    · rw [fleeting.openDatabase] at crashed
      cases crashed
    · rw [refused] at crashed
      cases crashed

theorem exists_databaseCrash? {fault : Fault} (breaks : BreaksDatabase machine disk path fault) :
    ∃ left, databaseCrash? machine disk path = some ⟨fault, left⟩ := by
  rw [databaseCrash?]
  cases breaks with
  | far far => exact ⟨disk, if_pos far⟩
  | @deep made place table before after row _ near opens isTable legible areRead deep =>
      refine ⟨made.withDatabase place table, ?_⟩
      rw [if_neg (Nat.not_lt.mpr near), opens.openDatabase]
      dsimp only
      rw [Disk.Table.readRows_eq_ok_iff.mpr ⟨isTable, legible⟩]
      dsimp only
      rw [rowsFault?_eq_some_iff.mpr ⟨_, _, _, rfl, areRead, deep⟩]
      rfl

variable {archive : Archive}

theorem exists_loadCrash? {fault : Fault} (breaks : Breaks machine archive disk fault) :
    ∃ left, archive.loadCrash? machine disk = some ⟨fault, left⟩ := by
  rcases archive with ⟨backend, filePath, databasePath⟩
  cases backend with
  | memory => exact breaks.elim
  | file => exact ⟨disk, fileCrash?_eq_some_iff.mpr ⟨breaks, rfl⟩⟩
  | database => exact exists_databaseCrash? breaks

/-- Loading breaks off by the faults it is told by, and nothing is lost then. -/
theorem loadCrash?_cases (machine : Machine) (archive : Archive) (disk : Disk) :
    (∃ crash, archive.loadCrash? machine disk = some crash ∧
      Breaks machine archive disk crash.fault ∧ (archive.backend = .file → crash.disk = disk) ∧
      Spares archive.path disk crash.disk) ∨
    archive.loadCrash? machine disk = .none ∧ ∀ fault, ¬ Breaks machine archive disk fault := by
  cases crashed : archive.loadCrash? machine disk with
  | none =>
      refine .inr ⟨rfl, fun fault breaks => ?_⟩
      rcases exists_loadCrash? breaks with ⟨left, crashedToo⟩
      cases crashed.symm.trans crashedToo
  | some crash =>
      refine .inl ⟨crash, rfl, ?_⟩
      rcases archive with ⟨backend, filePath, databasePath⟩
      cases backend with
      | memory => cases crashed
      | file =>
          obtain ⟨breaks, left_eq⟩ := fileCrash?_eq_some_iff.mp crashed
          refine ⟨breaks, fun _ => left_eq, ?_⟩
          rw [left_eq]
          exact .refl _ disk
      | database =>
          obtain ⟨breaks, spares⟩ := databaseCrash?_eq_some crashed
          exact ⟨breaks, fun isFile => Backend.noConfusion isFile, spares⟩

/-- Nothing that loading reports breaks it off. -/
theorem Breaks.ne_persistence {fault : Fault} (breaks : Breaks machine archive disk fault)
    (message : String) : fault ≠ .persistence message := by
  have unreported : ∀ text, machine.readFault? text = some fault → fault ≠ .persistence message := by
    intro text tooDeep
    rcases Machine.readFault?_eq_some_iff.mp tooDeep with ⟨holder, -, rfl⟩
    exact Fault.noConfusion
  rcases archive with ⟨backend, filePath, databasePath⟩
  cases backend with
  | memory => exact breaks.elim
  | file =>
      cases breaks with
      | untold => exact Fault.noConfusion
      | deep _ _ deep => exact unreported _ deep
  | database =>
      cases breaks with
      | far => exact Fault.noConfusion
      | deep _ _ _ _ _ deep =>
          rcases deep with ⟨text, -, tooDeep⟩
          exact unreported text tooDeep

/-- Two rows of one agent and key, and between them a row of no agent. -/
def repeatedRows : List Disk.Row :=
  [⟨some "coder", some "plan", some "[true]"⟩, ⟨.none, some "draft", some " null\n"⟩,
    ⟨some "coder", some "plan", some "false"⟩]

/-- A disk whose database holds the rows. -/
def repeatedDisk : Disk :=
  Disk.empty.put ["notes.sqlite"] (.database (some (.context repeatedRows)))

/-- A file in the working folder. -/
def contextFile : Archive := ⟨.file, .ofString "ctx.json", standardDatabase⟩

/-- A disk whose file holds lists inside one another, one more than a machine reads. -/
def nestedDisk : Disk :=
  Disk.empty.put ["ctx.json"] (.text (Json.nested Machine.standard.reading).line)

/-- Saving breaks off: the entries are printed as far as something deeper than the machine
prints, or they are plain, and deeper than it reads again or prints on a page, or folders
are missing too far up. -/
inductive Overtaxes (machine : Machine) (archive : Archive) (disk : Disk) (store : Store) :
    Prop where
  | printing {fault : Fault}
      (deep : machine.writeFault? (namedSnapshot store.agents).toJson = some fault)
  | reading {holder : Json.Holder} (plain : ValuesPlain store.agents)
      (deep : (namedSnapshot store.agents).toJson.nestedBeyond? machine.reading = some holder)
  | paging {holder : Json.Holder} (isFile : archive.backend = .file)
      (plain : ValuesPlain store.agents)
      (deep : (settledSnapshot store.agents).toJson.nestedBeyond? machine.paging = some holder)
  | far (plain : ValuesPlain store.agents) (far : machine.climbing < disk.rungs archive.path)

theorem mapping_eq (store : Store) : store.mapping = (namedSnapshot store.agents).toJson := by
  rw [Store.mapping, Snapshot.toJson, namedSnapshot, List.map_map]
  rfl

theorem obstacle?_namedSnapshot {agents : List (Option String × Store.Entries)}
    (plain : ValuesPlain agents) : (namedSnapshot agents).toJson.obstacle? = .none := by
  change Json.obstacleInFields? _ = _
  rw [Json.obstacleInFields?_eq_none_iff]
  intro field member
  rcases List.mem_map.mp member with ⟨entry, entryMem, rfl⟩
  exact Json.obstacleInFields?_of_fieldsPlain _ (Store.fieldsPlain_namedSnapshot plain entry entryMem)

variable {store : Store}

/-- A snapshot is read again down to the depth of the entries. -/
theorem readFault?_mapping (plain : ValuesPlain store.agents) :
    machine.readFault? store.mapping.line =
      ((namedSnapshot store.agents).toJson.nestedBeyond? machine.reading).map fun holder =>
        Machine.overtaxed ("decoding a JSON " ++ holder.text ++ " from a unicode string") := by
  rw [Machine.readFault?, mapping_eq, Json.openedBeyond?_line (obstacle?_namedSnapshot plain)
    (Store.read_line_namedSnapshot plain)]

theorem snapshotFault?_eq_none_iff (once : ValuesNameOnce store.agents) :
    snapshotFault? machine store = .none ↔
      machine.writeFault? (namedSnapshot store.agents).toJson = .none ∧
        (ValuesPlain store.agents →
          (namedSnapshot store.agents).toJson.nestedBeyond? machine.reading = .none) := by
  rw [snapshotFault?, ← mapping_eq]
  cases machine.writeFault? store.mapping with
  | some fault => simp
  | none =>
      rw [eq_self, true_and]
      by_cases plain : ValuesPlain store.agents
      · rw [(Store.snapshot_eq_ok_iff once).mpr ⟨plain, rfl⟩, forall_prop_of_true plain]
        dsimp only
        rw [readFault?_mapping plain, Option.map_eq_none_iff, mapping_eq]
      · cases taken : store.snapshot with
        | ok snapshot => exact absurd ((Store.snapshot_eq_ok_iff once).mp taken).1 plain
        | error fault => exact iff_of_true rfl fun isPlain => absurd isPlain plain

theorem depositFault?_eq_none_iff {snapshot : Snapshot} :
    archive.depositFault? machine disk snapshot = .none ↔
      (archive.backend = .file → snapshot.toJson.nestedBeyond? machine.paging = .none) ∧
        disk.rungs archive.path ≤ machine.climbing := by
  have far_iff : (if machine.climbing < disk.rungs archive.path then some Machine.calling
      else .none) = .none ↔ disk.rungs archive.path ≤ machine.climbing := by
    split
    · next far => simp [far]
    · next near => simp [Nat.not_lt.mp near]
  rw [depositFault?]
  by_cases isFile : archive.backend = .file
  · rw [if_pos isFile, Machine.pageFault?, forall_prop_of_true isFile]
    cases snapshot.toJson.nestedBeyond? machine.paging with
    | some holder => simp
    | none => simp
  · rw [if_neg isFile, forall_prop_of_false isFile, true_and]
    exact far_iff

theorem not_overtaxes_iff : ¬ Overtaxes machine archive disk store ↔
    machine.writeFault? (namedSnapshot store.agents).toJson = .none ∧
      (ValuesPlain store.agents →
        (namedSnapshot store.agents).toJson.nestedBeyond? machine.reading = .none ∧
        (archive.backend = .file →
          (settledSnapshot store.agents).toJson.nestedBeyond? machine.paging = .none) ∧
        disk.rungs archive.path ≤ machine.climbing) := by
  constructor
  · intro never
    refine ⟨?_, fun plain => ⟨?_, fun isFile => ?_, ?_⟩⟩
    · exact Option.eq_none_iff_forall_ne_some.mpr fun fault deep => never (.printing deep)
    · exact Option.eq_none_iff_forall_ne_some.mpr fun holder deep => never (.reading plain deep)
    · exact Option.eq_none_iff_forall_ne_some.mpr fun holder deep =>
        never (.paging isFile plain deep)
    · exact Nat.le_of_not_lt fun far => never (.far plain far)
  · rintro ⟨printed, shallow⟩ overtaxes
    cases overtaxes with
    | printing deep => cases printed.symm.trans deep
    | reading plain deep => cases (shallow plain).1.symm.trans deep
    | paging isFile plain deep => cases ((shallow plain).2.1 isFile).symm.trans deep
    | far plain far => exact Nat.not_lt.mpr (shallow plain).2.2 far

/-- A machine gets to the end of saving exactly when nothing overtaxes it. -/
theorem persistFault?_eq_none_iff (persisted : archive.backend ≠ .memory)
    (once : ValuesNameOnce store.agents) :
    archive.persistFault? machine disk store = .none ↔ ¬ Overtaxes machine archive disk store := by
  have snapshotFault_iff : snapshotFault? machine store = .none ↔ _ :=
    snapshotFault?_eq_none_iff once
  rw [persistFault?, if_neg persisted, not_overtaxes_iff]
  cases snapshotFault : snapshotFault? machine store with
  | some fault =>
      refine iff_of_false (fun absent => by cases absent) ?_
      rintro ⟨printed, shallow⟩
      have passes := snapshotFault_iff.mpr ⟨printed, fun plain => (shallow plain).1⟩
      cases snapshotFault.symm.trans passes
  | none =>
      obtain ⟨printed, shallow⟩ := snapshotFault_iff.mp snapshotFault
      rw [and_iff_right printed]
      by_cases plain : ValuesPlain store.agents
      · rw [(Store.snapshot_eq_ok_iff once).mpr ⟨plain, rfl⟩, forall_prop_of_true plain,
          and_iff_right (shallow plain)]
        exact depositFault?_eq_none_iff
      · cases taken : store.snapshot with
        | ok snapshot => exact absurd ((Store.snapshot_eq_ok_iff once).mp taken).1 plain
        | error fault => exact iff_of_true rfl fun isPlain => absurd isPlain plain

theorem exists_overtaxed_of_snapshotFault? {fault : Fault}
    (overtaxes : snapshotFault? machine store = some fault) :
    ∃ doing, fault = Machine.overtaxed doing := by
  rw [snapshotFault?] at overtaxes
  split at overtaxes
  · next printing =>
    obtain rfl := Option.some.inj overtaxes
    exact ⟨_, Machine.writeFault?_eq_some printing⟩
  · split at overtaxes
    · cases overtaxes
    · rcases Machine.readFault?_eq_some_iff.mp overtaxes with ⟨holder, -, rfl⟩
      exact ⟨_, rfl⟩

theorem eq_calling_of_depositFault? {snapshot : Snapshot} {fault : Fault}
    (overtaxes : archive.depositFault? machine disk snapshot = some fault) :
    fault = Machine.calling := by
  rw [depositFault?] at overtaxes
  split at overtaxes
  · next paging =>
    obtain rfl := Option.some.inj overtaxes
    split at paging
    · rcases Option.map_eq_some_iff.mp paging with ⟨holder, -, rfl⟩
      rfl
    · cases paging
  · split at overtaxes
    · exact (Option.some.inj overtaxes).symm
    · cases overtaxes

/-- What breaks saving off is that the machine is asked to go too deep. -/
theorem exists_overtaxed_of_persistFault? {fault : Fault}
    (overtaxes : archive.persistFault? machine disk store = some fault) :
    ∃ doing, fault = Machine.overtaxed doing := by
  rw [persistFault?] at overtaxes
  split at overtaxes
  · cases overtaxes
  split at overtaxes
  · next snapshotFault =>
    obtain rfl := Option.some.inj overtaxes
    exact exists_overtaxed_of_snapshotFault? snapshotFault
  · split at overtaxes
    · cases overtaxes
    · exact ⟨_, eq_calling_of_depositFault? overtaxes⟩

/-- A store with lists inside one another, one more than a machine reads. -/
def nestedStore : Store :=
  (Store.empty .standard).write (some "coder") (some "plan") (Json.nested Machine.standard.reading)

end Archive

end PromptDispatch
