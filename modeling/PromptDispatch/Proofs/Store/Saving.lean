import PromptDispatch.Proofs.Store.DatabaseArchive
import PromptDispatch.Proofs.Store.Snapshot

/-!
# What saving leaves

Either the values are plain and the destination takes the snapshot; then it holds the
snapshot and nothing of what it held before, and saving once more changes nothing.  Or
nothing is written at all: whatever stood anywhere stays, and folders are all that may
be new.  Two destinations are exceptions: a file that there is no room for is cut
short, and a database that is not on the disk is forgotten.  The store is never
touched.
-/

namespace PromptDispatch

/-- One place has an entry, and elsewhere what stood somewhere stays: where nothing
stood there may be a folder. -/
structure Disk.Replaces (place : List String) (entry : Disk.Entry) (before after : Disk) :
    Prop where
  holds : after.at? place = some entry
  elsewhere : ∀ other, other ≠ place → after.at? other = before.at? other ∨
    before.at? other = none ∧ after.at? other = some .folder

/-- What is put once the folders are there replaces what stood at its place. -/
theorem Disk.replaces_put {disk made : Disk} {place : List String}
    (gains : disk.GainsFolders made) (noFolder : made.at? place ≠ some .folder)
    (entry : Disk.Entry) : Replaces place entry disk (made.put place entry) where
  holds := at?_put_self noFolder entry
  elsewhere other different := by
    rw [at?_put_of_ne different]
    exact gains other

namespace Archive

open Store (Operation Snapshot ValuesNameOnce ValuesPlain namedSnapshot settledSnapshot)

variable {archive : Archive} {disk : Disk}

/-! ## The destination -/

/-- A file's text can be begun: its folder can be made, and it leads to an open place
where no folder stands. -/
structure Begins (disk : Disk) (path : Disk.Path) (made : Disk) (place : List String) : Prop where
  makes : disk.makeParent path = .ok made
  leads : made.place path = .ok place
  isOpen : made.isClosed place = false
  noFolder : made.at? place ≠ some .folder

/-- A snapshot is written to a file as far as there is room for it, or the file is not
begun. -/
theorem writeFile_cases (disk : Disk) (path : Disk.Path) (snapshot : Snapshot) :
    (∃ made place, Begins disk path made place ∧
      ((disk.lacksRoom snapshot.toJson.page = false ∧
          writeFile disk path snapshot = (made.put place (.text snapshot.toJson.page), .none)) ∨
        (disk.lacksRoom snapshot.toJson.page = true ∧ ∃ message, writeFile disk path snapshot =
          (made.put place (.text (disk.cut snapshot.toJson.page)),
            some (.persistence message))))) ∨
      (¬ ∃ made place, Begins disk path made place) ∧ ∃ left message,
        writeFile disk path snapshot = (left, some (.persistence message)) ∧
          disk.GainsFolders left := by
  have gains := Disk.gainsFolders_approach disk path
  by_cases begins : ∃ made place, Begins disk path made place
  · obtain ⟨made, place, begun⟩ := begins
    refine .inl ⟨made, place, begun, ?_⟩
    have room : made.room = disk.room := Disk.room_makeParent begun.makes
    have lacks_eq : made.lacksRoom snapshot.toJson.page = disk.lacksRoom snapshot.toJson.page := by
      rw [Disk.lacksRoom, Disk.lacksRoom, room]
    have cut_eq : made.cut snapshot.toJson.page = disk.cut snapshot.toJson.page := by
      rw [Disk.cut, Disk.cut, room]
    rw [writeFile, Disk.makeParent_eq_ok_iff.mp begun.makes]
    dsimp only
    rw [Disk.writeText_of_place begun.leads begun.isOpen begun.noFolder, lacks_eq, cut_eq]
    cases disk.lacksRoom snapshot.toJson.page with
    | true => exact .inr ⟨rfl, _, rfl⟩
    | false => exact .inl ⟨rfl, rfl⟩
  · refine .inr ⟨begins, ?_⟩
    rw [writeFile]
    split
    · next left refusal refused =>
      rw [refused] at gains
      exact ⟨left, _, rfl, gains⟩
    · next made made_eq =>
      rw [made_eq] at gains
      have makes := Disk.makeParent_eq_ok_iff.mpr made_eq
      have unbegun : ¬ ∃ place, made.place path = .ok place ∧ made.isClosed place = false ∧
          made.at? place ≠ some .folder := by
        rintro ⟨place, leads, isOpen, noFolder⟩
        exact begins ⟨made, place, makes, leads, isOpen, noFolder⟩
      rcases Disk.writeText_of_unbegun snapshot.toJson.page unbegun with
        ⟨refusal, refused⟩
      rw [refused]
      exact ⟨made, _, rfl, gains⟩

/-- A snapshot is put in the table of a database that takes its rows, it is put in one
that is gone when it is closed, or it is refused. -/
theorem writeDatabase_cases (disk : Disk) (path : Disk.Path) (snapshot : Snapshot) :
    (∃ made place table, Disk.Opens disk path made place table ∧
      table.Takes (keptRows snapshot) ∧ writeDatabase disk path snapshot =
        (made.withDatabase place (table.withRows (keptRows snapshot)), .none)) ∨
      (∃ made, Disk.Fleeting disk path made ∧
        writeDatabase disk path snapshot = (made, .none)) ∨
      (¬ ∃ made, Disk.Fleeting disk path made) ∧
        (¬ ∃ made place table, Disk.Opens disk path made place table ∧
          table.Takes (keptRows snapshot)) ∧ ∃ left message,
        writeDatabase disk path snapshot = (left, some (.persistence message)) ∧
          disk.GainsFolders left := by
  rw [writeDatabase, map_rows, ← Disk.replacing]
  rcases Disk.opens_or_unopenable disk path with
    ⟨made, place, table, opens⟩ | ⟨made, fleeting⟩ | ⟨unopenable, left, fault, refused, gains⟩
  · rw [opens.openDatabase]
    by_cases takes : table.Takes (keptRows snapshot)
    · refine .inl ⟨made, place, table, opens, takes, ?_⟩
      dsimp only
      rw [Disk.transact_replacing takes]
    · refine .inr (.inr ⟨?_, ?_, ?_⟩)
      · rintro ⟨other, fleeting⟩
        cases opens.lasting.symm.trans fleeting.transient
      · rintro ⟨made', place', table', opensToo, takesToo⟩
        obtain ⟨rfl, rfl, rfl⟩ := opens.unique opensToo
        exact takes takesToo
      · rcases Disk.transact_of_not_takes takes (made.withDatabase place table) (some place) with
          ⟨fault, refused⟩
        dsimp only
        rw [refused]
        have stays : made.withDatabase place table = made := by
          rcases opens.holds with found | ⟨-, rfl⟩
          · exact Disk.put_of_at? found opens.ne_folder
          · exact absurd (.context []) takes
        rw [stays]
        exact ⟨made, _, rfl, Disk.gainsFolders_makeParent opens.makes⟩
  · rw [fleeting.openDatabase]
    exact .inr (.inl ⟨made, fleeting, rfl⟩)
  · rw [refused]
    refine .inr (.inr ⟨?_, ?_, left, _, rfl, gains⟩)
    · rintro ⟨made, fleeting⟩
      exact fleeting.not_unopenable unopenable
    · rintro ⟨made, place, table, opens, -⟩
      exact opens.not_unopenable unopenable

/-- The destination of an archive takes a snapshot: there is a file that can be begun
and room for the text, or a database opens with a table that takes the rows. -/
def Accepts (archive : Archive) (disk : Disk) (snapshot : Snapshot) : Prop :=
  match archive.backend with
  | .memory => True
  | .file => (∃ made place, Begins disk archive.filePath made place) ∧
      disk.lacksRoom snapshot.toJson.page = false
  | .database => ∃ made place table, Disk.Opens disk archive.databasePath made place table ∧
      table.Takes (keptRows snapshot)

/-- The destination of an archive is a database that is gone when it is closed. -/
def Vanishes (archive : Archive) (disk : Disk) : Prop :=
  archive.backend = .database ∧ ∃ made, Disk.Fleeting disk archive.databasePath made

/-- A file has been begun, but there was no room for all of its text. -/
def CutShort (archive : Archive) (before after : Disk) : Prop :=
  archive.backend = .file ∧ ∃ place text, after.place archive.filePath = .ok place ∧
    before.lacksRoom text = true ∧ Disk.Replaces place (.text (before.cut text)) before after

/-- A row of an agent, a key and a value. -/
structure TellsRow (row : Disk.Row) (told : String × String × Json) : Prop where
  agent : row.agent = some told.1
  key : row.key = some told.2.1
  value : ∃ text, HoldsText row.value text ∧ Json.read text = .ok told.2.2

/-- An entry holds a snapshot and nothing else: it is one document of it, or has one
row for every agent and key, in the snapshot's order. -/
def Keeps (archive : Archive) (snapshot : Snapshot) (entry : Disk.Entry) : Prop :=
  match archive.backend with
  | .memory => False
  | .file => ∃ text, entry = .text text ∧ Json.read text = .ok snapshot.toJson
  | .database => ∃ table rows, entry = .database (some table) ∧ table.rows? = some rows ∧
      List.Forall₂ TellsRow rows snapshot.rows

/-! ## What is kept -/

theorem forall₂_tellsRow {agent : String} {fields : List (String × Json)}
    (plain : ∀ field ∈ fields, field.2.IsPlain) :
    List.Forall₂ TellsRow (fieldRows agent fields)
      (fields.map fun field => (agent, field.1, field.2)) := by
  rw [fieldRows, List.forall₂_map_left_iff, List.forall₂_map_right_iff, List.forall₂_same]
  intro field member
  exact ⟨rfl, rfl, _, ⟨_, rfl, rfl⟩, Json.read_line (plain field member)⟩

/-- The rows of a plain snapshot tell its agents, keys and values. -/
theorem forall₂_keptRows {snapshot : Snapshot} (plain : snapshot.toJson.IsPlain) :
    List.Forall₂ TellsRow (keptRows snapshot) snapshot.rows := by
  induction snapshot with
  | nil => exact .nil
  | cons entry snapshot ih =>
      rcases isPlain_cons_iff.mp plain with ⟨-, entryPlain, othersPlain⟩
      rw [Json.isPlain_obj_iff] at entryPlain
      exact List.rel_append (forall₂_tellsRow entryPlain.2) (ih othersPlain)

/-- A table with the rows of a plain snapshot keeps the snapshot. -/
theorem keeps_withRows (savesRows : archive.backend = .database) {snapshot : Snapshot}
    (plain : snapshot.toJson.IsPlain) {table : Disk.Table}
    (takes : table.Takes (keptRows snapshot)) :
    archive.Keeps snapshot (.database (some (table.withRows (keptRows snapshot)))) := by
  rw [Keeps, savesRows]
  refine ⟨_, keptRows snapshot, rfl, ?_, forall₂_keptRows plain⟩
  cases takes <;> rfl

/-- What comes of bringing a plain snapshot to the disk. -/
inductive Deposited (archive : Archive) (disk : Disk) (snapshot : Snapshot) :
    Disk × Option Fault → Prop where
  /-- it is put in the place of what stood there -/
  | kept {made : Disk} {place : List String} {entry : Disk.Entry}
      (accepts : archive.Accepts disk snapshot) (makes : disk.makeParent archive.path = .ok made)
      (leads : made.place archive.path = .ok place) (noFolder : made.at? place ≠ some .folder)
      (keeps : archive.Keeps snapshot entry)
      (again : (archive.deposit (made.put place entry) snapshot).1 = made.put place entry) :
      Deposited archive disk snapshot (made.put place entry, .none)
  /-- it is put in a database that is gone then -/
  | gone {made : Disk} (vanishes : archive.Vanishes disk)
      (makes : disk.makeParent archive.path = .ok made)
      (again : (archive.deposit made snapshot).1 = made) :
      Deposited archive disk snapshot (made, .none)
  /-- there is no room for it -/
  | cut {left : Disk} {message : String} (refuses : ¬ archive.Accepts disk snapshot)
      (lasts : ¬ archive.Vanishes disk) (cutShort : archive.CutShort disk left) :
      Deposited archive disk snapshot (left, some (.persistence message))
  /-- it is refused, and folders are all that is new -/
  | refused {left : Disk} {message : String} (refuses : ¬ archive.Accepts disk snapshot)
      (lasts : ¬ archive.Vanishes disk) (gains : disk.GainsFolders left) :
      Deposited archive disk snapshot (left, some (.persistence message))

theorem Begins.put {path : Disk.Path} {made : Disk} {place : List String}
    (begins : Begins disk path made place) (text : String) :
    Begins (made.put place (.text text)) path (made.put place (.text text)) place where
  makes := Disk.makeParent_put begins.makes begins.noFolder _
  leads := Disk.place_put begins.noFolder _ begins.leads
  isOpen := begins.isOpen
  noFolder := by simp [Disk.at?_put_self begins.noFolder]

theorem Begins.unique {path : Disk.Path} {made made' : Disk} {place place' : List String}
    (begins : Begins disk path made place) (other : Begins disk path made' place') :
    made = made' ∧ place = place' := by
  obtain rfl := Except.ok.inj (begins.makes.symm.trans other.makes)
  exact ⟨rfl, Except.ok.inj (begins.leads.symm.trans other.leads)⟩

/-- A text that was written changes nothing when it is written again. -/
theorem writeFile_again {path : Disk.Path} {made : Disk} {place : List String}
    {snapshot : Snapshot} (begins : Begins disk path made place)
    (room : disk.lacksRoom snapshot.toJson.page = false) :
    writeFile (made.put place (.text snapshot.toJson.page)) path snapshot =
      (made.put place (.text snapshot.toJson.page), .none) := by
  have begun := begins.put snapshot.toJson.page
  have sameRoom : (made.put place (.text snapshot.toJson.page)).lacksRoom snapshot.toJson.page =
      disk.lacksRoom snapshot.toJson.page := by
    rw [Disk.lacksRoom, Disk.lacksRoom, ← Disk.room_makeParent begins.makes]
    rfl
  rcases writeFile_cases (made.put place (.text snapshot.toJson.page)) path snapshot with
    ⟨again, place', begunToo, ⟨-, wrote⟩ | ⟨lacks, -⟩⟩ | ⟨never, -⟩
  · obtain ⟨rfl, rfl⟩ := begun.unique begunToo
    rw [wrote, Disk.put_of_at? (Disk.at?_put_self begins.noFolder _) begun.noFolder]
  · rw [sameRoom, room] at lacks
    cases lacks
  · exact absurd ⟨_, _, begun⟩ never

/-- Rows that were put change nothing when they are put again, though a rule may
refuse them then. -/
theorem writeDatabase_again {path : Disk.Path} {made : Disk} {place : List String}
    {table : Disk.Table} {snapshot : Snapshot} (opens : Disk.Opens disk path made place table) :
    (writeDatabase (made.withDatabase place (table.withRows (keptRows snapshot))) path
        snapshot).1 = made.withDatabase place (table.withRows (keptRows snapshot)) := by
  have opensAgain := opens.again (table.withRows (keptRows snapshot))
  have sameTable : (table.withRows (keptRows snapshot)).withRows (keptRows snapshot) =
      table.withRows (keptRows snapshot) := by
    cases table <;> rfl
  rw [writeDatabase, map_rows, ← Disk.replacing, opensAgain.openDatabase,
    Disk.withDatabase_withDatabase]
  dsimp only
  by_cases takes : (table.withRows (keptRows snapshot)).Takes (keptRows snapshot)
  · rw [Disk.transact_replacing takes, sameTable]
  · rcases Disk.transact_of_not_takes takes _ (some place) with ⟨fault, refused⟩
    rw [refused]

theorem deposited_writeFile (isFile : archive.backend = .file) (disk : Disk)
    {snapshot : Snapshot} (plain : snapshot.toJson.IsPlain) :
    Deposited archive disk snapshot (writeFile disk archive.filePath snapshot) := by
  have path_eq : archive.path = archive.filePath := by rw [path, isFile]
  have lasts : ¬ archive.Vanishes disk := by simp [Vanishes, isFile]
  rcases writeFile_cases disk archive.filePath snapshot with
    ⟨made, place, begins, ⟨room, wrote⟩ | ⟨lacks, message, cut⟩⟩ |
      ⟨never, left, message, refused, gains⟩
  · rw [wrote]
    refine .kept ?_ (path_eq ▸ begins.makes) (path_eq ▸ begins.leads) begins.noFolder ?_ ?_
    · rw [Accepts, isFile]
      exact ⟨⟨made, place, begins⟩, room⟩
    · rw [Keeps, isFile]
      exact ⟨_, rfl, Json.read_page plain⟩
    · rw [deposit, isFile]
      exact congrArg Prod.fst (writeFile_again begins room)
  · rw [cut]
    refine .cut ?_ lasts ⟨isFile, place, snapshot.toJson.page, ?_, lacks, ?_⟩
    · rw [Accepts, isFile]
      rintro ⟨-, room⟩
      cases room.symm.trans lacks
    · exact Disk.place_put begins.noFolder _ begins.leads
    · exact Disk.replaces_put (Disk.gainsFolders_makeParent begins.makes) begins.noFolder _
  · rw [refused]
    refine .refused ?_ lasts gains
    rw [Accepts, isFile]
    rintro ⟨begins, -⟩
    exact never begins

theorem deposited_writeDatabase (isDatabase : archive.backend = .database) (disk : Disk)
    {snapshot : Snapshot} (plain : snapshot.toJson.IsPlain) :
    Deposited archive disk snapshot (writeDatabase disk archive.databasePath snapshot) := by
  have path_eq : archive.path = archive.databasePath := by rw [path, isDatabase]
  rcases writeDatabase_cases disk archive.databasePath snapshot with
    ⟨made, place, table, opens, takes, wrote⟩ | ⟨made, fleeting, wrote⟩ |
      ⟨lasting, refuses, left, message, refused, gains⟩
  · rw [wrote]
    refine .kept ?_ (path_eq ▸ opens.makes) (path_eq ▸ opens.leads) opens.ne_folder
      (keeps_withRows isDatabase plain takes) ?_
    · rw [Accepts, isDatabase]
      exact ⟨made, place, table, opens, takes⟩
    · rw [deposit, isDatabase]
      exact writeDatabase_again opens
  · rw [wrote]
    have fleetingAgain : Disk.Fleeting made archive.databasePath made :=
      ⟨Disk.makeParent_again fleeting.makes, fleeting.transient⟩
    refine .gone ⟨isDatabase, made, fleeting⟩ (path_eq ▸ fleeting.makes) ?_
    rw [deposit, isDatabase]
    dsimp only
    rw [writeDatabase, fleetingAgain.openDatabase]
    rfl
  · rw [refused]
    refine .refused ?_ (fun vanishes => lasting vanishes.2) gains
    rw [Accepts, isDatabase]
    exact refuses

/-- All that can come of bringing a plain snapshot to the disk. -/
theorem deposited_deposit (persisted : archive.backend ≠ .memory) (disk : Disk)
    {snapshot : Snapshot} (plain : snapshot.toJson.IsPlain) :
    Deposited archive disk snapshot (archive.deposit disk snapshot) := by
  cases keepsIn : archive.backend with
  | memory => exact absurd keepsIn persisted
  | file =>
      rw [deposit, keepsIn]
      exact deposited_writeFile keepsIn disk plain
  | database =>
      rw [deposit, keepsIn]
      exact deposited_writeDatabase keepsIn disk plain

/-! ## Saving -/

section Saving

variable (persisted : archive.backend ≠ .memory) (disk : Disk) {store : Store}
include persisted

/-- Saving a store that has a snapshot is done when the snapshot is put. -/
theorem persist_of_snapshot {snapshot : Snapshot} (taken : store.snapshot = .ok snapshot) :
    (archive.persist disk store).disk = (archive.deposit disk snapshot).1 ∧
      (archive.persist disk store).done = (archive.deposit disk snapshot).2.isNone := by
  rw [persist, if_neg persisted, taken]
  dsimp only
  split
  · next refused => simp [refused]
  · next put => simp [put]

variable (once : ValuesNameOnce store.agents)
include once

/-- A store without a snapshot is not saved and not brought to the disk. -/
theorem persist_of_not_plain (notPlain : ¬ ValuesPlain store.agents) :
    (archive.persist disk store).done = false ∧ (archive.persist disk store).disk = disk := by
  cases taken : store.snapshot with
  | ok snapshot => exact absurd ((Store.snapshot_eq_ok_iff once).mp taken).1 notPlain
  | error fault =>
      rw [persist, if_neg persisted, taken]
      exact ⟨rfl, rfl⟩

end Saving

/-- What a destination refuses with is a fault that saving reports. -/
theorem exists_persistence_of_deposit (persisted : archive.backend ≠ .memory)
    {snapshot : Snapshot} {fault : Fault}
    (refused : (archive.deposit disk snapshot).2 = some fault) :
    ∃ message, fault = .persistence message := by
  cases keepsIn : archive.backend with
  | memory => exact absurd keepsIn persisted
  | file =>
      simp only [deposit, keepsIn] at refused
      rcases writeFile_cases disk archive.filePath snapshot with
        ⟨made, place, -, ⟨-, wrote⟩ | ⟨-, message, cut⟩⟩ | ⟨-, left, message, refusal, -⟩
      · rw [wrote] at refused
        cases refused
      · rw [cut] at refused
        exact ⟨message, (Option.some.inj refused).symm⟩
      · rw [refusal] at refused
        exact ⟨message, (Option.some.inj refused).symm⟩
  | database =>
      simp only [deposit, keepsIn] at refused
      rcases writeDatabase_cases disk archive.databasePath snapshot with
        ⟨made, place, table, -, -, wrote⟩ | ⟨made, -, wrote⟩ | ⟨-, -, left, message, refusal, -⟩
      · rw [wrote] at refused
        cases refused
      · rw [wrote] at refused
        cases refused
      · rw [refusal] at refused
        exact ⟨message, (Option.some.inj refused).symm⟩

/-- What saving leaves: everything as it was but for folders, a text that was cut
short, a database that is gone, or the snapshot in the place of what stood there. -/
inductive Leaves (archive : Archive) (disk : Disk) (store : Store) (saved : Effect) : Prop where
  | refused (notDone : saved.done = false) (gains : disk.GainsFolders saved.disk)
  | cut (notDone : saved.done = false) (cutShort : archive.CutShort disk saved.disk)
  | gone (isDone : saved.done = true) (vanishes : archive.Vanishes disk)
      (gains : disk.GainsFolders saved.disk)
  | kept {snapshot : Snapshot} {place : List String} {entry : Disk.Entry}
      (isDone : saved.done = true)
      (isRead : Json.read (namedSnapshot store.agents).toJson.line = .ok snapshot.toJson)
      (keeps : archive.Keeps snapshot entry)
      (leads : saved.disk.place archive.path = .ok place)
      (replaces : Disk.Replaces place entry disk saved.disk)

/-- What saving comes to: the store stays, and it is done exactly when the values are
plain and the destination takes the snapshot or forgets it at once.  What keeps it from
being done is a fault that is reported.  Not done, it leaves everything as it was, save for folders where nothing stood, or else a text for which
there was no room.  Done, it leaves the snapshot, as it is read of the printed entries,
in the place of what stood there, unless it is forgotten.  Saving once more changes
nothing then. -/
structure Saves (archive : Archive) (disk : Disk) (store : Store) (saved : Effect) : Prop where
  stays : saved.store = store
  done_iff : saved.done = true ↔ ValuesPlain store.agents ∧
    (archive.Accepts disk (settledSnapshot store.agents) ∨ archive.Vanishes disk)
  reported : ∀ fault, (store.snapshot = .error fault ∨
    ∃ snapshot, (archive.deposit disk snapshot).2 = some fault) →
      ∃ message, fault = .persistence message
  leaves : Leaves archive disk store saved
  again : saved.done = true → (archive.persist saved.disk store).disk = saved.disk

/-- Whatever saving is refused by is a fault that it reports. -/
theorem refusals_reported (persisted : archive.backend ≠ .memory) (disk : Disk) (store : Store) :
    ∀ fault, (store.snapshot = .error fault ∨
      ∃ snapshot, (archive.deposit disk snapshot).2 = some fault) →
        ∃ message, fault = .persistence message := by
  rintro fault (refused | ⟨snapshot, refused⟩)
  · exact Store.exists_persistence_of_snapshot refused
  · exact exists_persistence_of_deposit persisted refused

/-- Saving comes to one of its ends. -/
theorem saves_persist (persisted : archive.backend ≠ .memory) (disk : Disk) {store : Store}
    (once : ValuesNameOnce store.agents) :
    archive.Saves disk store (archive.persist disk store) := by
  have stays := store_persist archive disk store
  have reported := refusals_reported persisted disk store
  by_cases plain : ValuesPlain store.agents
  · have taken := (Store.snapshot_eq_ok_iff once).mpr ⟨plain, rfl⟩
    obtain ⟨disk_eq, done_eq⟩ := persist_of_snapshot persisted disk taken
    have again_eq := (persist_of_snapshot persisted (archive.persist disk store).disk taken).1
    have deposited := deposited_deposit persisted disk (Store.isPlain_settledSnapshot plain)
    generalize archive.persist disk store = saved at *
    generalize archive.deposit disk (settledSnapshot store.agents) = result at *
    cases deposited with
    | @kept made place entry accepts makes leads noFolder keeps again =>
        have leadsThen : saved.disk.place archive.path = .ok place := by
          rw [disk_eq]
          exact Disk.place_put noFolder _ leads
        have replaces : Disk.Replaces place entry disk saved.disk := by
          rw [disk_eq]
          exact Disk.replaces_put (Disk.gainsFolders_makeParent makes) noFolder _
        refine ⟨stays, iff_of_true done_eq ⟨plain, .inl accepts⟩, reported, ?_, fun _ => ?_⟩
        · exact .kept done_eq (Store.read_line_namedSnapshot plain) keeps leadsThen replaces
        · rw [again_eq, disk_eq]
          exact again
    | gone vanishes makes again =>
        refine ⟨stays, iff_of_true done_eq ⟨plain, .inr vanishes⟩, reported, ?_, fun _ => ?_⟩
        · refine .gone done_eq vanishes ?_
          rw [disk_eq]
          exact Disk.gainsFolders_makeParent makes
        · rw [again_eq, disk_eq]
          exact again
    | cut refuses lasts cutShort =>
        have undone : saved.done ≠ true := Bool.eq_false_iff.mp done_eq
        refine ⟨stays, iff_of_false undone fun both => both.2.elim refuses lasts, reported, ?_,
          fun isDone => absurd isDone undone⟩
        exact .cut done_eq (disk_eq ▸ cutShort)
    | refused refuses lasts gains =>
        have undone : saved.done ≠ true := Bool.eq_false_iff.mp done_eq
        refine ⟨stays, iff_of_false undone fun both => both.2.elim refuses lasts, reported, ?_,
          fun isDone => absurd isDone undone⟩
        exact .refused done_eq (disk_eq ▸ gains)
  · obtain ⟨notDone, disk_eq⟩ := persist_of_not_plain persisted disk once plain
    have undone := Bool.eq_false_iff.mp notDone
    refine ⟨stays, iff_of_false undone fun both => plain both.1, reported, ?_,
      fun isDone => absurd isDone undone⟩
    refine .refused notDone ?_
    rw [disk_eq]
    exact .refl disk

end Archive

end PromptDispatch
