import PromptDispatch.Proofs.Json.Recognition
import PromptDispatch.Proofs.Store.Saving
import PromptDispatch.Proofs.Text.Utf8

/-!
# Loading is all or nothing

What is kept at an archive's path is either malformed, and then the store stays as
it is, or it holds agents with their entries, and then these replace all that the
store had.  Both are told of the disk alone, without the steps of loading: a file
by its bytes and the grammar of JSON, a database by its table and the rows in it.
Loading costs no file its content and no database a row.
-/

namespace PromptDispatch

/-! ## Text files -/

/-- The text that an entry holds as a file: its own, the one its bytes are the
encoding of, or the beginning of a database. -/
inductive Disk.Entry.HoldsText : Disk.Entry → String → Prop where
  | text (s : String) : HoldsText (.text s) s
  | bytes (s : String) : HoldsText (.bytes (Text.encodeUtf8 s)) s
  | database (table : Option Disk.Table) : HoldsText (.database table) "SQLite format 3"

/-- A text with the line ends of every convention as line feeds. -/
def Text.unified (s : String) : String := String.ofList (unifyLineEnds s.toList)

namespace Disk

variable {disk : Disk} {path : Path} {entry : Entry}

theorem Entry.holdsText_bytes_iff {bs : List UInt8} {s : String} :
    (Entry.bytes bs).HoldsText s ↔ Text.decodeUtf8 bs = .ok s := by
  rw [Text.decodeUtf8_eq_ok_iff]
  constructor
  · rintro ⟨⟩
    rfl
  · rintro rfl
    exact .bytes s

theorem Entry.HoldsText.unique {s t : String} (holds : entry.HoldsText s)
    (holdsToo : entry.HoldsText t) : s = t := by
  cases entry with
  | folder => cases holds
  | text => cases holds; cases holdsToo; rfl
  | database => cases holds; cases holdsToo; rfl
  | bytes bs =>
      have decoded := Entry.holdsText_bytes_iff.mp holds
      exact Except.ok.inj (decoded.symm.trans (Entry.holdsText_bytes_iff.mp holdsToo))

/-- What is read of a file is the text that it holds. -/
theorem readText_eq_ok_iff (found : disk.find path = .ok entry) {text : String} :
    disk.readText path = .ok text ↔ ∃ s, entry.HoldsText s ∧ Text.unified s = text := by
  rw [readText, found]
  cases entry with
  | folder =>
      have noText : ∀ s, ¬ Entry.folder.HoldsText s := by
        rintro s ⟨⟩
      simp [noText]
  | text s =>
      have holds_iff : ∀ t, (Entry.text s).HoldsText t ↔ t = s := by
        intro t
        constructor
        · rintro ⟨⟩
          rfl
        · rintro rfl
          exact .text t
      simp [holds_iff, Text.unified]
  | bytes bs =>
      simp only [Entry.holdsText_bytes_iff]
      cases Text.decodeUtf8 bs with
      | ok s => simp [Text.unified]
      | error fault => simp
  | database table =>
      have holds_iff : ∀ t, (Entry.database table).HoldsText t ↔ t = "SQLite format 3" := by
        intro t
        constructor
        · rintro ⟨⟩
          rfl
        · rintro rfl
          exact .database table
      have noReturn : Text.unified "SQLite format 3" = "SQLite format 3" := by decide
      simp [holds_iff, noReturn]

end Disk

namespace Archive

open Disk (Fleeting Opens Spares Unopenable)
open Store (Entries Snapshot newest)

/-! ## What is malformed and what is held -/

/-- An object whose fields are all objects. -/
def IsMapping (value : Json) : Prop :=
  ∃ fields, value = .obj fields ∧ ∀ field ∈ fields, ∃ inner, field.2 = .obj inner

/-- The content of a file is malformed: it is there and cannot be read, a folder stands
there or bytes that encode no text, the text is not JSON, or its value is no object of
objects. -/
inductive MalformedFile (disk : Disk) (path : Disk.Path) : Prop where
  | unreadable {trouble : Disk.Trouble} (stands : disk.look path = .ok true)
      (refused : disk.find path = .error trouble)
  | noText {entry : Disk.Entry} (found : disk.find path = .ok entry)
      (noText : ∀ s, ¬ entry.HoldsText s)
  | notJson {entry : Disk.Entry} {s : String} (found : disk.find path = .ok entry)
      (holds : entry.HoldsText s) (notJson : ¬ Json.IsText (Text.unified s))
      (whole : ¬ Json.SpellsHalf (Text.unified s))
  | noMapping {entry : Disk.Entry} {s : String} {value : Json}
      (found : disk.find path = .ok entry) (holds : entry.HoldsText s)
      (isRead : Json.read (Text.unified s) = .ok value) (noMapping : ¬ IsMapping value)

/-- The text of a file spells half of a character. -/
inductive FileHasHalf (disk : Disk) (path : Disk.Path) : Prop where
  | intro {entry : Disk.Entry} {s : String} (found : disk.find path = .ok entry)
      (holds : entry.HoldsText s) (half : Json.SpellsHalf (Text.unified s))

/-- A file is absent and holds no agents, or it holds those of the snapshot that is
its value. -/
inductive HoldsFile (disk : Disk) (path : Disk.Path) : List (Option String × Entries) → Prop where
  | absent (absent : disk.contains path = false) : HoldsFile disk path []
  | snapshot {entry : Disk.Entry} {s : String} {snapshot : Snapshot}
      (found : disk.find path = .ok entry) (holds : entry.HoldsText s)
      (isRead : Json.read (Text.unified s) = .ok snapshot.toJson) :
      HoldsFile disk path snapshot.agents

/-- A row whose value is JSON text. -/
def HasJson (row : Disk.Row) : Prop := ∃ text, HoldsText row.value text ∧ Json.IsText text

/-- A row whose value is a text that spells half of a character. -/
def RowHasHalf (row : Disk.Row) : Prop := ∃ text, HoldsText row.value text ∧ Json.SpellsHalf text

/-- The content of a database is malformed: it does not open, its table has other
columns, or a row has no value or one that is not JSON. -/
inductive MalformedDatabase (disk : Disk) (path : Disk.Path) : Prop where
  | unopenable (unopenable : Unopenable disk path)
  | otherTable {made : Disk} {place : List String} {table : Disk.Table}
      (opens : Opens disk path made place table) (noColumns : table.rows? = .none)
  | badRow {made : Disk} {place : List String} {table : Disk.Table} {rows : List Disk.Row}
      {row : Disk.Row} (opens : Opens disk path made place table)
      (isTable : table.rows? = some rows) (among : row ∈ rows) (bad : ¬ HasJson row)
      (whole : ¬ RowHasHalf row)

/-- A row of a database has a value that spells half of a character. -/
inductive DatabaseHasHalf (disk : Disk) (path : Disk.Path) : Prop where
  | intro {made : Disk} {place : List String} {table : Disk.Table} {rows : List Disk.Row}
      {row : Disk.Row} (opens : Opens disk path made place table)
      (isTable : table.rows? = some rows) (among : row ∈ rows) (half : RowHasHalf row)

/-- A database or its table is absent and holds no agents, or it holds those that its
rows come to, all of which are JSON. -/
inductive HoldsDatabase (disk : Disk) (path : Disk.Path) :
    List (Option String × Entries) → Prop where
  | absent {made : Disk} {place : List String} (opens : Opens disk path made place (.context []))
      (vacant : made.Vacant place) : HoldsDatabase disk path []
  | fleeting {made : Disk} (fleeting : Fleeting disk path made) : HoldsDatabase disk path []
  | rows {made : Disk} {place : List String} {table : Disk.Table} {rows : List Disk.Row}
      {agents : List (Option String × Entries)} (opens : Opens disk path made place table)
      (isTable : table.rows? = some rows) (areJson : ∀ row ∈ rows, HasJson row)
      (gathered : Gathered rows agents) : HoldsDatabase disk path agents

/-- What is kept at an archive's path is malformed. -/
def Malformed (archive : Archive) (disk : Disk) : Prop :=
  match archive.backend with
  | .memory => False
  | .file => MalformedFile disk archive.filePath
  | .database => MalformedDatabase disk archive.databasePath

/-- What is kept at an archive's path spells half of a character. -/
def HasHalf (archive : Archive) (disk : Disk) : Prop :=
  match archive.backend with
  | .memory => False
  | .file => FileHasHalf disk archive.filePath
  | .database => DatabaseHasHalf disk archive.databasePath

/-- Agents and entries that are kept at an archive's path. -/
def Holds (archive : Archive) (disk : Disk) (agents : List (Option String × Entries)) : Prop :=
  match archive.backend with
  | .memory => agents = []
  | .file => HoldsFile disk archive.filePath agents
  | .database => HoldsDatabase disk archive.databasePath agents

variable {disk : Disk} {path : Disk.Path} {agents : List (Option String × Entries)}

/-! ## Files -/

theorem isMapping_toJson (snapshot : Snapshot) : IsMapping snapshot.toJson := by
  refine ⟨_, rfl, ?_⟩
  intro field member
  rcases List.mem_map.mp member with ⟨entry, -, rfl⟩
  exact ⟨entry.2, rfl⟩

theorem exists_ofFields?_of_objects {fields : List (String × Json)}
    (objects : ∀ field ∈ fields, ∃ inner, field.2 = .obj inner) :
    ∃ snapshot, Snapshot.ofFields? fields = some snapshot := by
  induction fields with
  | nil => exact ⟨[], rfl⟩
  | cons field fields ih =>
      rcases List.forall_mem_cons.mp objects with ⟨⟨inner, isObject⟩, others⟩
      rcases ih others with ⟨snapshot, found⟩
      rcases field with ⟨name, value⟩
      obtain rfl : value = .obj inner := isObject
      exact ⟨(name, inner) :: snapshot, by rw [Snapshot.ofFields?, found, Option.map_some]⟩

/-- A snapshot is read from every object of objects, and what is refused is reported. -/
theorem ofJson_cases (value : Json) :
    (∃ snapshot : Snapshot, value = snapshot.toJson ∧ Snapshot.ofJson value = .ok snapshot) ∨
      ¬ IsMapping value ∧ ∃ message, Snapshot.ofJson value = .error (.persistence message) := by
  cases isRead : Snapshot.ofJson value with
  | ok snapshot => exact .inl ⟨snapshot, Snapshot.eq_toJson_of_ofJson isRead, rfl⟩
  | error fault =>
      right
      constructor
      · rintro ⟨fields, rfl, objects⟩
        rcases exists_ofFields?_of_objects objects with ⟨snapshot, found⟩
        simp only [Snapshot.ofJson, found] at isRead
        cases isRead
      · simp only [Snapshot.ofJson] at isRead
        split at isRead
        · split at isRead
          · cases isRead
          · exact ⟨_, isRead.symm⟩
        · exact ⟨_, isRead.symm⟩

theorem readFile_of_contains (stands : disk.contains path = true) :
    readFile disk path = match disk.readText path with
      | .error fault => .error (cannotRead path fault.message)
      | .ok text =>
        match Json.read text with
        | .error error => .error (cannotRead path (error.message text.toList))
        | .ok value => Snapshot.ofJson value := by
  rw [readFile]
  exact if_pos stands

theorem look_of_contains (stands : disk.contains path = true) : disk.look path = .ok true := by
  rw [Disk.contains] at stands
  split at stands
  · next seen => rw [seen, stands]
  · cases stands

/-- A file is read as what it holds, or it is reported: then it is malformed, or it spells
half of a character. -/
theorem readFile_cases (disk : Disk) (path : Disk.Path) :
    (∃ snapshot, readFile disk path = .ok snapshot ∧ HoldsFile disk path snapshot.agents) ∨
      (MalformedFile disk path ∨ FileHasHalf disk path) ∧
        ∃ message, readFile disk path = .error (.persistence message) := by
  cases stands : disk.contains path with
  | false =>
      refine .inl ⟨[], ?_, .absent stands⟩
      rw [readFile, stands]
      rfl
  | true =>
      rw [readFile_of_contains stands]
      cases found : disk.find path with
      | error trouble =>
          have unread : disk.readText path = .error (.disk ⟨trouble, path⟩) := by
            rw [Disk.readText, found]
          rw [unread]
          exact .inr ⟨.inl (.unreadable (look_of_contains stands) found), _, rfl⟩
      | ok entry =>
          cases textRead : disk.readText path with
          | error fault =>
              refine .inr ⟨.inl (.noText found ?_), _, rfl⟩
              intro s holds
              rw [(Disk.readText_eq_ok_iff found).mpr ⟨s, holds, rfl⟩] at textRead
              cases textRead
          | ok text =>
              rcases (Disk.readText_eq_ok_iff found).mp textRead with ⟨s, holds, rfl⟩
              dsimp only
              cases isRead : Json.read (Text.unified s) with
              | error error =>
                  refine .inr ⟨?_, _, rfl⟩
                  by_cases half : Json.SpellsHalf (Text.unified s)
                  · exact .inr ⟨found, holds, half⟩
                  · refine .inl (.notJson found holds ?_ half)
                    intro isText
                    rcases Json.exists_read_of_isText isText with ⟨value, readToo⟩
                    cases isRead.symm.trans readToo
              | ok value =>
                  rcases ofJson_cases value with
                    ⟨snapshot, rfl, taken⟩ | ⟨noMapping, message, refused⟩
                  · exact .inl ⟨snapshot, taken, .snapshot found holds isRead⟩
                  · exact .inr ⟨.inl (.noMapping found holds isRead noMapping), message, refused⟩

theorem contains_of_found {entry : Disk.Entry} (found : disk.find path = .ok entry) :
    disk.contains path = true := by
  rw [Disk.contains, Disk.look_of_find found]

namespace HoldsFile

/-- A file holds one mapping only. -/
theorem unique {other : List (Option String × Entries)} (holds : HoldsFile disk path agents)
    (holdsToo : HoldsFile disk path other) : agents = other := by
  cases holds with
  | absent absent =>
      cases holdsToo with
      | absent => rfl
      | snapshot found => cases absent.symm.trans (contains_of_found found)
  | snapshot found holdsText isRead =>
      cases holdsToo with
      | absent absent => cases absent.symm.trans (contains_of_found found)
      | snapshot foundToo holdsTextToo isReadToo =>
          obtain rfl := Except.ok.inj (found.symm.trans foundToo)
          obtain rfl := holdsText.unique holdsTextToo
          have same := Except.ok.inj (isRead.symm.trans isReadToo)
          have ofJson_eq := congrArg Snapshot.ofJson same
          rw [Snapshot.ofJson_toJson, Snapshot.ofJson_toJson] at ofJson_eq
          rw [Except.ok.inj ofJson_eq]

theorem not_malformed (holds : HoldsFile disk path agents) : ¬ MalformedFile disk path := by
  intro malformed
  cases holds with
  | absent absent =>
      have notFound : ∀ entry, disk.find path ≠ .ok entry := by
        intro entry found
        cases absent.symm.trans (contains_of_found found)
      cases malformed with
      | unreadable stands =>
          rw [Disk.contains, stands] at absent
          cases absent
      | noText found => exact notFound _ found
      | notJson found => exact notFound _ found
      | noMapping found => exact notFound _ found
  | snapshot found holdsText isRead =>
      cases malformed with
      | unreadable _ refused => cases found.symm.trans refused
      | noText foundToo noText =>
          obtain rfl := Except.ok.inj (found.symm.trans foundToo)
          exact noText _ holdsText
      | notJson foundToo holdsTextToo notJson =>
          obtain rfl := Except.ok.inj (found.symm.trans foundToo)
          obtain rfl := holdsText.unique holdsTextToo
          exact notJson (Json.isText_of_read isRead)
      | noMapping foundToo holdsTextToo isReadToo noMapping =>
          obtain rfl := Except.ok.inj (found.symm.trans foundToo)
          obtain rfl := holdsText.unique holdsTextToo
          obtain rfl := Except.ok.inj (isRead.symm.trans isReadToo)
          exact noMapping (isMapping_toJson _)

theorem not_hasHalf (holds : HoldsFile disk path agents) : ¬ FileHasHalf disk path := by
  rintro ⟨foundToo, holdsTextToo, position, refused⟩
  cases holds with
  | absent absent => cases absent.symm.trans (contains_of_found foundToo)
  | snapshot found holdsText isRead =>
      obtain rfl := Except.ok.inj (found.symm.trans foundToo)
      obtain rfl := holdsText.unique holdsTextToo
      cases isRead.symm.trans refused

end HoldsFile

/-! ## Databases -/

theorem readable_iff {row : Disk.Row} : Readable row ↔ HasJson row := by
  constructor
  · rintro ⟨text, value, isText, isRead⟩
    exact ⟨text, isText, Json.isText_of_read isRead⟩
  · rintro ⟨text, isText, isJson⟩
    rcases Json.exists_read_of_isText isJson with ⟨value, isRead⟩
    exact ⟨text, value, isText, isRead⟩

/-- Rows can be added one after another exactly when all of them are JSON. -/
theorem exists_gather_iff_hasJson {rows : List Disk.Row} :
    (∃ agents, gather [] rows = .ok agents) ↔ ∀ row ∈ rows, HasJson row := by
  rw [exists_gather_iff]
  exact forall₂_congr fun _ _ => readable_iff

/-- What is JSON has the bytes of a text. -/
theorem HasJson.garbled? {row : Disk.Row} (hasJson : HasJson row) : row.garbled? = .none := by
  rcases hasJson with ⟨text, ⟨datum, isDatum, isText⟩, -⟩
  rw [Disk.Row.garbled?, isDatum]
  cases datum with
  | garbled shown => cases isText
  | _ => rfl

/-- The rows of a table are read and added to nothing, or one of them is not JSON. -/
theorem readRows_gather_cases {table : Disk.Table} {rows : List Disk.Row}
    (isTable : table.rows? = some rows) :
    (∃ agents, table.readRows = .ok rows ∧ gather [] rows = .ok agents ∧
        ∀ row ∈ rows, HasJson row) ∨
      (∃ row ∈ rows, ¬ HasJson row) ∧ ((∃ fault, table.readRows = .error fault) ∨
        table.readRows = .ok rows ∧ ∃ reason, gather [] rows = .error reason) := by
  by_cases areJson : ∀ row ∈ rows, HasJson row
  · rcases exists_gather_iff_hasJson.mpr areJson with ⟨agents, gathered⟩
    have rowsRead : table.readRows = .ok rows :=
      Disk.Table.readRows_eq_ok_iff.mpr ⟨isTable, fun row among => (areJson row among).garbled?⟩
    exact .inl ⟨agents, rowsRead, gathered, areJson⟩
  · obtain ⟨row, among, bad⟩ : ∃ row ∈ rows, ¬ HasJson row := by simpa using areJson
    refine .inr ⟨⟨row, among, bad⟩, ?_⟩
    cases rowsRead : table.readRows with
    | error fault => exact .inl ⟨fault, rfl⟩
    | ok held =>
        have same := (Disk.Table.readRows_eq_ok_iff.mp rowsRead).1.symm.trans isTable
        obtain rfl := Option.some.inj same
        cases gathered : gather [] held with
        | error reason => exact .inr ⟨rfl, reason, rfl⟩
        | ok agents => exact absurd (exists_gather_iff_hasJson.mp ⟨agents, gathered⟩) areJson

/-- A database is read as what it holds, or it is reported: then it is malformed, or it
spells half of a character.  Nothing is lost either way. -/
theorem readDatabase_cases (disk : Disk) (path : Disk.Path) :
    ∃ left, Spares path disk left ∧
      ((∃ agents, readDatabase disk path = (left, .ok agents) ∧ HoldsDatabase disk path agents) ∨
        (MalformedDatabase disk path ∨ DatabaseHasHalf disk path) ∧
          ∃ message, readDatabase disk path = (left, .error (.persistence message))) := by
  rw [readDatabase]
  rcases Disk.opens_or_unopenable disk path with
    ⟨made, place, table, opens⟩ | ⟨made, fleeting⟩ | ⟨unopenable, left, fault, opened, gains⟩
  · rw [opens.openDatabase]
    refine ⟨_, opens.spares, ?_⟩
    dsimp only
    cases isTable : table.rows? with
    | none =>
        have noColumn : table.readRows = .error .noColumn := by
          rw [Disk.Table.readRows, isTable]
        rw [noColumn]
        exact .inr ⟨.inl (.otherTable opens isTable), _, rfl⟩
    | some rows =>
        have malformed : ∀ row ∈ rows, ¬ HasJson row →
            MalformedDatabase disk path ∨ DatabaseHasHalf disk path := by
          intro row among bad
          by_cases half : RowHasHalf row
          · exact .inr ⟨opens, isTable, among, half⟩
          · exact .inl (.badRow opens isTable among bad half)
        rcases readRows_gather_cases isTable with
          ⟨agents, rowsRead, gathered, areJson⟩ |
            ⟨⟨row, among, bad⟩, ⟨fault, refused⟩ | ⟨rowsRead, reason, refused⟩⟩
        · rw [rowsRead]
          dsimp only
          rw [gathered]
          exact .inl ⟨agents, rfl, .rows opens isTable areJson (gathered_of_gather gathered)⟩
        · rw [refused]
          exact .inr ⟨malformed row among bad, _, rfl⟩
        · rw [rowsRead]
          dsimp only
          rw [refused]
          exact .inr ⟨malformed row among bad, _, rfl⟩
  · rw [fleeting.openDatabase]
    have gains := Disk.gainsFolders_makeParent fleeting.makes
    exact ⟨made, gains.spares path, .inl ⟨[], rfl, .fleeting fleeting⟩⟩
  · rw [opened]
    exact ⟨left, gains.spares path, .inr ⟨.inl (.unopenable unopenable), _, rfl⟩⟩

/-- The rows that a database is opened with. -/
def OpensRows (disk : Disk) (path : Disk.Path) (rows : List Disk.Row) : Prop :=
  (∃ made, Fleeting disk path made) ∧ rows = [] ∨
    ∃ made place table, Opens disk path made place table ∧ table.rows? = some rows

theorem OpensRows.eq {rows other : List Disk.Row} (opens : OpensRows disk path rows)
    (opensToo : OpensRows disk path other) : rows = other := by
  rcases opens with ⟨⟨made, fleeting⟩, rfl⟩ | ⟨made, place, table, opens, isTable⟩
  · rcases opensToo with ⟨-, rfl⟩ | ⟨made', place, table, opens, -⟩
    · rfl
    · cases opens.lasting.symm.trans fleeting.transient
  · rcases opensToo with ⟨⟨made', fleeting⟩, -⟩ | ⟨made', place', table', opensToo, isTableToo⟩
    · cases opens.lasting.symm.trans fleeting.transient
    · obtain ⟨rfl, rfl, rfl⟩ := opens.unique opensToo
      exact Option.some.inj (isTable.symm.trans isTableToo)

namespace HoldsDatabase

/-- What a database holds is told by rows, be they none. -/
theorem exists_rows (holds : HoldsDatabase disk path agents) :
    ∃ rows, OpensRows disk path rows ∧ (∀ row ∈ rows, HasJson row) ∧ Gathered rows agents := by
  cases holds with
  | absent opens => exact ⟨[], .inr ⟨_, _, _, opens, rfl⟩, by simp, gathered_nil⟩
  | fleeting fleeting => exact ⟨[], .inl ⟨⟨_, fleeting⟩, rfl⟩, by simp, gathered_nil⟩
  | rows opens isTable areJson gathered =>
      exact ⟨_, .inr ⟨_, _, _, opens, isTable⟩, areJson, gathered⟩

/-- A database holds one mapping only. -/
theorem unique {other : List (Option String × Entries)} (holds : HoldsDatabase disk path agents)
    (holdsToo : HoldsDatabase disk path other) : agents = other := by
  rcases holds.exists_rows with ⟨rows, opens, -, gathered⟩
  rcases holdsToo.exists_rows with ⟨rows', opensToo, -, gatheredToo⟩
  obtain rfl := opens.eq opensToo
  exact gathered.unique gatheredToo

theorem not_malformed (holds : HoldsDatabase disk path agents) :
    ¬ MalformedDatabase disk path := by
  intro malformed
  rcases holds.exists_rows with ⟨rows, opensRows, areJson, -⟩
  cases malformed with
  | unopenable unopenable =>
      rcases opensRows with ⟨⟨made, fleeting⟩, -⟩ | ⟨made, place, table, opens, -⟩
      · exact fleeting.not_unopenable unopenable
      · exact opens.not_unopenable unopenable
  | otherTable opens noColumns =>
      rcases opensRows with ⟨⟨made, fleeting⟩, -⟩ | ⟨made, place, table, opensToo, isTable⟩
      · cases opens.lasting.symm.trans fleeting.transient
      · obtain ⟨rfl, rfl, rfl⟩ := opens.unique opensToo
        cases noColumns.symm.trans isTable
  | badRow opens isTable among bad =>
      obtain rfl := opensRows.eq (.inr ⟨_, _, _, opens, isTable⟩)
      exact bad (areJson _ among)

theorem not_hasHalf (holds : HoldsDatabase disk path agents) : ¬ DatabaseHasHalf disk path := by
  rintro ⟨opens, isTable, among, text, holdsText, position, refused⟩
  rcases holds.exists_rows with ⟨rows, opensRows, areJson, -⟩
  obtain rfl := opensRows.eq (.inr ⟨_, _, _, opens, isTable⟩)
  rcases areJson _ among with ⟨text', holdsTextToo, isJson⟩
  obtain rfl := holdsText.unique holdsTextToo
  rcases Json.exists_read_of_isText isJson with ⟨value, isRead⟩
  cases isRead.symm.trans refused

end HoldsDatabase

/-! ## Loading -/

section Loading

variable {archive : Archive}

theorem Holds.unique {other : List (Option String × Entries)} (holds : archive.Holds disk agents)
    (holdsToo : archive.Holds disk other) : agents = other := by
  rcases archive with ⟨backend, filePath, databasePath⟩
  cases backend with
  | memory => exact Eq.trans holds (Eq.symm holdsToo)
  | file => exact HoldsFile.unique holds holdsToo
  | database => exact HoldsDatabase.unique holds holdsToo

theorem Holds.not_malformed (holds : archive.Holds disk agents) : ¬ archive.Malformed disk := by
  rcases archive with ⟨backend, filePath, databasePath⟩
  cases backend with
  | memory => exact id
  | file => exact HoldsFile.not_malformed holds
  | database => exact HoldsDatabase.not_malformed holds

theorem Holds.not_hasHalf (holds : archive.Holds disk agents) : ¬ archive.HasHalf disk := by
  rcases archive with ⟨backend, filePath, databasePath⟩
  cases backend with
  | memory => exact id
  | file => exact HoldsFile.not_hasHalf holds
  | database => exact HoldsDatabase.not_hasHalf holds

/-- What an archive holds is fetched, or it is reported: then it is malformed, or it spells
half of a character.  Files are read without a trace. -/
theorem fetch_cases (archive : Archive) (disk : Disk) :
    ∃ left, Spares archive.path disk left ∧ (archive.backend = .file → left = disk) ∧
      ((∃ agents, archive.fetch disk = (left, .ok agents) ∧ archive.Holds disk agents) ∨
        (archive.Malformed disk ∨ archive.HasHalf disk) ∧
          ∃ message, archive.fetch disk = (left, .error (.persistence message))) := by
  rcases archive with ⟨backend, filePath, databasePath⟩
  cases backend with
  | memory => exact ⟨disk, .refl _ disk, fun _ => rfl, .inl ⟨[], rfl, rfl⟩⟩
  | file =>
      refine ⟨disk, .refl _ disk, fun _ => rfl, ?_⟩
      simp only [fetch]
      rcases readFile_cases disk filePath with
        ⟨snapshot, isRead, holds⟩ | ⟨bad, message, refused⟩
      · exact .inl ⟨snapshot.agents, by rw [isRead]; rfl, holds⟩
      · exact .inr ⟨bad, message, by rw [refused]; rfl⟩
  | database =>
      rcases readDatabase_cases disk databasePath with ⟨left, spares, outcome⟩
      exact ⟨left, spares, fun isFile => Backend.noConfusion isFile, outcome⟩

/-- What an archive holds is loaded. -/
theorem load_of_holds (persisted : archive.backend ≠ .memory) (holds : archive.Holds disk agents)
    (store : Store) : (archive.load disk store).done = true ∧
      (archive.load disk store).store = store.replace agents := by
  rcases fetch_cases archive disk with
    ⟨left, -, -, ⟨fetched, isFetched, holdsToo⟩ | ⟨bad, -⟩⟩
  · obtain rfl := holds.unique holdsToo
    simp only [load, if_neg persisted, isFetched, and_self]
  · exact absurd bad (not_or.mpr ⟨holds.not_malformed, holds.not_hasHalf⟩)

/-- A load that is done found what the archive holds. -/
theorem exists_holds_of_done (persisted : archive.backend ≠ .memory) {store : Store}
    (isDone : (archive.load disk store).done = true) : ∃ agents, archive.Holds disk agents := by
  rcases fetch_cases archive disk with
    ⟨left, -, -, ⟨agents, -, holds⟩ | ⟨-, message, refused⟩⟩
  · exact ⟨agents, holds⟩
  · simp only [load, if_neg persisted, refused] at isDone
    cases isDone

/-- Whatever loading leaves in a store was held by the archive. -/
theorem load_cases (archive : Archive) (disk : Disk) (store : Store) :
    (archive.load disk store).store = store ∨
      ∃ agents, archive.Holds disk agents ∧
        (archive.load disk store).store = store.replace agents := by
  by_cases persisted : archive.backend = .memory
  · left
    simp only [load, if_pos persisted]
  · rcases fetch_cases archive disk with
      ⟨left, -, -, ⟨agents, -, holds⟩ | ⟨-, message, refused⟩⟩
    · exact .inr ⟨agents, holds, (load_of_holds persisted holds store).2⟩
    · left
      simp only [load, if_neg persisted, refused]

/-- What loading comes to: it failed exactly when what is kept is malformed, by a fault
that is reported, and then the store stays.  Otherwise the agents that are kept, each with
the newest of its entries, have replaced all agents, and nothing else of the store has
changed.  In either case every file has its content and every database its rows. -/
structure Loads (archive : Archive) (disk : Disk) (store : Store) (loaded : Effect) : Prop where
  reported : ∀ fault, (archive.fetch disk).2 = .error fault →
    ∃ message, fault = .persistence message
  failed_iff : loaded.done = false ↔ archive.Malformed disk
  stays : loaded.done = false → loaded.store = store
  held : loaded.done = true → ∃ agents, archive.Holds disk agents
  replaced : ∀ agents, archive.Holds disk agents → loaded.done = true ∧
    loaded.store = { store with
      agents := agents.map fun entry => (entry.1, newest store.limits.entries entry.2) }
  unwritten : archive.backend = .file → loaded.disk = disk
  spares : Spares archive.path disk loaded.disk
  rows : ∀ place, loaded.disk.rowsIn place = disk.rowsIn place

/-- Loading comes to one of its two ends where nothing that is kept spells half of a
character. -/
theorem loads_load (persisted : archive.backend ≠ .memory) (disk : Disk) (store : Store)
    (whole : ¬ archive.HasHalf disk) : archive.Loads disk store (archive.load disk store) := by
  rcases fetch_cases archive disk with
    ⟨left, spares, unread, ⟨agents, fetched, holds⟩ | ⟨bad, message, fetched⟩⟩
  · have loaded_eq : archive.load disk store = ⟨store.replace agents, left, true,
        (archive.load disk store).notes⟩ := by
      simp only [load, if_neg persisted, fetched]
    rw [loaded_eq]
    exact {
      reported := fun fault isFault => by
        rw [fetched] at isFault
        cases isFault
      failed_iff := ⟨Bool.noConfusion, fun malformed => absurd malformed holds.not_malformed⟩
      stays := Bool.noConfusion
      held := fun _ => ⟨agents, holds⟩
      replaced := fun other holdsToo => by
        rw [holds.unique holdsToo]
        exact ⟨rfl, rfl⟩
      unwritten := unread
      spares := spares
      rows := spares.rowsIn_eq }
  · have malformed : archive.Malformed disk := bad.resolve_right whole
    have loaded_eq : archive.load disk store = ⟨store, left, false,
        (archive.load disk store).notes⟩ := by
      simp only [load, if_neg persisted, fetched]
    rw [loaded_eq]
    exact {
      reported := fun fault isFault => by
        rw [fetched] at isFault
        exact ⟨message, (Except.error.inj isFault).symm⟩
      failed_iff := ⟨fun _ => malformed, fun _ => rfl⟩
      stays := fun _ => rfl
      held := Bool.noConfusion
      replaced := fun agents holds => absurd malformed holds.not_malformed
      unwritten := unread
      spares := spares
      rows := spares.rowsIn_eq }

end Loading

end Archive

end PromptDispatch
