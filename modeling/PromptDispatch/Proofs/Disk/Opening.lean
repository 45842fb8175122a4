import PromptDispatch.Disk.Database
import PromptDispatch.Proofs.Disk.Folders

/-!
# Opening a database

A database opens where nothing stands, where an empty file stands, and where a
database stands already.  In the first two cases it begins with an empty table.
Opening loses no row anywhere, and rows that were written are found again by the
next opening.
-/

namespace PromptDispatch.Disk

variable {before after disk made : Disk} {place : List String} {path : Path}

theorem Entry.table?_eq_some_iff {entry : Entry} {table : Table} :
    entry.table? = some (some table) ↔ entry = .database (some table) := by
  rw [Entry.table?.eq_def]
  split
  · simp
  · simp
  · simp
  · next noDatabase _ _ => simpa using noDatabase (some table)

/-- Nothing stands at a place, or a file that is a database without a table. -/
def Vacant (disk : Disk) (place : List String) : Prop :=
  ∀ entry, disk.at? place = some entry → entry.table? = some none

/-- A database that a path leads to once its folder is there. -/
structure Opens (disk : Disk) (path : Path) (made : Disk) (place : List String)
    (table : Table) : Prop where
  makes : disk.makeParent path = .ok made
  lasting : path.isTransient = false
  leads : made.place path = .ok place
  isOpen : made.isClosed place = false
  holds : made.at? place = some (.database (some table)) ∨
    made.Vacant place ∧ table = .context []

/-- The disk with a database in place. -/
def withDatabase (made : Disk) (place : List String) (table : Table) : Disk :=
  made.put place (.database (some table))

theorem Vacant.ne_folder (vacant : disk.Vacant place) : disk.at? place ≠ some .folder := by
  intro isFolder
  cases vacant _ isFolder

namespace Opens

variable {table : Table}

theorem ne_folder (opens : Opens disk path made place table) : made.at? place ≠ some .folder := by
  rcases opens.holds with found | ⟨vacant, -⟩
  · simp [found]
  · exact vacant.ne_folder

/-- A database opens with its table in place. -/
theorem openDatabase (opens : Opens disk path made place table) :
    disk.openDatabase path = (made.withDatabase place table, .ok ⟨some place, table⟩) := by
  have noFolder := opens.ne_folder
  rw [Disk.openDatabase, makeParent_eq_ok_iff.mp opens.makes]
  simp only [opens.lasting, Bool.false_eq_true, if_false, opens.leads, openAt, opens.isOpen]
  rcases opens.holds with found | ⟨vacant, rfl⟩
  · rw [withDatabase, put_of_at? found noFolder, found]
    rfl
  · cases stands : made.at? place with
    | none => rfl
    | some entry =>
        have noTable := vacant entry stands
        cases entry with
        | folder => exact absurd stands noFolder
        | _ =>
          dsimp only
          rw [noTable]
          rfl

end Opens

/-- A path whose database begins anew at every opening, once its folder is there. -/
structure Fleeting (disk : Disk) (path : Path) (made : Disk) : Prop where
  makes : disk.makeParent path = .ok made
  transient : path.isTransient = true

/-- A fleeting database opens without rows and leaves no trace. -/
theorem Fleeting.openDatabase (fleeting : Fleeting disk path made) :
    disk.openDatabase path = (made, .ok ⟨none, .context []⟩) := by
  rw [Disk.openDatabase, makeParent_eq_ok_iff.mp fleeting.makes]
  simp only [fleeting.transient, if_true]

/-- A path whose database cannot be opened: its folder is refused, or it leads
nowhere or to a closed place, or a folder or a file that is no database stands where
it leads. -/
inductive Unopenable (disk : Disk) (path : Path) : Prop where
  | noFolder {refusal : Refusal} (refused : disk.makeParent path = .error refusal)
  | noPlace {made : Disk} {trouble : Trouble} (makes : disk.makeParent path = .ok made)
      (lasting : path.isTransient = false) (refused : made.place path = .error trouble)
  | closed {made : Disk} {place : List String} (makes : disk.makeParent path = .ok made)
      (lasting : path.isTransient = false) (leads : made.place path = .ok place)
      (isClosed : made.isClosed place = true)
  | noDatabase {made : Disk} {entry : Entry} (makes : disk.makeParent path = .ok made)
      (lasting : path.isTransient = false) (found : made.find path = .ok entry)
      (noTable : entry.table? = none)

theorem makeParent_eq_error_iff {refusal : Refusal} :
    disk.makeParent path = .error refusal ↔ ∃ left, disk.approach path = (left, some refusal) := by
  rw [makeParent]
  split
  · next made => simp [made]
  · next refused => simp [refused]

/-- At an open place a database opens, unless something else stands there. -/
private theorem opens_or_noDatabase (makes : disk.makeParent path = .ok made)
    (lasting : path.isTransient = false) (leads : made.place path = .ok place)
    (isOpen : made.isClosed place = false) :
    (∃ table, Opens disk path made place table) ∨
      Unopenable disk path ∧ ∃ fault, made.openAt place = (made, .error fault) := by
  rw [openAt, isOpen]
  cases stands : made.at? place with
  | none =>
      exact .inl ⟨_, makes, lasting, leads, isOpen, .inr ⟨by simp [Vacant, stands], rfl⟩⟩
  | some entry =>
      have found : made.find path = .ok entry := (find_eq_ok_iff leads).mpr ⟨isOpen, stands⟩
      cases isTable : entry.table? with
      | none =>
          refine .inr ⟨.noDatabase makes lasting found isTable, ?_⟩
          cases entry with
          | folder => exact ⟨_, rfl⟩
          | _ =>
            dsimp only
            rw [isTable]
            exact ⟨_, rfl⟩
      | some table? =>
          left
          cases table? with
          | none =>
              have vacant : made.Vacant place := by
                intro other standsToo
                obtain rfl : entry = other := Option.some.inj (stands.symm.trans standsToo)
                exact isTable
              exact ⟨_, makes, lasting, leads, isOpen, .inr ⟨vacant, rfl⟩⟩
          | some table =>
              obtain rfl := Entry.table?_eq_some_iff.mp isTable
              exact ⟨table, makes, lasting, leads, isOpen, .inl stands⟩

/-- A path either leads to a database that opens, lasting or fleeting, or it cannot be
opened, and then folders are all that is new. -/
theorem opens_or_unopenable (disk : Disk) (path : Path) :
    (∃ made place table, Opens disk path made place table) ∨
      (∃ made, Fleeting disk path made) ∨
      Unopenable disk path ∧ ∃ left fault, disk.openDatabase path = (left, .error fault) ∧
        GainsFolders disk left := by
  have gains := gainsFolders_approach disk path
  rw [Disk.openDatabase]
  split
  · next left refusal refused =>
    rw [refused] at gains
    have noFolder := makeParent_eq_error_iff.mpr ⟨left, refused⟩
    exact .inr (.inr ⟨.noFolder noFolder, left, _, rfl, gains⟩)
  · next made made_eq =>
    rw [made_eq] at gains
    have makes := makeParent_eq_ok_iff.mpr made_eq
    cases lasting : path.isTransient with
    | true => exact .inr (.inl ⟨made, makes, lasting⟩)
    | false =>
        simp only [Bool.false_eq_true, if_false]
        cases leads : made.place path with
        | error trouble =>
            exact .inr (.inr ⟨.noPlace makes lasting leads, made, _, rfl, gains⟩)
        | ok place =>
            dsimp only
            cases isOpen : made.isClosed place with
            | true =>
                refine .inr (.inr ⟨.closed makes lasting leads isOpen, made, .notOpened, ?_, gains⟩)
                rw [openAt, isOpen, if_pos rfl]
            | false =>
                rcases opens_or_noDatabase makes lasting leads isOpen with
                  ⟨table, opens⟩ | ⟨unopenable, fault, refused⟩
                · exact .inl ⟨made, place, table, opens⟩
                · exact .inr (.inr ⟨unopenable, made, fault, refused, gains⟩)

/-- What opens is not unopenable. -/
theorem Opens.not_unopenable {table : Table} (opens : Opens disk path made place table) :
    ¬ Unopenable disk path := by
  rintro (⟨refused⟩ | ⟨makes, -, refused⟩ | ⟨makes, -, leads, isClosed⟩ | ⟨makes, -, found, noTable⟩)
  · rw [opens.makes] at refused
    cases refused
  · obtain rfl := Except.ok.inj (opens.makes.symm.trans makes)
    rw [opens.leads] at refused
    cases refused
  · obtain rfl := Except.ok.inj (opens.makes.symm.trans makes)
    obtain rfl := Except.ok.inj (opens.leads.symm.trans leads)
    rw [opens.isOpen] at isClosed
    cases isClosed
  · obtain rfl := Except.ok.inj (opens.makes.symm.trans makes)
    have stands := ((find_eq_ok_iff opens.leads).mp found).2
    rcases opens.holds with holds | ⟨vacant, -⟩
    · obtain rfl := Option.some.inj (stands.symm.trans holds)
      cases noTable
    · rw [vacant _ stands] at noTable
      cases noTable

theorem Fleeting.not_unopenable (fleeting : Fleeting disk path made) :
    ¬ Unopenable disk path := by
  have isTransient : ¬ path.isTransient = false := by simp [fleeting.transient]
  rintro (⟨refused⟩ | ⟨-, lasting, -⟩ | ⟨-, lasting, -⟩ | ⟨-, lasting, -⟩)
  · rw [fleeting.makes] at refused
    cases refused
  all_goals exact isTransient lasting

/-- A path opens one database only. -/
theorem Opens.unique {made' : Disk} {place' : List String} {table table' : Table}
    (opens : Opens disk path made place table) (other : Opens disk path made' place' table') :
    made = made' ∧ place = place' ∧ table = table' := by
  obtain rfl := Except.ok.inj (opens.makes.symm.trans other.makes)
  obtain rfl := Except.ok.inj (opens.leads.symm.trans other.leads)
  have same := opens.openDatabase.symm.trans other.openDatabase
  have sameTable := congrArg (fun opened => opened.2.map OpenDatabase.table) same
  exact ⟨rfl, rfl, Except.ok.inj sameTable⟩

/-- The rows of a table are read unless the bytes of a text among them are wrong. -/
theorem Table.readRows_eq_ok_iff {table : Table} {rows : List Row} :
    table.readRows = .ok rows ↔ table.rows? = some rows ∧ ∀ row ∈ rows, row.garbled? = none := by
  rw [readRows]
  cases table.rows? with
  | none => simp
  | some held =>
      cases found : held.findSome? Row.garbled? with
      | none =>
          have fine : ∀ row ∈ held, row.garbled? = none := by simpa using found
          simp only [found, Except.ok.injEq, Option.some.injEq, iff_self_and]
          rintro rfl
          exact fine
      | some shown =>
          rcases List.exists_of_findSome?_eq_some found with ⟨row, among, isGarbled⟩
          simp only [found, Option.some.injEq, reduceCtorEq, false_iff]
          rintro ⟨rfl, fine⟩
          cases (fine row among).symm.trans isGarbled

/-! ## Rows stay -/

/-- The rows of the database at a place, none where there is no context table. -/
def rowsIn (disk : Disk) (place : List String) : List Row :=
  match disk.at? place with
  | some (.database (some table)) => table.rows?.getD []
  | _ => []

/-- What stands somewhere stays; where nothing stood there may be a folder, and a
database may begin at the path's own place where there is none with a table. -/
def Spares (path : Path) (before after : Disk) : Prop :=
  ∀ place, after.at? place = before.at? place ∨
    before.at? place = none ∧ after.at? place = some .folder ∨
    after.place path = .ok place ∧ before.Vacant place ∧ after.at? place = some newDatabase

theorem Spares.refl (path : Path) (disk : Disk) : Spares path disk disk := fun _ => .inl rfl

theorem GainsFolders.spares (gains : GainsFolders before after) (path : Path) :
    Spares path before after := by
  intro place
  rcases gains place with same | gained
  · exact .inl same
  · exact .inr (.inl gained)

/-- Opening a database loses nothing. -/
theorem Opens.spares {table : Table} (opens : Opens disk path made place table) :
    Spares path disk (made.withDatabase place table) := by
  have gains := gainsFolders_makeParent opens.makes
  have noFolder := opens.ne_folder
  rcases opens.holds with found | ⟨vacant, rfl⟩
  · rw [withDatabase, put_of_at? found noFolder]
    exact gains.spares path
  · intro other
    by_cases same : other = place
    · subst same
      have stood : disk.at? other = made.at? other := gains.at?_eq_of_ne_folder noFolder
      refine .inr (.inr ⟨place_put noFolder _ opens.leads, ?_, at?_put_self noFolder _⟩)
      intro entry stands
      exact vacant entry (stood ▸ stands)
    · rw [withDatabase, at?_put_of_ne same]
      rcases gains other with stays | gained
      · exact .inl stays
      · exact .inr (.inl gained)

/-- Where nothing is lost, every row stays in its place. -/
theorem Spares.rowsIn_eq (spares : Spares path before after) (place : List String) :
    after.rowsIn place = before.rowsIn place := by
  rw [rowsIn, rowsIn]
  rcases spares place with same | ⟨absent, isFolder⟩ | ⟨-, vacant, begun⟩
  · rw [same]
  · rw [absent, isFolder]
  · rw [begun]
    cases stands : before.at? place with
    | none => rfl
    | some entry =>
        have noTable := vacant entry stands
        cases entry with
        | database table =>
            obtain rfl : table = none := by simpa [Entry.table?] using noTable
            rfl
        | _ => rfl

/-! ## Rows that are replaced -/

/-- A path whose database takes context rows: its folder can be made, and where
it leads nothing stands, or an empty file, or a database without a table or with a
context table. -/
def TakesRows (disk : Disk) (path : Path) : Prop :=
  ∃ made place rows, Opens disk path made place (.context rows)

theorem withDatabase_withDatabase (first second : Table) :
    (disk.withDatabase place first).withDatabase place second = disk.withDatabase place second := by
  rw [withDatabase, withDatabase, withDatabase, put, put, Keyed.put_put]
  rfl

namespace Opens

variable {table : Table}

theorem at?_withDatabase (opens : Opens disk path made place table) (next : Table) :
    (made.withDatabase place next).at? place = some (.database (some next)) :=
  at?_put_self opens.ne_folder _

/-- A database that was written opens as it is. -/
theorem again (opens : Opens disk path made place table) (next : Table) :
    Opens (made.withDatabase place next) path (made.withDatabase place next) place next where
  makes := makeParent_put opens.makes opens.ne_folder _
  lasting := opens.lasting
  leads := place_put opens.ne_folder _ opens.leads
  isOpen := opens.isOpen
  holds := .inl (opens.at?_withDatabase next)

end Opens

/-- A table takes rows in place of those it has: it is a context table, and a rule that
it has refuses neither to let its rows go nor to let the new ones in. -/
inductive Table.Takes (rows : List Row) : Table → Prop where
  | context (kept : List Row) : Takes rows (.context kept)
  | ruled {kept : List Row} {rule : Rule} (cleared : rule.clearing kept = none)
      (added : ∀ before row after, rows = before ++ row :: after → rule.adding before row = none) :
      Takes rows (.ruled kept rule)

/-- A table with other rows. -/
def Table.withRows (rows : List Row) : Table → Table
  | .context _ => .context rows
  | .ruled _ rule => .ruled rows rule
  | .other => .other

/-- A rule lets rows in one after another when it refuses none of them. -/
theorem Rule.foldlM_add_eq_ok_iff {rule : Rule} {kept rows after : List Row} :
    rows.foldlM rule.add kept = .ok after ↔ after = kept ++ rows ∧
      ∀ before row others, rows = before ++ row :: others →
        rule.adding (kept ++ before) row = none := by
  induction rows generalizing kept with
  | nil => simp [pure, Except.pure, eq_comm]
  | cons row rows ih =>
      rw [List.foldlM_cons, add]
      cases refusal : rule.adding kept row with
      | some message =>
          simp only [bind, Except.bind, reduceCtorEq, false_iff, not_and]
          intro _ fine
          have := fine [] row rows rfl
          rw [List.append_nil, refusal] at this
          cases this
      | none =>
          simp only [bind, Except.bind]
          rw [ih, List.append_assoc, List.singleton_append]
          refine and_congr_right fun _ => ?_
          constructor
          · intro fine before other others split
            cases before with
            | nil =>
                obtain ⟨rfl, -⟩ := List.cons.inj split
                rw [List.append_nil, refusal]
            | cons first before =>
                obtain ⟨rfl, rest⟩ := List.cons.inj split
                have := fine before other others rest
                rwa [List.append_assoc] at this
          · intro fine before other others split
            have := fine (row :: before) other others (by rw [split, List.cons_append])
            rwa [List.append_assoc]

/-- The statements that replace all rows of a table. -/
def replacing (rows : List Row) : List Statement := [.deleteAll, .insertAll rows]

/-- All rows of a table that takes others are replaced in one transaction. -/
theorem Table.Takes.run {rows : List Row} {table : Table} (takes : table.Takes rows) :
    (replacing rows).foldlM (fun table statement => statement.run table) table =
      .ok (table.withRows rows) := by
  cases takes with
  | context kept => rfl
  | @ruled kept rule cleared added =>
      have all : rows.foldlM rule.add [] = .ok rows :=
        Rule.foldlM_add_eq_ok_iff.mpr ⟨rfl, added⟩
      simp only [replacing, List.foldlM_cons, List.foldlM_nil, Statement.run, cleared, bind,
        Except.bind, all, Except.map]
      rfl

/-- A table that does not take rows refuses them. -/
theorem Table.exists_fault_of_not_takes {rows : List Row} {table : Table}
    (refuses : ¬ table.Takes rows) :
    ∃ fault, (replacing rows).foldlM (fun table statement => statement.run table) table =
      .error fault := by
  cases table with
  | context kept => exact absurd (.context kept) refuses
  | other => exact ⟨_, rfl⟩
  | ruled kept rule =>
      simp only [replacing, List.foldlM_cons, List.foldlM_nil, Statement.run]
      cases cleared : rule.clearing kept with
      | some message => exact ⟨_, rfl⟩
      | none =>
          cases all : rows.foldlM rule.add [] with
          | error fault => exact ⟨fault, by simp only [bind, Except.bind, all, Except.map]⟩
          | ok after =>
              have added := (Rule.foldlM_add_eq_ok_iff.mp all).2
              exact absurd (.ruled cleared added) refuses

/-- All rows of a table that takes others are replaced. -/
theorem transact_replacing {rows : List Row} {table : Table} (takes : table.Takes rows)
    (made : Disk) (place : List String) :
    (made.withDatabase place table).transact ⟨some place, table⟩ (replacing rows) =
      (made.withDatabase place (table.withRows rows), none) := by
  rw [transact, takes.run]
  exact congrArg (fun disk => (disk, none)) (withDatabase_withDatabase _ _)

/-- A table that refuses rows keeps those it has: what was deleted comes back. -/
theorem transact_of_not_takes {rows : List Row} {table : Table} (refuses : ¬ table.Takes rows)
    (disk : Disk) (place : Option (List String)) :
    ∃ fault, disk.transact ⟨place, table⟩ (replacing rows) = (disk, some fault) := by
  rcases Table.exists_fault_of_not_takes refuses with ⟨fault, refused⟩
  exact ⟨fault, by rw [transact, refused]⟩

end PromptDispatch.Disk
