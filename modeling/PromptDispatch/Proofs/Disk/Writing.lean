import PromptDispatch.Disk.Basic

/-!
# Writing a file and reading it again

Writing puts a text at a place where no folder stands, so no path that leads
through folders is diverted by it: every walk that succeeded before ends where
it did, and the file is found where it was written.
-/

namespace PromptDispatch

/-- A text without carriage returns has its line ends unified already. -/
theorem Text.unifyLineEnds_of_not_mem {cs : List Char} (noReturn : '\r' ∉ cs) :
    unifyLineEnds cs = cs := by
  induction cs with
  | nil => rfl
  | cons c cs ih =>
      rw [List.mem_cons, not_or] at noReturn
      rw [unifyLineEnds.eq_def]
      split
      · next same => simp at same
      · next same => exact absurd (List.cons.inj same).1.symm noReturn.1
      · next same => exact absurd (List.cons.inj same).1.symm noReturn.1
      · next same =>
        rcases List.cons.inj same with ⟨rfl, rfl⟩
        rw [ih noReturn.2]

namespace Disk

variable {disk after : Disk} {place : List String} {path : Path}

/-- A path that every text can be written to, once the folders above it are made. -/
def Writable (disk : Disk) (path : Path) : Prop :=
  ∃ after, disk.makeParent path = .ok after ∧
    ∀ text, ∃ written, after.writeText path text = (written, none)

theorem not_given_of_no_folder (noFolder : disk.at? place ≠ some .folder) :
    ¬ isGiven place = true := by
  intro given
  exact noFolder (by rw [at?, if_pos given])

theorem at?_put_self (noFolder : disk.at? place ≠ some .folder) (entry : Entry) :
    (disk.put place entry).at? place = some entry := by
  rw [at?, if_neg (not_given_of_no_folder noFolder), put, Keyed.get?_put_self]

theorem at?_put_of_ne {other : List String} (different : other ≠ place) (entry : Entry) :
    (disk.put place entry).at? other = disk.at? other := by
  rw [at?, at?, put, Keyed.get?_put_of_ne different]

@[simp] theorem isClosed_put (disk : Disk) (place : List String) (entry : Entry)
    (other : List String) : (disk.put place entry).isClosed other = disk.isClosed other := rfl

/-- Only a folder can be left. -/
theorem folder_of_barred?_eq_none {step : String} (free : disk.barred? place step = none) :
    disk.at? place = some .folder := by
  rw [barred?] at free
  split at free
  · cases free
  · next isFolder => exact isFolder
  · cases free

theorem barred?_put_of_ne {other : List String} (different : other ≠ place) (entry : Entry)
    (step : String) : (disk.put place entry).barred? other step = disk.barred? other step := by
  rw [barred?, barred?, at?_put_of_ne different, isClosed_put]

/-- A walk leads through folders only, so it does not notice what is put where
no folder stands. -/
theorem walk_put (noFolder : disk.at? place ≠ some .folder) (entry : Entry)
    {start steps target : List String} (walked : disk.walk start steps = .ok target) :
    (disk.put place entry).walk start steps = .ok target := by
  induction steps generalizing start with
  | nil => exact walked
  | cons step steps ih =>
      rw [walk] at walked ⊢
      split at walked
      · cases walked
      · next free =>
        have different : start ≠ place := by
          rintro rfl
          exact noFolder (folder_of_barred?_eq_none free)
        rw [barred?_put_of_ne different, free]
        exact ih walked

/-- A path leads where its steps lead, when it is not too long. -/
theorem place_eq_ok_iff {target : List String} :
    disk.place path = .ok target ↔
      path.text.utf8ByteSize ≤ pathLimit ∧ disk.walk path.start.1 path.start.2 = .ok target := by
  rw [Disk.place]
  split
  · next long => simp [Nat.not_le.mpr long]
  · next short => simp [Nat.not_lt.mp short]

theorem place_put (noFolder : disk.at? place ≠ some .folder) (entry : Entry)
    {target : List String} (leads : disk.place path = .ok target) :
    (disk.put place entry).place path = .ok target := by
  rcases place_eq_ok_iff.mp leads with ⟨short, walked⟩
  exact place_eq_ok_iff.mpr ⟨short, walk_put noFolder entry walked⟩

/-- A path that leads somewhere finds what stands there, if it is not closed. -/
theorem find_eq_ok_iff (leads : disk.place path = .ok place) {entry : Entry} :
    disk.find path = .ok entry ↔ disk.isClosed place = false ∧ disk.at? place = some entry := by
  rw [find, leads]
  simp only [bind, Except.bind]
  cases disk.isClosed place <;> cases disk.at? place <;>
    simp [throw, throwThe, MonadExceptOf.throw, pure, Except.pure]

/-- Where a path leads to an open place without a folder, a text is written, as far
as there is room for it. -/
theorem writeText_of_place {text : String} (leads : disk.place path = .ok place)
    (isOpen : disk.isClosed place = false) (noFolder : disk.at? place ≠ some .folder) :
    disk.writeText path text =
      if disk.lacksRoom text then (disk.put place (.text (disk.cut text)), some ⟨.full, path⟩)
      else (disk.put place (.text text), none) := by
  rw [writeText, leads]
  simp only [isOpen, Bool.false_eq_true, if_false]

/-- A path that leads to no such place is refused. -/
theorem writeText_of_unbegun (text : String)
    (never : ¬ ∃ place, disk.place path = .ok place ∧ disk.isClosed place = false ∧
      disk.at? place ≠ some .folder) :
    ∃ refusal, disk.writeText path text = (disk, some refusal) := by
  cases leads : disk.place path with
  | error trouble => exact ⟨_, by rw [writeText, leads]⟩
  | ok place =>
      rw [writeText, leads]
      cases isOpen : disk.isClosed place with
      | true => exact ⟨⟨.denied, path⟩, by simp [isOpen]⟩
      | false =>
          by_cases isFolder : disk.at? place = some .folder
          · exact ⟨⟨.isFolder, path⟩, by simp [isOpen, isFolder]⟩
          · exact absurd ⟨place, leads, isOpen, isFolder⟩ never

/-- A text is written wherever no folder stands, nothing is closed and there is room
for it. -/
theorem writeText_eq_iff {text : String} :
    disk.writeText path text = (after, none) ↔
      ∃ place, disk.place path = .ok place ∧ disk.isClosed place = false ∧
        disk.at? place ≠ some .folder ∧ disk.lacksRoom text = false ∧
        disk.put place (.text text) = after := by
  constructor
  · intro written
    rw [writeText] at written
    split at written
    · cases written
    · next place leads =>
      cases closed : disk.isClosed place with
      | true => simp [closed] at written
      | false =>
          simp only [closed, Bool.false_eq_true, if_false] at written
          split at written
          · cases written
          · next noFolder =>
            split at written
            · cases written
            · next room =>
              exact ⟨place, leads, closed, noFolder, Bool.eq_false_iff.mpr room,
                (Prod.mk.inj written).1⟩
  · rintro ⟨place, leads, isOpen, noFolder, room, rfl⟩
    rw [writeText_of_place leads isOpen noFolder, room]
    rfl

/-- A text that was written stands where its path leads. -/
theorem find_of_writeText {text : String} (written : disk.writeText path text = (after, none)) :
    after.find path = .ok (.text text) := by
  rcases writeText_eq_iff.mp written with ⟨place, leads, isOpen, noFolder, -, rfl⟩
  exact (find_eq_ok_iff (place_put noFolder _ leads)).mpr ⟨isOpen, at?_put_self noFolder _⟩

/-- What is found is seen. -/
theorem look_of_find {entry : Entry} (found : disk.find path = .ok entry) :
    disk.look path = .ok true := by
  cases leads : disk.place path with
  | error trouble => simp [find, leads, bind, Except.bind] at found
  | ok place =>
      rw [look, leads]
      simp [((find_eq_ok_iff leads).mp found).2]

theorem contains_of_writeText {text : String} (written : disk.writeText path text = (after, none)) :
    after.contains path = true := by
  rw [contains, look_of_find (find_of_writeText written)]

/-- A text without carriage returns is read as it was written. -/
theorem readText_of_writeText {text : String} (written : disk.writeText path text = (after, none))
    (noReturn : '\r' ∉ text.toList) : after.readText path = .ok text := by
  rw [readText, find_of_writeText written]
  dsimp only
  rw [Text.unifyLineEnds_of_not_mem noReturn, String.ofList_toList]

end Disk

end PromptDispatch
