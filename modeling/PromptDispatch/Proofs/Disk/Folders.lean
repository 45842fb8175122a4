import PromptDispatch.Proofs.Disk.Writing
import PromptDispatch.Proofs.Keyed

/-!
# Folders on the way to a path

Making the folders above a path puts folders where nothing stood and touches
nothing else, also where it is refused halfway.  Once it has succeeded, making the
folders again changes nothing.
-/

namespace PromptDispatch.Disk

variable {before between after disk : Disk} {place : List String} {path : Path}

/-- What stands somewhere stays, and where nothing stood there may be a folder. -/
def GainsFolders (before after : Disk) : Prop :=
  ∀ place, after.at? place = before.at? place ∨
    before.at? place = none ∧ after.at? place = some .folder

namespace GainsFolders

theorem refl (disk : Disk) : GainsFolders disk disk := fun _ => .inl rfl

theorem trans (first : GainsFolders before between) (second : GainsFolders between after) :
    GainsFolders before after := by
  intro place
  rcases first place with same | ⟨absent, isFolder⟩
  · rcases second place with stays | ⟨absent, isFolder⟩
    · exact .inl (stays.trans same)
    · exact .inr ⟨same ▸ absent, isFolder⟩
  · rcases second place with stays | ⟨gone, -⟩
    · exact .inr ⟨absent, stays.trans isFolder⟩
    · rw [isFolder] at gone
      cases gone

/-- Nothing but a folder is new. -/
theorem at?_eq_of_ne_folder (gains : GainsFolders before after)
    (noFolder : after.at? place ≠ some .folder) : before.at? place = after.at? place := by
  rcases gains place with same | ⟨-, isFolder⟩
  · exact same.symm
  · exact absurd isFolder noFolder

end GainsFolders

theorem gainsFolders_put (absent : disk.at? place = none) :
    GainsFolders disk (disk.put place .folder) := by
  have noFolder : disk.at? place ≠ some .folder := by simp [absent]
  intro other
  by_cases same : other = place
  · subst same
    exact .inr ⟨absent, at?_put_self noFolder .folder⟩
  · exact .inl (at?_put_of_ne same .folder)

/-- A folder is made where nothing stands, and left alone where it is. -/
theorem makeFolder_cases (made : disk.makeFolder path = .ok after) :
    ∃ place, disk.place path = .ok place ∧
      (disk.at? place = none ∧ after = disk.put place .folder ∨
        disk.at? place = some .folder ∧ after = disk) := by
  rw [makeFolder] at made
  split at made
  · cases made
  · next place leads =>
    refine ⟨place, leads, ?_⟩
    split at made
    · next absent => exact .inl ⟨absent, (Except.ok.inj made).symm⟩
    · next isFolder => exact .inr ⟨isFolder, (Except.ok.inj made).symm⟩
    · cases made

/-- A folder that was made stands where its path leads. -/
theorem exists_folder_of_makeFolder (made : disk.makeFolder path = .ok after) :
    ∃ place, after.place path = .ok place ∧ after.at? place = some .folder := by
  rcases makeFolder_cases made with ⟨place, leads, ⟨absent, rfl⟩ | ⟨isFolder, rfl⟩⟩
  · have noFolder : disk.at? place ≠ some .folder := by simp [absent]
    exact ⟨place, place_put noFolder .folder leads, at?_put_self noFolder .folder⟩
  · exact ⟨place, leads, isFolder⟩

theorem gainsFolders_tryFolder (disk : Disk) (path : Path) :
    GainsFolders disk (disk.tryFolder path).1 := by
  rw [tryFolder]
  split
  · next made =>
    rcases makeFolder_cases made with ⟨place, -, ⟨absent, rfl⟩ | ⟨-, rfl⟩⟩
    · exact gainsFolders_put absent
    · exact .refl _
  · exact .refl disk

theorem gainsFolders_tryFolders (above : Nat) (disk : Disk) (path : Path) :
    GainsFolders disk (disk.tryFolders above path).1 := by
  induction above generalizing disk path with
  | zero => exact gainsFolders_tryFolder disk path
  | succ above ih =>
      have first := gainsFolders_tryFolder disk path
      rw [tryFolders]
      split
      · next between _ tried =>
        rw [tried] at first
        have parents := ih between path.parent
        split
        · next made =>
          rw [made] at parents
          exact (first.trans parents).trans (gainsFolders_tryFolder _ path)
        · exact first.trans parents
      · exact first

/-- Trying to make the folders above a path makes folders only. -/
theorem gainsFolders_approach (disk : Disk) (path : Path) :
    GainsFolders disk (disk.approach path).1 :=
  gainsFolders_tryFolders _ disk path.parent

theorem room_tryFolder (disk : Disk) (path : Path) : (disk.tryFolder path).1.room = disk.room := by
  rw [tryFolder]
  split
  · next made =>
    rcases makeFolder_cases made with ⟨place, -, ⟨-, rfl⟩ | ⟨-, rfl⟩⟩ <;> rfl
  · rfl

theorem room_tryFolders (above : Nat) (disk : Disk) (path : Path) :
    (disk.tryFolders above path).1.room = disk.room := by
  induction above generalizing disk path with
  | zero => exact room_tryFolder disk path
  | succ above ih =>
      have first := room_tryFolder disk path
      rw [tryFolders]
      split
      · next between _ tried =>
        rw [tried] at first
        have parents := ih between path.parent
        split
        · next made =>
          rw [made] at parents
          exact ((room_tryFolder _ path).trans parents).trans first
        · exact parents.trans first
      · exact first

/-- A folder that nothing refuses is there in the end. -/
theorem exists_folder_of_tryFolders {above : Nat}
    (made : disk.tryFolders above path = (after, none)) :
    ∃ place, after.place path = .ok place ∧ after.at? place = some .folder := by
  have of_tryFolder : ∀ {start : Disk}, start.tryFolder path = (after, none) →
      ∃ place, after.place path = .ok place ∧ after.at? place = some .folder := by
    intro start tried
    rw [tryFolder] at tried
    split at tried
    · next succeeded =>
      obtain rfl : _ = after := congrArg Prod.fst tried
      exact exists_folder_of_makeFolder succeeded
    · cases congrArg Prod.snd tried
  cases above with
  | zero => exact of_tryFolder made
  | succ above =>
      rw [tryFolders] at made
      split at made
      · split at made
        · exact of_tryFolder made
        · next refused => exact absurd made (by simpa using refused after)
      · exact of_tryFolder made

theorem tryFolders_of_folder (leads : disk.place path = .ok place)
    (isFolder : disk.at? place = some .folder) (above : Nat) :
    disk.tryFolders above path = (disk, none) := by
  have tried : disk.tryFolder path = (disk, none) := by
    rw [tryFolder, makeFolder, leads]
    dsimp only
    rw [isFolder]
  cases above with
  | zero => exact tried
  | succ above =>
      rw [tryFolders, tried]

theorem makeParent_eq_ok_iff :
    disk.makeParent path = .ok after ↔ disk.approach path = (after, none) := by
  rw [makeParent]
  split
  · next made => simp [made]
  · next refused => simp [refused]

theorem gainsFolders_makeParent (made : disk.makeParent path = .ok after) :
    GainsFolders disk after := by
  have gains := gainsFolders_approach disk path
  rwa [makeParent_eq_ok_iff.mp made] at gains

theorem room_makeParent (made : disk.makeParent path = .ok after) : after.room = disk.room := by
  have room := room_tryFolders path.steps.length disk path.parent
  rwa [← approach, makeParent_eq_ok_iff.mp made] at room

/-- The folder a path lies in stands where it was made. -/
theorem exists_folder_of_makeParent (made : disk.makeParent path = .ok after) :
    ∃ place, after.place path.parent = .ok place ∧ after.at? place = some .folder :=
  exists_folder_of_tryFolders (makeParent_eq_ok_iff.mp made)

theorem makeParent_of_folder (leads : disk.place path.parent = .ok place)
    (isFolder : disk.at? place = some .folder) : disk.makeParent path = .ok disk :=
  makeParent_eq_ok_iff.mpr (tryFolders_of_folder leads isFolder _)

/-- Folders that are there are not made anew. -/
theorem makeParent_again (made : disk.makeParent path = .ok after) :
    after.makeParent path = .ok after := by
  rcases exists_folder_of_makeParent made with ⟨parent, leads, isFolder⟩
  exact makeParent_of_folder leads isFolder

/-- Nothing that is put beside the folders on the way makes them anew. -/
theorem makeParent_put (made : disk.makeParent path = .ok after)
    (noFolder : after.at? place ≠ some .folder) (entry : Entry) :
    (after.put place entry).makeParent path = .ok (after.put place entry) := by
  rcases exists_folder_of_makeParent made with ⟨parent, leads, isFolder⟩
  have different : parent ≠ place := by
    rintro rfl
    exact noFolder isFolder
  apply makeParent_of_folder (place_put noFolder entry leads)
  rw [at?_put_of_ne different, isFolder]

/-- What stands at a place may be put there again. -/
theorem put_of_at? {entry : Entry} (stands : disk.at? place = some entry)
    (noFolder : disk.at? place ≠ some .folder) : disk.put place entry = disk := by
  rw [at?, if_neg (not_given_of_no_folder noFolder)] at stands
  rw [put, Keyed.put_of_get? stands]

end PromptDispatch.Disk
