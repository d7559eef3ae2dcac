import PageCache.FileSystem.Basic

/-!
# Where paths lead

A path that leads to a regular file leads there as long as folders stay what they are and no file
goes away. Main statement: a path that was just opened leads to the file that was opened, and leads
there still in every file system that has grown from that one.
-/

namespace PageCache.FileSystem

variable {before middle after : FileSystem} {path : String} {place : Location}

/-- The folders are the same and no file has gone. -/
structure Grows (before after : FileSystem) : Prop where
  /-- The same folders are there. -/
  folders : after.folders = before.folders
  /-- Relative paths start in the same folder. -/
  working : after.working = before.working
  /-- Every file is there still. -/
  files : ∀ place, before.files.contains place = true → after.files.contains place = true

/-- Opening the path gives the file in this place, and makes none. -/
def Leads (system : FileSystem) (path : String) (place : Location) : Prop :=
  system.openOrCreate path = .ok (.regular place, system)

namespace Grows

theorem refl (system : FileSystem) : system.Grows system := ⟨rfl, rfl, fun _ => id⟩

theorem trans (early : before.Grows middle) (late : middle.Grows after) : before.Grows after :=
  ⟨late.folders.trans early.folders, late.working.trans early.working,
    fun place present => late.files place (early.files place present)⟩

/-- A name that stands for something stands for it still. -/
theorem stands (grows : before.Grows after) {folder : Folder} {name : String} {entry : Entry}
    (found : before.entry? folder name = some entry) :
    after.entry? folder name = some entry := by
  simp only [ FileSystem.entry?, grows.folders] at found ⊢
  split at found
  · next isFolder => rwa [if_pos isFolder]
  · next noFolder =>
    rw [if_neg noFolder]
    split at found
    · next device => rwa [if_pos device]
    · next noDevice =>
      rw [if_neg noDevice]
      split at found
      · next present => rwa [if_pos (grows.files _ present)]
      · cases found

theorem enter (grows : before.Grows after) {folder next : Folder} {name : String}
    (found : before.enter folder name = .ok next) : after.enter folder name = .ok next := by
  simp only [FileSystem.enter] at found ⊢
  split at found
  · next here => rwa [if_pos here]
  · next moves =>
    rw [if_neg moves]
    split at found
    · next up => rwa [if_pos up]
    · next down =>
      rw [if_neg down]
      split at found
      · cases found
      · next short =>
        rw [if_neg short]
        split at found
        · next entry => rwa [grows.stands entry]
        · cases found
        · cases found

theorem walk (grows : before.Grows after) {start last : Folder} {names : List String}
    (found : before.walk start names = .ok last) : after.walk start names = .ok last := by
  simp only [FileSystem.walk] at found ⊢
  induction names generalizing start with
  | nil => exact found
  | cons name rest induction =>
      simp only [List.foldlM_cons, bind, Except.bind] at found ⊢
      split at found
      · cases found
      · next entered =>
        rw [grows.enter entered]
        exact induction found

theorem resolve (grows : before.Grows after) {destination : Destination}
    (found : before.resolve path = .ok destination) : after.resolve path = .ok destination := by
  simp only [FileSystem.resolve, bind, Except.bind, pure, Except.pure, throw, throwThe,
    MonadExceptOf.throw, grows.working] at found ⊢
  split at found
  · cases found
  · next legible =>
    rw [if_neg legible]
    split at found
    · cases found
    · next named =>
      rw [if_neg named]
      split at found
      · cases found
      · next short =>
        rw [if_neg short]
        split
        · next root => rwa [root] at found
        · next last ends =>
          rw [ends] at found
          dsimp only at found
          split at found
          · cases found
          · next folder walked => rwa [grows.walk walked]

end Grows

/-! ## Opening -/

/-- A path is opened if it ends in a name that stands for a file or for nothing yet. -/
theorem openOrCreate_eq_ok_iff {target : Target} :
    before.openOrCreate path = .ok (target, after) ↔
      ∃ spot : Location, before.resolve path = .ok (.named spot false) ∧
        spot.name.utf8ByteSize ≤ nameLimit ∧
        (before.entry? spot.folder spot.name = some (.target target) ∧ after = before ∨
          before.entry? spot.folder spot.name = none ∧ target = .regular spot ∧
            after = before.setBytes spot .empty) := by
  simp only [openOrCreate, bind, Except.bind, pure, Except.pure, throw, throwThe,
    MonadExceptOf.throw]
  constructor
  · intro opened
    split at opened
    · cases opened
    · next destination found =>
      split at opened
      · cases opened
      · cases opened
      · next spot =>
        split at opened
        · cases opened
        · next short =>
          refine ⟨spot, found, Nat.le_of_not_lt short, ?_⟩
          split at opened
          · next free =>
            obtain ⟨rfl, rfl⟩ := Except.ok.inj opened
            exact .inr ⟨free, rfl, rfl⟩
          · cases opened
          · next target stands =>
            obtain ⟨rfl, rfl⟩ := Except.ok.inj opened
            exact .inl ⟨stands, rfl⟩
  · rintro ⟨spot, found, short, ⟨stands, rfl⟩ | ⟨free, rfl, rfl⟩⟩
    · simp only [found, if_neg (Nat.not_lt.mpr short), stands]
    · simp only [found, if_neg (Nat.not_lt.mpr short), free]

theorem grows_setBytes (system : FileSystem) (place : Location) (bytes : Runs) :
    system.Grows (system.setBytes place bytes) where
  folders := rfl
  working := rfl
  files := by
    intro other present
    simp [setBytes, Std.TreeMap.contains_insert, present]

/-- The name of a place at which there are bytes now stands for them. -/
theorem stands_setBytes (free : before.entry? place.folder place.name = none) (bytes : Runs) :
    entry? (before.setBytes place bytes) place.folder place.name =
      some (.target (.regular place)) := by
  have folders : (before.setBytes place bytes).folders = before.folders := rfl
  have present : (before.setBytes place bytes).files.contains place = true := by
    simp [setBytes, Std.TreeMap.contains_insert]
  simp only [ FileSystem.entry?, folders] at free ⊢
  split at free
  · cases free
  · next noFolder =>
    split at free
    · cases free
    · next noDevice => rw [if_neg noFolder, if_neg noDevice, if_pos present]

/-- A path to a free name leads to the file that is put there. -/
theorem leads_setBytes (found : before.resolve path = .ok (.named place false))
    (short : place.name.utf8ByteSize ≤ nameLimit)
    (free : before.entry? place.folder place.name = none) (bytes : Runs) :
    (before.setBytes place bytes).Leads path place :=
  openOrCreate_eq_ok_iff.mpr ⟨place, (before.grows_setBytes place bytes).resolve found, short,
    .inl ⟨stands_setBytes free bytes, rfl⟩⟩

/-- A path that was opened leads to the file that was opened. -/
theorem leads_of_openOrCreate
    (opened : before.openOrCreate path = .ok (.regular place, after)) :
    after.Leads path place := by
  obtain ⟨spot, found, short, ⟨stands, rfl⟩ | ⟨free, target, rfl⟩⟩ :=
    openOrCreate_eq_ok_iff.mp opened
  · exact opened
  · obtain rfl := Target.regular.inj target
    exact leads_setBytes found short free .empty

/-- A path goes on leading to its file as the file system grows. -/
theorem Leads.grows (leads : before.Leads path place) (grows : before.Grows after) :
    after.Leads path place := by
  obtain ⟨spot, found, short, ⟨stands, -⟩ | ⟨free, target, same⟩⟩ :=
    openOrCreate_eq_ok_iff.mp leads
  · exact openOrCreate_eq_ok_iff.mpr
      ⟨spot, grows.resolve found, short, .inl ⟨grows.stands stands, rfl⟩⟩
  · obtain rfl := Target.regular.inj target
    have stands := stands_setBytes free .empty
    rw [← same, free] at stands
    cases stands

/-! ## Transfers -/

theorem grows_note (system : FileSystem) (transfer : Transfer) :
    system.Grows (system.note transfer) := ⟨rfl, rfl, fun _ => id⟩

theorem grows_readAt (system : FileSystem) (target : Target) (offset count : Nat) :
    system.Grows (system.readAt target offset count).2 := by
  simp only [readAt]
  split
  · exact system.grows_note _
  · split
    · exact system.grows_note _
    · exact system.grows_note _
  · exact system.grows_note _

theorem grows_writeAt (system : FileSystem) (target : Target) (offset : Nat)
    (news : Array UInt8) : system.Grows (system.writeAt target offset news).2 := by
  have spliced : ∀ place news,
      system.Grows ((system.note (.write target offset news.size)).splice place offset news) :=
    fun place news => (system.grows_note _).trans (grows_setBytes _ place _)
  simp only [writeAt]
  split
  · exact spliced _ news
  · exact system.grows_note _
  · exact (system.grows_note _).trans (grows_setBytes _ _ _)
  · exact system.grows_note _

end PageCache.FileSystem
