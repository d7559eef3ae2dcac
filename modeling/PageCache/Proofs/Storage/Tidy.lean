import PageCache.Proofs.Storage.Contents

/-!
# Tidy storages

A storage is tidy if the books of every file are those of the bytes below it and no two files keep
their pages in one place. Main statements: every request keeps a tidy storage tidy and has an effect
on the contents of one page at most; opening files one after the other, no two in one place, gives a
tidy storage.
-/

namespace PageCache

namespace FileSystem

variable {system after : FileSystem}

theorem bytesAt_of_entry? {folder : Folder} {name : String}
    (free : system.entry? folder name = none) : system.bytesAt ⟨folder, name⟩ = .empty := by
  simp only [ entry?] at free
  split at free
  · cases free
  · split at free
    · cases free
    · split at free
      · cases free
      · next absent =>
        exact Std.TreeMap.getD_eq_fallback_of_contains_eq_false (Bool.eq_false_iff.mpr absent)

/-- Opening a file changes no bytes, for a file that is made is empty. -/
theorem same_of_openOrCreate {path : String} {target : Target}
    (opened : system.openOrCreate path = .ok (target, after)) (place : Location) :
    after.bytesAt place = system.bytesAt place := by
  simp only [openOrCreate, bind, Except.bind] at opened
  split at opened
  · cases opened
  · split at opened
    · cases opened
    · cases opened
    · split at opened
      · cases opened
      · split at opened
        · next free =>
          obtain ⟨rfl, rfl⟩ := Except.ok.inj opened
          rw [bytesAt_setBytes]
          split
          · next equal => rw [← equal, ← bytesAt_of_entry? free]
          · rfl
        · cases opened
        · obtain ⟨rfl, rfl⟩ := Except.ok.inj opened
          rfl

end FileSystem

/-- The books of a file that was just opened are those of the bytes below it. -/
theorem DiskBacking.fits_openAt {system after : FileSystem} {path : String} {file : DiskBacking}
    (opened : openAt system path = .ok (file, after)) :
    file.Fits after ∧ ∀ place, after.bytesAt place = system.bytesAt place := by
  simp only [openAt] at opened
  cases created : system.openOrCreate path with
  | error cause => simp [created, Except.map] at opened
  | ok made =>
      rw [created] at opened
      obtain ⟨rfl, rfl⟩ := Except.ok.inj opened
      refine ⟨⟨Nat.div_mul_le_self _ _, fun page gone => ?_⟩,
        FileSystem.same_of_openOrCreate created⟩
      simp at gone

namespace Storage

/-- A file that is opened has no deleted pages. -/
theorem openDisk_of_made {storage : Storage} {path : String} {target : Target}
    {system : FileSystem} (made : storage.system.openOrCreate path = .ok (target, system)) :
    let file : DiskBacking := ⟨path, target, system.size target / pageSize, ∅⟩
    storage.openDisk path = .ok
      (⟨storage.opened + 1⟩, file, (({ storage with system } : Storage).add (.disk file)).2) := by
  simp only [openDisk, DiskBacking.openAt, made, Except.map]
  rfl

/-- What a file that is opened comes from. -/
theorem made_of_openDisk {storage opened : Storage} {path : String} {id : FileIdentity}
    {held : DiskBacking} (given : storage.openDisk path = .ok (id, held, opened)) :
    ∃ target system, storage.system.openOrCreate path = .ok (target, system) ∧
      id = ⟨storage.opened + 1⟩ ∧ held = ⟨path, target, system.size target / pageSize, ∅⟩ ∧
      opened = (({ storage with system } : Storage).add (.disk held)).2 := by
  cases made : storage.system.openOrCreate path with
  | error cause => simp [openDisk, DiskBacking.openAt, made, Except.map] at given
  | ok answer =>
      obtain ⟨target, system⟩ := answer
      rw [openDisk_of_made made] at given
      obtain ⟨rfl, rfl, rfl⟩ := given
      exact ⟨target, system, rfl, rfl, rfl, rfl⟩

/-- The bytes of a page, if its file has it. -/
def data? (storage : Storage) (key : PageKey) : Option PageData :=
  (storage.file key.file).data? storage.system key.page

/-- The files are in order and do not get in each other's way. -/
structure Tidy (storage : Storage) : Prop where
  /-- The books of every file are those of the bytes below it. -/
  fits : ∀ id, (storage.file id).Fits storage.system
  /-- No two files are in one place. -/
  apart : ∀ first second place, (storage.file first).place? = some place →
    (storage.file second).place? = some place → first = second

/-- The contents of all pages but one are as they were. -/
structure Spares (before after : Storage) (key : PageKey) : Prop where
  /-- The files are in order. -/
  tidy : after.Tidy
  /-- The other pages are as they were. -/
  others : ∀ other, other ≠ key → after.data? other = before.data? other
  /-- The same faults are foreseen. -/
  faults : after.system.faults = before.system.faults

variable {storage : Storage}

theorem data?_settle (storage : Storage) (id : FileIdentity) (request : Request)
    (served : Served Answer) (page : Nat) :
    (storage.settle id request served).data? ⟨id, page⟩ =
      served.file.data? served.system page := by
  simp only [data?, file_settle, if_pos]
  rfl

namespace Tidy

/-- A request that spares the other pages of its file spares those of the other files as well. -/
theorem settle (tidy : storage.Tidy) {id : FileIdentity} {served : Served Answer} {page : Nat}
    (request : Request) (spares : served.Spares (storage.file id) storage.system page) :
    storage.Spares (storage.settle id request served) ⟨id, page⟩ := by
  have kept : ∀ other, other ≠ id → ∀ place, (storage.file other).place? = some place →
      served.system.bytesAt place = storage.system.bytesAt place := by
    intro other different place held
    refine spares.elsewhere place fun own => different ?_
    exact tidy.apart other id place held own
  have place : ∀ other, ((storage.settle id request served).file other).place? =
      (storage.file other).place? := by
    intro other
    rw [file_settle]
    split
    · next equal => rw [spares.place, equal]
    · rfl
  refine ⟨⟨fun other => ?_, fun first second spot left right => ?_⟩, fun other different => ?_,
    spares.faults⟩
  · rw [file_settle]
    split
    · exact spares.fits
    · next elsewhere => exact Backing.fits_congr (kept other (Ne.symm elsewhere)) (tidy.fits other)
  · rw [place] at left right
    exact tidy.apart first second spot left right
  · simp only [data?, file_settle]
    split
    · next equal =>
      obtain ⟨file, number⟩ := other
      obtain rfl : id = file := equal
      refine spares.others number fun same => different ?_
      rw [same]
    · next elsewhere => exact Backing.data?_congr (kept other.file (Ne.symm elsewhere)) other.page

/-- A read changes no contents. -/
theorem read (tidy : storage.Tidy) (id : FileIdentity) (page : Nat) :
    (storage.read id page).2.Tidy ∧
      (∀ key, (storage.read id page).2.data? key = storage.data? key) ∧
      (storage.read id page).2.system.faults = storage.system.faults := by
  obtain ⟨spares, own⟩ := Backing.spares_read (tidy.fits id) page page
  have spared := tidy.settle (.read page) spares
  refine ⟨spared.tidy, fun key => ?_, spared.faults⟩
  by_cases same : key = ⟨id, page⟩
  · rw [same]
    exact (data?_settle storage id (.read page) _ page).trans own
  · exact spared.others key same

/-- A read gives the contents, unless there is no such page or a fault is foreseen. -/
theorem answer_read (tidy : storage.Tidy) (key : PageKey) :
    (∃ data, storage.data? key = some data ∧
        (storage.read key.file key.page).1 = .ok ⟨key.page, data⟩) ∨
      (storage.data? key = none ∧
        (storage.read key.file key.page).1 = .error (.pageNotFound key)) ∨
      ((storage.data? key).isSome ∧ ∃ fault, storage.system.fault? = some fault ∧
        (storage.read key.file key.page).1 = .error (.system fault.cause)) :=
  Backing.read_cases (tidy.fits key.file) key.page

/-- A write sets the contents of its page if it succeeds, and keeps the page in any case. -/
theorem write (tidy : storage.Tidy) (id : FileIdentity) (page : Page) :
    storage.Spares (storage.write id page).2 ⟨id, page.number⟩ ∧
      ((storage.write id page).2.data? ⟨id, page.number⟩).isSome =
        (storage.data? ⟨id, page.number⟩).isSome ∧
      ((storage.write id page).1 = .ok () →
        (storage.write id page).2.data? ⟨id, page.number⟩ = some page.data) := by
  obtain ⟨spares, kept, taken⟩ := Backing.write_cases (tidy.fits id) page
  refine ⟨tidy.settle (.write page) spares, ?_, fun done => ?_⟩
  · rw [Storage.write, data?_settle]
    exact kept
  · rw [Storage.write, data?_settle]
    exact taken done

/-- A new page is zero and was not there before; a failing allocation changes no contents. -/
theorem allocate (tidy : storage.Tidy) (id : FileIdentity) :
    storage.Spares (storage.allocate id).2 ⟨id, storage.next id⟩ ∧
      storage.data? ⟨id, storage.next id⟩ = none ∧
      (storage.allocate id).2.data? ⟨id, storage.next id⟩ =
        match (storage.allocate id).1 with
        | .ok _ => some .zero
        | .error _ => none := by
  obtain ⟨spares, absent, own⟩ := Backing.contents_allocate (tidy.fits id)
  exact ⟨tidy.settle .allocate spares, absent, (data?_settle storage id .allocate _ _).trans own⟩

/-- A page is deleted exactly if it was there. -/
theorem delete (tidy : storage.Tidy) (key : PageKey) :
    storage.Spares (storage.delete key.file key.page).2 key ∧
      (storage.delete key.file key.page).2.data? key = none ∧
      (((storage.data? key).isSome ∧ (storage.delete key.file key.page).1 = .ok ()) ∨
        (storage.data? key = none ∧
          (storage.delete key.file key.page).1 = .error (.pageNotFound key))) := by
  obtain ⟨spares, gone | refused⟩ := Backing.delete_cases (tidy.fits key.file) key.page
  · exact ⟨tidy.settle (.delete key.page) spares,
      (data?_settle storage key.file (.delete key.page) _ key.page).trans gone.2.2,
      .inl ⟨gone.1, gone.2.1⟩⟩
  · exact ⟨tidy.settle (.delete key.page) spares,
      (data?_settle storage key.file (.delete key.page) _ key.page).trans refused.2.2,
      .inr ⟨refused.1, refused.2.1⟩⟩

/-! ## Opening files -/

/-- A file whose books are in order can be added in a place of its own. -/
theorem add (tidy : storage.Tidy) {file : Backing} (fits : file.Fits storage.system)
    (alone : ∀ id place, file.place? = some place → (storage.file id).place? ≠ some place) :
    (storage.add file).2.Tidy where
  fits := by
    intro id
    rw [file_add]
    split
    · exact fits
    · exact tidy.fits id
  apart := by
    intro first second place left right
    rw [file_add] at left right
    split at left
    · split at right
      · next one two => exact one.symm.trans two
      · exact absurd right (alone second place left)
    · split at right
      · exact absurd left (alone first place right)
      · exact tidy.apart first second place left right

theorem empty (system : FileSystem) : ({ Storage.empty with system } : Storage).Tidy where
  fits := by simp [Storage.file, Storage.empty, Backing.Fits]
  apart := by simp [Storage.file, Storage.empty, Backing.place?]

/-- A file on disk can be opened in a place of its own. -/
theorem openDisk (tidy : storage.Tidy) {path : String} {id : FileIdentity} {file : DiskBacking}
    {later : Storage} (opened : storage.openDisk path = .ok (id, file, later))
    (alone : ∀ other place, (Backing.disk file).place? = some place →
      (storage.file other).place? ≠ some place) : later.Tidy := by
  simp only [Storage.openDisk] at opened
  cases made : DiskBacking.openAt storage.system path with
  | error cause => simp [made] at opened
  | ok answer =>
      obtain ⟨held, system⟩ := answer
      obtain ⟨fits, same⟩ := DiskBacking.fits_openAt made
      have moved : ({ storage with system } : Storage).Tidy :=
        ⟨fun other => Backing.fits_congr (fun place _ => same place) (tidy.fits other), tidy.apart⟩
      simp only [made, Except.ok.injEq, Prod.mk.injEq] at opened
      obtain ⟨-, rfl, rfl⟩ := opened
      exact moved.add fits alone

end Tidy

/-- The storages that come of opening files, no two of them in one place, and of requests to
them. -/
inductive Opened : Storage → Prop where
  /-- No file is open yet. -/
  | start (system : FileSystem) : Opened { Storage.empty with system }
  /-- A file in memory is opened. -/
  | memory {storage : Storage} (earlier : Opened storage) (file : MemoryBacking) :
    Opened (storage.add (.memory file)).2
  /-- A file in memory that counts its requests is opened. -/
  | counted {storage : Storage} (earlier : Opened storage) (file : CountedBacking) :
    Opened (storage.add (.counted file)).2
  /-- A file on disk is opened in a place of its own. -/
  | disk {storage later : Storage} {path : String} {id : FileIdentity} {file : DiskBacking}
    (earlier : Opened storage) (opened : storage.openDisk path = .ok (id, file, later))
    (alone : ∀ other place, (Backing.disk file).place? = some place →
      (storage.file other).place? ≠ some place) : Opened later
  /-- A page is read. -/
  | read {storage : Storage} (earlier : Opened storage) (id : FileIdentity) (page : Nat) :
    Opened (storage.read id page).2
  /-- The bytes of a page are replaced. -/
  | write {storage : Storage} (earlier : Opened storage) (id : FileIdentity) (page : Page) :
    Opened (storage.write id page).2
  /-- A page is appended. -/
  | allocate {storage : Storage} (earlier : Opened storage) (id : FileIdentity) :
    Opened (storage.allocate id).2
  /-- A page is deleted. -/
  | delete {storage : Storage} (earlier : Opened storage) (key : PageKey) :
    Opened (storage.delete key.file key.page).2

/-- Whether or not the requests succeed, the files stay in order and out of each other's way. -/
theorem Opened.tidy (opened : storage.Opened) : storage.Tidy := by
  induction opened with
  | start system => exact .empty system
  | memory _ file induction => exact induction.add trivial (by simp [Backing.place?])
  | counted _ file induction => exact induction.add trivial (by simp [Backing.place?])
  | disk _ opened alone induction => exact induction.openDisk opened alone
  | read _ id page induction => exact (induction.read id page).1
  | write _ id page induction => exact (induction.write id page).1.tidy
  | allocate _ id induction => exact (induction.allocate id).1.tidy
  | delete _ key induction => exact (induction.delete key).1.tidy

end Storage

end PageCache
