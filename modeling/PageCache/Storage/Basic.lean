import PageCache.Storage.Backing

/-!
# Storage

The storage holds every open file under its identity, and the file system below the files on disk.
Identities are given out once, from one on. Every request to a file is noted in a journal together
with whether it succeeded, so that one can say which requests an operation made.
-/

namespace PageCache

/-- What was asked of a file of pages. -/
inductive Request where
  /-- Read a page. -/
  | read (page : Nat)
  /-- Replace the bytes of a page. -/
  | write (page : Page)
  /-- Append a new page. -/
  | allocate
  /-- Delete a page. -/
  | delete (page : Nat)
deriving DecidableEq, Repr

/-- A request to one file, and whether it succeeded. -/
structure Call where
  /-- The file that was asked. -/
  file : FileIdentity
  /-- What was asked. -/
  request : Request
  /-- Whether the file did it. -/
  succeeded : Bool
deriving DecidableEq, Repr

/-- The open files and the file system below them. -/
structure Storage where
  /-- The open files. -/
  files : Std.TreeMap FileIdentity Backing
  /-- The number of files opened so far. -/
  opened : Nat
  /-- The file system. -/
  system : FileSystem
  /-- The requests so far, the oldest first. -/
  calls : Array Call

namespace Storage

/-- The storage before any file is opened. -/
def empty : Storage := ⟨∅, 0, .empty, #[]⟩

/-- The file of an identity; one that was not given out stands for a memory file without pages. -/
def file (storage : Storage) (id : FileIdentity) : Backing :=
  storage.files.getD id (.memory (.empty ""))

/-- The identity of a new file, and the storage with that file. -/
def add (storage : Storage) (file : Backing) : FileIdentity × Storage :=
  (⟨storage.opened + 1⟩,
    { storage with
      files := storage.files.insert ⟨storage.opened + 1⟩ file
      opened := storage.opened + 1 })

/-- Opens a disk file under a path. A failure gives out no identity. -/
def openDisk (storage : Storage) (path : String) :
    Except BackingError (FileIdentity × DiskBacking × Storage) :=
  match DiskBacking.openAt storage.system path with
  | .error cause => .error (.system cause)
  | .ok (file, system) =>
    let added := { storage with system }.add (.disk file)
    .ok (added.1, file, added.2)

/-- The storage after a file has answered a request. -/
def settle (storage : Storage) (id : FileIdentity) (request : Request) (served : Served Answer) :
    Storage :=
  { storage with
    files := storage.files.insert id served.file
    system := served.system
    calls := storage.calls.push ⟨id, request, served.answer.isOk⟩ }

/-- Reads a page of a file. -/
def read (storage : Storage) (id : FileIdentity) (page : Nat) :
    Except BackingError Page × Storage :=
  let served := (storage.file id).read id page storage.system
  (served.answer, storage.settle id (.read page) served)

/-- Replaces the bytes of a page of a file. -/
def write (storage : Storage) (id : FileIdentity) (page : Page) :
    Except BackingError Unit × Storage :=
  let served := (storage.file id).write id page storage.system
  (served.answer, storage.settle id (.write page) served)

/-- Appends a new zero page to a file. -/
def allocate (storage : Storage) (id : FileIdentity) : Except BackingError Page × Storage :=
  let served := (storage.file id).allocate storage.system
  (served.answer, storage.settle id .allocate served)

/-- Deletes a page of a file. -/
def delete (storage : Storage) (id : FileIdentity) (page : Nat) :
    Except BackingError Unit × Storage :=
  let served := (storage.file id).delete id page storage.system
  (served.answer, storage.settle id (.delete page) served)

/-- Reads pages of a file one after the other, each of which may fail. -/
def readEach (storage : Storage) (id : FileIdentity) :
    List Nat → List (Except BackingError Page) × Storage
  | [] => ([], storage)
  | page :: rest =>
    let first := storage.read id page
    let later := first.2.readEach id rest
    (first.1 :: later.1, later.2)

/-! ## The files and the journal after each request -/

theorem file_add (storage : Storage) (file : Backing) (other : FileIdentity) :
    (storage.add file).2.file other =
      if ⟨storage.opened + 1⟩ = other then file else storage.file other := by
  simp [Storage.file, add, Std.TreeMap.getD_insert]

theorem file_settle (storage : Storage) (id other : FileIdentity) (request : Request)
    (served : Served Answer) :
    (storage.settle id request served).file other =
      if id = other then served.file else storage.file other := by
  simp [Storage.file, settle, Std.TreeMap.getD_insert]

@[simp] theorem calls_read (storage : Storage) (id : FileIdentity) (page : Nat) :
    (storage.read id page).2.calls =
      storage.calls.push ⟨id, .read page, (storage.read id page).1.isOk⟩ := rfl

@[simp] theorem calls_write (storage : Storage) (id : FileIdentity) (page : Page) :
    (storage.write id page).2.calls =
      storage.calls.push ⟨id, .write page, (storage.write id page).1.isOk⟩ := rfl

@[simp] theorem calls_allocate (storage : Storage) (id : FileIdentity) :
    (storage.allocate id).2.calls =
      storage.calls.push ⟨id, .allocate, (storage.allocate id).1.isOk⟩ := rfl

@[simp] theorem calls_delete (storage : Storage) (id : FileIdentity) (page : Nat) :
    (storage.delete id page).2.calls =
      storage.calls.push ⟨id, .delete page, (storage.delete id page).1.isOk⟩ := rfl

end Storage

end PageCache
