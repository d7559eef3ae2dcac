import PageCache.Proofs.FileSystem.Path
import PageCache.Proofs.Storage.Tidy

/-!
# Requests one after the other

A client of a file puts requests to it and gets answers. Main statements: every request, whether or
not it succeeds, leaves the pages of the file but one alone, and lets the file system only grow.
-/

namespace PageCache

/-- What a file says to a request. Only reads and allocations give a page. -/
abbrev Answer := Except BackingError (Option Page)

/-- Whether a request asks for the bytes of a page. -/
def Request.reads (page : Nat) : Request → Bool
  | .read asked => asked = page
  | _ => false

/-- Whether a request is to replace the bytes of a page. -/
def Request.writes (page : Nat) : Request → Bool
  | .write written => written.number = page
  | _ => false

/-- A request and the answer to it. -/
structure Exchange where
  /-- What was asked. -/
  request : Request
  /-- What the file said. -/
  answer : Answer

/-- The same answer with its value changed. -/
def Served.map {First Second : Type} (served : Served First) (change : First → Second) :
    Served Second :=
  ⟨served.answer.map change, served.file, served.system⟩

namespace Backing

variable {file : Backing} {system : FileSystem}

/-- Puts a request to a file. -/
def serve (file : Backing) (self : FileIdentity) (system : FileSystem) :
    Request → Served (Option Page)
  | .read page => (file.read self page system).map some
  | .write page => (file.write self page system).map fun _ => none
  | .allocate => (file.allocate system).map some
  | .delete page => (file.delete self page system).map fun _ => none

theorem spares_serve (fits : file.Fits system) (self : FileIdentity) (request : Request) :
    ∃ page, (file.serve self system request).Spares file system page := by
  have same : ∀ {First Second : Type} {served : Served First} {page : Nat}
      (change : First → Second), served.Spares file system page →
      (served.map change).Spares file system page :=
    fun _ spares => ⟨spares.place, spares.fits, spares.others, spares.elsewhere, spares.faults⟩
  cases request with
  | read page => exact ⟨page, same some (spares_read fits page page).1⟩
  | write page => exact ⟨page.number, same _ (write_cases fits page).1⟩
  | allocate => exact ⟨file.next, same some (contents_allocate fits).1⟩
  | delete page => exact ⟨page, same _ (delete_cases fits page).1⟩

/-- A file in memory has nothing to do with the file system. -/
theorem serve_memory (held : MemoryBacking) (self : FileIdentity) (system : FileSystem)
    (request : Request) :
    ∃ later, ((memory held).serve self system request).file = memory later ∧
      ((memory held).serve self system request).system = system := by
  cases request with
  | read page => exact ⟨_, rfl, rfl⟩
  | write page =>
      simp only [serve, Served.map, write]
      split
      · exact ⟨_, rfl, rfl⟩
      · exact ⟨_, rfl, rfl⟩
  | allocate => exact ⟨_, rfl, rfl⟩
  | delete page =>
      simp only [serve, Served.map, delete]
      split
      · exact ⟨_, rfl, rfl⟩
      · exact ⟨_, rfl, rfl⟩

/-- Neither has a file that counts its requests, which counts every read and every write. -/
theorem serve_counted (held : CountedBacking) (self : FileIdentity) (system : FileSystem)
    (request : Request) :
    ∃ later, ((counted held).serve self system request).file = counted later ∧
      ((counted held).serve self system request).system = system ∧
      ∀ page, later.readsOf page = held.readsOf page + (if request.reads page then 1 else 0) ∧
        later.writesOf page = held.writesOf page + if request.writes page then 1 else 0 := by
  cases request with
  | read asked =>
      refine ⟨_, rfl, rfl, fun page => ⟨?_, rfl⟩⟩
      simp only [Request.reads, decide_eq_true_eq]
      exact held.readsOf_read self asked page
  | write written =>
      refine ⟨_, rfl, rfl, fun page => ⟨?_, ?_⟩⟩
      · simp only [CountedBacking.write]
        split
        · rfl
        · rfl
      · simp only [Request.writes, decide_eq_true_eq]
        exact held.writesOf_write self written page
  | allocate => exact ⟨_, rfl, rfl, fun _ => ⟨rfl, rfl⟩⟩
  | delete page =>
      simp only [serve, Served.map, delete, CountedBacking.delete]
      cases held.memory.delete self page with
      | error cause => exact ⟨_, rfl, rfl, fun _ => ⟨rfl, rfl⟩⟩
      | ok memory => exact ⟨_, rfl, rfl, fun _ => ⟨rfl, rfl⟩⟩

theorem grows_serve (file : Backing) (self : FileIdentity) (system : FileSystem)
    (request : Request) : system.Grows (file.serve self system request).system := by
  have refl := FileSystem.Grows.refl system
  cases file with
  | memory held =>
      obtain ⟨later, -, same⟩ := serve_memory held self system request
      rw [same]
      exact refl
  | counted held =>
      obtain ⟨later, -, same, -⟩ := serve_counted held self system request
      rw [same]
      exact refl
  | disk held =>
      have placed : ∀ page, system.Grows (held.place page system).2 := by
        intro page
        rw [DiskBacking.system_place]
        exact system.grows_writeAt ..
      cases request with
      | read page =>
          simp only [serve, Served.map, read, DiskBacking.read]
          split
          · split
            · exact system.grows_readAt ..
            · exact system.grows_readAt ..
          · exact refl
      | write page =>
          simp only [serve, Served.map, write, DiskBacking.write]
          split
          · exact placed page
          · exact refl
      | allocate =>
          simp only [serve, Served.map, allocate, DiskBacking.allocate]
          split
          · exact placed _
          · exact placed _
      | delete page =>
          simp only [serve, Served.map, delete]
          split
          · exact refl
          · exact refl

end Backing

namespace Storage

/-- Puts a request to a file. -/
def serve (storage : Storage) (id : FileIdentity) (request : Request) : Answer × Storage :=
  let served := (storage.file id).serve id storage.system request
  (served.answer, storage.settle id request served)

/-- Puts requests to a file one after the other, and lists the exchanges, the latest first. -/
def converse (storage : Storage) (id : FileIdentity) (requests : List Request) :
    List Exchange × Storage :=
  requests.foldl (fun (past, now) request =>
    (⟨request, (now.serve id request).1⟩ :: past, (now.serve id request).2)) ([], storage)

theorem settle_map {First Second : Type} (storage : Storage) (id : FileIdentity)
    (request : Request) (served : Served First) (change : First → Second) :
    storage.settle id request (served.map change) = storage.settle id request served := by
  simp only [settle, Served.map]
  cases served.answer <;> rfl

@[simp] theorem serve_read (storage : Storage) (id : FileIdentity) (page : Nat) :
    storage.serve id (.read page) =
      ((storage.read id page).1.map some, (storage.read id page).2) :=
  Prod.ext rfl (settle_map ..)

@[simp] theorem serve_write (storage : Storage) (id : FileIdentity) (page : Page) :
    storage.serve id (.write page) =
      ((storage.write id page).1.map fun _ => none, (storage.write id page).2) :=
  Prod.ext rfl (settle_map ..)

@[simp] theorem serve_allocate (storage : Storage) (id : FileIdentity) :
    storage.serve id .allocate =
      ((storage.allocate id).1.map some, (storage.allocate id).2) :=
  Prod.ext rfl (settle_map ..)

@[simp] theorem serve_delete (storage : Storage) (id : FileIdentity) (page : Nat) :
    storage.serve id (.delete page) =
      ((storage.delete id page).1.map fun _ => none, (storage.delete id page).2) :=
  Prod.ext rfl (settle_map ..)

theorem converse_concat (storage : Storage) (id : FileIdentity) (requests : List Request)
    (request : Request) :
    storage.converse id (requests ++ [request]) =
      let earlier := storage.converse id requests
      (⟨request, (earlier.2.serve id request).1⟩ :: earlier.1,
        (earlier.2.serve id request).2) := by
  simp [converse]

theorem file_serve (storage : Storage) (id other : FileIdentity) (request : Request) :
    (storage.serve id request).2.file other =
      if id = other then ((storage.file id).serve id storage.system request).file
      else storage.file other :=
  file_settle ..

theorem grows_serve (storage : Storage) (id : FileIdentity) (request : Request) :
    storage.system.Grows (storage.serve id request).2.system :=
  Backing.grows_serve ..

/-- A request to one file leaves the place of any other alone. -/
theorem Tidy.serve {storage : Storage} (tidy : storage.Tidy) (id : FileIdentity)
    (request : Request) :
    (storage.serve id request).2.Tidy ∧
      (storage.serve id request).2.system.faults = storage.system.faults ∧
      ∀ other place, other ≠ id → (storage.file other).place? = some place →
        (storage.serve id request).2.system.bytesAt place = storage.system.bytesAt place := by
  obtain ⟨page, spares⟩ := Backing.spares_serve (tidy.fits id) id request
  refine ⟨(tidy.settle request spares).tidy, spares.faults, fun other place different held => ?_⟩
  exact spares.elsewhere place fun own => different (tidy.apart other id place held own)

end Storage

end PageCache
