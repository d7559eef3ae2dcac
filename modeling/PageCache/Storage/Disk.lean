import PageCache.FileSystem.Basic
import PageCache.Storage.Error

/-!
# Pages on disk

A disk file keeps its pages back to back in one file of the file system: page `i` starts at byte
`i * pageSize`. The number of pages is taken from the length when the file is opened and counted
from then on. Deleted pages are remembered as long as the file is open; their bytes stay.
-/

namespace PageCache

/-- An open file of pages in the file system. -/
structure DiskBacking where
  /-- The path under which the file was opened. -/
  path : String
  /-- The open file. -/
  target : Target
  /-- The number of pages, deleted ones included. -/
  pages : Nat
  /-- The deleted pages. -/
  deleted : Std.TreeMap Nat Unit

namespace DiskBacking

/-- The file under a path, made empty if it does not exist yet. -/
def openAt (system : FileSystem) (path : String) :
    Except FileSystemError (DiskBacking × FileSystem) :=
  (system.openOrCreate path).map fun opened =>
    (⟨path, opened.1, opened.2.size opened.1 / pageSize, ∅⟩, opened.2)

/-- The byte at which a page starts. -/
def start (page : Nat) : Nat := page * pageSize

/-- Whether a page was allocated and not deleted. -/
def live (file : DiskBacking) (page : Nat) : Bool :=
  page < file.pages && !file.deleted.contains page

/-- The page of a given number. -/
def read (file : DiskBacking) (self : FileIdentity) (page : Nat) (system : FileSystem) :
    Except BackingError Page × FileSystem :=
  if file.live page then
    let transfer := system.readAt file.target (start page) pageSize
    match transfer.1 with
    | .ok data => (.ok ⟨page, data⟩, transfer.2)
    | .error cause => (.error (.system cause), transfer.2)
  else (.error (.pageNotFound ⟨self, page⟩), system)

/-- The result of placing the bytes of a page at its start. -/
def place (file : DiskBacking) (page : Page) (system : FileSystem) :
    Except BackingError Unit × FileSystem :=
  let transfer := system.writeAt file.target (start page.number) page.data.toArray
  match transfer.1 with
  | .ok () => (.ok (), transfer.2)
  | .error cause => (.error (.system cause), transfer.2)

/-- The result of replacing the bytes of an existing page. -/
def write (file : DiskBacking) (self : FileIdentity) (page : Page) (system : FileSystem) :
    Except BackingError Unit × FileSystem :=
  if file.live page.number then file.place page system
  else (.error (.pageNotFound ⟨self, page.number⟩), system)

/-- A new zero page after the last, and the file with one page more. -/
def allocate (file : DiskBacking) (system : FileSystem) :
    Except BackingError Page × DiskBacking × FileSystem :=
  let page := Page.zero file.pages
  let placed := file.place page system
  match placed.1 with
  | .ok () => (.ok page, { file with pages := file.pages + 1 }, placed.2)
  | .error cause => (.error cause, file, placed.2)

/-- The file with one of its pages marked as deleted. -/
def delete (file : DiskBacking) (self : FileIdentity) (page : Nat) :
    Except BackingError DiskBacking :=
  if file.live page then .ok { file with deleted := file.deleted.insert page () }
  else .error (.pageNotFound ⟨self, page⟩)

/-- The result of asking that all bytes reach the disk, which the device does not support. -/
def sync (file : DiskBacking) : Except BackingError Unit :=
  match file.target with
  | .regular _ => .ok ()
  | .fullDevice => .error (.system .invalidArgument)

/-! ## Refused requests -/

/-- A read of a page that is not live leaves the file system alone. -/
theorem read_of_not_live {file : DiskBacking} {page : Nat} (dead : file.live page = false)
    (self : FileIdentity) (system : FileSystem) :
    file.read self page system = (.error (.pageNotFound ⟨self, page⟩), system) := by
  simp [read, dead]

/-- A write of a page that is not live leaves the file system alone. -/
theorem write_of_not_live {file : DiskBacking} {page : Page} (dead : file.live page.number = false)
    (self : FileIdentity) (system : FileSystem) :
    file.write self page system = (.error (.pageNotFound ⟨self, page.number⟩), system) := by
  simp [write, dead]

theorem live_delete {file result : DiskBacking} {self : FileIdentity} {page : Nat}
    (deleted : file.delete self page = .ok result) (other : Nat) :
    result.live other = (file.live other && page != other) := by
  unfold delete at deleted
  split at deleted
  · obtain rfl := Except.ok.inj deleted
    simp only [live, Std.TreeMap.contains_insert]
    grind
  · cases deleted

end DiskBacking

end PageCache
