import PageCache.Storage.Counted
import PageCache.Storage.Disk

/-!
# Files of pages of any kind

Every kind of file answers the same four requests: read a page, write a page, allocate a new page
and delete a page.
-/

namespace PageCache

/-- A file of pages of one of the three kinds. Further kinds, which a client may add, are left
out. -/
inductive Backing where
  /-- A file held in memory. -/
  | memory (file : MemoryBacking)
  /-- A file held in memory that counts its requests. -/
  | counted (file : CountedBacking)
  /-- A file on disk. -/
  | disk (file : DiskBacking)

/-- The answer to a request, with the file and the file system as the request left them. -/
structure Served (Answer : Type) where
  /-- The answer itself. -/
  answer : Except BackingError Answer
  /-- The file afterwards. -/
  file : Backing
  /-- The file system afterwards. -/
  system : FileSystem

namespace Backing

/-- The name under which the file was opened. -/
def name : Backing → String
  | memory file => file.name
  | counted file => file.memory.name
  | disk file => file.path

/-- Whether the file has a page of this number. -/
def contains : Backing → Nat → Bool
  | memory file, page => (file.data? page).isSome
  | counted file, page => (file.memory.data? page).isSome
  | disk file, page => file.live page

/-- Reads a page. -/
def read (file : Backing) (self : FileIdentity) (page : Nat) (system : FileSystem) : Served Page :=
  match file with
  | memory held => ⟨held.read self page, file, system⟩
  | counted held => ⟨(held.read self page).1, counted (held.read self page).2, system⟩
  | disk held => ⟨(held.read self page system).1, file, (held.read self page system).2⟩

/-- Replaces the bytes of a page. -/
def write (file : Backing) (self : FileIdentity) (page : Page) (system : FileSystem) :
    Served Unit :=
  match file with
  | memory held =>
    match held.write self page with
    | .ok written => ⟨.ok (), memory written, system⟩
    | .error cause => ⟨.error cause, file, system⟩
  | counted held => ⟨(held.write self page).1, counted (held.write self page).2, system⟩
  | disk held => ⟨(held.write self page system).1, file, (held.write self page system).2⟩

/-- Appends a new zero page. -/
def allocate (file : Backing) (system : FileSystem) : Served Page :=
  match file with
  | memory held => ⟨.ok held.allocate.1, memory held.allocate.2, system⟩
  | counted held => ⟨.ok held.allocate.1, counted held.allocate.2, system⟩
  | disk held =>
    let grown := held.allocate system
    ⟨grown.1, disk grown.2.1, grown.2.2⟩

/-- Deletes a page. -/
def delete (file : Backing) (self : FileIdentity) (page : Nat) (system : FileSystem) :
    Served Unit :=
  match file with
  | memory held =>
    match held.delete self page with
    | .ok rest => ⟨.ok (), memory rest, system⟩
    | .error cause => ⟨.error cause, file, system⟩
  | counted held =>
    match held.delete self page with
    | .ok rest => ⟨.ok (), counted rest, system⟩
    | .error cause => ⟨.error cause, file, system⟩
  | disk held =>
    match held.delete self page with
    | .ok rest => ⟨.ok (), disk rest, system⟩
    | .error cause => ⟨.error cause, file, system⟩

end Backing

end PageCache
