import PageCache.Storage.Error
import Std.Data.TreeMap.Lemmas

/-!
# Pages held in memory

A memory file is a table from page numbers to bytes together with the number of the next new page.
Numbers are given out once: a deleted page never comes back under its number.
-/

namespace PageCache

/-- A file of pages held in memory. -/
structure MemoryBacking where
  /-- The name under which the file was made. -/
  name : String
  /-- The bytes of every page that was allocated and not deleted. -/
  pages : Std.TreeMap Nat PageData
  /-- The number of the next new page. -/
  next : Nat
  /-- No page has the number of the next new page or one past it. -/
  bounded : ∀ page, next ≤ page → pages[page]? = none

namespace MemoryBacking

/-- The file without pages. -/
def empty (name : String) : MemoryBacking := ⟨name, ∅, 0, fun _ _ => Std.TreeMap.getElem?_emptyc⟩

/-- The bytes of a page, if it is there. -/
def data? (file : MemoryBacking) (page : Nat) : Option PageData := file.pages[page]?

theorem lt_next_of_data? {file : MemoryBacking} {page : Nat} (present : (file.data? page).isSome) :
    page < file.next := by
  refine Nat.lt_of_not_le fun past => ?_
  have missing : file.data? page = none := file.bounded page past
  simp [missing] at present

/-- The number of pages in the file. -/
def size (file : MemoryBacking) : Nat := file.pages.size

/-- The page of a given number. -/
def read (file : MemoryBacking) (self : FileIdentity) (page : Nat) : Except BackingError Page :=
  match file.data? page with
  | some data => .ok ⟨page, data⟩
  | none => .error (.pageNotFound ⟨self, page⟩)

/-- The file with the bytes of an existing page replaced. -/
def write (file : MemoryBacking) (self : FileIdentity) (page : Page) :
    Except BackingError MemoryBacking :=
  if present : (file.data? page.number).isSome then
    .ok { file with
      pages := file.pages.insert page.number page.data
      bounded := by
        intro other past
        have inside := lt_next_of_data? present
        rw [Std.TreeMap.getElem?_insert, if_neg (by simp; omega), file.bounded other past] }
  else .error (.pageNotFound ⟨self, page.number⟩)

/-- The file with one more page, which gets the next number. -/
def append (file : MemoryBacking) (data : PageData) : MemoryBacking where
  name := file.name
  pages := file.pages.insert file.next data
  next := file.next + 1
  bounded := by
    intro page past
    rw [Std.TreeMap.getElem?_insert, if_neg (by simp; omega), file.bounded page (by omega)]

/-- A new zero page, and the file that holds it. -/
def allocate (file : MemoryBacking) : Page × MemoryBacking := (.zero file.next, file.append .zero)

/-- The file without one of its pages. -/
def delete (file : MemoryBacking) (self : FileIdentity) (page : Nat) :
    Except BackingError MemoryBacking :=
  if (file.data? page).isSome then
    .ok { file with
      pages := file.pages.erase page
      bounded := by
        intro other past
        rw [Std.TreeMap.getElem?_erase, file.bounded other past, ite_self] }
  else .error (.pageNotFound ⟨self, page⟩)

/-- The file with `count` pages, each zero but for a first byte that repeats its number. -/
def seeded (name : String) : Nat → MemoryBacking
  | 0 => empty name
  | count + 1 =>
    let file := seeded name count
    file.append (PageData.zero.set 0 (UInt8.ofNat file.next))

/-! ## The pages after each request -/

@[simp] theorem data?_empty (name : String) (page : Nat) : (empty name).data? page = none :=
  Std.TreeMap.getElem?_emptyc

theorem read_eq_ok_iff {file : MemoryBacking} {self : FileIdentity} {number : Nat} {page : Page} :
    file.read self number = .ok page ↔
      page.number = number ∧ file.data? number = some page.data := by
  unfold read
  cases page
  split <;> grind

theorem data?_write {file result : MemoryBacking} {self : FileIdentity} {page : Page}
    (written : file.write self page = .ok result) (other : Nat) :
    result.data? other = if page.number = other then some page.data else file.data? other := by
  unfold write at written
  split at written
  · obtain rfl := Except.ok.inj written
    simp [data?, Std.TreeMap.getElem?_insert]
  · cases written

theorem data?_append (file : MemoryBacking) (data : PageData) (other : Nat) :
    (file.append data).data? other = if file.next = other then some data else file.data? other := by
  simp [data?, append, Std.TreeMap.getElem?_insert]

theorem data?_delete {file result : MemoryBacking} {self : FileIdentity} {page : Nat}
    (deleted : file.delete self page = .ok result) (other : Nat) :
    result.data? other = if page = other then none else file.data? other := by
  unfold delete at deleted
  split at deleted
  · obtain rfl := Except.ok.inj deleted
    simp [data?, Std.TreeMap.getElem?_erase]
  · cases deleted

theorem next_write {file result : MemoryBacking} {self : FileIdentity} {page : Page}
    (written : file.write self page = .ok result) : result.next = file.next := by
  unfold write at written
  split at written
  · obtain rfl := Except.ok.inj written
    rfl
  · cases written

theorem next_delete {file result : MemoryBacking} {self : FileIdentity} {page : Nat}
    (deleted : file.delete self page = .ok result) : result.next = file.next := by
  unfold delete at deleted
  split at deleted
  · obtain rfl := Except.ok.inj deleted
    rfl
  · cases deleted

@[simp] theorem next_append (file : MemoryBacking) (data : PageData) :
    (file.append data).next = file.next + 1 := rfl

@[simp] theorem next_seeded (name : String) (count : Nat) : (seeded name count).next = count := by
  induction count with
  | zero => rfl
  | succ count induction => simp [seeded, induction]

end MemoryBacking

end PageCache
