import PageCache.Storage.Memory

/-!
# Pages whose requests are counted

A counted file is a memory file that counts how often each page was read and written, whether the
request succeeded or not.
-/

namespace PageCache

/-- A memory file with a count of the reads and the writes of each page. -/
structure CountedBacking where
  /-- The pages. -/
  memory : MemoryBacking
  /-- How often each page was read. -/
  reads : Std.TreeMap Nat Nat
  /-- How often each page was written. -/
  writes : Std.TreeMap Nat Nat

namespace CountedBacking

/-- The file with `count` seeded pages, none of them read or written yet. -/
def seeded (count : Nat) : CountedBacking := ⟨.seeded "counting" count, ∅, ∅⟩

/-- A table of counts with one more for `page`. -/
def bump (counts : Std.TreeMap Nat Nat) (page : Nat) : Std.TreeMap Nat Nat :=
  counts.insert page (counts.getD page 0 + 1)

/-- How often a page was read. -/
def readsOf (file : CountedBacking) (page : Nat) : Nat := file.reads.getD page 0

/-- How often a page was written. -/
def writesOf (file : CountedBacking) (page : Nat) : Nat := file.writes.getD page 0

/-- The number of writes of all pages together. -/
def allWrites (file : CountedBacking) : Nat := file.writes.values.foldl Nat.add 0

/-- The page of a given number; the attempt is counted. -/
def read (file : CountedBacking) (self : FileIdentity) (page : Nat) :
    Except BackingError Page × CountedBacking :=
  (file.memory.read self page, { file with reads := bump file.reads page })

/-- The result of replacing the bytes of a page; the attempt is counted. -/
def write (file : CountedBacking) (self : FileIdentity) (page : Page) :
    Except BackingError Unit × CountedBacking :=
  let counted := { file with writes := bump file.writes page.number }
  match file.memory.write self page with
  | .ok memory => (.ok (), { counted with memory })
  | .error cause => (.error cause, counted)

/-- A new zero page, and the file that holds it. -/
def allocate (file : CountedBacking) : Page × CountedBacking :=
  (file.memory.allocate.1, { file with memory := file.memory.allocate.2 })

/-- The file without one of its pages. -/
def delete (file : CountedBacking) (self : FileIdentity) (page : Nat) :
    Except BackingError CountedBacking :=
  (file.memory.delete self page).map fun memory => { file with memory }

/-! ## The counts after each request -/

theorem getD_bump (counts : Std.TreeMap Nat Nat) (page other : Nat) :
    (bump counts page).getD other 0 = counts.getD other 0 + if page = other then 1 else 0 := by
  simp only [bump, Std.TreeMap.getD_insert, Std.LawfulEqCmp.compare_eq_iff_eq]
  split <;> simp_all

theorem readsOf_read (file : CountedBacking) (self : FileIdentity) (page other : Nat) :
    (file.read self page).2.readsOf other = file.readsOf other + if page = other then 1 else 0 :=
  getD_bump file.reads page other

theorem writesOf_write (file : CountedBacking) (self : FileIdentity) (page : Page) (other : Nat) :
    (file.write self page).2.writesOf other =
      file.writesOf other + if page.number = other then 1 else 0 := by
  unfold write
  split <;> exact getD_bump file.writes page.number other

end CountedBacking

end PageCache
