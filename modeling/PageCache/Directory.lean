import PageCache.Key
import Std.Data.TreeMap.Lemmas

/-!
# The directory of resident pages

The directory maps the key of each resident page to the frame that holds it.
-/

namespace PageCache

/-- A table from page keys to frame numbers. -/
structure Directory where
  /-- The entries in the order of their keys. -/
  entries : Std.TreeMap PageKey Nat

namespace Directory

/-- The directory without entries. -/
def empty : Directory := ⟨∅⟩

/-- The frame that holds a page, if it is resident. -/
def get? (directory : Directory) (key : PageKey) : Option Nat := directory.entries[key]?

/-- The directory with `key` mapped to `frame`, whatever it was mapped to before. -/
def insert (directory : Directory) (key : PageKey) (frame : Nat) : Directory :=
  ⟨directory.entries.insert key frame⟩

/-- The directory without an entry for `key`. -/
def erase (directory : Directory) (key : PageKey) : Directory := ⟨directory.entries.erase key⟩

/-- The number of entries. -/
def size (directory : Directory) : Nat := directory.entries.size

/-- The entries in the order of their keys. -/
def toList (directory : Directory) : List (PageKey × Nat) := directory.entries.toList

@[simp] theorem get?_empty (key : PageKey) : empty.get? key = none :=
  Std.TreeMap.getElem?_emptyc

@[simp] theorem size_empty : empty.size = 0 := rfl

theorem get?_insert (directory : Directory) (key other : PageKey) (frame : Nat) :
    (directory.insert key frame).get? other =
      if key = other then some frame else directory.get? other := by
  simp [get?, insert, Std.TreeMap.getElem?_insert]

theorem get?_erase (directory : Directory) (key other : PageKey) :
    (directory.erase key).get? other = if key = other then none else directory.get? other := by
  simp [get?, erase, Std.TreeMap.getElem?_erase]

theorem size_insert (directory : Directory) (key : PageKey) (frame : Nat) :
    (directory.insert key frame).size =
      if (directory.get? key).isSome then directory.size else directory.size + 1 := by
  simp [get?, insert, size, Std.TreeMap.size_insert, Std.TreeMap.isSome_getElem?_eq_contains]

theorem size_erase (directory : Directory) (key : PageKey) :
    (directory.erase key).size =
      if (directory.get? key).isSome then directory.size - 1 else directory.size := by
  simp [get?, erase, size, Std.TreeMap.size_erase, Std.TreeMap.isSome_getElem?_eq_contains]

theorem mem_toList {directory : Directory} {key : PageKey} {frame : Nat} :
    (key, frame) ∈ directory.toList ↔ directory.get? key = some frame := by
  simp [toList, get?, Std.TreeMap.mem_toList_iff_getElem?_eq_some]

end Directory

end PageCache
