import Std.Data.TreeMap.Basic

/-!
# Keys

A file is named by a number, and a page by its file and its number in that file. Keys are ordered
by file and then by page, which is the order in which tables of pages are listed.
-/

namespace PageCache

open Std

/-- The identity of a file of pages. -/
structure FileIdentity where
  /-- Files are numbered in the order in which they are opened, without a limit; `word` is what 32
  bits keep of the number. -/
  number : Nat
deriving DecidableEq, Repr

namespace FileIdentity

instance : Ord FileIdentity := ⟨compareOn number⟩

instance : TransOrd FileIdentity := inferInstanceAs (TransCmp (compareOn number))

instance : LawfulEqOrd FileIdentity where
  eq_of_compare {first second} equal := by
    cases first
    cases second
    exact congrArg FileIdentity.mk (LawfulEqOrd.eq_of_compare equal)

instance : ToString FileIdentity := ⟨fun file => s!"#{file.number}"⟩

end FileIdentity

/-- The identity of a page: its file and its number in that file. -/
structure PageKey where
  /-- The file that holds the page. -/
  file : FileIdentity
  /-- The number of the page in its file. -/
  page : Nat
deriving DecidableEq, Repr

namespace PageKey

instance : Ord PageKey := ⟨compareLex (compareOn file) (compareOn page)⟩

instance : TransOrd PageKey := inferInstanceAs (TransCmp (compareLex _ _))

instance : LawfulEqOrd PageKey where
  eq_of_compare {first second} equal := by
    obtain ⟨files, pages⟩ := compareLex_eq_eq.mp equal
    cases first
    cases second
    have sameFile := LawfulEqOrd.eq_of_compare files
    have samePage := LawfulEqOrd.eq_of_compare pages
    simp_all

instance : ToString PageKey := ⟨fun key => s!"page {key.page} of file {key.file}"⟩

end PageKey

end PageCache
