import Std.Data.TreeMap.Basic

/-!
# Locations

A folder is named by the way to it from the root, and a regular file by its folder and its name
there, so that two paths to one file lead to one location.
-/

namespace PageCache

open Std

/-- A folder, as the names that lead to it from the root. -/
abbrev Folder := List String

/-- The place of a regular file. -/
structure Location where
  /-- The folder in which the file lies. -/
  folder : Folder
  /-- The name of the file in its folder. -/
  name : String
deriving DecidableEq, Repr

namespace Location

instance : Ord Location := ⟨compareLex (compareOn folder) (compareOn name)⟩

instance : TransOrd Location := inferInstanceAs (TransCmp (compareLex _ _))

instance : LawfulEqOrd Location where
  eq_of_compare {first second} equal := by
    obtain ⟨folders, names⟩ := compareLex_eq_eq.mp equal
    cases first
    cases second
    have sameFolder := LawfulEqOrd.eq_of_compare folders
    have sameName := LawfulEqOrd.eq_of_compare names
    simp_all

end Location

/-- What can be opened for reading and writing. -/
inductive Target where
  /-- A regular file. -/
  | regular (place : Location)
  /-- The device that reads as zeros and refuses every write. -/
  | fullDevice
deriving DecidableEq, Repr

/-- What a name can stand for. -/
inductive Entry where
  /-- A folder. -/
  | folder (folder : Folder)
  /-- Something that can be opened. -/
  | target (target : Target)
deriving DecidableEq, Repr

end PageCache
