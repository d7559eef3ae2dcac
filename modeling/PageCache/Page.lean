import PageCache.Runs

/-!
# Pages

A page is 4096 bytes under a number. Ranges of its bytes are read and overwritten only when they
lie within it, so the length of a page never changes.
-/

namespace PageCache

/-- The number of bytes in every page. -/
abbrev pageSize : Nat := 4096

/-- The bytes of one page. -/
abbrev PageData := Vector UInt8 pageSize

namespace PageData

/-- The page of zero bytes. -/
def zero : PageData := Vector.replicate pageSize 0

/-- The page in which every byte is `byte`. -/
def filled (byte : UInt8) : PageData := Vector.replicate pageSize byte

/-- The page with the given bytes, if there are exactly enough of them. -/
def ofRuns? (bytes : Runs) : Option PageData :=
  if bytes.size = pageSize then some (bytes.toVector pageSize) else none

/-- The `count` bytes from `offset` on, if they all lie within the page. -/
def range? (data : PageData) (offset count : Nat) : Option (Array UInt8) :=
  if offset + count ≤ pageSize then some (data.toArray.extract offset (offset + count)) else none

/-- The page with `bytes` placed from `offset` on, if they all fit. -/
def overwrite? (data : PageData) (offset : Nat) (bytes : Array UInt8) : Option PageData :=
  if offset + bytes.size ≤ pageSize then
    some (data.mapIdx fun index byte =>
      if offset ≤ index then bytes[index - offset]?.getD byte else byte)
  else none

theorem ofRuns?_eq_some_iff {bytes : Runs} {data : PageData} :
    ofRuns? bytes = some data ↔ bytes.toList = data.toList := by
  unfold ofRuns?
  split
  · next full =>
    have whole : (bytes.fit pageSize).toList = bytes.toList := by rw [← full, Runs.toList_fit_size]
    rw [Option.some.injEq, ← Vector.toList_inj, Runs.toList_toVector, whole]
  · next short =>
    simp only [reduceCtorEq, false_iff]
    intro same
    rw [← Runs.length_toList, same] at short
    exact short data.length_toList

theorem isSome_range? (data : PageData) (offset count : Nat) :
    (data.range? offset count).isSome ↔ offset + count ≤ pageSize := by
  unfold range?
  split <;> simp_all

theorem isSome_overwrite? (data : PageData) (offset : Nat) (bytes : Array UInt8) :
    (data.overwrite? offset bytes).isSome ↔ offset + bytes.size ≤ pageSize := by
  unfold overwrite?
  split <;> simp_all

/-- Overwriting changes exactly the bytes of the range. -/
theorem getElem_of_overwrite? {data result : PageData} {offset : Nat} {bytes : Array UInt8}
    (done : data.overwrite? offset bytes = some result) (index : Nat) (inside : index < pageSize) :
    result[index] =
      if inRange : offset ≤ index ∧ index < offset + bytes.size then bytes[index - offset]
      else data[index] := by
  unfold overwrite? at done
  split at done
  · obtain rfl := Option.some.inj done
    rw [Vector.getElem_mapIdx]
    by_cases before : offset ≤ index
    · by_cases within : index - offset < bytes.size
      · rw [dif_pos ⟨before, by omega⟩, if_pos before, Array.getElem?_eq_getElem within,
          Option.getD_some]
      · rw [dif_neg (by omega), if_pos before, Array.getElem?_eq_none (by omega), Option.getD_none]
    · rw [dif_neg (by omega), if_neg before]
  · cases done

end PageData

/-- The bytes of a page together with its number in its file. -/
structure Page where
  /-- The position of the page in its file. -/
  number : Nat
  /-- The content of the page. -/
  data : PageData
deriving DecidableEq, Repr

namespace Page

/-- The zero page of a given number. -/
def zero (number : Nat) : Page := ⟨number, .zero⟩

/-- One line that shows the number and the first eight bytes. -/
def describe (page : Page) : String :=
  let head := ", ".intercalate ((page.data.toList.take 8).map toString)
  s!"Page \x7b id: PageId({page.number}), head: [{head}] \x7d"

end Page

end PageCache
