import PageCache.Text.Grapheme

/-!
# Erasure

A line is read as it was typed: each backspace erases the grapheme cluster before it, and does
nothing at the start of the line. The size of a cluster is kept in one byte, so that of a cluster of
256 bytes or more only the remainder is erased. Main statement: a smaller cluster is erased as a
whole.
-/

namespace PageCache.Text

/-- The character that erases. -/
def backspace : Char := '\x08'

/-- A line under way. -/
structure Typed where
  /-- The characters so far, the latest first. -/
  kept : List Char
  /-- The sizes of the clusters that can be erased, the latest first. -/
  sizes : List Nat

/-- The number of bytes of some characters. -/
def byteCount : List Char → Nat
  | [] => 0
  | char :: rest => char.utf8Size + byteCount rest

/-- Characters, given backwards, without their last bytes; a character goes as a whole. -/
def dropBytes (count : Nat) : List Char → List Char
  | [] => []
  | char :: rest =>
    if count = 0 then char :: rest else dropBytes (count - char.utf8Size) rest

namespace Typed

/-- The line before anything is typed. -/
def start : Typed := ⟨[], []⟩

/-- The line without its latest cluster, if there is one. -/
def erase (typed : Typed) : Typed :=
  match typed.sizes with
  | [] => typed
  | size :: sizes => ⟨dropBytes size typed.kept, sizes⟩

/-- The line with one more cluster. -/
def add (typed : Typed) (cluster : List Char) : Typed :=
  ⟨cluster.reverse ++ typed.kept, byteCount cluster % 256 :: typed.sizes⟩

/-- The line after one more cluster was typed. -/
def type (typed : Typed) (cluster : List Char) : Typed :=
  if cluster = [backspace] then typed.erase else typed.add cluster

end Typed

/-- A line as it reads once every backspace has erased. -/
def erased (line : String) : String :=
  String.ofList ((clusters line.toList).foldl Typed.type .start).kept.reverse

theorem byteCount_append (front back : List Char) :
    byteCount (front ++ back) = byteCount front + byteCount back := by
  induction front with
  | nil => exact (Nat.zero_add _).symm
  | cons char rest induction =>
    rw [List.cons_append, byteCount, byteCount, induction, Nat.add_assoc]

theorem byteCount_reverse (chars : List Char) : byteCount chars.reverse = byteCount chars := by
  induction chars with
  | nil => rfl
  | cons char rest induction =>
    rw [List.reverse_cons, byteCount_append, induction, Nat.add_comm]
    rfl

theorem dropBytes_append (front back : List Char) :
    dropBytes (byteCount front) (front ++ back) = back := by
  induction front with
  | nil => cases back <;> rfl
  | cons char rest induction =>
    have positive := char.utf8Size_pos
    rw [List.cons_append, dropBytes, byteCount, if_neg (by omega), Nat.add_sub_cancel_left,
      induction]

/-- A cluster of less than 256 bytes is erased as a whole. -/
theorem Typed.erase_add (typed : Typed) {cluster : List Char} (small : byteCount cluster < 256) :
    (typed.add cluster).erase = typed := by
  simp only [Typed.add, Typed.erase, Nat.mod_eq_of_lt small]
  rw [← byteCount_reverse, dropBytes_append]

end PageCache.Text
