/-!
# Numbered things

Things get numbers in the order in which they come. A thing can be replaced or retired, but its
number is not given to another.
-/

namespace PageCache

/-- Things by number, some of them retired. -/
structure Numbered (Thing : Type) where
  /-- The thing of every number that was given out, unless it was retired. -/
  cells : Array (Option Thing)

namespace Numbered

variable {Thing : Type}

/-- No numbers given out yet. -/
def empty : Numbered Thing := ⟨#[]⟩

/-- The next number. -/
def next (things : Numbered Thing) : Nat := things.cells.size

/-- The thing of a number. -/
def get? (things : Numbered Thing) (number : Nat) : Option Thing := things.cells[number]?.join

/-- One more thing, which gets the next number. -/
def push (things : Numbered Thing) (thing : Thing) : Numbered Thing :=
  ⟨things.cells.push (some thing)⟩

/-- Another thing in the place of one that has a number. -/
def replace (things : Numbered Thing) (number : Nat) (thing : Thing) : Numbered Thing :=
  ⟨things.cells.setIfInBounds number (some thing)⟩

/-- The things without that of a number. -/
def retire (things : Numbered Thing) (number : Nat) : Numbered Thing :=
  ⟨things.cells.setIfInBounds number none⟩

@[simp] theorem get?_empty (number : Nat) : (empty : Numbered Thing).get? number = none := rfl

theorem lt_next_of_get? {things : Numbered Thing} {number : Nat} {thing : Thing}
    (found : things.get? number = some thing) : number < things.next := by
  refine Decidable.by_contra fun past => ?_
  rw [get?, Array.getElem?_eq_none (Nat.le_of_not_lt past)] at found
  cases found

theorem get?_push (things : Numbered Thing) (thing : Thing) (number : Nat) :
    (things.push thing).get? number =
      if number = things.next then some thing else things.get? number := by
  rw [get?, push, Array.getElem?_push, next]
  split
  · rfl
  · rfl

theorem get?_replace {things : Numbered Thing} {number : Nat} (given : number < things.next)
    (thing : Thing) (other : Nat) :
    (things.replace number thing).get? other =
      if number = other then some thing else things.get? other := by
  simp only [get?, replace, Array.getElem?_setIfInBounds]
  split
  · rw [if_pos (show number < things.cells.size from given)]
    rfl
  · rfl

theorem get?_retire (things : Numbered Thing) (number other : Nat) :
    (things.retire number).get? other = if number = other then none else things.get? other := by
  simp only [get?, retire, Array.getElem?_setIfInBounds]
  split
  · split <;> rfl
  · rfl

end Numbered

end PageCache
