import PageCache.Text.Ranges

/-!
# Blank characters

The characters with the Unicode property `White_Space`, and the words of a text, which are what
lies between them.
-/

namespace PageCache.Text

/-- The code points with the property `White_Space`, as inclusive ranges. -/
def blankRanges : List (Nat × Nat) :=
  [(0x9, 0xD), (0x20, 0x20), (0x85, 0x85), (0xA0, 0xA0), (0x1680, 0x1680), (0x2000, 0x200A),
    (0x2028, 0x2029), (0x202F, 0x202F), (0x205F, 0x205F), (0x3000, 0x3000)]

/-- Whether a character is blank. -/
def isBlank (char : Char) : Bool := covers blankRanges char

/-- The longest pieces of a text without a blank, in order. -/
def words (text : String) : List String :=
  ((text.toList.splitOnP isBlank).filter (· ≠ [])).map String.ofList

/-- Every ASCII blank is blank. -/
theorem isBlank_of_isWhitespace {char : Char} (white : char.isWhitespace) : isBlank char := by
  simp only [Char.isWhitespace, Bool.or_eq_true, decide_eq_true_eq] at white
  rcases white with ((rfl | rfl) | rfl) | rfl <;> decide

/-- No word is empty. -/
theorem empty_notMem_words (text : String) : "" ∉ words text := by
  simp [words]

end PageCache.Text
