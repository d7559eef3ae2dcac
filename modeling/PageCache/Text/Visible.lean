import PageCache.Text.Ranges

/-!
# Visible text

A text that goes to a terminal is shown without the controls that a terminal obeys: those of ASCII
are written as two hexadecimal digits, those of the second control block as a code in braces. Main
statement: nothing that a terminal obeys is left.
-/

namespace PageCache.Text

/-- The controls of ASCII that a terminal obeys: bell, backspace, form feed, escape and delete. -/
def bareControls : List Char := ['\x07', '\x08', '\x0c', '\x1b', '\x7f']

/-- The second block of controls. -/
def secondControls : List (Nat × Nat) := [(0x80, 0x9F)]

/-- Whether a terminal obeys a character. -/
def isObeyed (char : Char) : Bool := bareControls.contains char || covers secondControls char

/-- The two hexadecimal digits of a byte. -/
def hexPair (byte : Nat) : List Char := [Nat.digitChar (byte / 16), Nat.digitChar (byte % 16)]

/-- A character as it is shown. -/
def showChar (char : Char) : List Char :=
  if bareControls.contains char then ['\\', 'x'] ++ hexPair char.toNat
  else if covers secondControls char then ['\\', 'u', '\x7b'] ++ hexPair char.toNat ++ ['\x7d']
  else [char]

/-- A text as it is shown. -/
def visible (text : String) : String := String.ofList (text.toList.flatMap showChar)

/-- A character that no terminal obeys is shown as it is. -/
theorem showChar_of_not_obeyed {char : Char} (plain : isObeyed char = false) :
    showChar char = [char] := by
  simp only [isObeyed, Bool.or_eq_false_iff] at plain
  simp only [showChar, plain.1, plain.2]
  rfl

theorem isObeyed_digitChar {digit : Nat} (small : digit < 16) :
    isObeyed (Nat.digitChar digit) = false := by
  have all : (List.range 16).all fun digit => !isObeyed (Nat.digitChar digit) := by decide
  exact (Bool.not_eq_true' _).mp (List.all_eq_true.mp all digit (List.mem_range.mpr small))

theorem not_obeyed_of_mem_hexPair {byte : Nat} (small : byte < 256) {char : Char}
    (found : char ∈ hexPair byte) : isObeyed char = false := by
  rw [hexPair, List.mem_cons, List.mem_singleton] at found
  rcases found with rfl | rfl
  · exact isObeyed_digitChar (by omega)
  · exact isObeyed_digitChar (by omega)

theorem toNat_lt_of_bareControls {char : Char} (bare : bareControls.contains char) :
    char.toNat < 256 := by
  have all : bareControls.all fun char => decide (char.toNat < 256) := by decide
  exact of_decide_eq_true (List.all_eq_true.mp all char (List.contains_iff_mem.mp bare))

theorem toNat_lt_of_secondControls {char : Char} (second : covers secondControls char) :
    char.toNat < 256 := by
  obtain ⟨range, found, _, last⟩ := covers_iff.mp second
  obtain rfl := List.mem_singleton.mp found
  exact Nat.lt_of_le_of_lt last (by decide)

theorem not_obeyed_of_mem_showChar {char shown : Char} (found : shown ∈ showChar char) :
    isObeyed shown = false := by
  unfold showChar at found
  split at found
  · next bare =>
    rcases List.mem_append.mp found with mark | digit
    · have marks : ['\\', 'x'].all fun mark => !isObeyed mark := by decide
      exact (Bool.not_eq_true' _).mp (List.all_eq_true.mp marks shown mark)
    · exact not_obeyed_of_mem_hexPair (toNat_lt_of_bareControls bare) digit
  · next notBare =>
    split at found
    · next second =>
      rcases List.mem_append.mp found with front | brace
      · rcases List.mem_append.mp front with mark | digit
        · have marks : ['\\', 'u', '\x7b'].all fun mark => !isObeyed mark := by decide
          exact (Bool.not_eq_true' _).mp (List.all_eq_true.mp marks shown mark)
        · exact not_obeyed_of_mem_hexPair (toNat_lt_of_secondControls second) digit
      · obtain rfl := List.mem_singleton.mp brace
        decide
    · next notSecond =>
      obtain rfl := List.mem_singleton.mp found
      rw [isObeyed, Bool.or_eq_false_iff]
      exact ⟨Bool.eq_false_iff.mpr notBare, Bool.eq_false_iff.mpr notSecond⟩

/-- Nothing that a terminal obeys is left in a shown text. -/
theorem not_obeyed_of_mem_visible {text : String} {shown : Char}
    (found : shown ∈ (visible text).toList) : isObeyed shown = false := by
  rw [visible, String.toList_ofList, List.mem_flatMap] at found
  obtain ⟨char, _, found⟩ := found
  exact not_obeyed_of_mem_showChar found

end PageCache.Text
