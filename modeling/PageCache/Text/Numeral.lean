/-!
# Numerals

A numeral is a plus sign, which may be missing, and ASCII digits. It is read from left to right up
to the first character that is no digit or the first digit that takes the value past a limit.
-/

namespace PageCache.Text

/-- Why a text is no numeral. -/
inductive NumeralError where
  /-- The text is empty. -/
  | empty
  /-- A character is no digit, or there are no digits. -/
  | invalidDigit
  /-- The value is past the limit. -/
  | tooLarge
deriving DecidableEq, Repr

/-- The wording of a failure. -/
def NumeralError.message : NumeralError → String
  | empty => "cannot parse integer from empty string"
  | invalidDigit => "invalid digit found in string"
  | tooLarge => "number too large to fit in target type"

/-- The value of digits that follow digits of a given value. -/
def readDigits (limit value : Nat) : List Char → Except NumeralError Nat
  | [] => .ok value
  | char :: rest =>
    if char.isDigit then
      let next := value * 10 + (char.toNat - '0'.toNat)
      if limit < next then .error .tooLarge else readDigits limit next rest
    else .error .invalidDigit

/-- The value of a list of characters as a numeral. -/
def readChars (limit : Nat) : List Char → Except NumeralError Nat
  | [] => .error .empty
  | ['+'] => .error .invalidDigit
  | '+' :: digits => readDigits limit 0 digits
  | digits => readDigits limit 0 digits

/-- The value of a numeral that is not past a limit. -/
def readNumeral (limit : Nat) (text : String) : Except NumeralError Nat :=
  readChars limit text.toList

theorem le_of_readDigits {limit value result : Nat} {chars : List Char} (inside : value ≤ limit)
    (read : readDigits limit value chars = .ok result) : result ≤ limit := by
  induction chars generalizing value with
  | nil =>
    obtain rfl := Except.ok.inj read
    exact inside
  | cons char rest induction =>
    unfold readDigits at read
    dsimp only at read
    split at read
    · split at read
      · cases read
      · next small => exact induction (Nat.le_of_not_lt small) read
    · cases read

/-- No numeral is read past its limit. -/
theorem le_of_readNumeral {limit value : Nat} {text : String}
    (read : readNumeral limit text = .ok value) : value ≤ limit := by
  unfold readNumeral readChars at read
  split at read
  · cases read
  · cases read
  · exact le_of_readDigits (Nat.zero_le limit) read
  · exact le_of_readDigits (Nat.zero_le limit) read

end PageCache.Text
