import PageCache.Pool.Error
import PageCache.Text.Numeral

/-!
# Failures of shell commands

A failure is printed with all its causes. A failure of the file system is told twice, once within
the storage error and once as its cause.
-/

namespace PageCache

open Text (NumeralError)

/-- Why a command failed. -/
inductive ShellError where
  /-- The shell does not know the words. -/
  | unknownCommand
  /-- The slot is no numeral. -/
  | slotNotNumber (cause : NumeralError)
  /-- No file is in the slot. -/
  | emptySlot (slot : Nat)
  /-- Another argument is no numeral. -/
  | notNumber (cause : NumeralError)
  /-- The shell holds no pin on the page. -/
  | notPinned (page : Nat)
  /-- The offset is past the end of a page. -/
  | outOfRange (offset : Nat)
  /-- A file refused. -/
  | storage (cause : BackingError)
  /-- The pool refused. -/
  | pool (cause : PoolError)
deriving DecidableEq, Repr

/-- The wording of a failure of a file with its causes. -/
def BackingError.chain : BackingError → String
  | .system cause => s!"{(BackingError.system cause).message}: {cause.message}"
  | cause => cause.message

/-- The wording of a failure of a pool with its causes. -/
def PoolError.chain : PoolError → String
  | .storage cause => cause.chain
  | cause => cause.message

/-- The wording of a failure with its causes. -/
def ShellError.chain : ShellError → String
  | unknownCommand => "unknown command, try `help`"
  | slotNotNumber cause => s!"file slot must be a number: {cause.message}"
  | emptySlot slot => s!"no file in slot {slot}"
  | notNumber cause => cause.message
  | notPinned page => s!"page {page} is not pinned"
  | outOfRange offset => s!"offset {offset} out of range"
  | storage cause => cause.chain
  | pool cause => cause.chain

end PageCache
