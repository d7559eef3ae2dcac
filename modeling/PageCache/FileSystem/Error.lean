/-!
# Failures of the file system

Each constructor is one reason for which the file system refuses a request, and `message` is its
wording.
-/

namespace PageCache

/-- Why the file system refused a request. -/
inductive FileSystemError where
  /-- A name on the path stands for nothing. -/
  | notFound
  /-- The path stands for a folder. -/
  | isFolder
  /-- The path goes on after a name that is no folder. -/
  | notFolder
  /-- The device cannot be used in this way. -/
  | invalidArgument
  /-- No file can be as long as was asked for. -/
  | tooLarge
  /-- There is no room for the bytes. -/
  | noSpace
  /-- The path or one of its names is too long. -/
  | nameTooLong
  /-- The path holds the character with code zero. -/
  | zeroInName
  /-- The file ends before the last byte that was asked for. -/
  | endOfFile
  /-- Any other reason, in its own words. -/
  | other (text : String)
deriving DecidableEq, Repr

/-- The wording of a failure. -/
def FileSystemError.message : FileSystemError → String
  | notFound => "No such file or directory (os error 2)"
  | notFolder => "Not a directory (os error 20)"
  | isFolder => "Is a directory (os error 21)"
  | invalidArgument => "Invalid argument (os error 22)"
  | tooLarge => "File too large (os error 27)"
  | noSpace => "No space left on device (os error 28)"
  | nameTooLong => "File name too long (os error 36)"
  | zeroInName => "file name contained an unexpected NUL byte"
  | endOfFile => "failed to fill whole buffer"
  | other text => text

end PageCache
