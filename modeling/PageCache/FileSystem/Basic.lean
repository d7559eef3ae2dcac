import PageCache.FileSystem.Error
import PageCache.FileSystem.Location
import PageCache.Runs
import Std.Data.TreeMap.Lemmas

/-!
# The file system

Regular files are sequences of bytes under their locations. A path is resolved name by name from the
root or from the working folder. Bytes are read and written at offsets; a write past the end fills
the gap with zeros. Every transfer of bytes is noted in a journal, so that one can say of an
operation that it moved no bytes at all. A transfer fails where a fault is foreseen for it, and a
write that fails may have placed its first bytes already.
-/

namespace PageCache

/-- One movement of bytes between a program and an open file. -/
inductive Transfer where
  /-- So many bytes were asked for at an offset. -/
  | read (target : Target) (offset count : Nat)
  /-- So many bytes were sent to an offset. -/
  | write (target : Target) (offset count : Nat)
deriving DecidableEq, Repr

/-- What goes wrong in the middle of a transfer. -/
structure Fault where
  /-- The reason that is given. -/
  cause : FileSystemError
  /-- How many bytes a write has placed by then. -/
  placed : Nat
deriving DecidableEq, Repr

/-- The folders, the regular files and what was done to them. -/
structure FileSystem where
  /-- The folders other than the root. -/
  folders : List Folder
  /-- The folder in which relative paths start. -/
  working : Folder
  /-- The bytes of every regular file. -/
  files : Std.TreeMap Location Runs
  /-- The transfers so far, the oldest first. -/
  transfers : Array Transfer
  /-- What goes wrong with a transfer, by the number of transfers before it. -/
  faults : Nat → Option Fault

namespace FileSystem

/-- The folder that holds the device. -/
def devices : Folder := ["dev"]

/-- The folders that lie in the root of any machine. -/
def rootFolders : List Folder :=
  ["bin", "boot", "dev", "etc", "home", "lib", "media", "mnt", "opt", "proc", "root", "run", "sbin",
    "srv", "sys", "tmp", "usr", "var"].map ([·])

/-- A folder for temporary files that has no name, so that no path leads back into it. -/
def nameless : Folder := ["tmp", ""]

/-- The file system without regular files, where programs work in a nameless folder and nothing goes
wrong. -/
def empty : FileSystem := ⟨nameless :: rootFolders, nameless, ∅, #[], fun _ => none⟩

/-! ## Paths -/

/-- The longest path, in bytes. -/
def pathLimit : Nat := 4095

/-- The longest name, in bytes. -/
def nameLimit : Nat := 255

/-- What a name stands for in a folder, if anything. -/
def entry? (system : FileSystem) (folder : Folder) (name : String) : Option Entry :=
  if folder ++ [name] ∈ system.folders then some (.folder (folder ++ [name]))
  else if folder = devices ∧ name = "full" then some (.target .fullDevice)
  else if system.files.contains ⟨folder, name⟩ then some (.target (.regular ⟨folder, name⟩))
  else none

/-- The folder that one name on a path leads to; the root is above itself. -/
def enter (system : FileSystem) (folder : Folder) (name : String) : Except FileSystemError Folder :=
  if name = "." then .ok folder
  else if name = ".." then .ok folder.dropLast
  else if nameLimit < name.utf8ByteSize then .error .nameTooLong
  else match system.entry? folder name with
    | some (.folder next) => .ok next
    | some (.target _) => .error .notFolder
    | none => .error .notFound

/-- The folder that a list of names leads to. -/
def walk (system : FileSystem) (folder : Folder) (names : List String) :
    Except FileSystemError Folder :=
  names.foldlM system.enter folder

/-- The place at the end of a path: a folder, or a name in a folder that need not exist yet. -/
inductive Destination where
  /-- The path ends in a folder. -/
  | folder
  /-- The path ends in a name, perhaps followed by a slash. -/
  | named (place : Location) (slash : Bool)
deriving DecidableEq, Repr

/-- The end of a path, once every folder before it has been found. -/
def resolve (system : FileSystem) (path : String) : Except FileSystemError Destination := do
  if path.contains '\x00' then throw .zeroInName
  if path = "" then throw .notFound
  if pathLimit < path.utf8ByteSize then throw .nameTooLong
  let start := if path.startsWith "/" then [] else system.working
  let names := (path.splitOn "/").filter (· ≠ "")
  match names.getLast? with
  | none => return .folder
  | some last =>
    let folder ← system.walk start names.dropLast
    if last = "." ∨ last = ".." then return .folder
    return .named ⟨folder, last⟩ (path.endsWith "/")

/-- The file that is there to be opened under a path. -/
def find (system : FileSystem) (path : String) : Except FileSystemError Target := do
  match ← system.resolve path with
  | .folder => throw .isFolder
  | .named place slash =>
    if nameLimit < place.name.utf8ByteSize then throw .nameTooLong
    match system.entry? place.folder place.name with
    | none => throw .notFound
    | some (.folder _) => throw .isFolder
    | some (.target target) => if slash then throw .notFolder else return target

/-! ## Bytes -/

/-- The bytes of a regular file; a file that does not exist has none. -/
def bytesAt (system : FileSystem) (place : Location) : Runs :=
  system.files.getD place .empty

/-- The file system with other bytes at a place. -/
def setBytes (system : FileSystem) (place : Location) (bytes : Runs) : FileSystem :=
  { system with files := system.files.insert place bytes }

/-- The file under a path, made empty if it does not exist yet. -/
def openOrCreate (system : FileSystem) (path : String) :
    Except FileSystemError (Target × FileSystem) := do
  match ← system.resolve path with
  | .folder | .named _ true => throw .isFolder
  | .named place false =>
    if nameLimit < place.name.utf8ByteSize then throw .nameTooLong
    match system.entry? place.folder place.name with
    | none => return (.regular place, system.setBytes place .empty)
    | some (.folder _) => throw .isFolder
    | some (.target target) => return (target, system)

/-- The length of an open file; the device has none. -/
def size (system : FileSystem) : Target → Nat
  | .regular place => (system.bytesAt place).size
  | .fullDevice => 0

/-- What goes wrong with the next transfer, if anything. -/
def fault? (system : FileSystem) : Option Fault := system.faults system.transfers.size

/-- The file system with one more transfer in the journal. -/
def note (system : FileSystem) (transfer : Transfer) : FileSystem :=
  { system with transfers := system.transfers.push transfer }

/-- The `count` bytes of a regular file from `offset` on, if it has so many. -/
def bytesFrom? (system : FileSystem) (place : Location) (offset count : Nat) :
    Option (Vector UInt8 count) :=
  if offset + count ≤ (system.bytesAt place).size then
    some (((system.bytesAt place).drop offset).toVector count)
  else none

/-- The `count` bytes of an open file from `offset` on, and the file system that noted it. -/
def readAt (system : FileSystem) (target : Target) (offset count : Nat) :
    Except FileSystemError (Vector UInt8 count) × FileSystem :=
  let noted := system.note (.read target offset count)
  match system.fault?, target with
  | some fault, _ => (.error fault.cause, noted)
  | none, .regular place =>
    match system.bytesFrom? place offset count with
    | some bytes => (.ok bytes, noted)
    | none => (.error .endOfFile, noted)
  | none, .fullDevice => (.ok (Vector.replicate count 0), noted)

/-- The file system with bytes of a regular file replaced from `offset` on. -/
def splice (system : FileSystem) (place : Location) (offset : Nat) (news : Array UInt8) :
    FileSystem :=
  system.setBytes place ((system.bytesAt place).splice offset news)

/-- The result of placing bytes in an open file from `offset` on. -/
def writeAt (system : FileSystem) (target : Target) (offset : Nat) (news : Array UInt8) :
    Except FileSystemError Unit × FileSystem :=
  let noted := system.note (.write target offset news.size)
  match system.fault?, target with
  | none, .regular place => (.ok (), noted.splice place offset news)
  | some ⟨cause, 0⟩, .regular _ => (.error cause, noted)
  | some ⟨cause, placed⟩, .regular place =>
    (.error cause, noted.splice place offset (news.extract 0 placed))
  | _, .fullDevice => (.error .noSpace, noted)

/-- The bytes of the regular file under a path, if there is one. -/
def contents? (system : FileSystem) (path : String) : Option Runs :=
  match system.find path with
  | .ok (.regular place) => some (system.bytesAt place)
  | _ => none

/-- The greatest length of a file, which is the greatest signed number of 64 bits. -/
def lengthLimit : Nat := 9223372036854775807

/-- The file system with the file under a path cut or grown with zeros to a length. -/
def truncate (system : FileSystem) (path : String) (length : Nat) :
    Except FileSystemError FileSystem := do
  match ← system.find path with
  | .regular place =>
    if lengthLimit < length then throw .tooLarge
    return system.setBytes place ((system.bytesAt place).fit length)
  | .fullDevice => throw .invalidArgument

/-- The file system with these bytes, and no others, in the file under a path. -/
def place (system : FileSystem) (path : String) (bytes : Runs) :
    Except FileSystemError FileSystem := do
  match ← system.openOrCreate path with
  | (.regular place, created) => return created.setBytes place bytes
  | (.fullDevice, _) => throw .noSpace

/-- The regular files of the working folder, in the order of their names. -/
def workingFiles (system : FileSystem) : List (String × Runs) :=
  system.files.toList.filterMap fun (place, bytes) =>
    if place.folder = system.working then some (place.name, bytes) else none

theorem bytesAt_setBytes (system : FileSystem) (place other : Location) (bytes : Runs) :
    (system.setBytes place bytes).bytesAt other =
      if place = other then bytes else system.bytesAt other := by
  simp [bytesAt, setBytes, Std.TreeMap.getD_insert]

end FileSystem

end PageCache
