import PageCache.Shell.Launch

/-!
# The command line

The program runs the shell on the files of the machine. Before a command opens a path,
the folders on the way to it and the file itself are taken over from the machine; after every
command the bytes that changed go back. Printed lines go to the standard output, the log to the
standard error.
-/

namespace PageCache.CommandLine

/-- Whether a path of the machine leads to a folder. -/
def isFolder (path : String) : IO Bool := do
  try
    let found ← IO.FS.realPath path
    found.isDir
  catch _ => return false

/-- The names on a path. -/
def names (path : String) : List String := (path.splitOn "/").filter (· ≠ "")

/-- The folders on the way to a folder, and the folder itself. -/
def ways (folder : Folder) : List Folder :=
  (List.range folder.length).map fun count => folder.take (count + 1)

/-- The path from the root to a list of names. -/
def absolute (names : List String) : String := String.join (names.map ("/" ++ ·))

/-- The file system without regular files, but with the working folder of the machine. -/
def attach : IO FileSystem := do
  let working := names (toString (← IO.currentDir))
  return { FileSystem.empty with folders := FileSystem.devices :: ways working, working }

/-- The file system with the folders on the way to a path, and the file under it, taken over from
the machine, unless the file is there already. -/
def mount (system : FileSystem) (path : String) : IO FileSystem := do
  let start := if path.startsWith "/" then [] else system.working
  let mut grown := system
  for folder in ways (start ++ (names path).dropLast) do
    if ← isFolder (absolute folder) then
      grown := { grown with folders := folder :: grown.folders.erase folder }
  if (grown.find path).isOk then return grown
  try
    let bytes ← IO.FS.readBinFile path
    return (grown.place path (Runs.ofArray bytes.data)).toOption.getD grown
  catch _ => return grown

/-- Writes every file that differs between two states back to the machine. -/
def save (before after : FileSystem) : IO Unit := do
  for (place, bytes) in after.files.toList do
    unless before.files[place]? == some bytes do
      IO.FS.writeBinFile (absolute (place.folder ++ [place.name])) ⟨bytes.toList.toArray⟩

/-- Writes the events that a log with this threshold keeps to the standard error. -/
def report (level : Level) (events : List Event) : IO Unit := do
  for event in level.keep events do
    IO.eprintln s!"{event.level.name} {event.component}: {event.shown}"

/-- The shell ready for a command: a path that is to be opened is mounted. -/
def prepare (shell : Shell) (words : List String) : IO Shell := do
  match Command.ofWords? words with
  | some (.openFile path) =>
    let system ← mount shell.storage.system path
    return { shell with storage := { shell.storage with system } }
  | _ => return shell

/-- Answers lines from the standard input up to the end. -/
partial def serve (level : Level) (shell : Shell) (input : IO.FS.Stream) : IO Shell := do
  match Text.lines (← input.getLine) with
  | [] => return shell
  | line :: _ =>
    let words := Command.wordsOf line
    let ready ← prepare shell words
    let turn := ready.answer words
    for text in turn.printed do
      IO.println text
    report level turn.events
    save ready.storage.system turn.shell.storage.system
    if turn.goesOn then serve level turn.shell input else return turn.shell

/-- Runs the shell and gives the exit status. -/
def run (arguments : List String) : IO UInt32 := do
  let storage := { Storage.empty with system := ← attach }
  let launched := do
    let settings ← Settings.ofArguments arguments
    return (settings, ← Shell.launch settings.config storage)
  match launched with
  | .error cause =>
    for line in cause.lines do
      IO.eprintln line
    return 1
  | .ok (settings, shell, events) =>
    report settings.level events
    IO.println (Shell.greeting settings.config.frames)
    let last ← serve settings.level shell (← IO.getStdin)
    let dropped := last.finish
    report settings.level dropped.events
    save last.storage.system dropped.storage.system
    return 0

end PageCache.CommandLine

/-- The program. -/
def main (arguments : List String) : IO UInt32 := PageCache.CommandLine.run arguments
