import PageCache.Pool.Pinning
import PageCache.Pool.Removal
import PageCache.Shell.Command
import PageCache.Shell.Error

/-!
# The shell

The shell works on one pool. Files are opened into slots, and the handles that the shell was given
are kept by page, the latest first, so that pages can be released by name. Each command prints some
lines and leaves a shell behind; a command that fails prints one line.
-/

namespace PageCache

open Text (readNumeral)

/-- A pool with files in slots and the handles that are in use. -/
structure Shell where
  /-- The pool. -/
  pool : Pool
  /-- The storage below it. -/
  storage : Storage
  /-- The files by slot. -/
  slots : Array FileIdentity
  /-- The handles of every page, the latest first. -/
  handles : Std.TreeMap PageKey (List Handle)

/-- What a command does. -/
structure Turn where
  /-- The shell afterwards. -/
  shell : Shell
  /-- The printed lines, or why the command failed. -/
  result : Except ShellError (List String)
  /-- What happened, the earliest first. -/
  events : List Event
  /-- Whether the shell goes on to the next line. -/
  goesOn : Bool

namespace Shell

/-- The shell without files. -/
def start (pool : Pool) (storage : Storage) : Shell := ⟨pool, storage, #[], ∅⟩

/-- The largest number for a slot, a page or an offset. -/
def numberLimit : Nat := 18446744073709551615

/-- The largest number for a byte. -/
def byteLimit : Nat := 255

/-- The handles that the shell holds on a page. -/
def handlesOf (shell : Shell) (key : PageKey) : List Handle := shell.handles.getD key []

/-- The shell with other handles on a page. -/
def setHandles (shell : Shell) (key : PageKey) (handles : List Handle) : Shell :=
  { shell with handles := shell.handles.insert key handles }

theorem handlesOf_setHandles (shell : Shell) (key other : PageKey) (handles : List Handle) :
    (shell.setHandles key handles).handlesOf other =
      if key = other then handles else shell.handlesOf other := by
  simp [handlesOf, setHandles, Std.TreeMap.getD_insert]

/-! ## Arguments -/

/-- The file in a slot. -/
def file (shell : Shell) (slot : String) : Except ShellError FileIdentity :=
  match readNumeral numberLimit slot with
  | .error cause => .error (.slotNotNumber cause)
  | .ok number =>
    match shell.slots[number]? with
    | some file => .ok file
    | none => .error (.emptySlot number)

/-- A number other than a slot. -/
def number (limit : Nat) (text : String) : Except ShellError Nat :=
  (readNumeral limit text).mapError .notNumber

/-- The page of a file in a slot. -/
def key (shell : Shell) (slot page : String) : Except ShellError PageKey := do
  let file ← shell.file slot
  return ⟨file, ← number numberLimit page⟩

/-! ## Building turns -/

/-- The turn that prints some lines and leaves everything as it was. -/
def say (shell : Shell) (lines : List String) : Turn := ⟨shell, .ok lines, [], true⟩

/-- The turn that fails and leaves everything as it was. -/
def fail (shell : Shell) (cause : ShellError) : Turn := ⟨shell, .error cause, [], true⟩

/-- The turn for an argument, which fails if the argument does. -/
def withArgument (shell : Shell) (argument : Except ShellError Value) (next : Value → Turn) :
    Turn :=
  match argument with
  | .ok value => next value
  | .error cause => shell.fail cause

/-- The turn that an operation on the pool makes; if it succeeds, the shell may note something and
print some lines. -/
def settle (shell : Shell) (outcome : Outcome Value) (note : Shell → Value → Shell)
    (lines : Value → List String) : Turn :=
  let after := { shell with pool := outcome.pool, storage := outcome.storage }
  match outcome.result with
  | .ok value => ⟨note after value, .ok (lines value), outcome.events, true⟩
  | .error cause => ⟨after, .error (.pool cause), outcome.events, true⟩

/-- The turn that an operation on the pool makes when it gives a handle. -/
def settleHandle (shell : Shell) (outcome : Outcome Handle) : Turn :=
  shell.settle outcome
    (fun after handle => after.setHandles handle.key (handle :: after.handlesOf handle.key))
    (fun handle => [s!"page {handle.key.page} in frame {handle.frame}"])

/-! ## The commands -/

/-- Opens a file on disk in the next slot. -/
def openFile (shell : Shell) (path : String) : Turn :=
  match shell.storage.openDisk path with
  | .error cause => shell.fail (.storage cause)
  | .ok (id, file, storage) =>
    ⟨{ shell with storage, slots := shell.slots.push id },
      .ok [s!"slot {shell.slots.size}"], [.fileOpened path id file.pages], true⟩

/-- The pool after setting one byte of a page through the latest handle on it. -/
def poke (shell : Shell) (key : PageKey) (offset : Nat) (byte : UInt8) : Except ShellError Pool :=
  match shell.handlesOf key with
  | [] => .error (.notPinned key.page)
  | handle :: _ =>
    match shell.pool.page handle with
    | .error cause => .error (.pool cause)
    | .ok page =>
      if inside : offset < pageSize then
        .ok (shell.pool.setData handle (page.data.set offset byte))
      else .error (.outOfRange offset)

/-- Sets one byte of a page. -/
def write (shell : Shell) (slot page offset byte : String) : Turn :=
  shell.withArgument (shell.key slot page) fun key =>
    shell.withArgument (number numberLimit offset) fun offset =>
      shell.withArgument (number byteLimit byte) fun byte =>
        shell.withArgument (shell.poke key offset (UInt8.ofNat byte)) fun pool =>
          ({ shell with pool } : Shell).say []

/-- Carries out a command. -/
def execute (shell : Shell) : Command → Turn
  | .nothing => shell.say []
  | .openFile path => shell.openFile path
  | .fetch slot page =>
    shell.withArgument (shell.key slot page) fun key =>
      shell.settleHandle (shell.pool.fetch shell.storage key)
  | .write slot page offset byte => shell.write slot page offset byte
  | .release slot page dirty =>
    shell.withArgument (shell.key slot page) fun key =>
      shell.settle (shell.pool.releasePage shell.storage key dirty)
        (fun after _ => after.setHandles key (after.handlesOf key).tail) fun _ => []
  | .allocate slot =>
    shell.withArgument (shell.file slot) fun file =>
      shell.settleHandle (shell.pool.allocate shell.storage file)
  | .dispose slot page =>
    shell.withArgument (shell.key slot page) fun key =>
      shell.settle (shell.pool.dispose shell.storage key)
        (fun after _ => after.setHandles key []) fun _ => []
  | .flush slot =>
    shell.withArgument (shell.file slot) fun file =>
      shell.settle (shell.pool.flush shell.storage file) (fun after _ => after) fun _ => []
  | .writeBackAll =>
    shell.settle (shell.pool.writeBackAll shell.storage) (fun after _ => after) fun _ => []
  | .inspect => shell.say shell.pool.snapshot.lines
  | .help => shell.say Command.helpLines
  | .quit => { shell.say [] with goesOn := false }

/-- Carries out the command that a list of words stands for. -/
def answer (shell : Shell) (words : List String) : Turn :=
  match Command.ofWords? words with
  | some command => shell.execute command
  | none => shell.fail .unknownCommand

/-- Words that stand for no command change nothing. -/
theorem answer_of_unknown {words : List String} (unknown : Command.ofWords? words = none)
    (shell : Shell) : shell.answer words = shell.fail .unknownCommand := by
  simp [answer, unknown]

end Shell

/-- The lines that a turn prints. -/
def Turn.printed (turn : Turn) : List String :=
  match turn.result with
  | .ok lines => lines
  | .error cause => [s!"error: {cause.chain}"]

end PageCache
