import PageCache.Shell.Basic
import PageCache.Text.Line

/-!
# Running the shell

The arguments choose the number of frames and the threshold of the log. The shell greets, answers
the lines of its input up to the command to quit, and drops its pool.
-/

namespace PageCache

open Text (NumeralError)

/-- What the arguments choose. -/
structure Settings where
  /-- The settings of the pool. -/
  config : Config
  /-- The threshold of the log. -/
  level : Level
deriving DecidableEq, Repr

/-- Why the shell did not start. -/
inductive LaunchError where
  /-- The number of frames is no numeral. -/
  | framesNotNumber (cause : NumeralError)
  /-- No pool can be made. -/
  | pool (cause : PoolError)
deriving DecidableEq, Repr

/-- The lines that tell why the shell did not start. -/
def LaunchError.lines : LaunchError → List String
  | framesNotNumber cause =>
    ["Error: --frames expects a number", "", "Caused by:", s!"    {cause.message}"]
  | pool cause => [s!"Error: {cause.message}"]

namespace Settings

/-- The value of the first argument with a given name. -/
def value? (arguments : List String) (name : String) : Option String :=
  arguments.findSome? fun argument => (argument.dropPrefix? s!"--{name}=").map (·.toString)

/-- What the arguments choose: the default number of frames and the level of warnings where they say
nothing. A level that does not exist counts as nothing said. -/
def ofArguments (arguments : List String) : Except LaunchError Settings :=
  let level := ((value? arguments "debug").bind Level.ofName?).getD .warn
  match value? arguments "frames" with
  | none => .ok ⟨{}, level⟩
  | some text =>
    match Text.readNumeral Shell.numberLimit text with
    | .ok frames => .ok ⟨{ frames }, level⟩
    | .error cause => .error (.framesNotNumber cause)

end Settings

namespace Shell

/-- The line that greets. -/
def greeting (frames : Nat) : String :=
  s!"clockbuf shell ({frames} frames). Type `help` for commands, Ctrl+D to exit"

/-- A new shell, and what happened when it was made. -/
def launch (config : Config) (storage : Storage) : Except LaunchError (Shell × List Event) :=
  match Pool.ofConfig config with
  | .ok pool => .ok (start pool storage, [.poolMade config.frames])
  | .error cause => .error (.pool cause)

/-- What the shell leaves behind when it ends. -/
structure Report where
  /-- The storage afterwards. -/
  storage : Storage
  /-- The printed lines. -/
  printed : List String
  /-- What happened, the earliest first. -/
  events : List Event

/-- Drops the pool at the end. -/
def finish (shell : Shell) : Report :=
  let dropped := shell.pool.drop shell.storage
  ⟨dropped.storage, [], dropped.events⟩

/-- Answers lines up to the command to quit, or to the last line, and drops the pool. -/
def converse (shell : Shell) : List String → Report
  | [] => shell.finish
  | line :: rest =>
    let turn := shell.answer (Command.wordsOf line)
    let later := if turn.goesOn then turn.shell.converse rest else turn.shell.finish
    ⟨later.storage, turn.printed ++ later.printed, turn.events ++ later.events⟩

end Shell

end PageCache
