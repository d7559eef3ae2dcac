import PageCache.Text.Blank
import PageCache.Text.Erasure

/-!
# Commands of the shell

The words of a typed line are a command or nothing the shell knows. Numbers are still words in a
command: they are read when the command is carried out.
-/

namespace PageCache

/-- Something that can be asked of the shell. -/
inductive Command where
  /-- The empty line. -/
  | nothing
  /-- Open a file on disk in the next slot. -/
  | openFile (path : String)
  /-- Pin a page. -/
  | fetch (slot page : String)
  /-- Set one byte of a pinned page. -/
  | write (slot page offset byte : String)
  /-- Give back one pin of a page. -/
  | release (slot page : String) (dirty : Bool)
  /-- Append a page and pin it. -/
  | allocate (slot : String)
  /-- Drop a page and delete it from its file. -/
  | dispose (slot page : String)
  /-- Write back all pages of a file and make their frames free. -/
  | flush (slot : String)
  /-- Write back every page. -/
  | writeBackAll
  /-- Print the visible state of the pool. -/
  | inspect
  /-- Print the list of commands. -/
  | help
  /-- End the shell. -/
  | quit
deriving DecidableEq, Repr

namespace Command

/-- The words of a line as it reads after its backspaces. -/
def wordsOf (line : String) : List String := Text.words (Text.erased line)

/-- The command that a list of words stands for. A release marks its page as dirty only if the one
word after the page is `dirty`; other words after the page are passed over. -/
def ofWords? : List String → Option Command
  | [] => some nothing
  | ["open", path] => some (openFile path)
  | ["fetch", slot, page] => some (fetch slot page)
  | ["write", slot, page, offset, byte] => some (write slot page offset byte)
  | "release" :: slot :: page :: marks => some (release slot page (marks = ["dirty"]))
  | ["alloc", slot] => some (allocate slot)
  | ["dispose", slot, page] => some (dispose slot page)
  | ["flush", slot] => some (flush slot)
  | ["flushall"] => some writeBackAll
  | ["inspect"] => some inspect
  | ["help"] => some help
  | ["quit"] | ["exit"] => some quit
  | _ => none

/-- The list of commands as it is printed. -/
def helpLines : List String :=
  ["commands:",
    "  open <path>                     open a page file, prints its slot",
    "  fetch <slot> <page>             pin a page",
    "  write <slot> <page> <off> <b>   set one byte of a pinned page",
    "  release <slot> <page> [dirty]   drop one pin",
    "  alloc <slot>                    append a page and pin it",
    "  dispose <slot> <page>           drop a page from the pool and the file",
    "  flush <slot>                    write back and evict a file's pages",
    "  flushall                        write back every dirty page",
    "  inspect                         print frame descriptors",
    "  quit"]

end Command

end PageCache
