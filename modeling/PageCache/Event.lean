import PageCache.Level
import PageCache.Pool.Error
import PageCache.Text.Visible

/-!
# Events

An operation tells what it did as a list of events. Each event has a level, the part of the system
that it comes from, and a text. A log with a threshold keeps the events whose level it records.
-/

namespace PageCache

/-- Something worth telling that happened during an operation. -/
inductive Event where
  /-- A pool was made. -/
  | poolMade (frames : Nat)
  /-- A fetched page was resident. -/
  | hit (key : PageKey) (frame pins : Nat)
  /-- A fetched page was read into a frame. -/
  | miss (key : PageKey) (frame : Nat)
  /-- A page was appended to its file and put into a frame. -/
  | allocated (key : PageKey) (frame : Nat)
  /-- A page was disposed of while pinned. -/
  | disposedPinned (key : PageKey) (pins : Nat)
  /-- All pages of a file left the pool. -/
  | flushed (file : FileIdentity)
  /-- A frame was needed and all of them are pinned. -/
  | exhausted (frames : Nat)
  /-- A page gives way to another. -/
  | evicting (key : PageKey) (frame : Nat)
  /-- A page was written to its file. -/
  | wroteBack (key : PageKey) (frame : Nat)
  /-- A release named a page that is not resident. -/
  | releaseIgnored (key : PageKey)
  /-- A page could not be written back while its pool was dropped. -/
  | dropFailed (frame : Nat) (cause : PoolError)
  /-- A file on disk was opened. -/
  | fileOpened (path : String) (file : FileIdentity) (pages : Nat)
deriving DecidableEq, Repr

namespace Event

/-- How important an event is. -/
def level : Event → Level
  | hit .. | miss .. | releaseIgnored .. => .trace
  | poolMade .. | allocated .. | flushed .. | evicting .. | wroteBack .. | fileOpened .. => .debug
  | disposedPinned .. | exhausted .. => .warn
  | dropFailed .. => .error

/-- The part of the system that an event comes from. -/
def component : Event → String
  | fileOpened .. => "storage"
  | _ => "buffer"

/-- The wording of an event. -/
def message : Event → String
  | poolMade frames => s!"creating buffer pool with {frames} frames"
  | hit key frame pins => s!"hit: {key} in frame {frame} (pins={pins})"
  | miss key frame => s!"miss: {key} loaded into frame {frame}"
  | allocated key frame => s!"allocated {key} in frame {frame}"
  | disposedPinned key pins => s!"disposing {key} with {pins} outstanding pins"
  | flushed file => s!"flushed file {file}"
  | exhausted frames => s!"pool exhausted: all {frames} frames pinned"
  | evicting key frame => s!"evicting {key} from frame {frame}"
  | wroteBack key frame => s!"wrote back {key} from frame {frame}"
  | releaseIgnored key => s!"release of non-resident {key} ignored"
  | dropFailed frame cause => s!"write-back of frame {frame} failed on drop: {cause.message}"
  | fileOpened path file pages => s!"opened {path} as file {file} with {pages} pages"

/-- The wording of an event as it goes to a terminal. -/
def shown (event : Event) : String := Text.visible event.message

end Event

/-- The events that a log with this threshold keeps. -/
def Level.keep (threshold : Level) (events : List Event) : List Event :=
  events.filter fun event => threshold.records event.level

end PageCache
