import PageCache.Frame

/-!
# Snapshots

A snapshot shows every frame of a pool, without bytes, and the counters of the pool. It is printed
as one line for each frame and two lines of totals.
-/

namespace PageCache

/-- Counters of what a pool has done. -/
structure Stats where
  /-- Fetches of resident pages. -/
  hits : Nat := 0
  /-- All other fetches. -/
  misses : Nat := 0
  /-- Pages that gave way to others. -/
  evictions : Nat := 0
  /-- Pages written back to their files. -/
  writeBacks : Nat := 0
deriving DecidableEq, Repr

/-- The marks of one frame. -/
structure FrameView where
  /-- The number of the frame. -/
  frame : Nat
  /-- The file of the page in the frame. -/
  owner : Option FileIdentity
  /-- The number of the page in its file. -/
  page : Nat
  /-- Whether a page is in the frame. -/
  valid : Bool
  /-- Whether the page was used since the clock last passed. -/
  referenced : Bool
  /-- Whether the page has to be written back. -/
  dirty : Bool
  /-- The number of pins on the page. -/
  pins : Nat
deriving DecidableEq, Repr

namespace FrameView

/-- The marks of a frame; those of a free frame are all absent. -/
def ofFrame (number : Nat) (frame : Frame) : FrameView where
  frame := number
  owner := frame.key?.map (·.file)
  page := frame.key?.elim 0 (·.page)
  valid := frame.valid
  referenced := frame.referenced
  dirty := frame.dirty
  pins := frame.pins

/-- The line that shows a frame in a printed snapshot. -/
def line (view : FrameView) : String :=
  let holder := match view.owner with
    | some owner => s!"file {owner} page {view.page}"
    | none => "free"
  s!"frame {view.frame}: {holder} valid={view.valid} ref={view.referenced} " ++
    s!"dirty={view.dirty} pins={view.pins}"

/-- The marks in short: owner, page, one letter for each mark that is set, and pins. -/
def brief (view : FrameView) : String :=
  let owner := view.owner.elim "-" fun file => toString file.number
  let marks := [(view.valid, "V"), (view.referenced, "R"), (view.dirty, "D")].map fun mark =>
    if mark.1 then mark.2 else "-"
  s!"{owner}:{view.page}:{String.join marks}:{view.pins}"

end FrameView

/-- The visible state of a pool at one moment. -/
structure Snapshot where
  /-- The marks of every frame. -/
  frames : List FrameView
  /-- The number of frames that hold a page. -/
  validFrames : Nat
  /-- The number of entries in the directory. -/
  entries : Nat
  /-- The position of the clock's hand. -/
  hand : Nat
  /-- The counters. -/
  stats : Stats
deriving DecidableEq, Repr

namespace Snapshot

/-- The number of frames with pins. -/
def pinnedFrames (snapshot : Snapshot) : Nat := snapshot.frames.countP fun view => 0 < view.pins

/-- The number of frames that have to be written back. -/
def dirtyFrames (snapshot : Snapshot) : Nat := snapshot.frames.countP fun view => view.dirty

/-- The lines of the printed snapshot. -/
def lines (snapshot : Snapshot) : List String :=
  let stats := snapshot.stats
  snapshot.frames.map FrameView.line ++
    [s!"total valid frames: {snapshot.validFrames}",
      s!"hits={stats.hits} misses={stats.misses} evictions={stats.evictions} " ++
        s!"write_backs={stats.writeBacks}"]

/-- The printed snapshot. -/
def text (snapshot : Snapshot) : String := "\n".intercalate snapshot.lines

end Snapshot

end PageCache
