import PageCache.Pool.Basic
import PageCache.Storage.Backing

/-!
# Operations of a session

A client of a session names files, pools and handles by the order in which it got them. Each
operation is answered by a reply or fails, either because it names something that is not there or
because a file or a pool refuses it.
-/

namespace PageCache

/-- Something that a client asks of a session. -/
inductive Operation where
  /-- Open a file in memory with seeded pages. -/
  | openMemory (name : String) (seed : Nat)
  /-- Open a counted file with seeded pages. -/
  | openCounted (seed : Nat)
  /-- Open a file on disk. -/
  | openDisk (path : String)
  /-- Give up the use of a file. -/
  | closeFile (file : Nat)
  /-- Read a page past all pools. -/
  | readPage (file page : Nat)
  /-- Replace the bytes of a page past all pools. -/
  | writePage (file page : Nat) (bytes : Runs)
  /-- Append a page past all pools. -/
  | appendPage (file : Nat)
  /-- Delete a page past all pools. -/
  | deletePage (file page : Nat)
  /-- Tell about a file. -/
  | describeFile (file : Nat)
  /-- Tell whether a file in memory has a page. -/
  | containsPage (file page : Nat)
  /-- Tell how often a page of a counted file was read and written. -/
  | requestCounts (file page : Nat)
  /-- Ask that all bytes of a file on disk reach the disk. -/
  | syncFile (file : Nat)
  /-- Read the first pages of a file. -/
  | readFirst (file count : Nat)
  /-- Tell the bytes under a path. -/
  | readPath (path : String)
  /-- Cut or grow the file under a path. -/
  | truncatePath (path : String) (length : Nat)
  /-- Make a pool. -/
  | makePool (config : Config)
  /-- Drop a pool. -/
  | dropPool (pool : Nat)
  /-- Pin a page. -/
  | fetch (pool file page : Nat)
  /-- Append a page and pin it. -/
  | allocate (pool file : Nat)
  /-- Give back one pin of a page. -/
  | releasePage (pool file page : Nat) (dirty : Bool)
  /-- Give back the pin of a handle, and the handle. -/
  | release (pool handle : Nat) (dirty : Bool)
  /-- Drop a page and delete it from its file. -/
  | dispose (pool file page : Nat)
  /-- Write back all pages of a file and make their frames free. -/
  | flush (pool file : Nat)
  /-- Write back every page. -/
  | writeBackAll (pool : Nat)
  /-- Tell which frame holds a page. -/
  | lookup (pool file page : Nat)
  /-- Tell the counters of a pool. -/
  | stats (pool : Nat)
  /-- Tell the visible state of a pool. -/
  | inspect (pool : Nat)
  /-- Tell the visible state of a pool as text. -/
  | display (pool : Nat)
  /-- Tell the page of a handle. -/
  | viewPage (pool handle : Nat)
  /-- Tell some bytes of the page of a handle. -/
  | viewBytes (pool handle offset count : Nat)
  /-- Replace some bytes of the page of a handle. -/
  | putBytes (pool handle offset : Nat) (bytes : Array UInt8)
  /-- Set every byte of the page of a handle. -/
  | fillPage (pool handle : Nat) (byte : UInt8)
  /-- Tell whether two handles are equal. -/
  | sameHandle (first second : Nat)
  /-- Set the threshold of the log to the level of a given name. -/
  | setLevel (name : String)
deriving DecidableEq, Repr

/-- What in an operation names something that is not there. -/
inductive Refusal where
  /-- The file is unknown, given up or of the wrong kind. -/
  | file
  /-- The pool is unknown or dropped. -/
  | pool
  /-- The handle is unknown or used up. -/
  | handle
  /-- The handle to compare with is unknown or used up. -/
  | otherHandle
  /-- The path leads to no file, or to one that cannot have the length asked for. -/
  | path
  /-- The bytes do not lie within a page. -/
  | range
  /-- There is no level of this name. -/
  | level
deriving DecidableEq, Repr

/-- Why an operation failed. -/
inductive Failure where
  /-- The operation names something that is not there. -/
  | refused (refusal : Refusal)
  /-- A file of pages refused. -/
  | storage (cause : BackingError)
  /-- A pool refused. -/
  | pool (cause : PoolError)
deriving DecidableEq, Repr

/-- The answer to an operation that succeeded. -/
inductive Reply where
  /-- There is nothing to tell. -/
  | nothing
  /-- The number of a new file, its identity and its name. -/
  | opened (number : Nat) (file : FileIdentity) (name : String)
  /-- An open file. -/
  | file (id : FileIdentity) (file : Backing)
  /-- A page. -/
  | page (page : Page)
  /-- What reading each of several pages gave. -/
  | pages (pages : List (Except BackingError Page))
  /-- A yes or a no. -/
  | truth (value : Bool)
  /-- How often a page was read and written. -/
  | counts (reads writes : Nat)
  /-- The bytes of a file in the file system, if it is there. -/
  | contents (bytes : Option Runs)
  /-- The number of a new pool. -/
  | pool (number : Nat)
  /-- The number of a new handle, and the handle to a fetched page. -/
  | fetched (number : Nat) (handle : Handle)
  /-- The number of a new handle, and the handle to a new page. -/
  | allocated (number : Nat) (handle : Handle)
  /-- The frame of a page, if it is resident. -/
  | frame (frame : Option Nat)
  /-- The counters of a pool. -/
  | stats (stats : Stats)
  /-- The visible state of a pool. -/
  | snapshot (snapshot : Snapshot)
  /-- A text. -/
  | text (text : String)
  /-- Some bytes of a page. -/
  | bytes (bytes : Array UInt8)
  /-- A level. -/
  | level (level : Level)

end PageCache
