import PageCache.Clock
import PageCache.Config
import PageCache.Directory
import PageCache.Event
import PageCache.Snapshot

/-!
# Pools

A pool keeps pages of any number of files in a fixed number of frames. Its directory tells which
frame holds which page. A page is used through a handle, which the pool accepts as long as the
frame is pinned and has the generation of the handle.
-/

namespace PageCache

/-- A fixed set of frames with the pages in them. -/
structure Pool where
  /-- The settings with which the pool was made. -/
  config : Config
  /-- The frames by number. -/
  frames : Array Frame
  /-- The frame of every resident page. -/
  directory : Directory
  /-- The hand that chooses the page to give way. -/
  clock : Clock
  /-- What the pool has done so far. -/
  stats : Stats

namespace Pool

/-- The pool in which every frame is free. -/
def empty (config : Config) : Pool where
  config := config
  frames := Array.replicate config.frames .fresh
  directory := .empty
  clock := .start config.frames
  stats := {}

/-- A new pool with the given settings, if they are sound. -/
def ofConfig (config : Config) : Except PoolError Pool :=
  match config.problem? with
  | some problem => .error (.config problem)
  | none => .ok (empty config)

/-- The number of frames. -/
def size (pool : Pool) : Nat := pool.frames.size

/-- The frame of a given number; there is nothing in a frame past the last. -/
def frame (pool : Pool) (number : Nat) : Frame := pool.frames[number]?.getD .fresh

/-- The pool with one frame replaced. -/
def setFrame (pool : Pool) (number : Nat) (frame : Frame) : Pool :=
  { pool with frames := pool.frames.setIfInBounds number frame }

/-- The pool with the occupant of one frame, if any, changed in place. -/
def updateFrame (pool : Pool) (number : Nat) (change : Occupant → Occupant) : Pool :=
  pool.setFrame number ((pool.frame number).update change)

/-- The pool with one frame made free; the directory is left as it is. -/
def clearFrame (pool : Pool) (number : Nat) : Pool :=
  pool.setFrame number (pool.frame number).clear

/-- The pool with its counters changed. -/
def count (pool : Pool) (change : Stats → Stats) : Pool := { pool with stats := change pool.stats }

/-- The frame that holds a page, if it is resident. -/
def find? (pool : Pool) (key : PageKey) : Option Nat := pool.directory.get? key

/-- The pool without a page that was in a frame. -/
def remove (pool : Pool) (number : Nat) (key : PageKey) : Pool :=
  { pool.clearFrame number with directory := pool.directory.erase key }

/-- The handle to a page of a file just put into a frame, and the pool that holds it. -/
def install (pool : Pool) (number : Nat) (file : FileIdentity) (page : Page) : Handle × Pool :=
  let held := (pool.frame number).hold file page
  (⟨number, held.generation, ⟨file, page.number⟩⟩,
    { pool.setFrame number held with
      directory := pool.directory.insert ⟨file, page.number⟩ number })

/-! ## Handles -/

/-- Whether a handle may be used: its frame is pinned and still has the handle's generation. -/
def accepts (pool : Pool) (handle : Handle) : Bool :=
  0 < (pool.frame handle.frame).pins &&
    (pool.frame handle.frame).generation == handle.generation

/-- The page in the frame of an accepted handle. -/
def page (pool : Pool) (handle : Handle) : Except PoolError Page :=
  match (pool.frame handle.frame).occupant with
  | some occupant =>
    if pool.accepts handle then .ok occupant.page
    else .error (.staleHandle handle.frame handle.key.page)
  | none => .error (.staleHandle handle.frame handle.key.page)

/-- The pool with other bytes in the frame of a handle. -/
def setData (pool : Pool) (handle : Handle) (data : PageData) : Pool :=
  pool.updateFrame handle.frame fun occupant => occupant.filled data

/-! ## Inspection -/

/-- The visible state of the pool. -/
def snapshot (pool : Pool) : Snapshot where
  frames := pool.frames.toList.mapIdx FrameView.ofFrame
  validFrames := pool.frames.toList.countP (·.valid)
  entries := pool.directory.size
  hand := pool.clock.hand
  stats := pool.stats

/-! ## The frames after each change -/

@[simp] theorem size_empty (config : Config) : (empty config).size = config.frames := by
  simp [size, empty]

@[simp] theorem frame_empty (config : Config) (number : Nat) :
    (empty config).frame number = .fresh := by
  simp only [frame, empty, Array.getElem?_replicate]
  split <;> rfl

@[simp] theorem find?_empty (config : Config) (key : PageKey) :
    (empty config).find? key = none :=
  Directory.get?_empty key

theorem frame_of_size_le {pool : Pool} {number : Nat} (past : pool.size ≤ number) :
    pool.frame number = .fresh := by
  rw [frame, Array.getElem?_eq_none past, Option.getD_none]

@[simp] theorem size_setFrame (pool : Pool) (number : Nat) (frame : Frame) :
    (pool.setFrame number frame).size = pool.size :=
  Array.size_setIfInBounds

theorem frame_setFrame {pool : Pool} {number : Nat} (inside : number < pool.size) (frame : Frame)
    (other : Nat) :
    (pool.setFrame number frame).frame other =
      if number = other then frame else pool.frame other := by
  simp only [Pool.frame, setFrame, Array.getElem?_setIfInBounds]
  split
  · rw [if_pos (show number < pool.frames.size from inside), Option.getD_some]
  · rfl

theorem frame_setFrame_of_ne (pool : Pool) {number other : Nat} (different : number ≠ other)
    (frame : Frame) : (pool.setFrame number frame).frame other = pool.frame other := by
  simp only [Pool.frame, setFrame, Array.getElem?_setIfInBounds, if_neg different]

/-- A change of an occupant acts on its own frame alone, wherever that frame lies. -/
theorem frame_updateFrame (pool : Pool) (number : Nat) (change : Occupant → Occupant)
    (other : Nat) :
    (pool.updateFrame number change).frame other =
      if number = other then (pool.frame number).update change else pool.frame other := by
  by_cases inside : number < pool.size
  · exact frame_setFrame inside _ _
  have past := frame_of_size_le (Nat.le_of_not_lt inside)
  have same : pool.updateFrame number change = pool := by
    simp only [updateFrame, setFrame]
    rw [Array.setIfInBounds_eq_of_size_le (Nat.le_of_not_lt inside)]
  rw [same]
  split
  · next equal => rw [← equal, past]; rfl
  · rfl

@[simp] theorem size_updateFrame (pool : Pool) (number : Nat) (change : Occupant → Occupant) :
    (pool.updateFrame number change).size = pool.size :=
  size_setFrame ..

@[simp] theorem size_remove (pool : Pool) (number : Nat) (key : PageKey) :
    (pool.remove number key).size = pool.size :=
  size_setFrame ..

@[simp] theorem size_install (pool : Pool) (number : Nat) (file : FileIdentity) (page : Page) :
    (pool.install number file page).2.size = pool.size :=
  size_setFrame ..

theorem find?_remove (pool : Pool) (number : Nat) (key other : PageKey) :
    (pool.remove number key).find? other = if key = other then none else pool.find? other :=
  Directory.get?_erase ..

theorem find?_install (pool : Pool) (number : Nat) (file : FileIdentity) (page : Page)
    (other : PageKey) :
    (pool.install number file page).2.find? other =
      if ⟨file, page.number⟩ = other then some number else pool.find? other :=
  Directory.get?_insert ..

theorem frame_install {pool : Pool} {number : Nat} (inside : number < pool.size)
    (file : FileIdentity) (page : Page) (other : Nat) :
    (pool.install number file page).2.frame other =
      if number = other then (pool.frame number).hold file page else pool.frame other :=
  frame_setFrame inside _ other

/-- The handle to a page just put in is accepted. -/
theorem accepts_install {pool : Pool} {number : Nat} (inside : number < pool.size)
    (file : FileIdentity) (page : Page) :
    (pool.install number file page).2.accepts (pool.install number file page).1 := by
  have held := (frame_install inside file page number).trans (if_pos rfl)
  have handle : (pool.install number file page).1 =
      ⟨number, ((pool.frame number).hold file page).generation, ⟨file, page.number⟩⟩ := rfl
  rw [handle, accepts, held]
  simp [Frame.hold, Frame.pins]

/-- A page is seen through exactly the accepted handles. -/
theorem isOk_page_iff (pool : Pool) (handle : Handle) :
    (pool.page handle).isOk = pool.accepts handle := by
  unfold page
  split
  · split <;> simp_all [Except.isOk, Except.toBool]
  · next free => simp [accepts, Frame.pins_of_free free, Except.isOk, Except.toBool]

end Pool

end PageCache
