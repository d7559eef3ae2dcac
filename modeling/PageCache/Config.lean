/-!
# Configuration of a pool

A pool has a fixed number of frames, at least one, and either writes its dirty pages back when it
is dropped or forgets them.
-/

namespace PageCache

/-- The settings with which a pool is made. -/
structure Config where
  /-- The number of frames, fixed for the life of the pool. -/
  frames : Nat := 64
  /-- Whether dropping the pool writes its dirty pages back. -/
  writeBackOnDrop : Bool := true
deriving DecidableEq, Repr

namespace Config

/-- The number of directory entries to make room for: a fifth more than frames, and one. -/
def expectedEntries (config : Config) : Nat := config.frames * 6 / 5 + 1

/-- Why no pool can be made with these settings, if so. -/
def problem? (config : Config) : Option String :=
  if config.frames = 0 then some "num_frames must be > 0" else none

theorem problem?_eq_none_iff (config : Config) : config.problem? = none ↔ 0 < config.frames := by
  unfold problem?
  split <;> simp <;> omega

/-- There is room for an entry for every frame. -/
theorem frames_lt_expectedEntries (config : Config) : config.frames < config.expectedEntries := by
  unfold expectedEntries
  omega

end Config

end PageCache
