import PageCache.Storage.Error

/-!
# Failures of a pool
-/

namespace PageCache

/-- Why a pool refused an operation. -/
inductive PoolError where
  /-- A frame was needed while every frame was pinned. -/
  | exhausted (frames : Nat)
  /-- A release came for a resident page without pins. -/
  | notPinned (key : PageKey) (frame : Nat)
  /-- A flush met a page in use. -/
  | stillPinned (key : PageKey) (frame : Nat)
  /-- The marks of a frame contradict each other. -/
  | corruptFrame (frame : Nat) (valid dirty referenced : Bool)
  /-- The handle outlived its pin. -/
  | staleHandle (frame page : Nat)
  /-- No pool can be made with the settings. -/
  | config (problem : String)
  /-- A file of pages refused. -/
  | storage (cause : BackingError)
deriving DecidableEq, Repr

namespace PoolError

/-- The wording of a failure. -/
def message : PoolError → String
  | exhausted frames => s!"buffer pool exhausted: all {frames} frames are pinned"
  | notPinned key frame => s!"{key} in frame {frame} is not pinned"
  | stillPinned key frame => s!"{key} in frame {frame} is still pinned"
  | corruptFrame frame valid dirty referenced =>
    s!"corrupt frame {frame}: valid={valid} dirty={dirty} referenced={referenced}"
  | staleHandle frame page => s!"stale handle for page {page} in frame {frame}"
  | config problem => s!"configuration error: {problem}"
  | storage cause => cause.message

/-- Whether the same call can succeed later: only exhaustion ends by itself, with a release. -/
def retryable : PoolError → Bool
  | exhausted _ => true
  | _ => false

end PoolError

end PageCache
