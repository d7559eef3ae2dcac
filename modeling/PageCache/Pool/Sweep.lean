import PageCache.Pool.Basic

/-!
# The sweep of the clock

To find a frame for a new page the clock visits one frame after the other. A free frame is taken at
once. A referenced page loses its mark and stays, a pinned page stays, and the first page that is
neither gives way. Visits to pinned pages are counted, and each mark that is cleared starts the
count anew, so that a full round of them means that every frame is pinned. Marks are only cleared
during a sweep, so two rounds are always enough.
-/

namespace PageCache

/-- How a sweep ends. -/
inductive Finding where
  /-- The sweep found a free frame. -/
  | free (frame : Nat)
  /-- The sweep found a page that can give way. -/
  | victim (frame : Nat)
  /-- Every frame is pinned. -/
  | exhausted
deriving DecidableEq, Repr

/-- A sweep under way. -/
structure Sweep where
  /-- The clock, its hand on the frame visited last. -/
  clock : Clock
  /-- The frames, some with their marks cleared. -/
  frames : Array Frame
  /-- The number of pinned frames visited since a mark was cleared. -/
  blocked : Nat

namespace Sweep

/-- Visits the next frame: the finding that ends the sweep, if any, and the sweep afterwards. -/
def step (sweep : Sweep) : Option Finding × Sweep :=
  let clock := sweep.clock.tick
  let frame := sweep.frames[clock.hand]?.getD .fresh
  match frame.verdict with
  | .claim => (some (.free clock.hand), { sweep with clock })
  | .spare =>
    (none, ⟨clock, sweep.frames.setIfInBounds clock.hand (frame.update Occupant.unmarked), 0⟩)
  | .pass =>
    let blocked := sweep.blocked + 1
    (if sweep.frames.size ≤ blocked then some .exhausted else none, { sweep with clock, blocked })
  | .evict => (some (.victim clock.hand), { sweep with clock })

/-- At most so many visits: the finding, if there is one by then, and the sweep afterwards. -/
def run : Nat → Sweep → Option Finding × Sweep
  | 0, sweep => (none, sweep)
  | visits + 1, sweep =>
    match sweep.step with
    | (some finding, after) => (some finding, after)
    | (none, after) => run visits after

@[simp] theorem size_frames_step (sweep : Sweep) :
    sweep.step.2.frames.size = sweep.frames.size := by
  unfold step
  dsimp only
  split <;> simp

@[simp] theorem clock_step (sweep : Sweep) : sweep.step.2.clock = sweep.clock.tick := by
  unfold step
  dsimp only
  split <;> rfl

@[simp] theorem size_frames_run (visits : Nat) (sweep : Sweep) :
    (run visits sweep).2.frames.size = sweep.frames.size := by
  induction visits generalizing sweep with
  | zero => rfl
  | succ visits induction =>
    have visited := size_frames_step sweep
    unfold run
    split
    · next finding after equal => simpa only [equal] using visited
    · next after equal => rw [induction after, ← visited, equal]

end Sweep

/-- The finding of a whole sweep, and the pool with its hand moved and its marks cleared. -/
def Pool.sweep (pool : Pool) : Finding × Pool :=
  let swept := Sweep.run (2 * pool.size) ⟨pool.clock, pool.frames, 0⟩
  (swept.1.getD .exhausted, { pool with clock := swept.2.clock, frames := swept.2.frames })

@[simp] theorem Pool.size_sweep (pool : Pool) : pool.sweep.2.size = pool.size :=
  Sweep.size_frames_run _ _

@[simp] theorem Pool.find?_sweep (pool : Pool) (key : PageKey) :
    pool.sweep.2.find? key = pool.find? key :=
  rfl

end PageCache
