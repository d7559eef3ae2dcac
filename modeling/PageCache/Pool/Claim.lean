import PageCache.Pool.Sweep
import PageCache.Pool.WriteBack

/-!
# Claiming a frame

A page needs a frame of its own. The sweep of the clock finds one; if another page has to give way,
it is written back first, and a failure to do so leaves it where it was.
-/

namespace PageCache.Pool

/-- Makes the page in a frame give way, which counts as an eviction. A frame without a page is never
asked: a sweep finds it free. -/
def evict (pool : Pool) (storage : Storage) (number : Nat) : Outcome Nat :=
  match (pool.frame number).key? with
  | none => .done number pool storage []
  | some key =>
    .done number
      ((pool.remove number key).count fun stats => { stats with evictions := stats.evictions + 1 })
      storage [.evicting key number]

/-- Finds a frame for a new page and makes it free. -/
def claim (pool : Pool) (storage : Storage) : Outcome Nat :=
  let swept := pool.sweep
  match swept.1 with
  | .free number => .done number (swept.2.clearFrame number) storage []
  | .victim number =>
    (swept.2.writeBack storage number).andThen fun _ pool storage => pool.evict storage number
  | .exhausted =>
    .failed (.exhausted swept.2.size) swept.2 storage [.exhausted swept.2.size]

@[simp] theorem storage_evict (pool : Pool) (storage : Storage) (number : Nat) :
    (pool.evict storage number).storage = storage := by
  unfold evict
  split <;> rfl

@[simp] theorem size_evict (pool : Pool) (storage : Storage) (number : Nat) :
    (pool.evict storage number).pool.size = pool.size := by
  unfold evict
  split
  · rfl
  · next key _ => exact size_remove pool number key

@[simp] theorem size_claim (pool : Pool) (storage : Storage) :
    (pool.claim storage).pool.size = pool.size := by
  unfold claim
  dsimp only
  split
  · exact (size_setFrame ..).trans pool.size_sweep
  · refine Outcome.andThen_induction (fun after _ => after.size = pool.size) ?_ ?_
    · rw [size_writeBack, size_sweep]
    · intro _ after storage kept
      rw [size_evict, kept]
  · exact pool.size_sweep

end PageCache.Pool
