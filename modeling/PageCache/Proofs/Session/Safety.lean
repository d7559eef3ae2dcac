import PageCache.Proofs.Pool.Checked
import PageCache.Proofs.Session.Course

/-!
# Safety of a session

Several pools share files, clients use the files past the pools, and a handle may be used with any
pool. Main statement: whatever a session does, no check of a pool ever fails.
-/

namespace PageCache

/-- No check of a pool fails, whatever is asked of it. -/
structure Pool.Safe (pool : Pool) (storage : Storage) : Prop where
  /-- Every action can be carried out. -/
  act : ∀ action, pool.act? storage action = some (pool.act storage action)
  /-- Every handle can be tried. -/
  page : ∀ handle, pool.page? handle = some (pool.page handle)
  /-- The pool can be dropped. -/
  drop : pool.drop? storage = some (pool.drop storage)

theorem Pool.Steady.safe {pool : Pool} {storage : Storage} (steady : pool.Steady storage) :
    pool.Safe storage :=
  ⟨steady.act?_eq, pool.page?_eq, pool.drop?_eq storage⟩

namespace Session

/-- After every list of operations no check of any pool fails. -/
theorem safe_run (system : FileSystem) (level : Level) (operations : List Operation)
    {number : Nat} {pool : Pool}
    (found : ((start { Storage.empty with system } level).run operations).2.pools.get? number =
      some pool) (word : pool.size ≤ wordLimit) :
    pool.Safe ((start { Storage.empty with system } level).run operations).2.storage := by
  have ordered := (ordered_start system level).run operations
  have reached := ordered.reached number pool found
  obtain ⟨config, new, base, issued, made, course⟩ := reached
  exact Pool.Steady.safe ⟨course.sound (Pool.sound_ofConfig made base), course.hand_lt made, word⟩

end Session

end PageCache
