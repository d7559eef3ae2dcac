import PageCache.Proofs.Pool.Disposal

/-!
# Resident pages and their files

As long as pages are deleted through the pool alone, the file of every resident page has the page.
Main statement: every action keeps this up, so that a disposal fails only if its page is not
resident.
-/

namespace PageCache

/-- The file of every resident page has the page. -/
structure World.Backed (world : World) : Prop where
  /-- Only pages that were there are deleted. -/
  bounded : world.2.Bounded
  /-- A resident page is live. -/
  live : ∀ key, world.1.find? key ≠ none → world.2.has key = true

/-- A page becomes resident only if its file has it. -/
theorem Pool.find?_ne_none_of_forget {pool : Pool} {key other : PageKey}
    (resident : (pool.forget other).1.find? key ≠ none) :
    other ≠ key ∧ pool.find? key ≠ none := by
  constructor
  · rintro rfl
    exact resident (find?_forget pool other)
  · exact fun absent => resident (find?_forget_of_absent absent other)

theorem Upkeep.backed {before after : World} (step : Upkeep before after) (backed : before.Backed) :
    after.Backed := by
  cases step with
  | tally | unmark | renew => exact ⟨backed.bounded, backed.live⟩
  | clean | refuse =>
      refine ⟨backed.bounded.write _ _, fun key resident => ?_⟩
      rw [Storage.has_write]
      exact backed.live key resident
  | @vacate pool storage number occupant occupied unpinned clean =>
      refine ⟨backed.bounded, fun key resident => backed.live key fun absent => resident ?_⟩
      rw [Pool.find?_remove, absent, ite_self]

theorem Upkeeps.backed {before after : World} (upkeeps : Upkeeps before after)
    (backed : before.Backed) : after.Backed := by
  induction upkeeps with
  | refl => exact backed
  | tail _ step induction => exact step.backed induction

theorem Effect.backed {action : Action} {before after : World}
    {result : Except PoolError (Option Handle)} (effect : Effect action before result after)
    (backed : before.Backed) : after.Backed := by
  induction effect with
  | @load pool storage asked number page inside free absent given =>
      refine ⟨backed.bounded.read _ _, fun key resident => ?_⟩
      rw [Storage.has_read]
      rw [Pool.find?_install] at resident
      split at resident
      · next own =>
        rw [← own, (Storage.number_of_read given).1]
        exact Storage.has_of_read given
      · exact backed.live key resident
  | unread =>
      refine ⟨backed.bounded.read _ _, fun key resident => ?_⟩
      rw [Storage.has_read]
      exact backed.live key resident
  | @create pool storage file number page inside free given =>
      refine ⟨backed.bounded.allocate _, fun key resident => ?_⟩
      obtain ⟨rfl, -⟩ := Storage.next_allocate_of_ok given file
      rw [Pool.find?_install] at resident
      split at resident
      · next own =>
        rw [← own]
        exact backed.bounded.has_allocate given
      · next different =>
        rw [Storage.has_allocate_of_ne storage file (Ne.symm different)]
        exact backed.live key resident
  | @uncreated pool storage file cause refused =>
      refine ⟨backed.bounded.allocate _, fun key resident => ?_⟩
      have live := backed.live key resident
      have known := Storage.lt_next_of_has live
      rw [Storage.has_allocate_of_ne]
      · exact live
      · rintro rfl
        exact Nat.lt_irrefl _ known
  | erase | drop =>
      refine ⟨backed.bounded.delete _ _, fun key resident => ?_⟩
      obtain ⟨different, before⟩ := Pool.find?_ne_none_of_forget resident
      rw [Storage.has_delete, backed.live key before, Bool.true_and, bne_iff_ne]
      exact different
  | handBack _ _ induction => exact induction backed
  | _ => exact ⟨backed.bounded, backed.live⟩

namespace World.Backed

variable {pool : Pool} {storage : Storage}

theorem act (backed : World.Backed (pool, storage)) (sound : pool.Sound storage)
    (action : Action) :
    World.Backed ((pool.act storage action).pool, (pool.act storage action).storage) := by
  obtain ⟨middle, upkeeps, effect⟩ := Pool.effect_act sound.face sound.positive storage action
  exact effect.backed (Upkeeps.backed upkeeps backed)

/-- A disposal fails only if its page is not resident. -/
theorem absent_of_dispose (backed : World.Backed (pool, storage)) {key : PageKey}
    {cause : PoolError} (failed : (pool.act storage (.dispose key)).result = .error cause) :
    pool.find? key = none := by
  by_contra resident
  have live := backed.live key resident
  simp only [Pool.act, Outcome.map, Pool.result_dispose, live, if_true] at failed
  cases failed

end World.Backed

end PageCache
