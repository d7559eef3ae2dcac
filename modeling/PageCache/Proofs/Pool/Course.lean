import PageCache.Proofs.Pool.Stay

/-!
# The course of a pool

A course is any order of actions on one pool, with anything that others do to the files between
them, together with the handles that the pool gave on the way. Main statements: a sound pool stays
sound along every course, and the frame of every handle that was given is in the stay that the
handle names or in a later one.
-/

namespace PageCache

/-- What a list of actions gives and leaves behind. -/
def Pool.carryOut (pool : Pool) (storage : Storage) : List Action → List Handle × World
  | [] => ([], (pool, storage))
  | action :: rest =>
    let first := pool.act storage action
    let later := first.pool.carryOut first.storage rest
    (first.given ++ later.1, later.2)

/-- What a pool and the storage below it can come to, and the handles given until then. -/
inductive Course (start : World) : List Handle → World → Prop
  /-- Nothing has happened yet. -/
  | start : Course start [] start
  /-- The pool carries out one more action. -/
  | act {issued : List Handle} {pool : Pool} {storage : Storage}
      (course : Course start issued (pool, storage)) (action : Action) :
      Course start (issued ++ (pool.act storage action).given)
        ((pool.act storage action).pool, (pool.act storage action).storage)
  /-- Something happens to the files past the pool. -/
  | elsewhere {issued : List Handle} {pool : Pool} {storage later : Storage}
      (course : Course start issued (pool, storage)) (precedes : storage.Precedes later) :
      Course start issued (pool, later)

/-- The frame of the handle is in the stay that the handle names or in a later one. -/
def Handle.Dated (handle : Handle) (pool : Pool) : Prop :=
  handle.generation < (pool.frame handle.frame).generation ∨ handle.Names pool

theorem Handle.Dated.later {handle : Handle} {before after : Pool} (dated : handle.Dated before)
    (continues : (before.frame handle.frame).Continues (after.frame handle.frame)) :
    handle.Dated after := by
  rcases dated with past | ⟨generation, key⟩
  · exact .inl (past.trans_le continues.le)
  · rcases continues with grown | ⟨sameGeneration, sameKey⟩
    · exact .inl (generation ▸ grown)
    · exact .inr ⟨sameGeneration.trans generation, sameKey.trans key⟩

/-- A handle that its pool accepts names the stay of its frame. -/
theorem Handle.Dated.names {handle : Handle} {pool : Pool} (dated : handle.Dated pool)
    (accepted : pool.accepts handle = true) : handle.Names pool := by
  have same : (pool.frame handle.frame).generation = handle.generation := by
    simp only [Pool.accepts, Bool.and_eq_true, beq_iff_eq] at accepted
    exact accepted.2
  rcases dated with past | names
  · exact absurd same past.ne'
  · exact names

theorem Outcome.result_of_given {outcome : Outcome (Option Handle)} {handle : Handle}
    (given : handle ∈ outcome.given) : outcome.result = .ok (some handle) := by
  simp only [Outcome.given] at given
  split at given
  · next held equal =>
    obtain rfl := List.mem_singleton.mp given
    exact equal
  · cases given

namespace Course

variable {start world : World} {issued : List Handle}

/-- Every list of actions continues a course. -/
theorem carryOut {pool : Pool} {storage : Storage}
    (course : Course start issued (pool, storage)) (actions : List Action) :
    Course start (issued ++ (pool.carryOut storage actions).1)
      (pool.carryOut storage actions).2 := by
  induction actions generalizing issued pool storage with
  | nil =>
      rw [Pool.carryOut, List.append_nil]
      exact course
  | cons action rest induction =>
      simp only [Pool.carryOut, ← List.append_assoc]
      exact induction (course.act action)

theorem sound (course : Course start issued world) (sound : start.1.Sound start.2) :
    world.1.Sound world.2 := by
  induction course with
  | start => exact sound
  | act _ action induction => exact induction.act action
  | elsewhere _ precedes induction => exact induction.later precedes

/-- Every frame of the pool continues along a course. -/
theorem continues (course : Course start issued world) (sound : start.1.Sound start.2)
    (number : Nat) : (start.1.frame number).Continues (world.1.frame number) := by
  induction course with
  | start => exact .refl _
  | act course action induction =>
      exact induction.trans ((course.sound sound).continues_act action number)
  | elsewhere _ _ induction => exact induction

/-- Every handle given along a course names a stay that is not past its frame. -/
theorem dated (course : Course start issued world) (sound : start.1.Sound start.2) :
    ∀ handle ∈ issued, handle.Dated world.1 := by
  induction course with
  | start => simp
  | @act _ pool storage course action induction =>
      have reached : pool.Sound storage := course.sound sound
      intro handle given
      rcases List.mem_append.mp given with earlier | now
      · exact (induction handle earlier).later (reached.continues_act action handle.frame)
      · exact .inr (reached.names_act (Outcome.result_of_given now))
  | elsewhere _ _ induction => exact induction

end Course

end PageCache
