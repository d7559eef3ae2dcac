import PageCache.Proofs.Pool.Course
import PageCache.Proofs.Storage.Liveness

/-!
# The history of a pool

A history tells every action of a pool, the latest first, with what it found. Between two actions
anything may happen to the files past the pool by which they grow older. Main statements: a history
is a course, and whatever a pool does makes the files below it older, so that the actions of other
pools are among the things that may happen.
-/

namespace PageCache

/-- An action of a client, with the pool and the storage that it found. -/
structure Moment where
  /-- The pool before. -/
  pool : Pool
  /-- The storage before. -/
  storage : Storage
  /-- What the client asked for. -/
  action : Action

namespace Moment

/-- What the action gave and left behind. -/
def outcome (moment : Moment) : Outcome (Option Handle) :=
  moment.pool.act moment.storage moment.action

/-- The handles that were given, where the latest moment comes first and the latest handle last. -/
def issued : List Moment → List Handle
  | [] => []
  | moment :: past => issued past ++ moment.outcome.given

theorem issued_append (further past : List Moment) :
    issued (further ++ past) = issued past ++ issued further := by
  induction further with
  | nil => exact (List.append_nil _).symm
  | cons moment further induction =>
      simp only [List.cons_append, issued, induction, List.append_assoc]

end Moment

/-- What a list of actions leaves behind, and what was done, the latest first. -/
def Pool.recount (pool : Pool) (storage : Storage) (past : List Moment) :
    List Action → List Moment × World
  | [] => (past, pool, storage)
  | action :: rest =>
    (pool.act storage action).pool.recount (pool.act storage action).storage
      (⟨pool, storage, action⟩ :: past) rest

/-- What a pool and the storage below it can come to, and what was done until then. -/
inductive History (start : World) : List Moment → World → Prop
  /-- Nothing has happened yet. -/
  | start : History start [] start
  /-- The pool carries out one more action. -/
  | act {past : List Moment} {pool : Pool} {storage : Storage}
      (history : History start past (pool, storage)) (action : Action) :
      History start (⟨pool, storage, action⟩ :: past)
        ((pool.act storage action).pool, (pool.act storage action).storage)
  /-- Something happens to the files past the pool. -/
  | elsewhere {past : List Moment} {pool : Pool} {storage later : Storage}
      (history : History start past (pool, storage)) (ages : storage.Ages later) :
      History start past (pool, later)

namespace History

variable {start world later : World} {past further : List Moment}

theorem trans (history : History start past world) (onward : History world further later) :
    History start (further ++ past) later := by
  induction onward with
  | start => exact history
  | act _ action induction => exact induction.act action
  | elsewhere _ ages induction => exact induction.elsewhere ages

/-- Every list of actions continues a history. -/
theorem recount {pool : Pool} {storage : Storage} (history : History start past (pool, storage))
    (actions : List Action) :
    History start (pool.recount storage past actions).1 (pool.recount storage past actions).2 := by
  induction actions generalizing past pool storage with
  | nil => exact history
  | cons action rest induction => exact induction (history.act action)

theorem course (history : History start past world) : Course start (Moment.issued past) world := by
  induction history with
  | start => exact .start
  | act _ action induction => exact induction.act action
  | elsewhere _ ages induction => exact induction.elsewhere ages.precedes

theorem sound (history : History start past world) (sound : start.1.Sound start.2) :
    world.1.Sound world.2 :=
  history.course.sound sound

end History

/-! ## Files grow older -/

theorem Upkeep.ages {before after : World} (step : Upkeep before after) :
    before.2.Ages after.2 := by
  cases step with
  | clean | refuse => exact Storage.ages_write ..
  | _ => exact .refl _

theorem Upkeeps.ages {before after : World} (upkeeps : Upkeeps before after) :
    before.2.Ages after.2 := by
  induction upkeeps with
  | refl => exact .refl _
  | tail _ step induction => exact induction.trans step.ages

theorem Effect.ages {action : Action} {before after : World}
    {result : Except PoolError (Option Handle)} (effect : Effect action before result after) :
    before.2.Ages after.2 := by
  induction effect with
  | load | unread => exact Storage.ages_read ..
  | create | uncreated => exact Storage.ages_allocate ..
  | erase | drop => exact Storage.ages_delete ..
  | handBack _ _ induction => exact induction
  | _ => exact .refl _

/-- Every action makes the files below a pool older. -/
theorem Pool.Sound.ages_act {pool : Pool} {storage : Storage} (sound : pool.Sound storage)
    (action : Action) : storage.Ages (pool.act storage action).storage := by
  obtain ⟨middle, upkeeps, effect⟩ := effect_act sound.face sound.positive storage action
  exact (Upkeeps.ages upkeeps).trans effect.ages

end PageCache
