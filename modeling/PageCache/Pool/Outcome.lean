import PageCache.Pool.Basic
import PageCache.Storage.Basic

/-!
# Outcomes

An operation on a pool either gives a value or fails. In both cases it leaves a pool and a storage
behind and tells the events that happened on the way.
-/

namespace PageCache

/-- What an operation on a pool gives and leaves behind. -/
structure Outcome (Value : Type) where
  /-- The value, or why there is none. -/
  result : Except PoolError Value
  /-- The pool afterwards. -/
  pool : Pool
  /-- The storage afterwards. -/
  storage : Storage
  /-- What happened, the earliest first. -/
  events : List Event

namespace Outcome

variable {Value Next : Type}

/-- The outcome of an operation that gives a value. -/
def done (value : Value) (pool : Pool) (storage : Storage) (events : List Event) :
    Outcome Value :=
  ⟨.ok value, pool, storage, events⟩

/-- The outcome of an operation that fails. -/
def failed (cause : PoolError) (pool : Pool) (storage : Storage) (events : List Event) :
    Outcome Value :=
  ⟨.error cause, pool, storage, events⟩

/-- The outcome of two operations, where the second is not tried if the first fails. -/
def andThen (first : Outcome Value) (second : Value → Pool → Storage → Outcome Next) :
    Outcome Next :=
  match first.result with
  | .ok value =>
    let rest := second value first.pool first.storage
    { rest with events := first.events ++ rest.events }
  | .error cause => failed cause first.pool first.storage first.events

/-- The outcome of two operations, where the second is tried even if the first fails, and a failure
of the first is only reported. -/
def regardless (first : Outcome Unit) (report : PoolError → Event)
    (second : Pool → Storage → Outcome Unit) : Outcome Unit :=
  let rest := second first.pool first.storage
  match first.result with
  | .ok () => { rest with events := first.events ++ rest.events }
  | .error cause => { rest with events := first.events ++ report cause :: rest.events }

@[simp] theorem done_andThen (value : Value) (pool : Pool) (storage : Storage)
    (events : List Event) (second : Value → Pool → Storage → Outcome Next) :
    (done value pool storage events).andThen second =
      { second value pool storage with events := events ++ (second value pool storage).events } :=
  rfl

@[simp] theorem failed_andThen (cause : PoolError) (pool : Pool) (storage : Storage)
    (events : List Event) (second : Value → Pool → Storage → Outcome Next) :
    (failed cause pool storage events : Outcome Value).andThen second =
      failed cause pool storage events :=
  rfl

theorem andThen_of_ok {first : Outcome Value} {value : Value} (given : first.result = .ok value)
    (second : Value → Pool → Storage → Outcome Next) :
    first.andThen second =
      { second value first.pool first.storage with
        events := first.events ++ (second value first.pool first.storage).events } := by
  simp only [andThen, given]

theorem andThen_of_error {first : Outcome Value} {cause : PoolError}
    (refused : first.result = .error cause) (second : Value → Pool → Storage → Outcome Next) :
    first.andThen second = failed cause first.pool first.storage first.events := by
  simp only [andThen, refused]

/-- If two operations give a value, so does the first. -/
theorem exists_of_andThen {first : Outcome Value}
    {second : Value → Pool → Storage → Outcome Next} {next : Next}
    (given : (first.andThen second).result = .ok next) :
    ∃ value, first.result = .ok value ∧
      (second value first.pool first.storage).result = .ok next := by
  cases result : first.result with
  | error cause => simp [andThen_of_error result, failed] at given
  | ok value => exact ⟨value, rfl, by simpa [andThen_of_ok result] using given⟩

/-- A property of the pool and the storage holds after two operations if it holds after the first
and the second keeps it. -/
theorem andThen_induction (Good : Pool → Storage → Prop) {first : Outcome Value}
    {second : Value → Pool → Storage → Outcome Next}
    (base : Good first.pool first.storage)
    (step : ∀ value pool storage, Good pool storage →
      Good (second value pool storage).pool (second value pool storage).storage) :
    Good (first.andThen second).pool (first.andThen second).storage := by
  unfold andThen
  split
  · exact step _ _ _ base
  · exact base

/-- A property of the pool and the storage holds after two operations if it holds after the first
and the second keeps it, whether or not the first fails. -/
theorem regardless_induction (Good : Pool → Storage → Prop) {first : Outcome Unit}
    {report : PoolError → Event} {second : Pool → Storage → Outcome Unit}
    (base : Good first.pool first.storage)
    (step : ∀ pool storage, Good pool storage →
      Good (second pool storage).pool (second pool storage).storage) :
    Good (first.regardless report second).pool (first.regardless report second).storage := by
  unfold regardless
  split <;> exact step _ _ base

end Outcome

end PageCache
