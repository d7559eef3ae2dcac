/-!
# The clock

A clock points its hand at one of a fixed number of frames and moves it to the next frame in
cyclic order. A new clock points at the last frame, so the first move reaches frame zero.
-/

namespace PageCache

/-- A hand over frames in cyclic order. -/
structure Clock where
  /-- The number of frames on the face. -/
  frames : Nat
  /-- The frame at which the hand points. -/
  hand : Nat
deriving DecidableEq, Repr

namespace Clock

/-- The clock at rest on its last frame. -/
def start (frames : Nat) : Clock := ⟨frames, frames - 1⟩

/-- The clock with its hand on the next frame. -/
def tick (clock : Clock) : Clock := { clock with hand := (clock.hand + 1) % clock.frames }

/-- The clock with its hand on the next frame, if there are any frames. -/
def tick? (clock : Clock) : Option Clock :=
  if clock.frames = 0 then none else some clock.tick

/-- The frames passed in a number of moves, the present one first, if every move has a frame. -/
def positions? (clock : Clock) : Nat → Option (List Nat)
  | 0 => some [clock.hand]
  | moves + 1 => do
      let next ← clock.tick?
      return clock.hand :: (← next.positions? moves)

@[simp] theorem frames_start (frames : Nat) : (start frames).frames = frames := rfl

@[simp] theorem frames_tick (clock : Clock) : clock.tick.frames = clock.frames := rfl

theorem hand_tick (clock : Clock) : clock.tick.hand = (clock.hand + 1) % clock.frames := rfl

theorem hand_start_lt {frames : Nat} (positive : 0 < frames) : (start frames).hand < frames :=
  Nat.sub_lt positive Nat.one_pos

theorem hand_tick_lt {clock : Clock} (positive : 0 < clock.frames) :
    clock.tick.hand < clock.frames :=
  Nat.mod_lt _ positive

/-- A move goes to the next frame, and from the last frame to the first. -/
theorem hand_tick_eq_ite {clock : Clock} (inside : clock.hand < clock.frames) :
    clock.tick.hand = if clock.hand + 1 = clock.frames then 0 else clock.hand + 1 := by
  rw [hand_tick]
  split
  · next last => rw [last, Nat.mod_self]
  · next before => exact Nat.mod_eq_of_lt (by omega)

end Clock

end PageCache
