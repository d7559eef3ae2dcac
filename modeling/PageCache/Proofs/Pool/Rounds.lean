import Mathlib.Data.List.Nodup
import PageCache.Proofs.Pool.Selection

/-!
# The rounds of the clock

The hand of a clock goes over the frames in turn and begins anew after the last one. A machine keeps
the clock in two words, where the number past the hand could overflow; but the hand stays below the
number of frames, which is a word itself, so that this number always fits. Main statement: for every
number of frames that a word holds, except zero, no move of a new clock fails, the moves reach the
frames in turn from frame zero on, and from wherever they have led to, as many moves as there are
frames reach each of them exactly once. The clock of a pool is always such a clock.
-/

namespace PageCache

namespace Clock

variable {clock : Clock}

/-- The frames that the hand reaches in a number of moves, one after the other. -/
def landings (clock : Clock) (moves : Nat) : List Nat :=
  (List.range moves).map fun move => clock.reach (move + 1)

theorem iterate_tick (inside : clock.hand < clock.frames) (moves : Nat) :
    tick^[moves] clock = clock.after moves := by
  induction moves with
  | zero => exact (after_zero inside).symm
  | succ moves induction => rw [Function.iterate_succ_apply', induction, tick_after]

theorem after_tick (inside : clock.hand < clock.frames) (moves : Nat) :
    clock.tick.after moves = clock.after (moves + 1) := by
  have still : clock.tick.hand < clock.tick.frames := hand_tick_lt (Nat.zero_lt_of_lt inside)
  rw [← iterate_tick still, ← iterate_tick inside, Function.iterate_succ_apply]

theorem landings_succ (inside : clock.hand < clock.frames) (moves : Nat) :
    clock.landings (moves + 1) = clock.tick.hand :: clock.tick.landings moves := by
  have later (move : Nat) : clock.tick.reach (move + 1) = clock.reach (move + 1 + 1) :=
    congrArg hand (after_tick inside (move + 1))
  simp only [landings, List.range_succ_eq_map, List.map_cons, List.map_map, later]
  rfl

/-- A whole round ends where it began. -/
theorem after_frames (inside : clock.hand < clock.frames) : clock.after clock.frames = clock := by
  have around : clock.reach clock.frames = clock.reach 0 := by
    rw [← reach_add_frames clock 0, Nat.zero_add]
  calc clock.after clock.frames = clock.after 0 := by rw [after, around]; rfl
    _ = clock := after_zero inside

/-- A new clock comes to the frames in turn, first to frame zero. -/
theorem landings_start {frames : Nat} (positive : 0 < frames) (moves : Nat) :
    (start frames).landings moves = (List.range moves).map fun move => move % frames := by
  refine List.map_congr_left fun move _ => ?_
  have turn : frames - 1 + (move + 1) = frames + move := by omega
  calc (frames - 1 + (move + 1)) % frames = (frames + move) % frames := by rw [turn]
    _ = move % frames := Nat.add_mod_left frames move

/-- Every move of a hand that is on a frame succeeds. -/
theorem positions?_eq (inside : clock.hand < clock.frames) (moves : Nat) :
    clock.positions? moves = some (clock.hand :: clock.landings moves) := by
  induction moves generalizing clock with
  | zero => rfl
  | succ moves induction =>
      have positive : 0 < clock.frames := Nat.zero_lt_of_lt inside
      have ticks : clock.tick? = some clock.tick := if_neg positive.ne'
      simp only [positions?, ticks, induction (hand_tick_lt positive), landings_succ inside,
        Option.bind_eq_bind, Option.bind_some, Option.pure_def]

theorem nodup_order (clock : Clock) : clock.order.Nodup := by
  refine List.Nodup.map_on (fun first before second below same => ?_) List.nodup_range
  rw [List.mem_range] at before below
  have apart : clock.hand + (first + 1) ≡ clock.hand + (second + 1) [MOD clock.frames] := same
  exact Nat.ModEq.eq_of_lt_of_lt apart.add_left_cancel'.add_right_cancel' before below

/-- In one round every frame has its turn, and none of them twice. -/
theorem landings_perm_range (clock : Clock) :
    (clock.landings clock.frames).Perm (List.range clock.frames) := by
  change clock.order.Perm _
  refine (List.perm_ext_iff_of_nodup clock.nodup_order List.nodup_range).mpr fun number => ?_
  rw [List.mem_range]
  refine ⟨fun member => ?_, mem_order_of_lt⟩
  obtain ⟨move, before, reached⟩ := (mem_order clock number).mp member
  rw [← reached]
  exact reach_lt (Nat.zero_lt_of_lt before) (move + 1)

end Clock

/-! ## Clocks in words -/

/-- A clock as a machine keeps it. -/
structure WordClock where
  /-- The number of frames on the face. -/
  frames : UInt64
  /-- The frame at which the hand points. -/
  hand : UInt64
deriving DecidableEq, Repr

namespace WordClock

/-- The clock at rest on its last frame, or on frame zero if there is none. -/
def start (frames : UInt64) : WordClock := ⟨frames, if frames = 0 then 0 else frames - 1⟩

/-- The clock with its hand on the next frame, if the sum before the remainder does not overflow and
there is a frame. -/
def advance? (clock : WordClock) : Option WordClock :=
  if clock.hand.toNat + 1 < UInt64.size ∧ clock.frames ≠ 0 then
    some ⟨clock.frames, (clock.hand + 1) % clock.frames⟩
  else none

/-- The frames reached in a number of moves and the clock afterwards, if every move succeeds. -/
def run? (clock : WordClock) : Nat → Option (List UInt64 × WordClock)
  | 0 => some ([], clock)
  | moves + 1 => do
    let next ← clock.advance?
    let rest ← next.run? moves
    return (next.hand :: rest.1, rest.2)

/-- The clock for which the words stand. -/
def value (clock : WordClock) : Clock := ⟨clock.frames.toNat, clock.hand.toNat⟩

theorem hand_value_lt_iff {clock : WordClock} :
    clock.value.hand < clock.value.frames ↔ clock.hand < clock.frames :=
  UInt64.lt_iff_toNat_lt.symm

theorem value_injective : Function.Injective value := by
  rintro ⟨frames, hand⟩ ⟨otherFrames, otherHand⟩ same
  obtain ⟨sameFrames, sameHand⟩ := Clock.mk.inj same
  exact congr (congrArg mk (UInt64.toNat_inj.mp sameFrames)) (UInt64.toNat_inj.mp sameHand)

theorem value_start (frames : UInt64) : (start frames).value = .start frames.toNat := by
  by_cases none : frames = 0
  · subst none
    rfl
  · have one_le : (1 : UInt64) ≤ frames := by
      rw [UInt64.le_iff_toNat_le, UInt64.toNat_one]
      exact Nat.one_le_iff_ne_zero.mpr fun zero => none (UInt64.toNat_inj.mp zero)
    rw [start, if_neg none, value, UInt64.toNat_sub_of_le _ _ one_le, UInt64.toNat_one, Clock.start]

/-- Without an overflow a move in words is a move of the clock for which the words stand. -/
theorem value_tick {clock : WordClock} (fits : clock.hand.toNat + 1 < UInt64.size) :
    value ⟨clock.frames, (clock.hand + 1) % clock.frames⟩ = clock.value.tick := by
  have sum : (clock.hand + 1).toNat = clock.hand.toNat + 1 := by
    rw [UInt64.toNat_add, UInt64.toNat_one, Nat.mod_eq_of_lt fits]
  simp only [value, UInt64.toNat_mod, sum, Clock.tick]

/-- The checks in words are those of the clock for which the words stand. -/
theorem map_value_advance? (clock : WordClock) :
    clock.advance?.map value = clock.value.advance? := by
  have word : clock.hand.toNat + 1 < UInt64.size ↔ clock.value.hand < wordLimit :=
    Nat.succ_lt_succ_iff
  have face : clock.frames = 0 ↔ clock.value.frames = 0 := UInt64.toNat_inj.symm
  simp only [Clock.advance?, Clock.tick?, ← word, ← face, advance?]
  by_cases fits : clock.hand.toNat + 1 < UInt64.size
  · by_cases none : clock.frames = 0
    · simp [none]
    · simp [fits, none, value_tick fits]
  · simp [fits]

variable {clock : WordClock} {frames : UInt64}

/-- The number past a hand that is on a frame fits into a word. -/
theorem fits (inside : clock.hand < clock.frames) : clock.hand.toNat + 1 < UInt64.size :=
  (Nat.succ_le_of_lt (hand_value_lt_iff.mpr inside)).trans_lt clock.frames.toNat_lt_size

/-- From a hand that is on a frame every move succeeds. -/
theorem exists_advance? (inside : clock.hand < clock.frames) :
    ∃ next, clock.advance? = some next ∧ next.value = clock.value.tick := by
  have word : clock.value.frames ≤ wordLimit := Nat.le_of_lt_succ clock.frames.toNat_lt_size
  have moves := Clock.advance?_eq (hand_value_lt_iff.mpr inside) word
  rw [← map_value_advance?] at moves
  exact Option.map_eq_some_iff.mp moves

/-- From a hand that is on a frame any number of moves succeeds, and they reach the frames that the
clock for which the words stand reaches. -/
theorem exists_run? (inside : clock.hand < clock.frames) (moves : Nat) :
    ∃ landed last, clock.run? moves = some (landed, last) ∧
      last.value = clock.value.after moves ∧
      landed.map UInt64.toNat = clock.value.landings moves := by
  induction moves generalizing clock with
  | zero => exact ⟨[], clock, rfl, (Clock.after_zero (hand_value_lt_iff.mpr inside)).symm, rfl⟩
  | succ moves induction =>
      -- The hand is on a frame again after the first move, so that the others succeed as well.
      have on := hand_value_lt_iff.mpr inside
      obtain ⟨next, moved, value⟩ := exists_advance? inside
      have still : next.hand < next.frames := by
        rw [← hand_value_lt_iff, value]
        exact Clock.hand_tick_lt (Nat.zero_lt_of_lt on)
      obtain ⟨landed, last, run, reached, lands⟩ := induction still
      refine ⟨next.hand :: landed, last, ?_, ?_, ?_⟩
      · simp only [run?, moved, run, Option.bind_eq_bind, Option.bind_some, Option.pure_def]
      · rw [reached, value, Clock.after_tick on]
      · have first : next.hand.toNat = clock.value.tick.hand := congrArg Clock.hand value
        rw [List.map_cons, lands, value, first, Clock.landings_succ on]

example : (start 3).run? 4 = some ([0, 1, 2, 0], ⟨3, 0⟩) := by decide

/-- A round in words reaches every frame once and ends where it began. -/
theorem exists_round (inside : clock.hand < clock.frames) :
    ∃ round, clock.run? clock.frames.toNat = some (round, clock) ∧
      (round.map UInt64.toNat).Perm (List.range clock.frames.toNat) := by
  obtain ⟨round, last, run, reached, lands⟩ := exists_run? inside clock.frames.toNat
  have back : last.value = clock.value :=
    reached.trans (Clock.after_frames (hand_value_lt_iff.mpr inside))
  obtain rfl := value_injective back
  refine ⟨round, run, ?_⟩
  rw [lands]
  exact last.value.landings_perm_range

/-- What is so after a number of moves of a new clock. -/
structure Turned (frames : UInt64) (moves : Nat) (landed : List UInt64) (clock : WordClock) :
    Prop where
  /-- None of the moves failed. -/
  run : (start frames).run? moves = some (landed, clock)
  /-- The moves went over the frames in turn, first to frame zero. -/
  turns : landed.map UInt64.toNat = (List.range moves).map fun move => move % frames.toNat
  /-- The clock of numbers went the same way. -/
  positions : (Clock.start frames.toNat).positions? moves =
    some ((Clock.start frames.toNat).hand :: landed.map UInt64.toNat)
  /-- It has come to the same place. -/
  value : clock.value = Clock.tick^[moves] (.start frames.toNat)
  /-- The hand is on a frame. -/
  inside : clock.hand < frames
  /-- The number past the hand does not overflow. -/
  fits : clock.hand.toNat + 1 < UInt64.size
  /-- The next moves, as many as there are frames, reach every frame exactly once. -/
  round : ∃ round, clock.run? frames.toNat = some (round, clock) ∧
    (round.map UInt64.toNat).Perm (List.range frames.toNat)

/-- The start is on a frame, and every move from there goes to a frame again. -/
theorem exists_turned (face : frames ≠ 0) (moves : Nat) :
    ∃ landed clock, Turned frames moves landed clock := by
  have positive : 0 < frames.toNat := Nat.pos_of_ne_zero fun zero => face (UInt64.toNat_inj.mp zero)
  have value := value_start frames
  have on : (Clock.start frames.toNat).hand < (Clock.start frames.toNat).frames :=
    Clock.hand_start_lt positive
  have begins : (start frames).hand < (start frames).frames := by
    rw [← hand_value_lt_iff, value]
    exact on
  obtain ⟨landed, clock, run, reached, lands⟩ := exists_run? begins moves
  rw [value] at reached lands
  have same : clock.frames = frames := UInt64.toNat_inj.mp (congrArg Clock.frames reached)
  have inside : clock.hand < clock.frames := by
    rw [← hand_value_lt_iff, reached]
    exact Clock.reach_lt positive moves
  refine ⟨landed, clock, run, ?_, ?_, ?_, same ▸ inside, fits inside, same ▸ exists_round inside⟩
  · rw [lands, Clock.landings_start positive]
  · rw [lands, Clock.positions?_eq on]
  · rw [reached, Clock.iterate_tick on]

end WordClock

/-! ## The clock of a pool -/

/-- Every visit moves the hand on by one frame. -/
theorem Sweep.exists_clock_run (visits : Nat) (sweep : Sweep) :
    ∃ moves, (run visits sweep).2.clock = Clock.tick^[moves] sweep.clock := by
  induction visits generalizing sweep with
  | zero => exact ⟨0, rfl⟩
  | succ visits induction =>
      have clock := clock_step sweep
      rw [run]
      split
      · next finding after equal =>
        rw [equal] at clock
        exact ⟨1, clock⟩
      · next after equal =>
        rw [equal] at clock
        obtain ⟨moves, moved⟩ := induction after
        refine ⟨moves + 1, ?_⟩
        rw [moved, clock, Function.iterate_succ_apply]

/-- Along a course the clock does nothing but move on from frame to frame. -/
theorem Course.exists_clock {start world : World} {issued : List Handle}
    (course : Course start issued world) :
    ∃ moves, world.1.clock = Clock.tick^[moves] start.1.clock := by
  induction course with
  | start => exact ⟨0, rfl⟩
  | @act _ pool storage _ action induction =>
      obtain ⟨moves, before⟩ := induction
      rcases Pool.clock_act pool storage action with same | swept
      · exact ⟨moves, same.trans before⟩
      · obtain ⟨visits, visited⟩ :=
          Sweep.exists_clock_run (2 * pool.size) ⟨pool.clock, pool.frames, 0⟩
        refine ⟨visits + moves, ?_⟩
        rw [Function.iterate_add_apply, ← before]
        exact swept.trans visited
  | elsewhere _ _ induction => exact induction

namespace WordClock

/-- For every number of frames that a word holds, except zero, a new clock can be moved on any
number of times without an overflow. The moves land on the frames in turn, so that the one with
number `k`, counted from one, lands on the frame `k - 1` modulo the number of frames; the hand is
always on a frame; and from wherever it is, one round of moves reaches every frame exactly once.
Along every course the clock of a pool with so many frames is one of these. -/
theorem goes_round_fairly {frames : UInt64} (face : frames ≠ 0) :
    (∀ moves, ∃ landed clock, Turned frames moves landed clock) ∧
      ∀ {config : Config} {new : Pool} {base : Storage} {issued : List Handle} {world : World},
        config.frames = frames.toNat → Pool.ofConfig config = .ok new →
          Course (new, base) issued world →
            ∃ moves landed clock, Turned frames moves landed clock ∧
              clock.value = world.1.clock := by
  refine ⟨exists_turned face, fun size made course => ?_⟩
  obtain ⟨moves, moved⟩ := course.exists_clock
  obtain ⟨landed, clock, turned⟩ := exists_turned face moves
  obtain rfl := Pool.eq_empty_of_made made
  refine ⟨moves, landed, clock, turned, ?_⟩
  rw [turned.value, moved, Pool.empty, size]

/-- The largest number of frames, with the hand past its first round; and three frames, of which the
second gives way to the fourth page. -/
theorem goes_round_fairly_at_word_limit :
    (18446744073709551615 : UInt64) ≠ 0 ∧
      (∃ landed clock, Turned 18446744073709551615 18446744073709551617 landed clock ∧
        clock.hand = 1) ∧
      ∃ world : World,
        world = ((Pool.empty ⟨3, true⟩).carryOut (.withSeeded 4)
          [.fetch ⟨⟨1⟩, 0⟩, .fetch ⟨⟨1⟩, 1⟩, .fetch ⟨⟨1⟩, 2⟩, .releasePage ⟨⟨1⟩, 1⟩ false,
            .fetch ⟨⟨1⟩, 3⟩]).2 ∧
        world.1.clock = ⟨3, 1⟩ ∧
        ∃ moves landed clock, Turned 3 moves landed clock ∧ clock.value = world.1.clock := by
  have limit : (18446744073709551615 : UInt64) ≠ 0 := by decide
  refine ⟨limit, ?_, ?_⟩
  · obtain ⟨landed, clock, turned⟩ := (goes_round_fairly limit).1 18446744073709551617
    refine ⟨landed, clock, turned, UInt64.toNat_inj.mp ?_⟩
    have on : (Clock.start (18446744073709551615 : UInt64).toNat).hand <
        (18446744073709551615 : UInt64).toNat := by decide
    have value := turned.value
    rw [Clock.iterate_tick on] at value
    exact congrArg Clock.hand value
  · have made : Pool.ofConfig ⟨3, true⟩ = .ok (.empty ⟨3, true⟩) := rfl
    generalize reached : (Pool.empty ⟨3, true⟩).carryOut (.withSeeded 4)
      [.fetch ⟨⟨1⟩, 0⟩, .fetch ⟨⟨1⟩, 1⟩, .fetch ⟨⟨1⟩, 2⟩, .releasePage ⟨⟨1⟩, 1⟩ false,
        .fetch ⟨⟨1⟩, 3⟩] = used
    have course : Course (.empty ⟨3, true⟩, .withSeeded 4) ([] ++ used.1) used.2 := by
      rw [← reached]
      exact Course.start.carryOut _
    have here : used.2.1.clock = ⟨3, 1⟩ := by
      subst reached
      decide +kernel
    exact ⟨used.2, rfl, here, (goes_round_fairly (by decide)).2 rfl made course⟩

end WordClock

end PageCache
