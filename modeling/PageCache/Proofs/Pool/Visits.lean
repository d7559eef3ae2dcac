import Mathlib.Data.Nat.ModEq
import PageCache.Proofs.Pool.Upkeep

/-!
# The visits of a sweep

As long as a sweep has found nothing, its hand has passed one frame after the other, the marks of
those frames are cleared and all else is as it was. The pinned frames are counted from the last mark
that was cleared, so that the count never lags behind the visits by more than one round. Main
statements: two rounds are always enough for a finding, a sweep is exhausted exactly if every frame
is pinned, and then every mark is cleared.
-/

namespace PageCache

namespace Clock

variable {clock : Clock}

/-- The frame that the hand reaches in a number of moves. -/
def reach (clock : Clock) (moves : Nat) : Nat := (clock.hand + moves) % clock.frames

/-- The clock after a number of moves. -/
def after (clock : Clock) (moves : Nat) : Clock := { clock with hand := clock.reach moves }

/-- Whether the hand reaches a frame within a number of moves. -/
def Passes (clock : Clock) (moves number : Nat) : Prop :=
  ∃ move < moves, clock.reach (move + 1) = number

theorem after_zero (inside : clock.hand < clock.frames) : clock.after 0 = clock := by
  have rest : clock.reach 0 = clock.hand := Nat.mod_eq_of_lt inside
  rw [after, rest]

theorem tick_after (clock : Clock) (moves : Nat) :
    (clock.after moves).tick = clock.after (moves + 1) := by
  have next : ((clock.hand + moves) % clock.frames + 1) % clock.frames =
      (clock.hand + (moves + 1)) % clock.frames := by
    rw [Nat.mod_add_mod, Nat.add_assoc]
  simp only [tick, after, reach, next]

theorem reach_lt (positive : 0 < clock.frames) (moves : Nat) : clock.reach moves < clock.frames :=
  Nat.mod_lt _ positive

theorem passes_succ {moves number : Nat} :
    clock.Passes (moves + 1) number ↔
      clock.Passes moves number ∨ clock.reach (moves + 1) = number := by
  constructor
  · rintro ⟨move, before, reached⟩
    rcases Nat.lt_succ_iff_lt_or_eq.mp before with earlier | rfl
    · exact .inl ⟨move, earlier, reached⟩
    · exact .inr reached
  · rintro (⟨move, before, reached⟩ | reached)
    · exact ⟨move, by omega, reached⟩
    · exact ⟨moves, by omega, reached⟩

/-- A round of moves, wherever it ends, reaches every frame. -/
theorem exists_reach_eq {moves number : Nat} (inside : number < clock.frames)
    (round : clock.frames ≤ moves) :
    ∃ back < clock.frames, clock.reach (moves - back) = number := by
  let total := clock.hand + moves - number
  have back_lt : total % clock.frames < clock.frames := Nat.mod_lt _ (by omega)
  have parts : total % clock.frames + clock.frames * (total / clock.frames) = total :=
    Nat.mod_add_div ..
  refine ⟨total % clock.frames, back_lt, ?_⟩
  have place : clock.hand + (moves - total % clock.frames) =
      number + clock.frames * (total / clock.frames) := by omega
  rw [reach, place, Nat.add_mul_mod_self_left, Nat.mod_eq_of_lt inside]

theorem passes_of_le {moves number : Nat} (inside : number < clock.frames)
    (round : clock.frames ≤ moves) : clock.Passes moves number := by
  obtain ⟨back, before, reached⟩ := exists_reach_eq inside round
  refine ⟨moves - back - 1, by omega, ?_⟩
  rwa [show moves - back - 1 + 1 = moves - back by omega]

/-- No frame is reached twice in one round. -/
theorem not_passes_reach {moves : Nat} (round : moves < clock.frames) :
    ¬ clock.Passes moves (clock.reach (moves + 1)) := by
  rintro ⟨move, before, reached⟩
  have same : clock.hand + (move + 1) ≡ clock.hand + (moves + 1) [MOD clock.frames] := reached
  have apart := (Nat.modEq_iff_dvd' (by omega)).mp same.add_left_cancel'
  have far := Nat.le_of_dvd (by omega) apart
  omega

end Clock

/-! ## Frames without a mark -/

namespace Frame

variable {frame : Frame}

@[simp] theorem valid_update (frame : Frame) (change : Occupant → Occupant) :
    (frame.update change).valid = frame.valid := by
  rw [valid, occupant_update, Option.isSome_map, valid]

@[simp] theorem referenced_unmarked (frame : Frame) :
    (frame.update Occupant.unmarked).referenced = false := by
  cases occupied : frame.occupant <;> simp [referenced, occupied, Occupant.unmarked]

@[simp] theorem pins_unmarked (frame : Frame) :
    (frame.update Occupant.unmarked).pins = frame.pins := by
  cases occupied : frame.occupant <;> simp [pins, occupied, Occupant.unmarked]

@[simp] theorem unmarked_unmarked (frame : Frame) :
    (frame.update Occupant.unmarked).update Occupant.unmarked =
      frame.update Occupant.unmarked := by
  cases occupied : frame.occupant <;> simp [update, occupied, Occupant.unmarked]

theorem unmarked_eq_self (unmarked : frame.referenced = false) :
    frame.update Occupant.unmarked = frame := by
  obtain ⟨generation, _ | ⟨key, page, referenced, dirty, pins⟩⟩ := frame
  · rfl
  · obtain rfl : referenced = false := unmarked
    rfl

theorem verdict_eq_pass_iff :
    frame.verdict = .pass ↔ frame.referenced = false ∧ 0 < frame.pins := by
  unfold verdict referenced pins
  cases frame.occupant with
  | none => simp
  | some occupant => cases marked : occupant.referenced <;> simp [marked]

theorem verdict_eq_spare_iff : frame.verdict = .spare ↔ frame.referenced = true := by
  unfold verdict referenced
  cases frame.occupant with
  | none => simp
  | some occupant =>
      by_cases pinned : 0 < occupant.pins <;>
        cases marked : occupant.referenced <;> simp [marked, pinned]

/-- A frame is neither claimed nor emptied while it is pinned. -/
theorem verdict_of_pinned (pinned : 0 < frame.pins) :
    frame.verdict = .spare ∨ frame.verdict = .pass := by
  cases marked : frame.referenced with
  | true => exact .inl (verdict_eq_spare_iff.mpr marked)
  | false => exact .inr (verdict_eq_pass_iff.mpr ⟨marked, pinned⟩)

end Frame

/-! ## Sweeps under way -/

namespace Sweep

/-- The frame of a given number. -/
def frame (sweep : Sweep) (number : Nat) : Frame := sweep.frames[number]?.getD .fresh

/-- A sweep that is about to make its first visit. -/
structure Ready (sweep : Sweep) : Prop where
  /-- The clock goes round exactly the frames. -/
  face : sweep.clock.frames = sweep.frames.size
  /-- The hand is on a frame. -/
  hand : sweep.clock.hand < sweep.frames.size
  /-- No pinned frame was met yet. -/
  fresh : sweep.blocked = 0

/-- What a sweep has come to after so many visits without a finding. -/
structure Passed (first : Sweep) (visits : Nat) (now : Sweep) : Prop where
  /-- The hand has moved on with every visit. -/
  clock : now.clock = first.clock.after visits
  /-- No frame is lost. -/
  size : now.frames.size = first.frames.size
  /-- A frame that was visited has lost its mark. -/
  visited : ∀ number, first.clock.Passes visits number →
    now.frame number = (first.frame number).update Occupant.unmarked
  /-- Every other frame is as it was. -/
  ahead : ∀ number, ¬ first.clock.Passes visits number → now.frame number = first.frame number
  /-- The visits that count were the last ones, and each of them met a pinned frame. -/
  blocked : ∀ back < now.blocked,
    back < visits ∧ (now.frame (first.clock.reach (visits - back))).verdict = .pass
  /-- Not all frames were counted yet. -/
  few : now.blocked < first.frames.size
  /-- The count does not lag behind the visits by more than one round. -/
  many : visits ≤ first.frames.size + now.blocked

variable {first now : Sweep} {visits : Nat}

/-- A marked frame loses its mark, and the count starts anew. -/
theorem step_of_spare (spare : (now.frame now.clock.tick.hand).verdict = .spare) :
    now.step = (none, ⟨now.clock.tick, now.frames.setIfInBounds now.clock.tick.hand
      ((now.frame now.clock.tick.hand).update Occupant.unmarked), 0⟩) := by
  rw [frame] at spare ⊢
  simp only [step, spare]

/-- A pinned frame counts, and as many of them as there are frames end the sweep. -/
theorem step_of_pass (pass : (now.frame now.clock.tick.hand).verdict = .pass) :
    now.step = (if now.frames.size ≤ now.blocked + 1 then some .exhausted else none,
      { now with clock := now.clock.tick, blocked := now.blocked + 1 }) := by
  rw [frame] at pass
  simp only [step, pass]

/-- Clearing a mark changes no other frame. -/
theorem frame_step_of_spare (spare : (now.frame now.clock.tick.hand).verdict = .spare)
    (inside : now.clock.tick.hand < now.frames.size) (number : Nat) :
    now.step.2.frame number =
      if now.clock.tick.hand = number then (now.frame number).update Occupant.unmarked
      else now.frame number := by
  rw [step_of_spare spare, frame, Array.getElem?_setIfInBounds]
  split
  · next here =>
    subst here
    rfl
  · rfl

/-- Without a finding a visit met a marked frame, or a pinned one that was not the last to count. -/
theorem verdict_of_step (quiet : now.step.1 = none) :
    (now.frame now.clock.tick.hand).verdict = .spare ∨
      (now.frame now.clock.tick.hand).verdict = .pass ∧ now.blocked + 1 < now.frames.size := by
  cases met : (now.frame now.clock.tick.hand).verdict with
  | spare => exact .inl rfl
  | pass =>
      rw [step_of_pass met] at quiet
      refine .inr ⟨rfl, ?_⟩
      by_contra past
      rw [if_pos (by omega)] at quiet
      cases quiet
  | claim =>
      rw [frame] at met
      simp [step, met] at quiet
  | evict =>
      rw [frame] at met
      simp [step, met] at quiet

namespace Passed

theorem start (ready : first.Ready) : first.Passed 0 first where
  clock := (Clock.after_zero (ready.face ▸ ready.hand)).symm
  size := rfl
  visited := by
    rintro number ⟨move, before, -⟩
    omega
  ahead := fun _ _ => rfl
  blocked := by
    intro back counted
    rw [ready.fresh] at counted
    omega
  few := by
    rw [ready.fresh]
    exact Nat.zero_lt_of_lt ready.hand
  many := Nat.zero_le _

theorem hand_tick (passed : first.Passed visits now) :
    now.clock.tick.hand = first.clock.reach (visits + 1) := by
  rw [passed.clock, Clock.tick_after]
  rfl

/-- A frame that was visited has no mark. -/
theorem referenced (passed : first.Passed visits now) {number : Nat}
    (visited : first.clock.Passes visits number) : (now.frame number).referenced = false := by
  rw [passed.visited number visited, Frame.referenced_unmarked]

/-- A marked frame is only met in the first round. -/
theorem spare (passed : first.Passed visits now) (ready : first.Ready)
    (met : (now.frame now.clock.tick.hand).verdict = .spare) :
    first.Passed (visits + 1) now.step.2 := by
  have hand := passed.hand_tick
  have positive : 0 < first.clock.frames := ready.face ▸ Nat.zero_lt_of_lt ready.hand
  have inside : first.clock.reach (visits + 1) < first.clock.frames := Clock.reach_lt positive _
  have within : first.clock.reach (visits + 1) < now.frames.size := by
    rwa [passed.size, ← ready.face]
  -- In a later round every frame has been visited, so no mark is left to be met.
  have early : visits < first.clock.frames := by
    by_contra late
    have bare := passed.referenced (Clock.passes_of_le inside (by omega))
    rw [← hand, Frame.verdict_eq_spare_iff.mp met] at bare
    cases bare
  have changed := frame_step_of_spare met (hand ▸ within)
  rw [hand] at changed
  refine ⟨?_, ?_, fun number passes => ?_, fun number ahead => ?_, ?_, ?_, ?_⟩
  · rw [clock_step, passed.clock, Clock.tick_after]
  · rw [size_frames_step, passed.size]
  · rw [changed]
    by_cases earlier : first.clock.Passes visits number
    · rw [passed.visited number earlier, Frame.unmarked_unmarked, ite_self]
    · rw [if_pos ((Clock.passes_succ.mp passes).resolve_left earlier), passed.ahead _ earlier]
  · rw [Clock.passes_succ, not_or] at ahead
    rw [changed, if_neg ahead.2]
    exact passed.ahead number ahead.1
  · intro back counted
    rw [step_of_spare met] at counted
    exact absurd counted (Nat.not_lt_zero back)
  · rw [step_of_spare met]
    exact Nat.zero_lt_of_lt ready.hand
  · rw [step_of_spare met, ← ready.face]
    exact early

theorem pass (passed : first.Passed visits now)
    (met : (now.frame now.clock.tick.hand).verdict = .pass)
    (room : now.blocked + 1 < now.frames.size) : first.Passed (visits + 1) now.step.2 := by
  have hand := passed.hand_tick
  have bare := Frame.unmarked_eq_self (Frame.verdict_eq_pass_iff.mp met).1
  rw [hand] at met bare
  rw [step_of_pass (hand ▸ met)]
  refine ⟨?_, passed.size, fun number passes => ?_, fun number ahead => ?_, ?_, ?_, ?_⟩
  · rw [passed.clock, Clock.tick_after]
  · change now.frame number = _
    by_cases earlier : first.clock.Passes visits number
    · exact passed.visited number earlier
    · obtain rfl := (Clock.passes_succ.mp passes).resolve_left earlier
      rw [← bare, passed.ahead _ earlier]
  · rw [Clock.passes_succ, not_or] at ahead
    exact passed.ahead number ahead.1
  · intro back counted
    cases back with
    | zero => exact ⟨Nat.succ_pos _, met⟩
    | succ back =>
        obtain ⟨before, pinned⟩ := passed.blocked back (Nat.lt_of_succ_lt_succ counted)
        refine ⟨Nat.succ_lt_succ before, ?_⟩
        rwa [Nat.add_sub_add_right]
  · rw [← passed.size]
    exact room
  · have many := passed.many
    change visits + 1 ≤ first.frames.size + (now.blocked + 1)
    omega

/-- One more visit without a finding. -/
theorem next (passed : first.Passed visits now) (ready : first.Ready)
    (quiet : now.step.1 = none) : first.Passed (visits + 1) now.step.2 := by
  rcases verdict_of_step quiet with met | ⟨met, room⟩
  · exact passed.spare ready met
  · exact passed.pass met room

end Passed

/-! ## Whole sweeps -/

/-- One visit more at the end of a run. -/
theorem run_succ (visits : Nat) (sweep : Sweep) :
    run (visits + 1) sweep =
      match run visits sweep with
      | (some finding, after) => (some finding, after)
      | (none, after) => after.step := by
  induction visits generalizing sweep with
  | zero =>
      simp only [run]
      split <;> simp_all
  | succ visits induction =>
      rw [run]
      split
      · next finding after equal => simp only [run, equal]
      · next after equal => rw [induction, run, equal]

/-- A run finds nothing, or it ends with the first visit that finds something. -/
theorem run_cases (ready : first.Ready) (visits : Nat) :
    (∃ now, run visits first = (none, now) ∧ first.Passed visits now) ∨
      ∃ earlier now finding, first.Passed earlier now ∧ now.step.1 = some finding ∧
        run visits first = (some finding, now.step.2) := by
  induction visits with
  | zero => exact .inl ⟨first, rfl, .start ready⟩
  | succ visits induction =>
      rw [run_succ]
      rcases induction with ⟨now, equal, passed⟩ | ⟨earlier, now, finding, passed, found, equal⟩
      · rw [equal]
        cases found : now.step.1 with
        | none => exact .inl ⟨now.step.2, Prod.ext found rfl, passed.next ready found⟩
        | some finding => exact .inr ⟨visits, now, finding, passed, found, Prod.ext found rfl⟩
      · rw [equal]
        exact .inr ⟨earlier, now, finding, passed, found, rfl⟩

/-- Two rounds are enough for a finding. -/
theorem exists_step_of_run (ready : first.Ready) :
    ∃ visits now finding, first.Passed visits now ∧ now.step.1 = some finding ∧
      run (2 * first.frames.size) first = (some finding, now.step.2) := by
  rcases run_cases ready (2 * first.frames.size) with ⟨now, -, passed⟩ | found
  · have few := passed.few
    have many := passed.many
    omega
  · exact found

/-- A run that found nothing has only made visits of that kind. -/
theorem passed_of_run (ready : first.Ready) (quiet : run visits first = (none, now)) :
    first.Passed visits now := by
  rcases run_cases ready visits with ⟨reached, equal, passed⟩ | ⟨_, _, _, _, _, equal⟩
  · obtain rfl := congrArg Prod.snd (quiet.symm.trans equal)
    exact passed
  · cases quiet.symm.trans equal

/-- A run that found nothing has found nothing with any of its visits. -/
theorem exists_quiet_visit (quiet : run visits first = (none, now)) {earlier : Nat}
    (before : earlier < visits) :
    ∃ middle, run earlier first = (none, middle) ∧ middle.step.1 = none := by
  induction visits generalizing now with
  | zero => omega
  | succ visits induction =>
      rw [run_succ] at quiet
      split at quiet
      · cases quiet
      · next middle equal =>
        rcases Nat.lt_succ_iff_lt_or_eq.mp before with sooner | rfl
        · exact induction equal sooner
        · exact ⟨middle, equal, congrArg Prod.fst quiet⟩

/-- A run that found something has found it with its last visit. -/
theorem exists_last_visit {finding : Finding} {after : Sweep}
    (found : run visits first = (some finding, after)) :
    ∃ earlier < visits, ∃ middle, run earlier first = (none, middle) ∧
      middle.step = (some finding, after) := by
  induction visits with
  | zero => cases found
  | succ visits induction =>
      rw [run_succ] at found
      split at found
      · next sooner rest equal =>
        obtain ⟨earlier, before, last⟩ := induction (equal.trans found)
        exact ⟨earlier, before.trans (Nat.lt_succ_self visits), last⟩
      · next middle equal => exact ⟨visits, Nat.lt_succ_self visits, middle, equal, found⟩

/-- A visit that finds something changes no frame. -/
theorem frame_step {sweep : Sweep} {finding : Finding} (found : sweep.step.1 = some finding)
    (number : Nat) : sweep.step.2.frame number = sweep.frame number := by
  simp only [step] at found ⊢
  split at found
  · rfl
  · cases found
  · rfl
  · rfl

/-- Only a pinned frame without a mark, the last to count, exhausts a sweep. -/
theorem step_of_exhausted {sweep : Sweep} (spent : sweep.step.1 = some .exhausted) :
    (sweep.frame sweep.clock.tick.hand).verdict = .pass ∧
      sweep.frames.size ≤ sweep.blocked + 1 := by
  cases met : (sweep.frame sweep.clock.tick.hand).verdict with
  | pass =>
      rw [step_of_pass met] at spent
      refine ⟨rfl, ?_⟩
      by_contra room
      rw [if_neg room] at spent
      cases spent
  | spare =>
      rw [step_of_spare met] at spent
      cases spent
  | claim =>
      rw [frame] at met
      simp [step, met] at spent
  | evict =>
      rw [frame] at met
      simp [step, met] at spent

/-- A frame that a run leaves behind is as it was or has lost its mark. -/
theorem frame_run (ready : first.Ready) (visits number : Nat) :
    (run visits first).2.frame number = first.frame number ∨
      (run visits first).2.frame number = (first.frame number).update Occupant.unmarked := by
  have each : ∀ {earlier now}, first.Passed earlier now → now.frame number = first.frame number ∨
      now.frame number = (first.frame number).update Occupant.unmarked := by
    intro earlier now passed
    by_cases visited : first.clock.Passes earlier number
    · exact .inr (passed.visited number visited)
    · exact .inl (passed.ahead number visited)
  rcases run_cases ready visits with ⟨now, equal, passed⟩ | ⟨_, now, finding, passed, found, equal⟩
  · rw [equal]
    exact each passed
  · simp only [equal, frame_step found]
    exact each passed

/-- The clock goes round the same frames after a run. -/
theorem frames_clock_run (ready : first.Ready) (visits : Nat) :
    (run visits first).2.clock.frames = first.clock.frames := by
  rcases run_cases ready visits with ⟨now, equal, passed⟩ | ⟨_, now, finding, passed, found, equal⟩
  · rw [equal, passed.clock]
    rfl
  · simp only [equal, clock_step, Clock.frames_tick, passed.clock]
    rfl

/-- Every frame is pinned and without a mark when a sweep is exhausted. -/
theorem Passed.verdict_of_exhausted (passed : first.Passed visits now) (ready : first.Ready)
    (spent : now.step.1 = some .exhausted) {number : Nat} (inside : number < first.frames.size) :
    (now.frame number).verdict = .pass := by
  obtain ⟨met, full⟩ := step_of_exhausted spent
  have few := passed.few
  rw [passed.size] at full
  rw [passed.hand_tick] at met
  -- As many visits counted as there are frames but one; with this visit they make a round.
  have last : first.frames.size ≤ visits + 1 := by
    cases counted : now.blocked with
    | zero => omega
    | succ count =>
        have before := (passed.blocked count (by omega)).1
        omega
  rw [← ready.face] at inside last
  obtain ⟨back, within, reached⟩ := Clock.exists_reach_eq inside last
  rw [ready.face] at within
  cases back with
  | zero => rwa [← reached]
  | succ back =>
      have pinned := (passed.blocked back (by omega)).2
      rwa [← reached, Nat.add_sub_add_right]

/-- A sweep that is exhausted met pinned frames alone and has cleared every mark. -/
theorem frame_of_exhausted (ready : first.Ready)
    (spent : (run visits first).1 = some .exhausted) {number : Nat}
    (inside : number < first.frames.size) :
    0 < (first.frame number).pins ∧
      (run visits first).2.frame number = (first.frame number).update Occupant.unmarked := by
  rcases run_cases ready visits with
    ⟨now, equal, passed⟩ | ⟨earlier, now, finding, passed, found, equal⟩
  · rw [equal] at spent
    cases spent
  · rw [equal] at spent ⊢
    obtain rfl := Option.some.inj spent
    have pass := Frame.verdict_eq_pass_iff.mp (passed.verdict_of_exhausted ready found inside)
    simp only [frame_step found]
    by_cases visited : first.clock.Passes earlier number
    · rw [passed.visited number visited, Frame.pins_unmarked] at pass
      exact ⟨pass.2, passed.visited number visited⟩
    · rw [passed.ahead number visited] at pass ⊢
      exact ⟨pass.2, (Frame.unmarked_eq_self pass.1).symm⟩

/-- What a sweep meets has the pins that it had at the start. -/
theorem Passed.pins (passed : first.Passed visits now) (number : Nat) :
    (now.frame number).pins = (first.frame number).pins := by
  by_cases visited : first.clock.Passes visits number
  · rw [passed.visited number visited, Frame.pins_unmarked]
  · rw [passed.ahead number visited]

/-- A sweep over pinned frames alone is exhausted. -/
theorem exhausted_of_pinned (ready : first.Ready)
    (pinned : ∀ number < first.frames.size, 0 < (first.frame number).pins) :
    (run (2 * first.frames.size) first).1 = some .exhausted := by
  obtain ⟨visits, now, finding, passed, found, equal⟩ := exists_step_of_run ready
  have inside : now.clock.tick.hand < first.frames.size := by
    rw [passed.hand_tick, ← ready.face]
    exact Clock.reach_lt (ready.face ▸ Nat.zero_lt_of_lt ready.hand) _
  have held : 0 < (now.frame now.clock.tick.hand).pins := by
    rw [passed.pins]
    exact pinned _ inside
  rw [equal]
  rcases Frame.verdict_of_pinned held with met | met
  · rw [step_of_spare met] at found
    cases found
  · rw [step_of_pass met] at found
    split at found
    · exact found.symm
    · cases found

end Sweep

end PageCache
