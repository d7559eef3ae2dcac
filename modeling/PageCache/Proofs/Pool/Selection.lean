import PageCache.Proofs.Pool.Exhaustion

/-!
# The choice of the clock

Which frame a sweep takes can be told without the sweep. List the frames in the order in which the
hand comes to them. If one of them is free, or holds a page with neither a mark nor pins, the first
such frame is taken and the frames before it lose their marks. Otherwise every frame loses its mark
and the first one without pins is taken. Main statement: at every point of a course in which some
frame is free or unpinned, the claim of a frame makes exactly this choice. The chosen frame ends
free and no other frame changes but for its mark, unless the page in it cannot be written back: then
it stays there, and stays dirty.
-/

namespace PageCache

namespace Clock

variable {clock : Clock} {moves : Nat}

/-- The frames in the order in which the hand comes to them, the present one last. -/
def order (clock : Clock) : List Nat :=
  (List.range clock.frames).map fun move => clock.reach (move + 1)

@[simp] theorem length_order (clock : Clock) : clock.order.length = clock.frames := by
  simp [order]

theorem getElem_order (clock : Clock) {move : Nat} (inside : move < clock.order.length) :
    clock.order[move] = clock.reach (move + 1) := by
  simp [order]

/-- The frames that the hand passes in a part of a round are the first in the order. -/
theorem mem_take_order (round : moves ≤ clock.frames) (number : Nat) :
    number ∈ clock.order.take moves ↔ clock.Passes moves number := by
  simp [order, ← List.map_take, List.take_range, Nat.min_eq_left round, Passes]

theorem mem_order (clock : Clock) (number : Nat) :
    number ∈ clock.order ↔ clock.Passes clock.frames number := by
  rw [← mem_take_order le_rfl, ← length_order, List.take_length]

theorem mem_order_of_lt {number : Nat} (inside : number < clock.frames) : number ∈ clock.order :=
  (mem_order clock number).mpr (passes_of_le inside le_rfl)

/-- One round more reaches the same frame. -/
theorem reach_add_frames (clock : Clock) (moves : Nat) :
    clock.reach (moves + clock.frames) = clock.reach moves := by
  rw [reach, ← Nat.add_assoc, Nat.add_mod_right, reach]

/-- The first frame of a kind that the hand comes to. -/
theorem find?_order (kind : Nat → Bool) (round : moves < clock.frames)
    (here : kind (clock.reach (moves + 1)) = true)
    (before : ∀ move < moves, kind (clock.reach (move + 1)) = false) :
    clock.order.find? kind = some (clock.reach (moves + 1)) := by
  rw [List.find?_eq_some_iff_getElem]
  refine ⟨here, moves, by rwa [length_order], getElem_order .., fun move sooner => ?_⟩
  rw [getElem_order, before move sooner]
  rfl

/-- The frames that the hand comes to before the first one of a kind. -/
theorem takeWhile_order (kind : Nat → Bool) (round : moves < clock.frames)
    (here : kind (clock.reach (moves + 1)) = true)
    (before : ∀ move < moves, kind (clock.reach (move + 1)) = false) :
    clock.order.takeWhile (fun number => !kind number) = clock.order.take moves := by
  have inside : moves < clock.order.length := by rwa [length_order]
  rw [List.takeWhile_eq_take_findIdx_not]
  congr 1
  refine (List.findIdx_eq inside).mpr ⟨?_, fun move sooner => ?_⟩
  · rw [getElem_order, here]
    rfl
  · rw [getElem_order, before move sooner]
    rfl

end Clock

/-! ## Frames that can be taken -/

namespace Frame

variable {frame : Frame}

/-- Whether a frame can be taken at once: it is free, or its page has neither a mark nor pins. -/
def ready (frame : Frame) : Bool := !frame.valid || (!frame.referenced && frame.pins == 0)

theorem ready_eq_false_iff :
    frame.ready = false ↔ frame.verdict = .spare ∨ frame.verdict = .pass := by
  rw [verdict_eq_spare_iff, verdict_eq_pass_iff]
  unfold ready valid referenced pins
  cases frame.occupant with
  | none => simp
  | some occupant => cases marked : occupant.referenced <;> simp [marked, Nat.pos_iff_ne_zero]

theorem pins_of_ready (free : frame.ready = true) : frame.pins = 0 := by
  cases occupied : frame.occupant with
  | none => exact pins_of_free occupied
  | some occupant =>
      simp only [ready, valid, occupied, Option.isSome_some, Bool.not_true, Bool.false_or,
        Bool.and_eq_true, beq_iff_eq] at free
      exact free.2

theorem ready_unmarked (free : frame.ready = true) :
    (frame.update Occupant.unmarked).ready = true := by
  simp only [ready, valid_update, referenced_unmarked, pins_unmarked, pins_of_ready free]
  simp

end Frame

/-- What the clock chooses. -/
structure Choice where
  /-- The frame that is taken. -/
  frame : Nat
  /-- The frames that lose their marks. -/
  cleared : List Nat
deriving DecidableEq, Repr

namespace Pool

/-- The choice of the clock, if there is one: the first frame in its order that can be taken at
once, while those before it lose their marks; or else the first one without pins, while all lose
their marks. -/
def choice? (pool : Pool) : Option Choice :=
  let order := pool.clock.order
  match order.find? fun number => (pool.frame number).ready with
  | some number => some ⟨number, order.takeWhile fun other => !(pool.frame other).ready⟩
  | none => (order.find? fun number => (pool.frame number).pins == 0).map fun number =>
      ⟨number, order⟩

/-- The pool with its hand on the chosen frame and without the marks that go. -/
def swept (pool : Pool) (choice : Choice) : Pool :=
  { pool with
    clock := { pool.clock with hand := choice.frame }
    frames := pool.frames.mapIdx fun number frame =>
      if number ∈ choice.cleared then frame.update Occupant.unmarked else frame }

/-- How a pool makes room by a choice of its clock. -/
structure MakesRoom (pool : Pool) (storage : Storage) (choice : Choice) : Prop where
  /-- The hand ends on the chosen frame. -/
  hand : (pool.claim storage).pool.clock = { pool.clock with hand := choice.frame }
  /-- Of the other frames those to be cleared lose their marks, and nothing else changes. -/
  others : ∀ other, other ≠ choice.frame → (pool.claim storage).pool.frame other =
    if other ∈ choice.cleared then (pool.frame other).update Occupant.unmarked
    else pool.frame other
  /-- A free frame is taken as it is. -/
  free : (pool.frame choice.frame).occupant = none →
    (pool.claim storage).result = .ok choice.frame ∧ (pool.claim storage).storage = storage ∧
      ((pool.claim storage).pool.frame choice.frame).occupant = none ∧
      ∀ key, (pool.claim storage).pool.find? key = pool.find? key
  /-- A page whose bytes are safe with its file gives way. -/
  gives : ∀ occupant, (pool.frame choice.frame).occupant = some occupant →
    (pool.writeBack storage choice.frame).result = .ok () →
    (pool.claim storage).result = .ok choice.frame ∧
      (pool.claim storage).storage = (pool.writeBack storage choice.frame).storage ∧
      ((pool.claim storage).pool.frame choice.frame).occupant = none ∧
      (∀ key, (pool.claim storage).pool.find? key =
        if occupant.key = key then none else pool.find? key) ∧
      (pool.claim storage).pool.stats.evictions = pool.stats.evictions + 1
  /-- A page that cannot be written back stays where it is, and stays dirty. -/
  stays : ∀ cause, (pool.writeBack storage choice.frame).result = .error cause →
    (pool.claim storage).result = .error cause ∧
      (pool.claim storage).storage = (pool.writeBack storage choice.frame).storage ∧
      (pool.claim storage).pool = pool.swept choice ∧
      ((pool.claim storage).pool.frame choice.frame).dirty = true

end Pool

/-! ## The visits of a sweep that finds a frame -/

namespace Sweep

variable {first now : Sweep} {visits move : Nat}

/-- A frame that a sweep went past could not be taken at once. -/
theorem ready_of_passed (ready : first.Ready) (quiet : run visits first = (none, now))
    (before : move < visits) : (first.frame (first.clock.reach (move + 1))).ready = false := by
  obtain ⟨middle, reached, went⟩ := exists_quiet_visit quiet before
  have passed := passed_of_run ready reached
  have met : (middle.frame (first.clock.reach (move + 1))).ready = false := by
    rw [Frame.ready_eq_false_iff, ← passed.hand_tick]
    exact (verdict_of_step went).imp_right And.left
  by_cases visited : first.clock.Passes move (first.clock.reach (move + 1))
  · rw [passed.visited _ visited] at met
    cases free : (first.frame (first.clock.reach (move + 1))).ready with
    | false => rfl
    | true => rw [Frame.ready_unmarked free] at met; cases met
  · rwa [passed.ahead _ visited] at met

/-- A frame that a sweep went past in the second round is pinned. -/
theorem pinned_of_passed (ready : first.Ready) (quiet : run visits first = (none, now))
    (before : move < visits) (round : first.clock.frames ≤ move) :
    0 < (first.frame (first.clock.reach (move + 1))).pins := by
  obtain ⟨middle, reached, went⟩ := exists_quiet_visit quiet before
  have passed := passed_of_run ready reached
  have positive : 0 < first.clock.frames := ready.face ▸ Nat.zero_lt_of_lt ready.hand
  have visited := Clock.passes_of_le (Clock.reach_lt positive (move + 1)) round
  have bare := passed.referenced visited
  rcases verdict_of_step went with met | ⟨met, -⟩
  · rw [passed.hand_tick, Frame.verdict_eq_spare_iff, bare] at met
    cases met
  · rw [passed.hand_tick, Frame.verdict_eq_pass_iff, passed.pins] at met
    exact met.2

/-- The frame with which a sweep ends can be taken at once, unless the sweep is exhausted. -/
theorem finding_of_step {finding : Finding} (found : now.step.1 = some finding)
    (room : finding ≠ .exhausted) :
    (now.frame now.clock.tick.hand).ready = true ∧
      finding = if (now.frame now.clock.tick.hand).valid then .victim now.clock.tick.hand
        else .free now.clock.tick.hand := by
  have met : (now.frame now.clock.tick.hand).verdict = .claim ∨
      (now.frame now.clock.tick.hand).verdict = .evict := by
    cases met : (now.frame now.clock.tick.hand).verdict with
    | claim => exact .inl rfl
    | evict => exact .inr rfl
    | spare =>
        rw [step_of_spare met] at found
        cases found
    | pass =>
        rw [step_of_pass met] at found
        split at found
        · exact absurd (Option.some.inj found).symm room
        · cases found
  constructor
  · refine Bool.eq_true_of_not_eq_false fun held => ?_
    rcases Frame.ready_eq_false_iff.mp held with other | other <;> simp [other] at met
  · rcases met with met | met
    · have free := Frame.occupant_of_claim met
      rw [frame] at met
      simp only [step, met] at found
      rw [Frame.valid, free]
      exact (Option.some.inj found).symm
    · obtain ⟨occupant, occupied, -⟩ := Frame.occupant_of_evict met
      rw [frame] at met
      simp only [step, met] at found
      rw [Frame.valid, occupied]
      exact (Option.some.inj found).symm

end Sweep

namespace Pool

variable {pool : Pool} {storage : Storage} {choice : Choice} {visits : Nat} {now : Sweep}

/-! ## The sweep makes the choice -/

/-- The page in the chosen frame, if any, has no pins. -/
theorem unpinned_of_choice? (chosen : pool.choice? = some choice) :
    (pool.frame choice.frame).pins = 0 := by
  simp only [choice?] at chosen
  split at chosen
  · next number found =>
    obtain rfl := Option.some.inj chosen
    have free : (pool.frame number).ready = true :=
      List.find?_some (p := fun number => (pool.frame number).ready) found
    exact Frame.pins_of_ready free
  · obtain ⟨number, found, rfl⟩ := Option.map_eq_some_iff.mp chosen
    have unpinned : ((pool.frame number).pins == 0) = true :=
      List.find?_some (p := fun number => (pool.frame number).pins == 0) found
    exact beq_iff_eq.mp unpinned

theorem frame_swept (pool : Pool) (choice : Choice) (number : Nat) :
    (pool.swept choice).frame number =
      if number ∈ choice.cleared then (pool.frame number).update Occupant.unmarked
      else pool.frame number := by
  simp only [frame, swept, Array.getElem?_mapIdx]
  cases pool.frames[number]? with
  | some frame => rfl
  | none =>
      split
      · rfl
      · rfl

@[simp] theorem size_swept (pool : Pool) (choice : Choice) : (pool.swept choice).size = pool.size :=
  Array.size_mapIdx

theorem frames_eq_of_frame {left right : Pool} (size : left.size = right.size)
    (each : ∀ number < right.size, left.frame number = right.frame number) :
    left.frames = right.frames := by
  have same : left.frames = right.frames.map id := frames_eq_map size each
  rwa [Array.map_id] at same

section Choice

variable (ready : Sweep.Ready ⟨pool.clock, pool.frames, 0⟩)
  (quiet : Sweep.run visits ⟨pool.clock, pool.frames, 0⟩ = (none, now))

include ready quiet

/-- A sweep that ends in its first round takes the first frame that can be taken at once. -/
theorem choice?_of_first_round (round : visits < pool.clock.frames)
    (free : (pool.frame (pool.clock.reach (visits + 1))).ready = true) :
    pool.choice? = some ⟨pool.clock.reach (visits + 1), pool.clock.order.take visits⟩ := by
  have held : ∀ move < visits, (pool.frame (pool.clock.reach (move + 1))).ready = false :=
    fun move before => Sweep.ready_of_passed ready quiet before
  have found := Clock.find?_order (fun number => (pool.frame number).ready) round free held
  have cleared := Clock.takeWhile_order (fun number => (pool.frame number).ready) round free held
  simp only [choice?, found, cleared]

/-- A sweep that ends in its second round takes the first frame without pins. -/
theorem choice?_of_second_round (late : pool.clock.frames ≤ visits)
    (short : visits < 2 * pool.clock.frames)
    (unpinned : (pool.frame (pool.clock.reach (visits + 1))).pins = 0) :
    pool.choice? = some ⟨pool.clock.reach (visits + 1), pool.clock.order⟩ := by
  have none : (pool.clock.order.find? fun number => (pool.frame number).ready) = none := by
    rw [List.find?_eq_none]
    intro number member
    obtain ⟨move, inside, rfl⟩ := (Clock.mem_order _ _).mp member
    have held : (pool.frame (pool.clock.reach (move + 1))).ready = false :=
      Sweep.ready_of_passed ready quiet (inside.trans_le late)
    rw [held]
    exact Bool.false_ne_true
  -- The same frame, counted from the end of the first round.
  obtain ⟨moves, rfl⟩ := Nat.exists_eq_add_of_le' late
  have again : ∀ move, pool.clock.reach (move + pool.clock.frames + 1) =
      pool.clock.reach (move + 1) := by
    intro move
    rw [Nat.add_right_comm, Clock.reach_add_frames]
  rw [again] at unpinned
  have round : moves < pool.clock.frames := by omega
  have held : ∀ move < moves, ((pool.frame (pool.clock.reach (move + 1))).pins == 0) = false := by
    intro move before
    have pinned : 0 < (pool.frame (pool.clock.reach (move + pool.clock.frames + 1))).pins :=
      Sweep.pinned_of_passed ready quiet (by omega) (Nat.le_add_left _ _)
    rw [again] at pinned
    exact beq_eq_false_iff_ne.mpr pinned.ne'
  have found := Clock.find?_order (fun number => (pool.frame number).pins == 0) round
    (beq_iff_eq.mpr unpinned) held
  simp only [choice?, none, found, Option.map_some, again]

end Choice

/-- A sweep leaves the hand on the frame reached last and the marks of the frames gone past
cleared. -/
theorem sweep_snd_eq_swept {finding : Finding} {after : Sweep}
    (passed : Sweep.Passed ⟨pool.clock, pool.frames, 0⟩ visits now)
    (last : now.step = (some finding, after))
    (ended : Sweep.run (2 * pool.size) ⟨pool.clock, pool.frames, 0⟩ = (some finding, after))
    (hand : choice.frame = pool.clock.reach (visits + 1))
    (cleared : ∀ number < pool.size, number ∈ choice.cleared ↔ pool.clock.Passes visits number) :
    pool.sweep.2 = pool.swept choice := by
  obtain rfl : now.step.2 = after := congrArg Prod.snd last
  have swept : pool.sweep.2 =
      { pool with clock := now.step.2.clock, frames := now.step.2.frames } :=
    congrArg Prod.snd (sweep_of_run ended)
  have clock : now.step.2.clock = (pool.swept choice).clock := by
    rw [Sweep.clock_step, passed.clock, Clock.tick_after, Pool.swept, hand]
    rfl
  have frames : pool.sweep.2.frames = (pool.swept choice).frames := by
    refine frames_eq_of_frame (pool.size_sweep.trans (size_swept pool choice).symm) ?_
    intro number inside
    rw [size_swept] at inside
    have frame : pool.sweep.2.frame number = now.frame number := by
      rw [swept]
      exact Sweep.frame_step (congrArg Prod.fst last) number
    rw [frame, frame_swept]
    by_cases visited : pool.clock.Passes visits number
    · rw [if_pos ((cleared number inside).mpr visited)]
      exact passed.visited number visited
    · rw [if_neg fun member => visited ((cleared number inside).mp member)]
      exact passed.ahead number visited
  calc pool.sweep.2
      = { pool with clock := now.step.2.clock, frames := pool.sweep.2.frames } := by rw [swept]
    _ = pool.swept choice := by rw [clock, frames]; rfl

/-- In a pool that is not full the sweep makes the choice of the clock. -/
theorem exists_choice (ready : Sweep.Ready ⟨pool.clock, pool.frames, 0⟩) (room : ¬ pool.Full) :
    ∃ choice, pool.choice? = some choice ∧ choice.frame < pool.size ∧
      pool.sweep.2 = pool.swept choice ∧
      pool.sweep.1 =
        if (pool.frame choice.frame).valid then .victim choice.frame else .free choice.frame := by
  obtain ⟨_, _, finding, -, -, ended⟩ := Sweep.exists_step_of_run ready
  obtain ⟨visits, short, now, quiet, last⟩ := Sweep.exists_last_visit ended
  have result : pool.sweep.1 = finding := congrArg Prod.fst (sweep_of_run ended)
  have other : finding ≠ .exhausted := fun spent =>
    room ((sweep_eq_exhausted_iff ready).mp (result.trans spent))
  have passed := Sweep.passed_of_run ready quiet
  have face : pool.clock.frames = pool.size := ready.face
  have positive : 0 < pool.clock.frames := face ▸ Nat.zero_lt_of_lt ready.hand
  let number := pool.clock.reach (visits + 1)
  have inside : number < pool.size := face ▸ Clock.reach_lt positive _
  obtain ⟨free, kind⟩ := Sweep.finding_of_step (congrArg Prod.fst last) other
  rw [passed.hand_tick] at free kind
  have valid : (now.frame number).valid = (pool.frame number).valid := by
    by_cases visited : pool.clock.Passes visits number
    · rw [passed.visited number visited, Frame.valid_update]
      rfl
    · rw [passed.ahead number visited]
      rfl
  have taken : pool.sweep.1 =
      if (pool.frame number).valid then .victim number else .free number := by
    rw [result, kind, ← valid]
  -- In the first round the frame is met as it was, in the second it has lost its mark before.
  rcases Nat.lt_or_ge visits pool.clock.frames with round | late
  · have ahead : now.frame number = pool.frame number :=
      passed.ahead number (Clock.not_passes_reach round)
    have chosen := choice?_of_first_round ready quiet round (ahead ▸ free)
    refine ⟨_, chosen, inside, ?_, taken⟩
    exact sweep_snd_eq_swept passed last ended rfl
      fun number _ => Clock.mem_take_order round.le number
  · have unpinned : (pool.frame number).pins = 0 :=
      (passed.pins number).symm.trans (Frame.pins_of_ready free)
    have chosen := choice?_of_second_round ready quiet late (face ▸ short) unpinned
    refine ⟨_, chosen, inside, ?_, taken⟩
    refine sweep_snd_eq_swept passed last ended rfl fun number inside => ?_
    rw [← face] at inside
    exact iff_of_true (Clock.mem_order_of_lt inside) (Clock.passes_of_le inside late)

/-! ## What becomes of the chosen frame -/

/-- A page is written back exactly if it is dirty, and its file decides whether that succeeds. -/
theorem writeBack_of_occupied {number : Nat} {occupant : Occupant}
    (occupied : (pool.frame number).occupant = some occupant) (storage : Storage) :
    (pool.writeBack storage number).result =
        (if occupant.dirty then (storage.write occupant.key.file occupant.page).1.mapError .storage
          else .ok ()) ∧
      (pool.writeBack storage number).storage =
        if occupant.dirty then (storage.write occupant.key.file occupant.page).2 else storage := by
  simp only [writeBack, occupied]
  cases occupant.dirty with
  | false => exact ⟨rfl, rfl⟩
  | true =>
      simp only [if_true]
      cases taken : (storage.write occupant.key.file occupant.page).1 with
      | ok value => exact ⟨rfl, rfl⟩
      | error cause => exact ⟨rfl, rfl⟩

/-- A page that cannot be written back is dirty, and the pool is left as it was. -/
theorem writeBack_of_error {number : Nat} {cause : PoolError}
    (refused : (pool.writeBack storage number).result = .error cause) :
    (pool.writeBack storage number).pool = pool ∧
      ∃ occupant reason, (pool.frame number).occupant = some occupant ∧ occupant.dirty = true ∧
        (storage.write occupant.key.file occupant.page).1 = .error reason ∧
        cause = .storage reason ∧
        (pool.writeBack storage number).storage =
          (storage.write occupant.key.file occupant.page).2 := by
  simp only [writeBack] at refused ⊢
  split at refused
  · cases refused
  · next occupant occupied =>
    split at refused
    · next dirty =>
      cases taken : (storage.write occupant.key.file occupant.page).1 with
      | ok value =>
          rw [taken] at refused
          cases refused
      | error reason =>
          rw [taken] at refused
          obtain rfl := Except.error.inj refused
          simp only [dirty, if_true]
          exact ⟨rfl, occupant, reason, occupied, dirty, taken, rfl, rfl⟩
    · cases refused

/-- A page is still in its frame after a sweep, perhaps without its mark. -/
theorem occupant_swept {number : Nat} {occupant : Occupant}
    (occupied : (pool.frame number).occupant = some occupant) (choice : Choice) :
    ∃ kept, ((pool.swept choice).frame number).occupant = some kept ∧
      kept.key = occupant.key ∧ kept.page = occupant.page ∧ kept.dirty = occupant.dirty := by
  rw [frame_swept]
  split
  · refine ⟨occupant.unmarked, ?_, rfl, rfl, rfl⟩
    rw [Frame.occupant_update, occupied, Option.map_some]
  · exact ⟨occupant, occupied, rfl, rfl, rfl⟩

/-- Whether a page is written back, and with which bytes, does not depend on its mark. -/
theorem writeBack_swept {number : Nat} {occupant : Occupant}
    (occupied : (pool.frame number).occupant = some occupant) (choice : Choice)
    (storage : Storage) :
    ((pool.swept choice).writeBack storage number).result = (pool.writeBack storage number).result ∧
      ((pool.swept choice).writeBack storage number).storage =
        (pool.writeBack storage number).storage := by
  obtain ⟨kept, held, key, page, dirty⟩ := occupant_swept occupied choice
  obtain ⟨result, stored⟩ := writeBack_of_occupied occupied storage
  obtain ⟨resultKept, storedKept⟩ := writeBack_of_occupied held storage
  rw [key, page, dirty] at resultKept storedKept
  exact ⟨resultKept.trans result.symm, storedKept.trans stored.symm⟩

theorem evictions_writeBack (pool : Pool) (storage : Storage) (number : Nat) :
    (pool.writeBack storage number).pool.stats.evictions = pool.stats.evictions := by
  rcases pool_writeBack_eq pool storage number with same | cleaned
  · rw [same]
  · rw [cleaned]
    rfl

/-- A page that gives way leaves its frame and the directory, and counts as an eviction. -/
theorem pool_evict_of_occupied {number : Nat} {occupant : Occupant}
    (occupied : (pool.frame number).occupant = some occupant) (storage : Storage) :
    (pool.evict storage number).pool = (pool.remove number occupant.key).count fun stats =>
      { stats with evictions := stats.evictions + 1 } := by
  simp only [evict, Frame.key?_of_occupied occupied]
  rfl

/-- A free frame is taken as it is. -/
theorem makesRoom_of_free (free : (pool.frame choice.frame).occupant = none)
    (after : pool.sweep.2 = pool.swept choice) (found : pool.sweep.1 = .free choice.frame)
    (storage : Storage) : pool.MakesRoom storage choice := by
  have claimed : pool.claim storage =
      .done choice.frame ((pool.swept choice).clearFrame choice.frame) storage [] := by
    simp only [claim, found, after]
  have nothing : (pool.writeBack storage choice.frame).result = .ok () := by
    simp only [writeBack, free]
    rfl
  constructor
  · rw [clock_claim, after]
    rfl
  · intro other different
    rw [claimed, ← frame_swept]
    exact frame_clearFrame_of_ne _ different.symm
  · intro _
    rw [claimed]
    exact ⟨rfl, rfl, occupant_clearFrame_self _ _, fun _ => rfl⟩
  · intro occupant occupied
    cases free.symm.trans occupied
  · intro cause refused
    cases nothing.symm.trans refused

section Victim

variable {occupant : Occupant} (occupied : (pool.frame choice.frame).occupant = some occupant)
  (after : pool.sweep.2 = pool.swept choice) (found : pool.sweep.1 = .victim choice.frame)

include occupied after found

/-- If the page cannot be written back the claim fails for the same reason after the sweep. -/
theorem claim_of_unsaved {cause : PoolError}
    (refused : (pool.writeBack storage choice.frame).result = .error cause) :
    (pool.claim storage).result = .error cause ∧
      (pool.claim storage).storage = (pool.writeBack storage choice.frame).storage ∧
      (pool.claim storage).pool = pool.swept choice ∧
      ((pool.swept choice).frame choice.frame).dirty = true := by
  obtain ⟨same, stored⟩ := writeBack_swept occupied choice storage
  rw [refused] at same
  obtain ⟨left, holder, _, holds, dirty, -⟩ := writeBack_of_error same
  rw [claim_of_victim found, after, Outcome.andThen_of_error same]
  refine ⟨rfl, stored, left, ?_⟩
  rw [Frame.dirty, holds]
  exact dirty

/-- If the page can be written back it leaves its frame after the sweep. -/
theorem claim_of_saved (saved : (pool.writeBack storage choice.frame).result = .ok ()) :
    (pool.claim storage).result = .ok choice.frame ∧
      (pool.claim storage).storage = (pool.writeBack storage choice.frame).storage ∧
      (pool.claim storage).pool =
        (((pool.swept choice).writeBack storage choice.frame).pool.remove choice.frame
          occupant.key).count fun stats => { stats with evictions := stats.evictions + 1 } := by
  obtain ⟨kept, held, key, -⟩ := occupant_swept occupied choice
  obtain ⟨same, stored⟩ := writeBack_swept occupied choice storage
  rw [saved] at same
  have cleaned := occupant_of_writeBack held same
  rw [claim_of_victim found, after, Outcome.andThen_of_ok same, ← key]
  exact ⟨result_evict .., (storage_evict ..).trans stored, pool_evict_of_occupied cleaned _⟩

/-- A page gives way, unless it cannot be written back. -/
theorem makesRoom_of_victim (storage : Storage) : pool.MakesRoom storage choice := by
  have hand : (pool.claim storage).pool.clock = { pool.clock with hand := choice.frame } := by
    rw [clock_claim, after]
    rfl
  have free : (pool.frame choice.frame).occupant ≠ none := by
    rw [occupied]
    exact Option.some_ne_none occupant
  cases saved : (pool.writeBack storage choice.frame).result with
  | error cause =>
      obtain ⟨result, stored, left, dirty⟩ := claim_of_unsaved occupied after found saved
      refine ⟨hand, fun other _ => ?_, fun spare => absurd spare free, ?_, ?_⟩
      · rw [left, frame_swept]
      · intro _ _ done
        cases saved.symm.trans done
      · intro other refused
        obtain rfl := Except.error.inj (saved.symm.trans refused)
        exact ⟨result, stored, left, left ▸ dirty⟩
  | ok value =>
      obtain ⟨result, stored, gone⟩ := claim_of_saved occupied after found saved
      let before := ((pool.swept choice).writeBack storage choice.frame).pool
      refine ⟨hand, fun other different => ?_, fun spare => absurd spare free, ?_, ?_⟩
      · rw [gone, ← frame_swept]
        exact (before.frame_clearFrame_of_ne different.symm).trans
          (frame_writeBack_of_ne _ storage different)
      · intro holder holds _
        obtain rfl := Option.some.inj (occupied.symm.trans holds)
        rw [gone]
        refine ⟨result, stored, occupant_clearFrame_self before choice.frame, fun other => ?_, ?_⟩
        · exact (before.find?_remove choice.frame occupant.key other).trans
            (congrArg _ (find?_writeBack ..))
        · exact congrArg (· + 1) (evictions_writeBack ..)
      · intro cause refused
        cases saved.symm.trans refused

end Victim

/-- In a sound pool that is not full room is made by the choice of the clock. -/
theorem Sound.exists_makesRoom (sound : pool.Sound storage)
    (hand : pool.clock.hand < pool.clock.frames) (room : ¬ pool.Full) :
    ∃ choice, pool.choice? = some choice ∧ choice.frame < pool.size ∧
      pool.MakesRoom storage choice := by
  obtain ⟨choice, chosen, inside, after, finding⟩ := exists_choice (sound.ready hand) room
  refine ⟨choice, chosen, inside, ?_⟩
  cases occupied : (pool.frame choice.frame).occupant with
  | none =>
      rw [Frame.valid, occupied] at finding
      exact makesRoom_of_free occupied after finding storage
  | some occupant =>
      rw [Frame.valid, occupied] at finding
      exact makesRoom_of_victim occupied after finding storage

end Pool

namespace Course

variable {config : Config} {new : Pool} {base : Storage} {issued : List Handle} {world : World}

/-- A pool in which some frame is free or unpinned makes room by the choice of its clock. -/
theorem makes_room_by_choice (made : Pool.ofConfig config = .ok new)
    (course : Course (new, base) issued world)
    (room : ∃ number < config.frames, (world.1.frame number).pins = 0) :
    ∃ choice, world.1.choice? = some choice ∧ choice.frame < config.frames ∧
      world.1.MakesRoom world.2 choice := by
  have sound : world.1.Sound world.2 := course.sound (Pool.sound_ofConfig made base)
  have size : world.1.size = config.frames := course.size_eq made
  obtain ⟨number, inside, unpinned⟩ := room
  have room : ¬ world.1.Full := fun full => (full number (size ▸ inside)).2.ne' unpinned
  rw [← size]
  exact sound.exists_makesRoom (course.hand_lt made) room

/-- Three frames: the hand stands on the first, the second holds a page in use that loses its mark,
and the changed page in the third gives way. -/
theorem makes_room_by_choice_second_chance :
    ∃ world : World,
      world = ((Pool.empty ⟨3, true⟩).carryOut (.withSeeded 4)
        [.fetch ⟨⟨1⟩, 0⟩, .fetch ⟨⟨1⟩, 1⟩, .fetch ⟨⟨1⟩, 2⟩, .releasePage ⟨⟨1⟩, 0⟩ false,
          .releasePage ⟨⟨1⟩, 2⟩ true, .fetch ⟨⟨1⟩, 3⟩, .fetch ⟨⟨1⟩, 1⟩]).2 ∧
      world.1.choice? = some ⟨2, [1]⟩ ∧ (world.1.frame 1).referenced = true ∧
      (world.1.frame 2).dirty = true ∧ world.1.MakesRoom world.2 ⟨2, [1]⟩ := by
  have made : Pool.ofConfig ⟨3, true⟩ = .ok (.empty ⟨3, true⟩) := rfl
  generalize reached : (Pool.empty ⟨3, true⟩).carryOut (.withSeeded 4)
    [.fetch ⟨⟨1⟩, 0⟩, .fetch ⟨⟨1⟩, 1⟩, .fetch ⟨⟨1⟩, 2⟩, .releasePage ⟨⟨1⟩, 0⟩ false,
      .releasePage ⟨⟨1⟩, 2⟩ true, .fetch ⟨⟨1⟩, 3⟩, .fetch ⟨⟨1⟩, 1⟩] = used
  have course : Course (.empty ⟨3, true⟩, .withSeeded 4) ([] ++ used.1) used.2 := by
    rw [← reached]
    exact Course.start.carryOut _
  have unpinned : (used.2.1.frame 2).pins = 0 := by
    subst reached
    decide +kernel
  have here : used.2.1.choice? = some ⟨2, [1]⟩ := by
    subst reached
    decide +kernel
  obtain ⟨choice, chosen, -, makes⟩ :=
    course.makes_room_by_choice made ⟨2, by decide, unpinned⟩
  obtain rfl := Option.some.inj (here.symm.trans chosen)
  refine ⟨used.2, rfl, here, ?_, ?_, makes⟩
  all_goals
    subst reached
    decide +kernel

end Course

end PageCache
