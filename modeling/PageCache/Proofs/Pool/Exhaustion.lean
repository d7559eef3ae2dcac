import PageCache.Proofs.Pool.Checked
import PageCache.Proofs.Pool.Visits

/-!
# Pools without room

A pool is full if every frame holds a page with pins. Main statement: at every point of a course a
page that needs a frame fails for want of one exactly if the pool is full, whatever the marks and
wherever the hand. The failure asks nothing of any file and takes no page away: it clears the marks
and may move the hand. Once releases alone leave one page without pins, the next page that needs a
frame takes the frame of that page and no other.
-/

namespace PageCache

namespace Pool

/-- Every frame holds a page with pins. -/
def Full (pool : Pool) : Prop :=
  ∀ number < pool.size, (pool.frame number).valid = true ∧ 0 < (pool.frame number).pins

/-- The pool without marks and with its hand on some frame. -/
def rested (pool : Pool) (hand : Nat) : Pool :=
  { pool with
    clock := ⟨pool.clock.frames, hand⟩
    frames := pool.frames.map fun frame => frame.update Occupant.unmarked }

/-- The page in one frame has no pins, and the pages in all other frames have. -/
structure OnlyUnpinned (pool : Pool) (number : Nat) : Prop where
  /-- The frame is one of those of the pool. -/
  inside : number < pool.size
  /-- Its page has no pins. -/
  unpinned : (pool.frame number).pins = 0
  /-- The pages in the other frames have pins. -/
  others : ∀ other < pool.size, other ≠ number → 0 < (pool.frame other).pins

/-- The page in one frame has left the pool, and the other frames are as they were. -/
structure Vacates (before after : Pool) (number : Nat) : Prop where
  /-- The page that was in the frame is not resident. -/
  gone : ∀ key, before.find? key = some number → after.find? key = none
  /-- The other frames are as they were. -/
  others : ∀ other, other ≠ number → after.frame other = before.frame other

/-- An operation vacates a frame for a new page, which it asks of a file. -/
structure Takes (pool : Pool) (outcome : Outcome Handle) (number : Nat) (file : FileIdentity)
    (request : Request) : Prop where
  /-- The frame is vacated, and the other frames are as they were. -/
  vacates : pool.Vacates outcome.pool number
  /-- The new page is in the frame, unless its file has just refused the request. -/
  result : (∃ handle, outcome.result = .ok handle ∧ handle.frame = number) ∨
    ∃ cause, outcome.result = .error (.storage cause) ∧
      outcome.storage.calls.back? = some ⟨file, request, false⟩

end Pool

/-- Whether an action gives back a pin. -/
def Action.isRelease : Action → Bool
  | .releasePage .. | .release .. => true
  | _ => false

/-- If releases alone leave one page without pins whose file takes its bytes, then the next page
that needs a frame takes the frame of this page. -/
def World.Recovers (spent : World) : Prop :=
  ∀ releases, (∀ action ∈ releases, action.isRelease = true) →
    let later := (spent.1.carryOut spent.2 releases).2
    ∀ number, later.1.OnlyUnpinned number →
      (later.1.writeBack later.2 number).result = .ok () →
        (∀ key, later.1.find? key = none →
          later.1.Takes (later.1.fetch later.2 key) number key.file (.read key.page)) ∧
        ∀ file, later.1.Takes (later.1.allocate later.2 file) number file .allocate

/-- A pool fails for want of a frame exactly if it is full, and a failure takes nothing away. -/
structure Pool.ExhaustsExactly (pool : Pool) (storage : Storage) (frames : Nat) : Prop where
  /-- A page that is not resident cannot be fetched for want of a frame exactly if the pool is
  full. -/
  fetch : ∀ key, pool.find? key = none → ∀ count,
    ((pool.fetch storage key).result = .error (.exhausted count) ↔ count = frames ∧ pool.Full)
  /-- No page can be allocated for want of a frame exactly if the pool is full. -/
  allocate : ∀ file count,
    ((pool.allocate storage file).result = .error (.exhausted count) ↔ count = frames ∧ pool.Full)
  /-- Such a fetch counts a miss, clears the marks, may move the hand and does nothing else. -/
  fetchLeaves : ∀ key count, (pool.fetch storage key).result = .error (.exhausted count) →
    (pool.fetch storage key).storage = storage ∧ ∃ hand < frames,
      (pool.fetch storage key).pool =
        (pool.count fun stats => { stats with misses := stats.misses + 1 }).rested hand
  /-- Such an allocation clears the marks, may move the hand and does nothing else. -/
  allocateLeaves : ∀ file count, (pool.allocate storage file).result = .error (.exhausted count) →
    (pool.allocate storage file).storage = storage ∧ ∃ hand < frames,
      (pool.allocate storage file).pool = pool.rested hand
  /-- After such a fetch the first page whose pins are given back gives way. -/
  fetchRecovers : ∀ key count, (pool.fetch storage key).result = .error (.exhausted count) →
    World.Recovers ((pool.fetch storage key).pool, (pool.fetch storage key).storage)
  /-- After such an allocation the first page whose pins are given back gives way. -/
  allocateRecovers : ∀ file count,
    (pool.allocate storage file).result = .error (.exhausted count) →
    World.Recovers ((pool.allocate storage file).pool, (pool.allocate storage file).storage)

namespace Pool

variable {pool : Pool} {storage : Storage} {number : Nat}

/-! ## The sweep of a full pool -/

/-- A sound pool with its hand on a frame is ready for a sweep. -/
theorem Sound.ready (sound : pool.Sound storage) (hand : pool.clock.hand < pool.clock.frames) :
    Sweep.Ready ⟨pool.clock, pool.frames, 0⟩ :=
  ⟨sound.face, hand.trans_eq sound.face, rfl⟩

theorem valid_of_pinned (pinned : 0 < (pool.frame number).pins) :
    (pool.frame number).valid = true := by
  cases free : (pool.frame number).occupant with
  | none =>
      rw [Frame.pins_of_free free] at pinned
      omega
  | some occupant => rw [Frame.valid, free, Option.isSome_some]

theorem frames_eq_map {before after : Pool} {change : Frame → Frame}
    (size : after.size = before.size)
    (each : ∀ number < before.size, after.frame number = change (before.frame number)) :
    after.frames = before.frames.map change := by
  refine Array.ext_getElem? fun number => ?_
  rw [Array.getElem?_map]
  by_cases inside : number < before.size
  · rw [getElem?_frames inside, getElem?_frames (size ▸ inside), each number inside,
      Option.map_some]
  · have past := Nat.le_of_not_lt inside
    have pastAfter := size ▸ past
    rw [Array.getElem?_eq_none past, Array.getElem?_eq_none pastAfter, Option.map_none]

/-- The run that a sweep is made of leaves its clock and its frames behind. -/
theorem sweep_of_run {finding : Finding} {after : Sweep}
    (ended : Sweep.run (2 * pool.size) ⟨pool.clock, pool.frames, 0⟩ = (some finding, after)) :
    pool.sweep = (finding, { pool with clock := after.clock, frames := after.frames }) := by
  simp only [sweep, ended, Option.getD_some]

section Sweep

variable (ready : Sweep.Ready ⟨pool.clock, pool.frames, 0⟩)

include ready

/-- A sweep finds no frame exactly if the pool is full. -/
theorem sweep_eq_exhausted_iff : pool.sweep.1 = .exhausted ↔ pool.Full := by
  obtain ⟨visits, now, finding, passed, found, equal⟩ := Sweep.exists_step_of_run ready
  have ended : (Sweep.run (2 * pool.size) ⟨pool.clock, pool.frames, 0⟩).1 = some finding :=
    congrArg Prod.fst equal
  rw [sweep_of_run equal]
  constructor
  · rintro rfl number inside
    have pinned := (Sweep.frame_of_exhausted ready ended inside).1
    exact ⟨valid_of_pinned pinned, pinned⟩
  · intro full
    have spent := Sweep.exhausted_of_pinned ready fun number inside => (full number inside).2
    exact Option.some.inj (ended.symm.trans spent)

/-- The sweep of a full pool clears every mark and moves the hand. -/
theorem sweep_of_full (full : pool.Full) :
    pool.sweep.2 = pool.rested pool.sweep.2.clock.hand := by
  have spent := Sweep.exhausted_of_pinned ready fun number inside => (full number inside).2
  have face : pool.sweep.2.clock.frames = pool.clock.frames := Sweep.frames_clock_run ready _
  have cleared : pool.sweep.2.frames =
      pool.frames.map fun frame => frame.update Occupant.unmarked :=
    frames_eq_map pool.size_sweep fun number inside =>
      (Sweep.frame_of_exhausted ready spent inside).2
  calc pool.sweep.2
      = { pool with
          clock := ⟨pool.sweep.2.clock.frames, pool.sweep.2.clock.hand⟩
          frames := pool.sweep.2.frames } := rfl
    _ = pool.rested pool.sweep.2.clock.hand := by rw [face, cleared, rested]

end Sweep

/-! ## Claims for want of a frame -/

end Pool

theorem Outcome.result_andThen_eq_error_iff {Value Next : Type} {first : Outcome Value}
    {second : Value → Pool → Storage → Outcome Next} {cause : PoolError}
    (never : ∀ value pool storage, (second value pool storage).result ≠ .error cause) :
    (first.andThen second).result = .error cause ↔ first.result = .error cause := by
  cases given : first.result with
  | error other => simp [andThen_of_error given, failed]
  | ok value => simp [andThen_of_ok given, never]

namespace Pool

variable {pool : Pool} {storage : Storage} {number : Nat}

theorem result_writeBack_ne_exhausted (pool : Pool) (storage : Storage) (number count : Nat) :
    (pool.writeBack storage number).result ≠ .error (.exhausted count) := by
  simp only [writeBack]
  split
  · simp [Outcome.done]
  · split
    · split <;> simp [Outcome.done, Outcome.failed]
    · simp [Outcome.done]

theorem result_evict (pool : Pool) (storage : Storage) (number : Nat) :
    (pool.evict storage number).result = .ok number := by
  simp only [evict]
  split <;> rfl

theorem claim_of_exhausted (spent : pool.sweep.1 = .exhausted) (storage : Storage) :
    pool.claim storage =
      .failed (.exhausted pool.size) pool.sweep.2 storage [.exhausted pool.size] := by
  simp only [claim, spent, size_sweep]

theorem claim_of_victim (found : pool.sweep.1 = .victim number) (storage : Storage) :
    pool.claim storage = (pool.sweep.2.writeBack storage number).andThen fun _ pool storage =>
      pool.evict storage number := by
  simp only [claim, found]

theorem result_claim_eq_exhausted_iff (pool : Pool) (storage : Storage) (count : Nat) :
    (pool.claim storage).result = .error (.exhausted count) ↔
      count = pool.size ∧ pool.sweep.1 = .exhausted := by
  cases found : pool.sweep.1 with
  | free number => simp [claim, found, Outcome.done]
  | victim number =>
      rw [claim_of_victim found, Outcome.result_andThen_eq_error_iff]
      · simp [result_writeBack_ne_exhausted]
      · intro _ pool storage
        simp [result_evict]
  | exhausted => simp [claim_of_exhausted found, Outcome.failed, eq_comm]

/-- A page cannot be loaded for want of a frame exactly if none can be claimed. -/
theorem result_load_eq_exhausted_iff (pool : Pool) (storage : Storage) (key : PageKey)
    (count : Nat) :
    (pool.load storage key).result = .error (.exhausted count) ↔
      (pool.claim storage).result = .error (.exhausted count) := by
  apply Outcome.result_andThen_eq_error_iff
  intro _ pool storage
  dsimp only
  split <;> simp [Outcome.done, Outcome.failed]

theorem exhausted_allocate_iff (pool : Pool) (storage : Storage) (file : FileIdentity)
    (count : Nat) :
    (pool.allocate storage file).result = .error (.exhausted count) ↔
      (pool.claim storage).result = .error (.exhausted count) := by
  apply Outcome.result_andThen_eq_error_iff
  intro _ pool storage
  dsimp only
  split <;> simp [Outcome.done, Outcome.failed]

/-- A fetch that fails for want of a frame is one of a page that is not resident. -/
theorem find?_of_fetch_exhausted {key : PageKey} {count : Nat}
    (spent : (pool.fetch storage key).result = .error (.exhausted count)) :
    pool.find? key = none := by
  simp only [fetch] at spent
  split at spent
  · cases spent
  · assumption

section Full

variable (ready : Sweep.Ready ⟨pool.clock, pool.frames, 0⟩)

include ready

/-- A page that is not resident cannot be fetched for want of a frame exactly if the pool is
full. -/
theorem result_fetch_eq_exhausted_iff {key : PageKey} (absent : pool.find? key = none)
    (storage : Storage) (count : Nat) :
    (pool.fetch storage key).result = .error (.exhausted count) ↔
      count = pool.size ∧ pool.Full := by
  let missed := pool.count fun stats => { stats with misses := stats.misses + 1 }
  have spent : missed.sweep.1 = .exhausted ↔ missed.Full := sweep_eq_exhausted_iff ready
  rw [fetch_of_absent absent, result_load_eq_exhausted_iff, result_claim_eq_exhausted_iff, spent]
  rfl

theorem result_allocate_eq_exhausted_iff (storage : Storage) (file : FileIdentity) (count : Nat) :
    (pool.allocate storage file).result = .error (.exhausted count) ↔
      count = pool.size ∧ pool.Full := by
  rw [exhausted_allocate_iff, result_claim_eq_exhausted_iff, sweep_eq_exhausted_iff ready]

/-- What a fetch leaves of a full pool. -/
theorem fetch_of_full (full : pool.Full) {key : PageKey} (absent : pool.find? key = none)
    (storage : Storage) :
    pool.fetch storage key = .failed (.exhausted pool.size)
      ((pool.count fun stats => { stats with misses := stats.misses + 1 }).rested
        pool.sweep.2.clock.hand) storage [.exhausted pool.size] := by
  let missed := pool.count fun stats => { stats with misses := stats.misses + 1 }
  have spent : missed.sweep.1 = .exhausted := (sweep_eq_exhausted_iff ready).mpr full
  have rested : missed.sweep.2 = missed.rested missed.sweep.2.clock.hand :=
    sweep_of_full ready full
  rw [fetch_of_absent absent, load, claim_of_exhausted spent, rested]
  rfl

/-- What an allocation leaves of a full pool. -/
theorem allocate_of_full (full : pool.Full) (storage : Storage) (file : FileIdentity) :
    pool.allocate storage file = .failed (.exhausted pool.size)
      (pool.rested pool.sweep.2.clock.hand) storage [.exhausted pool.size] := by
  have spent := (sweep_eq_exhausted_iff ready).mpr full
  rw [allocate, claim_of_exhausted spent, sweep_of_full ready full]
  rfl

end Full

/-! ## Recovery -/

/-- Every frame holds a page, and no page has a mark. -/
def Calm (pool : Pool) : Prop :=
  ∀ number < pool.size, (pool.frame number).valid = true ∧ (pool.frame number).referenced = false

theorem frame_rested (pool : Pool) (hand number : Nat) :
    (pool.rested hand).frame number = (pool.frame number).update Occupant.unmarked := by
  rw [frame, rested, Array.getElem?_map, frame]
  cases pool.frames[number]? <;> rfl

theorem calm_rested (full : pool.Full) (hand : Nat) : (pool.rested hand).Calm := by
  intro number inside
  rw [size, rested, Array.size_map] at inside
  rw [frame_rested, Frame.valid_update]
  exact ⟨(full number inside).1, Frame.referenced_unmarked _⟩

/-- The sweep of a pool without marks changes no frame. -/
theorem Calm.frame_sweep (calm : pool.Calm) (ready : Sweep.Ready ⟨pool.clock, pool.frames, 0⟩)
    (other : Nat) : pool.sweep.2.frame other = pool.frame other := by
  have bare : (pool.frame other).update Occupant.unmarked = pool.frame other := by
    by_cases inside : other < pool.size
    · exact Frame.unmarked_eq_self (calm other inside).2
    · rw [frame_of_size_le (Nat.le_of_not_lt inside)]
      rfl
  rcases Sweep.frame_run ready (2 * pool.size) other with same | cleared
  · exact same
  · exact cleared.trans bare

/-- The sweep of a pool without marks finds the only page without pins. -/
theorem Calm.sweep_eq_victim (calm : pool.Calm) (sound : pool.Sound storage)
    (ready : Sweep.Ready ⟨pool.clock, pool.frames, 0⟩) (only : pool.OnlyUnpinned number) :
    pool.sweep.1 = .victim number := by
  have same := calm.frame_sweep ready
  have holds := holds_sweep sound.face sound.positive
  cases found : pool.sweep.1 with
  | free other =>
      rw [found] at holds
      obtain ⟨inside, free⟩ := holds
      rw [size_sweep] at inside
      rw [same] at free
      have valid := (calm other inside).1
      rw [Frame.valid, free] at valid
      cases valid
  | victim other =>
      rw [found] at holds
      obtain ⟨occupant, occupied, unpinned⟩ := holds
      rw [same] at occupied
      have inside := lt_size_of_occupied occupied
      have none : (pool.frame other).pins = 0 := by
        rw [Frame.pins, occupied, Option.elim_some, unpinned]
      by_contra apart
      have pinned := only.others other inside fun equal => apart (congrArg _ equal)
      omega
  | exhausted =>
      have full := (sweep_eq_exhausted_iff ready).mp found
      have pinned := (full number only.inside).2
      have unpinned := only.unpinned
      omega

/-- Whether a page is written back depends on its frame alone. -/
theorem result_writeBack_congr {left right : Pool} (same : left.frame number = right.frame number)
    (storage : Storage) :
    (left.writeBack storage number).result = (right.writeBack storage number).result := by
  simp only [writeBack, same]
  split
  · rfl
  · split
    · split <;> rfl
    · rfl

theorem frame_writeBack_of_ne (pool : Pool) (storage : Storage) {other : Nat}
    (apart : other ≠ number) :
    (pool.writeBack storage number).pool.frame other = pool.frame other := by
  rcases pool_writeBack_eq pool storage number with same | cleaned
  · rw [same]
  · rw [cleaned]
    exact (frame_updateFrame ..).trans (if_neg apart.symm)

/-- A page that gives way leaves its frame, and every other frame is as it was. -/
theorem vacates_evict {occupant : Occupant}
    (occupied : (pool.frame number).occupant = some occupant) (storage : Storage) :
    (pool.evict storage number).pool.find? occupant.key = none ∧
      ∀ other, other ≠ number →
        (pool.evict storage number).pool.frame other = pool.frame other := by
  simp only [evict, Frame.key?_of_occupied occupied]
  constructor
  · exact (pool.find?_remove number _ _).trans (if_pos rfl)
  · intro other apart
    exact pool.frame_clearFrame_of_ne apart.symm

/-- The claim of a frame in a pool without marks takes the only page without pins. -/
theorem Calm.claim (calm : pool.Calm) (sound : pool.Sound storage)
    (ready : Sweep.Ready ⟨pool.clock, pool.frames, 0⟩) (only : pool.OnlyUnpinned number)
    (done : (pool.writeBack storage number).result = .ok ()) :
    (pool.claim storage).result = .ok number ∧
      pool.Vacates (pool.claim storage).pool number := by
  have same := calm.frame_sweep ready
  have saved : (pool.sweep.2.writeBack storage number).result = .ok () := by
    rw [result_writeBack_congr (same number), done]
  obtain ⟨occupant, occupied⟩ := Option.isSome_iff_exists.mp (calm number only.inside).1
  have held := (congrArg Frame.occupant (same number)).trans occupied
  have cleaned := occupant_of_writeBack held saved
  obtain ⟨gone, others⟩ :=
    vacates_evict cleaned (pool.sweep.2.writeBack storage number).storage
  rw [claim_of_victim (calm.sweep_eq_victim sound ready only), Outcome.andThen_of_ok saved]
  refine ⟨result_evict .., fun key resident => ?_, fun other apart => ?_⟩
  · have held := (sound.directory key number).mp resident
    rw [Frame.key?_of_occupied occupied] at held
    obtain rfl := Option.some.inj held
    exact gone
  · exact (others other apart).trans ((frame_writeBack_of_ne _ _ apart).trans (same other))

/-- A new page in a vacated frame leaves the other frames alone. -/
theorem Vacates.install {after : Pool} (vacates : pool.Vacates after number) (file : FileIdentity)
    (page : Page) (absent : pool.find? ⟨file, page.number⟩ = none) :
    pool.Vacates (after.install number file page).2 number where
  gone := by
    intro key resident
    have different : (⟨file, page.number⟩ : PageKey) ≠ key := by
      rintro rfl
      cases absent.symm.trans resident
    exact (find?_install ..).trans ((if_neg different).trans (vacates.gone key resident))
  others := by
    intro other apart
    exact (after.frame_setFrame_of_ne apart.symm _).trans (vacates.others other apart)

theorem Calm.load (calm : pool.Calm) (sound : pool.Sound storage)
    (ready : Sweep.Ready ⟨pool.clock, pool.frames, 0⟩) (only : pool.OnlyUnpinned number)
    (done : (pool.writeBack storage number).result = .ok ()) {key : PageKey}
    (absent : pool.find? key = none) :
    pool.Takes (pool.load storage key) number key.file (.read key.page) := by
  obtain ⟨claimed, vacates⟩ := calm.claim sound ready only done
  rw [Pool.load, Outcome.andThen_of_ok claimed]
  dsimp only
  cases answer : ((pool.claim storage).storage.read key.file key.page).1 with
  | error cause =>
      refine ⟨vacates, .inr ⟨cause, rfl, ?_⟩⟩
      simp only [Outcome.failed, Storage.calls_read, Array.back?_push, answer]
      rfl
  | ok page =>
      have own : (⟨key.file, page.number⟩ : PageKey) = key := by
        rw [(Storage.number_of_read answer).1]
      exact ⟨vacates.install key.file page (own ▸ absent), .inl ⟨_, rfl, rfl⟩⟩

theorem Calm.allocate (calm : pool.Calm) (sound : pool.Sound storage)
    (ready : Sweep.Ready ⟨pool.clock, pool.frames, 0⟩) (only : pool.OnlyUnpinned number)
    (done : (pool.writeBack storage number).result = .ok ()) (file : FileIdentity) :
    pool.Takes (pool.allocate storage file) number file .allocate := by
  obtain ⟨claimed, vacates⟩ := calm.claim sound ready only done
  rw [Pool.allocate, Outcome.andThen_of_ok claimed]
  dsimp only
  cases answer : ((pool.claim storage).storage.allocate file).1 with
  | error cause =>
      refine ⟨vacates, .inr ⟨cause, rfl, ?_⟩⟩
      simp only [Outcome.failed, Storage.calls_allocate, Array.back?_push, answer]
      rfl
  | ok page =>
      have new : page.number = storage.next file := by
        rw [(Storage.next_allocate_of_ok answer file).1]
        exact Upkeeps.next_eq (upkeeps_claim storage sound.face sound.positive) file
      have absent : pool.find? ⟨file, page.number⟩ = none := new ▸ sound.find?_next file
      exact ⟨vacates.install file page absent, .inl ⟨_, rfl, rfl⟩⟩

end Pool

/-- No release touches a mark or takes a page away. -/
theorem Effect.calm {action : Action} {before after : World}
    {result : Except PoolError (Option Handle)} (effect : Effect action before result after)
    (release : action.isRelease = true) (calm : before.1.Calm) : after.1.Calm := by
  induction effect with
  | fail | ignore => exact calm
  | @unpin pool storage key number dirty resident pinned =>
      intro other inside
      rw [Pool.size_updateFrame] at inside
      rw [Pool.frame_updateFrame]
      split
      · next here =>
        subst here
        obtain ⟨valid, bare⟩ := calm number inside
        refine ⟨(Frame.valid_update _ _).trans valid, ?_⟩
        obtain ⟨occupant, occupied⟩ := Option.isSome_iff_exists.mp valid
        simp only [Frame.referenced, Frame.occupant_update, occupied] at bare ⊢
        exact bare
      · exact calm other inside
  | handBack _ _ induction => exact induction rfl calm
  | _ => cases release

theorem Pool.Calm.act {pool : Pool} (calm : pool.Calm) (storage : Storage) {action : Action}
    (release : action.isRelease = true) : (pool.act storage action).pool.Calm := by
  cases action with
  | releasePage key dirty => exact (effect_releasePage pool storage key dirty).calm rfl calm
  | release handle dirty => exact (effect_release pool storage handle dirty).calm rfl calm
  | _ => cases release

theorem Pool.Calm.carryOut {pool : Pool} (calm : pool.Calm) (storage : Storage)
    {releases : List Action} (each : ∀ action ∈ releases, action.isRelease = true) :
    (pool.carryOut storage releases).2.1.Calm := by
  induction releases generalizing pool storage with
  | nil => exact calm
  | cons action rest induction =>
      exact induction (calm.act storage (each action List.mem_cons_self)) _
        fun other later => each other (List.mem_cons_of_mem _ later)

/-- The next page that needs a frame takes that of the only page without pins. -/
theorem Pool.Calm.takes {pool : Pool} {storage : Storage} {number : Nat} (calm : pool.Calm)
    (sound : pool.Sound storage) (hand : pool.clock.hand < pool.clock.frames)
    (only : pool.OnlyUnpinned number) (done : (pool.writeBack storage number).result = .ok ()) :
    (∀ key, pool.find? key = none →
        pool.Takes (pool.fetch storage key) number key.file (.read key.page)) ∧
      ∀ file, pool.Takes (pool.allocate storage file) number file .allocate := by
  have ready := sound.ready hand
  refine ⟨fun key absent => ?_, fun file => calm.allocate sound ready only done file⟩
  let missed := pool.count fun stats => { stats with misses := stats.misses + 1 }
  have soundMissed : missed.Sound storage := sound.tally _ rfl
  have calmMissed : missed.Calm := calm
  have onlyMissed : missed.OnlyUnpinned number := ⟨only.inside, only.unpinned, only.others⟩
  have same : missed.frame number = pool.frame number := rfl
  have doneMissed : (missed.writeBack storage number).result = .ok () := by
    rw [result_writeBack_congr same, done]
  have takes := calmMissed.load soundMissed ready onlyMissed doneMissed absent
  rw [fetch_of_absent absent]
  exact ⟨⟨takes.vacates.gone, takes.vacates.others⟩, takes.result⟩

/-! ## Courses -/

theorem Effect.size_eq {action : Action} {before after : World}
    {result : Except PoolError (Option Handle)} (effect : Effect action before result after) :
    after.1.size = before.1.size := by
  induction effect with
  | hit | unpin | put => exact Pool.size_updateFrame ..
  | load | create => exact Pool.size_install ..
  | erase | drop =>
      simp only [Pool.forget]
      split
      · rfl
      · exact Pool.size_remove ..
  | handBack _ _ induction => exact induction
  | _ => rfl

namespace Course

variable {config : Config} {new : Pool} {base : Storage} {issued : List Handle} {world : World}

/-- A pool has as many frames as it was made with. -/
theorem size_eq (made : Pool.ofConfig config = .ok new)
    (course : Course (new, base) issued world) : world.1.size = config.frames := by
  have sound := Pool.sound_ofConfig made base
  induction course with
  | start =>
      obtain rfl := Pool.eq_empty_of_made made
      exact Pool.size_empty config
  | @act _ pool storage course action induction =>
      have reached : pool.Sound storage := course.sound sound
      obtain ⟨middle, upkeeps, effect⟩ :=
        Pool.effect_act reached.face reached.positive storage action
      exact (effect.size_eq.trans (Upkeeps.size_eq upkeeps)).trans induction
  | elsewhere _ _ induction => exact induction

theorem recovers (made : Pool.ofConfig config = .ok new)
    (course : Course (new, base) issued world) (calm : world.1.Calm) : world.Recovers := by
  intro releases each later number only done
  have onward := course.carryOut releases
  have sound : later.1.Sound later.2 := onward.sound (Pool.sound_ofConfig made base)
  exact (calm.carryOut world.2 each).takes sound (onward.hand_lt made) only done

/-- At every point of a course a pool fails for want of a frame exactly if every frame holds a page
with pins, a failure takes nothing away, and the first page whose pins are given back gives way. -/
theorem exhausts_exactly (made : Pool.ofConfig config = .ok new)
    (course : Course (new, base) issued world) :
    world.1.ExhaustsExactly world.2 config.frames := by
  obtain ⟨pool, storage⟩ := world
  have sound : pool.Sound storage := course.sound (Pool.sound_ofConfig made base)
  have hand : pool.clock.hand < pool.clock.frames := course.hand_lt made
  have size : pool.size = config.frames := course.size_eq made
  have ready := sound.ready hand
  have moved : pool.sweep.2.clock.hand < config.frames := by
    have face : pool.sweep.2.clock.frames = pool.clock.frames := Sweep.frames_clock_run ready _
    have swept := Pool.hand_sweep hand
    rwa [face, sound.face, size] at swept
  have fetched : ∀ key count, (pool.fetch storage key).result = .error (.exhausted count) →
      pool.Full ∧ pool.find? key = none := by
    intro key count spent
    have absent := Pool.find?_of_fetch_exhausted spent
    exact ⟨((Pool.result_fetch_eq_exhausted_iff ready absent storage count).mp spent).2, absent⟩
  have allocated : ∀ file count,
      (pool.allocate storage file).result = .error (.exhausted count) → pool.Full :=
    fun file count spent =>
      ((Pool.result_allocate_eq_exhausted_iff ready storage file count).mp spent).2
  refine ⟨fun key absent count => ?_, fun file count => ?_, fun key count spent => ?_,
    fun file count spent => ?_, fun key count spent => ?_, fun file count spent => ?_⟩
  · rw [← size]
    exact Pool.result_fetch_eq_exhausted_iff ready absent storage count
  · rw [← size]
    exact Pool.result_allocate_eq_exhausted_iff ready storage file count
  · obtain ⟨full, absent⟩ := fetched key count spent
    dsimp only
    rw [Pool.fetch_of_full ready full absent]
    exact ⟨rfl, _, moved, rfl⟩
  · dsimp only
    rw [Pool.allocate_of_full ready (allocated file count spent)]
    exact ⟨rfl, _, moved, rfl⟩
  · obtain ⟨full, absent⟩ := fetched key count spent
    have missed : (pool.count fun stats => { stats with misses := stats.misses + 1 }).Full := full
    refine (course.act (.fetch key)).recovers made ?_
    change (pool.fetch storage key).pool.Calm
    rw [Pool.fetch_of_full ready full absent]
    exact Pool.calm_rested missed _
  · refine (course.act (.allocate file)).recovers made ?_
    change (pool.allocate storage file).pool.Calm
    rw [Pool.allocate_of_full ready (allocated file count spent)]
    exact Pool.calm_rested (allocated file count spent) _

/-- Two frames and three pages: with both frames pinned a fetch fails, and after the release of a
changed page the next fetch takes its frame. -/
theorem exhausts_exactly_until_release :
    ∃ world spent later : World,
      world = ((Pool.empty ⟨2, true⟩).carryOut (.withSeeded 3)
        [.fetch ⟨⟨1⟩, 0⟩, .fetch ⟨⟨1⟩, 0⟩, .fetch ⟨⟨1⟩, 1⟩]).2 ∧
      spent = (world.1.carryOut world.2 [.fetch ⟨⟨1⟩, 2⟩]).2 ∧
      later = (spent.1.carryOut spent.2
        [.releasePage ⟨⟨1⟩, 0⟩ false, .releasePage ⟨⟨1⟩, 1⟩ true]).2 ∧
      (world.1.fetch world.2 ⟨⟨1⟩, 2⟩).result = .error (.exhausted 2) ∧
      later.1.OnlyUnpinned 1 ∧ later.1.Takes (later.1.fetch later.2 ⟨⟨1⟩, 2⟩) 1 ⟨1⟩ (.read 2) := by
  have made : Pool.ofConfig ⟨2, true⟩ = .ok (.empty ⟨2, true⟩) := rfl
  generalize reached : (Pool.empty ⟨2, true⟩).carryOut (.withSeeded 3)
    [.fetch ⟨⟨1⟩, 0⟩, .fetch ⟨⟨1⟩, 0⟩, .fetch ⟨⟨1⟩, 1⟩] = used
  have course : Course (.empty ⟨2, true⟩, .withSeeded 3) ([] ++ used.1) used.2 := by
    rw [← reached]
    exact Course.start.carryOut _
  have exhausts := course.exhausts_exactly made
  have full : used.2.1.Full := by
    subst reached
    unfold Pool.Full
    decide +kernel
  have absent : used.2.1.find? ⟨⟨1⟩, 2⟩ = none := by
    subst reached
    decide +kernel
  have failed := (exhausts.fetch ⟨⟨1⟩, 2⟩ absent 2).mpr ⟨rfl, full⟩
  have recovers := exhausts.fetchRecovers _ _ failed
    [.releasePage ⟨⟨1⟩, 0⟩ false, .releasePage ⟨⟨1⟩, 1⟩ true] (by simp [Action.isRelease]) 1
  refine ⟨used.2, _, _, rfl, rfl, rfl, failed, ?only, (recovers ?only ?done).1 _ ?absent⟩
  case only =>
    subst reached
    exact ⟨by decide +kernel, by decide +kernel, by decide +kernel⟩
  case done | absent =>
    subst reached
    decide +kernel

end Course

end PageCache
