import PageCache.Proofs.Pool.Pins
import PageCache.Proofs.Pool.Selection
import PageCache.Proofs.Storage.Liveness

/-!
# Failures of files

A page that needs a frame asks up to two things of the files: the page that gives way is written
back, and then the new page is read or appended. Either can fail. Main statement: at every point of
a course such a failure loses nothing. If the write fails, every page stays where it is; if the new
page is not given, one frame is free, and the page that was in it had no pins and is in its file.
The page that was asked for is not resident, the pins of all pages that stay are as they were, and
no file has gained or lost a page.
-/

namespace PageCache

/-- The frame is as it was, except that its page may have lost its mark. -/
def Frame.SameButMark (before after : Frame) : Prop :=
  after = before ∨ after = before.update Occupant.unmarked

namespace Pool

/-- The page that was to give way cannot be written back: it stays like all others, and nothing else
was asked of any file. -/
structure Retains (pool : Pool) (storage : Storage) (cause : BackingError)
    (outcome : Outcome Handle) : Prop where
  /-- The write of a changed page was refused, and was the only request. -/
  refused : ∃ number occupant, (pool.frame number).occupant = some occupant ∧
    occupant.dirty = true ∧ (storage.write occupant.key.file occupant.page).1 = .error cause ∧
    outcome.storage = (storage.write occupant.key.file occupant.page).2
  /-- The frames are as they were, except for marks. -/
  frames : ∀ number, (pool.frame number).SameButMark (outcome.pool.frame number)
  /-- Every page is where it was. -/
  find? : ∀ key, outcome.pool.find? key = pool.find? key

/-- A frame was made free for a page that its file did not give when it was asked for it. -/
structure Vacated (pool : Pool) (storage : Storage)
    (ask : Storage → Except BackingError Page × Storage) (cause : BackingError)
    (outcome : Outcome Handle) (number : Nat) : Prop where
  /-- The frame is one of those of the pool. -/
  inside : number < pool.size
  /-- The frame is free now. -/
  free : (outcome.pool.frame number).occupant = none
  /-- If a page was in it, that page had no pins. -/
  unpinned : (pool.frame number).pins = 0
  /-- No other page has left the pool. -/
  find? : ∀ key, outcome.pool.find? key =
    if pool.find? key = some number then none else pool.find? key
  /-- The other frames are as they were, except for marks. -/
  others : ∀ other, other ≠ number →
    (pool.frame other).SameButMark (outcome.pool.frame other)
  /-- The page that left was first written to its file if it was changed. -/
  saved : ∃ middle : Storage,
    (∀ occupant, (pool.frame number).occupant = some occupant → occupant.dirty = true →
      (storage.write occupant.key.file occupant.page).1 = .ok () ∧
        middle = (storage.write occupant.key.file occupant.page).2) ∧
    ((pool.frame number).dirty = false → middle = storage) ∧
    (ask middle).1 = .error cause ∧ outcome.storage = (ask middle).2

/-- An operation that needed a frame for a page failed because of a file, and nothing was lost. -/
structure LosesNothing (pool : Pool) (storage : Storage) (requested : PageKey)
    (ask : Storage → Except BackingError Page × Storage) (cause : BackingError)
    (outcome : Outcome Handle) : Prop where
  /-- Either no page was made to give way, or a frame was made free for nothing. -/
  kind : pool.Retains storage cause outcome ∨
    ∃ number, pool.Vacated storage ask cause outcome number
  /-- The page that was asked for is not resident. -/
  absent : outcome.pool.find? requested = none
  /-- The pages that are still resident have the pins that they had. -/
  pins : ∀ key, outcome.pool.find? key ≠ none → outcome.pool.pinsOn key = pool.pinsOn key
  /-- Every file has the pages that it had. -/
  pages : ∀ key, outcome.storage.has key = storage.has key
  /-- No number of a page was given out. -/
  numbers : ∀ file, outcome.storage.next file = storage.next file

end Pool

/-! ## Requests that can be refused -/

/-- A request for a page that does nothing to the pages of any file if it is refused. -/
def Storage.Harmless (ask : Storage → Except BackingError Page × Storage) : Prop :=
  ∀ storage cause, (ask storage).1 = .error cause →
    (∀ key, (ask storage).2.has key = storage.has key) ∧
      ∀ file, (ask storage).2.next file = storage.next file

theorem Storage.harmless_read (key : PageKey) :
    Harmless fun storage => storage.read key.file key.page :=
  fun storage _ _ => ⟨storage.has_read key.file key.page, storage.next_read key.file key.page⟩

theorem Storage.harmless_allocate (file : FileIdentity) :
    Harmless fun storage => storage.allocate file :=
  fun _ _ refused => ⟨has_allocate_of_error refused, next_allocate_of_error refused⟩

/-- What is done with a claimed frame fails exactly if a request for a page is refused, and then it
does nothing else. -/
def Outcome.Awaits (ask : Storage → Except BackingError Page × Storage)
    (second : Nat → Pool → Storage → Outcome Handle) : Prop :=
  ∀ number pool storage failure, (second number pool storage).result = .error failure →
    ∃ cause, failure = .storage cause ∧ (ask storage).1 = .error cause ∧
      (second number pool storage).pool = pool ∧
      (second number pool storage).storage = (ask storage).2

namespace Pool

variable {pool : Pool} {storage : Storage} {requested : PageKey} {cause : BackingError}
  {ask : Storage → Except BackingError Page × Storage} {outcome : Outcome Handle} {number : Nat}

/-- If the request is refused it fails with the reason, and otherwise it gives a handle. -/
theorem awaits_of_give (ask : Storage → Except BackingError Page × Storage)
    (give : Nat → Pool → Storage → Page → Handle × Pool × List Event) :
    Outcome.Awaits ask fun number pool storage =>
      match (ask storage).1 with
      | .error cause => .failed (.storage cause) pool (ask storage).2 []
      | .ok page =>
        let given := give number pool (ask storage).2 page
        .done given.1 given.2.1 (ask storage).2 given.2.2 := by
  intro number pool storage failure failed
  dsimp only at failed ⊢
  cases given : (ask storage).1 with
  | ok page =>
      rw [given] at failed
      cases failed
  | error cause =>
      rw [given] at failed
      exact ⟨cause, (Except.error.inj failed).symm, rfl, rfl, rfl⟩

theorem exists_load (pool : Pool) (storage : Storage) (key : PageKey) :
    ∃ second, Outcome.Awaits (fun storage => storage.read key.file key.page) second ∧
      pool.load storage key = (pool.claim storage).andThen second :=
  ⟨_, awaits_of_give _ fun number pool _ page =>
    ((pool.install number key.file page).1, (pool.install number key.file page).2,
      [.miss key number]), rfl⟩

theorem exists_allocate (pool : Pool) (storage : Storage) (file : FileIdentity) :
    ∃ second, Outcome.Awaits (fun storage => storage.allocate file) second ∧
      pool.allocate storage file = (pool.claim storage).andThen second :=
  ⟨_, awaits_of_give _ fun number pool _ page =>
    ((pool.install number file page).1, (pool.install number file page).2,
      [.allocated ⟨file, page.number⟩ number]), rfl⟩

/-! ## Pages that stay -/

theorem sameButMark_ite {choice : Choice} {frame : Frame} {other : Nat} {after : Frame}
    (left : after = if other ∈ choice.cleared then frame.update Occupant.unmarked else frame) :
    frame.SameButMark after := by
  split at left
  · exact .inr left
  · exact .inl left

/-- A page that stays in its frame keeps its pins. -/
theorem pinsOn_of_sameButMark {after : Pool} {key : PageKey}
    (resident : pool.find? key = some number) (still : after.find? key = some number)
    (same : (pool.frame number).SameButMark (after.frame number)) :
    after.pinsOn key = pool.pinsOn key := by
  have pins : (after.frame number).pins = (pool.frame number).pins := by
    rcases same with same | same
    · rw [same]
    · rw [same, Frame.pins_unmarked]
  rw [pinsOn, held?, still, pinsOn, held?, resident]
  exact pins

theorem Retains.losesNothing (retains : pool.Retains storage cause outcome)
    (absent : pool.find? requested = none) :
    pool.LosesNothing storage requested ask cause outcome := by
  obtain ⟨_, occupant, -, -, -, written⟩ := retains.refused
  refine ⟨.inl retains, (retains.find? requested).trans absent, fun key resident => ?_,
    fun key => ?_, fun file => ?_⟩
  · obtain ⟨number, still⟩ := Option.ne_none_iff_exists'.mp resident
    exact pinsOn_of_sameButMark ((retains.find? key).symm.trans still) still (retains.frames number)
  · rw [written, Storage.has_write]
  · rw [written, Storage.next_write]

theorem Vacated.losesNothing (vacated : pool.Vacated storage ask cause outcome number)
    (harmless : Storage.Harmless ask) (absent : pool.find? requested = none) :
    pool.LosesNothing storage requested ask cause outcome := by
  obtain ⟨middle, dirty, clean, refused, served⟩ := vacated.saved
  obtain ⟨pages, numbers⟩ := harmless middle cause refused
  have before : (∀ key, middle.has key = storage.has key) ∧
      ∀ file, middle.next file = storage.next file := by
    cases changed : (pool.frame number).dirty with
    | false =>
        rw [clean changed]
        exact ⟨fun _ => rfl, fun _ => rfl⟩
    | true =>
        obtain ⟨occupant, occupied, marked⟩ := (Option.any_eq_true _ _).mp changed
        rw [(dirty occupant occupied marked).2]
        exact ⟨storage.has_write _ _, storage.next_write _ _⟩
  refine ⟨.inr ⟨number, vacated⟩, ?_, fun key resident => ?_, fun key => ?_, fun file => ?_⟩
  · rw [vacated.find?, absent, ite_self]
  · obtain ⟨place, still⟩ := Option.ne_none_iff_exists'.mp resident
    have kept := vacated.find? key
    rw [still] at kept
    split at kept
    · cases kept
    · next elsewhere =>
      refine pinsOn_of_sameButMark kept.symm still (vacated.others place ?_)
      rintro rfl
      exact elsewhere kept.symm
  · rw [served, pages, before.1]
  · rw [served, numbers, before.2]

/-! ## The two ways to fail -/

/-- A claim that fails because of a file has found a page, which could not be written back. -/
theorem MakesRoom.retains {choice : Choice} (makes : pool.MakesRoom storage choice)
    (refused : (pool.claim storage).result = .error (.storage cause))
    (left : outcome.pool = (pool.claim storage).pool)
    (served : outcome.storage = (pool.claim storage).storage) :
    pool.Retains storage cause outcome := by
  cases saved : (pool.writeBack storage choice.frame).result with
  | ok value =>
      cases occupied : (pool.frame choice.frame).occupant with
      | none => cases refused.symm.trans (makes.free occupied).1
      | some occupant => cases refused.symm.trans (makes.gives occupant occupied saved).1
  | error failure =>
      obtain ⟨result, written, swept, -⟩ := makes.stays failure saved
      obtain rfl := Except.error.inj (refused.symm.trans result)
      obtain ⟨-, occupant, reason, occupied, dirty, answer, same, wrote⟩ := writeBack_of_error saved
      obtain rfl := PoolError.storage.inj same
      refine ⟨⟨_, occupant, occupied, dirty, answer, ?_⟩, fun number => ?_, fun key => ?_⟩
      · rw [served, written, wrote]
      · rw [left, swept]
        exact sameButMark_ite (frame_swept pool choice number)
      · rw [left, swept]
        rfl

/-- A page that was written back without a failure is in its file, if it was changed. -/
theorem saved_of_writeBack {occupant : Occupant}
    (occupied : (pool.frame number).occupant = some occupant)
    (saved : (pool.writeBack storage number).result = .ok ()) :
    (occupant.dirty = true → (storage.write occupant.key.file occupant.page).1 = .ok () ∧
      (pool.writeBack storage number).storage =
        (storage.write occupant.key.file occupant.page).2) ∧
    (occupant.dirty = false → (pool.writeBack storage number).storage = storage) := by
  obtain ⟨result, stored⟩ := writeBack_of_occupied occupied storage
  rw [saved] at result
  constructor
  · intro dirty
    rw [if_pos dirty] at result stored
    cases answer : (storage.write occupant.key.file occupant.page).1 with
    | ok value => exact ⟨rfl, stored⟩
    | error cause =>
        rw [answer] at result
        cases result
  · intro clean
    rwa [clean, if_neg Bool.false_ne_true] at stored

/-- After a claim that succeeded the frame is free, and the page that was in it is in its file. -/
theorem MakesRoom.vacated {choice : Choice} (makes : pool.MakesRoom storage choice)
    (sound : pool.Sound storage) (inside : choice.frame < pool.size)
    (unpinned : (pool.frame choice.frame).pins = 0)
    (claimed : (pool.claim storage).result = .ok number)
    (refused : (ask (pool.claim storage).storage).1 = .error cause)
    (left : outcome.pool = (pool.claim storage).pool)
    (served : outcome.storage = (ask (pool.claim storage).storage).2) :
    pool.Vacated storage ask cause outcome choice.frame := by
  have others : ∀ other, other ≠ choice.frame →
      (pool.frame other).SameButMark (outcome.pool.frame other) := by
    intro other different
    rw [left]
    exact sameButMark_ite (makes.others other different)
  cases occupied : (pool.frame choice.frame).occupant with
  | none =>
      obtain ⟨-, stored, free, kept⟩ := makes.free occupied
      refine ⟨inside, left ▸ free, unpinned, fun key => ?_, others, _, ?_, fun _ => stored, refused,
        served⟩
      · have elsewhere : pool.find? key ≠ some choice.frame := by
          intro resident
          obtain ⟨occupant, holds, -⟩ := sound.occupied_of_find? resident
          cases occupied.symm.trans holds
        rw [left, kept, if_neg elsewhere]
      · intro occupant holds
        cases occupied.symm.trans holds
  | some occupant =>
      cases saved : (pool.writeBack storage choice.frame).result with
      | error failure => cases claimed.symm.trans (makes.stays failure saved).1
      | ok value =>
          obtain ⟨-, stored, free, kept, -⟩ := makes.gives occupant occupied saved
          obtain ⟨changed, clean⟩ := saved_of_writeBack occupied saved
          refine ⟨inside, left ▸ free, unpinned, fun key => ?_, others, _, ?_, ?_, refused, served⟩
          · have own : pool.find? key = some choice.frame ↔ occupant.key = key := by
              rw [sound.directory, Frame.key?_of_occupied occupied, Option.some.injEq]
            simp only [left, kept, own]
          · intro holder holds dirty
            obtain rfl := Option.some.inj (occupied.symm.trans holds)
            exact ⟨(changed dirty).1, stored.trans (changed dirty).2⟩
          · intro unchanged
            rw [Frame.dirty, occupied] at unchanged
            exact stored.trans (clean unchanged)

/-- A claim fails for want of a frame if every frame is pinned. -/
theorem not_full_of_failed {second : Nat → Pool → Storage → Outcome Handle}
    (ready : Sweep.Ready ⟨pool.clock, pool.frames, 0⟩)
    (failed : ((pool.claim storage).andThen second).result = .error (.storage cause)) :
    ¬ pool.Full := by
  intro full
  rw [claim_of_exhausted ((sweep_eq_exhausted_iff ready).mpr full)] at failed
  cases failed

/-- Whatever is done with a claimed frame, a failure of a file loses nothing. -/
theorem Sound.losesNothing {second : Nat → Pool → Storage → Outcome Handle}
    (sound : pool.Sound storage) (hand : pool.clock.hand < pool.clock.frames)
    (awaits : Outcome.Awaits ask second) (harmless : Storage.Harmless ask)
    (absent : pool.find? requested = none)
    (failed : ((pool.claim storage).andThen second).result = .error (.storage cause)) :
    pool.LosesNothing storage requested ask cause ((pool.claim storage).andThen second) := by
  obtain ⟨choice, chosen, inside, makes⟩ :=
    sound.exists_makesRoom hand (not_full_of_failed (sound.ready hand) failed)
  -- Either the claim fails, or the request for the page that follows it does.
  cases claimed : (pool.claim storage).result with
  | error failure =>
      rw [Outcome.andThen_of_error claimed] at failed ⊢
      obtain rfl : failure = .storage cause := Except.error.inj failed
      exact (makes.retains claimed rfl rfl).losesNothing absent
  | ok number =>
      rw [Outcome.andThen_of_ok claimed] at failed ⊢
      obtain ⟨reason, same, refused, left, served⟩ := awaits _ _ _ _ failed
      obtain rfl := PoolError.storage.inj same
      have unpinned := unpinned_of_choice? chosen
      exact Vacated.losesNothing (makes.vacated sound inside unpinned claimed refused left served)
        harmless absent

/-- What a pool counts does not matter to what it loses. -/
theorem LosesNothing.of_count {change : Stats → Stats}
    (loses : (pool.count change).LosesNothing storage requested ask cause outcome) :
    pool.LosesNothing storage requested ask cause outcome where
  kind := loses.kind.imp (fun retains => ⟨retains.refused, retains.frames, retains.find?⟩)
    (Exists.imp fun _ vacated => ⟨vacated.inside, vacated.free, vacated.unpinned, vacated.find?,
      vacated.others, vacated.saved⟩)
  absent := loses.absent
  pins := loses.pins
  pages := loses.pages
  numbers := loses.numbers

end Pool

namespace Course

variable {config : Config} {new : Pool} {base : Storage} {issued : List Handle} {world : World}

/-- A fetch of a page that is not resident and an allocation lose nothing if a file fails them. -/
theorem failures_lose_nothing (made : Pool.ofConfig config = .ok new)
    (course : Course (new, base) issued world) :
    (∀ key cause, world.1.find? key = none →
      (world.1.fetch world.2 key).result = .error (.storage cause) →
        world.1.LosesNothing world.2 key (fun storage => storage.read key.file key.page) cause
          (world.1.fetch world.2 key)) ∧
    ∀ file cause, (world.1.allocate world.2 file).result = .error (.storage cause) →
      world.1.LosesNothing world.2 ⟨file, world.2.next file⟩ (fun storage => storage.allocate file)
        cause (world.1.allocate world.2 file) := by
  have sound : world.1.Sound world.2 := course.sound (Pool.sound_ofConfig made base)
  have hand : world.1.clock.hand < world.1.clock.frames := course.hand_lt made
  constructor
  · intro key cause absent failed
    rw [Pool.fetch_of_absent absent] at failed ⊢
    let missed := world.1.count fun stats => { stats with misses := stats.misses + 1 }
    have counted : missed.Sound world.2 := sound.tally _ rfl
    obtain ⟨second, awaits, loads⟩ := missed.exists_load world.2 key
    rw [loads] at failed ⊢
    exact (counted.losesNothing hand awaits (Storage.harmless_read key) absent failed).of_count
  · intro file cause failed
    obtain ⟨second, awaits, allocates⟩ := Pool.exists_allocate world.1 world.2 file
    rw [allocates] at failed ⊢
    exact sound.losesNothing hand awaits (Storage.harmless_allocate file) (sound.find?_next file)
      failed

/-- One frame with a changed page. A fetch of a page that does not exist frees the frame. If instead
the changed page is deleted by others, an allocation fails and leaves the page where it is. -/
theorem failures_lose_nothing_before_and_after_claim :
    ∃ world later : World,
      world = ((Pool.empty ⟨1, true⟩).carryOut (.withSeeded 2)
        [.fetch ⟨⟨1⟩, 0⟩, .releasePage ⟨⟨1⟩, 0⟩ true]).2 ∧
      later = (world.1, (world.2.delete ⟨1⟩ 0).2) ∧
      world.1.LosesNothing world.2 ⟨⟨1⟩, 5⟩ (fun storage => storage.read ⟨1⟩ 5)
        (.pageNotFound ⟨⟨1⟩, 5⟩) (world.1.fetch world.2 ⟨⟨1⟩, 5⟩) ∧
      ((world.1.fetch world.2 ⟨⟨1⟩, 5⟩).pool.frame 0).occupant = none ∧
      later.1.LosesNothing later.2 ⟨⟨1⟩, later.2.next ⟨1⟩⟩ (fun storage => storage.allocate ⟨1⟩)
        (.pageNotFound ⟨⟨1⟩, 0⟩) (later.1.allocate later.2 ⟨1⟩) ∧
      ((later.1.allocate later.2 ⟨1⟩).pool.frame 0).dirty = true := by
  have made : Pool.ofConfig ⟨1, true⟩ = .ok (.empty ⟨1, true⟩) := rfl
  generalize reached : (Pool.empty ⟨1, true⟩).carryOut (.withSeeded 2)
    [.fetch ⟨⟨1⟩, 0⟩, .releasePage ⟨⟨1⟩, 0⟩ true] = used
  have course : Course (.empty ⟨1, true⟩, .withSeeded 2) ([] ++ used.1) used.2 := by
    rw [← reached]
    exact Course.start.carryOut _
  have deleted := Storage.precedes_of_eq (Storage.next_delete used.2.2 ⟨1⟩ 0)
  refine ⟨used.2, _, rfl, rfl, (course.failures_lose_nothing made).1 _ _ ?_ ?_, ?_,
    ((course.elsewhere deleted).failures_lose_nothing made).2 _ _ ?_, ?_⟩
  all_goals
    subst reached
    decide +kernel

end Course

end PageCache
