import PageCache.Proofs.Pool.Disposal
import PageCache.Proofs.Pool.Pins

/-!
# Handles and stays

A page that is in its frame before an action and after it has not left the frame in between, for no
action takes a page away and brings it back. Main statement: two handles that a pool gave at any two
moments are equal exactly if they are to the same page and the page was resident all the time
between; and the generation of a frame never falls, and stays the same exactly as long as the page
in the frame stays there.
-/

namespace PageCache

/-- Something was true of the pool at every moment of a history, and is true of it now. -/
def Moment.Throughout (further : List Moment) (later : Pool) (holds : Pool → Prop) : Prop :=
  holds later ∧ ∀ moment ∈ further, holds moment.pool

theorem Moment.throughout_cons {moment : Moment} {further : List Moment} {later : Pool}
    {holds : Pool → Prop} :
    Moment.Throughout (moment :: further) later holds ↔
      holds later ∧ Moment.Throughout further moment.pool holds := by
  rw [Throughout, Throughout, List.forall_mem_cons]

/-- From one moment to a later one the generations of the frames tell the stays of pages apart. -/
structure Pool.TellsStays (pool : Pool) (further : List Moment) (later : Pool) : Prop where
  /-- No generation falls. -/
  rises : ∀ number, (pool.frame number).generation ≤ (later.frame number).generation
  /-- The generation of a frame with a page is the same exactly if the page was there all the
  time. -/
  same : ∀ number key, (pool.frame number).key? = some key →
    ((later.frame number).generation = (pool.frame number).generation ↔
      Moment.Throughout further later fun pool => (pool.frame number).key? = some key)

/-! ## One action -/

section Step

variable {handle : Handle} {before after : World}

/-- A page that leaves its frame by an upkeep step is not resident any more. -/
theorem Upkeep.names_or_absent (step : Upkeep before after) (names : handle.Names before.1) :
    handle.Names after.1 ∨ after.1.find? handle.key = none := by
  cases step with
  | tally | refuse => exact .inl names
  | unmark | clean => exact .inl (names.updateFrame _ (by intro; rfl))
  | @vacate pool storage number occupant occupied unpinned clean =>
      by_cases own : number = handle.frame
      · right
        have key : occupant.key = handle.key :=
          Option.some.inj ((Frame.key?_of_occupied occupied).symm.trans (own ▸ names.2))
        exact (Pool.find?_remove ..).trans (if_pos key)
      · left
        have frame : (pool.remove number occupant.key).frame handle.frame =
            pool.frame handle.frame := pool.frame_clearFrame_of_ne own
        rw [Handle.Names, frame]
        exact names
  | @renew pool storage number free =>
      left
      have other : number ≠ handle.frame := by
        rintro rfl
        obtain ⟨occupant, occupied, -⟩ := Frame.exists_of_key? names.2
        cases free.symm.trans occupied
      rw [Handle.Names, pool.frame_clearFrame_of_ne other]
      exact names

theorem Upkeeps.names_or_absent (upkeeps : Upkeeps before after) (names : handle.Names before.1) :
    handle.Names after.1 ∨ after.1.find? handle.key = none := by
  induction upkeeps with
  | refl => exact .inl names
  | tail _ step induction =>
      rcases induction with kept | absent
      · exact step.names_or_absent kept
      · exact .inr (Pool.find?_of_upkeeps (.single step) absent)

theorem Effect.names_or_absent {action : Action} {result : Except PoolError (Option Handle)}
    (effect : Effect action before result after) (sound : before.1.Sound before.2)
    (names : handle.Names before.1) :
    handle.Names after.1 ∨ after.1.find? handle.key = none := by
  by_cases disposed : action = .dispose handle.key
  · subst disposed
    cases effect with
    | fail => exact .inl names
    | erase | drop => exact .inr (Pool.find?_forget ..)
  · exact .inl (effect.keeps_names sound names disposed)

/-- A handle to a page whose number was given out before is given by none but a fetch of the
page. -/
theorem Effect.ne_of_given {action : Action} {key : PageKey}
    (effect : Effect action before (.ok (some handle)) after)
    (known : key.page < before.2.next key.file) (other : action ≠ .fetch key) :
    handle.key ≠ key := by
  cases effect with
  | hit => exact fun same => other (congrArg Action.fetch same)
  | load inside free absent given =>
      rintro rfl
      apply other
      exact congrArg Action.fetch (congrArg (PageKey.mk _) (Storage.number_of_read given).1.symm)
  | @create pool storage file number page inside free given =>
      rintro rfl
      obtain ⟨rfl, -⟩ := Storage.next_allocate_of_ok given file
      exact Nat.lt_irrefl _ known
  | handBack _ released => cases released

end Step

namespace Pool.Sound

variable {pool : Pool} {storage : Storage} {handle : Handle} {number : Nat} {key : PageKey}

/-- An action that gives a handle to a resident page is a fetch of the page. -/
theorem eq_fetch_of_given (sound : pool.Sound storage) (resident : pool.find? key = some number)
    {action : Action} (given : (pool.act storage action).result = .ok (some handle))
    (own : handle.key = key) : action = .fetch key := by
  by_contra other
  obtain ⟨middle, upkeeps, effect⟩ := effect_act sound.face sound.positive storage action
  rw [given] at effect
  have known : key.page < middle.2.next key.file := by
    rw [Upkeeps.next_eq upkeeps]
    exact sound.given key number resident
  exact effect.ne_of_given known other own

/-- After every action the stay that a handle names goes on, or its page is not resident. -/
theorem names_or_absent (sound : pool.Sound storage) (names : handle.Names pool)
    (action : Action) :
    handle.Names (pool.act storage action).pool ∨
      (pool.act storage action).pool.find? handle.key = none := by
  have resident : pool.find? handle.key = some handle.frame := (sound.directory _ _).mpr names.2
  by_cases fetched : action = .fetch handle.key
  · -- The page is found, so that there is no upkeep that could take it away.
    subst fetched
    have given : (pool.act storage (.fetch handle.key)).result = .ok (some handle) :=
      congrArg (Except.map some) (sound.fetch_of_names names).1
    exact .inl (sound.names_act given)
  · obtain ⟨middle, upkeeps, effect⟩ := effect_act sound.face sound.positive storage action
    rcases Upkeeps.names_or_absent upkeeps names with kept | absent
    · exact effect.names_or_absent (Upkeeps.sound upkeeps sound) kept
    · have known : handle.key.page < middle.2.next handle.key.file := by
        rw [Upkeeps.next_eq upkeeps]
        exact sound.given _ _ resident
      refine .inr (effect.find?_eq_none absent fun other given => ?_)
      exact (given ▸ effect).ne_of_given known fetched

/-- A page that is in its frame before and after an action has not left it. -/
theorem generation_of_key? (sound : pool.Sound storage)
    (held : (pool.frame number).key? = some key) (action : Action)
    (holds : ((pool.act storage action).pool.frame number).key? = some key) :
    ((pool.act storage action).pool.frame number).generation = (pool.frame number).generation := by
  have names : (⟨number, (pool.frame number).generation, key⟩ : Handle).Names pool := ⟨rfl, held⟩
  rcases sound.names_or_absent names action with kept | absent
  · exact kept.1
  · cases absent.symm.trans (((sound.act action).directory key number).mpr holds)

end Pool.Sound

/-! ## Whole histories -/

namespace History

variable {start world : World} {further past : List Moment} {pool later new : Pool}
  {storage below base : Storage} {handle : Handle} {number : Nat} {key : PageKey} {config : Config}

theorem sound_of_mem (history : History start further world) (sound : start.1.Sound start.2) :
    ∀ moment ∈ further, moment.pool.Sound moment.storage := by
  induction history with
  | start => simp
  | act history action induction =>
      exact List.forall_mem_cons.mpr ⟨history.sound sound, induction⟩
  | elsewhere _ _ induction => exact induction

/-- What follows from a property in a sound pool was true as long as the property was. -/
theorem throughout_of_sound (history : History start further world)
    (sound : start.1.Sound start.2) {holds implied : Pool → Prop}
    (implies : ∀ pool storage, pool.Sound storage → holds pool → implied pool)
    (throughout : Moment.Throughout further world.1 holds) :
    Moment.Throughout further world.1 implied := by
  refine ⟨implies _ _ (history.sound sound) throughout.1, fun moment member => ?_⟩
  exact implies _ _ (history.sound_of_mem sound moment member) (throughout.2 moment member)

/-- The stay that a handle names goes on as long as its page is resident. -/
theorem names_of_throughout (history : History start further world)
    (sound : start.1.Sound start.2) (names : handle.Names start.1)
    (resident : Moment.Throughout further world.1 fun pool => pool.find? handle.key ≠ none) :
    handle.Names world.1 := by
  induction history with
  | start => exact names
  | act history action induction =>
      obtain ⟨now, before⟩ := Moment.throughout_cons.mp resident
      rcases (history.sound sound).names_or_absent (induction before) action with kept | absent
      · exact kept
      · exact absurd absent now
  | elsewhere _ _ induction => exact induction resident

/-- A frame that comes out with the generation that it had has held its page all the time. -/
theorem throughout_of_generation (history : History start further world)
    (sound : start.1.Sound start.2) (held : (start.1.frame number).key? = some key)
    (same : (world.1.frame number).generation = (start.1.frame number).generation) :
    Moment.Throughout further world.1 fun pool => (pool.frame number).key? = some key := by
  induction history with
  | start => exact ⟨held, by simp⟩
  | @act further pool storage history action induction =>
      have risen := (history.course.continues sound number).le
      have continues := (history.sound sound).continues_act action number
      -- Neither the history nor the action can have raised the generation.
      have middle : (pool.frame number).generation = (start.1.frame number).generation :=
        Nat.le_antisymm (continues.le.trans_eq same) risen
      have before := induction middle
      refine Moment.throughout_cons.mpr ⟨?_, before⟩
      rcases continues with grown | ⟨-, kept⟩
      · exact absurd (same.trans middle.symm) grown.ne'
      · exact kept.trans before.1
  | elsewhere _ _ induction => exact induction same

/-- A frame that has held its page all the time comes out with the generation that it had. -/
theorem generation_of_throughout (history : History start further world)
    (sound : start.1.Sound start.2)
    (stayed : Moment.Throughout further world.1 fun pool => (pool.frame number).key? = some key) :
    (world.1.frame number).generation = (start.1.frame number).generation := by
  induction history with
  | start => rfl
  | act history action induction =>
      obtain ⟨now, before⟩ := Moment.throughout_cons.mp stayed
      exact ((history.sound sound).generation_of_key? before.1 action now).trans (induction before)
  | elsewhere _ _ induction => exact induction stayed

theorem tellsStays (history : History (pool, storage) further (later, below))
    (sound : pool.Sound storage) : pool.TellsStays further later where
  rises := fun number => (history.course.continues sound number).le
  same := fun _ _ held =>
    ⟨history.throughout_of_generation sound held, history.generation_of_throughout sound⟩

/-- A handle is given again exactly as long as its page has been resident since. -/
theorem eq_iff_throughout (history : History (pool, storage) further (later, below))
    (sound : pool.Sound storage) {one other : Handle} (names : one.Names pool) {action : Action}
    (given : (later.act below action).result = .ok (some other)) :
    one = other ↔ one.key = other.key ∧
      Moment.Throughout further later fun pool => pool.find? one.key ≠ none := by
  have reached : later.Sound below := history.sound sound
  constructor
  · rintro rfl
    refine ⟨rfl, ?_⟩
    have risen := (history.course.continues sound one.frame).le
    have continues := reached.continues_act action one.frame
    have same : (later.frame one.frame).generation = (pool.frame one.frame).generation := by
      refine Nat.le_antisymm ?_ risen
      exact continues.le.trans_eq ((reached.names_act given).1.trans names.1.symm)
    apply history.throughout_of_sound sound _ (history.throughout_of_generation sound names.2 same)
    intro pool storage sound held absent
    cases absent.symm.trans ((sound.directory _ _).mpr held)
  · rintro ⟨key, resident⟩
    have still : one.Names later := history.names_of_throughout sound names resident
    have listed : later.find? one.key = some one.frame := (reached.directory _ _).mpr still.2
    obtain rfl := reached.eq_fetch_of_given listed given key.symm
    have again : (later.act below (.fetch one.key)).result = .ok (some one) :=
      congrArg (Except.map some) (reached.fetch_of_names still).1
    exact Option.some.inj (Except.ok.inj (again.symm.trans given))

/-- Two handles are equal exactly if they are to the same page and it was resident all the time
between. No generation falls, and that of a frame is the same exactly as long as its page is
there. -/
theorem handles_name_stays (made : Pool.ofConfig config = .ok new)
    (history : History (new, base) past (pool, storage)) :
    (∀ first one, (pool.act storage first).result = .ok (some one) →
      ∀ further later below,
        History ((pool.act storage first).pool, (pool.act storage first).storage) further
          (later, below) →
      ∀ second other, (later.act below second).result = .ok (some other) →
        (one = other ↔ one.key = other.key ∧
          Moment.Throughout further later fun pool => pool.find? one.key ≠ none)) ∧
    ∀ further later below, History (pool, storage) further (later, below) →
      pool.TellsStays further later := by
  have sound : pool.Sound storage := history.sound (Pool.sound_ofConfig made base)
  constructor
  · intro first one given further later below onward second other givenLater
    exact onward.eq_iff_throughout (sound.act first) (sound.names_act given) givenLater
  · intro further later below onward
    exact onward.tellsStays sound

/-- One frame. A second fetch of a page gives the handle of the first. After another page has taken
its place, a third fetch gives a handle with the same frame and page but another generation. -/
theorem handles_name_stays_across_eviction :
    ∃ (used : Outcome (Option Handle)) (further : List Moment) (world : World),
      used = (Pool.empty ⟨1, true⟩).act (.withSeeded 2) (.fetch ⟨⟨1⟩, 0⟩) ∧
      (further, world) = used.pool.recount used.storage []
        [.releasePage ⟨⟨1⟩, 0⟩ false, .fetch ⟨⟨1⟩, 1⟩, .releasePage ⟨⟨1⟩, 1⟩ false] ∧
      used.result = .ok (some ⟨0, 2, ⟨⟨1⟩, 0⟩⟩) ∧
      (used.pool.act used.storage (.fetch ⟨⟨1⟩, 0⟩)).result = .ok (some ⟨0, 2, ⟨⟨1⟩, 0⟩⟩) ∧
      Moment.Throughout [] used.pool (fun pool => pool.find? ⟨⟨1⟩, 0⟩ ≠ none) ∧
      (world.1.act world.2 (.fetch ⟨⟨1⟩, 0⟩)).result = .ok (some ⟨0, 6, ⟨⟨1⟩, 0⟩⟩) ∧
      ¬ Moment.Throughout further world.1 (fun pool => pool.find? ⟨⟨1⟩, 0⟩ ≠ none) ∧
      used.pool.TellsStays further world.1 := by
  have made : Pool.ofConfig ⟨1, true⟩ = .ok (.empty ⟨1, true⟩) := rfl
  generalize fetched : (Pool.empty ⟨1, true⟩).act (.withSeeded 2) (.fetch ⟨⟨1⟩, 0⟩) = used
  generalize reached : used.pool.recount used.storage []
    [.releasePage ⟨⟨1⟩, 0⟩ false, .fetch ⟨⟨1⟩, 1⟩, .releasePage ⟨⟨1⟩, 1⟩ false] = run
  have onward : History (used.pool, used.storage) run.1 run.2 := reached ▸ History.start.recount _
  have given : used.result = .ok (some ⟨0, 2, ⟨⟨1⟩, 0⟩⟩) := by
    subst fetched
    decide +kernel
  have hit : (used.pool.act used.storage (.fetch ⟨⟨1⟩, 0⟩)).result =
      .ok (some ⟨0, 2, ⟨⟨1⟩, 0⟩⟩) := by
    subst fetched
    decide +kernel
  have reloaded : (run.2.1.act run.2.2 (.fetch ⟨⟨1⟩, 0⟩)).result =
      .ok (some ⟨0, 6, ⟨⟨1⟩, 0⟩⟩) := by
    subst reached fetched
    decide +kernel
  subst fetched
  have equal := (handles_name_stays made .start).1 _ _ given
  have stays := (handles_name_stays made (History.start.act (.fetch ⟨⟨1⟩, 0⟩))).2 _ _ _ onward
  refine ⟨_, run.1, run.2, rfl, reached.symm, given, hit,
    ((equal _ _ _ .start _ _ hit).mp rfl).2, reloaded, fun resident => ?_, stays⟩
  exact absurd ((equal _ _ _ onward _ _ reloaded).mpr ⟨rfl, resident⟩) (by decide)

end History

end PageCache
