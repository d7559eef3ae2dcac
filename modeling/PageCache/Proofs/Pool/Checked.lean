import PageCache.Proofs.Pool.Handle

/-!
# Checked operations

Here are the operations of a pool once more, with a check wherever something could go wrong: before
a frame is looked up by its number, before the hand of the clock moves on, before a pin is taken
away, and before a page is put into a frame. A checked operation gives nothing if a check fails.
Main statement: along every course no check ever fails, so that every checked operation gives what
the operation itself does.
-/

namespace PageCache

/-- The largest number that a machine word holds. -/
def wordLimit : Nat := 18446744073709551615

/-- The clock with its hand on the next frame, if the number past the hand fits into a word and
there is a frame. -/
def Clock.advance? (clock : Clock) : Option Clock :=
  if clock.hand < wordLimit then clock.tick? else none

/-- The next visit of a sweep, if the hand can move on and reaches a frame. -/
def Sweep.step? (sweep : Sweep) : Option (Option Finding × Sweep) := do
  let clock ← sweep.clock.advance?
  let _ ← sweep.frames[clock.hand]?
  return sweep.step

/-- At most so many visits, if each of them can be made. -/
def Sweep.run? : Nat → Sweep → Option (Option Finding × Sweep)
  | 0, sweep => some (none, sweep)
  | visits + 1, sweep => do
    let visited ← sweep.step?
    match visited with
    | (some finding, after) => return (some finding, after)
    | (none, after) => run? visits after

/-- Two checked operations, where the second is not tried if the first fails. -/
def Outcome.andThen? {Value Next : Type} (first : Option (Outcome Value))
    (second : Value → Pool → Storage → Option (Outcome Next)) : Option (Outcome Next) := do
  let first ← first
  match first.result with
  | .ok value =>
    let rest ← second value first.pool first.storage
    return { rest with events := first.events ++ rest.events }
  | .error cause => return .failed cause first.pool first.storage first.events

namespace Pool

variable {pool : Pool} {storage : Storage}

/-- The sweep of the clock. -/
def sweep? (pool : Pool) : Option (Finding × Pool) := do
  let swept ← Sweep.run? (2 * pool.size) ⟨pool.clock, pool.frames, 0⟩
  return (swept.1.getD .exhausted, { pool with clock := swept.2.clock, frames := swept.2.frames })

/-- Writes the page in a frame to its file, if it is dirty. -/
def writeBack? (pool : Pool) (storage : Storage) (number : Nat) : Option (Outcome Unit) := do
  let _ ← pool.frames[number]?
  return pool.writeBack storage number

/-- Makes the page in a frame give way. -/
def evict? (pool : Pool) (storage : Storage) (number : Nat) : Option (Outcome Nat) := do
  let _ ← pool.frames[number]?
  return pool.evict storage number

/-- Finds a frame for a new page and makes it free. -/
def claim? (pool : Pool) (storage : Storage) : Option (Outcome Nat) := do
  let swept ← pool.sweep?
  match swept.1 with
  | .free number =>
    let _ ← swept.2.frames[number]?
    return .done number (swept.2.clearFrame number) storage []
  | .victim number =>
    Outcome.andThen? (swept.2.writeBack? storage number) fun _ pool storage =>
      pool.evict? storage number
  | .exhausted => return .failed (.exhausted swept.2.size) swept.2 storage [.exhausted swept.2.size]

/-- Puts a page into a frame, if it is not listed yet. -/
def install? (pool : Pool) (number : Nat) (file : FileIdentity) (page : Page) :
    Option (Handle × Pool) := do
  let _ ← pool.frames[number]?
  if pool.find? ⟨file, page.number⟩ = none then return pool.install number file page else none

/-- Pins the resident page in a frame once more. -/
def hit? (pool : Pool) (storage : Storage) (key : PageKey) (number : Nat) :
    Option (Outcome Handle) := do
  let _ ← pool.frames[number]?
  return pool.hit storage key number

/-- Reads a page that is not resident into a frame and pins it. -/
def load? (pool : Pool) (storage : Storage) (key : PageKey) : Option (Outcome Handle) :=
  Outcome.andThen? (pool.claim? storage) fun number pool storage =>
    let served := storage.read key.file key.page
    match served.1 with
    | .error cause => return .failed (.storage cause) pool served.2 []
    | .ok page => do
      let installed ← pool.install? number key.file page
      return .done installed.1 installed.2 served.2 [.miss key number]

/-- Pins a page. -/
def fetch? (pool : Pool) (storage : Storage) (key : PageKey) : Option (Outcome Handle) :=
  match pool.find? key with
  | some number => pool.hit? storage key number
  | none => (pool.count fun stats => { stats with misses := stats.misses + 1 }).load? storage key

/-- Appends a page to a file and pins it. -/
def allocate? (pool : Pool) (storage : Storage) (file : FileIdentity) : Option (Outcome Handle) :=
  Outcome.andThen? (pool.claim? storage) fun number pool storage =>
    let served := storage.allocate file
    match served.1 with
    | .error cause => return .failed (.storage cause) pool served.2 []
    | .ok page => do
      let installed ← pool.install? number file page
      return .done installed.1 installed.2 served.2 [.allocated ⟨file, page.number⟩ number]

/-- Gives back one pin of a page. -/
def releasePage? (pool : Pool) (storage : Storage) (key : PageKey) (dirty : Bool) :
    Option (Outcome Unit) :=
  match pool.find? key with
  | none => return .done () pool storage [.releaseIgnored key]
  | some number => do
    let frame ← pool.frames[number]?
    if frame.pins = 0 then return .failed (.notPinned key number) pool storage []
    else if 1 ≤ frame.pins then
      return .done () (pool.updateFrame number fun occupant => occupant.released dirty) storage []
    else none

/-- Gives back the pin of a handle. -/
def release? (pool : Pool) (storage : Storage) (handle : Handle) (dirty : Bool) :
    Option (Outcome Unit) :=
  if pool.accepts handle then pool.releasePage? storage handle.key dirty
  else return .failed (.staleHandle handle.frame handle.key.page) pool storage []

/-- Drops a page and deletes it from its file. -/
def dispose? (pool : Pool) (storage : Storage) (key : PageKey) : Option (Outcome Unit) := do
  match pool.find? key with
  | none => return pool.dispose storage key
  | some number =>
    let _ ← pool.frames[number]?
    return pool.dispose storage key

/-- Writes back the page in a frame if it belongs to a file, and makes the frame free. -/
def flushFrame? (pool : Pool) (storage : Storage) (file : FileIdentity) (number : Nat) :
    Option (Outcome Unit) := do
  let frame ← pool.frames[number]?
  match frame.occupant with
  | none => return .done () pool storage []
  | some occupant =>
    if occupant.key.file ≠ file then return .done () pool storage []
    else if occupant.pins ≠ 0 then
      return .failed (.stillPinned occupant.key number) pool storage []
    else
      Outcome.andThen? (pool.writeBack? storage number) fun _ pool storage => do
        let _ ← pool.frames[number]?
        return .done () (pool.remove number occupant.key) storage []

/-- Flushes the pages of a file from a list of frames, up to the first failure. -/
def flushEach? (pool : Pool) (storage : Storage) (file : FileIdentity) :
    List Nat → Option (Outcome Unit)
  | [] => return .done () pool storage []
  | number :: rest =>
    Outcome.andThen? (pool.flushFrame? storage file number) fun _ pool storage =>
      pool.flushEach? storage file rest

/-- Writes back all pages of a file and makes their frames free. -/
def flush? (pool : Pool) (storage : Storage) (file : FileIdentity) : Option (Outcome Unit) :=
  Outcome.andThen? (pool.flushEach? storage file (List.range pool.size)) fun _ pool storage =>
    return .done () pool storage [.flushed file]

/-- Writes back the dirty pages in a list of frames, up to the first failure. -/
def writeBackEach? (pool : Pool) (storage : Storage) : List Nat → Option (Outcome Unit)
  | [] => return .done () pool storage []
  | number :: rest =>
    Outcome.andThen? (pool.writeBack? storage number) fun _ pool storage =>
      pool.writeBackEach? storage rest

/-- Writes back every dirty page, up to the first failure. -/
def writeBackAll? (pool : Pool) (storage : Storage) : Option (Outcome Unit) :=
  pool.writeBackEach? storage (List.range pool.size)

/-- Writes back the dirty pages in a list of frames and reports every failure. -/
def writeBackAnyway? (pool : Pool) (storage : Storage) : List Nat → Option (Outcome Unit)
  | [] => return .done () pool storage []
  | number :: rest => do
    let first ← pool.writeBack? storage number
    let later ← first.pool.writeBackAnyway? first.storage rest
    return first.regardless (Event.dropFailed number) fun _ _ => later

/-- Ends the life of a pool. -/
def drop? (pool : Pool) (storage : Storage) : Option (Outcome Unit) :=
  if pool.config.writeBackOnDrop then pool.writeBackAnyway? storage (List.range pool.size)
  else return .done () pool storage []

/-- The page in the frame of an accepted handle. -/
def page? (pool : Pool) (handle : Handle) : Option (Except PoolError Page) := do
  if pool.accepts handle then
    let _ ← pool.frames[handle.frame]?
    return pool.page handle
  return .error (.staleHandle handle.frame handle.key.page)

/-- Replaces the bytes of the page of a handle, if the handle is accepted. -/
def write? (pool : Pool) (storage : Storage) (handle : Handle) (data : PageData) :
    Option (Outcome Unit) := do
  match ← pool.page? handle with
  | .ok _ => return .done () (pool.setData handle data) storage []
  | .error cause => return .failed cause pool storage []

/-- Carries out an action. -/
def act? (pool : Pool) (storage : Storage) : Action → Option (Outcome (Option Handle))
  | .fetch key => (pool.fetch? storage key).map (·.map some)
  | .allocate file => (pool.allocate? storage file).map (·.map some)
  | .releasePage key dirty => (pool.releasePage? storage key dirty).map (·.map fun _ => none)
  | .release handle dirty => (pool.release? storage handle dirty).map (·.map fun _ => none)
  | .dispose key => (pool.dispose? storage key).map (·.map fun _ => none)
  | .flush file => (pool.flush? storage file).map (·.map fun _ => none)
  | .writeBackAll => (pool.writeBackAll? storage).map (·.map fun _ => none)
  | .write handle data => (pool.write? storage handle data).map (·.map fun _ => none)

end Pool

/-! ## No check of a sweep fails -/

theorem Clock.advance?_eq {clock : Clock} (inside : clock.hand < clock.frames)
    (word : clock.frames ≤ wordLimit) : clock.advance? = some clock.tick := by
  have positive : clock.frames ≠ 0 := Nat.ne_of_gt (Nat.zero_lt_of_lt inside)
  rw [advance?, if_pos (inside.trans_le word), tick?, if_neg positive]

namespace Sweep

variable {sweep : Sweep}

theorem step?_eq (face : sweep.clock.frames = sweep.frames.size)
    (hand : sweep.clock.hand < sweep.clock.frames) (word : sweep.clock.frames ≤ wordLimit) :
    sweep.step? = some sweep.step := by
  have inside : sweep.clock.tick.hand < sweep.frames.size := by
    rw [← face]
    exact Clock.hand_tick_lt (Nat.zero_lt_of_lt hand)
  simp [step?, Clock.advance?_eq hand word, Array.getElem?_eq_getElem inside]

theorem run?_eq (visits : Nat) (face : sweep.clock.frames = sweep.frames.size)
    (hand : sweep.clock.hand < sweep.clock.frames) (word : sweep.clock.frames ≤ wordLimit) :
    run? visits sweep = some (run visits sweep) := by
  induction visits generalizing sweep with
  | zero => rfl
  | succ visits induction =>
      have clock := clock_step sweep
      have size := size_frames_step sweep
      have inside := Clock.hand_tick_lt (Nat.zero_lt_of_lt hand)
      simp only [run?, run, step?_eq face hand word, Option.bind_eq_bind, Option.bind_some]
      cases visited : sweep.step with
      | mk found after =>
          rw [visited] at clock size
          cases found with
          | some finding => rfl
          | none =>
              apply induction
              · rw [clock, size]
                exact face
              · rw [clock]
                exact inside
              · rw [clock]
                exact word

theorem hand_run (visits : Nat) (hand : sweep.clock.hand < sweep.clock.frames) :
    (run visits sweep).2.clock.hand < (run visits sweep).2.clock.frames := by
  induction visits generalizing sweep with
  | zero => exact hand
  | succ visits induction =>
      have clock := clock_step sweep
      have moved : sweep.step.2.clock.hand < sweep.step.2.clock.frames := by
        rw [clock]
        exact Clock.hand_tick_lt (Nat.zero_lt_of_lt hand)
      simp only [run]
      split
      · next finding after equal => simpa only [equal] using moved
      · next after equal =>
        rw [equal] at moved
        exact induction moved

end Sweep

/-! ## No check of a pool fails -/

/-- A sound pool with its hand on a frame, and with no more frames than fit into a word. -/
structure Pool.Steady (pool : Pool) (storage : Storage) : Prop where
  /-- The pool is sound. -/
  sound : pool.Sound storage
  /-- The hand is on a frame. -/
  hand : pool.clock.hand < pool.clock.frames
  /-- The frames are numbered by words. -/
  word : pool.size ≤ wordLimit

/-- No upkeep changes the number of frames. -/
theorem Upkeeps.size_eq {before after : World} (upkeeps : Upkeeps before after) :
    after.1.size = before.1.size := by
  induction upkeeps with
  | refl => rfl
  | tail _ step induction =>
      cases step with
      | tally | refuse => exact induction
      | unmark | clean => exact (Pool.size_updateFrame ..).trans induction
      | vacate => exact (Pool.size_remove ..).trans induction
      | renew => exact (Pool.size_setFrame ..).trans induction

theorem Outcome.andThen?_eq {Value Next : Type} {first? : Option (Outcome Value)}
    {first : Outcome Value} {second? : Value → Pool → Storage → Option (Outcome Next)}
    {second : Value → Pool → Storage → Outcome Next} (early : first? = some first)
    (late : ∀ value, first.result = .ok value →
      second? value first.pool first.storage = some (second value first.pool first.storage)) :
    andThen? first? second? = some (first.andThen second) := by
  subst early
  simp only [andThen?, andThen, Option.bind_eq_bind, Option.bind_some]
  cases given : first.result with
  | error cause => rfl
  | ok value => simp only [late value given, Option.bind_some, Option.pure_def]

theorem Outcome.clock_andThen {Value Next : Type} {first : Outcome Value}
    {second : Value → Pool → Storage → Outcome Next} {clock : Clock}
    (early : first.pool.clock = clock)
    (late : ∀ value pool storage, (second value pool storage).pool.clock = pool.clock) :
    (first.andThen second).pool.clock = clock :=
  andThen_induction (fun pool _ => pool.clock = clock) early fun value pool storage same =>
    (late value pool storage).trans same

namespace Pool

variable {pool : Pool} {storage : Storage}

theorem getElem?_frames {number : Nat} (inside : number < pool.size) :
    pool.frames[number]? = some (pool.frame number) := by
  have found : pool.frames[number]? = some pool.frames[number] := Array.getElem?_eq_getElem inside
  rw [frame, found, Option.getD_some]

theorem writeBack?_eq {number : Nat} (inside : number < pool.size) :
    pool.writeBack? storage number = some (pool.writeBack storage number) := by
  rw [writeBack?, getElem?_frames inside]
  rfl

theorem evict?_eq {number : Nat} (inside : number < pool.size) :
    pool.evict? storage number = some (pool.evict storage number) := by
  rw [evict?, getElem?_frames inside]
  rfl

theorem install?_eq {number : Nat} (inside : number < pool.size) {file : FileIdentity} {page : Page}
    (absent : pool.find? ⟨file, page.number⟩ = none) :
    pool.install? number file page = some (pool.install number file page) := by
  rw [install?, getElem?_frames inside]
  exact if_pos absent

namespace Steady

theorem sweep?_eq (steady : pool.Steady storage) : pool.sweep? = some pool.sweep := by
  have word := steady.sound.face.trans_le steady.word
  rw [sweep?, Sweep.run?_eq _ steady.sound.face steady.hand word]
  rfl

theorem claim?_eq (steady : pool.Steady storage) :
    pool.claim? storage = some (pool.claim storage) := by
  have holds := holds_sweep steady.sound.face steady.sound.positive
  simp only [claim?, claim, steady.sweep?_eq, Option.bind_eq_bind, Option.bind_some]
  cases found : pool.sweep.1 with
  | free number =>
      rw [found] at holds
      simp only [getElem?_frames holds.1, Option.bind_some, Option.pure_def]
  | victim number =>
      rw [found] at holds
      obtain ⟨occupant, occupied, -⟩ := holds
      have inside := lt_size_of_occupied occupied
      apply Outcome.andThen?_eq (writeBack?_eq inside)
      intro _ _
      apply evict?_eq
      rwa [size_writeBack]
  | exhausted => rfl

theorem load?_eq (steady : pool.Steady storage) {key : PageKey} (absent : pool.find? key = none) :
    pool.load? storage key = some (pool.load storage key) := by
  have upkeeps := upkeeps_claim storage steady.sound.face steady.sound.positive
  apply Outcome.andThen?_eq steady.claim?_eq
  intro number claimed
  obtain ⟨inside, free⟩ := free_of_claim steady.sound.face steady.sound.positive claimed
  dsimp only
  cases given : ((pool.claim storage).storage.read key.file key.page).1 with
  | error cause => rfl
  | ok page =>
      have own : (⟨key.file, page.number⟩ : PageKey) = key := by
        rw [(Storage.number_of_read given).1]
      have unlisted := own ▸ find?_of_upkeeps upkeeps absent
      simp only [install?_eq inside unlisted, Option.bind_eq_bind, Option.bind_some,
        Option.pure_def]

theorem fetch?_eq (steady : pool.Steady storage) (key : PageKey) :
    pool.fetch? storage key = some (pool.fetch storage key) := by
  simp only [fetch?, fetch]
  cases resident : pool.find? key with
  | some number =>
      obtain ⟨occupant, occupied, -⟩ := steady.sound.occupied_of_find? resident
      simp only [hit?, getElem?_frames (lt_size_of_occupied occupied), Option.bind_eq_bind,
        Option.bind_some, Option.pure_def]
  | none =>
      have missed : (pool.count fun stats => { stats with misses := stats.misses + 1 }).Steady
          storage := ⟨steady.sound.tally _ rfl, steady.hand, steady.word⟩
      exact missed.load?_eq resident

theorem allocate?_eq (steady : pool.Steady storage) (file : FileIdentity) :
    pool.allocate? storage file = some (pool.allocate storage file) := by
  have upkeeps := upkeeps_claim storage steady.sound.face steady.sound.positive
  apply Outcome.andThen?_eq steady.claim?_eq
  intro number claimed
  obtain ⟨inside, free⟩ := free_of_claim steady.sound.face steady.sound.positive claimed
  dsimp only
  cases given : ((pool.claim storage).storage.allocate file).1 with
  | error cause => rfl
  | ok page =>
      have reached : (pool.claim storage).pool.Sound (pool.claim storage).storage :=
        Upkeeps.sound upkeeps steady.sound
      have unlisted : (pool.claim storage).pool.find? ⟨file, page.number⟩ = none := by
        rw [(Storage.next_allocate_of_ok given file).1]
        exact reached.find?_next file
      simp only [install?_eq inside unlisted, Option.bind_eq_bind, Option.bind_some,
        Option.pure_def]

theorem releasePage?_eq (steady : pool.Steady storage) (key : PageKey) (dirty : Bool) :
    pool.releasePage? storage key dirty = some (pool.releasePage storage key dirty) := by
  simp only [releasePage?, releasePage]
  cases resident : pool.find? key with
  | none => rfl
  | some number =>
      obtain ⟨occupant, occupied, -⟩ := steady.sound.occupied_of_find? resident
      simp only [getElem?_frames (lt_size_of_occupied occupied), Option.bind_eq_bind,
        Option.bind_some]
      split
      · rfl
      · next pinned => exact if_pos (Nat.one_le_iff_ne_zero.mpr pinned)

theorem release?_eq (steady : pool.Steady storage) (handle : Handle) (dirty : Bool) :
    pool.release? storage handle dirty = some (pool.release storage handle dirty) := by
  simp only [release?, release]
  split
  · exact steady.releasePage?_eq handle.key dirty
  · rfl

theorem dispose?_eq (steady : pool.Steady storage) (key : PageKey) :
    pool.dispose? storage key = some (pool.dispose storage key) := by
  simp only [dispose?]
  split
  · rfl
  · next number resident =>
    obtain ⟨occupant, occupied, -⟩ := steady.sound.occupied_of_find? resident
    rw [getElem?_frames (lt_size_of_occupied occupied)]
    rfl

end Steady

theorem flushFrame?_eq {number : Nat} (inside : number < pool.size) (file : FileIdentity) :
    pool.flushFrame? storage file number = some (pool.flushFrame storage file number) := by
  simp only [flushFrame?, flushFrame, getElem?_frames inside, Option.bind_eq_bind, Option.bind_some]
  cases (pool.frame number).occupant with
  | none => rfl
  | some occupant =>
      dsimp only
      split
      · rfl
      · split
        · rfl
        · apply Outcome.andThen?_eq (writeBack?_eq inside)
          intro _ _
          have still : number < (pool.writeBack storage number).pool.size := by
            rwa [size_writeBack]
          simp only [getElem?_frames still, Option.bind_some, Option.pure_def]

theorem flushEach?_eq (file : FileIdentity) {numbers : List Nat}
    (inside : ∀ number ∈ numbers, number < pool.size) :
    pool.flushEach? storage file numbers = some (pool.flushEach storage file numbers) := by
  induction numbers generalizing pool storage with
  | nil => rfl
  | cons number rest induction =>
      apply Outcome.andThen?_eq (flushFrame?_eq (inside number List.mem_cons_self) file)
      intro _ _
      apply induction
      intro other later
      rw [Upkeeps.size_eq (upkeeps_flushFrame pool storage file number)]
      exact inside other (List.mem_cons_of_mem _ later)

theorem flush?_eq (pool : Pool) (storage : Storage) (file : FileIdentity) :
    pool.flush? storage file = some (pool.flush storage file) := by
  apply Outcome.andThen?_eq (flushEach?_eq file fun number => List.mem_range.mp)
  intro _ _
  rfl

theorem writeBackEach?_eq {numbers : List Nat} (inside : ∀ number ∈ numbers, number < pool.size) :
    pool.writeBackEach? storage numbers = some (pool.writeBackEach storage numbers) := by
  induction numbers generalizing pool storage with
  | nil => rfl
  | cons number rest induction =>
      apply Outcome.andThen?_eq (writeBack?_eq (inside number List.mem_cons_self))
      intro _ _
      apply induction
      intro other later
      rw [size_writeBack]
      exact inside other (List.mem_cons_of_mem _ later)

theorem writeBackAnyway?_eq {numbers : List Nat}
    (inside : ∀ number ∈ numbers, number < pool.size) :
    pool.writeBackAnyway? storage numbers = some (pool.writeBackAnyway storage numbers) := by
  induction numbers generalizing pool storage with
  | nil => rfl
  | cons number rest induction =>
      have later : (pool.writeBack storage number).pool.writeBackAnyway?
          (pool.writeBack storage number).storage rest =
            some ((pool.writeBack storage number).pool.writeBackAnyway
              (pool.writeBack storage number).storage rest) := by
        apply induction
        intro other later
        rw [size_writeBack]
        exact inside other (List.mem_cons_of_mem _ later)
      simp only [writeBackAnyway?, writeBack?_eq (inside number List.mem_cons_self), later,
        Option.bind_eq_bind, Option.bind_some, Option.pure_def]
      rfl

theorem drop?_eq (pool : Pool) (storage : Storage) :
    pool.drop? storage = some (pool.drop storage) := by
  simp only [drop?, drop]
  split
  · exact writeBackAnyway?_eq fun number => List.mem_range.mp
  · rfl

/-- Only a handle to one of the frames is accepted. -/
theorem lt_size_of_accepts {handle : Handle} (accepted : pool.accepts handle = true) :
    handle.frame < pool.size := by
  refine Nat.lt_of_not_le fun past => ?_
  simp [accepts, frame_of_size_le past, Frame.pins, Frame.fresh] at accepted

theorem page?_eq (pool : Pool) (handle : Handle) : pool.page? handle = some (pool.page handle) := by
  simp only [page?]
  split
  · next accepted =>
    rw [getElem?_frames (lt_size_of_accepts accepted)]
    rfl
  · next refused => exact congrArg some (page_of_not_accepts (Bool.eq_false_iff.mpr refused)).symm

theorem write?_eq (pool : Pool) (storage : Storage) (handle : Handle) (data : PageData) :
    pool.write? storage handle data = some (pool.write storage handle data) := by
  simp only [write?, write, page?_eq, Option.bind_eq_bind, Option.bind_some]
  cases pool.page handle <;> rfl

theorem Steady.act?_eq (steady : pool.Steady storage) (action : Action) :
    pool.act? storage action = some (pool.act storage action) := by
  cases action with
  | fetch key => rw [act?, steady.fetch?_eq]; rfl
  | allocate file => rw [act?, steady.allocate?_eq]; rfl
  | releasePage key dirty => rw [act?, steady.releasePage?_eq]; rfl
  | release handle dirty => rw [act?, steady.release?_eq]; rfl
  | dispose key => rw [act?, steady.dispose?_eq]; rfl
  | flush file => rw [act?, flush?_eq]; rfl
  | writeBackAll =>
      rw [act?, writeBackAll?, writeBackEach?_eq fun number => List.mem_range.mp]
      rfl
  | write handle data => rw [act?, write?_eq]; rfl

/-! ## The hand of the clock -/

/-- Whatever a pool does, its clock stays as it is or goes through one sweep. -/
theorem clock_claim (pool : Pool) (storage : Storage) :
    (pool.claim storage).pool.clock = pool.sweep.2.clock := by
  simp only [claim]
  split
  · rfl
  · next number found =>
    apply Outcome.clock_andThen (clock_writeBack _ storage number)
    intro _ after later
    rw [evict]
    split <;> rfl
  · rfl

theorem clock_load (pool : Pool) (storage : Storage) (key : PageKey) :
    (pool.load storage key).pool.clock = pool.sweep.2.clock := by
  apply Outcome.clock_andThen (clock_claim pool storage)
  intro _ after later
  dsimp only
  split
  · rfl
  · rfl

theorem clock_allocate (pool : Pool) (storage : Storage) (file : FileIdentity) :
    (pool.allocate storage file).pool.clock = pool.sweep.2.clock := by
  apply Outcome.clock_andThen (clock_claim pool storage)
  intro _ after later
  dsimp only
  split
  · rfl
  · rfl

theorem clock_releasePage (pool : Pool) (storage : Storage) (key : PageKey) (dirty : Bool) :
    (pool.releasePage storage key dirty).pool.clock = pool.clock := by
  simp only [releasePage]
  split
  · rfl
  · split <;> rfl

theorem clock_flush (pool : Pool) (storage : Storage) (file : FileIdentity) :
    (pool.flush storage file).pool.clock = pool.clock :=
  flush_induction (fun after _ => after.clock = pool.clock)
    (fun after later number same => (clock_writeBack after later number).trans same)
    (fun _ _ _ _ same => same) file rfl

theorem clock_writeBackEach (numbers : List Nat) (pool : Pool) (storage : Storage) :
    (pool.writeBackEach storage numbers).pool.clock = pool.clock :=
  writeBackEach_induction (fun after _ => after.clock = pool.clock)
    (fun after later number same => (clock_writeBack after later number).trans same) numbers rfl

theorem clock_act (pool : Pool) (storage : Storage) (action : Action) :
    (pool.act storage action).pool.clock = pool.clock ∨
      (pool.act storage action).pool.clock = pool.sweep.2.clock := by
  cases action with
  | fetch key =>
      simp only [act, Outcome.map, fetch]
      split
      · exact .inl rfl
      · exact .inr (clock_load _ storage key)
  | allocate file => exact .inr (clock_allocate pool storage file)
  | releasePage key dirty => exact .inl (clock_releasePage pool storage key dirty)
  | release handle dirty =>
      simp only [act, Outcome.map, release]
      split
      · exact .inl (clock_releasePage pool storage handle.key dirty)
      · exact .inl rfl
  | dispose key =>
      simp only [act, Outcome.map, dispose, forget]
      split <;> split <;> exact .inl rfl
  | flush file => exact .inl (clock_flush pool storage file)
  | writeBackAll => exact .inl (clock_writeBackEach _ pool storage)
  | write handle data =>
      simp only [act, Outcome.map, write]
      split <;> exact .inl rfl

theorem hand_sweep (hand : pool.clock.hand < pool.clock.frames) :
    pool.sweep.2.clock.hand < pool.sweep.2.clock.frames :=
  Sweep.hand_run (2 * pool.size) hand

theorem hand_act (hand : pool.clock.hand < pool.clock.frames) (storage : Storage)
    (action : Action) :
    (pool.act storage action).pool.clock.hand < (pool.act storage action).pool.clock.frames := by
  rcases clock_act pool storage action with same | swept
  · rw [same]
    exact hand
  · rw [swept]
    exact hand_sweep hand

end Pool

namespace Course

variable {config : Config} {new : Pool} {base : Storage} {issued : List Handle} {world : World}

/-- The hand stays on one of the frames. -/
theorem hand_lt_of_start {start : World} (course : Course start issued world)
    (hand : start.1.clock.hand < start.1.clock.frames) :
    world.1.clock.hand < world.1.clock.frames := by
  induction course with
  | start => exact hand
  | act _ action induction => exact Pool.hand_act induction _ action
  | elsewhere _ _ induction => exact induction

theorem hand_lt (made : Pool.ofConfig config = .ok new)
    (course : Course (new, base) issued world) : world.1.clock.hand < world.1.clock.frames := by
  refine course.hand_lt_of_start ?_
  have positive := (Pool.sound_ofConfig made base).positive
  obtain rfl := Pool.eq_empty_of_made made
  exact Clock.hand_start_lt (Nat.lt_of_lt_of_eq positive (Pool.size_empty config))

end Course

end PageCache
