import PageCache.Proofs.Pool.Rounds
import PageCache.Proofs.Word.Descriptor

/-!
# Pools as a machine keeps them

Here is a pool once more, as a machine keeps it: pages and descriptors in tables of their own, files
known by 32 bits, pins counted in 32 bits and a hand of 64 bits. Every look-up in a table and every
sum that could overflow is made where the machine makes it, so that an operation gives nothing where
the machine would stop. A descriptor whose fields contradict each other is found corrupt where the
machine finds it so. Only generations and statistics, of 64 bits each, are counted without a limit,
and the log is left out.
-/

namespace PageCache

/-- How much a machine looks after itself. -/
inductive Build where
  /-- It stops at a sum that overflows and at an assertion that fails. -/
  | guarded
  /-- Sums wrap, and assertions are not looked at. -/
  | bare
deriving DecidableEq, Repr

/-- The largest count of pins in 32 bits. -/
def fullPins : UInt32 := 4294967295

/-- A pool as a machine keeps it. -/
structure WordPool where
  /-- The settings with which the pool was made. -/
  config : Config
  /-- The pages by frame; that of a free frame is left over. -/
  pages : Array Page
  /-- The descriptors by frame. -/
  descriptors : Array Descriptor
  /-- The frame of every resident page. -/
  directory : Directory
  /-- The hand that chooses the page to give way. -/
  clock : WordClock
  /-- What the pool has done so far. -/
  stats : Stats

/-- What an operation of a machine gives and leaves behind. -/
structure WordOutcome (Value : Type) where
  /-- The value, or why there is none. -/
  result : Except PoolError Value
  /-- The pool afterwards. -/
  pool : WordPool
  /-- The storage afterwards. -/
  storage : Storage

namespace WordOutcome

variable {Value Next : Type}

/-- The outcome of an operation that gives a value. -/
def done (value : Value) (pool : WordPool) (storage : Storage) : WordOutcome Value :=
  ⟨.ok value, pool, storage⟩

/-- The outcome of an operation that fails. -/
def failed (cause : PoolError) (pool : WordPool) (storage : Storage) : WordOutcome Value :=
  ⟨.error cause, pool, storage⟩

/-- The outcome with its value changed. -/
def map (outcome : WordOutcome Value) (change : Value → Next) : WordOutcome Next :=
  ⟨outcome.result.map change, outcome.pool, outcome.storage⟩

/-- Two operations, where the second is not tried if the first fails. -/
def andThen? (first : Option (WordOutcome Value))
    (second : Value → WordPool → Storage → Option (WordOutcome Next)) :
    Option (WordOutcome Next) := do
  let first ← first
  match first.result with
  | .ok value => second value first.pool first.storage
  | .error cause => return .failed cause first.pool first.storage

end WordOutcome

namespace WordPool

/-- A new pool with the given settings, if they are sound. -/
def ofConfig (config : Config) : Except PoolError WordPool :=
  match config.problem? with
  | some problem => .error (.config problem)
  | none => .ok {
      config
      pages := .replicate config.frames (.zero 0)
      descriptors := .replicate config.frames .fresh
      directory := .empty
      clock := .start (.ofNat config.frames)
      stats := {} }

/-- The number of frames. -/
def size (pool : WordPool) : Nat := pool.descriptors.size

/-- The descriptor of a frame; there is nothing in a frame past the last. -/
def descriptor (pool : WordPool) (number : Nat) : Descriptor :=
  pool.descriptors[number]?.getD .fresh

/-- The pool with one descriptor replaced. -/
def setDescriptor (pool : WordPool) (number : Nat) (descriptor : Descriptor) : WordPool :=
  { pool with descriptors := pool.descriptors.setIfInBounds number descriptor }

/-- The pool with its counters changed. -/
def count (pool : WordPool) (change : Stats → Stats) : WordPool :=
  { pool with stats := change pool.stats }

/-- The frame that holds a page, if it is listed. -/
def find? (pool : WordPool) (key : PageKey) : Option Nat := pool.directory.get? key.word

/-- The pool with a page unlisted and its frame made free. -/
def vacate (pool : WordPool) (number : Nat) (key : PageKey) : WordPool :=
  { pool.setDescriptor number (pool.descriptor number).clear with
    directory := pool.directory.erase key.word }

/-! ## Writing back and making room -/

/-- Writes the page in a frame to its file, if the frame is dirty. -/
def writeBack? (pool : WordPool) (storage : Storage) (number : Nat) :
    Option (WordOutcome Unit) := do
  let descriptor ← pool.descriptors[number]?
  if descriptor.dirty then
    match descriptor.owner with
    | none => return .failed (descriptor.corrupt number) pool storage
    | some owner => do
      let page ← pool.pages[number]?
      let written := storage.write owner page
      match written.1 with
      | .error cause => return .failed (.storage cause) pool written.2
      | .ok () =>
        return .done ()
          ((pool.setDescriptor number { descriptor with dirty := false }).count fun stats =>
            { stats with writeBacks := stats.writeBacks + 1 })
          written.2
  else return .done () pool storage

/-- Writes the page in a frame back and makes it give way. -/
def evict? (pool : WordPool) (storage : Storage) (number : Nat) : Option (WordOutcome Nat) :=
  WordOutcome.andThen? (pool.writeBack? storage number) fun _ pool storage => do
    let descriptor ← pool.descriptors[number]?
    match descriptor.owner with
    | none => return .failed (descriptor.corrupt number) pool storage
    | some owner =>
      return .done number
        ((pool.vacate number ⟨owner, descriptor.page⟩).count fun stats =>
          { stats with evictions := stats.evictions + 1 })
        storage

/-- Visits the next frame: the finding that ends the sweep, if any, and the pool and the number of
blocked visits afterwards. -/
def visit? (pool : WordPool) (blocked : Nat) : Option (Option Finding × WordPool × Nat) := do
  let clock ← pool.clock.advance?
  let number := clock.hand.toNat
  let descriptor ← pool.descriptors[number]?
  match descriptor.verdict with
  | .claim => return (some (.free number), { pool with clock }, blocked)
  | .spare =>
    let unmarked := { descriptor with referenced := false }
    return (none, { pool with clock }.setDescriptor number unmarked, 0)
  | .pass =>
    return (if pool.size ≤ blocked + 1 then some .exhausted else none, { pool with clock },
      blocked + 1)
  | .evict => return (some (.victim number), { pool with clock }, blocked)

/-- What is done about a finding. -/
def settle? (pool : WordPool) (storage : Storage) : Finding → Option (WordOutcome Nat)
  | .free number => do
    let descriptor ← pool.descriptors[number]?
    return .done number (pool.setDescriptor number descriptor.clear) storage
  | .victim number => pool.evict? storage number
  | .exhausted => return .failed (.exhausted pool.size) pool storage

/-- The loop that finds a frame for a new page and makes it free, if it ends within so many
visits. -/
def sweep? (storage : Storage) : Nat → WordPool → Nat → Option (WordOutcome Nat)
  | 0, _, _ => none
  | visits + 1, pool, blocked => do
    match ← pool.visit? blocked with
    | (some finding, pool, _) => pool.settle? storage finding
    | (none, pool, blocked) => sweep? storage visits pool blocked

/-- Finds a frame for a new page and makes it free. -/
def claim? (pool : WordPool) (storage : Storage) : Option (WordOutcome Nat) :=
  sweep? storage (2 * pool.size) pool 0

/-! ## Pinning and releasing pages -/

/-- Puts a page into a frame. An assertion says that it was not listed. -/
def install? (build : Build) (pool : WordPool) (number : Nat) (file : FileIdentity)
    (page : Page) : Option (Handle × WordPool) := do
  let _ ← pool.pages[number]?
  let descriptor ← pool.descriptors[number]?
  let key : PageKey := ⟨file, page.number⟩
  let held := descriptor.set file page.number
  if build = .guarded ∧ (pool.find? key).isSome then none
  else
    return (⟨number, held.generation, key.word⟩,
      { pool.setDescriptor number held with
        pages := pool.pages.setIfInBounds number page
        directory := pool.directory.insert key.word number })

/-- Pins the resident page in a frame once more, without a look at its pins. -/
def hit? (build : Build) (pool : WordPool) (storage : Storage) (key : PageKey) (number : Nat) :
    Option (WordOutcome Handle) := do
  let descriptor ← pool.descriptors[number]?
  if build = .guarded ∧ descriptor.pins = fullPins then none
  else
    return .done ⟨number, descriptor.generation, key.word⟩
      ((pool.setDescriptor number
        { descriptor with referenced := true, pins := descriptor.pins + 1 }).count fun stats =>
          { stats with hits := stats.hits + 1 })
      storage

/-- Reads a page that is not resident into a frame and pins it. -/
def load? (build : Build) (pool : WordPool) (storage : Storage) (key : PageKey) :
    Option (WordOutcome Handle) :=
  WordOutcome.andThen? (pool.claim? storage) fun number pool storage =>
    let served := storage.read key.file key.page
    match served.1 with
    | .error cause => return .failed (.storage cause) pool served.2
    | .ok page => do
      let installed ← pool.install? build number key.file page
      return .done installed.1 installed.2 served.2

/-- Pins a page, which is read from its file if it is not resident. -/
def fetch? (build : Build) (pool : WordPool) (storage : Storage) (key : PageKey) :
    Option (WordOutcome Handle) :=
  match pool.find? key with
  | some number => pool.hit? build storage key number
  | none =>
    (pool.count fun stats => { stats with misses := stats.misses + 1 }).load? build storage key

/-- Appends a page to a file and pins it. -/
def allocate? (build : Build) (pool : WordPool) (storage : Storage) (file : FileIdentity) :
    Option (WordOutcome Handle) :=
  WordOutcome.andThen? (pool.claim? storage) fun number pool storage =>
    let served := storage.allocate file
    match served.1 with
    | .error cause => return .failed (.storage cause) pool served.2
    | .ok page => do
      let installed ← pool.install? build number file page
      return .done installed.1 installed.2 served.2

/-- Gives back one pin of a page. -/
def releasePage? (pool : WordPool) (storage : Storage) (key : PageKey) (dirty : Bool) :
    Option (WordOutcome Unit) :=
  match pool.find? key with
  | none => return .done () pool storage
  | some number => do
    let descriptor ← pool.descriptors[number]?
    if descriptor.pins = 0 then return .failed (.notPinned key.word number) pool storage
    else if 1 ≤ descriptor.pins then
      return .done ()
        (pool.setDescriptor number
          { descriptor with
            dirty := descriptor.dirty || dirty
            pins := descriptor.pins - 1 })
        storage
    else none

/-- Whether a handle may be used. -/
def accepts (pool : WordPool) (handle : Handle) : Bool :=
  (pool.descriptors[handle.frame]?).any fun descriptor =>
    descriptor.valid && 0 < descriptor.pins && descriptor.generation == handle.generation

/-- Gives back the pin of a handle. -/
def release? (pool : WordPool) (storage : Storage) (handle : Handle) (dirty : Bool) :
    Option (WordOutcome Unit) :=
  if pool.accepts handle then pool.releasePage? storage handle.key dirty
  else return .failed (.staleHandle handle.frame handle.key.page) pool storage

/-! ## Removing pages -/

/-- Drops a page without writing it back. -/
def forget? (pool : WordPool) (key : PageKey) : Option WordPool :=
  match pool.find? key with
  | none => some pool
  | some number => (pool.descriptors[number]?).map fun _ => pool.vacate number key

/-- Drops a page without writing it back and deletes it from its file. -/
def dispose? (pool : WordPool) (storage : Storage) (key : PageKey) :
    Option (WordOutcome Unit) := do
  let forgotten ← pool.forget? key
  let deleted := storage.delete key.file key.page
  match deleted.1 with
  | .ok () => return .done () forgotten deleted.2
  | .error cause => return .failed (.storage cause) forgotten deleted.2

/-- Writes back the page in a frame if it belongs to a file, and makes the frame free. -/
def flushFrame? (pool : WordPool) (storage : Storage) (file : FileIdentity) (number : Nat) :
    Option (WordOutcome Unit) := do
  let descriptor ← pool.descriptors[number]?
  if descriptor.owner.map FileIdentity.word ≠ some file.word then return .done () pool storage
  else if descriptor.pins ≠ 0 then
    return .failed (.stillPinned (PageKey.word ⟨file, descriptor.page⟩) number) pool storage
  else if !descriptor.valid then return .failed (descriptor.corrupt number) pool storage
  else
    WordOutcome.andThen? (pool.writeBack? storage number) fun _ pool storage => do
      let descriptor ← pool.descriptors[number]?
      return .done () (pool.vacate number ⟨file, descriptor.page⟩) storage

/-- Flushes the pages of a file from a list of frames, up to the first failure. -/
def flushEach? (pool : WordPool) (storage : Storage) (file : FileIdentity) :
    List Nat → Option (WordOutcome Unit)
  | [] => return .done () pool storage
  | number :: rest =>
    WordOutcome.andThen? (pool.flushFrame? storage file number) fun _ pool storage =>
      pool.flushEach? storage file rest

/-- Writes back all pages of a file and makes their frames free. -/
def flush? (pool : WordPool) (storage : Storage) (file : FileIdentity) :
    Option (WordOutcome Unit) :=
  pool.flushEach? storage file (List.range pool.size)

/-- Writes the page in a frame back, if there is one. -/
def save? (pool : WordPool) (storage : Storage) (number : Nat) : Option (WordOutcome Unit) := do
  let descriptor ← pool.descriptors[number]?
  if descriptor.valid then pool.writeBack? storage number else return .done () pool storage

/-- Writes back the pages in a list of frames, up to the first failure. -/
def saveEach? (pool : WordPool) (storage : Storage) : List Nat → Option (WordOutcome Unit)
  | [] => return .done () pool storage
  | number :: rest =>
    WordOutcome.andThen? (pool.save? storage number) fun _ pool storage =>
      pool.saveEach? storage rest

/-- Writes back every page, pinned or not, up to the first failure. -/
def saveAll? (pool : WordPool) (storage : Storage) : Option (WordOutcome Unit) :=
  pool.saveEach? storage (List.range pool.size)

/-- Writes back the pages in a list of frames, whatever fails. -/
def saveAnyway? (pool : WordPool) (storage : Storage) : List Nat → Option (WordOutcome Unit)
  | [] => return .done () pool storage
  | number :: rest => do
    let first ← pool.save? storage number
    first.pool.saveAnyway? first.storage rest

/-- Ends the life of a pool: its pages are written back if the pool was made so. -/
def drop? (pool : WordPool) (storage : Storage) : Option (WordOutcome Unit) :=
  if pool.config.writeBackOnDrop then pool.saveAnyway? storage (List.range pool.size)
  else return .done () pool storage

/-! ## Actions -/

/-- The page in the frame of an accepted handle. -/
def page? (pool : WordPool) (handle : Handle) : Option (Except PoolError Page) :=
  if pool.accepts handle then (pool.pages[handle.frame]?).map .ok
  else return .error (.staleHandle handle.frame handle.key.page)

/-- Replaces the bytes of the page of a handle, if the handle is accepted. -/
def write? (pool : WordPool) (storage : Storage) (handle : Handle) (data : PageData) :
    Option (WordOutcome Unit) := do
  match ← pool.page? handle with
  | .ok page =>
    return .done ()
      { pool with pages := pool.pages.setIfInBounds handle.frame { page with data } } storage
  | .error cause => return .failed cause pool storage

/-- Carries out an action; those that pin a page give a handle. -/
def act? (build : Build) (pool : WordPool) (storage : Storage) :
    Action → Option (WordOutcome (Option Handle))
  | .fetch key => (pool.fetch? build storage key).map (·.map some)
  | .allocate file => (pool.allocate? build storage file).map (·.map some)
  | .releasePage key dirty => (pool.releasePage? storage key dirty).map (·.map fun _ => none)
  | .release handle dirty => (pool.release? storage handle dirty).map (·.map fun _ => none)
  | .dispose key => (pool.dispose? storage key).map (·.map fun _ => none)
  | .flush file => (pool.flush? storage file).map (·.map fun _ => none)
  | .writeBackAll => (pool.saveAll? storage).map (·.map fun _ => none)
  | .write handle data => (pool.write? storage handle data).map (·.map fun _ => none)

/-- The fetch of a page that has as many pins as fit into 32 bits. -/
def Full (pool : WordPool) (action : Action) : Prop :=
  ∃ key number, action = .fetch key ∧ pool.find? key = some number ∧
    (pool.descriptor number).pins = fullPins

/-! ## Descriptors and what is done about them -/

@[simp] theorem size_setDescriptor (pool : WordPool) (number : Nat) (descriptor : Descriptor) :
    (pool.setDescriptor number descriptor).size = pool.size :=
  Array.size_setIfInBounds

theorem descriptor_setDescriptor {pool : WordPool} {number : Nat} (inside : number < pool.size)
    (descriptor : Descriptor) (other : Nat) :
    (pool.setDescriptor number descriptor).descriptor other =
      if number = other then descriptor else pool.descriptor other := by
  simp only [WordPool.descriptor, setDescriptor, Array.getElem?_setIfInBounds]
  split
  · rw [if_pos (show number < pool.descriptors.size from inside), Option.getD_some]
  · rfl

theorem descriptor_of_size_le {pool : WordPool} {number : Nat} (past : pool.size ≤ number) :
    pool.descriptor number = .fresh := by
  rw [descriptor, Array.getElem?_eq_none past, Option.getD_none]

theorem getElem?_descriptors {pool : WordPool} {number : Nat} (inside : number < pool.size) :
    pool.descriptors[number]? = some (pool.descriptor number) := by
  have found : pool.descriptors[number]? = some pool.descriptors[number] :=
    Array.getElem?_eq_getElem inside
  rw [descriptor, found, Option.getD_some]

theorem setDescriptor_self {pool : WordPool} {number : Nat} (inside : number < pool.size) :
    pool.setDescriptor number (pool.descriptor number) = pool := by
  have same : pool.descriptors.setIfInBounds number (pool.descriptor number) =
      pool.descriptors := by
    refine Array.ext_getElem? fun other => ?_
    rw [Array.getElem?_setIfInBounds]
    split
    · next here => rw [if_pos (show number < pool.descriptors.size from inside), ← here,
        getElem?_descriptors inside]
    · rfl
  rw [setDescriptor, same]

section writeBack

variable {pool after : WordPool} {storage later : Storage} {number : Nat} {owner : FileIdentity}
  {page : Page} {cause : PoolError}

theorem writeBack?_of_clean (inside : number < pool.size)
    (clean : (pool.descriptor number).dirty = false) (storage : Storage) :
    pool.writeBack? storage number = some (.done () pool storage) := by
  simp only [writeBack?, getElem?_descriptors inside, clean, Option.bind_eq_bind,
    Option.bind_some, Bool.false_eq_true, if_false, Option.pure_def]

theorem writeBack?_of_ownerless (inside : number < pool.size)
    (dirty : (pool.descriptor number).dirty = true)
    (ownerless : (pool.descriptor number).owner = none) (storage : Storage) :
    pool.writeBack? storage number =
      some (.failed ((pool.descriptor number).corrupt number) pool storage) := by
  simp only [writeBack?, getElem?_descriptors inside, Option.bind_eq_bind, Option.bind_some,
    Option.pure_def]
  rw [if_pos dirty, ownerless]

/-- A page that its file takes back is clean. -/
theorem writeBack?_of_taken (inside : number < pool.size)
    (dirty : (pool.descriptor number).dirty = true)
    (owned : (pool.descriptor number).owner = some owner) (held : pool.pages[number]? = some page)
    (taken : (storage.write owner page).1 = .ok ()) :
    pool.writeBack? storage number = some (.done ()
      ((pool.setDescriptor number { pool.descriptor number with dirty := false }).count fun stats =>
        { stats with writeBacks := stats.writeBacks + 1 })
      (storage.write owner page).2) := by
  simp only [writeBack?, getElem?_descriptors inside, Option.bind_eq_bind, Option.bind_some,
    Option.pure_def]
  rw [if_pos dirty, owned]
  simp only [held, taken, Option.bind_some]

/-- A page that its file does not take back stays dirty. -/
theorem writeBack?_of_refused (inside : number < pool.size)
    (dirty : (pool.descriptor number).dirty = true)
    (owned : (pool.descriptor number).owner = some owner) (held : pool.pages[number]? = some page)
    {cause : BackingError} (refused : (storage.write owner page).1 = .error cause) :
    pool.writeBack? storage number =
      some (.failed (.storage cause) pool (storage.write owner page).2) := by
  simp only [writeBack?, getElem?_descriptors inside, Option.bind_eq_bind, Option.bind_some,
    Option.pure_def]
  rw [if_pos dirty, owned]
  simp only [held, refused, Option.bind_some]

theorem evict?_of_failed
    (written : pool.writeBack? storage number = some (.failed cause after later)) :
    pool.evict? storage number = some (.failed cause after later) := by
  rw [evict?, written]
  rfl

theorem evict?_of_ownerless
    (written : pool.writeBack? storage number = some (.done () after later))
    (inside : number < after.size) (ownerless : (after.descriptor number).owner = none) :
    pool.evict? storage number =
      some (.failed ((after.descriptor number).corrupt number) after later) := by
  simp only [evict?, written, WordOutcome.andThen?, WordOutcome.done, getElem?_descriptors inside,
    Option.bind_eq_bind, Option.bind_some, Option.pure_def]
  rw [ownerless]

theorem evict?_of_owner (written : pool.writeBack? storage number = some (.done () after later))
    (inside : number < after.size) (owned : (after.descriptor number).owner = some owner) :
    pool.evict? storage number = some (.done number
      ((after.vacate number ⟨owner, (after.descriptor number).page⟩).count fun stats =>
        { stats with evictions := stats.evictions + 1 })
      later) := by
  simp only [evict?, written, WordOutcome.andThen?, WordOutcome.done, getElem?_descriptors inside,
    Option.bind_eq_bind, Option.bind_some, Option.pure_def]
  rw [owned]

end writeBack

/-- A machine that looks after itself stops at the fetch of a page that has as many pins as fit. -/
theorem fetch?_of_full {pool : WordPool} {key : PageKey} (full : pool.Full (.fetch key))
    (storage : Storage) : pool.fetch? .guarded storage key = none := by
  obtain ⟨_, number, asked, resident, pins⟩ := full
  obtain rfl := Action.fetch.inj asked
  simp only [fetch?, resident]
  by_cases inside : number < pool.size
  · simp [hit?, getElem?_descriptors inside, pins]
  · have missing : pool.descriptors[number]? = none :=
      Array.getElem?_eq_none (Nat.le_of_not_lt inside)
    simp [hit?, missing]

theorem act?_of_full {pool : WordPool} {action : Action} (full : pool.Full action)
    (storage : Storage) : pool.act? .guarded storage action = none := by
  obtain ⟨key, number, rfl, -⟩ := id full
  rw [act?, fetch?_of_full full, Option.map_none]

end WordPool

end PageCache
