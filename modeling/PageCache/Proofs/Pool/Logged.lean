import PageCache.Pool.Pinning
import PageCache.Pool.Removal

/-!
# Operations that log as they go

Here are the operations of a pool once more, with the threshold of the log at hand: each event is
put to the log at the place where it happens, and the log takes it or not. Main statements: each of
them gives and leaves behind what the operation itself does, whatever the threshold, and logs those
of its events that the threshold records.
-/

namespace PageCache

/-- What a log with this threshold takes of an event that is put to it. -/
def Level.log (threshold : Level) (event : Event) : List Event :=
  if threshold.records event.level then [event] else []

namespace Logged

variable (level : Level)

/-- Writes the page in a frame to its file, if it is dirty. -/
def writeBack (pool : Pool) (storage : Storage) (number : Nat) : Outcome Unit :=
  match (pool.frame number).occupant with
  | none => .done () pool storage []
  | some occupant =>
    if occupant.dirty then
      let written := storage.write occupant.key.file occupant.page
      match written.1 with
      | .ok () =>
        .done ()
          ((pool.updateFrame number Occupant.cleaned).count fun stats =>
            { stats with writeBacks := stats.writeBacks + 1 })
          written.2 (level.log (.wroteBack occupant.key number))
      | .error cause => .failed (.storage cause) pool written.2 []
    else .done () pool storage []

/-- Writes back the dirty pages in a list of frames, up to the first failure. -/
def writeBackEach (pool : Pool) (storage : Storage) : List Nat → Outcome Unit
  | [] => .done () pool storage []
  | number :: rest =>
    (writeBack level pool storage number).andThen fun _ pool storage =>
      writeBackEach pool storage rest

/-- Writes back every dirty page, up to the first failure. -/
def writeBackAll (pool : Pool) (storage : Storage) : Outcome Unit :=
  writeBackEach level pool storage (List.range pool.size)

/-- Writes back the dirty pages in a list of frames and reports every failure. -/
def writeBackAnyway (pool : Pool) (storage : Storage) : List Nat → Outcome Unit
  | [] => .done () pool storage []
  | number :: rest =>
    let first := writeBack level pool storage number
    let later := writeBackAnyway first.pool first.storage rest
    let report := match first.result with
      | .ok () => []
      | .error cause => level.log (.dropFailed number cause)
    { later with events := first.events ++ (report ++ later.events) }

/-- Ends the life of a pool. -/
def drop (pool : Pool) (storage : Storage) : Outcome Unit :=
  if pool.config.writeBackOnDrop then writeBackAnyway level pool storage (List.range pool.size)
  else .done () pool storage []

/-- Makes the page in a frame give way. -/
def evict (pool : Pool) (storage : Storage) (number : Nat) : Outcome Nat :=
  match (pool.frame number).key? with
  | none => .done number pool storage []
  | some key =>
    .done number
      ((pool.remove number key).count fun stats => { stats with evictions := stats.evictions + 1 })
      storage (level.log (.evicting key number))

/-- Finds a frame for a new page and makes it free. -/
def claim (pool : Pool) (storage : Storage) : Outcome Nat :=
  let swept := pool.sweep
  match swept.1 with
  | .free number => .done number (swept.2.clearFrame number) storage []
  | .victim number =>
    (writeBack level swept.2 storage number).andThen fun _ pool storage =>
      evict level pool storage number
  | .exhausted =>
    .failed (.exhausted swept.2.size) swept.2 storage (level.log (.exhausted swept.2.size))

/-- Pins the resident page in a frame once more. -/
def hit (pool : Pool) (storage : Storage) (key : PageKey) (number : Nat) : Outcome Handle :=
  let pinned := pool.updateFrame number Occupant.pinned
  .done ⟨number, (pinned.frame number).generation, key⟩
    (pinned.count fun stats => { stats with hits := stats.hits + 1 }) storage
    (level.log (.hit key number (pinned.frame number).pins))

/-- Reads a page that is not resident into a frame and pins it. -/
def load (pool : Pool) (storage : Storage) (key : PageKey) : Outcome Handle :=
  (claim level pool storage).andThen fun number pool storage =>
    let served := storage.read key.file key.page
    match served.1 with
    | .error cause => .failed (.storage cause) pool served.2 []
    | .ok page =>
      let logged := level.log (.miss key number)
      let installed := pool.install number key.file page
      .done installed.1 installed.2 served.2 logged

/-- Pins a page, which is read from its file if it is not resident. -/
def fetch (pool : Pool) (storage : Storage) (key : PageKey) : Outcome Handle :=
  match pool.find? key with
  | some number => hit level pool storage key number
  | none =>
    load level (pool.count fun stats => { stats with misses := stats.misses + 1 }) storage key

/-- Appends a page to a file and pins it. -/
def allocate (pool : Pool) (storage : Storage) (file : FileIdentity) : Outcome Handle :=
  (claim level pool storage).andThen fun number pool storage =>
    let served := storage.allocate file
    match served.1 with
    | .error cause => .failed (.storage cause) pool served.2 []
    | .ok page =>
      let logged := level.log (.allocated ⟨file, page.number⟩ number)
      let installed := pool.install number file page
      .done installed.1 installed.2 served.2 logged

/-- Gives back one pin of a page. -/
def releasePage (pool : Pool) (storage : Storage) (key : PageKey) (dirty : Bool) : Outcome Unit :=
  match pool.find? key with
  | none => .done () pool storage (level.log (.releaseIgnored key))
  | some number =>
    if (pool.frame number).pins = 0 then .failed (.notPinned key number) pool storage []
    else .done () (pool.updateFrame number fun occupant => occupant.released dirty) storage []

/-- Gives back the pin of a handle. -/
def release (pool : Pool) (storage : Storage) (handle : Handle) (dirty : Bool) : Outcome Unit :=
  if pool.accepts handle then releasePage level pool storage handle.key dirty
  else .failed (.staleHandle handle.frame handle.key.page) pool storage []

/-- Writes back the page in a frame if it belongs to a file, and makes the frame free. -/
def flushFrame (pool : Pool) (storage : Storage) (file : FileIdentity) (number : Nat) :
    Outcome Unit :=
  match (pool.frame number).occupant with
  | none => .done () pool storage []
  | some occupant =>
    if occupant.key.file ≠ file then .done () pool storage []
    else if occupant.pins ≠ 0 then .failed (.stillPinned occupant.key number) pool storage []
    else
      (writeBack level pool storage number).andThen fun _ pool storage =>
        .done () (pool.remove number occupant.key) storage []

/-- Flushes the pages of a file from a list of frames, up to the first failure. -/
def flushEach (pool : Pool) (storage : Storage) (file : FileIdentity) : List Nat → Outcome Unit
  | [] => .done () pool storage []
  | number :: rest =>
    (flushFrame level pool storage file number).andThen fun _ pool storage =>
      flushEach pool storage file rest

/-- Writes back all pages of a file and makes their frames free. -/
def flush (pool : Pool) (storage : Storage) (file : FileIdentity) : Outcome Unit :=
  (flushEach level pool storage file (List.range pool.size)).andThen fun _ pool storage =>
    .done () pool storage (level.log (.flushed file))

/-- The pool without a page, and what the log takes. -/
def forget (pool : Pool) (key : PageKey) : Pool × List Event :=
  match pool.find? key with
  | none => (pool, [])
  | some number =>
    let logged := if 0 < (pool.frame number).pins
      then level.log (.disposedPinned key (pool.frame number).pins) else []
    (pool.remove number key, logged)

/-- Drops a page and deletes it from its file. -/
def dispose (pool : Pool) (storage : Storage) (key : PageKey) : Outcome Unit :=
  let forgotten := forget level pool key
  let deleted := storage.delete key.file key.page
  match deleted.1 with
  | .ok () => .done () forgotten.1 deleted.2 forgotten.2
  | .error cause => .failed (.storage cause) forgotten.1 deleted.2 forgotten.2

end Logged

/-! ## Events that a log keeps -/

namespace Level

variable (threshold : Level)

@[simp] theorem keep_nil : threshold.keep [] = [] := rfl

theorem keep_append (first second : List Event) :
    threshold.keep (first ++ second) = threshold.keep first ++ threshold.keep second :=
  List.filter_append ..

theorem keep_cons (event : Event) (rest : List Event) :
    threshold.keep (event :: rest) = threshold.log event ++ threshold.keep rest := by
  cases recorded : threshold.records event.level <;> simp [keep, log, recorded]

theorem keep_singleton (event : Event) : threshold.keep [event] = threshold.log event := by
  rw [keep_cons, keep_nil, List.append_nil]

/-- The loudest threshold keeps whatever any other keeps. -/
theorem keep_keep_trace (events : List Event) :
    threshold.keep (trace.keep events) = threshold.keep events := by
  rw [keep, keep, List.filter_filter, keep]
  refine List.filter_congr fun event _ => ?_
  cases recorded : threshold.records event.level with
  | false => rfl
  | true =>
      rw [Bool.true_and]
      exact records_of_rank_le (rank_le_five threshold) recorded

end Level

namespace Outcome

variable {Value Next : Type} (level : Level)

/-- The outcome with only those events that a log keeps. -/
def heard (outcome : Outcome Value) : Outcome Value :=
  { outcome with events := level.keep outcome.events }

theorem heard_done (value : Value) (pool : Pool) (storage : Storage) (event : Event) :
    (done value pool storage [event]).heard level = done value pool storage (level.log event) := by
  rw [heard, done, Level.keep_singleton]
  rfl

theorem heard_failed (cause : PoolError) (pool : Pool) (storage : Storage) (event : Event) :
    (failed cause pool storage [event] : Outcome Value).heard level =
      failed cause pool storage (level.log event) := by
  rw [heard, failed, Level.keep_singleton]
  rfl

theorem heard_andThen (first : Outcome Value) (second : Value → Pool → Storage → Outcome Next) :
    (first.andThen second).heard level =
      (first.heard level).andThen fun value pool storage =>
        (second value pool storage).heard level := by
  cases given : first.result with
  | error cause =>
      have same : (first.heard level).result = .error cause := given
      rw [andThen_of_error given, andThen_of_error same]
      rfl
  | ok value =>
      have same : (first.heard level).result = .ok value := given
      rw [andThen_of_ok given, andThen_of_ok same]
      simp only [heard, Level.keep_append]

/-- Two operations keep what the log keeps of each. -/
theorem andThen_eq_heard {first logged : Outcome Value}
    {second loggedNext : Value → Pool → Storage → Outcome Next}
    (early : logged = first.heard level)
    (late : ∀ value pool storage,
      loggedNext value pool storage = (second value pool storage).heard level) :
    logged.andThen loggedNext = (first.andThen second).heard level := by
  have same : loggedNext = fun value pool storage => (second value pool storage).heard level := by
    funext value pool storage
    exact late value pool storage
  rw [heard_andThen, early, same]

end Outcome

namespace Logged

variable (level : Level) (pool : Pool) (storage : Storage)

theorem writeBack_eq (number : Nat) :
    writeBack level pool storage number = (pool.writeBack storage number).heard level := by
  simp only [writeBack, Pool.writeBack]
  cases (pool.frame number).occupant with
  | none => rfl
  | some occupant =>
      dsimp only
      cases occupant.dirty with
      | false => rfl
      | true =>
          simp only [if_true]
          cases (storage.write occupant.key.file occupant.page).1 with
          | error cause => rfl
          | ok value => rw [Outcome.heard_done]

theorem writeBackEach_eq (numbers : List Nat) :
    writeBackEach level pool storage numbers =
      (pool.writeBackEach storage numbers).heard level := by
  induction numbers generalizing pool storage with
  | nil => rfl
  | cons number rest induction =>
      exact Outcome.andThen_eq_heard level (writeBack_eq level pool storage number)
        fun _ pool storage => induction pool storage

theorem writeBackAll_eq :
    writeBackAll level pool storage = (pool.writeBackAll storage).heard level :=
  writeBackEach_eq level pool storage _

theorem writeBackAnyway_eq (numbers : List Nat) :
    writeBackAnyway level pool storage numbers =
      (pool.writeBackAnyway storage numbers).heard level := by
  induction numbers generalizing pool storage with
  | nil => rfl
  | cons number rest induction =>
      simp only [writeBackAnyway, writeBack_eq, induction]
      simp only [Pool.writeBackAnyway, Outcome.regardless, Outcome.heard]
      cases (pool.writeBack storage number).result with
      | ok value => simp only [Level.keep_append, List.nil_append]
      | error cause => simp only [Level.keep_append, Level.keep_cons]

theorem drop_eq : drop level pool storage = (pool.drop storage).heard level := by
  simp only [drop, Pool.drop]
  cases pool.config.writeBackOnDrop with
  | false => rfl
  | true => exact writeBackAnyway_eq level pool storage _

theorem evict_eq (number : Nat) :
    evict level pool storage number = (pool.evict storage number).heard level := by
  simp only [evict, Pool.evict]
  cases (pool.frame number).key? with
  | none => rfl
  | some key => rw [Outcome.heard_done]

theorem claim_eq : claim level pool storage = (pool.claim storage).heard level := by
  simp only [claim, Pool.claim]
  cases pool.sweep.1 with
  | free number => rfl
  | victim number =>
      exact Outcome.andThen_eq_heard level (writeBack_eq level _ storage number)
        fun _ pool storage => evict_eq level pool storage number
  | exhausted => rw [Outcome.heard_failed]

theorem hit_eq (key : PageKey) (number : Nat) :
    hit level pool storage key number = (pool.hit storage key number).heard level :=
  (Outcome.heard_done ..).symm

theorem load_eq (key : PageKey) :
    load level pool storage key = (pool.load storage key).heard level := by
  refine Outcome.andThen_eq_heard level (claim_eq level pool storage) fun number pool storage => ?_
  dsimp only
  cases (storage.read key.file key.page).1 with
  | error cause => rfl
  | ok page => exact (Outcome.heard_done ..).symm

theorem fetch_eq (key : PageKey) :
    fetch level pool storage key = (pool.fetch storage key).heard level := by
  simp only [fetch, Pool.fetch]
  cases pool.find? key with
  | none => exact load_eq level _ storage key
  | some number => exact hit_eq level pool storage key number

theorem allocate_eq (file : FileIdentity) :
    allocate level pool storage file = (pool.allocate storage file).heard level := by
  refine Outcome.andThen_eq_heard level (claim_eq level pool storage) fun number pool storage => ?_
  dsimp only
  cases (storage.allocate file).1 with
  | error cause => rfl
  | ok page => exact (Outcome.heard_done ..).symm

theorem releasePage_eq (key : PageKey) (dirty : Bool) :
    releasePage level pool storage key dirty =
      (pool.releasePage storage key dirty).heard level := by
  simp only [releasePage, Pool.releasePage]
  cases pool.find? key with
  | none => rw [Outcome.heard_done]
  | some number =>
      dsimp only
      split <;> rfl

theorem release_eq (handle : Handle) (dirty : Bool) :
    release level pool storage handle dirty = (pool.release storage handle dirty).heard level := by
  simp only [release, Pool.release]
  cases pool.accepts handle with
  | false => rfl
  | true => exact releasePage_eq level pool storage handle.key dirty

theorem flushFrame_eq (file : FileIdentity) (number : Nat) :
    flushFrame level pool storage file number =
      (pool.flushFrame storage file number).heard level := by
  simp only [flushFrame, Pool.flushFrame]
  cases (pool.frame number).occupant with
  | none => rfl
  | some occupant =>
      dsimp only
      by_cases apart : occupant.key.file ≠ file
      · rw [if_pos apart, if_pos apart]
        rfl
      · rw [if_neg apart, if_neg apart]
        by_cases pinned : occupant.pins ≠ 0
        · rw [if_pos pinned, if_pos pinned]
          rfl
        · rw [if_neg pinned, if_neg pinned]
          exact Outcome.andThen_eq_heard level (writeBack_eq level pool storage number)
            fun _ _ _ => rfl

theorem flushEach_eq (file : FileIdentity) (numbers : List Nat) :
    flushEach level pool storage file numbers =
      (pool.flushEach storage file numbers).heard level := by
  induction numbers generalizing pool storage with
  | nil => rfl
  | cons number rest induction =>
      exact Outcome.andThen_eq_heard level (flushFrame_eq level pool storage file number)
        fun _ pool storage => induction pool storage

theorem flush_eq (file : FileIdentity) :
    flush level pool storage file = (pool.flush storage file).heard level :=
  Outcome.andThen_eq_heard level (flushEach_eq level pool storage file _)
    fun _ _ _ => (Outcome.heard_done ..).symm

theorem forget_eq (key : PageKey) :
    forget level pool key = ((pool.forget key).1, level.keep (pool.forget key).2) := by
  simp only [forget, Pool.forget]
  cases pool.find? key with
  | none => rfl
  | some number =>
      dsimp only
      split
      · rw [Level.keep_singleton]
      · rfl

theorem dispose_eq (key : PageKey) :
    dispose level pool storage key = (pool.dispose storage key).heard level := by
  simp only [dispose, Pool.dispose, forget_eq]
  cases (storage.delete key.file key.page).1 <;> rfl

end Logged

end PageCache
