import PageCache.Proofs.Pool.Upkeep

/-!
# Actions

An action is one call of a client on a pool. Every action is upkeep, followed by one effect of its
own or by none: a pin, a page put into a claimed frame, a pin given back, bytes replaced, or a page
disposed of. Main statement: `Pool.effect_act`, which says for each action and each way in which it
can end what its effect is.
-/

namespace PageCache

/-- What a client can ask of a pool. The bytes of a page can be replaced; to put a page with another
number in its place is left out. -/
inductive Action where
  /-- Pin a page. -/
  | fetch (key : PageKey)
  /-- Append a page to a file and pin it. -/
  | allocate (file : FileIdentity)
  /-- Give back one pin of a page. -/
  | releasePage (key : PageKey) (dirty : Bool)
  /-- Give back the pin of a handle. -/
  | release (handle : Handle) (dirty : Bool)
  /-- Drop a page and delete it from its file. -/
  | dispose (key : PageKey)
  /-- Write back all pages of a file and make their frames free. -/
  | flush (file : FileIdentity)
  /-- Write back every page. -/
  | writeBackAll
  /-- Replace the bytes of the page of a handle. -/
  | write (handle : Handle) (data : PageData)
deriving DecidableEq, Repr

/-- The outcome with its value changed. -/
def Outcome.map {Value Next : Type} (outcome : Outcome Value) (change : Value → Next) :
    Outcome Next :=
  ⟨outcome.result.map change, outcome.pool, outcome.storage, outcome.events⟩

namespace Pool

/-- Replaces the bytes of the page of a handle, if the handle is accepted. -/
def write (pool : Pool) (storage : Storage) (handle : Handle) (data : PageData) : Outcome Unit :=
  match pool.page handle with
  | .ok _ => .done () (pool.setData handle data) storage []
  | .error cause => .failed cause pool storage []

/-- Carries out an action; those that pin a page give a handle. -/
def act (pool : Pool) (storage : Storage) : Action → Outcome (Option Handle)
  | .fetch key => (pool.fetch storage key).map some
  | .allocate file => (pool.allocate storage file).map some
  | .releasePage key dirty => (pool.releasePage storage key dirty).map fun _ => none
  | .release handle dirty => (pool.release storage handle dirty).map fun _ => none
  | .dispose key => (pool.dispose storage key).map fun _ => none
  | .flush file => (pool.flush storage file).map fun _ => none
  | .writeBackAll => (pool.writeBackAll storage).map fun _ => none
  | .write handle data => (pool.write storage handle data).map fun _ => none

end Pool

/-- The handle that an outcome gives, if any. -/
def Outcome.given (outcome : Outcome (Option Handle)) : List Handle :=
  match outcome.result with
  | .ok (some handle) => [handle]
  | _ => []

/-- What an action does after its upkeep, and with which result. -/
inductive Effect : Action → World → Except PoolError (Option Handle) → World → Prop
  /-- The action fails and has no effect. -/
  | fail (action : Action) (world : World) (cause : PoolError) :
      Effect action world (.error cause) world
  /-- A resident page gets one more pin. -/
  | hit {pool : Pool} {storage : Storage} {key : PageKey} {number : Nat}
      (resident : pool.find? key = some number) :
      Effect (.fetch key) (pool, storage)
        (.ok (some ⟨number, (pool.frame number).generation, key⟩))
        (pool.updateFrame number Occupant.pinned, storage)
  /-- A page is read into a free frame. -/
  | load {pool : Pool} {storage : Storage} {key : PageKey} {number : Nat} {page : Page}
      (inside : number < pool.size) (free : (pool.frame number).occupant = none)
      (absent : pool.find? key = none)
      (given : (storage.read key.file key.page).1 = .ok page) :
      Effect (.fetch key) (pool, storage) (.ok (some (pool.install number key.file page).1))
        ((pool.install number key.file page).2, (storage.read key.file key.page).2)
  /-- A page that is not resident cannot be read. -/
  | unread {pool : Pool} {storage : Storage} {key : PageKey} {cause : BackingError}
      (absent : pool.find? key = none)
      (refused : (storage.read key.file key.page).1 = .error cause) :
      Effect (.fetch key) (pool, storage) (.error (.storage cause))
        (pool, (storage.read key.file key.page).2)
  /-- A new page is put into a free frame. -/
  | create {pool : Pool} {storage : Storage} {file : FileIdentity} {number : Nat} {page : Page}
      (inside : number < pool.size) (free : (pool.frame number).occupant = none)
      (given : (storage.allocate file).1 = .ok page) :
      Effect (.allocate file) (pool, storage) (.ok (some (pool.install number file page).1))
        ((pool.install number file page).2, (storage.allocate file).2)
  /-- A file cannot grow. -/
  | uncreated {pool : Pool} {storage : Storage} {file : FileIdentity} {cause : BackingError}
      (refused : (storage.allocate file).1 = .error cause) :
      Effect (.allocate file) (pool, storage) (.error (.storage cause))
        (pool, (storage.allocate file).2)
  /-- The release of a page that is not resident does nothing. -/
  | ignore {pool : Pool} {storage : Storage} {key : PageKey} (dirty : Bool)
      (absent : pool.find? key = none) :
      Effect (.releasePage key dirty) (pool, storage) (.ok none) (pool, storage)
  /-- A page loses one of its pins. -/
  | unpin {pool : Pool} {storage : Storage} {key : PageKey} {number : Nat} (dirty : Bool)
      (resident : pool.find? key = some number) (pinned : 0 < (pool.frame number).pins) :
      Effect (.releasePage key dirty) (pool, storage) (.ok none)
        (pool.updateFrame number fun occupant => occupant.released dirty, storage)
  /-- An accepted handle gives back a pin of its page. -/
  | handBack {pool : Pool} {storage : Storage} {handle : Handle} {dirty : Bool}
      {result : Except PoolError (Option Handle)} {after : World}
      (accepted : pool.accepts handle)
      (released : Effect (.releasePage handle.key dirty) (pool, storage) result after) :
      Effect (.release handle dirty) (pool, storage) result after
  /-- The bytes of a page are replaced. -/
  | put {pool : Pool} {storage : Storage} {handle : Handle} (data : PageData)
      (accepted : pool.accepts handle) :
      Effect (.write handle data) (pool, storage) (.ok none) (pool.setData handle data, storage)
  /-- A page leaves the pool and its file. -/
  | erase {pool : Pool} {storage : Storage} {key : PageKey}
      (deleted : (storage.delete key.file key.page).1 = .ok ()) :
      Effect (.dispose key) (pool, storage) (.ok none)
        ((pool.forget key).1, (storage.delete key.file key.page).2)
  /-- A page that its file does not have leaves the pool. -/
  | drop {pool : Pool} {storage : Storage} {key : PageKey} {cause : BackingError}
      (refused : (storage.delete key.file key.page).1 = .error cause) :
      Effect (.dispose key) (pool, storage) (.error (.storage cause))
        ((pool.forget key).1, (storage.delete key.file key.page).2)
  /-- A flush is all upkeep. -/
  | flush (file : FileIdentity) (world : World) : Effect (.flush file) world (.ok none) world
  /-- Writing every page back is all upkeep. -/
  | writeBackAll (world : World) : Effect .writeBackAll world (.ok none) world

namespace Pool

/-- No page becomes resident by upkeep. -/
theorem find?_of_upkeeps {before after : World} (upkeeps : Upkeeps before after) {key : PageKey}
    (absent : before.1.find? key = none) : after.1.find? key = none := by
  induction upkeeps with
  | refl => exact absent
  | tail _ step induction =>
      cases step with
      | vacate occupied unpinned clean =>
          rw [find?_remove]
          split
          · rfl
          · exact induction
      | _ => exact induction

variable {pool : Pool} {storage : Storage}

theorem effect_releasePage (pool : Pool) (storage : Storage) (key : PageKey) (dirty : Bool) :
    Effect (.releasePage key dirty) (pool, storage)
      (pool.act storage (.releasePage key dirty)).result
      ((pool.act storage (.releasePage key dirty)).pool,
        (pool.act storage (.releasePage key dirty)).storage) := by
  simp only [act, Outcome.map, releasePage]
  split
  · next absent => exact .ignore dirty absent
  · next number resident =>
    split
    · exact .fail _ _ _
    · next pinned => exact .unpin dirty resident (Nat.pos_of_ne_zero pinned)

theorem effect_release (pool : Pool) (storage : Storage) (handle : Handle) (dirty : Bool) :
    Effect (.release handle dirty) (pool, storage)
      (pool.act storage (.release handle dirty)).result
      ((pool.act storage (.release handle dirty)).pool,
        (pool.act storage (.release handle dirty)).storage) := by
  simp only [act, Outcome.map, release]
  split
  · next accepted => exact .handBack accepted (effect_releasePage pool storage handle.key dirty)
  · exact .fail _ _ _

theorem effect_write (pool : Pool) (storage : Storage) (handle : Handle) (data : PageData) :
    Effect (.write handle data) (pool, storage)
      (pool.act storage (.write handle data)).result
      ((pool.act storage (.write handle data)).pool,
        (pool.act storage (.write handle data)).storage) := by
  have seen := isOk_page_iff pool handle
  simp only [act, Outcome.map, write]
  split
  · next page found =>
    rw [found] at seen
    exact .put data seen.symm
  · exact .fail _ _ _

theorem effect_dispose (pool : Pool) (storage : Storage) (key : PageKey) :
    Effect (.dispose key) (pool, storage) (pool.act storage (.dispose key)).result
      ((pool.act storage (.dispose key)).pool, (pool.act storage (.dispose key)).storage) := by
  simp only [act, Outcome.map, dispose]
  split
  · next deleted => exact .erase deleted
  · next cause refused => exact .drop refused

theorem effect_load (face : pool.clock.frames = pool.size) (positive : 0 < pool.size)
    {key : PageKey} (absent : pool.find? key = none) (storage : Storage) :
    ∃ middle, Upkeeps (pool, storage) middle ∧
      Effect (.fetch key) middle ((pool.load storage key).map some).result
        ((pool.load storage key).pool, (pool.load storage key).storage) := by
  have upkeeps := upkeeps_claim storage face positive
  have absentAfter := find?_of_upkeeps upkeeps absent
  refine ⟨_, upkeeps, ?_⟩
  cases claimed : (pool.claim storage).result with
  | error cause =>
      simp only [load, Outcome.andThen_of_error claimed]
      exact .fail _ _ _
  | ok number =>
      obtain ⟨inside, free⟩ := free_of_claim face positive claimed
      simp only [load, Outcome.andThen_of_ok claimed, Outcome.map]
      split
      · next cause refused => exact .unread absentAfter refused
      · next page given => exact .load inside free absentAfter given

theorem effect_fetch (face : pool.clock.frames = pool.size) (positive : 0 < pool.size)
    (storage : Storage) (key : PageKey) :
    ∃ middle, Upkeeps (pool, storage) middle ∧
      Effect (.fetch key) middle (pool.act storage (.fetch key)).result
        ((pool.act storage (.fetch key)).pool, (pool.act storage (.fetch key)).storage) := by
  simp only [act, fetch]
  split
  · next number resident =>
    have same : ((pool.updateFrame number Occupant.pinned).frame number).generation =
        (pool.frame number).generation := by
      rw [frame_updateFrame, if_pos rfl, Frame.generation_update]
    refine ⟨_, .single (.tally pool.clock { pool.stats with hits := pool.stats.hits + 1 } rfl), ?_⟩
    simp only [hit, Outcome.done, Outcome.map, same]
    exact .hit resident
  · next absent =>
    let missed := pool.count fun stats => { stats with misses := stats.misses + 1 }
    have counted : Upkeep (pool, storage) (missed, storage) := .tally _ _ rfl
    have faceMissed : missed.clock.frames = missed.size := face
    obtain ⟨middle, upkeeps, effect⟩ := effect_load faceMissed positive absent storage
    exact ⟨middle, .head counted upkeeps, effect⟩

theorem effect_allocate (face : pool.clock.frames = pool.size) (positive : 0 < pool.size)
    (storage : Storage) (file : FileIdentity) :
    ∃ middle, Upkeeps (pool, storage) middle ∧
      Effect (.allocate file) middle (pool.act storage (.allocate file)).result
        ((pool.act storage (.allocate file)).pool,
          (pool.act storage (.allocate file)).storage) := by
  refine ⟨_, upkeeps_claim storage face positive, ?_⟩
  cases claimed : (pool.claim storage).result with
  | error cause =>
      simp only [act, allocate, Outcome.andThen_of_error claimed]
      exact .fail _ _ _
  | ok number =>
      obtain ⟨inside, free⟩ := free_of_claim face positive claimed
      simp only [act, allocate, Outcome.andThen_of_ok claimed, Outcome.map]
      split
      · next cause refused => exact .uncreated refused
      · next page given => exact .create inside free given

theorem effect_flush (pool : Pool) (storage : Storage) (file : FileIdentity) :
    Effect (.flush file)
      ((pool.flush storage file).pool, (pool.flush storage file).storage)
      (pool.act storage (.flush file)).result
      ((pool.act storage (.flush file)).pool, (pool.act storage (.flush file)).storage) := by
  simp only [act, Outcome.map]
  cases (pool.flush storage file).result with
  | error cause => exact .fail _ _ _
  | ok value => exact .flush _ _

theorem effect_writeBackAll (pool : Pool) (storage : Storage) :
    Effect .writeBackAll
      ((pool.writeBackAll storage).pool, (pool.writeBackAll storage).storage)
      (pool.act storage .writeBackAll).result
      ((pool.act storage .writeBackAll).pool, (pool.act storage .writeBackAll).storage) := by
  simp only [act, Outcome.map]
  cases (pool.writeBackAll storage).result with
  | error cause => exact .fail _ _ _
  | ok value => exact .writeBackAll _

/-- Every action of a pool whose clock shows its frames is upkeep followed by one effect. -/
theorem effect_act (face : pool.clock.frames = pool.size) (positive : 0 < pool.size)
    (storage : Storage) (action : Action) :
    ∃ middle, Upkeeps (pool, storage) middle ∧
      Effect action middle (pool.act storage action).result
        ((pool.act storage action).pool, (pool.act storage action).storage) := by
  cases action with
  | fetch key => exact effect_fetch face positive storage key
  | allocate file => exact effect_allocate face positive storage file
  | releasePage key dirty => exact ⟨_, .refl, effect_releasePage pool storage key dirty⟩
  | release handle dirty => exact ⟨_, .refl, effect_release pool storage handle dirty⟩
  | dispose key => exact ⟨_, .refl, effect_dispose pool storage key⟩
  | flush file => exact ⟨_, upkeeps_flush pool storage file, effect_flush pool storage file⟩
  | writeBackAll => exact ⟨_, upkeeps_writeBackAll pool storage, effect_writeBackAll pool storage⟩
  | write handle data => exact ⟨_, .refl, effect_write pool storage handle data⟩

end Pool

end PageCache
