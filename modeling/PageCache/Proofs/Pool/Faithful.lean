import PageCache.Proofs.Pool.Residence
import PageCache.Proofs.Pool.Stay
import PageCache.Proofs.Storage.Tidy

/-!
# Pools that lose nothing

Beside a pool and its files stands a plain store: the bytes under each page key, changed by clients
alone. A pool is faithful to it if the bytes of a resident page are in its frame, those of any other
page are in its file, and a resident page that is clean has the same bytes in both, unless a client
changed them and has yet to say so. Main statements: upkeep and every effect keep a pool faithful to
the plain store that follows the client, also where files fail.
-/

namespace PageCache

/-- What a client knows of its pages without a look at pools and files. -/
structure PlainStore where
  /-- The bytes of every page that there is. -/
  pages : PageKey → Option PageData
  /-- The pages whose bytes were replaced and not yet said to be dirty since. -/
  unmarked : List PageKey

namespace PlainStore

/-- The store with other bytes under a key, or with none. -/
def set (store : PlainStore) (key : PageKey) (data : Option PageData) : PlainStore :=
  { store with pages := fun other => if key = other then data else store.pages other }

/-- The store in which a page waits to be said to be dirty. -/
def await (store : PlainStore) (key : PageKey) : PlainStore :=
  { store with unmarked := key :: store.unmarked }

/-- The store in which a page does not wait any more. -/
def mark (store : PlainStore) (key : PageKey) : PlainStore :=
  { store with unmarked := store.unmarked.filter fun other => other ≠ key }

/-- The store after an action with a given result. An action that fails changes nothing. -/
def follow (store : PlainStore) : Action → Except PoolError (Option Handle) → PlainStore
  | .allocate _, .ok (some handle) => store.set handle.key (some .zero)
  | .write handle data, .ok _ => (store.set handle.key (some data)).await handle.key
  | .releasePage key true, .ok _ => store.mark key
  | .release handle true, .ok _ => store.mark handle.key
  | .dispose key, .ok _ => (store.set key none).mark key
  | _, _ => store

variable {store : PlainStore} {key other : PageKey}

theorem mem_mark : other ∈ (store.mark key).unmarked ↔ other ∈ store.unmarked ∧ other ≠ key := by
  simp [mark]

theorem follow_of_error (store : PlainStore) (action : Action) (cause : PoolError) :
    store.follow action (.error cause) = store := by
  cases action with
  | releasePage key dirty => cases dirty <;> rfl
  | release handle dirty => cases dirty <;> rfl
  | _ => rfl

theorem follow_releasePage (store : PlainStore) (key : PageKey) (dirty : Bool)
    (given : Option Handle) :
    store.follow (.releasePage key dirty) (.ok given) =
      if dirty then store.mark key else store := by
  cases dirty <;> rfl

/-- The release of a handle says no more than the release of its page. -/
theorem follow_release (store : PlainStore) (handle : Handle) (dirty : Bool)
    (result : Except PoolError (Option Handle)) :
    store.follow (.release handle dirty) result =
      store.follow (.releasePage handle.key dirty) result := by
  cases dirty <;> cases result <;> rfl

end PlainStore

/-- What the frame of a page, its file and the plain store say of it go together. -/
def Agrees (unmarked : Prop) (plain stored : Option PageData) : Option Occupant → Prop
  | none => stored = plain ∧ ¬ unmarked
  | some occupant =>
    plain = some occupant.page.data ∧ stored.isSome ∧
      (occupant.dirty = false → ¬ unmarked → stored = some occupant.page.data) ∧
      (unmarked → 0 < occupant.pins)

/-- The pool and its files hold what the plain store holds. -/
structure Faithful (faults : Nat → Option Fault) (world : World) (store : PlainStore) : Prop where
  /-- The pool is sound. -/
  sound : world.1.Sound world.2
  /-- The files are in order. -/
  tidy : world.2.Tidy
  /-- The faults are those foreseen. -/
  faults : world.2.system.faults = faults
  /-- All that is said of each page goes together. -/
  agrees : ∀ key, Agrees (key ∈ store.unmarked) (store.pages key) (world.2.data? key)
    (world.1.held? key)

theorem Storage.Tidy.spares {storage : Storage} (tidy : storage.Tidy) (key : PageKey) :
    storage.Spares storage key :=
  ⟨tidy, fun _ _ => rfl, rfl⟩

namespace Faithful

variable {faults : Nat → Option Fault} {before after : World} {store later : PlainStore}

/-- A change that has to do with one page keeps a pool faithful if all that is said of that page
goes together afterwards. -/
theorem change (faithful : Faithful faults before store) (key : PageKey)
    (sound : after.1.Sound after.2) (spares : before.2.Spares after.2 key)
    (held : ∀ other, other ≠ key → after.1.held? other = before.1.held? other)
    (pages : ∀ other, other ≠ key → later.pages other = store.pages other)
    (unmarked : ∀ other, other ≠ key → (other ∈ later.unmarked ↔ other ∈ store.unmarked))
    (own : Agrees (key ∈ later.unmarked) (later.pages key) (after.2.data? key)
      (after.1.held? key)) : Faithful faults after later where
  sound := sound
  tidy := spares.tidy
  faults := spares.faults.trans faithful.faults
  agrees := by
    intro other
    by_cases same : other = key
    · rw [same]
      exact own
    · rw [held other same, pages other same, spares.others other same, unmarked other same]
      exact faithful.agrees other

/-- A change that leaves the pages in the frames and the contents of the files alone. -/
theorem idle (faithful : Faithful faults before store) (sound : after.1.Sound after.2)
    (tidy : after.2.Tidy) (same : after.2.system.faults = before.2.system.faults)
    (held : ∀ key, after.1.held? key = before.1.held? key)
    (data : ∀ key, after.2.data? key = before.2.data? key) : Faithful faults after store where
  sound := sound
  tidy := tidy
  faults := same.trans faithful.faults
  agrees := by
    intro key
    rw [held, data]
    exact faithful.agrees key

/-- What is said of a resident page. -/
theorem resident (faithful : Faithful faults before store) {number : Nat} {occupant : Occupant}
    (occupied : (before.1.frame number).occupant = some occupant) :
    Agrees (occupant.key ∈ store.unmarked) (store.pages occupant.key)
      (before.2.data? occupant.key) (some occupant) := by
  have agrees := faithful.agrees occupant.key
  rw [faithful.sound.held?_of_occupied occupied] at agrees
  exact agrees

/-- What is said of a page that is not resident. -/
theorem absent (faithful : Faithful faults before store) {key : PageKey}
    (absent : before.1.find? key = none) :
    before.2.data? key = store.pages key ∧ key ∉ store.unmarked := by
  have agrees := faithful.agrees key
  rw [Pool.held?_of_absent absent] at agrees
  exact agrees

/-- A change of a resident page in place that keeps its key and has to do with no file. -/
theorem updateFrame {pool : Pool} {storage : Storage}
    (faithful : Faithful faults (pool, storage) store) {number : Nat} {occupant : Occupant}
    (occupied : (pool.frame number).occupant = some occupant) {change : Occupant → Occupant}
    (sound : (pool.updateFrame number change).Sound storage)
    (pages : ∀ other, other ≠ occupant.key → later.pages other = store.pages other)
    (unmarked : ∀ other, other ≠ occupant.key → (other ∈ later.unmarked ↔ other ∈ store.unmarked))
    (own : Agrees (occupant.key ∈ later.unmarked) (later.pages occupant.key)
      (storage.data? occupant.key) (some (change occupant))) :
    Faithful faults (pool.updateFrame number change, storage) later := by
  have held := faithful.sound.held?_updateFrame occupied change
  refine faithful.change occupant.key sound (faithful.tidy.spares _) (fun other different => ?_)
    pages unmarked ?_
  · exact (held other).trans (if_neg different.symm)
  · rw [held, if_pos rfl]
    exact own

end Faithful

/-! ## Upkeep -/

theorem Upkeep.faithful {faults : Nat → Option Fault} {before after : World} {store : PlainStore}
    (step : Upkeep before after) (faithful : Faithful faults before store) :
    Faithful faults after store := by
  have sound := step.sound faithful.sound
  cases step with
  | tally clock stats face =>
      exact faithful.idle sound faithful.tidy rfl (fun _ => rfl) fun _ => rfl
  | @unmark pool storage number =>
      cases occupied : (pool.frame number).occupant with
      | none =>
          exact faithful.idle sound faithful.tidy rfl
            (Pool.Sound.held?_updateFrame_of_free occupied _) fun _ => rfl
      | some occupant =>
          exact faithful.updateFrame occupied sound (fun _ _ => rfl) (fun _ _ => .rfl)
            (faithful.resident occupied)
  | @clean pool storage number occupant occupied dirty taken =>
      have key : (⟨occupant.key.file, occupant.page.number⟩ : PageKey) = occupant.key := by
        rw [faithful.sound.numbered number occupant occupied]
      obtain ⟨spares, -, stored⟩ := faithful.tidy.write occupant.key.file occupant.page
      rw [key] at spares stored
      have held := faithful.sound.held?_updateFrame occupied Occupant.cleaned
      obtain ⟨plain, -, -, pinned⟩ := faithful.resident occupied
      refine faithful.change occupant.key sound spares (fun other different => ?_)
        (fun _ _ => rfl) (fun _ _ => .rfl) ?_
      · exact (held other).trans (if_neg different.symm)
      · rw [held, if_pos rfl, stored taken]
        exact ⟨plain, rfl, fun _ _ => rfl, pinned⟩
  | @refuse pool storage number occupant cause occupied dirty refused =>
      have key : (⟨occupant.key.file, occupant.page.number⟩ : PageKey) = occupant.key := by
        rw [faithful.sound.numbered number occupant occupied]
      obtain ⟨spares, kept, -⟩ := faithful.tidy.write occupant.key.file occupant.page
      rw [key] at spares kept
      obtain ⟨plain, present, -, pinned⟩ := faithful.resident occupied
      refine faithful.change occupant.key sound spares (fun _ _ => rfl) (fun _ _ => rfl)
        (fun _ _ => .rfl) ?_
      -- The file may have taken some of the bytes, but the page is still dirty.
      rw [faithful.sound.held?_of_occupied occupied]
      refine ⟨plain, kept.trans present, fun clean => ?_, pinned⟩
      rw [dirty] at clean
      cases clean
  | @vacate pool storage number occupant occupied unpinned clean =>
      have held := faithful.sound.held?_remove occupied
      obtain ⟨plain, -, stored, pinned⟩ := faithful.resident occupied
      have marked : occupant.key ∉ store.unmarked := by
        intro unmarked
        rw [unpinned] at pinned
        exact Nat.lt_irrefl 0 (pinned unmarked)
      refine faithful.change occupant.key sound (faithful.tidy.spares _)
        (fun other different => ?_) (fun _ _ => rfl) (fun _ _ => .rfl) ?_
      · exact (held other).trans (if_neg different.symm)
      · rw [held, if_pos rfl]
        exact ⟨(stored clean marked).trans plain.symm, marked⟩
  | renew free =>
      exact faithful.idle sound faithful.tidy rfl (Pool.Sound.held?_clearFrame free) fun _ => rfl

theorem Upkeeps.faithful {faults : Nat → Option Fault} {before after : World} {store : PlainStore}
    (upkeeps : Upkeeps before after) (faithful : Faithful faults before store) :
    Faithful faults after store := by
  induction upkeeps with
  | refl => exact faithful
  | tail _ step induction => exact step.faithful induction

/-! ## Effects -/

/-- Whether the next release of a page takes its last pin. -/
def Pool.lastPin (pool : Pool) (key : PageKey) : Bool :=
  (pool.held? key).any fun occupant => occupant.pins == 1

/-- A release that takes the last pin of a page leaves no change of its bytes unsaid. -/
def Pool.Spoken (pool : Pool) (store : PlainStore) : Action → Prop
  | .releasePage key false => pool.lastPin key → key ∉ store.unmarked
  | .release handle false =>
    pool.accepts handle → pool.lastPin handle.key → handle.key ∉ store.unmarked
  | _ => True

namespace Faithful

variable {faults : Nat → Option Fault} {pool : Pool} {storage : Storage} {store : PlainStore}
  {key : PageKey} {number : Nat}

theorem hit (faithful : Faithful faults (pool, storage) store)
    (resident : pool.find? key = some number)
    (sound : (pool.updateFrame number Occupant.pinned).Sound storage) :
    Faithful faults (pool.updateFrame number Occupant.pinned, storage) store := by
  obtain ⟨occupant, occupied, -⟩ := faithful.sound.occupied_of_find? resident
  obtain ⟨plain, present, stored, -⟩ := faithful.resident occupied
  refine faithful.updateFrame occupied sound (fun _ _ => rfl) (fun _ _ => .rfl) ?_
  exact ⟨plain, present, stored, fun _ => Nat.succ_pos _⟩

/-- A page that is read from its file has the bytes of the plain store. -/
theorem load (faithful : Faithful faults (pool, storage) store) {page : Page}
    (inside : number < pool.size) (free : (pool.frame number).occupant = none)
    (absent : pool.find? key = none)
    (given : (storage.read key.file key.page).1 = .ok page)
    (sound : (pool.install number key.file page).2.Sound (storage.read key.file key.page).2) :
    Faithful faults
      ((pool.install number key.file page).2, (storage.read key.file key.page).2) store := by
  obtain ⟨tidy, same, kept⟩ := faithful.tidy.read key.file key.page
  have own : (⟨key.file, page.number⟩ : PageKey) = key := by rw [(Storage.number_of_read given).1]
  have held := faithful.sound.held?_install inside free key.file page
  rw [own] at held
  obtain ⟨plain, marked⟩ := faithful.absent absent
  have stored : storage.data? key = some page.data := by
    rcases faithful.tidy.answer_read key with
      ⟨data, present, answer⟩ | ⟨-, answer⟩ | ⟨-, fault, -, answer⟩
    · obtain rfl := Except.ok.inj (answer.symm.trans given)
      exact present
    · cases answer.symm.trans given
    · cases answer.symm.trans given
  refine faithful.change key sound ⟨tidy, fun other _ => same other, kept⟩
    (fun other different => (held other).trans (if_neg different.symm))
    (fun _ _ => rfl) (fun _ _ => .rfl) ?_
  rw [held, if_pos rfl, same, stored]
  exact ⟨plain.symm.trans stored, rfl, fun _ _ => rfl, fun unmarked => absurd unmarked marked⟩

theorem unread (faithful : Faithful faults (pool, storage) store)
    (sound : pool.Sound (storage.read key.file key.page).2) :
    Faithful faults (pool, (storage.read key.file key.page).2) store := by
  obtain ⟨tidy, same, kept⟩ := faithful.tidy.read key.file key.page
  exact faithful.idle sound tidy kept (fun _ => rfl) same

/-- A new page is the only one that the plain store gains. -/
theorem create (faithful : Faithful faults (pool, storage) store) {file : FileIdentity}
    {page : Page} (inside : number < pool.size) (free : (pool.frame number).occupant = none)
    (given : (storage.allocate file).1 = .ok page)
    (sound : (pool.install number file page).2.Sound (storage.allocate file).2) :
    Faithful faults ((pool.install number file page).2, (storage.allocate file).2)
      (store.set ⟨file, page.number⟩ (some .zero)) := by
  obtain ⟨rfl, -⟩ := Storage.next_allocate_of_ok given file
  obtain ⟨spares, -, own⟩ := faithful.tidy.allocate file
  have stored : (storage.allocate file).2.data? ⟨file, storage.next file⟩ = some .zero := by
    rw [own, given]
  have held := faithful.sound.held?_install inside free file (.zero (storage.next file))
  have key : (⟨file, (Page.zero (storage.next file)).number⟩ : PageKey) =
      ⟨file, storage.next file⟩ := rfl
  simp only [key] at held ⊢
  obtain ⟨-, marked⟩ := faithful.absent (faithful.sound.find?_next file)
  refine faithful.change ⟨file, storage.next file⟩ sound spares
    (fun other different => (held other).trans (if_neg different.symm))
    (fun other different => if_neg different.symm) (fun _ _ => .rfl) ?_
  rw [held, if_pos rfl, stored]
  exact ⟨if_pos rfl, rfl, fun _ _ => rfl, fun unmarked => absurd unmarked marked⟩

/-- A file that cannot grow keeps its contents. -/
theorem uncreated (faithful : Faithful faults (pool, storage) store) {file : FileIdentity}
    {cause : BackingError} (refused : (storage.allocate file).1 = .error cause)
    (sound : pool.Sound (storage.allocate file).2) :
    Faithful faults (pool, (storage.allocate file).2) store := by
  obtain ⟨spares, missing, own⟩ := faithful.tidy.allocate file
  rw [refused] at own
  refine faithful.change ⟨file, storage.next file⟩ sound spares (fun _ _ => rfl) (fun _ _ => rfl)
    (fun _ _ => .rfl) ?_
  rw [own, ← missing]
  exact faithful.agrees _

/-- A page gives back a pin. -/
theorem unpin (faithful : Faithful faults (pool, storage) store) (dirty : Bool)
    (resident : pool.find? key = some number)
    (spoken : pool.Spoken store (.releasePage key dirty))
    (sound : (pool.updateFrame number fun occupant => occupant.released dirty).Sound storage) :
    Faithful faults (pool.updateFrame number fun occupant => occupant.released dirty, storage)
      (store.follow (.releasePage key dirty) (.ok none)) := by
  obtain ⟨occupant, occupied, rfl⟩ := faithful.sound.occupied_of_find? resident
  obtain ⟨plain, present, stored, pinned⟩ := faithful.resident occupied
  rw [PlainStore.follow_releasePage]
  cases dirty with
  | true =>
      refine faithful.updateFrame occupied sound (fun _ _ => rfl) (fun other different => ?_) ?_
      · exact PlainStore.mem_mark.trans (and_iff_left different)
      · refine ⟨plain, present, fun clean => ?_, fun unmarked => ?_⟩
        · simp [Occupant.released] at clean
        · exact absurd rfl (PlainStore.mem_mark.mp unmarked).2
  | false =>
      refine faithful.updateFrame occupied sound (fun _ _ => rfl) (fun _ _ => .rfl) ?_
      refine ⟨plain, present, ?_, fun unmarked => ?_⟩
      · simpa [Occupant.released] using stored
      · have positive := pinned unmarked
        have several : occupant.pins ≠ 1 := by
          intro one
          refine spoken ?_ unmarked
          simp [Pool.lastPin, faithful.sound.held?_of_occupied occupied, one]
        simp only [Occupant.released]
        omega

/-- The bytes of a page are replaced through a handle that reaches it. -/
theorem put (faithful : Faithful faults (pool, storage) store) {handle : Handle}
    (names : handle.Names pool) (accepted : pool.accepts handle = true) (data : PageData)
    (sound : (pool.setData handle data).Sound storage) :
    Faithful faults (pool.setData handle data, storage)
      (store.follow (.write handle data) (.ok none)) := by
  obtain ⟨occupant, occupied, key⟩ := Frame.exists_of_key? names.2
  obtain ⟨-, present, -, -⟩ := faithful.resident occupied
  have pinned : 0 < occupant.pins := by
    simp only [Pool.accepts, Bool.and_eq_true, decide_eq_true_eq] at accepted
    simpa [Frame.pins, occupied] using accepted.1
  simp only [PlainStore.follow, ← key]
  refine faithful.updateFrame occupied sound (fun other different => if_neg different.symm)
    (fun other different => ?_) ?_
  · simp [PlainStore.await, PlainStore.set, different]
  · refine ⟨if_pos rfl, present, fun _ marked => ?_, fun _ => pinned⟩
    exact absurd List.mem_cons_self marked

/-- A page that leaves its frame and its file is the only one that the plain store loses. -/
theorem erase (faithful : Faithful faults (pool, storage) store)
    (sound : (pool.forget key).1.Sound (storage.delete key.file key.page).2) :
    Faithful faults ((pool.forget key).1, (storage.delete key.file key.page).2)
      ((store.set key none).mark key) := by
  obtain ⟨spares, gone, -⟩ := faithful.tidy.delete key
  have held := faithful.sound.held?_forget key
  refine faithful.change key sound spares
    (fun other different => (held other).trans (if_neg different.symm))
    (fun other different => if_neg different.symm)
    (fun other different => PlainStore.mem_mark.trans (and_iff_left different)) ?_
  rw [held, if_pos rfl, gone]
  exact ⟨(if_pos rfl).symm, fun unmarked => (PlainStore.mem_mark.mp unmarked).2 rfl⟩

/-- A page that its file does not have was not resident either. -/
theorem drop (faithful : Faithful faults (pool, storage) store) {cause : BackingError}
    (refused : (storage.delete key.file key.page).1 = .error cause)
    (sound : (pool.forget key).1.Sound (storage.delete key.file key.page).2) :
    Faithful faults ((pool.forget key).1, (storage.delete key.file key.page).2) store := by
  obtain ⟨spares, gone, ⟨-, deleted⟩ | ⟨missing, -⟩⟩ := faithful.tidy.delete key
  · cases deleted.symm.trans refused
  · have held := faithful.sound.held?_forget key
    have agrees := faithful.agrees key
    refine faithful.change key sound spares
      (fun other different => (held other).trans (if_neg different.symm)) (fun _ _ => rfl)
      (fun _ _ => .rfl) ?_
    rw [held, if_pos rfl, gone]
    cases resident : pool.held? key with
    | none =>
        rw [resident, missing] at agrees
        exact agrees
    | some occupant =>
        rw [resident, missing] at agrees
        cases agrees.2.1

/-- The release of a page that is not resident says nothing new. -/
theorem ignore (faithful : Faithful faults (pool, storage) store) (dirty : Bool)
    (absent : pool.find? key = none) :
    Faithful faults (pool, storage) (store.follow (.releasePage key dirty) (.ok none)) := by
  rw [PlainStore.follow_releasePage]
  cases dirty with
  | false => exact faithful
  | true =>
      obtain ⟨same, -⟩ := faithful.absent absent
      refine faithful.change key faithful.sound (faithful.tidy.spares key) (fun _ _ => rfl)
        (fun _ _ => rfl) (fun other different => PlainStore.mem_mark.trans (and_iff_left different))
        ?_
      rw [Pool.held?_of_absent absent]
      exact ⟨same, fun unmarked => (PlainStore.mem_mark.mp unmarked).2 rfl⟩

end Faithful

variable {faults : Nat → Option Fault} {store : PlainStore}

/-- Every effect keeps a pool faithful to the plain store that follows the client. -/
theorem Effect.faithful {action : Action} {before after : World}
    {result : Except PoolError (Option Handle)} (effect : Effect action before result after)
    (faithful : Faithful faults before store) (spoken : before.1.Spoken store action)
    (named : ∀ handle data, action = .write handle data → before.1.accepts handle = true →
      handle.Names before.1) :
    Faithful faults after (store.follow action result) := by
  have sound := effect.sound faithful.sound
  induction effect with
  | fail action world cause =>
      rw [PlainStore.follow_of_error]
      exact faithful
  | hit resident => exact faithful.hit resident sound
  | load inside free absent given => exact faithful.load inside free absent given sound
  | unread absent refused => exact faithful.unread sound
  | create inside free given => exact faithful.create inside free given sound
  | uncreated refused => exact faithful.uncreated refused sound
  | ignore dirty absent => exact faithful.ignore dirty absent
  | unpin dirty resident pinned => exact faithful.unpin dirty resident spoken sound
  | @handBack pool storage handle dirty result after accepted released induction =>
      rw [PlainStore.follow_release]
      refine induction faithful ?_ (by simp) sound
      cases dirty with
      | false => exact spoken accepted
      | true => trivial
  | put data accepted => exact faithful.put (named _ data rfl accepted) accepted data sound
  | erase deleted => exact faithful.erase sound
  | drop refused => exact faithful.drop refused sound
  | flush file world => exact faithful
  | writeBackAll world => exact faithful

/-- Every action keeps a pool faithful, whether or not it succeeds, if the client says of every page
that it has changed that it is dirty before the last pin is given back. -/
theorem Faithful.act {pool : Pool} {storage : Storage}
    (faithful : Faithful faults (pool, storage) store) (action : Action)
    (spoken : pool.Spoken store action)
    (named : ∀ handle data, action = .write handle data → pool.accepts handle = true →
      handle.Names pool) :
    Faithful faults ((pool.act storage action).pool, (pool.act storage action).storage)
      (store.follow action (pool.act storage action).result) := by
  obtain ⟨middle, upkeeps, effect⟩ :=
    Pool.effect_act faithful.sound.face faithful.sound.positive storage action
  have reached := Upkeeps.faithful upkeeps faithful
  cases action with
  -- These do no upkeep, so that what the client promised of the pool holds where they take effect.
  | releasePage key dirty =>
      exact (Pool.effect_releasePage pool storage key dirty).faithful faithful spoken (by simp)
  | release handle dirty =>
      exact (Pool.effect_release pool storage handle dirty).faithful faithful spoken (by simp)
  | write handle data =>
      exact (Pool.effect_write pool storage handle data).faithful faithful spoken named
  | fetch | allocate | dispose | flush | writeBackAll =>
      exact effect.faithful reached trivial (by simp)

end PageCache
