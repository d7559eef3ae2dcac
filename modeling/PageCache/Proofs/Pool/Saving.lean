import PageCache.Proofs.Pool.Faithful
import PageCache.Proofs.Storage.Layout

/-!
# Saving the pages of a file

A pool has a file on disk in its custody. It saves the pages of the file by a flush, by writing all
pages back or, if it was made so, when it is dropped. Main statement: if no client has left a change
unsaid, the file has the bytes of the plain store in every page once its pages are saved.
-/

namespace PageCache

open DiskBacking

/-- A pool is faithful to a plain store, and a file on disk meets no fault below it. -/
structure Custody (id : FileIdentity) (path : String) (place : Location) (world : World)
    (store : PlainStore) : Prop where
  /-- The pool is faithful to the plain store. -/
  faithful : Faithful (fun _ => none) world store
  /-- The file is in its place. -/
  shelf : ∃ held, world.2.Shelf id path place held

variable {id : FileIdentity} {path : String} {place : Location}

theorem Storage.Tidy.shelf_serve {storage : Storage} (tidy : storage.Tidy)
    (shelf : ∃ held, storage.Shelf id path place held) (other : FileIdentity)
    (request : Request) : ∃ held, (storage.serve other request).2.Shelf id path place held := by
  obtain ⟨held, shelf⟩ := shelf
  by_cases own : other = id
  · subst own
    obtain ⟨later, kept, -⟩ := shelf.serve request
    exact ⟨later, kept⟩
  · exact ⟨held, shelf.serve_other tidy own request⟩

/-- Upkeep asks files for nothing but writes. -/
theorem Upkeep.shelf {before after : World} (step : Upkeep before after)
    (tidy : before.2.Tidy) (shelf : ∃ held, before.2.Shelf id path place held) :
    ∃ held, after.2.Shelf id path place held := by
  cases step with
  | @clean pool storage number occupant =>
      have kept := tidy.shelf_serve shelf occupant.key.file (.write occupant.page)
      rwa [Storage.serve_write] at kept
  | @refuse pool storage number occupant =>
      have kept := tidy.shelf_serve shelf occupant.key.file (.write occupant.page)
      rwa [Storage.serve_write] at kept
  | _ => exact shelf

theorem Effect.shelf {action : Action} {before after : World}
    {result : Except PoolError (Option Handle)} (effect : Effect action before result after)
    (tidy : before.2.Tidy) (shelf : ∃ held, before.2.Shelf id path place held) :
    ∃ held, after.2.Shelf id path place held := by
  induction effect with
  | @load _ _ key | @unread _ _ key =>
      have kept := tidy.shelf_serve shelf key.file (.read key.page)
      rwa [Storage.serve_read] at kept
  | @create _ _ file | @uncreated _ _ file =>
      have kept := tidy.shelf_serve shelf file .allocate
      rwa [Storage.serve_allocate] at kept
  | @erase _ _ key | @drop _ _ key =>
      have kept := tidy.shelf_serve shelf key.file (.delete key.page)
      rwa [Storage.serve_delete] at kept
  | handBack _ _ induction => exact induction tidy shelf
  | _ => exact shelf

theorem Upkeeps.custody {before after : World} {store : PlainStore}
    (upkeeps : Upkeeps before after) (custody : Custody id path place before store) :
    Custody id path place after store := by
  induction upkeeps with
  | refl => exact custody
  | tail _ step induction =>
      exact ⟨step.faithful induction.faithful, step.shelf induction.faithful.tidy induction.shelf⟩

/-- Every action of a careful client keeps a file in the custody of its pool. -/
theorem Custody.act {pool : Pool} {storage : Storage} {store : PlainStore}
    (custody : Custody id path place (pool, storage) store) (action : Action)
    (spoken : pool.Spoken store action)
    (named : ∀ handle data, action = .write handle data → pool.accepts handle = true →
      handle.Names pool) :
    Custody id path place ((pool.act storage action).pool, (pool.act storage action).storage)
      (store.follow action (pool.act storage action).result) := by
  have sound := custody.faithful.sound
  obtain ⟨middle, upkeeps, effect⟩ := Pool.effect_act sound.face sound.positive storage action
  have between := Upkeeps.custody upkeeps custody
  exact ⟨custody.faithful.act action spoken named,
    effect.shelf between.faithful.tidy between.shelf⟩

/-! ## Frames without dirty pages of a file -/

/-- A frame holds no dirty page of a file. -/
def Frame.Settled (frame : Frame) (file : FileIdentity) : Prop :=
  ∀ occupant, frame.occupant = some occupant → occupant.key.file = file → occupant.dirty = false

namespace Frame

variable {frame : Frame} {file : FileIdentity}

theorem settled_of_free (free : frame.occupant = none) : frame.Settled file := by
  intro occupant occupied
  cases free.symm.trans occupied

theorem Settled.update (settled : frame.Settled file) {change : Occupant → Occupant}
    (key : ∀ occupant, (change occupant).key = occupant.key)
    (dirty : ∀ occupant, occupant.dirty = false → (change occupant).dirty = false) :
    (frame.update change).Settled file := by
  intro occupant occupied own
  rw [occupant_update] at occupied
  obtain ⟨before, held, rfl⟩ := Option.map_eq_some_iff.mp occupied
  exact dirty before (settled before held (key before ▸ own))

end Frame

/-- No upkeep makes a page dirty. -/
theorem Upkeep.settled {before after : World} (step : Upkeep before after) {number : Nat}
    {file : FileIdentity} (settled : (before.1.frame number).Settled file) :
    (after.1.frame number).Settled file := by
  have cleared : ∀ (pool : Pool) (other : Nat), (pool.frame number).Settled file →
      ((pool.clearFrame other).frame number).Settled file := by
    intro pool other settled occupant occupied
    rw [Pool.occupant_clearFrame] at occupied
    split at occupied
    · cases occupied
    · exact settled occupant occupied
  cases step with
  | @unmark pool storage other =>
      rw [Pool.frame_updateFrame]
      split
      · next same =>
        subst same
        exact settled.update (fun _ => rfl) fun _ => id
      · exact settled
  | @clean pool storage other =>
      rw [Pool.frame_updateFrame]
      split
      · next same =>
        subst same
        exact settled.update (fun _ => rfl) fun _ _ => rfl
      · exact settled
  | vacate => exact cleared _ _ settled
  | renew => exact cleared _ _ settled
  | _ => exact settled

theorem Upkeeps.settled {before after : World} (upkeeps : Upkeeps before after) {number : Nat}
    {file : FileIdentity} (settled : (before.1.frame number).Settled file) :
    (after.1.frame number).Settled file := by
  induction upkeeps with
  | refl => exact settled
  | tail _ step induction => exact step.settled induction

/-! ## Saving -/

/-- A way to save the pages of a file that comes to its end, with the storage that it leaves. -/
inductive Pool.Saves (pool : Pool) (storage : Storage) (file : FileIdentity) : Storage → Prop
  /-- The file is flushed. -/
  | flush (done : (pool.flush storage file).result = .ok ()) :
      Saves pool storage file (pool.flush storage file).storage
  /-- All pages are written back. -/
  | writeBackAll (done : (pool.writeBackAll storage).result = .ok ()) :
      Saves pool storage file (pool.writeBackAll storage).storage
  /-- The pool is dropped and was made to write its pages back then. -/
  | drop (asked : pool.config.writeBackOnDrop = true) :
      Saves pool storage file (pool.drop storage).storage

namespace Pool

variable {pool : Pool} {storage : Storage} {file : FileIdentity} {number : Nat}

theorem settled_writeBack (done : (pool.writeBack storage number).result = .ok ()) :
    ((pool.writeBack storage number).pool.frame number).Settled file := by
  cases occupied : (pool.frame number).occupant with
  | none =>
      exact Upkeeps.settled (upkeeps_writeBack pool storage number)
        (Frame.settled_of_free occupied)
  | some occupant =>
      have cleaned := occupant_of_writeBack occupied done
      intro later held _
      obtain rfl := Option.some.inj (cleaned.symm.trans held)
      rfl

theorem settled_flushFrame (done : (pool.flushFrame storage file number).result = .ok ()) :
    ((pool.flushFrame storage file number).pool.frame number).Settled file := by
  simp only [flushFrame] at done ⊢
  split at done
  · next free => exact Frame.settled_of_free free
  · next occupant occupied =>
    split at done
    · next other =>
      rw [if_pos other]
      intro later held own
      obtain rfl := Option.some.inj (occupied.symm.trans held)
      exact absurd own other
    · next own =>
      rw [if_neg own]
      split at done
      · cases done
      · next unpinned =>
        obtain ⟨_, written, -⟩ := Outcome.exists_of_andThen done
        rw [if_neg unpinned, Outcome.andThen_of_ok written]
        exact Frame.settled_of_free (occupant_clearFrame_self _ number)

/-- What is done in one frame is not undone by the upkeep that follows. -/
theorem settled_andThen {first : Outcome Unit} {second : Unit → Pool → Storage → Outcome Unit}
    (done : (first.andThen second).result = .ok ())
    (upkeeps : ∀ pool storage, Upkeeps (pool, storage)
      ((second () pool storage).pool, (second () pool storage).storage))
    (settled : (first.result = .ok () → (first.pool.frame number).Settled file) ∨
      ∀ pool storage, (second () pool storage).result = .ok () →
        ((second () pool storage).pool.frame number).Settled file) :
    ((first.andThen second).pool.frame number).Settled file := by
  obtain ⟨_, early, late⟩ := Outcome.exists_of_andThen done
  rw [Outcome.andThen_of_ok early]
  rcases settled with now | later
  · exact Upkeeps.settled (upkeeps _ _) (now early)
  · exact later _ _ late

theorem settled_flushEach {numbers : List Nat}
    (done : (pool.flushEach storage file numbers).result = .ok ()) (inside : number ∈ numbers) :
    ((pool.flushEach storage file numbers).pool.frame number).Settled file := by
  induction numbers generalizing pool storage with
  | nil => cases inside
  | cons first rest induction =>
      refine settled_andThen done (upkeeps_flushEach file rest) ?_
      rcases List.mem_cons.mp inside with rfl | later
      · exact .inl settled_flushFrame
      · exact .inr fun _ _ done => induction done later

theorem settled_writeBackEach {numbers : List Nat}
    (done : (pool.writeBackEach storage numbers).result = .ok ()) (inside : number ∈ numbers) :
    ((pool.writeBackEach storage numbers).pool.frame number).Settled file := by
  induction numbers generalizing pool storage with
  | nil => cases inside
  | cons first rest induction =>
      refine settled_andThen done (upkeeps_writeBackEach rest) ?_
      rcases List.mem_cons.mp inside with rfl | later
      · exact .inl settled_writeBack
      · exact .inr fun _ _ done => induction done later

end Pool

namespace Custody

variable {pool : Pool} {storage : Storage} {store : PlainStore} {number : Nat}

/-- The file takes every page of its own. -/
theorem taken (custody : Custody id path place (pool, storage) store) {occupant : Occupant}
    (occupied : (pool.frame number).occupant = some occupant) (own : occupant.key.file = id) :
    (storage.write occupant.key.file occupant.page).1 = .ok () := by
  obtain ⟨held, shelf⟩ := custody.shelf
  obtain ⟨-, present, -⟩ := custody.faithful.resident occupied
  have numbered := custody.faithful.sound.numbered number occupant occupied
  subst own
  refine shelf.answer_write ?_
  rw [numbered]
  by_contra dead
  simp [Storage.data?, shelf.file, Backing.data?, dead] at present

theorem settled_writeBack (custody : Custody id path place (pool, storage) store)
    (number : Nat) : ((pool.writeBack storage number).pool.frame number).Settled id := by
  cases occupied : (pool.frame number).occupant with
  | none =>
      exact Upkeeps.settled (pool.upkeeps_writeBack storage number)
        (Frame.settled_of_free occupied)
  | some occupant =>
      by_cases own : occupant.key.file = id
      · refine Pool.settled_writeBack ?_
        simp only [Pool.writeBack, occupied, custody.taken occupied own]
        split
        · rfl
        · rfl
      · refine Upkeeps.settled (pool.upkeeps_writeBack storage number) ?_
        intro later held mine
        obtain rfl := Option.some.inj (occupied.symm.trans held)
        exact absurd mine own

theorem settled_writeBackAnyway (custody : Custody id path place (pool, storage) store)
    {numbers : List Nat} (inside : number ∈ numbers) :
    ((pool.writeBackAnyway storage numbers).pool.frame number).Settled id := by
  induction numbers generalizing pool storage with
  | nil => cases inside
  | cons first rest induction =>
      have later := Upkeeps.custody (pool.upkeeps_writeBack storage first) custody
      have goes : (pool.writeBackAnyway storage (first :: rest)).pool =
          ((pool.writeBack storage first).pool.writeBackAnyway
            (pool.writeBack storage first).storage rest).pool := by
        simp only [Pool.writeBackAnyway, Outcome.regardless]
        split
        · rfl
        · rfl
      rw [goes]
      rcases List.mem_cons.mp inside with rfl | further
      · exact Upkeeps.settled (Pool.upkeeps_writeBackAnyway rest _ _)
          (custody.settled_writeBack number)
      · exact induction later further

/-- Saving the pages of a file is upkeep that leaves no dirty page of the file behind. -/
theorem settled_of_saves (custody : Custody id path place (pool, storage) store)
    {later : Storage} (saves : pool.Saves storage id later) :
    ∃ after, Upkeeps (pool, storage) (after, later) ∧
      ∀ number, (after.frame number).Settled id := by
  have all : ∀ {after : Pool}, Upkeeps (pool, storage) (after, later) →
      (∀ number ∈ List.range pool.size, (after.frame number).Settled id) →
      ∃ after, Upkeeps (pool, storage) (after, later) ∧
        ∀ number, (after.frame number).Settled id := by
    intro after upkeeps each
    refine ⟨after, upkeeps, fun number => ?_⟩
    rcases Nat.lt_or_ge number pool.size with inside | past
    · exact each number (List.mem_range.mpr inside)
    · refine Upkeeps.settled upkeeps (Frame.settled_of_free ?_)
      rw [Pool.frame_of_size_le past]
      rfl
  cases saves with
  | flush done =>
      obtain ⟨_, each, -⟩ := Outcome.exists_of_andThen done
      refine all (pool.upkeeps_flush storage id) fun number inside => ?_
      rw [Pool.flush, Outcome.andThen_of_ok each]
      exact Pool.settled_flushEach each inside
  | writeBackAll done =>
      exact all (pool.upkeeps_writeBackAll storage) fun number inside =>
        Pool.settled_writeBackEach done inside
  | drop asked =>
      refine all (pool.upkeeps_drop storage) fun number inside => ?_
      rw [Pool.drop, if_pos asked]
      exact custody.settled_writeBackAnyway inside

/-- A file whose pages were saved has the bytes of the plain store in every page. -/
theorem saved (custody : Custody id path place (pool, storage) store)
    (told : ∀ key ∈ store.unmarked, key.file ≠ id) {later : Storage}
    (saves : pool.Saves storage id later) :
    (∃ held, later.Shelf id path place held) ∧ later.next id = storage.next id ∧
      ∀ page, later.data? ⟨id, page⟩ = store.pages ⟨id, page⟩ := by
  obtain ⟨after, upkeeps, settled⟩ := custody.settled_of_saves saves
  obtain ⟨faithful, shelf⟩ := Upkeeps.custody upkeeps custody
  refine ⟨shelf, Upkeeps.next_eq upkeeps id, fun page => ?_⟩
  have agrees := faithful.agrees ⟨id, page⟩
  have spoken : (⟨id, page⟩ : PageKey) ∉ store.unmarked := fun waits => told _ waits rfl
  -- A page in no frame is in its file as the plain store has it, and one in a frame is clean now.
  cases resident : after.find? ⟨id, page⟩ with
  | none => exact (faithful.absent resident).1
  | some number =>
      obtain ⟨occupant, occupied, key⟩ := faithful.sound.occupied_of_find? resident
      obtain ⟨plain, -, stored, -⟩ := faithful.resident occupied
      rw [key] at plain stored
      have clean := settled number occupant occupied (congrArg PageKey.file key)
      exact (stored clean spoken).trans plain.symm

end Custody

end PageCache
