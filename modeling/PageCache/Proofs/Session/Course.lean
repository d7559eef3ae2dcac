import PageCache.Proofs.Pool.Consistency
import PageCache.Proofs.Pool.Course
import PageCache.Proofs.Session.Change

/-!
# Pools in a session

Whatever a session does, each of its pools is on a course of its own: what happens elsewhere, in
other pools or past all pools, never makes a file give out a number again. Main statement: after
every list of operations of a session, whether or not they succeed, the directory and the frames of
every pool tell the same.
-/

namespace PageCache

/-- The pool was made with some settings and came to where it is by a course. -/
def Pool.Reached (pool : Pool) (storage : Storage) : Prop :=
  ∃ config new base issued, Pool.ofConfig config = .ok new ∧
    Course (new, base) issued (pool, storage)

namespace Pool.Reached

variable {pool : Pool} {storage : Storage}

theorem sound (reached : pool.Reached storage) : pool.Sound storage := by
  obtain ⟨config, new, base, issued, made, course⟩ := reached
  exact course.sound (sound_ofConfig made base)

theorem of_made {config : Config} (made : ofConfig config = .ok pool) (storage : Storage) :
    pool.Reached storage :=
  ⟨config, pool, storage, [], made, .start⟩

theorem act (reached : pool.Reached storage) (action : Action) :
    (pool.act storage action).pool.Reached (pool.act storage action).storage := by
  obtain ⟨config, new, base, issued, made, course⟩ := reached
  exact ⟨config, new, base, _, made, course.act action⟩

theorem later (reached : pool.Reached storage) {after : Storage}
    (precedes : storage.Precedes after) : pool.Reached after := by
  obtain ⟨config, new, base, issued, made, course⟩ := reached
  exact ⟨config, new, base, issued, made, course.elsewhere precedes⟩

end Pool.Reached

/-! ## The files that were opened -/

theorem Storage.next_add (storage : Storage) (file : Backing) (other : FileIdentity) :
    (storage.add file).2.next other =
      if ⟨storage.opened + 1⟩ = other then file.next else storage.next other := by
  simp only [next, file_add]
  split
  · rfl
  · rfl

/-- A new file does not move the number of the next new page of a file past it. -/
theorem Storage.next_add_of_lt (storage : Storage) (file : Backing) {id : FileIdentity}
    (past : storage.opened + 1 < id.number) : (storage.add file).2.next id = storage.next id := by
  have different : (⟨storage.opened + 1⟩ : FileIdentity) ≠ id := by
    rintro rfl
    exact Nat.lt_irrefl _ past
  rw [next_add, if_neg different]

/-- No number is given out again if the new file replaces one that has given out none. -/
theorem Storage.precedes_add (storage : Storage) (file : Backing)
    (unused : storage.next ⟨storage.opened + 1⟩ = 0) :
    storage.Precedes (storage.add file).2 := by
  intro id
  rw [next_add]
  split
  · next same => exact same ▸ unused.trans_le (Nat.zero_le _)
  · exact le_rfl

theorem Upkeeps.opened_eq {before after : World} (upkeeps : Upkeeps before after) :
    after.2.opened = before.2.opened := by
  induction upkeeps with
  | refl => rfl
  | tail _ step induction => cases step <;> exact induction

theorem Effect.opened_eq {action : Action} {before after : World}
    {result : Except PoolError (Option Handle)} (effect : Effect action before result after) :
    after.2.opened = before.2.opened := by
  induction effect with
  | handBack _ _ induction => exact induction
  | _ => rfl

theorem Effect.next_eq {action : Action} {before after : World}
    {result : Except PoolError (Option Handle)} (effect : Effect action before result after)
    {id : FileIdentity} (elsewhere : action ≠ .allocate id) :
    after.2.next id = before.2.next id := by
  induction effect with
  | load | unread => exact Storage.next_read ..
  | @create pool storage file number page inside free given =>
      have different : file ≠ id := fun equal => elsewhere (equal ▸ rfl)
      exact (Storage.next_allocate_of_ok given id).2.trans (if_neg different)
  | uncreated refused => exact Storage.next_allocate_of_error refused id
  | erase | drop => exact Storage.next_delete ..
  | handBack _ _ induction => exact induction (by simp)
  | _ => rfl

namespace Pool.Sound

variable {pool : Pool} {storage : Storage}

/-- No action opens a file. -/
theorem opened_act (sound : pool.Sound storage) (action : Action) :
    (pool.act storage action).storage.opened = storage.opened := by
  obtain ⟨middle, upkeeps, effect⟩ := effect_act sound.face sound.positive storage action
  exact effect.opened_eq.trans (Upkeeps.opened_eq upkeeps)

/-- Only the allocation of a page in a file moves the number of the next new page of the file. -/
theorem next_act (sound : pool.Sound storage) {action : Action} {id : FileIdentity}
    (elsewhere : action ≠ .allocate id) :
    (pool.act storage action).storage.next id = storage.next id := by
  obtain ⟨middle, upkeeps, effect⟩ := effect_act sound.face sound.positive storage action
  exact (effect.next_eq elsewhere).trans (Upkeeps.next_eq upkeeps id)

end Pool.Sound

/-! ## Sessions -/

namespace Session

/-- The files in use were opened, no other file has a page, and every pool is on a course. -/
structure Ordered (session : Session) : Prop where
  /-- The files in use were opened. -/
  known : ∀ number id, session.files.get? number = some id → id.number ≤ session.storage.opened
  /-- A file that was not opened has given out no number. -/
  unopened : ∀ id : FileIdentity, session.storage.opened < id.number → session.storage.next id = 0
  /-- Every pool is on a course over the storage. -/
  reached : ∀ number pool, session.pools.get? number = some pool → pool.Reached session.storage

theorem ordered_start (system : FileSystem) (level : Level) :
    (start { Storage.empty with system } level).Ordered where
  known := by simp [start]
  unopened := by
    intro id _
    simp [start, Storage.next, Storage.file, Storage.empty, Backing.next, MemoryBacking.empty]
  reached := by simp [start]

namespace Ordered

variable {before after : Session}

/-- A storage in which no number is given out again keeps the order of a session, if the pools are
left alone. -/
theorem of_precedes (ordered : before.Ordered) (opened : after.storage.opened =
      before.storage.opened) (precedes : before.storage.Precedes after.storage)
    (unopened : ∀ id : FileIdentity, before.storage.opened < id.number →
      after.storage.next id = before.storage.next id)
    (files : ∀ number id, after.files.get? number = some id →
      before.files.get? number = some id)
    (pools : ∀ number pool, after.pools.get? number = some pool →
      before.pools.get? number = some pool ∨ pool.Reached after.storage) : after.Ordered where
  known := fun number id found => opened ▸ ordered.known number id (files number id found)
  unopened := by
    intro id past
    rw [opened] at past
    rw [unopened id past, ordered.unopened id past]
  reached := by
    intro number pool found
    rcases pools number pool found with earlier | reached
    · exact (ordered.reached number pool earlier).later precedes
    · exact reached

theorem enrol (ordered : before.Ordered) {system : FileSystem} {file : Backing}
    (storage : after.storage = ({ before.storage with system }.add file).2)
    (files : after.files = before.files.push ⟨before.storage.opened + 1⟩)
    (pools : after.pools = before.pools) : after.Ordered := by
  have opened : after.storage.opened = before.storage.opened + 1 := by
    rw [storage]
    rfl
  refine ⟨?_, ?_, ?_⟩
  · intro number id found
    rw [files, Numbered.get?_push] at found
    rw [opened]
    split at found
    · obtain rfl := Option.some.inj found
      exact Nat.le_refl _
    · exact Nat.le_succ_of_le (ordered.known number id found)
  · intro id past
    rw [opened] at past
    rw [storage, Storage.next_add_of_lt { before.storage with system } file past]
    exact ordered.unopened id (Nat.lt_of_succ_lt past)
  · intro number pool found
    have unused := ordered.unopened ⟨before.storage.opened + 1⟩ (Nat.lt_succ_self _)
    rw [storage]
    exact (ordered.reached number pool (pools ▸ found)).later
      (Storage.precedes_add { before.storage with system } file unused)

theorem extend (ordered : before.Ordered) {number : Nat} {id : FileIdentity}
    (known : before.files.get? number = some id)
    (storage : after.storage = (before.storage.allocate id).2)
    (files : after.files = before.files) (pools : after.pools = before.pools) :
    after.Ordered := by
  have precedes : before.storage.Precedes after.storage := by
    rw [storage]
    exact Storage.precedes_allocate _ _
  refine ordered.of_precedes (by rw [storage]; rfl) precedes ?_
    (fun other found inUse => files ▸ inUse) (fun other pool found => .inl (pools ▸ found))
  intro other past
  have different : id ≠ other := by
    rintro rfl
    exact absurd (ordered.known number id known) (Nat.not_le_of_lt past)
  rw [storage]
  cases answer : (before.storage.allocate id).1 with
  | error cause => exact Storage.next_allocate_of_error answer other
  | ok page => exact (Storage.next_allocate_of_ok answer other).2.trans (if_neg different)

theorem act (ordered : before.Ordered) {number : Nat} {pool : Pool} (action : Action)
    (found : before.pools.get? number = some pool)
    (known : ∀ id, action = .allocate id → ∃ file, before.files.get? file = some id)
    (storage : after.storage = (pool.act before.storage action).storage)
    (files : after.files = before.files)
    (pools : after.pools = before.pools.replace number (pool.act before.storage action).pool) :
    after.Ordered := by
  have reached := ordered.reached number pool found
  have sound := reached.sound
  refine ordered.of_precedes ?_ ?_ ?_ (fun file id inUse => files ▸ inUse) ?_
  · rw [storage]
    exact sound.opened_act action
  · rw [storage]
    exact sound.precedes_act action
  · intro id past
    have elsewhere : action ≠ .allocate id := by
      intro equal
      obtain ⟨file, inUse⟩ := known id equal
      exact absurd (ordered.known file id inUse) (Nat.not_le_of_lt past)
    rw [storage]
    exact sound.next_act elsewhere
  · intro other held listed
    rw [pools, Numbered.get?_replace (Numbered.lt_next_of_get? found)] at listed
    split at listed
    · obtain rfl := Option.some.inj listed
      rw [storage]
      exact .inr (reached.act action)
    · exact .inl listed

theorem change (ordered : before.Ordered) (change : Change before after) : after.Ordered := by
  cases change with
  | stay storage files pools =>
      refine ordered.of_precedes (by rw [storage]) (by rw [storage]; exact .refl _)
        (fun id _ => by rw [storage]) (fun number id found => files ▸ found) ?_
      exact fun number pool found => .inl (pools ▸ found)
  | close number storage files pools =>
      refine ordered.of_precedes (by rw [storage]) (by rw [storage]; exact .refl _)
        (fun id _ => by rw [storage]) ?_ (fun number pool found => .inl (pools ▸ found))
      intro other id found
      rw [files, Numbered.get?_retire] at found
      split at found
      · cases found
      · exact found
  | enrol system file storage files pools => exact ordered.enrol storage files pools
  | serve opened next files pools =>
      exact ordered.of_precedes opened (Storage.precedes_of_eq next) (fun id _ => next id)
        (fun number id found => files ▸ found) (fun number pool found => .inl (pools ▸ found))
  | extend known storage files pools => exact ordered.extend known storage files pools
  | act action found known storage files pools =>
      exact ordered.act action found known storage files pools
  | make made storage files pools =>
      refine ordered.of_precedes (by rw [storage]) (by rw [storage]; exact .refl _)
        (fun id _ => by rw [storage]) (fun number id found => files ▸ found) ?_
      intro number pool found
      rw [pools, Numbered.get?_push] at found
      split at found
      · obtain rfl := Option.some.inj found
        exact .inr (.of_made made _)
      · exact .inl found
  | @drop number pool storage files pools =>
      have upkeeps := pool.upkeeps_drop before.storage
      have next := Upkeeps.next_eq upkeeps
      refine ordered.of_precedes (by rw [storage]; exact Upkeeps.opened_eq upkeeps)
        (by rw [storage]; exact Storage.precedes_of_eq next)
        (fun id _ => by rw [storage]; exact next id) (fun number id found => files ▸ found) ?_
      intro other held found
      rw [pools, Numbered.get?_retire] at found
      split at found
      · cases found
      · exact .inl found

theorem run (ordered : before.Ordered) (operations : List Operation) :
    (before.run operations).2.Ordered := by
  induction operations generalizing before with
  | nil => exact ordered
  | cons operation rest induction => exact induction (ordered.change (before.change_step operation))

end Ordered

/-- After every list of operations the tables of every pool tell the same. -/
theorem consistent_run (system : FileSystem) (level : Level) (operations : List Operation)
    {number : Nat} {pool : Pool}
    (found : ((start { Storage.empty with system } level).run operations).2.pools.get? number =
      some pool) : pool.Consistent := by
  have ordered := (ordered_start system level).run operations
  exact (ordered.reached number pool found).sound.consistent

end Session

end PageCache
