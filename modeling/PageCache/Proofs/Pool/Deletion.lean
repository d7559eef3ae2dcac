import PageCache.Proofs.Pool.Disposal

/-!
# Deleting a page

A disposal takes its page out of the pool before it asks the file to delete it, and it looks neither
at the pins of the page nor at whether the page was changed. Main statement: at every point of a
course it fails exactly if the page is not live, and whether or not it fails, the page is neither
resident nor live afterwards, the handles to it are refused for good and nothing else has changed.
Where it fails, no file would have taken the bytes that it drops.
-/

namespace PageCache

namespace Pool

/-- A page was dropped from a pool, and its file was asked to delete it. -/
structure Discards (pool : Pool) (storage : Storage) (key : PageKey) (outcome : Outcome Unit) :
    Prop where
  /-- It fails exactly if the file does not have the page, and says so. -/
  result : outcome.result =
    if storage.has key then .ok () else .error (.storage (.pageNotFound key))
  /-- The page is not listed afterwards, it is in no frame, and its file does not have it. -/
  gone : outcome.pool.find? key = none ∧ (∀ number, (outcome.pool.frame number).key? ≠ some key) ∧
    outcome.storage.has key = false
  /-- Its frame was made free, and all others are as they were. -/
  frames : ∀ number, outcome.pool.frame number =
    if pool.find? key = some number then (pool.frame number).clear else pool.frame number
  /-- The other pages are listed as they were. -/
  find? : ∀ other, other ≠ key → outcome.pool.find? other = pool.find? other
  /-- The hand and the counters are as they were. -/
  rest : outcome.pool.size = pool.size ∧ outcome.pool = { pool with
    frames := outcome.pool.frames
    directory := outcome.pool.directory }
  /-- The file was asked to delete the page, and nothing else was asked of any file. -/
  calls : outcome.storage.calls.toList =
    storage.calls.toList ++ [⟨key.file, .delete key.page, storage.has key⟩]
  /-- Every other page is as live as it was and has the bytes that it had. -/
  pages : ∀ other, other ≠ key → outcome.storage.has other = storage.has other ∧
    outcome.storage.data? other = storage.data? other
  /-- No byte on disk has changed, and neither have the books of the other files. -/
  files : outcome.storage.system = storage.system ∧ outcome.storage.opened = storage.opened ∧
    ∀ id, id ≠ key.file → outcome.storage.file id = storage.file id
  /-- Where it fails no file has changed, and the file of a page that was resident will never again
  take bytes for it. -/
  harmless : storage.has key = false →
    (∀ id, outcome.storage.file id = storage.file id) ∧
      (pool.find? key ≠ none → ∀ later, storage.Ages later → ∀ page, page.number = key.page →
        (later.write key.file page).1 = .error (.pageNotFound key))

variable {pool later : Pool} {storage storageLater : Storage} {key : PageKey} {handle : Handle}

theorem pool_dispose (pool : Pool) (storage : Storage) (key : PageKey) :
    (pool.dispose storage key).pool = (pool.forget key).1 := by
  simp only [dispose]
  split <;> rfl

theorem find?_forget_of_ne (pool : Pool) {other : PageKey} (different : other ≠ key) :
    (pool.forget key).1.find? other = pool.find? other := by
  simp only [forget]
  split
  · rfl
  · rw [find?_remove, if_neg different.symm]

/-- A page that is forgotten leaves its frame, and its frame only. -/
theorem Sound.frame_forget (sound : pool.Sound storage) (key : PageKey) (number : Nat) :
    (pool.forget key).1.frame number =
      if pool.find? key = some number then (pool.frame number).clear else pool.frame number := by
  simp only [Pool.forget]
  split
  · next absent => rw [absent, if_neg (Option.some_ne_none number).symm]
  · next held resident =>
    obtain ⟨occupant, occupied, -⟩ := sound.occupied_of_find? resident
    have cleared : (pool.remove held key).frame number =
        if held = number then (pool.frame held).clear else pool.frame number :=
      frame_setFrame (lt_size_of_occupied occupied) _ number
    rw [cleared, resident]
    by_cases same : held = number
    · rw [if_pos same, if_pos (congrArg some same), same]
    · rw [if_neg same, if_neg fun equal => same (Option.some.inj equal)]

theorem rest_forget (pool : Pool) (key : PageKey) :
    (pool.forget key).1.size = pool.size ∧ (pool.forget key).1 = { pool with
      frames := (pool.forget key).1.frames
      directory := (pool.forget key).1.directory } := by
  simp only [forget]
  split
  · exact ⟨rfl, rfl⟩
  · next number _ => exact ⟨size_remove pool number key, rfl⟩

/-- A sound pool that disposes of a page discards it. -/
theorem Sound.discards (sound : pool.Sound storage) (key : PageKey) :
    pool.Discards storage key (pool.dispose storage key) where
  result := result_dispose pool storage key
  gone := by
    have after : (pool.dispose storage key).pool.Sound (pool.dispose storage key).storage :=
      sound.act (.dispose key)
    refine ⟨find?_dispose pool storage key, fun number held => ?_, ?_⟩
    · cases (find?_dispose pool storage key).symm.trans ((after.directory key number).mpr held)
    · rw [storage_dispose, Storage.has_delete]
      simp
  frames := by
    rw [pool_dispose]
    exact sound.frame_forget key
  find? := by
    rw [pool_dispose]
    exact fun other => pool.find?_forget_of_ne
  rest := by
    rw [pool_dispose]
    exact pool.rest_forget key
  calls := by
    rw [storage_dispose, Storage.calls_delete, Array.toList_push, Storage.answer_delete]
    cases storage.has key <;> rfl
  pages := by
    intro other different
    rw [storage_dispose, Storage.has_delete]
    refine ⟨?_, storage.data?_delete_of_ne different⟩
    simp [different.symm]
  files := by
    rw [storage_dispose]
    exact ⟨storage.system_delete _ _, rfl,
      fun id different => storage.file_delete_of_ne different _⟩
  harmless := by
    intro dead
    rw [storage_dispose]
    refine ⟨Storage.file_delete_of_not_has dead, fun resident later ages page own => ?_⟩
    obtain ⟨number, held⟩ := Option.ne_none_iff_exists'.mp resident
    -- A resident page has a number that was given out, so that it cannot come back.
    exact Storage.answer_write_of_not_has (ages.retired ⟨sound.given key number held, dead⟩).2 own

/-! ## The handles to the page -/

/-- A handle to a page that was disposed of names a stay that is past. -/
theorem Sound.past_of_dispose (sound : pool.Sound storage) (dated : handle.Dated pool) :
    handle.generation <
      ((pool.dispose storage handle.key).pool.frame handle.frame).generation := by
  rw [pool_dispose]
  rcases dated with past | names
  · exact past.trans_le (pool.continues_forget handle.key handle.frame).le
  · have resident : pool.find? handle.key = some handle.frame := (sound.directory _ _).mpr names.2
    rw [sound.frame_forget, if_pos resident, Frame.generation_clear, names.1]
    exact Nat.lt_succ_self _

/-- A handle to a stay that is past is refused from then on. -/
theorem Sound.refuses_past (sound : pool.Sound storage)
    (past : handle.generation < (pool.frame handle.frame).generation) {further : List Handle}
    (onward : Course (pool, storage) further (later, storageLater)) :
    later.Refuses storageLater handle := by
  apply refuses_iff.mpr
  apply Bool.eq_false_iff.mpr
  intro accepted
  have grown := (onward.continues sound handle.frame).le
  exact absurd (accepts_iff.mp accepted).2 (past.trans_le grown).ne'

end Pool

namespace Course

variable {config : Config} {new pool : Pool} {base storage : Storage} {issued : List Handle}

/-- A disposal fails exactly if the page is not live. In any case the page is gone afterwards, the
handles to it are refused for good, and nothing else has changed. -/
theorem discards_page (made : Pool.ofConfig config = .ok new)
    (course : Course (new, base) issued (pool, storage)) (key : PageKey) :
    pool.Discards storage key (pool.dispose storage key) ∧
      ∀ handle ∈ issued, handle.key = key → ∀ further later storageLater,
        Course ((pool.dispose storage key).pool, (pool.dispose storage key).storage) further
          (later, storageLater) →
        later.Refuses storageLater handle := by
  have sound : pool.Sound storage := course.sound (Pool.sound_ofConfig made base)
  refine ⟨sound.discards key, ?_⟩
  rintro handle given rfl further later storageLater onward
  have dated : handle.Dated pool := course.dated (Pool.sound_ofConfig made base) handle given
  have after : (pool.dispose storage handle.key).pool.Sound
      (pool.dispose storage handle.key).storage := sound.act (.dispose handle.key)
  exact after.refuses_past (sound.past_of_dispose dated) onward

/-- A page in use that was changed and then deleted by others: its disposal fails, and the other
page stays in use. -/
theorem discards_page_deleted_elsewhere :
    ∃ used later : World,
      used = ((Pool.empty ⟨2, true⟩).carryOut (.withSeeded 2)
        [.fetch ⟨⟨1⟩, 0⟩, .fetch ⟨⟨1⟩, 0⟩, .fetch ⟨⟨1⟩, 1⟩, .write ⟨0, 2, ⟨⟨1⟩, 0⟩⟩ (.filled 7),
          .release ⟨0, 2, ⟨⟨1⟩, 0⟩⟩ true]).2 ∧
      later = (used.1, (used.2.delete ⟨1⟩ 0).2) ∧
      (later.1.frame 0).dirty = true ∧ (later.1.frame 0).pins = 1 ∧
      later.1.accepts ⟨0, 2, ⟨⟨1⟩, 0⟩⟩ = true ∧
      later.1.Discards later.2 ⟨⟨1⟩, 0⟩ (later.1.dispose later.2 ⟨⟨1⟩, 0⟩) ∧
      (later.1.dispose later.2 ⟨⟨1⟩, 0⟩).result = .error (.storage (.pageNotFound ⟨⟨1⟩, 0⟩)) ∧
      (later.1.dispose later.2 ⟨⟨1⟩, 0⟩).pool.Refuses (later.1.dispose later.2 ⟨⟨1⟩, 0⟩).storage
        ⟨0, 2, ⟨⟨1⟩, 0⟩⟩ ∧
      (later.1.dispose later.2 ⟨⟨1⟩, 0⟩).pool.accepts ⟨1, 2, ⟨⟨1⟩, 1⟩⟩ = true := by
  have made : Pool.ofConfig ⟨2, true⟩ = .ok (.empty ⟨2, true⟩) := rfl
  generalize reached : (Pool.empty ⟨2, true⟩).carryOut (.withSeeded 2)
    [.fetch ⟨⟨1⟩, 0⟩, .fetch ⟨⟨1⟩, 0⟩, .fetch ⟨⟨1⟩, 1⟩, .write ⟨0, 2, ⟨⟨1⟩, 0⟩⟩ (.filled 7),
      .release ⟨0, 2, ⟨⟨1⟩, 0⟩⟩ true] = used
  have course : Course (.empty ⟨2, true⟩, .withSeeded 2) ([] ++ used.1) used.2 := by
    rw [← reached]
    exact Course.start.carryOut _
  have given : (⟨0, 2, ⟨⟨1⟩, 0⟩⟩ : Handle) ∈ [] ++ used.1 := by
    subst reached
    decide +kernel
  have deleted := Storage.precedes_of_eq (Storage.next_delete used.2.2 ⟨1⟩ 0)
  obtain ⟨discards, refused⟩ := discards_page made (course.elsewhere deleted) ⟨⟨1⟩, 0⟩
  refine ⟨used.2, _, rfl, rfl, ?_, ?_, ?_, discards, ?_, refused _ given rfl _ _ _ .start, ?_⟩
  all_goals
    subst reached
    decide +kernel

end Course

end PageCache
