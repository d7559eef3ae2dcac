import PageCache.Proofs.Pool.Selection
import PageCache.Proofs.Pool.Walk
import PageCache.Proofs.Storage.Layout

/-!
# Writing every page back

To write all pages back a pool goes through its frames, pinned or not, and stops at the first page
that its file does not take. Main statement: at every point of a course this changes nothing in the
pool but which pages have to be written back, and the count of those that were. The frames before
the one where it stops are clean, the changed pages in them were written once each, and all others
are as they were, so that a changed page is with its file or still known to be changed, unless two
files in one place have it.
-/

namespace PageCache

namespace Pool

/-- The changed pages in the first frames were written back, and nothing else has happened. -/
structure SavedBelow (pool : Pool) (storage : Storage) (count : Nat) (after : Pool)
    (later : Storage) : Prop where
  /-- There are as many frames. -/
  size : after.size = pool.size
  /-- The first frames hold the pages that they held, clean; the others are as they were. -/
  frames : ∀ number, after.frame number =
    if number < count then (pool.frame number).update Occupant.cleaned else pool.frame number
  /-- The pages that were written are counted, and nothing else is told in the pool. -/
  rest : after = { pool with
    frames := after.frames
    stats := { pool.stats with
      writeBacks := pool.stats.writeBacks + (pool.unsaved count).length } }
  /-- Files were asked to take exactly these pages, and did. -/
  takes : storage.Takes (pool.unsaved count) later

/-- A pool has tried to write back every changed page. -/
structure WritesBack (pool : Pool) (storage : Storage) (outcome : Outcome Unit) : Prop where
  /-- Every frame is as it was, or its page is not known to be changed any more. -/
  frames : ∀ number, outcome.pool.frame number = pool.frame number ∨
    outcome.pool.frame number = (pool.frame number).update Occupant.cleaned
  /-- Nothing else in the pool changes but the count of pages written back. -/
  rest : outcome.pool.size = pool.size ∧ outcome.pool = { pool with
    frames := outcome.pool.frames
    stats := { pool.stats with writeBacks := outcome.pool.stats.writeBacks } }
  /-- The same handles are accepted, and they show the same pages. -/
  handles : ∀ handle, outcome.pool.accepts handle = pool.accepts handle ∧
    outcome.pool.page handle = pool.page handle
  /-- No page is found changed in two frames, and each bears its own number. -/
  distinct : ((pool.unsaved pool.size).map Occupant.key).Nodup ∧
    ∀ occupant ∈ pool.unsaved pool.size, occupant.page.number = occupant.key.page
  /-- If it succeeds no page is changed any more, and every changed page was written once, in the
  order of the frames. -/
  through : outcome.result = .ok () →
    (∀ number, (outcome.pool.frame number).dirty = false) ∧
      outcome.storage.calls.toList =
        storage.calls.toList ++ (pool.unsaved pool.size).map Occupant.saving ∧
      outcome.pool.stats.writeBacks = pool.stats.writeBacks + (pool.unsaved pool.size).length
  /-- If it fails, then at a changed page that its file did not take. The changed pages in the
  frames before were written once, all others are as they were, and no other file was asked for
  anything. -/
  stopped : ∀ cause, outcome.result = .error cause →
    ∃ number < pool.size, ∃ occupant reason, (pool.frame number).occupant = some occupant ∧
      occupant.dirty = true ∧ cause = .storage reason ∧
      (∀ lower < number, (outcome.pool.frame lower).dirty = false) ∧
      (∀ other, number ≤ other → outcome.pool.frame other = pool.frame other) ∧
      outcome.storage.calls.toList =
        storage.calls.toList ++ (pool.unsaved number).map Occupant.saving ++
          [⟨occupant.key.file, .write occupant.page, false⟩] ∧
      outcome.pool.stats.writeBacks = pool.stats.writeBacks + (pool.unsaved number).length
  /-- A changed page is still known to be changed, or its file has taken its bytes and has them,
  unless another changed page has the same number in a file that lies in the same place. -/
  safe : ∀ number occupant, (pool.frame number).occupant = some occupant → occupant.dirty = true →
    (outcome.pool.frame number).occupant = some occupant ∨
      (∃ calls, outcome.storage.calls.toList = storage.calls.toList ++ calls ∧
        occupant.saving ∈ calls) ∧
      ((∀ other ∈ pool.unsaved pool.size, other.key ≠ occupant.key →
          ¬ storage.Shares other.key occupant.key) →
        outcome.storage.data? occupant.key = some occupant.page.data)

variable {pool after : Pool} {storage later : Storage} {count number : Nat}

theorem writeBackEach_eq_each (pool : Pool) (storage : Storage) (numbers : List Nat) :
    pool.writeBackEach storage numbers =
      Outcome.each (fun number pool storage => pool.writeBack storage number) pool storage
        numbers := by
  induction numbers generalizing pool storage with
  | nil => rfl
  | cons number rest induction => simp only [writeBackEach, Outcome.each, induction]

/-- A handle does not tell a page from the same page after it was written back. -/
theorem handle_of_frame {handle : Handle}
    (frame : after.frame handle.frame = pool.frame handle.frame ∨
      after.frame handle.frame = (pool.frame handle.frame).update Occupant.cleaned) :
    after.accepts handle = pool.accepts handle ∧ after.page handle = pool.page handle := by
  have same : ∀ frame : Frame, (frame.update Occupant.cleaned).pins = frame.pins := by
    intro frame
    cases occupied : frame.occupant <;> simp [Frame.pins, occupied, Occupant.cleaned]
  rcases frame with kept | cleaned
  · have accepted : after.accepts handle = pool.accepts handle := by rw [accepts, kept, accepts]
    exact ⟨accepted, by rw [page, page, accepted, kept]⟩
  · have accepted : after.accepts handle = pool.accepts handle := by
      rw [accepts, cleaned, same, Frame.generation_update, accepts]
    refine ⟨accepted, ?_⟩
    rw [page, page, accepted, cleaned, Frame.occupant_update]
    cases (pool.frame handle.frame).occupant with
    | none => rfl
    | some occupant => rfl

namespace SavedBelow

theorem start (pool : Pool) (storage : Storage) : pool.SavedBelow storage 0 pool storage where
  size := rfl
  frames := fun number => (if_neg (Nat.not_lt_zero number)).symm
  rest := rfl
  takes := .start

/-- The frame that comes next is as it was. -/
theorem frame_eq (saved : pool.SavedBelow storage count after later) :
    after.frame count = pool.frame count :=
  (saved.frames count).trans (if_neg (Nat.lt_irrefl count))

/-- One more page is written back. -/
theorem next (saved : pool.SavedBelow storage count after later)
    (done : (after.writeBack later count).result = .ok ()) :
    pool.SavedBelow storage (count + 1) (after.writeBack later count).pool
      (after.writeBack later count).storage where
  size := (size_writeBack ..).trans saved.size
  frames := by
    intro number
    rw [frame_writeBack done, saved.frame_eq, saved.frames]
    rcases Nat.lt_trichotomy number count with before | rfl | past
    · rw [if_neg before.ne', if_pos before, if_pos (Nat.lt_succ_of_lt before)]
    · rw [if_pos rfl, if_pos (Nat.lt_succ_self number)]
    · rw [if_neg past.ne, if_neg past.le.not_gt, if_neg (Nat.succ_le_of_lt past).not_gt]
  rest := by
    rw [rest_writeBack done, saved.frame_eq, saved.rest, unsaved_succ, List.length_append,
      ← Nat.add_assoc]
  takes := by
    rw [unsaved_succ, ← saved.frame_eq]
    exact takes_writeBack done saved.takes

theorem frame_cases (saved : pool.SavedBelow storage count after later) (number : Nat) :
    after.frame number = pool.frame number ∨
      after.frame number = (pool.frame number).update Occupant.cleaned := by
  rw [saved.frames]
  split
  · exact .inr rfl
  · exact .inl rfl

theorem dirty_eq_false (saved : pool.SavedBelow storage count after later)
    (inside : number < count) : (after.frame number).dirty = false := by
  rw [saved.frames, if_pos inside]
  cases occupied : (pool.frame number).occupant <;>
    simp [Frame.dirty, occupied, Occupant.cleaned]

theorem writeBacks (saved : pool.SavedBelow storage count after later) :
    after.stats.writeBacks = pool.stats.writeBacks + (pool.unsaved count).length := by
  rw [saved.rest]

variable {occupant : Occupant}

/-- A changed page that was written back is with its file. -/
theorem data? (saved : pool.SavedBelow storage count after later) (sound : pool.Sound storage)
    (inside : number < count) (occupied : (pool.frame number).occupant = some occupant)
    (dirty : occupant.dirty = true)
    (separate : ∀ other ∈ pool.unsaved count, other.key ≠ occupant.key →
      ¬ storage.Shares other.key occupant.key) :
    later.data? occupant.key = some occupant.page.data :=
  saved.takes.data? (fun _ => sound.number_of_unsaved) (sound.nodup_unsaved count)
    (mem_unsaved.mpr ⟨number, inside, occupied, dirty⟩) separate

end SavedBelow

/-- A walk over all frames that has come to its end has written every changed page back. -/
theorem SavedBelow.writesBack (sound : pool.Sound storage) {outcome : Outcome Unit}
    (done : outcome.result = .ok ())
    (saved : pool.SavedBelow storage pool.size outcome.pool outcome.storage) :
    pool.WritesBack storage outcome where
  frames := saved.frame_cases
  rest := by
    refine ⟨saved.size, ?_⟩
    rw [saved.writeBacks]
    exact saved.rest
  handles := fun handle => handle_of_frame (saved.frame_cases handle.frame)
  distinct := ⟨sound.nodup_unsaved pool.size, fun _ => sound.number_of_unsaved⟩
  through := by
    refine fun _ => ⟨fun number => ?_, saved.takes.calls, saved.writeBacks⟩
    rcases Nat.lt_or_ge number pool.size with inside | past
    · exact saved.dirty_eq_false inside
    · rw [frame_of_size_le (saved.size.trans_le past)]
      rfl
  stopped := by
    intro cause failed
    cases done.symm.trans failed
  safe := by
    intro number occupant occupied dirty
    have inside := lt_size_of_occupied occupied
    have member := mem_unsaved.mpr ⟨number, inside, occupied, dirty⟩
    exact .inr ⟨⟨_, saved.takes.calls, List.mem_map_of_mem member⟩,
      saved.data? sound inside occupied dirty⟩

/-- A walk that has stopped has written back the changed pages in the frames before. -/
theorem SavedBelow.writesBack_of_error (sound : pool.Sound storage) {outcome : Outcome Unit}
    {cause : PoolError} (saved : pool.SavedBelow storage number after later)
    (inside : number < pool.size) (failed : (after.writeBack later number).result = .error cause)
    (result : outcome.result = .error cause)
    (left : outcome.pool = (after.writeBack later number).pool)
    (stored : outcome.storage = (after.writeBack later number).storage) :
    pool.WritesBack storage outcome := by
  obtain ⟨kept, occupant, reason, occupied, dirty, refused, rfl, wrote⟩ := writeBack_of_error failed
  rw [saved.frame_eq] at occupied
  rw [kept] at left
  rw [wrote] at stored
  have journal : outcome.storage.calls.toList = storage.calls.toList ++
      (pool.unsaved number).map Occupant.saving ++
        [⟨occupant.key.file, .write occupant.page, false⟩] := by
    rw [stored, Storage.calls_write, Array.toList_push, refused, saved.takes.calls]
    rfl
  constructor
  · rw [left]
    exact saved.frame_cases
  · rw [left, saved.writeBacks]
    exact ⟨saved.size, saved.rest⟩
  · intro handle
    rw [left]
    exact handle_of_frame (saved.frame_cases handle.frame)
  · exact ⟨sound.nodup_unsaved pool.size, fun _ => sound.number_of_unsaved⟩
  · intro done
    cases result.symm.trans done
  · intro other same
    obtain rfl := Except.error.inj (result.symm.trans same)
    refine ⟨number, inside, occupant, reason, occupied, dirty, rfl, ?_, ?_, journal, ?_⟩
    · intro lower before
      rw [left]
      exact saved.dirty_eq_false before
    · intro other past
      rw [left, saved.frames, if_neg past.not_gt]
    · rw [left, saved.writeBacks]
  · intro other holder holds changed
    rcases Nat.lt_or_ge other number with before | past
    · refine .inr ⟨⟨_, journal.trans (List.append_assoc ..), ?_⟩, fun separate => ?_⟩
      · have member := mem_unsaved.mpr ⟨other, before, holds, changed⟩
        exact List.mem_append_left _ (List.mem_map_of_mem member)
      · rw [stored]
        refine sound.data?_write holds occupied before.ne (fun different => ?_)
          (saved.data? sound before holds changed fun one member => separate one ?_)
        · rw [saved.takes.shares_iff]
          exact separate occupant (mem_unsaved.mpr ⟨number, inside, occupied, dirty⟩) different
        · obtain ⟨lower, below, found⟩ := mem_unsaved.mp member
          exact mem_unsaved.mpr ⟨lower, below.trans inside, found⟩
    · left
      rw [left, saved.frames, if_neg past.not_gt]
      exact holds

/-- To write every page back either deals with all frames or stops at one of them. -/
theorem walked_writeBackAll (pool : Pool) (storage : Storage) :
    Outcome.Walked (fun number pool storage => pool.writeBack storage number)
      (pool.SavedBelow storage) pool.size (pool.writeBackAll storage) := by
  rw [writeBackAll, writeBackEach_eq_each]
  exact Outcome.walked_each (fun _ _ _ saved => saved.next) pool.size (.start pool storage)

/-- Writing every page back keeps what it does not write, wherever it stops. -/
theorem Sound.writesBack (sound : pool.Sound storage) :
    pool.WritesBack storage (pool.writeBackAll storage) := by
  cases pool.walked_writeBackAll storage with
  | through done saved => exact saved.writesBack sound done
  | stopped inside saved failed result left stored =>
      exact saved.writesBack_of_error sound inside failed result left stored

end Pool

namespace Course

variable {config : Config} {new : Pool} {base : Storage} {issued : List Handle} {world : World}

/-- At every point of a course, to write all pages back changes nothing in the pool but which pages
are known to be changed and the count of those written back. Every changed page in front of the
first one that its file refuses is written once, all others stay as they are. -/
theorem writes_back_up_to_first_failure (made : Pool.ofConfig config = .ok new)
    (course : Course (new, base) issued world) :
    world.1.WritesBack world.2 (world.1.writeBackAll world.2) :=
  (course.sound (Pool.sound_ofConfig made base)).writesBack

/-- The bytes of a changed page are lost if another file in the same place takes its own then. -/
theorem not_changed_pages_kept_by_any_files :
    ¬ ∀ (config : Config) (new : Pool) (base : Storage) (issued : List Handle) (world : World)
        (number : Nat) (occupant : Occupant),
      Pool.ofConfig config = .ok new → Course (new, base) issued world →
      (world.1.frame number).occupant = some occupant → occupant.dirty = true →
      ((world.1.writeBackAll world.2).pool.frame number).dirty = true ∨
        (world.1.writeBackAll world.2).storage.data? occupant.key = some occupant.page.data := by
  intro claim
  have made : Pool.ofConfig ⟨2, true⟩ = .ok (.empty ⟨2, true⟩) := rfl
  generalize reached : (Pool.empty ⟨2, true⟩).carryOut .openedTwice
    [.fetch ⟨⟨1⟩, 0⟩, .fetch ⟨⟨2⟩, 0⟩, .write ⟨0, 2, ⟨⟨1⟩, 0⟩⟩ (.filled 7),
      .write ⟨1, 2, ⟨⟨2⟩, 0⟩⟩ (.filled 9), .releasePage ⟨⟨1⟩, 0⟩ true,
      .releasePage ⟨⟨2⟩, 0⟩ true] = used
  have course : Course (.empty ⟨2, true⟩, .openedTwice) ([] ++ used.1) used.2 := by
    rw [← reached]
    exact Course.start.carryOut _
  let first : Occupant := ⟨⟨⟨1⟩, 0⟩, ⟨0, .filled 7⟩, true, true, 0⟩
  let second : Occupant := ⟨⟨⟨2⟩, 0⟩, ⟨0, .filled 9⟩, true, true, 0⟩
  have occupied : (used.2.1.frame 0).occupant = some first := by
    subst reached
    rfl
  have unsaved : used.2.1.unsaved used.2.1.size = [first] ++ [second] := by
    subst reached
    rfl
  have done : (used.2.1.writeBackAll used.2.2).result = .ok () := by
    subst reached
    decide +kernel
  have books : used.2.2.file ⟨1⟩ = .disk Storage.onePageFile ∧
      used.2.2.file ⟨2⟩ = .disk Storage.onePageFile := by
    subst reached
    exact ⟨rfl, rfl⟩
  cases used.2.1.walked_writeBackAll used.2.2 with
  | stopped _ _ _ result => cases done.symm.trans result
  | through _ saved =>
      have last := (unsaved ▸ saved.takes).data?_last rfl
      rcases claim _ _ _ _ _ 0 first made course occupied rfl with dirty | kept
      · rw [saved.dirty_eq_false (Pool.lt_size_of_occupied occupied)] at dirty
        cases dirty
      · have shared := saved.takes.data?_eq_of_disk books.1 books.2 0
        rw [shared, last, Option.some.injEq] at kept
        exact absurd (congrArg (·[0]) kept) (by decide)

/-- Three changed pages, the first of them in use. The second was deleted by others, so that the
first is written and the third is not. -/
theorem writes_back_up_to_first_failure_deleted_elsewhere :
    ∃ world later : World,
      world = ((Pool.empty ⟨3, true⟩).carryOut (.withSeeded 3)
        [.fetch ⟨⟨1⟩, 0⟩, .fetch ⟨⟨1⟩, 0⟩, .fetch ⟨⟨1⟩, 1⟩, .fetch ⟨⟨1⟩, 2⟩,
          .write ⟨0, 2, ⟨⟨1⟩, 0⟩⟩ (.filled 7), .releasePage ⟨⟨1⟩, 0⟩ true,
          .releasePage ⟨⟨1⟩, 1⟩ true, .releasePage ⟨⟨1⟩, 2⟩ true]).2 ∧
      later = (world.1, (world.2.delete ⟨1⟩ 1).2) ∧
      later.1.WritesBack later.2 (later.1.writeBackAll later.2) ∧
      (later.1.writeBackAll later.2).result = .error (.storage (.pageNotFound ⟨⟨1⟩, 1⟩)) ∧
      ((later.1.writeBackAll later.2).pool.frame 0).pins = 1 ∧
      ((later.1.writeBackAll later.2).pool.frame 0).dirty = false ∧
      ((later.1.writeBackAll later.2).pool.frame 1).dirty = true ∧
      ((later.1.writeBackAll later.2).pool.frame 2).dirty = true := by
  have made : Pool.ofConfig ⟨3, true⟩ = .ok (.empty ⟨3, true⟩) := rfl
  generalize reached : (Pool.empty ⟨3, true⟩).carryOut (.withSeeded 3)
    [.fetch ⟨⟨1⟩, 0⟩, .fetch ⟨⟨1⟩, 0⟩, .fetch ⟨⟨1⟩, 1⟩, .fetch ⟨⟨1⟩, 2⟩,
      .write ⟨0, 2, ⟨⟨1⟩, 0⟩⟩ (.filled 7), .releasePage ⟨⟨1⟩, 0⟩ true,
      .releasePage ⟨⟨1⟩, 1⟩ true, .releasePage ⟨⟨1⟩, 2⟩ true] = used
  have course : Course (.empty ⟨3, true⟩, .withSeeded 3) ([] ++ used.1) used.2 := by
    rw [← reached]
    exact Course.start.carryOut _
  have deleted := Storage.precedes_of_eq (Storage.next_delete used.2.2 ⟨1⟩ 1)
  refine ⟨used.2, _, rfl, rfl, writes_back_up_to_first_failure made (course.elsewhere deleted), ?_,
    ?_, ?_, ?_, ?_⟩
  all_goals
    subst reached
    decide +kernel

end Course

end PageCache
