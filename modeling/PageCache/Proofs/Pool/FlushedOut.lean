import PageCache.Proofs.Pool.Flushing
import PageCache.Proofs.Pool.Requests
import PageCache.Proofs.Pool.Statistics
import PageCache.Proofs.Storage.Layout

/-!
# Files that were flushed

A flush that comes to its end leaves no page of its file in the pool. Main statement: at every
point of a course such a flush has written each changed page of the file once, in the order of the
frames, and has touched nothing of other files, unless one lies in the same place and has a page
with the number of one that was written. If it is repeated it has nothing to do, and the next fetch
of a page of the file is a miss.
-/

namespace PageCache

namespace Pool

/-- A flush has come to its end: no page of the file is left, and nothing else has changed. -/
structure FlushedOut (pool : Pool) (storage : Storage) (file : FileIdentity)
    (outcome : Outcome Unit) : Prop where
  /-- No frame holds a page of the file, and none is listed. -/
  gone : (∀ number, (outcome.pool.frame number).belongs file = false) ∧
    ∀ page, outcome.pool.find? ⟨file, page⟩ = none
  /-- The frames of the file are free; all others are as they were. -/
  frames : ∀ number, outcome.pool.frame number =
    if (pool.frame number).belongs file then (pool.frame number).clear else pool.frame number
  /-- The pages of other files are listed as before. -/
  find? : ∀ key, key.file ≠ file → outcome.pool.find? key = pool.find? key
  /-- Nothing else in the pool changes but the count of pages written back. -/
  rest : outcome.pool = { pool with
    frames := outcome.pool.frames
    directory := outcome.pool.directory
    stats := { pool.stats with
      writeBacks := pool.stats.writeBacks + (pool.unsavedOf file pool.size).length } }
  /-- The changed pages of the file were written, in the order of the frames, and nothing else was
  asked. -/
  calls : outcome.storage.calls.toList =
    storage.calls.toList ++ (pool.unsavedOf file pool.size).map Occupant.saving
  /-- Each of them was written once, under its own number, and is in the file. -/
  saved : ((pool.unsavedOf file pool.size).map Occupant.key).Nodup ∧
    ∀ occupant ∈ pool.unsavedOf file pool.size, occupant.page.number = occupant.key.page ∧
      outcome.storage.data? occupant.key = some occupant.page.data
  /-- The other files are as they were. -/
  files : ∀ other, other ≠ file → outcome.storage.file other = storage.file other
  /-- So are all bytes in other places. -/
  bytes : ∀ place, (storage.file file).place? ≠ some place →
    outcome.storage.system.bytesAt place = storage.system.bytesAt place
  /-- So are the pages of all files in other places. -/
  pages : ∀ key, key.file ≠ file → storage.Apart file key.file →
    outcome.storage.data? key = storage.data? key
  /-- Where a file lies in the same place, a page keeps its bytes unless its number was written. -/
  beside : ∀ key data, key.file ≠ file → storage.data? key = some data →
    (∀ occupant ∈ pool.unsavedOf file pool.size, ¬ storage.Shares occupant.key key) →
      outcome.storage.data? key = some data
  /-- To flush the file again changes nothing. -/
  again : outcome.pool.flush outcome.storage file =
    .done () outcome.pool outcome.storage [.flushed file]
  /-- As long as no handle to a page of the file was given since, its next fetch counts as a miss
  and reads the page if there is a frame for it. -/
  next : ∀ page further later below,
    Course (outcome.pool, outcome.storage) further (later, below) →
    (∀ handle ∈ further, handle.key ≠ ⟨file, page⟩) →
      let fetched := later.fetch below ⟨file, page⟩
      fetched.pool.stats.hits = later.stats.hits ∧
        fetched.pool.stats.misses = later.stats.misses + 1 ∧
        ∀ number, (later.claim below).result = .ok number →
          ∃ calls, fetched.storage.calls.toList =
            below.calls.toList ++ calls ++ [⟨file, .read page, fetched.result.isOk⟩]

variable {pool : Pool} {storage : Storage} {file : FileIdentity}

/-- Without a page of the file there is nothing to flush. -/
theorem flush_of_not_belongs (free : ∀ number, (pool.frame number).belongs file = false)
    (storage : Storage) : pool.flush storage file = .done () pool storage [.flushed file] := by
  have each : ∀ numbers, pool.flushEach storage file numbers = .done () pool storage [] := by
    intro numbers
    induction numbers with
    | nil => rfl
    | cons number rest induction =>
        rw [flushEach, flushFrame_of_not_belongs (free number), Outcome.done_andThen, induction]
        rfl
  rw [flush, each]
  rfl

/-- A page stays away as long as no handle to it is given. -/
theorem find?_of_course {start world : World} {issued : List Handle}
    (course : Course start issued world) (sound : start.1.Sound start.2) {key : PageKey}
    (absent : start.1.find? key = none) (others : ∀ handle ∈ issued, handle.key ≠ key) :
    world.1.find? key = none := by
  induction course with
  | start => exact absent
  | @act issued pool storage course action induction =>
      have reached : pool.Sound storage := course.sound sound
      obtain ⟨middle, upkeeps, effect⟩ :=
        effect_act reached.face reached.positive storage action
      have before := induction fun handle given => others handle (List.mem_append_left _ given)
      refine effect.find?_eq_none (find?_of_upkeeps upkeeps before) fun handle result => ?_
      refine others handle (List.mem_append_right _ ?_)
      rw [Outcome.given, result]
      exact List.mem_singleton_self handle
  | elsewhere _ _ induction => exact induction others

/-- A fetch of a page that is not resident counts as a miss. -/
theorem stats_fetch_of_absent {key : PageKey} (absent : pool.find? key = none)
    (storage : Storage) :
    (pool.fetch storage key).pool.stats.hits = pool.stats.hits ∧
      (pool.fetch storage key).pool.stats.misses = pool.stats.misses + 1 := by
  rw [fetch_of_absent absent]
  have works := works_load (pool.count fun stats => { stats with misses := stats.misses + 1 })
    storage key
  exact ⟨works.hits, works.misses⟩

/-- No page of a file is listed if no frame holds one. -/
theorem Sound.find?_eq_none_of_not_belongs (sound : pool.Sound storage)
    (free : ∀ number, (pool.frame number).belongs file = false) (page : Nat) :
    pool.find? ⟨file, page⟩ = none := by
  by_contra resident
  obtain ⟨number, resident⟩ := Option.ne_none_iff_exists'.mp resident
  obtain ⟨occupant, occupied, key⟩ := sound.occupied_of_find? resident
  have belongs := Frame.belongs_iff.mpr ⟨occupant, occupied, congrArg PageKey.file key⟩
  exact Bool.false_ne_true ((free number).symm.trans belongs)

/-! ## A walk through all frames -/

namespace FlushedBelow

variable {after : Pool} {later : Storage}

theorem frame_through (flushed : pool.FlushedBelow storage file pool.size after later)
    (number : Nat) : after.frame number =
      if (pool.frame number).belongs file then (pool.frame number).clear
      else pool.frame number := by
  rw [flushed.frames]
  refine if_congr (and_iff_right_of_imp fun belongs => ?_) rfl rfl
  obtain ⟨occupant, occupied, -⟩ := Frame.belongs_iff.mp belongs
  exact lt_size_of_occupied occupied

/-- No frame holds a page of the file any more. -/
theorem not_belongs (flushed : pool.FlushedBelow storage file pool.size after later)
    (number : Nat) : (after.frame number).belongs file = false := by
  rw [flushed.frame_through]
  split
  · rfl
  · next other => exact Bool.eq_false_iff.mpr other

/-- The next fetch of a page of the file is a miss, whatever else has happened. -/
theorem next_fetch (flushed : pool.FlushedBelow storage file pool.size after later)
    (reached : after.Sound later) (hand : pool.clock.hand < pool.clock.frames) {page : Nat}
    {further : List Handle} {now : Pool} {below : Storage}
    (course : Course (after, later) further (now, below))
    (others : ∀ handle ∈ further, handle.key ≠ ⟨file, page⟩) :
    let fetched := now.fetch below ⟨file, page⟩
    fetched.pool.stats.hits = now.stats.hits ∧
      fetched.pool.stats.misses = now.stats.misses + 1 ∧
      ∀ number, (now.claim below).result = .ok number →
        ∃ calls, fetched.storage.calls.toList =
          below.calls.toList ++ calls ++ [⟨file, .read page, fetched.result.isOk⟩] := by
  have absent := reached.find?_eq_none_of_not_belongs flushed.not_belongs page
  have away : now.find? ⟨file, page⟩ = none := find?_of_course course reached absent others
  have sound : now.Sound below := course.sound reached
  have clock : after.clock = pool.clock := by rw [flushed.rest]
  have laterHand : now.clock.hand < now.clock.frames :=
    course.hand_lt_of_start (clock.symm ▸ hand)
  obtain ⟨hits, misses⟩ := stats_fetch_of_absent away below
  exact ⟨hits, misses, fun number claimed => (sound.asks_fetch laterHand away).last claimed⟩

end FlushedBelow

/-- What a walk that went through all frames leaves behind. -/
theorem FlushedBelow.flushedOut (sound : pool.Sound storage)
    (hand : pool.clock.hand < pool.clock.frames) {outcome : Outcome Unit}
    (flushed : pool.FlushedBelow storage file pool.size outcome.pool outcome.storage)
    (reached : outcome.pool.Sound outcome.storage) : pool.FlushedOut storage file outcome := by
  have own : ∀ occupant ∈ pool.unsavedOf file pool.size, occupant.key.file = file :=
    fun occupant member => (mem_unsavedOf.mp member).2
  have numbered : ∀ occupant ∈ pool.unsavedOf file pool.size,
      occupant.page.number = occupant.key.page :=
    fun occupant member => sound.number_of_unsaved (mem_unsavedOf.mp member).1
  refine
    { gone := ⟨flushed.not_belongs, reached.find?_eq_none_of_not_belongs flushed.not_belongs⟩
      frames := flushed.frame_through
      find? := ?_
      rest := flushed.rest
      calls := flushed.takes.calls
      saved := ⟨nodup sound file pool.size, fun occupant member =>
        ⟨numbered occupant member, flushed.data? sound member⟩⟩
      files := fun other different => flushed.takes.file_of_ne fun occupant member same =>
        different (same.symm.trans (own occupant member))
      bytes := fun place elsewhere => flushed.takes.bytesAt fun occupant member =>
        (own occupant member).symm ▸ elsewhere
      pages := fun key different apart => flushed.takes.data?_of_apart fun occupant member =>
        (own occupant member).symm ▸ ⟨different, apart⟩
      beside := ?_
      again := flush_of_not_belongs flushed.not_belongs outcome.storage
      next := fun _ _ _ _ course others => flushed.next_fetch reached hand course others }
  · intro key different
    rw [flushed.find?]
    cases pool.find? key with
    | none => rfl
    | some number => exact if_pos (decide_eq_true (.inl different))
  · intro key data different found separate
    refine flushed.takes.data?_of_not_shares numbered (fun occupant member => ?_) found
    exact ⟨fun same => different (same ▸ own occupant member), separate occupant member⟩

end Pool

namespace Course

variable {config : Config} {new : Pool} {base : Storage} {issued : List Handle} {world : World}

/-- At every point of a course a flush that succeeds leaves no page of the file behind, has written
each changed one once, and has touched nothing of files in other places. -/
theorem flush_leaves_nothing_behind (made : Pool.ofConfig config = .ok new)
    (course : Course (new, base) issued world) (file : FileIdentity)
    (done : (world.1.flush world.2 file).result = .ok ()) :
    world.1.FlushedOut world.2 file (world.1.flush world.2 file) := by
  have sound : world.1.Sound world.2 := course.sound (Pool.sound_ofConfig made base)
  cases sound.walked_flush file with
  | through _ flushed =>
      exact flushed.flushedOut sound (course.hand_lt made) (sound.act (.flush file))
  | stopped _ _ _ result => cases done.symm.trans result

/-- A flush changes a page of another file that lies in the same place. -/
theorem not_flush_leaves_pages_of_all_other_files :
    ¬ ∀ (config : Config) (new : Pool) (base : Storage) (issued : List Handle) (world : World)
        (file : FileIdentity),
      Pool.ofConfig config = .ok new → Course (new, base) issued world →
      (world.1.flush world.2 file).result = .ok () →
      ∀ key, key.file ≠ file →
        (world.1.flush world.2 file).storage.data? key = world.2.data? key := by
  intro claim
  have made : Pool.ofConfig ⟨1, true⟩ = .ok (.empty ⟨1, true⟩) := rfl
  generalize reached : (Pool.empty ⟨1, true⟩).carryOut .openedTwice
    [.fetch ⟨⟨1⟩, 0⟩, .write ⟨0, 2, ⟨⟨1⟩, 0⟩⟩ (.filled 7), .releasePage ⟨⟨1⟩, 0⟩ true] = used
  have course : Course (.empty ⟨1, true⟩, .openedTwice) ([] ++ used.1) used.2 := by
    rw [← reached]
    exact Course.start.carryOut _
  have sound : used.2.1.Sound used.2.2 := course.sound (Pool.sound_ofConfig made _)
  have done : (used.2.1.flush used.2.2 ⟨1⟩).result = .ok () := by
    subst reached
    decide +kernel
  have zeros : (used.2.2.data? ⟨⟨2⟩, 0⟩).map (·[0]) = some 0 := by
    subst reached
    decide +kernel
  have occupied : (used.2.1.frame 0).occupant =
      some ⟨⟨⟨1⟩, 0⟩, ⟨0, .filled 7⟩, true, true, 0⟩ := by
    subst reached
    rfl
  have books : used.2.2.file ⟨1⟩ = .disk Storage.onePageFile ∧
      used.2.2.file ⟨2⟩ = .disk Storage.onePageFile := by
    subst reached
    exact ⟨rfl, rfl⟩
  have kept := claim _ _ _ _ _ ⟨1⟩ made course done ⟨⟨2⟩, 0⟩ (by decide)
  cases sound.walked_flush ⟨1⟩ with
  | stopped _ _ _ result => cases done.symm.trans result
  | through _ flushed =>
      have changed :=
        Pool.mem_unsaved.mpr ⟨0, Pool.lt_size_of_occupied occupied, occupied, rfl⟩
      have taken := flushed.data? sound (Pool.mem_unsavedOf.mpr ⟨changed, rfl⟩)
      have shared := flushed.takes.data?_eq_of_disk books.2 books.1 0
      rw [← kept, shared, taken] at zeros
      exact absurd zeros (by decide)

/-- Two frames with a changed page each, of two files. The flush of the first leaves the other. -/
theorem flush_leaves_nothing_behind_of_first_file :
    ∃ world : World,
      world = ((Pool.empty ⟨2, true⟩).carryOut
        ((Storage.withSeeded 1).add (.memory (.seeded "other" 1))).2
        [.fetch ⟨⟨1⟩, 0⟩, .fetch ⟨⟨2⟩, 0⟩, .releasePage ⟨⟨1⟩, 0⟩ true,
          .releasePage ⟨⟨2⟩, 0⟩ true]).2 ∧
      (world.1.flush world.2 ⟨1⟩).result = .ok () ∧
      world.1.FlushedOut world.2 ⟨1⟩ (world.1.flush world.2 ⟨1⟩) ∧
      (world.1.unsavedOf ⟨1⟩ world.1.size).length = 1 ∧
      ((world.1.flush world.2 ⟨1⟩).pool.frame 1).dirty = true := by
  have made : Pool.ofConfig ⟨2, true⟩ = .ok (.empty ⟨2, true⟩) := rfl
  generalize reached : (Pool.empty ⟨2, true⟩).carryOut
    ((Storage.withSeeded 1).add (.memory (.seeded "other" 1))).2
    [.fetch ⟨⟨1⟩, 0⟩, .fetch ⟨⟨2⟩, 0⟩, .releasePage ⟨⟨1⟩, 0⟩ true,
      .releasePage ⟨⟨2⟩, 0⟩ true] = used
  have course : Course (.empty ⟨2, true⟩,
      ((Storage.withSeeded 1).add (.memory (.seeded "other" 1))).2) ([] ++ used.1) used.2 := by
    rw [← reached]
    exact Course.start.carryOut _
  have done : (used.2.1.flush used.2.2 ⟨1⟩).result = .ok () := by
    subst reached
    decide +kernel
  refine ⟨used.2, rfl, done, flush_leaves_nothing_behind made course ⟨1⟩ done, ?_, ?_⟩
  all_goals
    subst reached
    decide +kernel

end Course

end PageCache
