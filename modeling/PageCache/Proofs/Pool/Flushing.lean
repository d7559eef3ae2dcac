import PageCache.Proofs.Pool.Selection
import PageCache.Proofs.Pool.Walk

/-!
# Flushing a file

A flush goes through the frames in their order. A page of the file is written back if it was
changed, and leaves; the flush stops at a page in use and at a page that its file does not take.
Main statement: at every point of a course a flush that fails has dealt with exactly the frames
before the one where it stopped, and leaves that frame, those after it and those of all other files
as they were.
-/

namespace PageCache

/-- Whether the frame holds a page of a file. -/
def Frame.belongs (frame : Frame) (file : FileIdentity) : Bool :=
  frame.occupant.any (·.key.file = file)

theorem Frame.belongs_iff {frame : Frame} {file : FileIdentity} : frame.belongs file = true ↔
    ∃ occupant, frame.occupant = some occupant ∧ occupant.key.file = file := by
  cases occupied : frame.occupant <;> simp [belongs, occupied]

namespace Pool

/-- The changed pages of a file in the first frames, in the order of the frames. -/
def unsavedOf (pool : Pool) (file : FileIdentity) (count : Nat) : List Occupant :=
  (pool.unsaved count).filter (·.key.file = file)

/-- The pages of a file in the first frames were written back, if they were changed, and have left,
and nothing else has happened. -/
structure FlushedBelow (pool : Pool) (storage : Storage) (file : FileIdentity) (count : Nat)
    (after : Pool) (later : Storage) : Prop where
  /-- There are as many frames. -/
  size : after.size = pool.size
  /-- Those of the first frames that held a page of the file are free; all others are as before. -/
  frames : ∀ number, after.frame number =
    if number < count ∧ (pool.frame number).belongs file = true then (pool.frame number).clear
    else pool.frame number
  /-- The pages that left their frames are not listed, all others are listed as before. -/
  find? : ∀ key, after.find? key =
    (pool.find? key).filter fun number => key.file ≠ file ∨ count ≤ number
  /-- None of the pages that left was pinned. -/
  unpinned : ∀ number < count, ∀ occupant, (pool.frame number).occupant = some occupant →
    occupant.key.file = file → occupant.pins = 0
  /-- The pages that were written are counted, and nothing else is told in the pool. -/
  rest : after = { pool with
    frames := after.frames
    directory := after.directory
    stats := { pool.stats with
      writeBacks := pool.stats.writeBacks + (pool.unsavedOf file count).length } }
  /-- The file was asked to take the changed ones of these pages, and did. -/
  takes : storage.Takes (pool.unsavedOf file count) later

/-- A flush has stopped at a frame. The frames before it are processed; that frame, those after it
and those of other files are as they were. -/
structure StopsAt (pool : Pool) (storage : Storage) (file : FileIdentity) (number : Nat)
    (cause : PoolError) (outcome : Outcome Unit) : Prop where
  /-- The frame is one of those of the pool. -/
  inside : number < pool.size
  /-- It holds a page of the file that is pinned, or one that its file did not take. Before that the
  changed pages of the file in the frames before were written once each, in the order of the frames,
  and nothing else was asked. -/
  reason : ∃ occupant, (pool.frame number).occupant = some occupant ∧ occupant.key.file = file ∧
    ((0 < occupant.pins ∧ cause = .stillPinned occupant.key number ∧
        outcome.storage.calls.toList =
          storage.calls.toList ++ (pool.unsavedOf file number).map Occupant.saving) ∨
      ∃ refusal, occupant.pins = 0 ∧ occupant.dirty = true ∧ cause = .storage refusal ∧
        outcome.storage.calls.toList =
          storage.calls.toList ++ (pool.unsavedOf file number).map Occupant.saving ++
            [⟨file, .write occupant.page, false⟩])
  /-- Every page of the file in a frame before was unpinned and has left, and its bytes are in the
  file if it was changed. -/
  below : ∀ lower < number, ∀ occupant, (pool.frame lower).occupant = some occupant →
    occupant.key.file = file →
      occupant.pins = 0 ∧ outcome.pool.frame lower = (pool.frame lower).clear ∧
        outcome.pool.find? occupant.key = none ∧
        (occupant.dirty = true → outcome.storage.data? occupant.key = some occupant.page.data)
  /-- The frame, those after it and those without a page of the file are as they were. -/
  others : ∀ other, number ≤ other ∨ (pool.frame other).belongs file = false →
    outcome.pool.frame other = pool.frame other
  /-- Their pages are listed as before, and no others are. -/
  find? : ∀ key, outcome.pool.find? key =
    (pool.find? key).filter fun other => key.file ≠ file ∨ number ≤ other
  /-- Nothing else in the pool changes but the count of pages written back. -/
  rest : outcome.pool = { pool with
    frames := outcome.pool.frames
    directory := outcome.pool.directory
    stats := { pool.stats with
      writeBacks := pool.stats.writeBacks + (pool.unsavedOf file number).length } }
  /-- Handles to pinned pages can be used as before. -/
  handles : ∀ handle occupant, pool.Honours storage handle occupant →
    outcome.pool.Honours outcome.storage handle occupant

/-- A flush stops cleanly, and for nothing but a pinned page or a refused write. -/
structure StopsCleanly (pool : Pool) (storage : Storage) (file : FileIdentity)
    (outcome : Outcome Unit) : Prop where
  /-- If it fails it has stopped at some frame. -/
  stops : ∀ cause, outcome.result = .error cause →
    ∃ number, pool.StopsAt storage file number cause outcome
  /-- If none of its writes failed, it fails exactly if some page of the file is pinned. -/
  pinned : (∀ calls, outcome.storage.calls.toList = storage.calls.toList ++ calls →
      ∀ call ∈ calls, call.succeeded = true) →
    ((∃ cause, outcome.result = .error cause) ↔
      ∃ number occupant, (pool.frame number).occupant = some occupant ∧
        occupant.key.file = file ∧ 0 < occupant.pins)

variable {pool after : Pool} {storage later : Storage} {file : FileIdentity} {count number : Nat}

theorem flushEach_eq_each (pool : Pool) (storage : Storage) (file : FileIdentity)
    (numbers : List Nat) :
    pool.flushEach storage file numbers =
      Outcome.each (fun number pool storage => pool.flushFrame storage file number) pool storage
        numbers := by
  induction numbers generalizing pool storage with
  | nil => rfl
  | cons number rest induction => simp only [flushEach, Outcome.each, induction]

/-! ## One frame -/

/-- A frame without a page of the file is left alone. -/
theorem flushFrame_of_not_belongs (other : (pool.frame number).belongs file = false)
    (storage : Storage) : pool.flushFrame storage file number = .done () pool storage [] := by
  simp only [flushFrame]
  split
  · rfl
  · next occupant occupied =>
    rw [if_pos]
    intro own
    exact Bool.false_ne_true (other.symm.trans (Frame.belongs_iff.mpr ⟨occupant, occupied, own⟩))

theorem flushFrame_of_belongs {occupant : Occupant}
    (occupied : (pool.frame number).occupant = some occupant) (own : occupant.key.file = file)
    (unpinned : occupant.pins = 0) (storage : Storage) :
    pool.flushFrame storage file number = (pool.writeBack storage number).andThen
      fun _ pool storage => .done () (pool.remove number occupant.key) storage [] := by
  simp only [flushFrame, occupied, own, unpinned, ne_eq, not_true_eq_false, if_false]

theorem flushFrame_of_pinned {occupant : Occupant}
    (occupied : (pool.frame number).occupant = some occupant) (own : occupant.key.file = file)
    (pinned : 0 < occupant.pins) (storage : Storage) :
    pool.flushFrame storage file number =
      .failed (.stillPinned occupant.key number) pool storage [] := by
  simp only [flushFrame, occupied, own, ne_eq, not_true_eq_false, if_false, pinned.ne',
    not_false_eq_true, if_true]

/-- A frame fails a flush if its page is pinned or is not taken by its file; it keeps the page. -/
theorem flushFrame_of_error {cause : PoolError}
    (failed : (pool.flushFrame storage file number).result = .error cause) :
    ∃ occupant, (pool.frame number).occupant = some occupant ∧ occupant.key.file = file ∧
      (pool.flushFrame storage file number).pool = pool ∧
      ((0 < occupant.pins ∧ cause = .stillPinned occupant.key number ∧
          (pool.flushFrame storage file number).storage = storage) ∨
        ∃ reason, occupant.pins = 0 ∧ occupant.dirty = true ∧ cause = .storage reason ∧
          (storage.write occupant.key.file occupant.page).1 = .error reason ∧
          (pool.flushFrame storage file number).storage =
            (storage.write occupant.key.file occupant.page).2) := by
  cases belongs : (pool.frame number).belongs file with
  | false =>
      rw [flushFrame_of_not_belongs belongs] at failed
      cases failed
  | true =>
      obtain ⟨occupant, occupied, own⟩ := Frame.belongs_iff.mp belongs
      refine ⟨occupant, occupied, own, ?_⟩
      rcases Nat.eq_zero_or_pos occupant.pins with unpinned | pinned
      · rw [flushFrame_of_belongs occupied own unpinned] at failed ⊢
        cases saved : (pool.writeBack storage number).result with
        | ok value =>
            rw [Outcome.andThen_of_ok saved] at failed
            cases failed
        | error reason =>
            rw [Outcome.andThen_of_error saved] at failed ⊢
            obtain rfl := Except.error.inj failed
            obtain ⟨left, holder, reason, holds, dirty, refused, rfl, stored⟩ :=
              writeBack_of_error saved
            obtain rfl := Option.some.inj (occupied.symm.trans holds)
            exact ⟨left, .inr ⟨reason, unpinned, dirty, rfl, refused, stored⟩⟩
      · rw [flushFrame_of_pinned occupied own pinned] at failed ⊢
        obtain rfl := Except.error.inj failed
        exact ⟨rfl, .inl ⟨pinned, rfl, rfl⟩⟩

/-- A page of the file that does not fail the flush was unpinned and is written back and removed. -/
theorem flushFrame_of_ok {occupant : Occupant}
    (occupied : (pool.frame number).occupant = some occupant) (own : occupant.key.file = file)
    (done : (pool.flushFrame storage file number).result = .ok ()) :
    occupant.pins = 0 ∧ (pool.writeBack storage number).result = .ok () ∧
      (pool.flushFrame storage file number).pool =
        (pool.writeBack storage number).pool.remove number occupant.key ∧
      (pool.flushFrame storage file number).storage = (pool.writeBack storage number).storage := by
  rcases Nat.eq_zero_or_pos occupant.pins with unpinned | pinned
  · rw [flushFrame_of_belongs occupied own unpinned] at done ⊢
    obtain ⟨_, saved, -⟩ := Outcome.exists_of_andThen done
    rw [Outcome.andThen_of_ok saved]
    exact ⟨unpinned, saved, rfl, rfl⟩
  · rw [flushFrame_of_pinned occupied own pinned] at done
    cases done

/-! ## One frame more -/

theorem unsavedOf_succ_of_not_belongs (other : (pool.frame count).belongs file = false) :
    pool.unsavedOf file (count + 1) = pool.unsavedOf file count := by
  rw [unsavedOf, unsaved_succ, List.filter_append]
  cases found : (pool.frame count).unsaved? with
  | none => exact List.append_nil _
  | some occupant =>
      obtain ⟨occupied, -⟩ := Frame.unsaved?_eq_some_iff.mp found
      rw [Frame.belongs, occupied, Option.any_some] at other
      simp only [Option.toList_some, List.filter_cons, other, List.filter_nil]
      exact List.append_nil _

theorem unsavedOf_succ_of_belongs (own : (pool.frame count).belongs file = true) :
    pool.unsavedOf file (count + 1) =
      pool.unsavedOf file count ++ (pool.frame count).unsaved?.toList := by
  rw [unsavedOf, unsaved_succ, List.filter_append]
  cases found : (pool.frame count).unsaved? with
  | none => rfl
  | some occupant =>
      obtain ⟨occupied, -⟩ := Frame.unsaved?_eq_some_iff.mp found
      rw [Frame.belongs, occupied, Option.any_some] at own
      simp only [Option.toList_some, List.filter_cons, own, List.filter_nil]
      rfl

/-- Two pools differ in no more than their tables and counters. -/
theorem rest_of_eq {stats : Stats} (config : after.config = pool.config)
    (clock : after.clock = pool.clock) (counted : after.stats = stats) :
    after = { pool with frames := after.frames, directory := after.directory, stats } := by
  subst counted
  rw [← config, ← clock]

/-- A frame without a page of the file makes no difference to which of them are still listed. -/
theorem filter_find?_succ {key : PageKey}
    (elsewhere : key.file = file → pool.find? key ≠ some count) :
    (pool.find? key).filter (fun number => key.file ≠ file ∨ count ≤ number) =
      (pool.find? key).filter fun number => key.file ≠ file ∨ count + 1 ≤ number := by
  cases resident : pool.find? key with
  | none => rfl
  | some number =>
      have passed : key.file ≠ file ∨ count ≤ number ↔ key.file ≠ file ∨ count + 1 ≤ number := by
        refine or_congr_right' fun own => ?_
        have different : number ≠ count := by
          rintro rfl
          exact elsewhere (not_not.mp own) resident
        omega
      simp only [Option.filter_some, passed]

namespace FlushedBelow

theorem start (pool : Pool) (storage : Storage) (file : FileIdentity) :
    pool.FlushedBelow storage file 0 pool storage where
  size := rfl
  frames := fun number => (if_neg fun inside => Nat.not_lt_zero number inside.1).symm
  find? := by
    intro key
    cases pool.find? key with
    | none => rfl
    | some number => exact (if_pos (decide_eq_true (.inr (Nat.zero_le number)))).symm
  unpinned := by simp
  rest := rfl
  takes := .start

/-- The frame that comes next is as it was. -/
theorem frame_eq (flushed : pool.FlushedBelow storage file count after later) :
    after.frame count = pool.frame count :=
  (flushed.frames count).trans (if_neg fun inside => Nat.lt_irrefl count inside.1)

/-- One more frame does not hold a page of the file. -/
theorem skip (flushed : pool.FlushedBelow storage file count after later)
    (sound : pool.Sound storage) (other : (pool.frame count).belongs file = false) :
    pool.FlushedBelow storage file (count + 1) after later := by
  have same : ∀ number, (pool.frame number).belongs file = true →
      (number < count ↔ number < count + 1) := by
    intro number own
    have different : number ≠ count := by
      rintro rfl
      exact Bool.false_ne_true (other.symm.trans own)
    omega
  obtain ⟨size, frames, find?, unpinned, rest, takes⟩ := flushed
  refine ⟨size, fun number => ?_, fun key => ?_, fun number inside => ?_, ?_, ?_⟩
  · rw [frames]
    exact if_congr (and_congr_left fun own => same number own) rfl rfl
  · rw [find?]
    refine filter_find?_succ fun own resident => ?_
    obtain ⟨occupant, occupied, rfl⟩ := sound.occupied_of_find? resident
    have belongs := Frame.belongs_iff.mpr ⟨occupant, occupied, own⟩
    exact Bool.false_ne_true (other.symm.trans belongs)
  · intro occupant occupied own
    have belongs := Frame.belongs_iff.mpr ⟨occupant, occupied, own⟩
    exact unpinned number ((same number belongs).mpr inside) occupant occupied own
  · rwa [unsavedOf_succ_of_not_belongs other]
  · rwa [unsavedOf_succ_of_not_belongs other]

/-- One more page of the file is written back, if it was changed, and leaves. -/
theorem take (flushed : pool.FlushedBelow storage file count after later)
    (sound : pool.Sound storage) {occupant : Occupant}
    (occupied : (pool.frame count).occupant = some occupant) (own : occupant.key.file = file)
    (unpinned : occupant.pins = 0) (saved : (after.writeBack later count).result = .ok ()) :
    pool.FlushedBelow storage file (count + 1)
      ((after.writeBack later count).pool.remove count occupant.key)
      (after.writeBack later count).storage where
  size := (size_remove ..).trans ((size_writeBack ..).trans flushed.size)
  frames := by
    intro number
    have belongs := Frame.belongs_iff.mpr ⟨occupant, occupied, own⟩
    have inside : count < (after.writeBack later count).pool.size := by
      rw [size_writeBack, flushed.size]
      exact lt_size_of_occupied occupied
    have frame : ((after.writeBack later count).pool.remove count occupant.key).frame number =
        if count = number then ((after.writeBack later count).pool.frame count).clear
        else (after.writeBack later count).pool.frame number := frame_setFrame inside _ number
    rw [frame]
    split
    · next same =>
      subst same
      rw [frame_writeBack saved, if_pos rfl, if_pos ⟨Nat.lt_succ_self count, belongs⟩,
        flushed.frame_eq]
      rfl
    · next different =>
      rw [frame_writeBack saved, if_neg different, flushed.frames]
      refine if_congr (and_congr_left fun _ => ?_) rfl rfl
      omega
  find? := by
    intro key
    rw [find?_remove, find?_writeBack, flushed.find?]
    split
    · next same =>
      subst same
      rw [sound.find?_of_occupied occupied, Option.filter_some, if_neg]
      simp [own]
    · next different =>
      refine filter_find?_succ fun _ resident => ?_
      obtain ⟨holder, holds, rfl⟩ := sound.occupied_of_find? resident
      exact different (congrArg Occupant.key (Option.some.inj (occupied.symm.trans holds)))
  unpinned := by
    intro number inside holder holds mine
    rcases Nat.lt_succ_iff_lt_or_eq.mp inside with before | rfl
    · exact flushed.unpinned number before holder holds mine
    · obtain rfl := Option.some.inj (occupied.symm.trans holds)
      exact unpinned
  rest := by
    have kept := congrArg Pool.config (rest_writeBack saved)
    have config := congrArg Pool.config flushed.rest
    have clock := congrArg Pool.clock flushed.rest
    have stats := congrArg Pool.stats (rest_writeBack saved)
    rw [flushed.frame_eq, congrArg Pool.stats flushed.rest] at stats
    refine rest_of_eq (kept.trans config) ((clock_writeBack ..).trans clock) ?_
    rw [unsavedOf_succ_of_belongs (Frame.belongs_iff.mpr ⟨occupant, occupied, own⟩),
      List.length_append, ← Nat.add_assoc]
    exact stats
  takes := by
    rw [unsavedOf_succ_of_belongs (Frame.belongs_iff.mpr ⟨occupant, occupied, own⟩),
      ← flushed.frame_eq]
    exact takes_writeBack saved flushed.takes

/-- One more frame is dealt with. -/
theorem next (flushed : pool.FlushedBelow storage file count after later)
    (sound : pool.Sound storage) (done : (after.flushFrame later file count).result = .ok ()) :
    pool.FlushedBelow storage file (count + 1) (after.flushFrame later file count).pool
      (after.flushFrame later file count).storage := by
  have same := flushed.frame_eq
  cases belongs : (pool.frame count).belongs file with
  | false =>
      rw [flushFrame_of_not_belongs (same ▸ belongs)]
      exact flushed.skip sound belongs
  | true =>
      obtain ⟨occupant, occupied, own⟩ := Frame.belongs_iff.mp belongs
      obtain ⟨unpinned, saved, left, stored⟩ := flushFrame_of_ok (same ▸ occupied) own done
      rw [left, stored]
      exact flushed.take sound occupied own unpinned saved

end FlushedBelow

/-! ## All frames -/

/-- A flush either deals with all frames or stops at one of them. -/
theorem Sound.walked_flush (sound : pool.Sound storage) (file : FileIdentity) :
    Outcome.Walked (fun number pool storage => pool.flushFrame storage file number)
      (pool.FlushedBelow storage file) pool.size (pool.flush storage file) := by
  have walked : Outcome.Walked (fun number pool storage => pool.flushFrame storage file number)
      (pool.FlushedBelow storage file) pool.size
      (pool.flushEach storage file (List.range pool.size)) := by
    rw [flushEach_eq_each]
    exact Outcome.walked_each (fun _ _ _ flushed done => flushed.next sound done) pool.size
      (.start pool storage file)
  cases walked with
  | through done flushed =>
      rw [flush, Outcome.andThen_of_ok done]
      exact .through rfl flushed
  | stopped inside flushed failed result left stored =>
      rw [flush, Outcome.andThen_of_error result]
      exact .stopped inside flushed failed rfl left stored

theorem mem_unsavedOf {occupant : Occupant} : occupant ∈ pool.unsavedOf file count ↔
    occupant ∈ pool.unsaved count ∧ occupant.key.file = file := by
  simp [unsavedOf]

namespace FlushedBelow

variable {occupant : Occupant}

theorem nodup (sound : pool.Sound storage) (file : FileIdentity) (count : Nat) :
    ((pool.unsavedOf file count).map Occupant.key).Nodup :=
  (List.filter_sublist.map Occupant.key).nodup (sound.nodup_unsaved count)

/-- A page that was written can be read back from its file. -/
theorem data? (flushed : pool.FlushedBelow storage file count after later)
    (sound : pool.Sound storage) (member : occupant ∈ pool.unsavedOf file count) :
    later.data? occupant.key = some occupant.page.data := by
  have own : ∀ {other}, other ∈ pool.unsavedOf file count → other.key.file = file :=
    fun inside => (mem_unsavedOf.mp inside).2
  refine flushed.takes.data? (fun _ inside => ?_) (nodup sound file count) member ?_
  · exact sound.number_of_unsaved (mem_unsavedOf.mp inside).1
  · exact fun other inside => Storage.not_shares_of_file_eq ((own inside).trans (own member).symm)

end FlushedBelow

/-- A handle to a page in use is honoured wherever its frame is the same. -/
theorem Honours.of_frame {handle : Handle} {occupant : Occupant}
    (honours : pool.Honours storage handle occupant) (sound : after.Sound later)
    (same : after.frame handle.frame = pool.frame handle.frame) :
    after.Honours later handle occupant := by
  have accepted : pool.accepts handle = true := by
    rw [← isOk_page_iff, honours.page]
    rfl
  have names : handle.Names after := by
    refine ⟨?_, ?_⟩
    · rw [same]
      exact (accepts_iff.mp accepted).2
    · rw [same, Frame.key?_of_occupied honours.occupied, honours.key]
  have kept : after.accepts handle = true := by
    rw [accepts, same]
    exact accepted
  obtain ⟨holder, holds⟩ := sound.honours names kept
  have occupied := holds.occupied
  rw [same] at occupied
  obtain rfl := Option.some.inj (honours.occupied.symm.trans occupied)
  exact holds

/-! ## A flush that stops -/

/-- The write that failed, if there was one, spares the pages that were written before. -/
theorem FlushedBelow.data?_of_error (flushed : pool.FlushedBelow storage file number after later)
    (sound : pool.Sound storage) {cause : PoolError}
    (failed : (after.flushFrame later file number).result = .error cause) {holder : Occupant}
    (member : holder ∈ pool.unsavedOf file number) :
    (after.flushFrame later file number).storage.data? holder.key = some holder.page.data := by
  have data := flushed.data? sound member
  obtain ⟨unsaved, mine⟩ := mem_unsavedOf.mp member
  obtain ⟨lower, before, holds, -⟩ := mem_unsaved.mp unsaved
  obtain ⟨occupant, occupied, own, -, ⟨-, -, same⟩ | ⟨_, -, -, -, -, wrote⟩⟩ :=
    flushFrame_of_error failed
  · rw [same, data]
  · rw [wrote]
    exact sound.data?_write holds (flushed.frame_eq ▸ occupied) before.ne
      (Storage.not_shares_of_file_eq (own.trans mine.symm)) data

section Stopped

variable {outcome : Outcome Unit} {cause : PoolError}
  (flushed : pool.FlushedBelow storage file number after later) (sound : pool.Sound storage)
  (inside : number < pool.size)
  (failed : (after.flushFrame later file number).result = .error cause)
  (left : outcome.pool = (after.flushFrame later file number).pool)
  (stored : outcome.storage = (after.flushFrame later file number).storage)
  (reached : outcome.pool.Sound outcome.storage)

include flushed sound inside failed left stored reached

/-- What a walk that stopped leaves behind. -/
theorem FlushedBelow.stopsAt : pool.StopsAt storage file number cause outcome := by
  obtain ⟨occupant, occupied, own, kept, reason⟩ := flushFrame_of_error failed
  rw [flushed.frame_eq] at occupied
  rw [kept] at left
  have journal : later.calls.toList =
      storage.calls.toList ++ (pool.unsavedOf file number).map Occupant.saving :=
    flushed.takes.calls
  have others : ∀ other, number ≤ other ∨ (pool.frame other).belongs file = false →
      outcome.pool.frame other = pool.frame other := by
    intro other spare
    rw [left, flushed.frames, if_neg]
    rintro ⟨before, belongs⟩
    rcases spare with past | foreign
    · omega
    · exact Bool.false_ne_true (foreign.symm.trans belongs)
  refine ⟨inside, ⟨occupant, occupied, own, ?_⟩, ?_, others, ?_, ?_, ?_⟩
  · rcases reason with ⟨pinned, rfl, same⟩ | ⟨refusal, unpinned, dirty, rfl, refused, wrote⟩
    · exact .inl ⟨pinned, rfl, by rw [stored, same, journal]⟩
    · refine .inr ⟨refusal, unpinned, dirty, rfl, ?_⟩
      rw [stored, wrote, Storage.calls_write, Array.toList_push, refused, journal, own]
      rfl
  · intro lower before holder holds mine
    have belongs := Frame.belongs_iff.mpr ⟨holder, holds, mine⟩
    refine ⟨flushed.unpinned lower before holder holds mine, ?_, ?_, fun dirty => ?_⟩
    · rw [left, flushed.frames, if_pos ⟨before, belongs⟩]
    · rw [left, flushed.find?, sound.find?_of_occupied holds, Option.filter_some, if_neg]
      simp [mine, before]
    · have member := mem_unsaved.mpr ⟨lower, before, holds, dirty⟩
      rw [stored]
      exact flushed.data?_of_error sound failed (mem_unsavedOf.mpr ⟨member, mine⟩)
  · intro key
    rw [left, flushed.find?]
  · rw [left]
    exact flushed.rest
  · intro handle holder honours
    refine honours.of_frame reached (others handle.frame ?_)
    by_contra spare
    obtain ⟨before, belongs⟩ := not_or.mp spare
    obtain ⟨owner, holds, own⟩ := Frame.belongs_iff.mp (Bool.eq_true_of_not_eq_false belongs)
    obtain rfl := Option.some.inj (honours.occupied.symm.trans holds)
    exact honours.pinned.ne'
      (flushed.unpinned handle.frame (Nat.lt_of_not_le before) holder holds own)

end Stopped

/-- A flush stops cleanly in a sound pool. -/
theorem Sound.stopsCleanly (sound : pool.Sound storage) (file : FileIdentity) :
    pool.StopsCleanly storage file (pool.flush storage file) := by
  have reached : (pool.flush storage file).pool.Sound (pool.flush storage file).storage :=
    sound.act (.flush file)
  have stops : ∀ cause, (pool.flush storage file).result = .error cause →
      ∃ number, pool.StopsAt storage file number cause (pool.flush storage file) := by
    intro cause failed
    cases sound.walked_flush file with
    | through done => cases done.symm.trans failed
    | @stopped number reason after later inside flushed failedAt result left stored =>
        obtain rfl := Except.error.inj (result.symm.trans failed)
        exact ⟨number, flushed.stopsAt sound inside failedAt left stored reached⟩
  refine ⟨stops, fun succeeded => ⟨?_, ?_⟩⟩
  · rintro ⟨cause, failed⟩
    obtain ⟨number, stopped⟩ := stops cause failed
    obtain ⟨occupant, occupied, own, ⟨pinned, -⟩ | ⟨_, -, -, -, journal⟩⟩ := stopped.reason
    · exact ⟨number, occupant, occupied, own, pinned⟩
    · rw [List.append_assoc] at journal
      cases succeeded _ journal _ (List.mem_append_right _ (List.mem_singleton_self _))
  · rintro ⟨number, occupant, occupied, own, pinned⟩
    cases sound.walked_flush file with
    | stopped inside flushed failed result => exact ⟨_, result⟩
    | through done flushed =>
        have inside := lt_size_of_occupied occupied
        exact absurd (flushed.unpinned number inside occupant occupied own) pinned.ne'

end Pool

namespace Course

variable {config : Config} {new : Pool} {base : Storage} {issued : List Handle} {world : World}

/-- At every point of a course a flush that fails stops at a page of the file that is in use or
that its file does not take; the pages of the file in the frames before have left, with their bytes
in the file, and everything else is as it was. -/
theorem flush_stops_cleanly (made : Pool.ofConfig config = .ok new)
    (course : Course (new, base) issued world) (file : FileIdentity) :
    world.1.StopsCleanly world.2 file (world.1.flush world.2 file) :=
  (course.sound (Pool.sound_ofConfig made base)).stopsCleanly file

/-- Three frames with two pages of one file, the second of them in use, and between them a changed
page of another file. -/
theorem flush_stops_cleanly_at_page_in_use :
    ∃ world : World,
      world = ((Pool.empty ⟨3, true⟩).carryOut
        ((Storage.withSeeded 2).add (.memory (.seeded "other" 1))).2
        [.fetch ⟨⟨1⟩, 0⟩, .fetch ⟨⟨2⟩, 0⟩, .fetch ⟨⟨1⟩, 1⟩, .releasePage ⟨⟨1⟩, 0⟩ true,
          .releasePage ⟨⟨2⟩, 0⟩ true]).2 ∧
      world.1.StopsCleanly world.2 ⟨1⟩ (world.1.flush world.2 ⟨1⟩) ∧
      (world.1.flush world.2 ⟨1⟩).result = .error (.stillPinned ⟨⟨1⟩, 1⟩ 2) ∧
      ((world.1.flush world.2 ⟨1⟩).pool.frame 0).valid = false ∧
      ((world.1.flush world.2 ⟨1⟩).pool.frame 1).dirty = true ∧
      ((world.1.flush world.2 ⟨1⟩).pool.frame 2).pins = 1 := by
  have made : Pool.ofConfig ⟨3, true⟩ = .ok (.empty ⟨3, true⟩) := rfl
  generalize reached : (Pool.empty ⟨3, true⟩).carryOut
    ((Storage.withSeeded 2).add (.memory (.seeded "other" 1))).2
    [.fetch ⟨⟨1⟩, 0⟩, .fetch ⟨⟨2⟩, 0⟩, .fetch ⟨⟨1⟩, 1⟩, .releasePage ⟨⟨1⟩, 0⟩ true,
      .releasePage ⟨⟨2⟩, 0⟩ true] = used
  have course : Course (.empty ⟨3, true⟩,
      ((Storage.withSeeded 2).add (.memory (.seeded "other" 1))).2) ([] ++ used.1) used.2 := by
    rw [← reached]
    exact Course.start.carryOut _
  refine ⟨used.2, rfl, flush_stops_cleanly made course ⟨1⟩, ?_, ?_, ?_, ?_⟩
  all_goals
    subst reached
    decide +kernel

end Course

end PageCache
