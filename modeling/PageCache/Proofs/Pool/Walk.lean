import PageCache.Proofs.Pool.Exhaustion
import PageCache.Proofs.Storage.Writing

/-!
# Walks over the frames

A flush, and writing all pages back, go through the frames in their order and stop at the first
failure. Main statement: what holds before the first frame and is carried from one frame to the next
holds where the walk ends, whether that is after the last frame or before one that failed.
-/

namespace PageCache

namespace Outcome

/-- Does one thing with each frame of a list, up to the first failure. -/
def each (step : Nat → Pool → Storage → Outcome Unit) (pool : Pool) (storage : Storage) :
    List Nat → Outcome Unit
  | [] => .done () pool storage []
  | number :: rest =>
    (step number pool storage).andThen fun _ pool storage => each step pool storage rest

/-- How a walk over the first frames ends, where `Reached` tells what can be so when it comes to a
frame. -/
inductive Walked (step : Nat → Pool → Storage → Outcome Unit)
    (Reached : Nat → Pool → Storage → Prop) (count : Nat) (outcome : Outcome Unit) : Prop
  /-- The walk went through all of them. -/
  | through (done : outcome.result = .ok ()) (reached : Reached count outcome.pool outcome.storage)
  /-- The walk stopped at one that failed. -/
  | stopped {number : Nat} {cause : PoolError} {pool : Pool} {storage : Storage}
      (inside : number < count) (reached : Reached number pool storage)
      (failed : (step number pool storage).result = .error cause)
      (result : outcome.result = .error cause)
      (left : outcome.pool = (step number pool storage).pool)
      (stored : outcome.storage = (step number pool storage).storage)

variable {step : Nat → Pool → Storage → Outcome Unit} {Reached : Nat → Pool → Storage → Prop}

theorem walked_eachFrom
    (advance : ∀ number pool storage, Reached number pool storage →
      (step number pool storage).result = .ok () →
        Reached (number + 1) (step number pool storage).pool (step number pool storage).storage)
    (count : Nat) {first : Nat} {pool : Pool} {storage : Storage}
    (base : Reached first pool storage) :
    Walked step Reached (first + count) (each step pool storage (List.range' first count)) := by
  induction count generalizing first pool storage with
  | zero => exact .through rfl base
  | succ count induction =>
      rw [List.range'_succ, each]
      cases here : (step first pool storage).result with
      | error cause =>
          rw [andThen_of_error here]
          exact .stopped (Nat.lt_add_of_pos_right (Nat.succ_pos count)) base here rfl rfl rfl
      | ok value =>
          rw [andThen_of_ok here, ← Nat.add_assoc, Nat.add_right_comm]
          -- The events are not among the things that the end of a walk is about.
          cases induction (advance first pool storage base here) with
          | through done reached => exact .through done reached
          | stopped inside reached failed result left stored =>
              exact .stopped inside reached failed result left stored

/-- What holds at the start and is carried from frame to frame holds where a walk ends. -/
theorem walked_each
    (advance : ∀ number pool storage, Reached number pool storage →
      (step number pool storage).result = .ok () →
        Reached (number + 1) (step number pool storage).pool (step number pool storage).storage)
    (count : Nat) {pool : Pool} {storage : Storage} (base : Reached 0 pool storage) :
    Walked step Reached count (each step pool storage (List.range count)) := by
  have walked := walked_eachFrom advance count base
  rwa [Nat.zero_add, ← List.range_eq_range'] at walked

end Outcome

/-! ## Pages that have to be written back -/

/-- The page in the frame, if there is one that has to be written back. -/
def Frame.unsaved? (frame : Frame) : Option Occupant := frame.occupant.filter (·.dirty)

theorem Frame.unsaved?_eq_some_iff {frame : Frame} {occupant : Occupant} :
    frame.unsaved? = some occupant ↔ frame.occupant = some occupant ∧ occupant.dirty = true := by
  rw [unsaved?, Option.filter_eq_some_iff]

theorem Frame.unsaved?_eq_none_iff {frame : Frame} :
    frame.unsaved? = none ↔ frame.dirty = false := by
  cases occupied : frame.occupant <;> simp [unsaved?, dirty, occupied, Option.filter]

/-- To clean a frame whose page is clean does nothing. -/
theorem Frame.update_cleaned_eq_self {frame : Frame} (saved : frame.unsaved? = none) :
    frame.update Occupant.cleaned = frame := by
  obtain ⟨generation, occupant⟩ := frame
  cases occupant with
  | none => rfl
  | some occupant =>
      have clean : occupant.dirty = false := unsaved?_eq_none_iff.mp saved
      simp only [update, Option.map_some, Occupant.cleaned, ← clean]

namespace Pool

variable {pool : Pool} {storage : Storage} {number count : Nat}

/-- The pages in the first frames that have to be written back, in the order of the frames. -/
def unsaved (pool : Pool) (count : Nat) : List Occupant :=
  (List.range count).filterMap fun number => (pool.frame number).unsaved?

theorem unsaved_succ (pool : Pool) (count : Nat) :
    pool.unsaved (count + 1) = pool.unsaved count ++ (pool.frame count).unsaved?.toList := by
  rw [unsaved, List.range_succ, List.filterMap_append]
  cases last : (pool.frame count).unsaved? <;> simp [unsaved, last]

theorem mem_unsaved {occupant : Occupant} : occupant ∈ pool.unsaved count ↔
    ∃ number < count, (pool.frame number).occupant = some occupant ∧ occupant.dirty = true := by
  simp [unsaved, Frame.unsaved?_eq_some_iff]

/-- No page is in two frames. -/
theorem Sound.nodup_unsaved (sound : pool.Sound storage) (count : Nat) :
    ((pool.unsaved count).map Occupant.key).Nodup := by
  rw [unsaved, List.nodup_iff_pairwise_ne, List.pairwise_map, List.pairwise_filterMap]
  refine List.nodup_range.imp fun {first second} different left leftHeld right rightHeld same => ?_
  have leftKey := Frame.key?_of_occupied (Frame.unsaved?_eq_some_iff.mp leftHeld).1
  have rightKey := Frame.key?_of_occupied (Frame.unsaved?_eq_some_iff.mp rightHeld).1
  exact different (sound.number_unique leftKey (same ▸ rightKey))

theorem Sound.number_of_unsaved (sound : pool.Sound storage) {occupant : Occupant}
    (member : occupant ∈ pool.unsaved count) : occupant.page.number = occupant.key.page := by
  obtain ⟨number, -, occupied, -⟩ := mem_unsaved.mp member
  exact sound.numbered number occupant occupied

/-- The write of the page in one frame keeps the bytes of the page in another, unless the two have
one number in files that lie in the same place. -/
theorem Sound.data?_write (sound : pool.Sound storage) {later : Storage} {other : Nat}
    {occupant writer : Occupant} {data : PageData}
    (occupied : (pool.frame number).occupant = some occupant)
    (holds : (pool.frame other).occupant = some writer) (different : number ≠ other)
    (separate : writer.key ≠ occupant.key → ¬ later.Shares writer.key occupant.key)
    (found : later.data? occupant.key = some data) :
    (later.write writer.key.file writer.page).2.data? occupant.key = some data := by
  have own : (⟨writer.key.file, writer.page.number⟩ : PageKey) = writer.key := by
    rw [sound.numbered other writer holds]
  have apart : writer.key ≠ occupant.key := fun same =>
    different (sound.number_unique (Frame.key?_of_occupied occupied)
      (same ▸ Frame.key?_of_occupied holds))
  exact Storage.data?_write_of_ne (own ▸ apart.symm) (own ▸ separate apart) found

/-! ## One page written back -/

section WriteBack

variable (done : (pool.writeBack storage number).result = .ok ())

include done

/-- A write-back that succeeds had nothing to do, or the file has taken the page. -/
theorem writeBack_cases :
    ((pool.frame number).unsaved? = none ∧
        pool.writeBack storage number = .done () pool storage []) ∨
      ∃ occupant, (pool.frame number).unsaved? = some occupant ∧
        (storage.write occupant.key.file occupant.page).1 = .ok () ∧
        (pool.writeBack storage number).pool =
          ((pool.updateFrame number Occupant.cleaned).count fun stats =>
            { stats with writeBacks := stats.writeBacks + 1 }) ∧
        (pool.writeBack storage number).storage =
          (storage.write occupant.key.file occupant.page).2 := by
  cases saved : (pool.frame number).unsaved? with
  | none =>
      exact .inl ⟨rfl, writeBack_of_not_dirty (Frame.unsaved?_eq_none_iff.mp saved) storage⟩
  | some occupant =>
      obtain ⟨occupied, dirty⟩ := Frame.unsaved?_eq_some_iff.mp saved
      refine .inr ⟨occupant, rfl, ?_⟩
      simp only [writeBack, occupied, dirty, if_true] at done ⊢
      split at done
      · next taken =>
        simp only [taken]
        exact ⟨trivial, rfl, rfl⟩
      · cases done

/-- A frame that was written back holds the page that it held, clean. -/
theorem frame_writeBack (other : Nat) :
    (pool.writeBack storage number).pool.frame other =
      if number = other then (pool.frame number).update Occupant.cleaned
      else pool.frame other := by
  rcases writeBack_cases done with ⟨saved, nothing⟩ | ⟨occupant, saved, taken, left, stored⟩
  · rw [nothing, Frame.update_cleaned_eq_self saved]
    split
    · next same => rw [same]; rfl
    · rfl
  · rw [left]
    exact pool.frame_updateFrame number Occupant.cleaned other

/-- A write-back changes frames and is counted, and nothing else in the pool changes. -/
theorem rest_writeBack :
    (pool.writeBack storage number).pool =
      { pool with
        frames := (pool.writeBack storage number).pool.frames
        stats := { pool.stats with
          writeBacks := pool.stats.writeBacks + (pool.frame number).unsaved?.toList.length } } := by
  rcases writeBack_cases done with ⟨saved, nothing⟩ | ⟨occupant, saved, taken, left, stored⟩
  · rw [nothing, saved]
    rfl
  · rw [left, saved]
    rfl

/-- A write-back that succeeds goes on with a run of writes. -/
theorem takes_writeBack {before : Storage} {saved : List Occupant}
    (takes : before.Takes saved storage) :
    before.Takes (saved ++ (pool.frame number).unsaved?.toList)
      (pool.writeBack storage number).storage := by
  rcases writeBack_cases done with ⟨clean, nothing⟩ | ⟨occupant, dirty, taken, left, stored⟩
  · rw [nothing, clean, Option.toList_none, List.append_nil]
    exact takes
  · rw [stored, dirty, Option.toList_some]
    exact takes.take taken

end WriteBack

end Pool

end PageCache
