import Mathlib.Logic.Relation
import PageCache.Pool.Pinning
import PageCache.Pool.Removal

/-!
# Upkeep

A pool makes room and writes pages back by a few elementary steps. None of them changes a byte of a
page in a frame, none touches a pin, and a page leaves its frame only when it is unpinned and its
file has its bytes. Main statements: the sweep of the clock, a write-back, an eviction, the claim of
a frame and a flush are nothing but such steps, also where they fail.
-/

namespace PageCache

/-- A pool together with the storage below it. -/
abbrev World := Pool × Storage

/-- One elementary step of a pool at its own work. -/
inductive Upkeep : World → World → Prop
  /-- The hand or the counters move. -/
  | tally {pool : Pool} {storage : Storage} (clock : Clock) (stats : Stats)
      (face : clock.frames = pool.clock.frames) :
      Upkeep (pool, storage) ({ pool with clock, stats }, storage)
  /-- A page loses the mark of a recent use. -/
  | unmark {pool : Pool} {storage : Storage} (number : Nat) :
      Upkeep (pool, storage) (pool.updateFrame number Occupant.unmarked, storage)
  /-- A file takes the bytes of a dirty page. -/
  | clean {pool : Pool} {storage : Storage} {number : Nat} {occupant : Occupant}
      (occupied : (pool.frame number).occupant = some occupant) (dirty : occupant.dirty = true)
      (taken : (storage.write occupant.key.file occupant.page).1 = .ok ()) :
      Upkeep (pool, storage)
        (pool.updateFrame number Occupant.cleaned,
          (storage.write occupant.key.file occupant.page).2)
  /-- A file does not take the bytes of a dirty page, which stays dirty. -/
  | refuse {pool : Pool} {storage : Storage} {number : Nat} {occupant : Occupant}
      {cause : BackingError} (occupied : (pool.frame number).occupant = some occupant)
      (dirty : occupant.dirty = true)
      (refused : (storage.write occupant.key.file occupant.page).1 = .error cause) :
      Upkeep (pool, storage) (pool, (storage.write occupant.key.file occupant.page).2)
  /-- A clean page without pins leaves its frame. -/
  | vacate {pool : Pool} {storage : Storage} {number : Nat} {occupant : Occupant}
      (occupied : (pool.frame number).occupant = some occupant) (unpinned : occupant.pins = 0)
      (clean : occupant.dirty = false) :
      Upkeep (pool, storage) (pool.remove number occupant.key, storage)
  /-- A free frame is cleared once more. -/
  | renew {pool : Pool} {storage : Storage} {number : Nat}
      (free : (pool.frame number).occupant = none) :
      Upkeep (pool, storage) (pool.clearFrame number, storage)

/-- Any number of elementary steps. -/
abbrev Upkeeps : World → World → Prop := Relation.ReflTransGen Upkeep

/-! ## The sweep -/

/-- The pool with the hand and the frames of a sweep. -/
def Sweep.onto (sweep : Sweep) (pool : Pool) : Pool :=
  { pool with clock := sweep.clock, frames := sweep.frames }

/-- What a finding says of the pool that the sweep leaves behind. -/
def Finding.Holds (pool : Pool) : Finding → Prop
  | free number => number < pool.size ∧ (pool.frame number).occupant = none
  | victim number => ∃ occupant, (pool.frame number).occupant = some occupant ∧ occupant.pins = 0
  | exhausted => True

namespace Sweep

theorem upkeeps_step (sweep : Sweep) (pool : Pool) (storage : Storage) :
    Upkeeps (sweep.onto pool, storage) (sweep.step.2.onto pool, storage) := by
  have moved : Upkeep (sweep.onto pool, storage)
      ({ sweep with clock := sweep.clock.tick }.onto pool, storage) :=
    .tally sweep.clock.tick pool.stats rfl
  simp only [step]
  split
  · exact .single moved
  · exact .tail (.single moved) (.unmark sweep.clock.tick.hand)
  · exact .single moved
  · exact .single moved

theorem holds_step {sweep : Sweep} {pool : Pool} {finding : Finding}
    (face : sweep.clock.frames = sweep.frames.size) (positive : 0 < sweep.frames.size)
    (found : sweep.step.1 = some finding) : finding.Holds (sweep.step.2.onto pool) := by
  have inside : sweep.clock.tick.hand < sweep.frames.size := by
    rw [← face]
    exact Clock.hand_tick_lt (face ▸ positive)
  simp only [step] at found ⊢
  split at found
  · next claimed =>
    injection found with found
    subst found
    exact ⟨inside, Frame.occupant_of_claim claimed⟩
  · cases found
  · split at found
    · injection found with found
      subst found
      trivial
    · cases found
  · next evicted =>
    injection found with found
    subst found
    obtain ⟨occupant, occupied, -, unpinned⟩ := Frame.occupant_of_evict evicted
    exact ⟨occupant, occupied, unpinned⟩

theorem upkeeps_run (visits : Nat) (sweep : Sweep) (pool : Pool) (storage : Storage) :
    Upkeeps (sweep.onto pool, storage) ((run visits sweep).2.onto pool, storage) := by
  induction visits generalizing sweep with
  | zero => exact .refl
  | succ visits induction =>
      have visited := sweep.upkeeps_step pool storage
      simp only [run]
      split
      · next finding after equal => simpa only [equal] using visited
      · next after equal =>
        rw [equal] at visited
        exact visited.trans (induction after)

theorem holds_run (visits : Nat) {sweep : Sweep} {pool : Pool} {finding : Finding}
    (face : sweep.clock.frames = sweep.frames.size) (positive : 0 < sweep.frames.size)
    (found : (run visits sweep).1 = some finding) :
    finding.Holds ((run visits sweep).2.onto pool) := by
  induction visits generalizing sweep with
  | zero => cases found
  | succ visits induction =>
      have clock := clock_step sweep
      have size := size_frames_step sweep
      simp only [run] at found ⊢
      split at found
      · next first after equal =>
        obtain rfl := Option.some.inj found
        have holds : first.Holds (sweep.step.2.onto pool) :=
          holds_step face positive (congrArg Prod.fst equal)
        rwa [equal] at holds
      · next after equal =>
        rw [equal] at clock size
        have faceAfter : after.clock.frames = after.frames.size := by
          rw [clock, size]
          exact face
        exact induction faceAfter (size.symm ▸ positive) found

end Sweep

namespace Pool

theorem upkeeps_sweep (pool : Pool) (storage : Storage) :
    Upkeeps (pool, storage) (pool.sweep.2, storage) :=
  Sweep.upkeeps_run (2 * pool.size) ⟨pool.clock, pool.frames, 0⟩ pool storage

theorem holds_sweep {pool : Pool} (face : pool.clock.frames = pool.size)
    (positive : 0 < pool.size) : pool.sweep.1.Holds pool.sweep.2 := by
  cases found : (Sweep.run (2 * pool.size) ⟨pool.clock, pool.frames, 0⟩).1 with
  | none => simp [sweep, found, Finding.Holds]
  | some finding =>
      have holds : finding.Holds pool.sweep.2 := Sweep.holds_run _ face positive found
      simpa [sweep, found] using holds

/-! ## Writing back and making room -/

theorem upkeeps_writeBack (pool : Pool) (storage : Storage) (number : Nat) :
    Upkeeps (pool, storage)
      ((pool.writeBack storage number).pool, (pool.writeBack storage number).storage) := by
  simp only [writeBack]
  split
  · exact .refl
  · next occupant occupied =>
    split
    · next dirty =>
      split
      · next taken => exact .tail (.single (.clean occupied dirty taken)) (.tally _ _ rfl)
      · next cause refused => exact .single (.refuse occupied dirty refused)
    · exact .refl

/-- A page that was written back is the page that it was, but clean. -/
theorem occupant_of_writeBack {pool : Pool} {storage : Storage} {number : Nat}
    {occupant : Occupant} (occupied : (pool.frame number).occupant = some occupant)
    (done : (pool.writeBack storage number).result = .ok ()) :
    ((pool.writeBack storage number).pool.frame number).occupant = some occupant.cleaned := by
  simp only [writeBack, occupied] at done ⊢
  split
  · next dirty =>
    simp only [dirty, if_true] at done
    split
    · exact (congrArg Frame.occupant ((frame_updateFrame ..).trans (if_pos rfl))).trans
        (by simp [occupied])
    · next cause refused =>
      simp only [refused] at done
      cases done
  · next clean =>
    have same : occupant.cleaned = occupant := by
      cases occupant
      simp_all [Occupant.cleaned]
    rw [same]
    exact occupied

theorem upkeeps_evict {pool : Pool} {storage : Storage} {number : Nat} {occupant : Occupant}
    (occupied : (pool.frame number).occupant = some occupant) (unpinned : occupant.pins = 0)
    (clean : occupant.dirty = false) :
    Upkeeps (pool, storage)
      ((pool.evict storage number).pool, (pool.evict storage number).storage) := by
  simp only [evict, Frame.key?, occupied]
  exact .tail (.single (.vacate occupied unpinned clean)) (.tally _ _ rfl)

theorem upkeeps_andThen {Value Next : Type} {world : World} {first : Outcome Value}
    {second : Value → Pool → Storage → Outcome Next}
    (early : Upkeeps world (first.pool, first.storage))
    (late : ∀ value, first.result = .ok value →
      Upkeeps (first.pool, first.storage)
        ((second value first.pool first.storage).pool,
          (second value first.pool first.storage).storage)) :
    Upkeeps world ((first.andThen second).pool, (first.andThen second).storage) := by
  cases result : first.result with
  | error cause =>
      rw [Outcome.andThen_of_error result]
      exact early
  | ok value =>
      rw [Outcome.andThen_of_ok result]
      exact early.trans (late value result)

theorem upkeeps_claim {pool : Pool} (storage : Storage) (face : pool.clock.frames = pool.size)
    (positive : 0 < pool.size) :
    Upkeeps (pool, storage) ((pool.claim storage).pool, (pool.claim storage).storage) := by
  have swept := pool.upkeeps_sweep storage
  have holds := holds_sweep face positive
  simp only [claim]
  split
  · next number found =>
    rw [found] at holds
    exact swept.tail (.renew holds.2)
  · next number found =>
    rw [found] at holds
    obtain ⟨occupant, occupied, unpinned⟩ := holds
    refine upkeeps_andThen (swept.trans (upkeeps_writeBack _ storage number)) ?_
    intro _ done
    exact upkeeps_evict (occupant_of_writeBack occupied done) unpinned rfl
  · exact swept

/-- A claimed frame is one of the frames, and it is free. -/
theorem free_of_claim {pool : Pool} {storage : Storage} {number : Nat}
    (face : pool.clock.frames = pool.size) (positive : 0 < pool.size)
    (claimed : (pool.claim storage).result = .ok number) :
    number < (pool.claim storage).pool.size ∧
      ((pool.claim storage).pool.frame number).occupant = none := by
  have holds := holds_sweep face positive
  simp only [claim] at claimed ⊢
  split at claimed
  · next free found =>
    obtain rfl := Except.ok.inj claimed
    simp only [found] at holds ⊢
    have cleared := (frame_setFrame holds.1 (pool.sweep.2.frame free).clear free).trans (if_pos rfl)
    exact ⟨Nat.lt_of_lt_of_eq holds.1 (size_setFrame ..).symm, congrArg Frame.occupant cleared⟩
  · next victim found =>
    simp only [found] at holds ⊢
    obtain ⟨occupant, occupied, unpinned⟩ := holds
    obtain ⟨_, done, evicted⟩ := Outcome.exists_of_andThen claimed
    have cleaned := occupant_of_writeBack occupied done
    have inside : victim < (pool.sweep.2.writeBack storage victim).pool.size := by
      refine Nat.lt_of_not_le fun past => ?_
      rw [frame_of_size_le past] at cleaned
      cases cleaned
    rw [Outcome.andThen_of_ok done]
    simp only [evict, Frame.key?, cleaned] at evicted ⊢
    obtain rfl := Except.ok.inj evicted
    have cleared := (frame_setFrame inside
      ((pool.sweep.2.writeBack storage victim).pool.frame victim).clear victim).trans (if_pos rfl)
    have kept := Nat.lt_of_lt_of_eq inside (size_remove _ victim occupant.key).symm
    exact ⟨kept, congrArg Frame.occupant cleared⟩
  · cases claimed

/-! ## Flushing -/

theorem upkeeps_flushFrame (pool : Pool) (storage : Storage) (file : FileIdentity) (number : Nat) :
    Upkeeps (pool, storage)
      ((pool.flushFrame storage file number).pool,
        (pool.flushFrame storage file number).storage) := by
  simp only [flushFrame]
  split
  · exact .refl
  · next occupant occupied =>
    split
    · exact .refl
    · split
      · exact .refl
      · next unpinned =>
        refine upkeeps_andThen (upkeeps_writeBack pool storage number) ?_
        intro _ done
        have cleaned := occupant_of_writeBack occupied done
        have removed := @Upkeep.vacate _ (pool.writeBack storage number).storage _ _ cleaned
          (Decidable.not_not.mp unpinned) rfl
        exact .single removed

theorem upkeeps_flushEach (file : FileIdentity) (numbers : List Nat) (pool : Pool)
    (storage : Storage) :
    Upkeeps (pool, storage)
      ((pool.flushEach storage file numbers).pool,
        (pool.flushEach storage file numbers).storage) := by
  induction numbers generalizing pool storage with
  | nil => exact .refl
  | cons number rest induction =>
      refine upkeeps_andThen (upkeeps_flushFrame pool storage file number) ?_
      intro _ _
      exact induction _ _

theorem upkeeps_flush (pool : Pool) (storage : Storage) (file : FileIdentity) :
    Upkeeps (pool, storage) ((pool.flush storage file).pool, (pool.flush storage file).storage) :=
  upkeeps_andThen (upkeeps_flushEach file _ pool storage) fun _ _ => .refl

theorem upkeeps_writeBackEach (numbers : List Nat) (pool : Pool) (storage : Storage) :
    Upkeeps (pool, storage)
      ((pool.writeBackEach storage numbers).pool, (pool.writeBackEach storage numbers).storage) :=
  writeBackEach_induction (fun after later => Upkeeps (pool, storage) (after, later))
    (fun after later number reached => reached.trans (upkeeps_writeBack after later number))
    numbers .refl

theorem upkeeps_writeBackAll (pool : Pool) (storage : Storage) :
    Upkeeps (pool, storage)
      ((pool.writeBackAll storage).pool, (pool.writeBackAll storage).storage) :=
  upkeeps_writeBackEach _ pool storage

theorem upkeeps_writeBackAnyway (numbers : List Nat) (pool : Pool) (storage : Storage) :
    Upkeeps (pool, storage)
      ((pool.writeBackAnyway storage numbers).pool,
        (pool.writeBackAnyway storage numbers).storage) := by
  induction numbers generalizing pool storage with
  | nil => exact .refl
  | cons number rest induction =>
      refine Outcome.regardless_induction
        (fun after later => Upkeeps (pool, storage) (after, later))
        (upkeeps_writeBack pool storage number) ?_
      intro after later reached
      exact reached.trans (induction after later)

theorem upkeeps_drop (pool : Pool) (storage : Storage) :
    Upkeeps (pool, storage) ((pool.drop storage).pool, (pool.drop storage).storage) := by
  simp only [drop]
  split
  · exact upkeeps_writeBackAnyway _ pool storage
  · exact .refl

end Pool

end PageCache
