import Mathlib.Data.List.Basic
import PageCache.Proofs.Pool.Selection
import PageCache.Proofs.Pool.Walk
import PageCache.Proofs.Storage.Layout
import PageCache.Proofs.Storage.Liveness

/-!
# The end of a pool

A pool that is dropped offers every changed page to its file, pinned or not, and goes on where a
file refuses one. Main statement: at every point of a course there is exactly one attempt for each
frame with a changed page, in the order of the frames; every attempt that fails is reported once;
every page whose file has taken it is in its file, unless two files in one place have it; and no
other stored page changes. A pool that was not made to write back when dropped touches no file.
-/

namespace PageCache

/-- An attempt to write back the page in a frame. -/
structure Attempt where
  /-- The frame. -/
  number : Nat
  /-- The page in it. -/
  occupant : Occupant
  /-- What the file of the page answered. -/
  answer : Except BackingError Unit

namespace Attempt

/-- The request that the attempt makes. -/
def call (attempt : Attempt) : Call :=
  ⟨attempt.occupant.key.file, .write attempt.occupant.page, attempt.answer.isOk⟩

/-- What is told of the attempt. -/
def event (attempt : Attempt) : Event :=
  match attempt.answer with
  | .ok () => .wroteBack attempt.occupant.key attempt.number
  | .error cause => .dropFailed attempt.number (.storage cause)

/-- Whether the file has refused the page. -/
def failed (attempt : Attempt) : Bool := !attempt.answer.isOk

end Attempt

/-- The attempts that are made one after the other, with what the files answer. -/
inductive Storage.Tries : Storage → List Attempt → Storage → Prop
  /-- There is nothing left to do. -/
  | done (storage : Storage) : Tries storage [] storage
  /-- A page is offered to its file, and the rest follows in any case. -/
  | next {storage after : Storage} {rest : List Attempt} (number : Nat) {occupant : Occupant}
      (tries : Tries (storage.write occupant.key.file occupant.page).2 rest after) :
      Tries storage
        (⟨number, occupant, (storage.write occupant.key.file occupant.page).1⟩ :: rest) after

/-- Every changed page of a pool was offered to its file, whatever the files answered. -/
structure Pool.SavesAnyway (pool : Pool) (storage : Storage) (attempts : List Attempt)
    (outcome : Outcome Unit) : Prop where
  /-- It does not fail. -/
  result : outcome.result = .ok ()
  /-- There is one attempt for each frame whose page was changed, in the order of the frames. -/
  numbers : attempts.map Attempt.number =
    (List.range pool.size).filter fun number => (pool.frame number).dirty
  /-- It is about the page in that frame, which bears its own number. -/
  occupied : ∀ attempt ∈ attempts,
    (pool.frame attempt.number).occupant = some attempt.occupant ∧
      attempt.occupant.page.number = attempt.occupant.key.page
  /-- No page is tried twice. -/
  distinct : (attempts.map fun attempt => attempt.occupant.key).Nodup
  /-- Nothing else is asked of any file. -/
  calls : outcome.storage.calls.toList = storage.calls.toList ++ attempts.map Attempt.call
  /-- Every attempt is told. -/
  events : outcome.events = attempts.map Attempt.event
  /-- A log that records errors keeps one error for each attempt that failed, any other log none. -/
  errors : ∀ threshold : Level,
    (threshold.keep outcome.events).filter (fun event => event.level = .error) =
      if threshold.records .error then (attempts.filter Attempt.failed).map Attempt.event else []
  /-- A page that its file has taken is in its file, unless another page that was tried has the same
  number in a file that lies in the same place. -/
  saved : ∀ attempt ∈ attempts, attempt.answer = .ok () →
    (∀ other ∈ attempts, other.occupant.key ≠ attempt.occupant.key →
      ¬ storage.Shares other.occupant.key attempt.occupant.key) →
    outcome.storage.data? attempt.occupant.key = some attempt.occupant.page.data
  /-- Every stored page that was not tried has the bytes that it had, unless a page that was tried
  has the same number in a file that lies in the same place. -/
  others : ∀ key data, (∀ attempt ∈ attempts, key ≠ attempt.occupant.key ∧
      ¬ storage.Shares attempt.occupant.key key) →
    storage.data? key = some data → outcome.storage.data? key = some data
  /-- The same pages are live. -/
  has : ∀ key, outcome.storage.has key = storage.has key
  /-- Files of which no page was tried are as they were. -/
  files : ∀ id, (∀ attempt ∈ attempts, attempt.occupant.key.file ≠ id) →
    outcome.storage.file id = storage.file id

/-! ## Attempts -/

namespace Storage.Tries

variable {before after : Storage} {attempts : List Attempt}

theorem eq_offer (tries : before.Tries attempts after) :
    after = before.offer (attempts.map Attempt.occupant) := by
  induction tries with
  | done => rfl
  | next number tries induction => exact induction

theorem calls (tries : before.Tries attempts after) :
    after.calls.toList = before.calls.toList ++ attempts.map Attempt.call := by
  induction tries with
  | done => exact (List.append_nil _).symm
  | next number tries induction =>
      rw [induction, calls_write, Array.toList_push, List.append_assoc]
      rfl

theorem has (tries : before.Tries attempts after) (key : PageKey) :
    after.has key = before.has key := by
  induction tries with
  | done => rfl
  | next number tries induction => rw [induction, has_write]

/-- Attempts of which none has failed are a run of writes. -/
theorem takes (tries : before.Tries attempts after)
    (taken : ∀ attempt ∈ attempts, attempt.answer = .ok ()) :
    before.Takes (attempts.map Attempt.occupant) after := by
  induction tries with
  | done => exact .start
  | next number tries induction =>
      obtain ⟨first, later⟩ := List.forall_mem_cons.mp taken
      exact (Takes.start.take first).append (induction later)

/-- A page that its file has taken is in its file, unless another attempt was about the same stored
page. -/
theorem data? (tries : before.Tries attempts after)
    (numbered : ∀ attempt ∈ attempts, attempt.occupant.page.number = attempt.occupant.key.page)
    (distinct : (attempts.map fun attempt => attempt.occupant.key).Nodup)
    {attempt : Attempt} (member : attempt ∈ attempts) (taken : attempt.answer = .ok ())
    (separate : ∀ other ∈ attempts, other.occupant.key ≠ attempt.occupant.key →
      ¬ before.Shares other.occupant.key attempt.occupant.key) :
    after.data? attempt.occupant.key = some attempt.occupant.page.data := by
  induction tries with
  | done => cases member
  | @next storage after rest number occupant tries induction =>
      obtain ⟨own, numberedLater⟩ := List.forall_mem_cons.mp numbered
      obtain ⟨new, distinctLater⟩ := List.nodup_cons.mp distinct
      obtain ⟨-, separateLater⟩ := List.forall_mem_cons.mp separate
      rcases List.mem_cons.mp member with rfl | later
      · have stored := data?_write_self taken
        rw [show occupant.page.number = occupant.key.page from own] at stored
        rw [tries.eq_offer]
        refine data?_offer_of_not_shares ?_ ?_ stored
        · exact List.forall_mem_map.mpr numberedLater
        · refine List.forall_mem_map.mpr fun other inside => ?_
          have different : other.occupant.key ≠ occupant.key := fun same =>
            new (List.mem_map.mpr ⟨other, inside, same⟩)
          exact ⟨different.symm, (shares_write ..).not.mpr (separateLater other inside different)⟩
      · apply induction numberedLater distinctLater later
        intro other inside different
        exact (shares_write ..).not.mpr (separateLater other inside different)

end Storage.Tries

namespace Attempt

theorem level_event (attempt : Attempt) :
    attempt.event.level = if attempt.failed then .error else .debug := by
  obtain ⟨number, occupant, answer⟩ := attempt
  cases answer <;> rfl

theorem answer_of_level {attempt : Attempt} (told : attempt.event.level ≠ .error) :
    attempt.answer = .ok () := by
  rw [level_event] at told
  cases answer : attempt.answer with
  | ok => rfl
  | error cause => simp [failed, answer, Except.isOk, Except.toBool] at told

/-- Of the attempts a log keeps those that failed as errors, if it records errors at all. -/
theorem errors_keep (threshold : Level) (attempts : List Attempt) :
    (threshold.keep (attempts.map event)).filter (fun event => event.level = .error) =
      if threshold.records .error then (attempts.filter failed).map event else [] := by
  have one : ∀ attempt : Attempt,
      (decide (attempt.event.level = .error) && threshold.records attempt.event.level) =
        (attempt.failed && threshold.records .error) := by
    intro attempt
    rw [level_event]
    cases attempt.failed <;> simp
  rw [Level.keep, List.filter_filter, List.filter_map]
  simp only [Function.comp_def, one]
  cases threshold.records .error <;> simp

end Attempt

/-! ## The loop over the frames -/

namespace Pool

variable {pool : Pool} {storage : Storage} {number : Nat} {occupant : Occupant}

/-- The changed pages in a list of frames were offered to their files. -/
structure Tried (pool : Pool) (storage : Storage) (frames : List Nat) (attempts : List Attempt)
    (outcome : Outcome Unit) : Prop where
  /-- The files were asked for nothing else. -/
  tries : storage.Tries attempts outcome.storage
  /-- There is one attempt for each frame whose page was changed. -/
  numbers : attempts.map Attempt.number = frames.filter fun number => (pool.frame number).dirty
  /-- It is about the page in that frame. -/
  unsaved : ∀ attempt ∈ attempts,
    (pool.frame attempt.number).unsaved? = some attempt.occupant
  /-- The loop does not fail. -/
  result : outcome.result = .ok ()
  /-- It tells of every attempt. -/
  events : outcome.events = attempts.map Attempt.event

/-- To write a page back changes only its own frame, and the loop goes on with what the file
left. -/
theorem regardless_writeBack (unsaved : (pool.frame number).unsaved? = some occupant)
    (storage : Storage) (second : Pool → Storage → Outcome Unit) :
    let written := storage.write occupant.key.file occupant.page
    let later := second (pool.writeBack storage number).pool written.2
    (pool.writeBack storage number).regardless (Event.dropFailed number) second =
      { later with events := Attempt.event ⟨number, occupant, written.1⟩ :: later.events } := by
  obtain ⟨occupied, dirty⟩ := Frame.unsaved?_eq_some_iff.mp unsaved
  simp only [writeBack, occupied, dirty, if_true]
  cases answer : (storage.write occupant.key.file occupant.page).1 <;>
    simp [Outcome.regardless, Outcome.done, Outcome.failed, Attempt.event]

/-- The frames of a pool in which a page elsewhere was written back are as they were. -/
theorem Tried.of_writeBack {frames : List Nat} {attempts : List Attempt} {later : Storage}
    {outcome : Outcome Unit} (elsewhere : number ∉ frames)
    (tried : (pool.writeBack storage number).pool.Tried later frames attempts outcome) :
    pool.Tried later frames attempts outcome := by
  have same : ∀ other ∈ frames,
      (pool.writeBack storage number).pool.frame other = pool.frame other := by
    intro other member
    apply frame_writeBack_of_ne
    rintro rfl
    exact elsewhere member
  have asked : ∀ attempt ∈ attempts, attempt.number ∈ frames := by
    intro attempt member
    have listed := List.mem_map_of_mem (f := Attempt.number) member
    rw [tried.numbers] at listed
    exact (List.mem_filter.mp listed).1
  refine { tried with numbers := ?_, unsaved := ?_ }
  · rw [tried.numbers]
    exact List.filter_congr fun other member => by rw [same other member]
  · intro attempt member
    rw [← same _ (asked attempt member)]
    exact tried.unsaved attempt member

/-- The loop tries each changed page once, whatever happened to those before it. -/
theorem exists_tried (pool : Pool) (storage : Storage) {frames : List Nat}
    (distinct : frames.Nodup) :
    ∃ attempts, pool.Tried storage frames attempts (pool.writeBackAnyway storage frames) := by
  induction frames generalizing pool storage with
  | nil => exact ⟨[], .done storage, rfl, by simp, rfl, rfl⟩
  | cons number rest induction =>
      obtain ⟨elsewhere, distinctLater⟩ := List.nodup_cons.mp distinct
      cases unsaved : (pool.frame number).unsaved? with
      | none =>
          have clean := Frame.unsaved?_eq_none_iff.mp unsaved
          have skipped : pool.writeBackAnyway storage (number :: rest) =
              pool.writeBackAnyway storage rest := by
            rw [writeBackAnyway, writeBack_of_not_dirty clean]
            rfl
          obtain ⟨attempts, tried⟩ := induction pool storage distinctLater
          rw [skipped]
          refine ⟨attempts, { tried with numbers := ?_ }⟩
          rw [tried.numbers, List.filter_cons, if_neg (Bool.eq_false_iff.mp clean)]
      | some occupant =>
          have dirty : (pool.frame number).dirty = true := by
            obtain ⟨occupied, dirty⟩ := Frame.unsaved?_eq_some_iff.mp unsaved
            simp [Frame.dirty, occupied, dirty]
          obtain ⟨attempts, tried⟩ := induction (pool.writeBack storage number).pool
            (storage.write occupant.key.file occupant.page).2 distinctLater
          have others := tried.of_writeBack elsewhere
          rw [writeBackAnyway, regardless_writeBack unsaved]
          refine ⟨_, .next number others.tries, ?_, ?_, others.result, ?_⟩
          · rw [List.map_cons, others.numbers, List.filter_cons, if_pos dirty]
          · exact List.forall_mem_cons.mpr ⟨unsaved, others.unsaved⟩
          · exact congrArg _ others.events

/-- The pages that are tried are those that have to be written back. -/
theorem Tried.occupants {count : Nat} {attempts : List Attempt} {outcome : Outcome Unit}
    (tried : pool.Tried storage (List.range count) attempts outcome) :
    attempts.map Attempt.occupant = pool.unsaved count := by
  calc attempts.map Attempt.occupant
    _ = attempts.filterMap fun attempt => (pool.frame attempt.number).unsaved? := by
        rw [← List.filterMap_eq_map]
        exact List.filterMap_congr fun attempt member => (tried.unsaved attempt member).symm
    _ = (attempts.map Attempt.number).filterMap fun number => (pool.frame number).unsaved? := by
        rw [List.filterMap_map]
        rfl
    _ = pool.unsaved count := by
        rw [tried.numbers, List.filterMap_filter, Pool.unsaved]
        refine List.filterMap_congr fun number _ => ?_
        split
        · rfl
        · next clean => exact (Frame.unsaved?_eq_none_iff.mpr (Bool.eq_false_iff.mpr clean)).symm

/-- A sound pool that is dropped, and was made to write back then, saves what it can. -/
theorem Sound.savesAnyway (sound : pool.Sound storage)
    (kept : pool.config.writeBackOnDrop = true) :
    ∃ attempts, pool.SavesAnyway storage attempts (pool.drop storage) := by
  obtain ⟨attempts, tried⟩ := exists_tried pool storage (List.nodup_range (n := pool.size))
  have ended : pool.drop storage = pool.writeBackAnyway storage (List.range pool.size) :=
    if_pos kept
  have occupied : ∀ attempt ∈ attempts,
      (pool.frame attempt.number).occupant = some attempt.occupant ∧
        attempt.occupant.page.number = attempt.occupant.key.page := by
    intro attempt member
    obtain ⟨held, -⟩ := Frame.unsaved?_eq_some_iff.mp (tried.unsaved attempt member)
    exact ⟨held, sound.numbered _ _ held⟩
  have numbered := fun attempt member => (occupied attempt member).2
  have distinct : (attempts.map fun attempt => attempt.occupant.key).Nodup := by
    have different := sound.nodup_unsaved pool.size
    rwa [← tried.occupants, List.map_map] at different
  rw [ended]
  refine ⟨attempts,
    { occupied, distinct
      result := tried.result
      numbers := tried.numbers
      calls := tried.tries.calls
      events := tried.events
      errors := fun threshold => ?_
      saved := fun attempt member taken separate =>
        tried.tries.data? numbered distinct member taken separate
      others := fun key data separate found => ?_
      has := tried.tries.has
      files := fun id separate => ?_ }⟩
  · rw [tried.events]
    exact Attempt.errors_keep threshold attempts
  · rw [tried.tries.eq_offer]
    exact Storage.data?_offer_of_not_shares (List.forall_mem_map.mpr numbered)
      (List.forall_mem_map.mpr separate) found
  · rw [tried.tries.eq_offer]
    exact Storage.file_offer_of_ne (List.forall_mem_map.mpr separate)

end Pool

/-! ## The settings of a pool -/

theorem Upkeeps.config_eq {before after : World} (upkeeps : Upkeeps before after) :
    after.1.config = before.1.config := by
  induction upkeeps with
  | refl => rfl
  | tail _ step induction => cases step <;> exact induction

theorem Effect.config_eq {action : Action} {before after : World}
    {result : Except PoolError (Option Handle)} (effect : Effect action before result after) :
    after.1.config = before.1.config := by
  induction effect with
  | handBack _ _ induction => exact induction
  | erase | drop =>
      simp only [Pool.forget]
      split <;> rfl
  | _ => rfl

namespace Course

variable {config : Config} {new pool : Pool} {base storage : Storage} {issued : List Handle}

/-- A pool keeps the settings with which it was made. -/
theorem config_eq {start world : World} (course : Course start issued world)
    (sound : start.1.Sound start.2) : world.1.config = start.1.config := by
  induction course with
  | start => rfl
  | @act _ pool storage course action induction =>
      have reached : pool.Sound storage := course.sound sound
      obtain ⟨middle, upkeeps, effect⟩ :=
        Pool.effect_act reached.face reached.positive storage action
      exact effect.config_eq.trans ((Upkeeps.config_eq upkeeps).trans induction)
  | elsewhere _ _ induction => exact induction

/-- A pool that was made to write back when it is dropped tries every changed page once, whatever
fails, and loses none but those that their files refuse; any other pool touches no file. -/
theorem drop_saves_what_it_can (made : Pool.ofConfig config = .ok new)
    (course : Course (new, base) issued (pool, storage)) :
    (config.writeBackOnDrop = true →
      ∃ attempts, pool.SavesAnyway storage attempts (pool.drop storage)) ∧
    (config.writeBackOnDrop = false → pool.drop storage = .done () pool storage []) := by
  have sound : new.Sound base := Pool.sound_ofConfig made base
  have settings : pool.config = config := by
    rw [course.config_eq sound, Pool.eq_empty_of_made made]
    rfl
  rw [← settings]
  constructor
  · exact (course.sound sound).savesAnyway
  · intro discarded
    exact if_neg (Bool.eq_false_iff.mp discarded)

/-- A page that its file has taken is lost if another file in the same place takes its own then. -/
theorem not_dropped_pages_kept_by_any_files :
    ¬ ∀ (config : Config) (new : Pool) (base : Storage) (issued : List Handle) (world : World)
        (number : Nat) (occupant : Occupant) (calls : List Call),
      Pool.ofConfig config = .ok new → config.writeBackOnDrop = true →
      Course (new, base) issued world →
      (world.1.frame number).occupant = some occupant → occupant.dirty = true →
      (world.1.drop world.2).storage.calls.toList = world.2.calls.toList ++ calls →
      occupant.saving ∈ calls →
      (world.1.drop world.2).storage.data? occupant.key = some occupant.page.data := by
  intro claim
  have made : Pool.ofConfig ⟨2, true⟩ = .ok (.empty ⟨2, true⟩) := rfl
  generalize reached : (Pool.empty ⟨2, true⟩).carryOut .openedTwice
    [.fetch ⟨⟨1⟩, 0⟩, .fetch ⟨⟨2⟩, 0⟩, .write ⟨0, 2, ⟨⟨1⟩, 0⟩⟩ (.filled 7),
      .write ⟨1, 2, ⟨⟨2⟩, 0⟩⟩ (.filled 9), .releasePage ⟨⟨1⟩, 0⟩ true,
      .releasePage ⟨⟨2⟩, 0⟩ true] = used
  have course : Course (.empty ⟨2, true⟩, .openedTwice) ([] ++ used.1) used.2 := by
    rw [← reached]
    exact Course.start.carryOut _
  let first : Occupant := ⟨⟨⟨1⟩, 0⟩, ⟨0, .filled 7⟩, true, true, 0⟩
  let second : Occupant := ⟨⟨⟨2⟩, 0⟩, ⟨0, .filled 9⟩, true, true, 0⟩
  have occupied : (used.2.1.frame 0).occupant = some first := by
    subst reached
    rfl
  have unsaved : used.2.1.unsaved used.2.1.size = [first] ++ [second] := by
    subst reached
    rfl
  have told : (used.2.1.drop used.2.2).events =
      [.wroteBack ⟨⟨1⟩, 0⟩ 0, .wroteBack ⟨⟨2⟩, 0⟩ 1] := by
    subst reached
    decide +kernel
  have books : used.2.2.file ⟨1⟩ = .disk Storage.onePageFile ∧
      used.2.2.file ⟨2⟩ = .disk Storage.onePageFile := by
    subst reached
    exact ⟨rfl, rfl⟩
  have ended : used.2.1.drop used.2.2 =
      used.2.1.writeBackAnyway used.2.2 (List.range used.2.1.size) := by
    subst reached
    rfl
  obtain ⟨attempts, tried⟩ :=
    Pool.exists_tried used.2.1 used.2.2 (List.nodup_range (n := used.2.1.size))
  rw [← ended] at tried
  have quiet : ∀ event ∈ attempts.map Attempt.event, event.level ≠ .error := by
    rw [← tried.events, told]
    decide
  have takes := tried.tries.takes fun attempt member =>
    Attempt.answer_of_level (quiet _ (List.mem_map_of_mem member))
  rw [tried.occupants, unsaved] at takes
  -- The second page was written last, and the first file shows its bytes.
  have last := takes.data?_last rfl
  have kept := claim _ _ _ _ _ 0 first _ made rfl course occupied rfl takes.calls
    List.mem_cons_self
  rw [takes.data?_eq_of_disk books.1 books.2 0, last, Option.some.injEq] at kept
  exact absurd (congrArg (·[0]) kept) (by decide)

/-- Three changed pages, the first of them in use. The second was deleted by others, so that its
write fails, and the third is written all the same. -/
theorem drop_saves_what_it_can_deleted_elsewhere :
    ∃ (used later : World) (attempts : List Attempt),
      used = ((Pool.empty ⟨3, true⟩).carryOut (.withSeeded 3)
        [.fetch ⟨⟨1⟩, 0⟩, .fetch ⟨⟨1⟩, 0⟩, .fetch ⟨⟨1⟩, 1⟩, .fetch ⟨⟨1⟩, 2⟩,
          .write ⟨0, 2, ⟨⟨1⟩, 0⟩⟩ (.filled 7), .releasePage ⟨⟨1⟩, 0⟩ true,
          .releasePage ⟨⟨1⟩, 1⟩ true, .releasePage ⟨⟨1⟩, 2⟩ true]).2 ∧
      later = (used.1, (used.2.delete ⟨1⟩ 1).2) ∧
      (later.1.frame 0).pins = 1 ∧
      later.1.SavesAnyway later.2 attempts (later.1.drop later.2) ∧
      attempts.map Attempt.number = [0, 1, 2] ∧
      (later.1.drop later.2).events =
        [.wroteBack ⟨⟨1⟩, 0⟩ 0, .dropFailed 1 (.storage (.pageNotFound ⟨⟨1⟩, 1⟩)),
          .wroteBack ⟨⟨1⟩, 2⟩ 2] := by
  have made : Pool.ofConfig ⟨3, true⟩ = .ok (.empty ⟨3, true⟩) := rfl
  generalize reached : (Pool.empty ⟨3, true⟩).carryOut (.withSeeded 3)
    [.fetch ⟨⟨1⟩, 0⟩, .fetch ⟨⟨1⟩, 0⟩, .fetch ⟨⟨1⟩, 1⟩, .fetch ⟨⟨1⟩, 2⟩,
      .write ⟨0, 2, ⟨⟨1⟩, 0⟩⟩ (.filled 7), .releasePage ⟨⟨1⟩, 0⟩ true,
      .releasePage ⟨⟨1⟩, 1⟩ true, .releasePage ⟨⟨1⟩, 2⟩ true] = used
  have course : Course (.empty ⟨3, true⟩, .withSeeded 3) ([] ++ used.1) used.2 := by
    rw [← reached]
    exact Course.start.carryOut _
  have deleted := Storage.precedes_of_eq (Storage.next_delete used.2.2 ⟨1⟩ 1)
  obtain ⟨attempts, saves⟩ := (drop_saves_what_it_can made (course.elsewhere deleted)).1 rfl
  refine ⟨used.2, _, attempts, rfl, rfl, ?_, saves, saves.numbers.trans ?_, ?_⟩
  all_goals
    subst reached
    decide +kernel

end Course

end PageCache
