import PageCache.Proofs.Pool.Handle
import PageCache.Proofs.Pool.History

/-!
# Pages that were disposed of

A page is gone if it is not resident and its file will not have it again: its number was given out,
and it is not live any more. Nothing that a pool does, and nothing that makes the files older,
brings a page back that is gone. Main statement: after a disposal that succeeds the page is gone for
good. It is never resident again, every fetch of it fails, its file is never asked to take its
bytes, its number is not given out again, and every handle to it is refused.
-/

namespace PageCache

/-- A page is not resident, and its file will not have it again. -/
def World.Gone (world : World) (key : PageKey) : Prop :=
  world.1.find? key = none ∧ world.2.Retired key

/-- From one storage to the other no file was asked to take the bytes of a page. -/
def Storage.Unwritten (key : PageKey) (before after : Storage) : Prop :=
  ∃ calls, after.calls.toList = before.calls.toList ++ calls ∧
    ∀ call ∈ calls, call.file = key.file → call.request.writes key.page = false

/-- What is true of a pool and a page that was disposed of. -/
structure Pool.DoneWith (pool : Pool) (storage : Storage) (key : PageKey) : Prop where
  /-- The page is not resident. -/
  absent : pool.find? key = none
  /-- It cannot be fetched. -/
  unread : ∃ cause, (pool.fetch storage key).result = .error cause
  /-- No action asks its file to take its bytes. -/
  unwritten : ∀ action, storage.Unwritten key (pool.act storage action).storage
  /-- Neither does the end of the pool. -/
  undropped : storage.Unwritten key (pool.drop storage).storage
  /-- No new page in the pool is this page. -/
  unallocated : ∀ handle, (pool.allocate storage key.file).result = .ok handle → handle.key ≠ key
  /-- No new page of its file has its number. -/
  unnumbered : ∀ page, (storage.allocate key.file).1 = .ok page → page.number ≠ key.page

namespace Storage.Unwritten

variable {key : PageKey} {first second third : Storage}

theorem refl (key : PageKey) (storage : Storage) : storage.Unwritten key storage :=
  ⟨[], (List.append_nil _).symm, by simp⟩

theorem trans (early : first.Unwritten key second) (late : second.Unwritten key third) :
    first.Unwritten key third := by
  obtain ⟨calls, journal, spared⟩ := early
  obtain ⟨more, journalLater, sparedLater⟩ := late
  refine ⟨calls ++ more, by rw [journalLater, journal, List.append_assoc], fun call made => ?_⟩
  rcases List.mem_append.mp made with before | after
  · exact spared call before
  · exact sparedLater call after

theorem of_push {call : Call} (journal : second.calls = first.calls.push call)
    (spared : call.file = key.file → call.request.writes key.page = false) :
    first.Unwritten key second := by
  refine ⟨[call], by rw [journal, Array.toList_push], fun made one => ?_⟩
  rw [List.mem_singleton.mp one]
  exact spared

end Storage.Unwritten

/-! ## Pages that are not resident -/

namespace Pool

theorem storage_dispose (pool : Pool) (storage : Storage) (key : PageKey) :
    (pool.dispose storage key).storage = (storage.delete key.file key.page).2 := by
  simp only [dispose]
  split <;> rfl

theorem result_dispose (pool : Pool) (storage : Storage) (key : PageKey) :
    (pool.dispose storage key).result =
      if storage.has key then .ok () else .error (.storage (.pageNotFound key)) := by
  cases live : storage.has key with
  | true => simp [dispose, storage.answer_delete, live, Outcome.done]
  | false => simp [dispose, storage.answer_delete, live, Outcome.failed]

theorem find?_forget_of_absent {pool : Pool} {key : PageKey} (absent : pool.find? key = none)
    (other : PageKey) : (pool.forget other).1.find? key = none := by
  simp only [forget]
  split
  · exact absent
  · rw [find?_remove]
    split
    · rfl
    · exact absent

end Pool

/-- Only the page to which an action gives a handle becomes resident. -/
theorem Effect.find?_eq_none {action : Action} {before after : World}
    {result : Except PoolError (Option Handle)} (effect : Effect action before result after)
    {key : PageKey} (absent : before.1.find? key = none)
    (other : ∀ handle, result = .ok (some handle) → handle.key ≠ key) :
    after.1.find? key = none := by
  induction effect with
  | hit | unpin | put => exact absent
  | load | create => exact (Pool.find?_install ..).trans ((if_neg (other _ rfl)).trans absent)
  | handBack _ _ induction => exact induction absent other
  | erase | drop => exact Pool.find?_forget_of_absent absent _
  | _ => exact absent

theorem Upkeep.unwritten {before after : World} (step : Upkeep before after)
    (sound : before.1.Sound before.2) {key : PageKey} (absent : before.1.find? key = none) :
    before.2.Unwritten key after.2 := by
  have spared : ∀ number occupant, (before.1.frame number).occupant = some occupant →
      occupant.key.file = key.file → occupant.page.number ≠ key.page := by
    intro number occupant occupied file page
    have own : occupant.key = key := by
      rw [sound.numbered number occupant occupied] at page
      cases key
      exact congrArg₂ PageKey.mk file page
    cases (own ▸ sound.find?_of_occupied occupied).symm.trans absent
  cases step with
  | clean occupied | refuse occupied =>
      apply Storage.Unwritten.of_push (Storage.calls_write ..)
      intro file
      exact decide_eq_false (spared _ _ occupied file)
  | _ => exact .refl _ _

/-- No upkeep asks a file to take the bytes of a page that is not resident. -/
theorem Upkeeps.unwritten {before after : World} (upkeeps : Upkeeps before after)
    (sound : before.1.Sound before.2) {key : PageKey} (absent : before.1.find? key = none) :
    before.2.Unwritten key after.2 := by
  induction upkeeps with
  | refl => exact .refl _ _
  | tail upkeeps step induction =>
      have reached := Upkeeps.sound upkeeps sound
      exact induction.trans (step.unwritten reached (Pool.find?_of_upkeeps upkeeps absent))

theorem Effect.unwritten {action : Action} {before after : World}
    {result : Except PoolError (Option Handle)} (effect : Effect action before result after)
    (key : PageKey) : before.2.Unwritten key after.2 := by
  induction effect with
  | load | unread => exact .of_push (Storage.calls_read ..) fun _ => rfl
  | create | uncreated => exact .of_push (Storage.calls_allocate ..) fun _ => rfl
  | erase | drop => exact .of_push (Storage.calls_delete ..) fun _ => rfl
  | handBack _ _ induction => exact induction
  | _ => exact .refl _ _

/-- The handle that a fetch gives is one to the page asked for. -/
theorem Effect.key_of_fetch {key : PageKey} {before after : World} {handle : Handle}
    (effect : Effect (.fetch key) before (.ok (some handle)) after) : handle.key = key := by
  cases effect with
  | hit => rfl
  | @load pool storage _ number page inside free absent given =>
      exact congrArg (PageKey.mk key.file) (Storage.number_of_read given).1

/-! ## Pages that are gone -/

namespace World.Gone

variable {key : PageKey} {pool : Pool} {storage : Storage}

theorem later (gone : World.Gone (pool, storage) key) {after : Storage}
    (ages : storage.Ages after) : World.Gone (pool, after) key :=
  ⟨gone.1, ages.retired gone.2⟩

theorem upkeeps {before after : World} (gone : before.Gone key) (upkeeps : Upkeeps before after) :
    after.Gone key :=
  ⟨Pool.find?_of_upkeeps upkeeps gone.1, (Upkeeps.ages upkeeps).retired gone.2⟩

/-- No handle is given to a page that is gone. -/
theorem ne_of_effect {action : Action} {before after : World} {handle : Handle}
    (gone : before.Gone key) (effect : Effect action before (.ok (some handle)) after) :
    handle.key ≠ key := by
  rintro rfl
  generalize equal : Except.ok (some handle) = result at effect
  induction effect with
  | hit resident =>
      obtain rfl := Option.some.inj (Except.ok.inj equal)
      cases resident.symm.trans gone.1
  | @load pool storage key number page inside free absent given =>
      obtain rfl := Option.some.inj (Except.ok.inj equal)
      have own : (⟨key.file, page.number⟩ : PageKey) = key :=
        congrArg (PageKey.mk key.file) (Storage.number_of_read given).1
      have dead := gone.2.2
      rw [show (pool.install number key.file page).1.key = key from own,
        Storage.has_of_read given] at dead
      cases dead
  | @create pool storage file number page inside free given =>
      obtain rfl := Option.some.inj (Except.ok.inj equal)
      obtain ⟨rfl, -⟩ := Storage.next_allocate_of_ok given file
      exact Nat.lt_irrefl _ gone.2.1
  | handBack _ _ induction => exact induction gone equal
  | _ => simp at equal

theorem effect {action : Action} {before after : World}
    {result : Except PoolError (Option Handle)} (gone : before.Gone key)
    (effect : Effect action before result after) : after.Gone key := by
  refine ⟨effect.find?_eq_none gone.1 fun handle given => ?_, effect.ages.retired gone.2⟩
  exact gone.ne_of_effect (given ▸ effect)

/-- A page that is gone stays gone, whatever is asked of the pool. -/
theorem act (gone : World.Gone (pool, storage) key) (sound : pool.Sound storage)
    (action : Action) :
    World.Gone ((pool.act storage action).pool, (pool.act storage action).storage) key := by
  obtain ⟨middle, upkeeps, effect⟩ := Pool.effect_act sound.face sound.positive storage action
  exact (gone.upkeeps upkeeps).effect effect

theorem ne_of_act (gone : World.Gone (pool, storage) key) (sound : pool.Sound storage)
    {action : Action} {handle : Handle}
    (given : (pool.act storage action).result = .ok (some handle)) : handle.key ≠ key := by
  obtain ⟨middle, upkeeps, effect⟩ := Pool.effect_act sound.face sound.positive storage action
  exact (gone.upkeeps upkeeps).ne_of_effect (given ▸ effect)

theorem doneWith (gone : World.Gone (pool, storage) key) (sound : pool.Sound storage) :
    pool.DoneWith storage key where
  absent := gone.1
  unread := by
    cases fetched : (pool.fetch storage key).result with
    | error cause => exact ⟨cause, rfl⟩
    | ok handle =>
        have given : (pool.act storage (.fetch key)).result = .ok (some handle) :=
          congrArg (Except.map some) fetched
        obtain ⟨middle, upkeeps, effect⟩ :=
          Pool.effect_act sound.face sound.positive storage (.fetch key)
        rw [given] at effect
        exact absurd effect.key_of_fetch (gone.ne_of_act sound given)
  unwritten := by
    intro action
    obtain ⟨middle, upkeeps, effect⟩ := Pool.effect_act sound.face sound.positive storage action
    exact (Upkeeps.unwritten upkeeps sound gone.1).trans (effect.unwritten key)
  undropped := Upkeeps.unwritten (pool.upkeeps_drop storage) sound gone.1
  unallocated := by
    intro handle given
    have served : (pool.act storage (.allocate key.file)).result = .ok (some handle) :=
      congrArg (Except.map some) given
    exact gone.ne_of_act sound served
  unnumbered := by
    intro page given
    obtain ⟨rfl, -⟩ := Storage.next_allocate_of_ok given key.file
    exact gone.2.1.ne'

/-- A page whose number was given out is gone once the pool was asked to dispose of it. -/
theorem of_dispose (known : key.page < storage.next key.file) :
    World.Gone ((pool.dispose storage key).pool, (pool.dispose storage key).storage) key := by
  refine ⟨pool.find?_dispose storage key, ?_⟩
  rw [Pool.storage_dispose]
  exact Storage.retired_delete known

end World.Gone

namespace History

variable {start world : World} {past further : List Moment} {key : PageKey} {config : Config}
  {new pool later : Pool} {base storage storageLater : Storage}

/-- A page that is gone stays gone through every history. -/
theorem gone (history : History start past world) (sound : start.1.Sound start.2)
    (gone : start.Gone key) : world.Gone key := by
  induction history with
  | start => exact gone
  | act history action induction => exact induction.act (history.sound sound) action
  | elsewhere _ ages induction => exact induction.later ages

/-- A handle that was given is refused while its page is not resident. -/
theorem refuses (made : Pool.ofConfig config = .ok new)
    (history : History (new, base) past (pool, storage)) {handle : Handle}
    (given : handle ∈ Moment.issued past) (absent : pool.find? handle.key = none) :
    pool.Refuses storage handle := by
  have sound : pool.Sound storage := history.sound (Pool.sound_ofConfig made base)
  have dated : handle.Dated pool :=
    history.course.dated (Pool.sound_ofConfig made base) handle given
  refine Pool.refuses_iff.mpr (Bool.eq_false_iff.mpr fun accepted => ?_)
  have resident := (sound.directory _ _).mpr (dated.names accepted).2
  cases resident.symm.trans absent

/-- After a disposal that succeeds a page is gone for good, and so are the handles to it. -/
theorem disposed_for_good (made : Pool.ofConfig config = .ok new)
    (history : History (new, base) past (pool, storage))
    (disposed : (pool.dispose storage key).result = .ok ())
    (onward : History ((pool.dispose storage key).pool, (pool.dispose storage key).storage) further
      (later, storageLater)) :
    later.DoneWith storageLater key ∧
      ∀ handle ∈ Moment.issued past, handle.key = key → later.Refuses storageLater handle := by
  have sound : pool.Sound storage := history.sound (Pool.sound_ofConfig made base)
  have live : storage.has key = true := by
    rw [Pool.result_dispose] at disposed
    by_contra dead
    rw [if_neg dead] at disposed
    cases disposed
  have after : (pool.dispose storage key).pool.Sound (pool.dispose storage key).storage :=
    sound.act (.dispose key)
  have gone : World.Gone (later, storageLater) key :=
    onward.gone after (.of_dispose (Storage.lt_next_of_has live))
  have whole : History (new, base) (further ++ ⟨pool, storage, .dispose key⟩ :: past)
      (later, storageLater) := (history.act (.dispose key)).trans onward
  refine ⟨gone.doneWith (onward.sound after), ?_⟩
  rintro handle given rfl
  apply whole.refuses made _ gone.1
  rw [Moment.issued_append]
  exact List.mem_append_left _ (List.mem_append_left _ given)

/-- A page in use is disposed of in a pool with one frame. Its file grows past the pool, and another
page takes the frame. -/
theorem disposed_for_good_while_in_use :
    let key : PageKey := ⟨⟨1⟩, 0⟩
    let used := (Pool.empty ⟨1, true⟩).fetch (.withSeeded 2) key
    let gone := used.pool.dispose used.storage key
    let grown := (gone.storage.allocate ⟨1⟩).2
    let later := gone.pool.fetch grown ⟨⟨1⟩, 1⟩
    used.result = .ok ⟨0, 2, key⟩ ∧ gone.result = .ok () ∧ later.result = .ok ⟨0, 5, ⟨⟨1⟩, 1⟩⟩ ∧
      later.pool.DoneWith later.storage key ∧ later.pool.Refuses later.storage ⟨0, 2, key⟩ := by
  intro key used gone grown later
  have made : Pool.ofConfig ⟨1, true⟩ = .ok (.empty ⟨1, true⟩) := rfl
  have history : History (.empty ⟨1, true⟩, .withSeeded 2) _ (used.pool, used.storage) :=
    History.start.act (.fetch key)
  have disposed : gone.result = .ok () := by decide
  have onward : History (gone.pool, gone.storage) _ (later.pool, later.storage) :=
    (History.start.elsewhere (Storage.ages_allocate _ ⟨1⟩)).act (.fetch ⟨⟨1⟩, 1⟩)
  obtain ⟨done, refused⟩ := disposed_for_good made history disposed onward
  exact ⟨by decide, disposed, by decide, done, refused ⟨0, 2, key⟩ (by decide) rfl⟩

end History

end PageCache
