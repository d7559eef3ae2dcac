import PageCache.Proofs.Pool.Handle

/-!
# Pages in use

A page with pins keeps its frame and its stay until a client gives back one of its pins or disposes
of it, whatever else is done with the pool and whether or not it succeeds. Main statement: along
every course without a release or the disposal of the page, it loses no pin, its bytes are those
last written through its own handles, and each time that it becomes clean its file has just taken
exactly its bytes.
-/

namespace PageCache

/-- Whether an action neither gives back a pin of a page nor disposes of it. -/
def Action.Leaves (key : PageKey) : Action → Prop
  | .releasePage other _ | .dispose other => other ≠ key
  | .release handle _ => handle.key ≠ key
  | _ => True

/-- Whether an action writes through none but these handles. -/
def Action.WritesThrough (handles : List Handle) : Action → Prop
  | .write handle _ => handle ∈ handles
  | _ => True

/-- The bytes that an action with a given result has put into a page, if any. -/
def Action.written? (key : PageKey) : Action → Except PoolError (Option Handle) → Option PageData
  | .write handle data, .ok _ => if handle.key = key then some data else none
  | _, _ => none

/-- The page that a frame held is in it still, in the same stay and with no pin less. -/
structure Frame.Keeps (before : Frame) (occupant : Occupant) (after : Frame) (later : Occupant) :
    Prop where
  /-- There is a page in the frame. -/
  occupied : after.occupant = some later
  /-- It is in the same stay. -/
  generation : after.generation = before.generation
  /-- It is the same page. -/
  key : later.key = occupant.key
  /-- It has at least as many pins. -/
  pins : occupant.pins ≤ later.pins

/-- If a page was dirty and is clean, its bytes are the same and its file took them in between. -/
def Occupant.Saved (occupant later : Occupant) (before after : Storage) : Prop :=
  ∃ calls, after.calls.toList = before.calls.toList ++ calls ∧
    (occupant.dirty = true → later.dirty = false →
      later.page = occupant.page ∧ ⟨occupant.key.file, .write occupant.page, true⟩ ∈ calls)

namespace Frame.Keeps

theorem refl {frame : Frame} {occupant : Occupant} (occupied : frame.occupant = some occupant) :
    frame.Keeps occupant frame occupant :=
  ⟨occupied, rfl, rfl, le_rfl⟩

theorem trans {first second third : Frame} {occupant middle later : Occupant}
    (early : first.Keeps occupant second middle) (late : second.Keeps middle third later) :
    first.Keeps occupant third later where
  occupied := late.occupied
  generation := late.generation.trans early.generation
  key := late.key.trans early.key
  pins := early.pins.trans late.pins

/-- A frame keeps a page that is changed in place without loss of a pin. -/
theorem update {frame : Frame} {occupant : Occupant} (occupied : frame.occupant = some occupant)
    {change : Occupant → Occupant} (key : (change occupant).key = occupant.key)
    (pins : occupant.pins ≤ (change occupant).pins) :
    frame.Keeps occupant (frame.update change) (change occupant) :=
  ⟨by rw [Frame.occupant_update, occupied, Option.map_some], rfl, key, pins⟩

end Frame.Keeps

namespace Occupant.Saved

variable {occupant middle later : Occupant} {first second third : Storage}

/-- Nothing has to be saved of a page that is as dirty as before. -/
theorem of_dirty_eq (dirty : later.dirty = occupant.dirty) {calls : List Call}
    (journal : second.calls.toList = first.calls.toList ++ calls) :
    occupant.Saved later first second :=
  ⟨calls, journal, fun was is => by simp [dirty, was] at is⟩

theorem refl (occupant : Occupant) (storage : Storage) : occupant.Saved occupant storage storage :=
  of_dirty_eq rfl (List.append_nil _).symm

theorem trans (early : occupant.Saved middle first second)
    (late : middle.Saved later second third) (key : middle.key = occupant.key)
    (page : middle.page = occupant.page) (pageLater : later.page = middle.page) :
    occupant.Saved later first third := by
  obtain ⟨calls, journal, taken⟩ := early
  obtain ⟨more, journalLater, takenLater⟩ := late
  refine ⟨calls ++ more, by rw [journalLater, journal, List.append_assoc], fun was is => ?_⟩
  refine ⟨pageLater.trans page, List.mem_append.mpr ?_⟩
  cases between : middle.dirty with
  | false => exact .inl (taken was between).2
  | true =>
      have call := (takenLater between is).2
      rw [key, page] at call
      exact .inr call

end Occupant.Saved

/-! ## Upkeep -/

namespace Pool

/-- A frame that is changed in place keeps its page, and every other frame is as it was. -/
theorem keeps_updateFrame {pool : Pool} {number : Nat} {occupant : Occupant}
    (occupied : (pool.frame number).occupant = some occupant) (other : Nat)
    {change : Occupant → Occupant} (key : (change occupant).key = occupant.key)
    (pins : occupant.pins ≤ (change occupant).pins) :
    (pool.frame number).Keeps occupant ((pool.updateFrame other change).frame number)
      (if other = number then change occupant else occupant) := by
  rw [frame_updateFrame]
  split
  · next equal =>
    subst equal
    exact .update occupied key pins
  · exact .refl occupied

/-- A change of other frames keeps a page in its frame. -/
theorem keeps_of_eq {before after : Pool} {number : Nat} {occupant : Occupant}
    (occupied : (before.frame number).occupant = some occupant)
    (same : after.frame number = before.frame number) :
    (before.frame number).Keeps occupant (after.frame number) occupant := by
  rw [same]
  exact .refl occupied

/-- A page that is put into a free frame leaves the pages in the other frames there. -/
theorem keeps_install {pool : Pool} {number other : Nat} {occupant : Occupant}
    (occupied : (pool.frame number).occupant = some occupant)
    (free : (pool.frame other).occupant = none) (inside : other < pool.size)
    (file : FileIdentity) (page : Page) :
    let installed := (pool.install other file page).2
    (pool.frame number).Keeps occupant (installed.frame number) occupant := by
  have apart : other ≠ number := by
    rintro rfl
    cases free.symm.trans occupied
  exact keeps_of_eq occupied ((frame_install inside file page number).trans (if_neg apart))

end Pool

namespace Pool.Sound

variable {pool : Pool} {storage : Storage} {number : Nat} {occupant : Occupant}

/-- Another page is in another frame. -/
theorem ne_of_find? (sound : pool.Sound storage)
    (occupied : (pool.frame number).occupant = some occupant) {key : PageKey} {other : Nat}
    (resident : pool.find? key = some other) (different : key ≠ occupant.key) :
    other ≠ number := by
  rintro rfl
  obtain ⟨holder, holds, rfl⟩ := sound.occupied_of_find? resident
  exact different (congrArg Occupant.key (Option.some.inj (holds.symm.trans occupied)))

theorem frame_forget_of_ne (sound : pool.Sound storage)
    (occupied : (pool.frame number).occupant = some occupant) {key : PageKey}
    (different : key ≠ occupant.key) : (pool.forget key).1.frame number = pool.frame number := by
  simp only [Pool.forget]
  split
  · rfl
  · next other resident =>
    exact pool.frame_clearFrame_of_ne (sound.ne_of_find? occupied resident different)

/-- A handle that names the stay of a frame names that of a page's frame exactly if it is one of
the page. -/
theorem frame_eq_iff (sound : pool.Sound storage)
    (occupied : (pool.frame number).occupant = some occupant) {handle : Handle}
    (names : handle.Names pool) : handle.frame = number ↔ handle.key = occupant.key := by
  constructor
  · rintro rfl
    exact Option.some.inj (names.2.symm.trans (Frame.key?_of_occupied occupied))
  · intro key
    have resident : pool.find? handle.key = some handle.frame := (sound.directory _ _).mpr names.2
    rw [key] at resident
    exact Option.some.inj (resident.symm.trans (sound.find?_of_occupied occupied))

end Pool.Sound

/-- No upkeep takes a page in use away. -/
theorem Upkeep.keeps {before after : World} (step : Upkeep before after) {number : Nat}
    {occupant : Occupant} (occupied : (before.1.frame number).occupant = some occupant)
    (pinned : 0 < occupant.pins) :
    ∃ later, (before.1.frame number).Keeps occupant (after.1.frame number) later ∧
      later.page = occupant.page ∧ occupant.Saved later before.2 after.2 := by
  have elsewhere : ∀ other, (before.1.frame other).occupant ≠ some occupant → other ≠ number := by
    rintro other different rfl
    exact different occupied
  cases step with
  | tally clock stats face => exact ⟨occupant, .refl occupied, rfl, .refl _ _⟩
  | unmark other =>
      refine ⟨_, Pool.keeps_updateFrame occupied other rfl le_rfl, ?_, ?_⟩
      · split <;> rfl
      · refine .of_dirty_eq ?_ (List.append_nil _).symm
        split <;> rfl
  | @clean pool storage other holder holds dirty taken =>
      refine ⟨_, Pool.keeps_updateFrame occupied other rfl le_rfl, by split <;> rfl, ?_⟩
      refine ⟨[⟨holder.key.file, .write holder.page, true⟩], ?_, fun was is => ?_⟩
      · rw [Storage.calls_write, Array.toList_push, taken]
        rfl
      · by_cases same : other = number
        · subst same
          obtain rfl := Option.some.inj (holds.symm.trans occupied)
          exact ⟨by split <;> rfl, List.mem_singleton_self _⟩
        · simp [if_neg same, was] at is
  | refuse =>
      exact ⟨occupant, .refl occupied, rfl, .of_dirty_eq rfl (Array.toList_push ..)⟩
  | @vacate pool storage other holder holds unpinned clean =>
      have apart : other ≠ number := by
        refine elsewhere other fun same => ?_
        obtain rfl := Option.some.inj (holds.symm.trans same)
        omega
      exact ⟨occupant, Pool.keeps_of_eq occupied (pool.frame_clearFrame_of_ne apart), rfl,
        .refl _ _⟩
  | @renew pool storage other free =>
      have apart : other ≠ number := elsewhere other fun same => by cases free.symm.trans same
      exact ⟨occupant, Pool.keeps_of_eq occupied (pool.frame_clearFrame_of_ne apart), rfl,
        .refl _ _⟩

theorem Upkeeps.keeps {before after : World} (upkeeps : Upkeeps before after) {number : Nat}
    {occupant : Occupant} (occupied : (before.1.frame number).occupant = some occupant)
    (pinned : 0 < occupant.pins) :
    ∃ later, (before.1.frame number).Keeps occupant (after.1.frame number) later ∧
      later.page = occupant.page ∧ occupant.Saved later before.2 after.2 := by
  induction upkeeps with
  | refl => exact ⟨occupant, .refl occupied, rfl, .refl _ _⟩
  | tail _ step induction =>
      obtain ⟨middle, early, page, saved⟩ := induction
      obtain ⟨later, late, pageLater, savedLater⟩ :=
        step.keeps early.occupied (pinned.trans_le early.pins)
      exact ⟨later, early.trans late, pageLater.trans page,
        saved.trans savedLater early.key page pageLater⟩

/-! ## Effects -/

/-- An effect that leaves the pins of a page alone keeps it where it is, and changes its bytes only
by a write through one of its own handles. -/
theorem Effect.keeps {action : Action} {before after : World}
    {result : Except PoolError (Option Handle)} (effect : Effect action before result after)
    (sound : before.1.Sound before.2) {number : Nat} {occupant : Occupant}
    (occupied : (before.1.frame number).occupant = some occupant)
    (leaves : action.Leaves occupant.key)
    (named : ∀ handle data, action = .write handle data → before.1.accepts handle = true →
      handle.Names before.1) :
    ∃ later, (before.1.frame number).Keeps occupant (after.1.frame number) later ∧
      later.page = { occupant.page with
        data := (action.written? occupant.key result).getD occupant.page.data } ∧
      later.dirty = occupant.dirty ∧
      ∃ calls, after.2.calls.toList = before.2.calls.toList ++ calls := by
  induction effect with
  | fail action world cause =>
      refine ⟨occupant, .refl occupied, ?_, rfl, [], (List.append_nil _).symm⟩
      cases action <;> rfl
  | hit resident =>
      refine ⟨_, Pool.keeps_updateFrame occupied _ rfl (Nat.le_succ _), ?_, ?_, [],
        (List.append_nil _).symm⟩
      · split <;> rfl
      · split <;> rfl
  | load inside free absent given =>
      exact ⟨occupant, Pool.keeps_install occupied free inside _ _, rfl, rfl, _,
        Array.toList_push ..⟩
  | create inside free given =>
      exact ⟨occupant, Pool.keeps_install occupied free inside _ _, rfl, rfl, _,
        Array.toList_push ..⟩
  | unread | uncreated => exact ⟨occupant, .refl occupied, rfl, rfl, _, Array.toList_push ..⟩
  | @unpin pool storage key other dirty resident pinned =>
      have same := (pool.frame_updateFrame other (fun occupant => occupant.released dirty)
        number).trans (if_neg (sound.ne_of_find? occupied resident leaves))
      exact ⟨occupant, Pool.keeps_of_eq occupied same, rfl, rfl, [], (List.append_nil _).symm⟩
  | handBack _ _ induction => exact induction sound occupied leaves nofun
  | @put pool storage handle data accepted =>
      refine ⟨_, Pool.keeps_updateFrame occupied handle.frame rfl le_rfl, ?_, by split <;> rfl, [],
        (List.append_nil _).symm⟩
      -- The handle is accepted, so that its frame is that of the page only if its page is.
      have own := sound.frame_eq_iff occupied (named handle data rfl accepted)
      simp only [Action.written?, ← own]
      split <;> rfl
  | erase | drop =>
      exact ⟨occupant, Pool.keeps_of_eq occupied (sound.frame_forget_of_ne occupied leaves), rfl,
        rfl, _, Array.toList_push ..⟩
  | ignore | flush | writeBackAll =>
      exact ⟨occupant, .refl occupied, rfl, rfl, [], (List.append_nil _).symm⟩

/-! ## Actions and courses -/

/-- What an action leaves of a page in use. -/
structure Pool.Upholds (pool : Pool) (storage : Storage) (action : Action) (number : Nat)
    (occupant later : Occupant) : Prop where
  /-- The page is in its frame, in the same stay and with no pin less. -/
  keeps : (pool.frame number).Keeps occupant ((pool.act storage action).pool.frame number) later
  /-- It is listed there. -/
  resident : (pool.act storage action).pool.find? occupant.key = some number
  /-- It bears its number, and has other bytes only if the action wrote them through a handle of
  the page. -/
  page : later.page = { occupant.page with
    data := (action.written? occupant.key (pool.act storage action).result).getD
      occupant.page.data }
  /-- It has become clean only if its file has taken exactly its bytes. -/
  saved : occupant.Saved later storage (pool.act storage action).storage

/-- An action that leaves the pins of a page in use alone upholds it, whether or not it succeeds. -/
theorem Pool.Sound.upholds {pool : Pool} {storage : Storage} (sound : pool.Sound storage)
    {number : Nat} {occupant : Occupant}
    (occupied : (pool.frame number).occupant = some occupant) (pinned : 0 < occupant.pins)
    {action : Action} (leaves : action.Leaves occupant.key)
    (named : ∀ handle data, action = .write handle data → pool.accepts handle = true →
      handle.Names pool) : ∃ later, pool.Upholds storage action number occupant later := by
  have reached := sound.act action
  have listed : ∀ later,
      (pool.frame number).Keeps occupant ((pool.act storage action).pool.frame number) later →
      (pool.act storage action).pool.find? occupant.key = some number := by
    intro later keeps
    rw [← keeps.key]
    exact reached.find?_of_occupied keeps.occupied
  obtain ⟨world, upkeeps, effect⟩ := effect_act sound.face sound.positive storage action
  obtain ⟨middle, early, page, saved⟩ := Upkeeps.keeps upkeeps occupied pinned
  have kept := Upkeeps.sound upkeeps sound
  cases action with
  -- A write does no upkeep, so that its handle still names what it named.
  | write handle data =>
      obtain ⟨later, keeps, page, dirty, calls, journal⟩ :=
        (effect_write pool storage handle data).keeps sound occupied leaves named
      exact ⟨later, keeps, listed later keeps, page, .of_dirty_eq dirty journal⟩
  | fetch | allocate | releasePage | release | dispose | flush | writeBackAll =>
      obtain ⟨later, late, pageLater, dirty, calls, journal⟩ :=
        effect.keeps kept early.occupied (early.key ▸ leaves) (by simp)
      have keeps := early.trans late
      have same : later.page = middle.page := pageLater
      refine ⟨later, keeps, listed later keeps, same.trans page, ?_⟩
      exact saved.trans (.of_dirty_eq dirty journal) early.key page same

/-- What a pool and the files below it can come to while the pins of a page are left alone, with the
handles given until then and the bytes written to the page, the latest first. -/
inductive Tenure (key : PageKey) (start : List Handle × World) :
    List Handle → List PageData → World → Prop
  /-- Nothing has happened yet. -/
  | start : Tenure key start start.1 [] start.2
  /-- The pool carries out one more action. -/
  | act {issued : List Handle} {written : List PageData} {pool : Pool} {storage : Storage}
      (tenure : Tenure key start issued written (pool, storage)) {action : Action}
      (leaves : action.Leaves key) (own : action.WritesThrough issued) :
      Tenure key start (issued ++ (pool.act storage action).given)
        ((action.written? key (pool.act storage action).result).toList ++ written)
        ((pool.act storage action).pool, (pool.act storage action).storage)
  /-- Something happens to the files past the pool. -/
  | elsewhere {issued : List Handle} {written : List PageData} {pool : Pool}
      {storage later : Storage} (tenure : Tenure key start issued written (pool, storage))
      (precedes : storage.Precedes later) : Tenure key start issued written (pool, later)

namespace Tenure

variable {key : PageKey} {origin world : World} {start : List Handle × World}
  {issued further : List Handle} {written : List PageData} {pool : Pool} {storage : Storage}

/-- A course that goes on while the pins of a page are left alone is a course. -/
theorem course (tenure : Tenure key (issued, pool, storage) further written world)
    (course : Course origin issued (pool, storage)) : Course origin further world := by
  induction tenure with
  | start => exact course
  | act _ _ _ induction => exact induction.act _
  | elsewhere _ precedes induction => exact induction.elsewhere precedes

/-- The bytes written through an accepted handle are the latest. -/
theorem write {handle : Handle} (tenure : Tenure handle.key start issued written (pool, storage))
    (own : handle ∈ issued) (accepted : pool.accepts handle = true) (data : PageData) :
    let outcome := pool.act storage (.write handle data)
    Tenure handle.key start (issued ++ outcome.given) (data :: written)
      (outcome.pool, outcome.storage) := by
  have seen := Pool.isOk_page_iff pool handle
  have put : (Action.write handle data).written? handle.key
      (pool.act storage (.write handle data)).result = some data := by
    simp only [Pool.act, Outcome.map, Pool.write]
    split
    · exact if_pos rfl
    · next cause refused => simp [refused, accepted, Except.isOk, Except.toBool] at seen
  have written := tenure.act
    (show Action.Leaves handle.key (.write handle data) from True.intro) own
  rwa [put] at written

end Tenure

namespace Course

variable {config : Config} {new pool : Pool} {base storage : Storage} {world : World}
  {issued further : List Handle} {written : List PageData} {number : Nat} {occupant : Occupant}

/-- The handles that a pool gave on a course name the stay of their frame if they are accepted. -/
theorem named (made : Pool.ofConfig config = .ok new)
    (course : Course (new, base) issued (pool, storage)) {action : Action}
    (own : action.WritesThrough issued) : ∀ handle data, action = .write handle data →
      pool.accepts handle = true → handle.Names pool := by
  rintro handle data rfl accepted
  exact (course.dated (Pool.sound_ofConfig made base) handle own).names accepted

/-- Along a course that leaves the pins of a page in use alone, the page stays in its frame. -/
theorem keeps_page (made : Pool.ofConfig config = .ok new)
    (course : Course (new, base) issued (pool, storage))
    (occupied : (pool.frame number).occupant = some occupant) (pinned : 0 < occupant.pins)
    (tenure : Tenure occupant.key (issued, pool, storage) further written world) :
    ∃ later, (pool.frame number).Keeps occupant (world.1.frame number) later ∧
      later.page = { occupant.page with data := written.head?.getD occupant.page.data } := by
  induction tenure with
  | start => exact ⟨occupant, .refl occupied, rfl⟩
  | @act _ earlier pool storage tenure action leaves own induction =>
      obtain ⟨middle, early, page⟩ := induction
      have onward := tenure.course course
      have sound : pool.Sound storage := onward.sound (Pool.sound_ofConfig made base)
      obtain ⟨later, upholds⟩ := sound.upholds early.occupied (pinned.trans_le early.pins)
        (early.key ▸ leaves) (named made onward own)
      refine ⟨later, early.trans upholds.keeps, ?_⟩
      have now := upholds.page
      rw [early.key, page] at now
      rw [now]
      cases action.written? occupant.key (pool.act storage action).result with
      | none => rfl
      | some data => rfl
  | elsewhere _ _ induction => exact induction

/-- A page in use is never taken away: as long as its pins are left alone it is in the same frame,
in the same stay, with no pin less and the bytes last written to it, and every further action
upholds it. -/
theorem upholds_page_in_use (made : Pool.ofConfig config = .ok new)
    (course : Course (new, base) issued (pool, storage))
    (occupied : (pool.frame number).occupant = some occupant) (pinned : 0 < occupant.pins)
    (tenure : Tenure occupant.key (issued, pool, storage) further written world) :
    ∃ later, (pool.frame number).Keeps occupant (world.1.frame number) later ∧
      world.1.find? occupant.key = some number ∧
      later.page = { occupant.page with data := written.head?.getD occupant.page.data } ∧
      ∀ action, action.Leaves occupant.key → action.WritesThrough further →
        ∃ next, world.1.Upholds world.2 action number later next := by
  obtain ⟨later, keeps, page⟩ := keeps_page made course occupied pinned tenure
  have onward := tenure.course course
  have sound : world.1.Sound world.2 := onward.sound (Pool.sound_ofConfig made base)
  refine ⟨later, keeps, ?_, page, fun action leaves own => ?_⟩
  · rw [← keeps.key]
    exact sound.find?_of_occupied keeps.occupied
  · exact sound.upholds keeps.occupied (pinned.trans_le keeps.pins) (keeps.key ▸ leaves)
      (named made onward own)

/-- Two frames and three pages: a page in use is written and written back, while a second page comes
and gives way to a third. -/
theorem upholds_page_in_use_under_pressure :
    let key : PageKey := ⟨⟨1⟩, 0⟩
    let handle : Handle := ⟨0, 2, key⟩
    let before := (Pool.empty ⟨2, true⟩).carryOut (.withSeeded 3)
      [.fetch key, .fetch key, .release handle true]
    let occupant : Occupant := ⟨key, ⟨0, PageData.zero.set 0 0⟩, true, true, 1⟩
    let after := before.2.1.carryOut before.2.2
      [.fetch ⟨⟨1⟩, 1⟩, .write handle (.filled 7), .writeBackAll, .releasePage ⟨⟨1⟩, 1⟩ false,
        .fetch ⟨⟨1⟩, 2⟩]
    (before.2.1.frame 0).occupant = some occupant ∧ 0 < occupant.pins ∧
      (∃ further, Tenure key before further [.filled 7] after.2) ∧
      (∃ later, (before.2.1.frame 0).Keeps occupant (after.2.1.frame 0) later ∧
        later.page = ⟨0, .filled 7⟩ ∧ later.dirty = false ∧
        ∃ next, after.2.1.Upholds after.2.2 (.flush ⟨1⟩) 0 later next) := by
  intro key handle before occupant after
  have made : Pool.ofConfig ⟨2, true⟩ = .ok (.empty ⟨2, true⟩) := rfl
  have course : Course (.empty ⟨2, true⟩, .withSeeded 3) ([] ++ before.1) before.2 :=
    Course.start.carryOut _
  have occupied : (before.2.1.frame 0).occupant = some occupant := rfl
  have joined := (@Tenure.start key before).act
    (show Action.Leaves key (.fetch ⟨⟨1⟩, 1⟩) from True.intro) True.intro
  have written := joined.write (show handle ∈ _ by decide) (by decide) (.filled 7)
  have saved := written.act (show Action.Leaves key .writeBackAll from True.intro) True.intro
  have left := saved.act (show Action.Leaves key (.releasePage ⟨⟨1⟩, 1⟩ false) from
    show _ ≠ _ by decide) True.intro
  have tenure : Tenure key before _ [.filled 7] after.2 :=
    left.act (show Action.Leaves key (.fetch ⟨⟨1⟩, 2⟩) from True.intro) True.intro
  obtain ⟨later, keeps, -, page, upholds⟩ :=
    upholds_page_in_use made course occupied Nat.one_pos tenure
  have clean : (after.2.1.frame 0).dirty = false := by decide
  rw [Frame.dirty, keeps.occupied, Option.any_some] at clean
  exact ⟨occupied, Nat.one_pos, ⟨_, tenure⟩, later, keeps, page, clean,
    upholds (.flush ⟨1⟩) True.intro True.intro⟩

end Course

end PageCache
