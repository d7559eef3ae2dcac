import PageCache.Proofs.Pool.Backed
import PageCache.Proofs.Pool.Pins
import PageCache.Proofs.Session.Course
import PageCache.Proofs.Storage.Layout
import PageCache.Shell.Launch

/-!
# The books of the shell

The shell keeps the handles that it was given by page, beside the pins that the pool counts. Main
statement: after every sequence of commands, whether or not they fail, the shell holds as many
handles to each page as the page has pins, every one of them is honoured, and a command that failed
has changed neither. Hence a byte of a page can be set exactly if the page has a pin and the offset
lies within it.
-/

namespace PageCache

namespace Shell

/-- What a shell can come to by commands, while others change the files on disk. -/
inductive Attended (first : Shell) : Shell → Prop
  /-- Nothing has happened yet. -/
  | start : Attended first first
  /-- The shell answers one more list of words. -/
  | answer {shell : Shell} (attended : Attended first shell) (words : List String) :
      Attended first (shell.answer words).shell
  /-- Something happens to the file system past the shell. -/
  | elsewhere {shell : Shell} (attended : Attended first shell) (system : FileSystem) :
      Attended first { shell with storage := { shell.storage with system } }

/-- The shell after an action of its pool, with the handles that it had. -/
def after (shell : Shell) (action : Action) : Shell :=
  { shell with
    pool := (shell.pool.act shell.storage action).pool
    storage := (shell.pool.act shell.storage action).storage }

/-- The handles of a shell agree with the pins of its pool. -/
structure Kept (shell : Shell) : Prop where
  /-- The pool is sound. -/
  sound : shell.pool.Sound shell.storage
  /-- The file of every resident page has the page. -/
  backed : World.Backed (shell.pool, shell.storage)
  /-- The files in the slots were opened. -/
  opened : ∀ id ∈ shell.slots.toList, id.number ≤ shell.storage.opened
  /-- No file is in two slots. -/
  apart : shell.slots.toList.Nodup
  /-- A file that was not opened has given out no number. -/
  unopened : ∀ id : FileIdentity, shell.storage.opened < id.number → shell.storage.next id = 0
  /-- There are as many handles to a page as the page has pins. -/
  counts : ∀ key, (shell.handlesOf key).length = shell.pool.pinsOn key
  /-- A handle names the stay of its page. -/
  names : ∀ key, ∀ handle ∈ shell.handlesOf key, handle.key = key ∧ handle.Names shell.pool

/-- The slots, the handles and the pins are those of another shell. -/
structure SameBooks (before after : Shell) : Prop where
  /-- The slots hold the same files. -/
  slots : after.slots = before.slots
  /-- The handles are the same. -/
  handles : after.handles = before.handles
  /-- Every page has the same pins. -/
  pins : ∀ key, after.pool.pinsOn key = before.pool.pinsOn key

end Shell

/-- A turn keeps the books of the shell, and leaves them alone if it fails. -/
structure Turn.Keeps (turn : Turn) (shell : Shell) : Prop where
  /-- The books agree afterwards. -/
  kept : turn.shell.Kept
  /-- A failure leaves them alone. -/
  same : ∀ cause, turn.result = .error cause → shell.SameBooks turn.shell

namespace Shell

variable {shell : Shell} {key : PageKey} {handle : Handle} {action : Action}

theorem SameBooks.refl (shell : Shell) : shell.SameBooks shell := ⟨rfl, rfl, fun _ => rfl⟩

namespace Kept

theorem pinned (kept : shell.Kept) (held : handle ∈ shell.handlesOf key) :
    0 < shell.pool.pinsOn key := by
  rw [← kept.counts]
  exact List.length_pos_of_mem held

theorem accepts (kept : shell.Kept) (held : handle ∈ shell.handlesOf key) :
    shell.pool.accepts handle = true := by
  obtain ⟨own, names⟩ := kept.names key handle held
  rw [kept.sound.accepts_eq_of_names names, own]
  exact decide_eq_true (kept.pinned held)

/-- The books after an action agree if the pins and the handles do. -/
theorem carry (kept : shell.Kept)
    (known : ∀ id, action = .allocate id → id.number ≤ shell.storage.opened)
    {next : Shell} (pool : next.pool = (shell.after action).pool)
    (storage : next.storage = (shell.after action).storage) (slots : next.slots = shell.slots)
    (counts : ∀ key, (next.handlesOf key).length = (shell.after action).pool.pinsOn key)
    (names : ∀ key, ∀ handle ∈ next.handlesOf key,
      handle.key = key ∧ handle.Names (shell.after action).pool) : next.Kept := by
  obtain ⟨middle, upkeeps, effect⟩ :=
    Pool.effect_act kept.sound.face kept.sound.positive shell.storage action
  have opened : next.storage.opened = shell.storage.opened := by
    rw [storage]
    exact effect.opened_eq.trans (Upkeeps.opened_eq upkeeps)
  refine ⟨?_, ?_, ?_, slots ▸ kept.apart, ?_, pool ▸ counts, pool ▸ names⟩
  · rw [pool, storage]
    exact kept.sound.act action
  · rw [pool, storage]
    exact kept.backed.act kept.sound action
  · intro id member
    rw [opened]
    exact kept.opened id (slots ▸ member)
  · intro id past
    rw [opened] at past
    have elsewhere : action ≠ .allocate id :=
      fun equal => absurd (known id equal) (Nat.not_le_of_lt past)
    rw [storage]
    exact ((effect.next_eq elsewhere).trans (Upkeeps.next_eq upkeeps id)).trans
      (kept.unopened id past)

theorem names_after (kept : shell.Kept) (held : handle ∈ shell.handlesOf key)
    (stays : action ≠ .dispose key) :
    handle.key = key ∧ handle.Names (shell.after action).pool := by
  obtain ⟨rfl, names⟩ := kept.names key handle held
  exact ⟨rfl, kept.sound.names_after names (kept.pinned held) stays⟩

/-- An action that gives no handle and takes no pin leaves the books alone. -/
theorem plain (kept : shell.Kept) (action : Action)
    (known : ∀ id, action = .allocate id → id.number ≤ shell.storage.opened)
    (stays : ∀ key, action ≠ .dispose key)
    (gives : ∀ key, action.gives key (shell.pool.act shell.storage action).result = false)
    (takes : ∀ key, action.givesBack key (shell.pool.act shell.storage action).result = false) :
    (shell.after action).Kept ∧ shell.SameBooks (shell.after action) := by
  have same : ∀ key, (shell.after action).pool.pinsOn key = shell.pool.pinsOn key := by
    intro key
    refine (kept.sound.pinsOn_act (stays key)).trans ?_
    rw [gives, takes]
    rfl
  refine ⟨kept.carry known rfl rfl rfl ?_ ?_, rfl, rfl, same⟩
  · exact fun key => (kept.counts key).trans (same key).symm
  · exact fun key handle held => kept.names_after held (stays key)

/-- An action that fails leaves the books alone, unless it disposes of a page. -/
theorem failed (kept : shell.Kept) (action : Action)
    (known : ∀ id, action = .allocate id → id.number ≤ shell.storage.opened)
    (stays : ∀ key, action ≠ .dispose key) {cause : PoolError}
    (failed : (shell.pool.act shell.storage action).result = .error cause) :
    (shell.after action).Kept ∧ shell.SameBooks (shell.after action) := by
  refine kept.plain action known stays (fun key => ?_) (fun key => ?_)
  · rw [failed]
    cases action <;> rfl
  · rw [failed]
    cases action <;> rfl

/-- A handle that is given goes to the others of its page. -/
theorem give (kept : shell.Kept)
    (known : ∀ id, action = .allocate id → id.number ≤ shell.storage.opened)
    (stays : ∀ key, action ≠ .dispose key)
    (takes : ∀ key, action.givesBack key (shell.pool.act shell.storage action).result = false)
    (given : (shell.pool.act shell.storage action).result = .ok (some handle)) :
    ((shell.after action).setHandles handle.key (handle :: shell.handlesOf handle.key)).Kept := by
  have handles : ∀ key,
      ((shell.after action).setHandles handle.key (handle :: shell.handlesOf handle.key)).handlesOf
        key = if handle.key = key then handle :: shell.handlesOf handle.key
          else shell.handlesOf key := fun key => handlesOf_setHandles ..
  refine kept.carry known rfl rfl rfl (fun key => ?_) (fun key other held => ?_)
  · obtain ⟨middle, -, effect⟩ :=
      Pool.effect_act kept.sound.face kept.sound.positive shell.storage action
    rw [given] at effect
    have pins := kept.sound.pinsOn_act (stays key)
    rw [takes, given, effect.gives_eq, ← kept.counts key] at pins
    rw [handles]
    refine Eq.trans ?_ pins.symm
    by_cases own : handle.key = key
    · subst own
      simp
    · simp [own]
  · rw [handles] at held
    split at held
    · next own =>
      subst own
      rcases List.mem_cons.mp held with rfl | earlier
      · exact ⟨rfl, kept.sound.names_act given⟩
      · exact kept.names_after earlier (stays _)
    · exact kept.names_after held (stays key)

/-- The latest handle to a page goes with the pin that is given back. -/
theorem release (kept : shell.Kept) {dirty : Bool}
    (released : (shell.pool.act shell.storage (.releasePage key dirty)).result = .ok none) :
    ((shell.after (.releasePage key dirty)).setHandles key (shell.handlesOf key).tail).Kept := by
  have handles : ∀ other,
      ((shell.after (.releasePage key dirty)).setHandles key (shell.handlesOf key).tail).handlesOf
        other = if key = other then (shell.handlesOf key).tail else shell.handlesOf other :=
    fun other => handlesOf_setHandles ..
  have stays : ∀ other, Action.releasePage key dirty ≠ .dispose other := by simp
  refine kept.carry (by simp) rfl rfl rfl (fun other => ?_) (fun other handle held => ?_)
  · have pins := kept.sound.pinsOn_act (stays other)
    rw [released, ← kept.counts other] at pins
    rw [handles]
    refine Eq.trans ?_ pins.symm
    by_cases own : key = other
    · subst own
      simp [Action.gives, Action.givesBack]
    · simp [own, Action.gives, Action.givesBack]
  · rw [handles] at held
    split at held
    · next own =>
      subst own
      exact kept.names_after (List.mem_of_mem_tail held) (stays key)
    · exact kept.names_after held (stays other)

/-- The pins of the other pages are left alone by a disposal. -/
theorem pinsOn_dispose (kept : shell.Kept) {other : PageKey} (different : key ≠ other) :
    (shell.after (.dispose key)).pool.pinsOn other = shell.pool.pinsOn other :=
  kept.sound.pinsOn_act fun equal => different (Action.dispose.inj equal)

/-- All handles to a page go with the page. -/
theorem dispose (kept : shell.Kept) (key : PageKey) :
    ((shell.after (.dispose key)).setHandles key []).Kept := by
  have handles : ∀ other, ((shell.after (.dispose key)).setHandles key []).handlesOf other =
      if key = other then [] else shell.handlesOf other := fun other => handlesOf_setHandles ..
  refine kept.carry (by simp) rfl rfl rfl (fun other => ?_) (fun other handle held => ?_)
  · rw [handles]
    split
    · next own =>
      subst own
      exact (Pool.pinsOn_of_absent (shell.pool.find?_dispose shell.storage key)).symm
    · next different => rw [kept.counts other, kept.pinsOn_dispose different]
  · rw [handles] at held
    split at held
    · cases held
    · next different =>
      exact kept.names_after held fun equal => different (Action.dispose.inj equal)

/-- A disposal that fails finds no page to drop. -/
theorem dispose_failed (kept : shell.Kept) {cause : PoolError}
    (failed : (shell.pool.act shell.storage (.dispose key)).result = .error cause) :
    (shell.after (.dispose key)).Kept ∧ shell.SameBooks (shell.after (.dispose key)) := by
  have absent := kept.backed.absent_of_dispose failed
  have same : ∀ other, (shell.after (.dispose key)).pool.pinsOn other =
      shell.pool.pinsOn other := by
    intro other
    by_cases own : key = other
    · subst own
      rw [Pool.pinsOn_of_absent absent]
      exact Pool.pinsOn_of_absent (shell.pool.find?_dispose shell.storage key)
    · exact kept.pinsOn_dispose own
  refine ⟨kept.carry (by simp) rfl rfl rfl ?_ ?_, rfl, rfl, same⟩
  · exact fun other => (kept.counts other).trans (same other).symm
  · intro other handle held
    apply kept.names_after held
    intro equal
    have pinned := kept.pinned held
    rw [← Action.dispose.inj equal, Pool.pinsOn_of_absent absent] at pinned
    exact Nat.lt_irrefl 0 pinned

/-- A file that is opened in the next slot has no page in the pool. -/
theorem enrol (kept : shell.Kept) (system : FileSystem) {file : Backing}
    (bounded : file.Bounded) :
    ({ shell with
      storage := ({ shell.storage with system }.add file).2
      slots := shell.slots.push ⟨shell.storage.opened + 1⟩ } : Shell).Kept := by
  let new : FileIdentity := ⟨shell.storage.opened + 1⟩
  have fresh : shell.storage.next new = 0 := kept.unopened new (Nat.lt_succ_self _)
  have next : ∀ id, ({ shell.storage with system }.add file).2.next id =
      if new = id then file.next else shell.storage.next id :=
    Storage.next_add { shell.storage with system } file
  have held : ∀ id, ({ shell.storage with system }.add file).2.file id =
      if new = id then file else shell.storage.file id :=
    Storage.file_add { shell.storage with system } file
  refine { kept with sound := ?_, backed := ⟨?_, ?_⟩, opened := ?_, apart := ?_, unopened := ?_ }
  · refine kept.sound.later fun id => ?_
    rw [next]
    split
    · next equal =>
      rw [← equal, fresh]
      exact Nat.zero_le _
    · exact Nat.le_refl _
  · intro id
    rw [held]
    split
    · exact bounded
    · exact kept.backed.bounded id
  · intro key resident
    have live := kept.backed.live key resident
    have different : new ≠ key.file := by
      intro equal
      have given := Storage.lt_next_of_has live
      rw [← equal, fresh] at given
      exact Nat.not_lt_zero _ given
    rw [Storage.has, held, if_neg different]
    exact live
  · intro id member
    rw [Array.toList_push, List.mem_append, List.mem_singleton] at member
    rcases member with earlier | rfl
    · exact Nat.le_succ_of_le (kept.opened id earlier)
    · exact Nat.le_refl _
  · rw [Array.toList_push, List.nodup_append]
    refine ⟨kept.apart, by simp, fun id earlier other last equal => ?_⟩
    obtain rfl := List.mem_singleton.mp last
    have past := kept.opened id earlier
    rw [equal] at past
    exact Nat.lt_irrefl _ past
  · intro id past
    have different : new ≠ id := by
      rintro rfl
      exact Nat.lt_irrefl _ past
    rw [next, if_neg different]
    exact kept.unopened id (Nat.lt_of_succ_lt past)

/-! ## Commands -/

theorem say (kept : shell.Kept) (lines : List String) : (shell.say lines).Keeps shell :=
  ⟨kept, nofun⟩

theorem fail (kept : shell.Kept) (cause : ShellError) : (shell.fail cause).Keeps shell :=
  ⟨kept, fun _ _ => .refl shell⟩

theorem withArgument {Value : Type} (kept : shell.Kept) {argument : Except ShellError Value}
    {next : Value → Turn} (each : ∀ value, argument = .ok value → (next value).Keeps shell) :
    (shell.withArgument argument next).Keeps shell := by
  cases argument with
  | ok value => exact each value rfl
  | error cause => exact kept.fail cause

end Kept

/-- A turn on the pool keeps the books if the note that the shell makes sets them right. -/
theorem keeps_settle {Value : Type} {outcome : Outcome Value} {note : Shell → Value → Shell}
    {lines : Value → List String} {answer : Value → Option Handle} (action : Action)
    (same : shell.pool.act shell.storage action = outcome.map answer)
    (done : ∀ value, (shell.pool.act shell.storage action).result = .ok (answer value) →
      (note (shell.after action) value).Kept)
    (failed : ∀ cause, (shell.pool.act shell.storage action).result = .error cause →
      (shell.after action).Kept ∧ shell.SameBooks (shell.after action)) :
    (shell.settle outcome note lines).Keeps shell := by
  have after : shell.after action =
      { shell with pool := outcome.pool, storage := outcome.storage } := by
    rw [Shell.after, same]
    rfl
  have answered : (shell.pool.act shell.storage action).result = outcome.result.map answer :=
    congrArg Outcome.result same
  unfold settle
  rw [← after]
  cases result : outcome.result with
  | ok value =>
      rw [result] at answered
      exact ⟨done value answered, nofun⟩
  | error cause =>
      rw [result] at answered
      obtain ⟨kept, books⟩ := failed cause answered
      exact ⟨kept, fun _ _ => books⟩

namespace Kept

/-- A turn that pins a page notes the handle that it was given. -/
theorem settleHandle (kept : shell.Kept) {outcome : Outcome Handle} (action : Action)
    (known : ∀ id, action = .allocate id → id.number ≤ shell.storage.opened)
    (stays : ∀ key, action ≠ .dispose key)
    (takes : ∀ key result, action.givesBack key result = false)
    (same : shell.pool.act shell.storage action = outcome.map some) :
    (shell.settleHandle outcome).Keeps shell := by
  apply keeps_settle action same
  · exact fun handle given => kept.give known stays (fun key => takes key _) given
  · exact fun cause refused => kept.failed action known stays refused

/-- A turn that writes pages back leaves the books alone. -/
theorem settleQuietly (kept : shell.Kept) {outcome : Outcome Unit} (action : Action)
    (known : ∀ id, action ≠ .allocate id) (stays : ∀ key, action ≠ .dispose key)
    (gives : ∀ key result, action.gives key result = false)
    (takes : ∀ key result, action.givesBack key result = false)
    (same : shell.pool.act shell.storage action = outcome.map fun _ => none) :
    (shell.settle outcome (fun after _ => after) fun _ => []).Keeps shell := by
  have plain := kept.plain action (fun id equal => absurd equal (known id)) stays
    (fun key => gives key _) fun key => takes key _
  exact keeps_settle action same (fun _ _ => plain.1) fun _ _ => plain

theorem settleRelease (kept : shell.Kept) (key : PageKey) (dirty : Bool) :
    (shell.settle (shell.pool.releasePage shell.storage key dirty)
      (fun after _ => after.setHandles key (after.handlesOf key).tail)
      fun _ => []).Keeps shell := by
  apply keeps_settle (.releasePage key dirty) rfl
  · exact fun _ released => kept.release released
  · exact fun cause refused => kept.failed _ nofun nofun refused

theorem settleDispose (kept : shell.Kept) (key : PageKey) :
    (shell.settle (shell.pool.dispose shell.storage key)
      (fun after _ => after.setHandles key []) fun _ => []).Keeps shell := by
  apply keeps_settle (.dispose key) rfl
  · exact fun _ _ => kept.dispose key
  · exact fun cause refused => kept.dispose_failed refused

theorem openFile (kept : shell.Kept) (path : String) : (shell.openFile path).Keeps shell := by
  unfold Shell.openFile
  split
  · exact kept.fail _
  · next id file storage given =>
    obtain ⟨target, system, -, rfl, rfl, rfl⟩ := Storage.made_of_openDisk given
    refine ⟨kept.enrol system ?_, nofun⟩
    intro page gone
    simp at gone

/-- The file in a slot was opened. -/
theorem opened_of_file (kept : shell.Kept) {slot : String} {id : FileIdentity}
    (found : shell.file slot = .ok id) : id.number ≤ shell.storage.opened := by
  unfold Shell.file at found
  split at found
  · cases found
  · split at found
    · next present =>
      obtain rfl := Except.ok.inj found
      exact kept.opened _ (Array.mem_toList_iff.mpr (Array.mem_of_getElem? present))
    · cases found

/-! ### Setting a byte -/

/-- A byte of a page can be set if the page has a pin and the offset lies within it. -/
theorem result_poke (kept : shell.Kept) (key : PageKey) (offset : Nat) (byte : UInt8) :
    (shell.withArgument (shell.poke key offset byte) fun pool =>
        ({ shell with pool } : Shell).say []).result =
      if shell.pool.pinsOn key = 0 then .error (.notPinned key.page)
      else if offset < pageSize then .ok [] else .error (.outOfRange offset) := by
  have counts := kept.counts key
  cases handles : shell.handlesOf key with
  | nil =>
      rw [handles] at counts
      simp only [poke, handles, ← counts, List.length_nil, if_true]
      rfl
  | cons handle rest =>
      have held : handle ∈ shell.handlesOf key := handles ▸ List.mem_cons_self
      obtain ⟨-, names⟩ := kept.names key handle held
      obtain ⟨occupant, honours⟩ := kept.sound.honours names (kept.accepts held)
      rw [if_neg (kept.pinned held).ne']
      simp only [poke, handles, honours.page]
      split
      · rfl
      · rfl

/-- What is set is that byte of the page in its frame, and nothing else. -/
theorem exists_poke (kept : shell.Kept) {key : PageKey} (pinned : shell.pool.pinsOn key ≠ 0)
    {offset : Nat} (inside : offset < pageSize) (byte : UInt8) :
    ∃ number occupant, (shell.pool.frame number).occupant = some occupant ∧ occupant.key = key ∧
      shell.poke key offset byte = .ok (shell.pool.updateFrame number fun held =>
        held.filled (occupant.page.data.set offset byte)) := by
  cases handles : shell.handlesOf key with
  | nil =>
      have counts := kept.counts key
      rw [handles] at counts
      exact absurd counts.symm pinned
  | cons handle rest =>
      have held : handle ∈ shell.handlesOf key := handles ▸ List.mem_cons_self
      obtain ⟨own, names⟩ := kept.names key handle held
      obtain ⟨occupant, honours⟩ := kept.sound.honours names (kept.accepts held)
      refine ⟨handle.frame, occupant, honours.occupied, honours.key.trans own, ?_⟩
      simp only [poke, handles, honours.page, dif_pos inside]
      rfl

/-- A byte is set by an action of the pool. -/
theorem act_of_poke {key : PageKey} {offset : Nat} {byte : UInt8} {pool : Pool}
    (poked : shell.poke key offset byte = .ok pool) :
    ∃ handle data, { shell with pool } = shell.after (.write handle data) := by
  unfold poke at poked
  split at poked
  · cases poked
  · next handle rest handles =>
    split at poked
    · cases poked
    · next page seen =>
      split at poked
      · next inside =>
        refine ⟨handle, page.data.set offset byte, ?_⟩
        obtain rfl := Except.ok.inj poked
        simp only [after, Pool.act, Pool.write, seen]
        rfl
      · cases poked

theorem write (kept : shell.Kept) (slot page offset byte : String) :
    (shell.write slot page offset byte).Keeps shell := by
  refine kept.withArgument fun key _ => kept.withArgument fun offset _ =>
    kept.withArgument fun byte _ => kept.withArgument fun pool poked => ?_
  obtain ⟨handle, data, same⟩ := act_of_poke poked
  have plain := kept.plain (.write handle data) nofun nofun (fun _ => rfl) fun _ => rfl
  rw [same]
  exact ⟨plain.1, nofun⟩

/-! ### All commands -/

theorem execute (kept : shell.Kept) (command : Command) : (shell.execute command).Keeps shell := by
  cases command with
  | nothing | inspect | help => exact kept.say _
  | quit => exact ⟨kept, nofun⟩
  | openFile path => exact kept.openFile path
  | fetch slot page =>
      refine kept.withArgument fun key _ => ?_
      exact kept.settleHandle (.fetch key) nofun nofun (fun _ _ => rfl) rfl
  | write slot page offset byte => exact kept.write slot page offset byte
  | release slot page dirty => exact kept.withArgument fun key _ => kept.settleRelease key dirty
  | allocate slot =>
      refine kept.withArgument fun id found => ?_
      refine kept.settleHandle (.allocate id) (fun other equal => ?_) nofun (fun _ _ => rfl) rfl
      obtain rfl := Action.allocate.inj equal
      exact kept.opened_of_file found
  | dispose slot page => exact kept.withArgument fun key _ => kept.settleDispose key
  | flush slot =>
      refine kept.withArgument fun id _ => ?_
      exact kept.settleQuietly (.flush id) nofun nofun (fun _ _ => rfl) (fun _ _ => rfl) rfl
  | writeBackAll =>
      exact kept.settleQuietly .writeBackAll nofun nofun (fun _ _ => rfl) (fun _ _ => rfl) rfl

theorem answer (kept : shell.Kept) (words : List String) : (shell.answer words).Keeps shell := by
  unfold Shell.answer
  split
  · exact kept.execute _
  · exact kept.fail _

/-- The books do not speak of the file system. -/
theorem elsewhere (kept : shell.Kept) (system : FileSystem) :
    ({ shell with storage := { shell.storage with system } } : Shell).Kept :=
  { kept with
    sound := kept.sound.later (Storage.Precedes.refl shell.storage)
    backed := ⟨kept.backed.bounded, kept.backed.live⟩ }

end Kept

/-- A new shell has no pages, no handles and no files. -/
theorem kept_launch {config : Config} {system : FileSystem} {events : List Event}
    (launched : launch config { Storage.empty with system } = .ok (shell, events)) :
    shell.Kept := by
  unfold launch at launched
  split at launched
  · next pool made =>
    obtain ⟨rfl, -⟩ := Prod.mk.inj (Except.ok.inj launched)
    obtain rfl := Pool.eq_empty_of_made made
    let storage : Storage := { Storage.empty with system }
    have absent := Pool.find?_empty config
    have none : ∀ key, (start (.empty config) storage).handlesOf key = [] := by
      simp [start, handlesOf]
    have memory : ∀ id, storage.file id = .memory (.empty "") := by
      simp [storage, Storage.file, Storage.empty]
    have bounded : storage.Bounded := by
      intro id
      rw [memory]
      trivial
    exact {
      sound := Pool.sound_ofConfig made storage
      backed := ⟨bounded, fun key resident => absurd (absent key) resident⟩
      opened := by simp [start]
      apart := by simp [start]
      unopened := fun id _ => congrArg Backing.next (memory id)
      counts := fun key => by
        rw [none]
        exact (Pool.pinsOn_of_absent (absent key)).symm
      names := fun key handle held => by
        rw [none] at held
        cases held }
  · cases launched

/-- Commands keep the books. -/
theorem Attended.kept {first : Shell} (attended : Attended first shell) (kept : first.Kept) :
    shell.Kept := by
  induction attended with
  | start => exact kept
  | answer _ words induction => exact (induction.answer words).kept
  | elsewhere _ system induction => exact induction.elsewhere system

/-! ## What a client sees -/

theorem result_withArgument {Value : Type} (argument : Except ShellError Value)
    (next : Value → Turn) : (shell.withArgument argument next).result =
      argument.bind fun value => (next value).result := by
  cases argument with
  | ok | error => rfl

/-- The result of setting a byte, whatever the arguments. -/
theorem Kept.result_write (kept : shell.Kept) (slot page offset byte : String) :
    (shell.answer ["write", slot, page, offset, byte]).result =
      (shell.key slot page).bind fun key => (number numberLimit offset).bind fun offset =>
        (number byteLimit byte).bind fun _ =>
          if shell.pool.pinsOn key = 0 then .error (.notPinned key.page)
          else if offset < pageSize then .ok [] else .error (.outOfRange offset) := by
  have command : shell.answer ["write", slot, page, offset, byte] =
      shell.write slot page offset byte := rfl
  rw [command, Shell.write, result_withArgument]
  refine congrArg _ (funext fun key => ?_)
  rw [result_withArgument]
  refine congrArg _ (funext fun offset => ?_)
  rw [result_withArgument]
  exact congrArg _ (funext fun byte => kept.result_poke key offset (UInt8.ofNat byte))

theorem shell_withArgument_of_error {Value : Type} {argument : Except ShellError Value}
    {next : Value → Turn} {cause : ShellError}
    (failed : (shell.withArgument argument next).result = .error cause)
    (later : ∀ value, (next value).result = .error cause → (next value).shell = shell) :
    (shell.withArgument argument next).shell = shell := by
  cases argument with
  | ok value => exact later value failed
  | error other => rfl

/-- A byte that cannot be set leaves the shell as it was. -/
theorem shell_write_of_error {slot page offset byte : String} {cause : ShellError}
    (failed : (shell.answer ["write", slot, page, offset, byte]).result = .error cause) :
    (shell.answer ["write", slot, page, offset, byte]).shell = shell :=
  shell_withArgument_of_error failed fun _ failed =>
    shell_withArgument_of_error failed fun _ failed =>
      shell_withArgument_of_error failed fun _ failed =>
        shell_withArgument_of_error failed nofun

/-- What the books of a shell are good for. -/
structure Booked (shell : Shell) : Prop where
  /-- No file is in two slots. -/
  apart : shell.slots.toList.Nodup
  /-- There are as many handles to a page as the page has pins. -/
  counts : ∀ key, (shell.handlesOf key).length = shell.pool.pinsOn key
  /-- Every handle reaches the page that it is kept under. -/
  honoured : ∀ key, ∀ handle ∈ shell.handlesOf key,
    handle.key = key ∧ ∃ occupant, shell.pool.Honours shell.storage handle occupant
  /-- A command that fails changes no slot, no handle and no pins. -/
  failed : ∀ words cause, (shell.answer words).result = .error cause →
    shell.SameBooks (shell.answer words).shell
  /-- A byte of a page in use can be set exactly if it lies within the page. -/
  write : ∀ {slot page offset byte : String} {key : PageKey} {place value : Nat},
    shell.key slot page = .ok key → number numberLimit offset = .ok place →
    number byteLimit byte = .ok value →
    (shell.answer ["write", slot, page, offset, byte]).result =
      if shell.pool.pinsOn key = 0 then .error (.notPinned key.page)
      else if place < pageSize then .ok [] else .error (.outOfRange place)
  /-- It is then that byte of the page in its frame that is set, and nothing else changes. -/
  set : ∀ {slot page offset byte : String} {key : PageKey} {place value : Nat},
    shell.key slot page = .ok key → number numberLimit offset = .ok place →
    number byteLimit byte = .ok value → shell.pool.pinsOn key ≠ 0 →
    ∀ inside : place < pageSize, ∃ frame occupant,
      (shell.pool.frame frame).occupant = some occupant ∧ occupant.key = key ∧
        (shell.answer ["write", slot, page, offset, byte]).shell =
          { shell with pool := shell.pool.updateFrame frame fun held =>
              held.filled (occupant.page.data.set place (.ofNat value)) }
  /-- Otherwise nothing changes at all. -/
  unset : ∀ (slot page offset byte : String) (cause : ShellError),
    (shell.answer ["write", slot, page, offset, byte]).result = .error cause →
      (shell.answer ["write", slot, page, offset, byte]).shell = shell
  /-- The pool never refuses to set a byte. -/
  allowed : ∀ (slot page offset byte : String) (cause : PoolError),
    (shell.answer ["write", slot, page, offset, byte]).result ≠ .error (.pool cause)

/-! ### Arguments that do not parse -/

theorem bind_ne_error {First Second : Type} {argument : Except ShellError First}
    {next : First → Except ShellError Second} {cause : ShellError}
    (early : argument ≠ .error cause) (late : ∀ value, next value ≠ .error cause) :
    argument.bind next ≠ .error cause := by
  cases argument with
  | ok value => exact late value
  | error other => exact fun equal => early (congrArg Except.error (Except.error.inj equal))

theorem number_ne_error_pool (limit : Nat) (text : String) (cause : PoolError) :
    number limit text ≠ .error (.pool cause) := by
  unfold number
  cases Text.readNumeral limit text with
  | ok | error => nofun

theorem file_ne_error_pool (shell : Shell) (slot : String) (cause : PoolError) :
    shell.file slot ≠ .error (.pool cause) := by
  unfold file
  split
  · nofun
  · split
    · nofun
    · nofun

theorem key_ne_error_pool (shell : Shell) (slot page : String) (cause : PoolError) :
    shell.key slot page ≠ .error (.pool cause) :=
  bind_ne_error (shell.file_ne_error_pool slot cause) fun _ =>
    bind_ne_error (number_ne_error_pool numberLimit page cause) nofun

/-- Whatever the commands, whether or not they fail, and whatever happens to the files on disk, the
books of the shell are in order. -/
theorem booked_of_attended {config : Config} {system : FileSystem} {first : Shell}
    {events : List Event}
    (launched : launch config { Storage.empty with system } = .ok (first, events))
    (attended : Attended first shell) : shell.Booked := by
  have kept : shell.Kept := attended.kept (kept_launch launched)
  refine ⟨kept.apart, kept.counts, fun key handle held => ?_, fun words cause failed => ?_, ?_, ?_,
    fun _ _ _ _ _ => shell_write_of_error, ?_⟩
  · obtain ⟨own, names⟩ := kept.names key handle held
    exact ⟨own, kept.sound.honours names (kept.accepts held)⟩
  · exact (kept.answer words).same cause failed
  · intro slot page offset byte key place value keyed placed valued
    rw [kept.result_write, keyed, placed, valued]
    rfl
  · intro slot page offset byte key place value keyed placed valued pinned inside
    obtain ⟨frame, occupant, occupied, own, poked⟩ :=
      kept.exists_poke pinned inside (UInt8.ofNat value)
    have command : shell.answer ["write", slot, page, offset, byte] =
        shell.write slot page offset byte := rfl
    refine ⟨frame, occupant, occupied, own, ?_⟩
    simp only [command, Shell.write, keyed, placed, valued, withArgument, poked]
    rfl
  · intro slot page offset byte cause failed
    rw [kept.result_write] at failed
    revert failed
    refine bind_ne_error (shell.key_ne_error_pool slot page cause) fun key =>
      bind_ne_error (number_ne_error_pool numberLimit offset cause) fun place =>
        bind_ne_error (number_ne_error_pool byteLimit byte cause) fun _ => ?_
    split
    · nofun
    · split
      · nofun
      · nofun

/-- A page is appended and pinned once more in the only frame, so that the next page cannot be
appended. -/
theorem booked_of_attended_one_frame :
    let place : Location := ⟨FileSystem.nameless, "a"⟩
    let system := FileSystem.empty.setBytes place .empty
    let first := start (.empty ⟨1, true⟩) { Storage.empty with system }
    let used := (((first.answer ["open", "a"]).shell.answer ["alloc", "0"]).shell.answer
      ["fetch", "0", "0"]).shell
    let shell := (used.answer ["alloc", "0"]).shell
    launch ⟨1, true⟩ { Storage.empty with system } = .ok (first, [.poolMade 1]) ∧
      Attended first shell ∧ shell.Booked ∧ shell.pool.pinsOn ⟨⟨1⟩, 0⟩ = 2 ∧
      (shell.answer ["write", "0", "0", "4096", "1"]).result = .error (.outOfRange 4096) := by
  intro place system first used shell
  have launched : launch ⟨1, true⟩ { Storage.empty with system } =
    .ok (first, [.poolMade 1]) := rfl
  have attended : Attended first shell := ((((Attended.start.answer _).answer _).answer _).answer _)
  have booked : shell.Booked := booked_of_attended launched attended
  have given : first.storage.openDisk "a" = .ok (⟨1⟩, ⟨"a", .regular place, 0, ∅⟩,
      (first.storage.add (.disk ⟨"a", .regular place, 0, ∅⟩)).2) :=
    Storage.openDisk_plainName .empty rfl rfl
  have opened : (first.answer ["open", "a"]).shell =
      { first with
        storage := (first.storage.add (.disk ⟨"a", .regular place, 0, ∅⟩)).2
        slots := #[⟨1⟩] } := by
    have command : first.answer ["open", "a"] = first.openFile "a" := rfl
    rw [command, openFile, given]
    rfl
  have pins : shell.pool.pinsOn ⟨⟨1⟩, 0⟩ = 2 := by
    simp only [shell, used, opened]
    decide +kernel
  have key : shell.key "0" "0" = .ok ⟨⟨1⟩, 0⟩ := by
    simp only [shell, used, opened]
    decide +kernel
  have offset : number numberLimit "4096" = .ok 4096 := by decide
  have byte : number byteLimit "1" = .ok 1 := by decide
  refine ⟨launched, attended, booked, pins, ?_⟩
  rw [booked.write key offset byte, pins]
  rfl

end Shell

end PageCache
