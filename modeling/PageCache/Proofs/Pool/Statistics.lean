import PageCache.Proofs.Pool.Checked
import PageCache.Proofs.Pool.Consistency
import PageCache.Proofs.Pool.History

/-!
# Statistics

A pool counts its hits and misses, its evictions and the pages that it wrote back. Main statement:
whatever a new pool has done and wherever it failed, its counters tell its history: the fetches of
resident pages and all others, the successful writes that it asked of files, and the pages that a
fetch or an allocation removed. The frames that hold a page are then those filled by a fetch or an
allocation, less the pages that were evicted, disposed of or flushed.
-/

namespace PageCache

/-- Whether a file took the bytes of a page. -/
def Call.isSave (call : Call) : Bool :=
  match call.request with
  | .write _ => call.succeeded
  | _ => false

/-- The pages of one pool that are not resident in another. -/
def Pool.missing (before after : Pool) : List PageKey :=
  before.directory.entries.keys.filter fun key => (after.find? key).isNone

namespace Moment

/-- Whether a page was fetched. -/
def isFetch (moment : Moment) : Bool :=
  match moment.action with
  | .fetch _ => true
  | _ => false

/-- Whether a resident page was fetched. -/
def isHit (moment : Moment) : Bool :=
  match moment.action with
  | .fetch key => (moment.pool.find? key).isSome
  | _ => false

/-- Whether a page was fetched that was not resident. -/
def isMiss (moment : Moment) : Bool :=
  match moment.action with
  | .fetch key => (moment.pool.find? key).isNone
  | _ => false

/-- Whether a page was allocated. -/
def isAllocation (moment : Moment) : Bool :=
  match moment.action with
  | .allocate _ => true
  | _ => false

/-- Whether a resident page was disposed of. -/
def isRemoval (moment : Moment) : Bool :=
  match moment.action with
  | .dispose key => (moment.pool.find? key).isSome
  | _ => false

/-- Whether the action succeeded. -/
def succeeds (moment : Moment) : Bool := moment.outcome.result.isOk

/-- What the action asked of the files. -/
def calls (moment : Moment) : List Call :=
  moment.outcome.storage.calls.toList.drop moment.storage.calls.size

/-- The pages that a fetch or an allocation removed from the pool. -/
def evicted (moment : Moment) : List PageKey :=
  match moment.action with
  | .fetch _ | .allocate _ => moment.pool.missing moment.outcome.pool
  | _ => []

/-- The frames that a flush made free. -/
def cleared (moment : Moment) : List Nat :=
  match moment.action with
  | .flush _ => (List.range moment.pool.size).filter fun number =>
      (moment.pool.frame number).valid && !(moment.outcome.pool.frame number).valid
  | _ => []

/-- The total of a measure over a history. -/
def total (measure : Moment → Nat) : List Moment → Nat
  | [] => 0
  | moment :: past => total measure past + measure moment

theorem total_cons (measure : Moment → Nat) (moment : Moment) (past : List Moment) :
    total measure (moment :: past) = total measure past + measure moment := rfl

end Moment

/-- The counters of a pool tell what it has done. -/
structure Pool.Accounts (pool : Pool) (past : List Moment) : Prop where
  /-- Every fetch counts once. -/
  fetches : pool.stats.hits + pool.stats.misses = past.countP Moment.isFetch
  /-- The hits are the fetches of resident pages. -/
  hits : pool.stats.hits = past.countP Moment.isHit
  /-- No such fetch fails. -/
  hitsSucceed : ∀ moment ∈ past, moment.isHit = true → moment.succeeds = true
  /-- The misses are the other fetches, whether or not they failed. -/
  misses : pool.stats.misses = past.countP Moment.isMiss
  /-- The journal of requests only grew. -/
  journal : ∀ moment ∈ past,
    moment.outcome.storage.calls.toList = moment.storage.calls.toList ++ moment.calls
  /-- The pages written back are the successful writes that were asked of files. -/
  writeBacks : pool.stats.writeBacks =
    Moment.total (fun moment => moment.calls.countP Call.isSave) past
  /-- The evictions are the pages that fetches and allocations removed. -/
  evictions : pool.stats.evictions = Moment.total (fun moment => moment.evicted.length) past
  /-- The frames with a page are those that were filled, less those that were made free. -/
  validFrames : pool.snapshot.validFrames + pool.stats.evictions + past.countP Moment.isRemoval +
      Moment.total (fun moment => moment.cleared.length) past =
    past.countP (fun moment => moment.isMiss && moment.succeeds) +
      past.countP fun moment => moment.isAllocation && moment.succeeds

/-! ## Work that counts the pages written -/

/-- Between two worlds fetches were not counted and every successful write was. -/
structure World.Works (before after : World) : Prop where
  /-- No hit was counted. -/
  hits : after.1.stats.hits = before.1.stats.hits
  /-- No miss was counted. -/
  misses : after.1.stats.misses = before.1.stats.misses
  /-- The journal grew, and the successful writes in it were counted. -/
  writeBacks : ∃ calls, after.2.calls.toList = before.2.calls.toList ++ calls ∧
    after.1.stats.writeBacks = before.1.stats.writeBacks + calls.countP Call.isSave

namespace World.Works

variable {first second third : World}

/-- Work without requests that counts no fetch and no write. -/
theorem of_eq {before after : Pool} {storage : Storage}
    (hits : after.stats.hits = before.stats.hits)
    (misses : after.stats.misses = before.stats.misses)
    (writeBacks : after.stats.writeBacks = before.stats.writeBacks) :
    World.Works (before, storage) (after, storage) :=
  ⟨hits, misses, [], (List.append_nil _).symm, writeBacks⟩

theorem refl (world : World) : world.Works world :=
  of_eq rfl rfl rfl

theorem trans (early : first.Works second) (late : second.Works third) : first.Works third := by
  obtain ⟨calls, journal, counted⟩ := early.writeBacks
  obtain ⟨more, journalLater, countedLater⟩ := late.writeBacks
  refine ⟨late.hits.trans early.hits, late.misses.trans early.misses, calls ++ more, ?_, ?_⟩
  · rw [journalLater, journal, List.append_assoc]
  · rw [countedLater, counted, List.countP_append, Nat.add_assoc]

/-- One request that is not a successful write. -/
theorem of_push {before after : Pool} {storage later : Storage} {call : Call}
    (stats : after.stats = before.stats) (journal : later.calls = storage.calls.push call)
    (other : call.isSave = false) : World.Works (before, storage) (after, later) := by
  refine ⟨congrArg Stats.hits stats, congrArg Stats.misses stats, [call], ?_, ?_⟩
  · rw [journal, Array.toList_push]
  · rw [stats, List.countP_cons_of_neg (by simp [other])]
    rfl

theorem andThen {Value Next : Type} {world : World} {first : Outcome Value}
    {second : Value → Pool → Storage → Outcome Next}
    (early : world.Works (first.pool, first.storage))
    (late : ∀ value pool storage, World.Works (pool, storage)
      ((second value pool storage).pool, (second value pool storage).storage)) :
    world.Works ((first.andThen second).pool, (first.andThen second).storage) :=
  Outcome.andThen_induction (fun pool storage => world.Works (pool, storage)) early
    fun value pool storage reached => reached.trans (late value pool storage)

end World.Works

namespace Pool

theorem works_writeBack (pool : Pool) (storage : Storage) (number : Nat) :
    World.Works (pool, storage)
      ((pool.writeBack storage number).pool, (pool.writeBack storage number).storage) := by
  simp only [writeBack]
  split
  · exact .refl _
  · next occupant _ =>
    split
    · split
      · next taken =>
        refine ⟨rfl, rfl, [⟨occupant.key.file, .write occupant.page, true⟩], ?_, rfl⟩
        simp only [Outcome.done, Storage.calls_write, taken, Array.toList_push]
        rfl
      · next cause refused =>
        exact .of_push rfl (storage.calls_write _ _) (by rw [refused]; rfl)
    · exact .refl _

theorem works_evict (pool : Pool) (storage : Storage) (number : Nat) :
    World.Works (pool, storage)
      ((pool.evict storage number).pool, (pool.evict storage number).storage) := by
  simp only [evict]
  split <;> exact .of_eq rfl rfl rfl

theorem works_claim (pool : Pool) (storage : Storage) :
    World.Works (pool, storage) ((pool.claim storage).pool, (pool.claim storage).storage) := by
  have swept : World.Works (pool, storage) (pool.sweep.2, storage) := .of_eq rfl rfl rfl
  simp only [claim]
  split
  · exact .of_eq rfl rfl rfl
  · next number _ =>
    exact .andThen (swept.trans (works_writeBack _ storage number)) fun _ pool storage =>
      works_evict pool storage number
  · exact swept

theorem works_load (pool : Pool) (storage : Storage) (key : PageKey) :
    World.Works (pool, storage)
      ((pool.load storage key).pool, (pool.load storage key).storage) := by
  refine .andThen (works_claim pool storage) fun number pool storage => ?_
  dsimp only
  split <;> exact .of_push rfl (storage.calls_read _ _) rfl

theorem works_allocate (pool : Pool) (storage : Storage) (file : FileIdentity) :
    World.Works (pool, storage)
      ((pool.allocate storage file).pool, (pool.allocate storage file).storage) := by
  refine .andThen (works_claim pool storage) fun number pool storage => ?_
  dsimp only
  split <;> exact .of_push rfl (storage.calls_allocate _) rfl

theorem works_flush (pool : Pool) (storage : Storage) (file : FileIdentity) :
    World.Works (pool, storage)
      ((pool.flush storage file).pool, (pool.flush storage file).storage) :=
  flush_induction (fun after later => World.Works (pool, storage) (after, later))
    (fun after later number reached => reached.trans (works_writeBack after later number))
    (fun _ _ _ _ reached => reached.trans (.of_eq rfl rfl rfl)) file (.refl (pool, storage))

theorem works_writeBackEach (numbers : List Nat) (pool : Pool) (storage : Storage) :
    World.Works (pool, storage)
      ((pool.writeBackEach storage numbers).pool, (pool.writeBackEach storage numbers).storage) :=
  writeBackEach_induction (fun after later => World.Works (pool, storage) (after, later))
    (fun after later number reached => reached.trans (works_writeBack after later number))
    numbers (.refl (pool, storage))

end Pool

/-! ## Pages that leave the pool -/

theorem Directory.mem_keys {directory : Directory} {key : PageKey} :
    key ∈ directory.entries.keys ↔ (directory.get? key).isSome = true := by
  rw [Std.TreeMap.mem_keys, Std.TreeMap.mem_iff_isSome_getElem?, get?]

theorem Directory.size_erase_add_one {directory : Directory} {key : PageKey} {number : Nat}
    (listed : directory.get? key = some number) :
    (directory.erase key).size + 1 = directory.size := by
  have positive : 0 < directory.size := by
    rw [size, ← Std.TreeMap.length_keys]
    exact List.length_pos_of_mem (mem_keys.mpr (by rw [listed, Option.isSome_some]))
  rw [size_erase, if_pos (by rw [listed, Option.isSome_some])]
  omega

namespace Pool

variable {pool before after : Pool} {storage : Storage}

/-- If no page becomes resident, those that are missing make up for the difference. -/
theorem length_missing (absent : ∀ key, before.find? key = none → after.find? key = none) :
    (before.missing after).length + after.directory.size = before.directory.size := by
  -- Nothing comes in, so the entries that stay are all entries of the later directory.
  let stays := fun key => (after.find? key).isSome
  have stay : (before.directory.entries.keys.filter stays).Perm after.directory.entries.keys := by
    refine (List.perm_ext_iff_of_nodup (Std.TreeMap.nodup_keys.filter _)
      Std.TreeMap.nodup_keys).mpr fun key => ?_
    rw [List.mem_filter, Directory.mem_keys, Directory.mem_keys]
    refine and_iff_right_of_imp ?_
    intro resident
    by_contra gone
    have none : before.find? key = none := by simpa [find?] using gone
    have still : (after.find? key).isSome = true := resident
    rw [absent key none] at still
    cases still
  have others : (before.missing after).length =
      before.directory.entries.keys.countP fun key => decide ¬stays key = true := by
    rw [missing, ← List.countP_eq_length_filter]
    refine List.countP_congr fun key _ => ?_
    simp [stays]
  have kept := stay.length_eq
  rw [← List.countP_eq_length_filter] at kept
  have all := List.length_eq_countP_add_countP stays (l := before.directory.entries.keys)
  rw [Std.TreeMap.length_keys] at kept all
  rw [others, Directory.size, Directory.size]
  omega

/-- The page that is put into a frame is none of those that were there before. -/
theorem missing_install {file : FileIdentity} {page : Page}
    (absent : pool.find? ⟨file, page.number⟩ = none) (after : Pool) (number : Nat) :
    pool.missing (after.install number file page).2 = pool.missing after := by
  refine List.filter_congr fun other listed => ?_
  have different : (⟨file, page.number⟩ : PageKey) ≠ other := by
    rintro rfl
    have resident : (pool.find? ⟨file, page.number⟩).isSome = true := Directory.mem_keys.mp listed
    rw [absent] at resident
    cases resident
  rw [find?_install, if_neg different]

/-- Writing a page back removes no page and counts no eviction. -/
theorem tables_writeBack (pool : Pool) (storage : Storage) (number : Nat) :
    (pool.writeBack storage number).pool.directory = pool.directory ∧
      (pool.writeBack storage number).pool.stats.evictions = pool.stats.evictions := by
  rcases pool_writeBack_eq pool storage number with same | cleaned
  · rw [same]
    exact ⟨rfl, rfl⟩
  · rw [cleaned]
    exact ⟨rfl, rfl⟩

/-- An eviction counts the page that it removes. -/
theorem Sound.evictions_evict (sound : pool.Sound storage) (number : Nat) :
    (pool.evict storage number).pool.stats.evictions +
        (pool.evict storage number).pool.directory.size =
      pool.stats.evictions + pool.directory.size := by
  simp only [evict]
  split
  · rfl
  · next key held =>
    have erased := Directory.size_erase_add_one ((sound.directory key number).mpr held)
    change pool.stats.evictions + 1 + (pool.directory.erase key).size = _
    omega

/-- A claim counts each page that it removes. -/
theorem Sound.evictions_claim (sound : pool.Sound storage) :
    (pool.claim storage).pool.stats.evictions + (pool.claim storage).pool.directory.size =
      pool.stats.evictions + pool.directory.size := by
  simp only [claim]
  split
  · rfl
  · next number _ =>
    have swept : pool.sweep.2.Sound storage := Upkeeps.sound (pool.upkeeps_sweep storage) sound
    have cleaned := Upkeeps.sound (upkeeps_writeBack pool.sweep.2 storage number) swept
    have written : (pool.sweep.2.writeBack storage number).pool.stats.evictions +
        (pool.sweep.2.writeBack storage number).pool.directory.size =
          pool.stats.evictions + pool.directory.size := by
      obtain ⟨directory, evictions⟩ := tables_writeBack pool.sweep.2 storage number
      rw [directory, evictions]
      rfl
    cases done : (pool.sweep.2.writeBack storage number).result with
    | error cause =>
        rw [Outcome.andThen_of_error done]
        exact written
    | ok value =>
        rw [Outcome.andThen_of_ok done]
        exact (cleaned.evictions_evict number).trans written
  · rfl

/-- A claimed frame is filled if the outcome has a value; if not, only the claim was made. -/
inductive Fills (pool : Pool) (storage : Storage) : Outcome Handle → Prop
  /-- The frame could not be claimed or the page could not be had. -/
  | fail (cause : PoolError) (later : Storage) (events : List Event) :
      Fills pool storage (.failed cause (pool.claim storage).pool later events)
  /-- A page that was not resident is put into the frame. -/
  | fill (number : Nat) {file : FileIdentity} {page : Page} (handle : Handle) (later : Storage)
      (events : List Event) (absent : pool.find? ⟨file, page.number⟩ = none) :
      Fills pool storage
        (.done handle ((pool.claim storage).pool.install number file page).2 later events)

theorem fills_load {key : PageKey} (absent : pool.find? key = none) (storage : Storage) :
    pool.Fills storage (pool.load storage key) := by
  simp only [load]
  cases claimed : (pool.claim storage).result with
  | error cause =>
      rw [Outcome.andThen_of_error claimed]
      exact .fail ..
  | ok number =>
      rw [Outcome.andThen_of_ok claimed]
      dsimp only
      split
      · exact .fail ..
      · next page given =>
        refine .fill number _ _ _ ?_
        rw [(Storage.number_of_read given).1]
        exact absent

theorem Sound.fills_allocate (sound : pool.Sound storage) (file : FileIdentity) :
    pool.Fills storage (pool.allocate storage file) := by
  simp only [allocate]
  cases claimed : (pool.claim storage).result with
  | error cause =>
      rw [Outcome.andThen_of_error claimed]
      exact .fail ..
  | ok number =>
      rw [Outcome.andThen_of_ok claimed]
      dsimp only
      split
      · exact .fail ..
      · next page given =>
        refine .fill number _ _ _ ?_
        have upkeeps := upkeeps_claim storage sound.face sound.positive
        rw [(Storage.next_allocate_of_ok given file).1, Upkeeps.next_eq upkeeps]
        exact sound.find?_next file

theorem size_directory_install {file : FileIdentity} {page : Page}
    (absent : pool.find? ⟨file, page.number⟩ = none) (number : Nat) :
    (pool.install number file page).2.directory.size = pool.directory.size + 1 := by
  have listed : pool.directory.get? ⟨file, page.number⟩ = none := absent
  exact (Directory.size_insert ..).trans (if_neg (by simp [listed]))

/-- What fills a frame counts the pages that it removes, and one page comes in if it succeeds. -/
theorem Sound.turnover (sound : pool.Sound storage) {outcome : Outcome Handle}
    (fills : pool.Fills storage outcome) :
    outcome.pool.stats.evictions =
        pool.stats.evictions + (pool.missing outcome.pool).length ∧
      outcome.pool.directory.size + (pool.missing outcome.pool).length =
        pool.directory.size + if outcome.result.isOk then 1 else 0 := by
  have upkeeps := upkeeps_claim storage sound.face sound.positive
  have balance := sound.evictions_claim
  have missing : (pool.missing (pool.claim storage).pool).length +
      (pool.claim storage).pool.directory.size = pool.directory.size :=
    length_missing fun _ absent => find?_of_upkeeps upkeeps absent
  cases fills with
  | fail cause later events =>
      have evictions : (pool.claim storage).pool.stats.evictions =
          pool.stats.evictions + (pool.missing (pool.claim storage).pool).length := by
        omega
      exact ⟨evictions, (Nat.add_comm ..).trans missing⟩
  | @fill number file page handle later events absent =>
      have gone := find?_of_upkeeps upkeeps absent
      have size := size_directory_install gone number
      have stats : ((pool.claim storage).pool.install number file page).2.stats =
          (pool.claim storage).pool.stats := rfl
      dsimp only [Outcome.done] at size ⊢
      rw [missing_install absent, size, stats]
      refine ⟨by omega, ?_⟩
      change _ = pool.directory.size + 1
      omega

theorem tables_writeBackEach (numbers : List Nat) (pool : Pool) (storage : Storage) :
    (pool.writeBackEach storage numbers).pool.directory = pool.directory ∧
      (pool.writeBackEach storage numbers).pool.stats.evictions = pool.stats.evictions := by
  refine writeBackEach_induction
    (fun after _ => after.directory = pool.directory ∧
      after.stats.evictions = pool.stats.evictions) ?_ numbers ⟨rfl, rfl⟩
  intro after later number same
  obtain ⟨directory, evictions⟩ := tables_writeBack after later number
  exact ⟨directory.trans same.1, evictions.trans same.2⟩

/-- What a flush makes free is not counted as evicted. -/
theorem evictions_flush (pool : Pool) (storage : Storage) (file : FileIdentity) :
    (pool.flush storage file).pool.stats.evictions = pool.stats.evictions :=
  flush_induction (fun after _ => after.stats.evictions = pool.stats.evictions)
    (fun after later number same => (tables_writeBack after later number).2.trans same)
    (fun _ _ _ _ same => same) file rfl

end Pool

/-- No upkeep puts a page into a frame. -/
theorem Upkeep.occupant_eq_none {before after : World} (step : Upkeep before after) {number : Nat}
    (free : (before.1.frame number).occupant = none) :
    (after.1.frame number).occupant = none := by
  cases step with
  | tally | refuse => exact free
  | unmark other | @clean _ _ other =>
      rw [Pool.frame_updateFrame]
      split
      · next equal => rw [Frame.occupant_update, equal, free, Option.map_none]
      · exact free
  | @vacate _ _ other | @renew _ _ other =>
      refine (Pool.occupant_clearFrame _ other number).trans ?_
      split
      · rfl
      · exact free

theorem Upkeeps.occupant_eq_none {before after : World} (upkeeps : Upkeeps before after)
    {number : Nat} (free : (before.1.frame number).occupant = none) :
    (after.1.frame number).occupant = none := by
  induction upkeeps with
  | refl => exact free
  | tail _ step induction => exact step.occupant_eq_none induction

namespace Pool

variable {pool : Pool} {storage : Storage}

theorem validFrames_eq_countP (pool : Pool) :
    pool.snapshot.validFrames =
      (List.range pool.size).countP fun number => (pool.frame number).valid := by
  simp only [snapshot, toList_frames, List.countP_map]
  rfl

/-- The frames that are made free make up for the difference. -/
theorem validFrames_of_upkeeps {after : World} (upkeeps : Upkeeps (pool, storage) after) :
    after.1.snapshot.validFrames + ((List.range pool.size).filter fun number =>
        (pool.frame number).valid && !(after.1.frame number).valid).length =
      pool.snapshot.validFrames := by
  have size : after.1.size = pool.size := Upkeeps.size_eq upkeeps
  have none : ∀ number, (after.1.frame number).valid = true → (pool.frame number).valid = true := by
    intro number valid
    by_contra free
    have gone := Upkeeps.occupant_eq_none upkeeps (Option.not_isSome_iff_eq_none.mp free)
    rw [Frame.valid, gone] at valid
    cases valid
  rw [validFrames_eq_countP, validFrames_eq_countP, size, ← List.countP_eq_length_filter]
  induction List.range pool.size with
  | nil => rfl
  | cons number rest induction =>
      have one := none number
      simp only [List.countP_cons]
      cases held : (pool.frame number).valid <;> cases still : (after.1.frame number).valid <;>
        simp_all <;> omega

end Pool

/-! ## One action -/

theorem Outcome.isOk_map {Value Next : Type} (outcome : Outcome Value) (change : Value → Next) :
    (outcome.map change).result.isOk = outcome.result.isOk := by
  cases given : outcome.result <;> simp [map, given, Except.map, Except.isOk, Except.toBool]

namespace Pool

theorem stats_forget (pool : Pool) (key : PageKey) :
    (pool.forget key).1.stats = pool.stats := by
  simp only [forget]
  split <;> rfl

theorem size_forget (pool : Pool) (key : PageKey) :
    ((pool.forget key).1.directory.size + if (pool.find? key).isSome then 1 else 0) =
      pool.directory.size := by
  simp only [forget]
  split
  · next absent => rw [absent]; rfl
  · next number resident =>
    rw [resident]
    exact Directory.size_erase_add_one resident

theorem tables_releasePage (pool : Pool) (storage : Storage) (key : PageKey) (dirty : Bool) :
    (pool.releasePage storage key dirty).pool.directory = pool.directory ∧
      (pool.releasePage storage key dirty).pool.stats = pool.stats := by
  simp only [releasePage]
  split
  · exact ⟨rfl, rfl⟩
  · split <;> exact ⟨rfl, rfl⟩

theorem tables_release (pool : Pool) (storage : Storage) (handle : Handle) (dirty : Bool) :
    (pool.release storage handle dirty).pool.directory = pool.directory ∧
      (pool.release storage handle dirty).pool.stats = pool.stats := by
  simp only [release]
  split
  · exact tables_releasePage pool storage handle.key dirty
  · exact ⟨rfl, rfl⟩

theorem tables_write (pool : Pool) (storage : Storage) (handle : Handle) (data : PageData) :
    (pool.write storage handle data).pool.directory = pool.directory ∧
      (pool.write storage handle data).pool.stats = pool.stats := by
  simp only [write]
  split <;> exact ⟨rfl, rfl⟩

end Pool

/-- No effect counts anything, and none writes to a file. -/
theorem Effect.works {action : Action} {before after : World}
    {result : Except PoolError (Option Handle)} (effect : Effect action before result after) :
    before.Works after := by
  induction effect with
  | fail | ignore | flush | writeBackAll => exact .refl _
  | hit | unpin | put => exact .of_eq rfl rfl rfl
  | load | unread => exact .of_push rfl (Storage.calls_read ..) rfl
  | create | uncreated => exact .of_push rfl (Storage.calls_allocate ..) rfl
  | handBack _ _ induction => exact induction
  | erase | drop => exact .of_push (Pool.stats_forget ..) (Storage.calls_delete ..) rfl

namespace Moment

/-- The pool that has counted the fetch, if the action is one. -/
def counted (moment : Moment) : Pool :=
  moment.pool.count fun stats =>
    { stats with
      hits := stats.hits + if moment.isHit then 1 else 0
      misses := stats.misses + if moment.isMiss then 1 else 0 }

/-- The rest of an action counts no fetch and every successful write. -/
theorem works (moment : Moment) :
    World.Works (moment.counted, moment.storage) (moment.outcome.pool, moment.outcome.storage) := by
  obtain ⟨pool, storage, action⟩ := moment
  cases action with
  | fetch key =>
      cases resident : pool.find? key with
      | some number =>
          simp only [counted, isHit, isMiss, outcome, Pool.act, Pool.fetch, resident]
          exact .of_eq rfl rfl rfl
      | none =>
          simp only [counted, isHit, isMiss, outcome, Pool.act, Pool.fetch, resident]
          exact Pool.works_load _ storage key
  | allocate file => exact Pool.works_allocate pool storage file
  | releasePage key dirty => exact (Pool.effect_releasePage pool storage key dirty).works
  | release handle dirty => exact (Pool.effect_release pool storage handle dirty).works
  | dispose key => exact (Pool.effect_dispose pool storage key).works
  | flush file => exact Pool.works_flush pool storage file
  | writeBackAll => exact Pool.works_writeBackEach _ pool storage
  | write handle data => exact (Pool.effect_write pool storage handle data).works

/-- What an action asked of the files is what its journal has more. -/
theorem journal (moment : Moment) :
    moment.outcome.storage.calls.toList = moment.storage.calls.toList ++ moment.calls := by
  obtain ⟨calls, grown, -⟩ := moment.works.writeBacks
  dsimp only at grown
  rw [Moment.calls, grown, List.drop_left' Array.length_toList]

theorem writeBacks_eq (moment : Moment) :
    moment.outcome.pool.stats.writeBacks =
      moment.pool.stats.writeBacks + moment.calls.countP Call.isSave := by
  obtain ⟨calls, grown, written⟩ := moment.works.writeBacks
  obtain rfl := List.append_cancel_left (grown.symm.trans moment.journal)
  exact written

/-- A fetch of a resident page does not fail. -/
theorem succeeds_of_isHit {moment : Moment} (hit : moment.isHit = true) :
    moment.succeeds = true := by
  obtain ⟨pool, storage, action⟩ := moment
  cases action with
  | fetch key =>
      obtain ⟨number, resident⟩ := Option.isSome_iff_exists.mp hit
      simp only [succeeds, outcome, Pool.act, Pool.fetch, resident]
      rfl
  | _ => cases hit

/-- An action counts the pages that it removes to make room, and the pages in the pool are those
from before less those that it removed, with one more if it filled a frame. -/
structure Turns (moment : Moment) : Prop where
  /-- The evictions are counted. -/
  evictions : moment.outcome.pool.stats.evictions =
    moment.pool.stats.evictions + moment.evicted.length
  /-- The pages come in and go one by one. -/
  entries : moment.outcome.pool.directory.size + moment.evicted.length +
      (if moment.isRemoval then 1 else 0) + moment.cleared.length =
    moment.pool.directory.size + (if moment.isMiss && moment.succeeds then 1 else 0) +
      if moment.isAllocation && moment.succeeds then 1 else 0

/-- An action that removes and fills nothing keeps the number of pages. -/
theorem turns_of_eq {moment : Moment}
    (directory : moment.outcome.pool.directory = moment.pool.directory)
    (evictions : moment.outcome.pool.stats.evictions = moment.pool.stats.evictions)
    (evicted : moment.evicted = []) (cleared : moment.cleared = [])
    (removal : moment.isRemoval = false) (miss : moment.isMiss = false)
    (allocation : moment.isAllocation = false) : moment.Turns :=
  ⟨by rw [evictions, evicted]; rfl,
    by simp [directory, evicted, cleared, removal, miss, allocation]⟩

variable {pool : Pool} {storage : Storage}

theorem turns_fetch (sound : pool.Sound storage) (key : PageKey) :
    Turns ⟨pool, storage, .fetch key⟩ := by
  cases resident : pool.find? key with
  | some number =>
      have directory : (pool.fetch storage key).pool.directory = pool.directory := by
        simp only [Pool.fetch, resident]
        rfl
      have evictions : (pool.fetch storage key).pool.stats.evictions = pool.stats.evictions := by
        simp only [Pool.fetch, resident]
        rfl
      have none : (pool.missing (pool.fetch storage key).pool).length = 0 := by
        have missing := Pool.length_missing fun other (absent : pool.find? other = none) =>
          show (pool.fetch storage key).pool.find? other = none by rwa [Pool.find?, directory]
        rw [directory] at missing
        omega
      exact turns_of_eq directory evictions (List.length_eq_zero_iff.mp none) rfl rfl
        (by simp [isMiss, resident]) rfl
  | none =>
      let missed := pool.count fun stats => { stats with misses := stats.misses + 1 }
      have soundMissed : missed.Sound storage := sound.tally _ rfl
      have same : pool.fetch storage key = missed.load storage key :=
        Pool.fetch_of_absent resident storage
      have absent : missed.find? key = none := resident
      obtain ⟨evictions, entries⟩ := soundMissed.turnover (Pool.fills_load absent storage)
      rw [← same, ← Outcome.isOk_map] at entries
      rw [← same] at evictions
      refine ⟨evictions, ?_⟩
      have miss : isMiss ⟨pool, storage, .fetch key⟩ = true := by simp [isMiss, resident]
      rw [miss]
      exact entries

theorem turns_allocate (sound : pool.Sound storage) (file : FileIdentity) :
    Turns ⟨pool, storage, .allocate file⟩ := by
  obtain ⟨evictions, entries⟩ := sound.turnover (sound.fills_allocate file)
  rw [← Outcome.isOk_map] at entries
  exact ⟨evictions, entries⟩

theorem turns_releasePage (key : PageKey) (dirty : Bool) :
    Turns ⟨pool, storage, .releasePage key dirty⟩ := by
  obtain ⟨directory, stats⟩ := pool.tables_releasePage storage key dirty
  exact turns_of_eq directory (congrArg Stats.evictions stats) rfl rfl rfl rfl rfl

theorem turns_release (handle : Handle) (dirty : Bool) :
    Turns ⟨pool, storage, .release handle dirty⟩ := by
  obtain ⟨directory, stats⟩ := pool.tables_release storage handle dirty
  exact turns_of_eq directory (congrArg Stats.evictions stats) rfl rfl rfl rfl rfl

theorem turns_write (handle : Handle) (data : PageData) :
    Turns ⟨pool, storage, .write handle data⟩ := by
  obtain ⟨directory, stats⟩ := pool.tables_write storage handle data
  exact turns_of_eq directory (congrArg Stats.evictions stats) rfl rfl rfl rfl rfl

theorem turns_dispose (key : PageKey) : Turns ⟨pool, storage, .dispose key⟩ := by
  have after : (pool.act storage (.dispose key)).pool = (pool.forget key).1 := by
    simp only [Pool.act, Outcome.map, Pool.dispose]
    split <;> rfl
  refine ⟨?_, ?_⟩
  · rw [outcome, after, Pool.stats_forget]
    rfl
  · rw [outcome, after]
    exact pool.size_forget key

theorem turns_flush (sound : pool.Sound storage) (file : FileIdentity) :
    Turns ⟨pool, storage, .flush file⟩ := by
  have upkeeps := Pool.upkeeps_flush pool storage file
  have after := Upkeeps.sound upkeeps sound
  have balance := Pool.validFrames_of_upkeeps upkeeps
  rw [after.validFrames_eq_entries, sound.validFrames_eq_entries] at balance
  exact ⟨Pool.evictions_flush pool storage file, balance⟩

theorem turns_writeBackAll : Turns ⟨pool, storage, .writeBackAll⟩ := by
  obtain ⟨directory, evictions⟩ := Pool.tables_writeBackEach (List.range pool.size) pool storage
  exact turns_of_eq directory evictions rfl rfl rfl rfl rfl

/-- Every action of a sound pool counts what it removes and fills. -/
theorem turns (sound : pool.Sound storage) (action : Action) : Turns ⟨pool, storage, action⟩ := by
  cases action with
  | fetch key => exact turns_fetch sound key
  | allocate file => exact turns_allocate sound file
  | releasePage key dirty => exact turns_releasePage key dirty
  | release handle dirty => exact turns_release handle dirty
  | dispose key => exact turns_dispose key
  | flush file => exact turns_flush sound file
  | writeBackAll => exact turns_writeBackAll
  | write handle data => exact turns_write handle data

/-- A fetch is a hit or a miss. -/
theorem isFetch_eq (moment : Moment) :
    (if moment.isFetch then 1 else 0) =
      (if moment.isHit then 1 else 0) + if moment.isMiss then 1 else 0 := by
  obtain ⟨pool, storage, action⟩ := moment
  cases action with
  | fetch key =>
      cases resident : pool.find? key <;> simp [isFetch, isHit, isMiss, resident]
  | _ => rfl

end Moment

namespace Pool.Accounts

variable {pool : Pool} {storage : Storage} {past : List Moment}

/-- One more action is accounted for. -/
theorem act (accounts : pool.Accounts past) (sound : pool.Sound storage) (action : Action) :
    (pool.act storage action).pool.Accounts (⟨pool, storage, action⟩ :: past) := by
  let moment : Moment := ⟨pool, storage, action⟩
  have hits : moment.outcome.pool.stats.hits = pool.stats.hits + if moment.isHit then 1 else 0 :=
    moment.works.hits
  have misses : moment.outcome.pool.stats.misses =
      pool.stats.misses + if moment.isMiss then 1 else 0 :=
    moment.works.misses
  have turns : moment.Turns := Moment.turns sound action
  have after : moment.outcome.pool.Sound moment.outcome.storage := sound.act action
  change moment.outcome.pool.Accounts (moment :: past)
  refine
    { fetches := ?_
      hits := ?_
      hitsSucceed := ?_
      misses := ?_
      journal := ?_
      writeBacks := ?_
      evictions := ?_
      validFrames := ?_ }
  · rw [List.countP_cons, moment.isFetch_eq, hits, misses, ← accounts.fetches]
    omega
  · rw [List.countP_cons, hits, accounts.hits]
  · exact List.forall_mem_cons.mpr ⟨Moment.succeeds_of_isHit, accounts.hitsSucceed⟩
  · rw [List.countP_cons, misses, accounts.misses]
  · exact List.forall_mem_cons.mpr ⟨moment.journal, accounts.journal⟩
  · rw [Moment.total_cons, moment.writeBacks_eq, accounts.writeBacks]
  · rw [Moment.total_cons, turns.evictions, accounts.evictions]
  · -- The directory of a sound pool has one entry for each valid frame, and entries are what
    -- an action is known to add and remove.
    have balance := accounts.validFrames
    have entries := turns.entries
    have evictions := turns.evictions
    rw [sound.validFrames_eq_entries] at balance
    rw [after.validFrames_eq_entries]
    simp only [List.countP_cons, Moment.total_cons]
    simp only [Pool.snapshot] at balance ⊢
    dsimp only [moment] at *
    omega

end Pool.Accounts

namespace History

variable {config : Config} {new : Pool} {base : Storage} {past : List Moment} {world : World}

/-- At every point of the history of a new pool its counters tell what it has done. -/
theorem counters_tell_history (made : Pool.ofConfig config = .ok new)
    (history : History (new, base) past world) : world.1.Accounts past := by
  have sound := Pool.sound_ofConfig made base
  induction history with
  | start =>
      obtain rfl := Pool.eq_empty_of_made made
      refine
        { fetches := rfl
          hits := rfl
          hitsSucceed := by simp
          misses := rfl
          journal := by simp
          writeBacks := rfl
          evictions := rfl
          validFrames := ?_ }
      rw [sound.validFrames_eq_entries]
      rfl
  | act history action induction => exact induction.act (history.sound sound) action
  | elsewhere _ _ induction => exact induction

/-- Two frames and three pages: among the actions are a hit, evictions with and without a write, a
fetch that finds no frame, one of a page that its file does not have, a disposal and a flush. -/
theorem counters_tell_history_with_failures :
    let page : Nat → PageKey := fun number => ⟨⟨1⟩, number⟩
    let used := (Pool.empty ⟨2, true⟩).recount (.withSeeded 3) []
      [.fetch (page 0), .fetch (page 0), .fetch (page 1), .releasePage (page 1) true,
        .fetch (page 2), .fetch (page 9), .releasePage (page 2) false, .fetch (page 9),
        .allocate ⟨1⟩, .releasePage (page 3) true, .dispose (page 0), .flush ⟨1⟩]
    used.2.1.Accounts used.1 ∧ used.2.1.stats = ⟨1, 5, 2, 2⟩ ∧
      used.1.countP Moment.isRemoval = 1 ∧
      Moment.total (fun moment => moment.cleared.length) used.1 = 1 ∧
      used.1.countP (fun moment => moment.isMiss && moment.succeeds) = 3 ∧
      used.2.1.snapshot.validFrames = 0 := by
  intro page used
  have made : Pool.ofConfig ⟨2, true⟩ = .ok (.empty ⟨2, true⟩) := rfl
  have history : History (.empty ⟨2, true⟩, .withSeeded 3) used.1 used.2 :=
    History.start.recount _
  exact ⟨history.counters_tell_history made, by decide +kernel, by decide +kernel,
    by decide +kernel, by decide +kernel, by decide +kernel⟩

end History

end PageCache
