import PageCache.Proofs.Pool.Saving
import PageCache.Proofs.Pool.Transparency

/-!
# Pages that outlive their pool

A client uses a file on disk through one pool and says of every page that it changed that it is
dirty. Main statement: once the pages of the file are saved, whoever opens its path sees the pages
that were there at first and those that were added, each with the bytes that the client last wrote
to it.
-/

namespace PageCache

open DiskBacking

/-- An action of a client, and how it ended. -/
structure Deed where
  /-- What the client asked of the pool. -/
  action : Action
  /-- What the pool answered. -/
  result : Except PoolError (Option Handle)

namespace Deed

/-- The bytes that a deed has given a page, which are zero if the page is new. -/
def put? (key : PageKey) : Deed → Option PageData
  | ⟨.write handle data, .ok _⟩ => if handle.key = key then some data else none
  | ⟨.allocate _, .ok (some handle)⟩ => if handle.key = key then some .zero else none
  | _ => none

/-- Whether a deed has added a page to a file. -/
def grows (file : FileIdentity) : Deed → Bool
  | ⟨.allocate other, .ok _⟩ => other = file
  | _ => false

/-- Whether a deed has disposed of a page. -/
def disposes (key : PageKey) : Deed → Bool
  | ⟨.dispose other, .ok _⟩ => other = key
  | _ => false

/-- The bytes that a page was last given, where the latest deed comes first. -/
def lastPut? (past : List Deed) (key : PageKey) : Option PageData :=
  past.findSome? (put? key)

theorem lastPut?_cons (deed : Deed) (past : List Deed) (key : PageKey) :
    lastPut? (deed :: past) key = (deed.put? key).or (lastPut? past key) := by
  rw [lastPut?, List.findSome?_cons]
  cases deed.put? key <;> rfl

end Deed

/-- A page that a deed does not dispose of has the bytes that it was given, or those before. -/
theorem PlainStore.pages_follow (store : PlainStore) (key : PageKey) (deed : Deed)
    (kept : deed.disposes key = false) :
    (store.follow deed.action deed.result).pages key = (deed.put? key).or (store.pages key) := by
  obtain ⟨action, result⟩ := deed
  cases result with
  | error cause =>
      rw [follow_of_error]
      cases action <;> rfl
  | ok given =>
      cases action with
      | allocate file =>
          cases given with
          | none => rfl
          | some handle =>
              simp only [follow, set, Deed.put?]
              split
              · rfl
              · rfl
      | write handle data =>
          simp only [follow, set, await, Deed.put?]
          split
          · rfl
          · rfl
      | dispose other =>
          simp only [Deed.disposes, decide_eq_false_iff_not] at kept
          exact if_neg kept
      | releasePage other dirty => cases dirty <;> rfl
      | release handle dirty => cases dirty <;> rfl
      | _ => rfl

/-- A file has one page more after its allocation succeeds, and that page is zero. -/
theorem Effect.next_deed {action : Action} {before after : World}
    {result : Except PoolError (Option Handle)} (effect : Effect action before result after)
    (id : FileIdentity) :
    after.2.next id = before.2.next id + (if Deed.grows id ⟨action, result⟩ then 1 else 0) ∧
      (Deed.grows id ⟨action, result⟩ = true →
        Deed.put? ⟨id, before.2.next id⟩ ⟨action, result⟩ = some .zero) := by
  induction effect with
  | load | unread => exact ⟨Storage.next_read .., nofun⟩
  | @create pool storage file number page inside free given =>
      obtain ⟨rfl, next⟩ := Storage.next_allocate_of_ok given id
      simp only [Deed.grows, decide_eq_true_eq, Deed.put?]
      refine ⟨next.trans ?_, ?_⟩
      · split
        · next own => rw [own]
        · rfl
      · rintro rfl
        exact if_pos rfl
  | uncreated refused => exact ⟨Storage.next_allocate_of_error refused id, nofun⟩
  | erase | drop => exact ⟨Storage.next_delete .., nofun⟩
  | handBack _ _ induction => exact ⟨induction.1, nofun⟩
  | fail action world cause => cases action <;> exact ⟨rfl, nofun⟩
  | _ => exact ⟨rfl, nofun⟩

namespace Account

/-- The deeds of a careful client, the latest first, and what they come to. -/
inductive Ledger (first : Account) : List Deed → Account → Prop
  /-- Nothing has happened yet. -/
  | start : Ledger first [] first
  /-- One more deed, whether or not it succeeds. -/
  | act {past : List Deed} {account : Account} (ledger : Ledger first past account)
      {action : Action} (careful : account.Careful action) :
      Ledger first (⟨action, (account.pool.act account.storage action).result⟩ :: past)
        (account.after action)

/-- What an account has come to by the deeds of a client, as far as one file goes. -/
structure Kept (id : FileIdentity) (path : String) (place : Location) (first : Account)
    (past : List Deed) (account : Account) : Prop where
  /-- The file is in the custody of the pool. -/
  custody : Custody id path place (account.pool, account.storage) account.store
  /-- It has grown by the pages that were added. -/
  pages : account.storage.next id = first.storage.next id + past.countP (Deed.grows id)
  /-- A page that was not disposed of has the bytes that it was last given, or those at first. -/
  bytes : ∀ page, past.any (Deed.disposes ⟨id, page⟩) = false →
    account.store.pages ⟨id, page⟩ =
      (Deed.lastPut? past ⟨id, page⟩).or (first.store.pages ⟨id, page⟩)
  /-- Such a page is there still if it was there once. -/
  present : ∀ page, past.any (Deed.disposes ⟨id, page⟩) = false →
    page < account.storage.next id → (account.store.pages ⟨id, page⟩).isSome

variable {id : FileIdentity} {path : String} {place : Location} {first account : Account}
  {past : List Deed}

theorem Ledger.reached (ledger : Ledger first past account) : Reached first account := by
  induction ledger with
  | start => exact .start
  | act _ careful induction => exact induction.act careful

/-- One more deed keeps what is known of the pages of a file. -/
theorem Kept.act (kept : Kept id path place first past account) {action : Action}
    (spoken : account.pool.Spoken account.store action)
    (named : ∀ handle data, action = .write handle data → account.pool.accepts handle = true →
      handle.Names account.pool) :
    Kept id path place first
      (⟨action, (account.pool.act account.storage action).result⟩ :: past)
      (account.after action) := by
  have sound := kept.custody.faithful.sound
  obtain ⟨middle, upkeeps, effect⟩ :=
    Pool.effect_act sound.face sound.positive account.storage action
  let deed : Deed := ⟨action, (account.pool.act account.storage action).result⟩
  have before : middle.2.next id = account.storage.next id := Upkeeps.next_eq upkeeps id
  obtain ⟨next, new⟩ := effect.next_deed id
  rw [before] at next new
  have next : (account.after action).storage.next id =
      account.storage.next id + (if deed.grows id then 1 else 0) := next
  have bytes : ∀ page, deed.disposes ⟨id, page⟩ = false →
      (account.after action).store.pages ⟨id, page⟩ =
        (deed.put? ⟨id, page⟩).or (account.store.pages ⟨id, page⟩) :=
    fun page stays => account.store.pages_follow ⟨id, page⟩ deed stays
  refine ⟨kept.custody.act action spoken named, ?_, fun page stays => ?_,
    fun page stays known => ?_⟩
  · rw [List.countP_cons, ← Nat.add_assoc, ← kept.pages]
    exact next
  · rw [List.any_cons, Bool.or_eq_false_iff] at stays
    rw [bytes page stays.1, kept.bytes page stays.2, Deed.lastPut?_cons, Option.or_assoc]
  · rw [List.any_cons, Bool.or_eq_false_iff] at stays
    rw [bytes page stays.1, Option.isSome_or, Bool.or_eq_true]
    -- A page past the last one before is the one that the deed has just added.
    rcases Nat.lt_or_ge page (account.storage.next id) with earlier | late
    · exact .inr (kept.present page stays.2 earlier)
    · rw [next] at known
      by_cases grown : deed.grows id = true
      · rw [if_pos grown] at known
        obtain rfl : page = account.storage.next id := by omega
        exact .inl (congrArg Option.isSome (new grown))
      · rw [if_neg grown] at known
        omega

/-- What a file has come to by the deeds of a client, if it was whole at first. -/
theorem Ledger.kept (ledger : Ledger first past account) (none : first.issued = [])
    (custody : Custody id path place (first.pool, first.storage) first.store)
    (whole : ∀ page, page < first.storage.next id → (first.store.pages ⟨id, page⟩).isSome) :
    Kept id path place first past account := by
  induction ledger with
  | start => exact ⟨custody, rfl, fun _ _ => rfl, fun page _ => whole page⟩
  | act ledger careful induction =>
      obtain ⟨spoken, named⟩ := ledger.reached.apt none custody.faithful.sound careful
      exact induction.act spoken named

variable {config : Config} {pool : Pool} {base opened saved : Storage} {file : DiskBacking}

/-- A file that was just opened is in the custody of a new pool, and no page of it is missing. -/
theorem custody_start (made : Pool.ofConfig config = .ok pool) (tidy : base.Tidy)
    (given : base.openDisk path = .ok (id, file, opened)) (regular : file.target = .regular place)
    (alone : ∀ other, (base.file other).place? ≠ some place)
    (calm : ∀ transfers, base.system.faults transfers = none) :
    Custody id path place (pool, opened) (start pool opened).store ∧
      ∀ page, page < opened.next id → ((start pool opened).store.pages ⟨id, page⟩).isSome := by
  obtain ⟨shelf, same⟩ := Storage.shelf_openDisk given regular calm
  have sorted : opened.Tidy := tidy.openDisk given fun other spot own => by
    rw [Backing.place?_disk, regular] at own
    cases own
    exact alone other
  have faithful := faithful_start made sorted
  rw [funext shelf.calm] at faithful
  refine ⟨⟨faithful, file, shelf⟩, fun page known => ?_⟩
  rw [shelf.next, ← shelf.fills.isSome_bytesFrom?, FileSystem.bytesFrom?, same] at known
  change (opened.data? ⟨id, page⟩).isSome
  rw [Storage.data?_openDisk given regular calm]
  exact known

/-- Whoever opens the path of a file whose pages were saved sees the pages that were there at first
and those that were added. Each page that was not disposed of has the bytes that were last written
to it, or is zero if it was added and never written, or else is as it was at first. -/
theorem saved_pages_survive (made : Pool.ofConfig config = .ok pool) (tidy : base.Tidy)
    (given : base.openDisk path = .ok (id, file, opened)) (regular : file.target = .regular place)
    (alone : ∀ other, (base.file other).place? ≠ some place)
    (calm : ∀ transfers, base.system.faults transfers = none)
    (ledger : Ledger (start pool opened) past account)
    (told : ∀ key ∈ account.store.unmarked, key.file ≠ id)
    (saves : account.pool.Saves account.storage id saved) :
    ∃ again copy reopened, saved.openDisk path = .ok (again, copy, reopened) ∧
      copy.pages = file.pages + past.countP (Deed.grows id) ∧
      ∀ page, page < copy.pages → past.any (Deed.disposes ⟨id, page⟩) = false →
        ∃ data,
          (Deed.lastPut? past ⟨id, page⟩).or
            (base.system.bytesFrom? place (DiskBacking.start page) pageSize) = some data ∧
          (reopened.read again page).1 = .ok ⟨page, data⟩ := by
  obtain ⟨custody, whole⟩ := custody_start made tidy given regular alone calm
  obtain ⟨shelf, -⟩ := Storage.shelf_openDisk given regular calm
  have first := Storage.data?_openDisk given regular calm
  have kept := ledger.kept rfl custody whole
  obtain ⟨⟨held, shelved⟩, next, plain⟩ := kept.custody.saved told saves
  obtain ⟨again, copy, reopened, opens, pages, inside, -⟩ := shelved.reopen
  have count : held.pages = file.pages + past.countP (Deed.grows id) := by
    rw [← shelved.next, ← shelf.next, next]
    exact kept.pages
  refine ⟨again, copy, reopened, opens, pages.trans count, fun page known stays => ?_⟩
  have last : saved.data? ⟨id, page⟩ = (Deed.lastPut? past ⟨id, page⟩).or
      (base.system.bytesFrom? place (DiskBacking.start page) pageSize) := by
    rw [plain, kept.bytes page stays, ← first]
    rfl
  have present : page < account.storage.next id := by rwa [← next, shelved.next, ← pages]
  obtain ⟨data, found⟩ := Option.isSome_iff_exists.mp (kept.present page stays present)
  rw [← plain] at found
  refine ⟨data, last.symm.trans found, inside page data (pages ▸ known) ?_⟩
  rw [shelved.data?] at found
  split at found
  · exact found
  · cases found

end Account

end PageCache
