import PageCache.Proofs.Pool.Durability
import PageCache.Proofs.Session.Course
import PageCache.Proofs.Word.Likeness

/-!
# Clients of a machine

A client uses files through one pool of a machine, with handles of this pool, and says of a page
whose bytes it replaced that it is dirty, no later than with the release that takes its last pin.
Main statements: as long as no page is fetched that has as many pins as fit, what a client does with
a machine it does with the pool that the machine keeps; and no page has so many pins in any use with
at most as many actions.
-/

namespace PageCache

/-- A file that is opened has the number of files opened so far. -/
theorem Storage.number_openDisk {base opened : Storage} {path : String} {id : FileIdentity}
    {file : DiskBacking} (given : base.openDisk path = .ok (id, file, opened)) :
    id.number = opened.opened := by
  simp only [openDisk] at given
  split at given
  · cases given
  · cases given
    rfl

namespace WordPool

/-- Whether the next release of a page takes its last pin. -/
def lastPin (pool : WordPool) (key : PageKey) : Bool :=
  (pool.find? key).any fun number => (pool.descriptor number).pins == 1

/-- A release that takes the last pin of a page leaves no change of its bytes unsaid. -/
def Spoken (pool : WordPool) (store : PlainStore) : Action → Prop
  | .releasePage key false => pool.lastPin key → key ∉ store.unmarked
  | .release handle false =>
    pool.accepts handle → pool.lastPin handle.key → handle.key ∉ store.unmarked
  | _ => True

/-- The frame that a fetch of a page obtains, which is that of the page or one that is claimed. -/
def frameFor? (pool : WordPool) (storage : Storage) (key : PageKey) :
    Option (Except PoolError Nat) :=
  match pool.find? key with
  | some number => some (.ok number)
  | none =>
    ((pool.count fun stats => { stats with misses := stats.misses + 1 }).claim? storage).map
      (·.result)

/-- A way to save the pages of a file that comes to its end, with the storage that it leaves. -/
inductive Saves (pool : WordPool) (storage : Storage) (file : FileIdentity) : Storage → Prop
  /-- The file is flushed. -/
  | flush {outcome : WordOutcome Unit} (asked : pool.flush? storage file = some outcome)
      (done : outcome.result = .ok ()) : Saves pool storage file outcome.storage
  /-- All pages are written back. -/
  | saveAll {outcome : WordOutcome Unit} (asked : pool.saveAll? storage = some outcome)
      (done : outcome.result = .ok ()) : Saves pool storage file outcome.storage
  /-- The pool is dropped and was made to write its pages back then. -/
  | drop {outcome : WordOutcome Unit} (writes : pool.config.writeBackOnDrop = true)
      (asked : pool.drop? storage = some outcome) : Saves pool storage file outcome.storage

end WordPool

/-- The handle that an outcome gives, if any. -/
def WordOutcome.given (outcome : WordOutcome (Option Handle)) : List Handle :=
  match outcome.result with
  | .ok (some handle) => [handle]
  | _ => []

/-- Equal results give the same handles. -/
theorem WordOutcome.given_eq {word : WordOutcome (Option Handle)}
    {plain : Outcome (Option Handle)} (same : word.result = plain.result) :
    word.given = plain.given := by
  obtain ⟨result, _⟩ := word
  obtain rfl : result = plain.result := same
  rfl

/-- An action of a client of a machine, how it ended, and the pool before it. -/
structure WordDeed extends Deed where
  /-- The pool that was asked. -/
  words : WordPool

/-- A pool of a machine in use, with the handles that it gave and the plain store beside it. -/
structure WordAccount where
  /-- The pool. -/
  words : WordPool
  /-- The files below it. -/
  storage : Storage
  /-- The handles given so far. -/
  issued : List Handle
  /-- What the client knows. -/
  store : PlainStore

namespace WordAccount

/-- The use of a pool before the first action. -/
def start (words : WordPool) (storage : Storage) : WordAccount :=
  ⟨words, storage, [], ⟨storage.data?, []⟩⟩

/-- The use of a pool after an action with a given outcome. -/
def after (account : WordAccount) (action : Action) (outcome : WordOutcome (Option Handle)) :
    WordAccount :=
  ⟨outcome.pool, outcome.storage, account.issued ++ outcome.given,
    account.store.follow action outcome.result⟩

/-- The client uses open files, replaces bytes through handles of the pool, and tells of it in
time. -/
structure Careful (account : WordAccount) (action : Action) : Prop where
  /-- The files are open. -/
  known : action.Within account.storage.opened
  /-- Bytes are replaced through handles of the pool. -/
  own : ∀ handle data, action = .write handle data → handle ∈ account.issued
  /-- A release that takes the last pin of a page leaves no change of its bytes unsaid. -/
  spoken : account.words.Spoken account.store action

/-- The deeds of a careful client, the latest first, and what they come to. -/
inductive Ledger (build : Build) (first : WordAccount) : List WordDeed → WordAccount → Prop
  /-- Nothing has happened yet. -/
  | start : Ledger build first [] first
  /-- One more deed, whether or not it succeeds. -/
  | act {past : List WordDeed} {account : WordAccount} (ledger : Ledger build first past account)
      {action : Action} {outcome : WordOutcome (Option Handle)} (careful : account.Careful action)
      (done : account.words.act? build account.storage action = some outcome) :
      Ledger build first (⟨⟨action, outcome.result⟩, account.words⟩ :: past)
        (account.after action outcome)

/-- No page was fetched that had as many pins as fit. -/
def Roomy (past : List WordDeed) : Prop := ∀ deed ∈ past, ¬ deed.words.Full deed.action

/-- The pool answers like the plain store, but for faults of the files. -/
structure Transparent (build : Build) (account : WordAccount) (faults : Nat → Option Fault) :
    Prop where
  /-- Every handle can be tried. -/
  tries : ∀ handle, ∃ page, account.words.page? handle = some page
  /-- Every handle that is accepted gives the bytes of its page in the plain store. -/
  pages : ∀ handle ∈ account.issued, ∀ page, account.words.page? handle = some (.ok page) →
    page.number = handle.key.page ∧ account.store.pages handle.key = some page.data
  /-- A page can be fetched, unless the machine looks after itself and the page has as many pins as
  fit. -/
  fetches : ∀ key : PageKey, key.file.number ≤ account.storage.opened →
    (build = .guarded → ¬ account.words.Full (.fetch key)) →
    ∃ outcome, account.words.fetch? build account.storage key = some outcome
  /-- A fetch that obtains a frame succeeds exactly if the plain store has the page, unless it meets
  a fault. -/
  fetch : ∀ key number outcome, key.file.number ≤ account.storage.opened →
    account.words.frameFor? account.storage key = some (.ok number) →
    account.words.fetch? build account.storage key = some outcome →
    (∀ transfer fault, faults transfer = some fault →
      outcome.result ≠ .error (.storage (.system fault.cause))) →
    (outcome.result.isOk ↔ (account.store.pages key).isSome)
  /-- It fails in any case if the plain store does not have the page. -/
  missing : ∀ key number outcome, key.file.number ≤ account.storage.opened →
    account.words.frameFor? account.storage key = some (.ok number) →
    account.words.fetch? build account.storage key = some outcome →
    account.store.pages key = none →
    outcome.result = .error (.storage (.pageNotFound key))

variable {account : WordAccount}

namespace Careful

theorem fetch (key : PageKey) (known : key.file.number ≤ account.storage.opened) :
    account.Careful (.fetch key) :=
  ⟨known, nofun, trivial⟩

theorem allocate (file : FileIdentity) (known : file.number ≤ account.storage.opened) :
    account.Careful (.allocate file) :=
  ⟨known, nofun, trivial⟩

theorem releasePage (key : PageKey) (dirty : Bool)
    (known : key.file.number ≤ account.storage.opened)
    (told : dirty = false → key ∉ account.store.unmarked) :
    account.Careful (.releasePage key dirty) := by
  refine ⟨known, nofun, ?_⟩
  cases dirty with
  | true => trivial
  | false => exact fun _ => told rfl

theorem flush (file : FileIdentity) (known : file.number ≤ account.storage.opened) :
    account.Careful (.flush file) :=
  ⟨known, nofun, trivial⟩

theorem write {handle : Handle} (own : handle ∈ account.issued)
    (named : handle.key.file.number ≤ fileLimit) (data : PageData) :
    account.Careful (.write handle data) where
  known := named
  own := by
    rintro _ _ ⟨⟩
    exact own
  spoken := trivial

end Careful

end WordAccount

/-! ## The plain account of a client -/

namespace WordPool.Keeps

variable {words : WordPool} {pool : Pool} {storage : Storage} {key : PageKey}

theorem lastPin_eq (keeps : words.Keeps pool) (trim : pool.Trim storage)
    (named : key.file.number ≤ fileLimit) : words.lastPin key = pool.lastPin key := by
  rw [WordPool.lastPin, Pool.lastPin, keeps.find?_eq named]
  cases resident : pool.find? key with
  | none => rw [Pool.held?_of_absent resident]; rfl
  | some number =>
      obtain ⟨occupant, occupied, rfl⟩ := trim.sound.occupied_of_find? resident
      have pins := Descriptor.toNat_pins (trim.fits number)
      rw [Frame.pins, occupied, Option.elim_some] at pins
      rw [trim.sound.held?_of_occupied occupied, Option.any_some, Option.any_some,
        keeps.descriptor, Bool.eq_iff_iff, beq_iff_eq, beq_iff_eq, ← UInt32.toNat_inj, pins]
      rfl

/-- What is to be said before a release is the same. -/
theorem spoken (keeps : words.Keeps pool) (trim : pool.Trim storage) {action : Action}
    (within : action.Within fileLimit) {store : PlainStore} (spoken : words.Spoken store action) :
    pool.Spoken store action := by
  cases action with
  | releasePage key dirty =>
      cases dirty with
      | true => trivial
      | false =>
          have last := keeps.lastPin_eq trim within
          intro least
          exact spoken (last.trans least)
  | release handle dirty =>
      cases dirty with
      | true => trivial
      | false =>
          have last := keeps.lastPin_eq trim within
          intro accepted least
          exact spoken ((keeps.accepts_eq trim.fits handle).trans accepted) (last.trans least)
  | _ => trivial

/-- A fetch is refused room exactly if its page is resident and has as many pins as fit. -/
theorem full_iff (keeps : words.Keeps pool) (trim : pool.Trim storage)
    (named : key.file.number ≤ fileLimit) :
    words.Full (.fetch key) ↔
      ∃ number, pool.find? key = some number ∧ (pool.frame number).pins = pinLimit := by
  have pins (number : Nat) :
      (words.descriptor number).pins = fullPins ↔ (pool.frame number).pins = pinLimit := by
    rw [keeps.descriptor, ← UInt32.toNat_inj, Descriptor.toNat_pins (trim.fits number)]
    exact Iff.rfl
  constructor
  · rintro ⟨_, number, ⟨⟩, resident, full⟩
    rw [keeps.find?_eq named] at resident
    exact ⟨number, resident, (pins number).mp full⟩
  · rintro ⟨number, resident, full⟩
    exact ⟨key, number, rfl, (keeps.find?_eq named).trans resident, (pins number).mpr full⟩

theorem saves (keeps : words.Keeps pool) (trim : pool.Trim storage) {file : FileIdentity}
    (named : file.number ≤ fileLimit) {later : Storage} (saves : words.Saves storage file later) :
    pool.Saves storage file later := by
  cases saves with
  | flush asked done =>
      obtain ⟨result, same, -⟩ := (keeps.flush trim.fits named storage).of_eq_some asked
      rw [same]
      exact .flush (result ▸ done)
  | saveAll asked done =>
      obtain ⟨result, same, -⟩ := (keeps.saveAll storage).of_eq_some asked
      rw [same]
      exact .writeBackAll (result ▸ done)
  | drop writes asked =>
      obtain ⟨-, same, -⟩ := (keeps.drop storage).of_eq_some asked
      rw [same]
      exact .drop (keeps.config ▸ writes)

theorem frameFor?_eq (keeps : words.Keeps pool) (trim : pool.Trim storage)
    (named : key.file.number ≤ fileLimit) :
    words.frameFor? storage key = some (pool.frameFor storage key) := by
  simp only [frameFor?, Pool.frameFor, keeps.find?_eq named]
  cases pool.find? key with
  | some number => rfl
  | none =>
      have missed := keeps.count fun stats => { stats with misses := stats.misses + 1 }
      obtain ⟨outcome, given, result, -⟩ := missed.claim (trim.count _) storage
      simp only [given, Option.map_some, result]

end WordPool.Keeps

/-- No page has more pins than there were actions. -/
theorem Account.Ledger.pinsOn_le {first account : Account} {past : List Deed}
    (ledger : first.Ledger past account) (sound : first.pool.Sound first.storage)
    (free : ∀ key, first.pool.pinsOn key = 0) :
    account.pool.Sound account.storage ∧ ∀ key, account.pool.pinsOn key ≤ past.length := by
  induction ledger with
  | start => exact ⟨sound, fun key => (free key).le⟩
  | act _ _ induction =>
      obtain ⟨sound, few⟩ := induction
      exact ⟨sound.act _, fun key =>
        (sound.pinsOn_act_le _ key).trans (Nat.succ_le_succ (few key))⟩

namespace WordAccount

variable {build : Build} {first account : WordAccount} {past : List WordDeed}

/-- An account of a machine shows the same as one of a pool. -/
structure Matches (account : WordAccount) (plain : Account) : Prop where
  /-- The machine keeps the pool. -/
  keeps : account.words.Keeps plain.pool
  /-- The pool is in trim. -/
  trim : plain.pool.Trim plain.storage
  /-- The files that are open have numbers of 32 bits. -/
  few : plain.storage.opened ≤ fileLimit
  /-- The files are the same. -/
  storage : account.storage = plain.storage
  /-- The same handles were given. -/
  issued : account.issued = plain.issued
  /-- The client knows the same. -/
  store : account.store = plain.store

/-- One more deed is one of the plain account. -/
theorem Matches.act {plain : Account} (matched : account.Matches plain) {action : Action}
    {outcome : WordOutcome (Option Handle)} (careful : account.Careful action)
    (done : account.words.act? build account.storage action = some outcome)
    (room : ¬ account.words.Full action) :
    plain.Careful action ∧ outcome.result = (plain.pool.act plain.storage action).result ∧
      (account.after action outcome).Matches (plain.after action) := by
  obtain ⟨keeps, trim, few, storage, issued, store⟩ := matched
  have within : action.Within fileLimit := careful.known.mono (storage ▸ few)
  rw [storage] at done
  obtain ⟨result, storages, kept⟩ := (keeps.act trim within fun _ => room).of_eq_some done
  have handles : outcome.given = (plain.pool.act plain.storage action).given :=
    WordOutcome.given_eq result
  refine ⟨?_, result, ⟨kept, ⟨trim.sound.act action, Pool.hand_act trim.hand _ action, ?_⟩,
    (trim.sound.opened_act action).trans_le few, storages, ?_, ?_⟩⟩
  · have spoken := keeps.spoken trim within careful.spoken
    rw [store] at spoken
    cases action with
    | write handle data =>
        change handle ∈ plain.issued
        rw [← issued]
        exact careful.own handle data rfl
    | _ => exact spoken
  · refine trim.sound.fits_act trim.fits fun key number fetches resident => ?_
    subst fetches
    exact Nat.lt_of_le_of_ne (trim.fits number) fun full =>
      room ((keeps.full_iff trim within).mpr ⟨number, resident, full⟩)
  · exact congr (congrArg _ issued) handles
  · exact congr (congrArg (PlainStore.follow · action) store) result

/-- A machine that looks after itself has stopped where there was no room for a pin. -/
theorem Ledger.roomy_of_guarded (ledger : Ledger .guarded first past account) : Roomy past := by
  induction ledger with
  | start => exact List.forall_mem_nil _
  | act _ _ done induction =>
      refine List.forall_mem_cons.mpr ⟨fun full => ?_, induction⟩
      cases (WordPool.act?_of_full full _).symm.trans done

theorem Ledger.roomy (ledger : Ledger build first past account)
    (roomy : build = .bare → Roomy past) : Roomy past := by
  cases build with
  | guarded => exact ledger.roomy_of_guarded
  | bare => exact roomy rfl

/-- The deeds of a client are those of a plain account, as long as there is room for pins. -/
theorem Ledger.exists_plain {plain : Account} (ledger : Ledger build first past account)
    (roomy : Roomy past) (matched : first.Matches plain) :
    ∃ after, plain.Ledger (past.map WordDeed.toDeed) after ∧ account.Matches after := by
  induction ledger with
  | start => exact ⟨plain, .start, matched⟩
  | act _ careful done induction =>
      obtain ⟨room, earlier⟩ := List.forall_mem_cons.mp roomy
      obtain ⟨after, plainly, now⟩ := induction earlier
      obtain ⟨carefully, result, next⟩ := now.act careful done room
      refine ⟨_, ?_, next⟩
      rw [List.map_cons, result]
      exact plainly.act carefully

variable {config : Config} {words : WordPool} {storage : Storage}

theorem exists_matches_start (word : config.frames ≤ wordLimit)
    (made : WordPool.ofConfig config = .ok words) (few : storage.opened ≤ fileLimit) :
    ∃ pool, Pool.ofConfig config = .ok pool ∧
      (start words storage).Matches (Account.start pool storage) := by
  obtain ⟨pool, plainly, keeps, trim⟩ := WordPool.exists_keeps_of_made word made storage
  exact ⟨pool, plainly, keeps, trim, few, rfl, rfl, rfl⟩

/-- There is room for pins in every use of no more actions than pins fit. -/
theorem Ledger.roomy_of_length_le (word : config.frames ≤ wordLimit)
    (made : WordPool.ofConfig config = .ok words) (few : storage.opened ≤ fileLimit)
    (ledger : Ledger build (WordAccount.start words storage) past account)
    (short : past.length ≤ pinLimit) : Roomy past := by
  obtain ⟨pool, plainly, begins⟩ := exists_matches_start word made few
  have sound := Pool.sound_ofConfig plainly storage
  obtain rfl := Pool.eq_empty_of_made plainly
  induction ledger with
  | start => exact List.forall_mem_nil _
  | @act past account ledger action outcome careful _ induction =>
      have earlier := induction (Nat.le_of_succ_le short)
      refine List.forall_mem_cons.mpr ⟨fun full => ?_, earlier⟩
      obtain ⟨plain, same, keeps, trim, opened, files, -⟩ := ledger.exists_plain earlier begins
      obtain ⟨key, _, rfl, -⟩ := id full
      have named : key.file.number ≤ fileLimit := (files ▸ careful.known).trans opened
      obtain ⟨number, resident, pins⟩ := (keeps.full_iff trim named).mp full
      have most := (same.pinsOn_le sound fun key =>
        Pool.pinsOn_of_absent (Pool.find?_empty config key)).2 key
      rw [trim.sound.pinsOn_of_find? resident, pins, List.length_map] at most
      exact absurd (short.trans most) (Nat.not_succ_le_self _)

end WordAccount

end PageCache
