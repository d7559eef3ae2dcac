import PageCache.Proofs.Storage.Writing
import PageCache.Proofs.Word.Client

/-!
# Clients cannot tell a machine from a plain store

Main statements: as long as no page is fetched that has as many pins as fit, a pool of a machine
answers its clients like a plain store, and the pages that were saved outlive the pool. One pin more
makes a machine that does not look after itself forget all pins of a page, and with them the bytes
that a client wrote.
-/

namespace PageCache

/-- For all bytes there are others. -/
theorem PageData.exists_ne (data : PageData) : ∃ other : PageData, other ≠ data := by
  refine ⟨data.set 0 (data[0] + 1), fun same => ?_⟩
  have first := congrArg (fun bytes : PageData => bytes[0]) same
  simp at first

/-! ## One page on disk -/

namespace Storage

/-- No file is in the place of a file that was not yet opened. -/
theorem alone_onePage (id : FileIdentity) :
    (onePage.file id).place? ≠ some ⟨FileSystem.nameless, "a"⟩ :=
  (Option.some_ne_none _).symm

theorem tidy_onePage : (onePage.add (.disk onePageFile)).2.Tidy :=
  (Tidy.empty _).openDisk openDisk_onePage fun id _ own => by
    obtain rfl := Option.some.inj own
    exact alone_onePage id

/-- The page can be read again and again, and whoever opens the path after its bytes were written
once more sees them. -/
theorem exists_data_onePage :
    let storage := (onePage.add (.disk onePageFile)).2
    let later := ((storage.read ⟨1⟩ 0).2.read ⟨1⟩ 0).2
    ∃ data, (storage.read ⟨1⟩ 0).1 = .ok ⟨0, data⟩ ∧
      ((storage.read ⟨1⟩ 0).2.read ⟨1⟩ 0).1 = .ok ⟨0, data⟩ ∧
      (later.write ⟨1⟩ ⟨0, data⟩).1 = .ok () ∧
      ∃ again copy reopened,
        (later.write ⟨1⟩ ⟨0, data⟩).2.openDisk "a" = .ok (again, copy, reopened) ∧
        (reopened.read again 0).1 = .ok ⟨0, data⟩ := by
  intro storage later
  obtain ⟨shelf, -⟩ := shelf_openDisk openDisk_onePage rfl fun _ => rfl
  obtain ⟨data, found⟩ :=
    Option.isSome_iff_exists.mp (shelf.fills.isSome_bytesFrom?.mpr Nat.one_pos)
  obtain ⟨again, same⟩ := shelf.read 0
  obtain ⟨last, -⟩ := again.read 0
  have live : onePageFile.live 0 = true := rfl
  have taken : (later.write ⟨1⟩ ⟨0, data⟩).1 = .ok () := last.answer_write live
  have stored := data?_write_self taken
  obtain ⟨held, written, -⟩ := last.serve (.write ⟨0, data⟩)
  rw [serve_write] at written
  rw [written.data?] at stored
  split at stored
  · next present =>
    obtain ⟨_, _, _, opens, -, inside, -⟩ := written.reopen
    exact ⟨data, shelf.answer_read live found,
      again.answer_read live ((same 0 Nat.one_pos).trans found), taken, _, _, _, opens,
      inside 0 data (DiskBacking.lt_of_live present) stored⟩
  · cases stored

end Storage

/-! ## A pool of one frame -/

namespace WordPool

/-- One frame, which is free. -/
def freeFrame (left : Page) (generation : Nat) (stats : Stats) : WordPool where
  config := ⟨1, true⟩
  pages := #[left]
  descriptors := #[{ Descriptor.fresh with generation }]
  directory := .empty
  clock := ⟨1, 0⟩
  stats := stats

/-- One frame, which holds page zero of the first file. -/
def heldFrame (data : PageData) (dirty : Bool) (pins : UInt32) (generation : Nat)
    (stats : Stats) : WordPool where
  config := ⟨1, true⟩
  pages := #[⟨0, data⟩]
  descriptors := #[⟨some ⟨1⟩, 0, true, true, dirty, pins, generation⟩]
  directory := Directory.empty.insert ⟨⟨1⟩, 0⟩ 0
  clock := ⟨1, 0⟩
  stats := stats

section oneFrame

variable {build : Build} {storage : Storage} {left : Page} {data : PageData} {generation : Nat}
  {stats : Stats}

theorem claim?_freeFrame (stats : Stats) : (freeFrame left generation stats).claim? storage =
    some (.done 0 (freeFrame left (generation + 1) stats) storage) := by
  have advanced : (freeFrame left generation stats).clock.advance? = some ⟨1, 0⟩ :=
    show WordClock.advance? ⟨1, 0⟩ = some ⟨1, 0⟩ by decide
  have two : 2 * (freeFrame left generation stats).size = 2 := rfl
  simp only [claim?, two, sweep?, visit?, advanced, Option.bind_eq_bind, Option.bind_some]
  rfl

theorem load?_freeFrame (answer : (storage.read ⟨1⟩ 0).1 = .ok ⟨0, data⟩) :
    (freeFrame left generation stats).act? build storage (.fetch ⟨⟨1⟩, 0⟩) =
      some (.done (some ⟨0, generation + 2, ⟨⟨1⟩, 0⟩⟩)
        (heldFrame data false 1 (generation + 2) { stats with misses := stats.misses + 1 })
        (storage.read ⟨1⟩ 0).2) := by
  have absent : (freeFrame left generation stats).find? ⟨⟨1⟩, 0⟩ = none := rfl
  have counted : (freeFrame left generation stats).count (fun stats =>
      { stats with misses := stats.misses + 1 }) =
      freeFrame left generation { stats with misses := stats.misses + 1 } := rfl
  simp only [act?, fetch?, absent, load?, counted, claim?_freeFrame, WordOutcome.andThen?,
    WordOutcome.done, Option.bind_eq_bind, Option.bind_some, answer]
  cases build <;> rfl

theorem hit?_heldFrame (data : PageData) (pins : UInt32) (stats : Stats) :
    (heldFrame data false pins generation stats).act? .bare storage (.fetch ⟨⟨1⟩, 0⟩) =
      some (.done (some ⟨0, generation, ⟨⟨1⟩, 0⟩⟩)
        (heldFrame data false (pins + 1) generation { stats with hits := stats.hits + 1 })
        storage) :=
  rfl

theorem page?_heldFrame :
    (heldFrame data false 1 generation stats).page? ⟨0, generation, ⟨⟨1⟩, 0⟩⟩ =
      some (.ok ⟨0, data⟩) := by
  have accepted :
      (heldFrame data false 1 generation stats).accepts ⟨0, generation, ⟨⟨1⟩, 0⟩⟩ = true := by
    simp [accepts, heldFrame]
  rw [page?, if_pos accepted]
  rfl

theorem write?_heldFrame (new : PageData) :
    (heldFrame data false 1 generation stats).act? build storage
        (.write ⟨0, generation, ⟨⟨1⟩, 0⟩⟩ new) =
      some (.done none (heldFrame new false 1 generation stats) storage) := by
  simp only [act?, write?, page?_heldFrame]
  rfl

/-- A clean page without pins makes room without being written. -/
theorem drop?_heldFrame :
    (heldFrame data false 0 generation stats).act? build storage (.flush ⟨1⟩) =
      some (.done none (freeFrame ⟨0, data⟩ (generation + 1) stats) storage) :=
  rfl

theorem releasePage?_heldFrame :
    (heldFrame data false 1 generation stats).act? build storage (.releasePage ⟨⟨1⟩, 0⟩ true) =
      some (.done none (heldFrame data true 0 generation stats) storage) := by
  have resident : (heldFrame data false 1 generation stats).find? ⟨⟨1⟩, 0⟩ = some 0 := rfl
  have found : (heldFrame data false 1 generation stats).descriptors[0]? =
      some ⟨some ⟨1⟩, 0, true, true, false, 1, generation⟩ := rfl
  simp only [act?, releasePage?, resident, found, Option.bind_eq_bind, Option.bind_some]
  rw [if_neg (by decide), if_pos (by decide)]
  rfl

theorem flush?_heldFrame (taken : (storage.write ⟨1⟩ ⟨0, data⟩).1 = .ok ()) :
    ∃ pool, (heldFrame data true 0 generation stats).flush? storage ⟨1⟩ =
      some (.done () pool (storage.write ⟨1⟩ ⟨0, data⟩).2) := by
  have written : (heldFrame data true 0 generation stats).writeBack? storage 0 = _ :=
    writeBack?_of_taken Nat.one_pos rfl rfl rfl taken
  have owned : (heldFrame data true 0 generation stats).descriptors[0]? =
    some ⟨some ⟨1⟩, 0, true, true, true, 0, generation⟩ := rfl
  have one : List.range (heldFrame data true 0 generation stats).size = [0] := rfl
  simp only [flush?, one, flushEach?, flushFrame?, owned, written, WordOutcome.andThen?,
    WordOutcome.done, Option.bind_eq_bind, Option.bind_some]
  exact ⟨_, rfl⟩

end oneFrame

end WordPool

namespace WordAccount

variable {build : Build} {first account : WordAccount} {past : List WordDeed} {config : Config}
  {words : WordPool} {storage : Storage}

/-! ## A page that is forgotten -/

section forgotten

open WordPool (freeFrame heldFrame load?_freeFrame hit?_heldFrame write?_heldFrame drop?_heldFrame)

variable {store : PlainStore} {issued : List Handle} {data : PageData} {pins : UInt32}
  {generation : Nat} {stats : Stats}

/-- A resident page can be fetched any number of times without a release. -/
theorem Ledger.exists_fetched (ledger : Ledger .bare first past
      ⟨heldFrame data false pins generation stats, storage, issued, store⟩)
    (known : 1 ≤ storage.opened) (count : Nat) :
    ∃ later stats given, Ledger .bare first later
        ⟨heldFrame data false (pins + .ofNat count) generation stats, storage, given, store⟩ ∧
      ∀ key, Deed.lastPut? (later.map WordDeed.toDeed) key =
          Deed.lastPut? (past.map WordDeed.toDeed) key ∧
        (later.map WordDeed.toDeed).any (Deed.disposes key) =
          (past.map WordDeed.toDeed).any (Deed.disposes key) := by
  induction count with
  | zero => exact ⟨past, stats, issued, by simpa using ledger, fun _ => ⟨rfl, rfl⟩⟩
  | succ count induction =>
      obtain ⟨later, stats, given, ledger, idle⟩ := induction
      have once := ledger.act (.fetch ⟨⟨1⟩, 0⟩ known) (hit?_heldFrame ..)
      rw [UInt32.ofNat_add, ← UInt32.add_assoc]
      exact ⟨_, _, _, once, idle⟩

/-- A page whose pins wrap is dropped with the bytes that the client wrote. -/
theorem exists_forgotten (known : 1 ≤ storage.opened)
    (answer : (storage.read ⟨1⟩ 0).1 = .ok ⟨0, data⟩)
    (again : ((storage.read ⟨1⟩ 0).2.read ⟨1⟩ 0).1 = .ok ⟨0, data⟩) (new : PageData) :
    ∃ past stats issued,
      Ledger .bare (start (freeFrame (.zero 0) 0 {}) storage) past
        ⟨heldFrame data false 1 5 stats, ((storage.read ⟨1⟩ 0).2.read ⟨1⟩ 0).2,
          issued ++ [⟨0, 5, ⟨⟨1⟩, 0⟩⟩],
          (PlainStore.set ⟨storage.data?, []⟩ ⟨⟨1⟩, 0⟩ (some new)).await ⟨⟨1⟩, 0⟩⟩ ∧
      Deed.lastPut? (past.map WordDeed.toDeed) ⟨⟨1⟩, 0⟩ = some new ∧
      (past.map WordDeed.toDeed).any (Deed.disposes ⟨⟨1⟩, 0⟩) = false := by
  have fetched : Ledger .bare (start (freeFrame (.zero 0) 0 {}) storage) _ _ :=
    Ledger.start.act (.fetch ⟨⟨1⟩, 0⟩ known) (load?_freeFrame answer)
  have written := fetched.act (.write (List.mem_singleton_self _) (by decide) new)
    (write?_heldFrame new)
  obtain ⟨later, stats, given, ledger, idle⟩ := written.exists_fetched known pinLimit
  have wrapped : (1 : UInt32) + .ofNat pinLimit = 0 := by decide
  rw [wrapped] at ledger
  have dropped := ledger.act (.flush ⟨1⟩ known) drop?_heldFrame
  have reread := dropped.act (.fetch ⟨⟨1⟩, 0⟩ known) (load?_freeFrame again)
  obtain ⟨put, kept⟩ := idle ⟨⟨1⟩, 0⟩
  exact ⟨_, _, _, reread, put, kept⟩

end forgotten

/-! ## The machine cannot be told from a plain store -/

/-- No careful client can tell a pool of a machine from the plain store that starts with the
contents of the files, as long as the files have numbers of 32 bits and, unless the machine looks
after itself, no page is fetched that has as many pins as fit. -/
theorem transparent_while_roomy (word : config.frames ≤ wordLimit)
    (made : WordPool.ofConfig config = .ok words) (tidy : storage.Tidy)
    (few : storage.opened ≤ fileLimit) (ledger : Ledger build (start words storage) past account)
    (roomy : build = .bare → Roomy past) :
    account.Transparent build storage.system.faults := by
  obtain ⟨pool, plainly, begins⟩ := exists_matches_start word made few
  obtain ⟨plain, same, keeps, trim, few, files, issued, store⟩ :=
    ledger.exists_plain (ledger.roomy roomy) begins
  obtain ⟨pages, fetch, missing⟩ := Account.transparent plainly tidy same.reached
  have fetched {key : PageKey} (known : key.file.number ≤ account.storage.opened)
      (room : build = .guarded → ¬ account.words.Full (.fetch key)) :
      Mirrors (account.words.fetch? build account.storage key)
        (plain.pool.fetch plain.storage key) := by
    rw [files] at known ⊢
    exact keeps.fetch trim (known.trans few) room
  have answered {key : PageKey} {outcome : WordOutcome Handle}
      (known : key.file.number ≤ account.storage.opened)
      (given : account.words.fetch? build account.storage key = some outcome) :
      outcome.result = (plain.pool.fetch plain.storage key).result := by
    have room : build = .guarded → ¬ account.words.Full (.fetch key) := by
      rintro rfl full
      cases (WordPool.fetch?_of_full full account.storage).symm.trans given
    exact ((fetched known room).of_eq_some given).1
  have obtained {key : PageKey} {number : Nat} (known : key.file.number ≤ account.storage.opened)
      (frame : account.words.frameFor? account.storage key = some (.ok number)) :
      plain.pool.frameFor plain.storage key = .ok number := by
    rw [files] at known frame
    exact Option.some.inj ((keeps.frameFor?_eq trim (known.trans few)).symm.trans frame)
  refine ⟨fun handle => ⟨_, keeps.page?_eq trim.fits handle⟩, fun handle given page seen => ?_,
    fun key known room => ?_, fun key number outcome known frame given calm => ?_,
    fun key number outcome known frame given none => ?_⟩
  · rw [keeps.page?_eq trim.fits, Option.some.injEq] at seen
    rw [store]
    exact pages handle (issued ▸ given) page seen
  · obtain ⟨outcome, given, -⟩ := fetched known room
    exact ⟨outcome, given⟩
  · rw [answered known given] at calm ⊢
    rw [store]
    exact fetch key number (obtained known frame) calm
  · rw [answered known given]
    rw [store] at none
    exact missing key number (obtained known frame) none

/-- One frame and two pages: a changed page gives way to the other, is written back and comes
again. -/
theorem transparent_while_roomy_across_eviction :
    let base := start (WordPool.freeFrame (.zero 0) 0 {}) (.withSeeded 2)
    ∃ past account, Ledger .bare base past account ∧ past.length = 6 ∧ Roomy past ∧
      1 ≤ wordLimit ∧ WordPool.ofConfig ⟨1, true⟩ = .ok base.words ∧ base.storage.Tidy ∧
      base.storage.opened ≤ fileLimit ∧
      account.Transparent .bare base.storage.system.faults ∧
      account.words.page? ⟨0, 6, ⟨⟨1⟩, 0⟩⟩ = some (.ok ⟨0, .filled 7⟩) := by
  intro base
  have word : 1 ≤ wordLimit := by decide
  have made : WordPool.ofConfig ⟨1, true⟩ = .ok base.words := rfl
  have tidy : base.storage.Tidy := Account.tidy_withSeeded 2
  have few : base.storage.opened ≤ fileLimit := show 1 ≤ fileLimit by decide
  have known : 1 ≤ 1 := le_rfl
  have fetched : Ledger .bare
      (start (WordPool.freeFrame (.zero 0) 0 {}) (.withSeeded 2)) _ _ :=
    Ledger.start.act (.fetch ⟨⟨1⟩, 0⟩ known) rfl
  have written := fetched.act (.write (List.mem_singleton_self _) (by decide) (.filled 7)) rfl
  have released := written.act (.releasePage ⟨⟨1⟩, 0⟩ true known nofun) rfl
  have replaced := released.act (.fetch ⟨⟨1⟩, 1⟩ known) rfl
  have given := replaced.act (.releasePage ⟨⟨1⟩, 1⟩ false known fun _ => List.not_mem_nil) rfl
  have ledger := given.act (.fetch ⟨⟨1⟩, 0⟩ known) rfl
  have roomy := ledger.roomy_of_length_le word made few (show 6 ≤ pinLimit by decide)
  exact ⟨_, _, ledger, rfl, roomy, word, made, tidy, few,
    transparent_while_roomy word made tidy few ledger fun _ => roomy, rfl⟩

/-- A client can tell a machine from the plain store after a fetch of a page that has as many pins
as fit. -/
theorem not_transparent_past_full_pins :
    ¬ ∀ (build : Build) (config : Config) (words : WordPool) (storage : Storage)
        (past : List WordDeed) (account : WordAccount),
      config.frames ≤ wordLimit → WordPool.ofConfig config = .ok words → storage.Tidy →
      storage.opened ≤ fileLimit → Ledger build (start words storage) past account →
      account.Transparent build storage.system.faults := by
  intro claim
  obtain ⟨data, answer, again, -⟩ := Storage.exists_data_onePage
  obtain ⟨new, different⟩ := data.exists_ne
  obtain ⟨past, stats, issued, ledger, -⟩ :=
    exists_forgotten (show 1 ≤ 1 from le_rfl) answer again new
  have transparent := claim .bare ⟨1, true⟩ _ _ _ _ (by decide) rfl Storage.tidy_onePage
    (show 1 ≤ fileLimit by decide) ledger
  obtain ⟨-, plain⟩ := transparent.pages ⟨0, 5, ⟨⟨1⟩, 0⟩⟩
    (List.mem_append_right _ (List.mem_singleton_self _)) _ WordPool.page?_heldFrame
  exact different (Option.some.inj (show some new = some data from plain))

variable {id : FileIdentity} {path : String} {place : Location} {base opened saved : Storage}
  {file : DiskBacking}

/-- Whoever opens the path of a file whose pages were saved sees the pages that were there at first
and those that were added, each with the bytes that were last written to it, as long as the files
have numbers of 32 bits and, unless the machine looks after itself, no page is fetched that has as
many pins as fit. -/
theorem saved_pages_survive_while_roomy (word : config.frames ≤ wordLimit)
    (made : WordPool.ofConfig config = .ok words) (tidy : base.Tidy)
    (given : base.openDisk path = .ok (id, file, opened)) (regular : file.target = .regular place)
    (alone : ∀ other, (base.file other).place? ≠ some place)
    (calm : ∀ transfers, base.system.faults transfers = none)
    (few : opened.opened ≤ fileLimit) (ledger : Ledger build (start words opened) past account)
    (roomy : build = .bare → Roomy past) (told : ∀ key ∈ account.store.unmarked, key.file ≠ id)
    (saves : account.words.Saves account.storage id saved) :
    ∃ again copy reopened, saved.openDisk path = .ok (again, copy, reopened) ∧
      copy.pages = file.pages + (past.map WordDeed.toDeed).countP (Deed.grows id) ∧
      ∀ page, page < copy.pages →
        (past.map WordDeed.toDeed).any (Deed.disposes ⟨id, page⟩) = false →
        ∃ data,
          (Deed.lastPut? (past.map WordDeed.toDeed) ⟨id, page⟩).or
            (base.system.bytesFrom? place (DiskBacking.start page) pageSize) = some data ∧
          (reopened.read again page).1 = .ok ⟨page, data⟩ := by
  obtain ⟨pool, plainly, begins⟩ := exists_matches_start word made few
  obtain ⟨plain, same, keeps, trim, least, files, -, store⟩ :=
    ledger.exists_plain (ledger.roomy roomy) begins
  have named : id.number ≤ fileLimit := (Storage.number_openDisk given).trans_le few
  rw [store] at told
  rw [files] at saves
  exact Account.saved_pages_survive plainly tidy given regular alone calm same told
    (keeps.saves trim named saves)

/-- In one frame a page is added and changed and gives way to one more, and both are saved. -/
theorem saved_pages_survive_while_roomy_across_eviction :
    let place : Location := ⟨FileSystem.nameless, "a"⟩
    let opened := (Storage.onePage.add (.disk Storage.onePageFile)).2
    ∃ past account saved,
      Ledger .bare (start (WordPool.freeFrame (.zero 0) 0 {}) opened) past account ∧
      past.length = 5 ∧ Roomy past ∧
      Storage.onePage.openDisk "a" = .ok (⟨1⟩, Storage.onePageFile, opened) ∧
      account.store.unmarked = [] ∧ account.words.Saves account.storage ⟨1⟩ saved ∧
      ∃ again copy reopened, saved.openDisk "a" = .ok (again, copy, reopened) ∧ copy.pages = 3 ∧
        (∃ data, Storage.onePage.system.bytesFrom? place 0 pageSize = some data ∧
          (reopened.read again 0).1 = .ok ⟨0, data⟩) ∧
        (reopened.read again 1).1 = .ok ⟨1, .filled 1⟩ ∧
        (reopened.read again 2).1 = .ok ⟨2, .zero⟩ := by
  intro place opened
  have word : 1 ≤ wordLimit := by decide
  have made : WordPool.ofConfig ⟨1, true⟩ = .ok (WordPool.freeFrame (.zero 0) 0 {}) := rfl
  have few : opened.opened ≤ fileLimit := show 1 ≤ fileLimit by decide
  have known : 1 ≤ 1 := le_rfl
  have added : Ledger .bare (start (WordPool.freeFrame (.zero 0) 0 {})
      (Storage.onePage.add (.disk Storage.onePageFile)).2) _ _ :=
    Ledger.start.act (.allocate ⟨1⟩ known) rfl
  have changed := added.act (.write (List.mem_singleton_self _) (by decide) (.filled 1)) rfl
  have marked := changed.act (.releasePage ⟨⟨1⟩, 1⟩ true known nofun) rfl
  have further := marked.act (.allocate ⟨1⟩ known) rfl
  have ledger := further.act (.releasePage ⟨⟨1⟩, 2⟩ false known fun _ => List.not_mem_nil) rfl
  have roomy := ledger.roomy_of_length_le word made few (show 5 ≤ pinLimit by decide)
  refine ⟨_, _, _, ledger, rfl, roomy, Storage.openDisk_onePage, rfl, .flush rfl rfl, ?_⟩
  have survived := saved_pages_survive_while_roomy word made (Storage.Tidy.empty _)
    Storage.openDisk_onePage rfl Storage.alone_onePage (fun _ => rfl) few ledger
    (fun _ => roomy) (List.forall_mem_nil _) (.flush rfl rfl)
  obtain ⟨again, copy, reopened, opens, pages, reads⟩ := survived
  have three : copy.pages = 3 := pages
  have inside {page : Nat} (less : page < 3) : page < copy.pages := three.symm ▸ less
  refine ⟨again, copy, reopened, opens, three, ?_, ?_, ?_⟩
  · obtain ⟨data, put, answer⟩ := reads 0 (inside (by decide)) rfl
    change none.or _ = some data at put
    rw [Option.none_or] at put
    exact ⟨data, put, answer⟩
  · obtain ⟨data, put, answer⟩ := reads 1 (inside (by decide)) rfl
    obtain rfl : PageData.filled 1 = data := Option.some.inj put
    exact answer
  · obtain ⟨data, put, answer⟩ := reads 2 (inside (by decide)) rfl
    obtain rfl : PageData.zero = data := Option.some.inj put
    exact answer

/-- A page that is fetched while it has as many pins as fit can lose the bytes last written to
it. -/
theorem not_saved_pages_survive_past_full_pins :
    ¬ ∀ (build : Build) (config : Config) (words : WordPool) (base opened saved : Storage)
        (id : FileIdentity) (path : String) (place : Location) (file : DiskBacking)
        (past : List WordDeed) (account : WordAccount),
      config.frames ≤ wordLimit → WordPool.ofConfig config = .ok words → base.Tidy →
      base.openDisk path = .ok (id, file, opened) → file.target = .regular place →
      (∀ other, (base.file other).place? ≠ some place) →
      (∀ transfers, base.system.faults transfers = none) → opened.opened ≤ fileLimit →
      Ledger build (start words opened) past account →
      (∀ key ∈ account.store.unmarked, key.file ≠ id) →
      account.words.Saves account.storage id saved →
      ∃ again copy reopened, saved.openDisk path = .ok (again, copy, reopened) ∧
        copy.pages = file.pages + (past.map WordDeed.toDeed).countP (Deed.grows id) ∧
        ∀ page, page < copy.pages →
          (past.map WordDeed.toDeed).any (Deed.disposes ⟨id, page⟩) = false →
          ∃ data,
            (Deed.lastPut? (past.map WordDeed.toDeed) ⟨id, page⟩).or
              (base.system.bytesFrom? place (DiskBacking.start page) pageSize) = some data ∧
            (reopened.read again page).1 = .ok ⟨page, data⟩ := by
  intro claim
  obtain ⟨data, answer, again, taken, _, _, _, reopens, seen⟩ := Storage.exists_data_onePage
  obtain ⟨new, different⟩ := data.exists_ne
  obtain ⟨past, stats, issued, ledger, put, kept⟩ :=
    exists_forgotten (show 1 ≤ 1 from le_rfl) answer again new
  have told := ledger.act (.releasePage ⟨⟨1⟩, 0⟩ true le_rfl nofun)
    WordPool.releasePage?_heldFrame
  obtain ⟨pool, flushed⟩ := WordPool.flush?_heldFrame taken
  obtain ⟨_, copy, _, opens, pages, reads⟩ :=
    claim .bare ⟨1, true⟩ _ _ _ _ _ _ _ _ _ _ (by decide) rfl (.empty _) Storage.openDisk_onePage
      rfl Storage.alone_onePage (fun _ => rfl) (show 1 ≤ fileLimit by decide) told
      (List.forall_mem_nil _) (.flush flushed rfl)
  obtain ⟨last, lastly, answered⟩ := reads 0 (pages ▸ Nat.lt_add_right _ Nat.one_pos) kept
  change (Deed.lastPut? (past.map WordDeed.toDeed) ⟨⟨1⟩, 0⟩).or _ = some last at lastly
  rw [put] at lastly
  obtain rfl : new = last := Option.some.inj lastly
  cases reopens.symm.trans opens
  cases seen.symm.trans answered
  exact different rfl

end WordAccount

end PageCache
