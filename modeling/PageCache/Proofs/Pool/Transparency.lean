import PageCache.Proofs.Pool.Faithful
import PageCache.Proofs.Pool.Handle

/-!
# The pool cannot be told from a plain store

A client uses files through one pool alone, through handles of this pool, and says of a page whose
bytes it replaced that it is dirty, no later than with the release that takes its last pin. Main
statement: at every point of such a use, whatever failed on the way, every accepted handle gives the
bytes of the plain store, and a fetch that obtains a frame succeeds exactly when the plain store has
the page.
-/

namespace PageCache

/-- The frame that a fetch of a page obtains, which is that of the page or one that is claimed. -/
def Pool.frameFor (pool : Pool) (storage : Storage) (key : PageKey) : Except PoolError Nat :=
  match pool.find? key with
  | some number => .ok number
  | none =>
    ((pool.count fun stats => { stats with misses := stats.misses + 1 }).claim storage).result

/-- A pool in use, with the handles that it gave and the plain store beside it. -/
structure Account where
  /-- The pool. -/
  pool : Pool
  /-- The files below it. -/
  storage : Storage
  /-- The handles given so far. -/
  issued : List Handle
  /-- What the client knows. -/
  store : PlainStore

namespace Account

/-- The use of a pool before the first action. -/
def start (pool : Pool) (storage : Storage) : Account := ⟨pool, storage, [], ⟨storage.data?, []⟩⟩

/-- The use of a pool after one more action. -/
def after (account : Account) (action : Action) : Account :=
  let outcome := account.pool.act account.storage action
  ⟨outcome.pool, outcome.storage, account.issued ++ outcome.given,
    account.store.follow action outcome.result⟩

/-- The client replaces bytes through handles of the pool, and tells of it in time. -/
def Careful (account : Account) : Action → Prop
  | .write handle _ => handle ∈ account.issued
  | action => account.pool.Spoken account.store action

/-- What a careful client can come to. -/
inductive Reached (first : Account) : Account → Prop
  /-- Nothing has happened yet. -/
  | start : Reached first first
  /-- One more action, whether or not it succeeds. -/
  | act {account : Account} (reached : Reached first account) {action : Action}
      (careful : account.Careful action) : Reached first (account.after action)

/-- The pool answers like the plain store, but for faults of the files. -/
structure Transparent (account : Account) (faults : Nat → Option Fault) : Prop where
  /-- Every handle that is accepted gives the bytes of its page in the plain store. -/
  pages : ∀ handle ∈ account.issued, ∀ page, account.pool.page handle = .ok page →
    page.number = handle.key.page ∧ account.store.pages handle.key = some page.data
  /-- A fetch that obtains a frame succeeds exactly if the plain store has the page, unless it meets
  a fault. -/
  fetch : ∀ key number, account.pool.frameFor account.storage key = .ok number →
    (∀ transfer fault, faults transfer = some fault →
      (account.pool.fetch account.storage key).result ≠ .error (.storage (.system fault.cause))) →
    ((account.pool.fetch account.storage key).result.isOk ↔ (account.store.pages key).isSome)
  /-- It fails in any case if the plain store does not have the page. -/
  missing : ∀ key number, account.pool.frameFor account.storage key = .ok number →
    account.store.pages key = none →
    (account.pool.fetch account.storage key).result = .error (.storage (.pageNotFound key))

variable {first account : Account}

theorem Reached.course (reached : Reached first account) (none : first.issued = []) :
    Course (first.pool, first.storage) account.issued (account.pool, account.storage) := by
  induction reached with
  | start =>
      rw [none]
      exact .start
  | act _ careful induction => exact induction.act _

theorem faithful_start {config : Config} {pool : Pool} {storage : Storage}
    (made : Pool.ofConfig config = .ok pool) (tidy : storage.Tidy) :
    Faithful storage.system.faults (pool, storage) (start pool storage).store where
  sound := Pool.sound_ofConfig made storage
  tidy := tidy
  faults := rfl
  agrees := by
    intro key
    have empty : pool.find? key = none := by
      simp only [Pool.ofConfig] at made
      split at made
      · cases made
      · obtain rfl := Except.ok.inj made
        exact Pool.find?_empty _ key
    rw [Pool.held?_of_absent empty]
    exact ⟨rfl, List.not_mem_nil⟩

/-- A careful client does what a pool needs to stay faithful. -/
theorem Reached.apt (reached : Reached first account) (none : first.issued = [])
    (sound : first.pool.Sound first.storage) {action : Action} (careful : account.Careful action) :
    account.pool.Spoken account.store action ∧
      ∀ handle data, action = .write handle data → account.pool.accepts handle = true →
        handle.Names account.pool := by
  constructor
  · cases action with
    | write handle data => trivial
    | _ => exact careful
  · rintro handle data rfl accepted
    exact ((reached.course none).dated sound handle careful).names accepted

/-- A pool stays faithful in the hands of a careful client. -/
theorem Reached.faithful {faults : Nat → Option Fault} (reached : Reached first account)
    (none : first.issued = [])
    (faithful : Faithful faults (first.pool, first.storage) first.store) :
    Faithful faults (account.pool, account.storage) account.store := by
  induction reached with
  | start => exact faithful
  | @act account reached action careful induction =>
      obtain ⟨spoken, named⟩ := reached.apt none faithful.sound careful
      exact induction.act action spoken named

/-- An accepted handle gives the bytes of the plain store. -/
theorem pages_of_honours {faults : Nat → Option Fault} {handle : Handle} {occupant : Occupant}
    (faithful : Faithful faults (account.pool, account.storage) account.store)
    (honours : account.pool.Honours account.storage handle occupant) :
    account.store.pages handle.key = some occupant.page.data := by
  rw [← honours.key]
  exact (faithful.resident honours.occupied).1

section Fetch

variable {faults : Nat → Option Fault} {pool : Pool} {storage : Storage} {store : PlainStore}
  {key : PageKey} {number : Nat}

/-- A page that is read into a claimed frame is one that the plain store has. -/
theorem load_cases (faithful : Faithful faults (pool, storage) store)
    (absent : pool.find? key = none) (claimed : (pool.claim storage).result = .ok number) :
    ((store.pages key).isSome ∧ (pool.load storage key).result.isOk) ∨
      (store.pages key = none ∧
        (pool.load storage key).result = .error (.storage (.pageNotFound key))) ∨
      ((store.pages key).isSome ∧ ∃ transfer fault, faults transfer = some fault ∧
        (pool.load storage key).result = .error (.storage (.system fault.cause))) := by
  have upkeeps := Pool.upkeeps_claim storage faithful.sound.face faithful.sound.positive
  have reached := Upkeeps.faithful upkeeps faithful
  have same : (pool.claim storage).storage.data? key = store.pages key :=
    (reached.absent (Pool.find?_of_upkeeps upkeeps absent)).1
  have foreseen : (pool.claim storage).storage.system.faults = faults := reached.faults
  simp only [Pool.load, Outcome.andThen_of_ok claimed]
  rw [← same, ← foreseen]
  rcases reached.tidy.answer_read key with
    ⟨data, present, answer⟩ | ⟨missing, answer⟩ | ⟨present, fault, met, answer⟩
  · refine .inl ⟨Option.isSome_iff_exists.mpr ⟨data, present⟩, ?_⟩
    simp only [answer]
    rfl
  · refine .inr (.inl ⟨missing, ?_⟩)
    simp only [answer]
    rfl
  · refine .inr (.inr ⟨present, _, fault, met, ?_⟩)
    simp only [answer]
    rfl

/-- A fetch that obtains a frame gives a page that the plain store has, and no other. -/
theorem fetch_cases (faithful : Faithful faults (pool, storage) store)
    (obtained : pool.frameFor storage key = .ok number) :
    ((store.pages key).isSome ∧ (pool.fetch storage key).result.isOk) ∨
      (store.pages key = none ∧
        (pool.fetch storage key).result = .error (.storage (.pageNotFound key))) ∨
      ((store.pages key).isSome ∧ ∃ transfer fault, faults transfer = some fault ∧
        (pool.fetch storage key).result = .error (.storage (.system fault.cause))) := by
  simp only [Pool.frameFor] at obtained
  simp only [Pool.fetch]
  cases resident : pool.find? key with
  | some other =>
      obtain ⟨occupant, occupied, rfl⟩ := faithful.sound.occupied_of_find? resident
      have plain := (faithful.resident occupied).1
      exact .inl ⟨Option.isSome_iff_exists.mpr ⟨_, plain⟩, rfl⟩
  | none =>
      simp only [resident] at obtained
      have counted : Upkeep (pool, storage)
          (pool.count fun stats => { stats with misses := stats.misses + 1 }, storage) :=
        .tally _ _ rfl
      exact load_cases (counted.faithful faithful) resident obtained

end Fetch

/-- No careful client can tell the pool from the plain store that starts with the contents of the
files. -/
theorem transparent {config : Config} {pool : Pool} {storage : Storage} {account : Account}
    (made : Pool.ofConfig config = .ok pool) (tidy : storage.Tidy)
    (reached : Reached (start pool storage) account) :
    account.Transparent storage.system.faults := by
  have sound := Pool.sound_ofConfig made storage
  have faithful := reached.faithful rfl (faithful_start made tidy)
  have course := reached.course rfl
  refine ⟨fun handle given page seen => ?_, fun key number obtained met => ?_,
    fun key number obtained none => ?_⟩
  · have accepted : account.pool.accepts handle = true := by
      rw [← Pool.isOk_page_iff, seen]
      rfl
    have dated : handle.Dated account.pool := course.dated sound handle given
    obtain ⟨occupant, honours⟩ := faithful.sound.honours (dated.names accepted) accepted
    obtain rfl := Except.ok.inj (honours.page.symm.trans seen)
    exact ⟨honours.number, pages_of_honours faithful honours⟩
  · rcases fetch_cases faithful obtained with
      ⟨present, done⟩ | ⟨missing, failed⟩ | ⟨present, transfer, fault, foreseen, failed⟩
    · exact iff_of_true done present
    · rw [failed, missing]
      exact iff_of_false (by simp [Except.isOk, Except.toBool]) (by simp)
    · exact absurd failed (met transfer fault foreseen)
  · rcases fetch_cases faithful obtained with
      ⟨present, -⟩ | ⟨-, failed⟩ | ⟨present, -⟩
    · rw [none] at present
      cases present
    · exact failed
    · rw [none] at present
      cases present

theorem tidy_withSeeded (count : Nat) : (Storage.withSeeded count).Tidy :=
  (Storage.Opened.memory (.start .empty) (.seeded "mem" count)).tidy

end Account

end PageCache
