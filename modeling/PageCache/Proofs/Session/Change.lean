import PageCache.Proofs.Pool.Soundness
import PageCache.Session.Step

/-!
# What a step changes

Of a session, an operation changes the pools and the files in one of a few ways: it takes a file
into use or gives one up, makes a request to a file, carries out an action of one pool, or makes or
drops a pool. Main statement: every step of a session is one of these changes.
-/

namespace PageCache.Session

/-- What a step does to the storage, to the files in use and to the pools. -/
inductive Change (before : Session) : Session → Prop
  /-- Everything stays. -/
  | stay {after : Session} (storage : after.storage = before.storage)
      (files : after.files = before.files) (pools : after.pools = before.pools) :
      Change before after
  /-- A file is given up. -/
  | close {after : Session} (number : Nat) (storage : after.storage = before.storage)
      (files : after.files = before.files.retire number) (pools : after.pools = before.pools) :
      Change before after
  /-- A file is taken into use. -/
  | enrol {after : Session} (system : FileSystem) (file : Backing)
      (storage : after.storage = ({ before.storage with system }.add file).2)
      (files : after.files = before.files.push ⟨before.storage.opened + 1⟩)
      (pools : after.pools = before.pools) : Change before after
  /-- The files are asked for something that moves no number of a new page. -/
  | serve {after : Session} (opened : after.storage.opened = before.storage.opened)
      (next : ∀ id, after.storage.next id = before.storage.next id)
      (files : after.files = before.files) (pools : after.pools = before.pools) :
      Change before after
  /-- A file grows by a page. -/
  | extend {after : Session} {number : Nat} {id : FileIdentity}
      (known : before.files.get? number = some id)
      (storage : after.storage = (before.storage.allocate id).2)
      (files : after.files = before.files) (pools : after.pools = before.pools) :
      Change before after
  /-- A pool carries out an action. -/
  | act {after : Session} {number : Nat} {pool : Pool} (action : Action)
      (found : before.pools.get? number = some pool)
      (known : ∀ id, action = .allocate id → ∃ file, before.files.get? file = some id)
      (storage : after.storage = (pool.act before.storage action).storage)
      (files : after.files = before.files)
      (pools : after.pools =
        before.pools.replace number (pool.act before.storage action).pool) :
      Change before after
  /-- A pool is made. -/
  | make {after : Session} {config : Config} {pool : Pool} (made : Pool.ofConfig config = .ok pool)
      (storage : after.storage = before.storage) (files : after.files = before.files)
      (pools : after.pools = before.pools.push pool) : Change before after
  /-- A pool is dropped. -/
  | drop {after : Session} {number : Nat} {pool : Pool}
      (storage : after.storage = (pool.drop before.storage).storage)
      (files : after.files = before.files) (pools : after.pools = before.pools.retire number) :
      Change before after

variable {session : Session}

theorem change_withFile {number : Nat} {next : FileIdentity → Step}
    (each : ∀ id, session.files.get? number = some id → Change session (next id).session) :
    Change session (session.withFile number next).session := by
  simp only [withFile]
  split
  · next id known => exact each id known
  · exact .stay rfl rfl rfl

theorem change_withPool {number : Nat} {next : Pool → Step}
    (each : ∀ pool, session.pools.get? number = some pool → Change session (next pool).session) :
    Change session (session.withPool number next).session := by
  simp only [withPool]
  split
  · next pool found => exact each pool found
  · exact .stay rfl rfl rfl

theorem change_withHandle {number : Nat} {next : Handle → Step}
    (each : ∀ handle, Change session (next handle).session) :
    Change session (session.withHandle number next).session := by
  simp only [withHandle]
  split
  · next handle _ => exact each handle
  · exact .stay rfl rfl rfl

theorem change_withBoth {number file : Nat} {next : Pool → FileIdentity → Step}
    (each : ∀ pool id, session.pools.get? number = some pool → session.files.get? file = some id →
      Change session (next pool id).session) :
    Change session (session.withBoth number file next).session :=
  change_withFile fun id known => change_withPool fun pool found => each pool id found known

theorem change_withPage {number handle : Nat} {next : Pool → Handle → Page → Step}
    (each : ∀ pool held page, session.pools.get? number = some pool → pool.page held = .ok page →
      Change session (next pool held page).session) :
    Change session (session.withPage number handle next).session := by
  refine change_withHandle fun held => change_withPool fun pool found => ?_
  split
  · next page seen => exact each pool held page found seen
  · exact .stay rfl rfl rfl

/-- An action that appends no page changes a session whatever file it names. -/
theorem change_settle {number : Nat} {pool : Pool} (action : Action)
    (found : session.pools.get? number = some pool) (known : ∀ id, action ≠ .allocate id)
    {outcome : Outcome Unit} (same : pool.act session.storage action = outcome.map fun _ => none)
    (handles : Numbered Handle) :
    Change session ({ session with handles }.settle number outcome).session := by
  have pools := congrArg Outcome.pool same
  have storage := congrArg Outcome.storage same
  refine .act action found (fun id equal => absurd equal (known id)) storage.symm rfl ?_
  exact congrArg (session.pools.replace number) pools.symm

theorem change_settleHandle {number : Nat} {pool : Pool} (action : Action)
    (found : session.pools.get? number = some pool)
    (known : ∀ id, action = .allocate id → ∃ file, session.files.get? file = some id)
    {outcome : Outcome Handle} (same : pool.act session.storage action = outcome.map some)
    (reply : Nat → Handle → Reply) :
    Change session (session.settleHandle number outcome reply).session := by
  have pools := congrArg Outcome.pool same
  have storage := congrArg Outcome.storage same
  simp only [settleHandle]
  split
  · exact .act action found known storage.symm rfl
      (congrArg (session.pools.replace number) pools.symm)
  · exact .act action found known storage.symm rfl
      (congrArg (session.pools.replace number) pools.symm)

theorem change_setData {number : Nat} {pool : Pool} {handle : Handle} {page : Page}
    (found : session.pools.get? number = some pool) (seen : pool.page handle = .ok page)
    (data : PageData) : Change session (session.setData number pool handle data) := by
  have written : pool.act session.storage (.write handle data) =
      .done none (pool.setData handle data) session.storage [] := by
    simp only [Pool.act, Pool.write, seen]
    rfl
  refine .act (.write handle data) found (by simp) ?_ rfl ?_
  · rw [written]
    rfl
  · rw [written]
    rfl

theorem change_openDisk (session : Session) (path : String) :
    Change session (session.openDisk path).session := by
  simp only [openDisk, Storage.openDisk]
  split
  · exact .stay rfl rfl rfl
  · next id file storage opened =>
    split at opened
    · cases opened
    · next _ system _ =>
      obtain ⟨rfl, rfl, rfl⟩ := Except.ok.inj opened
      exact .enrol system (.disk file) rfl rfl rfl

theorem change_readEach (session : Session) (id : FileIdentity) (pages : List Nat)
    (reply : Reply) :
    Change session { session.reply reply with
      session := { session with storage := (session.storage.readEach id pages).2 } }.session := by
  have kept : ∀ storage : Storage, (storage.readEach id pages).2.opened = storage.opened ∧
      ∀ other, (storage.readEach id pages).2.next other = storage.next other := by
    induction pages with
    | nil => exact fun storage => ⟨rfl, fun other => rfl⟩
    | cons page rest induction =>
        intro storage
        obtain ⟨opened, next⟩ := induction (storage.read id page).2
        exact ⟨opened, fun other => (next other).trans (Storage.next_read storage id page other)⟩
  obtain ⟨opened, next⟩ := kept session.storage
  exact .serve opened next rfl rfl

theorem change_truncatePath (session : Session) (path : String) (length : Nat) :
    Change session (session.truncatePath path length).session := by
  simp only [truncatePath]
  split
  · exact .stay rfl rfl rfl
  · exact .serve rfl (fun id => rfl) rfl rfl

theorem change_makePool (session : Session) (config : Config) :
    Change session (session.makePool config).session := by
  simp only [makePool]
  split
  · exact .stay rfl rfl rfl
  · next pool made => exact .make made rfl rfl rfl

/-- Every step of a session is one of the changes. -/
theorem change_step (session : Session) (operation : Operation) :
    Change session (session.step operation).session := by
  cases operation with
  | openMemory name seed => exact .enrol session.storage.system (.memory _) rfl rfl rfl
  | openCounted seed => exact .enrol session.storage.system (.counted _) rfl rfl rfl
  | openDisk path => exact session.change_openDisk path
  | closeFile file => exact change_withFile fun id _ => .close file rfl rfl rfl
  | readPage file page =>
      exact change_withFile fun id _ =>
        .serve rfl (Storage.next_read session.storage id page) rfl rfl
  | writePage file page bytes =>
      refine change_withFile fun id _ => ?_
      split
      · next page _ => exact .serve rfl (Storage.next_write session.storage id page) rfl rfl
      · exact .stay rfl rfl rfl
  | appendPage file => exact change_withFile fun id known => .extend known rfl rfl rfl
  | deletePage file page =>
      exact change_withFile fun id _ =>
        .serve rfl (Storage.next_delete session.storage id page) rfl rfl
  | describeFile file => exact change_withFile fun id _ => .stay rfl rfl rfl
  | containsPage file page | requestCounts file page | syncFile file =>
      refine change_withFile fun id _ => ?_
      split
      · exact .stay rfl rfl rfl
      · exact .stay rfl rfl rfl
  | readFirst file count => exact change_withFile fun id _ => session.change_readEach id _ _
  | truncatePath path length => exact session.change_truncatePath path length
  | makePool config => exact session.change_makePool config
  | dropPool pool => exact change_withPool fun held _ => .drop rfl rfl rfl
  | fetch pool file page =>
      exact change_withBoth fun held id found _ =>
        change_settleHandle (.fetch ⟨id, page⟩) found (by simp) rfl _
  | allocate pool file =>
      refine change_withBoth fun held id found known => ?_
      refine change_settleHandle (.allocate id) found (fun other equal => ?_) rfl _
      obtain rfl := Action.allocate.inj equal
      exact ⟨file, known⟩
  | releasePage pool file page dirty =>
      exact change_withBoth fun held id found _ =>
        change_settle (.releasePage ⟨id, page⟩ dirty) found (by simp) rfl _
  | release pool handle dirty =>
      exact change_withPool fun held found => change_withHandle fun used =>
        change_settle (.release used dirty) found (by simp) rfl _
  | dispose pool file page =>
      exact change_withBoth fun held id found _ =>
        change_settle (.dispose ⟨id, page⟩) found (by simp) rfl _
  | flush pool file =>
      exact change_withBoth fun held id found _ =>
        change_settle (.flush id) found (by simp) rfl _
  | writeBackAll pool =>
      exact change_withPool fun held found =>
        change_settle .writeBackAll found (by simp) rfl _
  | lookup pool file page => exact change_withBoth fun held id _ _ => .stay rfl rfl rfl
  | stats pool | inspect pool | display pool =>
      exact change_withPool fun held _ => .stay rfl rfl rfl
  | viewPage pool handle => exact change_withPage fun held used page _ _ => .stay rfl rfl rfl
  | viewBytes pool handle offset count =>
      refine change_withPage fun held used page _ _ => ?_
      split
      · exact .stay rfl rfl rfl
      · exact .stay rfl rfl rfl
  | putBytes pool handle offset bytes =>
      refine change_withPage fun held used page found seen => ?_
      split
      · exact change_setData found seen _
      · exact .stay rfl rfl rfl
  | fillPage pool handle byte =>
      exact change_withPage fun held used page found seen => change_setData found seen _
  | sameHandle first second =>
      refine change_withHandle fun held => ?_
      split
      · exact .stay rfl rfl rfl
      · exact .stay rfl rfl rfl
  | setLevel name =>
      simp only [step]
      split
      · exact .stay rfl rfl rfl
      · exact .stay rfl rfl rfl
  | readPath path => exact .stay rfl rfl rfl

end PageCache.Session
