import PageCache.Pool.Claim

/-!
# Pinning and releasing pages

A fetch pins a page and gives a handle to it; the page is read from its file only if it is not
resident. An allocation appends a page to its file and pins it, and claims the frame first, so that
a pool without room leaves no page behind that nobody asked for. A release gives one pin back.
-/

namespace PageCache.Pool

/-- Pins the resident page in a frame once more. -/
def hit (pool : Pool) (storage : Storage) (key : PageKey) (number : Nat) : Outcome Handle :=
  let pinned := pool.updateFrame number Occupant.pinned
  .done ⟨number, (pinned.frame number).generation, key⟩
    (pinned.count fun stats => { stats with hits := stats.hits + 1 }) storage
    [.hit key number (pinned.frame number).pins]

/-- Reads a page that is not resident into a frame and pins it. -/
def load (pool : Pool) (storage : Storage) (key : PageKey) : Outcome Handle :=
  (pool.claim storage).andThen fun number pool storage =>
    let served := storage.read key.file key.page
    match served.1 with
    | .error cause => .failed (.storage cause) pool served.2 []
    | .ok page =>
      let installed := pool.install number key.file page
      .done installed.1 installed.2 served.2 [.miss key number]

/-- Pins a page, which is read from its file if it is not resident. -/
def fetch (pool : Pool) (storage : Storage) (key : PageKey) : Outcome Handle :=
  match pool.find? key with
  | some number => pool.hit storage key number
  | none => (pool.count fun stats => { stats with misses := stats.misses + 1 }).load storage key

/-- Appends a page to a file and pins it. -/
def allocate (pool : Pool) (storage : Storage) (file : FileIdentity) : Outcome Handle :=
  (pool.claim storage).andThen fun number pool storage =>
    let served := storage.allocate file
    match served.1 with
    | .error cause => .failed (.storage cause) pool served.2 []
    | .ok page =>
      let installed := pool.install number file page
      .done installed.1 installed.2 served.2 [.allocated ⟨file, page.number⟩ number]

/-- Gives back one pin of a page, which has to be written back if it is said to be dirty. The
release of a page that is not resident does nothing. -/
def releasePage (pool : Pool) (storage : Storage) (key : PageKey) (dirty : Bool) : Outcome Unit :=
  match pool.find? key with
  | none => .done () pool storage [.releaseIgnored key]
  | some number =>
    if (pool.frame number).pins = 0 then .failed (.notPinned key number) pool storage []
    else .done () (pool.updateFrame number fun occupant => occupant.released dirty) storage []

/-- Gives back the pin of a handle. -/
def release (pool : Pool) (storage : Storage) (handle : Handle) (dirty : Bool) : Outcome Unit :=
  if pool.accepts handle then pool.releasePage storage handle.key dirty
  else .failed (.staleHandle handle.frame handle.key.page) pool storage []

/-- A fetch of a page that is not resident counts a miss and reads the page. -/
theorem fetch_of_absent {pool : Pool} {key : PageKey} (absent : pool.find? key = none)
    (storage : Storage) :
    pool.fetch storage key =
      (pool.count fun stats => { stats with misses := stats.misses + 1 }).load storage key := by
  simp only [fetch, absent]

/-- A fetch of a resident page asks nothing of any file. -/
theorem storage_fetch_of_resident {pool : Pool} {key : PageKey} {number : Nat}
    (resident : pool.find? key = some number) (storage : Storage) :
    (pool.fetch storage key).storage = storage := by
  simp only [fetch, resident]
  rfl

@[simp] theorem storage_releasePage (pool : Pool) (storage : Storage) (key : PageKey)
    (dirty : Bool) : (pool.releasePage storage key dirty).storage = storage := by
  unfold releasePage
  split
  · rfl
  · split <;> rfl

@[simp] theorem storage_release (pool : Pool) (storage : Storage) (handle : Handle)
    (dirty : Bool) : (pool.release storage handle dirty).storage = storage := by
  unfold release
  split
  · exact storage_releasePage ..
  · rfl

end PageCache.Pool
