import PageCache.Pool.WriteBack

/-!
# Removing pages

A flush writes back all pages of a file and makes their frames free, in the order of the frames; it
stops at a page in use. A disposal drops a page without writing it back, whatever its pins, and
deletes it from its file.
-/

namespace PageCache.Pool

/-- Writes back the page in a frame if it belongs to a file, and makes the frame free. -/
def flushFrame (pool : Pool) (storage : Storage) (file : FileIdentity) (number : Nat) :
    Outcome Unit :=
  match (pool.frame number).occupant with
  | none => .done () pool storage []
  | some occupant =>
    if occupant.key.file ≠ file then .done () pool storage []
    else if occupant.pins ≠ 0 then .failed (.stillPinned occupant.key number) pool storage []
    else
      (pool.writeBack storage number).andThen fun _ pool storage =>
        .done () (pool.remove number occupant.key) storage []

/-- Flushes the pages of a file from a list of frames, up to the first failure. -/
def flushEach (pool : Pool) (storage : Storage) (file : FileIdentity) : List Nat → Outcome Unit
  | [] => .done () pool storage []
  | number :: rest =>
    (pool.flushFrame storage file number).andThen fun _ pool storage =>
      pool.flushEach storage file rest

/-- Writes back all pages of a file and makes their frames free. -/
def flush (pool : Pool) (storage : Storage) (file : FileIdentity) : Outcome Unit :=
  (pool.flushEach storage file (List.range pool.size)).andThen fun _ pool storage =>
    .done () pool storage [.flushed file]

/-- The pool without a page, and what to tell of it. -/
def forget (pool : Pool) (key : PageKey) : Pool × List Event :=
  match pool.find? key with
  | none => (pool, [])
  | some number =>
    (pool.remove number key,
      if 0 < (pool.frame number).pins then [.disposedPinned key (pool.frame number).pins] else [])

/-- Drops a page without writing it back and deletes it from its file. -/
def dispose (pool : Pool) (storage : Storage) (key : PageKey) : Outcome Unit :=
  let forgotten := pool.forget key
  let deleted := storage.delete key.file key.page
  match deleted.1 with
  | .ok () => .done () forgotten.1 deleted.2 forgotten.2
  | .error cause => .failed (.storage cause) forgotten.1 deleted.2 forgotten.2

/-- A property of the pool and the storage that every write-back and every removal of a page keeps
is kept by a flush, wherever it stops. -/
theorem flush_induction (Good : Pool → Storage → Prop)
    (writeBack : ∀ pool storage number, Good pool storage →
      Good (pool.writeBack storage number).pool (pool.writeBack storage number).storage)
    (remove : ∀ pool storage number key, Good pool storage → Good (pool.remove number key) storage)
    (file : FileIdentity) {pool : Pool} {storage : Storage} (base : Good pool storage) :
    Good (pool.flush storage file).pool (pool.flush storage file).storage := by
  have flushFrame : ∀ number pool storage, Good pool storage →
      Good (pool.flushFrame storage file number).pool
        (pool.flushFrame storage file number).storage := by
    intro number pool storage good
    unfold Pool.flushFrame
    split
    · exact good
    · next occupant _ =>
      split
      · exact good
      · split
        · exact good
        · exact Outcome.andThen_induction Good (writeBack pool storage number good)
            fun _ pool storage => remove pool storage number occupant.key
  have flushEach : ∀ numbers pool storage, Good pool storage →
      Good (pool.flushEach storage file numbers).pool
        (pool.flushEach storage file numbers).storage := by
    intro numbers
    induction numbers with
    | nil => exact fun _ _ good => good
    | cons number rest induction =>
        intro pool storage good
        exact Outcome.andThen_induction Good (flushFrame number pool storage good) fun _ =>
          induction
  exact Outcome.andThen_induction Good (flushEach _ pool storage base) fun _ _ _ good => good

@[simp] theorem find?_forget (pool : Pool) (key : PageKey) :
    (pool.forget key).1.find? key = none := by
  unfold forget
  split
  · assumption
  · exact (find?_remove ..).trans (if_pos rfl)

/-- A page is not resident after its disposal, whether or not its file had it. -/
theorem find?_dispose (pool : Pool) (storage : Storage) (key : PageKey) :
    (pool.dispose storage key).pool.find? key = none := by
  unfold dispose
  dsimp only
  split <;> exact find?_forget pool key

end PageCache.Pool
