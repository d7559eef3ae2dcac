import PageCache.Pool.Outcome

/-!
# Writing pages back

A dirty page is clean once its file has taken its bytes. When the file refuses, the page stays
dirty. All pages of a pool can be written back up to the first failure, or, when the pool is
dropped, whatever fails.
-/

namespace PageCache.Pool

/-- Writes the page in a frame to its file, if it is dirty. -/
def writeBack (pool : Pool) (storage : Storage) (number : Nat) : Outcome Unit :=
  match (pool.frame number).occupant with
  | none => .done () pool storage []
  | some occupant =>
    if occupant.dirty then
      let written := storage.write occupant.key.file occupant.page
      match written.1 with
      | .ok () =>
        .done ()
          ((pool.updateFrame number Occupant.cleaned).count fun stats =>
            { stats with writeBacks := stats.writeBacks + 1 })
          written.2 [.wroteBack occupant.key number]
      | .error cause => .failed (.storage cause) pool written.2 []
    else .done () pool storage []

/-- Writes back the dirty pages in a list of frames, up to the first failure. -/
def writeBackEach (pool : Pool) (storage : Storage) : List Nat → Outcome Unit
  | [] => .done () pool storage []
  | number :: rest =>
    (pool.writeBack storage number).andThen fun _ pool storage =>
      pool.writeBackEach storage rest

/-- Writes back every dirty page, pinned or not, up to the first failure. -/
def writeBackAll (pool : Pool) (storage : Storage) : Outcome Unit :=
  pool.writeBackEach storage (List.range pool.size)

/-- Writes back the dirty pages in a list of frames and reports every failure. -/
def writeBackAnyway (pool : Pool) (storage : Storage) : List Nat → Outcome Unit
  | [] => .done () pool storage []
  | number :: rest =>
    (pool.writeBack storage number).regardless (Event.dropFailed number) fun pool storage =>
      pool.writeBackAnyway storage rest

/-- Ends the life of a pool: its dirty pages are written back if the pool was made so. -/
def drop (pool : Pool) (storage : Storage) : Outcome Unit :=
  if pool.config.writeBackOnDrop then pool.writeBackAnyway storage (List.range pool.size)
  else .done () pool storage []

/-- A frame without a dirty page is left alone. -/
theorem writeBack_of_not_dirty {pool : Pool} {number : Nat}
    (clean : (pool.frame number).dirty = false) (storage : Storage) :
    pool.writeBack storage number = .done () pool storage [] := by
  unfold writeBack
  split
  · rfl
  · next occupant occupied =>
    rw [if_neg]
    simpa [Frame.dirty, occupied] using clean

/-- Writing a page back changes the pool, if at all, by marking the page as clean and counting. -/
theorem pool_writeBack_eq (pool : Pool) (storage : Storage) (number : Nat) :
    (pool.writeBack storage number).pool = pool ∨
      (pool.writeBack storage number).pool =
        (pool.updateFrame number Occupant.cleaned).count fun stats =>
          { stats with writeBacks := stats.writeBacks + 1 } := by
  unfold writeBack
  split
  · exact .inl rfl
  · split
    · dsimp only
      split
      · exact .inr rfl
      · exact .inl rfl
    · exact .inl rfl

@[simp] theorem size_writeBack (pool : Pool) (storage : Storage) (number : Nat) :
    (pool.writeBack storage number).pool.size = pool.size := by
  rcases pool_writeBack_eq pool storage number with same | cleaned
  · rw [same]
  · rw [cleaned]
    exact size_updateFrame ..

@[simp] theorem find?_writeBack (pool : Pool) (storage : Storage) (number : Nat) (key : PageKey) :
    (pool.writeBack storage number).pool.find? key = pool.find? key := by
  rcases pool_writeBack_eq pool storage number with same | cleaned
  · rw [same]
  · rw [cleaned]
    rfl

@[simp] theorem clock_writeBack (pool : Pool) (storage : Storage) (number : Nat) :
    (pool.writeBack storage number).pool.clock = pool.clock := by
  rcases pool_writeBack_eq pool storage number with same | cleaned
  · rw [same]
  · rw [cleaned]
    rfl

/-- A property of the pool and the storage that every write-back keeps is kept by a list of them,
up to the first failure. -/
theorem writeBackEach_induction (Good : Pool → Storage → Prop)
    (writeBack : ∀ pool storage number, Good pool storage →
      Good (pool.writeBack storage number).pool (pool.writeBack storage number).storage)
    (numbers : List Nat) {pool : Pool} {storage : Storage} (base : Good pool storage) :
    Good (pool.writeBackEach storage numbers).pool
      (pool.writeBackEach storage numbers).storage := by
  induction numbers generalizing pool storage with
  | nil => exact base
  | cons number rest induction =>
      exact Outcome.andThen_induction Good (writeBack pool storage number base) fun _ _ _ =>
        induction

end PageCache.Pool
