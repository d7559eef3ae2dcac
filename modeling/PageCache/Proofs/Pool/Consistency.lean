import PageCache.Proofs.Pool.Soundness

/-!
# What the tables of a pool show

The visible marks of the frames and the directory of a sound pool tell the same. Main statement: in
a sound pool the entries of the directory and the frames with a page correspond one to one, a frame
without a page shows nothing, and a snapshot counts as many frames with a page as entries.
-/

namespace PageCache.Pool

/-- The marks of one frame. -/
def view (pool : Pool) (number : Nat) : FrameView := .ofFrame number (pool.frame number)

/-- The directory and the marks of the frames tell the same. -/
structure Consistent (pool : Pool) : Prop where
  /-- An entry leads to a frame that shows its page. -/
  listed : ∀ key number, pool.find? key = some number →
    number < pool.size ∧ (pool.view number).valid = true ∧
      (pool.view number).owner = some key.file ∧ (pool.view number).page = key.page
  /-- A frame with a page has an owner, and an entry leads to it. -/
  held : ∀ number, (pool.view number).valid = true →
    ∃ file, (pool.view number).owner = some file ∧
      pool.find? ⟨file, (pool.view number).page⟩ = some number
  /-- A frame without a page shows nothing, and no entry leads to it. -/
  free : ∀ number, (pool.view number).valid = false →
    pool.view number = ⟨number, none, 0, false, false, false, 0⟩ ∧
      ∀ key, pool.find? key ≠ some number
  /-- The page in a frame bears the number that the frame shows. -/
  numbered : ∀ number occupant, (pool.frame number).occupant = some occupant →
    occupant.page.number = (pool.view number).page
  /-- No page is in two frames. -/
  once : ∀ first second, (pool.view first).valid = true → (pool.view second).valid = true →
    (pool.view first).owner = (pool.view second).owner →
    (pool.view first).page = (pool.view second).page → first = second
  /-- A snapshot shows the marks of the frames in order. -/
  shown : pool.snapshot.frames = (List.range pool.size).map pool.view
  /-- It counts as many frames with a page as entries. -/
  counted : pool.snapshot.validFrames = pool.snapshot.entries

variable {pool : Pool} {storage : Storage}

theorem view_of_occupied {number : Nat} {occupant : Occupant}
    (occupied : (pool.frame number).occupant = some occupant) :
    pool.view number = ⟨number, some occupant.key.file, occupant.key.page, true,
      occupant.referenced, occupant.dirty, occupant.pins⟩ := by
  simp [view, FrameView.ofFrame, Frame.key?, Frame.valid, Frame.referenced, Frame.dirty, Frame.pins,
    occupied]

theorem view_of_free {number : Nat} (free : (pool.frame number).occupant = none) :
    pool.view number = ⟨number, none, 0, false, false, false, 0⟩ := by
  simp [view, FrameView.ofFrame, Frame.key?, Frame.valid, Frame.referenced, Frame.dirty, Frame.pins,
    free]

theorem exists_of_valid {number : Nat} (valid : (pool.view number).valid = true) :
    ∃ occupant, (pool.frame number).occupant = some occupant :=
  Option.isSome_iff_exists.mp valid

/-- The frames of the pool in order are those of the numbers below its size. -/
theorem toList_frames (pool : Pool) :
    pool.frames.toList = (List.range pool.size).map pool.frame := by
  refine List.ext_getElem (by simp [size]) ?_
  intro number inside _
  rw [Array.length_toList] at inside
  simp [frame, inside]

/-- The marks in a snapshot are those of the frames in order. -/
theorem frames_snapshot (pool : Pool) :
    pool.snapshot.frames = (List.range pool.size).map pool.view := by
  simp only [snapshot, toList_frames]
  refine List.ext_getElem (by simp) ?_
  intro number _ _
  simp [view]

namespace Sound

/-- The numbers in the directory are those of the frames with a page, each of them once. -/
theorem entries_perm (sound : pool.Sound storage) :
    (pool.directory.toList.map (·.2)).Perm
      ((List.range pool.size).filter fun number => (pool.frame number).valid) := by
  have distinct : (pool.directory.toList.map (·.2)).Nodup := by
    refine List.pairwise_map.mpr ?_
    refine Std.TreeMap.distinct_keys_toList.imp_of_mem ?_
    rintro ⟨first, number⟩ ⟨second, other⟩ left right different rfl
    have one := (sound.directory _ _).mp (Directory.mem_toList.mp left)
    have two := (sound.directory _ _).mp (Directory.mem_toList.mp right)
    obtain rfl := Option.some.inj (one.symm.trans two)
    exact different Std.ReflCmp.compare_self
  refine (List.perm_ext_iff_of_nodup distinct (List.nodup_range.filter _)).mpr ?_
  intro number
  simp only [List.mem_map, Prod.exists, exists_eq_right, List.mem_filter, List.mem_range]
  constructor
  · rintro ⟨key, entry⟩
    obtain ⟨occupant, occupied, -⟩ := sound.occupied_of_find? (Directory.mem_toList.mp entry)
    exact ⟨lt_size_of_occupied occupied, by simp [Frame.valid, occupied]⟩
  · rintro ⟨-, valid⟩
    obtain ⟨occupant, occupied⟩ := Option.isSome_iff_exists.mp valid
    exact ⟨occupant.key, Directory.mem_toList.mpr (sound.find?_of_occupied occupied)⟩

/-- A snapshot of a sound pool counts as many frames with a page as entries. -/
theorem validFrames_eq_entries (sound : pool.Sound storage) :
    pool.snapshot.validFrames = pool.snapshot.entries := by
  have lengths := sound.entries_perm.length_eq
  rw [List.length_map] at lengths
  calc pool.snapshot.validFrames
      = ((List.range pool.size).map pool.frame).countP (·.valid) := by
        rw [← toList_frames]
        rfl
    _ = ((List.range pool.size).filter fun number => (pool.frame number).valid).length := by
        rw [List.countP_map, List.countP_eq_length_filter]
        rfl
    _ = pool.directory.toList.length := lengths.symm
    _ = pool.snapshot.entries := Std.TreeMap.length_toList

/-- The tables of a sound pool tell the same. -/
theorem consistent (sound : pool.Sound storage) : pool.Consistent where
  listed := by
    intro key number resident
    obtain ⟨occupant, occupied, rfl⟩ := sound.occupied_of_find? resident
    rw [view_of_occupied occupied]
    exact ⟨lt_size_of_occupied occupied, rfl, rfl, rfl⟩
  held := by
    intro number valid
    obtain ⟨occupant, occupied⟩ := exists_of_valid valid
    rw [view_of_occupied occupied]
    exact ⟨occupant.key.file, rfl, sound.find?_of_occupied occupied⟩
  free := by
    intro number invalid
    have empty : (pool.frame number).occupant = none := by
      simpa [view, FrameView.ofFrame, Frame.valid] using invalid
    refine ⟨view_of_free empty, fun key resident => ?_⟩
    obtain ⟨occupant, occupied, -⟩ := sound.occupied_of_find? resident
    cases empty.symm.trans occupied
  numbered := by
    intro number occupant occupied
    rw [view_of_occupied occupied]
    exact sound.numbered number occupant occupied
  once := by
    intro first second left right owner page
    obtain ⟨one, occupied⟩ := exists_of_valid left
    obtain ⟨two, occupiedToo⟩ := exists_of_valid right
    rw [view_of_occupied occupied, view_of_occupied occupiedToo] at owner page
    have same : one.key = two.key := by
      cases key : one.key
      cases keyToo : two.key
      simp_all
    exact sound.number_unique (Frame.key?_of_occupied occupied)
      (same ▸ Frame.key?_of_occupied occupiedToo)
  shown := frames_snapshot pool
  counted := sound.validFrames_eq_entries

end Sound

end PageCache.Pool
