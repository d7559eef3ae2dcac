import PageCache.Proofs.Session.Course
import PageCache.Proofs.Storage.Service
import PageCache.Proofs.Word.Likeness

/-!
# Runs of a machine

Several pools of a machine share files, clients use the files past the pools, and files change past
everybody. Main statements: as long as no more files were opened than have numbers of 32 bits, the
directory of every pool and its descriptors tell the same, and a machine that looks after itself
stops at nothing but a count of pins that is full. Files beyond that share their numbers: then a
page is listed in place of another, which stays in its frame, and a machine that looks after itself
stops.
-/

namespace PageCache

namespace Storage

/-- A request to one file does not move the number of the next new page of another. -/
theorem next_serve (storage : Storage) {id other : FileIdentity} (request : Request)
    (different : id ≠ other) : (storage.serve id request).2.next other = storage.next other := by
  rw [next, file_serve, if_neg different, next]

/-- No request makes a file give out a number again. -/
theorem precedes_serve (storage : Storage) (id : FileIdentity) (request : Request) :
    storage.Precedes (storage.serve id request).2 := by
  cases request with
  | read page => rw [serve_read]; exact precedes_of_eq (storage.next_read id page)
  | write page => rw [serve_write]; exact precedes_of_eq (storage.next_write id page)
  | allocate => rw [serve_allocate]; exact precedes_allocate storage id
  | delete page => rw [serve_delete]; exact precedes_of_eq (storage.next_delete id page)

end Storage

/-! ## What the tables of a machine tell -/

/-- The key under which the page of a descriptor is listed, if it has a file. -/
def Descriptor.key? (descriptor : Descriptor) : Option PageKey :=
  descriptor.owner.map fun owner => PageKey.word ⟨owner, descriptor.page⟩

namespace WordPool

/-- The number of descriptors with a page. -/
def validFrames (pool : WordPool) : Nat := pool.descriptors.toList.countP (·.valid)

/-- The directory, the descriptors and the pages tell the same. -/
structure Consistent (pool : WordPool) : Prop where
  /-- An entry leads to a descriptor with the page that is listed. -/
  listed : ∀ key number, pool.directory.get? key = some number →
    number < pool.size ∧ (pool.descriptor number).valid = true ∧
      (pool.descriptor number).key? = some key
  /-- A descriptor with a page has a file, and an entry leads to it. -/
  held : ∀ number, (pool.descriptor number).valid = true →
    ∃ key, (pool.descriptor number).key? = some key ∧ pool.directory.get? key = some number
  /-- A descriptor without a page has no file, no number, no pins and no marks, and no entry leads
  to it. -/
  free : ∀ number, (pool.descriptor number).valid = false →
    (pool.descriptor number).owner = none ∧ (pool.descriptor number).page = 0 ∧
      (pool.descriptor number).pins = 0 ∧ (pool.descriptor number).dirty = false ∧
      (pool.descriptor number).referenced = false ∧
      ∀ key, pool.directory.get? key ≠ some number
  /-- The page in a frame bears the number in the descriptor. -/
  numbered : ∀ number, (pool.descriptor number).valid = true →
    ∃ page, pool.pages[number]? = some page ∧ page.number = (pool.descriptor number).page
  /-- No page is in two frames. -/
  once : ∀ first second, (pool.descriptor first).valid = true →
    (pool.descriptor second).valid = true →
    (pool.descriptor first).key? = (pool.descriptor second).key? → first = second
  /-- There are as many descriptors with a page as entries. -/
  counted : pool.validFrames = pool.directory.size

namespace Keeps

variable {words : WordPool} {pool : Pool} {storage : Storage} {number : Nat} {occupant : Occupant}

theorem key?_eq (keeps : words.Keeps pool)
    (occupied : (pool.frame number).occupant = some occupant) :
    (words.descriptor number).key? = some occupant.key := by
  rw [keeps.descriptor, Descriptor.ofFrame_of_occupied occupied]
  exact congrArg some (PageKey.word_eq (keeps.named number occupant occupied))

theorem exists_of_valid (keeps : words.Keeps pool)
    (valid : (words.descriptor number).valid = true) :
    ∃ occupant, (pool.frame number).occupant = some occupant := by
  rw [keeps.descriptor, Descriptor.valid_ofFrame] at valid
  exact Option.isSome_iff_exists.mp valid

/-- The descriptors in order are those of the frames in order. -/
theorem toList_descriptors (keeps : words.Keeps pool) :
    words.descriptors.toList = pool.frames.toList.map Descriptor.ofFrame := by
  rw [pool.toList_frames, List.map_map]
  refine List.ext_getElem? fun number => ?_
  rw [Array.getElem?_toList, List.getElem?_map]
  by_cases inside : number < pool.size
  · rw [keeps.getElem?_descriptors inside, List.getElem?_range inside]
    rfl
  · have past := Nat.le_of_not_lt inside
    have missing : words.descriptors[number]? = none :=
      Array.getElem?_eq_none (keeps.size.trans_le past)
    rw [missing, List.getElem?_eq_none (List.length_range.trans_le past), Option.map_none]

theorem validFrames_eq (keeps : words.Keeps pool) :
    words.validFrames = pool.snapshot.validFrames := by
  rw [validFrames, keeps.toList_descriptors, List.countP_map]
  exact List.countP_congr fun frame _ => by simp

/-- The tables of a machine that keeps a sound pool tell the same. -/
theorem consistent (keeps : words.Keeps pool) (sound : pool.Sound storage) : words.Consistent where
  listed := by
    intro key number entry
    rw [keeps.directory] at entry
    obtain ⟨occupant, occupied, rfl⟩ := sound.occupied_of_find? entry
    refine ⟨keeps.size ▸ Pool.lt_size_of_occupied occupied, ?_, keeps.key?_eq occupied⟩
    rw [keeps.descriptor, Descriptor.ofFrame_of_occupied occupied]
  held := by
    intro number valid
    obtain ⟨occupant, occupied⟩ := keeps.exists_of_valid valid
    refine ⟨occupant.key, keeps.key?_eq occupied, ?_⟩
    rw [keeps.directory]
    exact sound.find?_of_occupied occupied
  free := by
    intro number invalid
    have empty : (pool.frame number).occupant = none := by
      rw [keeps.descriptor, Descriptor.valid_ofFrame] at invalid
      simpa [Frame.valid] using invalid
    rw [keeps.descriptor, Descriptor.ofFrame_of_free empty]
    refine ⟨rfl, rfl, rfl, rfl, rfl, fun key entry => ?_⟩
    rw [keeps.directory] at entry
    obtain ⟨occupant, occupied, -⟩ := sound.occupied_of_find? entry
    cases empty.symm.trans occupied
  numbered := by
    intro number valid
    obtain ⟨occupant, occupied⟩ := keeps.exists_of_valid valid
    refine ⟨occupant.page, keeps.contents number occupant occupied, ?_⟩
    rw [keeps.descriptor, Descriptor.ofFrame_of_occupied occupied]
    exact sound.numbered number occupant occupied
  once := by
    intro first second left right keys
    obtain ⟨one, occupied⟩ := keeps.exists_of_valid left
    obtain ⟨two, occupiedToo⟩ := keeps.exists_of_valid right
    rw [keeps.key?_eq occupied, keeps.key?_eq occupiedToo] at keys
    have same := Option.some.inj keys
    exact sound.number_unique (Frame.key?_of_occupied occupied)
      (same ▸ Frame.key?_of_occupied occupiedToo)
  counted := by
    rw [keeps.validFrames_eq, sound.validFrames_eq_entries, keeps.directory]
    rfl

end Keeps

/-- A machine keeps a pool whose pins count as 32 bits keep them. -/
theorem Keeps.wrapped {words : WordPool} {pool : Pool} (keeps : words.Keeps pool) :
    words.Keeps pool.wrapped := by
  have holds (number : Nat) : (pool.frame number).Holds (pool.wrapped.frame number) := by
    rw [Pool.frame_wrapped]
    exact Frame.holds_update _ (fun _ => rfl) fun _ => rfl
  have size : pool.wrapped.size = pool.size := Array.size_map ..
  refine
    { keeps with
      size := keeps.size.trans size.symm
      pages := keeps.pages.trans size.symm
      descriptor := fun number => ?_
      contents := fun number _ occupied => (keeps.held (holds number) occupied).1
      named := fun number _ occupied => (keeps.held (holds number) occupied).2 }
  rw [keeps.descriptor, Pool.frame_wrapped, Descriptor.ofFrame_wrapped]

end WordPool

namespace Pool.Trim

variable {pool : Pool} {storage : Storage}

theorem later (trim : pool.Trim storage) {after : Storage} (precedes : storage.Precedes after) :
    pool.Trim after :=
  ⟨trim.sound.later precedes, trim.hand, trim.fits⟩

/-- A pool whose pins count as 32 bits keep them stays in trim. -/
theorem wrapped_act (trim : pool.Trim storage) (action : Action) :
    (pool.act storage action).pool.wrapped.Trim (pool.act storage action).storage :=
  ⟨(trim.sound.act action).wrapped, hand_act trim.hand storage action, fits_wrapped _⟩

end Pool.Trim

/-! ## Machines -/

/-- The pools of a machine over one storage. -/
structure Machine where
  /-- The files and the file system below them. -/
  storage : Storage
  /-- The pools in use. -/
  pools : List WordPool

namespace Machine

/-- What can happen to a machine, other than that a file is opened. -/
inductive Step (build : Build) : Machine → Machine → Prop
  /-- A client puts a request to an open file past all pools. -/
  | serve {storage : Storage} {pools : List WordPool} {id : FileIdentity} (request : Request)
      (known : id.number ≤ storage.opened) :
      Step build ⟨storage, pools⟩ ⟨(storage.serve id request).2, pools⟩
  /-- The files of the system change in any way. -/
  | disturb {storage : Storage} {pools : List WordPool} (system : FileSystem) :
      Step build ⟨storage, pools⟩ ⟨{ storage with system }, pools⟩
  /-- A pool is made. -/
  | make {storage : Storage} {pools : List WordPool} {config : Config} {pool : WordPool}
      (word : config.frames ≤ wordLimit) (made : WordPool.ofConfig config = .ok pool) :
      Step build ⟨storage, pools⟩ ⟨storage, pool :: pools⟩
  /-- A pool carries out an action, whether or not it succeeds. -/
  | act {storage : Storage} {pools : List WordPool} {number : Nat} {pool : WordPool}
      {action : Action} {outcome : WordOutcome (Option Handle)} (found : pools[number]? = some pool)
      (known : action.Within storage.opened)
      (done : pool.act? build storage action = some outcome) :
      Step build ⟨storage, pools⟩ ⟨outcome.storage, pools.set number outcome.pool⟩
  /-- A pool is dropped. -/
  | drop {storage : Storage} {pools : List WordPool} {number : Nat} {pool : WordPool}
      {outcome : WordOutcome Unit} (found : pools[number]? = some pool)
      (done : pool.drop? storage = some outcome) :
      Step build ⟨storage, pools⟩ ⟨outcome.storage, pools.eraseIdx number⟩

/-- What a machine can come to, with the number of files opened so far. -/
inductive Reached (build : Build) : Nat → Machine → Prop
  /-- No file is open, and there is no pool. -/
  | start (system : FileSystem) : Reached build 0 ⟨{ Storage.empty with system }, []⟩
  /-- A file of any kind is opened. -/
  | add {files : Nat} {storage : Storage} {pools : List WordPool}
      (reached : Reached build files ⟨storage, pools⟩) (file : Backing) :
      Reached build (files + 1) ⟨(storage.add file).2, pools⟩
  /-- One thing more has happened. -/
  | step {files : Nat} {machine after : Machine} (reached : Reached build files machine)
      (step : Step build machine after) : Reached build files after

/-- So many files were opened, no other file has given out a number, and every pool is kept. -/
structure Ordered (files : Nat) (machine : Machine) : Prop where
  /-- So many files were opened. -/
  opened : machine.storage.opened = files
  /-- A file that was not opened has given out no number. -/
  unopened : ∀ id : FileIdentity, files < id.number → machine.storage.next id = 0
  /-- Every pool is one that a machine keeps. -/
  kept : ∀ words ∈ machine.pools, ∃ pool, words.Keeps pool ∧ pool.Trim machine.storage

namespace Ordered

variable {build : Build} {files : Nat} {storage : Storage} {pools : List WordPool}
  {machine after : Machine}

/-- A storage in which no number is given out again keeps the order of a machine. -/
theorem of_precedes (ordered : Ordered files machine)
    (opened : after.storage.opened = machine.storage.opened)
    (precedes : machine.storage.Precedes after.storage)
    (unopened : ∀ id : FileIdentity, files < id.number →
      after.storage.next id = machine.storage.next id)
    (kept : ∀ words ∈ after.pools, words ∈ machine.pools ∨
      ∃ pool, words.Keeps pool ∧ pool.Trim after.storage) : Ordered files after where
  opened := opened.trans ordered.opened
  unopened := fun id past => (unopened id past).trans (ordered.unopened id past)
  kept := by
    intro words member
    rcases kept words member with earlier | kept
    · obtain ⟨pool, keeps, trim⟩ := ordered.kept words earlier
      exact ⟨pool, keeps, trim.later precedes⟩
    · exact kept

theorem add (ordered : Ordered files ⟨storage, pools⟩) (file : Backing) :
    Ordered (files + 1) ⟨(storage.add file).2, pools⟩ where
  opened := congrArg Nat.succ ordered.opened
  unopened := by
    intro id past
    have opened : storage.opened = files := ordered.opened
    exact (storage.next_add_of_lt file (opened ▸ past)).trans
      (ordered.unopened id (Nat.lt_of_succ_lt past))
  kept := by
    intro words member
    obtain ⟨pool, keeps, trim⟩ := ordered.kept words member
    have unused := ordered.unopened ⟨storage.opened + 1⟩ (Nat.lt_succ_of_le ordered.opened.ge)
    exact ⟨pool, keeps, trim.later (storage.precedes_add file unused)⟩

theorem serve (ordered : Ordered files ⟨storage, pools⟩) {id : FileIdentity} (request : Request)
    (known : id.number ≤ storage.opened) :
    Ordered files ⟨(storage.serve id request).2, pools⟩ := by
  refine ordered.of_precedes rfl (storage.precedes_serve id request) (fun other past => ?_)
    fun _ member => .inl member
  refine storage.next_serve request ?_
  rintro rfl
  exact absurd (known.trans_eq ordered.opened) (Nat.not_le_of_lt past)

theorem make (ordered : Ordered files ⟨storage, pools⟩) {config : Config} {words : WordPool}
    (word : config.frames ≤ wordLimit) (made : WordPool.ofConfig config = .ok words) :
    Ordered files ⟨storage, words :: pools⟩ := by
  refine ordered.of_precedes rfl (.refl _) (fun _ _ => rfl) fun other member => ?_
  rcases List.mem_cons.mp member with rfl | earlier
  · obtain ⟨pool, -, kept⟩ := WordPool.exists_keeps_of_made word made storage
    exact .inr ⟨pool, kept⟩
  · exact .inl earlier

theorem act (few : files ≤ fileLimit) (ordered : Ordered files ⟨storage, pools⟩) {number : Nat}
    {words : WordPool} (found : pools[number]? = some words) {action : Action}
    {outcome : WordOutcome (Option Handle)} (known : action.Within storage.opened)
    (done : words.act? build storage action = some outcome) :
    Ordered files ⟨outcome.storage, pools.set number outcome.pool⟩ := by
  obtain ⟨pool, keeps, trim⟩ := ordered.kept words (List.mem_of_getElem? found)
  have opened : storage.opened ≤ fileLimit := ordered.opened.trans_le few
  have room : build = .guarded → ¬ words.Full action := by
    rintro rfl full
    cases (WordPool.act?_of_full full storage).symm.trans done
  obtain ⟨-, same, kept⟩ := (keeps.act trim (known.mono opened) room).of_eq_some done
  refine ordered.of_precedes ?_ ?_ (fun id past => ?_) fun other member => ?_
  · exact (congrArg Storage.opened same).trans (trim.sound.opened_act action)
  · rw [same]
    exact trim.sound.precedes_act action
  · have elsewhere : action ≠ .allocate id := by
      rintro rfl
      exact absurd (known.trans_eq ordered.opened) (Nat.not_le_of_lt past)
    exact (congrArg (Storage.next · id) same).trans (trim.sound.next_act elsewhere)
  · rcases List.mem_or_eq_of_mem_set member with earlier | rfl
    · exact .inl earlier
    · exact .inr ⟨_, kept.wrapped, same ▸ trim.wrapped_act action⟩

theorem drop (ordered : Ordered files ⟨storage, pools⟩) {number : Nat} {words : WordPool}
    (found : pools[number]? = some words) {outcome : WordOutcome Unit}
    (done : words.drop? storage = some outcome) :
    Ordered files ⟨outcome.storage, pools.eraseIdx number⟩ := by
  obtain ⟨pool, keeps, trim⟩ := ordered.kept words (List.mem_of_getElem? found)
  obtain ⟨-, same, -⟩ := (keeps.drop storage).of_eq_some done
  have upkeeps := pool.upkeeps_drop storage
  have next : ∀ id, outcome.storage.next id = storage.next id := by
    intro id
    rw [same]
    exact Upkeeps.next_eq upkeeps id
  refine ordered.of_precedes ?_ (Storage.precedes_of_eq next) (fun id _ => next id)
    fun other member => .inl (List.mem_of_mem_eraseIdx member)
  exact (congrArg Storage.opened same).trans (Upkeeps.opened_eq upkeeps)

theorem step (few : files ≤ fileLimit) (ordered : Ordered files machine)
    (step : Step build machine after) : Ordered files after := by
  cases step with
  | serve request known => exact ordered.serve request known
  | disturb system =>
      exact ordered.of_precedes rfl (.refl _) (fun _ _ => rfl) fun _ member => .inl member
  | make word made => exact ordered.make word made
  | act found known done => exact ordered.act few found known done
  | drop found done => exact ordered.drop found done

end Ordered

/-- A machine stays in order as long as the files that were opened have numbers of 32 bits. -/
theorem Reached.ordered {build : Build} {files : Nat} {machine : Machine}
    (reached : Reached build files machine) (few : files ≤ fileLimit) :
    Ordered files machine := by
  induction reached with
  | start system =>
      refine ⟨rfl, fun id _ => ?_, fun _ member => absurd member List.not_mem_nil⟩
      simp [Storage.next, Storage.file, Storage.empty, Backing.next, MemoryBacking.empty]
  | add _ file induction => exact (induction (Nat.le_of_succ_le few)).add file
  | step _ step induction => exact (induction few).step few step

/-! ## Two allocations -/

/-- A machine can come to have any number of memory files without pages. -/
theorem exists_reached_emptied (build : Build) (files : Nat) :
    ∃ storage, Reached build files ⟨storage, []⟩ ∧ storage.opened = files ∧
      ∀ id, storage.file id = .memory (.empty "") := by
  induction files with
  | zero => exact ⟨_, .start .empty, rfl, fun id => rfl⟩
  | succ files induction =>
      obtain ⟨storage, reached, opened, empty⟩ := induction
      refine ⟨_, reached.add (.memory (.empty "")), congrArg Nat.succ opened, fun id => ?_⟩
      rw [Storage.file_add]
      split
      · rfl
      · exact empty id

/-- Two free frames. -/
def twoFrames : WordPool where
  config := ⟨2, true⟩
  pages := #[.zero 0, .zero 0]
  descriptors := #[.fresh, .fresh]
  directory := .empty
  clock := ⟨2, 1⟩
  stats := {}

/-- Page zero of the first file is in the first frame. -/
def onePage : WordPool :=
  { twoFrames with
    descriptors := #[⟨some ⟨1⟩, 0, true, true, false, 1, 2⟩, .fresh]
    directory := Directory.empty.insert ⟨⟨1⟩, 0⟩ 0
    clock := ⟨2, 0⟩ }

/-- The file that is opened after so many others that its number is one again. -/
def namesake : FileIdentity := ⟨4294967297⟩

/-- Page zero of that file is in the second frame and is listed in place of the other. -/
def twoPages : WordPool :=
  { onePage with
    descriptors := #[⟨some ⟨1⟩, 0, true, true, false, 1, 2⟩,
      ⟨some namesake, 0, true, true, false, 1, 2⟩]
    directory := onePage.directory.insert ⟨⟨1⟩, 0⟩ 1
    clock := ⟨2, 1⟩ }

variable {storage : Storage}

theorem answer_allocate {id : FileIdentity} (empty : storage.file id = .memory (.empty "")) :
    (storage.allocate id).1 = .ok (.zero 0) := by
  rw [Storage.allocate, empty]
  rfl

theorem act?_twoFrames (build : Build) (empty : storage.file ⟨1⟩ = .memory (.empty "")) :
    twoFrames.act? build storage (.allocate ⟨1⟩) =
      some (.done (some ⟨0, 2, ⟨⟨1⟩, 0⟩⟩) onePage (storage.allocate ⟨1⟩).2) := by
  have claimed : twoFrames.claim? storage = some (.done 0
      { twoFrames with
        descriptors := #[{ Descriptor.fresh with generation := 1 }, .fresh]
        clock := ⟨2, 0⟩ } storage) := rfl
  have answer := answer_allocate empty
  simp only [WordPool.act?, WordPool.allocate?, claimed, WordOutcome.andThen?, WordOutcome.done,
    Option.bind_eq_bind, Option.bind_some, answer]
  cases build <;> rfl

theorem act?_onePage (empty : storage.file namesake = .memory (.empty "")) :
    onePage.act? .bare storage (.allocate namesake) =
        some (.done (some ⟨1, 2, ⟨⟨1⟩, 0⟩⟩) twoPages (storage.allocate namesake).2) ∧
      onePage.act? .guarded storage (.allocate namesake) = none := by
  have claimed : onePage.claim? storage = some (.done 1
      { onePage with
        descriptors := #[⟨some ⟨1⟩, 0, true, true, false, 1, 2⟩,
          { Descriptor.fresh with generation := 1 }]
        clock := ⟨2, 1⟩ } storage) := rfl
  have answer := answer_allocate empty
  simp only [WordPool.act?, WordPool.allocate?, claimed, WordOutcome.andThen?, WordOutcome.done,
    Option.bind_eq_bind, Option.bind_some, answer]
  exact ⟨rfl, rfl⟩

/-- A machine can come to have page zero of the first of any number of files in its pool. -/
theorem exists_reached_onePage (build : Build) {files : Nat} (positive : 1 ≤ files) :
    ∃ storage, Reached build files ⟨storage, [onePage]⟩ ∧ storage.opened = files ∧
      ∀ id, id ≠ ⟨1⟩ → storage.file id = .memory (.empty "") := by
  obtain ⟨storage, reached, opened, empty⟩ := exists_reached_emptied build files
  have pool := reached.step (.make (show (2 : Nat) ≤ wordLimit by decide)
    (show WordPool.ofConfig ⟨2, true⟩ = .ok twoFrames from rfl))
  have known : (Action.allocate ⟨1⟩).Within storage.opened := positive.trans_eq opened.symm
  have allocated := pool.step (.act (show [twoFrames][0]? = some twoFrames from rfl) known
    (act?_twoFrames build (empty ⟨1⟩)))
  refine ⟨_, allocated, opened, fun id other => ?_⟩
  exact (Storage.file_settle ..).trans ((if_neg other.symm).trans (empty id))

/-! ## Tables and calls at every point of a run -/

variable {build : Build} {files : Nat} {machine : Machine}

/-- Whatever happens to a machine, the tables of each of its pools tell the same, as long as the
files that were opened have numbers of 32 bits. -/
theorem consistent_of_reached (reached : Reached build files machine) (few : files ≤ fileLimit)
    {words : WordPool} (member : words ∈ machine.pools) : words.Consistent := by
  obtain ⟨pool, keeps, trim⟩ := (reached.ordered few).kept words member
  exact keeps.consistent trim.sound

/-- A page was allocated, and a flush of it has failed. -/
theorem consistent_of_reached_one_page :
    ∃ storage, Reached .guarded 1 ⟨storage, [onePage]⟩ ∧
      onePage.act? .guarded storage (.flush ⟨1⟩) =
        some (.failed (.stillPinned ⟨⟨1⟩, 0⟩ 0) onePage storage) ∧
      1 ≤ fileLimit ∧ onePage.validFrames = 1 ∧ onePage.Consistent := by
  obtain ⟨storage, reached, opened, -⟩ := exists_reached_onePage .guarded le_rfl
  have failed : onePage.act? .guarded storage (.flush ⟨1⟩) =
      some (.failed (.stillPinned ⟨⟨1⟩, 0⟩ 0) onePage storage) := rfl
  have flushed := reached.step (.act (show [onePage][0]? = some onePage from rfl)
    (show (Action.flush ⟨1⟩).Within storage.opened from opened.ge) failed)
  have few : 1 ≤ fileLimit := by decide
  exact ⟨storage, flushed, failed, few, by decide,
    consistent_of_reached flushed few List.mem_cons_self⟩

/-- Files that share a number make a directory differ from its descriptors. -/
theorem not_consistent_of_reached :
    ¬ ∀ (build : Build) (files : Nat) (machine : Machine), Reached build files machine →
      ∀ words ∈ machine.pools, words.Consistent := by
  intro claim
  obtain ⟨storage, reached, opened, empty⟩ :=
    exists_reached_onePage .bare (show 1 ≤ 4294967297 by decide)
  have known : (Action.allocate namesake).Within storage.opened := opened.ge
  have allocated := reached.step (.act (show [onePage][0]? = some onePage from rfl) known
    (act?_onePage (empty namesake (by decide))).1)
  have counted := (claim _ _ _ allocated twoPages List.mem_cons_self).counted
  have valid : twoPages.validFrames = 2 := by decide
  have entries : twoPages.directory.size = 1 := by decide
  rw [valid, entries] at counted
  cases counted

/-- No call stops a machine, but for a count of pins that is full. -/
structure Safe (storage : Storage) (words : WordPool) : Prop where
  /-- A machine that looks after itself stops at an action exactly if it is the fetch of a page that
  has as many pins as fit. -/
  guarded : ∀ action, action.Within storage.opened →
    (words.act? .guarded storage action = none ↔ words.Full action)
  /-- Any other machine does not stop at an action. -/
  bare : ∀ action, action.Within storage.opened →
    ∃ outcome, words.act? .bare storage action = some outcome
  /-- Every handle can be tried. -/
  page : ∀ handle, ∃ page, words.page? handle = some page
  /-- The pool can be dropped. -/
  drop : ∃ outcome, words.drop? storage = some outcome

/-- Whatever happens to a machine, no call stops it, but for a count of pins that is full, as long
as the files that were opened have numbers of 32 bits. -/
theorem safe_of_reached (reached : Reached build files machine) (few : files ≤ fileLimit)
    {words : WordPool} (member : words ∈ machine.pools) : Safe machine.storage words := by
  have ordered := reached.ordered few
  obtain ⟨pool, keeps, trim⟩ := ordered.kept words member
  have opened : machine.storage.opened ≤ fileLimit := ordered.opened.trans_le few
  refine ⟨fun action known => ⟨fun stops => ?_, fun full => WordPool.act?_of_full full _⟩,
    fun action known => ?_, fun handle => ⟨_, keeps.page?_eq trim.fits handle⟩, ?_⟩
  · by_contra room
    obtain ⟨outcome, given, -⟩ := keeps.act trim (known.mono opened) fun _ => room
    cases stops.symm.trans given
  · obtain ⟨outcome, given, -⟩ : Mirrors (words.act? .bare _ action) _ :=
      keeps.act trim (known.mono opened) nofun
    exact ⟨outcome, given⟩
  · obtain ⟨outcome, given, -⟩ := keeps.drop machine.storage
    exact ⟨outcome, given⟩

/-- A page was allocated and can be fetched once more. -/
theorem safe_of_reached_one_page :
    ∃ storage, Reached .guarded 1 ⟨storage, [onePage]⟩ ∧ 1 ≤ fileLimit ∧ Safe storage onePage ∧
      ∃ outcome, onePage.act? .guarded storage (.fetch ⟨⟨1⟩, 0⟩) = some outcome := by
  obtain ⟨storage, reached, -⟩ := exists_reached_onePage .guarded le_rfl
  have few : 1 ≤ fileLimit := by decide
  exact ⟨storage, reached, few, safe_of_reached reached few List.mem_cons_self, _, rfl⟩

/-- Files that share a number stop a machine that looks after itself. -/
theorem not_safe_of_reached :
    ¬ ∀ (build : Build) (files : Nat) (machine : Machine), Reached build files machine →
      ∀ words ∈ machine.pools, Safe machine.storage words := by
  intro claim
  obtain ⟨storage, reached, opened, empty⟩ :=
    exists_reached_onePage .guarded (show 1 ≤ 4294967297 by decide)
  have safe := claim _ _ _ reached onePage List.mem_cons_self
  obtain ⟨key, number, other, -⟩ :=
    (safe.guarded (.allocate namesake) opened.ge).mp (act?_onePage (empty namesake (by decide))).2
  cases other

end Machine

end PageCache
