import PageCache.Proofs.FileSystem.Transfer
import PageCache.Proofs.Storage.Numbering

/-!
# The contents of files

The contents of a storage are the bytes under each page key, wherever its file keeps them. Main
statements: in a tidy storage every request leaves the contents of all pages but one alone, also
where it fails; a read gives the contents; a write that succeeds sets them; a new page is zero and a
deleted page is gone.
-/

namespace PageCache

namespace MemoryBacking

theorem write_cases (file : MemoryBacking) (self : FileIdentity) (page : Page) :
    (∃ written, file.write self page = .ok written ∧ (file.data? page.number).isSome ∧
        ∀ other, written.data? other =
          if page.number = other then some page.data else file.data? other) ∨
      ∃ cause, file.write self page = .error cause := by
  cases answer : file.write self page with
  | error cause => exact .inr ⟨cause, rfl⟩
  | ok written =>
      refine .inl ⟨written, rfl, ?_, data?_write answer⟩
      simp only [write] at answer
      split at answer
      · assumption
      · cases answer

theorem delete_cases (file : MemoryBacking) (self : FileIdentity) (page : Nat) :
    (∃ rest, file.delete self page = .ok rest ∧ (file.data? page).isSome ∧
        ∀ other, rest.data? other = if page = other then none else file.data? other) ∨
      (file.data? page = none ∧
        file.delete self page = .error (.pageNotFound ⟨self, page⟩)) := by
  cases answer : file.delete self page with
  | error cause =>
      simp only [delete] at answer
      split at answer
      · cases answer
      · next absent => exact .inr ⟨by simpa using absent, answer.symm⟩
  | ok rest =>
      refine .inl ⟨rest, rfl, ?_, data?_delete answer⟩
      simp only [delete] at answer
      split at answer
      · assumption
      · cases answer

end MemoryBacking

namespace DiskBacking

/-- The bytes in the place of a page, whether or not the page is live. -/
def stored? (file : DiskBacking) (system : FileSystem) (page : Nat) : Option PageData :=
  match file.target with
  | .regular place => system.bytesFrom? place (start page) pageSize
  | .fullDevice => some .zero

/-- The books of the file are those of the bytes below it. -/
structure Fits (file : DiskBacking) (system : FileSystem) : Prop where
  /-- All pages lie within the bytes. -/
  room : file.pages * pageSize ≤ system.size file.target
  /-- Only pages that were there are deleted. -/
  known : ∀ page, file.deleted.contains page = true → page < file.pages

variable {file : DiskBacking} {system after : FileSystem}

theorem lt_of_live {page : Nat} (live : file.live page = true) : page < file.pages := by
  simp only [DiskBacking.live, Bool.and_eq_true, decide_eq_true_eq] at live
  exact live.1

theorem end_le {page : Nat} (inside : page < file.pages) :
    start page + pageSize ≤ file.pages * pageSize := by
  have pages := Nat.mul_le_mul_right pageSize inside
  rw [Nat.succ_mul] at pages
  exact pages

theorem isSome_stored? (fits : file.Fits system) {page : Nat} (inside : page < file.pages) :
    (file.stored? system page).isSome := by
  have reach := (end_le inside).trans fits.room
  simp only [stored?]
  split
  · next place target =>
    rw [FileSystem.isSome_bytesFrom?]
    rw [target] at reach
    exact reach
  · rfl

/-- A file in which nothing is taken away keeps room for its pages. -/
theorem Fits.within {target : Target} {offset limit : Nat} (fits : file.Fits system)
    (within : FileSystem.Within target offset limit system after) : file.Fits after := by
  refine ⟨fits.room.trans ?_, fits.known⟩
  cases file.target with
  | regular place => exact within.size place
  | fullDevice => exact Nat.le_refl _

/-- Two pages take up different bytes. -/
theorem start_apart {page other : Nat} (different : other ≠ page) :
    start other + pageSize ≤ start page ∨ start page + pageSize ≤ start other := by
  rcases Nat.lt_or_gt_of_ne different with before | past
  · have pages := Nat.mul_le_mul_right pageSize before
    rw [Nat.succ_mul] at pages
    exact .inl pages
  · have pages := Nat.mul_le_mul_right pageSize past
    rw [Nat.succ_mul] at pages
    exact .inr pages

/-- A page whose bytes are there reads the same after a transfer to another page. -/
theorem stored?_of_present {page other : Nat}
    (within : FileSystem.Within file.target (start page) pageSize system after)
    (present : (file.stored? system other).isSome) (different : other ≠ page) :
    file.stored? after other = file.stored? system other := by
  simp only [stored?] at present ⊢
  split
  · next place target =>
    rw [target] at within
    simp only [target] at present
    exact within.bytesFrom? (by decide) present (.inr (start_apart different))
  · rfl

theorem stored?_of_within (fits : file.Fits system) {page other : Nat}
    (within : FileSystem.Within file.target (start page) pageSize system after)
    (inside : other < file.pages) (different : other ≠ page) :
    file.stored? after other = file.stored? system other :=
  stored?_of_present within (isSome_stored? fits inside) different

/-- The bytes placed by a write that succeeds are those of the page. -/
theorem stored?_place {page : Page} (taken : (file.place page system).1 = .ok ()) :
    file.stored? (file.place page system).2 page.number = some page.data := by
  simp only [place] at taken ⊢
  split at taken
  · next written =>
    obtain ⟨place, target, found⟩ := FileSystem.bytesFrom?_writeAt (by decide) written
    simp only [stored?, target] at found ⊢
    exact found
  · cases taken

theorem system_place (file : DiskBacking) (page : Page) (system : FileSystem) :
    (file.place page system).2 =
      (system.writeAt file.target (start page.number) page.data.toArray).2 := by
  simp only [place]
  split
  · rfl
  · rfl

theorem within_place (file : DiskBacking) (page : Page) (system : FileSystem) :
    FileSystem.Within file.target (start page.number) pageSize system
      (file.place page system).2 := by
  have within := system.within_writeAt file.target (start page.number) page.data.toArray
  rw [Vector.size_toArray] at within
  rw [system_place]
  exact within

/-- The end of a page that can be read lies within the bytes of its file. -/
theorem le_size_of_stored? {page : Nat} {data : PageData}
    (regular : file.target ≠ .fullDevice) (found : file.stored? system page = some data) :
    start page + pageSize ≤ system.size file.target := by
  simp only [stored?] at found
  split at found
  · next place target =>
    rw [target]
    exact (system.isSome_bytesFrom? place (start page) pageSize).mp (by rw [found]; rfl)
  · next device => exact absurd device regular

/-- The device takes no page. -/
theorem ne_fullDevice_of_place {page : Page} (taken : (file.place page system).1 = .ok ()) :
    file.target ≠ .fullDevice := by
  intro device
  simp only [place, device, FileSystem.writeAt] at taken
  cases taken

end DiskBacking

namespace Backing

/-- The bytes of a page, if the file has it. -/
def data? (file : Backing) (system : FileSystem) (page : Nat) : Option PageData :=
  match file with
  | memory held => held.data? page
  | counted held => held.memory.data? page
  | disk held => if held.live page then held.stored? system page else none

/-- Where the bytes of the file lie, if they lie in a regular file. -/
def place? : Backing → Option Location
  | disk held =>
    match held.target with
    | .regular place => some place
    | .fullDevice => none
  | _ => none

/-- The books of the file are those of the bytes below it. -/
def Fits : Backing → FileSystem → Prop
  | disk held, system => held.Fits system
  | _, _ => True

variable {file : Backing} {system after : FileSystem}

theorem place?_disk (held : DiskBacking) (place : Location) :
    (disk held).place? = some place ↔ held.target = .regular place := by
  simp only [place?]
  split
  · next other target => simp [target]
  · next target => simp [target]

/-- The contents of a file hang on the bytes in its own place alone. -/
theorem data?_congr (same : ∀ place, file.place? = some place →
      after.bytesAt place = system.bytesAt place) (page : Nat) :
    file.data? after page = file.data? system page := by
  cases file with
  | memory held => rfl
  | counted held => rfl
  | disk held =>
      have stored : held.stored? after page = held.stored? system page := by
        simp only [DiskBacking.stored?]
        split
        · next place target =>
          rw [FileSystem.bytesFrom?, same place ((place?_disk held place).mpr target),
            FileSystem.bytesFrom?]
        · rfl
      simp only [data?, stored]

theorem fits_congr (same : ∀ place, file.place? = some place →
      after.bytesAt place = system.bytesAt place) (fits : file.Fits system) : file.Fits after := by
  cases file with
  | memory held => trivial
  | counted held => trivial
  | disk held =>
      refine ⟨fits.room.trans ?_, fits.known⟩
      cases target : held.target with
      | fullDevice => exact Nat.le_refl _
      | regular place =>
          have bytes := same place ((place?_disk held place).mpr target)
          exact Nat.le_of_eq (congrArg Runs.size bytes).symm

end Backing

/-- A request to a file leaves all pages but one alone, and all bytes outside the file. -/
structure Served.Spares {Answer : Type} (served : Served Answer) (file : Backing)
    (system : FileSystem) (page : Nat) : Prop where
  /-- The file stays in its place. -/
  place : served.file.place? = file.place?
  /-- It keeps room for its pages. -/
  fits : served.file.Fits served.system
  /-- Its other pages are as they were. -/
  others : ∀ other, other ≠ page →
    served.file.data? served.system other = file.data? system other
  /-- So are the bytes in other places. -/
  elsewhere : ∀ place, file.place? ≠ some place →
    served.system.bytesAt place = system.bytesAt place
  /-- The same faults are foreseen. -/
  faults : served.system.faults = system.faults

namespace Backing

variable {file : Backing} {self : FileIdentity} {system : FileSystem}

/-- A request that moves no byte of any place spares everything that the file keeps. -/
theorem spares_of_same {Answer : Type} {served : Served Answer} {page : Nat}
    (fits : file.Fits system) (place : served.file.place? = file.place?)
    (room : file.Fits system → served.file.Fits system)
    (others : ∀ other, other ≠ page → served.file.data? system other = file.data? system other)
    (same : ∀ place, served.system.bytesAt place = system.bytesAt place)
    (faults : served.system.faults = system.faults) : served.Spares file system page where
  place := place
  fits := fits_congr (fun place _ => same place) (room fits)
  others := fun other different =>
    (data?_congr (fun place _ => same place) other).trans (others other different)
  elsewhere := fun place _ => same place
  faults := faults

theorem same_of_read (held : DiskBacking) (self : FileIdentity) (page : Nat)
    (system : FileSystem) :
    (∀ place, (held.read self page system).2.bytesAt place = system.bytesAt place) ∧
      (held.read self page system).2.faults = system.faults := by
  have noted : (system.readAt held.target (DiskBacking.start page) pageSize).2 =
      system.note (.read held.target (DiskBacking.start page) pageSize) := by
    simp only [FileSystem.readAt]
    split
    · rfl
    · split
      · rfl
      · rfl
    · rfl
  simp only [DiskBacking.read]
  split
  · split
    · rw [noted]
      exact ⟨fun _ => rfl, rfl⟩
    · rw [noted]
      exact ⟨fun _ => rfl, rfl⟩
  · exact ⟨fun _ => rfl, rfl⟩

/-- A read changes the contents of no page. -/
theorem spares_read (fits : file.Fits system) (asked page : Nat) :
    (file.read self asked system).Spares file system page ∧
      (file.read self asked system).file.data? (file.read self asked system).system page =
        file.data? system page := by
  cases file with
  | memory held => exact ⟨spares_of_same fits rfl id (fun _ _ => rfl) (fun _ => rfl) rfl, rfl⟩
  | counted held => exact ⟨spares_of_same fits rfl id (fun _ _ => rfl) (fun _ => rfl) rfl, rfl⟩
  | disk held =>
      obtain ⟨same, faults⟩ := same_of_read held self asked system
      refine ⟨spares_of_same fits rfl id (fun _ _ => rfl) same faults, ?_⟩
      exact data?_congr (fun place _ => same place) page

/-- A read gives the contents, unless the file has no such page or a fault is foreseen. -/
theorem read_cases (fits : file.Fits system) (page : Nat) :
    (∃ data, file.data? system page = some data ∧
        (file.read self page system).answer = .ok ⟨page, data⟩) ∨
      (file.data? system page = none ∧
        (file.read self page system).answer = .error (.pageNotFound ⟨self, page⟩)) ∨
      ((file.data? system page).isSome ∧ ∃ fault, system.fault? = some fault ∧
        (file.read self page system).answer = .error (.system fault.cause)) := by
  have memory : ∀ held : MemoryBacking,
      (∃ data, held.data? page = some data ∧ held.read self page = .ok ⟨page, data⟩) ∨
        (held.data? page = none ∧ held.read self page = .error (.pageNotFound ⟨self, page⟩)) := by
    intro held
    simp only [MemoryBacking.read]
    split
    · next data present => exact .inl ⟨data, present, rfl⟩
    · next absent => exact .inr ⟨absent, rfl⟩
  cases file with
  | memory held => exact (memory held).imp_right .inl
  | counted held => exact (memory held.memory).imp_right .inl
  | disk held =>
      simp only [data?, read, DiskBacking.read]
      split
      · next live =>
        have present := DiskBacking.isSome_stored? fits (DiskBacking.lt_of_live live)
        simp only [FileSystem.readAt, DiskBacking.stored?] at present ⊢
        cases foreseen : system.fault? with
        | some fault => exact .inr (.inr ⟨present, fault, rfl, rfl⟩)
        | none =>
            cases target : held.target with
            | fullDevice => exact .inl ⟨_, rfl, rfl⟩
            | regular place =>
                simp only [target] at present
                obtain ⟨data, found⟩ := Option.isSome_iff_exists.mp present
                simp only [found]
                exact .inl ⟨data, rfl, rfl⟩
      · exact .inr (.inl ⟨rfl, rfl⟩)

/-- Placing a page spares the other pages of a file that keeps its pages. -/
theorem spares_place {held : DiskBacking} (fits : held.Fits system) (page : Page)
    {Answer : Type} {served : Served Answer} (kept : served.file = disk held)
    (moved : served.system = (held.place page system).2) :
    served.Spares (disk held) system page.number := by
  have within := held.within_place page system
  rw [← moved] at within
  refine ⟨by rw [kept], ?_, fun other different => ?_, fun place elsewhere => ?_, within.faults⟩
  · rw [kept]
    exact fits.within within
  · rw [kept]
    simp only [data?]
    split
    · next live => exact held.stored?_of_within fits within (DiskBacking.lt_of_live live) different
    · rfl
  · exact within.others place fun target => elsewhere ((place?_disk held place).mpr target)

/-- A write sets the contents of its page if it succeeds, and keeps the page in any case. -/
theorem write_cases (fits : file.Fits system) (page : Page) :
    (file.write self page system).Spares file system page.number ∧
      ((file.write self page system).file.data? (file.write self page system).system
          page.number).isSome = (file.data? system page.number).isSome ∧
      ((file.write self page system).answer = .ok () →
        (file.write self page system).file.data? (file.write self page system).system
          page.number = some page.data) := by
  cases file with
  | memory held =>
      simp only [write]
      rcases held.write_cases self page with ⟨written, taken, present, data⟩ | ⟨cause, refused⟩
      · simp only [taken]
        refine ⟨spares_of_same fits rfl id (fun other different => ?_) (fun _ => rfl) rfl, ?_, ?_⟩
        · exact (data other).trans (if_neg different.symm)
        · simp only [data?, data, if_pos, present, Option.isSome_some]
        · exact fun _ => (data _).trans (if_pos rfl)
      · simp only [refused]
        exact ⟨spares_of_same fits rfl id (fun _ _ => rfl) (fun _ => rfl) rfl, trivial,
          fun taken => by cases taken⟩
  | counted held =>
      simp only [write, CountedBacking.write]
      rcases held.memory.write_cases self page with
        ⟨written, taken, present, data⟩ | ⟨cause, refused⟩
      · simp only [taken]
        refine ⟨spares_of_same fits rfl id (fun other different => ?_) (fun _ => rfl) rfl, ?_, ?_⟩
        · exact (data other).trans (if_neg different.symm)
        · simp only [data?, data, if_pos, present, Option.isSome_some]
        · exact fun _ => (data _).trans (if_pos rfl)
      · simp only [refused]
        exact ⟨spares_of_same fits rfl id (fun _ _ => rfl) (fun _ => rfl) rfl, rfl,
          fun taken => by cases taken⟩
  | disk held =>
      simp only [write, DiskBacking.write]
      split
      · next live =>
        refine ⟨spares_place fits page rfl rfl, ?_, fun taken => ?_⟩
        · have inside := DiskBacking.lt_of_live live
          have before := DiskBacking.isSome_stored? fits inside
          have still := fits.within (held.within_place page system)
          have after := DiskBacking.isSome_stored? still inside
          simp only [data?, live, if_true, before, after]
        · simp only [data?, live, if_true]
          exact DiskBacking.stored?_place taken
      · exact ⟨spares_of_same fits rfl id (fun _ _ => rfl) (fun _ => rfl) rfl, rfl,
          fun taken => by cases taken⟩

/-- A new page is zero and was not there before; a failing allocation changes no contents. -/
theorem contents_allocate (fits : file.Fits system) :
    (file.allocate system).Spares file system file.next ∧
      file.data? system file.next = none ∧
      (file.allocate system).file.data? (file.allocate system).system file.next =
        match (file.allocate system).answer with
        | .ok _ => some .zero
        | .error _ => none := by
  have memory : ∀ held : MemoryBacking, held.data? held.next = none :=
    fun held => held.bounded held.next (Nat.le_refl _)
  cases file with
  | memory held =>
      have data := held.data?_append .zero
      refine ⟨spares_of_same fits rfl id (fun other different => ?_) (fun _ => rfl) rfl,
        memory held, ?_⟩
      · exact (data other).trans (if_neg different.symm)
      · exact (data _).trans (if_pos rfl)
  | counted held =>
      have data := held.memory.data?_append .zero
      refine ⟨spares_of_same fits rfl id (fun other different => ?_) (fun _ => rfl) rfl,
        memory held.memory, ?_⟩
      · exact (data other).trans (if_neg different.symm)
      · exact (data _).trans (if_pos rfl)
  | disk held =>
      have absent : held.live held.pages = false := by simp [DiskBacking.live]
      have none : (disk held).data? system held.pages = none := by simp [data?, absent]
      simp only [allocate, DiskBacking.allocate]
      cases placed : (held.place (.zero held.pages) system).1 with
      | error cause =>
          refine ⟨spares_place fits (.zero held.pages) rfl rfl, none, ?_⟩
          simp only [data?, next, absent, Bool.false_eq_true, if_false]
      | ok value =>
          have within := held.within_place (.zero held.pages) system
          have stored := DiskBacking.stored?_place placed
          have regular := DiskBacking.ne_fullDevice_of_place placed
          have room : (held.pages + 1) * pageSize ≤
              (held.place (.zero held.pages) system).2.size held.target := by
            rw [Nat.succ_mul]
            exact DiskBacking.le_size_of_stored? regular stored
          have known : ∀ page, held.deleted.contains page = true → page < held.pages + 1 :=
            fun page gone => Nat.lt_succ_of_lt (fits.known page gone)
          have kept : held.deleted.contains held.pages = false :=
            Bool.eq_false_iff.mpr fun gone => Nat.lt_irrefl _ (fits.known _ gone)
          refine ⟨⟨rfl, ⟨room, known⟩, fun other different => ?_, fun place elsewhere => ?_,
            within.faults⟩, none, ?_⟩
          · have same : ({ held with pages := held.pages + 1 } : DiskBacking).live other =
                held.live other := by
              have bound : other < held.pages + 1 ↔ other < held.pages := by
                have different : other ≠ held.pages := different
                omega
              simp only [DiskBacking.live, bound]
            simp only [data?, same]
            split
            · next live =>
              exact held.stored?_of_within fits within (DiskBacking.lt_of_live live) different
            · rfl
          · exact within.others place fun target => elsewhere ((place?_disk held place).mpr target)
          · have live : ({ held with pages := held.pages + 1 } : DiskBacking).live held.pages =
                true := by
              simp [DiskBacking.live, kept]
            simp only [data?, next, live, if_true]
            exact stored

/-- A page is deleted exactly if it was there. -/
theorem delete_cases (fits : file.Fits system) (page : Nat) :
    (file.delete self page system).Spares file system page ∧
      (((file.data? system page).isSome ∧ (file.delete self page system).answer = .ok () ∧
          (file.delete self page system).file.data? (file.delete self page system).system page =
            none) ∨
        (file.data? system page = none ∧
          (file.delete self page system).answer = .error (.pageNotFound ⟨self, page⟩) ∧
          (file.delete self page system).file.data? (file.delete self page system).system page =
            none)) := by
  cases file with
  | memory held =>
      simp only [delete]
      rcases held.delete_cases self page with ⟨rest, deleted, present, data⟩ | ⟨absent, refused⟩
      · simp only [deleted]
        refine ⟨spares_of_same fits rfl id (fun other different => ?_) (fun _ => rfl) rfl,
          .inl ⟨present, trivial, ?_⟩⟩
        · exact (data other).trans (if_neg different.symm)
        · exact (data page).trans (if_pos rfl)
      · simp only [refused]
        exact ⟨spares_of_same fits rfl id (fun _ _ => rfl) (fun _ => rfl) rfl,
          .inr ⟨absent, trivial, absent⟩⟩
  | counted held =>
      simp only [delete, CountedBacking.delete]
      rcases held.memory.delete_cases self page with
        ⟨rest, deleted, present, data⟩ | ⟨absent, refused⟩
      · simp only [deleted, Except.map]
        refine ⟨spares_of_same fits rfl id (fun other different => ?_) (fun _ => rfl) rfl,
          .inl ⟨present, trivial, ?_⟩⟩
        · exact (data other).trans (if_neg different.symm)
        · exact (data page).trans (if_pos rfl)
      · simp only [refused, Except.map]
        exact ⟨spares_of_same fits rfl id (fun _ _ => rfl) (fun _ => rfl) rfl,
          .inr ⟨absent, trivial, absent⟩⟩
  | disk held =>
      cases live : held.live page with
      | false =>
          have refused : held.delete self page = .error (.pageNotFound ⟨self, page⟩) := by
            simp [DiskBacking.delete, live]
          have absent : (disk held).data? system page = none := by simp [data?, live]
          simp only [delete, refused]
          exact ⟨spares_of_same fits rfl id (fun _ _ => rfl) (fun _ => rfl) rfl,
            .inr ⟨absent, trivial, absent⟩⟩
      | true =>
          have inside := DiskBacking.lt_of_live live
          have deleted : held.delete self page =
              .ok { held with deleted := held.deleted.insert page () } := by
            simp [DiskBacking.delete, live]
          have lives := DiskBacking.live_delete deleted
          have known : ∀ other, (held.deleted.insert page ()).contains other = true →
              other < held.pages := by
            intro other gone
            rw [Std.TreeMap.contains_insert, Bool.or_eq_true] at gone
            rcases gone with equal | earlier
            · exact (Std.LawfulEqCmp.compare_eq_iff_eq.mp (eq_of_beq equal)) ▸ inside
            · exact fits.known other earlier
          simp only [delete, deleted]
          refine ⟨spares_of_same fits rfl (fun fits => ⟨fits.room, known⟩)
            (fun other different => ?_) (fun _ => rfl) rfl, .inl ⟨?_, trivial, ?_⟩⟩
          · simp only [data?, lives]
            simp [different.symm, DiskBacking.stored?]
          · simp only [data?, live, if_true]
            exact DiskBacking.isSome_stored? fits inside
          · simp [data?, lives]

end Backing

end PageCache
