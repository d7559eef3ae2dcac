import PageCache.Proofs.Storage.Liveness

/-!
# Storages with the same pages

Two storages resemble each other if they have the same pages, whatever the bytes, and give the same
numbers to new ones. Main statements: over files in memory it depends on the pages alone which
requests succeed and how, and after the same requests the storages still resemble each other.
-/

namespace PageCache

/-- Every file is held in memory. -/
def Storage.InMemory (storage : Storage) : Prop :=
  ∀ id, ∃ file, storage.file id = .memory file

/-- Two storages have the same pages, and give the same numbers to new ones. -/
structure Storage.Resembles (first second : Storage) : Prop where
  /-- The next new page of each file has the same number. -/
  next : ∀ id, first.next id = second.next id
  /-- The same pages are there. -/
  has : ∀ key, first.has key = second.has key

namespace Storage

/-! ## Files in memory -/

namespace InMemory

variable {storage : Storage}

theorem settle (memory : storage.InMemory) {Answer : Type} {served : Served Answer}
    (held : ∃ file, served.file = .memory file) (id : FileIdentity) (request : Request) :
    (storage.settle id request served).InMemory := by
  intro other
  rw [file_settle]
  split
  · exact held
  · exact memory other

theorem read (memory : storage.InMemory) (id : FileIdentity) (page : Nat) :
    (storage.read id page).2.InMemory := by
  obtain ⟨file, held⟩ := memory id
  refine memory.settle ?_ id _
  rw [held]
  exact ⟨file, rfl⟩

theorem write (memory : storage.InMemory) (id : FileIdentity) (page : Page) :
    (storage.write id page).2.InMemory := by
  obtain ⟨file, held⟩ := memory id
  refine memory.settle ?_ id _
  rw [held, Backing.write]
  split <;> exact ⟨_, rfl⟩

theorem allocate (memory : storage.InMemory) (id : FileIdentity) :
    (storage.allocate id).2.InMemory := by
  obtain ⟨file, held⟩ := memory id
  refine memory.settle ?_ id _
  rw [held]
  exact ⟨file.allocate.2, rfl⟩

theorem delete (memory : storage.InMemory) (id : FileIdentity) (page : Nat) :
    (storage.delete id page).2.InMemory := by
  obtain ⟨file, held⟩ := memory id
  refine memory.settle ?_ id _
  rw [held, Backing.delete]
  split <;> exact ⟨_, rfl⟩

/-- A page that is there can be read. -/
theorem answer_read (memory : storage.InMemory) {key : PageKey} (live : storage.has key = true) :
    ∃ data, (storage.read key.file key.page).1 = .ok ⟨key.page, data⟩ := by
  obtain ⟨file, held⟩ := memory key.file
  rw [has, held, Backing.contains] at live
  obtain ⟨data, found⟩ := Option.isSome_iff_exists.mp live
  refine ⟨data, ?_⟩
  simp only [Storage.read, held, Backing.read, MemoryBacking.read, found]

theorem answer_read_of_not_has (memory : storage.InMemory) {key : PageKey}
    (dead : storage.has key = false) :
    (storage.read key.file key.page).1 = .error (.pageNotFound key) := by
  obtain ⟨file, held⟩ := memory key.file
  rw [has, held, Backing.contains] at dead
  have absent := Option.isSome_eq_false_iff.mp dead
  rw [Option.isNone_iff_eq_none] at absent
  simp only [Storage.read, held, Backing.read, MemoryBacking.read, absent]

/-- A page that is there takes other bytes. -/
theorem answer_write (memory : storage.InMemory) {id : FileIdentity} {page : Page}
    (live : storage.has ⟨id, page.number⟩ = true) : (storage.write id page).1 = .ok () := by
  obtain ⟨file, held⟩ := memory id
  have present : (file.data? page.number).isSome = true := by
    rwa [has, held] at live
  simp only [Storage.write, held, Backing.write, MemoryBacking.write, dif_pos present]

/-- A file in memory can always grow. -/
theorem answer_allocate (memory : storage.InMemory) (id : FileIdentity) :
    (storage.allocate id).1 = .ok (.zero (storage.next id)) := by
  obtain ⟨file, held⟩ := memory id
  simp only [Storage.allocate, Storage.next, held]
  rfl

theorem bounded (memory : storage.InMemory) : storage.Bounded := by
  intro id
  obtain ⟨file, held⟩ := memory id
  rw [held]
  trivial

end InMemory

/-! ## The same requests -/

namespace Resembles

variable {first second third : Storage}

theorem refl (storage : Storage) : storage.Resembles storage := ⟨fun _ => rfl, fun _ => rfl⟩

theorem symm (resembles : first.Resembles second) : second.Resembles first :=
  ⟨fun id => (resembles.next id).symm, fun key => (resembles.has key).symm⟩

theorem trans (early : first.Resembles second) (late : second.Resembles third) :
    first.Resembles third :=
  ⟨fun id => (early.next id).trans (late.next id), fun key => (early.has key).trans (late.has key)⟩

/-- No read changes which pages there are. -/
theorem of_read (storage : Storage) (id : FileIdentity) (page : Nat) :
    storage.Resembles (storage.read id page).2 :=
  ⟨fun other => (Storage.next_read storage id page other).symm,
    fun key => (Storage.has_read storage id page key).symm⟩

/-- No write changes which pages there are. -/
theorem of_write (storage : Storage) (id : FileIdentity) (page : Page) :
    storage.Resembles (storage.write id page).2 :=
  ⟨fun other => (Storage.next_write storage id page other).symm,
    fun key => (Storage.has_write storage id page key).symm⟩

theorem read (resembles : first.Resembles second) (id : FileIdentity) (page : Nat) :
    (first.read id page).2.Resembles (second.read id page).2 :=
  ((of_read first id page).symm.trans resembles).trans (of_read second id page)

theorem allocate (resembles : first.Resembles second) (memory : first.InMemory)
    (memoryToo : second.InMemory) (id : FileIdentity) :
    (first.allocate id).2.Resembles (second.allocate id).2 := by
  have given := memory.answer_allocate id
  have givenToo := memoryToo.answer_allocate id
  refine ⟨fun other => ?_, fun key => ?_⟩
  · rw [(Storage.next_allocate_of_ok given other).2, (Storage.next_allocate_of_ok givenToo other).2,
      resembles.next, resembles.next]
  · by_cases new : key = ⟨id, first.next id⟩
    · have newToo : key = ⟨id, second.next id⟩ := by rw [new, resembles.next]
      have live := memory.bounded.has_allocate given
      have liveToo := memoryToo.bounded.has_allocate givenToo
      rw [← new] at live
      rw [← newToo] at liveToo
      rw [live, liveToo]
    · have newToo : key ≠ ⟨id, second.next id⟩ := by rwa [← resembles.next]
      rw [Storage.has_allocate_of_ne first id new, Storage.has_allocate_of_ne second id newToo,
        resembles.has]

theorem delete (resembles : first.Resembles second) (key : PageKey) :
    (first.delete key.file key.page).2.Resembles (second.delete key.file key.page).2 := by
  refine ⟨fun other => ?_, fun other => ?_⟩
  · rw [Storage.next_delete, Storage.next_delete, resembles.next]
  · rw [Storage.has_delete, Storage.has_delete, resembles.has]

theorem answer_delete (resembles : first.Resembles second) (key : PageKey) :
    (first.delete key.file key.page).1 = (second.delete key.file key.page).1 := by
  rw [Storage.answer_delete, Storage.answer_delete, resembles.has]

end Resembles

end Storage

end PageCache
