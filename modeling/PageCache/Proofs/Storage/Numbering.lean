import Mathlib.Order.Nat
import PageCache.Storage.Basic

/-!
# The numbers of new pages

Every file gives its new pages consecutive numbers. Only an allocation moves the next number, by
one, and a page that is read has a number below it. Hence no number is given out twice, whatever
else is done to the files.
-/

namespace PageCache

namespace Backing

/-- The number of the next new page. -/
def next : Backing → Nat
  | memory file => file.next
  | counted file => file.memory.next
  | disk file => file.pages

variable {file : Backing} {self : FileIdentity} {system : FileSystem}

theorem next_read (page : Nat) : (file.read self page system).file.next = file.next := by
  cases file <;> rfl

theorem next_write (page : Page) : (file.write self page system).file.next = file.next := by
  cases file with
  | memory held =>
      simp only [write]
      split
      · next written equal => exact MemoryBacking.next_write equal
      · rfl
  | counted held =>
      simp only [write, CountedBacking.write]
      split
      · next written equal => exact MemoryBacking.next_write equal
      · rfl
  | disk held => rfl

theorem next_delete (page : Nat) : (file.delete self page system).file.next = file.next := by
  cases file with
  | memory held =>
      simp only [delete]
      split
      · next rest equal => exact MemoryBacking.next_delete equal
      · rfl
  | counted held =>
      simp only [delete, CountedBacking.delete]
      cases deleted : held.memory.delete self page with
      | error cause => rfl
      | ok rest => exact MemoryBacking.next_delete deleted
  | disk held =>
      simp only [delete, DiskBacking.delete]
      split
      · next rest equal =>
        split at equal
        · obtain rfl := Except.ok.inj equal
          rfl
        · cases equal
      · rfl

/-- A new page is zero and gets the next number, and a failing allocation does not use the number
up. -/
theorem allocate_cases (file : Backing) (system : FileSystem) :
    ((file.allocate system).answer = .ok (.zero file.next) ∧
        (file.allocate system).file.next = file.next + 1) ∨
      ∃ cause, (file.allocate system).answer = .error cause ∧
        (file.allocate system).file = file := by
  cases file with
  | memory held => exact .inl ⟨rfl, rfl⟩
  | counted held => exact .inl ⟨rfl, rfl⟩
  | disk held =>
      simp only [allocate, DiskBacking.allocate]
      split
      · exact .inl ⟨rfl, rfl⟩
      · exact .inr ⟨_, rfl, rfl⟩

/-- The page that is read is the page that was asked for. -/
theorem number_of_read {page : Nat} {found : Page}
    (answer : (file.read self page system).answer = .ok found) : found.number = page := by
  cases file with
  | memory held => exact (MemoryBacking.read_eq_ok_iff.mp answer).1
  | counted held => exact (MemoryBacking.read_eq_ok_iff.mp answer).1
  | disk held =>
      simp only [read, DiskBacking.read] at answer
      split at answer
      · split at answer
        · obtain rfl := Except.ok.inj answer
          rfl
        · cases answer
      · cases answer

/-- Only a page whose number was given out can be read. -/
theorem lt_next_of_read {page : Nat} {found : Page}
    (answer : (file.read self page system).answer = .ok found) : page < file.next := by
  cases file with
  | memory held =>
      have present := (MemoryBacking.read_eq_ok_iff.mp answer).2
      exact MemoryBacking.lt_next_of_data? (by simp [present])
  | counted held =>
      have present := (MemoryBacking.read_eq_ok_iff.mp answer).2
      exact MemoryBacking.lt_next_of_data? (by simp [present])
  | disk held =>
      simp only [read, DiskBacking.read] at answer
      split at answer
      · next live =>
        simp only [DiskBacking.live, Bool.and_eq_true, decide_eq_true_eq] at live
        exact live.1
      · cases answer

end Backing

namespace Storage

/-- The number of the next new page of a file. -/
def next (storage : Storage) (id : FileIdentity) : Nat := (storage.file id).next

theorem next_settle {storage : Storage} {id : FileIdentity} {request : Request}
    {served : Served Answer} (same : served.file.next = storage.next id) (other : FileIdentity) :
    (storage.settle id request served).next other = storage.next other := by
  simp only [next, file_settle]
  split
  · next equal => rw [← equal, same, next]
  · rfl

@[simp] theorem next_read (storage : Storage) (id : FileIdentity) (page : Nat)
    (other : FileIdentity) : (storage.read id page).2.next other = storage.next other :=
  next_settle (Backing.next_read page) other

@[simp] theorem next_write (storage : Storage) (id : FileIdentity) (page : Page)
    (other : FileIdentity) : (storage.write id page).2.next other = storage.next other :=
  next_settle (Backing.next_write page) other

@[simp] theorem next_delete (storage : Storage) (id : FileIdentity) (page : Nat)
    (other : FileIdentity) : (storage.delete id page).2.next other = storage.next other :=
  next_settle (Backing.next_delete page) other

theorem next_allocate_of_ok {storage : Storage} {id : FileIdentity} {page : Page}
    (given : (storage.allocate id).1 = .ok page) (other : FileIdentity) :
    page = .zero (storage.next id) ∧
      (storage.allocate id).2.next other =
        if id = other then storage.next id + 1 else storage.next other := by
  rcases (storage.file id).allocate_cases storage.system with
    ⟨answer, grown⟩ | ⟨cause, answer, _⟩
  · obtain rfl := Except.ok.inj (answer.symm.trans given)
    refine ⟨rfl, ?_⟩
    simp only [next, allocate, file_settle]
    split
    · exact grown
    · rfl
  · cases answer.symm.trans given

theorem next_allocate_of_error {storage : Storage} {id : FileIdentity} {cause : BackingError}
    (refused : (storage.allocate id).1 = .error cause) (other : FileIdentity) :
    (storage.allocate id).2.next other = storage.next other := by
  rcases (storage.file id).allocate_cases storage.system with
    ⟨answer, _⟩ | ⟨cause, _, same⟩
  · cases answer.symm.trans refused
  · exact next_settle (congrArg Backing.next same) other

theorem number_of_read {storage : Storage} {id : FileIdentity} {page : Nat} {found : Page}
    (answer : (storage.read id page).1 = .ok found) :
    found.number = page ∧ page < storage.next id :=
  ⟨Backing.number_of_read answer, Backing.lt_next_of_read answer⟩

/-! ## Storages over time -/

/-- A number that was given out in one storage is not given out again in the other. -/
def Precedes (before after : Storage) : Prop := ∀ id, before.next id ≤ after.next id

theorem Precedes.refl (storage : Storage) : storage.Precedes storage := fun _ => le_rfl

theorem Precedes.trans {first second third : Storage} (early : first.Precedes second)
    (late : second.Precedes third) : first.Precedes third :=
  fun id => (early id).trans (late id)

theorem precedes_of_eq {before after : Storage} (same : ∀ id, after.next id = before.next id) :
    before.Precedes after := fun id => (same id).ge

theorem precedes_allocate (storage : Storage) (id : FileIdentity) :
    storage.Precedes (storage.allocate id).2 := by
  intro other
  cases answer : (storage.allocate id).1 with
  | error cause => exact (next_allocate_of_error answer other).ge
  | ok page =>
      rw [(next_allocate_of_ok answer other).2]
      split
      · next equal => exact equal ▸ Nat.le_succ _
      · exact le_rfl

end Storage

end PageCache
