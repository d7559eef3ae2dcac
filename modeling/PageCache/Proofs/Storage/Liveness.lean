import PageCache.Proofs.Storage.Service

/-!
# Live pages

A page is live if its file has it: it was allocated and not deleted since. Only an allocation makes
a page live, and it gives that page a number that was not given out before. Hence a page whose
number was given out and that is not live is retired for good, whatever else is done to the files.
-/

namespace PageCache

namespace MemoryBacking

variable {file result : MemoryBacking} {self : FileIdentity} {page : Page} {other : Nat}

theorem isSome_data?_write (written : file.write self page = .ok result) :
    (result.data? other).isSome = (file.data? other).isSome := by
  rcases file.write_cases self page with ⟨later, taken, present, data⟩ | ⟨cause, refused⟩
  · obtain rfl := Except.ok.inj (taken.symm.trans written)
    rw [data]
    split
    · next same => rw [← same, present, Option.isSome_some]
    · rfl
  · cases refused.symm.trans written

theorem data?_append_of_ne (different : other ≠ file.next) (data : PageData) :
    (file.append data).data? other = file.data? other := by
  rw [data?_append, if_neg different.symm]

theorem isSome_data?_append (file : MemoryBacking) (data : PageData) :
    ((file.append data).data? file.next).isSome = true := by
  rw [data?_append, if_pos rfl, Option.isSome_some]

end MemoryBacking

namespace Backing

/-- Only pages that were there are deleted. -/
def Bounded : Backing → Prop
  | memory _ | counted _ => True
  | disk file => ∀ page, file.deleted.contains page = true → page < file.pages

variable {file : Backing} {self : FileIdentity} {system : FileSystem}

/-! ## The live pages after each request -/

theorem contains_read (page other : Nat) :
    (file.read self page system).file.contains other = file.contains other := by
  cases file <;> rfl

theorem contains_of_read {page : Nat} {found : Page}
    (answer : (file.read self page system).answer = .ok found) : file.contains page = true := by
  cases file with
  | memory held =>
      have present := (MemoryBacking.read_eq_ok_iff.mp answer).2
      simp [contains, present]
  | counted held =>
      have present := (MemoryBacking.read_eq_ok_iff.mp answer).2
      simp [contains, present]
  | disk held =>
      by_contra dead
      have refused := held.read_of_not_live (Bool.eq_false_iff.mpr dead) self system
      simp [read, refused] at answer

/-- Only a page whose number was given out is live. -/
theorem lt_next_of_contains {page : Nat} (live : file.contains page = true) : page < file.next := by
  cases file with
  | memory held => exact MemoryBacking.lt_next_of_data? live
  | counted held => exact MemoryBacking.lt_next_of_data? live
  | disk held => exact DiskBacking.lt_of_live live

theorem contains_write (page : Page) (other : Nat) :
    (file.write self page system).file.contains other = file.contains other := by
  cases file with
  | memory held =>
      simp only [write]
      split
      · next written taken => exact MemoryBacking.isSome_data?_write taken
      · rfl
  | counted held =>
      simp only [write, CountedBacking.write]
      split
      · next written taken => exact MemoryBacking.isSome_data?_write taken
      · rfl
  | disk held => rfl

theorem contains_allocate_of_ne {other : Nat} (different : other ≠ file.next) :
    (file.allocate system).file.contains other = file.contains other := by
  cases file with
  | memory held => exact congrArg Option.isSome (MemoryBacking.data?_append_of_ne different _)
  | counted held => exact congrArg Option.isSome (MemoryBacking.data?_append_of_ne different _)
  | disk held =>
      have apart : other ≠ held.pages := different
      have inside : decide (other < held.pages + 1) = decide (other < held.pages) := by
        apply decide_eq_decide.mpr
        omega
      simp only [allocate, DiskBacking.allocate]
      split
      · simp only [contains, DiskBacking.live, inside]
      · rfl

theorem contains_allocate_self (bounded : file.Bounded) {page : Page}
    (given : (file.allocate system).answer = .ok page) :
    (file.allocate system).file.contains file.next = true := by
  cases file with
  | memory held => exact held.isSome_data?_append _
  | counted held => exact held.memory.isSome_data?_append _
  | disk held =>
      have kept : held.deleted.contains held.pages = false := by
        apply Bool.eq_false_iff.mpr
        intro gone
        exact Nat.lt_irrefl _ (bounded _ gone)
      simp only [allocate, DiskBacking.allocate] at given ⊢
      split at given
      · simp [contains, next, DiskBacking.live, kept]
      · cases given

theorem delete_of_contains {page : Nat} (live : file.contains page = true) :
    (file.delete self page system).answer = .ok () ∧
      ∀ other, (file.delete self page system).file.contains other =
        (file.contains other && page != other) := by
  have erased : ∀ {before after : MemoryBacking}, before.delete self page = .ok after →
      ∀ other, (after.data? other).isSome = ((before.data? other).isSome && page != other) := by
    intro before after deleted other
    rw [MemoryBacking.data?_delete deleted]
    by_cases same : page = other <;> simp [same]
  cases file with
  | memory held =>
      rcases held.delete_cases self page with ⟨rest, deleted, -⟩ | ⟨absent, -⟩
      · simp only [delete, deleted]
        exact ⟨trivial, erased deleted⟩
      · simp [contains, absent] at live
  | counted held =>
      rcases held.memory.delete_cases self page with ⟨rest, deleted, -⟩ | ⟨absent, -⟩
      · simp only [delete, CountedBacking.delete, deleted, Except.map]
        exact ⟨trivial, erased deleted⟩
      · simp [contains, absent] at live
  | disk held =>
      have deleted : held.delete self page =
          .ok { held with deleted := held.deleted.insert page () } := if_pos live
      simp only [delete, deleted]
      exact ⟨trivial, DiskBacking.live_delete deleted⟩

/-- A file refuses to delete a page that is not live, and stays as it was. -/
theorem delete_of_not_contains {page : Nat} (dead : file.contains page = false) :
    file.delete self page system = ⟨.error (.pageNotFound ⟨self, page⟩), file, system⟩ := by
  cases file with
  | memory held =>
      have absent : (held.data? page).isSome = false := dead
      simp [delete, MemoryBacking.delete, absent]
  | counted held =>
      have absent : (held.memory.data? page).isSome = false := dead
      simp [delete, CountedBacking.delete, MemoryBacking.delete, Except.map, absent]
  | disk held =>
      have absent : held.live page = false := dead
      simp [delete, DiskBacking.delete, absent]

/-- A deletion moves no byte on disk. -/
@[simp] theorem system_delete (page : Nat) : (file.delete self page system).system = system := by
  cases file with
  | memory held =>
      simp only [delete]
      split <;> rfl
  | counted held =>
      simp only [delete]
      split <;> rfl
  | disk held =>
      simp only [delete]
      split <;> rfl

/-- A deletion leaves the other pages of its file alone. -/
theorem data?_delete_of_ne {page other : Nat} (different : other ≠ page) :
    (file.delete self page system).file.data? system other = file.data? system other := by
  cases live : file.contains page with
  | false => rw [delete_of_not_contains live]
  | true =>
      cases file with
      | memory held =>
          rcases held.delete_cases self page with ⟨rest, deleted, -, data⟩ | ⟨absent, -⟩
          · simp only [delete, deleted]
            exact (data other).trans (if_neg different.symm)
          · simp [contains, absent] at live
      | counted held =>
          rcases held.memory.delete_cases self page with ⟨rest, deleted, -, data⟩ | ⟨absent, -⟩
          · simp only [delete, CountedBacking.delete, deleted, Except.map]
            exact (data other).trans (if_neg different.symm)
          · simp [contains, absent] at live
      | disk held =>
          have deleted : held.delete self page =
              .ok { held with deleted := held.deleted.insert page () } := if_pos live
          simp only [delete, deleted, data?, DiskBacking.live_delete deleted]
          simp [different.symm, DiskBacking.stored?]

/-- A file refuses the bytes of a page that is not live. -/
theorem write_of_not_contains {page : Page} (dead : file.contains page.number = false) :
    (file.write self page system).answer = .error (.pageNotFound ⟨self, page.number⟩) := by
  cases file with
  | memory held =>
      have absent : (held.data? page.number).isSome = false := dead
      simp [write, MemoryBacking.write, absent]
  | counted held =>
      have absent : (held.memory.data? page.number).isSome = false := dead
      simp [write, CountedBacking.write, MemoryBacking.write, absent]
  | disk held => exact congrArg Prod.fst (DiskBacking.write_of_not_live dead self system)

theorem contains_delete (page other : Nat) :
    (file.delete self page system).file.contains other =
      (file.contains other && page != other) := by
  cases live : file.contains page with
  | true => exact (delete_of_contains live).2 other
  | false =>
      rw [delete_of_not_contains live]
      by_cases same : page = other
      · simp [← same, live]
      · simp [same]

/-! ## Deleted pages -/

theorem Bounded.read (bounded : file.Bounded) (page : Nat) :
    (file.read self page system).file.Bounded := by
  cases file with
  | memory held => trivial
  | counted held => trivial
  | disk held => exact bounded

theorem Bounded.write (bounded : file.Bounded) (page : Page) :
    (file.write self page system).file.Bounded := by
  cases file with
  | memory held =>
      simp only [Backing.write]
      split <;> trivial
  | counted held => trivial
  | disk held => exact bounded

theorem Bounded.allocate (bounded : file.Bounded) : (file.allocate system).file.Bounded := by
  cases file with
  | memory held => trivial
  | counted held => trivial
  | disk held =>
      simp only [Backing.allocate, DiskBacking.allocate]
      split
      · exact fun page gone => (bounded page gone).trans (Nat.lt_succ_self _)
      · exact bounded

theorem Bounded.delete (bounded : file.Bounded) (page : Nat) :
    (file.delete self page system).file.Bounded := by
  cases live : file.contains page with
  | false => rwa [delete_of_not_contains live]
  | true =>
      cases file with
      | memory held =>
          simp only [Backing.delete]
          split <;> trivial
      | counted held =>
          simp only [Backing.delete]
          split <;> trivial
      | disk held =>
          have deleted : held.delete self page =
              .ok { held with deleted := held.deleted.insert page () } := if_pos live
          have inside : page < held.pages := lt_next_of_contains live
          simp only [Backing.delete, deleted]
          intro other gone
          rw [Std.TreeMap.contains_insert, Bool.or_eq_true, beq_iff_eq,
            Std.LawfulEqCmp.compare_eq_iff_eq] at gone
          rcases gone with rfl | earlier
          · exact inside
          · exact bounded other earlier

end Backing

/-! ## Storages over time -/

namespace Storage

/-- Whether a page is live in its file. -/
def has (storage : Storage) (key : PageKey) : Bool := (storage.file key.file).contains key.page

/-- A page is retired if its number was given out and it is not live any more. -/
def Retired (storage : Storage) (key : PageKey) : Prop :=
  key.page < storage.next key.file ∧ storage.has key = false

/-- No number that was given out is given out again, and no page that is gone comes back. -/
structure Ages (before after : Storage) : Prop where
  /-- A number that was given out is not given out again. -/
  precedes : before.Precedes after
  /-- A live page is new or was live before. -/
  live : ∀ key, key.page < before.next key.file → after.has key = true → before.has key = true

variable {storage before after : Storage}

theorem Ages.refl (storage : Storage) : storage.Ages storage := ⟨.refl _, fun _ _ live => live⟩

theorem Ages.trans {first second third : Storage} (early : first.Ages second)
    (late : second.Ages third) : first.Ages third := by
  refine ⟨early.precedes.trans late.precedes, fun key known live => ?_⟩
  exact early.live key known (late.live key (known.trans_le (early.precedes key.file)) live)

theorem Ages.retired (ages : before.Ages after) {key : PageKey} (retired : before.Retired key) :
    after.Retired key := by
  refine ⟨retired.1.trans_le (ages.precedes key.file), ?_⟩
  by_contra live
  have alive := ages.live key retired.1 (Bool.not_eq_false _ ▸ live)
  rw [retired.2] at alive
  cases alive

theorem has_settle {Answer : Type} (storage : Storage) (id : FileIdentity) (request : Request)
    (served : Served Answer) (key : PageKey) :
    (storage.settle id request served).has key =
      if id = key.file then served.file.contains key.page else storage.has key := by
  simp only [has, file_settle]
  split <;> rfl

@[simp] theorem has_read (storage : Storage) (id : FileIdentity) (page : Nat) (key : PageKey) :
    (storage.read id page).2.has key = storage.has key := by
  simp only [read, has_settle]
  split
  · next same => rw [Backing.contains_read, same, has]
  · rfl

@[simp] theorem has_write (storage : Storage) (id : FileIdentity) (page : Page) (key : PageKey) :
    (storage.write id page).2.has key = storage.has key := by
  simp only [write, has_settle]
  split
  · next same => rw [Backing.contains_write, same, has]
  · rfl

theorem has_allocate_of_ne (storage : Storage) (id : FileIdentity) {key : PageKey}
    (different : key ≠ ⟨id, storage.next id⟩) :
    (storage.allocate id).2.has key = storage.has key := by
  simp only [allocate, has_settle]
  split
  · next same =>
    subst same
    apply Backing.contains_allocate_of_ne
    intro equal
    apply different
    cases key
    exact congrArg (PageKey.mk _) equal
  · rfl

theorem has_delete (storage : Storage) (key other : PageKey) :
    (storage.delete key.file key.page).2.has other = (storage.has other && key != other) := by
  obtain ⟨file, page⟩ := key
  obtain ⟨id, number⟩ := other
  simp only [delete, has_settle]
  by_cases same : file = id
  · subst same
    rw [if_pos rfl, Backing.contains_delete]
    simp [has, bne, beq_eq_decide]
  · simp [same]

theorem answer_delete (storage : Storage) (key : PageKey) :
    (storage.delete key.file key.page).1 =
      if storage.has key then .ok () else .error (.pageNotFound key) := by
  cases live : storage.has key with
  | true => exact (Backing.delete_of_contains live).1
  | false => exact congrArg Served.answer (Backing.delete_of_not_contains live)

@[simp] theorem system_delete (storage : Storage) (id : FileIdentity) (page : Nat) :
    (storage.delete id page).2.system = storage.system :=
  Backing.system_delete page

/-- A deletion leaves the other files alone. -/
theorem file_delete_of_ne (storage : Storage) {id other : FileIdentity} (different : other ≠ id)
    (page : Nat) : (storage.delete id page).2.file other = storage.file other :=
  (file_settle ..).trans (if_neg different.symm)

/-- A deletion that is refused leaves every file alone. -/
theorem file_delete_of_not_has {key : PageKey} (dead : storage.has key = false)
    (id : FileIdentity) :
    (storage.delete key.file key.page).2.file id = storage.file id := by
  rw [delete, file_settle]
  split
  · next same => rw [← same, Backing.delete_of_not_contains dead]
  · rfl

/-- A deletion leaves every other page alone, also one that another file keeps in the same place. -/
theorem data?_delete_of_ne (storage : Storage) {key other : PageKey} (different : other ≠ key) :
    (storage.delete key.file key.page).2.data? other = storage.data? other := by
  obtain ⟨file, page⟩ := key
  obtain ⟨id, number⟩ := other
  rw [data?, system_delete]
  by_cases same : id = file
  · subst same
    have apart : number ≠ page := fun equal => different (equal ▸ rfl)
    rw [delete, file_settle, if_pos rfl, Backing.data?_delete_of_ne apart, data?]
  · rw [file_delete_of_ne storage same, data?]

/-- A file refuses the bytes of a page that is not live. -/
theorem answer_write_of_not_has {key : PageKey} (dead : storage.has key = false) {page : Page}
    (own : page.number = key.page) :
    (storage.write key.file page).1 = .error (.pageNotFound key) := by
  have refused : (storage.write key.file page).1 =
      .error (.pageNotFound ⟨key.file, page.number⟩) :=
    Backing.write_of_not_contains (own ▸ dead)
  rw [own] at refused
  exact refused

theorem has_of_read {key : PageKey} {page : Page}
    (given : (storage.read key.file key.page).1 = .ok page) : storage.has key = true :=
  Backing.contains_of_read given

theorem lt_next_of_has {key : PageKey} (live : storage.has key = true) :
    key.page < storage.next key.file :=
  Backing.lt_next_of_contains live

/-- An allocation that its file refuses makes no page live. -/
theorem has_allocate_of_error {id : FileIdentity} {cause : BackingError}
    (refused : (storage.allocate id).1 = .error cause) (key : PageKey) :
    (storage.allocate id).2.has key = storage.has key := by
  by_cases new : key = ⟨id, storage.next id⟩
  · have unknown : ∀ later : Storage, later.next id = storage.next id → later.has key = false := by
      intro later same
      by_contra live
      have known := later.lt_next_of_has (Bool.not_eq_false _ ▸ live)
      rw [new, same] at known
      exact Nat.lt_irrefl _ known
    rw [unknown _ (next_allocate_of_error refused id), unknown storage rfl]
  · exact storage.has_allocate_of_ne id new

/-! ### Everything that is done to the files makes them older -/

theorem ages_read (storage : Storage) (id : FileIdentity) (page : Nat) :
    storage.Ages (storage.read id page).2 :=
  ⟨precedes_of_eq (next_read storage id page),
    fun key _ live => has_read storage id page key ▸ live⟩

theorem ages_write (storage : Storage) (id : FileIdentity) (page : Page) :
    storage.Ages (storage.write id page).2 :=
  ⟨precedes_of_eq (next_write storage id page),
    fun key _ live => has_write storage id page key ▸ live⟩

theorem ages_allocate (storage : Storage) (id : FileIdentity) :
    storage.Ages (storage.allocate id).2 := by
  refine ⟨precedes_allocate storage id, fun key known live => ?_⟩
  rwa [has_allocate_of_ne] at live
  rintro rfl
  exact Nat.lt_irrefl _ known

theorem ages_delete (storage : Storage) (key : PageKey) :
    storage.Ages (storage.delete key.file key.page).2 := by
  refine ⟨precedes_of_eq (next_delete storage key.file key.page), fun other _ live => ?_⟩
  rw [has_delete, Bool.and_eq_true] at live
  exact live.1

/-- A page is retired once its file was asked to delete it, if its number was given out. -/
theorem retired_delete {key : PageKey} (known : key.page < storage.next key.file) :
    (storage.delete key.file key.page).2.Retired key := by
  refine ⟨?_, ?_⟩
  · rwa [next_delete]
  · simp [has_delete]

/-! ### Deleted pages were given out -/

/-- Only pages that were there are deleted. -/
def Bounded (storage : Storage) : Prop := ∀ id, (storage.file id).Bounded

namespace Bounded

theorem settle {Answer : Type} (bounded : storage.Bounded) (id : FileIdentity) (request : Request)
    {served : Served Answer} (file : served.file.Bounded) :
    (storage.settle id request served).Bounded := by
  intro other
  rw [file_settle]
  split
  · exact file
  · exact bounded other

theorem read (bounded : storage.Bounded) (id : FileIdentity) (page : Nat) :
    (storage.read id page).2.Bounded :=
  bounded.settle id _ ((bounded id).read page)

theorem write (bounded : storage.Bounded) (id : FileIdentity) (page : Page) :
    (storage.write id page).2.Bounded :=
  bounded.settle id _ ((bounded id).write page)

theorem allocate (bounded : storage.Bounded) (id : FileIdentity) :
    (storage.allocate id).2.Bounded :=
  bounded.settle id _ (bounded id).allocate

theorem delete (bounded : storage.Bounded) (id : FileIdentity) (page : Nat) :
    (storage.delete id page).2.Bounded :=
  bounded.settle id _ ((bounded id).delete page)

/-- A new page is live. -/
theorem has_allocate (bounded : storage.Bounded) {id : FileIdentity} {page : Page}
    (given : (storage.allocate id).1 = .ok page) :
    (storage.allocate id).2.has ⟨id, storage.next id⟩ = true := by
  simp only [Storage.allocate, has_settle, if_true]
  exact Backing.contains_allocate_self (bounded id) given

end Bounded

end Storage

end PageCache
