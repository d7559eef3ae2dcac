import PageCache.Frame
import PageCache.Proofs.Storage.Tidy

/-!
# Writes one after the other

A write changes nothing but the bytes of its page, whether or not it succeeds, and this asks no
order among the files: a page that can be read keeps its bytes through a write to another page,
unless two files in one place keep the two as the same page. Main statements: what files have to
show for a run of writes that succeed, one after the other, which are exactly the requests in the
journal, and what the run leaves alone.
-/

namespace PageCache

namespace Backing

variable {file : Backing} {self : FileIdentity} {page : Page} {system : FileSystem}

/-- A write that succeeds can be read back. -/
theorem data?_write_self (taken : (file.write self page system).answer = .ok ()) :
    (file.write self page system).file.data? (file.write self page system).system page.number =
      some page.data := by
  cases file with
  | memory held =>
      simp only [write] at taken ⊢
      split at taken
      · next written given =>
        exact (MemoryBacking.data?_write given page.number).trans (if_pos rfl)
      · cases taken
  | counted held =>
      simp only [write, CountedBacking.write] at taken ⊢
      split at taken
      · next written given =>
        exact (MemoryBacking.data?_write given page.number).trans (if_pos rfl)
      · cases taken
  | disk held =>
      simp only [write, DiskBacking.write] at taken ⊢
      split at taken
      · next live =>
        simp only [data?, live, if_true]
        exact DiskBacking.stored?_place taken
      · cases taken

/-- A write keeps the bytes of the other pages of its file. -/
theorem data?_write_of_ne {other : Nat} {data : PageData} (different : other ≠ page.number)
    (found : file.data? system other = some data) :
    (file.write self page system).file.data? (file.write self page system).system other =
      some data := by
  cases file with
  | memory held =>
      simp only [write]
      split
      · next written given =>
        exact (MemoryBacking.data?_write given other).trans ((if_neg different.symm).trans found)
      · exact found
  | counted held =>
      simp only [write, CountedBacking.write]
      split
      · next written given =>
        exact (MemoryBacking.data?_write given other).trans ((if_neg different.symm).trans found)
      · exact found
  | disk held =>
      simp only [write, DiskBacking.write]
      split
      · simp only [data?] at found ⊢
        split at found
        · next live =>
          have kept := held.stored?_of_present (held.within_place page system)
            (Option.isSome_of_eq_some found) different
          exact (if_pos live).trans (kept.trans found)
        · cases found
      · exact found

@[simp] theorem place?_write (file : Backing) (self : FileIdentity) (page : Page)
    (system : FileSystem) : (file.write self page system).file.place? = file.place? := by
  cases file with
  | memory held =>
      simp only [write]
      split <;> rfl
  | counted held => rfl
  | disk held => rfl

/-- A write keeps the bytes of the other pages of each file that lies in the same place. -/
theorem data?_write_of_shared {held : Backing} {place : Location} {other : Nat} {data : PageData}
    (lies : file.place? = some place) (heldLies : held.place? = some place)
    (different : other ≠ page.number) (found : held.data? system other = some data) :
    held.data? (file.write self page system).system other = some data := by
  cases file with
  | memory _ => cases lies
  | counted _ => cases lies
  | disk writer =>
      cases held with
      | memory _ => cases heldLies
      | counted _ => cases heldLies
      | disk held =>
          simp only [write, DiskBacking.write]
          split
          · have target : writer.target = held.target :=
              ((place?_disk writer place).mp lies).trans ((place?_disk held place).mp heldLies).symm
            have within := writer.within_place page system
            rw [target] at within
            simp only [data?] at found ⊢
            split at found
            · next live =>
              have present := Option.isSome_of_eq_some found
              rw [if_pos live, DiskBacking.stored?_of_present within present different, found]
            · cases found
          · exact found

/-- A write moves no byte in another place than that of its file. -/
theorem bytesAt_write {place : Location} (elsewhere : file.place? ≠ some place) :
    (file.write self page system).system.bytesAt place = system.bytesAt place := by
  cases file with
  | memory held =>
      simp only [write]
      split <;> rfl
  | counted held => rfl
  | disk held =>
      simp only [write, DiskBacking.write]
      split
      · exact (held.within_place page system).others place fun target =>
          elsewhere ((place?_disk held place).mpr target)
      · rfl

end Backing

namespace Storage

/-- Two files do not lie in one place. -/
def Apart (storage : Storage) (first second : FileIdentity) : Prop :=
  ∀ place, (storage.file first).place? = some place → (storage.file second).place? ≠ some place

/-- Two pages have the same number in files that lie in one place. -/
def Shares (storage : Storage) (first second : PageKey) : Prop :=
  first.page = second.page ∧ ∃ place, (storage.file first.file).place? = some place ∧
    (storage.file second.file).place? = some place

variable {storage : Storage} {id : FileIdentity} {page : Page} {key : PageKey}

/-- Two pages of one file are kept apart by their numbers. -/
theorem not_shares_of_file_eq {first second : PageKey} (same : first.file = second.file)
    (different : first ≠ second) : ¬ storage.Shares first second := by
  rintro ⟨page, -⟩
  cases first
  cases second
  exact different (congrArg₂ PageKey.mk same page)

theorem data?_write_self (taken : (storage.write id page).1 = .ok ()) :
    (storage.write id page).2.data? ⟨id, page.number⟩ = some page.data :=
  (data?_settle storage id (.write page) _ page.number).trans (Backing.data?_write_self taken)

theorem file_write_of_ne {other : FileIdentity} (different : other ≠ id) :
    (storage.write id page).2.file other = storage.file other :=
  (file_settle ..).trans (if_neg different.symm)

@[simp] theorem place?_write (storage : Storage) (id : FileIdentity) (page : Page)
    (other : FileIdentity) :
    ((storage.write id page).2.file other).place? = (storage.file other).place? := by
  rw [Storage.write, file_settle]
  split
  · next same => rw [← same, Backing.place?_write]
  · rfl

theorem bytesAt_write {place : Location} (elsewhere : (storage.file id).place? ≠ some place) :
    (storage.write id page).2.system.bytesAt place = storage.system.bytesAt place :=
  Backing.bytesAt_write elsewhere

/-- A write changes no page of a file that lies elsewhere. -/
theorem data?_write_of_apart (different : key.file ≠ id) (apart : storage.Apart id key.file) :
    (storage.write id page).2.data? key = storage.data? key := by
  rw [data?, file_write_of_ne different]
  exact Backing.data?_congr (fun place held => bytesAt_write fun own => apart place own held)
    key.page

/-- A write keeps the bytes of every other page that can be read, unless that page has the same
number and its file lies in the same place. -/
theorem data?_write_of_ne {data : PageData} (different : key ≠ ⟨id, page.number⟩)
    (separate : ¬ storage.Shares ⟨id, page.number⟩ key) (found : storage.data? key = some data) :
    (storage.write id page).2.data? key = some data := by
  by_cases own : key.file = id
  · obtain ⟨file, number⟩ := key
    obtain rfl : file = id := own
    refine (data?_settle storage file (.write page) _ number).trans ?_
    exact Backing.data?_write_of_ne (fun same => different (same ▸ rfl)) found
  · by_cases shared : ∃ place, (storage.file id).place? = some place ∧
        (storage.file key.file).place? = some place
    · obtain ⟨place, lies, keyLies⟩ := shared
      rw [data?, file_write_of_ne own]
      refine Backing.data?_write_of_shared lies keyLies (fun same => separate ?_) found
      exact ⟨same.symm, place, lies, keyLies⟩
    · rw [data?_write_of_apart own fun place lies keyLies => shared ⟨place, lies, keyLies⟩, found]

/-! ## Pages offered to their files -/

/-- The files after they were asked to take pages, one after the other, whatever they answered. -/
def offer (storage : Storage) : List Occupant → Storage
  | [] => storage
  | occupant :: rest => (storage.write occupant.key.file occupant.page).2.offer rest

variable {offered : List Occupant}

theorem offer_append (storage : Storage) (first second : List Occupant) :
    storage.offer (first ++ second) = (storage.offer first).offer second := by
  induction first generalizing storage with
  | nil => rfl
  | cons occupant rest induction => exact induction _

/-- Every file stays in its place. -/
@[simp] theorem place?_offer (storage : Storage) (offered : List Occupant) (id : FileIdentity) :
    ((storage.offer offered).file id).place? = (storage.file id).place? := by
  induction offered generalizing storage with
  | nil => rfl
  | cons occupant rest induction => rw [offer, induction, place?_write]

theorem shares_offer (storage : Storage) (offered : List Occupant) (first second : PageKey) :
    (storage.offer offered).Shares first second ↔ storage.Shares first second := by
  simp only [Shares, place?_offer]

theorem shares_write (storage : Storage) (id : FileIdentity) (page : Page)
    (first second : PageKey) :
    (storage.write id page).2.Shares first second ↔ storage.Shares first second := by
  simp only [Shares, place?_write]

theorem apart_write (storage : Storage) (id : FileIdentity) (page : Page)
    (first second : FileIdentity) :
    (storage.write id page).2.Apart first second ↔ storage.Apart first second := by
  simp only [Apart, place?_write]

/-- A file that was offered no page is as it was. -/
theorem file_offer_of_ne (others : ∀ occupant ∈ offered, occupant.key.file ≠ id) :
    (storage.offer offered).file id = storage.file id := by
  induction offered generalizing storage with
  | nil => rfl
  | cons occupant rest induction =>
      obtain ⟨first, later⟩ := List.forall_mem_cons.mp others
      rw [offer, induction later, file_write_of_ne first.symm]

/-- The books of a file on disk do not tell which of its pages were offered. -/
theorem file_offer_of_disk {held : DiskBacking} (disk : storage.file id = .disk held) :
    (storage.offer offered).file id = .disk held := by
  induction offered generalizing storage with
  | nil => exact disk
  | cons occupant rest induction =>
      apply induction
      by_cases own : id = occupant.key.file
      · rw [own] at disk ⊢
        rw [Storage.write, file_settle, if_pos rfl, disk]
        rfl
      · rw [file_write_of_ne own, disk]

/-- Two files on disk with the same books show the same pages. -/
theorem data?_offer_eq_of_disk {first second : FileIdentity} {held : DiskBacking}
    (disk : storage.file first = .disk held) (other : storage.file second = .disk held)
    (page : Nat) :
    (storage.offer offered).data? ⟨first, page⟩ = (storage.offer offered).data? ⟨second, page⟩ := by
  rw [data?, data?, file_offer_of_disk disk, file_offer_of_disk other]

/-- No byte moves in a place where no file was offered a page. -/
theorem bytesAt_offer {place : Location}
    (others : ∀ occupant ∈ offered, (storage.file occupant.key.file).place? ≠ some place) :
    (storage.offer offered).system.bytesAt place = storage.system.bytesAt place := by
  induction offered generalizing storage with
  | nil => rfl
  | cons occupant rest induction =>
      obtain ⟨first, later⟩ := List.forall_mem_cons.mp others
      rw [offer, induction, bytesAt_write first]
      intro other member
      rw [place?_write]
      exact later other member

/-- A page in another place than all that were offered is as it was. -/
theorem data?_offer_of_apart (others : ∀ occupant ∈ offered, key.file ≠ occupant.key.file ∧
    storage.Apart occupant.key.file key.file) :
    (storage.offer offered).data? key = storage.data? key := by
  induction offered generalizing storage with
  | nil => rfl
  | cons occupant rest induction =>
      obtain ⟨⟨different, apart⟩, later⟩ := List.forall_mem_cons.mp others
      rw [offer, induction, data?_write_of_apart different apart]
      intro other member
      exact ⟨(later other member).1, (apart_write ..).mpr (later other member).2⟩

/-- A page that can be read keeps its bytes, unless a page with its number was offered in the same
place. -/
theorem data?_offer_of_not_shares
    (numbered : ∀ occupant ∈ offered, occupant.page.number = occupant.key.page) {data : PageData}
    (others : ∀ occupant ∈ offered, key ≠ occupant.key ∧ ¬ storage.Shares occupant.key key)
    (found : storage.data? key = some data) : (storage.offer offered).data? key = some data := by
  induction offered generalizing storage with
  | nil => exact found
  | cons occupant rest induction =>
      obtain ⟨number, numberedLater⟩ := List.forall_mem_cons.mp numbered
      obtain ⟨⟨different, separate⟩, later⟩ := List.forall_mem_cons.mp others
      have own : (⟨occupant.key.file, occupant.page.number⟩ : PageKey) = occupant.key := by
        rw [number]
      apply induction numberedLater
      · intro other member
        exact ⟨(later other member).1, (shares_write ..).not.mpr (later other member).2⟩
      · exact data?_write_of_ne (own ▸ different) (own ▸ separate) found

/-! ## Runs of writes -/

/-- The files have taken the pages of a list, one after the other. -/
inductive Takes (before : Storage) : List Occupant → Storage → Prop
  /-- Nothing was written yet. -/
  | start : Takes before [] before
  /-- One more page was written to its file. -/
  | take {saved : List Occupant} {middle : Storage} {occupant : Occupant}
      (takes : Takes before saved middle)
      (taken : (middle.write occupant.key.file occupant.page).1 = .ok ()) :
      Takes before (saved ++ [occupant]) (middle.write occupant.key.file occupant.page).2

end Storage

/-- The call by which the file of a page has taken its bytes. -/
def Occupant.saving (occupant : Occupant) : Call :=
  ⟨occupant.key.file, .write occupant.page, true⟩

namespace Storage.Takes

variable {before after : Storage} {saved : List Occupant}

/-- One run after another is a run. -/
theorem append {middle : Storage} {rest : List Occupant} (takes : before.Takes saved middle)
    (more : middle.Takes rest after) : before.Takes (saved ++ rest) after := by
  induction more with
  | start => rwa [List.append_nil]
  | take more taken induction =>
      rw [← List.append_assoc]
      exact induction.take taken

/-- The run made exactly the requests that it had to. -/
theorem calls (takes : before.Takes saved after) :
    after.calls.toList = before.calls.toList ++ saved.map Occupant.saving := by
  induction takes with
  | start => exact (List.append_nil _).symm
  | @take saved middle occupant takes taken induction =>
      rw [calls_write, Array.toList_push, induction, taken, List.map_append, List.append_assoc]
      rfl

/-- What files have taken they were offered. -/
theorem eq_offer (takes : before.Takes saved after) : after = before.offer saved := by
  induction takes with
  | start => rfl
  | take takes taken induction => rw [offer_append, ← induction, offer, offer]

theorem shares_iff (takes : before.Takes saved after) (first second : PageKey) :
    after.Shares first second ↔ before.Shares first second := by
  rw [takes.eq_offer, shares_offer]

/-- A file that took no page is as it was. -/
theorem file_of_ne (takes : before.Takes saved after) {id : FileIdentity}
    (others : ∀ occupant ∈ saved, occupant.key.file ≠ id) : after.file id = before.file id := by
  rw [takes.eq_offer, file_offer_of_ne others]

/-- Two files on disk with the same books show the same pages. -/
theorem data?_eq_of_disk (takes : before.Takes saved after) {first second : FileIdentity}
    {held : DiskBacking} (disk : before.file first = .disk held)
    (other : before.file second = .disk held) (page : Nat) :
    after.data? ⟨first, page⟩ = after.data? ⟨second, page⟩ := by
  rw [takes.eq_offer]
  exact data?_offer_eq_of_disk disk other page

/-- No byte has moved in a place where no file took a page. -/
theorem bytesAt (takes : before.Takes saved after) {place : Location}
    (others : ∀ occupant ∈ saved, (before.file occupant.key.file).place? ≠ some place) :
    after.system.bytesAt place = before.system.bytesAt place := by
  rw [takes.eq_offer, bytesAt_offer others]

/-- A page in another place than all that were written is as it was. -/
theorem data?_of_apart (takes : before.Takes saved after) {key : PageKey}
    (others : ∀ occupant ∈ saved, key.file ≠ occupant.key.file ∧
      before.Apart occupant.key.file key.file) : after.data? key = before.data? key := by
  rw [takes.eq_offer, data?_offer_of_apart others]

/-- A page that can be read keeps its bytes, unless a page with its number was written in the same
place. -/
theorem data?_of_not_shares (takes : before.Takes saved after)
    (numbered : ∀ occupant ∈ saved, occupant.page.number = occupant.key.page) {key : PageKey}
    {data : PageData}
    (others : ∀ occupant ∈ saved, key ≠ occupant.key ∧ ¬ before.Shares occupant.key key)
    (found : before.data? key = some data) : after.data? key = some data := by
  rw [takes.eq_offer]
  exact data?_offer_of_not_shares numbered others found

/-- The last page of a run can be read back. -/
theorem data?_last {occupant : Occupant} (takes : before.Takes (saved ++ [occupant]) after)
    (numbered : occupant.page.number = occupant.key.page) :
    after.data? occupant.key = some occupant.page.data := by
  generalize run : saved ++ [occupant] = list at takes
  cases takes with
  | start => exact absurd run (List.append_ne_nil_of_right_ne_nil saved (List.cons_ne_nil _ _))
  | take takes taken =>
      obtain rfl := List.singleton_inj.mp (List.append_inj_right' run rfl)
      have stored := data?_write_self taken
      rwa [numbered] at stored

/-- Every page of the run can be read back at its end, unless another page of the run has the same
number in a file that lies in the same place. -/
theorem data? (takes : before.Takes saved after)
    (numbered : ∀ occupant ∈ saved, occupant.page.number = occupant.key.page)
    (distinct : (saved.map Occupant.key).Nodup) {occupant : Occupant} (member : occupant ∈ saved)
    (separate : ∀ other ∈ saved, other.key ≠ occupant.key →
      ¬ before.Shares other.key occupant.key) :
    after.data? occupant.key = some occupant.page.data := by
  induction takes with
  | start => cases member
  | @take saved middle last takes taken induction =>
      have ends := List.mem_append_right saved (List.mem_singleton_self last)
      have own : (⟨last.key.file, last.page.number⟩ : PageKey) = last.key := by
        rw [numbered last ends]
      rw [List.map_append, List.nodup_append] at distinct
      rcases List.mem_append.mp member with earlier | now
      · have different : occupant.key ≠ last.key :=
          distinct.2.2 _ (List.mem_map_of_mem earlier) _ (List.mem_singleton_self _)
        refine data?_write_of_ne (own ▸ different) ?_ ?_
        · rw [own, takes.shares_iff]
          exact separate last ends different.symm
        · refine induction (fun one inside => numbered one (List.mem_append_left _ inside))
            distinct.1 earlier fun other inside => separate other (List.mem_append_left _ inside)
      · obtain rfl := List.mem_singleton.mp now
        exact data?_last (takes.take taken) (numbered occupant ends)

end Storage.Takes

end PageCache
