import PageCache.Proofs.Storage.Service

/-!
# Offsets in machine words

The byte at which a page starts is a product, and a machine forms it in 64 bits. Here are the
requests to a file once more, with a check wherever that product is formed. Main statements: a
request that is refused because a page is missing forms no product, whatever the number of the page,
and no product overflows as long as there are fewer pages than bytes in a word over those in a page.
-/

namespace PageCache

namespace DiskBacking

/-- The byte at which a page starts, where the number of the page and the product are words, if the
product does not overflow. -/
def offset? (page : UInt64) : Option UInt64 :=
  if page.toNat * pageSize < UInt64.size then some (page * 4096) else none

/-- The page of a given number. The offset is formed only once the page is known to be there. -/
def read? (file : DiskBacking) (self : FileIdentity) (page : Nat) (system : FileSystem) :
    Option (Except BackingError Page × FileSystem) :=
  if file.live page then do
    let offset ← offset? (.ofNat page)
    let transfer := system.readAt file.target offset.toNat pageSize
    match transfer.1 with
    | .ok data => return (.ok ⟨page, data⟩, transfer.2)
    | .error cause => return (.error (.system cause), transfer.2)
  else return (.error (.pageNotFound ⟨self, page⟩), system)

/-- The result of placing the bytes of a page at its start. -/
def place? (file : DiskBacking) (page : Page) (system : FileSystem) :
    Option (Except BackingError Unit × FileSystem) := do
  let offset ← offset? (.ofNat page.number)
  let transfer := system.writeAt file.target offset.toNat page.data.toArray
  match transfer.1 with
  | .ok () => return (.ok (), transfer.2)
  | .error cause => return (.error (.system cause), transfer.2)

/-- The result of replacing the bytes of an existing page. -/
def write? (file : DiskBacking) (self : FileIdentity) (page : Page) (system : FileSystem) :
    Option (Except BackingError Unit × FileSystem) :=
  if file.live page.number then file.place? page system
  else return (.error (.pageNotFound ⟨self, page.number⟩), system)

/-- A new zero page after the last, and the file with one page more. -/
def allocate? (file : DiskBacking) (system : FileSystem) :
    Option (Except BackingError Page × DiskBacking × FileSystem) := do
  let page := Page.zero file.pages
  let placed ← file.place? page system
  match placed.1 with
  | .ok () => return (.ok page, { file with pages := file.pages + 1 }, placed.2)
  | .error cause => return (.error cause, file, placed.2)

/-- The number of pages whose offsets are words. -/
def pageLimit : Nat := 4503599627370496

/-- The offset of a page below the limit is the byte at which it starts. -/
theorem exists_offset? {page : Nat} (below : page < pageLimit) :
    ∃ offset, offset? (.ofNat page) = some offset ∧ offset.toNat = start page := by
  have word : (UInt64.ofNat page).toNat = page :=
    UInt64.toNat_ofNat_of_lt' (below.trans (by decide))
  have fits : page * pageSize < UInt64.size := by
    simp only [pageLimit] at below
    simp only [pageSize, UInt64.size]
    omega
  refine ⟨_, if_pos (word.symm ▸ fits), ?_⟩
  rw [UInt64.toNat_mul, word]
  exact Nat.mod_eq_of_lt fits

/-- From the limit on the product overflows. -/
theorem offset?_of_limit_le {page : UInt64} (past : pageLimit ≤ page.toNat) :
    offset? page = none := by
  refine if_neg (Nat.not_lt_of_le ?_)
  simp only [pageLimit] at past
  simp only [pageSize, UInt64.size]
  omega

variable {file : DiskBacking} {self : FileIdentity} {system : FileSystem}

/-- A read of a page that is not live forms no offset. -/
theorem read?_of_not_live {page : Nat} (dead : file.live page = false) :
    file.read? self page system = some (file.read self page system) := by
  simp [read?, read, dead]

/-- A write of a page that is not live forms no offset. -/
theorem write?_of_not_live {page : Page} (dead : file.live page.number = false) :
    file.write? self page system = some (file.write self page system) := by
  simp [write?, write, dead]

theorem place?_eq {page : Page} (below : page.number < pageLimit) :
    file.place? page system = some (file.place page system) := by
  obtain ⟨offset, formed, starts⟩ := exists_offset? below
  simp only [place?, place, formed, starts, Option.bind_eq_bind, Option.bind_some]
  cases (system.writeAt file.target (start page.number) page.data.toArray).1 <;> rfl

theorem read?_eq {page : Nat} (below : page < pageLimit) :
    file.read? self page system = some (file.read self page system) := by
  obtain ⟨offset, formed, starts⟩ := exists_offset? below
  simp only [read?, read, formed, starts, Option.bind_eq_bind, Option.bind_some]
  split
  · cases (system.readAt file.target (start page) pageSize).1 <;> rfl
  · rfl

theorem write?_eq {page : Page} (below : page.number < pageLimit) :
    file.write? self page system = some (file.write self page system) := by
  simp only [write?, write, place?_eq below]
  split <;> rfl

theorem allocate?_eq (below : file.pages < pageLimit) :
    file.allocate? system = some (file.allocate system) := by
  have zero : (Page.zero file.pages).number < pageLimit := below
  simp only [allocate?, allocate, place?_eq zero, Option.bind_eq_bind, Option.bind_some]
  cases (file.place (.zero file.pages) system).1 <;> rfl

end DiskBacking

namespace Backing

open DiskBacking

/-- Puts a request to a file, if no offset overflows. Files in memory form none. -/
def serve? (file : Backing) (self : FileIdentity) (system : FileSystem) (request : Request) :
    Option (Served (Option Page)) :=
  match file, request with
  | disk held, .read page =>
    (held.read? self page system).map fun result => ⟨result.1.map some, file, result.2⟩
  | disk held, .write page =>
    (held.write? self page system).map fun result => ⟨result.1.map fun _ => none, file, result.2⟩
  | disk held, .allocate =>
    (held.allocate? system).map fun result => ⟨result.1.map some, disk result.2.1, result.2.2⟩
  | _, _ => some (file.serve self system request)

variable {file : Backing} {self : FileIdentity} {system : FileSystem}

/-- A file without a page of that number forms no offset when it is asked for the page. -/
theorem serve?_of_not_live {held : DiskBacking} {page : Nat} (dead : held.live page = false)
    {request : Request} (asks : request.reads page = true ∨ request.writes page = true) :
    (disk held).serve? self system request = some ((disk held).serve self system request) := by
  cases request with
  | read asked =>
      obtain rfl : asked = page := by simpa [Request.reads, Request.writes] using asks
      simp only [serve?, read?_of_not_live dead]
      rfl
  | write written =>
      obtain rfl : written.number = page := by simpa [Request.reads, Request.writes] using asks
      simp only [serve?, write?_of_not_live dead]
      rfl
  | allocate => simp [Request.reads, Request.writes] at asks
  | delete other => rfl

/-- No offset overflows in a file with fewer pages than the limit. -/
theorem serve?_eq (below : file.next < pageLimit) (request : Request) :
    file.serve? self system request = some (file.serve self system request) := by
  cases file with
  | memory held => cases request <;> rfl
  | counted held => cases request <;> rfl
  | disk held =>
      cases request with
      | delete page => rfl
      | allocate =>
          simp only [serve?, allocate?_eq below]
          rfl
      | read page =>
          cases live : held.live page with
          | false => exact serve?_of_not_live live (.inl (decide_eq_true rfl))
          | true =>
              simp only [serve?, read?_eq ((lt_of_live live).trans below)]
              rfl
      | write page =>
          cases live : held.live page.number with
          | false => exact serve?_of_not_live live (.inr (decide_eq_true rfl))
          | true =>
              simp only [serve?, write?_eq ((lt_of_live live).trans below)]
              rfl

end Backing

/-- Puts a request to a file, if no offset overflows. -/
def Storage.serve? (storage : Storage) (id : FileIdentity) (request : Request) :
    Option (Except BackingError (Option Page) × Storage) :=
  ((storage.file id).serve? id storage.system request).map fun served =>
    (served.answer, storage.settle id request served)

end PageCache
