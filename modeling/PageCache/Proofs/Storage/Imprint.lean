import PageCache.Proofs.Storage.Service

/-!
# What a request leaves on disk

A file on disk whose transfers meet no fault answers a request in one of five ways, and each leaves
a definite imprint: the file is as it was, bytes are read, a page is replaced, a page is added at
the end, or a page is marked as deleted. Main statements: every request leaves one of the imprints,
and each of them keeps the pages of the file as many as fit into the bytes of its place.
-/

namespace PageCache

/-- The file system after the bytes of a page have been placed in a file of pages. -/
def FileSystem.stamp (system : FileSystem) (place : Location) (page : Page) : FileSystem :=
  (system.note (.write (.regular place) (DiskBacking.start page.number) pageSize)).splice place
    (DiskBacking.start page.number) page.data.toArray

/-- The offset at which a transfer ends. -/
def Transfer.reach : Transfer → Nat
  | .read _ offset count | .write _ offset count => offset + count

namespace Exchange

/-- The page whose bytes the file has taken, which is zero if it is new. -/
def placed? : Exchange → Option Page
  | ⟨.write page, .ok _⟩ => some page
  | ⟨.allocate, .ok (some page)⟩ => some (.zero page.number)
  | _ => none

/-- The bytes that the file has taken for a page. -/
def put? (exchange : Exchange) (page : Nat) : Option PageData :=
  match exchange.placed? with
  | some placed => if placed.number = page then some placed.data else none
  | none => none

/-- Whether the file has grown by a page. -/
def grows : Exchange → Bool
  | ⟨.allocate, .ok _⟩ => true
  | _ => false

end Exchange

namespace DiskBacking

/-- An open file has as many pages as fit into the bytes in its place. -/
structure Fills (file : DiskBacking) (system : FileSystem) (place : Location) : Prop where
  /-- The file lies in the place. -/
  target : file.target = .regular place
  /-- The length of the bytes tells the number of pages. -/
  pages : file.pages = (system.bytesAt place).size / pageSize
  /-- Only pages that were there are deleted. -/
  known : ∀ page, file.deleted.contains page = true → page < file.pages

/-- What a request leaves of a file and of the bytes in its place, if no fault is met. -/
inductive Imprint (file : DiskBacking) (system : FileSystem) (place : Location) :
    Exchange → DiskBacking → FileSystem → Prop
  /-- There is no such page. -/
  | refuse (request : Request) (key : PageKey) :
      Imprint file system place ⟨request, .error (.pageNotFound key)⟩ file system
  /-- A page is read. -/
  | read {page : Nat} {data : PageData} (inside : page < file.pages)
      (found : system.bytesFrom? place (start page) pageSize = some data) :
      Imprint file system place ⟨.read page, .ok (some ⟨page, data⟩)⟩ file
        (system.note (.read (.regular place) (start page) pageSize))
  /-- The bytes of a page are replaced. -/
  | write {page : Page} (inside : page.number < file.pages) :
      Imprint file system place ⟨.write page, .ok none⟩ file (system.stamp place page)
  /-- A page is added after the last. -/
  | allocate :
      Imprint file system place ⟨.allocate, .ok (some (.zero file.pages))⟩
        { file with pages := file.pages + 1 } (system.stamp place (.zero file.pages))
  /-- A page is marked as deleted. -/
  | delete {page : Nat} (inside : page < file.pages) :
      Imprint file system place ⟨.delete page, .ok none⟩
        { file with deleted := file.deleted.insert page () } system

variable {file later : DiskBacking} {system after : FileSystem} {place : Location}
  {exchange : Exchange}

namespace Fills

theorem fits (fills : file.Fills system place) : file.Fits system := by
  refine ⟨?_, fills.known⟩
  rw [fills.target, fills.pages]
  exact Nat.div_mul_le_self _ _

theorem lt_end (fills : file.Fills system place) :
    (system.bytesAt place).size < (file.pages + 1) * pageSize := by
  rw [fills.pages]
  exact (Nat.div_lt_iff_lt_mul (by decide)).mp (Nat.lt_succ_self _)

/-- Every page lies whole in the place, and no whole page lies past the last. -/
theorem isSome_bytesFrom? (fills : file.Fills system place) {page : Nat} :
    (system.bytesFrom? place (start page) pageSize).isSome ↔ page < file.pages := by
  rw [FileSystem.isSome_bytesFrom?, start, ← Nat.succ_mul, fills.pages,
    ← Nat.le_div_iff_mul_le (by decide), Nat.succ_le_iff]

end Fills

/-! ## Every request leaves an imprint -/

theorem place_of_calm (target : file.target = .regular place) (calm : system.fault? = none)
    (page : Page) : file.place page system = (.ok (), system.stamp place page) := by
  simp only [DiskBacking.place, target, FileSystem.writeAt, calm, FileSystem.stamp,
    Vector.size_toArray]

theorem imprint_serve (fills : file.Fills system place) (calm : system.fault? = none)
    (self : FileIdentity) (request : Request) :
    let served := (Backing.disk file).serve self system request
    ∃ later, served.file = .disk later ∧
      file.Imprint system place ⟨request, served.answer⟩ later served.system := by
  cases request with
  | read page =>
      refine ⟨file, rfl, ?_⟩
      simp only [Backing.serve, Served.map, Backing.read, DiskBacking.read]
      split
      · next live =>
        have inside := lt_of_live live
        obtain ⟨data, found⟩ := Option.isSome_iff_exists.mp (fills.isSome_bytesFrom?.mpr inside)
        simp only [FileSystem.readAt, calm, fills.target, found]
        exact .read inside found
      · exact .refuse _ _
  | write page =>
      refine ⟨file, rfl, ?_⟩
      simp only [Backing.serve, Served.map, Backing.write, DiskBacking.write]
      split
      · next live =>
        rw [place_of_calm fills.target calm]
        exact .write (lt_of_live live)
      · exact .refuse _ _
  | allocate =>
      simp only [Backing.serve, Served.map, Backing.allocate, DiskBacking.allocate,
        place_of_calm fills.target calm]
      exact ⟨_, rfl, .allocate⟩
  | delete page =>
      simp only [Backing.serve, Served.map, Backing.delete, DiskBacking.delete]
      cases live : file.live page with
      | true => exact ⟨_, rfl, .delete (lt_of_live live)⟩
      | false => exact ⟨_, rfl, .refuse _ _⟩

/-! ## The bytes after an imprint -/

theorem bytesAt_stamp (system : FileSystem) (place : Location) (page : Page) (other : Location) :
    (system.stamp place page).bytesAt other =
      if place = other then (system.bytesAt place).splice (start page.number) page.data.toArray
      else system.bytesAt other :=
  FileSystem.bytesAt_splice ..

theorem size_stamp (system : FileSystem) (place : Location) (page : Page) :
    ((system.stamp place page).bytesAt place).size =
      max (system.bytesAt place).size ((page.number + 1) * pageSize) := by
  rw [bytesAt_stamp, if_pos rfl, Runs.size_splice, Vector.size_toArray, Nat.succ_mul]
  rfl

theorem within_stamp (system : FileSystem) (place : Location) (page : Page) :
    FileSystem.Within (.regular place) (start page.number) pageSize system
      (system.stamp place page) :=
  FileSystem.within_splice system _ place _ page.data.size_toArray.le

theorem bytesFrom?_stamp (system : FileSystem) (place : Location) (page : Page) :
    (system.stamp place page).bytesFrom? place (start page.number) pageSize = some page.data :=
  system.bytesFrom?_splice _ place _ (by decide) page.data

/-- A page that has room and is not the one that is placed reads the same afterwards. -/
theorem bytesFrom?_stamp_of_ne (fills : file.Fills system place) {page : Page} {other : Nat}
    (inside : other < file.pages) (different : page.number ≠ other) :
    (system.stamp place page).bytesFrom? place (start other) pageSize =
      system.bytesFrom? place (start other) pageSize :=
  (within_stamp system place page).bytesFrom? (by decide) (fills.isSome_bytesFrom?.mpr inside)
    (.inr (start_apart different.symm))

namespace Imprint

theorem pages (imprint : file.Imprint system place exchange later after) :
    later.pages = file.pages + if exchange.grows then 1 else 0 := by
  cases imprint with
  | refuse request key => cases request <;> rfl
  | _ => rfl

/-- The number of pages goes on to be told by the length of the bytes. -/
theorem fills (imprint : file.Imprint system place exchange later after)
    (fills : file.Fills system place) : later.Fills after place := by
  cases imprint with
  | refuse request key => exact fills
  | read inside found => exact ⟨fills.target, fills.pages, fills.known⟩
  | @write page inside =>
      refine ⟨fills.target, ?_, fills.known⟩
      have reach : (page.number + 1) * pageSize ≤ (system.bytesAt place).size := by
        refine (Nat.mul_le_mul_right pageSize inside).trans ?_
        have room := fills.fits.room
        rwa [fills.target] at room
      rw [size_stamp, Nat.max_eq_left reach]
      exact fills.pages
  | allocate =>
      refine ⟨fills.target, ?_, fun page gone => Nat.lt_succ_of_lt (fills.known page gone)⟩
      have reach := Nat.le_of_lt fills.lt_end
      rw [size_stamp]
      simp only [Page.zero]
      rw [Nat.max_eq_right reach, Nat.mul_div_cancel _ (by decide)]
  | @delete page inside =>
      refine ⟨fills.target, fills.pages, fun other gone => ?_⟩
      rw [Std.TreeMap.contains_insert, Bool.or_eq_true] at gone
      rcases gone with equal | earlier
      · exact (Std.LawfulEqCmp.compare_eq_iff_eq.mp (eq_of_beq equal)) ▸ inside
      · exact fills.known other earlier

/-- A page that was not there before is a zero page. -/
theorem put?_of_le (imprint : file.Imprint system place exchange later after) {page : Nat}
    (past : file.pages ≤ page) (inside : page < later.pages) :
    exchange.put? page = some .zero := by
  cases imprint with
  | allocate =>
      have inside : page < file.pages + 1 := inside
      exact if_pos (by simp only [Page.zero]; omega)
  | _ => exact absurd inside (Nat.not_lt.mpr past)

/-- Other files keep their bytes. -/
theorem others (imprint : file.Imprint system place exchange later after) {other : Location}
    (different : place ≠ other) : after.bytesAt other = system.bytesAt other := by
  cases imprint with
  | write inside => exact (bytesAt_stamp ..).trans (if_neg different)
  | allocate => exact (bytesAt_stamp ..).trans (if_neg different)
  | _ => rfl

/-- A page has the bytes that the file has just taken for it, or else those that it had. -/
theorem bytesFrom? (imprint : file.Imprint system place exchange later after)
    (fills : file.Fills system place) {page : Nat} (inside : page < later.pages) :
    after.bytesFrom? place (start page) pageSize =
      (exchange.put? page).or (system.bytesFrom? place (start page) pageSize) := by
  cases imprint with
  | refuse request key => cases request <;> rfl
  | read _ found => rfl
  | @write written known =>
      simp only [Exchange.put?, Exchange.placed?]
      split
      · next same =>
        subst same
        exact bytesFrom?_stamp system place written
      · next different => exact bytesFrom?_stamp_of_ne fills inside different
  | allocate =>
      simp only [Exchange.put?, Exchange.placed?]
      split
      · next same =>
        subst same
        exact bytesFrom?_stamp system place (.zero file.pages)
      · next different =>
        have different : file.pages ≠ page := different
        have earlier : page < file.pages := by
          have inside : page < file.pages + 1 := inside
          omega
        exact bytesFrom?_stamp_of_ne fills earlier different
  | delete known => rfl

/-- The bytes after the last page stay until a page is added, which leaves none there. -/
theorem tail (imprint : file.Imprint system place exchange later after)
    (fills : file.Fills system place) :
    (after.bytesAt place).toList.drop (later.pages * pageSize) =
      if exchange.grows then []
      else (system.bytesAt place).toList.drop (file.pages * pageSize) := by
  cases imprint with
  | refuse request key => cases request <;> rfl
  | read _ found => rfl
  | @write page inside =>
      have reach : start page.number + pageSize ≤ file.pages * pageSize := end_le inside
      refine List.ext_getElem? fun index => ?_
      rw [List.getElem?_drop, bytesAt_stamp, if_pos rfl, Runs.getElem?_splice,
        Vector.size_toArray, if_neg (by omega), if_neg (by omega)]
      exact List.getElem?_drop.symm
  | allocate =>
      refine List.drop_eq_nil_of_le ?_
      have reach := Nat.le_of_lt fills.lt_end
      rw [Runs.length_toList, size_stamp]
      exact Nat.max_le.mpr ⟨reach, Nat.le_refl _⟩
  | delete known => rfl

/-- A refused request moves no bytes, and any other none past the end of the last page. -/
theorem transfers (imprint : file.Imprint system place exchange later after) :
    (∀ cause, exchange.answer = .error cause → after = system) ∧
      ∃ noted, after.transfers.toList = system.transfers.toList ++ noted ∧
        ∀ transfer ∈ noted, transfer.reach ≤ later.pages * pageSize := by
  cases imprint with
  | refuse request key => exact ⟨fun _ _ => rfl, [], (List.append_nil _).symm, by simp⟩
  | delete inside => exact ⟨fun _ _ => rfl, [], (List.append_nil _).symm, by simp⟩
  | @read page data inside found =>
      refine ⟨nofun, _, Array.toList_push .., ?_⟩
      exact List.forall_mem_singleton.mpr (end_le inside)
  | @write page inside =>
      refine ⟨nofun, _, Array.toList_push .., ?_⟩
      exact List.forall_mem_singleton.mpr (end_le inside)
  | allocate =>
      refine ⟨nofun, _, Array.toList_push .., ?_⟩
      exact List.forall_mem_singleton.mpr (Nat.succ_mul file.pages pageSize).ge

/-- A write changes no byte outside its page. -/
theorem outside {page : Page} {answer : Answer}
    (imprint : file.Imprint system place ⟨.write page, answer⟩ later after)
    (fills : file.Fills system place) {spot : Location} {index : Nat}
    (outside : place ≠ spot ∨ index < start page.number ∨ start page.number + pageSize ≤ index) :
    (after.bytesAt spot).toList[index]? = (system.bytesAt spot).toList[index]? := by
  cases imprint with
  | refuse _ key => rfl
  | write inside =>
      rw [bytesAt_stamp]
      split
      · next own =>
        subst own
        rw [Runs.getElem?_splice, Vector.size_toArray]
        rcases outside with other | before | past
        · exact absurd rfl other
        · have room : index < (system.bytesAt place).toList.length := by
            have fits := (end_le inside).trans fills.fits.room
            rw [fills.target] at fits
            rw [Runs.length_toList]
            exact before.trans_le ((Nat.le_add_right _ _).trans fits)
          rw [if_pos before, List.getElem?_eq_getElem room, Option.getD_some]
        · rw [if_neg (by omega), if_neg (by omega)]
      · rfl

end Imprint

end DiskBacking

end PageCache
