import Mathlib.Data.List.Induction
import PageCache.Proofs.Storage.Imprint

/-!
# The layout of a file on disk

The pages of an open file lie back to back in one place. Main statement: after any requests to the
file, the length of the bytes there tells the number of pages, each page is as it was last put there
or else as it was at first, deleted pages included, a last part that was no whole page is there
until a page is added, and whoever opens the path then sees exactly these pages.
-/

namespace PageCache

open DiskBacking

/-- The bytes that a file has last taken for a page, where the latest exchange comes first. -/
def lastPut? (past : List Exchange) (page : Nat) : Option PageData :=
  past.findSome? fun exchange => exchange.put? page

theorem lastPut?_cons (exchange : Exchange) (past : List Exchange) (page : Nat) :
    lastPut? (exchange :: past) page = (exchange.put? page).or (lastPut? past page) := by
  rw [lastPut?, List.findSome?_cons]
  cases exchange.put? page <;> rfl

/-- What lies in the place of a file after some exchanges, in terms of what lay there at first. -/
structure Layout (place : Location) (first : FileSystem) (past : List Exchange)
    (file : DiskBacking) (now : FileSystem) : Prop where
  /-- The length of the bytes tells the number of pages. -/
  length : file.pages = (now.bytesAt place).size / pageSize
  /-- There are the pages that were there at first and those that were added. -/
  pages : file.pages = (first.bytesAt place).size / pageSize + past.countP Exchange.grows
  /-- Each page has the bytes that were last put there, or else those that it had at first. -/
  page : ∀ page, page < file.pages → now.bytesFrom? place (start page) pageSize =
    (lastPut? past page).or (first.bytesFrom? place (start page) pageSize)
  /-- The bytes after the last page are those that were there at first, until a page is added. -/
  tail : (now.bytesAt place).toList.drop (file.pages * pageSize) =
    if past.any Exchange.grows then []
    else (first.bytesAt place).toList.drop (file.pages * pageSize)
  /-- The other files are as they were. -/
  others : ∀ other, place ≠ other → now.bytesAt other = first.bytesAt other

namespace Layout

variable {place : Location} {first now after : FileSystem} {past : List Exchange}
  {exchange : Exchange} {file later : DiskBacking}

theorem start (length : file.pages = (now.bytesAt place).size / pageSize)
    (same : ∀ spot, now.bytesAt spot = first.bytesAt spot) : Layout place first [] file now where
  length := length
  pages := by rw [length, same, List.countP_nil, Nat.add_zero]
  page := by
    intro page _
    rw [FileSystem.bytesFrom?, same]
    rfl
  tail := by
    rw [same]
    rfl
  others := fun other _ => same other

/-- One more exchange keeps the layout. -/
theorem imprint (layout : Layout place first past file now) (fills : file.Fills now place)
    (imprint : file.Imprint now place exchange later after) :
    Layout place first (exchange :: past) later after where
  length := (imprint.fills fills).pages
  pages := by
    rw [imprint.pages, layout.pages, List.countP_cons, Nat.add_assoc]
  page := by
    intro page inside
    rw [imprint.bytesFrom? fills inside, lastPut?_cons, Option.or_assoc]
    -- A page past the last one before is new, so that the exchange itself has put its bytes there.
    rcases Nat.lt_or_ge page file.pages with known | new
    · rw [layout.page page known]
    · rw [imprint.put?_of_le new inside, Option.some_or, Option.some_or]
  tail := by
    have pages := imprint.pages
    rw [imprint.tail fills, List.any_cons]
    cases grown : exchange.grows with
    | true => simp only [Bool.true_or, if_true]
    | false =>
        rw [grown] at pages
        simp only [Bool.false_or, Bool.false_eq_true, if_false]
        rw [layout.tail, show later.pages = file.pages from pages]
  others := fun other different => (imprint.others different).trans (layout.others other different)

end Layout

namespace Storage

/-- A file on disk is open and its path leads to its place, where no transfer meets a fault. -/
structure Shelf (storage : Storage) (id : FileIdentity) (path : String) (place : Location)
    (held : DiskBacking) : Prop where
  /-- The file is open. -/
  file : storage.file id = .disk held
  /-- It has as many pages as fit into the bytes in its place. -/
  fills : held.Fills storage.system place
  /-- The path leads to it. -/
  leads : storage.system.Leads path place
  /-- No fault is foreseen. -/
  calm : ∀ transfers, storage.system.faults transfers = none

variable {storage opened : Storage} {id : FileIdentity} {path : String} {place : Location}
  {held : DiskBacking}

/-- The system under which a file is opened has the same bytes and the same faults as before. -/
theorem same_of_openOrCreate {system after : FileSystem} {target : Target}
    (made : system.openOrCreate path = .ok (target, after)) :
    after.faults = system.faults ∧ ∀ spot, after.bytesAt spot = system.bytesAt spot := by
  refine ⟨?_, FileSystem.same_of_openOrCreate made⟩
  obtain ⟨_, -, -, ⟨-, rfl⟩ | ⟨-, -, rfl⟩⟩ := FileSystem.openOrCreate_eq_ok_iff.mp made
  · rfl
  · rfl

theorem live_openDisk (given : storage.openDisk path = .ok (id, held, opened)) (page : Nat) :
    held.live page = decide (page < held.pages) := by
  obtain ⟨target, system, -, -, rfl, -⟩ := made_of_openDisk given
  simp only [DiskBacking.live, Std.TreeMap.contains_emptyc, Bool.not_false, Bool.and_true]

theorem shelf_openDisk (given : storage.openDisk path = .ok (id, held, opened))
    (regular : held.target = .regular place)
    (calm : ∀ transfers, storage.system.faults transfers = none) :
    opened.Shelf id path place held ∧
      ∀ spot, opened.system.bytesAt spot = storage.system.bytesAt spot := by
  obtain ⟨target, system, made, rfl, rfl, rfl⟩ := made_of_openDisk given
  obtain rfl : target = .regular place := regular
  obtain ⟨faults, bytes⟩ := same_of_openOrCreate made
  refine ⟨⟨(file_add ..).trans (if_pos rfl), ⟨rfl, rfl, fun page gone => ?_⟩,
    FileSystem.leads_of_openOrCreate made, fun transfers => ?_⟩, bytes⟩
  · simp at gone
  · exact (congrFun faults transfers).trans (calm transfers)

namespace Shelf

theorem fault?_eq_none (shelf : storage.Shelf id path place held) :
    storage.system.fault? = none :=
  shelf.calm _

/-- A request leaves the file where it is, with its imprint on it. -/
theorem serve (shelf : storage.Shelf id path place held) (request : Request) :
    let served := storage.serve id request
    ∃ later, served.2.Shelf id path place later ∧
      held.Imprint storage.system place ⟨request, served.1⟩ later served.2.system := by
  obtain ⟨later, file, imprint⟩ := imprint_serve shelf.fills shelf.fault?_eq_none id request
  have fits : (storage.file id).Fits storage.system := by
    rw [shelf.file]
    exact shelf.fills.fits
  obtain ⟨page, spares⟩ := Backing.spares_serve fits id request
  rw [← shelf.file] at file imprint
  refine ⟨later, ⟨?_, imprint.fills shelf.fills, ?_, fun transfers => ?_⟩, imprint⟩
  · exact (file_serve ..).trans ((if_pos rfl).trans file)
  · exact shelf.leads.grows (storage.grows_serve id request)
  · exact (congrFun spares.faults transfers).trans (shelf.calm transfers)

theorem answer_read (shelf : storage.Shelf id path place held) {page : Nat} {data : PageData}
    (live : held.live page = true)
    (found : storage.system.bytesFrom? place (start page) pageSize = some data) :
    (storage.read id page).1 = .ok ⟨page, data⟩ := by
  simp only [Storage.read, shelf.file, Backing.read, DiskBacking.read, live, if_true,
    FileSystem.readAt, shelf.fault?_eq_none, shelf.fills.target, found]

theorem answer_read_of_not_live (shelf : storage.Shelf id path place held) {page : Nat}
    (dead : held.live page = false) :
    (storage.read id page).1 = .error (.pageNotFound ⟨id, page⟩) := by
  simp only [Storage.read, shelf.file, Backing.read, DiskBacking.read_of_not_live dead]

/-- A read leaves the file and its bytes as they are. -/
theorem read (shelf : storage.Shelf id path place held) (page : Nat) :
    (storage.read id page).2.Shelf id path place held ∧ ∀ other, other < held.pages →
      (storage.read id page).2.system.bytesFrom? place (start other) pageSize =
        storage.system.bytesFrom? place (start other) pageSize := by
  obtain ⟨later, served, imprint⟩ := shelf.serve (.read page)
  have file : (storage.serve id (.read page)).2.file id = .disk held := by
    rw [file_serve, if_pos rfl, shelf.file]
    rfl
  obtain rfl : held = later := Backing.disk.inj (file.symm.trans served.file)
  rw [serve_read] at served imprint
  exact ⟨served, fun other inside => imprint.bytesFrom? shelf.fills inside⟩

theorem answer_write (shelf : storage.Shelf id path place held) {page : Page}
    (live : held.live page.number = true) : (storage.write id page).1 = .ok () := by
  simp only [Storage.write, shelf.file, Backing.write, DiskBacking.write, live, if_true,
    place_of_calm shelf.fills.target shelf.fault?_eq_none]

theorem next (shelf : storage.Shelf id path place held) : storage.next id = held.pages := by
  rw [Storage.next, shelf.file]
  rfl

theorem data? (shelf : storage.Shelf id path place held) (page : Nat) :
    storage.data? ⟨id, page⟩ =
      if held.live page then storage.system.bytesFrom? place (start page) pageSize else none := by
  simp only [Storage.data?, shelf.file, Backing.data?, stored?, shelf.fills.target]

/-- A request to another file leaves the file where it is. -/
theorem serve_other (shelf : storage.Shelf id path place held) (tidy : storage.Tidy)
    {other : FileIdentity} (different : other ≠ id) (request : Request) :
    (storage.serve other request).2.Shelf id path place held := by
  obtain ⟨-, faults, elsewhere⟩ := tidy.serve other request
  have own : (storage.file id).place? = some place := by
    rw [shelf.file]
    exact (Backing.place?_disk held place).mpr shelf.fills.target
  have bytes := elsewhere id place different.symm own
  refine ⟨?_, ⟨shelf.fills.target, ?_, shelf.fills.known⟩, ?_, fun transfers => ?_⟩
  · exact (file_serve ..).trans ((if_neg different).trans shelf.file)
  · rw [bytes]
    exact shelf.fills.pages
  · exact shelf.leads.grows (storage.grows_serve other request)
  · exact (congrFun faults transfers).trans (shelf.calm transfers)

end Shelf

/-- The pages of a file that was just opened are those that lie in its place. -/
theorem data?_openDisk (given : storage.openDisk path = .ok (id, held, opened))
    (regular : held.target = .regular place)
    (calm : ∀ transfers, storage.system.faults transfers = none) (page : Nat) :
    opened.data? ⟨id, page⟩ = storage.system.bytesFrom? place (start page) pageSize := by
  obtain ⟨shelf, same⟩ := shelf_openDisk given regular calm
  have bytes : opened.system.bytesFrom? place (start page) pageSize =
      storage.system.bytesFrom? place (start page) pageSize := by
    simp only [FileSystem.bytesFrom?, same]
  rw [shelf.data?, live_openDisk given, bytes]
  split
  · rfl
  · next past =>
    rw [decide_eq_true_eq, ← shelf.fills.isSome_bytesFrom?, bytes] at past
    exact (Option.not_isSome_iff_eq_none.mp past).symm

namespace Shelf

/-- Whoever opens the path sees all pages that lie in the place, and no others. -/
theorem reopen (shelf : storage.Shelf id path place held) :
    ∃ again copy reopened, storage.openDisk path = .ok (again, copy, reopened) ∧
      copy.pages = held.pages ∧
      (∀ page data, page < held.pages →
        storage.system.bytesFrom? place (start page) pageSize = some data →
        (reopened.read again page).1 = .ok ⟨page, data⟩) ∧
      ∀ page, held.pages ≤ page →
        (reopened.read again page).1 = .error (.pageNotFound ⟨again, page⟩) := by
  have given := openDisk_of_made shelf.leads
  obtain ⟨copied, -⟩ := shelf_openDisk given rfl shelf.calm
  have pages := shelf.fills.pages
  refine ⟨_, _, _, given, pages.symm, fun page data inside found => ?_, fun page past => ?_⟩
  · refine copied.answer_read ?_ found
    exact (live_openDisk given page).trans (decide_eq_true (pages ▸ inside))
  · refine copied.answer_read_of_not_live ?_
    exact (live_openDisk given page).trans (decide_eq_false (Nat.not_lt.mpr (pages ▸ past)))

end Shelf

/-- Requests to a file that was just opened keep its pages laid out in its place. -/
theorem layout_converse (given : storage.openDisk path = .ok (id, held, opened))
    (regular : held.target = .regular place)
    (calm : ∀ transfers, storage.system.faults transfers = none) (requests : List Request) :
    let talk := opened.converse id requests
    ∃ later, talk.2.Shelf id path place later ∧
      Layout place storage.system talk.1 later talk.2.system := by
  induction requests using List.reverseRecOn with
  | nil =>
      obtain ⟨shelf, same⟩ := shelf_openDisk given regular calm
      exact ⟨held, shelf, .start shelf.fills.pages same⟩
  | append_singleton requests request induction =>
      obtain ⟨earlier, shelf, layout⟩ := induction
      obtain ⟨later, served, imprint⟩ := shelf.serve request
      rw [converse_concat]
      exact ⟨later, served, layout.imprint shelf.fills imprint⟩

/-- Whatever is asked of an open file, its pages stay laid out in its place, a write changes no byte
outside its page, and whoever opens the path then sees all pages, deleted ones included. -/
theorem pages_laid_out_and_reopened (given : storage.openDisk path = .ok (id, held, opened))
    (regular : held.target = .regular place)
    (calm : ∀ transfers, storage.system.faults transfers = none) (requests : List Request) :
    let talk := opened.converse id requests
    ∃ later, talk.2.file id = .disk later ∧
      Layout place storage.system talk.1 later talk.2.system ∧
      (∀ page spot index,
        place ≠ spot ∨ index < start page.number ∨ start page.number + pageSize ≤ index →
        ((talk.2.write id page).2.system.bytesAt spot).toList[index]? =
          (talk.2.system.bytesAt spot).toList[index]?) ∧
      ∃ again copy reopened, talk.2.openDisk path = .ok (again, copy, reopened) ∧
        copy.pages = later.pages ∧
        (∀ page, page < later.pages → ∃ data,
          (lastPut? talk.1 page).or (storage.system.bytesFrom? place (start page) pageSize) =
            some data ∧
          (reopened.read again page).1 = .ok ⟨page, data⟩) ∧
        ∀ page, later.pages ≤ page →
          (reopened.read again page).1 = .error (.pageNotFound ⟨again, page⟩) := by
  intro talk
  obtain ⟨later, shelf, layout⟩ := layout_converse given regular calm requests
  obtain ⟨again, copy, reopened, opens, pages, inside, past⟩ := shelf.reopen
  refine ⟨later, shelf.file, layout, fun page spot index outside => ?_,
    again, copy, reopened, opens, pages, fun page known => ?_, past⟩
  · obtain ⟨after, -, imprint⟩ := shelf.serve (.write page)
    rw [serve_write] at imprint
    exact imprint.outside shelf.fills outside
  · obtain ⟨data, found⟩ := Option.isSome_iff_exists.mp (shelf.fills.isSome_bytesFrom?.mpr known)
    exact ⟨data, (layout.page page known).symm.trans found, inside page data known found⟩

/-- A name without a slash is a path of one name. -/
theorem splitOn_plainName : "a".splitOn "/" = ["a"] := by
  rw [String.splitOn, if_neg (by decide), String.splitOnAux, if_neg (by decide), if_neg (by decide),
    String.splitOnAux, if_pos (by decide)]
  decide

/-- A path that is a plain name ends in the working folder. -/
theorem resolve_plainName :
    FileSystem.empty.resolve "a" = .ok (.named ⟨FileSystem.nameless, "a"⟩ false) := by
  have text : "a".contains '\x00' = false := by simp
  have relative : "a".startsWith "/" = false := by decide +kernel
  have unended : "a".endsWith "/" = false := by decide +kernel
  rw [FileSystem.resolve, text, relative, unended, splitOn_plainName]
  rfl

/-- A plain name leads into the working folder. -/
theorem leads_plainName (bytes : Runs) :
    (FileSystem.empty.setBytes ⟨FileSystem.nameless, "a"⟩ bytes).Leads "a"
      ⟨FileSystem.nameless, "a"⟩ :=
  FileSystem.leads_setBytes resolve_plainName (by decide) rfl bytes

/-- A file under a plain name is opened with the pages that its bytes make. -/
theorem openDisk_plainName (bytes : Runs) {pages : Nat} (count : bytes.size / pageSize = pages)
    (same : storage.system = FileSystem.empty.setBytes ⟨FileSystem.nameless, "a"⟩ bytes) :
    let file : DiskBacking := ⟨"a", .regular ⟨FileSystem.nameless, "a"⟩, pages, ∅⟩
    storage.openDisk "a" = .ok (⟨storage.opened + 1⟩, file, (storage.add (.disk file)).2) := by
  have leads : storage.system.Leads "a" ⟨FileSystem.nameless, "a"⟩ := same ▸ leads_plainName bytes
  have length : (storage.system.bytesAt ⟨FileSystem.nameless, "a"⟩).size = bytes.size := by
    rw [same, FileSystem.bytesAt_setBytes, if_pos rfl]
  rw [openDisk_of_made leads]
  simp only [FileSystem.size, length, count]

/-- A file of one page and a part of another gets a page in place of that part; its first page is
written and deleted, and is seen again by whoever opens the path. -/
theorem pages_laid_out_and_reopened_over_partial_page :
    let place : Location := ⟨FileSystem.nameless, "a"⟩
    let storage : Storage :=
      { Storage.empty with system := FileSystem.empty.setBytes place (.replicate 5000 7) }
    let held : DiskBacking := ⟨"a", .regular place, 1, ∅⟩
    let opened := (storage.add (.disk held)).2
    let talk := opened.converse ⟨1⟩
      [.allocate, .write ⟨0, .filled 1⟩, .delete 0, .write ⟨0, .filled 2⟩]
    storage.openDisk "a" = .ok (⟨1⟩, held, opened) ∧ held.target = .regular place ∧
      (∀ transfers, storage.system.faults transfers = none) ∧
      ∃ again copy reopened, talk.2.openDisk "a" = .ok (again, copy, reopened) ∧
        copy.pages = 2 ∧ (reopened.read again 0).1 = .ok ⟨0, .filled 1⟩ ∧
        (reopened.read again 1).1 = .ok ⟨1, .zero⟩ ∧
        (reopened.read again 2).1 = .error (.pageNotFound ⟨again, 2⟩) := by
  intro place storage held opened talk
  have given : storage.openDisk "a" = .ok (⟨1⟩, held, opened) :=
    openDisk_plainName (.replicate 5000 7) rfl rfl
  have length : (storage.system.bytesAt place).size = 5000 :=
    congrArg Runs.size (FileSystem.bytesAt_setBytes ..)
  obtain ⟨later, -, layout, -, again, copy, reopened, opens, pages, inside, past⟩ :=
    pages_laid_out_and_reopened given rfl (fun _ => rfl)
      [.allocate, .write ⟨0, .filled 1⟩, .delete 0, .write ⟨0, .filled 2⟩]
  have two : later.pages = 2 := by
    rw [layout.pages, length]
    rfl
  refine ⟨given, rfl, fun _ => rfl, again, copy, reopened, opens, pages.trans two, ?_, ?_,
    past 2 two.le⟩
  · obtain ⟨data, put, answer⟩ := inside 0 (by omega)
    obtain rfl : PageData.filled 1 = data := Option.some.inj put
    exact answer
  · obtain ⟨data, put, answer⟩ := inside 1 (by omega)
    obtain rfl : PageData.zero = data := Option.some.inj put
    exact answer

/-! ## Two files in one place -/

/-- One page of zeros that was not yet opened. -/
def onePage : Storage :=
  { Storage.empty with
    system := FileSystem.empty.setBytes ⟨FileSystem.nameless, "a"⟩ (.replicate pageSize 0) }

/-- The books of whoever opens it. -/
def onePageFile : DiskBacking := ⟨"a", .regular ⟨FileSystem.nameless, "a"⟩, 1, ∅⟩

/-- The same page after it was opened twice. -/
def openedTwice : Storage := ((onePage.add (.disk onePageFile)).2.add (.disk onePageFile)).2

theorem openDisk_onePage :
    onePage.openDisk "a" = .ok (⟨1⟩, onePageFile, (onePage.add (.disk onePageFile)).2) :=
  openDisk_plainName (.replicate pageSize 0) rfl rfl

/-- A path can be opened twice, which gives two files that do not know of each other. -/
theorem openDisk_openedTwice : ∃ middle,
    onePage.openDisk "a" = .ok (⟨1⟩, onePageFile, middle) ∧
      middle.openDisk "a" = .ok (⟨2⟩, onePageFile, openedTwice) :=
  ⟨_, openDisk_onePage, openDisk_plainName (.replicate pageSize 0) rfl rfl⟩

end Storage

end PageCache
