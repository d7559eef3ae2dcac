import PageCache.Proofs.Storage.Layout
import PageCache.Proofs.Storage.Offset

/-!
# Files of all kinds agree

A plain file is a table of pages and the number of the next one. Main statement: a new file of any
kind answers every request as the plain file does, so that its clients cannot tell of which kind it
is; a refused request forms no offset, moves no byte and changes no page; and a file that counts its
requests has counted all of them.
-/

namespace PageCache

open DiskBacking

/-- A file of pages as its clients know it. -/
@[ext] structure PlainFile where
  /-- The number of the next new page. -/
  next : Nat
  /-- The bytes of every page that there is. -/
  pages : Nat → Option PageData

namespace PlainFile

/-- The file without pages. -/
def empty : PlainFile := ⟨0, fun _ => none⟩

/-- The file with other bytes for a page, or with none. -/
def set (file : PlainFile) (page : Nat) (data : Option PageData) : PlainFile :=
  { file with pages := fun other => if page = other then data else file.pages other }

theorem set_self (file : PlainFile) (page : Nat) : file.set page (file.pages page) = file := by
  refine PlainFile.ext rfl (funext fun other => ?_)
  simp only [set]
  split
  · next same => rw [same]
  · rfl

/-- The answer to a request, or the number of the page that is missing, and the file afterwards. -/
def serve (file : PlainFile) : Request → Except Nat (Option Page) × PlainFile
  | .read page =>
    match file.pages page with
    | some data => (.ok (some ⟨page, data⟩), file)
    | none => (.error page, file)
  | .write page =>
    if (file.pages page.number).isSome then (.ok none, file.set page.number (some page.data))
    else (.error page.number, file)
  | .allocate =>
    (.ok (some (.zero file.next)), { file.set file.next (some .zero) with next := file.next + 1 })
  | .delete page =>
    if (file.pages page).isSome then (.ok none, file.set page none) else (.error page, file)

/-- Puts requests to a file one after the other, and lists the answers, the latest first. -/
def converse (file : PlainFile) (requests : List Request) :
    List (Except Nat (Option Page)) × PlainFile :=
  requests.foldl (fun (past, now) request =>
    ((now.serve request).1 :: past, (now.serve request).2)) ([], file)

theorem converse_concat (file : PlainFile) (requests : List Request) (request : Request) :
    file.converse (requests ++ [request]) =
      let earlier := file.converse requests
      ((earlier.2.serve request).1 :: earlier.1, (earlier.2.serve request).2) := by
  simp [converse]

/-- A refused request changes nothing. -/
theorem serve_of_error {file : PlainFile} {request : Request} {page : Nat}
    (refused : (file.serve request).1 = .error page) : (file.serve request).2 = file := by
  cases request with
  | allocate => cases refused
  | read page => simp only [serve] at refused ⊢; split <;> rfl
  | write page =>
      simp only [serve] at refused ⊢
      split at refused
      · cases refused
      · next absent => rw [if_neg absent]
  | delete page =>
      simp only [serve] at refused ⊢
      split at refused
      · cases refused
      · next absent => rw [if_neg absent]

end PlainFile

/-- The answer of a file to which a page is missing. -/
def BackingError.missing (self : FileIdentity) (page : Nat) : BackingError :=
  .pageNotFound ⟨self, page⟩

namespace Backing

variable {file : Backing} {self : FileIdentity} {system : FileSystem}

/-- What the clients of a file know of it. -/
def view (file : Backing) (system : FileSystem) : PlainFile := ⟨file.next, file.data? system⟩

/-- A file on disk lies in a regular file, and no fault is foreseen. -/
def Flawless : Backing → FileSystem → Prop
  | disk held, system =>
    (∃ place, held.Fills system place) ∧ ∀ transfers, system.faults transfers = none
  | _, _ => True

theorem Flawless.fits (flawless : file.Flawless system) : file.Fits system := by
  cases file with
  | memory held => trivial
  | counted held => trivial
  | disk held =>
      obtain ⟨⟨place, fills⟩, -⟩ := flawless
      exact fills.fits

/-! ## Answers -/

theorem answer_read (flawless : file.Flawless system) (page : Nat) :
    (file.read self page system).answer =
      match file.data? system page with
      | some data => .ok ⟨page, data⟩
      | none => .error (.missing self page) := by
  cases file with
  | memory held => rfl
  | counted held => rfl
  | disk held =>
      rcases @read_cases _ self _ flawless.fits page with
        ⟨data, present, answer⟩ | ⟨absent, answer⟩ | ⟨-, fault, met, -⟩
      · rw [present, answer]
      · rw [absent, answer]
        rfl
      · rw [FileSystem.fault?, flawless.2] at met
        cases met

theorem answer_write (flawless : file.Flawless system) (page : Page) :
    (file.write self page system).answer =
      if (file.data? system page.number).isSome then .ok ()
      else .error (.missing self page.number) := by
  cases file with
  | memory held =>
      by_cases present : (held.data? page.number).isSome
      · simp [write, MemoryBacking.write, data?, present]
      · simp [write, MemoryBacking.write, data?, present, BackingError.missing]
  | counted held =>
      by_cases present : (held.memory.data? page.number).isSome
      · simp [write, CountedBacking.write, MemoryBacking.write, data?, present]
      · simp [write, CountedBacking.write, MemoryBacking.write, data?, present,
          BackingError.missing]
  | disk held =>
      obtain ⟨⟨place, fills⟩, calm⟩ := flawless
      simp only [write, DiskBacking.write, data?]
      split
      · next live =>
        have present := isSome_stored? fills.fits (lt_of_live live)
        rw [place_of_calm fills.target (calm _), if_pos present]
      · rfl

theorem answer_allocate (flawless : file.Flawless system) :
    (file.allocate system).answer = .ok (.zero file.next) := by
  cases file with
  | memory held => rfl
  | counted held => rfl
  | disk held =>
      obtain ⟨⟨place, fills⟩, calm⟩ := flawless
      simp only [allocate, DiskBacking.allocate, place_of_calm fills.target (calm _)]
      rfl

/-! ## Every file is a plain file -/

theorem view_of_spares {Answer : Type} {served : Served Answer} {page next : Nat}
    {data : Option PageData} (spares : served.Spares file system page)
    (own : served.file.data? served.system page = data) (grown : served.file.next = next) :
    served.file.view served.system = { (file.view system).set page data with next } := by
  refine PlainFile.ext grown (funext fun other => ?_)
  simp only [view, PlainFile.set]
  split
  · next same => rw [← same, own]
  · next different => exact spares.others other (Ne.symm different)

theorem view_of_kept {Answer : Type} {served : Served Answer} {page : Nat}
    (spares : served.Spares file system page)
    (own : served.file.data? served.system page = file.data? system page)
    (next : served.file.next = file.next) :
    served.file.view served.system = file.view system :=
  (view_of_spares spares own next).trans ((file.view system).set_self page)

theorem view_read (flawless : file.Flawless system) (self : FileIdentity) (page : Nat) :
    (file.read self page system).file.view (file.read self page system).system =
      file.view system := by
  obtain ⟨spares, own⟩ := @spares_read _ self _ flawless.fits page page
  exact view_of_kept spares own (next_read page)

theorem view_write (flawless : file.Flawless system) (self : FileIdentity) (page : Page) :
    (file.write self page system).file.view (file.write self page system).system =
      if (file.data? system page.number).isSome then
        (file.view system).set page.number (some page.data)
      else file.view system := by
  obtain ⟨spares, kept, taken⟩ := @write_cases _ self _ flawless.fits page
  split
  · next present =>
    have own := taken ((answer_write flawless page).trans (if_pos present))
    exact view_of_spares spares own (next_write page)
  · next absent =>
    have before := Option.not_isSome_iff_eq_none.mp absent
    have after := Option.not_isSome_iff_eq_none.mp (kept ▸ absent)
    exact view_of_kept spares (after.trans before.symm) (next_write page)

theorem view_allocate (flawless : file.Flawless system) :
    (file.allocate system).file.view (file.allocate system).system =
      { (file.view system).set file.next (some .zero) with next := file.next + 1 } := by
  obtain ⟨spares, -, own⟩ := contents_allocate flawless.fits
  have answer := answer_allocate flawless
  rw [answer] at own
  rcases file.allocate_cases system with ⟨-, grown⟩ | ⟨cause, refused, -⟩
  · exact view_of_spares spares own grown
  · cases answer.symm.trans refused

theorem view_delete (flawless : file.Flawless system) (self : FileIdentity) (page : Nat) :
    (file.delete self page system).answer =
        (if (file.data? system page).isSome then .ok () else .error (.missing self page)) ∧
      (file.delete self page system).file.view (file.delete self page system).system =
        if (file.data? system page).isSome then (file.view system).set page none
        else file.view system := by
  obtain ⟨spares, ⟨present, answer, own⟩ | ⟨absent, answer, own⟩⟩ :=
    @delete_cases _ self _ flawless.fits page
  · rw [if_pos present, if_pos present]
    exact ⟨answer, view_of_spares spares own (next_delete page)⟩
  · rw [absent]
    exact ⟨answer, view_of_kept spares (own.trans absent.symm) (next_delete page)⟩

/-- A file answers a request as the plain file does that its clients know, and is known as that
plain file afterwards. -/
theorem view_serve (flawless : file.Flawless system) (self : FileIdentity) (request : Request) :
    let served := file.serve self system request
    let plain := (file.view system).serve request
    served.answer = plain.1.mapError (.missing self) ∧
      served.file.view served.system = plain.2 := by
  have known : ∀ page, (file.view system).pages page = file.data? system page := fun _ => rfl
  cases request with
  | read page =>
      simp only [serve, Served.map, answer_read flawless, PlainFile.serve, known]
      cases file.data? system page with
      | none => exact ⟨rfl, view_read flawless self page⟩
      | some data => exact ⟨rfl, view_read flawless self page⟩
  | write page =>
      have after := view_write flawless self page
      simp only [serve, Served.map, answer_write flawless, PlainFile.serve, known]
      by_cases present : (file.data? system page.number).isSome
      · simp only [if_pos present] at after ⊢
        exact ⟨rfl, after⟩
      · simp only [if_neg present] at after ⊢
        exact ⟨rfl, after⟩
  | allocate =>
      simp only [serve, Served.map, answer_allocate flawless, view_allocate flawless]
      exact ⟨rfl, rfl⟩
  | delete page =>
      obtain ⟨answer, after⟩ := view_delete flawless self page
      simp only [serve, Served.map, answer, PlainFile.serve, known]
      by_cases present : (file.data? system page).isSome
      · simp only [if_pos present] at after ⊢
        exact ⟨rfl, after⟩
      · simp only [if_neg present] at after ⊢
        exact ⟨rfl, after⟩

theorem flawless_serve (flawless : file.Flawless system) (request : Request) :
    (file.serve self system request).file.Flawless (file.serve self system request).system := by
  obtain ⟨page, spares⟩ := spares_serve flawless.fits self request
  cases file with
  | memory held =>
      obtain ⟨later, stays, -⟩ := serve_memory held self system request
      rw [stays]
      trivial
  | counted held =>
      obtain ⟨later, stays, -⟩ := serve_counted held self system request
      rw [stays]
      trivial
  | disk held =>
      obtain ⟨⟨place, fills⟩, calm⟩ := flawless
      obtain ⟨later, stays, imprint⟩ := imprint_serve fills (calm _) self request
      rw [stays]
      exact ⟨⟨place, imprint.fills fills⟩,
        fun transfers => (congrFun spares.faults transfers).trans (calm transfers)⟩

/-! ## Transfers -/

/-- A refused request moves no bytes, and any other none past the end of the last page. -/
theorem transfers_serve (flawless : file.Flawless system) (request : Request) :
    let served := file.serve self system request
    (∀ cause, served.answer = .error cause → served.system = system) ∧
      ∃ noted, served.system.transfers.toList = system.transfers.toList ++ noted ∧
        ∀ transfer ∈ noted, transfer.reach ≤ served.file.next * pageSize := by
  have still : ∀ {served : Served (Option Page)}, served.system = system →
      (∀ cause, served.answer = .error cause → served.system = system) ∧
        ∃ noted, served.system.transfers.toList = system.transfers.toList ++ noted ∧
          ∀ transfer ∈ noted, transfer.reach ≤ served.file.next * pageSize := by
    intro served same
    rw [same]
    exact ⟨fun _ _ => rfl, [], (List.append_nil _).symm, by simp⟩
  cases file with
  | memory held => exact still (serve_memory held self system request).choose_spec.2
  | counted held => exact still (serve_counted held self system request).choose_spec.2.1
  | disk held =>
      obtain ⟨⟨place, fills⟩, calm⟩ := flawless
      obtain ⟨later, stays, imprint⟩ := imprint_serve fills (calm _) self request
      have next : later.pages = ((disk held).serve self system request).file.next := by
        rw [stays]
        rfl
      obtain ⟨refused, noted, journal, reach⟩ := imprint.transfers
      exact ⟨refused, noted, journal, next ▸ reach⟩

/-! ## Offsets -/

/-- A refused request forms no offset. -/
theorem serve?_of_error (flawless : file.Flawless system) {request : Request} {cause : BackingError}
    (refused : (file.serve self system request).answer = .error cause) :
    file.serve? self system request = some (file.serve self system request) := by
  cases file with
  | memory held => cases request <;> rfl
  | counted held => cases request <;> rfl
  | disk held =>
      have present : ∀ {page : Nat}, held.live page = true →
          ((disk held).data? system page).isSome := by
        intro page live
        simp only [data?, if_pos live]
        exact isSome_stored? flawless.fits (lt_of_live live)
      cases request with
      | delete page => rfl
      | allocate =>
          rw [serve, Served.map, answer_allocate flawless] at refused
          cases refused
      | read page =>
          refine serve?_of_not_live (Bool.eq_false_iff.mpr fun live => ?_)
            (.inl (decide_eq_true (rfl : page = page)))
          obtain ⟨data, found⟩ := Option.isSome_iff_exists.mp (present live)
          simp only [serve, Served.map, answer_read flawless, found] at refused
          cases refused
      | write page =>
          refine serve?_of_not_live (Bool.eq_false_iff.mpr fun live => ?_)
            (.inr (decide_eq_true (rfl : page.number = page.number)))
          simp only [serve, Served.map, answer_write flawless, if_pos (present live)] at refused
          cases refused

/-! ## Counts -/

/-- A file that counts its requests has counted these. -/
def Tallied (requests : List Request) : Backing → Prop
  | counted held => ∀ page, held.readsOf page = requests.countP (Request.reads page) ∧
      held.writesOf page = requests.countP (Request.writes page)
  | _ => True

theorem Tallied.serve {requests : List Request} (tallied : file.Tallied requests)
    (request : Request) :
    (file.serve self system request).file.Tallied (requests ++ [request]) := by
  cases file with
  | memory held =>
      obtain ⟨later, stays, -⟩ := serve_memory held self system request
      rw [stays]
      trivial
  | disk held =>
      cases request with
      | delete page =>
          simp only [Backing.serve, Served.map, delete]
          split
          · trivial
          · trivial
      | _ => trivial
  | counted held =>
      obtain ⟨later, stays, -, counts⟩ := serve_counted held self system request
      rw [stays]
      intro page
      obtain ⟨reads, writes⟩ := counts page
      obtain ⟨readsBefore, writesBefore⟩ := tallied page
      rw [List.countP_append, List.countP_append, List.countP_singleton, List.countP_singleton]
      exact ⟨readsBefore ▸ reads, writesBefore ▸ writes⟩

end Backing

namespace Storage

/-- A file without pages has just been opened: one in memory, one that counts its requests, or one
on disk in a regular file without bytes, where no fault is foreseen. -/
inductive Fresh : FileIdentity → Storage → Prop
  /-- The file is in memory. -/
  | memory (storage : Storage) (name : String) :
      Fresh (storage.add (.memory (.empty name))).1 (storage.add (.memory (.empty name))).2
  /-- The file is in memory and counts its requests. -/
  | counted (storage : Storage) :
      Fresh (storage.add (.counted (.seeded 0))).1 (storage.add (.counted (.seeded 0))).2
  /-- The file is on disk. -/
  | disk {storage opened : Storage} {path : String} {id : FileIdentity} {held : DiskBacking}
      {place : Location} (given : storage.openDisk path = .ok (id, held, opened))
      (regular : held.target = .regular place) (bare : (storage.system.bytesAt place).size = 0)
      (calm : ∀ transfers, storage.system.faults transfers = none) : Fresh id opened

variable {id : FileIdentity} {storage : Storage}

/-- What a file has in common with a plain file after some requests. -/
structure Alike (storage : Storage) (id : FileIdentity) (requests : List Request)
    (plain : PlainFile) : Prop where
  /-- It is known as the plain file. -/
  view : (storage.file id).view storage.system = plain
  /-- It meets no fault. -/
  flawless : (storage.file id).Flawless storage.system
  /-- It has counted the requests, if it counts any. -/
  tallied : (storage.file id).Tallied requests

theorem file_add_self (storage : Storage) (file : Backing) :
    (storage.add file).2.file (storage.add file).1 = file :=
  (file_add ..).trans (if_pos rfl)

theorem Fresh.alike (fresh : Fresh id storage) : storage.Alike id [] .empty := by
  cases fresh with
  | memory storage name =>
      refine ⟨?_, ?_, ?_⟩
      · rw [file_add_self]
        exact PlainFile.ext rfl (funext (MemoryBacking.data?_empty name))
      · rw [file_add_self]
        trivial
      · rw [file_add_self]
        trivial
  | counted storage =>
      refine ⟨?_, ?_, ?_⟩
      · rw [file_add_self]
        exact PlainFile.ext rfl (funext (MemoryBacking.data?_empty "counting"))
      · rw [file_add_self]
        trivial
      · rw [file_add_self]
        intro page
        simp [CountedBacking.seeded, CountedBacking.readsOf, CountedBacking.writesOf]
  | @disk earlier _ path _ held place given regular bare calm =>
      obtain ⟨shelf, same⟩ := shelf_openDisk given regular calm
      have none : held.pages = 0 := by rw [shelf.fills.pages, same, bare, Nat.zero_div]
      refine ⟨?_, ?_, ?_⟩
      · rw [shelf.file]
        refine PlainFile.ext none (funext fun page => if_neg ?_)
        simp [DiskBacking.live, none]
      · rw [shelf.file]
        exact ⟨⟨place, shelf.fills⟩, shelf.calm⟩
      · rw [shelf.file]
        trivial

namespace Alike

variable {requests : List Request} {plain : PlainFile}

/-- A file answers one more request as the plain file does. -/
theorem serve (alike : storage.Alike id requests plain) (request : Request) :
    (storage.serve id request).1 = (plain.serve request).1.mapError (.missing id) ∧
      (storage.serve id request).2.Alike id (requests ++ [request]) (plain.serve request).2 := by
  have file := (storage.file_serve id id request).trans (if_pos rfl)
  obtain ⟨answer, view⟩ := Backing.view_serve alike.flawless id request
  rw [alike.view] at answer view
  refine ⟨answer, ?_, ?_, ?_⟩
  · rw [file]
    exact view
  · rw [file]
    exact Backing.flawless_serve alike.flawless request
  · rw [file]
    exact alike.tallied.serve request

/-- A refused request changes no page of any file. -/
theorem refused (alike : storage.Alike id requests plain) {request : Request}
    {cause : BackingError} (refused : (storage.serve id request).1 = .error cause) :
    (storage.serve id request).2.system = storage.system ∧
      ∀ key, (storage.serve id request).2.data? key = storage.data? key := by
  obtain ⟨answer, later⟩ := alike.serve request
  have file := storage.file_serve id
  have system : (storage.serve id request).2.system = storage.system :=
    (Backing.transfers_serve alike.flawless request).1 cause refused
  refine ⟨system, fun key => ?_⟩
  by_cases own : id = key.file
  · cases said : (plain.serve request).1 with
    | ok page => simp [said, Except.mapError, refused] at answer
    | error page =>
        have same := later.view.trans ((PlainFile.serve_of_error said).trans alike.view.symm)
        rw [data?, data?, ← own]
        exact congrFun (congrArg PlainFile.pages same) key.page
  · rw [data?, data?, file, if_neg own, system]

end Alike

theorem Fresh.converse (fresh : Fresh id storage) (requests : List Request) :
    let talk := storage.converse id requests
    let plain := PlainFile.empty.converse requests
    talk.1.map Exchange.answer = plain.1.map (·.mapError (.missing id)) ∧
      talk.2.Alike id requests plain.2 := by
  induction requests using List.reverseRecOn with
  | nil => exact ⟨rfl, fresh.alike⟩
  | append_singleton requests request induction =>
      obtain ⟨answers, alike⟩ := induction
      obtain ⟨answer, later⟩ := alike.serve request
      rw [converse_concat, PlainFile.converse_concat]
      refine ⟨?_, later⟩
      rw [List.map_cons, List.map_cons, answers, answer]

/-- New files of all kinds answer all requests alike, up to their own identities: as the plain file
does. A refused request forms no offset, whatever the number of the page, moves no byte and changes
no page; no offset overflows before there are too many pages for a word; no transfer ends past the
last page; and a file that counts its requests counts those that it refuses as well. -/
theorem fresh_files_agree (fresh : Fresh id storage) (requests : List Request) :
    let talk := storage.converse id requests
    talk.1.map Exchange.answer =
        (PlainFile.empty.converse requests).1.map (·.mapError (.missing id)) ∧
      (∀ request cause, (talk.2.serve id request).1 = .error cause →
        talk.2.serve? id request = some (talk.2.serve id request) ∧
          (talk.2.serve id request).2.system = talk.2.system ∧
          ∀ key, (talk.2.serve id request).2.data? key = talk.2.data? key) ∧
      (talk.2.next id < pageLimit →
        ∀ request, talk.2.serve? id request = some (talk.2.serve id request)) ∧
      (∀ request, ∃ noted, (talk.2.serve id request).2.system.transfers.toList =
          talk.2.system.transfers.toList ++ noted ∧
        ∀ transfer ∈ noted, transfer.reach ≤ (talk.2.serve id request).2.next id * pageSize) ∧
      ∀ held page, talk.2.file id = .counted held →
        held.readsOf page = requests.countP (Request.reads page) ∧
          held.writesOf page = requests.countP (Request.writes page) := by
  intro talk
  obtain ⟨answers, alike⟩ := fresh.converse requests
  refine ⟨answers, fun request cause refused => ⟨?_, alike.refused refused⟩,
    fun below request => ?_, fun request => ?_, fun held page counted => ?_⟩
  · exact congrArg (Option.map _) (Backing.serve?_of_error alike.flawless refused)
  · exact congrArg (Option.map _) (Backing.serve?_eq below request)
  · have next : (talk.2.serve id request).2.next id =
        ((talk.2.file id).serve id talk.2.system request).file.next :=
      congrArg Backing.next ((talk.2.file_serve id id request).trans (if_pos rfl))
    rw [next]
    exact (Backing.transfers_serve alike.flawless request).2
  · have tallied := alike.tallied
    rw [counted] at tallied
    exact tallied page

/-- A file on disk without bytes: a page is added, written, read and deleted, and is missing then,
as is the last page that a number of 64 bits can name, whose offset would overflow. -/
theorem fresh_files_agree_on_disk :
    let place : Location := ⟨FileSystem.nameless, "a"⟩
    let storage : Storage :=
      { Storage.empty with system := FileSystem.empty.setBytes place .empty }
    let opened := (storage.add (.disk ⟨"a", .regular place, 0, ∅⟩)).2
    Fresh ⟨1⟩ opened ∧
      (opened.converse ⟨1⟩ [.allocate, .write ⟨0, .filled 1⟩, .read 0, .delete 0, .read 0,
        .write ⟨18446744073709551615, .zero⟩]).1.map Exchange.answer =
        [.error (.pageNotFound ⟨⟨1⟩, 18446744073709551615⟩), .error (.pageNotFound ⟨⟨1⟩, 0⟩),
          .ok none, .ok (some ⟨0, .filled 1⟩), .ok none, .ok (some (.zero 0))] ∧
      offset? 18446744073709551615 = none ∧
      opened.serve? ⟨1⟩ (.read 18446744073709551615) =
        some (opened.serve ⟨1⟩ (.read 18446744073709551615)) := by
  intro place storage opened
  have given : storage.openDisk "a" = .ok (⟨1⟩, ⟨"a", .regular place, 0, ∅⟩, opened) :=
    openDisk_plainName .empty rfl rfl
  have length : (storage.system.bytesAt place).size = 0 :=
    congrArg Runs.size (FileSystem.bytesAt_setBytes ..)
  have fresh : Fresh ⟨1⟩ opened := .disk given rfl length fun _ => rfl
  refine ⟨fresh, ?_, offset?_of_limit_le (by decide), ?_⟩
  · rw [(fresh_files_agree fresh _).1]
    rfl
  · exact ((fresh_files_agree fresh []).2.1 _ _ rfl).1

end Storage

end PageCache
