import PageCache.Session.Basic

/-!
# The steps of a session

Every operation is one step from a session to the next. An operation that names several things looks
up its file before its pool, and a handle to use before its pool; a release looks up its pool first
and uses the handle up even when the pool refuses it.
-/

namespace PageCache.Session

/-- The step that opens a file on disk. -/
def openDisk (session : Session) (path : String) : Step :=
  match session.storage.openDisk path with
  | .error cause => session.fail (.storage cause)
  | .ok (id, file, storage) =>
    session.takeFile (id, storage) path [.fileOpened path id file.pages]

/-- The step that makes a pool. -/
def makePool (session : Session) (config : Config) : Step :=
  match Pool.ofConfig config with
  | .error cause => session.fail (.pool cause)
  | .ok pool =>
    ⟨.ok (.pool session.pools.next), { session with pools := session.pools.push pool },
      session.level.keep [.poolMade config.frames]⟩

/-- The step that ends the life of a pool, which never fails. -/
def dropPool (session : Session) (number : Nat) (pool : Pool) : Step :=
  let outcome := pool.drop session.storage
  ⟨.ok .nothing,
    { session with storage := outcome.storage, pools := session.pools.retire number },
    session.level.keep outcome.events⟩

/-- The step that cuts or grows the file under a path, refused if that cannot be done. -/
def truncatePath (session : Session) (path : String) (length : Nat) : Step :=
  match session.storage.system.truncate path length with
  | .error _ => session.refuse .path
  | .ok system =>
    { session.reply .nothing with
      session := { session with storage := { session.storage with system } } }

/-- The session with other bytes in the page of a handle. -/
def setData (session : Session) (number : Nat) (pool : Pool) (handle : Handle) (data : PageData) :
    Session :=
  { session with pools := session.pools.replace number (pool.setData handle data) }

/-- The step that one operation makes. -/
def step (session : Session) : Operation → Step
  | .openMemory name seed =>
    session.takeFile (session.storage.add (.memory (.seeded name seed))) name []
  | .openCounted seed =>
    let file := CountedBacking.seeded seed
    session.takeFile (session.storage.add (.counted file)) file.memory.name []
  | .openDisk path => session.openDisk path
  | .closeFile file =>
    session.withFile file fun _ =>
      { session.reply .nothing with
        session := { session with files := session.files.retire file } }
  | .readPage file page =>
    session.withFile file fun id => session.served (session.storage.read id page) .page
  | .writePage file page bytes =>
    session.withFile file fun id =>
      match Page.ofBytes page bytes with
      | .ok page => session.served (session.storage.write id page) fun _ => .nothing
      | .error cause => session.fail (.storage cause)
  | .appendPage file =>
    session.withFile file fun id => session.served (session.storage.allocate id) .page
  | .deletePage file page =>
    session.withFile file fun id =>
      session.served (session.storage.delete id page) fun _ => .nothing
  | .describeFile file =>
    session.withFile file fun id => session.reply (.file id (session.storage.file id))
  | .containsPage file page =>
    session.withFile file fun id =>
      match session.storage.file id with
      | .disk _ => session.refuse .file
      | held => session.reply (.truth (held.contains page))
  | .requestCounts file page =>
    session.withFile file fun id =>
      match session.storage.file id with
      | .counted held => session.reply (.counts (held.readsOf page) (held.writesOf page))
      | _ => session.refuse .file
  | .syncFile file =>
    session.withFile file fun id =>
      match session.storage.file id with
      | .disk held => session.served (held.sync, session.storage) fun _ => .nothing
      | _ => session.refuse .file
  | .readFirst file count =>
    session.withFile file fun id =>
      let read := session.storage.readEach id (List.range count)
      { session.reply (.pages read.1) with session := { session with storage := read.2 } }
  | .readPath path => session.reply (.contents (session.storage.system.contents? path))
  | .truncatePath path length => session.truncatePath path length
  | .makePool config => session.makePool config
  | .dropPool pool => session.withPool pool fun held => session.dropPool pool held
  | .fetch pool file page =>
    session.withBoth pool file fun held id =>
      session.settleHandle pool (held.fetch session.storage ⟨id, page⟩) .fetched
  | .allocate pool file =>
    session.withBoth pool file fun held id =>
      session.settleHandle pool (held.allocate session.storage id) .allocated
  | .releasePage pool file page dirty =>
    session.withBoth pool file fun held id =>
      session.settle pool (held.releasePage session.storage ⟨id, page⟩ dirty)
  | .release pool handle dirty =>
    session.withPool pool fun held => session.withHandle handle fun used =>
      let rest := { session with handles := session.handles.retire handle }
      rest.settle pool (held.release session.storage used dirty)
  | .dispose pool file page =>
    session.withBoth pool file fun held id =>
      session.settle pool (held.dispose session.storage ⟨id, page⟩)
  | .flush pool file =>
    session.withBoth pool file fun held id =>
      session.settle pool (held.flush session.storage id)
  | .writeBackAll pool =>
    session.withPool pool fun held => session.settle pool (held.writeBackAll session.storage)
  | .lookup pool file page =>
    session.withBoth pool file fun held id =>
      session.reply (.frame (held.find? ⟨id, page⟩))
  | .stats pool => session.withPool pool fun held => session.reply (.stats held.stats)
  | .inspect pool => session.withPool pool fun held => session.reply (.snapshot held.snapshot)
  | .display pool => session.withPool pool fun held => session.reply (.text held.snapshot.text)
  | .viewPage pool handle =>
    session.withPage pool handle fun _ _ page => session.reply (.page page)
  | .viewBytes pool handle offset count =>
    session.withPage pool handle fun _ _ page =>
      match page.data.range? offset count with
      | some bytes => session.reply (.bytes bytes)
      | none => session.refuse .range
  | .putBytes pool handle offset bytes =>
    session.withPage pool handle fun held used page =>
      match page.data.overwrite? offset bytes with
      | some data =>
        { session.reply .nothing with session := session.setData pool held used data }
      | none => session.refuse .range
  | .fillPage pool handle byte =>
    session.withPage pool handle fun held used _ =>
      { session.reply .nothing with session := session.setData pool held used (.filled byte) }
  | .sameHandle first second =>
    session.withHandle first fun held =>
      match session.handles.get? second with
      | some other => session.reply (.truth (held == other))
      | none => session.refuse .otherHandle
  | .setLevel name =>
    match Level.ofName? name with
    | some level => { session.reply (.level level) with session := { session with level } }
    | none => session.refuse .level

/-- The steps of a list of operations, and the session after the last. -/
def run (session : Session) : List Operation → List Step × Session
  | [] => ([], session)
  | operation :: rest =>
    let first := session.step operation
    let later := first.session.run rest
    (first :: later.1, later.2)

end PageCache.Session
