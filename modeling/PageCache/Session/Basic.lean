import PageCache.Pool.Pinning
import PageCache.Pool.Removal
import PageCache.Session.Numbered
import PageCache.Session.Operation

/-!
# Sessions

A session is the whole system in use: the storage, several pools over it, the handles that were
given out, and the threshold of the log. Files, pools and handles go by number. A handle may be used
with any pool.
-/

namespace PageCache

/-- The system in use. -/
structure Session where
  /-- The open files and the file system. -/
  storage : Storage
  /-- The files by number, except those given up. -/
  files : Numbered FileIdentity
  /-- The pools by number, except those dropped. -/
  pools : Numbered Pool
  /-- The handles by number, except those used up. -/
  handles : Numbered Handle
  /-- The threshold of the log. -/
  level : Level

/-- What an operation gives and leaves behind. -/
structure Step where
  /-- The reply, or why there is none. -/
  result : Except Failure Reply
  /-- The session afterwards. -/
  session : Session
  /-- What was logged, the earliest first. -/
  events : List Event

namespace Session

/-- The session before the first operation. -/
def start (storage : Storage) (level : Level) : Session := ⟨storage, .empty, .empty, .empty, level⟩

/-! ## Building steps -/

/-- The step that replies and leaves everything as it was. -/
def reply (session : Session) (reply : Reply) : Step := ⟨.ok reply, session, []⟩

/-- The step that fails and leaves everything as it was. -/
def fail (session : Session) (failure : Failure) : Step := ⟨.error failure, session, []⟩

/-- The step that refuses the operation. -/
def refuse (session : Session) (refusal : Refusal) : Step := session.fail (.refused refusal)

/-- The step for a file, refused if the file is not in use. -/
def withFile (session : Session) (number : Nat) (next : FileIdentity → Step) : Step :=
  match session.files.get? number with
  | some file => next file
  | none => session.refuse .file

/-- The step for a pool, refused if the pool is not in use. -/
def withPool (session : Session) (number : Nat) (next : Pool → Step) : Step :=
  match session.pools.get? number with
  | some pool => next pool
  | none => session.refuse .pool

/-- The step for a handle, refused if the handle is used up. -/
def withHandle (session : Session) (number : Nat) (next : Handle → Step) : Step :=
  match session.handles.get? number with
  | some handle => next handle
  | none => session.refuse .handle

/-- The step for a file and a pool, refused if one of them is not in use. -/
def withBoth (session : Session) (pool file : Nat) (next : Pool → FileIdentity → Step) : Step :=
  session.withFile file fun id => session.withPool pool fun held => next held id

/-- The step for the page of a handle in a pool, refused if the handle is used up or the pool not
in use, and failing if the pool does not accept the handle. -/
def withPage (session : Session) (pool handle : Nat) (next : Pool → Handle → Page → Step) : Step :=
  session.withHandle handle fun held => session.withPool pool fun found =>
    match found.page held with
    | .ok page => next found held page
    | .error cause => session.fail (.pool cause)

/-- The step that a request to a file makes. -/
def served (session : Session) (answer : Except BackingError Value × Storage)
    (reply : Value → Reply) : Step :=
  ⟨match answer.1 with
    | .ok value => .ok (reply value)
    | .error cause => .error (.storage cause),
    { session with storage := answer.2 }, []⟩

/-- The session that an operation on a pool leaves behind. -/
def after (session : Session) (number : Nat) (outcome : Outcome Value) : Session :=
  { session with
    storage := outcome.storage
    pools := session.pools.replace number outcome.pool }

/-- The step that an operation on a pool makes when its value is of no interest. -/
def settle (session : Session) (number : Nat) (outcome : Outcome Unit) : Step :=
  ⟨match outcome.result with
    | .ok () => .ok .nothing
    | .error cause => .error (.pool cause),
    session.after number outcome, session.level.keep outcome.events⟩

/-- The step that an operation on a pool makes when it gives a handle, which gets a number. -/
def settleHandle (session : Session) (number : Nat) (outcome : Outcome Handle)
    (reply : Nat → Handle → Reply) : Step :=
  let after := session.after number outcome
  let events := session.level.keep outcome.events
  match outcome.result with
  | .ok handle =>
    ⟨.ok (reply session.handles.next handle),
      { after with handles := session.handles.push handle }, events⟩
  | .error cause => ⟨.error (.pool cause), after, events⟩

/-- The step that takes a file into use. -/
def takeFile (session : Session) (added : FileIdentity × Storage) (name : String)
    (events : List Event) : Step :=
  ⟨.ok (.opened session.files.next added.1 name),
    { session with storage := added.2, files := session.files.push added.1 },
    session.level.keep events⟩

end Session

end PageCache
