import PageCache.Proofs.Pool.Logged
import PageCache.Session.Step

/-!
# The log only observes

A session reads the threshold of its log at every event. Main statement: under any two thresholds
the same operations give the same replies and leave the same files, pools and handles behind at
every step, and what is logged is what the loudest threshold logs, less the events above the
threshold.
-/

namespace PageCache

/-- Whether an operation sets the threshold of the log. -/
def Operation.setsLevel : Operation → Bool
  | .setLevel _ => true
  | _ => false

/-- The session with another threshold of the log. -/
def Session.under (session : Session) (level : Level) : Session := { session with level }

/-- The step as it is under another threshold, which keeps some of its events. -/
def Step.under (step : Step) (level : Level) : Step :=
  ⟨step.result, step.session.under level, level.keep step.events⟩

namespace Session

/-! ## Sessions that log as they go -/

/-- The step of an operation on a pool that has put its events to the log. -/
def settleLogged (session : Session) (number : Nat) (outcome : Outcome Unit) : Step :=
  { session.settle number outcome with events := outcome.events }

/-- The step of such an operation that gives a handle. -/
def settleHandleLogged (session : Session) (number : Nat) (outcome : Outcome Handle)
    (reply : Nat → Handle → Reply) : Step :=
  { session.settleHandle number outcome reply with events := outcome.events }

/-- The step that one operation makes, where every event is put to the log as it happens. -/
def stepLogged (session : Session) : Operation → Step
  | .openDisk path =>
    match session.storage.openDisk path with
    | .error cause => session.fail (.storage cause)
    | .ok (id, file, storage) =>
      { session.takeFile (id, storage) path [] with
        events := session.level.log (.fileOpened path id file.pages) }
  | .makePool config =>
    match Pool.ofConfig config with
    | .error cause => session.fail (.pool cause)
    | .ok pool =>
      ⟨.ok (.pool session.pools.next), { session with pools := session.pools.push pool },
        session.level.log (.poolMade config.frames)⟩
  | .dropPool pool =>
    session.withPool pool fun held =>
      let outcome := Logged.drop session.level held session.storage
      ⟨.ok .nothing,
        { session with storage := outcome.storage, pools := session.pools.retire pool },
        outcome.events⟩
  | .fetch pool file page =>
    session.withBoth pool file fun held id =>
      session.settleHandleLogged pool
        (Logged.fetch session.level held session.storage ⟨id, page⟩) .fetched
  | .allocate pool file =>
    session.withBoth pool file fun held id =>
      session.settleHandleLogged pool
        (Logged.allocate session.level held session.storage id) .allocated
  | .releasePage pool file page dirty =>
    session.withBoth pool file fun held id =>
      session.settleLogged pool
        (Logged.releasePage session.level held session.storage ⟨id, page⟩ dirty)
  | .release pool handle dirty =>
    session.withPool pool fun held => session.withHandle handle fun used =>
      let rest := { session with handles := session.handles.retire handle }
      rest.settleLogged pool (Logged.release session.level held session.storage used dirty)
  | .dispose pool file page =>
    session.withBoth pool file fun held id =>
      session.settleLogged pool (Logged.dispose session.level held session.storage ⟨id, page⟩)
  | .flush pool file =>
    session.withBoth pool file fun held id =>
      session.settleLogged pool (Logged.flush session.level held session.storage id)
  | .writeBackAll pool =>
    session.withPool pool fun held =>
      session.settleLogged pool (Logged.writeBackAll session.level held session.storage)
  | operation => session.step operation

/-- The steps of a list of operations that log as they go, and the session after the last. -/
def runLogged (session : Session) : List Operation → List Step × Session
  | [] => ([], session)
  | operation :: rest =>
    let first := session.stepLogged operation
    let later := first.session.runLogged rest
    (first :: later.1, later.2)

theorem settleLogged_eq (session : Session) (number : Nat) (outcome : Outcome Unit) :
    session.settleLogged number (outcome.heard session.level) = session.settle number outcome :=
  rfl

theorem settleHandleLogged_eq (session : Session) (number : Nat) (outcome : Outcome Handle)
    (reply : Nat → Handle → Reply) :
    session.settleHandleLogged number (outcome.heard session.level) reply =
      session.settleHandle number outcome reply := by
  simp only [settleHandleLogged, settleHandle, Outcome.heard]
  cases outcome.result <;> rfl

/-- An operation that logs as it goes makes the step that the operation makes. -/
theorem stepLogged_eq (session : Session) (operation : Operation) :
    session.stepLogged operation = session.step operation := by
  cases operation with
  | openDisk path =>
      simp only [stepLogged, step, openDisk]
      cases session.storage.openDisk path with
      | error cause => rfl
      | ok opened => simp only [takeFile, Level.keep_singleton]
  | makePool config =>
      simp only [stepLogged, step, makePool]
      cases Pool.ofConfig config with
      | error cause => rfl
      | ok pool => simp only [Level.keep_singleton]
  | dropPool pool =>
      simp only [stepLogged, step, dropPool, Logged.drop_eq]
      rfl
  | fetch => simp only [stepLogged, step, Logged.fetch_eq, settleHandleLogged_eq]
  | allocate => simp only [stepLogged, step, Logged.allocate_eq, settleHandleLogged_eq]
  | releasePage => simp only [stepLogged, step, Logged.releasePage_eq, settleLogged_eq]
  | release =>
      simp only [stepLogged, step, Logged.release_eq]
      rfl
  | dispose => simp only [stepLogged, step, Logged.dispose_eq, settleLogged_eq]
  | flush => simp only [stepLogged, step, Logged.flush_eq, settleLogged_eq]
  | writeBackAll => simp only [stepLogged, step, Logged.writeBackAll_eq, settleLogged_eq]
  | _ => rfl

theorem runLogged_eq (session : Session) (operations : List Operation) :
    session.runLogged operations = session.run operations := by
  induction operations generalizing session with
  | nil => rfl
  | cons operation rest induction => rw [runLogged, run, stepLogged_eq, induction]

/-! ## Steps under different thresholds -/

section Under

variable (session : Session) (level : Level)

theorem withFile_under (number : Nat) {quiet loud : FileIdentity → Step}
    (each : ∀ id, quiet id = (loud id).under level) :
    (session.under level).withFile number quiet =
      ((session.under .trace).withFile number loud).under level := by
  simp only [withFile, under]
  cases session.files.get? number with
  | none => rfl
  | some id => exact each id

theorem withPool_under (number : Nat) {quiet loud : Pool → Step}
    (each : ∀ pool, quiet pool = (loud pool).under level) :
    (session.under level).withPool number quiet =
      ((session.under .trace).withPool number loud).under level := by
  simp only [withPool, under]
  cases session.pools.get? number with
  | none => rfl
  | some pool => exact each pool

theorem withHandle_under (number : Nat) {quiet loud : Handle → Step}
    (each : ∀ handle, quiet handle = (loud handle).under level) :
    (session.under level).withHandle number quiet =
      ((session.under .trace).withHandle number loud).under level := by
  simp only [withHandle, under]
  cases session.handles.get? number with
  | none => rfl
  | some handle => exact each handle

theorem withBoth_under (pool file : Nat) {quiet loud : Pool → FileIdentity → Step}
    (each : ∀ held id, quiet held id = (loud held id).under level) :
    (session.under level).withBoth pool file quiet =
      ((session.under .trace).withBoth pool file loud).under level :=
  session.withFile_under level file fun id => session.withPool_under level pool fun held =>
    each held id

theorem withPage_under (pool handle : Nat) {quiet loud : Pool → Handle → Page → Step}
    (each : ∀ held used page, quiet held used page = (loud held used page).under level) :
    (session.under level).withPage pool handle quiet =
      ((session.under .trace).withPage pool handle loud).under level := by
  refine session.withHandle_under level handle fun used =>
    session.withPool_under level pool fun held => ?_
  cases held.page used with
  | error cause => rfl
  | ok page => exact each held used page

theorem settle_under (number : Nat) (outcome : Outcome Unit) :
    (session.under level).settle number outcome =
      ((session.under .trace).settle number outcome).under level := by
  simp only [settle, Step.under, under, Level.keep_keep_trace]
  rfl

theorem settleHandle_under (number : Nat) (outcome : Outcome Handle)
    (reply : Nat → Handle → Reply) :
    (session.under level).settleHandle number outcome reply =
      ((session.under .trace).settleHandle number outcome reply).under level := by
  simp only [settleHandle, under]
  cases outcome.result with
  | error cause =>
      simp only [Step.under, Level.keep_keep_trace]
      rfl
  | ok handle =>
      simp only [Step.under, Level.keep_keep_trace]
      rfl

theorem takeFile_under (added : FileIdentity × Storage) (name : String) (events : List Event) :
    (session.under level).takeFile added name events =
      ((session.under .trace).takeFile added name events).under level := by
  simp only [takeFile, Step.under, under, Level.keep_keep_trace]

theorem openDisk_under (path : String) :
    (session.under level).openDisk path = ((session.under .trace).openDisk path).under level := by
  have same : ∀ other : Level, (session.under other).storage = session.storage := fun _ => rfl
  simp only [openDisk, same]
  cases session.storage.openDisk path with
  | error cause => rfl
  | ok opened => exact session.takeFile_under level _ path _

theorem makePool_under (config : Config) :
    (session.under level).makePool config =
      ((session.under .trace).makePool config).under level := by
  simp only [makePool]
  cases Pool.ofConfig config with
  | error cause => rfl
  | ok pool =>
      simp only [Step.under, under, Level.keep_keep_trace]

theorem dropPool_under (number : Nat) (pool : Pool) :
    (session.under level).dropPool number pool =
      ((session.under .trace).dropPool number pool).under level := by
  simp only [dropPool, Step.under, under, Level.keep_keep_trace]

/-- An operation makes the same step under every threshold, but for what the log keeps. -/
theorem step_under {operation : Operation} (fixed : operation.setsLevel = false) :
    (session.under level).step operation =
      ((session.under .trace).step operation).under level := by
  cases operation with
  | openMemory | openCounted => exact session.takeFile_under level _ _ _
  | openDisk path => exact session.openDisk_under level path
  | closeFile file => exact session.withFile_under level file fun _ => rfl
  | readPage file | appendPage file | deletePage file | describeFile file | readFirst file =>
      exact session.withFile_under level file fun _ => rfl
  | writePage file page bytes =>
      refine session.withFile_under level file fun id => ?_
      cases Page.ofBytes page bytes <;> rfl
  | containsPage file page | requestCounts file page | syncFile file =>
      refine session.withFile_under level file fun id => ?_
      have same : ∀ other : Level, (session.under other).storage = session.storage := fun _ => rfl
      simp only [same]
      cases session.storage.file id <;> rfl
  | readPath path => rfl
  | truncatePath path length =>
      have same : ∀ other : Level, (session.under other).storage = session.storage := fun _ => rfl
      simp only [step, truncatePath, same]
      cases session.storage.system.truncate path length <;> rfl
  | makePool config => exact session.makePool_under level config
  | dropPool pool =>
      exact session.withPool_under level pool fun held => session.dropPool_under level pool held
  | fetch pool file | allocate pool file =>
      exact session.withBoth_under level pool file fun _ _ =>
        session.settleHandle_under level pool _ _
  | releasePage pool file | dispose pool file | flush pool file =>
      exact session.withBoth_under level pool file fun _ _ => session.settle_under level pool _
  | release pool handle =>
      refine session.withPool_under level pool fun _ =>
        session.withHandle_under level handle fun _ => ?_
      exact settle_under { session with handles := session.handles.retire handle } level pool _
  | writeBackAll pool =>
      exact session.withPool_under level pool fun _ => session.settle_under level pool _
  | lookup pool file => exact session.withBoth_under level pool file fun _ _ => rfl
  | stats pool | inspect pool | display pool => exact session.withPool_under level pool fun _ => rfl
  | viewPage pool handle | fillPage pool handle =>
      exact session.withPage_under level pool handle fun _ _ _ => rfl
  | viewBytes pool handle offset count =>
      refine session.withPage_under level pool handle fun _ _ page => ?_
      cases page.data.range? offset count <;> rfl
  | putBytes pool handle offset bytes =>
      refine session.withPage_under level pool handle fun _ _ page => ?_
      cases page.data.overwrite? offset bytes <;> rfl
  | sameHandle first second =>
      refine session.withHandle_under level first fun _ => ?_
      have same : ∀ other : Level, (session.under other).handles = session.handles := fun _ => rfl
      simp only [same]
      cases session.handles.get? second <;> rfl
  | setLevel => cases fixed

/-- The same operations make the same steps under every threshold, but for what the log keeps. -/
theorem run_under {operations : List Operation}
    (fixed : ∀ operation ∈ operations, operation.setsLevel = false) :
    (session.under level).run operations =
      (((session.under .trace).run operations).1.map (Step.under · level),
        ((session.under .trace).run operations).2.under level) := by
  induction operations generalizing session with
  | nil => rfl
  | cons operation rest induction =>
      have own := fixed operation List.mem_cons_self
      let traced := (session.under .trace).step operation
      have first : (session.under level).step operation = traced.under level :=
        session.step_under level own
      have loud : traced.session.under .trace = traced.session :=
        (congrArg Step.session (session.step_under .trace own)).symm
      have later := induction traced.session fun other member =>
        fixed other (List.mem_cons_of_mem _ member)
      rw [loud] at later
      have onward : (traced.under level).session.run rest =
          ((traced.session.run rest).1.map (Step.under · level),
            (traced.session.run rest).2.under level) := later
      simp only [run, first, onward]
      rfl

/-- The events of a run under one threshold are those under the loudest that it records. -/
theorem events_under (steps : List Step) :
    (steps.map (Step.under · level)).map Step.events =
      steps.map fun step => step.events.filter fun event =>
        event.level ≠ .off ∧ event.level.rank ≤ level.rank := by
  rw [List.map_map]
  refine List.map_congr_left fun step _ => List.filter_congr fun event _ => ?_
  rw [Bool.eq_iff_iff]
  simp [Level.records]

end Under

/-- Whatever the threshold of the log, the same operations give the same replies and leave the same
behind at every step, and the log takes those events that the loudest one takes, in the same order,
which are not of level `off` and not above its threshold. -/
theorem log_only_observes (session : Session) (operations : List Operation)
    (fixed : ∀ operation ∈ operations, operation.setsLevel = false) (level other : Level) :
    let steps := (session.under level).runLogged operations
    let otherSteps := (session.under other).runLogged operations
    let loudest := (session.under .trace).runLogged operations
    steps = (session.under level).run operations ∧
      steps.1.map Step.result = otherSteps.1.map Step.result ∧
      steps.1.map (fun step => step.session.under other) = otherSteps.1.map Step.session ∧
      steps.2.under other = otherSteps.2 ∧
      steps.1.map Step.events = loudest.1.map fun step =>
        step.events.filter fun event => event.level ≠ .off ∧ event.level.rank ≤ level.rank := by
  simp only [runLogged_eq, run_under session level fixed, run_under session other fixed]
  refine ⟨trivial, ?_, ?_, rfl, ?_⟩
  · rw [List.map_map, List.map_map]
    rfl
  · rw [List.map_map, List.map_map]
    rfl
  · exact events_under level _

/-- One frame in which a written page gives way to another, whose file then loses it, so that the
drop of the pool fails to write it back. -/
theorem log_only_observes_failed_drop :
    let session := start .empty .warn
    let operations : List Operation := [.openMemory "mem" 2, .makePool ⟨1, true⟩, .fetch 0 0 0,
      .fetch 0 0 1, .releasePage 0 0 0 true, .fetch 0 0 1, .releasePage 0 0 1 true,
      .deletePage 0 1, .dropPool 0]
    let steps := (session.under .error).runLogged operations
    let loudest := (session.under .trace).runLogged operations
    (∀ operation ∈ operations, operation.setsLevel = false) ∧
      steps.1.map Step.result = loudest.1.map Step.result ∧
      steps.1.map (fun step => step.session.under .trace) = loudest.1.map Step.session ∧
      steps.1.flatMap Step.events = [.dropFailed 0 (.storage (.pageNotFound ⟨⟨1⟩, 1⟩))] ∧
      (loudest.1.flatMap Step.events).map Event.level =
        [.debug, .trace, .warn, .debug, .debug, .trace, .error] := by
  intro session operations steps loudest
  have fixed : ∀ operation ∈ operations, operation.setsLevel = false := by decide
  obtain ⟨-, results, sessions, -, -⟩ := log_only_observes session operations fixed .error .trace
  exact ⟨fixed, results, sessions, by decide +kernel, by decide +kernel⟩

end Session

end PageCache
