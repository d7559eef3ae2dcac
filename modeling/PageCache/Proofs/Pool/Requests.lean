import PageCache.Proofs.Pool.Failure
import PageCache.Proofs.Pool.Spotless
import PageCache.Proofs.Pool.Walk

/-!
# What is asked of files

A fetch of a resident page asks nothing of any file. Any other fetch, and an allocation, first
needs a frame. Main statement: at every point of a course the journal tells exactly what they
asked. If the chosen frame holds a changed page, the first request is to write the bytes of that
page to its own place in its own file; and if a frame was obtained, the last is the one read or the
one allocation that the client asked for. There is no other request, and a page that its file has
taken is not written again until a client says that it was changed.
-/

namespace PageCache

namespace Pool

/-- What an operation that asks a file for a page does with the chosen frame. -/
structure AsksThrough (pool : Pool) (storage : Storage) (number : Nat) (file : FileIdentity)
    (request : Request) (outcome : Outcome Handle) : Prop where
  /-- A page in the frame bears its own number. -/
  numbered : ∀ occupant, (pool.frame number).occupant = some occupant →
    occupant.page.number = occupant.key.page
  /-- A frame without a changed page is obtained, and only the request is made. -/
  clean : (pool.frame number).dirty = false →
    (pool.claim storage).result = .ok number ∧
      outcome.storage = (storage.serve file request).2 ∧
      outcome.storage.calls.toList =
        storage.calls.toList ++ [⟨file, request, outcome.result.isOk⟩]
  /-- If the frame holds a changed page that its file takes, the frame is obtained, and the request
  is made after the page was written. -/
  taken : ∀ occupant, (pool.frame number).occupant = some occupant → occupant.dirty = true →
    (storage.write occupant.key.file occupant.page).1 = .ok () →
    (pool.claim storage).result = .ok number ∧
      outcome.storage =
        ((storage.write occupant.key.file occupant.page).2.serve file request).2 ∧
      outcome.storage.calls.toList =
        storage.calls.toList ++ [occupant.saving, ⟨file, request, outcome.result.isOk⟩]
  /-- If the file does not take it, no frame is obtained and the request is not made. -/
  refused : ∀ occupant cause, (pool.frame number).occupant = some occupant →
    occupant.dirty = true → (storage.write occupant.key.file occupant.page).1 = .error cause →
    (pool.claim storage).result = .error (.storage cause) ∧
      outcome.result = .error (.storage cause) ∧
      outcome.storage = (storage.write occupant.key.file occupant.page).2 ∧
      outcome.storage.calls.toList =
        storage.calls.toList ++ [⟨occupant.key.file, .write occupant.page, false⟩]

/-- What an operation asks of files that needs a frame for a page. -/
structure Asks (pool : Pool) (storage : Storage) (file : FileIdentity) (request : Request)
    (outcome : Outcome Handle) : Prop where
  /-- If every frame is pinned no frame is obtained, and nothing is asked. -/
  full : pool.Full →
    (pool.claim storage).result = .error (.exhausted pool.size) ∧
      outcome.result = .error (.exhausted pool.size) ∧ outcome.storage = storage
  /-- Otherwise it depends on the frame that the clock chooses. -/
  chosen : ¬ pool.Full → ∃ choice, pool.choice? = some choice ∧
    pool.AsksThrough storage choice.frame file request outcome

/-- A pool asks of files what it has to and nothing else. -/
structure AsksExactly (pool : Pool) (storage : Storage) : Prop where
  /-- A resident page is there without any request. -/
  resident : ∀ key number, pool.find? key = some number → (pool.fetch storage key).storage = storage
  /-- Any other page is read once if there is a frame for it. -/
  absent : ∀ key, pool.find? key = none →
    pool.Asks storage key.file (.read key.page) (pool.fetch storage key)
  /-- A new page is allocated once if there is a frame for it. -/
  allocate : ∀ file, pool.Asks storage file .allocate (pool.allocate storage file)
  /-- After a page was written it is not written again, be it by the same action or by any other,
  until it is released as changed. -/
  once : ∀ action key, ∃ calls,
    (pool.act storage action).storage.calls.toList = storage.calls.toList ++ calls ∧
    (calls.Pairwise fun earlier later =>
      earlier.Writes key → earlier.succeeded = true → ¬ later.Writes key) ∧
    ∀ call ∈ calls, call.Writes key → call.succeeded = true →
      ∀ later,
        Unsoiled key ((pool.act storage action).pool, (pool.act storage action).storage) later →
        (∀ next, later.2.Unwritten key (later.1.act later.2 next).storage) ∧
          later.2.Unwritten key (later.1.drop later.2).storage

end Pool

/-- What is done with a claimed frame makes exactly one request, and succeeds if the file does. -/
def Outcome.Requests (file : FileIdentity) (request : Request)
    (second : Nat → Pool → Storage → Outcome Handle) : Prop :=
  ∀ number pool storage,
    (second number pool storage).storage = (storage.serve file request).2 ∧
      (second number pool storage).result.isOk = (storage.serve file request).1.isOk

theorem Storage.calls_serve (storage : Storage) (id : FileIdentity) (request : Request) :
    (storage.serve id request).2.calls =
      storage.calls.push ⟨id, request, (storage.serve id request).1.isOk⟩ := rfl

namespace Pool

variable {pool : Pool} {storage : Storage} {file : FileIdentity} {request : Request}
  {outcome : Outcome Handle} {number : Nat}

/-- The request is made on what the claim of a frame leaves of the files. -/
theorem storage_of_claimed {second : Nat → Pool → Storage → Outcome Handle}
    (requests : Outcome.Requests file request second)
    (claimed : (pool.claim storage).result = .ok number) {middle : Storage}
    (left : (pool.claim storage).storage = middle) :
    let outcome := (pool.claim storage).andThen second
    outcome.storage = (middle.serve file request).2 ∧
      outcome.storage.calls.toList =
        middle.calls.toList ++ [⟨file, request, outcome.result.isOk⟩] := by
  obtain ⟨stored, answered⟩ :=
    requests number (pool.claim storage).pool (pool.claim storage).storage
  rw [left] at stored answered
  simp only [Outcome.andThen_of_ok claimed, left]
  refine ⟨stored, ?_⟩
  rw [stored, answered, Storage.calls_serve, Array.toList_push]

/-- What is asked of files follows from how the pool makes room. -/
theorem MakesRoom.asksThrough {choice : Choice} (makes : pool.MakesRoom storage choice)
    (sound : pool.Sound storage) {second : Nat → Pool → Storage → Outcome Handle}
    (requests : Outcome.Requests file request second) :
    pool.AsksThrough storage choice.frame file request ((pool.claim storage).andThen second) where
  numbered := sound.numbered choice.frame
  clean := by
    intro clean
    have nothing := writeBack_of_not_dirty clean storage
    have claimed : (pool.claim storage).result = .ok choice.frame ∧
        (pool.claim storage).storage = storage := by
      cases occupied : (pool.frame choice.frame).occupant with
      | none =>
          obtain ⟨result, stored, -⟩ := makes.free occupied
          exact ⟨result, stored⟩
      | some occupant =>
          have saved : (pool.writeBack storage choice.frame).result = .ok () := by rw [nothing]; rfl
          obtain ⟨result, stored, -⟩ := makes.gives occupant occupied saved
          exact ⟨result, stored.trans (congrArg Outcome.storage nothing)⟩
    exact ⟨claimed.1, storage_of_claimed requests claimed.1 claimed.2⟩
  taken := by
    intro occupant occupied dirty taken
    obtain ⟨saved, wrote⟩ := writeBack_of_occupied occupied storage
    rw [if_pos dirty, taken] at saved
    rw [if_pos dirty] at wrote
    obtain ⟨result, stored, -⟩ := makes.gives occupant occupied saved
    obtain ⟨served, journal⟩ := storage_of_claimed requests result (stored.trans wrote)
    refine ⟨result, served, ?_⟩
    rw [journal, Storage.calls_write, Array.toList_push, taken, List.append_assoc]
    rfl
  refused := by
    intro occupant cause occupied dirty refused
    obtain ⟨failed, wrote⟩ := writeBack_of_occupied occupied storage
    rw [if_pos dirty, refused] at failed
    rw [if_pos dirty] at wrote
    obtain ⟨result, stored, -⟩ := makes.stays _ failed
    rw [Outcome.andThen_of_error result]
    refine ⟨result, rfl, stored.trans wrote, ?_⟩
    rw [Outcome.failed, stored, wrote, Storage.calls_write, Array.toList_push, refused]
    rfl

/-- An operation that claims a frame and then makes one request asks nothing else of any file. -/
theorem Sound.asks (sound : pool.Sound storage) (hand : pool.clock.hand < pool.clock.frames)
    {second : Nat → Pool → Storage → Outcome Handle}
    (requests : Outcome.Requests file request second) :
    pool.Asks storage file request ((pool.claim storage).andThen second) where
  full := by
    intro full
    have spent := claim_of_exhausted ((sweep_eq_exhausted_iff (sound.ready hand)).mpr full) storage
    rw [spent, Outcome.failed_andThen]
    exact ⟨rfl, rfl, rfl⟩
  chosen := by
    intro room
    obtain ⟨choice, chosen, -, makes⟩ := sound.exists_makesRoom hand room
    exact ⟨choice, chosen, makes.asksThrough sound requests⟩

/-- What a pool counts does not matter to the frame that it obtains. -/
theorem result_claim_count (pool : Pool) (change : Stats → Stats) (storage : Storage) :
    ((pool.count change).claim storage).result = (pool.claim storage).result := by
  have swept : (pool.count change).sweep = (pool.sweep.1, pool.sweep.2.count change) := rfl
  cases found : pool.sweep.1 with
  | free number => simp only [claim, swept, found]; rfl
  | exhausted => simp only [claim, swept, found]; rfl
  | victim number =>
      have frame : (pool.sweep.2.count change).frame number = pool.sweep.2.frame number := rfl
      have same := result_writeBack_congr frame storage
      simp only [claim, swept, found]
      cases saved : (pool.sweep.2.writeBack storage number).result with
      | error cause =>
          rw [saved] at same
          rw [Outcome.andThen_of_error same, Outcome.andThen_of_error saved]
          rfl
      | ok value =>
          rw [saved] at same
          rw [Outcome.andThen_of_ok same, Outcome.andThen_of_ok saved, result_evict, result_evict]

theorem AsksThrough.of_count {change : Stats → Stats}
    (asks : (pool.count change).AsksThrough storage number file request outcome) :
    pool.AsksThrough storage number file request outcome := by
  obtain ⟨numbered, clean, taken, refused⟩ := asks
  rw [result_claim_count] at clean taken refused
  exact ⟨numbered, clean, taken, refused⟩

theorem Asks.of_count {change : Stats → Stats}
    (asks : (pool.count change).Asks storage file request outcome) :
    pool.Asks storage file request outcome where
  full := by
    have full := asks.full
    rw [result_claim_count] at full
    exact full
  chosen := fun room => (asks.chosen room).imp fun _ chosen => chosen.imp_right AsksThrough.of_count

/-- If a frame was obtained, the request that was to be made is the last one. -/
theorem Asks.last (asks : pool.Asks storage file request outcome)
    (claimed : (pool.claim storage).result = .ok number) :
    ∃ calls, outcome.storage.calls.toList =
      storage.calls.toList ++ calls ++ [⟨file, request, outcome.result.isOk⟩] := by
  by_cases full : pool.Full
  · cases claimed.symm.trans (asks.full full).1
  obtain ⟨choice, -, through⟩ := asks.chosen full
  cases changed : (pool.frame choice.frame).unsaved? with
  | none =>
      have journal := (through.clean (Frame.unsaved?_eq_none_iff.mp changed)).2.2
      exact ⟨[], journal.trans (by rw [List.append_nil])⟩
  | some occupant =>
      obtain ⟨occupied, dirty⟩ := Frame.unsaved?_eq_some_iff.mp changed
      cases answer : (storage.write occupant.key.file occupant.page).1 with
      | error cause =>
          cases claimed.symm.trans (through.refused occupant cause occupied dirty answer).1
      | ok value =>
          have journal := (through.taken occupant occupied dirty answer).2.2
          exact ⟨[occupant.saving], journal.trans (by rw [List.append_assoc]; rfl)⟩

/-! ## Fetches and allocations -/

/-- What puts a page that its file gives into the claimed frame makes one request. -/
theorem requests_of_give {ask : Storage → Except BackingError Page × Storage}
    (asked : ∀ storage, storage.serve file request = ((ask storage).1.map some, (ask storage).2))
    (give : Nat → Pool → Storage → Page → Handle × Pool × List Event) :
    Outcome.Requests file request fun number pool storage =>
      match (ask storage).1 with
      | .error cause => .failed (.storage cause) pool (ask storage).2 []
      | .ok page =>
        let given := give number pool (ask storage).2 page
        .done given.1 given.2.1 (ask storage).2 given.2.2 := by
  intro number pool storage
  rw [asked]
  dsimp only
  split
  · next cause refused => exact ⟨rfl, by rw [refused]; rfl⟩
  · next page given => exact ⟨rfl, by rw [given]; rfl⟩

theorem Sound.asks_load (sound : pool.Sound storage)
    (hand : pool.clock.hand < pool.clock.frames) (key : PageKey) :
    pool.Asks storage key.file (.read key.page) (pool.load storage key) :=
  sound.asks hand (requests_of_give (fun storage => storage.serve_read key.file key.page)
    fun number pool _ page =>
      ((pool.install number key.file page).1, (pool.install number key.file page).2,
        [.miss key number]))

theorem Sound.asks_allocate (sound : pool.Sound storage)
    (hand : pool.clock.hand < pool.clock.frames) (file : FileIdentity) :
    pool.Asks storage file .allocate (pool.allocate storage file) :=
  sound.asks hand (requests_of_give (fun storage => storage.serve_allocate file)
    fun number pool _ page =>
      ((pool.install number file page).1, (pool.install number file page).2,
        [.allocated ⟨file, page.number⟩ number]))

/-- A fetch of a page that is not resident reads the page once if there is a frame for it. -/
theorem Sound.asks_fetch (sound : pool.Sound storage)
    (hand : pool.clock.hand < pool.clock.frames) {key : PageKey}
    (absent : pool.find? key = none) :
    pool.Asks storage key.file (.read key.page) (pool.fetch storage key) := by
  rw [fetch_of_absent absent]
  have counted : (pool.count fun stats =>
      { stats with misses := stats.misses + 1 }).Sound storage := sound.tally _ rfl
  exact (counted.asks_load hand key).of_count

end Pool

namespace Course

variable {config : Config} {new : Pool} {base : Storage} {issued : List Handle} {world : World}

/-- At every point of a course the requests of fetches and allocations are exact: first the one
write of the changed page that has to give way, and then the one request that was to be made. -/
theorem asks_exactly (made : Pool.ofConfig config = .ok new)
    (course : Course (new, base) issued world) : world.1.AsksExactly world.2 := by
  have sound : world.1.Sound world.2 := course.sound (Pool.sound_ofConfig made base)
  have hand : world.1.clock.hand < world.1.clock.frames := course.hand_lt made
  refine ⟨fun key number resident => Pool.storage_fetch_of_resident resident world.2,
    fun key absent => sound.asks_fetch hand absent, sound.asks_allocate hand, fun action key => ?_⟩
  obtain ⟨calls, journal, once, taken⟩ := sound.once_act action key
  refine ⟨calls, journal, once, fun call made writes succeeded later unsoiled => ?_⟩
  have reached := sound.act action
  exact (unsoiled.sound reached).unwritten_of_spotless
    (unsoiled.spotless reached (taken call made writes succeeded))

/-- One frame with a changed page of one file, which gives way to a page of another. -/
theorem asks_exactly_across_files :
    ∃ world : World, ∃ occupant,
      world = ((Pool.empty ⟨1, true⟩).carryOut
        ((Storage.withSeeded 2).add (.memory (.seeded "other" 2))).2
        [.fetch ⟨⟨1⟩, 0⟩, .releasePage ⟨⟨1⟩, 0⟩ true]).2 ∧
      (world.1.frame 0).occupant = some occupant ∧ occupant.key = ⟨⟨1⟩, 0⟩ ∧
      world.1.AsksExactly world.2 ∧
      (world.1.fetch world.2 ⟨⟨2⟩, 1⟩).storage.calls.toList =
        world.2.calls.toList ++ [occupant.saving, ⟨⟨2⟩, .read 1, true⟩] := by
  have made : Pool.ofConfig ⟨1, true⟩ = .ok (.empty ⟨1, true⟩) := rfl
  generalize reached : (Pool.empty ⟨1, true⟩).carryOut
    ((Storage.withSeeded 2).add (.memory (.seeded "other" 2))).2
    [.fetch ⟨⟨1⟩, 0⟩, .releasePage ⟨⟨1⟩, 0⟩ true] = used
  have course : Course (.empty ⟨1, true⟩,
      ((Storage.withSeeded 2).add (.memory (.seeded "other" 2))).2) ([] ++ used.1) used.2 := by
    rw [← reached]
    exact Course.start.carryOut _
  have asks := course.asks_exactly made
  have absent : used.2.1.find? ⟨⟨2⟩, 1⟩ = none := by
    subst reached
    decide +kernel
  have unpinned : (used.2.1.frame 0).pins = 0 := by
    subst reached
    decide +kernel
  have inside : 0 < used.2.1.size := (course.sound (Pool.sound_ofConfig made _)).positive
  obtain ⟨choice, chosen, through⟩ := (asks.absent ⟨⟨2⟩, 1⟩ absent).chosen
    fun full => (full 0 inside).2.ne' unpinned
  have first : used.2.1.choice?.map Choice.frame = some 0 := by
    subst reached
    decide +kernel
  rw [chosen, Option.map_some, Option.some.injEq] at first
  rw [first] at through
  have dirty : (used.2.1.frame 0).dirty = true := by
    subst reached
    decide +kernel
  have own : (used.2.1.frame 0).key? = some ⟨⟨1⟩, 0⟩ := by
    subst reached
    decide +kernel
  have served : (used.2.1.fetch used.2.2 ⟨⟨2⟩, 1⟩).result.isOk = true := by
    subst reached
    decide +kernel
  obtain ⟨occupant, occupied, key⟩ := Frame.exists_of_key? own
  rw [Frame.dirty, occupied, Option.any_some] at dirty
  have journal : (used.2.1.fetch used.2.2 ⟨⟨2⟩, 1⟩).storage.calls.toList =
      used.2.2.calls.toList ++ [occupant.saving, ⟨⟨2⟩, .read 1, true⟩] := by
    cases answer : (used.2.2.write occupant.key.file occupant.page).1 with
    | error cause =>
        have failed := (through.refused occupant cause occupied dirty answer).2.1
        rw [failed] at served
        cases served
    | ok value =>
        have journal := (through.taken occupant occupied dirty answer).2.2
        rwa [served] at journal
  exact ⟨used.2, occupant, rfl, occupied, key, asks, journal⟩

end Course

end PageCache
