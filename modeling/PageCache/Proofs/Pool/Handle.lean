import PageCache.Proofs.Pool.Course

/-!
# The use of handles

A pool looks at the pins and the generation of a frame before it lets a handle be used, and a
release then goes by the identity of the page. Main statements: a handle that the pool gave never
reaches another page than its own, whatever happened since; and a handle that was refused is
refused for good exactly when its page has left the frame, for until then a later fetch of the page
gives the same handle again.
-/

namespace PageCache

/-- The outcome of giving back one pin of the page in a frame, which changes nothing else. -/
structure Outcome.GivesBack (outcome : Outcome Unit) (pool : Pool) (storage : Storage)
    (number : Nat) (occupant : Occupant) (dirty : Bool) : Prop where
  /-- It succeeds. -/
  result : outcome.result = .ok ()
  /-- The page has one pin less, and has to be written back if so asked. -/
  frame : outcome.pool.frame number =
    { pool.frame number with
      occupant := some
        { occupant with pins := occupant.pins - 1, dirty := occupant.dirty || dirty } }
  /-- The other frames are as they were. -/
  others : ∀ other, other ≠ number → outcome.pool.frame other = pool.frame other
  /-- So is the rest of the pool. -/
  rest : outcome.pool = { pool with frames := outcome.pool.frames }
  /-- The files are as they were. -/
  storage : outcome.storage = storage

/-- What a pool does with a handle to a page that is in use. -/
structure Pool.Honours (pool : Pool) (storage : Storage) (handle : Handle) (occupant : Occupant) :
    Prop where
  /-- The page is in the frame of the handle. -/
  occupied : (pool.frame handle.frame).occupant = some occupant
  /-- It is the page of the handle. -/
  key : occupant.key = handle.key
  /-- It bears the number of the handle. -/
  number : occupant.page.number = handle.key.page
  /-- It is in use. -/
  pinned : 0 < occupant.pins
  /-- It is listed in the frame of the handle. -/
  resident : pool.find? handle.key = some handle.frame
  /-- It can be seen. -/
  page : pool.page handle = .ok occupant.page
  /-- Its bytes can be replaced. -/
  write : ∀ data, pool.write storage handle data = .done () (pool.setData handle data) storage []
  /-- A pin of it can be given back. -/
  release : ∀ dirty, (pool.release storage handle dirty).GivesBack pool storage handle.frame
    occupant dirty

/-- What a pool does with a stale handle: it fails and changes nothing. -/
structure Pool.Refuses (pool : Pool) (storage : Storage) (handle : Handle) : Prop where
  /-- The page cannot be seen. -/
  page : pool.page handle = .error (.staleHandle handle.frame handle.key.page)
  /-- Its bytes cannot be replaced. -/
  write : ∀ data, pool.write storage handle data =
    .failed (.staleHandle handle.frame handle.key.page) pool storage []
  /-- No pin can be given back. -/
  release : ∀ dirty, pool.release storage handle dirty =
    .failed (.staleHandle handle.frame handle.key.page) pool storage []

namespace Pool

variable {pool : Pool} {storage : Storage} {handle : Handle}

theorem accepts_iff : pool.accepts handle = true ↔
    0 < (pool.frame handle.frame).pins ∧
      (pool.frame handle.frame).generation = handle.generation := by
  simp [accepts]

theorem page_of_not_accepts (refused : pool.accepts handle = false) :
    pool.page handle = .error (.staleHandle handle.frame handle.key.page) := by
  simp only [page, refused]
  split
  · rfl
  · rfl

theorem refuses_iff : pool.Refuses storage handle ↔ pool.accepts handle = false := by
  constructor
  · intro refuses
    have seen := isOk_page_iff pool handle
    rw [refuses.page] at seen
    exact seen.symm
  · intro refused
    have unseen := page_of_not_accepts refused
    refine ⟨unseen, fun data => ?_, fun dirty => ?_⟩
    · simp only [write, unseen]
    · simp [release, refused]

theorem givesBack_releasePage {number : Nat} {occupant : Occupant} {key : PageKey}
    (occupied : (pool.frame number).occupant = some occupant) (pinned : 0 < occupant.pins)
    (resident : pool.find? key = some number) (dirty : Bool) :
    (pool.releasePage storage key dirty).GivesBack pool storage number occupant dirty := by
  have used : (pool.frame number).pins ≠ 0 := by
    simp only [Frame.pins, occupied, Option.elim_some]
    exact pinned.ne'
  simp only [releasePage, resident, if_neg used]
  refine ⟨rfl, ?_, ?_, rfl, rfl⟩
  · refine (frame_updateFrame ..).trans ((if_pos rfl).trans ?_)
    simp [Frame.update, occupied, Occupant.released]
  · intro other different
    exact (frame_updateFrame ..).trans (if_neg different.symm)

/-- In a sound pool an accepted handle that names the stay of its frame is honoured. -/
theorem Sound.honours (sound : pool.Sound storage) (names : handle.Names pool)
    (accepted : pool.accepts handle = true) : ∃ occupant, pool.Honours storage handle occupant := by
  obtain ⟨occupant, occupied, key⟩ := Frame.exists_of_key? names.2
  have pinned : 0 < occupant.pins := by
    simpa [Frame.pins, occupied] using (accepts_iff.mp accepted).1
  have resident : pool.find? handle.key = some handle.frame := (sound.directory _ _).mpr names.2
  have seen : pool.page handle = .ok occupant.page := by
    simp only [page, occupied, accepted, if_true]
  refine ⟨occupant,
    { occupied, key, pinned, resident
      number := key ▸ sound.numbered _ occupant occupied
      page := seen
      write := fun data => by simp only [write, seen]
      release := fun dirty => ?_ }⟩
  simp only [release, accepted, if_true]
  exact givesBack_releasePage occupied pinned resident dirty

/-- A fetch of the page of a handle that names the stay of its frame gives the handle again. -/
theorem Sound.fetch_of_names (sound : pool.Sound storage) (names : handle.Names pool) :
    (pool.fetch storage handle.key).result = .ok handle ∧
      (pool.fetch storage handle.key).pool.accepts handle = true := by
  obtain ⟨occupant, occupied, -⟩ := Frame.exists_of_key? names.2
  have resident : pool.find? handle.key = some handle.frame := (sound.directory _ _).mpr names.2
  have pinned : (pool.updateFrame handle.frame Occupant.pinned).frame handle.frame =
      (pool.frame handle.frame).update Occupant.pinned :=
    (frame_updateFrame ..).trans (if_pos rfl)
  have hit : pool.fetch storage handle.key = pool.hit storage handle.key handle.frame := by
    simp only [fetch, resident]
  rw [hit]
  constructor
  · simp only [Pool.hit, Outcome.done, pinned, Frame.generation_update, names.1]
  · refine accepts_iff.mpr ⟨?_, ?_⟩
    · have used := congrArg Frame.pins pinned
      refine Nat.lt_of_lt_of_eq ?_ used.symm
      simp [Frame.pins, Frame.update, occupied, Occupant.pinned]
    · exact (congrArg Frame.generation pinned).trans names.1

end Pool

/-- The storage with one file in memory, which has `count` seeded pages. -/
def Storage.withSeeded (count : Nat) : Storage :=
  (Storage.empty.add (.memory (.seeded "mem" count))).2

namespace Course

variable {config : Config} {new pool : Pool} {base storage : Storage} {issued : List Handle}
  {handle : Handle}

/-- A handle that a pool gave reaches its own page or is refused. -/
theorem honours_or_refuses (made : Pool.ofConfig config = .ok new)
    (course : Course (new, base) issued (pool, storage)) (given : handle ∈ issued) :
    (∃ occupant, pool.Honours storage handle occupant) ∨ pool.Refuses storage handle := by
  have sound : pool.Sound storage := course.sound (Pool.sound_ofConfig made base)
  cases accepted : pool.accepts handle with
  | false => exact .inr (Pool.refuses_iff.mpr accepted)
  | true =>
      have dated : handle.Dated pool := course.dated (Pool.sound_ofConfig made base) handle given
      exact .inl (sound.honours (dated.names accepted) accepted)

/-- One frame in which the second page of a file takes the place of the first. -/
theorem honours_or_refuses_after_reuse :
    let first : PageKey := ⟨⟨1⟩, 0⟩
    let used := (Pool.empty ⟨1, true⟩).carryOut (.withSeeded 2)
      [.fetch first, .releasePage first true, .fetch ⟨⟨1⟩, 1⟩]
    Pool.ofConfig ⟨1, true⟩ = .ok (.empty ⟨1, true⟩) ∧ ⟨0, 2, first⟩ ∈ used.1 ∧
      ((∃ occupant, used.2.1.Honours used.2.2 ⟨0, 2, first⟩ occupant) ∨
        used.2.1.Refuses used.2.2 ⟨0, 2, first⟩) := by
  have made : Pool.ofConfig ⟨1, true⟩ = .ok (.empty ⟨1, true⟩) := rfl
  have given : (⟨0, 2, ⟨⟨1⟩, 0⟩⟩ : Handle) ∈ ((Pool.empty ⟨1, true⟩).carryOut (.withSeeded 2)
      [.fetch ⟨⟨1⟩, 0⟩, .releasePage ⟨⟨1⟩, 0⟩ true, .fetch ⟨⟨1⟩, 1⟩]).1 := by decide
  exact ⟨made, given, honours_or_refuses made (Course.start.carryOut _) given⟩

/-- A handle is refused for good exactly when its page has left the frame. Until then a fetch of the
page gives an equal handle, so that one refused for want of pins reaches the page again. -/
theorem refuses_forever_iff (made : Pool.ofConfig config = .ok new)
    (course : Course (new, base) issued (pool, storage)) (given : handle ∈ issued) :
    ((∀ further later storageLater, Course (pool, storage) further (later, storageLater) →
        later.Refuses storageLater handle) ↔
      handle.generation < (pool.frame handle.frame).generation) ∧
    (¬ handle.generation < (pool.frame handle.frame).generation →
      let again := pool.fetch storage handle.key
      again.result = .ok handle ∧
        ∃ occupant, again.pool.Honours again.storage handle occupant) := by
  have sound : pool.Sound storage := course.sound (Pool.sound_ofConfig made base)
  have dated : handle.Dated pool := course.dated (Pool.sound_ofConfig made base) handle given
  have revived : ¬ handle.generation < (pool.frame handle.frame).generation →
      let again := pool.fetch storage handle.key
      again.result = .ok handle ∧ ∃ occupant, again.pool.Honours again.storage handle occupant := by
    intro present
    obtain ⟨result, accepted⟩ := sound.fetch_of_names (dated.resolve_left present)
    have served : (pool.act storage (.fetch handle.key)).result = .ok (some handle) := by
      simp only [Pool.act, Outcome.map, result]
      rfl
    exact ⟨result, (sound.act (.fetch handle.key)).honours (sound.names_act served) accepted⟩
  refine ⟨⟨fun always => ?_, fun past further later storageLater onward => ?_⟩, revived⟩
  · by_contra present
    obtain ⟨-, occupant, honours⟩ := revived present
    have refusedAgain := always _ _ _ (.act .start (.fetch handle.key))
    cases honours.page.symm.trans refusedAgain.page
  · have grown := (onward.continues sound handle.frame).le
    refine Pool.refuses_iff.mpr (Bool.eq_false_iff.mpr fun accepted => ?_)
    exact absurd (Pool.accepts_iff.mp accepted).2 (past.trans_le grown).ne'

/-- The last pin of a page is given back past its handle, and the page stays in its frame. -/
theorem refuses_forever_iff_after_last_pin :
    let key : PageKey := ⟨⟨1⟩, 0⟩
    let used := (Pool.empty ⟨1, true⟩).carryOut (.withSeeded 1)
      [.fetch key, .releasePage key false]
    let again := used.2.1.fetch used.2.2 key
    Pool.ofConfig ⟨1, true⟩ = .ok (.empty ⟨1, true⟩) ∧ ⟨0, 2, key⟩ ∈ used.1 ∧
      used.2.1.Refuses used.2.2 ⟨0, 2, key⟩ ∧ again.result = .ok ⟨0, 2, key⟩ ∧
      ∃ occupant, again.pool.Honours again.storage ⟨0, 2, key⟩ occupant := by
  have made : Pool.ofConfig ⟨1, true⟩ = .ok (.empty ⟨1, true⟩) := rfl
  have given : (⟨0, 2, ⟨⟨1⟩, 0⟩⟩ : Handle) ∈ ((Pool.empty ⟨1, true⟩).carryOut (.withSeeded 1)
      [.fetch ⟨⟨1⟩, 0⟩, .releasePage ⟨⟨1⟩, 0⟩ false]).1 := by decide
  have course := (@Course.start (.empty ⟨1, true⟩, .withSeeded 1)).carryOut
    [.fetch ⟨⟨1⟩, 0⟩, .releasePage ⟨⟨1⟩, 0⟩ false]
  have condition := refuses_forever_iff made course given
  exact ⟨made, given, Pool.refuses_iff.mpr (by decide), condition.2 (by decide)⟩

/-- A handle can be used again after it was refused. -/
theorem not_refuses_forever :
    ¬ ∀ (config : Config) (new pool later : Pool) (base storage storageLater : Storage)
        (issued further : List Handle) (handle : Handle),
      Pool.ofConfig config = .ok new → Course (new, base) issued (pool, storage) →
      handle ∈ issued → pool.Refuses storage handle →
      Course (pool, storage) further (later, storageLater) →
      later.Refuses storageLater handle := by
  intro claim
  have refused := claim ⟨1, true⟩ _ _ _ (.withSeeded 1) _ _ _ _
    ⟨0, 2, ⟨⟨1⟩, 0⟩⟩ rfl
    (Course.start.carryOut [.fetch ⟨⟨1⟩, 0⟩, .releasePage ⟨⟨1⟩, 0⟩ false]) (by decide)
    (Pool.refuses_iff.mpr (by decide)) (Course.start.carryOut [.fetch ⟨⟨1⟩, 0⟩])
  exact absurd (Pool.refuses_iff.mp refused) (by decide)

end Course

end PageCache
