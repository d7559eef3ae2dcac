import PageCache.Proofs.Pool.Exhaustion
import PageCache.Proofs.Word.Sweep

/-!
# The pool that a machine keeps

A machine keeps a pool if its tables tell the same as the frames, the directory and the clock of
the pool, with the pins as 32 bits show them. Main statement: as long as the pins fit and the files
have numbers of 32 bits, a machine that is asked to act does not stop, gives what the pool gives,
leaves the storage behind that the pool leaves behind, and keeps the pool that comes of it. Only a
machine that looks after itself stops, at the fetch of a page that has as many pins as fit.
-/

namespace PageCache

/-- A machine keeps a pool. -/
structure WordPool.Keeps (words : WordPool) (pool : Pool) : Prop where
  /-- The settings are the same. -/
  config : words.config = pool.config
  /-- There are as many descriptors as frames. -/
  size : words.size = pool.size
  /-- There are as many pages. -/
  pages : words.pages.size = pool.size
  /-- A descriptor tells what is to be told of its frame. -/
  descriptor : ∀ number, words.descriptor number = .ofFrame (pool.frame number)
  /-- A page that is not left over is the one in the frame. -/
  contents : ∀ number occupant, (pool.frame number).occupant = some occupant →
    words.pages[number]? = some occupant.page
  /-- The same pages are listed. -/
  directory : words.directory = pool.directory
  /-- The clocks are the same. -/
  clock : words.clock.value = pool.clock
  /-- The counters are the same. -/
  stats : words.stats = pool.stats
  /-- The file of a resident page has a number of 32 bits. -/
  named : ∀ number occupant, (pool.frame number).occupant = some occupant →
    occupant.key.file.number ≤ fileLimit

/-- A sound pool with its hand on a frame and with pins that fit. -/
structure Pool.Trim (pool : Pool) (storage : Storage) : Prop where
  /-- The pool is sound. -/
  sound : pool.Sound storage
  /-- The hand is on a frame. -/
  hand : pool.clock.hand < pool.clock.frames
  /-- The pins fit. -/
  fits : pool.Fits

theorem Pool.trim_empty {config : Config} (positive : 0 < config.frames) (storage : Storage) :
    (empty config).Trim storage :=
  ⟨sound_empty positive storage, Clock.hand_start_lt positive, fits_empty config⟩

theorem Pool.Trim.count {pool : Pool} {storage : Storage} (trim : pool.Trim storage)
    (change : Stats → Stats) : (pool.count change).Trim storage :=
  ⟨trim.sound.tally _ rfl, trim.hand, trim.fits⟩

/-- A machine keeps a new pool, if the frames are numbered by words. -/
theorem WordPool.exists_keeps_of_made {config : Config} (word : config.frames ≤ wordLimit)
    {words : WordPool} (made : ofConfig config = .ok words) (storage : Storage) :
    ∃ pool, Pool.ofConfig config = .ok pool ∧ words.Keeps pool ∧ pool.Trim storage := by
  have frames : (UInt64.ofNat config.frames).toNat = config.frames :=
    UInt64.toNat_ofNat_of_lt' (Nat.lt_succ_of_le word)
  simp only [ofConfig] at made
  split at made
  · cases made
  · next sane =>
    have positive := (Config.problem?_eq_none_iff config).mp sane
    obtain rfl := Except.ok.inj made
    refine ⟨.empty config, by simp only [Pool.ofConfig, sane], ?_,
      Pool.trim_empty positive storage⟩
    refine
      { config := rfl
        size := Array.size_replicate.trans (Pool.size_empty config).symm
        pages := Array.size_replicate.trans (Pool.size_empty config).symm
        descriptor := fun number => ?_
        contents := by simp
        directory := rfl
        clock := (WordClock.value_start _).trans (congrArg Clock.start frames)
        stats := rfl
        named := by simp }
    simp only [descriptor, Array.getElem?_replicate, Pool.frame_empty]
    split <;> rfl

/-- A frame holds the same page as before, whatever is noted of it. -/
def Frame.Holds (before after : Frame) : Prop :=
  ∀ occupant, after.occupant = some occupant → ∃ former, before.occupant = some former ∧
    occupant.page = former.page ∧ occupant.key = former.key

namespace Frame

theorem Holds.refl (frame : Frame) : frame.Holds frame :=
  fun occupant occupied => ⟨occupant, occupied, rfl, rfl⟩

theorem holds_update (frame : Frame) {change : Occupant → Occupant}
    (page : ∀ occupant, (change occupant).page = occupant.page)
    (key : ∀ occupant, (change occupant).key = occupant.key) :
    frame.Holds (frame.update change) := by
  intro occupant occupied
  rw [occupant_update, Option.map_eq_some_iff] at occupied
  obtain ⟨former, occupied, rfl⟩ := occupied
  exact ⟨former, occupied, page former, key former⟩

end Frame

/-- A machine does not stop and does what a pool does. -/
def Mirrors {Value : Type} (words? : Option (WordOutcome Value)) (plain : Outcome Value) : Prop :=
  ∃ words, words? = some words ∧ words.result = plain.result ∧ words.storage = plain.storage ∧
    words.pool.Keeps plain.pool

namespace Mirrors

variable {Value Next : Type} {words : WordPool} {pool : Pool} {storage : Storage}
  {events : List Event}

/-- What a machine came to is what the pool came to. -/
theorem of_eq_some {words? : Option (WordOutcome Value)} {plain : Outcome Value}
    (mirrors : Mirrors words? plain) {outcome : WordOutcome Value} (given : words? = some outcome) :
    outcome.result = plain.result ∧ outcome.storage = plain.storage ∧
      outcome.pool.Keeps plain.pool := by
  obtain ⟨_, same, rest⟩ := mirrors
  obtain rfl := Option.some.inj (same.symm.trans given)
  exact rest

theorem done (keeps : words.Keeps pool) (value : Value) :
    Mirrors (some (.done value words storage)) (.done value pool storage events) :=
  ⟨_, rfl, rfl, rfl, keeps⟩

theorem failed (keeps : words.Keeps pool) (cause : PoolError) :
    Mirrors (some (.failed cause words storage) : Option (WordOutcome Value))
      (.failed cause pool storage events) :=
  ⟨_, rfl, rfl, rfl, keeps⟩

theorem map {words? : Option (WordOutcome Value)} {plain : Outcome Value}
    (mirrors : Mirrors words? plain) (change : Value → Next) :
    Mirrors (words?.map (·.map change)) (plain.map change) := by
  obtain ⟨words, rfl, result, storage, keeps⟩ := mirrors
  exact ⟨_, rfl, congrArg (Except.map change) result, storage, keeps⟩

theorem andThen {first? : Option (WordOutcome Value)} {first : Outcome Value}
    {second? : Value → WordPool → Storage → Option (WordOutcome Next)}
    {second : Value → Pool → Storage → Outcome Next} (early : Mirrors first? first)
    (late : ∀ value words, first.result = .ok value → words.Keeps first.pool →
      Mirrors (second? value words first.storage) (second value first.pool first.storage)) :
    Mirrors (WordOutcome.andThen? first? second?) (first.andThen second) := by
  obtain ⟨words, rfl, result, storage, keeps⟩ := early
  simp only [WordOutcome.andThen?, Option.bind_eq_bind, Option.bind_some, result, storage]
  cases given : first.result with
  | error cause =>
      rw [Outcome.andThen_of_error given]
      exact .failed keeps cause
  | ok value =>
      rw [Outcome.andThen_of_ok given]
      exact late value words.pool given keeps

/-- What is told of an operation that is done makes no difference. -/
theorem report {words? : Option (WordOutcome Unit)} {plain : Outcome Unit}
    (mirrors : Mirrors words? plain) (events : List Event) :
    Mirrors words? (plain.andThen fun _ pool storage => .done () pool storage events) := by
  obtain ⟨words, rfl, result, storage, keeps⟩ := mirrors
  cases given : plain.result with
  | error cause =>
      rw [Outcome.andThen_of_error given]
      exact ⟨words, rfl, result.trans given, storage, keeps⟩
  | ok value =>
      rw [Outcome.andThen_of_ok given]
      exact ⟨words, rfl, result.trans given, storage, keeps⟩

/-- Nor does what is told of an operation before it. -/
theorem regardless {words? : Option (WordOutcome Unit)} {first : Outcome Unit}
    {second : Pool → Storage → Outcome Unit}
    (mirrors : Mirrors words? (second first.pool first.storage))
    (report : PoolError → Event) : Mirrors words? (first.regardless report second) := by
  obtain ⟨words, rfl, result, storage, keeps⟩ := mirrors
  refine ⟨words, rfl, ?_⟩
  unfold Outcome.regardless
  split
  · exact ⟨result, storage, keeps⟩
  · exact ⟨result, storage, keeps⟩

end Mirrors

namespace WordPool.Keeps

variable {words : WordPool} {pool : Pool} {storage : Storage} {number : Nat} {key : PageKey}
  {occupant : Occupant}

theorem getElem?_descriptors (keeps : words.Keeps pool) (inside : number < pool.size) :
    words.descriptors[number]? = some (.ofFrame (pool.frame number)) := by
  rw [WordPool.getElem?_descriptors (keeps.size ▸ inside), keeps.descriptor]

theorem find?_eq (keeps : words.Keeps pool) (named : key.file.number ≤ fileLimit) :
    words.find? key = pool.find? key := by
  rw [find?, key.word_eq named, keeps.directory, Pool.find?]

theorem count (keeps : words.Keeps pool) (change : Stats → Stats) :
    (words.count change).Keeps (pool.count change) :=
  { keeps with stats := congrArg change keeps.stats }

/-- The pages are those in the frames of any pool whose frames hold the same pages. -/
theorem held (keeps : words.Keeps pool) {frame : Frame} (holds : (pool.frame number).Holds frame)
    (occupied : frame.occupant = some occupant) :
    words.pages[number]? = some occupant.page ∧ occupant.key.file.number ≤ fileLimit := by
  obtain ⟨former, before, page, key⟩ := holds occupant occupied
  rw [page, key]
  exact ⟨keeps.contents number former before, keeps.named number former before⟩

/-- A frame and its page are replaced. -/
theorem setFrame (keeps : words.Keeps pool) (inside : number < pool.size) (frame : Frame)
    (pages : Array Page) (size : pages.size = pool.size)
    (held : ∀ occupant, frame.occupant = some occupant →
      pages[number]? = some occupant.page ∧ occupant.key.file.number ≤ fileLimit)
    (others : ∀ other, number ≠ other → pages[other]? = words.pages[other]?) :
    Keeps { words.setDescriptor number (.ofFrame frame) with pages }
      (pool.setFrame number frame) where
  config := keeps.config
  size := (size_setDescriptor ..).trans (keeps.size.trans (Pool.size_setFrame ..).symm)
  pages := size.trans (Pool.size_setFrame ..).symm
  descriptor := by
    intro other
    have changed : (words.setDescriptor number (.ofFrame frame)).descriptor other =
        if number = other then .ofFrame frame else words.descriptor other :=
      descriptor_setDescriptor (keeps.size ▸ inside) _ other
    rw [Pool.frame_setFrame inside]
    refine changed.trans ?_
    split
    · rfl
    · exact keeps.descriptor other
  contents := by
    intro other occupant occupied
    rw [Pool.frame_setFrame inside] at occupied
    split at occupied
    · next same => exact same ▸ (held occupant occupied).1
    · next different =>
      exact (others other different).trans (keeps.contents other occupant occupied)
  directory := keeps.directory
  clock := keeps.clock
  stats := keeps.stats
  named := by
    intro other occupant occupied
    rw [Pool.frame_setFrame inside] at occupied
    split at occupied
    · exact (held occupant occupied).2
    · exact keeps.named other occupant occupied

/-- The marks of a page change. -/
theorem updateFrame (keeps : words.Keeps pool)
    (occupied : (pool.frame number).occupant = some occupant) (change : Occupant → Occupant)
    (key : (change occupant).key = occupant.key)
    (page : (change occupant).page = occupant.page) :
    (words.setDescriptor number (.ofFrame ((pool.frame number).update change))).Keeps
      (pool.updateFrame number change) := by
  refine keeps.setFrame (Pool.lt_size_of_occupied occupied) _ _ keeps.pages ?_ fun _ _ => rfl
  intro changed holds
  rw [Frame.occupant_update, occupied] at holds
  obtain rfl := Option.some.inj holds
  rw [key, page]
  exact ⟨keeps.contents number occupant occupied, keeps.named number occupant occupied⟩

/-- A frame is made free. -/
theorem clearFrame (keeps : words.Keeps pool) (inside : number < pool.size) :
    (words.setDescriptor number (words.descriptor number).clear).Keeps
      (pool.clearFrame number) := by
  rw [keeps.descriptor, ← Descriptor.ofFrame_clear]
  exact keeps.setFrame inside _ _ keeps.pages nofun fun _ _ => rfl

/-- A page leaves its frame together with its entry. -/
theorem vacate (keeps : words.Keeps pool) (inside : number < pool.size)
    (named : key.file.number ≤ fileLimit) :
    (words.vacate number key).Keeps (pool.remove number key) := by
  have cleared := keeps.clearFrame inside
  refine { cleared with directory := ?_ }
  change words.directory.erase key.word = pool.directory.erase key
  rw [key.word_eq named, keeps.directory]

/-! ## Writing back and making room -/

theorem writeBack (keeps : words.Keeps pool) (inside : number < pool.size) (storage : Storage) :
    Mirrors (words.writeBack? storage number) (pool.writeBack storage number) := by
  have within : number < words.size := keeps.size ▸ inside
  have told := keeps.descriptor number
  simp only [Pool.writeBack]
  cases occupied : (pool.frame number).occupant with
  | none =>
      rw [Descriptor.ofFrame_of_free occupied] at told
      rw [writeBack?_of_clean within (congrArg Descriptor.dirty told)]
      exact .done keeps ()
  | some occupant =>
      have held := keeps.contents number occupant occupied
      have full := Descriptor.ofFrame_of_occupied occupied
      rw [full] at told
      have owned := congrArg Descriptor.owner told
      have dirty := congrArg Descriptor.dirty told
      dsimp only at owned dirty ⊢
      split
      · next soiled =>
        rw [soiled] at dirty
        cases taken : (storage.write occupant.key.file occupant.page).1 with
        | error cause =>
            rw [writeBack?_of_refused within dirty owned held taken]
            exact .failed keeps _
        | ok value =>
            rw [writeBack?_of_taken within dirty owned held taken, keeps.descriptor,
              ← Descriptor.ofFrame_cleaned occupied]
            exact .done ((keeps.updateFrame occupied _ rfl rfl).count _) ()
      · next clean =>
        rw [Bool.eq_false_iff.mpr clean] at dirty
        rw [writeBack?_of_clean within dirty]
        exact .done keeps ()

/-- A page gives way once it is written back. -/
theorem evict (keeps : words.Keeps pool) (occupied : (pool.frame number).occupant = some occupant)
    (storage : Storage) :
    Mirrors (words.evict? storage number)
      ((pool.writeBack storage number).andThen fun _ pool storage =>
        pool.evict storage number) := by
  have inside := Pool.lt_size_of_occupied occupied
  refine (keeps.writeBack inside storage).andThen fun _ words done keeps => ?_
  have cleaned := Pool.occupant_of_writeBack occupied done
  have still := Pool.lt_size_of_occupied cleaned
  simp only [keeps.getElem?_descriptors still, Descriptor.ofFrame_of_occupied cleaned,
    Option.bind_eq_bind, Option.bind_some, Option.pure_def, Pool.evict,
    Frame.key?_of_occupied cleaned]
  exact .done ((keeps.vacate still (keeps.named number _ cleaned)).count _) number

/-- A descriptor tells what is to be told of a frame with pins that fit. -/
def Tells (descriptor : Descriptor) (frame : Frame) : Prop :=
  descriptor = .ofFrame frame ∧ frame.pins ≤ pinLimit

theorem depicts_tells : Depicts Tells where
  verdict := by
    rintro _ frame ⟨rfl, fits⟩
    exact Descriptor.verdict_ofFrame fits
  unmarked := by
    rintro _ frame ⟨rfl, fits⟩
    exact ⟨(Descriptor.ofFrame_unmarked frame).symm, (Frame.pins_unmarked frame).trans_le fits⟩

/-- A sweep comes to the same finding. -/
theorem sweep (keeps : words.Keeps pool) (trim : pool.Trim storage) :
    ∃ visits ≤ 2 * words.size, ∃ after : WordPool, after.Keeps pool.sweep.2 ∧
      ∀ storage outcome, after.settle? storage pool.sweep.1 = some outcome →
        Ends storage words 0 visits outcome := by
  let first : Sweep := ⟨pool.clock, pool.frames, 0⟩
  have ready : first.Ready := ⟨trim.sound.face, trim.hand.trans_eq trim.sound.face, rfl⟩
  have scans : Scans Tells words 0 first :=
    ⟨keeps.clock, trim.sound.face, trim.hand, keeps.size, rfl,
      fun number _ => ⟨keeps.descriptor number, trim.fits number⟩⟩
  obtain ⟨-, last, finding, -, -, ended⟩ := Sweep.exists_step_of_run ready
  obtain ⟨visits, within, after, counted, reached, swept, -, ends⟩ :=
    scans.exists_ends depicts_tells ended
  have holds (number : Nat) : (pool.frame number).Holds (last.step.2.frame number) := by
    have left := Sweep.frame_run ready (2 * first.frames.size) number
    rw [ended] at left
    rcases left with same | unmarked
    · exact same ▸ .refl _
    · exact unmarked ▸ Frame.holds_update _ (fun _ => rfl) fun _ => rfl
  have size : last.step.2.frames.size = pool.size := by
    have left := Sweep.size_frames_run (2 * first.frames.size) first
    rwa [ended] at left
  rw [Pool.sweep_of_run ended]
  refine ⟨visits, within.trans_eq (congrArg _ keeps.size.symm), after, ?_, ends⟩
  refine
    { config := swept.config.trans keeps.config
      size := reached.size
      pages := (congrArg Array.size swept.pages).trans (keeps.pages.trans size.symm)
      descriptor := fun number => ?_
      contents := fun number occupant occupied => ?_
      directory := swept.directory.trans keeps.directory
      clock := reached.clock
      stats := swept.stats.trans keeps.stats
      named := fun number occupant occupied => ?_ }
  · by_cases inside : number < after.size
    · exact (reached.frames number inside).1
    · have past := Nat.le_of_not_lt inside
      rw [descriptor_of_size_le past, Pool.frame_of_size_le]
      · rfl
      · exact reached.size.symm.trans_le past
  · rw [swept.pages]
    exact (keeps.held (holds number) occupied).1
  · exact (keeps.held (holds number) occupied).2

/-- A frame is found for a new page and made free. -/
theorem claim (keeps : words.Keeps pool) (trim : pool.Trim storage) (storage : Storage) :
    Mirrors (words.claim? storage) (pool.claim storage) := by
  obtain ⟨visits, within, after, kept, ends⟩ := keeps.sweep trim
  have holds := Pool.holds_sweep trim.sound.face trim.sound.positive
  have settled : Mirrors (after.settle? storage pool.sweep.1) (pool.claim storage) := by
    cases found : pool.sweep.1 with
    | free number =>
        rw [found] at holds
        have looked := WordPool.getElem?_descriptors (kept.size ▸ holds.1 : number < after.size)
        simp only [settle?, looked, Option.bind_eq_bind, Option.bind_some, Option.pure_def,
          Pool.claim, found]
        exact .done (kept.clearFrame holds.1) number
    | victim number =>
        rw [found] at holds
        obtain ⟨occupant, occupied, -⟩ := holds
        rw [Pool.claim_of_victim found]
        exact kept.evict occupied storage
    | exhausted =>
        rw [Pool.claim_of_exhausted found, settle?, kept.size, Pool.size_sweep]
        exact .failed kept _
  obtain ⟨outcome, given, same⟩ := settled
  exact ⟨outcome, (ends storage outcome given).sweep? within, same⟩

/-! ## Pinning and releasing pages -/

/-- A page that is not listed is put into a frame. -/
theorem install (keeps : words.Keeps pool) (inside : number < pool.size) {file : FileIdentity}
    (named : file.number ≤ fileLimit) {page : Page}
    (absent : pool.find? ⟨file, page.number⟩ = none) (build : Build) :
    ∃ after, words.install? build number file page =
        some ((pool.install number file page).1, after) ∧
      after.Keeps (pool.install number file page).2 := by
  have within := inside.trans_eq keeps.pages.symm
  have held : words.pages[number]? = some words.pages[number] := Array.getElem?_eq_getElem within
  have word : PageKey.word ⟨file, page.number⟩ = ⟨file, page.number⟩ := PageKey.word_eq named
  have unlisted : words.find? ⟨file, page.number⟩ = none := (keeps.find?_eq named).trans absent
  have set := Descriptor.ofFrame_hold (pool.frame number) file page
  have placed := keeps.setFrame inside ((pool.frame number).hold file page)
    (words.pages.setIfInBounds number page)
    (Array.size_setIfInBounds.trans keeps.pages)
    (by
      intro occupant holds
      obtain rfl := Option.some.inj holds
      refine ⟨?_, named⟩
      rw [Array.getElem?_setIfInBounds, if_pos rfl, if_pos within])
    (by
      intro other different
      rw [Array.getElem?_setIfInBounds, if_neg different])
  simp only [install?, held, keeps.getElem?_descriptors inside, unlisted, Option.isSome_none,
    Bool.false_eq_true, and_false, if_false, Option.bind_eq_bind, Option.bind_some,
    Option.pure_def, word, ← set, Descriptor.generation_ofFrame]
  refine ⟨_, rfl, { placed with directory := ?_ }⟩
  change words.directory.insert _ number = pool.directory.insert _ number
  rw [keeps.directory]

/-- A resident page is pinned once more, unless the machine stops at the sum. -/
theorem hit (keeps : words.Keeps pool) (occupied : (pool.frame number).occupant = some occupant)
    (named : key.file.number ≤ fileLimit) {build : Build}
    (room : build = .guarded → (words.descriptor number).pins ≠ fullPins) (storage : Storage) :
    Mirrors (words.hit? build storage key number) (pool.hit storage key number) := by
  have inside := Pool.lt_size_of_occupied occupied
  have pinned := keeps.updateFrame occupied Occupant.pinned rfl rfl
  rw [Descriptor.ofFrame_pinned occupied] at pinned
  have same : ((pool.updateFrame number Occupant.pinned).frame number).generation =
      (Descriptor.ofFrame (pool.frame number)).generation := by
    rw [Pool.frame_updateFrame, if_pos rfl, Frame.generation_update, Descriptor.generation_ofFrame]
  have rest : ¬ (build = .guarded ∧ (Descriptor.ofFrame (pool.frame number)).pins = fullPins) := by
    rintro ⟨guarded, full⟩
    exact room guarded (keeps.descriptor number ▸ full)
  simp only [hit?, Pool.hit, keeps.getElem?_descriptors inside, if_neg rest, same,
    Option.bind_eq_bind, Option.bind_some, Option.pure_def, key.word_eq named]
  exact .done (pinned.count _) _

theorem load (keeps : words.Keeps pool) (trim : pool.Trim storage)
    (named : key.file.number ≤ fileLimit) (absent : pool.find? key = none) (build : Build) :
    Mirrors (words.load? build storage key) (pool.load storage key) := by
  have upkeeps := Pool.upkeeps_claim storage trim.sound.face trim.sound.positive
  refine (keeps.claim trim storage).andThen fun number words claimed keeps => ?_
  obtain ⟨inside, -⟩ := Pool.free_of_claim trim.sound.face trim.sound.positive claimed
  dsimp only
  cases given : ((pool.claim storage).storage.read key.file key.page).1 with
  | error cause => exact .failed keeps _
  | ok page =>
      have own : (⟨key.file, page.number⟩ : PageKey) = key := by
        rw [(Storage.number_of_read given).1]
      have unlisted := own ▸ Pool.find?_of_upkeeps upkeeps absent
      obtain ⟨after, installed, kept⟩ := keeps.install inside named unlisted build
      simp only [installed, Option.bind_eq_bind, Option.bind_some, Option.pure_def]
      exact .done kept _

theorem fetch (keeps : words.Keeps pool) (trim : pool.Trim storage)
    (named : key.file.number ≤ fileLimit) {build : Build}
    (room : build = .guarded → ¬ words.Full (.fetch key)) :
    Mirrors (words.fetch? build storage key) (pool.fetch storage key) := by
  simp only [fetch?, Pool.fetch, keeps.find?_eq named]
  cases resident : pool.find? key with
  | some number =>
      obtain ⟨occupant, occupied, -⟩ := trim.sound.occupied_of_find? resident
      refine keeps.hit occupied named (fun guarded full => room guarded ?_) storage
      exact ⟨key, number, rfl, (keeps.find?_eq named).trans resident, full⟩
  | none => exact (keeps.count _).load (trim.count _) named resident build

theorem allocate (keeps : words.Keeps pool) (trim : pool.Trim storage) {file : FileIdentity}
    (named : file.number ≤ fileLimit) (build : Build) :
    Mirrors (words.allocate? build storage file) (pool.allocate storage file) := by
  have upkeeps := Pool.upkeeps_claim storage trim.sound.face trim.sound.positive
  refine (keeps.claim trim storage).andThen fun number words claimed keeps => ?_
  obtain ⟨inside, -⟩ := Pool.free_of_claim trim.sound.face trim.sound.positive claimed
  dsimp only
  cases given : ((pool.claim storage).storage.allocate file).1 with
  | error cause => exact .failed keeps _
  | ok page =>
      have reached : (pool.claim storage).pool.Sound (pool.claim storage).storage :=
        Upkeeps.sound upkeeps trim.sound
      have unlisted : (pool.claim storage).pool.find? ⟨file, page.number⟩ = none := by
        rw [(Storage.next_allocate_of_ok given file).1]
        exact reached.find?_next file
      obtain ⟨after, installed, kept⟩ := keeps.install inside named unlisted build
      simp only [installed, Option.bind_eq_bind, Option.bind_some, Option.pure_def]
      exact .done kept _

/-- Giving back a pin takes none away where there is none. -/
theorem releasePage (keeps : words.Keeps pool) (trim : pool.Trim storage)
    (named : key.file.number ≤ fileLimit) (dirty : Bool) :
    Mirrors (words.releasePage? storage key dirty) (pool.releasePage storage key dirty) := by
  simp only [releasePage?, Pool.releasePage, keeps.find?_eq named, key.word_eq named]
  cases resident : pool.find? key with
  | none => exact .done keeps ()
  | some number =>
      obtain ⟨occupant, occupied, -⟩ := trim.sound.occupied_of_find? resident
      have zero := Descriptor.pins_eq_zero_iff (trim.fits number)
      simp only [keeps.getElem?_descriptors (Pool.lt_size_of_occupied occupied),
        Option.bind_eq_bind, Option.bind_some, Option.pure_def, zero]
      split
      · exact .failed keeps _
      · next pinned =>
        have positive : 0 < occupant.pins := by
          rw [Frame.pins, occupied] at pinned
          exact Nat.pos_of_ne_zero pinned
        have enough : 1 ≤ (Descriptor.ofFrame (pool.frame number)).pins := by
          rw [UInt32.le_iff_toNat_le, Descriptor.toNat_pins (trim.fits number)]
          exact Nat.one_le_iff_ne_zero.mpr pinned
        have released :=
          keeps.updateFrame occupied (fun occupant => occupant.released dirty) rfl rfl
        rw [Descriptor.ofFrame_released occupied positive] at released
        rw [if_pos enough]
        exact .done released ()

/-- The same handles are accepted. -/
theorem accepts_eq (keeps : words.Keeps pool) (fits : pool.Fits) (handle : Handle) :
    words.accepts handle = pool.accepts handle := by
  by_cases inside : handle.frame < pool.size
  · have pinned := Descriptor.pins_pos_iff (fits handle.frame)
    cases occupied : (pool.frame handle.frame).occupant with
    | none =>
        simp [accepts, Pool.accepts, keeps.getElem?_descriptors inside, Frame.pins_of_free occupied,
          Frame.valid, occupied]
    | some occupant =>
        simp [accepts, Pool.accepts, keeps.getElem?_descriptors inside, pinned, Frame.valid,
          occupied]
  · have past := Nat.le_of_not_lt inside
    have missing : words.descriptors[handle.frame]? = none :=
      Array.getElem?_eq_none (keeps.size.trans_le past)
    simp [accepts, Pool.accepts, missing, Pool.frame_of_size_le past, Frame.pins, Frame.fresh]

theorem release (keeps : words.Keeps pool) (trim : pool.Trim storage) {handle : Handle}
    (named : handle.key.file.number ≤ fileLimit) (dirty : Bool) :
    Mirrors (words.release? storage handle dirty) (pool.release storage handle dirty) := by
  simp only [release?, Pool.release, keeps.accepts_eq trim.fits]
  split
  · exact keeps.releasePage trim named dirty
  · exact .failed keeps _

/-! ## Removing pages -/

theorem forget (keeps : words.Keeps pool) (trim : pool.Trim storage)
    (named : key.file.number ≤ fileLimit) :
    ∃ after, words.forget? key = some after ∧ after.Keeps (pool.forget key).1 := by
  simp only [forget?, Pool.forget, keeps.find?_eq named]
  cases resident : pool.find? key with
  | none => exact ⟨words, rfl, keeps⟩
  | some number =>
      obtain ⟨occupant, occupied, -⟩ := trim.sound.occupied_of_find? resident
      have inside := Pool.lt_size_of_occupied occupied
      simp only [keeps.getElem?_descriptors inside, Option.map_some]
      exact ⟨_, rfl, keeps.vacate inside named⟩

theorem dispose (keeps : words.Keeps pool) (trim : pool.Trim storage)
    (named : key.file.number ≤ fileLimit) :
    Mirrors (words.dispose? storage key) (pool.dispose storage key) := by
  obtain ⟨after, forgotten, kept⟩ := keeps.forget trim named
  simp only [dispose?, Pool.dispose, forgotten, Option.bind_eq_bind, Option.bind_some,
    Option.pure_def]
  cases (storage.delete key.file key.page).1 with
  | ok value => exact .done kept ()
  | error cause => exact .failed kept _

theorem flushFrame (keeps : words.Keeps pool) (fits : pool.Fits) (inside : number < pool.size)
    {file : FileIdentity} (named : file.number ≤ fileLimit) (storage : Storage) :
    Mirrors (words.flushFrame? storage file number) (pool.flushFrame storage file number) := by
  simp only [flushFrame?, Pool.flushFrame, keeps.getElem?_descriptors inside, Option.bind_eq_bind,
    Option.bind_some, Option.pure_def]
  cases occupied : (pool.frame number).occupant with
  | none =>
      rw [Descriptor.ofFrame_of_free occupied]
      exact .done keeps ()
  | some occupant =>
      have own := FileIdentity.word_inj (keeps.named number occupant occupied) named
      have zero := Descriptor.pins_eq_zero_iff (fits number)
      rw [Descriptor.ofFrame_of_occupied occupied] at zero ⊢
      simp only [Frame.pins, occupied, Option.elim_some] at zero
      simp only [Option.map_some, ne_eq, Option.some.injEq, own, zero, Bool.not_true,
        Bool.false_eq_true, if_false]
      split
      · exact .done keeps ()
      · next mine =>
        obtain rfl := Decidable.not_not.mp mine
        have word : PageKey.word ⟨occupant.key.file, occupant.key.page⟩ = occupant.key :=
          PageKey.word_eq named
        rw [word]
        split
        · exact .failed keeps _
        · refine (keeps.writeBack inside storage).andThen fun _ words done keeps => ?_
          have cleaned := Pool.occupant_of_writeBack occupied done
          have still := Pool.lt_size_of_occupied cleaned
          simp only [keeps.getElem?_descriptors still, Descriptor.ofFrame_of_occupied cleaned,
            Option.bind_some]
          exact .done (keeps.vacate still named) ()

theorem flushEach {file : FileIdentity} (named : file.number ≤ fileLimit) {numbers : List Nat}
    (keeps : words.Keeps pool) (fits : pool.Fits) (inside : ∀ number ∈ numbers, number < pool.size)
    (storage : Storage) :
    Mirrors (words.flushEach? storage file numbers) (pool.flushEach storage file numbers) := by
  induction numbers generalizing words pool storage with
  | nil => exact .done keeps ()
  | cons number rest induction =>
      have upkeeps := Pool.upkeeps_flushFrame pool storage file number
      refine (keeps.flushFrame fits (inside number List.mem_cons_self) named storage).andThen ?_
      intro _ words _ keeps
      refine induction keeps (Upkeeps.fits upkeeps fits) (fun other later => ?_) _
      rw [Upkeeps.size_eq upkeeps]
      exact inside other (List.mem_cons_of_mem _ later)

theorem flush (keeps : words.Keeps pool) (fits : pool.Fits) {file : FileIdentity}
    (named : file.number ≤ fileLimit) (storage : Storage) :
    Mirrors (words.flush? storage file) (pool.flush storage file) := by
  have inside : ∀ number ∈ List.range pool.size, number < pool.size := fun _ => List.mem_range.mp
  have flushed := keeps.flushEach named fits inside storage
  rw [flush?, keeps.size]
  exact flushed.report _

theorem save (keeps : words.Keeps pool) (inside : number < pool.size) (storage : Storage) :
    Mirrors (words.save? storage number) (pool.writeBack storage number) := by
  simp only [save?, keeps.getElem?_descriptors inside, Descriptor.valid_ofFrame,
    Option.bind_eq_bind, Option.bind_some, Option.pure_def]
  split
  · exact keeps.writeBack inside storage
  · next invalid =>
    have free : (pool.frame number).occupant = none := by
      simpa [Frame.valid] using invalid
    simp only [Pool.writeBack, free]
    exact .done keeps ()

theorem saveEach {numbers : List Nat} (keeps : words.Keeps pool)
    (inside : ∀ number ∈ numbers, number < pool.size) (storage : Storage) :
    Mirrors (words.saveEach? storage numbers) (pool.writeBackEach storage numbers) := by
  induction numbers generalizing words pool storage with
  | nil => exact .done keeps ()
  | cons number rest induction =>
      refine (keeps.save (inside number List.mem_cons_self) storage).andThen ?_
      intro _ words _ keeps
      refine induction keeps (fun other later => ?_) _
      rw [Pool.size_writeBack]
      exact inside other (List.mem_cons_of_mem _ later)

/-- A failure to write a page back does not keep the others from being written back. -/
theorem saveAnyway {numbers : List Nat} (keeps : words.Keeps pool)
    (inside : ∀ number ∈ numbers, number < pool.size) (storage : Storage) :
    Mirrors (words.saveAnyway? storage numbers) (pool.writeBackAnyway storage numbers) := by
  induction numbers generalizing words pool storage with
  | nil => exact .done keeps ()
  | cons number rest induction =>
      obtain ⟨first, saved, -, storages, kept⟩ :=
        keeps.save (inside number List.mem_cons_self) storage
      have still : ∀ other ∈ rest, other < (pool.writeBack storage number).pool.size := by
        intro other later
        rw [Pool.size_writeBack]
        exact inside other (List.mem_cons_of_mem _ later)
      have rest := induction kept still (pool.writeBack storage number).storage
      simp only [saveAnyway?, saved, storages, Option.bind_eq_bind, Option.bind_some]
      exact rest.regardless _

theorem saveAll (keeps : words.Keeps pool) (storage : Storage) :
    Mirrors (words.saveAll? storage) (pool.writeBackAll storage) := by
  rw [saveAll?, Pool.writeBackAll, keeps.size]
  exact keeps.saveEach (fun number => List.mem_range.mp) storage

theorem drop (keeps : words.Keeps pool) (storage : Storage) :
    Mirrors (words.drop? storage) (pool.drop storage) := by
  simp only [drop?, Pool.drop, keeps.config, keeps.size]
  split
  · exact keeps.saveAnyway (fun number => List.mem_range.mp) storage
  · exact .done keeps ()

/-! ## Actions -/

/-- The page of an accepted handle is the one that the pool shows. -/
theorem page?_eq (keeps : words.Keeps pool) (fits : pool.Fits) (handle : Handle) :
    words.page? handle = some (pool.page handle) := by
  simp only [page?, keeps.accepts_eq fits]
  cases accepted : pool.accepts handle with
  | false => rw [Pool.page_of_not_accepts accepted]; rfl
  | true =>
      cases occupied : (pool.frame handle.frame).occupant with
      | none => simp [Pool.accepts, Frame.pins_of_free occupied] at accepted
      | some occupant =>
          simp only [keeps.contents _ occupant occupied, Pool.page, occupied, accepted, if_true,
            Option.map_some]

theorem write (keeps : words.Keeps pool) (fits : pool.Fits) (storage : Storage) (handle : Handle)
    (data : PageData) :
    Mirrors (words.write? storage handle data) (pool.write storage handle data) := by
  simp only [write?, Pool.write, keeps.page?_eq fits, Option.bind_eq_bind, Option.bind_some]
  cases seen : pool.page handle with
  | error cause => exact .failed keeps cause
  | ok page =>
      obtain ⟨occupant, occupied, rfl⟩ : ∃ occupant,
          (pool.frame handle.frame).occupant = some occupant ∧ occupant.page = page := by
        simp only [Pool.page] at seen
        split at seen
        · next occupant occupied =>
          split at seen
          · exact ⟨occupant, occupied, Except.ok.inj seen⟩
          · cases seen
        · cases seen
      have inside := Pool.lt_size_of_occupied occupied
      have within := inside.trans_eq keeps.pages.symm
      have filled := keeps.setFrame inside
        ((pool.frame handle.frame).update fun occupant => occupant.filled data)
        (words.pages.setIfInBounds handle.frame { occupant.page with data })
        (Array.size_setIfInBounds.trans keeps.pages)
        (by
          intro changed holds
          rw [Frame.occupant_update, occupied] at holds
          obtain rfl := Option.some.inj holds
          rw [Array.getElem?_setIfInBounds, if_pos rfl, if_pos within]
          exact ⟨rfl, keeps.named _ occupant occupied⟩)
        (by
          intro other different
          rw [Array.getElem?_setIfInBounds, if_neg different])
      rw [Descriptor.ofFrame_filled, ← keeps.descriptor,
        setDescriptor_self (keeps.size ▸ inside)] at filled
      exact .done filled ()

end WordPool.Keeps

/-- The files that an action asks for have numbers up to a limit, and the file that a handle names
has one of 32 bits. -/
def Action.Within (limit : Nat) : Action → Prop
  | .fetch key | .releasePage key _ | .dispose key => key.file.number ≤ limit
  | .allocate file | .flush file => file.number ≤ limit
  | .release handle _ | .write handle _ => handle.key.file.number ≤ fileLimit
  | .writeBackAll => True

theorem Action.Within.mono {limit other : Nat} {action : Action} (within : action.Within limit)
    (le : limit ≤ other) : action.Within other := by
  cases action with
  | release | write | writeBackAll => exact within
  | _ => exact Nat.le_trans within le

/-- A machine does what the pool does that it keeps, if it is not one that stops at the fetch of a
page that has as many pins as fit. -/
theorem WordPool.Keeps.act {words : WordPool} {pool : Pool} {storage : Storage}
    (keeps : words.Keeps pool) (trim : pool.Trim storage) {action : Action}
    (within : action.Within fileLimit) {build : Build}
    (room : build = .guarded → ¬ words.Full action) :
    Mirrors (words.act? build storage action) (pool.act storage action) := by
  cases action with
  | fetch key => exact (keeps.fetch trim within room).map some
  | allocate file => exact (keeps.allocate trim within build).map some
  | releasePage key dirty => exact (keeps.releasePage trim within dirty).map fun _ => none
  | release handle dirty => exact (keeps.release trim within dirty).map fun _ => none
  | dispose key => exact (keeps.dispose trim within).map fun _ => none
  | flush file => exact (keeps.flush trim.fits within storage).map fun _ => none
  | writeBackAll => exact (keeps.saveAll storage).map fun _ => none
  | write handle data => exact (keeps.write trim.fits storage handle data).map fun _ => none

end PageCache
