import PageCache.Proofs.Pool.Action
import PageCache.Proofs.Storage.Numbering

/-!
# Soundness of a pool

A pool is sound over a storage if its clock shows its frames, its directory and its frames tell the
same, each page in a frame bears the number under which it is listed, and no resident page has a
number that its file has yet to give out. A new pool is sound. Main statement: every action keeps a
sound pool sound, whether or not it succeeds, and so does everything that happens to the files
elsewhere.
-/

namespace PageCache

/-- The tables of a pool agree with each other and with the files below them. -/
structure Pool.Sound (pool : Pool) (storage : Storage) : Prop where
  /-- The clock goes round exactly the frames. -/
  face : pool.clock.frames = pool.size
  /-- There is a frame. -/
  positive : 0 < pool.size
  /-- The directory lists a page in a frame exactly when the frame holds it. -/
  directory : ∀ key number, pool.find? key = some number ↔ (pool.frame number).key? = some key
  /-- A page bears the number under which it is listed. -/
  numbered : ∀ number occupant, (pool.frame number).occupant = some occupant →
    occupant.page.number = occupant.key.page
  /-- A resident page has a number that its file has given out. -/
  given : ∀ key number, pool.find? key = some number → key.page < storage.next key.file

theorem Frame.key?_of_occupied {frame : Frame} {occupant : Occupant}
    (occupied : frame.occupant = some occupant) : frame.key? = some occupant.key := by
  simp [key?, occupied]

theorem Frame.exists_of_key? {frame : Frame} {key : PageKey} (held : frame.key? = some key) :
    ∃ occupant, frame.occupant = some occupant ∧ occupant.key = key := by
  simpa [key?] using held

namespace Pool

theorem frame_clearFrame_of_ne (pool : Pool) {number other : Nat} (different : number ≠ other) :
    (pool.clearFrame number).frame other = pool.frame other :=
  pool.frame_setFrame_of_ne different _

theorem occupant_clearFrame_self (pool : Pool) (number : Nat) :
    ((pool.clearFrame number).frame number).occupant = none := by
  by_cases inside : number < pool.size
  · rw [clearFrame, frame_setFrame inside, if_pos rfl]
    rfl
  · rw [frame_of_size_le]
    · rfl
    · rw [clearFrame, size_setFrame]
      exact Nat.le_of_not_lt inside

theorem occupant_clearFrame (pool : Pool) (number other : Nat) :
    ((pool.clearFrame number).frame other).occupant =
      if number = other then none else (pool.frame other).occupant := by
  split
  · next equal => exact equal ▸ pool.occupant_clearFrame_self number
  · next different => rw [frame_clearFrame_of_ne pool different]

/-- A frame is one of those of the pool if it holds a page. -/
theorem lt_size_of_occupied {pool : Pool} {number : Nat} {occupant : Occupant}
    (occupied : (pool.frame number).occupant = some occupant) : number < pool.size := by
  refine Nat.lt_of_not_le fun past => ?_
  rw [frame_of_size_le past] at occupied
  cases occupied

namespace Sound

variable {pool : Pool} {storage : Storage}

theorem find?_of_occupied (sound : pool.Sound storage) {number : Nat} {occupant : Occupant}
    (occupied : (pool.frame number).occupant = some occupant) :
    pool.find? occupant.key = some number :=
  (sound.directory _ _).mpr (Frame.key?_of_occupied occupied)

theorem occupied_of_find? (sound : pool.Sound storage) {key : PageKey} {number : Nat}
    (resident : pool.find? key = some number) :
    ∃ occupant, (pool.frame number).occupant = some occupant ∧ occupant.key = key :=
  Frame.exists_of_key? ((sound.directory _ _).mp resident)

/-- No page is in two frames. -/
theorem number_unique (sound : pool.Sound storage) {first second : Nat} {key : PageKey}
    (left : (pool.frame first).key? = some key) (right : (pool.frame second).key? = some key) :
    first = second :=
  Option.some.inj
    (((sound.directory _ _).mpr left).symm.trans ((sound.directory _ _).mpr right))

/-- No page has the number of the next new page of its file. -/
theorem find?_next (sound : pool.Sound storage) (file : FileIdentity) :
    pool.find? ⟨file, storage.next file⟩ = none := by
  cases resident : pool.find? ⟨file, storage.next file⟩ with
  | none => rfl
  | some number => exact absurd (sound.given _ _ resident) (Nat.lt_irrefl _)

theorem later (sound : pool.Sound storage) {after : Storage} (precedes : storage.Precedes after) :
    pool.Sound after :=
  { sound with
    given := fun key number resident =>
      (sound.given key number resident).trans_le (precedes key.file) }

theorem tally (sound : pool.Sound storage) {clock : Clock} (stats : Stats)
    (face : clock.frames = pool.clock.frames) :
    ({ pool with clock, stats } : Pool).Sound storage :=
  { sound with face := face.trans sound.face }

/-- A change of an occupant that keeps its identity and its number keeps the pool sound. -/
theorem updateFrame (sound : pool.Sound storage) (number : Nat) {change : Occupant → Occupant}
    (key : ∀ occupant, (change occupant).key = occupant.key)
    (page : ∀ occupant, (change occupant).page.number = occupant.page.number) :
    (pool.updateFrame number change).Sound storage where
  face := sound.face.trans (size_updateFrame ..).symm
  positive := (size_updateFrame pool number change).symm ▸ sound.positive
  directory := by
    intro asked other
    have same : ((pool.updateFrame number change).frame other).key? = (pool.frame other).key? := by
      rw [frame_updateFrame]
      split
      · next equal => rw [Frame.key?_update _ key, equal]
      · rfl
    rw [same]
    exact sound.directory asked other
  numbered := by
    intro other occupant occupied
    rw [frame_updateFrame] at occupied
    split at occupied
    · rw [Frame.occupant_update, Option.map_eq_some_iff] at occupied
      obtain ⟨former, held, rfl⟩ := occupied
      rw [key, page]
      exact sound.numbered number former held
    · exact sound.numbered other occupant occupied
  given := sound.given

theorem clearFrame (sound : pool.Sound storage) {number : Nat}
    (free : (pool.frame number).occupant = none) : (pool.clearFrame number).Sound storage := by
  have same : ∀ other, ((pool.clearFrame number).frame other).occupant =
      (pool.frame other).occupant := by
    intro other
    rw [occupant_clearFrame]
    split
    · next equal => rw [← equal, free]
    · rfl
  refine
    { face := sound.face.trans (size_setFrame ..).symm
      positive := (size_setFrame pool number _).symm ▸ sound.positive
      directory := ?_
      numbered := fun other occupant occupied =>
        sound.numbered other occupant (same other ▸ occupied)
      given := sound.given }
  intro key other
  rw [Frame.key?, same]
  exact sound.directory key other

/-- A page that leaves its frame together with its entry leaves a sound pool behind. -/
theorem remove (sound : pool.Sound storage) {number : Nat} {occupant : Occupant}
    (occupied : (pool.frame number).occupant = some occupant) :
    (pool.remove number occupant.key).Sound storage where
  face := sound.face.trans (size_remove ..).symm
  positive := (size_remove pool number occupant.key).symm ▸ sound.positive
  directory := by
    intro key other
    have frame : ((pool.remove number occupant.key).frame other).key? =
        if number = other then none else (pool.frame other).key? := by
      rw [Frame.key?, show (pool.remove number occupant.key).frame other =
        (pool.clearFrame number).frame other from rfl, occupant_clearFrame]
      split
      · rfl
      · rfl
    rw [find?_remove, frame]
    by_cases same : number = other
    · subst same
      rw [if_pos rfl]
      split
      · simp
      · next different =>
        have elsewhere : pool.find? key ≠ some number := by
          intro resident
          obtain ⟨holder, held, rfl⟩ := sound.occupied_of_find? resident
          exact different (congrArg Occupant.key (Option.some.inj (occupied.symm.trans held)))
        simp [elsewhere]
    · rw [if_neg same]
      split
      · next equal =>
        have elsewhere : (pool.frame other).key? ≠ some key := by
          intro held
          exact same (sound.number_unique (Frame.key?_of_occupied occupied) (equal ▸ held))
        simp [elsewhere]
      · exact sound.directory key other
  numbered := by
    intro other holder held
    rw [show (pool.remove number occupant.key).frame other = (pool.clearFrame number).frame other
      from rfl, occupant_clearFrame] at held
    split at held
    · cases held
    · exact sound.numbered other holder held
  given := by
    intro key other resident
    rw [find?_remove] at resident
    split at resident
    · cases resident
    · exact sound.given key other resident

/-- A page that is not resident and has been given out can be put into a free frame. -/
theorem install (sound : pool.Sound storage) {number : Nat} {file : FileIdentity} {page : Page}
    (inside : number < pool.size) (free : (pool.frame number).occupant = none)
    (absent : pool.find? ⟨file, page.number⟩ = none) (known : page.number < storage.next file) :
    (pool.install number file page).2.Sound storage where
  face := sound.face.trans (size_install ..).symm
  positive := (size_install pool number file page).symm ▸ sound.positive
  directory := by
    intro key other
    rw [find?_install, frame_install inside]
    by_cases same : number = other
    · subst same
      rw [if_pos rfl, Frame.key?_hold]
      split
      · next equal => simp [equal]
      · next different =>
        have elsewhere : pool.find? key ≠ some number := by
          intro resident
          obtain ⟨holder, held, -⟩ := sound.occupied_of_find? resident
          rw [free] at held
          cases held
        simp [elsewhere, different]
    · rw [if_neg same]
      split
      · next equal =>
        have elsewhere : (pool.frame other).key? ≠ some key := by
          intro held
          have resident := (sound.directory key other).mpr held
          rw [← equal, absent] at resident
          cases resident
        simp [elsewhere, same]
      · exact sound.directory key other
  numbered := by
    intro other holder held
    rw [frame_install inside] at held
    split at held
    · obtain rfl := Option.some.inj held
      rfl
    · exact sound.numbered other holder held
  given := by
    intro key other resident
    rw [find?_install] at resident
    split at resident
    · next equal => exact equal ▸ known
    · exact sound.given key other resident

theorem forget (sound : pool.Sound storage) (key : PageKey) :
    (pool.forget key).1.Sound storage := by
  simp only [Pool.forget]
  split
  · exact sound
  · next number resident =>
    obtain ⟨occupant, occupied, rfl⟩ := sound.occupied_of_find? resident
    exact sound.remove occupied

end Sound

/-- A new pool is sound over any storage. -/
theorem sound_empty {config : Config} (positive : 0 < config.frames) (storage : Storage) :
    (empty config).Sound storage where
  face := (size_empty config).symm
  positive := (size_empty config).symm ▸ positive
  directory := by simp [Frame.key?]
  numbered := by simp
  given := by simp

theorem eq_empty_of_made {config : Config} {pool : Pool} (made : ofConfig config = .ok pool) :
    pool = empty config := by
  simp only [ofConfig] at made
  split at made
  · cases made
  · exact (Except.ok.inj made).symm

theorem sound_ofConfig {config : Config} {pool : Pool} (made : ofConfig config = .ok pool)
    (storage : Storage) : pool.Sound storage := by
  simp only [ofConfig] at made
  split at made
  · cases made
  · next none =>
    obtain rfl := Except.ok.inj made
    exact sound_empty ((Config.problem?_eq_none_iff config).mp none) storage

end Pool

/-! ## What keeps a pool sound -/

/-- Upkeep leaves the numbers of new pages as they are. -/
theorem Upkeep.next_eq {before after : World} (step : Upkeep before after) (file : FileIdentity) :
    after.2.next file = before.2.next file := by
  cases step with
  | clean => exact Storage.next_write ..
  | refuse => exact Storage.next_write ..
  | _ => rfl

theorem Upkeep.sound {before after : World} (step : Upkeep before after)
    (sound : before.1.Sound before.2) : after.1.Sound after.2 := by
  have kept := sound.later (Storage.precedes_of_eq step.next_eq)
  cases step with
  | tally clock stats face => exact kept.tally stats face
  | unmark number => exact kept.updateFrame number (fun _ => rfl) fun _ => rfl
  | clean => exact kept.updateFrame _ (fun _ => rfl) fun _ => rfl
  | refuse => exact kept
  | vacate occupied => exact kept.remove occupied
  | renew free => exact kept.clearFrame free

theorem Upkeeps.sound {before after : World} (upkeeps : Upkeeps before after)
    (sound : before.1.Sound before.2) : after.1.Sound after.2 := by
  induction upkeeps with
  | refl => exact sound
  | tail _ step induction => exact step.sound induction

/-- No effect makes a file give out a number again. -/
theorem Effect.precedes {action : Action} {before after : World}
    {result : Except PoolError (Option Handle)} (effect : Effect action before result after) :
    before.2.Precedes after.2 := by
  induction effect with
  | load | unread => exact Storage.precedes_of_eq (Storage.next_read _ _ _)
  | create | uncreated => exact Storage.precedes_allocate _ _
  | erase | drop => exact Storage.precedes_of_eq (Storage.next_delete _ _ _)
  | handBack _ _ induction => exact induction
  | _ => exact .refl _

theorem Effect.sound {action : Action} {before after : World}
    {result : Except PoolError (Option Handle)} (effect : Effect action before result after)
    (sound : before.1.Sound before.2) : after.1.Sound after.2 := by
  have kept := sound.later effect.precedes
  induction effect with
  | hit resident => exact kept.updateFrame _ (fun _ => rfl) fun _ => rfl
  | @load pool storage key number page inside free absent given =>
      obtain ⟨number, known⟩ := Storage.number_of_read given
      refine kept.install inside free ?_ ?_
      · rw [number]
        exact absent
      · rw [number, Storage.next_read]
        exact known
  | @create pool storage file number page inside free given =>
      obtain ⟨rfl, grown⟩ := Storage.next_allocate_of_ok given file
      refine kept.install inside free (sound.find?_next file) ?_
      rw [grown, if_pos rfl]
      exact Nat.lt_succ_self _
  | unpin => exact kept.updateFrame _ (fun _ => rfl) fun _ => rfl
  | handBack _ _ induction => exact induction sound kept
  | put => exact kept.updateFrame _ (fun _ => rfl) fun _ => rfl
  | erase => exact kept.forget _
  | drop => exact kept.forget _
  | _ => exact kept

theorem Upkeeps.next_eq {before after : World} (upkeeps : Upkeeps before after)
    (file : FileIdentity) : after.2.next file = before.2.next file := by
  induction upkeeps with
  | refl => rfl
  | tail _ step induction => exact (step.next_eq file).trans induction

/-- No action makes a file give out a number again. -/
theorem Pool.Sound.precedes_act {pool : Pool} {storage : Storage} (sound : pool.Sound storage)
    (action : Action) : storage.Precedes (pool.act storage action).storage := by
  obtain ⟨middle, upkeeps, effect⟩ := effect_act sound.face sound.positive storage action
  exact (Storage.precedes_of_eq (Upkeeps.next_eq upkeeps)).trans effect.precedes

/-- Every action keeps a sound pool sound, whether or not it succeeds. -/
theorem Pool.Sound.act {pool : Pool} {storage : Storage} (sound : pool.Sound storage)
    (action : Action) : (pool.act storage action).pool.Sound (pool.act storage action).storage := by
  obtain ⟨middle, upkeeps, effect⟩ := effect_act sound.face sound.positive storage action
  exact effect.sound (Upkeeps.sound upkeeps sound)

end PageCache
