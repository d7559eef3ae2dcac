import PageCache.Proofs.Pool.Ledger
import PageCache.Proofs.Pool.Occupancy

/-!
# The limit of a count of pins

The pins of a page are kept in 32 bits, and a fetch of a resident page adds one without a look at
how many there are. Main statements: no action exceeds the limit but the fetch of a page that has as
many pins as fit; the next pin fits exactly if fewer pins than the limit are outstanding since the
page was put into its frame, so that no history with fewer actions than the limit exceeds it; but a
page that is fetched over and over without a release does.
-/

namespace PageCache

/-- The largest count of pins that fits into 32 bits. -/
def pinLimit : Nat := 4294967295

/-- Every count of pins in the pool fits into 32 bits. -/
def Pool.Fits (pool : Pool) : Prop := ∀ number, (pool.frame number).pins ≤ pinLimit

/-- The frame with its count of pins as 32 bits keep it. -/
def Frame.wrapped (frame : Frame) : Frame :=
  frame.update fun occupant => { occupant with pins := occupant.pins % (pinLimit + 1) }

/-- The pool with its counts of pins as 32 bits keep them. -/
def Pool.wrapped (pool : Pool) : Pool := { pool with frames := pool.frames.map Frame.wrapped }

namespace Pool

variable {pool : Pool} {storage : Storage} {key : PageKey} {number : Nat}

/-- A fetch of a resident page adds one pin to it and changes no other count. -/
theorem Sound.pins_fetch (sound : pool.Sound storage) (resident : pool.find? key = some number)
    (other : Nat) :
    ((pool.act storage (.fetch key)).pool.frame other).pins =
      (pool.frame other).pins + if number = other then 1 else 0 := by
  obtain ⟨occupant, occupied, -⟩ := sound.occupied_of_find? resident
  have fetched : (pool.act storage (.fetch key)).pool.frame other =
      (pool.updateFrame number Occupant.pinned).frame other := by
    simp only [Pool.act, Outcome.map, fetch, resident]
    rfl
  rw [fetched, frame_updateFrame]
  split
  · next same =>
    rw [← same]
    simp [Frame.pins, occupied, Occupant.pinned]
  · rfl

/-! ## Counts that fit -/

theorem fits_empty (config : Config) : (empty config).Fits := by
  intro number
  rw [frame_empty]
  exact Nat.zero_le _

theorem Fits.setFrame (fits : pool.Fits) (number : Nat) {frame : Frame}
    (small : frame.pins ≤ pinLimit) : (pool.setFrame number frame).Fits := by
  intro other
  by_cases same : number = other
  · subst same
    by_cases inside : number < pool.size
    · rw [frame_setFrame inside, if_pos rfl]
      exact small
    · rw [frame_of_size_le ((size_setFrame ..).trans_le (Nat.le_of_not_lt inside))]
      exact Nat.zero_le _
  · rw [frame_setFrame_of_ne pool same]
    exact fits other

/-- A change of a page that gives it no pin. -/
theorem Fits.updateFrame (fits : pool.Fits) (number : Nat) {change : Occupant → Occupant}
    (less : ∀ occupant, (change occupant).pins ≤ occupant.pins) :
    (pool.updateFrame number change).Fits := by
  refine fits.setFrame number (le_trans ?_ (fits number))
  cases occupied : (pool.frame number).occupant with
  | none => simp [Frame.pins, Frame.update, occupied]
  | some occupant => simpa [Frame.pins, Frame.update, occupied] using less occupant

theorem Fits.remove (fits : pool.Fits) (number : Nat) (key : PageKey) :
    (pool.remove number key).Fits :=
  fits.setFrame number (Nat.zero_le _)

theorem Fits.install (fits : pool.Fits) (number : Nat) (file : FileIdentity) (page : Page) :
    (pool.install number file page).2.Fits :=
  fits.setFrame number (Nat.succ_le_succ (Nat.zero_le _))

theorem find?_fetch_of_resident (resident : pool.find? key = some number) (storage : Storage) :
    (pool.act storage (.fetch key)).pool.find? key = some number := by
  simp only [act, Outcome.map, fetch, resident]
  exact resident

end Pool

/-- No upkeep gives a page a pin. -/
theorem Upkeep.fits {before after : World} (step : Upkeep before after) (fits : before.1.Fits) :
    after.1.Fits := by
  cases step with
  | tally | refuse => exact fits
  | unmark | clean => exact fits.updateFrame _ fun _ => le_rfl
  | vacate => exact fits.remove _ _
  | renew => exact fits.setFrame _ (Nat.zero_le _)

theorem Upkeeps.fits {before after : World} (upkeeps : Upkeeps before after)
    (fits : before.1.Fits) : after.1.Fits := by
  induction upkeeps with
  | refl => exact fits
  | tail _ step induction => exact step.fits induction

/-- Only a page that is fetched while it is resident gets a pin more. -/
theorem Effect.fits {action : Action} {before after : World}
    {result : Except PoolError (Option Handle)} (effect : Effect action before result after)
    (fits : before.1.Fits) (absent : ∀ key, action = .fetch key → before.1.find? key = none) :
    after.1.Fits := by
  induction effect with
  | hit resident => cases resident.symm.trans (absent _ rfl)
  | load | create => exact fits.install _ _ _
  | unpin => exact fits.updateFrame _ fun _ => Nat.sub_le _ _
  | handBack _ _ induction => exact induction fits nofun
  | put => exact fits.updateFrame _ fun _ => le_rfl
  | @erase pool storage key | @drop pool storage key =>
      simp only [Pool.forget]
      split
      · exact fits
      · exact fits.remove _ _
  | _ => exact fits

/-- No action exceeds the limit but the fetch of a page that has as many pins as fit. -/
theorem Pool.Sound.fits_act {pool : Pool} {storage : Storage} (sound : pool.Sound storage)
    (fits : pool.Fits) {action : Action}
    (room : ∀ key number, action = .fetch key → pool.find? key = some number →
      (pool.frame number).pins < pinLimit) : (pool.act storage action).pool.Fits := by
  have onward (absent : ∀ key, action = .fetch key → pool.find? key = none) :
      (pool.act storage action).pool.Fits := by
    obtain ⟨middle, upkeeps, effect⟩ := effect_act sound.face sound.positive storage action
    exact effect.fits (Upkeeps.fits upkeeps fits) fun key fetches =>
      find?_of_upkeeps upkeeps (absent key fetches)
  cases action with
  | fetch key =>
      cases resident : pool.find? key with
      | none =>
          refine onward fun other fetches => ?_
          cases fetches
          exact resident
      | some number =>
          intro other
          rw [sound.pins_fetch resident]
          split
          · next same => exact same ▸ room key number rfl resident
          · exact fits other
  | _ => exact onward nofun

/-! ## Counts as 32 bits keep them -/

namespace Pool

variable {pool : Pool} {storage : Storage}

theorem frame_wrapped (pool : Pool) (number : Nat) :
    pool.wrapped.frame number = (pool.frame number).wrapped := by
  simp only [frame, wrapped, Array.getElem?_map]
  cases pool.frames[number]? <;> rfl

theorem fits_wrapped (pool : Pool) : pool.wrapped.Fits := by
  intro number
  rw [frame_wrapped]
  cases occupied : (pool.frame number).occupant with
  | none => simp [Frame.pins, Frame.wrapped, Frame.update, occupied]
  | some occupant =>
      simp only [Frame.pins, Frame.wrapped, Frame.update, occupied, Option.map_some,
        Option.elim_some]
      exact Nat.le_of_lt_succ (Nat.mod_lt _ (Nat.succ_pos _))

/-- A pool is sound or not whatever the counts of its pins. -/
theorem Sound.wrapped (sound : pool.Sound storage) : pool.wrapped.Sound storage where
  face := sound.face.trans (Array.size_map ..).symm
  positive := sound.positive.trans_eq (Array.size_map ..).symm
  directory := by
    intro key number
    have same : (pool.frame number).wrapped.key? = (pool.frame number).key? :=
      Frame.key?_update _ fun _ => rfl
    rw [frame_wrapped, same]
    exact sound.directory key number
  numbered := by
    intro number occupant occupied
    rw [frame_wrapped, Frame.wrapped, Frame.occupant_update, Option.map_eq_some_iff] at occupied
    obtain ⟨former, held, rfl⟩ := occupied
    exact sound.numbered number former held
  given := sound.given

end Pool

namespace History

variable {config : Config} {new pool : Pool} {base storage : Storage} {past : List Moment}
  {key : PageKey} {number : Nat}

/-- A resident page can be fetched any number of times, and each time it has one pin more. -/
theorem exists_fetched (sound : pool.Sound storage) (resident : pool.find? key = some number)
    (count : Nat) :
    ∃ further later below, History (pool, storage) further (later, below) ∧
      later.find? key = some number ∧
      (∀ other, (later.frame other).pins =
        (pool.frame other).pins + if number = other then count else 0) ∧
      ∀ moment ∈ further, ∀ other, (moment.pool.frame other).pins ≤ (later.frame other).pins := by
  induction count with
  | zero => exact ⟨[], pool, storage, .start, resident, by simp, by simp⟩
  | succ count induction =>
      obtain ⟨further, later, below, history, listed, pins, before⟩ := induction
      have reached : later.Sound below := history.sound sound
      have raised := reached.pins_fetch listed
      refine ⟨_, _, _, history.act (.fetch key), Pool.find?_fetch_of_resident listed below, ?_, ?_⟩
      · intro other
        rw [raised, pins]
        split <;> omega
      · refine List.forall_mem_cons.mpr ⟨fun other => ?_, fun moment member other => ?_⟩
        · rw [raised]
          exact Nat.le_add_right _ _
        · rw [raised]
          exact (before moment member other).trans (Nat.le_add_right _ _)

/-- The next pin of a resident page fits exactly if fewer handles than the limit were given, beyond
the pins given back, since the page was put into its frame. That is so in every history with fewer
actions than the limit. -/
theorem next_pin_fits_iff (made : Pool.ofConfig config = .ok new)
    (history : History (new, base) past (pool, storage)) (resident : pool.find? key = some number) :
    (∃ recent install earlier, past = recent ++ install :: earlier ∧
      install.installs key = true ∧ (∀ moment ∈ recent, moment.installs key = false) ∧
      ((pool.frame number).pins + 1 ≤ pinLimit ↔
        (install :: recent).countP (Moment.gives key) <
          pinLimit + recent.countP (Moment.givesBack key))) ∧
    (past.length < pinLimit → (pool.frame number).pins + 1 ≤ pinLimit) := by
  have sound : pool.Sound storage := history.sound (Pool.sound_ofConfig made base)
  have balances := history.balances made (ne_of_eq_of_ne resident (Option.some_ne_none number))
  rw [sound.pinsOn_of_find? resident] at balances
  obtain ⟨recent, install, earlier, parts, installs, alone, balance⟩ := balances
  constructor
  · refine ⟨recent, install, earlier, parts, installs, alone, ?_⟩
    omega
  · intro short
    have given : (install :: recent).countP (Moment.gives key) ≤ (install :: recent).length :=
      List.countP_le_length
    rw [parts, List.length_append, List.length_cons] at short
    rw [List.length_cons] at given
    omega

/-- Two of three pins of a page are outstanding, which is far below the limit. -/
theorem next_pin_fits_iff_after_release :
    ∃ (past : List Moment) (world : World),
      (past, world) = (Pool.empty ⟨1, true⟩).recount (.withSeeded 1) []
        [.fetch ⟨⟨1⟩, 0⟩, .fetch ⟨⟨1⟩, 0⟩, .releasePage ⟨⟨1⟩, 0⟩ false, .fetch ⟨⟨1⟩, 0⟩] ∧
      world.1.find? ⟨⟨1⟩, 0⟩ = some 0 ∧ (world.1.frame 0).pins = 2 ∧
      (world.1.frame 0).pins + 1 ≤ pinLimit := by
  have made : Pool.ofConfig ⟨1, true⟩ = .ok (.empty ⟨1, true⟩) := rfl
  generalize reached : (Pool.empty ⟨1, true⟩).recount (.withSeeded 1) []
    [.fetch ⟨⟨1⟩, 0⟩, .fetch ⟨⟨1⟩, 0⟩, .releasePage ⟨⟨1⟩, 0⟩ false, .fetch ⟨⟨1⟩, 0⟩] = used
  have history : History (.empty ⟨1, true⟩, .withSeeded 1) used.1 used.2 :=
    reached ▸ History.start.recount _
  have resident : used.2.1.find? ⟨⟨1⟩, 0⟩ = some 0 := by
    subst reached
    decide +kernel
  have few : used.1.length < pinLimit := by
    subst reached
    decide +kernel
  have pins : (used.2.1.frame 0).pins = 2 := by
    subst reached
    decide +kernel
  exact ⟨used.1, used.2, rfl, resident, pins,
    (next_pin_fits_iff made history resident).2 few⟩

/-- A page that is fetched often enough has as many pins as fit into 32 bits, and a fetch of it
finds it resident and adds one more. -/
theorem not_next_pin_always_fits :
    ¬ ∀ (config : Config) (new pool : Pool) (base storage : Storage) (past : List Moment)
        (key : PageKey) (number : Nat),
      Pool.ofConfig config = .ok new → History (new, base) past (pool, storage) →
      Moment.Throughout past pool Pool.Fits → pool.find? key = some number →
      (pool.frame number).pins + 1 ≤ pinLimit := by
  intro claim
  have made : Pool.ofConfig ⟨1, true⟩ = .ok (.empty ⟨1, true⟩) := rfl
  generalize reached : (Pool.empty ⟨1, true⟩).act (.withSeeded 1) (.fetch ⟨⟨1⟩, 0⟩) = first
  have history : History (.empty ⟨1, true⟩, .withSeeded 1)
      [⟨.empty ⟨1, true⟩, .withSeeded 1, .fetch ⟨⟨1⟩, 0⟩⟩] (first.pool, first.storage) :=
    reached ▸ History.start.act (.fetch ⟨⟨1⟩, 0⟩)
  have sound : first.pool.Sound first.storage := history.sound (Pool.sound_ofConfig made _)
  have resident : first.pool.find? ⟨⟨1⟩, 0⟩ = some 0 := by
    subst reached
    decide +kernel
  have pinned : (first.pool.frame 0).pins = 1 := by
    subst reached
    decide +kernel
  have size : first.pool.size = 1 := by
    subst reached
    decide +kernel
  obtain ⟨further, later, below, onward, listed, pins, before⟩ :=
    exists_fetched sound resident (pinLimit - 1)
  have full : (later.frame 0).pins = pinLimit := by
    rw [pins, if_pos rfl, pinned]
    rfl
  have fits : later.Fits := by
    intro number
    cases number with
    | zero => exact full.le
    | succ number =>
        have free : first.pool.frame (number + 1) = .fresh :=
          Pool.frame_of_size_le (size.trans_le (Nat.succ_le_succ number.zero_le))
        rw [pins, if_neg (Nat.succ_ne_zero number).symm, free]
        exact Nat.zero_le _
  have throughout : Moment.Throughout
      (further ++ [⟨.empty ⟨1, true⟩, .withSeeded 1, .fetch ⟨⟨1⟩, 0⟩⟩]) later Pool.Fits := by
    refine ⟨fits, fun moment member number => ?_⟩
    rcases List.mem_append.mp member with again | once
    · exact (before moment again number).trans (fits number)
    · rw [List.mem_singleton.mp once, Pool.frame_empty]
      exact Nat.zero_le _
  have exceeded := claim _ _ _ _ _ _ ⟨⟨1⟩, 0⟩ 0 made (history.trans onward) throughout listed
  rw [full] at exceeded
  exact Nat.not_succ_le_self _ exceeded

end History

end PageCache
