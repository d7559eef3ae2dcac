import PageCache.Proofs.Pool.Residence
import PageCache.Proofs.Pool.Tenure

/-!
# The pins of a page

A page that is not resident has no pins. Main statements: every handle that an action gives adds one
pin to its page, every release that succeeds takes one away, and nothing else but its disposal
touches the pins of a page, whether or not it succeeds; and a handle names the stay of its page as
long as the page has pins and is not disposed of.
-/

namespace PageCache

/-- The number of pins on a page. -/
def Pool.pinsOn (pool : Pool) (key : PageKey) : Nat := (pool.held? key).elim 0 (·.pins)

/-- Whether an action with a given result has given a handle to a page. -/
def Action.gives (key : PageKey) : Action → Except PoolError (Option Handle) → Bool
  | .fetch _, .ok (some handle) => handle.key = key
  | .allocate _, .ok (some handle) => handle.key = key
  | _, _ => false

/-- Whether an action with a given result has given back a pin of a page, if the page has one. -/
def Action.givesBack (key : PageKey) : Action → Except PoolError (Option Handle) → Bool
  | .releasePage other _, .ok _ => other = key
  | .release handle _, .ok _ => handle.key = key
  | _, _ => false

theorem Action.givesBack_of_gives {action : Action} {key : PageKey}
    {result : Except PoolError (Option Handle)} (gives : action.gives key result = true) :
    action.givesBack key result = false := by
  cases action with
  | fetch | allocate => rfl
  | _ => cases gives

theorem Action.gives_of_not_handle {action : Action} {result : Except PoolError (Option Handle)}
    (without : ∀ handle, result ≠ .ok (some handle)) (key : PageKey) :
    action.gives key result = false := by
  rcases result with cause | _ | handle
  · cases action <;> rfl
  · cases action <;> rfl
  · exact absurd rfl (without handle)

theorem Effect.gives_eq {action : Action} {before after : World} {handle : Handle}
    (effect : Effect action before (.ok (some handle)) after) (key : PageKey) :
    action.gives key (.ok (some handle)) = decide (handle.key = key) := by
  cases effect with
  | hit | load | create => rfl
  | handBack accepted released => cases released

namespace Pool

variable {pool : Pool} {storage : Storage} {key : PageKey}

theorem pinsOn_of_absent (absent : pool.find? key = none) : pool.pinsOn key = 0 := by
  rw [pinsOn, held?_of_absent absent]
  rfl

namespace Sound

theorem pinsOn_of_occupied (sound : pool.Sound storage) {number : Nat} {occupant : Occupant}
    (occupied : (pool.frame number).occupant = some occupant) :
    pool.pinsOn occupant.key = occupant.pins := by
  rw [pinsOn, sound.held?_of_occupied occupied]
  rfl

theorem pinsOn_of_find? (sound : pool.Sound storage) {number : Nat}
    (resident : pool.find? key = some number) : pool.pinsOn key = (pool.frame number).pins := by
  obtain ⟨occupant, occupied, rfl⟩ := sound.occupied_of_find? resident
  rw [sound.pinsOn_of_occupied occupied, Frame.pins, occupied]
  rfl

/-- Only a page with pins is accepted under a handle that names its stay. -/
theorem accepts_eq_of_names (sound : pool.Sound storage) {handle : Handle}
    (names : handle.Names pool) : pool.accepts handle = decide (0 < pool.pinsOn handle.key) := by
  have resident : pool.find? handle.key = some handle.frame := (sound.directory _ _).mpr names.2
  rw [sound.pinsOn_of_find? resident, accepts, names.1, beq_self_eq_true, Bool.and_true]

/-- A change in place acts on the pins of one page at most. -/
theorem pinsOn_updateFrame (sound : pool.Sound storage) {number : Nat} {occupant : Occupant}
    (occupied : (pool.frame number).occupant = some occupant) (change : Occupant → Occupant)
    (other : PageKey) :
    (pool.updateFrame number change).pinsOn other =
      if occupant.key = other then (change occupant).pins else pool.pinsOn other := by
  rw [pinsOn, sound.held?_updateFrame occupied]
  split <;> rfl

/-- A change in place that keeps the pins of its page keeps those of all pages. -/
theorem pinsOn_updateFrame_of_pins_eq (sound : pool.Sound storage)
    {change : Occupant → Occupant} (same : ∀ occupant, (change occupant).pins = occupant.pins)
    (number : Nat) (other : PageKey) :
    (pool.updateFrame number change).pinsOn other = pool.pinsOn other := by
  cases occupied : (pool.frame number).occupant with
  | none => rw [pinsOn, held?_updateFrame_of_free occupied, pinsOn]
  | some occupant =>
      rw [sound.pinsOn_updateFrame occupied]
      split
      · next own => rw [same, ← own, sound.pinsOn_of_occupied occupied]
      · rfl

theorem pinsOn_install (sound : pool.Sound storage) {number : Nat} (inside : number < pool.size)
    (free : (pool.frame number).occupant = none) {file : FileIdentity} {page : Page}
    (absent : pool.find? ⟨file, page.number⟩ = none) (other : PageKey) :
    (pool.install number file page).2.pinsOn other =
      pool.pinsOn other + if ⟨file, page.number⟩ = other then 1 else 0 := by
  rw [pinsOn, sound.held?_install inside free]
  split
  · next own => rw [← own, pinsOn_of_absent absent, Option.elim_some]
  · rfl

theorem pinsOn_forget (sound : pool.Sound storage) (key other : PageKey) :
    (pool.forget key).1.pinsOn other = if key = other then 0 else pool.pinsOn other := by
  rw [pinsOn, sound.held?_forget]
  split <;> rfl

end Sound

end Pool

/-! ## Upkeep and effects -/

theorem Upkeep.pinsOn_eq {before after : World} (step : Upkeep before after)
    (sound : before.1.Sound before.2) (key : PageKey) :
    after.1.pinsOn key = before.1.pinsOn key := by
  cases step with
  | tally | refuse => rfl
  | unmark | clean => exact sound.pinsOn_updateFrame_of_pins_eq (by intro; rfl) _ key
  | @vacate pool storage number occupant occupied unpinned clean =>
      rw [Pool.pinsOn, sound.held?_remove occupied]
      split
      · next own => rw [← own, sound.pinsOn_of_occupied occupied, unpinned, Option.elim_none]
      · rfl
  | renew free => rw [Pool.pinsOn, Pool.Sound.held?_clearFrame free, Pool.pinsOn]

/-- Upkeep touches no pins. -/
theorem Upkeeps.pinsOn_eq {before after : World} (upkeeps : Upkeeps before after)
    (sound : before.1.Sound before.2) (key : PageKey) :
    after.1.pinsOn key = before.1.pinsOn key := by
  induction upkeeps with
  | refl => rfl
  | tail upkeeps step induction =>
      exact (step.pinsOn_eq (Upkeeps.sound upkeeps sound) key).trans induction

theorem Effect.pinsOn_eq {action : Action} {before after : World}
    {result : Except PoolError (Option Handle)} (effect : Effect action before result after)
    (sound : before.1.Sound before.2) {key : PageKey} (kept : action ≠ .dispose key) :
    after.1.pinsOn key = before.1.pinsOn key + (if action.gives key result then 1 else 0) -
      if action.givesBack key result then 1 else 0 := by
  induction effect with
  | fail action world cause => cases action <;> rfl
  | @hit pool storage asked number resident =>
      obtain ⟨occupant, occupied, rfl⟩ := sound.occupied_of_find? resident
      rw [sound.pinsOn_updateFrame occupied]
      simp only [Action.gives, decide_eq_true_eq]
      split
      · next own =>
        rw [← own, sound.pinsOn_of_occupied occupied]
        rfl
      · rfl
  | @load pool storage asked number page inside free absent given =>
      have own : (⟨asked.file, page.number⟩ : PageKey) = asked := by
        rw [(Storage.number_of_read given).1]
      simp only [Action.gives, decide_eq_true_eq]
      exact sound.pinsOn_install inside free (own ▸ absent) key
  | @create pool storage file number page inside free given =>
      obtain ⟨rfl, -⟩ := Storage.next_allocate_of_ok given file
      simp only [Action.gives, decide_eq_true_eq]
      exact sound.pinsOn_install inside free (sound.find?_next file) key
  | unread | uncreated => rfl
  | @ignore pool storage asked dirty absent =>
      simp only [Action.gives, Action.givesBack, decide_eq_true_eq, Bool.false_eq_true, if_false]
      split
      · next own => rw [← own, Pool.pinsOn_of_absent absent]
      · rfl
  | @unpin pool storage asked number dirty resident pinned =>
      obtain ⟨occupant, occupied, rfl⟩ := sound.occupied_of_find? resident
      rw [sound.pinsOn_updateFrame occupied]
      simp only [Action.givesBack, decide_eq_true_eq]
      split
      · next own =>
        rw [← own, sound.pinsOn_of_occupied occupied]
        rfl
      · rfl
  | @handBack pool storage handle dirty result after accepted released induction =>
      rw [induction sound nofun]
      cases result <;> rfl
  | put => exact sound.pinsOn_updateFrame_of_pins_eq (by intro; rfl) _ key
  | @erase pool storage other deleted =>
      have different : other ≠ key := fun same => kept (congrArg Action.dispose same)
      rw [sound.pinsOn_forget, if_neg different]
      rfl
  | @drop pool storage other cause refused =>
      have different : other ≠ key := fun same => kept (congrArg Action.dispose same)
      rw [sound.pinsOn_forget, if_neg different]
      rfl
  | flush | writeBackAll => rfl

/-- The pins of a page after an action that does not dispose of it, whether or not it succeeds. -/
theorem Pool.Sound.pinsOn_act {pool : Pool} {storage : Storage} (sound : pool.Sound storage)
    {action : Action} {key : PageKey} (kept : action ≠ .dispose key) :
    (pool.act storage action).pool.pinsOn key =
      pool.pinsOn key + (if action.gives key (pool.act storage action).result then 1 else 0) -
        if action.givesBack key (pool.act storage action).result then 1 else 0 := by
  obtain ⟨middle, upkeeps, effect⟩ := effect_act sound.face sound.positive storage action
  have changed := effect.pinsOn_eq (Upkeeps.sound upkeeps sound) kept
  rwa [Upkeeps.pinsOn_eq upkeeps sound] at changed

/-- The release of a resident page succeeds only if the page has a pin. -/
theorem Effect.pinned_of_givesBack {action : Action} {before after : World}
    {result : Except PoolError (Option Handle)} (effect : Effect action before result after)
    (sound : before.1.Sound before.2) {key : PageKey} (resident : before.1.find? key ≠ none)
    (givesBack : action.givesBack key result = true) : 0 < before.1.pinsOn key := by
  induction effect with
  | ignore dirty absent =>
      obtain rfl := of_decide_eq_true givesBack
      exact absurd absent resident
  | unpin dirty found pinned =>
      obtain rfl := of_decide_eq_true givesBack
      rwa [sound.pinsOn_of_find? found]
  | @handBack pool storage handle dirty result after accepted released induction =>
      apply induction sound resident
      cases result with
      | error cause => cases givesBack
      | ok value => exact givesBack
  | fail action => cases action <;> cases givesBack
  | _ => cases givesBack

/-- The pins of a resident page change by the handle given and by the pin given back. -/
theorem Pool.Sound.pinsOn_act_add {pool : Pool} {storage : Storage} (sound : pool.Sound storage)
    {action : Action} {key : PageKey} (kept : action ≠ .dispose key)
    (resident : pool.find? key ≠ none) :
    (pool.act storage action).pool.pinsOn key +
        (if action.givesBack key (pool.act storage action).result then 1 else 0) =
      pool.pinsOn key + if action.gives key (pool.act storage action).result then 1 else 0 := by
  have pinned : action.givesBack key (pool.act storage action).result = true →
      0 < pool.pinsOn key := by
    intro givesBack
    cases action with
    | releasePage other dirty =>
        exact (effect_releasePage pool storage other dirty).pinned_of_givesBack sound resident
          givesBack
    | release handle dirty =>
        exact (effect_release pool storage handle dirty).pinned_of_givesBack sound resident
          givesBack
    | _ => cases givesBack
  rw [sound.pinsOn_act kept]
  cases givesBack : action.givesBack key (pool.act storage action).result with
  | false => rfl
  | true =>
      have positive := pinned givesBack
      simp only [if_true]
      omega

/-- No action gives a page more than one pin. -/
theorem Pool.Sound.pinsOn_act_le {pool : Pool} {storage : Storage} (sound : pool.Sound storage)
    (action : Action) (key : PageKey) :
    (pool.act storage action).pool.pinsOn key ≤ pool.pinsOn key + 1 := by
  by_cases disposed : action = .dispose key
  · subst disposed
    have forgotten : (pool.act storage (.dispose key)).pool = (pool.forget key).1 := by
      simp only [Pool.act, Pool.dispose, Outcome.map]
      split <;> rfl
    rw [forgotten, sound.pinsOn_forget, if_pos rfl]
    exact Nat.zero_le _
  · rw [sound.pinsOn_act disposed]
    refine (Nat.sub_le _ _).trans (Nat.add_le_add_left ?_ _)
    split <;> decide

/-! ## Handles to pages in use -/

namespace Handle.Names

variable {handle : Handle} {pool : Pool} {storage : Storage}

theorem updateFrame (names : handle.Names pool) (number : Nat) {change : Occupant → Occupant}
    (keeps : ∀ occupant, (change occupant).key = occupant.key) :
    handle.Names (pool.updateFrame number change) := by
  rw [Names, Pool.frame_updateFrame]
  split
  · next same =>
    subst same
    rw [Frame.generation_update, Frame.key?_update _ keeps]
    exact names
  · exact names

theorem install (names : handle.Names pool) {number : Nat} (inside : number < pool.size)
    (free : (pool.frame number).occupant = none) (file : FileIdentity) (page : Page) :
    handle.Names (pool.install number file page).2 := by
  have apart : number ≠ handle.frame := by
    rintro rfl
    obtain ⟨occupant, occupied, -⟩ := Frame.exists_of_key? names.2
    cases free.symm.trans occupied
  rw [Names, Pool.frame_install inside, if_neg apart]
  exact names

theorem forget (names : handle.Names pool) (sound : pool.Sound storage) {key : PageKey}
    (different : key ≠ handle.key) : handle.Names (pool.forget key).1 := by
  obtain ⟨occupant, occupied, own⟩ := Frame.exists_of_key? names.2
  rw [Names, sound.frame_forget_of_ne occupied (own ▸ different)]
  exact names

end Handle.Names

theorem Effect.keeps_names {action : Action} {before after : World}
    {result : Except PoolError (Option Handle)} (effect : Effect action before result after)
    (sound : before.1.Sound before.2) {handle : Handle} (names : handle.Names before.1)
    (kept : action ≠ .dispose handle.key) : handle.Names after.1 := by
  induction effect with
  | hit | unpin | put => exact names.updateFrame _ (by intro; rfl)
  | load inside free | create inside free => exact names.install inside free _ _
  | handBack _ _ induction => exact induction sound names nofun
  | erase | drop => exact names.forget sound fun same => kept (congrArg Action.dispose same)
  | _ => exact names

/-- The stay of a page with pins goes on through every action but its disposal. -/
theorem Pool.Sound.names_after {pool : Pool} {storage : Storage} (sound : pool.Sound storage)
    {handle : Handle} (names : handle.Names pool) (pinned : 0 < pool.pinsOn handle.key)
    {action : Action} (kept : action ≠ .dispose handle.key) :
    handle.Names (pool.act storage action).pool := by
  obtain ⟨middle, upkeeps, effect⟩ := effect_act sound.face sound.positive storage action
  obtain ⟨occupant, occupied, own⟩ := Frame.exists_of_key? names.2
  rw [← own, sound.pinsOn_of_occupied occupied] at pinned
  obtain ⟨later, keeps, -⟩ := Upkeeps.keeps upkeeps occupied pinned
  refine effect.keeps_names (Upkeeps.sound upkeeps sound) ⟨?_, ?_⟩ kept
  · exact keeps.generation.trans names.1
  · rw [Frame.key?_of_occupied keeps.occupied, keeps.key, own]

end PageCache
