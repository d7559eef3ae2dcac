import Mathlib.Data.List.Count
import PageCache.Proofs.Pool.Disposal
import PageCache.Proofs.Pool.Pins

/-!
# The ledger of pins

The history of a pool tells which handles were given and which pins were given back. Main statement:
the pins of a resident page are the handles to it that were given since it was put into its frame,
less the pins given back since then, whatever else was done. If pins are given back by handle alone
and no handle of another pool is released, they are its handles that were not yet released, and
every such handle is honoured unless its page was disposed of.
-/

namespace PageCache

namespace Moment

/-- Whether a handle to a page was given. -/
def gives (key : PageKey) (moment : Moment) : Bool :=
  moment.action.gives key moment.outcome.result

/-- Whether a release of a page succeeded. -/
def givesBack (key : PageKey) (moment : Moment) : Bool :=
  moment.action.givesBack key moment.outcome.result

/-- Whether a page was put into a frame: a handle to it was given though it was not resident. -/
def installs (key : PageKey) (moment : Moment) : Bool :=
  moment.gives key && (moment.pool.find? key).isNone

/-- The handles that were given and not yet passed to a release, where the latest moment comes
first. -/
def outstanding : List Moment → List Handle
  | [] => []
  | moment :: past =>
    match moment.action with
    | .release handle _ => (outstanding past).erase handle
    | _ => moment.outcome.given ++ outstanding past

/-- Those of them whose page no one asked to dispose of since they were given. -/
def undisposed : List Moment → List Handle
  | [] => []
  | moment :: past =>
    match moment.action with
    | .release handle _ => (undisposed past).erase handle
    | .dispose key => (undisposed past).filter (·.key ≠ key)
    | _ => moment.outcome.given ++ undisposed past

/-- The handles that were passed to a release, the latest first. -/
def passed : List Moment → List Handle
  | [] => []
  | moment :: past =>
    match moment.action with
    | .release handle _ => handle :: passed past
    | _ => passed past

/-- Pins were given back by handle alone. -/
def ByHandle (past : List Moment) : Prop :=
  ∀ moment ∈ past, ∀ key dirty, moment.action ≠ .releasePage key dirty

/-- Every handle that was passed to a release was issued by this pool before. A release takes the
handle away, so that a handle equal to others was issued more often than it was passed before. -/
def Owned : List Moment → Prop
  | [] => True
  | moment :: past =>
    Owned past ∧ ∀ handle dirty, moment.action = .release handle dirty →
      (passed past).count handle < (issued past).count handle

/-- Of the handles issued, those that were not passed to a release are outstanding. -/
theorem count_outstanding {past : List Moment} (owned : Owned past) (handle : Handle) :
    (outstanding past).count handle + (passed past).count handle =
      (issued past).count handle := by
  induction past with
  | nil => rfl
  | cons moment past induction =>
      obtain ⟨earlier, now⟩ := owned
      have balance := induction earlier
      obtain ⟨pool, storage, action⟩ := moment
      cases action with
      | release other dirty =>
          have given : (pool.act storage (.release other dirty)).given = [] := by
            simp only [Outcome.given, Pool.act, Outcome.map]
            cases (pool.release storage other dirty).result <;> rfl
          simp only [outstanding, passed, issued, outcome, given, List.append_nil,
            List.count_erase, List.count_cons, beq_iff_eq]
          split
          · next same =>
            have fewer := now other dirty rfl
            subst same
            omega
          · exact balance
      | _ =>
          simp only [outstanding, passed, issued, List.count_append]
          omega

/-- A handle of the pool that was not yet passed to a release is outstanding. -/
theorem mem_outstanding {past : List Moment} (owned : Owned past) {handle : Handle}
    (fewer : (passed past).count handle < (issued past).count handle) :
    handle ∈ outstanding past := by
  have balance := count_outstanding owned handle
  exact List.count_pos_iff.mp (by omega)

end Moment

/-! ## The pins since a page was put into its frame -/

/-- Since the page was put into its frame its pins are the handles given less the pins that were
given back. -/
def Moment.Balances (past : List Moment) (key : PageKey) (pins : Nat) : Prop :=
  ∃ recent install earlier, past = recent ++ install :: earlier ∧ install.installs key = true ∧
    (∀ moment ∈ recent, moment.installs key = false) ∧
    pins + recent.countP (Moment.givesBack key) = (install :: recent).countP (Moment.gives key)

namespace Pool

variable {pool : Pool} {storage : Storage} {action : Action} {key : PageKey}

/-- Only the page to which an action gives a handle becomes resident. -/
theorem Sound.gives_of_find? (sound : pool.Sound storage) (absent : pool.find? key = none)
    (resident : (pool.act storage action).pool.find? key ≠ none) :
    action.gives key (pool.act storage action).result = true := by
  obtain ⟨middle, upkeeps, effect⟩ := effect_act sound.face sound.positive storage action
  by_contra withheld
  apply resident
  apply effect.find?_eq_none (find?_of_upkeeps upkeeps absent)
  rintro handle given rfl
  apply withheld
  rw [given] at effect ⊢
  rw [effect.gives_eq]
  exact decide_eq_true rfl

theorem ne_dispose_of_find? (resident : (pool.act storage action).pool.find? key ≠ none) :
    action ≠ .dispose key := by
  rintro rfl
  exact resident (pool.find?_dispose storage key)

end Pool

namespace Moment.Balances

variable {pool : Pool} {storage : Storage} {past : List Moment} {action : Action} {key : PageKey}

/-- A page that is put into a frame has one pin. -/
theorem install (sound : pool.Sound storage) (absent : pool.find? key = none)
    (resident : (pool.act storage action).pool.find? key ≠ none) :
    Balances (⟨pool, storage, action⟩ :: past) key ((pool.act storage action).pool.pinsOn key) := by
  have gives := sound.gives_of_find? absent resident
  refine ⟨[], ⟨pool, storage, action⟩, past, rfl, ?_, by simp, ?_⟩
  · simp only [installs, absent, Option.isNone_none, Bool.and_true]
    exact gives
  · have counted : [⟨pool, storage, action⟩].countP (Moment.gives key) = 1 :=
      List.countP_cons_of_pos gives
    rw [sound.pinsOn_act (Pool.ne_dispose_of_find? resident), gives,
      Action.givesBack_of_gives gives, Pool.pinsOn_of_absent absent, counted]
    rfl

theorem act (balances : Balances past key (pool.pinsOn key)) (sound : pool.Sound storage)
    (before : pool.find? key ≠ none)
    (resident : (pool.act storage action).pool.find? key ≠ none) :
    Balances (⟨pool, storage, action⟩ :: past) key ((pool.act storage action).pool.pinsOn key) := by
  obtain ⟨recent, install, earlier, rfl, installed, stayed, balance⟩ := balances
  refine ⟨⟨pool, storage, action⟩ :: recent, install, earlier, rfl, installed, ?_, ?_⟩
  · intro moment member
    rcases List.mem_cons.mp member with rfl | old
    · rw [installs, Option.isNone_eq_false_iff.mpr (Option.isSome_iff_ne_none.mpr before),
        Bool.and_false]
    · exact stayed moment old
  · have changed : (pool.act storage action).pool.pinsOn key +
          (if givesBack key ⟨pool, storage, action⟩ then 1 else 0) =
        pool.pinsOn key + if gives key ⟨pool, storage, action⟩ then 1 else 0 :=
      sound.pinsOn_act_add (Pool.ne_dispose_of_find? resident) before
    simp only [List.countP_cons] at balance ⊢
    omega

end Moment.Balances

/-! ## The handles that were not yet released -/

namespace Pool

theorem given_dispose (pool : Pool) (storage : Storage) (key : PageKey) :
    (pool.act storage (.dispose key)).given = [] := by
  simp only [Outcome.given, act, Outcome.map]
  cases (pool.dispose storage key).result <;> rfl

theorem Sound.countP_given {pool : Pool} {storage : Storage} (sound : pool.Sound storage)
    (action : Action) (key : PageKey) :
    (pool.act storage action).given.countP (·.key = key) =
      if action.gives key (pool.act storage action).result then 1 else 0 := by
  obtain ⟨middle, -, effect⟩ := effect_act sound.face sound.positive storage action
  simp only [Outcome.given]
  split
  · next handle given =>
    rw [given] at effect ⊢
    rw [effect.gives_eq, List.countP_singleton]
  · next without =>
    rw [Action.gives_of_not_handle without]
    rfl

end Pool

/-- Only an accepted handle gives back a pin, and it is one of its own page. -/
theorem Pool.accepts_of_givesBack {pool : Pool} {storage : Storage} {handle : Handle} {dirty : Bool}
    {key : PageKey} (givesBack : (Action.release handle dirty).givesBack key
      (pool.act storage (.release handle dirty)).result = true) :
    handle.key = key ∧ pool.accepts handle = true := by
  simp only [act, Outcome.map, release] at givesBack
  split at givesBack
  · next accepted =>
    refine ⟨?_, accepted⟩
    cases released : (pool.releasePage storage handle.key dirty).result with
    | error cause => simp [released, Except.map, Action.givesBack] at givesBack
    | ok value => simpa [released, Except.map, Action.givesBack] using givesBack
  · cases givesBack

/-- What the handles that were not yet released say of a pool and of the storage below it. -/
structure Moment.Accounts (past : List Moment) (world : World) : Prop where
  /-- A handle to a page that was not disposed of names the stay of its page. -/
  names : ∀ handle ∈ Moment.undisposed past, handle.Names world.1
  /-- The pins of a page are the handles to it. -/
  pins : ∀ key, world.1.pinsOn key = (Moment.undisposed past).countP (·.key = key)
  /-- The page of a handle has a number that was given out. -/
  known : ∀ handle ∈ Moment.outstanding past, handle.key.page < world.2.next handle.key.file
  /-- Only a page that is gone was disposed of while there were handles to it. -/
  same : ∀ key, ¬ world.Gone key →
    (Moment.outstanding past).filter (·.key = key) = (Moment.undisposed past).filter (·.key = key)

namespace Moment.Accounts

variable {pool : Pool} {storage : Storage} {past : List Moment} {action : Action}
  {handle : Handle} {key : PageKey}

theorem pinned {world : World} (accounts : Accounts past world) (kept : handle ∈ undisposed past) :
    0 < world.1.pinsOn handle.key := by
  rw [accounts.pins, List.countP_pos_iff]
  exact ⟨handle, kept, decide_eq_true rfl⟩

theorem accepted (accounts : Accounts past (pool, storage)) (sound : pool.Sound storage)
    (kept : handle ∈ undisposed past) : pool.accepts handle = true := by
  rw [sound.accepts_eq_of_names (accounts.names handle kept)]
  exact decide_eq_true (accounts.pinned kept)

/-- A handle whose page is not gone is known to be to a page that was not disposed of. -/
theorem kept {world : World} (accounts : Accounts past world) (held : handle ∈ outstanding past)
    (present : ¬ world.Gone handle.key) : handle ∈ undisposed past := by
  have member : handle ∈ (outstanding past).filter (·.key = handle.key) :=
    List.mem_filter.mpr ⟨held, decide_eq_true rfl⟩
  rw [accounts.same handle.key present] at member
  exact (List.mem_filter.mp member).1

theorem later (accounts : Accounts past (pool, storage)) {after : Storage}
    (ages : storage.Ages after) : Accounts past (pool, after) where
  names := accounts.names
  pins := accounts.pins
  known := fun handle held => (accounts.known handle held).trans_le (ages.precedes handle.key.file)
  same := fun key present => accounts.same key fun gone => present (gone.later ages)

/-- An action that neither releases nor disposes. -/
theorem give (accounts : Accounts past (pool, storage)) (sound : pool.Sound storage)
    (kept : ∀ key, action ≠ .dispose key)
    (unreleased : ∀ key, action.givesBack key (pool.act storage action).result = false)
    (outstandingNow : outstanding (⟨pool, storage, action⟩ :: past) =
      (pool.act storage action).given ++ outstanding past)
    (undisposedNow : undisposed (⟨pool, storage, action⟩ :: past) =
      (pool.act storage action).given ++ undisposed past) :
    Accounts (⟨pool, storage, action⟩ :: past)
      ((pool.act storage action).pool, (pool.act storage action).storage) where
  names := by
    intro handle held
    rw [undisposedNow] at held
    rcases List.mem_append.mp held with now | earlier
    · exact sound.names_act (Outcome.result_of_given now)
    · exact sound.names_after (accounts.names handle earlier) (accounts.pinned earlier) (kept _)
  pins := by
    intro key
    rw [sound.pinsOn_act (kept key), unreleased, undisposedNow, List.countP_append,
      sound.countP_given, accounts.pins key]
    exact Nat.add_comm ..
  known := by
    intro handle held
    rw [outstandingNow] at held
    rcases List.mem_append.mp held with now | earlier
    · have reached := sound.act action
      have names := sound.names_act (Outcome.result_of_given now)
      exact reached.given _ _ ((reached.directory _ _).mpr names.2)
    · exact (accounts.known handle earlier).trans_le (sound.precedes_act action _)
  same := by
    intro key present
    rw [outstandingNow, undisposedNow, List.filter_append, List.filter_append,
      accounts.same key fun gone => present (gone.act sound action)]

theorem dispose (accounts : Accounts past (pool, storage)) (sound : pool.Sound storage)
    (key : PageKey) :
    Accounts (⟨pool, storage, .dispose key⟩ :: past)
      ((pool.act storage (.dispose key)).pool, (pool.act storage (.dispose key)).storage) where
  names := by
    intro handle held
    obtain ⟨earlier, other⟩ := List.mem_filter.mp held
    apply sound.names_after (accounts.names handle earlier) (accounts.pinned earlier)
    intro equal
    exact of_decide_eq_true other (Action.dispose.inj equal).symm
  pins := by
    intro other
    by_cases own : key = other
    · subst own
      refine (Pool.pinsOn_of_absent (pool.find?_dispose storage key)).trans ?_
      apply Eq.symm
      apply List.countP_eq_zero.mpr
      intro handle held
      have different := (List.mem_filter.mp held).2
      simpa using different
    · have kept : Action.dispose key ≠ .dispose other := fun equal => own (Action.dispose.inj equal)
      have changed := sound.pinsOn_act kept
      refine changed.trans ((accounts.pins other).trans ?_)
      rw [undisposed, List.countP_filter]
      apply List.countP_congr
      rintro handle -
      simp only [decide_eq_true_eq, Bool.and_eq_true, ne_eq]
      exact ⟨fun same => ⟨same, fun equal => own (equal.symm.trans same)⟩, And.left⟩
  known := by
    intro handle held
    rw [outstanding, Moment.outcome, Pool.given_dispose] at held
    exact (accounts.known handle held).trans_le (sound.precedes_act _ _)
  same := by
    intro other present
    rw [outstanding, Moment.outcome, Pool.given_dispose, undisposed, List.nil_append,
      List.filter_filter]
    by_cases own : key = other
    -- No handle to the page is left, or the page would be gone.
    · subst own
      have none : ∀ handle ∈ outstanding past, handle.key ≠ key := by
        rintro handle held rfl
        exact present (.of_dispose (accounts.known handle held))
      rw [List.filter_eq_nil_iff.mpr, List.filter_eq_nil_iff.mpr]
      · simp
      · simpa using none
    · rw [accounts.same other fun gone => present (gone.act sound _)]
      apply List.filter_congr
      rintro handle -
      by_cases same : handle.key = other
      · simp [same, Ne.symm own]
      · simp [same]

theorem release (accounts : Accounts past (pool, storage)) (sound : pool.Sound storage)
    {dirty : Bool} (own : handle ∈ outstanding past) :
    Accounts (⟨pool, storage, .release handle dirty⟩ :: past)
      ((pool.act storage (.release handle dirty)).pool,
        (pool.act storage (.release handle dirty)).storage) where
  names := by
    intro other held
    have earlier := List.mem_of_mem_erase held
    exact sound.names_after (accounts.names other earlier) (accounts.pinned earlier) nofun
  pins := by
    intro key
    have changed := sound.pinsOn_act (show Action.release handle dirty ≠ .dispose key from nofun)
    by_cases held : handle ∈ undisposed past
    · have names := accounts.names handle held
      obtain ⟨occupant, honours⟩ := sound.honours names (accounts.accepted sound held)
      have released : (pool.act storage (.release handle dirty)).result = .ok none :=
        congrArg (Except.map fun _ => none) (honours.release dirty).result
      refine changed.trans ?_
      rw [released, undisposed, List.countP_erase, accounts.pins key]
      simp [Action.gives, Action.givesBack, held]
    · have same : undisposed (⟨pool, storage, .release handle dirty⟩ :: past) = undisposed past :=
        List.erase_of_not_mem held
      rw [same, ← accounts.pins key]
      refine changed.trans ?_
      cases back : (Action.release handle dirty).givesBack key
          (pool.act storage (.release handle dirty)).result with
      | false => rfl
      -- The handle outlived the disposal of its page, which has no pins.
      | true =>
          obtain ⟨rfl, accepted⟩ := Pool.accepts_of_givesBack back
          have gone : World.Gone (pool, storage) handle.key := by
            by_contra present
            exact held (accounts.kept own present)
          rw [Pool.pinsOn_of_absent gone.1]
          rfl
  known := by
    intro other held
    have earlier := List.mem_of_mem_erase held
    exact (accounts.known other earlier).trans_le (sound.precedes_act _ _)
  same := by
    intro key present
    simp only [outstanding, undisposed]
    rw [← List.erase_filter, ← List.erase_filter,
      accounts.same key fun gone => present (gone.act sound _)]

end Moment.Accounts

/-! ## Histories -/

namespace History

variable {config : Config} {new : Pool} {base : Storage} {past : List Moment} {world : World}

theorem balances (made : Pool.ofConfig config = .ok new)
    (history : History (new, base) past world) {key : PageKey}
    (resident : world.1.find? key ≠ none) : Moment.Balances past key (world.1.pinsOn key) := by
  induction history with
  | start =>
      obtain rfl := Pool.eq_empty_of_made made
      exact absurd (Pool.find?_empty config key) resident
  | @act past pool storage history action induction =>
      have sound : pool.Sound storage := history.sound (Pool.sound_ofConfig made base)
      by_cases before : pool.find? key = none
      · exact .install sound before resident
      · exact (induction before).act sound before resident
  | elsewhere _ _ induction => exact induction resident

theorem accounts (made : Pool.ofConfig config = .ok new)
    (history : History (new, base) past world) (byHandle : Moment.ByHandle past)
    (owned : Moment.Owned past) : Moment.Accounts past world := by
  induction history with
  | start =>
      obtain rfl := Pool.eq_empty_of_made made
      refine ⟨by simp [Moment.undisposed], fun key => ?_, by simp [Moment.outstanding],
        fun _ _ => rfl⟩
      exact Pool.pinsOn_of_absent (Pool.find?_empty config key)
  | @act past pool storage history action induction =>
      have sound : pool.Sound storage := history.sound (Pool.sound_ofConfig made base)
      obtain ⟨earlier, now⟩ := owned
      have accounts := induction (fun moment old => byHandle moment (.tail _ old)) earlier
      cases action with
      | releasePage key dirty => exact absurd rfl (byHandle _ (.head _) key dirty)
      | release handle dirty =>
          exact accounts.release sound (Moment.mem_outstanding earlier (now handle dirty rfl))
      | dispose key => exact accounts.dispose sound key
      | fetch | allocate | flush | writeBackAll | write =>
          exact accounts.give sound nofun (fun _ => rfl) rfl rfl
  | elsewhere _ ages induction => exact (induction byHandle owned).later ages

/-- The pins of a resident page are the handles given since it was put into its frame, less the pins
given back. If pins are given back by handle alone, and no handle of another pool among them, they
are the handles not yet released, each of which is honoured unless its page was disposed of. -/
theorem pins_and_handles (made : Pool.ofConfig config = .ok new)
    (history : History (new, base) past world) :
    (∀ number occupant, (world.1.frame number).occupant = some occupant →
      ∃ recent install earlier, past = recent ++ install :: earlier ∧
        install.installs occupant.key = true ∧
        (∀ moment ∈ recent, moment.installs occupant.key = false) ∧
        occupant.pins + recent.countP (Moment.givesBack occupant.key) =
          (install :: recent).countP (Moment.gives occupant.key)) ∧
    (Moment.ByHandle past → Moment.Owned past →
      (∀ number occupant, (world.1.frame number).occupant = some occupant →
        occupant.pins = (Moment.outstanding past).countP (·.key = occupant.key)) ∧
      ∀ handle ∈ Moment.undisposed past, ∃ occupant, world.1.Honours world.2 handle occupant) := by
  have sound : world.1.Sound world.2 := history.sound (Pool.sound_ofConfig made base)
  refine ⟨fun number occupant occupied => ?_,
    fun byHandle owned => ⟨fun number occupant occupied => ?_, fun handle kept => ?_⟩⟩
  · have resident := sound.find?_of_occupied occupied
    have balances := history.balances made (ne_of_eq_of_ne resident (Option.some_ne_none number))
    rwa [sound.pinsOn_of_occupied occupied] at balances
  · have accounts := history.accounts made byHandle owned
    have present : ¬ world.Gone occupant.key := by
      intro gone
      cases (sound.find?_of_occupied occupied).symm.trans gone.1
    rw [← sound.pinsOn_of_occupied occupied, accounts.pins, List.countP_eq_length_filter,
      List.countP_eq_length_filter, accounts.same _ present]
  · have accounts := history.accounts made byHandle owned
    exact sound.honours (accounts.names handle kept) (accounts.accepted sound kept)

/-- Two frames and three pages: a page is pinned twice and released once, while a second page gives
way to a third and a flush fails. -/
theorem pins_and_handles_under_pressure :
    let first : PageKey := ⟨⟨1⟩, 0⟩
    let handle : Handle := ⟨0, 2, first⟩
    let used := (Pool.empty ⟨2, true⟩).recount (.withSeeded 3) []
      [.fetch first, .fetch first, .fetch ⟨⟨1⟩, 1⟩, .release ⟨1, 2, ⟨⟨1⟩, 1⟩⟩ true,
        .fetch ⟨⟨1⟩, 2⟩, .flush ⟨1⟩, .release handle false]
    ∃ occupant, (used.2.1.frame 0).occupant = some occupant ∧
      (∃ recent install earlier, used.1 = recent ++ install :: earlier ∧
        install.installs first = true ∧
        occupant.pins + recent.countP (Moment.givesBack first) =
          (install :: recent).countP (Moment.gives first)) ∧
      Moment.ByHandle used.1 ∧ Moment.Owned used.1 ∧
      Moment.outstanding used.1 = [⟨1, 4, ⟨⟨1⟩, 2⟩⟩, handle] ∧
      occupant.pins = (Moment.outstanding used.1).countP (·.key = first) ∧
      ∃ occupant, used.2.1.Honours used.2.2 handle occupant := by
  intro first handle used
  have made : Pool.ofConfig ⟨2, true⟩ = .ok (.empty ⟨2, true⟩) := rfl
  have history : History (.empty ⟨2, true⟩, .withSeeded 3) used.1 used.2 :=
    History.start.recount _
  have held : (used.2.1.frame 0).key? = some first := by decide +kernel
  have given : Moment.outstanding used.1 = [⟨1, 4, ⟨⟨1⟩, 2⟩⟩, handle] := by decide +kernel
  have kept : Moment.undisposed used.1 = [⟨1, 4, ⟨⟨1⟩, 2⟩⟩, handle] := by decide +kernel
  have byHandle : Moment.ByHandle used.1 := by
    intro moment member key dirty
    have actions : used.1.map (·.action) = [.release handle false, .flush ⟨1⟩, .fetch ⟨⟨1⟩, 2⟩,
        .release ⟨1, 2, ⟨⟨1⟩, 1⟩⟩ true, .fetch ⟨⟨1⟩, 1⟩, .fetch first, .fetch first] := rfl
    have among := actions ▸ List.mem_map_of_mem (f := Moment.action) member
    rintro equal
    simp [equal] at among
  have owned : Moment.Owned used.1 := by
    refine ⟨⟨⟨⟨⟨⟨⟨trivial, nofun⟩, nofun⟩, nofun⟩, ?_⟩, nofun⟩, nofun⟩, ?_⟩
    · rintro _ _ ⟨⟩
      decide +kernel
    · rintro _ _ ⟨⟩
      decide +kernel
  obtain ⟨occupant, occupied, named⟩ := Frame.exists_of_key? held
  obtain ⟨balance, own⟩ := history.pins_and_handles made
  obtain ⟨counted, honoured⟩ := own byHandle owned
  have pins := counted 0 occupant occupied
  obtain ⟨recent, install, earlier, parts, installs, -, sum⟩ := balance 0 occupant occupied
  rw [named] at installs sum pins
  have member : handle ∈ Moment.undisposed used.1 := by
    rw [kept]
    decide
  exact ⟨occupant, occupied, ⟨recent, install, earlier, parts, installs, sum⟩, byHandle, owned,
    given, pins, honoured handle member⟩

/-- A handle of another pool can be taken for one of this pool, because frame and generation are all
that is looked at. Its release takes a pin of the page that it names, so that the one handle to that
page is outstanding without a pin and is not honoured. -/
theorem not_pins_and_handles_with_foreign_handle :
    let far : PageKey := ⟨⟨1⟩, 1⟩
    let foreign : Handle := ⟨0, 2, far⟩
    let elsewhere := (Pool.empty ⟨1, true⟩).act (.withSeeded 2) (.fetch far)
    elsewhere.result = .ok (some foreign) ∧
      ¬ ∀ (config : Config) (new : Pool) (past : List Moment) (world : World),
        Pool.ofConfig config = .ok new → History (new, elsewhere.storage) past world →
        Moment.ByHandle past →
        (∀ moment ∈ past, ∀ handle dirty, moment.action = .release handle dirty →
          handle ∈ Moment.issued past ∨ handle = foreign) →
        (∀ number occupant, (world.1.frame number).occupant = some occupant →
          occupant.pins = (Moment.outstanding past).countP (·.key = occupant.key)) ∧
        ∀ handle ∈ Moment.undisposed past, ∃ occupant,
          world.1.Honours world.2 handle occupant := by
  intro far foreign elsewhere
  refine ⟨rfl, fun claim => ?_⟩
  let used := (Pool.empty ⟨2, true⟩).recount elsewhere.storage []
    [.fetch ⟨⟨1⟩, 0⟩, .fetch far, .release foreign false]
  have history : History (.empty ⟨2, true⟩, elsewhere.storage) used.1 used.2 :=
    History.start.recount _
  have actions : used.1.map (·.action) =
      [.release foreign false, .fetch far, .fetch ⟨⟨1⟩, 0⟩] := rfl
  have among : ∀ moment ∈ used.1, moment.action ∈
      [.release foreign false, .fetch far, .fetch ⟨⟨1⟩, 0⟩] := fun moment member =>
    actions ▸ List.mem_map_of_mem member
  obtain ⟨pins, -⟩ := claim ⟨2, true⟩ _ used.1 used.2 rfl history
    (fun moment member key dirty equal => by simpa [equal] using among moment member)
    (fun moment member handle dirty equal => by
      have released := among moment member
      rw [equal] at released
      exact .inr (by simpa using released : handle = foreign ∧ dirty = false).1)
  -- The page that the foreign handle names is in frame one, and no pin of it is left.
  have held : (used.2.1.frame 1).key? = some far := by decide +kernel
  have unpinned : (used.2.1.frame 1).pins = 0 := by decide +kernel
  have one : (Moment.outstanding used.1).countP (·.key = far) = 1 := by decide +kernel
  obtain ⟨occupant, occupied, named⟩ := Frame.exists_of_key? held
  have counted := pins 1 occupant occupied
  rw [named, one] at counted
  rw [Frame.pins, occupied, Option.elim_some, counted] at unpinned
  cases unpinned

end History

end PageCache
