import PageCache.Proofs.Pool.Soundness

/-!
# Stays

A stay is the time from when a page is put into a frame until it leaves. A frame that keeps its
generation keeps its page, so that a generation names one stay. Main statements: no action lowers a
generation, none replaces a page under the same generation, and a handle that an action gives names
the stay of the page that was asked for.
-/

namespace PageCache

/-- The frame has grown past its generation, or it holds what it held before. -/
def Frame.Continues (before after : Frame) : Prop :=
  before.generation < after.generation ∨
    (after.generation = before.generation ∧ after.key? = before.key?)

namespace Frame.Continues

theorem refl (frame : Frame) : frame.Continues frame := .inr ⟨rfl, rfl⟩

theorem trans {first second third : Frame} (early : first.Continues second)
    (late : second.Continues third) : first.Continues third := by
  rcases early with grown | ⟨generation, key⟩
  · rcases late with grownAgain | ⟨generation, -⟩
    · exact .inl (grown.trans grownAgain)
    · exact .inl (generation ▸ grown)
  · rw [Frame.Continues, ← generation, ← key]
    exact late

theorem le {before after : Frame} (continues : before.Continues after) :
    before.generation ≤ after.generation := by
  rcases continues with grown | ⟨generation, -⟩
  · exact grown.le
  · exact generation.ge

end Frame.Continues

namespace Pool

/-- A change in place that keeps the identity of a page lets every frame continue. -/
theorem continues_updateFrame (pool : Pool) (number : Nat) {change : Occupant → Occupant}
    (keeps : ∀ occupant, (change occupant).key = occupant.key) (other : Nat) :
    (pool.frame other).Continues ((pool.updateFrame number change).frame other) := by
  rw [frame_updateFrame]
  split
  · next equal =>
    subst equal
    exact .inr ⟨rfl, Frame.key?_update _ keeps⟩
  · exact .refl _

theorem continues_setFrame (pool : Pool) {number : Nat} {frame : Frame}
    (continues : (pool.frame number).Continues frame) (other : Nat) :
    (pool.frame other).Continues ((pool.setFrame number frame).frame other) := by
  by_cases same : number = other
  · subst same
    by_cases inside : number < pool.size
    · rw [frame_setFrame inside, if_pos rfl]
      exact continues
    · have past := Nat.le_of_not_lt inside
      rw [frame_of_size_le past, frame_of_size_le ((size_setFrame ..).trans_le past)]
      exact .refl _
  · rw [frame_setFrame_of_ne pool same]
    exact .refl _

theorem continues_clearFrame (pool : Pool) (number other : Nat) :
    (pool.frame other).Continues ((pool.clearFrame number).frame other) :=
  pool.continues_setFrame (.inl (Nat.lt_succ_self _)) other

theorem continues_install (pool : Pool) (number : Nat) (file : FileIdentity) (page : Page)
    (other : Nat) :
    (pool.frame other).Continues ((pool.install number file page).2.frame other) :=
  pool.continues_setFrame (.inl (Nat.lt_succ_self _)) other

theorem continues_forget (pool : Pool) (key : PageKey) (other : Nat) :
    (pool.frame other).Continues ((pool.forget key).1.frame other) := by
  simp only [forget]
  split
  · exact .refl _
  · next number resident => exact pool.continues_clearFrame number other

end Pool

theorem Upkeep.continues {before after : World} (step : Upkeep before after) (number : Nat) :
    (before.1.frame number).Continues (after.1.frame number) := by
  cases step with
  | tally | refuse => exact .refl _
  | unmark | clean => exact Pool.continues_updateFrame _ _ (by intro; rfl) number
  | vacate | renew => exact Pool.continues_clearFrame _ _ number

theorem Upkeeps.continues {before after : World} (upkeeps : Upkeeps before after) (number : Nat) :
    (before.1.frame number).Continues (after.1.frame number) := by
  induction upkeeps with
  | refl => exact .refl _
  | tail _ step induction => exact induction.trans (step.continues number)

theorem Effect.continues {action : Action} {before after : World}
    {result : Except PoolError (Option Handle)} (effect : Effect action before result after)
    (number : Nat) : (before.1.frame number).Continues (after.1.frame number) := by
  induction effect with
  | hit | unpin | put => exact Pool.continues_updateFrame _ _ (by intro; rfl) number
  | load | create => exact Pool.continues_install _ _ _ _ number
  | erase | drop => exact Pool.continues_forget _ _ number
  | handBack _ _ induction => exact induction
  | _ => exact .refl _

/-- The frame of the handle is in the stay that the handle names. -/
def Handle.Names (handle : Handle) (pool : Pool) : Prop :=
  (pool.frame handle.frame).generation = handle.generation ∧
    (pool.frame handle.frame).key? = some handle.key

theorem Pool.names_install {pool : Pool} {number : Nat} (inside : number < pool.size)
    (file : FileIdentity) (page : Page) :
    (pool.install number file page).1.Names (pool.install number file page).2 := by
  have held := (frame_install inside file page number).trans (if_pos rfl)
  exact ⟨congrArg Frame.generation held, (congrArg Frame.key? held).trans (Frame.key?_hold ..)⟩

theorem Effect.names {action : Action} {before after : World} {handle : Handle}
    (effect : Effect action before (.ok (some handle)) after) (sound : before.1.Sound before.2) :
    handle.Names after.1 := by
  generalize equal : Except.ok (some handle) = result at effect
  induction effect with
  | @hit pool storage key number resident =>
      obtain rfl := Option.some.inj (Except.ok.inj equal)
      have pinned : (pool.updateFrame number Occupant.pinned).frame number =
          (pool.frame number).update Occupant.pinned :=
        (Pool.frame_updateFrame ..).trans (if_pos rfl)
      have held := (sound.directory key number).mp resident
      have same : ((pool.frame number).update Occupant.pinned).key? = (pool.frame number).key? :=
        Frame.key?_update _ fun _ => rfl
      simp only [Handle.Names, pinned, same, Frame.generation_update]
      exact ⟨trivial, held⟩
  | load inside | create inside =>
      obtain rfl := Option.some.inj (Except.ok.inj equal)
      exact Pool.names_install inside _ _
  | handBack _ _ induction => exact induction sound equal
  | _ => simp at equal

namespace Pool.Sound

variable {pool : Pool} {storage : Storage}

/-- No action lowers a generation, and none replaces a page under the same generation. -/
theorem continues_act (sound : pool.Sound storage) (action : Action) (number : Nat) :
    (pool.frame number).Continues ((pool.act storage action).pool.frame number) := by
  obtain ⟨middle, upkeeps, effect⟩ := effect_act sound.face sound.positive storage action
  exact (Upkeeps.continues upkeeps number).trans (effect.continues number)

/-- A handle that an action gives names the stay of its page. -/
theorem names_act (sound : pool.Sound storage) {action : Action} {handle : Handle}
    (given : (pool.act storage action).result = .ok (some handle)) :
    handle.Names (pool.act storage action).pool := by
  obtain ⟨middle, upkeeps, effect⟩ := effect_act sound.face sound.positive storage action
  rw [given] at effect
  exact effect.names (Upkeeps.sound upkeeps sound)

end Pool.Sound

end PageCache
