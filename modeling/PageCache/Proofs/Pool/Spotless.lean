import PageCache.Proofs.Pool.Disposal
import PageCache.Proofs.Pool.Residence

/-!
# Pages that need not be written

A page is spotless if it is not resident or the pool does not know it to be changed. Only the
release of a page with the word that it was changed spoils this. Main statements: a spotless page
is not written; a page that its file has taken is spotless, so that it is not written a second time
until a client says again that it was changed.
-/

namespace PageCache

/-- The page is not known to be changed. -/
def Pool.Spotless (pool : Pool) (key : PageKey) : Prop :=
  ∀ occupant, pool.held? key = some occupant → occupant.dirty = false

/-- Whether a file was asked to take the bytes of a page. -/
def Call.Writes (key : PageKey) (call : Call) : Prop :=
  call.file = key.file ∧ call.request.writes key.page = true

/-- Whether an action gives back a pin of a page and tells that the page was changed. -/
def Action.Soils (key : PageKey) : Action → Prop
  | .releasePage other dirty => other = key ∧ dirty = true
  | .release handle dirty => handle.key = key ∧ dirty = true
  | _ => False

/-- The requests from one world to another in which a page is not written needlessly. -/
structure World.Spares (key : PageKey) (before after : World) (calls : List Call) : Prop where
  /-- These are the requests. -/
  journal : after.2.calls.toList = before.2.calls.toList ++ calls
  /-- A spotless page is not written and stays so. -/
  idle : before.1.Spotless key → after.1.Spotless key ∧ ∀ call ∈ calls, ¬ call.Writes key
  /-- After the file has taken the page it is not asked to take it again. -/
  once : calls.Pairwise fun earlier later =>
    earlier.Writes key → earlier.succeeded = true → ¬ later.Writes key
  /-- If the file has taken the page, the page is spotless. -/
  taken : ∀ call ∈ calls, call.Writes key → call.succeeded = true → after.1.Spotless key

/-- What a pool and the files below it can come to while no client says that a page was changed. -/
inductive Unsoiled (key : PageKey) (start : World) : World → Prop
  /-- Nothing has happened yet. -/
  | start : Unsoiled key start start
  /-- The pool carries out one more action, which does not release the page as changed. -/
  | act {pool : Pool} {storage : Storage} (unsoiled : Unsoiled key start (pool, storage))
      {action : Action} (clean : action.Soils key → pool.find? key = none ∨
        ∃ cause, (pool.act storage action).result = .error cause) :
      Unsoiled key start ((pool.act storage action).pool, (pool.act storage action).storage)
  /-- Something happens to the files past the pool. -/
  | elsewhere {pool : Pool} {storage later : Storage}
      (unsoiled : Unsoiled key start (pool, storage)) (precedes : storage.Precedes later) :
      Unsoiled key start (pool, later)

namespace World.Spares

variable {key : PageKey} {first second third : World} {calls more : List Call}

/-- Nothing is asked of any file, and no page is changed. -/
theorem quiet {before after : World} (same : after.2 = before.2)
    (kept : before.1.Spotless key → after.1.Spotless key) : Spares key before after [] where
  journal := by rw [same, List.append_nil]
  idle := fun spotless => ⟨kept spotless, by simp⟩
  once := .nil
  taken := by simp

/-- One request is made. -/
theorem single {before after : World} {call : Call}
    (journal : after.2.calls = before.2.calls.push call)
    (idle : before.1.Spotless key → after.1.Spotless key ∧ ¬ call.Writes key)
    (taken : call.Writes key → call.succeeded = true → after.1.Spotless key) :
    Spares key before after [call] where
  journal := by rw [journal, Array.toList_push]
  idle := fun spotless => (idle spotless).imp_right (List.forall_mem_singleton.mpr ·)
  once := List.pairwise_singleton _ _
  taken := List.forall_mem_singleton.mpr taken

theorem trans (early : Spares key first second calls) (late : Spares key second third more) :
    Spares key first third (calls ++ more) where
  journal := by rw [late.journal, early.journal, List.append_assoc]
  idle := by
    intro spotless
    obtain ⟨middle, none⟩ := early.idle spotless
    obtain ⟨last, noneLater⟩ := late.idle middle
    exact ⟨last, List.forall_mem_append.mpr ⟨none, noneLater⟩⟩
  once := by
    refine List.pairwise_append.mpr ⟨early.once, late.once, ?_⟩
    intro call made next after writes succeeded
    exact (late.idle (early.taken call made writes succeeded)).2 next after
  taken := by
    intro call made writes succeeded
    rcases List.mem_append.mp made with before | after
    · exact (late.idle (early.taken call before writes succeeded)).1
    · exact late.taken call after writes succeeded

theorem unwritten (spares : Spares key first second calls) (spotless : first.1.Spotless key) :
    first.2.Unwritten key second.2 := by
  refine ⟨calls, spares.journal, fun call made file => ?_⟩
  exact Bool.eq_false_iff.mpr fun writes => (spares.idle spotless).2 call made ⟨file, writes⟩

end World.Spares

namespace Pool

variable {pool : Pool} {storage : Storage} {key : PageKey} {number : Nat}

theorem Spotless.of_eq {after : Pool} (spotless : pool.Spotless key)
    (same : after.held? key = pool.held? key) : after.Spotless key := by
  rw [Spotless, same]
  exact spotless

/-- A change in place that leaves a page as clean as it was keeps it spotless. -/
theorem Spotless.updateFrame (spotless : pool.Spotless key) (sound : pool.Sound storage)
    (number : Nat) {change : Occupant → Occupant}
    (clean : ∀ occupant, (pool.frame number).occupant = some occupant → occupant.key = key →
      occupant.dirty = false → (change occupant).dirty = false) :
    (pool.updateFrame number change).Spotless key := by
  cases occupied : (pool.frame number).occupant with
  | none => exact spotless.of_eq (Sound.held?_updateFrame_of_free occupied change key)
  | some occupant =>
      intro holder held
      rw [sound.held?_updateFrame occupied] at held
      split at held
      · next own =>
        obtain rfl := Option.some.inj held
        have held := sound.held?_of_occupied occupied
        exact clean occupant occupied own (spotless occupant (own ▸ held))
      · exact spotless holder held

/-- A page that was cleaned is spotless. -/
theorem Sound.spotless_cleaned (sound : pool.Sound storage) {occupant : Occupant}
    (occupied : (pool.frame number).occupant = some occupant) :
    (pool.updateFrame number Occupant.cleaned).Spotless occupant.key := by
  intro holder held
  rw [sound.held?_updateFrame occupied, if_pos rfl] at held
  obtain rfl := Option.some.inj held
  rfl

/-- The write of the page in a frame is a write of that page alone. -/
theorem Sound.key_of_writes (sound : pool.Sound storage) {occupant : Occupant}
    (occupied : (pool.frame number).occupant = some occupant) {succeeded : Bool}
    (writes : Call.Writes key ⟨occupant.key.file, .write occupant.page, succeeded⟩) :
    occupant.key = key := by
  obtain ⟨file, page⟩ := writes
  have page : occupant.page.number = key.page := of_decide_eq_true page
  rw [sound.numbered number occupant occupied] at page
  cases key
  exact congrArg₂ PageKey.mk file page

end Pool

open World (Spares)

theorem Upkeep.spares {before after : World} (step : Upkeep before after)
    (sound : before.1.Sound before.2) (key : PageKey) : ∃ calls, Spares key before after calls := by
  -- A page that is written is found changed, so that it is not spotless.
  have changed : ∀ {number occupant succeeded}, (before.1.frame number).occupant = some occupant →
      occupant.dirty = true → before.1.Spotless key →
      ¬ Call.Writes key ⟨occupant.key.file, .write occupant.page, succeeded⟩ := by
    intro number occupant succeeded occupied dirty spotless writes
    have own := sound.key_of_writes occupied writes
    have clean := spotless occupant (own ▸ sound.held?_of_occupied occupied)
    exact Bool.false_ne_true (clean.symm.trans dirty)
  cases step with
  | tally => exact ⟨_, .quiet rfl id⟩
  | unmark number =>
      exact ⟨_, .quiet rfl fun spotless => spotless.updateFrame sound number fun _ _ _ => id⟩
  | clean occupied dirty taken =>
      refine ⟨_, .single (Storage.calls_write ..)
        (fun spotless => ⟨?_, changed occupied dirty spotless⟩) fun writes _ => ?_⟩
      · exact spotless.updateFrame sound _ fun _ _ _ _ => rfl
      · rw [← sound.key_of_writes occupied writes]
        exact sound.spotless_cleaned occupied
  | refuse occupied dirty refused =>
      refine ⟨_, .single (Storage.calls_write ..)
        (fun spotless => ⟨spotless, changed occupied dirty spotless⟩) fun _ succeeded => ?_⟩
      rw [refused] at succeeded
      cases succeeded
  | vacate occupied =>
      refine ⟨_, .quiet rfl fun spotless holder held => ?_⟩
      rw [sound.held?_remove occupied] at held
      split at held
      · cases held
      · exact spotless holder held
  | renew free =>
      exact ⟨_, .quiet rfl fun spotless => spotless.of_eq (Pool.Sound.held?_clearFrame free key)⟩

theorem Upkeeps.spares {before after : World} (upkeeps : Upkeeps before after)
    (sound : before.1.Sound before.2) (key : PageKey) : ∃ calls, Spares key before after calls := by
  induction upkeeps with
  | refl => exact ⟨_, .quiet rfl id⟩
  | tail upkeeps step induction =>
      obtain ⟨calls, early⟩ := induction
      obtain ⟨more, late⟩ := step.spares (Upkeeps.sound upkeeps sound) key
      exact ⟨_, early.trans late⟩

/-- An effect writes no page, and only the release of a resident page makes it changed. -/
theorem Effect.spares {action : Action} {before after : World}
    {result : Except PoolError (Option Handle)} (effect : Effect action before result after)
    (sound : before.1.Sound before.2) {key : PageKey}
    (clean : action.Soils key → before.1.find? key = none ∨ ∃ cause, result = .error cause) :
    ∃ calls, Spares key before after calls := by
  have none : ∀ {file request succeeded}, (∀ page, request ≠ .write page) →
      ¬ Call.Writes key ⟨file, request, succeeded⟩ := by
    rintro file request succeeded other ⟨-, writes⟩
    cases request with
    | write page => exact other page rfl
    | _ => cases writes
  induction effect with
  | hit => exact ⟨_, .quiet rfl fun spotless => spotless.updateFrame sound _ fun _ _ _ => id⟩
  | load inside free | create inside free =>
      refine ⟨_, .single rfl (fun spotless => ⟨fun holder held => ?_, none (by simp)⟩)
        fun writes _ => absurd writes (none (by simp))⟩
      rw [sound.held?_install inside free] at held
      split at held
      · obtain rfl := Option.some.inj held
        rfl
      · exact spotless holder held
  | unread | uncreated =>
      exact ⟨_, .single rfl (fun spotless => ⟨spotless, none (by simp)⟩)
        fun writes _ => absurd writes (none (by simp))⟩
  | @unpin pool storage asked number dirty resident pinned =>
      refine ⟨_, .quiet rfl fun spotless => spotless.updateFrame sound number ?_⟩
      intro occupant occupied own unchanged
      cases dirty with
      | false => simp [Occupant.released, unchanged]
      | true =>
          obtain ⟨holder, holds, rfl⟩ := sound.occupied_of_find? resident
          obtain rfl := Option.some.inj (occupied.symm.trans holds)
          rcases clean ⟨own, rfl⟩ with absent | ⟨cause, failed⟩
          · cases (own ▸ resident).symm.trans absent
          · cases failed
  | handBack accepted released induction => exact induction sound clean
  | put => exact ⟨_, .quiet rfl fun spotless => spotless.updateFrame sound _ fun _ _ _ => id⟩
  | erase | drop =>
      refine ⟨_, .single rfl (fun spotless => ⟨fun holder held => ?_, none (by simp)⟩)
        fun writes _ => absurd writes (none (by simp))⟩
      rw [sound.held?_forget] at held
      split at held
      · cases held
      · exact spotless holder held
  | _ => exact ⟨_, .quiet rfl id⟩

namespace Pool

variable {pool : Pool} {storage : Storage} {key : PageKey}

theorem Sound.spares_act (sound : pool.Sound storage) {action : Action}
    (clean : action.Soils key → pool.find? key = none ∨
      ∃ cause, (pool.act storage action).result = .error cause) :
    ∃ calls, Spares key (pool, storage)
      ((pool.act storage action).pool, (pool.act storage action).storage) calls := by
  obtain ⟨middle, upkeeps, effect⟩ := effect_act sound.face sound.positive storage action
  obtain ⟨calls, early⟩ := Upkeeps.spares upkeeps sound key
  obtain ⟨more, late⟩ := effect.spares (Upkeeps.sound upkeeps sound)
    fun soils => (clean soils).imp_left (find?_of_upkeeps upkeeps)
  exact ⟨_, early.trans late⟩

/-- A release asks nothing of any file. -/
theorem storage_of_soils {action : Action} (soils : action.Soils key) :
    (pool.act storage action).storage = storage := by
  cases action with
  | releasePage other dirty => exact storage_releasePage ..
  | release handle dirty => exact storage_release ..
  | _ => cases soils

/-- No action writes a page twice that its file has taken, and if it has taken the page then the
page is spotless. -/
theorem Sound.once_act (sound : pool.Sound storage) (action : Action) (key : PageKey) :
    ∃ calls, (pool.act storage action).storage.calls.toList = storage.calls.toList ++ calls ∧
      (calls.Pairwise fun earlier later =>
        earlier.Writes key → earlier.succeeded = true → ¬ later.Writes key) ∧
      ∀ call ∈ calls, call.Writes key → call.succeeded = true →
        (pool.act storage action).pool.Spotless key := by
  by_cases soils : action.Soils key
  · refine ⟨[], ?_, .nil, by simp⟩
    rw [storage_of_soils soils, List.append_nil]
  · obtain ⟨calls, spares⟩ := sound.spares_act fun soiled => absurd soiled soils
    exact ⟨calls, spares.journal, spares.once, spares.taken⟩

/-- Neither an action nor the end of the pool writes a spotless page. -/
theorem Sound.unwritten_of_spotless (sound : pool.Sound storage) (spotless : pool.Spotless key) :
    (∀ action, storage.Unwritten key (pool.act storage action).storage) ∧
      storage.Unwritten key (pool.drop storage).storage := by
  constructor
  · intro action
    by_cases soils : action.Soils key
    · rw [storage_of_soils soils]
      exact .refl key storage
    · obtain ⟨calls, spares⟩ := sound.spares_act fun soiled => absurd soiled soils
      exact spares.unwritten spotless
  · obtain ⟨calls, spares⟩ := Upkeeps.spares (upkeeps_drop pool storage) sound key
    exact spares.unwritten spotless

end Pool

namespace Unsoiled

variable {key : PageKey} {start world : World}

theorem sound (unsoiled : Unsoiled key start world) (sound : start.1.Sound start.2) :
    world.1.Sound world.2 := by
  induction unsoiled with
  | start => exact sound
  | act _ _ induction => exact induction.act _
  | elsewhere _ precedes induction => exact induction.later precedes

/-- A page stays spotless until a client says that it was changed. -/
theorem spotless (unsoiled : Unsoiled key start world) (sound : start.1.Sound start.2)
    (spotless : start.1.Spotless key) : world.1.Spotless key := by
  induction unsoiled with
  | start => exact spotless
  | act unsoiled clean induction =>
      obtain ⟨calls, spares⟩ := (unsoiled.sound sound).spares_act clean
      exact (spares.idle induction).1
  | elsewhere _ _ induction => exact induction

end Unsoiled

end PageCache
