import PageCache.Proofs.Pool.Visits
import PageCache.Proofs.Word.Pool

/-!
# The bound of the sweep

A frame for a new page is found by a loop that ends when it has found something; nothing in the loop
says that it ever does. It runs over bare descriptors, which may contradict each other and to which
no pool need ever come. Main statement: over every table of descriptors and from every hand on one
of them the loop ends within two rounds: with a frame, for want of one, with a file that does not
take a page back, or with the complaint that the page to give way has no file. The last of these is
no fault of a file, and it does occur.
-/

namespace PageCache

namespace WordPool

/-! ## The loop -/

/-- The loop that finds a frame for a new page: it makes so many visits until one of them finds
something, and settles that. -/
inductive Ends (storage : Storage) : WordPool → Nat → Nat → WordOutcome Nat → Prop
  /-- The next visit finds something. -/
  | found {pool after : WordPool} {blocked counted : Nat} {finding : Finding}
      {outcome : WordOutcome Nat}
      (visit : pool.visit? blocked = some (some finding, after, counted))
      (settled : after.settle? storage finding = some outcome) :
      Ends storage pool blocked 1 outcome
  /-- The next visit finds nothing, and the loop goes on. -/
  | onward {pool after : WordPool} {blocked counted visits : Nat} {outcome : WordOutcome Nat}
      (visit : pool.visit? blocked = some (none, after, counted))
      (rest : Ends storage after counted visits outcome) :
      Ends storage pool blocked (visits + 1) outcome

namespace Ends

variable {storage : Storage} {pool : WordPool} {blocked visits again : Nat}
  {outcome other : WordOutcome Nat}

/-- The loop ends in one way only. -/
theorem unique (ends : Ends storage pool blocked visits outcome)
    (repeated : Ends storage pool blocked again other) : again = visits ∧ other = outcome := by
  induction ends generalizing again with
  | found visit settled =>
      cases repeated with
      | found same settledToo =>
          cases visit.symm.trans same
          exact ⟨rfl, Option.some.inj (settledToo.symm.trans settled)⟩
      | onward quiet => cases visit.symm.trans quiet
  | onward visit _ induction =>
      cases repeated with
      | found found => cases visit.symm.trans found
      | onward same rest =>
          cases visit.symm.trans same
          obtain ⟨visits, outcomes⟩ := induction rest
          exact ⟨congrArg Nat.succ visits, outcomes⟩

/-- A limit that is not below the visits does not stop the loop. -/
theorem sweep? (ends : Ends storage pool blocked visits outcome) {limit : Nat}
    (within : visits ≤ limit) : WordPool.sweep? storage limit pool blocked = some outcome := by
  induction ends generalizing limit with
  | found visit settled =>
      obtain ⟨limit, rfl⟩ := Nat.exists_eq_add_of_le' within
      simp only [WordPool.sweep?, visit, settled, Option.bind_eq_bind, Option.bind_some]
  | onward visit _ induction =>
      obtain ⟨limit, rfl⟩ := Nat.exists_eq_add_of_le' (Nat.le_of_add_left_le within)
      simp only [WordPool.sweep?, visit, Option.bind_eq_bind, Option.bind_some]
      exact induction (Nat.le_of_succ_le_succ within)

end Ends

/-! ## Descriptors during a sweep -/

/-- A sweep has done nothing but move the hand and clear marks. -/
structure Swept (before after : WordPool) : Prop where
  /-- The settings stay. -/
  config : after.config = before.config
  /-- The pages stay. -/
  pages : after.pages = before.pages
  /-- The entries stay. -/
  directory : after.directory = before.directory
  /-- The counters stay. -/
  stats : after.stats = before.stats
  /-- No descriptor is lost. -/
  size : after.size = before.size
  /-- A descriptor is as it was or has lost its mark. -/
  descriptor : ∀ number, after.descriptor number = before.descriptor number ∨
    after.descriptor number = { before.descriptor number with referenced := false }

theorem Swept.trans {before middle after : WordPool} (early : Swept before middle)
    (late : Swept middle after) : Swept before after where
  config := late.config.trans early.config
  pages := late.pages.trans early.pages
  directory := late.directory.trans early.directory
  stats := late.stats.trans early.stats
  size := late.size.trans early.size
  descriptor := by
    intro number
    rcases early.descriptor number with same | cleared <;>
      rcases late.descriptor number with still | again
    · exact .inl (still.trans same)
    · exact .inr (by rw [again, same])
    · exact .inr (by rw [still, cleared])
    · exact .inr (by rw [again, cleared])

/-- A relation between descriptors and frames that a sweep does not see to be less than equality. -/
structure Depicts (Depiction : Descriptor → Frame → Prop) : Prop where
  /-- The clock sees the same in both. -/
  verdict : ∀ {descriptor frame}, Depiction descriptor frame → descriptor.verdict = frame.verdict
  /-- Without their marks they are still related. -/
  unmarked : ∀ {descriptor frame}, Depiction descriptor frame →
    Depiction { descriptor with referenced := false } (frame.update Occupant.unmarked)

/-- A machine is at the same point of a sweep over related frames. -/
structure Scans (Depiction : Descriptor → Frame → Prop) (pool : WordPool) (blocked : Nat)
    (sweep : Sweep) : Prop where
  /-- The clocks are the same. -/
  clock : pool.clock.value = sweep.clock
  /-- The clock goes round exactly the frames. -/
  face : sweep.clock.frames = sweep.frames.size
  /-- The hand is on a frame. -/
  hand : sweep.clock.hand < sweep.clock.frames
  /-- There are as many frames. -/
  size : pool.size = sweep.frames.size
  /-- As many visits count. -/
  blocked : blocked = sweep.blocked
  /-- The frames are related. -/
  frames : ∀ number < pool.size, Depiction (pool.descriptor number) (sweep.frame number)

namespace Scans

variable {Depiction : Descriptor → Frame → Prop} {pool : WordPool} {blocked : Nat} {sweep : Sweep}

/-- A visit does the same to the descriptors and to the frames. -/
theorem visit? (scans : Scans Depiction pool blocked sweep) (depicts : Depicts Depiction) :
    ∃ after counted, pool.visit? blocked = some (sweep.step.1, after, counted) ∧
      Scans Depiction after counted sweep.step.2 ∧ Swept pool after := by
  have on : pool.clock.hand < pool.clock.frames := by
    rw [← WordClock.hand_value_lt_iff, scans.clock]
    exact scans.hand
  obtain ⟨next, moved, value⟩ := WordClock.exists_advance? on
  rw [scans.clock] at value
  have hand : next.hand.toNat = sweep.clock.tick.hand := congrArg Clock.hand value
  have still : sweep.clock.tick.hand < sweep.clock.tick.frames :=
    Clock.hand_tick_lt (Nat.zero_lt_of_lt scans.hand)
  have inside : sweep.clock.tick.hand < pool.size := by
    rw [scans.size, ← scans.face]
    exact still
  have seen := scans.frames _ inside
  have met := depicts.verdict seen
  have looked := getElem?_descriptors inside
  have onto : Scans Depiction { pool with clock := next } blocked
      { sweep with clock := sweep.clock.tick } :=
    ⟨value, scans.face, still, scans.size, scans.blocked, scans.frames⟩
  have swept : Swept pool { pool with clock := next } :=
    ⟨rfl, rfl, rfl, rfl, rfl, fun _ => .inl rfl⟩
  simp only [WordPool.visit?, moved, hand, looked, Option.bind_eq_bind, Option.bind_some,
    Option.pure_def]
  cases kind : (sweep.frame sweep.clock.tick.hand).verdict with
  | claim =>
      rw [kind] at met
      rw [Sweep.frame] at kind
      simp only [Sweep.step, met, kind]
      exact ⟨_, _, rfl, onto, swept⟩
  | spare =>
      have within := inside.trans_eq scans.size
      have cleared := Sweep.frame_step_of_spare kind within
      rw [kind] at met
      rw [Sweep.step_of_spare kind] at cleared ⊢
      simp only [met]
      have unmarked := @descriptor_setDescriptor { pool with clock := next } _ inside
        { pool.descriptor sweep.clock.tick.hand with referenced := false }
      refine ⟨_, _, rfl, ⟨value, ?_, still, ?_, rfl, fun number below => ?_⟩,
        ⟨rfl, rfl, rfl, rfl, size_setDescriptor .., fun number => ?_⟩⟩
      · exact scans.face.trans Array.size_setIfInBounds.symm
      · exact (size_setDescriptor ..).trans (scans.size.trans Array.size_setIfInBounds.symm)
      · rw [cleared, unmarked]
        split
        · next here => exact here ▸ depicts.unmarked seen
        · exact scans.frames number (below.trans_eq (size_setDescriptor ..))
      · rw [unmarked]
        split
        · next here => exact here ▸ .inr rfl
        · exact .inl rfl
  | pass =>
      rw [kind] at met
      rw [Sweep.step_of_pass kind]
      simp only [met, scans.size, scans.blocked]
      exact ⟨_, _, rfl, { onto with blocked := rfl }, swept⟩
  | evict =>
      rw [kind] at met
      rw [Sweep.frame] at kind
      simp only [Sweep.step, met, kind]
      exact ⟨_, _, rfl, onto, swept⟩

/-- The loop comes to what a bounded sweep over related frames finds. -/
theorem exists_ends (scans : Scans Depiction pool blocked sweep) (depicts : Depicts Depiction)
    {limit : Nat} {finding : Finding} {last : Sweep}
    (found : Sweep.run limit sweep = (some finding, last)) :
    ∃ visits ≤ limit, ∃ after counted, Scans Depiction after counted last ∧ Swept pool after ∧
      last.clock = Clock.tick^[visits] sweep.clock ∧
      ∀ storage outcome, after.settle? storage finding = some outcome →
        Ends storage pool blocked visits outcome := by
  induction limit generalizing pool blocked sweep with
  | zero => cases found
  | succ limit induction =>
      obtain ⟨after, counted, visited, onward, swept⟩ := scans.visit? depicts
      have clock := Sweep.clock_step sweep
      rw [Sweep.run] at found
      split at found
      · next sooner rest equal =>
        rw [equal.trans found] at visited onward clock
        exact ⟨1, Nat.le_add_left 1 limit, after, counted, onward, swept, clock,
          fun _ _ => .found visited⟩
      · next middle equal =>
        rw [equal] at visited onward clock
        obtain ⟨visits, within, last, count, reached, rest, turned, ends⟩ := induction onward found
        refine ⟨visits + 1, Nat.succ_le_succ within, last, count, reached, swept.trans rest, ?_,
          fun storage outcome settled => .onward visited (ends storage outcome settled)⟩
        rw [turned, clock, Function.iterate_succ_apply]

end Scans

end WordPool

/-! ## Bare descriptors -/

namespace Descriptor

variable {descriptor : Descriptor} {frame : Frame}

/-- The marks that the clock looks at are those of the frame. -/
structure Resembles (descriptor : Descriptor) (frame : Frame) : Prop where
  /-- They tell whether a page is in the frame. -/
  valid : descriptor.valid = frame.valid
  /-- They tell whether the page was used. -/
  referenced : descriptor.valid = true → descriptor.referenced = frame.referenced
  /-- They tell the pins of the page. -/
  pins : descriptor.valid = true → descriptor.pins.toNat = frame.pins

/-- Some frame with the given marks. -/
def toFrame (descriptor : Descriptor) : Frame :=
  ⟨descriptor.generation, if descriptor.valid then
    some ⟨⟨⟨0⟩, descriptor.page⟩, .zero descriptor.page, descriptor.referenced, descriptor.dirty,
      descriptor.pins.toNat⟩
  else none⟩

theorem resembles_toFrame (descriptor : Descriptor) : descriptor.Resembles descriptor.toFrame := by
  constructor
  · cases valid : descriptor.valid <;> simp [toFrame, Frame.valid, valid]
  · intro valid
    simp [toFrame, Frame.referenced, valid]
  · intro valid
    simp [toFrame, Frame.pins, valid]

theorem Resembles.verdict (resembles : descriptor.Resembles frame) :
    descriptor.verdict = frame.verdict := by
  have valid := resembles.valid
  have referenced := resembles.referenced
  have pins := resembles.pins
  cases occupied : frame.occupant with
  | none =>
      rw [Frame.valid, occupied] at valid
      simp [Descriptor.verdict, Frame.verdict, occupied, valid]
  | some occupant =>
      rw [Frame.valid, occupied] at valid
      rw [Frame.referenced, occupied] at referenced
      rw [Frame.pins, occupied] at pins
      simp [Descriptor.verdict, Frame.verdict, occupied, valid, referenced valid,
        UInt32.lt_iff_toNat_lt, pins valid]

/-- The clock does not see more of a descriptor than those marks. -/
theorem depicts_resembles : WordPool.Depicts Resembles where
  verdict := Resembles.verdict
  unmarked := fun resembles =>
    ⟨resembles.valid.trans (Frame.valid_update ..).symm,
      fun _ => (Frame.referenced_unmarked _).symm,
      fun valid => (resembles.pins valid).trans (Frame.pins_unmarked _).symm⟩

/-- A page that gives way is neither referenced nor pinned. -/
theorem of_evict (evicted : descriptor.verdict = .evict) :
    descriptor.valid = true ∧ descriptor.referenced = false ∧ descriptor.pins = 0 := by
  simp only [verdict] at evicted
  split at evicted
  · cases evicted
  · next valid =>
    split at evicted
    · cases evicted
    · next unreferenced =>
      split at evicted
      · cases evicted
      · next unpinned =>
        refine ⟨by simpa using valid, Bool.eq_false_iff.mpr unreferenced, ?_⟩
        rw [UInt32.lt_iff_toNat_lt, UInt32.toNat_zero] at unpinned
        exact UInt32.toNat_inj.mp (Nat.eq_zero_of_not_pos unpinned)

end Descriptor

/-- What a sweep has found is its last frame, or that there is none. -/
theorem Sweep.met_of_step {sweep : Sweep} {finding : Finding}
    (found : sweep.step.1 = some finding) :
    finding = .exhausted ∨ finding = .free sweep.clock.tick.hand ∨
      finding = .victim sweep.clock.tick.hand ∧
        (sweep.frame sweep.clock.tick.hand).verdict = .evict := by
  simp only [step] at found
  split at found
  · exact .inr (.inl (Option.some.inj found).symm)
  · cases found
  · split at found
    · exact .inl (Option.some.inj found).symm
    · cases found
  · next evicted => exact .inr (.inr ⟨(Option.some.inj found).symm, evicted⟩)

/-! ## What the loop gives -/

namespace WordPool

variable {pool after : WordPool} {storage : Storage} {number : Nat}

/-- The file of the page in a dirty frame does not take it back. -/
def Refuses (pool : WordPool) (storage : Storage) (number : Nat) (cause : BackingError) : Prop :=
  ∃ owner page, (pool.descriptor number).dirty = true ∧
    (pool.descriptor number).owner = some owner ∧ pool.pages[number]? = some page ∧
      (storage.write owner page).1 = .error cause

/-- The page in a frame has neither pins nor a file. -/
def Ownerless (pool : WordPool) (number : Nat) : Prop :=
  (pool.descriptor number).valid = true ∧ (pool.descriptor number).pins = 0 ∧
    (pool.descriptor number).owner = none

/-- What the loop gives over a table of descriptors. -/
inductive Gives (pool : WordPool) (storage : Storage) : Except PoolError Nat → Prop
  /-- A frame. -/
  | frame {number : Nat} (inside : number < pool.size) : Gives pool storage (.ok number)
  /-- No frame, for want of one. -/
  | exhausted : Gives pool storage (.error (.exhausted pool.size))
  /-- No frame, as a file does not take the page back that is to give way. -/
  | refused {number : Nat} {cause : BackingError} (inside : number < pool.size)
      (refuses : pool.Refuses storage number cause) : Gives pool storage (.error (.storage cause))
  /-- No frame, as the page that is to give way has no file. -/
  | ownerless {number : Nat} (inside : number < pool.size) (ownerless : pool.Ownerless number) :
      Gives pool storage (.error (.corruptFrame number true (pool.descriptor number).dirty false))

theorem Swept.fields (swept : Swept pool after) (number : Nat) :
    (after.descriptor number).valid = (pool.descriptor number).valid ∧
      (after.descriptor number).pins = (pool.descriptor number).pins ∧
      (after.descriptor number).owner = (pool.descriptor number).owner ∧
      (after.descriptor number).dirty = (pool.descriptor number).dirty := by
  rcases swept.descriptor number with same | cleared
  · rw [same]
    exact ⟨rfl, rfl, rfl, rfl⟩
  · rw [cleared]
    exact ⟨rfl, rfl, rfl, rfl⟩

/-- A sweep changes nothing that decides on what the loop gives. -/
theorem Swept.gives (swept : Swept pool after) {result : Except PoolError Nat}
    (gives : after.Gives storage result) : pool.Gives storage result := by
  have size := swept.size
  cases gives with
  | frame inside => exact .frame (size ▸ inside)
  | exhausted =>
      rw [size]
      exact .exhausted
  | @refused number _ inside refuses =>
      obtain ⟨owner, page, dirty, owned, held, refused⟩ := refuses
      obtain ⟨-, -, sameOwner, sameDirty⟩ := swept.fields number
      exact .refused (size ▸ inside)
        ⟨owner, page, sameDirty ▸ dirty, sameOwner ▸ owned, swept.pages ▸ held, refused⟩
  | @ownerless number inside ownerless =>
      obtain ⟨sameValid, samePins, sameOwner, sameDirty⟩ := swept.fields number
      rw [sameDirty]
      exact .ownerless (size ▸ inside)
        ⟨sameValid ▸ ownerless.1, samePins ▸ ownerless.2.1, sameOwner ▸ ownerless.2.2⟩

/-- A page that is to give way does so, or its file refuses it, or it has none. -/
theorem exists_evict? (inside : number < pool.size) (pages : pool.pages.size = pool.size)
    (evicted : (pool.descriptor number).verdict = .evict) (storage : Storage) :
    ∃ outcome, pool.evict? storage number = some outcome ∧ outcome.pool.clock = pool.clock ∧
      pool.Gives storage outcome.result := by
  obtain ⟨valid, unreferenced, unpinned⟩ := Descriptor.of_evict evicted
  have complaint (owner : (pool.descriptor number).owner = none) :
      pool.Gives storage (.error ((pool.descriptor number).corrupt number)) := by
    rw [Descriptor.corrupt, valid, unreferenced]
    exact .ownerless inside ⟨valid, unpinned, owner⟩
  cases dirty : (pool.descriptor number).dirty with
  | false =>
      have written := writeBack?_of_clean inside dirty storage
      cases owner : (pool.descriptor number).owner with
      | none => exact ⟨_, evict?_of_ownerless written inside owner, rfl, complaint owner⟩
      | some file => exact ⟨_, evict?_of_owner written inside owner, rfl, .frame inside⟩
  | true =>
      cases owner : (pool.descriptor number).owner with
      | none =>
          have written := writeBack?_of_ownerless inside dirty owner storage
          exact ⟨_, evict?_of_failed written, rfl, complaint owner⟩
      | some file =>
          have held : pool.pages[number]? = some pool.pages[number] :=
            Array.getElem?_eq_getElem (inside.trans_eq pages.symm)
          cases asked : (storage.write file pool.pages[number]).1 with
          | error cause =>
              have written := writeBack?_of_refused inside dirty owner held asked
              exact ⟨_, evict?_of_failed written, rfl,
                .refused inside ⟨_, _, dirty, owner, held, asked⟩⟩
          | ok value =>
              have written := writeBack?_of_taken inside dirty owner held asked
              let cleaned : Descriptor := { pool.descriptor number with dirty := false }
              have still := inside.trans_eq (size_setDescriptor pool number cleaned).symm
              have cleans : (pool.setDescriptor number cleaned).descriptor number = cleaned :=
                (descriptor_setDescriptor inside cleaned number).trans (if_pos rfl)
              have same := (congrArg Descriptor.owner cleans).trans owner
              exact ⟨_, evict?_of_owner written still same, rfl, .frame inside⟩

/-- What a sweep has found is settled, also over bare descriptors. -/
theorem exists_settle? {counted : Nat} {sweep : Sweep} {finding : Finding}
    (scans : Scans Descriptor.Resembles pool counted sweep.step.2)
    (found : sweep.step.1 = some finding) (pages : pool.pages.size = pool.size)
    (storage : Storage) :
    ∃ outcome, pool.settle? storage finding = some outcome ∧ outcome.pool.clock = pool.clock ∧
      pool.Gives storage outcome.result := by
  have inside : sweep.clock.tick.hand < pool.size := by
    rw [scans.size, ← scans.face, ← Sweep.clock_step]
    exact scans.hand
  rcases Sweep.met_of_step found with rfl | rfl | ⟨rfl, evicted⟩
  · exact ⟨_, rfl, rfl, .exhausted⟩
  · simp only [settle?, getElem?_descriptors inside, Option.bind_eq_bind, Option.bind_some,
      Option.pure_def]
    exact ⟨_, rfl, rfl, .frame inside⟩
  · refine exists_evict? inside pages ?_ storage
    rw [(scans.frames _ inside).verdict, Sweep.frame_step found, evicted]

/-- A table of descriptors resembles some frames. -/
theorem exists_scans (face : pool.clock.frames.toNat = pool.size)
    (inside : pool.clock.hand < pool.clock.frames) :
    ∃ sweep : Sweep, sweep.Ready ∧ sweep.clock = pool.clock.value ∧
      Scans Descriptor.Resembles pool 0 sweep := by
  have size : pool.size = (pool.descriptors.map Descriptor.toFrame).size :=
    (Array.size_map ..).symm
  have on := WordClock.hand_value_lt_iff.mpr inside
  refine ⟨⟨pool.clock.value, pool.descriptors.map Descriptor.toFrame, 0⟩,
    ⟨face.trans size, on.trans_eq (face.trans size), rfl⟩, rfl,
    ⟨rfl, face.trans size, on, size, rfl, fun number below => ?_⟩⟩
  have looked : (pool.descriptors.map Descriptor.toFrame)[number]? =
      some (pool.descriptor number).toFrame := by
    rw [Array.getElem?_map, getElem?_descriptors below, Option.map_some]
  rw [Sweep.frame, looked, Option.getD_some]
  exact Descriptor.resembles_toFrame _

/-- Whatever a table of descriptors holds, and wherever the hand, the loop that finds a frame for a
new page ends within two rounds, and in one way only. It gives a frame or fails for want of one,
because a file does not take back the page that is to give way, or because that page has no file.
The hand has moved on by as many frames as were visited. -/
theorem ends_within_two_rounds (pool : WordPool) (storage : Storage)
    (face : pool.clock.frames.toNat = pool.size) (pages : pool.pages.size = pool.size)
    (inside : pool.clock.hand < pool.clock.frames) :
    ∃ visits ≤ 2 * pool.size, ∃ outcome, Ends storage pool 0 visits outcome ∧
      (∀ again other, Ends storage pool 0 again other → again = visits ∧ other = outcome) ∧
      outcome.pool.clock.value = Clock.tick^[visits] pool.clock.value ∧
      pool.Gives storage outcome.result ∧ pool.claim? storage = some outcome := by
  obtain ⟨sweep, ready, clock, scans⟩ := exists_scans face inside
  obtain ⟨-, last, finding, -, found, ended⟩ := Sweep.exists_step_of_run ready
  obtain ⟨visits, within, after, counted, reached, swept, turned, ends⟩ :=
    scans.exists_ends Descriptor.depicts_resembles ended
  have pagesAfter : after.pages.size = after.size := by
    rw [swept.size, swept.pages, pages]
  obtain ⟨outcome, settled, rests, gives⟩ := exists_settle? reached found pagesAfter storage
  rw [← scans.size] at within
  have endsSo := ends storage outcome settled
  refine ⟨visits, within, outcome, endsSo, fun again other repeated => endsSo.unique repeated, ?_,
    swept.gives gives, endsSo.sweep? within⟩
  rw [rests, reached.clock, turned, clock]

/-- Two pages without a file: the first is pinned, the second is not, and neither is dirty. -/
def orphans : WordPool where
  config := ⟨2, true⟩
  pages := #[.zero 0, .zero 5]
  descriptors := #[⟨none, 0, true, true, false, 2, 1⟩, ⟨none, 5, true, true, false, 0, 1⟩]
  directory := .empty
  clock := ⟨2, 0⟩
  stats := {}

/-- The first two visits clear the marks, and the third meets the second page again. -/
theorem ends_orphans : ∃ outcome, Ends .empty orphans 0 3 outcome ∧
    outcome.result = .error (.corruptFrame 1 true false false) :=
  ⟨_, .onward rfl (.onward rfl (.found rfl rfl)), rfl⟩

/-- Both marks are cleared before a page is to give way, which has no file. -/
theorem ends_within_two_rounds_over_orphans :
    orphans.clock.frames.toNat = orphans.size ∧ orphans.pages.size = orphans.size ∧
      orphans.clock.hand < orphans.clock.frames ∧
      ∃ visits ≤ 4, ∃ outcome, Ends .empty orphans 0 visits outcome ∧ visits = 3 ∧
        outcome.result = .error (.corruptFrame 1 true false false) ∧
        outcome.pool.clock.value = ⟨2, 1⟩ := by
  have face : orphans.clock.frames.toNat = orphans.size := rfl
  have pages : orphans.pages.size = orphans.size := rfl
  have inside : orphans.clock.hand < orphans.clock.frames := by decide
  obtain ⟨visits, within, outcome, ends, unique, turned, -⟩ :=
    ends_within_two_rounds orphans .empty face pages inside
  obtain ⟨other, endsToo, corrupt⟩ := ends_orphans
  obtain ⟨rfl, rfl⟩ := unique 3 other endsToo
  exact ⟨face, pages, inside, 3, within, other, ends, rfl, corrupt, turned⟩

/-- The loop can end with an error that no write-back gives. -/
theorem not_ends_with_writeBack :
    ¬ ∀ (pool : WordPool) (storage : Storage), pool.clock.frames.toNat = pool.size →
      pool.pages.size = pool.size → pool.clock.hand < pool.clock.frames →
        ∃ visits ≤ 2 * pool.size, ∃ outcome, Ends storage pool 0 visits outcome ∧
          ((∃ number < pool.size, outcome.result = .ok number) ∨
            outcome.result = .error (.exhausted pool.size) ∨
            ∃ number written cause, pool.writeBack? storage number = some written ∧
              written.result = .error cause ∧ outcome.result = .error cause) := by
  intro claim
  obtain ⟨visits, -, outcome, ends, result⟩ := claim orphans .empty rfl rfl (by decide)
  obtain ⟨other, endsToo, corrupt⟩ := ends_orphans
  obtain ⟨-, rfl⟩ := ends.unique endsToo
  rcases result with ⟨number, -, given⟩ | exhausted | ⟨number, written, cause, asked, refused, -⟩
  · cases corrupt.symm.trans given
  · cases corrupt.symm.trans exhausted
  · -- Neither page is dirty, so that no write-back fails.
    have clean : (orphans.descriptor number).dirty = false := by
      match number with
      | 0 | 1 => rfl
      | number + 2 => rfl
    have inside : number < orphans.size := by
      refine Nat.lt_of_not_le fun past => ?_
      have missing : orphans.descriptors[number]? = none := Array.getElem?_eq_none past
      simp [writeBack?, missing] at asked
    obtain rfl := Option.some.inj (asked.symm.trans (writeBack?_of_clean inside clean .empty))
    cases refused

end WordPool

end PageCache
