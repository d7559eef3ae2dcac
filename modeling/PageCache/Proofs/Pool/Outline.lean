import PageCache.Pool.Sweep

/-!
# Outlines

The outline of a pool is what is left of it without the bytes of its pages, without the marks that
tell which of them have to be written back, and without what is only told of them. Main statements:
what a pool does to find a frame and to change, remove or put in a page acts on the outline alone.
-/

namespace PageCache

/-- The page with zero bytes, and clean. -/
def Occupant.outline (occupant : Occupant) : Occupant :=
  { occupant with page := .zero occupant.key.page, dirty := false }

/-- The frame with the outline of its page. -/
def Frame.outline (frame : Frame) : Frame := frame.update Occupant.outline

/-- The pool with the outlines of its frames, without what concerns pages written back. -/
def Pool.outline (pool : Pool) : Pool :=
  { pool with
    config := { pool.config with writeBackOnDrop := false }
    frames := pool.frames.map Frame.outline
    stats := { pool.stats with writeBacks := 0 } }

/-- The sweep with the outlines of its frames. -/
def Sweep.outline (sweep : Sweep) : Sweep :=
  { sweep with frames := sweep.frames.map Frame.outline }

/-! ## Frames -/

namespace Frame

variable {frame : Frame}

@[simp] theorem generation_outline (frame : Frame) :
    frame.outline.generation = frame.generation := rfl

theorem outline_clear (frame : Frame) : frame.clear.outline = frame.outline.clear := rfl

@[simp] theorem verdict_outline (frame : Frame) : frame.outline.verdict = frame.verdict := by
  obtain ⟨generation, _ | occupant⟩ := frame <;> rfl

@[simp] theorem key?_outline (frame : Frame) : frame.outline.key? = frame.key? := by
  obtain ⟨generation, _ | occupant⟩ := frame <;> rfl

@[simp] theorem pins_outline (frame : Frame) : frame.outline.pins = frame.pins := by
  obtain ⟨generation, _ | occupant⟩ := frame <;> rfl

/-- A change that looks neither at the bytes nor at their mark acts on the outline. -/
theorem outline_update (frame : Frame) {change other : Occupant → Occupant}
    (same : ∀ occupant, (change occupant).outline = other occupant.outline) :
    (frame.update change).outline = frame.outline.update other := by
  obtain ⟨generation, _ | occupant⟩ := frame
  · rfl
  · exact congrArg (fun held => Frame.mk generation (some held)) (same occupant)

/-- Two frames with the same outline are both free, or hold the same page with the same pins. -/
theorem occupant_cases_of_outline_eq {other : Frame} (same : frame.outline = other.outline) :
    (frame.occupant = none ∧ other.occupant = none) ∨
      ∃ held heldToo, frame.occupant = some held ∧ other.occupant = some heldToo ∧
        held.outline = heldToo.outline := by
  have occupants : frame.occupant.map Occupant.outline = other.occupant.map Occupant.outline :=
    congrArg Frame.occupant same
  cases left : frame.occupant with
  | none =>
      rw [left, Option.map_none] at occupants
      exact .inl ⟨rfl, Option.map_eq_none_iff.mp occupants.symm⟩
  | some held =>
      rw [left, Option.map_some] at occupants
      obtain ⟨heldToo, right, outlines⟩ := Option.map_eq_some_iff.mp occupants.symm
      exact .inr ⟨held, heldToo, rfl, right, outlines.symm⟩

theorem outline_hold (frame : Frame) (file : FileIdentity) (page : Page) :
    (frame.hold file page).outline = frame.outline.hold file (.zero page.number) := rfl

end Frame

/-! ## Pools -/

namespace Pool

variable {pool : Pool} {number : Nat}

@[simp] theorem size_outline (pool : Pool) : pool.outline.size = pool.size :=
  Array.size_map

@[simp] theorem find?_outline (pool : Pool) (key : PageKey) :
    pool.outline.find? key = pool.find? key := rfl

@[simp] theorem frame_outline (pool : Pool) (number : Nat) :
    pool.outline.frame number = (pool.frame number).outline := by
  rw [frame, outline, Array.getElem?_map, frame]
  cases pool.frames[number]? <;> rfl

@[simp] theorem accepts_outline (pool : Pool) (handle : Handle) :
    pool.outline.accepts handle = pool.accepts handle := by
  rw [accepts, frame_outline, Frame.pins_outline, Frame.generation_outline, accepts]

theorem outline_setFrame (pool : Pool) (number : Nat) (frame : Frame) :
    (pool.setFrame number frame).outline = pool.outline.setFrame number frame.outline := by
  simp only [setFrame, outline, Array.map_setIfInBounds]

theorem setFrame_self (pool : Pool) (number : Nat) :
    pool.setFrame number (pool.frame number) = pool := by
  have same : pool.frames.setIfInBounds number (pool.frame number) = pool.frames := by
    refine Array.ext_getElem? fun other => ?_
    rw [Array.getElem?_setIfInBounds]
    split
    · next here =>
      subst here
      split
      · next inside => simp [frame, inside]
      · next past => rw [Array.getElem?_eq_none (Nat.le_of_not_lt past)]
    · rfl
  rw [setFrame, same]

/-- A change of the bytes and their mark leaves the outline as it was. -/
theorem outline_updateFrame_of_eq (pool : Pool) (number : Nat) {change : Occupant → Occupant}
    (same : ∀ occupant, (change occupant).outline = occupant.outline) :
    (pool.updateFrame number change).outline = pool.outline := by
  have frame : ((pool.frame number).update change).outline = pool.outline.frame number := by
    rw [frame_outline]
    obtain ⟨generation, _ | occupant⟩ := pool.frame number
    · rfl
    · exact congrArg (fun held => Frame.mk generation (some held)) (same occupant)
  rw [updateFrame, outline_setFrame, frame, setFrame_self]

theorem outline_updateFrame (pool : Pool) (number : Nat) {change other : Occupant → Occupant}
    (same : ∀ occupant, (change occupant).outline = other occupant.outline) :
    (pool.updateFrame number change).outline = pool.outline.updateFrame number other := by
  rw [updateFrame, outline_setFrame, Frame.outline_update _ same, updateFrame, frame_outline]

theorem outline_clearFrame (pool : Pool) (number : Nat) :
    (pool.clearFrame number).outline = pool.outline.clearFrame number := by
  rw [clearFrame, outline_setFrame, Frame.outline_clear, clearFrame, frame_outline]

theorem outline_remove (pool : Pool) (number : Nat) (key : PageKey) :
    (pool.remove number key).outline = pool.outline.remove number key := by
  have cleared := pool.outline_clearFrame number
  simp only [remove]
  rw [← cleared]
  rfl

theorem outline_install (pool : Pool) (number : Nat) (file : FileIdentity) (page : Page) :
    (pool.install number file page).2.outline =
      (pool.outline.install number file (.zero page.number)).2 := by
  have held := pool.outline_setFrame number ((pool.frame number).hold file page)
  rw [Frame.outline_hold, ← frame_outline] at held
  simp only [install]
  rw [← held]
  rfl

theorem handle_install (pool : Pool) (number : Nat) (file : FileIdentity) (page : Page) :
    (pool.install number file page).1 =
      (pool.outline.install number file (.zero page.number)).1 := by
  simp [install, Page.zero]

end Pool

/-! ## The sweep -/

namespace Sweep

theorem step_outline (sweep : Sweep) :
    sweep.outline.step = (sweep.step.1, sweep.step.2.outline) := by
  have reached : ((sweep.frames.map Frame.outline)[sweep.clock.tick.hand]?.getD .fresh) =
      (sweep.frames[sweep.clock.tick.hand]?.getD .fresh).outline := by
    rw [Array.getElem?_map]
    cases sweep.frames[sweep.clock.tick.hand]? <;> rfl
  simp only [step, outline, reached, Frame.verdict_outline, Array.size_map]
  cases (sweep.frames[sweep.clock.tick.hand]?.getD .fresh).verdict with
  | spare =>
      have bare : ∀ frame : Frame, (frame.update Occupant.unmarked).outline =
          frame.outline.update Occupant.unmarked :=
        fun frame => frame.outline_update fun _ => rfl
      simp only [Array.map_setIfInBounds, bare]
  | claim | pass | evict => rfl

theorem run_outline (visits : Nat) (sweep : Sweep) :
    run visits sweep.outline = ((run visits sweep).1, (run visits sweep).2.outline) := by
  induction visits generalizing sweep with
  | zero => rfl
  | succ visits induction =>
      simp only [run, step_outline]
      cases sweep.step with
      | mk found after => cases found <;> simp [induction]

end Sweep

namespace Pool

/-- A sweep looks at the outline alone. -/
theorem sweep_outline (pool : Pool) :
    pool.outline.sweep = (pool.sweep.1, pool.sweep.2.outline) := by
  have swept := Sweep.run_outline (2 * pool.size) ⟨pool.clock, pool.frames, 0⟩
  simp only [Sweep.outline] at swept
  simp only [sweep, size_outline]
  simp only [outline, swept]

end Pool

end PageCache
