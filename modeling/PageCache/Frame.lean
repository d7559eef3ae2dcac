import PageCache.Key
import PageCache.Page

/-!
# Frames

A frame is free or holds one page. Its generation grows with every change between the two, so that
a generation names one stay of one page in the frame.
-/

namespace PageCache

/-- A page held by a frame, with its marks. -/
structure Occupant where
  /-- The identity of the page. -/
  key : PageKey
  /-- The page itself, its bytes perhaps newer than those in its file. -/
  page : Page
  /-- Whether the page was used since the clock last passed. -/
  referenced : Bool
  /-- Whether the bytes have to be written back. -/
  dirty : Bool
  /-- The number of pins that keep the page in its frame, without a limit; `Frame.wrapped` is what
  32 bits keep of it. -/
  pins : Nat
deriving DecidableEq, Repr

namespace Occupant

/-- The page after one more use: referenced, and pinned once more. -/
def pinned (occupant : Occupant) : Occupant :=
  { occupant with referenced := true, pins := occupant.pins + 1 }

/-- The page with one pin less, marked as dirty if so asked. -/
def released (occupant : Occupant) (dirty : Bool) : Occupant :=
  { occupant with dirty := occupant.dirty || dirty, pins := occupant.pins - 1 }

/-- The page without the mark of a recent use. -/
def unmarked (occupant : Occupant) : Occupant := { occupant with referenced := false }

/-- The page after it was written back. -/
def cleaned (occupant : Occupant) : Occupant := { occupant with dirty := false }

/-- The page with other bytes. -/
def filled (occupant : Occupant) (data : PageData) : Occupant :=
  { occupant with page := { occupant.page with data } }

end Occupant

/-- A place for one page. -/
structure Frame where
  /-- The number of changes so far. -/
  generation : Nat
  /-- The page in the frame, if it is not free. -/
  occupant : Option Occupant
deriving DecidableEq, Repr

/-- What the clock does about the frame it reaches. -/
inductive Verdict where
  /-- The frame is free and is claimed. -/
  | claim
  /-- The page was used lately: it loses its mark and stays. -/
  | spare
  /-- The page is pinned and stays. -/
  | pass
  /-- The page gives way. -/
  | evict
deriving DecidableEq, Repr

namespace Frame

/-- A frame that never held a page. -/
def fresh : Frame := ⟨0, none⟩

/-- The frame made free. -/
def clear (frame : Frame) : Frame := ⟨frame.generation + 1, none⟩

/-- The frame with a page of a file just put in: clean, referenced and pinned once. -/
def hold (frame : Frame) (file : FileIdentity) (page : Page) : Frame :=
  ⟨frame.generation + 1, some ⟨⟨file, page.number⟩, page, true, false, 1⟩⟩

/-- The frame with its occupant, if any, changed in place. -/
def update (frame : Frame) (change : Occupant → Occupant) : Frame :=
  { frame with occupant := frame.occupant.map change }

/-- The identity of the page in the frame. -/
def key? (frame : Frame) : Option PageKey := frame.occupant.map (·.key)

/-- Whether a page is in the frame. -/
def valid (frame : Frame) : Bool := frame.occupant.isSome

/-- Whether the frame holds a page used since the clock last passed. -/
def referenced (frame : Frame) : Bool := frame.occupant.any (·.referenced)

/-- Whether the frame holds a page that has to be written back. -/
def dirty (frame : Frame) : Bool := frame.occupant.any (·.dirty)

/-- The number of pins on the page in the frame; a free frame has none. -/
def pins (frame : Frame) : Nat := frame.occupant.elim 0 (·.pins)

/-- What the clock does about the frame. -/
def verdict (frame : Frame) : Verdict :=
  match frame.occupant with
  | none => .claim
  | some occupant =>
    if occupant.referenced then .spare
    else if 0 < occupant.pins then .pass
    else .evict

/-- One line that shows the frame without the bytes of its page. -/
def describe (frame : Frame) : String :=
  let owner := frame.key?.elim "None" fun key => s!"Some(FileId({key.file.number}))"
  let page := frame.key?.elim 0 (·.page)
  s!"FrameDescriptor \x7b owner: {owner}, page_id: PageId({page}), valid: {frame.valid}, " ++
    s!"referenced: {frame.referenced}, dirty: {frame.dirty}, pin_count: {frame.pins}, " ++
    s!"generation: {frame.generation} \x7d"

@[simp] theorem occupant_fresh : fresh.occupant = none := rfl

@[simp] theorem occupant_clear (frame : Frame) : frame.clear.occupant = none := rfl

@[simp] theorem generation_clear (frame : Frame) :
    frame.clear.generation = frame.generation + 1 := rfl

@[simp] theorem generation_hold (frame : Frame) (file : FileIdentity) (page : Page) :
    (frame.hold file page).generation = frame.generation + 1 := rfl

@[simp] theorem generation_update (frame : Frame) (change : Occupant → Occupant) :
    (frame.update change).generation = frame.generation := rfl

@[simp] theorem occupant_update (frame : Frame) (change : Occupant → Occupant) :
    (frame.update change).occupant = frame.occupant.map change := rfl

@[simp] theorem key?_hold (frame : Frame) (file : FileIdentity) (page : Page) :
    (frame.hold file page).key? = some ⟨file, page.number⟩ := rfl

@[simp] theorem key?_clear (frame : Frame) : frame.clear.key? = none := rfl

/-- A change that keeps the identity of the page keeps that of the frame's page. -/
theorem key?_update (frame : Frame) {change : Occupant → Occupant}
    (keeps : ∀ occupant, (change occupant).key = occupant.key) :
    (frame.update change).key? = frame.key? := by
  cases occupied : frame.occupant <;> simp [key?, update, occupied, keeps]

theorem occupant_of_claim {frame : Frame} (claimed : frame.verdict = .claim) :
    frame.occupant = none := by
  simp only [verdict] at claimed
  split at claimed
  · assumption
  · split at claimed
    · cases claimed
    · split at claimed <;> cases claimed

/-- The page that gives way is neither referenced nor pinned. -/
theorem occupant_of_evict {frame : Frame} (evicted : frame.verdict = .evict) :
    ∃ occupant, frame.occupant = some occupant ∧ occupant.referenced = false ∧
      occupant.pins = 0 := by
  simp only [verdict] at evicted
  split at evicted
  · cases evicted
  · next occupant occupied =>
    split at evicted
    · cases evicted
    · next unreferenced =>
      split at evicted
      · cases evicted
      · next unpinned =>
        exact ⟨occupant, occupied, Bool.eq_false_iff.mpr unreferenced,
          Nat.eq_zero_of_not_pos unpinned⟩

theorem pins_of_free {frame : Frame} (free : frame.occupant = none) : frame.pins = 0 := by
  simp [pins, free]

end Frame

/-- The right to use a page, given out with a pin. -/
structure Handle where
  /-- The frame that holds the page. -/
  frame : Nat
  /-- The generation of the frame when the handle was given out. -/
  generation : Nat
  /-- The identity of the page. -/
  key : PageKey
deriving DecidableEq, Repr

end PageCache
