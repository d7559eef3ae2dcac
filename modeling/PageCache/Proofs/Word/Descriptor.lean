import PageCache.Proofs.Pool.PinLimit

/-!
# Descriptors of frames

A machine describes a frame by seven fields, each of which it writes by itself, and keeps the pins
in 32 bits. A frame of a pool tells the same with one page or none. Main statements: clearing and
setting a descriptor is making a frame free and putting a page into it, each change of one field is
the change of the page in the frame, and the clock sees the same in both as long as the pins fit.
-/

namespace PageCache

/-- The largest number of a file that fits into 32 bits. -/
def fileLimit : Nat := 4294967295

namespace FileIdentity

/-- The number by which a machine knows a file, which wraps at 32 bits. -/
def word (file : FileIdentity) : UInt32 := .ofNat file.number

/-- The next file gets the next number, and zero comes after the largest. -/
theorem word_succ (number : Nat) : word ⟨number + 1⟩ = word ⟨number⟩ + 1 :=
  UInt32.ofNat_add number 1

theorem toNat_word {file : FileIdentity} (fits : file.number ≤ fileLimit) :
    file.word.toNat = file.number :=
  UInt32.toNat_ofNat_of_lt' (Nat.lt_succ_of_le fits)

/-- Files with numbers of 32 bits are told from each other. -/
theorem word_inj {file other : FileIdentity} (fits : file.number ≤ fileLimit)
    (fitsToo : other.number ≤ fileLimit) : file.word = other.word ↔ file = other := by
  refine ⟨fun same => ?_, congrArg word⟩
  have numbers := congrArg UInt32.toNat same
  rw [toNat_word fits, toNat_word fitsToo] at numbers
  exact congrArg mk numbers

end FileIdentity

/-- The key under which a machine lists a page: the file is known by its number in 32 bits. -/
def PageKey.word (key : PageKey) : PageKey := ⟨⟨key.file.word.toNat⟩, key.page⟩

theorem PageKey.word_eq {key : PageKey} (fits : key.file.number ≤ fileLimit) : key.word = key := by
  rw [word, FileIdentity.toNat_word fits]

/-- What a machine notes of one frame. -/
structure Descriptor where
  /-- The file whose page is in the frame. -/
  owner : Option FileIdentity
  /-- The number of the page. -/
  page : Nat
  /-- Whether there is a page in the frame. -/
  valid : Bool
  /-- Whether the page was used since the clock last passed. -/
  referenced : Bool
  /-- Whether the page has to be written back. -/
  dirty : Bool
  /-- The pins of the page. -/
  pins : UInt32
  /-- The number of changes so far. -/
  generation : Nat
deriving DecidableEq, Repr

namespace Descriptor

/-- A frame that never held a page. -/
def fresh : Descriptor := ⟨none, 0, false, false, false, 0, 0⟩

/-- The frame made free: every field but the generation is as in a new one. -/
def clear (descriptor : Descriptor) : Descriptor :=
  { fresh with generation := descriptor.generation + 1 }

/-- The frame with a page of a file, pinned once. -/
def set (descriptor : Descriptor) (file : FileIdentity) (page : Nat) : Descriptor :=
  ⟨some file, page, true, true, false, 1, descriptor.generation + 1⟩

/-- What the clock does about the frame. -/
def verdict (descriptor : Descriptor) : Verdict :=
  if !descriptor.valid then .claim
  else if descriptor.referenced then .spare
  else if 0 < descriptor.pins then .pass
  else .evict

/-- The complaint that the fields contradict each other. -/
def corrupt (descriptor : Descriptor) (number : Nat) : PoolError :=
  .corruptFrame number descriptor.valid descriptor.dirty descriptor.referenced

/-- What a machine notes of a frame. -/
def ofFrame (frame : Frame) : Descriptor :=
  match frame.occupant with
  | none => { fresh with generation := frame.generation }
  | some occupant =>
    ⟨some occupant.key.file, occupant.key.page, true, occupant.referenced, occupant.dirty,
      .ofNat occupant.pins, frame.generation⟩

/-! ## Changes of a descriptor and of a frame -/

variable {frame : Frame} {occupant : Occupant}

theorem ofFrame_of_occupied (occupied : frame.occupant = some occupant) :
    ofFrame frame = ⟨some occupant.key.file, occupant.key.page, true, occupant.referenced,
      occupant.dirty, .ofNat occupant.pins, frame.generation⟩ := by
  simp only [ofFrame, occupied]

theorem ofFrame_of_free (free : frame.occupant = none) :
    ofFrame frame = { fresh with generation := frame.generation } := by
  simp only [ofFrame, free]

@[simp] theorem ofFrame_fresh : ofFrame .fresh = fresh := rfl

@[simp] theorem generation_ofFrame (frame : Frame) :
    (ofFrame frame).generation = frame.generation := by
  unfold ofFrame
  split <;> rfl

@[simp] theorem valid_ofFrame (frame : Frame) : (ofFrame frame).valid = frame.valid := by
  unfold ofFrame Frame.valid
  split <;> simp_all [fresh]

theorem ofFrame_clear (frame : Frame) : ofFrame frame.clear = (ofFrame frame).clear := by
  rw [clear, generation_ofFrame]
  rfl

theorem ofFrame_hold (frame : Frame) (file : FileIdentity) (page : Page) :
    ofFrame (frame.hold file page) = (ofFrame frame).set file page.number := by
  rw [set, generation_ofFrame]
  rfl

/-- A change of the page in a frame that keeps its identity is a change of the four other fields. -/
theorem ofFrame_update (occupied : frame.occupant = some occupant) {change : Occupant → Occupant}
    (key : (change occupant).key = occupant.key) :
    ofFrame (frame.update change) =
      { ofFrame frame with
        referenced := (change occupant).referenced
        dirty := (change occupant).dirty
        pins := .ofNat (change occupant).pins } := by
  have changed : (frame.update change).occupant = some (change occupant) := by
    rw [Frame.occupant_update, occupied, Option.map_some]
  rw [ofFrame_of_occupied changed, ofFrame_of_occupied occupied, key]
  rfl

theorem ofFrame_update_of_free (free : frame.occupant = none) (change : Occupant → Occupant) :
    ofFrame (frame.update change) = ofFrame frame := by
  have still : (frame.update change).occupant = none := by
    rw [Frame.occupant_update, free, Option.map_none]
  rw [ofFrame_of_free still, ofFrame_of_free free]
  rfl

theorem ofFrame_unmarked (frame : Frame) :
    ofFrame (frame.update Occupant.unmarked) = { ofFrame frame with referenced := false } := by
  cases occupied : frame.occupant with
  | none => rw [ofFrame_update_of_free occupied, ofFrame_of_free occupied]; rfl
  | some occupant =>
      rw [ofFrame_update occupied rfl, ofFrame_of_occupied occupied]
      rfl

theorem ofFrame_cleaned (occupied : frame.occupant = some occupant) :
    ofFrame (frame.update Occupant.cleaned) = { ofFrame frame with dirty := false } := by
  rw [ofFrame_update occupied rfl, ofFrame_of_occupied occupied]
  rfl

/-- One more pin wraps in both. -/
theorem ofFrame_pinned (occupied : frame.occupant = some occupant) :
    ofFrame (frame.update Occupant.pinned) =
      { ofFrame frame with referenced := true, pins := (ofFrame frame).pins + 1 } := by
  rw [ofFrame_update occupied rfl, ofFrame_of_occupied occupied]
  simp [Occupant.pinned, UInt32.ofNat_add]

theorem ofFrame_released (occupied : frame.occupant = some occupant) (pinned : 0 < occupant.pins)
    (dirty : Bool) :
    ofFrame (frame.update fun occupant => occupant.released dirty) =
      { ofFrame frame with
        dirty := (ofFrame frame).dirty || dirty
        pins := (ofFrame frame).pins - 1 } := by
  rw [ofFrame_update occupied rfl, ofFrame_of_occupied occupied]
  simp [Occupant.released, UInt32.ofNat_sub (Nat.succ_le_of_lt pinned)]

theorem ofFrame_filled (frame : Frame) (data : PageData) :
    ofFrame (frame.update fun occupant => occupant.filled data) = ofFrame frame := by
  cases occupied : frame.occupant with
  | none => exact ofFrame_update_of_free occupied _
  | some occupant =>
      rw [ofFrame_update occupied rfl, ofFrame_of_occupied occupied]
      rfl

/-- A descriptor shows no more of the pins than 32 bits. -/
theorem ofFrame_wrapped (frame : Frame) : ofFrame frame.wrapped = ofFrame frame := by
  cases occupied : frame.occupant with
  | none => exact ofFrame_update_of_free occupied _
  | some occupant =>
      rw [Frame.wrapped, ofFrame_update occupied rfl, ofFrame_of_occupied occupied]
      simp only [show occupant.pins % (pinLimit + 1) = occupant.pins % 2 ^ 32 from rfl,
        UInt32.ofNat_mod_size]

/-! ## Pins that fit -/

/-- Pins that fit are the same in both. -/
theorem toNat_pins (fits : frame.pins ≤ pinLimit) : (ofFrame frame).pins.toNat = frame.pins := by
  cases occupied : frame.occupant with
  | none =>
      rw [ofFrame_of_free occupied, Frame.pins_of_free occupied]
      rfl
  | some occupant =>
      simp only [Frame.pins, occupied, Option.elim_some] at fits ⊢
      rw [ofFrame_of_occupied occupied]
      exact UInt32.toNat_ofNat_of_lt' (Nat.lt_succ_of_le fits)

theorem pins_pos_iff (fits : frame.pins ≤ pinLimit) :
    0 < (ofFrame frame).pins ↔ 0 < frame.pins := by
  rw [UInt32.lt_iff_toNat_lt, toNat_pins fits, UInt32.toNat_zero]

theorem pins_eq_zero_iff (fits : frame.pins ≤ pinLimit) :
    (ofFrame frame).pins = 0 ↔ frame.pins = 0 := by
  rw [← UInt32.toNat_inj, toNat_pins fits, UInt32.toNat_zero]

/-- The clock sees the same in both. -/
theorem verdict_ofFrame (fits : frame.pins ≤ pinLimit) :
    (ofFrame frame).verdict = frame.verdict := by
  have pinned := pins_pos_iff fits
  cases occupied : frame.occupant with
  | none => simp [verdict, Frame.verdict, ofFrame_of_free occupied, occupied, fresh]
  | some occupant =>
      simp only [Frame.pins, occupied, Option.elim_some] at pinned
      simp only [verdict, Frame.verdict, occupied, pinned]
      rw [ofFrame_of_occupied occupied]
      rfl

end Descriptor

end PageCache
