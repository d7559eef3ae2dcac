import PageCache.FileSystem.Basic

/-!
# What a transfer changes

A transfer that reads changes no byte. One that writes changes bytes of its own file only, from its
offset on and no more of them than it was given; it takes no byte away, and if it succeeds the bytes
it was given can be read back. All but the last holds of a transfer that fails as well.
-/

namespace PageCache.FileSystem

variable {before after : FileSystem} {place : Location} {offset count : Nat}

/-- A range of bytes can be read exactly if every position in it has its byte. -/
theorem bytesFrom?_eq_some_iff (positive : 0 < count) {bytes : Vector UInt8 count} :
    before.bytesFrom? place offset count = some bytes ↔
      ∀ index (inside : index < count),
        (before.bytesAt place).toList[offset + index]? = some bytes[index] := by
  have read : ∀ index (inside : index < count),
      (((before.bytesAt place).drop offset).toVector count)[index] =
        (before.bytesAt place).toList[offset + index]?.getD 0 := by
    intro index inside
    have listed := Runs.getElem?_fit ((before.bytesAt place).drop offset) count index
    rw [if_pos inside, ← Runs.toList_toVector, Runs.toList_drop, List.getElem?_drop] at listed
    rw [Vector.getElem?_toList, Vector.getElem?_eq_getElem inside] at listed
    exact Option.some.inj listed
  simp only [bytesFrom?]
  split
  · next fits =>
    rw [Option.some.injEq]
    constructor
    · rintro rfl index inside
      have present : offset + index < (before.bytesAt place).toList.length := by
        rw [Runs.length_toList]
        omega
      rw [read index inside, List.getElem?_eq_getElem present, Option.getD_some]
    · intro each
      refine Vector.ext fun index inside => ?_
      rw [read index inside, each index inside, Option.getD_some]
  · next short =>
    refine iff_of_false (by simp) fun each => short ?_
    have last := each (count - 1) (by omega)
    obtain ⟨present, -⟩ := List.getElem?_eq_some_iff.mp last
    rw [Runs.length_toList] at present
    omega

theorem isSome_bytesFrom? (system : FileSystem) (place : Location) (offset count : Nat) :
    (system.bytesFrom? place offset count).isSome ↔
      offset + count ≤ (system.bytesAt place).size := by
  simp only [bytesFrom?]
  split
  · next fits => simp [fits]
  · next short => simp [short]

/-- Nothing but the bytes of one file in one range may have changed, and no byte was taken away. -/
structure Within (target : Target) (offset limit : Nat) (before after : FileSystem) : Prop where
  /-- The same faults are foreseen. -/
  faults : after.faults = before.faults
  /-- No file is shorter. -/
  size : ∀ place, (before.bytesAt place).size ≤ (after.bytesAt place).size
  /-- The other files are as they were. -/
  others : ∀ place, target ≠ .regular place → after.bytesAt place = before.bytesAt place
  /-- The bytes of the file outside the range are as they were. -/
  outside : ∀ place index byte, (before.bytesAt place).toList[index]? = some byte →
    index < offset ∨ offset + limit ≤ index → (after.bytesAt place).toList[index]? = some byte

theorem within_of_same {target : Target} {limit : Nat} (faults : after.faults = before.faults)
    (same : ∀ place, after.bytesAt place = before.bytesAt place) :
    Within target offset limit before after where
  faults := faults
  size := fun place => Nat.le_of_eq (congrArg Runs.size (same place)).symm
  others := fun place _ => same place
  outside := fun place _ _ present _ => (same place).symm ▸ present

theorem bytesAt_splice (system : FileSystem) (transfer : Transfer) (place : Location)
    (offset : Nat) (news : Array UInt8) (other : Location) :
    ((system.note transfer).splice place offset news).bytesAt other =
      if place = other then (system.bytesAt place).splice offset news
      else system.bytesAt other :=
  bytesAt_setBytes ..

theorem within_splice (system : FileSystem) (transfer : Transfer) (place : Location)
    (offset : Nat) {news : Array UInt8} {limit : Nat} (fits : news.size ≤ limit) :
    Within (.regular place) offset limit system
      ((system.note transfer).splice place offset news) := by
  have bytes := system.bytesAt_splice transfer place offset news
  refine ⟨rfl, fun other => ?_, fun other different => ?_, fun other index byte present free => ?_⟩
  · rw [bytes]
    split
    · next equal =>
      rw [← equal, Runs.size_splice]
      exact Nat.le_max_left _ _
    · exact Nat.le_refl _
  · rw [bytes, if_neg]
    rintro rfl
    exact different rfl
  · rw [bytes]
    split
    · next equal =>
      subst equal
      rw [Runs.getElem?_splice]
      rcases free with early | late
      · rw [if_pos early, present, Option.getD_some]
      · rw [if_neg (by omega), if_neg (by omega), present]
    · exact present

/-- A write changes its own range at most, also when it fails. -/
theorem within_writeAt (system : FileSystem) (target : Target) (offset : Nat)
    (news : Array UInt8) :
    Within target offset news.size system (system.writeAt target offset news).2 := by
  simp only [writeAt]
  split
  · exact within_splice system _ _ offset (Nat.le_refl _)
  · exact within_of_same rfl fun _ => rfl
  · next place _ _ =>
    refine within_splice system _ place offset ?_
    rw [Array.size_extract]
    omega
  · exact within_of_same rfl fun _ => rfl

/-- The bytes that were placed somewhere can be read there. -/
theorem bytesFrom?_splice (system : FileSystem) (transfer : Transfer) (place : Location)
    (offset : Nat) (positive : 0 < count) (data : Vector UInt8 count) :
    ((system.note transfer).splice place offset data.toArray).bytesFrom? place offset count =
      some data := by
  refine (bytesFrom?_eq_some_iff positive).mpr fun index inside => ?_
  rw [bytesAt_splice, if_pos rfl, Runs.getElem?_splice, if_neg (by omega),
    if_pos (by rw [Vector.size_toArray]; omega), Nat.add_sub_cancel_left]
  simp [inside]

/-- A write that succeeds can be read back. -/
theorem bytesFrom?_writeAt {system : FileSystem} {target : Target} {data : Vector UInt8 count}
    (positive : 0 < count) (taken : (system.writeAt target offset data.toArray).1 = .ok ()) :
    ∃ place, target = .regular place ∧
      (system.writeAt target offset data.toArray).2.bytesFrom? place offset count =
        some data := by
  simp only [writeAt] at taken ⊢
  split at taken
  · exact ⟨_, rfl, system.bytesFrom?_splice _ _ offset positive data⟩
  · cases taken
  · cases taken
  · cases taken

/-- A range of bytes that a write leaves alone reads the same afterwards. -/
theorem Within.bytesFrom? {target : Target} {start limit : Nat}
    (within : Within target start limit before after) (positive : 0 < count)
    (present : (before.bytesFrom? place offset count).isSome)
    (apart : target ≠ .regular place ∨ offset + count ≤ start ∨ start + limit ≤ offset) :
    after.bytesFrom? place offset count = before.bytesFrom? place offset count := by
  obtain ⟨bytes, found⟩ := Option.isSome_iff_exists.mp present
  rw [found]
  refine (bytesFrom?_eq_some_iff positive).mpr fun index inside => ?_
  have held := (bytesFrom?_eq_some_iff positive).mp found index inside
  rcases apart with other | early | late
  · rw [within.others place other]
    exact held
  · exact within.outside place _ _ held (.inl (by omega))
  · exact within.outside place _ _ held (.inr (by omega))

end PageCache.FileSystem
