import PageCache.Proofs.Pool.Soundness

/-!
# Resident pages

In a sound pool the page of a key is found through the directory in the frame that holds it. Main
statements: each change of a pool has an effect on the residence of one page at most.
-/

namespace PageCache.Pool

/-- The page of a key with its marks, if it is resident. -/
def held? (pool : Pool) (key : PageKey) : Option Occupant :=
  (pool.find? key).bind fun number => (pool.frame number).occupant

variable {pool : Pool} {storage : Storage} {key : PageKey}

theorem held?_of_absent (absent : pool.find? key = none) : pool.held? key = none := by
  rw [held?, absent, Option.bind_none]

namespace Sound

theorem held?_of_occupied (sound : pool.Sound storage) {number : Nat} {occupant : Occupant}
    (occupied : (pool.frame number).occupant = some occupant) :
    pool.held? occupant.key = some occupant := by
  rw [held?, sound.find?_of_occupied occupied, Option.bind_some, occupied]

/-- A change of an occupant in place is a change of the page that it is. -/
theorem held?_updateFrame (sound : pool.Sound storage) {number : Nat} {occupant : Occupant}
    (occupied : (pool.frame number).occupant = some occupant) (change : Occupant → Occupant)
    (other : PageKey) :
    (pool.updateFrame number change).held? other =
      if occupant.key = other then some (change occupant) else pool.held? other := by
  have same : (pool.updateFrame number change).find? other = pool.find? other := rfl
  rw [held?, same]
  cases resident : pool.find? other with
  | none =>
      have different : occupant.key ≠ other := by
        rintro rfl
        cases (sound.find?_of_occupied occupied).symm.trans resident
      rw [if_neg different, held?, resident, Option.bind_none, Option.bind_none]
  | some place =>
      obtain ⟨holder, holds, rfl⟩ := sound.occupied_of_find? resident
      rw [Option.bind_some, frame_updateFrame]
      split
      · next equal =>
        subst equal
        obtain rfl := Option.some.inj (occupied.symm.trans holds)
        rw [if_pos rfl, Frame.occupant_update, occupied, Option.map_some]
      · next different =>
        have elsewhere : occupant.key ≠ holder.key := by
          intro equal
          exact different (sound.number_unique (Frame.key?_of_occupied occupied)
            (equal ▸ Frame.key?_of_occupied holds))
        rw [if_neg elsewhere, held?, resident, Option.bind_some]

theorem held?_updateFrame_of_free {number : Nat} (free : (pool.frame number).occupant = none)
    (change : Occupant → Occupant) (other : PageKey) :
    (pool.updateFrame number change).held? other = pool.held? other := by
  have same : ∀ place, ((pool.updateFrame number change).frame place).occupant =
      (pool.frame place).occupant := by
    intro place
    rw [frame_updateFrame]
    split
    · next equal =>
      subst equal
      rw [Frame.occupant_update, free, Option.map_none]
    · rfl
  simp only [held?, same]
  rfl

theorem held?_clearFrame {number : Nat} (free : (pool.frame number).occupant = none)
    (other : PageKey) : (pool.clearFrame number).held? other = pool.held? other := by
  have same : ∀ place, ((pool.clearFrame number).frame place).occupant =
      (pool.frame place).occupant := by
    intro place
    rw [occupant_clearFrame]
    split
    · next equal => rw [← equal, free]
    · rfl
  simp only [held?, same]
  rfl

/-- A page that leaves its frame is the only one that is no longer resident. -/
theorem held?_remove (sound : pool.Sound storage) {number : Nat} {occupant : Occupant}
    (occupied : (pool.frame number).occupant = some occupant) (other : PageKey) :
    (pool.remove number occupant.key).held? other =
      if occupant.key = other then none else pool.held? other := by
  rw [held?, find?_remove]
  split
  · rfl
  · next different =>
    cases resident : pool.find? other with
    | none => rw [held?, resident, Option.bind_none, Option.bind_none]
    | some place =>
        obtain ⟨holder, holds, rfl⟩ := sound.occupied_of_find? resident
        have elsewhere : number ≠ place := by
          rintro rfl
          exact different (congrArg Occupant.key (Option.some.inj (occupied.symm.trans holds)))
        rw [held?, resident, Option.bind_some, Option.bind_some]
        exact congrArg Frame.occupant (pool.frame_clearFrame_of_ne elsewhere)

/-- A page that is put into a free frame is the only one that becomes resident. -/
theorem held?_install (sound : pool.Sound storage) {number : Nat} (inside : number < pool.size)
    (free : (pool.frame number).occupant = none) (file : FileIdentity) (page : Page)
    (other : PageKey) :
    (pool.install number file page).2.held? other =
      if ⟨file, page.number⟩ = other then some ⟨⟨file, page.number⟩, page, true, false, 1⟩
      else pool.held? other := by
  rw [held?, find?_install]
  split
  · rw [Option.bind_some, frame_install inside, if_pos rfl]
    rfl
  · cases resident : pool.find? other with
    | none => rw [held?, resident, Option.bind_none, Option.bind_none]
    | some place =>
        obtain ⟨holder, holds, -⟩ := sound.occupied_of_find? resident
        have elsewhere : number ≠ place := by
          rintro rfl
          cases free.symm.trans holds
        rw [held?, resident, Option.bind_some, Option.bind_some, frame_install inside,
          if_neg elsewhere]

theorem held?_forget (sound : pool.Sound storage) (key other : PageKey) :
    (pool.forget key).1.held? other = if key = other then none else pool.held? other := by
  simp only [Pool.forget]
  split
  · next absent =>
    split
    · next equal => exact held?_of_absent (equal ▸ absent)
    · rfl
  · next number resident =>
    obtain ⟨occupant, occupied, rfl⟩ := sound.occupied_of_find? resident
    exact sound.held?_remove occupied other

end Sound

end PageCache.Pool
