import Mathlib.Data.List.Forall2
import PageCache.Proofs.Pool.Backed
import PageCache.Proofs.Pool.Consistency
import PageCache.Proofs.Pool.Handle
import PageCache.Proofs.Pool.Outline
import PageCache.Proofs.Storage.Likeness

/-!
# Replacement does not look at bytes

Two pools of one size do the same over files in memory with the same pages. Main statement: as long
as the files are used through the pools alone, two runs that differ in the bytes of the files, in
the bytes that are written and in which pages are said to be dirty agree at every step on the result
and on all that is seen of the pools, except for dirty marks, bytes and the count of pages written
back.
-/

namespace PageCache

/-- The action with zero bytes, and without the word that a page is dirty. -/
def Action.outline : Action → Action
  | .releasePage key _ => .releasePage key false
  | .release handle _ => .release handle false
  | .write handle _ => .write handle .zero
  | action => action

/-- What each of a list of actions gives and leaves behind. -/
def Pool.outcomes (pool : Pool) (storage : Storage) :
    List Action → List (Outcome (Option Handle))
  | [] => []
  | action :: rest =>
    let first := pool.act storage action
    first :: first.pool.outcomes first.storage rest

/-- All that is seen of two pools is the same, except for dirty marks, bytes and the count of pages
written back. -/
structure Pool.Agree (first second : Pool) : Prop where
  /-- They have the same number of frames. -/
  size : first.size = second.size
  /-- The marks of each frame are the same, but for dirty marks. -/
  views : ∀ number,
    { first.view number with dirty := false } = { second.view number with dirty := false }
  /-- The generation of each frame is the same. -/
  generation : ∀ number, (first.frame number).generation = (second.frame number).generation
  /-- The directories are the same. -/
  directory : first.directory = second.directory
  /-- The hands of the clocks are on the same frame. -/
  clock : first.clock = second.clock
  /-- The counters are the same, but for that of pages written back. -/
  stats : { first.stats with writeBacks := 0 } = { second.stats with writeBacks := 0 }
  /-- The same handles are accepted. -/
  accepts : ∀ handle, first.accepts handle = second.accepts handle
  /-- They lead to the same pages, or are refused for the same reason. -/
  page : ∀ handle,
    (first.page handle).map (·.number) = (second.page handle).map (·.number)

/-- Two outcomes have the same result, and leave pools behind that agree. -/
structure Outcome.Agree (first second : Outcome (Option Handle)) : Prop where
  /-- The results are the same, down to the handle or the failure. -/
  result : first.result = second.result
  /-- The pools agree. -/
  pool : first.pool.Agree second.pool

/-! ## Pools over files in memory -/

/-- The pool is sound over files in memory, which have all its resident pages. -/
structure World.Secure (world : World) : Prop where
  /-- The pool is sound. -/
  sound : world.1.Sound world.2
  /-- Every resident page is in its file. -/
  backed : world.Backed
  /-- The files are held in memory. -/
  memory : world.2.InMemory

theorem Upkeep.inMemory {before after : World} (step : Upkeep before after)
    (memory : before.2.InMemory) : after.2.InMemory := by
  cases step with
  | clean | refuse => exact memory.write _ _
  | _ => exact memory

theorem Upkeeps.inMemory {before after : World} (upkeeps : Upkeeps before after)
    (memory : before.2.InMemory) : after.2.InMemory := by
  induction upkeeps with
  | refl => exact memory
  | tail _ step induction => exact step.inMemory induction

theorem Effect.inMemory {action : Action} {before after : World}
    {result : Except PoolError (Option Handle)} (effect : Effect action before result after)
    (memory : before.2.InMemory) : after.2.InMemory := by
  induction effect with
  | load | unread => exact memory.read _ _
  | create | uncreated => exact memory.allocate _
  | erase | drop => exact memory.delete _ _
  | handBack _ _ induction => exact induction memory
  | _ => exact memory

namespace World.Secure

variable {pool : Pool} {storage : Storage}

theorem upkeeps {before after : World} (secure : before.Secure) (upkeeps : Upkeeps before after) :
    after.Secure :=
  ⟨Upkeeps.sound upkeeps secure.sound, Upkeeps.backed upkeeps secure.backed,
    Upkeeps.inMemory upkeeps secure.memory⟩

theorem act (secure : World.Secure (pool, storage)) (action : Action) :
    World.Secure ((pool.act storage action).pool, (pool.act storage action).storage) := by
  have sound : pool.Sound storage := secure.sound
  obtain ⟨middle, upkeeps, effect⟩ := Pool.effect_act sound.face sound.positive storage action
  exact ⟨sound.act action, secure.backed.act sound action,
    effect.inMemory (Upkeeps.inMemory upkeeps secure.memory)⟩

theorem of_made {config : Config} (made : Pool.ofConfig config = .ok pool)
    (memory : storage.InMemory) : World.Secure (pool, storage) := by
  refine ⟨Pool.sound_ofConfig made storage, ⟨memory.bounded, ?_⟩, memory⟩
  obtain rfl := Pool.eq_empty_of_made made
  intro key resident
  exact absurd (Pool.find?_empty config key) resident

end World.Secure

/-! ## Worlds that look alike -/

/-- Two pools have the same outline, over files with the same pages. -/
structure World.Alike (first second : World) : Prop where
  /-- The outlines are the same. -/
  outline : first.1.outline = second.1.outline
  /-- The files have the same pages. -/
  storage : first.2.Resembles second.2

/-- Two operations give the same and leave worlds behind that look alike. -/
structure Outcome.Alike {Value : Type} (first second : Outcome Value) : Prop where
  /-- The results are the same. -/
  result : first.result = second.result
  /-- The worlds look alike. -/
  world : World.Alike (first.pool, first.storage) (second.pool, second.storage)

namespace World.Alike

variable {first second third : World}

theorem symm (alike : first.Alike second) : second.Alike first :=
  ⟨alike.outline.symm, alike.storage.symm⟩

theorem trans (early : first.Alike second) (late : second.Alike third) : first.Alike third :=
  ⟨early.outline.trans late.outline, early.storage.trans late.storage⟩

theorem frame (alike : first.Alike second) (number : Nat) :
    (first.1.frame number).outline = (second.1.frame number).outline := by
  rw [← Pool.frame_outline, alike.outline, Pool.frame_outline]

theorem find? (alike : first.Alike second) (key : PageKey) :
    first.1.find? key = second.1.find? key := by
  rw [← Pool.find?_outline, alike.outline, Pool.find?_outline]

theorem size (alike : first.Alike second) : first.1.size = second.1.size := by
  rw [← Pool.size_outline, alike.outline, Pool.size_outline]

theorem accepts (alike : first.Alike second) (handle : Handle) :
    first.1.accepts handle = second.1.accepts handle := by
  rw [← Pool.accepts_outline, alike.outline, Pool.accepts_outline]

theorem pins (alike : first.Alike second) (number : Nat) :
    (first.1.frame number).pins = (second.1.frame number).pins := by
  rw [← Frame.pins_outline, alike.frame, Frame.pins_outline]

theorem generation (alike : first.Alike second) (number : Nat) :
    (first.1.frame number).generation = (second.1.frame number).generation := by
  rw [← Frame.generation_outline, alike.frame, Frame.generation_outline]

theorem key? (alike : first.Alike second) (number : Nat) :
    (first.1.frame number).key? = (second.1.frame number).key? := by
  rw [← Frame.key?_outline, alike.frame, Frame.key?_outline]

end World.Alike

namespace Outcome.Alike

theorem andThen {Value Next : Type} {first second : Outcome Value}
    {next nextToo : Value → Pool → Storage → Outcome Next} (alike : first.Alike second)
    (later : ∀ value, first.result = .ok value →
      (next value first.pool first.storage).Alike (nextToo value second.pool second.storage)) :
    (first.andThen next).Alike (second.andThen nextToo) := by
  cases given : first.result with
  | error cause =>
      have givenToo := alike.result.symm.trans given
      rw [Outcome.andThen_of_error given, Outcome.andThen_of_error givenToo]
      exact ⟨rfl, alike.world⟩
  | ok value =>
      have givenToo := alike.result.symm.trans given
      have continued := later value given
      rw [Outcome.andThen_of_ok given, Outcome.andThen_of_ok givenToo]
      exact ⟨continued.result, continued.world⟩

theorem map {Value Next : Type} {first second : Outcome Value} (alike : first.Alike second)
    (change : Value → Next) : (first.map change).Alike (second.map change) :=
  ⟨congrArg (Except.map change) alike.result, alike.world⟩

end Outcome.Alike

/-! ## Writing back and making room -/

/-- A write-back never fails, and nothing is seen of it. -/
theorem World.Secure.writeBack {pool : Pool} {storage : Storage}
    (secure : World.Secure (pool, storage)) (number : Nat) :
    (pool.writeBack storage number).result = .ok () ∧
      World.Alike ((pool.writeBack storage number).pool, (pool.writeBack storage number).storage)
        (pool, storage) := by
  simp only [Pool.writeBack]
  split
  · exact ⟨rfl, rfl, .refl _⟩
  · next occupant occupied =>
    have sound : pool.Sound storage := secure.sound
    have numbered := sound.numbered number occupant occupied
    -- The page is resident, so its file has it, and a file in memory takes what it has.
    have resident : pool.find? occupant.key ≠ none := by
      rw [sound.find?_of_occupied occupied]
      exact Option.some_ne_none number
    have live : storage.has ⟨occupant.key.file, occupant.page.number⟩ = true := by
      rw [numbered]
      exact secure.backed.live occupant.key resident
    have taken := secure.memory.answer_write live
    split
    · simp only [taken]
      refine ⟨rfl, ?_, (Storage.Resembles.of_write storage _ _).symm⟩
      exact pool.outline_updateFrame_of_eq number fun _ => rfl
    · exact ⟨rfl, rfl, .refl _⟩

namespace World.Alike

variable {first second : Pool} {storage other : Storage}

theorem sweep (alike : World.Alike (first, storage) (second, other)) :
    first.sweep.1 = second.sweep.1 ∧
      World.Alike (first.sweep.2, storage) (second.sweep.2, other) := by
  have swept : (first.sweep.1, first.sweep.2.outline) =
      (second.sweep.1, second.sweep.2.outline) := by
    have outline : first.outline = second.outline := alike.outline
    rw [← Pool.sweep_outline, ← Pool.sweep_outline, outline]
  obtain ⟨found, outline⟩ := Prod.mk.inj swept
  exact ⟨found, outline, alike.storage⟩

theorem writeBack (alike : World.Alike (first, storage) (second, other))
    (secure : World.Secure (first, storage)) (secureToo : World.Secure (second, other))
    (number : Nat) : (first.writeBack storage number).Alike (second.writeBack other number) := by
  obtain ⟨done, same⟩ := secure.writeBack number
  obtain ⟨doneToo, sameToo⟩ := secureToo.writeBack number
  exact ⟨done.trans doneToo.symm, (same.trans alike).trans sameToo.symm⟩

theorem remove (alike : World.Alike (first, storage) (second, other)) (number : Nat)
    (key : PageKey) :
    World.Alike (first.remove number key, storage) (second.remove number key, other) := by
  refine ⟨?_, alike.storage⟩
  rw [Pool.outline_remove, Pool.outline_remove, alike.outline]

theorem clearFrame (alike : World.Alike (first, storage) (second, other)) (number : Nat) :
    World.Alike (first.clearFrame number, storage) (second.clearFrame number, other) := by
  refine ⟨?_, alike.storage⟩
  rw [Pool.outline_clearFrame, Pool.outline_clearFrame, alike.outline]

/-- Counting something else than pages written back is seen on both sides. -/
theorem count (alike : World.Alike (first, storage) (second, other)) (change : Stats → Stats)
    (apart : ∀ stats : Stats, { change stats with writeBacks := 0 } =
      change { stats with writeBacks := 0 }) :
    World.Alike (first.count change, storage) (second.count change, other) := by
  have counted : ∀ pool : Pool, (pool.count change).outline = pool.outline.count change := by
    intro pool
    simp only [Pool.outline, Pool.count, apart]
  refine ⟨?_, alike.storage⟩
  rw [counted, counted, alike.outline]

theorem updateFrame (alike : World.Alike (first, storage) (second, other)) (number : Nat)
    {change changeToo : Occupant → Occupant} (bare : Occupant → Occupant)
    (same : ∀ occupant, (change occupant).outline = bare occupant.outline)
    (sameToo : ∀ occupant, (changeToo occupant).outline = bare occupant.outline) :
    World.Alike (first.updateFrame number change, storage)
      (second.updateFrame number changeToo, other) := by
  refine ⟨?_, alike.storage⟩
  rw [Pool.outline_updateFrame _ _ same, Pool.outline_updateFrame _ _ sameToo, alike.outline]

theorem install (alike : World.Alike (first, storage) (second, other)) (number : Nat)
    (file : FileIdentity) (page pageToo : Page) (same : page.number = pageToo.number) :
    (first.install number file page).1 = (second.install number file pageToo).1 ∧
      World.Alike ((first.install number file page).2, storage)
        ((second.install number file pageToo).2, other) := by
  have outline : first.outline = second.outline := alike.outline
  refine ⟨?_, ?_, alike.storage⟩
  · rw [first.handle_install number file page, second.handle_install number file pageToo, outline,
      same]
  · rw [Pool.outline_install, Pool.outline_install, alike.outline, same]

theorem evict (alike : World.Alike (first, storage) (second, other)) (number : Nat) :
    (first.evict storage number).Alike (second.evict other number) := by
  have same : (first.frame number).key? = (second.frame number).key? := alike.key? number
  simp only [Pool.evict, same]
  cases (second.frame number).key? with
  | none => exact ⟨rfl, alike⟩
  | some key =>
      have counted := (alike.remove number key).count
        (fun stats => { stats with evictions := stats.evictions + 1 }) fun _ => rfl
      exact ⟨rfl, counted⟩

theorem claim (alike : World.Alike (first, storage) (second, other))
    (secure : World.Secure (first, storage)) (secureToo : World.Secure (second, other)) :
    (first.claim storage).Alike (second.claim other) := by
  obtain ⟨found, swept⟩ := alike.sweep
  have sizes : first.sweep.2.size = second.sweep.2.size := swept.size
  simp only [Pool.claim, found, sizes]
  cases second.sweep.1 with
  | free number => exact ⟨rfl, swept.clearFrame number⟩
  | victim number =>
      have secureSwept := secure.upkeeps (first.upkeeps_sweep storage)
      have secureSweptToo := secureToo.upkeeps (second.upkeeps_sweep other)
      have written := swept.writeBack secureSwept secureSweptToo number
      exact written.andThen fun _ _ => written.world.evict number
  | exhausted => exact ⟨rfl, swept⟩

/-! ## Pinning and releasing -/

theorem hit (alike : World.Alike (first, storage) (second, other)) (key : PageKey) (number : Nat) :
    (first.hit storage key number).Alike (second.hit other key number) := by
  have pinned : World.Alike (first.updateFrame number Occupant.pinned, storage)
      (second.updateFrame number Occupant.pinned, other) :=
    alike.updateFrame number Occupant.pinned (fun _ => rfl) fun _ => rfl
  have generation := pinned.generation number
  have counted := pinned.count (fun stats => { stats with hits := stats.hits + 1 }) fun _ => rfl
  refine ⟨?_, counted⟩
  simp only [Pool.hit, Outcome.done]
  rw [generation]

theorem load (alike : World.Alike (first, storage) (second, other))
    (secure : World.Secure (first, storage)) (secureToo : World.Secure (second, other))
    (key : PageKey) : (first.load storage key).Alike (second.load other key) := by
  have claimed := alike.claim secure secureToo
  have sound : first.Sound storage := secure.sound
  have soundToo : second.Sound other := secureToo.sound
  have later := secure.upkeeps (Pool.upkeeps_claim storage sound.face sound.positive)
  have laterToo := secureToo.upkeeps (Pool.upkeeps_claim other soundToo.face soundToo.positive)
  refine claimed.andThen fun number _ => ?_
  have world := claimed.world
  have same : (first.claim storage).storage.has key = (second.claim other).storage.has key :=
    world.storage.has key
  have reads := world.storage.read key.file key.page
  dsimp only
  cases live : (first.claim storage).storage.has key with
  | false =>
      rw [later.memory.answer_read_of_not_has live,
        laterToo.memory.answer_read_of_not_has (same.symm.trans live)]
      exact ⟨rfl, world.outline, reads⟩
  | true =>
      obtain ⟨data, answer⟩ := later.memory.answer_read live
      obtain ⟨dataToo, answerToo⟩ := laterToo.memory.answer_read (same.symm.trans live)
      rw [answer, answerToo]
      obtain ⟨handle, installed⟩ :=
        world.install number key.file ⟨key.page, data⟩ ⟨key.page, dataToo⟩ rfl
      exact ⟨congrArg Except.ok handle, installed.outline, reads⟩

theorem fetch (alike : World.Alike (first, storage) (second, other))
    (secure : World.Secure (first, storage)) (secureToo : World.Secure (second, other))
    (key : PageKey) : (first.fetch storage key).Alike (second.fetch other key) := by
  have same : first.find? key = second.find? key := alike.find? key
  simp only [Pool.fetch, same]
  cases second.find? key with
  | some number => exact alike.hit key number
  | none =>
      have missed := alike.count (fun stats => { stats with misses := stats.misses + 1 })
        fun _ => rfl
      exact missed.load (secure.upkeeps (.single (.tally _ _ rfl)))
        (secureToo.upkeeps (.single (.tally _ _ rfl))) key

theorem allocate (alike : World.Alike (first, storage) (second, other))
    (secure : World.Secure (first, storage)) (secureToo : World.Secure (second, other))
    (file : FileIdentity) : (first.allocate storage file).Alike (second.allocate other file) := by
  have claimed := alike.claim secure secureToo
  have sound : first.Sound storage := secure.sound
  have soundToo : second.Sound other := secureToo.sound
  have later := secure.upkeeps (Pool.upkeeps_claim storage sound.face sound.positive)
  have laterToo := secureToo.upkeeps (Pool.upkeeps_claim other soundToo.face soundToo.positive)
  refine claimed.andThen fun number _ => ?_
  have world := claimed.world
  have grown := world.storage.allocate later.memory laterToo.memory file
  dsimp only
  rw [later.memory.answer_allocate file, laterToo.memory.answer_allocate file]
  obtain ⟨handle, installed⟩ := world.install number file
    (.zero ((first.claim storage).storage.next file))
    (.zero ((second.claim other).storage.next file)) (world.storage.next file)
  exact ⟨congrArg Except.ok handle, installed.outline, grown⟩

theorem releasePage (alike : World.Alike (first, storage) (second, other)) (key : PageKey)
    (dirty dirtyToo : Bool) :
    (first.releasePage storage key dirty).Alike (second.releasePage other key dirtyToo) := by
  have same : first.find? key = second.find? key := alike.find? key
  simp only [Pool.releasePage, same]
  cases second.find? key with
  | none => exact ⟨rfl, alike⟩
  | some number =>
      have pins : (first.frame number).pins = (second.frame number).pins := alike.pins number
      dsimp only
      rw [pins]
      split
      · exact ⟨rfl, alike⟩
      · exact ⟨rfl, alike.updateFrame number (fun occupant => occupant.released false)
          (fun _ => rfl) fun _ => rfl⟩

theorem release (alike : World.Alike (first, storage) (second, other)) (handle : Handle)
    (dirty dirtyToo : Bool) :
    (first.release storage handle dirty).Alike (second.release other handle dirtyToo) := by
  have same : first.accepts handle = second.accepts handle := alike.accepts handle
  simp only [Pool.release, same]
  cases second.accepts handle with
  | false => exact ⟨rfl, alike⟩
  | true => exact alike.releasePage handle.key dirty dirtyToo

theorem page (alike : World.Alike (first, storage) (second, other))
    (sound : first.Sound storage) (soundToo : second.Sound other) (handle : Handle) :
    (first.page handle).map (·.number) = (second.page handle).map (·.number) := by
  have accepted : first.accepts handle = second.accepts handle := alike.accepts handle
  simp only [Pool.page, accepted]
  rcases Frame.occupant_cases_of_outline_eq (alike.frame handle.frame) with
    ⟨free, freeToo⟩ | ⟨held, heldToo, occupied, occupiedToo, outlines⟩
  · rw [free, freeToo]
  · have keys : held.key = heldToo.key := congrArg (fun held => held.key) outlines
    have number := sound.numbered _ _ occupied
    have numberToo := soundToo.numbered _ _ occupiedToo
    rw [occupied, occupiedToo]
    dsimp only
    split
    · simp only [Except.map, number, numberToo, keys]
    · rfl

/-! ## Writing and removing -/

theorem write (alike : World.Alike (first, storage) (second, other))
    (sound : first.Sound storage) (soundToo : second.Sound other) (handle : Handle)
    (data dataToo : PageData) :
    (first.write storage handle data).Alike (second.write other handle dataToo) := by
  have pages := alike.page sound soundToo handle
  have put : World.Alike (first.setData handle data, storage)
      (second.setData handle dataToo, other) :=
    alike.updateFrame handle.frame (fun occupant => occupant) (fun _ => rfl) fun _ => rfl
  simp only [Pool.write]
  cases seen : first.page handle <;> cases seenToo : second.page handle <;>
    rw [seen, seenToo] at pages
  case error.error cause causeToo =>
    obtain rfl := Except.error.inj pages
    exact ⟨rfl, alike⟩
  case ok.ok => exact ⟨rfl, put⟩
  all_goals cases pages

theorem forget (alike : World.Alike (first, storage) (second, other)) (key : PageKey) :
    World.Alike ((first.forget key).1, storage) ((second.forget key).1, other) := by
  have same : first.find? key = second.find? key := alike.find? key
  simp only [Pool.forget, same]
  cases second.find? key with
  | none => exact alike
  | some number => exact alike.remove number key

theorem dispose (alike : World.Alike (first, storage) (second, other)) (key : PageKey) :
    (first.dispose storage key).Alike (second.dispose other key) := by
  have forgotten := (alike.forget key).outline
  have deleted := alike.storage.delete key
  have answers := alike.storage.answer_delete key
  dsimp only at answers
  simp only [Pool.dispose, answers]
  cases (other.delete key.file key.page).1 with
  | error cause => exact ⟨rfl, forgotten, deleted⟩
  | ok value => exact ⟨rfl, forgotten, deleted⟩

theorem flushFrame (alike : World.Alike (first, storage) (second, other))
    (secure : World.Secure (first, storage)) (secureToo : World.Secure (second, other))
    (file : FileIdentity) (number : Nat) :
    (first.flushFrame storage file number).Alike (second.flushFrame other file number) := by
  simp only [Pool.flushFrame]
  rcases Frame.occupant_cases_of_outline_eq (alike.frame number) with
    ⟨free, freeToo⟩ | ⟨held, heldToo, occupied, occupiedToo, outlines⟩
  · rw [free, freeToo]
    exact ⟨rfl, alike⟩
  · have keys : held.key = heldToo.key := congrArg (fun held => held.key) outlines
    have pins : held.pins = heldToo.pins := congrArg (fun held => held.pins) outlines
    rw [occupied, occupiedToo]
    dsimp only
    rw [keys, pins]
    split
    · exact ⟨rfl, alike⟩
    · split
      · exact ⟨rfl, alike⟩
      · have written := alike.writeBack secure secureToo number
        exact written.andThen fun _ _ => ⟨rfl, written.world.remove number heldToo.key⟩

theorem flushEach (alike : World.Alike (first, storage) (second, other))
    (secure : World.Secure (first, storage)) (secureToo : World.Secure (second, other))
    (file : FileIdentity) (numbers : List Nat) :
    (first.flushEach storage file numbers).Alike (second.flushEach other file numbers) := by
  induction numbers generalizing first second storage other with
  | nil => exact ⟨rfl, alike⟩
  | cons number rest induction =>
      have flushed := alike.flushFrame secure secureToo file number
      refine flushed.andThen fun _ _ => ?_
      exact induction flushed.world
        (secure.upkeeps (Pool.upkeeps_flushFrame first storage file number))
        (secureToo.upkeeps (Pool.upkeeps_flushFrame second other file number))

theorem flush (alike : World.Alike (first, storage) (second, other))
    (secure : World.Secure (first, storage)) (secureToo : World.Secure (second, other))
    (file : FileIdentity) : (first.flush storage file).Alike (second.flush other file) := by
  have size : first.size = second.size := alike.size
  have flushed := alike.flushEach secure secureToo file (List.range first.size)
  simp only [Pool.flush, ← size]
  exact flushed.andThen fun _ _ => ⟨rfl, flushed.world⟩

theorem writeBackEach (alike : World.Alike (first, storage) (second, other))
    (secure : World.Secure (first, storage)) (secureToo : World.Secure (second, other))
    (numbers : List Nat) :
    (first.writeBackEach storage numbers).Alike (second.writeBackEach other numbers) := by
  induction numbers generalizing first second storage other with
  | nil => exact ⟨rfl, alike⟩
  | cons number rest induction =>
      have written := alike.writeBack secure secureToo number
      refine written.andThen fun _ _ => ?_
      exact induction written.world
        (secure.upkeeps (Pool.upkeeps_writeBack first storage number))
        (secureToo.upkeeps (Pool.upkeeps_writeBack second other number))

theorem writeBackAll (alike : World.Alike (first, storage) (second, other))
    (secure : World.Secure (first, storage)) (secureToo : World.Secure (second, other)) :
    (first.writeBackAll storage).Alike (second.writeBackAll other) := by
  have size : first.size = second.size := alike.size
  simp only [Pool.writeBackAll, ← size]
  exact alike.writeBackEach secure secureToo _

/-! ## Runs -/

/-- The same action, but for bytes and dirty marks, does the same in worlds that look alike. -/
theorem act (alike : World.Alike (first, storage) (second, other))
    (secure : World.Secure (first, storage)) (secureToo : World.Secure (second, other))
    {action actionToo : Action} (same : action.outline = actionToo.outline) :
    (first.act storage action).Alike (second.act other actionToo) := by
  cases action <;> cases actionToo <;> cases same
  case fetch.refl key => exact (alike.fetch secure secureToo key).map _
  case allocate.refl file => exact (alike.allocate secure secureToo file).map _
  case releasePage.refl key dirty dirtyToo => exact (alike.releasePage key dirty dirtyToo).map _
  case release.refl handle dirty dirtyToo => exact (alike.release handle dirty dirtyToo).map _
  case dispose.refl key => exact (alike.dispose key).map _
  case flush.refl file => exact (alike.flush secure secureToo file).map _
  case writeBackAll.refl => exact (alike.writeBackAll secure secureToo).map _
  case write.refl handle data dataToo =>
    exact (alike.write secure.sound secureToo.sound handle data dataToo).map _

theorem agree (alike : World.Alike (first, storage) (second, other))
    (sound : first.Sound storage) (soundToo : second.Sound other) : first.Agree second where
  size := alike.size
  views := by
    intro number
    rcases Frame.occupant_cases_of_outline_eq (alike.frame number) with
      ⟨free, freeToo⟩ | ⟨held, heldToo, occupied, occupiedToo, outlines⟩
    · rw [Pool.view_of_free free, Pool.view_of_free freeToo]
    · have keys : held.key = heldToo.key := congrArg (fun held => held.key) outlines
      have pins : held.pins = heldToo.pins := congrArg (fun held => held.pins) outlines
      have marks : held.referenced = heldToo.referenced :=
        congrArg (fun held => held.referenced) outlines
      rw [Pool.view_of_occupied occupied, Pool.view_of_occupied occupiedToo, keys, pins, marks]
  generation := alike.generation
  directory := congrArg (fun pool => pool.directory) alike.outline
  clock := congrArg (fun pool => pool.clock) alike.outline
  stats := congrArg (fun pool => pool.stats) alike.outline
  accepts := alike.accepts
  page := alike.page sound soundToo

/-- The same actions, but for bytes and dirty marks, do the same in worlds that look alike. -/
theorem outcomes (alike : World.Alike (first, storage) (second, other))
    (secure : World.Secure (first, storage)) (secureToo : World.Secure (second, other))
    {actions actionsToo : List Action}
    (same : actions.map Action.outline = actionsToo.map Action.outline) :
    List.Forall₂ Outcome.Agree (first.outcomes storage actions)
      (second.outcomes other actionsToo) := by
  induction actions generalizing first second storage other actionsToo with
  | nil =>
      obtain rfl := List.map_eq_nil_iff.mp same.symm
      exact .nil
  | cons action rest induction =>
      obtain ⟨actionToo, restToo, rfl, one, others⟩ := List.map_eq_cons_iff.mp same.symm
      have step := alike.act secure secureToo one.symm
      have later := secure.act action
      have laterToo := secureToo.act actionToo
      exact .cons ⟨step.result, step.world.agree later.sound laterToo.sound⟩
        (induction step.world later laterToo others.symm)

end World.Alike

/-- Two pools of one size over files in memory with the same pages, which are used through the pools
alone: whatever the bytes, and whichever pages are said to be dirty, the results are the same at
every step, and so is all that is seen of the pools but dirty marks, bytes and the count of pages
written back. -/
theorem Pool.replacement_ignores_contents {config configToo : Config} {first second : Pool}
    {storage other : Storage} {actions actionsToo : List Action}
    (made : ofConfig config = .ok first) (madeToo : ofConfig configToo = .ok second)
    (frames : config.frames = configToo.frames)
    (memory : storage.InMemory) (memoryToo : other.InMemory) (resembles : storage.Resembles other)
    (same : actions.map Action.outline = actionsToo.map Action.outline) :
    first.Agree second ∧
      List.Forall₂ Outcome.Agree (first.outcomes storage actions)
        (second.outcomes other actionsToo) := by
  have secure := World.Secure.of_made made memory
  have secureToo := World.Secure.of_made madeToo memoryToo
  have start : World.Alike (first, storage) (second, other) := by
    obtain rfl := Pool.eq_empty_of_made made
    obtain rfl := Pool.eq_empty_of_made madeToo
    refine ⟨?_, resembles⟩
    simp only [outline, empty, frames]
  exact ⟨start.agree secure.sound secureToo.sound, start.outcomes secure secureToo same⟩

theorem Storage.inMemory_withSeeded (count : Nat) : (withSeeded count).InMemory := by
  intro id
  rw [withSeeded, file_add]
  split <;> exact ⟨_, rfl⟩

/-- One frame and two files that differ in a byte: in the first run a page is written and has to be
written back when it gives way, in the second other bytes are written and then lost. -/
theorem Pool.replacement_ignores_contents_across_write_back :
    let first : PageKey := ⟨⟨1⟩, 0⟩
    let handle : Handle := ⟨0, 2, first⟩
    let other := ((Storage.withSeeded 2).write ⟨1⟩ ⟨0, .filled 7⟩).2
    let run := (empty ⟨1, true⟩).outcomes (.withSeeded 2)
      [.fetch first, .write handle (.filled 1), .release handle true, .fetch ⟨⟨1⟩, 1⟩]
    let runToo := (empty ⟨1, false⟩).outcomes other
      [.fetch first, .write handle (.filled 2), .release handle false, .fetch ⟨⟨1⟩, 1⟩]
    List.Forall₂ Outcome.Agree run runToo ∧
      run.map (fun outcome => outcome.pool.stats.writeBacks) = [0, 0, 0, 1] ∧
      runToo.map (fun outcome => outcome.pool.stats.writeBacks) = [0, 0, 0, 0] := by
  intro first handle other run runToo
  have made : ofConfig ⟨1, true⟩ = .ok (empty ⟨1, true⟩) := rfl
  have madeToo : ofConfig ⟨1, false⟩ = .ok (empty ⟨1, false⟩) := rfl
  have memory := Storage.inMemory_withSeeded 2
  have memoryToo : other.InMemory := memory.write ⟨1⟩ _
  have resembles : (Storage.withSeeded 2).Resembles other := .of_write _ ⟨1⟩ _
  have agreed : List.Forall₂ Outcome.Agree run runToo := by
    refine (replacement_ignores_contents made madeToo rfl memory memoryToo resembles ?_).2
    rfl
  exact ⟨agreed, by decide +kernel, by decide +kernel⟩

end PageCache
