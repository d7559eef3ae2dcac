import PageCache.Proofs.Shell.Bookkeeping

/-!
# The words that the shell knows

The list of commands that the shell prints documents a few forms. Words of any other form are
refused and change nothing, with one exception: a release may have any words after the page. Unless
they are the one word `dirty`, it is then carried out as if nothing stood there. Main statement:
words of no documented form are refused and change nothing exactly if they do not start like a
release, or if the plain release is refused as well.
-/

namespace PageCache

namespace Command

/-- The forms of commands that are documented. -/
inductive Documented : List String → Prop
  /-- The empty line. -/
  | nothing : Documented []
  /-- Open a file. -/
  | openFile (path : String) : Documented ["open", path]
  /-- Pin a page. -/
  | fetch (slot page : String) : Documented ["fetch", slot, page]
  /-- Set a byte. -/
  | write (slot page offset byte : String) : Documented ["write", slot, page, offset, byte]
  /-- Drop a pin. -/
  | release (slot page : String) : Documented ["release", slot, page]
  /-- Drop a pin of a page that was changed. -/
  | releaseDirty (slot page : String) : Documented ["release", slot, page, "dirty"]
  /-- Append a page. -/
  | allocate (slot : String) : Documented ["alloc", slot]
  /-- Drop a page. -/
  | dispose (slot page : String) : Documented ["dispose", slot, page]
  /-- Flush a file. -/
  | flush (slot : String) : Documented ["flush", slot]
  /-- Write back every page. -/
  | writeBackAll : Documented ["flushall"]
  /-- Print the state of the pool. -/
  | inspect : Documented ["inspect"]
  /-- Print the list of commands. -/
  | help : Documented ["help"]
  /-- End the shell. -/
  | quit : Documented ["quit"]
  /-- End the shell. -/
  | exit : Documented ["exit"]

/-- The words are a release with other words after the page than the one word `dirty`. -/
def Overlong (words : List String) : Prop :=
  ∃ slot page marks, words = "release" :: slot :: page :: marks ∧ marks ≠ [] ∧ marks ≠ ["dirty"]

variable {words : List String}

theorem Overlong.not_documented (overlong : Overlong words) : ¬ Documented words := by
  obtain ⟨slot, page, marks, shape, more, other⟩ := overlong
  intro documented
  cases documented with
  | release => exact more (List.cons.inj (List.cons.inj (List.cons.inj shape).2).2).2.symm
  | releaseDirty => exact other (List.cons.inj (List.cons.inj (List.cons.inj shape).2).2).2.symm
  | _ => simp at shape

/-- Exactly the documented forms and the overlong releases stand for a command. -/
theorem isSome_ofWords?_iff :
    (ofWords? words).isSome = true ↔ Documented words ∨ Overlong words := by
  constructor
  · intro known
    unfold ofWords? at known
    split at known
    case h_5 slot page marks =>
      rcases marks with _ | ⟨mark, rest⟩
      · exact .inl (.release slot page)
      · by_cases dirty : mark :: rest = ["dirty"]
        · rw [dirty]
          exact .inl (.releaseDirty slot page)
        · exact .inr ⟨slot, page, mark :: rest, rfl, List.cons_ne_nil mark rest, dirty⟩
    case h_14 => cases known
    all_goals
      apply Or.inl
      constructor
  · rintro (documented | ⟨slot, page, marks, rfl, -⟩)
    · cases documented <;> rfl
    · rfl

/-- Words after the page of a release do not count, unless they are the one word `dirty`. -/
theorem ofWords?_release {slot page : String} {marks : List String} (other : marks ≠ ["dirty"]) :
    ofWords? ("release" :: slot :: page :: marks) = ofWords? ["release", slot, page] := by
  simp only [ofWords?, other]
  rfl

end Command

/-- A release that fails leaves the pool as it was. -/
theorem Pool.pool_releasePage_of_error {pool : Pool} {storage : Storage} {key : PageKey}
    {dirty : Bool} {cause : PoolError}
    (failed : (pool.releasePage storage key dirty).result = .error cause) :
    (pool.releasePage storage key dirty).pool = pool := by
  unfold releasePage at failed ⊢
  split at failed
  · rfl
  · split at failed
    · next unpinned => rw [if_pos unpinned]; rfl
    · cases failed

namespace Shell

variable {shell : Shell} {words : List String}

/-- The words are answered with an error and change nothing. -/
def Refuses (shell : Shell) (words : List String) : Prop :=
  (∃ cause, (shell.answer words).result = .error cause) ∧ (shell.answer words).shell = shell

theorem shell_settle_of_error {Value : Type} {outcome : Outcome Value}
    {note : Shell → Value → Shell} {lines : Value → List String} {cause : ShellError}
    (idle : ∀ reason, outcome.result = .error reason →
      outcome.pool = shell.pool ∧ outcome.storage = shell.storage)
    (failed : (shell.settle outcome note lines).result = .error cause) :
    (shell.settle outcome note lines).shell = shell := by
  simp only [settle] at failed ⊢
  split at failed
  · cases failed
  · next reason refused =>
    obtain ⟨pool, storage⟩ := idle reason refused
    rw [pool, storage]

/-- A release that fails changes nothing. -/
theorem refuses_release_of_error {slot page : String} {cause : ShellError}
    (failed : (shell.answer ["release", slot, page]).result = .error cause) :
    shell.Refuses ["release", slot, page] := by
  refine ⟨⟨cause, failed⟩, shell_withArgument_of_error failed fun key => ?_⟩
  apply shell_settle_of_error
  intro reason refused
  exact ⟨Pool.pool_releasePage_of_error refused, Pool.storage_releasePage ..⟩

/-- A shell with one frame, which holds a new page with one changed byte. -/
theorem exists_attended_changed :
    ∃ system first shell, launch ⟨1, true⟩ { Storage.empty with system } =
        .ok (first, [.poolMade 1]) ∧ Attended first shell ∧
      shell.pool.pinsOn ⟨⟨1⟩, 0⟩ = 1 ∧ (shell.pool.frame 0).occupant.map (·.page.data[0]) = some 7 ∧
      (shell.answer ["release", "0", "0"]).result = .ok [] ∧
      (shell.answer ["release", "0", "0"]).shell.pool.pinsOn ⟨⟨1⟩, 0⟩ = 0 ∧
      ((shell.answer ["release", "0", "0"]).shell.pool.frame 0).dirty = false := by
  let place : Location := ⟨FileSystem.nameless, "a"⟩
  let system := FileSystem.empty.setBytes place .empty
  let first := start (.empty ⟨1, true⟩) { Storage.empty with system }
  let shell := (((first.answer ["open", "a"]).shell.answer ["alloc", "0"]).shell.answer
    ["write", "0", "0", "0", "7"]).shell
  have attended : Attended first shell := ((Attended.start.answer _).answer _).answer _
  have given : first.storage.openDisk "a" = .ok (⟨1⟩, ⟨"a", .regular place, 0, ∅⟩,
      (first.storage.add (.disk ⟨"a", .regular place, 0, ∅⟩)).2) :=
    Storage.openDisk_plainName .empty rfl rfl
  have opened : (first.answer ["open", "a"]).shell =
      { first with
        storage := (first.storage.add (.disk ⟨"a", .regular place, 0, ∅⟩)).2
        slots := #[⟨1⟩] } := by
    have command : first.answer ["open", "a"] = first.openFile "a" := rfl
    rw [command, openFile, given]
    rfl
  refine ⟨system, first, shell, rfl, attended, ?_, ?_, ?_, ?_, ?_⟩
  all_goals
    simp only [shell, opened]
    decide +kernel

/-- Words of no documented form are refused and change nothing exactly if they are no release with
words too many, or if the release without them fails; else they are carried out as that release. -/
theorem refuses_undocumented_iff (shell : Shell) (undocumented : ¬ Command.Documented words) :
    (shell.Refuses words ↔ ∀ slot page marks, words = "release" :: slot :: page :: marks →
      ∃ cause, (shell.answer ["release", slot, page]).result = .error cause) ∧
    ∀ slot page marks, words = "release" :: slot :: page :: marks →
      shell.answer words = shell.answer ["release", slot, page] := by
  have carried : ∀ slot page marks, words = "release" :: slot :: page :: marks →
      shell.answer words = shell.answer ["release", slot, page] := by
    rintro slot page marks rfl
    have other : marks ≠ ["dirty"] := by
      rintro rfl
      exact undocumented (.releaseDirty slot page)
    rw [answer, answer, Command.ofWords?_release other]
  refine ⟨⟨fun refuses slot page marks shape => ?_, fun plain => ?_⟩, carried⟩
  · rw [← carried slot page marks shape]
    exact refuses.1
  · cases known : Command.ofWords? words with
    | none =>
        rw [Refuses, answer_of_unknown known]
        exact ⟨⟨_, rfl⟩, rfl⟩
    | some command =>
        have overlong : Command.Overlong words :=
          (Command.isSome_ofWords?_iff.mp (known ▸ rfl)).resolve_left undocumented
        obtain ⟨slot, page, marks, shape, -⟩ := overlong
        obtain ⟨cause, failed⟩ := plain slot page marks shape
        rw [Refuses, carried slot page marks shape]
        exact refuses_release_of_error failed

/-- The mark of a changed page is misspelt: the pin is dropped, and the page is not marked. -/
theorem refuses_undocumented_iff_misspelt_mark :
    ∃ system first shell, launch ⟨1, true⟩ { Storage.empty with system } =
        .ok (first, [.poolMade 1]) ∧ Attended first shell ∧
      ¬ Command.Documented ["release", "0", "0", "drity"] ∧
      ¬ shell.Refuses ["release", "0", "0", "drity"] ∧ shell.pool.pinsOn ⟨⟨1⟩, 0⟩ = 1 ∧
      (shell.pool.frame 0).occupant.map (·.page.data[0]) = some 7 ∧
      (shell.answer ["release", "0", "0", "drity"]).shell.pool.pinsOn ⟨⟨1⟩, 0⟩ = 0 ∧
      ((shell.answer ["release", "0", "0", "drity"]).shell.pool.frame 0).dirty = false := by
  obtain ⟨system, first, shell, launched, attended, pins, byte, released, unpinned, clean⟩ :=
    exists_attended_changed
  have undocumented : ¬ Command.Documented ["release", "0", "0", "drity"] :=
    Command.Overlong.not_documented ⟨"0", "0", ["drity"], rfl, by decide, by decide⟩
  obtain ⟨refuses, carried⟩ := shell.refuses_undocumented_iff undocumented
  have plain := carried "0" "0" ["drity"] rfl
  refine ⟨system, first, shell, launched, attended, undocumented, fun refused => ?_, pins, byte,
    plain ▸ unpinned, plain ▸ clean⟩
  obtain ⟨cause, failed⟩ := refuses.mp refused "0" "0" ["drity"] rfl
  cases released.symm.trans failed

/-- Not all words of no documented form are refused. -/
theorem not_refuses_undocumented :
    ¬ ∀ (config : Config) (system : FileSystem) (first shell : Shell) (events : List Event)
        (words : List String),
      launch config { Storage.empty with system } = .ok (first, events) → Attended first shell →
        ¬ Command.Documented words → shell.Refuses words := by
  intro claim
  obtain ⟨system, first, shell, launched, attended, -, -, released, -⟩ := exists_attended_changed
  have undocumented : ¬ Command.Documented ["release", "0", "0", "drity"] :=
    Command.Overlong.not_documented ⟨"0", "0", ["drity"], rfl, by decide, by decide⟩
  obtain ⟨⟨cause, failed⟩, -⟩ := claim _ _ _ _ _ _ launched attended undocumented
  have plain :
      shell.answer ["release", "0", "0", "drity"] = shell.answer ["release", "0", "0"] := by
    rw [answer, answer, Command.ofWords?_release (by decide)]
  rw [plain] at failed
  cases released.symm.trans failed

end Shell

end PageCache
