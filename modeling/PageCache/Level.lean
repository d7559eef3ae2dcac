/-!
# Levels of the log

Six levels from `off` to `trace`. A threshold lets through the events whose own level is not above
it, and never an event of level `off`.
-/

namespace PageCache

/-- How much is logged, and how important one event is. -/
inductive Level where
  | off
  | error
  | warn
  | info
  | debug
  | trace
deriving DecidableEq, Repr

namespace Level

/-- All levels, the quietest first. -/
def all : List Level := [off, error, warn, info, debug, trace]

/-- The position of a level in `Level.all`. -/
def rank : Level → Nat
  | off => 0
  | error => 1
  | warn => 2
  | info => 3
  | debug => 4
  | trace => 5

/-- The name of a level in capitals. -/
def name : Level → String
  | off => "OFF"
  | error => "ERROR"
  | warn => "WARN"
  | info => "INFO"
  | debug => "DEBUG"
  | trace => "TRACE"

/-- The level of a given rank; every rank past the last stands for `trace`. -/
def ofRank (rank : Nat) : Level := all[rank]?.getD trace

/-- The level with the given name, where ASCII letters may be of either case. -/
def ofName? (text : String) : Option Level :=
  all.find? fun level => level.name == text.map Char.toUpper

/-- Whether a log with this threshold records events of the given level. -/
def records (threshold level : Level) : Bool :=
  level != off && level.rank ≤ threshold.rank

@[simp] theorem ofRank_rank (level : Level) : ofRank level.rank = level := by
  cases level <;> rfl

theorem rank_le_five (level : Level) : level.rank ≤ 5 := by
  cases level <;> decide

/-- The loudest threshold records every event that is not of level `off`. -/
theorem trace_records (level : Level) : trace.records level ↔ level ≠ off := by
  cases level <;> decide

/-- A louder threshold records all that a quieter one records. -/
theorem records_of_rank_le {quiet loud level : Level} (louder : quiet.rank ≤ loud.rank)
    (recorded : quiet.records level) : loud.records level := by
  simp only [records, Bool.and_eq_true, decide_eq_true_eq] at recorded ⊢
  exact ⟨recorded.1, Nat.le_trans recorded.2 louder⟩

end Level

end PageCache
