/-!
# Runs of equal bytes

A sequence of bytes is kept as its runs: each longest stretch of equal bytes is given by the byte
and its length, so that a long stretch of zeros costs no more than a short one. Main statements: the
operations act on the runs as the operations of lists act on the sequence that the runs tell, and
they keep the runs longest.
-/

namespace PageCache

/-- A sequence of bytes, as its runs in order. -/
structure Runs where
  /-- The byte and the length of each run. -/
  list : List (UInt8 × Nat)
deriving DecidableEq, Repr

namespace Runs

/-- The sequence that the runs tell. -/
def toList (runs : Runs) : List UInt8 := runs.list.flatMap fun run => List.replicate run.2 run.1

/-- The length of the sequence. -/
def size (runs : Runs) : Nat := runs.list.foldr (fun run total => run.2 + total) 0

/-- The sequence without bytes. -/
def empty : Runs := ⟨[]⟩

/-- The sequence with equal bytes put in front, which join its first run if they can. -/
def prepend (byte : UInt8) (length : Nat) (runs : Runs) : Runs :=
  if length = 0 then runs
  else match runs.list with
    | [] => ⟨[(byte, length)]⟩
    | (first, more) :: rest =>
      if byte = first then ⟨(byte, length + more) :: rest⟩ else ⟨(byte, length) :: runs.list⟩

/-- The sequence of equal bytes. -/
def replicate (length : Nat) (byte : UInt8) : Runs := empty.prepend byte length

/-- The sequence of the bytes of an array. -/
def ofArray (bytes : Array UInt8) : Runs := bytes.foldr (fun byte runs => runs.prepend byte 1) empty

/-- One sequence after the other. -/
def append (front back : Runs) : Runs :=
  front.list.foldr (fun run runs => runs.prepend run.1 run.2) back

/-- What a list of runs tells, cut or grown with zeros to a length. -/
def fitFrom (count : Nat) : List (UInt8 × Nat) → Runs
  | [] => replicate count 0
  | (byte, length) :: rest =>
    if count ≤ length then replicate count byte
    else (fitFrom (count - length) rest).prepend byte length

/-- What a list of runs tells after its first bytes. -/
def dropFrom (count : Nat) : List (UInt8 × Nat) → Runs
  | [] => empty
  | (byte, length) :: rest =>
    if count < length then (⟨rest⟩ : Runs).prepend byte (length - count)
    else dropFrom (count - length) rest

/-- The bytes cut or grown with zeros to a length. -/
def fit (runs : Runs) (length : Nat) : Runs := fitFrom length runs.list

/-- All bytes but the first `count`. -/
def drop (runs : Runs) (count : Nat) : Runs := dropFrom count runs.list

/-- The bytes with `news` placed from `offset` on, grown with zeros where they were too few. -/
def splice (runs : Runs) (offset : Nat) (news : Array UInt8) : Runs :=
  (runs.fit offset).append ((ofArray news).append (runs.drop (offset + news.size)))

/-! ## The sequence after each operation -/

@[simp] theorem toList_empty : empty.toList = [] := rfl

@[simp] theorem toList_mk_cons (byte : UInt8) (length : Nat) (rest : List (UInt8 × Nat)) :
    toList ⟨(byte, length) :: rest⟩ = List.replicate length byte ++ toList ⟨rest⟩ :=
  List.flatMap_cons

@[simp] theorem length_toList (runs : Runs) : runs.toList.length = runs.size := by
  obtain ⟨list⟩ := runs
  induction list with
  | nil => rfl
  | cons run rest induction =>
    rw [toList_mk_cons, List.length_append, List.length_replicate, induction]
    rfl

@[simp] theorem toList_prepend (byte : UInt8) (length : Nat) (runs : Runs) :
    (runs.prepend byte length).toList = List.replicate length byte ++ runs.toList := by
  unfold prepend
  split
  · next none => simp [none]
  · split
    · next bare => simp [toList, bare]
    · next first more rest started =>
      split
      · next equal =>
        simp [toList, started, equal, ← List.replicate_append_replicate, List.append_assoc]
      · simp [toList, started]

@[simp] theorem toList_replicate (length : Nat) (byte : UInt8) :
    (replicate length byte).toList = List.replicate length byte := by
  simp [replicate]

@[simp] theorem toList_ofArray (bytes : Array UInt8) : (ofArray bytes).toList = bytes.toList := by
  rw [ofArray, ← Array.foldr_toList]
  induction bytes.toList with
  | nil => rfl
  | cons byte rest induction => rw [List.foldr_cons, toList_prepend, induction]; rfl

@[simp] theorem toList_append (front back : Runs) :
    (front.append back).toList = front.toList ++ back.toList := by
  obtain ⟨list⟩ := front
  induction list with
  | nil => rfl
  | cons run rest induction =>
    have step : append ⟨run :: rest⟩ back = (append ⟨rest⟩ back).prepend run.1 run.2 := rfl
    rw [step, toList_prepend, induction, ← List.append_assoc]
    rfl

@[simp] theorem toList_drop (runs : Runs) (count : Nat) :
    (runs.drop count).toList = runs.toList.drop count := by
  obtain ⟨list⟩ := runs
  show (dropFrom count list).toList = (toList ⟨list⟩).drop count
  induction list generalizing count with
  | nil => exact List.drop_nil.symm
  | cons run rest induction =>
    rw [dropFrom, toList_mk_cons, List.drop_append, List.drop_replicate, List.length_replicate]
    split
    · next inside =>
      rw [toList_prepend, Nat.sub_eq_zero_of_le (Nat.le_of_lt inside), List.drop_zero]
    · next past =>
      rw [induction, Nat.sub_eq_zero_of_le (by omega : run.2 ≤ count), List.replicate_zero,
        List.nil_append]

theorem toList_fit (runs : Runs) (length : Nat) :
    (runs.fit length).toList =
      runs.toList.take length ++ List.replicate (length - runs.size) 0 := by
  obtain ⟨list⟩ := runs
  show (fitFrom length list).toList =
    (toList ⟨list⟩).take length ++ List.replicate (length - size ⟨list⟩) 0
  induction list generalizing length with
  | nil =>
    have none : toList ⟨[]⟩ = [] := rfl
    rw [fitFrom, toList_replicate, none, List.take_nil, List.nil_append]
    rfl
  | cons run rest induction =>
    have sum : size ⟨run :: rest⟩ = run.2 + size ⟨rest⟩ := rfl
    rw [fitFrom, toList_mk_cons, sum, List.take_append, List.take_replicate,
      List.length_replicate]
    split
    · next inside =>
      rw [toList_replicate, Nat.min_eq_left inside, Nat.sub_eq_zero_of_le inside, List.take_zero,
        Nat.sub_eq_zero_of_le (Nat.le_add_right_of_le inside), List.replicate_zero,
        List.append_nil, List.append_nil]
    · next past =>
      rw [toList_prepend, induction, Nat.min_eq_right (by omega), List.append_assoc, Nat.sub_sub]

@[simp] theorem size_fit (runs : Runs) (length : Nat) : (runs.fit length).size = length := by
  rw [← length_toList, toList_fit, List.length_append, List.length_take, List.length_replicate,
    length_toList]
  omega

@[simp] theorem toList_fit_size (runs : Runs) : (runs.fit runs.size).toList = runs.toList := by
  rw [toList_fit, ← length_toList, List.take_length, Nat.sub_self, List.replicate_zero,
    List.append_nil]

/-- Growing a sequence keeps its bytes and adds zeros. -/
theorem getElem?_fit (runs : Runs) (length index : Nat) :
    (runs.fit length).toList[index]? =
      if index < length then some (runs.toList[index]?.getD 0) else none := by
  rw [toList_fit, List.getElem?_append, List.length_take, length_toList, List.getElem?_take,
    List.getElem?_replicate]
  by_cases inside : index < length
  · by_cases old : index < runs.size
    · rw [if_pos (by omega), if_pos inside, if_pos inside,
        List.getElem?_eq_getElem (by rw [length_toList]; exact old), Option.getD_some]
    · rw [if_neg (by omega), if_pos (by omega), if_pos inside,
        List.getElem?_eq_none (by rw [length_toList]; omega), Option.getD_none]
  · rw [if_neg (by omega), if_neg (by omega), if_neg inside]

theorem toList_splice (runs : Runs) (offset : Nat) (news : Array UInt8) :
    (runs.splice offset news).toList =
      (runs.fit offset).toList ++ news.toList ++ runs.toList.drop (offset + news.size) := by
  simp [splice]

theorem size_splice (runs : Runs) (offset : Nat) (news : Array UInt8) :
    (runs.splice offset news).size = max runs.size (offset + news.size) := by
  rw [← length_toList, toList_splice, List.length_append, List.length_append, List.length_drop,
    length_toList, length_toList, size_fit, Array.length_toList]
  omega

/-- Placing bytes changes exactly the range they cover, and a gap before them reads as zeros. -/
theorem getElem?_splice (runs : Runs) (offset : Nat) (news : Array UInt8) (index : Nat) :
    (runs.splice offset news).toList[index]? =
      if index < offset then some (runs.toList[index]?.getD 0)
      else if index < offset + news.size then news[index - offset]?
      else runs.toList[index]? := by
  rw [toList_splice, List.append_assoc, List.getElem?_append, List.getElem?_append, length_toList,
    size_fit, getElem?_fit, List.getElem?_drop, Array.length_toList]
  by_cases before : index < offset
  · simp only [before, if_true]
  by_cases within : index < offset + news.size
  · rw [if_neg before, if_neg before, if_pos within, if_pos (by omega), Array.getElem?_toList]
  · rw [if_neg before, if_neg before, if_neg within, if_neg (by omega),
      show offset + news.size + (index - offset - news.size) = index by omega]

/-- The first `count` bytes, with zeros for those that are missing. -/
def toVector (runs : Runs) (count : Nat) : Vector UInt8 count :=
  ⟨(runs.fit count).toList.toArray,
    List.size_toArray.trans ((length_toList _).trans (size_fit runs count))⟩

@[simp] theorem toList_toVector (runs : Runs) (count : Nat) :
    (runs.toVector count).toList = (runs.fit count).toList :=
  rfl

/-! ## Longest runs -/

/-- No run in a list is empty, and no two neighbours have the same byte. -/
def Apart : List (UInt8 × Nat) → Prop
  | [] => True
  | [run] => 0 < run.2
  | run :: next :: rest => 0 < run.2 ∧ run.1 ≠ next.1 ∧ Apart (next :: rest)

/-- Every run is as long as it can be. -/
def Longest (runs : Runs) : Prop := Apart runs.list

theorem Apart.tail {run : UInt8 × Nat} {rest : List (UInt8 × Nat)} (apart : Apart (run :: rest)) :
    Apart rest := by
  cases rest with
  | nil => trivial
  | cons next rest => exact apart.2.2

theorem longest_empty : empty.Longest := trivial

theorem Longest.prepend {runs : Runs} (longest : runs.Longest) (byte : UInt8) (length : Nat) :
    (runs.prepend byte length).Longest := by
  unfold Runs.prepend
  split
  · exact longest
  · next some =>
    have positive : 0 < length := Nat.pos_of_ne_zero some
    split
    · exact positive
    · next first more rest started =>
      have apart : Apart ((first, more) :: rest) := started ▸ longest
      split
      · next equal =>
        subst equal
        cases rest with
        | nil => exact Nat.add_pos_left positive more
        | cons next rest => exact ⟨Nat.add_pos_left positive more, apart.2⟩
      · next different =>
        rw [started]
        exact ⟨positive, different, apart⟩

theorem longest_replicate (length : Nat) (byte : UInt8) : (replicate length byte).Longest :=
  longest_empty.prepend byte length

theorem longest_ofArray (bytes : Array UInt8) : (ofArray bytes).Longest := by
  rw [ofArray, ← Array.foldr_toList]
  induction bytes.toList with
  | nil => exact longest_empty
  | cons byte rest induction => exact induction.prepend byte 1

theorem Longest.append {back : Runs} (longest : back.Longest) (front : Runs) :
    (front.append back).Longest := by
  obtain ⟨list⟩ := front
  induction list with
  | nil => exact longest
  | cons run rest induction => exact induction.prepend run.1 run.2

theorem longest_fit (runs : Runs) (length : Nat) : (runs.fit length).Longest := by
  obtain ⟨list⟩ := runs
  show (fitFrom length list).Longest
  induction list generalizing length with
  | nil => exact longest_replicate length 0
  | cons run rest induction =>
    unfold fitFrom
    split
    · exact longest_replicate length run.1
    · exact (induction _).prepend run.1 run.2

theorem Longest.drop {runs : Runs} (longest : runs.Longest) (count : Nat) :
    (runs.drop count).Longest := by
  obtain ⟨list⟩ := runs
  have apart : Apart list := longest
  show (dropFrom count list).Longest
  induction list generalizing count with
  | nil => exact longest_empty
  | cons run rest induction =>
    unfold dropFrom
    split
    · exact Longest.prepend apart.tail run.1 (run.2 - count)
    · exact induction _ apart.tail apart.tail

theorem Longest.splice {runs : Runs} (longest : runs.Longest) (offset : Nat) (news : Array UInt8) :
    (runs.splice offset news).Longest :=
  ((longest.drop _).append _).append _

end Runs

end PageCache
