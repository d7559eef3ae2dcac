import PageCache.Text.GraphemeClass

/-!
# Grapheme clusters

A text is cut into grapheme clusters, which are what a reader takes for its characters: a letter
with its accents, a syllable, a flag, a family of joined pictographs. Two characters are parted
unless a rule of Unicode keeps them together. Main statements: the clusters of a text put together
are the text, and none of them is empty.
-/

namespace PageCache.Text

open GraphemeClass (ofChar)

/-- Whether characters, given backwards, end in a consonant and a mark that links it to another. -/
def endsLinked (before : List Char) : Bool :=
  let marks := before.takeWhile fun char => (ofChar char).linksOver
  let rest := before.dropWhile fun char => (ofChar char).linksOver
  marks.any (ofChar · = .linker) && rest.head?.any (ofChar · = .consonant)

/-- Whether characters, given backwards, end in a pictograph with a joiner. -/
def endsJoined : List Char → Bool
  | [] => false
  | last :: earlier =>
    let rest := earlier.dropWhile fun char => (ofChar char).modifies
    ofChar last = .joiner && rest.head?.any (ofChar · = .pictograph)

/-- Whether characters, given backwards, end in a half of a flag that has no other half. -/
def endsHalved (before : List Char) : Bool :=
  (before.takeWhile (ofChar · = .flag)).length % 2 = 1

/-- Whether a character belongs to the cluster of the characters before it, given backwards. -/
def belongs (before : List Char) (next : Char) : Bool :=
  match before.head? with
  | none => false
  | some last =>
    let earlier := ofChar last
    let later := ofChar next
    if earlier = .carriageReturn && later = .lineFeed then true
    else if earlier.standsAlone || later.standsAlone then false
    else if later.attaches || earlier = .prepend || earlier.continues later then true
    else match later with
      | .consonant => endsLinked before
      | .pictograph => endsJoined before
      | .flag => endsHalved before
      | _ => false

/-- The clusters of a text after a cluster that may go on, which is given backwards. -/
def clustersAfter (cluster : List Char) : List Char → List (List Char)
  | [] => [cluster.reverse]
  | char :: rest =>
    if belongs cluster char then clustersAfter (char :: cluster) rest
    else cluster.reverse :: clustersAfter [char] rest

/-- The clusters of a text, in order. -/
def clusters : List Char → List (List Char)
  | [] => []
  | char :: rest => clustersAfter [char] rest

theorem flatten_clustersAfter (cluster rest : List Char) :
    (clustersAfter cluster rest).flatten = cluster.reverse ++ rest := by
  induction rest generalizing cluster with
  | nil => simp [clustersAfter]
  | cons char rest induction =>
    unfold clustersAfter
    split
    · rw [induction, List.reverse_cons, List.append_assoc, List.singleton_append]
    · rw [List.flatten_cons, induction, List.reverse_singleton, List.singleton_append]

/-- The clusters of a text put together are the text. -/
theorem flatten_clusters (text : List Char) : (clusters text).flatten = text := by
  cases text with
  | nil => rfl
  | cons char rest => exact flatten_clustersAfter [char] rest

theorem nil_notMem_clustersAfter {cluster : List Char} (filled : cluster ≠ [])
    (rest : List Char) : [] ∉ clustersAfter cluster rest := by
  have parted : ¬[] = cluster.reverse := fun equal => filled (List.reverse_eq_nil_iff.mp equal.symm)
  induction rest generalizing cluster with
  | nil => exact fun found => parted (List.mem_singleton.mp found)
  | cons char rest induction =>
    unfold clustersAfter
    split
    · exact induction (List.cons_ne_nil char cluster) (by simp)
    · rw [List.mem_cons, not_or]
      exact ⟨parted, induction (List.cons_ne_nil char []) (by simp)⟩

/-- No cluster is empty. -/
theorem nil_notMem_clusters (text : List Char) : [] ∉ clusters text := by
  cases text with
  | nil => exact List.not_mem_nil
  | cons char rest => exact nil_notMem_clustersAfter (List.cons_ne_nil char []) rest

end PageCache.Text
