import ComponentNaming.Proofs.ByteOrder
import ComponentNaming.Proofs.Invariance

/-!
# Sets of wrappers and their members

The wrappers of a run are listed by the user in some order, some of them twice perhaps. The
set of a list is nothing but its members (`Wrappers.ofList_eq_ofList_iff`), and a set has one
listing: its members in the order of their bytes, each once (`Wrappers.bytes_increasing`). To
sort the members of a set by their bytes gives that listing, in whatever order they came
(`Wrappers.mergeSort_eq_names`).

A run is given the set and not the list. So lists with the same members make for the same
run, down to the report of the wrappers at its beginning (`members_determine_run`).
-/

set_option autoImplicit false

namespace ComponentNaming

/-- Whether a text comes before another one in the order of their bytes, or is that text. -/
def Text.isBeforeOrSame (first second : String) : Bool :=
  decide (Text.bytes first ≤ Text.bytes second)

theorem Text.isBeforeOrSame_iff {first second : String} :
    Text.isBeforeOrSame first second = true ↔ first ≤ second := by
  rw [isBeforeOrSame, decide_eq_true_iff, ← List.not_lt, bytes_lt_bytes_iff, String.not_lt]

namespace Wrappers

/-! ## One listing for each set -/

/-- The wrappers of a set are listed in the order of their bytes, each once. -/
theorem bytes_increasing (wrappers : Wrappers) :
    wrappers.names.Pairwise fun first second => Text.bytes first < Text.bytes second :=
  wrappers.increasing.imp Text.bytes_lt_bytes_iff.mpr

/-- **The set of a list is its members.** -/
theorem ofList_eq_ofList_iff {first second : List String} :
    ofList first = ofList second ↔ ∀ name, name ∈ first ↔ name ∈ second := by
  constructor
  · intro same name
    rw [← mem_ofList, same, mem_ofList]
  · intro same
    apply ext_mem
    intro name
    rw [mem_ofList, mem_ofList]
    exact same name

/-- **Sorting gives the listing.** The members of a list, each once and in any order, are sorted
to the listing of its set. -/
theorem mergeSort_eq_names {members names : List String} (distinct : members.Nodup)
    (same : ∀ name, name ∈ members ↔ name ∈ names) :
    members.mergeSort Text.isBeforeOrSame = (ofList names).names := by
  have sorted : (members.mergeSort Text.isBeforeOrSame).Pairwise (Text.isBeforeOrSame · ·) := by
    apply List.pairwise_mergeSort
    · intro first second third
      simp only [Text.isBeforeOrSame_iff]
      exact String.le_trans
    · intro first second
      rw [Bool.or_eq_true, Text.isBeforeOrSame_iff, Text.isBeforeOrSame_iff]
      exact String.le_total first second
  have distinctSorted : (members.mergeSort Text.isBeforeOrSame).Nodup :=
    (List.mergeSort_perm members _).nodup_iff.mpr distinct
  apply eq_of_mem_iff_mem ?_ (ofList names).increasing
  · intro name
    rw [List.mem_mergeSort, ← mem_def, mem_ofList]
    exact same name
  · refine (sorted.and distinctSorted).imp fun ⟨ordered, different⟩ => ?_
    exact Std.lt_of_le_of_ne (Text.isBeforeOrSame_iff.mp ordered) different

end Wrappers

/-! ## What a run sees of a list -/

/-- A run begins with the report of its wrappers. -/
theorem exists_log_nameComponents (wrappers : Wrappers) (program : Tree .node) :
    ∃ later, (nameComponents wrappers program).log = .configured wrappers :: later :=
  ⟨_, rfl⟩

/-- **A run sees nothing of a list but its members.** The set of a list, also if the list is
that of some options, contains the members of the list. The listing of the set has the same
members, in the order of their bytes, which is the order of their code points, and each of
them once. To sort the members gives this listing, whatever order they are enumerated in. Two
lists have the same set exactly if the listings of their sets are the same, and exactly if
they have the same members. Then the runs with the two sets leave the same program, and they
report the same events, beginning with the one that shows the listing. -/
theorem members_determine_run (first second : List String) :
    (∀ name, (Wrappers.ofList first).contains name = true ↔ name ∈ first) ∧
    Options.toWrappers { wrappers := first } = .ofList first ∧
    (Wrappers.ofList first).names.Pairwise
      (fun earlier later => Text.bytes earlier < Text.bytes later) ∧
    (∀ earlier later : String, Text.bytes earlier < Text.bytes later ↔
      Text.codePoints earlier < Text.codePoints later) ∧
    (∀ name, name ∈ (Wrappers.ofList first).names ↔ name ∈ first) ∧
    (∀ members : List String, members.Nodup → (∀ name, name ∈ members ↔ name ∈ first) →
      members.mergeSort Text.isBeforeOrSame = (Wrappers.ofList first).names) ∧
    (Wrappers.ofList first = .ofList second ↔
      (Wrappers.ofList first).names = (Wrappers.ofList second).names) ∧
    (Wrappers.ofList first = .ofList second ↔ ∀ name, name ∈ first ↔ name ∈ second) ∧
    ((∀ name, name ∈ first ↔ name ∈ second) → ∀ program : Tree .node,
      (nameComponents (.ofList first) program).value =
        (nameComponents (.ofList second) program).value ∧
      ∃ later : List Event,
        (nameComponents (.ofList first) program).log = .configured (.ofList first) :: later ∧
        (nameComponents (.ofList second) program).log = .configured (.ofList first) :: later ∧
        (Event.configured (.ofList first)).detail? =
          some ("hocs", Text.quoteList (Wrappers.ofList first).names)) := by
  refine ⟨fun name => ?_, rfl, Wrappers.bytes_increasing _, fun earlier later => ?_,
    fun name => Wrappers.mem_ofList, fun members distinct same =>
      Wrappers.mergeSort_eq_names distinct same,
    Wrappers.eq_iff_names_eq, Wrappers.ofList_eq_ofList_iff, fun same program => ?_⟩
  · rw [Wrappers.contains_iff, Wrappers.mem_ofList]
  · rw [Text.bytes_lt_bytes_iff, Text.codePoints_lt_codePoints_iff]
  · obtain ⟨later, log⟩ := exists_log_nameComponents (.ofList first) program
    rw [← Wrappers.ofList_eq_ofList_iff.mpr same]
    exact ⟨rfl, later, log, log, rfl⟩

/-- Three names, listed in two orders. The order of their bytes is a third one: a wide tilde
comes before a character beyond 16 bits. -/
theorem members_determine_nestedMemo_run :
    (∀ name, name ∈ ["memo", "😀", "～", "memo"] ↔ name ∈ ["～", "memo", "😀"]) ∧
    ["😀", "～", "memo"].mergeSort Text.isBeforeOrSame = ["memo", "～", "😀"] ∧
    (nameComponents (.ofList ["～", "memo", "😀"]) nestedMemo).value =
      (nameComponents (.ofList ["memo", "😀", "～", "memo"]) nestedMemo).value ∧
    ∃ later : List Event, namesIn later = ["B", "A"] ∧
      (nameComponents (.ofList ["～", "memo", "😀"]) nestedMemo).log =
        .configured (.ofList ["memo", "😀", "～", "memo"]) :: later := by
  have same : ∀ name, name ∈ ["memo", "😀", "～", "memo"] ↔ name ∈ ["～", "memo", "😀"] := by
    intro name
    simp only [List.mem_cons, List.not_mem_nil, or_false]
    grind
  have listing : (Wrappers.ofList ["memo", "😀", "～", "memo"]).names = ["memo", "～", "😀"] := rfl
  obtain ⟨_, _, _, _, _, sorts, _, _, sameRun⟩ :=
    members_determine_run ["memo", "😀", "～", "memo"] ["～", "memo", "😀"]
  obtain ⟨value, later, log, otherLog, _⟩ := sameRun same nestedMemo
  have sorted := sorts ["😀", "～", "memo"] (by decide) (by simp)
  have names : namesIn (nameComponents (.ofList ["memo", "😀", "～", "memo"]) nestedMemo).log =
    ["B", "A"] := rfl
  rw [log] at names
  exact ⟨same, sorted.trans listing, value.symm, later, names, otherLog⟩

end ComponentNaming
