/-!
# The set of wrapper names

A component is given a name only if it is wrapped by a call of one of the wrappers that
the user listed. The list is used as a set: neither its order nor repetitions matter.

A set is held as its members in increasing order, each once. Strings are ordered by code
point. So two sets with the same members are equal (`Wrappers.ext_mem`), and the listing
of a set depends on nothing but its members.
-/

set_option autoImplicit false

namespace ComponentNaming

/-- A set of wrapper names, listed in increasing order. -/
structure Wrappers where
  names : List String
  increasing : names.Pairwise (· < ·)
  deriving DecidableEq, Repr

namespace Wrappers

/-! ## Ordered insertion -/

/-- Puts a name at its place in an increasing list, unless it is there already. -/
def place (name : String) : List String → List String
  | [] => [name]
  | first :: rest =>
    if name < first then name :: first :: rest
    else if name = first then first :: rest
    else first :: place name rest

@[simp] theorem mem_place (name other : String) (names : List String) :
    other ∈ place name names ↔ other = name ∨ other ∈ names := by
  induction names with
  | nil => simp [place]
  | cons first rest ih =>
      simp only [place]
      split
      · simp
      · split <;> simp_all [or_left_comm]

theorem place_increasing (name : String) {names : List String}
    (increasing : names.Pairwise (· < ·)) : (place name names).Pairwise (· < ·) := by
  induction names with
  | nil => simp [place]
  | cons first rest ih =>
      obtain ⟨below, later⟩ := List.pairwise_cons.mp increasing
      simp only [place]
      split
      · rename_i before
        refine List.pairwise_cons.mpr ⟨fun other listed => ?_, increasing⟩
        rcases List.mem_cons.mp listed with rfl | listed
        · exact before
        · exact String.lt_trans before (below other listed)
      · split
        · exact increasing
        · rename_i notBefore distinct
          refine List.pairwise_cons.mpr ⟨fun other listed => ?_, ih later⟩
          rcases (mem_place name other rest).mp listed with rfl | listed
          · rcases Std.lt_trichotomy other first with before | same | after
            · exact absurd before notBefore
            · exact absurd same distinct
            · exact after
          · exact below other listed

/-! ## Sets -/

/-- The set without members. -/
def empty : Wrappers := ⟨[], .nil⟩

/-- A set with one more member. -/
def insert (wrappers : Wrappers) (name : String) : Wrappers :=
  ⟨place name wrappers.names, place_increasing name wrappers.increasing⟩

/-- The set of the names in a list. -/
def ofList (names : List String) : Wrappers :=
  names.foldr (fun name wrappers => wrappers.insert name) empty

/-- Whether a name is in the set. -/
def contains (wrappers : Wrappers) (name : String) : Bool := wrappers.names.contains name

/-- Whether the set has no members. -/
def isEmpty (wrappers : Wrappers) : Bool := wrappers.names.isEmpty

instance : Membership String Wrappers where
  mem wrappers name := name ∈ wrappers.names

theorem mem_def {wrappers : Wrappers} {name : String} :
    name ∈ wrappers ↔ name ∈ wrappers.names := Iff.rfl

@[simp] theorem contains_iff {wrappers : Wrappers} {name : String} :
    wrappers.contains name = true ↔ name ∈ wrappers := by
  simp [contains, mem_def]

@[simp] theorem mem_insert {wrappers : Wrappers} {name other : String} :
    other ∈ wrappers.insert name ↔ other = name ∨ other ∈ wrappers := by
  simp [mem_def, insert]

theorem not_mem_empty (name : String) : name ∉ empty := by
  simp [mem_def, empty]

theorem isEmpty_iff {wrappers : Wrappers} :
    wrappers.isEmpty = true ↔ ∀ name, name ∉ wrappers := by
  simp [isEmpty, mem_def, List.eq_nil_iff_forall_not_mem]

@[simp] theorem mem_ofList {names : List String} {name : String} :
    name ∈ ofList names ↔ name ∈ names := by
  induction names with
  | nil => simp [ofList, not_mem_empty]
  | cons first rest ih =>
      change name ∈ (ofList rest).insert first ↔ _
      rw [mem_insert, ih, List.mem_cons]

/-- Two increasing lists with the same members are equal. -/
theorem eq_of_mem_iff_mem {first second : List String} (firstIncreasing : first.Pairwise (· < ·))
    (secondIncreasing : second.Pairwise (· < ·)) (same : ∀ name, name ∈ first ↔ name ∈ second) :
    first = second := by
  have distinct {names : List String} (increasing : names.Pairwise (· < ·)) : names.Nodup :=
    List.Pairwise.imp (S := (· ≠ ·)) (fun less same => String.lt_irrefl _ (same ▸ less)) increasing
  refine List.Perm.eq_of_pairwise (fun a b _ _ less more => ?_) firstIncreasing secondIncreasing
    ((List.perm_ext_iff_of_nodup (distinct firstIncreasing) (distinct secondIncreasing)).mpr same)
  exact absurd more (String.lt_asymm less)

/-- Sets are equal exactly if their listings are. -/
theorem eq_iff_names_eq {first second : Wrappers} :
    first = second ↔ first.names = second.names := by
  constructor
  · exact congrArg names
  · intro listed
    obtain ⟨firstNames, _⟩ := first
    obtain ⟨secondNames, _⟩ := second
    subst listed
    rfl

/-- Sets with the same members are equal. -/
theorem ext_mem {first second : Wrappers} (same : ∀ name, name ∈ first ↔ name ∈ second) :
    first = second :=
  eq_iff_names_eq.mpr (eq_of_mem_iff_mem first.increasing second.increasing same)

end Wrappers

end ComponentNaming
