import ComponentNaming.Proofs.Listing
import Mathlib.Logic.ExistsUnique

/-!
# The language of options

Every text is of one of four kinds, and its kind settles what is read from it
(`kind_decides_parse`): a text of nothing but blanks, a text of the grammar that gives
names, a text of the grammar with an empty name in its list, or none of these. The
reader of the whole text is matched with the grammar first (`document_eq_ok_iff`), so that
the kinds do not mention it.
-/

set_option autoImplicit false

namespace ComponentNaming.Options

open Json Json.Grammar Grammar

/-! ## The whole text -/

theorem object_eq_ok_iff {text rest : List Char} {listed : Option (List String)} :
    Reader.object text = .ok (listed, rest) ↔
      (Space text ('\x7d' :: rest) ∧ listed = none) ∨ Members text listed.toList rest := by
  constructor
  · intro done
    unfold Reader.object at done
    split at done
    · cases done
    · rename_i closed
      cases done
      exact .inl ⟨.of_skipSpace closed, rfl⟩
    · rename_i quote
      obtain ⟨lists, members, same⟩ := Members.of_members done
      obtain rfl : lists = listed.toList := same
      exact .inr (members.of_space (.of_skipSpace quote))
    · cases done
  · rintro (⟨closed, rfl⟩ | members)
    · simp only [Reader.object, closed.skipSpace_eq_cons rfl]
    · have single : Option.toList none ++ listed.toList = listed.toList := List.nil_append _
      obtain ⟨key, begins, read⟩ := members.members_eq single
      simp only [Reader.object, begins]
      exact read

theorem arrayEnd_eq_ok_iff {text rest : List Char} :
    Reader.arrayEnd text = .ok rest ↔ Space text (']' :: rest) := by
  constructor
  · intro done
    unfold Reader.arrayEnd at done
    split at done
    · cases done
    · rename_i closed
      cases done
      exact .of_skipSpace closed
    · split at done <;> cases done
    · cases done
  · intro closed
    simp only [Reader.arrayEnd, closed.skipSpace_eq_cons rfl]

theorem array_eq_ok_iff {text rest : List Char} {listed : Option (List String)} :
    Reader.array text = .ok (listed, rest) ↔
      (Space text (']' :: rest) ∧ listed = none) ∨
      ∃ names later, listed = some names ∧ NameList text names later ∧
        Space later (']' :: rest) := by
  constructor
  · intro done
    unfold Reader.array at done
    split at done
    · cases done
    · rename_i closed
      cases done
      exact .inl ⟨.of_skipSpace closed, rfl⟩
    · split at done
      · cases done
      · rename_i names later list
        obtain ⟨after, close, same⟩ := map_eq_ok_iff.1 done
        cases same
        exact .inr ⟨names, later, rfl,
          (nameList_eq_ok_iff.1 list).of_space (space_skipSpace text), arrayEnd_eq_ok_iff.1 close⟩
  · rintro (⟨closed, rfl⟩ | ⟨names, later, rfl, list, close⟩)
    · simp only [Reader.array, closed.skipSpace_eq_cons rfl]
    · obtain ⟨first, opened⟩ : ∃ first, skipSpace text = '[' :: first := by
        cases list with
        | empty opened _ => exact ⟨_, opened.skipSpace_eq_cons rfl⟩
        | names opened _ => exact ⟨_, opened.skipSpace_eq_cons rfl⟩
      -- The list is read from its bracket on, and derived from the white space before it.
      have read : Reader.nameList ('[' :: first) = .ok (names, later) := by
        rw [← opened, ← nameList_eq_ok_iff.2 list, Reader.nameList, Reader.nameList,
          skipSpace_skipSpace]
      simp only [Reader.array, opened]
      split
      · rename_i none
        cases none
      · rename_i closed
        cases closed
      · simp only [read, arrayEnd_eq_ok_iff.2 close]
        rfl

theorem value_eq_ok_iff {text rest : List Char} {listed : Option (List String)} :
    Reader.value text = .ok (listed, rest) ↔ Body text listed rest := by
  constructor
  · intro done
    unfold Reader.value at done
    split at done
    · cases done
    · rename_i opened
      rcases object_eq_ok_iff.1 done with ⟨closed, rfl⟩ | members
      · exact .emptyObject (.of_skipSpace opened) closed
      · exact .object (.of_skipSpace opened) members
    · rename_i opened
      rcases array_eq_ok_iff.1 done with ⟨closed, rfl⟩ | ⟨names, later, rfl, list, close⟩
      · exact .emptyArray (.of_skipSpace opened) closed
      · exact .array (.of_skipSpace opened) list close
    · cases done
  · intro derived
    cases derived with
    | emptyObject opened closed =>
        simp only [Reader.value, opened.skipSpace_eq_cons rfl]
        exact object_eq_ok_iff.2 (.inl ⟨closed, rfl⟩)
    | object opened members =>
        simp only [Reader.value, opened.skipSpace_eq_cons rfl]
        exact object_eq_ok_iff.2 (.inr members)
    | emptyArray opened closed =>
        simp only [Reader.value, opened.skipSpace_eq_cons rfl]
        exact array_eq_ok_iff.2 (.inl ⟨closed, rfl⟩)
    | array opened list close =>
        simp only [Reader.value, opened.skipSpace_eq_cons rfl]
        exact array_eq_ok_iff.2 (.inr ⟨_, _, rfl, list, close⟩)

/-- A whole text is read exactly as the grammar derives it. -/
theorem document_eq_ok_iff {text : List Char} {listed : Option (List String)} :
    Reader.document text = .ok listed ↔ Document text listed := by
  constructor
  · intro done
    unfold Reader.document at done
    split at done
    · cases done
    · rename_i value
      split at done
      · rename_i ended
        cases done
        exact .whole (value_eq_ok_iff.1 value) (.of_skipSpace ended)
      · cases done
  · rintro ⟨body, ended⟩
    simp only [Reader.document, value_eq_ok_iff.2 body, skipSpace_eq_nil_iff.2 ended]

/-! ## The kinds of texts -/

/-- The text is of the grammar and gives these names: those of its list, or the default
list if it has none. -/
def Lists (raw : String) (names : List String) : Prop :=
  ∃ listed, Document raw.toList listed ∧ listed.getD defaultWrappers = names

/-- The text has nothing but white space. -/
def IsBlank (raw : String) : Prop := ∀ char ∈ raw.toList, Text.isBlank char = true

/-- The first empty name stands at this index. -/
def FirstEmpty (names : List String) (index : Nat) : Prop :=
  names[index]? = some "" ∧ ∀ earlier < index, names[earlier]? ≠ some ""

/-- What a text can be. -/
inductive Kind where
  | blank
  | valid (names : List String)
  | emptyName (index : Nat)
  | malformed

/-- Which texts are of a kind. -/
def Kind.Holds (raw : String) : Kind → Prop
  | blank => IsBlank raw
  | valid names => ¬IsBlank raw ∧ Lists raw names ∧ "" ∉ names
  | emptyName index => ¬IsBlank raw ∧ ∃ names, Lists raw names ∧ FirstEmpty names index
  | malformed => ¬IsBlank raw ∧ ∀ names, ¬Lists raw names

/-- What is read from the texts of a kind. -/
def Kind.Decides (result : Except Rejection Options) : Kind → Prop
  | blank => result = .ok { wrappers := defaultWrappers }
  | valid names => result = .ok { wrappers := names }
  | emptyName index => result = .error (.emptyName index)
  | malformed => ∃ cause location, result = .error (.malformed cause location)

/-- A text gives at most one list of names. -/
theorem Lists.unique {raw : String} {names others : List String} (first : Lists raw names)
    (second : Lists raw others) : names = others := by
  obtain ⟨listed, document, rfl⟩ := first
  obtain ⟨listed', document', rfl⟩ := second
  rw [← document_eq_ok_iff] at document document'
  rw [document] at document'
  cases document'
  rfl

theorem findIdx?_eq_some_iff_firstEmpty {names : List String} {index : Nat} :
    names.findIdx? String.isEmpty = some index ↔ FirstEmpty names index := by
  rw [List.findIdx?_eq_some_iff_getElem]
  constructor
  · rintro ⟨inside, empty, before⟩
    refine ⟨?_, fun earlier less same => ?_⟩
    · rw [List.getElem?_eq_getElem inside, String.isEmpty_iff.1 empty]
    · obtain ⟨bound, same⟩ := List.getElem?_eq_some_iff.1 same
      exact before earlier less (String.isEmpty_iff.2 same)
  · rintro ⟨empty, before⟩
    obtain ⟨inside, empty⟩ := List.getElem?_eq_some_iff.1 empty
    refine ⟨inside, String.isEmpty_iff.2 empty, fun earlier less same => ?_⟩
    have bound : earlier < names.length := Nat.lt_trans less inside
    exact before earlier less
      (by rw [List.getElem?_eq_getElem bound, String.isEmpty_iff.1 same])

theorem findIdx?_eq_none_iff_noEmpty {names : List String} :
    names.findIdx? String.isEmpty = none ↔ "" ∉ names := by
  rw [List.findIdx?_eq_none_iff]
  constructor
  · intro none empty
    exact absurd (none "" empty) (by decide)
  · intro noEmpty name mem
    rw [Bool.eq_false_iff, ne_eq, String.isEmpty_iff]
    rintro rfl
    exact noEmpty mem

theorem FirstEmpty.mem {names : List String} {index : Nat} (first : FirstEmpty names index) :
    "" ∈ names := List.mem_of_getElem? first.1

theorem FirstEmpty.unique {names : List String} {index other : Nat}
    (first : FirstEmpty names index) (second : FirstEmpty names other) : index = other := by
  rw [← findIdx?_eq_some_iff_firstEmpty] at first second
  rw [first] at second
  exact Option.some.inj second

/-! ## The kind decides -/

theorem isAllBlank_eq_true_iff {raw : String} :
    Text.isAllBlank raw.toList = true ↔ IsBlank raw := List.all_eq_true

theorem parse_of_lists {raw : String} {names : List String} (notBlank : ¬IsBlank raw)
    (lists : Lists raw names) : parse raw = ofNames names := by
  obtain ⟨listed, document, rfl⟩ := lists
  rw [parse, if_neg (mt isAllBlank_eq_true_iff.1 notBlank), document_eq_ok_iff.2 document]

theorem Kind.Holds.decides {raw : String} {kind : Kind} (holds : kind.Holds raw) :
    kind.Decides (parse raw) := by
  cases kind with
  | blank =>
      rw [parse, if_pos (isAllBlank_eq_true_iff.2 holds)]
      rfl
  | valid names =>
      obtain ⟨notBlank, lists, noEmpty⟩ := holds
      rw [parse_of_lists notBlank lists, ofNames, findIdx?_eq_none_iff_noEmpty.2 noEmpty]
      rfl
  | emptyName index =>
      obtain ⟨notBlank, names, lists, first⟩ := holds
      rw [parse_of_lists notBlank lists, ofNames, findIdx?_eq_some_iff_firstEmpty.2 first]
      rfl
  | malformed =>
      obtain ⟨notBlank, noLists⟩ := holds
      cases read : Reader.document raw.toList with
      | ok listed => exact absurd ⟨listed, document_eq_ok_iff.1 read, rfl⟩ (noLists _)
      | error fault =>
          refine ⟨fault.cause, fault.location raw.toList, ?_⟩
          rw [parse, if_neg (mt isAllBlank_eq_true_iff.1 notBlank), read]

theorem Kind.exists_holds (raw : String) : ∃ kind : Kind, kind.Holds raw := by
  by_cases blank : IsBlank raw
  · exact ⟨.blank, blank⟩
  by_cases listing : ∃ names, Lists raw names
  · obtain ⟨names, lists⟩ := listing
    cases found : names.findIdx? String.isEmpty with
    | none => exact ⟨.valid names, blank, lists, findIdx?_eq_none_iff_noEmpty.1 found⟩
    | some index =>
        exact ⟨.emptyName index, blank, names, lists, findIdx?_eq_some_iff_firstEmpty.1 found⟩
  · exact ⟨.malformed, blank, fun names lists => listing ⟨names, lists⟩⟩

theorem Kind.Holds.unique {raw : String} {kind other : Kind} (first : kind.Holds raw)
    (second : other.Holds raw) : kind = other := by
  cases kind with
  | blank =>
      cases other with
      | blank => rfl
      | valid _ => exact absurd first second.1
      | emptyName _ => exact absurd first second.1
      | malformed => exact absurd first second.1
  | valid names =>
      obtain ⟨notBlank, lists, noEmpty⟩ := first
      cases other with
      | blank => exact absurd second notBlank
      | valid others => rw [lists.unique second.2.1]
      | emptyName index =>
          obtain ⟨_, others, lists', first⟩ := second
          rw [lists.unique lists'] at noEmpty
          exact absurd first.mem noEmpty
      | malformed => exact absurd lists (second.2 names)
  | emptyName index =>
      obtain ⟨notBlank, names, lists, first⟩ := first
      cases other with
      | blank => exact absurd second notBlank
      | valid others =>
          rw [lists.unique second.2.1] at first
          exact absurd first.mem second.2.2
      | emptyName other =>
          obtain ⟨_, others, lists', first'⟩ := second
          rw [lists.unique lists'] at first
          rw [first.unique first']
      | malformed => exact absurd lists (second.2 names)
  | malformed =>
      obtain ⟨notBlank, noLists⟩ := first
      cases other with
      | blank => exact absurd second notBlank
      | valid others => exact absurd second.2.1 (noLists others)
      | emptyName index =>
          obtain ⟨_, others, lists, _⟩ := second
          exact absurd lists (noLists others)
      | malformed => rfl

/-- Every text is of exactly one kind, and the kind settles what is read from it. -/
theorem kind_decides_parse (raw : String) :
    (∃! kind : Kind, kind.Holds raw) ∧
      ∀ kind : Kind, kind.Holds raw → kind.Decides (parse raw) := by
  obtain ⟨kind, holds⟩ := Kind.exists_holds raw
  refine ⟨⟨kind, holds, fun other second => second.unique holds⟩, ?_⟩
  intro kind holds
  exact holds.decides

end ComponentNaming.Options
