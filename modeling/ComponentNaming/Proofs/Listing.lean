import ComponentNaming.Options.Reader
import ComponentNaming.Proofs.Values

/-!
# Reading the names and the members

The list of names and the members of the object are read exactly as the grammar of options
derives them.

The reader of the members carries along the list of names that was given so far, if one
was, and refuses a second one when it meets its key. The grammar collects the lists that
the members give. The two are tied together by one equation between lists: those given
before, followed by those of the members, are the one or none that is yielded
(`Members.of_members`, `Members.members_eq`). Since an option holds at most one list, the
equation also says that no second one was given.
-/

set_option autoImplicit false

namespace ComponentNaming.Options.Grammar

open Json Json.Grammar

/-! ## The list of names -/

theorem Names.of_space {text between rest : List Char} {names : List String}
    (space : Space text between) (derived : Names between names rest) : Names text names rest := by
  cases derived with
  | last before token close => exact .last (space.trans before) token close
  | more before token comma later => exact .more (space.trans before) token comma later

theorem NameList.of_space {text between rest : List Char} {names : List String}
    (space : Space text between) (derived : NameList between names rest) :
    NameList text names rest := by
  cases derived with
  | empty before close => exact .empty (space.trans before) close
  | names before names => exact .names (space.trans before) names

/-- The first name of a list is what the text begins with. -/
theorem Names.begins {text rest : List Char} {names : List String}
    (derived : Names text names rest) : ∃ token, skipSpace text = '"' :: token := by
  cases derived with
  | last before _ _ => exact ⟨_, before.skipSpace_eq_cons rfl⟩
  | more before _ _ _ => exact ⟨_, before.skipSpace_eq_cons rfl⟩

theorem name_eq_ok_iff {text rest : List Char} {read : String} :
    Reader.name text = .ok (read, rest) ↔
      ∃ token chars, text = '"' :: token ∧ Quoted token chars rest ∧
        String.ofList chars = read := by
  constructor
  · intro done
    unfold Reader.name at done
    split at done
    · rename_i token
      obtain ⟨⟨chars, after⟩, quoted, same⟩ := map_eq_ok_iff.1 done
      cases same
      exact ⟨token, chars, rfl, quoted_eq_ok_iff.1 quoted, rfl⟩
    · cases done
  · rintro ⟨token, chars, rfl, quoted, rfl⟩
    rw [Reader.name, quoted_eq_ok_iff.2 quoted]
    rfl

/-- What can follow a name. -/
theorem afterName_cases {text rest : List Char} {goesOn : Bool}
    (done : Reader.afterName text = .ok (goesOn, rest)) :
    (goesOn = false ∧ Space text (']' :: rest)) ∨
      (goesOn = true ∧ ∃ next, Space text (',' :: next) ∧ Space next rest) := by
  unfold Reader.afterName at done
  split at done
  · cases done
  · rename_i closed
    cases done
    exact .inl ⟨rfl, .of_skipSpace closed⟩
  · rename_i next comma
    split at done
    · cases done
    · cases done
    · cases done
      exact .inr ⟨rfl, next, .of_skipSpace comma, space_skipSpace next⟩
  · cases done

theorem afterName_end {text rest : List Char} (closed : Space text (']' :: rest)) :
    Reader.afterName text = .ok (false, rest) := by
  simp only [Reader.afterName, closed.skipSpace_eq_cons rfl]

theorem afterName_comma {text next token : List Char} (comma : Space text (',' :: next))
    (begins : skipSpace next = '"' :: token) :
    Reader.afterName text = .ok (true, '"' :: token) := by
  simp only [Reader.afterName, comma.skipSpace_eq_cons rfl, begins]
  rfl

theorem Names.of_names {text rest : List Char} {read : List String}
    (done : Reader.names text = .ok (read, rest)) : Names text read rest := by
  fun_induction Reader.names text generalizing read rest with
  | case1 => cases done
  | case2 => cases done
  | case3 text name after first _ last =>
      cases done
      obtain ⟨token, chars, rfl, quoted, rfl⟩ := name_eq_ok_iff.1 first
      obtain ⟨_, closed⟩ | ⟨goesOn, _⟩ := afterName_cases last
      · exact .last .none quoted closed
      · cases goesOn
  | case4 => cases done
  | case5 text name after first between next names rest later ih =>
      cases done
      obtain ⟨token, chars, rfl, quoted, rfl⟩ := name_eq_ok_iff.1 first
      obtain ⟨ends, _⟩ | ⟨_, beyond, comma, space⟩ := afterName_cases next
      · cases ends
      · exact .more .none quoted comma ((ih later).of_space space)

theorem Names.names_eq {text rest : List Char} {names : List String}
    (derived : Names text names rest) : Reader.names (skipSpace text) = .ok (names, rest) := by
  induction derived with
  | last before quoted closed =>
      have first := name_eq_ok_iff.2 ⟨_, _, rfl, quoted, rfl⟩
      rw [before.skipSpace_eq_cons rfl, Reader.names, first]
      dsimp only
      rw [afterName_end closed]
  | more before quoted comma later ih =>
      obtain ⟨token, begins⟩ := later.begins
      have first := name_eq_ok_iff.2 ⟨_, _, rfl, quoted, rfl⟩
      rw [begins] at ih
      rw [before.skipSpace_eq_cons rfl, Reader.names, first]
      dsimp only
      rw [afterName_comma comma begins]
      simp only [ih]

theorem nameList_eq_ok_iff {text rest : List Char} {names : List String} :
    Reader.nameList text = .ok (names, rest) ↔ NameList text names rest := by
  constructor
  · intro done
    unfold Reader.nameList at done
    split at done
    · cases done
    · rename_i first opened
      split at done
      · cases done
      · rename_i closed
        cases done
        exact .empty (.of_skipSpace opened) (.of_skipSpace closed)
      · exact .names (.of_skipSpace opened) ((Names.of_names done).of_space (space_skipSpace first))
    · cases done
  · intro derived
    cases derived with
    | empty opened closed =>
        simp only [Reader.nameList, opened.skipSpace_eq_cons rfl,
          closed.skipSpace_eq_cons rfl]
    | names opened names =>
        obtain ⟨token, begins⟩ := names.begins
        have read := names.names_eq
        rw [begins] at read
        simp only [Reader.nameList, opened.skipSpace_eq_cons rfl, begins]
        exact read

/-! ## The members of the object -/

theorem Member.of_space {text between rest : List Char} {lists : List (List String)}
    (space : Space text between) (derived : Member between lists rest) :
    Member text lists rest := by
  cases derived with
  | names before key mark names => exact .names (space.trans before) key mark names
  | other before key unknown mark value => exact .other (space.trans before) key unknown mark value

theorem Members.of_space {text between rest : List Char} {lists : List (List String)}
    (space : Space text between) (derived : Members between lists rest) :
    Members text lists rest := by
  cases derived with
  | last member close => exact .last (member.of_space space) close
  | more member comma later => exact .more (member.of_space space) comma later

theorem ofList_eq_wrappersKey_iff {chars : List Char} :
    String.ofList chars = wrappersKey ↔ chars = "hocs".toList := by
  rw [← String.toList_inj, String.toList_ofList, wrappersKey]

theorem Member.of_member {listed read : Option (List String)} {text rest : List Char}
    (done : Reader.member listed text = .ok (read, rest)) :
    ∃ lists, Member ('"' :: text) lists rest ∧ listed.toList ++ lists = read.toList := by
  unfold Reader.member at done
  split at done
  · cases done
  · rename_i key after keyed
    rw [quoted_eq_ok_iff] at keyed
    split at done
    · rename_i known
      obtain rfl := ofList_eq_wrappersKey_iff.1 known
      split at done
      · cases done
      · rename_i unlisted
        obtain rfl : listed = none := by simpa using unlisted
        split at done
        · cases done
        · rename_i first mark
          obtain ⟨⟨names, between⟩, list, same⟩ := map_eq_ok_iff.1 done
          cases same
          exact ⟨[names], .names .none keyed (colon_eq_ok_iff.1 mark)
            (nameList_eq_ok_iff.1 list), rfl⟩
    · rename_i unknown
      split at done
      · cases done
      · rename_i first mark
        obtain ⟨between, value, same⟩ := map_eq_ok_iff.1 done
        cases same
        exact ⟨[], .other .none keyed (fun known => unknown (ofList_eq_wrappersKey_iff.2 known))
          (colon_eq_ok_iff.1 mark) (.of_skipValue value), List.append_nil _⟩

/-- A member begins with the quotation mark of its key. Behind it, the member is read. -/
theorem Member.member_eq {listed read : Option (List String)} {text rest : List Char}
    {lists : List (List String)} (derived : Member text lists rest) (boundary : Boundary rest)
    (single : listed.toList ++ lists = read.toList) :
    ∃ key, skipSpace text = '"' :: key ∧ Reader.member listed key = .ok (read, rest) := by
  cases derived with
  | @names _ _ _ _ names before key mark list =>
      obtain ⟨rfl, rfl⟩ : listed = none ∧ read = some names := by
        cases listed <;> cases read <;> simp_all
      refine ⟨_, before.skipSpace_eq_cons rfl, ?_⟩
      simp only [Reader.member, quoted_eq_ok_iff.2 key, colon_eq_ok_iff.2 mark,
        nameList_eq_ok_iff.2 list, ofList_eq_wrappersKey_iff.2 rfl]
      rfl
  | other before key unknown mark value =>
      obtain rfl : listed = read := by
        cases listed <;> cases read <;> simp_all
      refine ⟨_, before.skipSpace_eq_cons rfl, ?_⟩
      have other := mt ofList_eq_wrappersKey_iff.1 unknown
      simp only [Reader.member, quoted_eq_ok_iff.2 key, colon_eq_ok_iff.2 mark,
        value.skipValue_eq boundary, if_neg other]
      rfl

/-- What can follow a member. -/
theorem afterMember_cases {text rest : List Char} {goesOn : Bool}
    (done : Reader.afterMember text = .ok (goesOn, rest)) :
    (goesOn = false ∧ Space text ('\x7d' :: rest)) ∨
      (goesOn = true ∧ ∃ next, Space text (',' :: next) ∧ Space next ('"' :: rest)) := by
  unfold Reader.afterMember at done
  split at done
  · cases done
  · rename_i closed
    cases done
    exact .inl ⟨rfl, .of_skipSpace closed⟩
  · rename_i next comma
    split at done
    · cases done
    · rename_i quote
      cases done
      exact .inr ⟨rfl, next, .of_skipSpace comma, .of_skipSpace quote⟩
    · cases done
    · cases done
  · cases done

theorem afterMember_end {text rest : List Char} (closed : Space text ('\x7d' :: rest)) :
    Reader.afterMember text = .ok (false, rest) := by
  simp only [Reader.afterMember, closed.skipSpace_eq_cons rfl]

theorem afterMember_comma {text next key : List Char} (comma : Space text (',' :: next))
    (begins : skipSpace next = '"' :: key) : Reader.afterMember text = .ok (true, key) := by
  simp only [Reader.afterMember, comma.skipSpace_eq_cons rfl, begins]

theorem Members.of_members {listed read : Option (List String)} {text rest : List Char}
    (done : Reader.members listed text = .ok (read, rest)) :
    ∃ lists, Members ('"' :: text) lists rest ∧ listed.toList ++ lists = read.toList := by
  fun_induction Reader.members listed text with
  | case1 => cases done
  | case2 => cases done
  | case3 listed text now between first after last =>
      cases done
      obtain ⟨lists, member, single⟩ := Member.of_member first
      obtain ⟨_, closed⟩ | ⟨goesOn, _⟩ := afterMember_cases last
      · exact ⟨lists, .last member closed, single⟩
      · cases goesOn
  | case4 listed text now between first after next ih =>
      obtain ⟨lists, member, single⟩ := Member.of_member first
      obtain ⟨others, later, total⟩ := ih done
      obtain ⟨ends, _⟩ | ⟨_, beyond, comma, space⟩ := afterMember_cases next
      · cases ends
      · refine ⟨lists ++ others, .more member comma (later.of_space space), ?_⟩
        rw [← List.append_assoc, single, total]

theorem exists_toList_of_append {α : Type} {first second : List α} {whole : Option α}
    (single : first ++ second = whole.toList) : ∃ part : Option α, part.toList = first := by
  cases first with
  | nil => exact ⟨none, rfl⟩
  | cons a first =>
      cases first with
      | nil => exact ⟨some a, rfl⟩
      | cons b first => cases whole <;> simp at single

theorem Members.members_eq {listed read : Option (List String)} {text rest : List Char}
    {lists : List (List String)} (derived : Members text lists rest)
    (single : listed.toList ++ lists = read.toList) :
    ∃ key, skipSpace text = '"' :: key ∧ Reader.members listed key = .ok (read, rest) := by
  induction derived generalizing listed with
  | last member closed =>
      have boundary : Boundary _ := .of_space closed ⟨rfl, by simp, by simp⟩
      obtain ⟨key, begins, first⟩ := member.member_eq boundary single
      refine ⟨key, begins, ?_⟩
      rw [Reader.members, first]
      dsimp only
      rw [afterMember_end closed]
  | more member comma later ih =>
      have boundary : Boundary _ := .of_space comma ⟨rfl, by simp, by simp⟩
      -- The lists up to and with this member are again one or none, so it can be read.
      rw [← List.append_assoc] at single
      obtain ⟨now, part⟩ := exists_toList_of_append single
      rw [← part] at single
      obtain ⟨key, begins, first⟩ := member.member_eq boundary part.symm
      obtain ⟨nextKey, beginsNext, others⟩ := ih single
      refine ⟨key, begins, ?_⟩
      rw [Reader.members, first]
      dsimp only
      rw [afterMember_comma comma beginsNext]
      exact others

end ComponentNaming.Options.Grammar
