import ComponentNaming.Proofs.Spelling

/-!
# Passing over values

A value that is passed over is exactly a value of the grammar, however deep it is.

The reader has no recursion that follows the nesting: it keeps a list of the pieces that are
still expected. What that list stands for is `Follows`: the pieces, derived one after the
other. One step replaces a piece by the pieces that it begins with, and a derivation of
those makes a derivation of the piece (`Derives.of_advance`). Therefore a run that ends
well has derived all that was expected (`Follows.of_skip`).

The other direction is an induction on the derivation, with the pieces after it left
arbitrary: what is derived is passed over, and the run goes on behind it
(`Derives.skip_eq`).
-/

set_option autoImplicit false

namespace ComponentNaming.Json.Grammar

/-! ## Keys and white space before a piece -/

theorem Space.trans {text between rest : List Char} (first : Space text between)
    (second : Space between rest) : Space text rest := by
  induction first with
  | none => exact second
  | more char _ ih => exact .more char (ih second)

theorem colon_eq_ok_iff {text rest : List Char} :
    colon text = .ok rest ↔ Space text (':' :: rest) := by
  constructor
  · intro read
    unfold colon at read
    split at read
    · rename_i skipped
      cases read
      exact .of_skipSpace skipped
    · cases read
    · cases read
  · intro space
    simp only [colon, space.skipSpace_eq_cons rfl]

theorem skipKey_eq_ok_iff {text rest : List Char} : skipKey text = .ok rest ↔ Key text rest := by
  constructor
  · intro read
    unfold skipKey at read
    split at read
    · rename_i opened
      split at read
      · cases read
      · rename_i key
        exact .colon (.of_skipSpace opened) (skipQuoted_eq_ok_iff.1 key) (colon_eq_ok_iff.1 read)
    · cases read
    · cases read
  · rintro ⟨opened, key, mark⟩
    rw [skipKey, opened.skipSpace_eq_cons rfl]
    simp only [skipQuoted_eq_ok_iff.2 key, colon_eq_ok_iff.2 mark]

theorem Key.of_space {text between rest : List Char} (space : Space text between)
    (key : Key between rest) : Key text rest := by
  cases key with
  | colon opened key mark => exact .colon (space.trans opened) key mark

theorem Derives.of_space {piece : Pending} {text between rest : List Char}
    (space : Space text between) (derived : Derives piece between rest) :
    Derives piece text rest := by
  cases derived with
  | word known before => exact .word known (space.trans before)
  | number before number => exact .number (space.trans before) number
  | text before text => exact .text (space.trans before) text
  | emptyList before close => exact .emptyList (space.trans before) close
  | list before first later => exact .list (space.trans before) first later
  | emptyObject before close => exact .emptyObject (space.trans before) close
  | object before key first later => exact .object (space.trans before) key first later
  | listEnd before => exact .listEnd (space.trans before)
  | element before first later => exact .element (space.trans before) first later
  | objectEnd before => exact .objectEnd (space.trans before)
  | member before key first later => exact .member (space.trans before) key first later

/-! ## What is passed over is derived -/

/-- Pieces that stand one after the other. -/
inductive Follows : List Pending → List Char → List Char → Prop where
  | nil {text : List Char} : Follows [] text text
  | cons {piece : Pending} {pending : List Pending} {text between rest : List Char} :
      Derives piece text between → Follows pending between rest →
      Follows (piece :: pending) text rest

theorem follows_append_iff {first second : List Pending} {text rest : List Char} :
    Follows (first ++ second) text rest ↔
      ∃ between, Follows first text between ∧ Follows second between rest := by
  induction first generalizing text with
  | nil =>
      constructor
      · intro second
        exact ⟨text, .nil, second⟩
      · rintro ⟨_, ⟨⟩, second⟩
        exact second
  | cons piece first ih =>
      constructor
      · rintro (_ | ⟨derived, later⟩)
        obtain ⟨between, first, second⟩ := ih.1 later
        exact ⟨between, .cons derived first, second⟩
      · rintro ⟨between, _ | ⟨derived, first⟩, second⟩
        exact .cons derived (ih.2 ⟨between, first, second⟩)

theorem follows_pair_iff {first second : Pending} {text rest : List Char} :
    Follows [first, second] text rest ↔
      ∃ between, Derives first text between ∧ Derives second between rest := by
  constructor
  · rintro (_ | ⟨derived, _ | ⟨later, ⟨⟩⟩⟩)
    exact ⟨_, derived, later⟩
  · rintro ⟨between, derived, later⟩
    exact .cons derived (.cons later .nil)

/-- A word, a number or a text is a value. -/
theorem Derives.of_skipScalar {text token rest : List Char} (space : Space text token)
    (read : skipScalar token = .ok rest) : Derives .value text rest := by
  unfold skipScalar at read
  split at read
  · exact .text space (skipQuoted_eq_ok_iff.1 read)
  · rw [word_eq_ok_iff] at read
    subst read
    exact .word (.head _) space
  · rw [word_eq_ok_iff] at read
    subst read
    exact .word (.tail _ (.head _)) space
  · rw [word_eq_ok_iff] at read
    subst read
    exact .word (.tail _ (.tail _ (.head _))) space
  · split at read
    · obtain ⟨⟨numeral, after⟩, number, rfl⟩ := map_eq_ok_iff.1 read
      exact .number space (.of_numeral number)
    · cases read

theorem Derives.of_beginValue {more : List Pending} {text between rest : List Char}
    (step : beginValue text = .ok (more, between)) (expected : Follows more between rest) :
    Derives .value text rest := by
  unfold beginValue at step
  split at step
  · cases step
  · rename_i opened
    split at step
    · cases step
    · rename_i closed
      cases step
      cases expected
      exact .emptyList (.of_skipSpace opened) (.of_skipSpace closed)
    · cases step
      obtain ⟨after, first, later⟩ := follows_pair_iff.1 expected
      exact .list (.of_skipSpace opened) (first.of_space (space_skipSpace _)) later
  · rename_i opened
    split at step
    · cases step
    · rename_i closed
      cases step
      cases expected
      exact .emptyObject (.of_skipSpace opened) (.of_skipSpace closed)
    · obtain ⟨after, key, same⟩ := map_eq_ok_iff.1 step
      cases same
      obtain ⟨after, first, later⟩ := follows_pair_iff.1 expected
      exact .object (.of_skipSpace opened)
        ((skipKey_eq_ok_iff.1 key).of_space (space_skipSpace _)) first later
  · obtain ⟨after, scalar, same⟩ := map_eq_ok_iff.1 step
    cases same
    cases expected
    exact .of_skipScalar (space_skipSpace text) scalar

theorem Derives.of_continueList {more : List Pending} {text between rest : List Char}
    (step : continueList text = .ok (more, between)) (expected : Follows more between rest) :
    Derives .listEnd text rest := by
  unfold continueList at step
  split at step
  · cases step
  · rename_i comma
    cases step
    obtain ⟨after, first, later⟩ := follows_pair_iff.1 expected
    exact .element (.of_skipSpace comma) first later
  · rename_i closed
    cases step
    cases expected
    exact .listEnd (.of_skipSpace closed)
  · cases step

theorem Derives.of_continueObject {more : List Pending} {text between rest : List Char}
    (step : continueObject text = .ok (more, between)) (expected : Follows more between rest) :
    Derives .objectEnd text rest := by
  unfold continueObject at step
  split at step
  · cases step
  · rename_i comma
    obtain ⟨after, key, same⟩ := map_eq_ok_iff.1 step
    cases same
    obtain ⟨after, first, later⟩ := follows_pair_iff.1 expected
    exact .member (.of_skipSpace comma) (skipKey_eq_ok_iff.1 key) first later
  · rename_i closed
    cases step
    cases expected
    exact .objectEnd (.of_skipSpace closed)
  · cases step

/-- One step: what derives the pieces in the place of a piece derives the piece. -/
theorem Derives.of_advance {piece : Pending} {more : List Pending}
    {text between rest : List Char} (step : piece.advance text = .ok (more, between))
    (expected : Follows more between rest) : Derives piece text rest := by
  cases piece with
  | value => exact .of_beginValue step expected
  | listEnd => exact .of_continueList step expected
  | objectEnd => exact .of_continueObject step expected

/-- A run: all pieces that were expected have been derived. -/
theorem Follows.of_skip {pending : List Pending} {text rest : List Char}
    (read : skip pending text = .ok rest) : Follows pending text rest := by
  fun_induction skip pending text with
  | case1 =>
      cases read
      exact .nil
  | case2 => cases read
  | case3 text piece pending more between step ih =>
      -- The pieces in the place of the first one come first, then those that were pending.
      obtain ⟨after, first, later⟩ := follows_append_iff.1 (ih read)
      exact .cons (.of_advance step first) later

/-! ## What is derived is passed over -/

theorem skip_cons {piece : Pending} {more pending : List Pending} {text between : List Char}
    (step : piece.advance text = .ok (more, between)) :
    skip (piece :: pending) text = skip (more ++ pending) between := by
  rw [skip]
  split
  · rename_i failed
    rw [step] at failed
    cases failed
  · rename_i found
    rw [step] at found
    cases found
    rfl

theorem skip_skipSpace (piece : Pending) (pending : List Pending) (text : List Char) :
    skip (piece :: pending) (skipSpace text) = skip (piece :: pending) text := by
  have same : piece.advance (skipSpace text) = piece.advance text := by
    cases piece with
    | value => simp only [Pending.advance, beginValue, skipSpace_skipSpace]
    | listEnd => simp only [Pending.advance, continueList, skipSpace_skipSpace]
    | objectEnd => simp only [Pending.advance, continueObject, skipSpace_skipSpace]
  rw [skip, same, skip]

theorem not_isSpace_of_begins {char : Char} (begins : char = '-' ∨ char.isDigit = true) :
    isSpace char = false := by
  rw [Bool.eq_false_iff, ne_eq, ← mem_spaces_iff]
  intro space
  simp only [spaces, List.mem_cons, List.not_mem_nil, or_false] at space
  rcases space with rfl | rfl | rfl | rfl <;> exact absurd begins (by decide)

theorem Space.skipSpace_eq_word {text word rest : List Char} (space : Space text (word ++ rest))
    (known : word ∈ words) : skipSpace text = word ++ rest := by
  simp only [words, List.mem_cons, List.not_mem_nil, or_false] at known
  rcases known with rfl | rfl | rfl <;> exact space.skipSpace_eq_cons rfl

/-- A value begins with a token that closes no list. -/
theorem Derives.begins {text rest : List Char} (derived : Derives .value text rest) :
    ∃ char later, skipSpace text = char :: later ∧ char ≠ ']' := by
  cases derived with
  | word known space =>
      simp only [words, List.mem_cons, List.not_mem_nil, or_false] at known
      rcases known with rfl | rfl | rfl <;>
        exact ⟨_, _, space.skipSpace_eq_cons rfl, by decide⟩
  | number space number =>
      obtain ⟨char, later, rfl, begins⟩ := number.begins
      refine ⟨char, later, space.skipSpace_eq_cons (not_isSpace_of_begins begins), ?_⟩
      rintro rfl
      exact absurd begins (by decide)
  | text space _ => exact ⟨_, _, space.skipSpace_eq_cons rfl, by decide⟩
  | emptyList space _ => exact ⟨_, _, space.skipSpace_eq_cons rfl, by decide⟩
  | list space _ _ => exact ⟨_, _, space.skipSpace_eq_cons rfl, by decide⟩
  | emptyObject space _ => exact ⟨_, _, space.skipSpace_eq_cons rfl, by decide⟩
  | object space _ _ _ => exact ⟨_, _, space.skipSpace_eq_cons rfl, by decide⟩

/-- What comes after a value ends a number in it. -/
theorem Derives.boundary {piece : Pending} {text rest : List Char}
    (derived : Derives piece text rest) (behind : piece ≠ .value) : Boundary text := by
  have comma : ∀ rest, Boundary (',' :: rest) := fun rest => ⟨rfl, by simp, by simp⟩
  have bracket : ∀ rest, Boundary (']' :: rest) := fun rest => ⟨rfl, by simp, by simp⟩
  have brace : ∀ rest, Boundary ('\x7d' :: rest) := fun rest => ⟨rfl, by simp, by simp⟩
  cases derived with
  | listEnd space => exact .of_space space (bracket _)
  | element space _ _ => exact .of_space space (comma _)
  | objectEnd space => exact .of_space space (brace _)
  | member space _ _ _ => exact .of_space space (comma _)
  | _ => exact absurd rfl behind

theorem skipScalar_number {text rest : List Char} (number : Number text rest)
    (boundary : Boundary rest) : skipScalar text = .ok rest := by
  obtain ⟨read, done⟩ := number.isRead boundary .invalidNumber
  obtain ⟨char, later, rfl, begins⟩ := number.begins
  unfold skipScalar
  split
  case h_5 =>
    have first : (char :: later).head? = some '-' ∨ startsWithDigit (char :: later) = true := by
      simpa [startsWithDigit] using begins
    rw [if_pos first, done]
    rfl
  all_goals
    rename_i same
    cases same
    exact absurd begins (by decide)

theorem skipScalar_word {word : List Char} (known : word ∈ words) (rest : List Char) :
    skipScalar (word ++ rest) = .ok rest := by
  simp only [words, List.mem_cons, List.not_mem_nil, or_false] at known
  rcases known with rfl | rfl | rfl <;> exact word_eq_ok_iff.2 rfl

/-! ### The first step at a value -/

variable {pending : List Pending} {text first : List Char}

theorem skip_scalar {token rest : List Char} (skipped : skipSpace text = token)
    (scalar : skipScalar token = .ok rest) : skip (.value :: pending) text = skip pending rest := by
  have step : Pending.advance .value text = .ok ([], rest) := by
    rw [Pending.advance, beginValue]
    split
    · rename_i none
      rw [← skipped, none] at scalar
      cases scalar
    · rename_i opened
      rw [← skipped, opened] at scalar
      cases scalar
    · rename_i opened
      rw [← skipped, opened] at scalar
      cases scalar
    · rw [skipped, scalar]
      rfl
  exact skip_cons step

theorem skip_emptyList {rest : List Char} (opened : Space text ('[' :: first))
    (closed : Space first (']' :: rest)) :
    skip (.value :: pending) text = skip pending rest := by
  have step : Pending.advance .value text = .ok ([], rest) := by
    simp only [Pending.advance, beginValue, opened.skipSpace_eq_cons rfl,
      closed.skipSpace_eq_cons rfl]
  exact skip_cons step

theorem skip_list {rest : List Char} (opened : Space text ('[' :: first))
    (value : Derives .value first rest) :
    skip (.value :: pending) text = skip (.value :: .listEnd :: pending) first := by
  obtain ⟨char, later, begins, element⟩ := value.begins
  have step : Pending.advance .value text = .ok ([.value, .listEnd], skipSpace first) := by
    simp only [Pending.advance, beginValue, opened.skipSpace_eq_cons rfl, begins]
    split
    · rename_i none
      cases none
    · rename_i closed
      cases closed
      exact absurd rfl element
    · rfl
  -- The reader goes on at the first element, past the white space that is derived before it.
  rw [← skip_skipSpace .value _ first]
  exact skip_cons step

theorem skip_emptyObject {rest : List Char} (opened : Space text ('\x7b' :: first))
    (closed : Space first ('\x7d' :: rest)) :
    skip (.value :: pending) text = skip pending rest := by
  have step : Pending.advance .value text = .ok ([], rest) := by
    simp only [Pending.advance, beginValue, opened.skipSpace_eq_cons rfl,
      closed.skipSpace_eq_cons rfl]
  exact skip_cons step

theorem skip_object {key : List Char} (opened : Space text ('\x7b' :: key))
    (derived : Key key first) :
    skip (.value :: pending) text = skip (.value :: .objectEnd :: pending) first := by
  have step : Pending.advance .value text = .ok ([.value, .objectEnd], first) := by
    obtain ⟨quote, text, mark⟩ := derived
    have begins := quote.skipSpace_eq_cons rfl
    have read := skipKey_eq_ok_iff.2 (.colon .none text mark)
    simp only [Pending.advance, beginValue, opened.skipSpace_eq_cons rfl, begins]
    exact congrArg (Except.map fun rest => ([Pending.value, .objectEnd], rest)) read
  exact skip_cons step

/-! ### The first step behind a value -/

theorem skip_listEnd {rest : List Char} (closed : Space text (']' :: rest)) :
    skip (.listEnd :: pending) text = skip pending rest := by
  have step : Pending.advance .listEnd text = .ok ([], rest) := by
    simp only [Pending.advance, continueList, closed.skipSpace_eq_cons rfl]
  exact skip_cons step

theorem skip_element (comma : Space text (',' :: first)) :
    skip (.listEnd :: pending) text = skip (.value :: .listEnd :: pending) first := by
  have step : Pending.advance .listEnd text = .ok ([.value, .listEnd], first) := by
    simp only [Pending.advance, continueList, comma.skipSpace_eq_cons rfl]
  exact skip_cons step

theorem skip_objectEnd {rest : List Char} (closed : Space text ('\x7d' :: rest)) :
    skip (.objectEnd :: pending) text = skip pending rest := by
  have step : Pending.advance .objectEnd text = .ok ([], rest) := by
    simp only [Pending.advance, continueObject, closed.skipSpace_eq_cons rfl]
  exact skip_cons step

theorem skip_member {key : List Char} (comma : Space text (',' :: key))
    (derived : Key key first) :
    skip (.objectEnd :: pending) text = skip (.value :: .objectEnd :: pending) first := by
  have step : Pending.advance .objectEnd text = .ok ([.value, .objectEnd], first) := by
    simp only [Pending.advance, continueObject, comma.skipSpace_eq_cons rfl,
      skipKey_eq_ok_iff.2 derived]
    rfl
  exact skip_cons step

/-! ### The whole run -/

/-- What is derived is passed over, and the run goes on with what is expected after it. A
value needs a boundary, since a number at its end would be read further. -/
theorem Derives.skip_eq {piece : Pending} {text rest : List Char}
    (derived : Derives piece text rest) (boundary : piece = .value → Boundary rest)
    (pending : List Pending) : skip (piece :: pending) text = skip pending rest := by
  induction derived generalizing pending with
  | word known space =>
      exact skip_scalar (space.skipSpace_eq_word known) (skipScalar_word known _)
  | number space number =>
      obtain ⟨char, later, rfl, begins⟩ := number.begins
      have skipped := space.skipSpace_eq_cons (not_isSpace_of_begins begins)
      exact skip_scalar skipped (skipScalar_number number (boundary rfl))
  | text space text =>
      exact skip_scalar (space.skipSpace_eq_cons rfl) (skipQuoted_eq_ok_iff.2 text)
  | emptyList opened closed => exact skip_emptyList opened closed
  | list opened value later ihValue ihLater =>
      -- What comes after a part of a list or an object is never the rest of a number.
      rw [skip_list opened value, ihValue fun _ => later.boundary nofun, ihLater nofun]
  | emptyObject opened closed => exact skip_emptyObject opened closed
  | object opened key _ later ihValue ihLater =>
      rw [skip_object opened key, ihValue fun _ => later.boundary nofun, ihLater nofun]
  | listEnd closed => exact skip_listEnd closed
  | element comma _ later ihValue ihLater =>
      rw [skip_element comma, ihValue fun _ => later.boundary nofun, ihLater nofun]
  | objectEnd closed => exact skip_objectEnd closed
  | member comma key _ later ihValue ihLater =>
      rw [skip_member comma key, ihValue fun _ => later.boundary nofun, ihLater nofun]

/-- A value that is passed over is derived. -/
theorem Derives.of_skipValue {text rest : List Char} (read : skipValue text = .ok rest) :
    Derives .value text rest := by
  cases Follows.of_skip read with
  | cons derived later =>
      cases later
      exact derived

/-- A value that is derived is passed over, if a boundary comes after it. -/
theorem Derives.skipValue_eq {text rest : List Char} (derived : Derives .value text rest)
    (boundary : Boundary rest) : skipValue text = .ok rest := by
  rw [skipValue, derived.skip_eq (fun _ => boundary), skip]

end ComponentNaming.Json.Grammar
