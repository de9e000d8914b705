/-!
# The order of texts by their bytes

Texts are compared by code point, character by character. To compare them byte by byte, as they
are encoded in UTF-8, comes to the same (`Text.bytes_lt_bytes_iff`), although characters take up
different numbers of bytes.

The bytes of a character are a leading byte and some continuation bytes. A later character
has a later leading byte, or else the same one, and then as many continuation bytes
(`Text.leading_lt_or_eq`). These are the last digits of the code point to base 64, so they come
later as well (`Text.continuation_lt`). Hence the bytes of two different characters differ
before either of them ends, and what comes after them does not matter (`Text.encoding_lt`).
-/

set_option autoImplicit false

namespace ComponentNaming.Text

/-- The bytes of a text in UTF-8. -/
def bytes (text : String) : List UInt8 := text.toUTF8.data.toList

/-- The code points of the characters of a text. -/
def codePoints (text : String) : List Nat := text.toList.map Char.toNat

/-! ## The bytes of a character -/

/-- How many continuation bytes a code point has. -/
def continuations (point : Nat) : Nat :=
  if point ≤ 0x7F then 0 else if point ≤ 0x7FF then 1 else if point ≤ 0xFFFF then 2 else 3

/-- The leading byte of a code point: its first digit to base 64, marked with the number of
continuation bytes. -/
def leading (point : Nat) : Nat :=
  if point ≤ 0x7F then point
  else if point ≤ 0x7FF then point / 64 + 0xC0
  else if point ≤ 0xFFFF then point / 0x1000 + 0xE0
  else point / 0x40000 + 0xF0

/-- What a digit to base 64 counts for, by its place. -/
def weight : Nat → Nat
  | 0 => 1
  | place + 1 => weight place * 64

/-- The given number of last digits of a code point to base 64, marked as continuations. -/
def continuation (point : Nat) : Nat → List UInt8
  | 0 => []
  | count + 1 => .ofNat (point / weight count % 64 + 0x80) :: continuation point count

/-- A code point has one of four lengths. -/
theorem leading_cases (point : Nat) :
    (point ≤ 0x7F ∧ continuations point = 0 ∧ leading point = point) ∨
    ((0x7F < point ∧ point ≤ 0x7FF) ∧ continuations point = 1 ∧
      leading point = point / 64 + 0xC0) ∨
    ((0x7FF < point ∧ point ≤ 0xFFFF) ∧ continuations point = 2 ∧
      leading point = point / 0x1000 + 0xE0) ∨
    (0xFFFF < point ∧ continuations point = 3 ∧ leading point = point / 0x40000 + 0xF0) := by
  unfold leading continuations
  split
  · omega
  · split
    · omega
    · split <;> omega

theorem toNat_lt_unicodeBound (char : Char) : char.toNat < 0x110000 := by
  have valid : char.toNat.isValidChar := char.valid
  simp only [Nat.isValidChar] at valid
  omega

/-- A character is encoded as its leading byte and its continuation bytes. -/
theorem utf8EncodeChar_eq (char : Char) :
    String.utf8EncodeChar char =
      .ofNat (leading char.toNat) :: continuation char.toNat (continuations char.toNat) := by
  have bounded := toNat_lt_unicodeBound char
  simp only [String.utf8EncodeChar, Char.toNat_val]
  unfold leading continuations
  split
  · rfl
  · split
    · have first : char.toNat / 64 % 0x20 = char.toNat / 64 := by omega
      simp only [continuation, weight, first, Nat.div_one]
    · split
      · have first : char.toNat / 4096 % 0x10 = char.toNat / 4096 := by omega
        simp only [continuation, weight, first, Nat.div_one]
      · have first : char.toNat / 262144 % 0x08 = char.toNat / 262144 := by omega
        simp only [continuation, weight, first, Nat.reduceMul, Nat.div_one]

/-! ## Characters in order -/

/-- A leading byte is a byte. -/
theorem leading_lt {point : Nat} (bounded : point < 0x110000) : leading point < UInt8.size := by
  rw [UInt8.size]
  rcases leading_cases point with ⟨_, _, leads⟩ | ⟨_, _, leads⟩ | ⟨_, _, leads⟩ | ⟨_, _, leads⟩ <;>
    omega

/-- A marked digit is a byte. -/
theorem digit_lt (digit : Nat) : digit % 64 + 0x80 < UInt8.size := by
  rw [UInt8.size]
  omega

/-- A later code point has a later leading byte, or it has the same one, with as many
continuation bytes and later last digits. -/
theorem leading_lt_or_eq {first second : Nat} (less : first < second)
    (bounded : second < 0x110000) :
    leading first < leading second ∨
      leading first = leading second ∧ continuations first = continuations second ∧
        first % weight (continuations first) < second % weight (continuations first) := by
  -- Leading bytes with different marks are ordered by the marks, and with the same mark by the
  -- first digits.
  rcases leading_cases first with
    ⟨_, count, leads⟩ | ⟨_, count, leads⟩ | ⟨_, count, leads⟩ | ⟨_, count, leads⟩ <;>
  rcases leading_cases second with
    ⟨_, other, mark⟩ | ⟨_, other, mark⟩ | ⟨_, other, mark⟩ | ⟨_, other, mark⟩ <;>
  simp only [count, other, leads, mark, weight, Nat.reduceMul, true_and] <;> omega

theorem weight_pos (place : Nat) : 0 < weight place := by
  induction place with
  | zero => decide
  | succ place ih =>
      rw [weight]
      omega

/-- Later last digits have later continuation bytes, whatever comes after them. -/
theorem continuation_lt {first second count : Nat}
    (less : first % weight count < second % weight count) (rest other : List UInt8) :
    continuation first count ++ rest < continuation second count ++ other := by
  induction count with
  | zero =>
      simp only [weight] at less
      omega
  | succ count ih =>
      have firstBelow := Nat.mod_lt first (weight_pos count)
      have secondBelow := Nat.mod_lt second (weight_pos count)
      rw [weight, Nat.mod_mul, Nat.mod_mul] at less
      simp only [continuation, List.cons_append, List.cons_lt_cons_iff]
      rcases Nat.lt_trichotomy (first / weight count % 64) (second / weight count % 64) with
        before | same | after
      · exact .inl ((UInt8.ofNat_lt_iff_lt (digit_lt _) (digit_lt _)).mpr (by omega))
      · rw [same] at less ⊢
        exact .inr ⟨rfl, ih (by omega)⟩
      · -- A digit that comes later outweighs all the digits after it.
        have outweighs := Nat.mul_le_mul_left (weight count) (Nat.succ_le_of_lt after)
        rw [Nat.mul_succ] at outweighs
        omega

/-- **The bytes of a later character come later**, whatever comes after them. -/
theorem encoding_lt {first second : Char} (less : first < second) (rest other : List UInt8) :
    String.utf8EncodeChar first ++ rest < String.utf8EncodeChar second ++ other := by
  have bounded := toNat_lt_unicodeBound second
  have points : first.toNat < second.toNat := less
  rw [utf8EncodeChar_eq, utf8EncodeChar_eq, List.cons_append, List.cons_append,
    List.cons_lt_cons_iff]
  rcases leading_lt_or_eq points bounded with before | ⟨same, count, digits⟩
  · have firstBounded : leading first.toNat < UInt8.size := Nat.lt_trans before (leading_lt bounded)
    exact .inl ((UInt8.ofNat_lt_iff_lt firstBounded (leading_lt bounded)).mpr before)
  · rw [same, ← count]
    exact .inr ⟨rfl, continuation_lt digits rest other⟩

/-! ## Texts in order -/

theorem bytes_eq_flatMap (text : String) :
    bytes text = text.toList.flatMap String.utf8EncodeChar := by
  rw [bytes, String.toUTF8_eq_toByteArray, ← String.utf8Encode_toList, List.utf8Encode,
    List.toList_data_toByteArray]

theorem encodings_lt {first second : List Char} (less : first < second) :
    first.flatMap String.utf8EncodeChar < second.flatMap String.utf8EncodeChar := by
  induction first generalizing second with
  | nil =>
      cases second with
      | nil => exact absurd less (List.not_lt_nil _)
      | cons char chars =>
          rw [List.flatMap_nil, List.flatMap_cons, utf8EncodeChar_eq]
          exact List.nil_lt_cons _ _
  | cons char chars ih =>
      cases second with
      | nil => exact absurd less (List.not_lt_nil _)
      | cons other others =>
          rw [List.flatMap_cons, List.flatMap_cons]
          rcases List.cons_lt_cons_iff.mp less with before | ⟨rfl, later⟩
          · exact encoding_lt before _ _
          · exact List.append_left_lt (ih later)

/-- A key that keeps the order of texts decides it. -/
theorem key_lt_key_iff {Digit : Type} [LT Digit] [Std.Irrefl (α := Digit) (· < ·)]
    [Std.Asymm (α := Digit) (· < ·)] {key : String → List Digit}
    (keeps : ∀ first second, first < second → key first < key second) {first second : String} :
    key first < key second ↔ first < second := by
  refine ⟨fun less => ?_, keeps first second⟩
  rcases Std.lt_trichotomy first second with before | rfl | after
  · exact before
  · exact absurd less (List.lt_irrefl _)
  · exact absurd (keeps second first after) (List.lt_asymm less)

/-- The order of texts is the order of their code points. -/
theorem codePoints_lt_codePoints_iff {first second : String} :
    codePoints first < codePoints second ↔ first < second := by
  apply key_lt_key_iff
  intro first second less
  exact List.map_lt (fun _ _ earlier => earlier) less

/-- **The order of texts is the order of their bytes.** -/
theorem bytes_lt_bytes_iff {first second : String} :
    bytes first < bytes second ↔ first < second := by
  apply key_lt_key_iff
  intro first second less
  rw [bytes_eq_flatMap, bytes_eq_flatMap]
  exact encodings_lt less

-- In 16-bit units the first character of the second text would come first.
example : "～" < "😀" := by decide

end ComponentNaming.Text
