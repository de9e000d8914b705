/-!
# Blank characters

A character is blank if it has the Unicode property `White_Space`.
-/

set_option autoImplicit false

namespace ComponentNaming.Text

/-- The code points of the blank characters, as ranges with both ends included. -/
def blankRanges : List (Nat × Nat) :=
  [(0x0009, 0x000D), (0x0020, 0x0020), (0x0085, 0x0085), (0x00A0, 0x00A0), (0x1680, 0x1680),
    (0x2000, 0x200A), (0x2028, 0x2029), (0x202F, 0x202F), (0x205F, 0x205F), (0x3000, 0x3000)]

/-- Whether a character is blank. -/
def isBlank (char : Char) : Bool :=
  blankRanges.any fun (first, last) => first ≤ char.toNat && char.toNat ≤ last

/-- Whether a text has nothing but blank characters. -/
def isAllBlank (text : List Char) : Bool := text.all isBlank

/-- The white space of plain ASCII texts is blank. -/
theorem isBlank_of_isWhitespace {char : Char} (white : char.isWhitespace = true) :
    isBlank char = true := by
  simp only [Char.isWhitespace, Bool.or_eq_true, decide_eq_true_eq] at white
  rcases white with ((rfl | rfl) | rfl) | rfl <;> decide

-- There are 25 of them.
example : (blankRanges.map fun (first, last) => last + 1 - first).sum = 25 := by decide

end ComponentNaming.Text
