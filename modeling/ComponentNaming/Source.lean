/-!
# Places and names in the source text

A node of a program remembers where it was written (`Span`), and a name also remembers
the syntax context in which it was written, so that two equal spellings can mean two
different variables (`Ident`). Arrows and functions share a heading (`FunctionHead`).

Naming a component computes almost nothing on these: it marks the names it adds as
written nowhere (`Span.nowhere`, `Ident.mention`), and it needs the stretch of text
between two positions that may come in either order (`Span.between`).
-/

set_option autoImplicit false

namespace ComponentNaming

/-- A stretch of the source text, from one position up to another. -/
structure Span where
  start : Nat
  stop : Nat
  deriving DecidableEq, Repr

namespace Span

/-- The span of code that was not written by anyone. -/
def nowhere : Span := ⟨0, 0⟩

/-- The stretch of text between two positions, whichever comes first. -/
def between (first second : Nat) : Span := ⟨min first second, max first second⟩

@[simp] theorem between_start_le_stop (first second : Nat) :
    (between first second).start ≤ (between first second).stop := by
  simp only [between]
  omega

/-- The order in which the two positions are given does not matter. -/
theorem between_comm (first second : Nat) : between first second = between second first := by
  simp only [between, Nat.min_comm, Nat.max_comm]

theorem between_of_le {first second : Nat} (ordered : first ≤ second) :
    between first second = ⟨first, second⟩ := by
  simp only [between, Nat.min_eq_left ordered, Nat.max_eq_right ordered]

end Span

/-- A name as it stands in a program: its spelling, and the syntax context that tells it
from equal spellings elsewhere. A name marked optional carries a question mark. -/
structure Ident where
  span : Span
  context : Nat
  name : String
  isOptional : Bool
  deriving DecidableEq, Repr

/-- The same name in the same context, written nowhere and not optional. -/
def Ident.mention (ident : Ident) : Ident :=
  { span := .nowhere, context := ident.context, name := ident.name, isOptional := false }

/-- What arrows and functions have in common besides their parts. -/
structure FunctionHead where
  span : Span
  context : Nat
  isAsync : Bool
  isGenerator : Bool
  deriving DecidableEq, Repr

end ComponentNaming
