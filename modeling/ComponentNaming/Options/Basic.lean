import ComponentNaming.Json.Fault
import ComponentNaming.Wrappers

/-!
# Options

The options of a run are a list of wrapper names. A list that is given takes the place of
the default list and is not merged with it. Options that cannot be read are rejected, for
one of two reasons (`Rejection`).
-/

set_option autoImplicit false

namespace ComponentNaming

/-- The wrappers that are known without any options. -/
def defaultWrappers : List String := ["forwardRef", "memo"]

/-- The options of a run: the names of the wrappers, as they were listed. -/
structure Options where
  wrappers : List String := defaultWrappers
  deriving DecidableEq, Repr

/-- The set of the listed wrappers. -/
def Options.toWrappers (options : Options) : Wrappers := .ofList options.wrappers

namespace Options

instance : Inhabited Options := ⟨{}⟩

/-- Why options are rejected. -/
inductive Rejection where
  /-- The text is not of the form that options have. -/
  | malformed (cause : Json.Cause) (location : Text.Location)
  /-- The name at this index of the list is empty. -/
  | emptyName (index : Nat)

/-- The wording of a rejection. -/
def Rejection.message : Rejection → String
  | malformed cause location =>
    "invalid plugin config: " ++ cause.message ++ " at line " ++ toString location.line ++
      " column " ++ toString location.column
  | emptyName index => "`hocs[" ++ toString index ++ "]` is empty"

end Options

end ComponentNaming
