import ComponentNaming.Event
import ComponentNaming.Options.Reader
import ComponentNaming.Tree.Visit
import ComponentNaming.Wrapping

/-!
# Naming the components of a program

Every variable of a program that holds a wrapped component gets that component named after
it. Inner declarations come before outer ones, and each named component is reported.

A run is given the set of wrappers itself (`nameComponents`), or a text of options to take
them from (`nameWithOptions`). Options that are rejected are reported and replaced by the
default ones. Several runs can follow one another, each on the program that the one before
it left (`runAll`).
-/

set_option autoImplicit false

namespace ComponentNaming

/-- Names the component that a declared variable holds, if it holds one. -/
def nameDeclarator (wrappers : Wrappers) (declarator : Tree .declarator) :
    Logged Event (Tree .declarator) :=
  match Wrapping.of? wrappers declarator with
  | some wrapping => do
    Logged.report (.named wrapping.name.name)
    return wrapping.named
  | none => return declarator

/-- Names all wrapped components in a tree. -/
def nameAll (wrappers : Wrappers) {role : Role} (tree : Tree role) : Logged Event (Tree role) :=
  tree.visit (nameDeclarator wrappers)

/-- Names all wrapped components of a program. Without wrappers there is nothing to do. -/
def nameComponents (wrappers : Wrappers) (program : Tree .node) : Logged Event (Tree .node) := do
  Logged.report (.configured wrappers)
  if wrappers.isEmpty then
    Logged.report .skipped
    return program
  else nameAll wrappers program

/-- A run that is made ready first, and then applied to a program. -/
def Pass := Tree .node → Logged Event (Tree .node)

/-- The run with the given wrappers as a pass. The wrappers are reported when the pass is made
ready, and all else when it is applied. -/
def namingPass (wrappers : Wrappers) : Logged Event Pass := do
  Logged.report (.configured wrappers)
  return fun program =>
    if wrappers.isEmpty then do
      Logged.report .skipped
      return program
    else nameAll wrappers program

/-- To make a pass ready and apply it at once is a run. -/
theorem namingPass_bind (wrappers : Wrappers) (program : Tree .node) :
    (namingPass wrappers >>= fun pass => pass program) = nameComponents wrappers program := rfl

/-- The options of a run: the default ones if none are given, or if those given are
rejected, which is reported. -/
def chooseOptions (raw : Option String) : Logged Event Options :=
  match raw.map Options.parse with
  | none => return {}
  | some (.ok options) => return options
  | some (.error reason) => do
    Logged.report (.rejected reason)
    return {}

/-- Names all wrapped components of a program, with the wrappers taken from options. -/
def nameWithOptions (raw : Option String) (program : Tree .node) :
    Logged Event (Tree .node) := do
  let options ← chooseOptions raw
  nameComponents options.toWrappers program

/-- One run over a program. -/
inductive Run where
  | withWrappers (wrappers : Wrappers)
  | withOptions (raw : Option String)

/-- What a run makes of a program. -/
def Run.apply : Run → Tree .node → Logged Event (Tree .node)
  | withWrappers wrappers, program => nameComponents wrappers program
  | withOptions raw, program => nameWithOptions raw program

/-- What several runs make of a program, one after the other. -/
def runAll : List Run → Tree .node → List (Logged Event (Tree .node))
  | [], _ => []
  | run :: runs, program =>
    let done := run.apply program
    done :: runAll runs done.value

end ComponentNaming
