import ComponentNaming.Proofs.Passes

/-!
# Nothing but names

A run gives names to components, turns arrows into functions, and drops parentheses around
calls of wrappers and around components. Erasure undoes all of this, and nothing else, at
the declarators where a run could have done it (`Tree.eraseNames`). It does not ask whether
a run has been there: an arrow, a function without a name and a function that a run has
named are all erased to the function without a name.

Naming a declarator does not change what it is erased to (`eraseDeclared_nameDeclared`), so
a program before and after a run has the same erasure. Everything that erasure leaves alone
is left alone by a run, wherever it stands: every field of the declarator, the call and the
function, and all that is inside them.
-/

set_option autoImplicit false

namespace ComponentNaming

/-- An arrow or a function as a function without a name. A function keeps its name, unless
the name mentions the declared variable just as a run would have written it. -/
def Tree.eraseFunction (declaredName : Ident) : Tree .node → Option (Tree .node)
  | .arrow head parameters (.block span context statements) typeParameters returnType =>
    some (.function head none
      (parameters.mapList fun pattern => .parameter pattern.extent .nil pattern) .nil
      (.present (.block span context statements)) typeParameters returnType)
  | .arrow head parameters expression typeParameters returnType =>
    some (.function head none
      (parameters.mapList fun pattern => .parameter pattern.extent .nil pattern) .nil
      (.present (.block .nowhere 0 (.cons (.returning .nowhere (.present expression)) .nil)))
      typeParameters returnType)
  | .function head name parameters decorators body typeParameters returnType =>
    some (.function head
      (if name = some ⟨.nowhere, declaredName.context, declaredName.name, false⟩ then none else name)
      parameters decorators body typeParameters returnType)
  | _ => none

/-- An argument that is an arrow or a function, under parentheses, without parentheses and
as a function without a name. An argument that is spread has no erasure. -/
def Tree.eraseArgument (declaredName : Ident) : Tree .argument → Option (Tree .argument)
  | .argument none value => (value.unwrap.eraseFunction declaredName).map (.argument none)
  | .argument (some _) _ => none

/-- A declarator without the name of the function that a wrapper is called on, and without
the parentheses around the call and the function. A declarator of any other form is kept. -/
def eraseDeclared (wrappers : Wrappers) : Tree .declarator → Tree .declarator
  | .declarator span isDefinite (.binding name writtenType) (.present value) =>
    let kept := .declarator span isDefinite (.binding name writtenType) (.present value)
    match value.unwrap with
    | .call callSpan context callee (.cons first rest) typeArguments =>
      if wrappers.recognizes callee then
        match first.eraseArgument name with
        | some erased =>
          .declarator span isDefinite (.binding name writtenType)
            (.present (.call callSpan context callee (.cons erased rest) typeArguments))
        | none => kept
      else kept
    | _ => kept
  | declarator => declarator

/-- A tree without the names that runs give, inner declarators before outer ones. -/
def Tree.eraseNames (wrappers : Wrappers) {role : Role} (tree : Tree role) : Tree role :=
  tree.mapDeclared (eraseDeclared wrappers)

/-- An arrow is erased to the function with its parameters and its body. -/
theorem Tree.eraseFunction_arrow (declaredName : Ident) (head : FunctionHead)
    (parameters : Tree (.list .node)) (body : Tree .node)
    (typeParameters returnType : Tree (.optional .node)) :
    (Tree.arrow head parameters body typeParameters returnType).eraseFunction declaredName =
      some (.function head none (parameters.mapList asParameter) .nil (.present body.asBlock)
        typeParameters returnType) := by
  cases body <;> rfl

/-- A name that mentions the declared variable is erased. -/
theorem Tree.eraseFunction_mention (declaredName : Ident) (head : FunctionHead)
    (parameters : Tree (.list .parameter)) (decorators : Tree (.list .node))
    (body typeParameters returnType : Tree (.optional .node)) :
    (Tree.function head (some declaredName.mention) parameters decorators body typeParameters
        returnType).eraseFunction declaredName =
      some (.function head none parameters decorators body typeParameters returnType) := by
  simp only [eraseFunction, Ident.mention, if_true]

/-- Every component is erased to some function, and naming it does not change to which. -/
theorem Component.eraseFunction_named (name : Ident) (component : Component) :
    ∃ function, component.toExpression.eraseFunction name = some function ∧
      (component.named name).eraseFunction name = some function := by
  cases component with
  | arrow head parameters body typeParameters returnType =>
      exact ⟨_, Tree.eraseFunction_arrow name head parameters body typeParameters returnType,
        Tree.eraseFunction_mention name head _ _ _ typeParameters returnType⟩
  | anonymous head parameters decorators body typeParameters returnType =>
      exact ⟨_, rfl,
        Tree.eraseFunction_mention name head parameters decorators body typeParameters returnType⟩

/-- **Naming a declarator does not change what it is erased to.** -/
theorem eraseDeclared_nameDeclared (wrappers : Wrappers) (declarator : Tree .declarator) :
    eraseDeclared wrappers (nameDeclared wrappers declarator) =
      eraseDeclared wrappers declarator := by
  cases found : Wrapping.of? wrappers declarator with
  | none => rw [nameDeclared_of_none found]
  | some wrapping =>
      rw [nameDeclared_of_some found]
      obtain ⟨value, first, rfl, unwrapped, arguments, recognized, isComponent⟩ :=
        Wrapping.of?_eq_some_iff.mp found
      obtain ⟨expression, rfl, isExpression⟩ := Component.of?_eq_some_iff.mp isComponent
      obtain ⟨function, before, after⟩ := wrapping.component.eraseFunction_named wrapping.name
      simp only [Call.toExpression, arguments] at unwrapped
      simp only [eraseDeclared, Wrapping.named, Wrapping.namedCall, Call.toExpression, unwrapped,
        recognized, if_true, Tree.unwrap, Tree.eraseArgument, isExpression, before,
        Component.unwrap_named, after, Option.map_some]

/-- **Nothing changes but names.** A run leaves a program with the same erasure. -/
theorem eraseNames_nameComponents (wrappers : Wrappers) (program : Tree .node) :
    (nameComponents wrappers program).value.eraseNames wrappers =
      program.eraseNames wrappers := by
  rw [value_nameComponents]
  exact Tree.mapDeclared_mapDeclared
    (fun declarator => nameDeclared_mapDeclared wrappers declarator (eraseDeclared wrappers))
    (eraseDeclared_nameDeclared wrappers) program

end ComponentNaming
