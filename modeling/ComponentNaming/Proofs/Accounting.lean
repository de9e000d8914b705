import ComponentNaming.Proofs.Passes

/-!
# Accounting for names

Every function that a run names is found in the program as it was given, and the run reports
each of them once. So the functions of a program before and after a run balance
(`functions_balance`): what a run takes away are the arrows and the functions without a name
that were found, and what it adds are as many functions with the names of their variables.

The balance is struck at one declarator first (`count_functions_nameDeclared`). There the
parts of the function are moved, but every function inside them is kept. It then adds up over
a list of declarators and over a whole tree. What is found in a declarator is the same before
and after a pass inside it, so it does not matter that a run names inner functions first.
-/

set_option autoImplicit false

namespace ComponentNaming

/-! ## The functions of a tree -/

/-- What a function is written as, with its name. -/
inductive FunctionKind where
  | arrow
  | expression (name : Option Ident)
  deriving DecidableEq, Repr

namespace FunctionKind

/-- Whether a function is an arrow. -/
def isArrow : FunctionKind → Bool
  | arrow => true
  | expression _ => false

/-- The spelling and the context of the name of a function, if it has one. -/
def name? : FunctionKind → Option (String × Nat)
  | arrow => none
  | expression name => name.map fun name => (name.name, name.context)

end FunctionKind

namespace Tree

variable {role : Role}

/-- All arrows and function expressions in a tree. -/
def functions : {role : Role} → Tree role → List FunctionKind
  | _, ident _ => []
  | _, binding _ writtenType => functions writtenType
  | _, plainName _ _ => []
  | _, paren _ inner => functions inner
  | _, call _ _ callee arguments typeArguments =>
    functions callee ++ functions arguments ++ functions typeArguments
  | _, member _ object property => functions object ++ functions property
  | _, arrow _ parameters body typeParameters returnType =>
    .arrow :: (functions parameters ++ functions body ++ functions typeParameters ++
      functions returnType)
  | _, function _ name parameters decorators body typeParameters returnType =>
    .expression name :: (functions parameters ++ functions decorators ++ functions body ++
      functions typeParameters ++ functions returnType)
  | _, block _ _ statements => functions statements
  | _, returning _ result => functions result
  | _, declaration _ _ _ _ declarators => functions declarators
  | _, form _ _ fields => functions fields
  | _, argument _ value => functions value
  | _, parameter _ decorators pattern => functions decorators ++ functions pattern
  | _, declarator _ _ target value => functions target ++ functions value
  | _, field _ value => functions value
  | _, datum _ => []
  | _, record fields => functions fields
  | _, part piece => functions piece
  | _, absent => []
  | _, present piece => functions piece
  | _, nil => []
  | _, cons first rest => functions first ++ functions rest

@[simp] theorem functions_unwrap (expression : Tree .node) :
    expression.unwrap.functions = expression.functions :=
  view_unwrap (fun _ _ => rfl) expression

@[simp] theorem functions_asBlock (body : Tree .node) :
    body.asBlock.functions = body.functions := by
  cases body with
  | block span context statements => rfl
  | _ => exact List.append_nil _

theorem functions_mapList_asParameter (patterns : Tree (.list .node)) :
    (patterns.mapList asParameter).functions = patterns.functions := by
  induction patterns using listInduction with
  | nil => rfl
  | cons first rest ih =>
      simp only [mapList_cons, functions, ih]
      rfl

end Tree

/-! ## One declarator -/

/-- What a component is written as. -/
def Component.kind : Component → FunctionKind
  | arrow _ _ _ _ _ => .arrow
  | anonymous _ _ _ _ _ _ => .expression none

/-- What a component is written as once it has a name. -/
def Wrapping.namedKind (wrapping : Wrapping) : FunctionKind :=
  .expression (some wrapping.name.mention)

/-- A component and the named component are functions around the same functions. -/
theorem Component.functions_named (name : Ident) (component : Component) :
    ∃ inside, component.toExpression.functions = component.kind :: inside ∧
      (component.named name).functions = .expression (some name.mention) :: inside := by
  cases component with
  | arrow head parameters body typeParameters returnType =>
      refine ⟨_, rfl, ?_⟩
      simp only [named, Component.parameters, Component.body, Tree.functions,
        Tree.functions_mapList_asParameter, Tree.functions_asBlock, List.append_nil]
  | anonymous head parameters decorators body typeParameters returnType => exact ⟨_, rfl, rfl⟩

/-- Naming a component replaces one function. -/
theorem Wrapping.count_functions_named {wrappers : Wrappers} {declarator : Tree .declarator}
    {wrapping : Wrapping} (found : of? wrappers declarator = some wrapping)
    (kind : FunctionKind) :
    wrapping.named.functions.count kind + [wrapping.component.kind].count kind =
      declarator.functions.count kind + [wrapping.namedKind].count kind := by
  obtain ⟨value, first, rfl, unwrapped, arguments, _, isComponent⟩ := of?_eq_some_iff.mp found
  obtain ⟨argument, rfl, expression⟩ := Component.of?_eq_some_iff.mp isComponent
  obtain ⟨inside, before, after⟩ := wrapping.component.functions_named wrapping.name
  have valueFunctions : value.functions = wrapping.call.toExpression.functions := by
    rw [← unwrapped, Tree.functions_unwrap]
  have argumentFunctions : argument.functions = wrapping.component.kind :: inside := by
    rw [← Tree.functions_unwrap, expression, before]
  simp only [named, namedCall, Call.toExpression, Tree.functions, valueFunctions, arguments,
    argumentFunctions, after, namedKind, List.count_append, List.count_cons, List.count_nil]
  omega

section

variable (wrappers : Wrappers) {role : Role}

/-- The balance of a declarator. -/
theorem count_functions_nameDeclared (declarator : Tree .declarator) (kind : FunctionKind) :
    (nameDeclared wrappers declarator).functions.count kind +
        ((Wrapping.of? wrappers declarator).toList.map (·.component.kind)).count kind =
      declarator.functions.count kind +
        ((Wrapping.of? wrappers declarator).toList.map (·.namedKind)).count kind := by
  cases found : Wrapping.of? wrappers declarator with
  | none =>
      rw [nameDeclared_of_none found]
      rfl
  | some wrapping =>
      rw [nameDeclared_of_some found]
      exact Wrapping.count_functions_named found kind

/-! ## Lists of declarators and whole trees -/

/-- The balance of a list of declarators. -/
theorem count_functions_mapList (declarators : Tree (.list .declarator)) (kind : FunctionKind) :
    (declarators.mapList (nameDeclared wrappers)).functions.count kind +
        ((declarators.toList.filterMap (Wrapping.of? wrappers)).map (·.component.kind)).count
          kind =
      declarators.functions.count kind +
        ((declarators.toList.filterMap (Wrapping.of? wrappers)).map (·.namedKind)).count kind := by
  induction declarators using Tree.listInduction with
  | nil => rfl
  | cons first rest ih =>
      have here := count_functions_nameDeclared wrappers first kind
      simp only [List.filterMap_eq_flatMap_toList] at ih
      simp only [Tree.mapList_cons, Tree.toList_cons, Tree.functions, List.count_append,
        List.filterMap_eq_flatMap_toList, List.flatMap_cons, List.map_append]
      omega

/-- What a component is written as does not depend on a pass inside it. -/
theorem Wrapping.kind_mapDeclared (f : Tree .declarator → Tree .declarator)
    (wrapping : Wrapping) : (wrapping.mapDeclared f).component.kind = wrapping.component.kind := by
  obtain ⟨_, _, _, _, _, component, _⟩ := wrapping
  cases component <;> rfl

theorem Wrapping.namedKind_mapDeclared (f : Tree .declarator → Tree .declarator)
    (wrapping : Wrapping) : (wrapping.mapDeclared f).namedKind = wrapping.namedKind := rfl

/-- The balance of a tree. -/
theorem count_functions_mapDeclared (tree : Tree role) (kind : FunctionKind) :
    (tree.mapDeclared (nameDeclared wrappers)).functions.count kind +
        ((tree.wrappings wrappers).map (·.component.kind)).count kind =
      tree.functions.count kind + ((tree.wrappings wrappers).map (·.namedKind)).count kind := by
  induction tree with
  | ident | plainName | datum | absent | nil => rfl
  | declaration span context binds isAmbient declarators ih =>
      -- The declarators are named after everything inside them has been passed over.
      have here := count_functions_mapList wrappers
        (declarators.mapDeclared (nameDeclared wrappers)) kind
      simp only [Tree.filterMap_of?_mapDeclared, List.map_map, Function.comp_def,
        Wrapping.kind_mapDeclared, Wrapping.namedKind_mapDeclared] at here
      simp only [Tree.mapDeclared, Tree.functions, Tree.wrappings, Tree.declared,
        List.filterMap_append, List.map_append, List.count_append] at ih ⊢
      omega
  | _ =>
      simp only [Tree.mapDeclared, Tree.functions, Tree.wrappings, Tree.declared,
        List.filterMap_append, List.map_append, List.count_append, List.count_cons] at *
      omega

/-! ## Runs -/

/-- **The functions of a program balance.** A run takes the components that it finds away, as
they are written, and adds as many functions with names. -/
theorem functions_balance (tree : Tree role) :
    ((tree.mapDeclared (nameDeclared wrappers)).functions ++
        (tree.wrappings wrappers).map (·.component.kind)).Perm
      (tree.functions ++ (tree.wrappings wrappers).map (·.namedKind)) := by
  rw [List.perm_iff_count]
  intro kind
  rw [List.count_append, List.count_append]
  exact count_functions_mapDeclared wrappers tree kind

end

/-- The names of the named function expressions in a tree, by spelling and context. -/
def Tree.functionNames {role : Role} (tree : Tree role) : List (String × Nat) :=
  tree.functions.filterMap FunctionKind.name?

/-- How many arrows there are in a tree. -/
def Tree.arrowCount {role : Role} (tree : Tree role) : Nat :=
  tree.functions.countP FunctionKind.isArrow

/-- How many function expressions there are in a tree. -/
def Tree.expressionCount {role : Role} (tree : Tree role) : Nat :=
  tree.functions.countP fun kind => !kind.isArrow

/-- A component has no name. -/
theorem Component.name?_kind (component : Component) : component.kind.name? = none := by
  cases component <;> rfl

/-- A named component has the name of the variable, in spelling and context. -/
theorem Wrapping.name?_namedKind (wrapping : Wrapping) :
    wrapping.namedKind.name? = some (wrapping.name.name, wrapping.name.context) := rfl

theorem Wrapping.isArrow_namedKind (wrapping : Wrapping) :
    wrapping.namedKind.isArrow = false := rfl

/-- **The log accounts for every name.** The names that a run reports are those of the
variables of the program that hold a wrapped component, before anything is named. The named
functions that the run leaves are those of the program and one for each of these variables,
with its spelling and its context. There are fewer arrows and more function expressions, by as
many as there are arrows among these components. -/
theorem log_accounts_for_names (wrappers : Wrappers) (program : Tree .node) :
    (namesIn (nameComponents wrappers program).log).Perm
      ((program.wrappings wrappers).map fun wrapping => wrapping.name.name) ∧
    (nameComponents wrappers program).value.functionNames.Perm
      (program.functionNames ++
        (program.wrappings wrappers).map fun wrapping =>
          (wrapping.name.name, wrapping.name.context)) ∧
    (nameComponents wrappers program).value.arrowCount +
        (program.wrappings wrappers).countP (·.component.kind.isArrow) =
      program.arrowCount ∧
    (nameComponents wrappers program).value.expressionCount =
      program.expressionCount +
        (program.wrappings wrappers).countP (·.component.kind.isArrow) := by
  have balance := functions_balance wrappers program
  rw [namesIn_log_nameComponents, value_nameComponents]
  refine ⟨.refl _, ?_, ?_, ?_⟩
  · have names := balance.filterMap FunctionKind.name?
    simp only [List.filterMap_append, List.filterMap_map, Function.comp_def,
      Component.name?_kind, Wrapping.name?_namedKind, List.filterMap_eq_map',
      List.filterMap_none, List.append_nil] at names
    exact names
  · have arrows := balance.countP_eq FunctionKind.isArrow
    simp only [List.countP_append, List.countP_map, Function.comp_def,
      Wrapping.isArrow_namedKind, List.countP_false] at arrows
    exact arrows
  · -- What is taken away besides arrows are functions without a name, and they come back named.
    have expressions := balance.countP_eq fun kind => !kind.isArrow
    have split := List.length_eq_countP_add_countP
      (fun wrapping : Wrapping => wrapping.component.kind.isArrow)
      (l := program.wrappings wrappers)
    simp only [List.countP_append, List.countP_map, Function.comp_def,
      Wrapping.isArrow_namedKind, Bool.not_false, List.countP_true] at expressions
    simp only [Bool.not_eq_true, Bool.decide_eq_false] at split
    simp only [Tree.expressionCount]
    omega

end ComponentNaming
