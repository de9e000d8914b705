import ComponentNaming.Proofs.Declared
import ComponentNaming.Wrapping

/-!
# Wrapped components under a pass

Whether a declared variable holds a wrapped component is decided by a few nodes: the call,
what is called under its parentheses, and the first argument under its parentheses. A pass
that replaces declarators of variable declarations reaches inside these nodes, but it
changes none of them, and it keeps the span of every node.

So a pass inside a declarator does not change whether it holds a wrapped component, and it
is the same to find the component first (`Wrapping.of?_mapDeclared`) and to name it first
(`Wrapping.named_mapDeclared`). Naming keeps the declarators inside the declarator, in their
order (`Wrapping.declared_named`), and what is named is not found again
(`Wrapping.of?_named`).
-/

set_option autoImplicit false

namespace ComponentNaming

/-! ## Nodes under a pass -/

namespace Tree

variable (f : Tree .declarator → Tree .declarator)

@[simp] theorem span_mapDeclared (node : Tree .node) : (node.mapDeclared f).span = node.span := by
  cases node <;> rfl

@[simp] theorem extent_mapDeclared (pattern : Tree .node) :
    (pattern.mapDeclared f).extent = pattern.extent := by
  cases pattern with
  | binding name writtenType =>
      cases writtenType with
      | absent => rfl
      | present writtenType =>
          simp only [mapDeclared, extent_binding_present, span_mapDeclared]
  | _ => rfl

@[simp] theorem unwrap_mapDeclared (expression : Tree .node) :
    (expression.mapDeclared f).unwrap = expression.unwrap.mapDeclared f := by
  induction expression using parenInduction with
  | paren span inner ih =>
      simp only [mapDeclared, unwrap_paren]
      exact ih
  | bare expression bare =>
      rw [unwrap_of_ne_paren bare]
      apply unwrap_of_ne_paren
      cases expression with
      | paren span inner => exact absurd rfl (bare span inner)
      | _ =>
          intro span inner same
          cases same

theorem asParameter_mapDeclared (pattern : Tree .node) :
    (pattern.mapDeclared f).asParameter = pattern.asParameter.mapDeclared f := by
  simp only [asParameter, mapDeclared, extent_mapDeclared]

theorem asBlock_mapDeclared (body : Tree .node) :
    (body.mapDeclared f).asBlock = body.asBlock.mapDeclared f := by
  cases body <;> rfl

end Tree

/-! ## Components under a pass -/

section

variable (f : Tree .declarator → Tree .declarator)

/-- Passes over everything inside a component. -/
def Component.mapDeclared : Component → Component
  | arrow head parameters body typeParameters returnType =>
    arrow head (parameters.mapDeclared f) (body.mapDeclared f) (typeParameters.mapDeclared f)
      (returnType.mapDeclared f)
  | anonymous head parameters decorators body typeParameters returnType =>
    anonymous head (parameters.mapDeclared f) (decorators.mapDeclared f) (body.mapDeclared f)
      (typeParameters.mapDeclared f) (returnType.mapDeclared f)

/-- Passes over everything inside a call. -/
def Call.mapDeclared (call : Call) : Call :=
  { call with
    callee := call.callee.mapDeclared f
    arguments := call.arguments.mapDeclared f
    typeArguments := call.typeArguments.mapDeclared f }

/-- Passes over everything inside a wrapped component. -/
def Wrapping.mapDeclared (wrapping : Wrapping) : Wrapping :=
  { wrapping with
    writtenType := wrapping.writtenType.mapDeclared f
    call := wrapping.call.mapDeclared f
    component := wrapping.component.mapDeclared f
    rest := wrapping.rest.mapDeclared f }

@[simp] theorem Wrapping.name_mapDeclared (wrapping : Wrapping) :
    (wrapping.mapDeclared f).name = wrapping.name := rfl

namespace Component

theorem parameters_mapDeclared (component : Component) :
    (component.mapDeclared f).parameters = component.parameters.mapDeclared f := by
  cases component with
  | arrow head parameters body typeParameters returnType =>
      exact (Tree.mapDeclared_mapList f (Tree.asParameter_mapDeclared f) parameters).symm
  | anonymous head parameters decorators body typeParameters returnType => rfl

theorem body_mapDeclared (component : Component) :
    (component.mapDeclared f).body = component.body.mapDeclared f := by
  cases component with
  | arrow head parameters body typeParameters returnType =>
      exact congrArg Tree.present (Tree.asBlock_mapDeclared f body)
  | anonymous head parameters decorators body typeParameters returnType => rfl

theorem named_mapDeclared (name : Ident) (component : Component) :
    (component.mapDeclared f).named name = (component.named name).mapDeclared f := by
  have parameters := component.parameters_mapDeclared f
  have body := component.body_mapDeclared f
  cases component with
  | arrow head patterns expression typeParameters returnType =>
      simp only [mapDeclared] at parameters body
      simp only [mapDeclared, named, Tree.mapDeclared, parameters, body]
  | anonymous head patterns decorators block typeParameters returnType => rfl

theorem ofExpression?_mapDeclared (expression : Tree .node) :
    ofExpression? (expression.mapDeclared f) =
      (ofExpression? expression).map (Component.mapDeclared f) := by
  simp only [ofExpression?, Tree.unwrap_mapDeclared]
  cases expression.unwrap with
  | function head name parameters decorators body typeParameters returnType =>
      cases name <;> rfl
  | _ => rfl

theorem of?_mapDeclared (argument : Tree .argument) :
    of? (argument.mapDeclared f) = (of? argument).map (Component.mapDeclared f) := by
  cases argument with
  | argument spread value =>
      cases spread with
      | none => exact ofExpression?_mapDeclared f value
      | some span => rfl

end Component

theorem Component.unwrap_named (name : Ident) (component : Component) :
    (component.named name).unwrap = component.named name := by
  cases component <;> rfl

/-- An argument is a component exactly if it is not spread and is the component's expression
under parentheses. -/
theorem Component.of?_eq_some_iff {argument : Tree .argument} {component : Component} :
    of? argument = some component ↔
      ∃ value, argument = .argument none value ∧ value.unwrap = component.toExpression := by
  constructor
  · intro found
    cases argument with
    | argument spread value =>
        cases spread with
        | none => exact ⟨value, rfl, ofExpression?_eq_some_iff.mp found⟩
        | some span => cases found
  · rintro ⟨value, rfl, unwrapped⟩
    exact ofExpression?_eq_some_iff.mpr unwrapped

theorem Wrappers.recognizes_mapDeclared (wrappers : Wrappers) (callee : Tree .node) :
    wrappers.recognizes (callee.mapDeclared f) = wrappers.recognizes callee := by
  simp only [recognizes, Tree.unwrap_mapDeclared]
  cases callee.unwrap with
  | member span object property => cases property <;> rfl
  | _ => rfl

end

/-! ## Wrapped components under a pass -/

namespace Wrapping

/-- A declarator holds a wrapped component exactly if it consists of its parts: a bound
name, and a call of a wrapper, under parentheses, on the component and the other arguments. -/
theorem of?_eq_some_iff {wrappers : Wrappers} {declarator : Tree .declarator}
    {wrapping : Wrapping} :
    of? wrappers declarator = some wrapping ↔
      ∃ value first,
        declarator = .declarator wrapping.span wrapping.isDefinite
          (.binding wrapping.name wrapping.writtenType) (.present value) ∧
        value.unwrap = wrapping.call.toExpression ∧
        wrapping.call.arguments = .cons first wrapping.rest ∧
        wrappers.recognizes wrapping.call.callee = true ∧
        Component.of? first = some wrapping.component := by
  constructor
  · intro found
    unfold of? at found
    split at found
    · rename_i span isDefinite name writtenType value
      split at found
      · rename_i callSpan context callee first rest typeArguments unwrapped
        split at found
        · rename_i recognized
          obtain ⟨component, isComponent, rfl⟩ := Option.map_eq_some_iff.mp found
          exact ⟨value, first, rfl, unwrapped, rfl, recognized, isComponent⟩
        · cases found
      · cases found
    · cases found
  · obtain ⟨span, isDefinite, name, writtenType, ⟨callSpan, context, callee, arguments,
      typeArguments⟩, component, rest⟩ := wrapping
    rintro ⟨value, first, rfl, unwrapped, listed, recognized, isComponent⟩
    dsimp only [Call.toExpression] at unwrapped listed recognized isComponent
    subst listed
    simp only [of?, unwrapped, recognized, isComponent, if_true, Option.map_some]

section

variable (f : Tree .declarator → Tree .declarator)

/-- **Finding a component commutes with a pass.** -/
theorem of?_mapDeclared (wrappers : Wrappers) (declarator : Tree .declarator) :
    of? wrappers (declarator.mapDeclared f) =
      (of? wrappers declarator).map (Wrapping.mapDeclared f) := by
  cases declarator with
  | declarator span isDefinite target value =>
  cases target with
  | binding name writtenType =>
      cases value with
      | absent => rfl
      | present value =>
          simp only [Tree.mapDeclared, of?, Tree.unwrap_mapDeclared]
          cases value.unwrap with
          | call callSpan context callee arguments typeArguments =>
              cases arguments with
              | nil => rfl
              | cons first rest =>
                  simp only [Tree.mapDeclared, Wrappers.recognizes_mapDeclared,
                    Component.of?_mapDeclared]
                  split
                  · rw [Option.map_map, Option.map_map]
                    rfl
                  · rfl
          | _ => rfl
  | _ => rfl

/-- **Naming a component commutes with a pass.** -/
theorem named_mapDeclared (wrapping : Wrapping) :
    (wrapping.mapDeclared f).named = wrapping.named.mapDeclared f := by
  simp only [named, namedCall, Call.toExpression, Call.mapDeclared, mapDeclared, Tree.mapDeclared,
    Component.named_mapDeclared]

end

end Wrapping

/-! ## What naming keeps -/

namespace Tree

@[simp] theorem declared_unwrap (expression : Tree .node) :
    expression.unwrap.declared = expression.declared :=
  view_unwrap (fun _ _ => rfl) expression

@[simp] theorem declared_asParameter (pattern : Tree .node) :
    pattern.asParameter.declared = pattern.declared := rfl

@[simp] theorem declared_asBlock (body : Tree .node) : body.asBlock.declared = body.declared := by
  cases body with
  | block span context statements => rfl
  | _ => exact List.append_nil _

end Tree

/-- A named component has the declarators of the component, in their order. -/
theorem Component.declared_named (name : Ident) (component : Component) :
    (component.named name).declared = component.toExpression.declared := by
  cases component with
  | arrow head parameters body typeParameters returnType =>
      simp only [named, toExpression, Component.parameters, Component.body, Tree.declared,
        Tree.declared_mapList Tree.declared_asParameter, Tree.declared_asBlock, List.append_nil]
  | anonymous head parameters decorators body typeParameters returnType => rfl

theorem Component.declared_of? {argument : Tree .argument} {component : Component}
    (found : of? argument = some component) :
    argument.declared = component.toExpression.declared := by
  obtain ⟨value, rfl, unwrapped⟩ := of?_eq_some_iff.mp found
  rw [Tree.declared, ← Tree.declared_unwrap value, unwrapped]

namespace Wrapping

variable {wrappers : Wrappers} {declarator : Tree .declarator} {wrapping : Wrapping}

/-- Naming a component keeps the declarators inside the declarator, in their order. -/
theorem declared_named (found : of? wrappers declarator = some wrapping) :
    wrapping.named.declared = declarator.declared := by
  obtain ⟨value, first, rfl, unwrapped, arguments, _, isComponent⟩ := of?_eq_some_iff.mp found
  have inside : value.declared = wrapping.call.toExpression.declared := by
    rw [← unwrapped, Tree.declared_unwrap]
  simp only [named, namedCall, Call.toExpression, Tree.declared, inside, arguments,
    Component.declared_named, Component.declared_of? isComponent]

/-- A named component is not found again, whatever the wrappers are. -/
theorem of?_named (wrappers : Wrappers) (wrapping : Wrapping) :
    of? wrappers wrapping.named = none := by
  have unnamed : Component.of? (.argument none (wrapping.component.named wrapping.name)) = none :=
    Component.ofExpression?_named wrapping.name wrapping.component
  simp only [named, namedCall, Call.toExpression, of?, Tree.unwrap, unnamed, Option.map_none,
    ite_self]

end Wrapping

end ComponentNaming
