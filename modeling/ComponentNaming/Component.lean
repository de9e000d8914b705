import ComponentNaming.Tree.Basic

/-!
# Components without a name

A component is the function that is handed to a wrapper. It can be given a name if it has
none: it is an arrow, or a function expression without a name (`Component.of?`). A
function that has a name already is left alone, which is what makes naming twice the same
as naming once.

Arrows cannot carry a name, so a named component is always a function expression
(`Component.named`). Each pattern of an arrow becomes a parameter (`Tree.asParameter`),
and a body that is an expression becomes a block that returns it (`Tree.asBlock`).
-/

set_option autoImplicit false

namespace ComponentNaming

namespace Tree

/-- A pattern as a parameter of a function, which takes up the same text. -/
def asParameter (pattern : Tree .node) : Tree .parameter :=
  parameter pattern.extent nil pattern

/-- The body of an arrow as a block: a block is one already, and an expression is returned
from a block that is written nowhere. -/
def asBlock : Tree .node → Tree .node
  | block span context statements => block span context statements
  | expression =>
    block .nowhere 0 (cons (returning .nowhere (present expression)) nil)

end Tree

/-- A function without a name, by the form it is written in. -/
inductive Component where
  | arrow (head : FunctionHead) (parameters : Tree (.list .node)) (body : Tree .node)
      (typeParameters returnType : Tree (.optional .node))
  | anonymous (head : FunctionHead) (parameters : Tree (.list .parameter))
      (decorators : Tree (.list .node)) (body : Tree (.optional .node))
      (typeParameters returnType : Tree (.optional .node))
  deriving DecidableEq, Repr

namespace Component

/-- The component that an expression is, under any parentheses. -/
def ofExpression? (expression : Tree .node) : Option Component :=
  match expression.unwrap with
  | .arrow head parameters body typeParameters returnType =>
    some (.arrow head parameters body typeParameters returnType)
  | .function head none parameters decorators body typeParameters returnType =>
    some (.anonymous head parameters decorators body typeParameters returnType)
  | _ => none

/-- The component that an argument is. An argument that is spread is none. -/
def of? : Tree .argument → Option Component
  | .argument none value => ofExpression? value
  | .argument (some _) _ => none

/-- The expression that a component is, without parentheses. -/
def toExpression : Component → Tree .node
  | arrow head parameters body typeParameters returnType =>
    .arrow head parameters body typeParameters returnType
  | anonymous head parameters decorators body typeParameters returnType =>
    .function head none parameters decorators body typeParameters returnType

/-- The parameters of a component, as those of a function. -/
def parameters : Component → Tree (.list .parameter)
  | arrow _ parameters _ _ _ => parameters.mapList Tree.asParameter
  | anonymous _ parameters _ _ _ _ => parameters

/-- The body of a component, as that of a function. -/
def body : Component → Tree (.optional .node)
  | arrow _ _ body _ _ => .present body.asBlock
  | anonymous _ _ _ body _ _ => body

/-- The component as a function expression with a name. The name is written nowhere, and
it is the given one in spelling and context. -/
def named (name : Ident) : Component → Tree .node
  | component@(arrow head _ _ typeParameters returnType) =>
    .function head (some name.mention) component.parameters .nil component.body
      typeParameters returnType
  | component@(anonymous head _ decorators _ typeParameters returnType) =>
    .function head (some name.mention) component.parameters decorators component.body
      typeParameters returnType

/-- A component is found in its own expression. -/
@[simp] theorem ofExpression?_toExpression (component : Component) :
    ofExpression? component.toExpression = some component := by
  cases component <;> rfl

/-- An expression is a component exactly if it is that component's expression under its
parentheses. -/
theorem ofExpression?_eq_some_iff {expression : Tree .node} {component : Component} :
    ofExpression? expression = some component ↔ expression.unwrap = component.toExpression := by
  constructor
  · intro found
    simp only [ofExpression?] at found
    split at found
    · rename_i unwrapped
      cases found
      exact unwrapped
    · rename_i unwrapped
      cases found
      exact unwrapped
    · cases found
  · intro unwrapped
    rw [ofExpression?, unwrapped]
    cases component <;> rfl

/-- A named component is no component without a name. -/
theorem ofExpression?_named (name : Ident) (component : Component) :
    ofExpression? (component.named name) = none := by
  cases component <;> rfl

end Component

end ComponentNaming
