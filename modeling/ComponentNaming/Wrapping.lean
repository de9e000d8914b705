import ComponentNaming.Component
import ComponentNaming.Wrappers

/-!
# Wrapped components

A declared variable holds a wrapped component if its initial value is a call of a wrapper
whose first argument is a component without a name. Parentheses around the call, around
what is called and around the argument do not matter.

`Wrapping.of?` finds such a call in a declarator. `Wrapping.named` is the declarator in
which the component has the name of the variable: the parentheses around the call and
around the component are gone, and everything else is as it was.
-/

set_option autoImplicit false

namespace ComponentNaming

/-- Whether what is called is one of the wrappers: it is a name in the set, or the plain
property of any object, with its name in the set. -/
def Wrappers.recognizes (wrappers : Wrappers) (callee : Tree .node) : Bool :=
  match callee.unwrap with
  | .ident name => wrappers.contains name.name
  | .member _ _ (.plainName _ name) => wrappers.contains name
  | _ => false

/-- A call, taken apart. -/
structure Call where
  span : Span
  context : Nat
  callee : Tree .node
  arguments : Tree (.list .argument)
  typeArguments : Tree (.optional .node)
  deriving DecidableEq, Repr

/-- The call as an expression. -/
def Call.toExpression (call : Call) : Tree .node :=
  .call call.span call.context call.callee call.arguments call.typeArguments

/-- A declared variable that holds a wrapped component. -/
structure Wrapping where
  /-- The span of the declarator. -/
  span : Span
  isDefinite : Bool
  /-- The declared variable. -/
  name : Ident
  writtenType : Tree (.optional .node)
  /-- The call of the wrapper. -/
  call : Call
  /-- The function that is wrapped. -/
  component : Component
  /-- The arguments of the call after the component. -/
  rest : Tree (.list .argument)
  deriving DecidableEq, Repr

namespace Wrapping

/-- The wrapped component that a declared variable holds, if it holds one. -/
def of? (wrappers : Wrappers) : Tree .declarator → Option Wrapping
  | .declarator span isDefinite (.binding name writtenType) (.present value) =>
    match value.unwrap with
    | .call callSpan context callee arguments@(.cons first rest) typeArguments =>
      if wrappers.recognizes callee then
        (Component.of? first).map fun component =>
          { span, isDefinite, name, writtenType, component, rest
            call := { span := callSpan, context, callee, arguments, typeArguments } }
      else none
    | _ => none
  | _ => none

/-- The call of the wrapper with the component named after the variable. -/
def namedCall (wrapping : Wrapping) : Call :=
  { wrapping.call with
    arguments := .cons (.argument none (wrapping.component.named wrapping.name)) wrapping.rest }

/-- The declarator in which the component is named after the variable. -/
def named (wrapping : Wrapping) : Tree .declarator :=
  .declarator wrapping.span wrapping.isDefinite (.binding wrapping.name wrapping.writtenType)
    (.present wrapping.namedCall.toExpression)

end Wrapping

end ComponentNaming
