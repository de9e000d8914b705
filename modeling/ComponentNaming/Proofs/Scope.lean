import ComponentNaming.Component

/-!
# Names and their scopes

Which names of an expression refer to something outside it. A reference is a spelling in a
syntax context, and it is bound by the innermost enclosing scope that binds the same pair.
The rules are those of strict code, for everything that can stand inside a function; imports
and exports stand in none, and types refer to no values.

A pattern binds the names in it (`Tree.patternNames`). A block binds the names that its
statements declare, functions and classes included (`Tree.lexicalNames`), while a variable
declared by `var` is bound in the whole body of the innermost function
(`Tree.variableNames`). A function binds its parameters in the parameters and in the body,
its variables in the body, its own name if it has one, and `arguments` unless it is an
arrow. An enum binds its members in all of its initializers. What is left over is free
(`Tree.freeNames`).

The forms that have no constructor of their own are told apart by their kind, and the parts
of a form by their keys (`Form`).
-/

set_option autoImplicit false

namespace ComponentNaming

/-- A spelling in a syntax context. -/
structure Reference where
  name : String
  context : Nat
  deriving DecidableEq, Repr

/-- What a name refers to. -/
def Ident.reference (ident : Ident) : Reference := ⟨ident.name, ident.context⟩

/-! ## The forms that bind names -/

namespace Form

/-- The parts of a pattern that are patterns. A member of an enum counts as one: it binds its
identifier. A quoted member binds none, as a text stands in no syntax context. -/
def patternPart (kind key : String) : Bool :=
  [("ArrayPattern", "elements"), ("ObjectPattern", "properties"), ("AssignmentPattern", "left"),
    ("AssignmentPatternProperty", "key"), ("KeyValuePatternProperty", "value"),
    ("RestElement", "argument"), ("TsParameterProperty", "param"),
    ("TsEnumMember", "id")].contains (kind, key)

/-- The parts of a statement that are bound where the statement stands. -/
def declaredPart (kind key : String) : Bool :=
  [("FunctionDeclaration", "identifier"), ("ClassDeclaration", "identifier"),
    ("UsingDeclaration", "decls"), ("TsEnumDeclaration", "id")].contains (kind, key)

/-- The statements in a statement that declare names where the statement stands. -/
def statementPart (kind key : String) : Bool :=
  [("LabeledStatement", "body"), ("SwitchCase", "consequent")].contains (kind, key)

/-- The functions among the forms. A method of a class holds its function without a kind. -/
def isFunction (kind : String) : Bool :=
  ["FunctionDeclaration", "MethodProperty", "GetterProperty", "SetterProperty", "Constructor",
    ""].contains kind

/-- The parts of a form that are bound inside the form. -/
def parameterPart (kind key : String) : Bool :=
  isFunction kind && (key == "params" || key == "param") ||
    [("CatchClause", "param"), ("ClassDeclaration", "identifier"),
      ("ClassExpression", "identifier"), ("TsEnumDeclaration", "members")].contains (kind, key)

/-- The parts of a form that declare names for the whole form. -/
def headPart (kind key : String) : Bool :=
  [("ForStatement", "init"), ("ForInStatement", "left"), ("ForOfStatement", "left"),
    ("SwitchStatement", "cases")].contains (kind, key)

/-- Whether variables that are declared in a form are bound in its body. -/
def holdsVariables (kind : String) : Bool := isFunction kind || kind == "StaticBlock"

/-- The parts of a form that the names bound inside the form do not reach. -/
def isOutside (key : String) : Bool := ["decorators", "key", "discriminant"].contains key

/-- The parts of a form that are names and refer to nothing. -/
def labelPart (kind key : String) : Bool :=
  [("LabeledStatement", "label"), ("BreakStatement", "label"), ("ContinueStatement", "label"),
    ("FunctionDeclaration", "identifier"), ("ClassDeclaration", "identifier"),
    ("ClassExpression", "identifier"), ("TsEnumDeclaration", "id"), ("TsEnumMember", "id"),
    ("JSXClosingElement", "name")].contains (kind, key)

/-- The forms that say something about types only. -/
def isType (kind : String) : Bool :=
  "Ts".toList.isPrefixOf kind.toList &&
    !(["TsAsExpression", "TsConstAssertion", "TsNonNullExpression", "TsSatisfiesExpression",
      "TsTypeAssertion", "TsInstantiation", "TsParameterProperty", "TsEnumDeclaration",
      "TsEnumMember"].contains kind)

end Form

namespace Tree

/-- The kind that a record says it is of. -/
def recordKind : {role : Role} → Tree role → String
  | _, field key value => if key = "type" then recordKind value else ""
  | _, datum (.text kind) => kind
  | _, cons first rest => if recordKind first = "" then recordKind rest else recordKind first
  | _, _ => ""

/-- The names that a pattern binds. Of a form only the parts with the given keys count. -/
def patternNames (within : String → Bool) : {role : Role} → Tree role → List Reference
  | _, ident name => [name.reference]
  | _, binding name _ => [name.reference]
  | _, form kind _ fields => patternNames (Form.patternPart kind) fields
  | _, record fields => patternNames (Form.patternPart (recordKind fields)) fields
  | _, parameter _ _ pattern => patternNames within pattern
  | _, declarator _ _ target _ => patternNames within target
  | _, field key value => if within key then patternNames within value else []
  | _, part piece => patternNames within piece
  | _, present piece => patternNames within piece
  | _, cons first rest => patternNames within first ++ patternNames within rest
  | _, _ => []

/-- The names that statements declare in the block where they stand. Of a form only the parts
with the given keys count. -/
def lexicalNames (within : String → Bool) : {role : Role} → Tree role → List Reference
  | _, declaration _ _ kind _ declarators =>
    if kind = .functionScoped then [] else patternNames within declarators
  | _, form kind _ fields =>
    patternNames (Form.declaredPart kind) fields ++ lexicalNames (Form.statementPart kind) fields
  | _, field key value => if within key then lexicalNames within value else []
  | _, part piece => lexicalNames within piece
  | _, present piece => lexicalNames within piece
  | _, cons first rest => lexicalNames within first ++ lexicalNames within rest
  | _, _ => []

/-- The variables that are declared in a function whose body this is. -/
def variableNames : {role : Role} → Tree role → List Reference
  | _, paren _ inner => variableNames inner
  | _, block _ _ statements => variableNames statements
  | _, returning _ result => variableNames result
  | _, declaration _ _ kind _ declarators =>
    if kind = .functionScoped then patternNames (fun _ => false) declarators else []
  | _, form kind _ fields => if Form.holdsVariables kind then [] else variableNames fields
  | _, record fields =>
    if Form.holdsVariables (recordKind fields) then [] else variableNames fields
  | _, field _ value => variableNames value
  | _, part piece => variableNames piece
  | _, present piece => variableNames piece
  | _, cons first rest => variableNames first ++ variableNames rest
  | _, _ => []

/-- Whether an element with this name is one of the page and not a component. -/
def isPlainElement : {role : Role} → Tree role → Bool
  | _, part piece => isPlainElement piece
  | _, ident name => name.name.toList.head?.any Char.isLower
  | _, _ => false

end Tree

namespace Form

/-- The names that a form binds inside itself. -/
def innerNames (kind : String) (fields : Tree (.list .field)) : List Reference :=
  fields.patternNames (parameterPart kind) ++ fields.lexicalNames (headPart kind)

/-- Whether a reference in a part of a form can refer to something outside the form. -/
def leaves (kind : String) (fields : Tree (.list .field)) (key : String) (value : Tree .item)
    (reference : Reference) : Bool :=
  !labelPart kind key &&
    !(kind == "JSXOpeningElement" && key == "name" && value.isPlainElement) &&
    (isOutside key ||
      !(innerNames kind fields).contains reference &&
        !(isFunction kind && reference.name == "arguments") &&
        !(holdsVariables kind && key == "body" && fields.variableNames.contains reference))

end Form

/-- The references in the parameters and the body of a function that neither its parameters
nor its variables bind. The variables are not bound in the parameters. -/
def unboundNames (bound hoisted inParameters inBody : List Reference) : List Reference :=
  inParameters.filter (fun reference => !bound.contains reference) ++
    inBody.filter fun reference => !bound.contains reference && !hoisted.contains reference

namespace Tree

/-- The references that nothing inside a tree binds. Of a form those count that leave the part
in which they stand. -/
def freeWithin (leaves : String → Tree .item → Reference → Bool) :
    {role : Role} → Tree role → List Reference
  | _, ident name => [name.reference]
  | _, binding name _ => [name.reference]
  | _, plainName _ _ => []
  | _, paren _ inner => freeWithin leaves inner
  | _, call _ _ callee arguments _ => freeWithin leaves callee ++ freeWithin leaves arguments
  | _, member _ object property => freeWithin leaves object ++ freeWithin leaves property
  | _, arrow _ parameters body _ _ =>
    unboundNames (patternNames (fun _ => false) parameters) (variableNames body)
      (freeWithin leaves parameters) (freeWithin leaves body)
  | _, function _ name parameters decorators body _ _ =>
    freeWithin leaves decorators ++
      (unboundNames (patternNames (fun _ => false) parameters) (variableNames body)
        (freeWithin leaves parameters) (freeWithin leaves body)).filter fun reference =>
          reference.name != "arguments" && name.map Ident.reference != some reference
  | _, block _ _ statements =>
    (freeWithin leaves statements).filter fun reference =>
      !(lexicalNames (fun _ => false) statements).contains reference
  | _, returning _ result => freeWithin leaves result
  | _, declaration _ _ _ _ declarators => freeWithin leaves declarators
  | _, form kind _ fields =>
    if Form.isType kind then [] else freeWithin (Form.leaves kind fields) fields
  | _, argument _ value => freeWithin leaves value
  | _, parameter _ decorators pattern => freeWithin leaves decorators ++ freeWithin leaves pattern
  | _, declarator _ _ target value => freeWithin leaves target ++ freeWithin leaves value
  | _, field key value => (freeWithin leaves value).filter (leaves key value)
  | _, datum _ => []
  | _, record fields => freeWithin (Form.leaves (recordKind fields) fields) fields
  | _, part piece => freeWithin leaves piece
  | _, absent => []
  | _, present piece => freeWithin leaves piece
  | _, nil => []
  | _, cons first rest => freeWithin leaves first ++ freeWithin leaves rest

/-- The free references of a node. -/
def freeNames (node : Tree .node) : List Reference := node.freeWithin fun _ _ _ => true

end Tree

end ComponentNaming
