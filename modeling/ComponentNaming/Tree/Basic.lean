import ComponentNaming.Source

/-!
# Program trees

A program is a tree of nodes. Naming components looks at a dozen forms only: names,
parentheses, calls, member accesses, arrows, functions, blocks, returns and variable
declarations. These have constructors of their own. Every other form of the language is
carried as it is, by its kind, its span and its fields (`Tree.form`), and pieces that are
no nodes, such as a property of an object literal, are carried by their fields alone
(`Tree.record`).

One family covers all of this, indexed by the role that a piece plays (`Role`). A tree of
role `.argument` is an argument of a call, and only such trees stand in an argument list.
Lists and optional pieces are trees as well, so that a property of whole programs is one
induction over one family.
-/

set_option autoImplicit false

namespace ComponentNaming

/-- How a variable declaration binds its variables. -/
inductive DeclarationKind where
  /-- Bound in the enclosing function. -/
  | functionScoped
  /-- Bound in the enclosing block. -/
  | blockScoped
  /-- Bound in the enclosing block, once and for all. -/
  | constant
  deriving DecidableEq, Repr

/-- A piece of a program that has no parts. -/
inductive Datum where
  | null
  | boolean (value : Bool)
  /-- A number as it is written. Nothing is computed from it, so its value is not needed,
  and every digit and the sign of a zero are kept. -/
  | number (numeral : String)
  | text (value : String)
  | span (value : Span)
  | context (value : Nat)
  deriving DecidableEq, Repr

/-- The role that a piece of a program plays. -/
inductive Role where
  /-- Anything with a span of its own: expressions, patterns, statements, types, programs. -/
  | node
  /-- An argument of a call, or an element of an array. -/
  | argument
  /-- A parameter of a function. -/
  | parameter
  /-- One variable of a variable declaration. -/
  | declarator
  /-- A piece with a key, inside a form or a record. -/
  | field
  /-- A piece of any role. -/
  | item
  | optional (role : Role)
  | list (role : Role)
  deriving DecidableEq, Repr

/-- A piece of a program, by the role it plays. -/
inductive Tree : Role → Type where
  /-- A name that stands for a value. -/
  | ident (name : Ident) : Tree .node
  /-- A name that is bound here, with its type if one is written. -/
  | binding (name : Ident) (writtenType : Tree (.optional .node)) : Tree .node
  /-- A bare name, such as the property of `a.b`. -/
  | plainName (span : Span) (name : String) : Tree .node
  | paren (span : Span) (inner : Tree .node) : Tree .node
  | call (span : Span) (context : Nat) (callee : Tree .node) (arguments : Tree (.list .argument))
      (typeArguments : Tree (.optional .node)) : Tree .node
  | member (span : Span) (object property : Tree .node) : Tree .node
  /-- An arrow, whose parameters are patterns and whose body is a block or an expression. -/
  | arrow (head : FunctionHead) (parameters : Tree (.list .node)) (body : Tree .node)
      (typeParameters returnType : Tree (.optional .node)) : Tree .node
  /-- A function expression, named or not. -/
  | function (head : FunctionHead) (name : Option Ident) (parameters : Tree (.list .parameter))
      (decorators : Tree (.list .node)) (body : Tree (.optional .node))
      (typeParameters returnType : Tree (.optional .node)) : Tree .node
  | block (span : Span) (context : Nat) (statements : Tree (.list .node)) : Tree .node
  | returning (span : Span) (result : Tree (.optional .node)) : Tree .node
  /-- A variable declaration. An ambient one declares variables that live elsewhere. -/
  | declaration (span : Span) (context : Nat) (kind : DeclarationKind) (isAmbient : Bool)
      (declarators : Tree (.list .declarator)) : Tree .node
  /-- A node of any other form. -/
  | form (kind : String) (span : Span) (fields : Tree (.list .field)) : Tree .node
  | argument (spread : Option Span) (value : Tree .node) : Tree .argument
  | parameter (span : Span) (decorators : Tree (.list .node)) (pattern : Tree .node) :
      Tree .parameter
  /-- One declared variable: what is bound, and its initial value if there is one. -/
  | declarator (span : Span) (isDefinite : Bool) (target : Tree .node)
      (value : Tree (.optional .node)) : Tree .declarator
  | field (key : String) (value : Tree .item) : Tree .field
  | datum (value : Datum) : Tree .item
  | record (fields : Tree (.list .field)) : Tree .item
  | part {role : Role} (piece : Tree role) : Tree .item
  | absent {role : Role} : Tree (.optional role)
  | present {role : Role} (piece : Tree role) : Tree (.optional role)
  | nil {role : Role} : Tree (.list role)
  | cons {role : Role} (first : Tree role) (rest : Tree (.list role)) : Tree (.list role)
  deriving DecidableEq, Repr

namespace Tree

/-! ## Spans -/

/-- The span a node is written with. -/
def span : Tree .node → Span
  | ident name => name.span
  | binding name _ => name.span
  | plainName span _ => span
  | paren span _ => span
  | call span _ _ _ _ => span
  | member span _ _ => span
  | arrow head _ _ _ _ => head.span
  | function head _ _ _ _ _ _ => head.span
  | block span _ _ => span
  | returning span _ => span
  | declaration span _ _ _ _ => span
  | form _ span _ => span

/-- The text a pattern takes up: a bound name reaches to the end of its written type, and
any other pattern takes up its own span. -/
def extent : Tree .node → Span
  | binding name (present writtenType) => .between name.span.start writtenType.span.stop
  | pattern => pattern.span

@[simp] theorem extent_binding_absent (name : Ident) :
    extent (binding name absent) = name.span := rfl

@[simp] theorem extent_binding_present (name : Ident) (writtenType : Tree .node) :
    extent (binding name (present writtenType)) =
      .between name.span.start writtenType.span.stop := rfl

/-! ## Parentheses -/

/-- An expression without the parentheses around it, however many there are. -/
def unwrap : {role : Role} → Tree role → Tree role
  | _, paren _ inner => unwrap inner
  | _, expression => expression

/-- Induction over the parentheses around an expression. -/
@[elab_as_elim] theorem parenInduction {motive : Tree .node → Prop}
    (paren : ∀ span inner, motive inner → motive (paren span inner))
    (bare : ∀ expression, (∀ span inner, expression ≠ .paren span inner) → motive expression)
    (expression : Tree .node) : motive expression := by
  cases expression with
  | paren span inner => exact paren span inner (parenInduction paren bare inner)
  | _ => exact bare _ (fun _ _ => nofun)

@[simp] theorem unwrap_paren (span : Span) (inner : Tree .node) :
    unwrap (paren span inner) = unwrap inner := rfl

theorem unwrap_of_ne_paren {expression : Tree .node}
    (bare : ∀ span inner, expression ≠ paren span inner) : unwrap expression = expression := by
  cases expression with
  | paren span inner => exact absurd rfl (bare span inner)
  | _ => rfl

/-- No parentheses are left around an unwrapped expression. -/
theorem unwrap_ne_paren (expression : Tree .node) (span : Span) (inner : Tree .node) :
    unwrap expression ≠ paren span inner := by
  induction expression using parenInduction with
  | paren _ _ ih => exact ih
  | bare expression bare =>
      rw [unwrap_of_ne_paren bare]
      exact bare span inner

/-- Unwrapping twice is unwrapping once. -/
@[simp] theorem unwrap_unwrap (expression : Tree .node) :
    unwrap (unwrap expression) = unwrap expression :=
  unwrap_of_ne_paren (unwrap_ne_paren expression)

/-- What does not look at parentheses is the same for an expression without them. -/
theorem view_unwrap {α : Type} {view : Tree .node → α}
    (blind : ∀ span inner, view (paren span inner) = view inner) (expression : Tree .node) :
    view (unwrap expression) = view expression := by
  induction expression using parenInduction with
  | paren span inner ih => rw [unwrap_paren, ih, blind]
  | bare expression bare => rw [unwrap_of_ne_paren bare]

/-! ## Lists -/

variable {role other : Role}

/-- Induction over the members of a list. -/
@[elab_as_elim] theorem listInduction {motive : Tree (.list role) → Prop} (nil : motive nil)
    (cons : ∀ first rest, motive rest → motive (cons first rest)) (pieces : Tree (.list role)) :
    motive pieces := by
  cases pieces with
  | nil => exact nil
  | cons first rest => exact cons first rest (listInduction nil cons rest)

/-- The members of a list, in order. -/
def toList (pieces : Tree (.list role)) : List (Tree role) := members pieces rfl
where
  members : {whole : Role} → Tree whole → whole = .list role → List (Tree role)
  | _, nil, rfl => []
  | _, cons first rest, rfl => first :: members rest rfl

@[simp] theorem toList_nil : toList (nil : Tree (.list role)) = [] := rfl

@[simp] theorem toList_cons (first : Tree role) (rest : Tree (.list role)) :
    toList (cons first rest) = first :: toList rest := rfl

/-- The list with the given members. -/
def ofList : List (Tree role) → Tree (.list role)
  | [] => nil
  | first :: rest => cons first (ofList rest)

@[simp] theorem toList_ofList (pieces : List (Tree role)) : (ofList pieces).toList = pieces := by
  induction pieces with
  | nil => rfl
  | cons first rest ih => simp only [ofList, toList_cons, ih]

@[simp] theorem ofList_toList (pieces : Tree (.list role)) : ofList pieces.toList = pieces := by
  induction pieces using listInduction with
  | nil => rfl
  | cons first rest ih => simp only [ofList, toList_cons, ih]

/-- Applies a function to each member of a list. -/
def mapList (f : Tree role → Tree other) (pieces : Tree (.list role)) : Tree (.list other) :=
  members pieces rfl
where
  members : {whole : Role} → Tree whole → whole = .list role → Tree (.list other)
  | _, nil, rfl => nil
  | _, cons first rest, rfl => cons (f first) (members rest rfl)

@[simp] theorem mapList_nil (f : Tree role → Tree other) : mapList f nil = nil := rfl

@[simp] theorem mapList_cons (f : Tree role → Tree other) (first : Tree role)
    (rest : Tree (.list role)) :
    mapList f (cons first rest) = cons (f first) (mapList f rest) := rfl

/-- Mapping keeps the members in their order. -/
@[simp] theorem toList_mapList (f : Tree role → Tree other) (pieces : Tree (.list role)) :
    (mapList f pieces).toList = pieces.toList.map f := by
  induction pieces using listInduction with
  | nil => rfl
  | cons first rest ih => simp only [mapList_cons, toList_cons, List.map_cons, ih]

end Tree

end ComponentNaming
