import ComponentNaming.Proofs.Matching

/-!
# The shapes of wrapped components

A declarator holds a wrapped component exactly if it is written in one of a few ways: a
bound name, and as its value a call of a wrapper on a component and on any other arguments.
Any number of parentheses may stand around the call, around what is called and around the
component (`Wrapping.of?_iff_shape`). Everything that is found is a part of the declarator
in its place, so the declarator can be put together again from what was found and the
parentheses around it.

Naming changes the form of the component and drops the parentheses, and nothing else gets
lost. An arrow becomes a function, and its body may become a block, so what was there before
cannot always be told from the result alone. It can be told from the result and from the
form of the component (`Component.form`): the declarator without those parentheses is
restored from the two (`Wrapping.named_restores`).
-/

set_option autoImplicit false

namespace ComponentNaming

/-! ## Parentheses -/

namespace Tree

/-- An expression in parentheses, one pair for each span, the first one outermost. -/
def inParens (expression : Tree .node) (spans : List Span) : Tree .node :=
  spans.foldr paren expression

@[simp] theorem inParens_nil (expression : Tree .node) : expression.inParens [] = expression := rfl

@[simp] theorem inParens_cons (expression : Tree .node) (span : Span) (spans : List Span) :
    expression.inParens (span :: spans) = paren span (expression.inParens spans) := rfl

@[simp] theorem unwrap_inParens (expression : Tree .node) (spans : List Span) :
    (expression.inParens spans).unwrap = expression.unwrap := by
  induction spans with
  | nil => rfl
  | cons span spans ih => exact ih

/-- Every expression is in some parentheses, none perhaps, around what it is without them. -/
theorem exists_eq_inParens (expression : Tree .node) :
    ∃ spans, expression = expression.unwrap.inParens spans := by
  induction expression using parenInduction with
  | paren span inner ih =>
      obtain ⟨spans, inside⟩ := ih
      exact ⟨span :: spans, congrArg (paren span) inside⟩
  | bare expression bare => exact ⟨[], (unwrap_of_ne_paren bare).symm⟩

/-- An expression is another one under its parentheses exactly if it is that one in some
parentheses. -/
theorem unwrap_eq_iff_exists_inParens {expression inner : Tree .node}
    (bare : inner.unwrap = inner) :
    expression.unwrap = inner ↔ ∃ spans, expression = inner.inParens spans := by
  constructor
  · rintro rfl
    exact exists_eq_inParens expression
  · rintro ⟨spans, rfl⟩
    rw [unwrap_inParens, bare]

end Tree

/-! ## What is found -/

/-- The expressions that name a wrapper: its name, or its name as a plain property, of
whatever object. -/
inductive NamesWrapper (wrappers : Wrappers) : Tree .node → Prop where
  | name {name : Ident} : name.name ∈ wrappers → NamesWrapper wrappers (.ident name)
  | property {span propertySpan : Span} {object : Tree .node} {name : String} : name ∈ wrappers →
      NamesWrapper wrappers (.member span object (.plainName propertySpan name))

theorem NamesWrapper.unwrap_eq {wrappers : Wrappers} {called : Tree .node}
    (names : NamesWrapper wrappers called) : called.unwrap = called := by
  cases names <;> rfl

/-- What is called is recognized exactly if it names a wrapper, in any parentheses. -/
theorem Wrappers.recognizes_iff_exists_inParens {wrappers : Wrappers} {callee : Tree .node} :
    wrappers.recognizes callee = true ↔
      ∃ spans called, callee = called.inParens spans ∧ NamesWrapper wrappers called := by
  constructor
  · intro recognized
    obtain ⟨spans, whole⟩ := callee.exists_eq_inParens
    refine ⟨spans, callee.unwrap, whole, ?_⟩
    unfold recognizes at recognized
    split at recognized
    · rename_i unwrapped
      rw [unwrapped]
      exact .name (contains_iff.mp recognized)
    · rename_i unwrapped
      rw [unwrapped]
      exact .property (contains_iff.mp recognized)
    · cases recognized
  · rintro ⟨spans, called, rfl, names⟩
    rw [recognizes, Tree.unwrap_inParens, names.unwrap_eq]
    cases names with
    | name listed => exact contains_iff.mpr listed
    | property listed => exact contains_iff.mpr listed

theorem Component.unwrap_toExpression (component : Component) :
    component.toExpression.unwrap = component.toExpression := by
  cases component <;> rfl

/-- **A wrapped component is found exactly in the declarators of one shape**: a bound name,
and, in any parentheses, the call of an expression that names a wrapper, itself in any
parentheses. The first argument of the call is not spread, and it is the component, an arrow
or a function without a name, in any parentheses. Any arguments may follow. The bound name, the
call, the component and those arguments are what is found. -/
theorem Wrapping.of?_iff_shape {wrappers : Wrappers} {declarator : Tree .declarator}
    {wrapping : Wrapping} :
    of? wrappers declarator = some wrapping ↔
      ∃ (aroundCall aroundCalled aroundComponent : List Span) (called : Tree .node),
        declarator = .declarator wrapping.span wrapping.isDefinite
          (.binding wrapping.name wrapping.writtenType)
          (.present ((Tree.call wrapping.call.span wrapping.call.context
            (called.inParens aroundCalled)
            (.cons (.argument none (wrapping.component.toExpression.inParens aroundComponent))
              wrapping.rest)
            wrapping.call.typeArguments).inParens aroundCall)) ∧
        NamesWrapper wrappers called ∧
        wrapping.call.callee = called.inParens aroundCalled ∧
        wrapping.call.arguments =
          .cons (.argument none (wrapping.component.toExpression.inParens aroundComponent))
            wrapping.rest := by
  rw [of?_eq_some_iff]
  constructor
  · rintro ⟨value, first, rfl, unwrapped, arguments, recognized, isComponent⟩
    obtain ⟨aroundCalled, called, callee, names⟩ :=
      Wrappers.recognizes_iff_exists_inParens.mp recognized
    obtain ⟨argument, rfl, expression⟩ := Component.of?_eq_some_iff.mp isComponent
    obtain ⟨aroundComponent, rfl⟩ :=
      (Tree.unwrap_eq_iff_exists_inParens wrapping.component.unwrap_toExpression).mp expression
    rw [Call.toExpression, arguments, callee] at unwrapped
    obtain ⟨aroundCall, rfl⟩ := (Tree.unwrap_eq_iff_exists_inParens rfl).mp unwrapped
    exact ⟨aroundCall, aroundCalled, aroundComponent, called, rfl, names, callee, arguments⟩
  · rintro ⟨aroundCall, aroundCalled, aroundComponent, called, rfl, names, callee, arguments⟩
    refine ⟨_, _, rfl, ?_, arguments, ?_, ?_⟩
    · rw [Tree.unwrap_inParens, Call.toExpression, callee, arguments]
      rfl
    · rw [Wrappers.recognizes_iff_exists_inParens]
      exact ⟨aroundCalled, called, callee, names⟩
    · rw [Component.of?_eq_some_iff]
      refine ⟨_, rfl, ?_⟩
      rw [Tree.unwrap_inParens, Component.unwrap_toExpression]

/-! ## What can be restored -/

/-- How a component is written. -/
inductive Component.Form where
  | arrowWithBlock
  | arrowWithExpression
  | anonymous
  deriving DecidableEq, Repr

/-- The form of a component. -/
def Component.form : Component → Form
  | arrow _ _ (.block _ _ _) _ _ => .arrowWithBlock
  | arrow _ _ _ _ _ => .arrowWithExpression
  | anonymous _ _ _ _ _ _ => .anonymous

namespace Tree

/-- The pattern of a parameter. -/
def pattern : Tree .parameter → Tree .node
  | parameter _ _ pattern => pattern

/-- The expression that a block returns, if it does nothing else. -/
def returned : Tree .node → Tree .node
  | block _ _ (cons (returning _ (present expression)) nil) => expression
  | body => body

/-- The function without its name, in the given form. Any other expression is left alone. -/
def unnamed : Component.Form → Tree .node → Tree .node
  | .anonymous, function head _ parameters decorators body typeParameters returnType =>
    function head none parameters decorators body typeParameters returnType
  | .arrowWithBlock, function head _ parameters _ (present body) typeParameters returnType =>
    arrow head (parameters.mapList pattern) body typeParameters returnType
  | .arrowWithExpression, function head _ parameters _ (present body) typeParameters returnType =>
    arrow head (parameters.mapList pattern) body.returned typeParameters returnType
  | _, expression => expression

/-- Changes the value of the first argument of a call. -/
def onFirstArgument (f : Tree .node → Tree .node) : Tree .node → Tree .node
  | call span context callee (cons (argument spread value) rest) typeArguments =>
    call span context callee (cons (argument spread (f value)) rest) typeArguments
  | expression => expression

@[simp] theorem onFirstArgument_call (f : Tree .node → Tree .node) (span : Span) (context : Nat)
    (callee : Tree .node) (spread : Option Span) (value : Tree .node)
    (rest : Tree (.list .argument)) (typeArguments : Tree (.optional .node)) :
    (call span context callee (cons (argument spread value) rest) typeArguments).onFirstArgument f =
      call span context callee (cons (argument spread (f value)) rest) typeArguments := rfl

/-- The declarator with the function that its value is called on in the given form, without
its name. -/
def restore (form : Component.Form) : Tree .declarator → Tree .declarator
  | declarator span isDefinite target (present value) =>
    declarator span isDefinite target (present (value.onFirstArgument (unnamed form)))
  | whole => whole

/-- A declarator without the parentheses around its value, and without those around the first
argument of the call that the value is. -/
def bareValue : Tree .declarator → Tree .declarator
  | declarator span isDefinite target (present value) =>
    declarator span isDefinite target (present (value.unwrap.onFirstArgument unwrap))
  | whole => whole

/-- The patterns of an arrow can be read off its parameters as a function. -/
theorem mapList_pattern_asParameter (patterns : Tree (.list .node)) :
    (patterns.mapList asParameter).mapList pattern = patterns := by
  rw [mapList_mapList]
  exact mapList_eq_self fun _ _ => rfl

end Tree

/-- A named component can be turned back, in its form. -/
theorem Component.unnamed_named (name : Ident) (component : Component) :
    (component.named name).unnamed component.form = component.toExpression := by
  cases component with
  | arrow head patterns body typeParameters returnType =>
      have same := Tree.mapList_pattern_asParameter patterns
      cases body <;>
        exact congrArg (fun restored => Tree.arrow head restored _ typeParameters returnType) same
  | anonymous head parameters decorators body typeParameters returnType => rfl

/-- What a component was found in is restored from its form and from the named component. -/
theorem Wrapping.restore_named {wrappers : Wrappers} {declarator : Tree .declarator}
    {wrapping : Wrapping} (found : of? wrappers declarator = some wrapping) :
    wrapping.named.restore wrapping.component.form = declarator.bareValue := by
  obtain ⟨value, first, rfl, unwrapped, arguments, _, isComponent⟩ := of?_eq_some_iff.mp found
  obtain ⟨argument, rfl, expression⟩ := Component.of?_eq_some_iff.mp isComponent
  rw [Call.toExpression, arguments] at unwrapped
  simp only [named, namedCall, Call.toExpression, Tree.restore, Tree.bareValue, unwrapped,
    Tree.onFirstArgument_call, expression, Component.unnamed_named]

/-- **Naming can be undone.** The declarator that a component was found in is restored from
the declarator with the name and from the form of the component, up to the parentheses
around the call and around the component. So two declarators with components of one form that
look the same once they are named are the same, up to those parentheses. -/
theorem Wrapping.named_restores {wrappers : Wrappers} {declarator : Tree .declarator}
    {wrapping : Wrapping} (found : of? wrappers declarator = some wrapping) :
    wrapping.named.restore wrapping.component.form = declarator.bareValue ∧
    ∀ (others : Wrappers) (other : Tree .declarator) (otherWrapping : Wrapping),
      of? others other = some otherWrapping →
      otherWrapping.component.form = wrapping.component.form →
      otherWrapping.named = wrapping.named → other.bareValue = declarator.bareValue := by
  refine ⟨restore_named found, fun others other otherWrapping otherFound sameForm sameNamed => ?_⟩
  rw [← restore_named otherFound, sameNamed, sameForm, restore_named found]

/-- The declarator of `A = memo(async p => q, r)`, with parentheses around the call and around
the arrow. -/
def memoInParens (aroundCall aroundArrow : List Span) : Tree .declarator :=
  let name (position : Nat) (text : String) : Ident := ⟨⟨position, position + 1⟩, 2, text, false⟩
  let arrow : Tree .node :=
    .arrow ⟨⟨20, 30⟩, 3, true, false⟩ (.ofList [.binding (name 26 "p") .absent])
      (.ident (name 29 "q")) .absent .absent
  .declarator ⟨1, 40⟩ false (.binding (name 1 "A") .absent)
    (.present ((Tree.call ⟨5, 39⟩ 0 (.ident (name 6 "memo"))
      (.ofList [.argument none (arrow.inParens aroundArrow), .argument none (.ident (name 34 "r"))])
      .absent).inParens aroundCall))

/-- With two pairs of parentheses around the call and one around the arrow, the declarator
without parentheses is restored. Without them at the beginning, the name looks the same. -/
theorem Wrapping.named_restores_memo :
    ∃ inside bare : Wrapping,
      of? (.ofList ["memo"]) (memoInParens [⟨3, 41⟩, ⟨4, 40⟩] [⟨19, 31⟩]) = some inside ∧
      of? (.ofList ["memo"]) (memoInParens [] []) = some bare ∧
      bare.component.form = inside.component.form ∧ bare.named = inside.named ∧
      inside.named.restore .arrowWithExpression = memoInParens [] [] ∧
      (memoInParens [] []).bareValue =
        (memoInParens [⟨3, 41⟩, ⟨4, 40⟩] [⟨19, 31⟩]).bareValue := by
  have found : of? (.ofList ["memo"]) (memoInParens [⟨3, 41⟩, ⟨4, 40⟩] [⟨19, 31⟩]) = some _ := rfl
  obtain ⟨restored, unique⟩ := named_restores found
  exact ⟨_, _, found, rfl, rfl, rfl, restored, unique (.ofList ["memo"]) _ _ rfl rfl rfl⟩

-- The form is needed: a returned expression and a block that returns it are named alike.
example (name : Ident) (head : FunctionHead) (parameters : Tree (.list .node)) (span : Span) :
    (Component.arrow head parameters (.paren span (.ident name)) .absent .absent).named name =
      (Component.arrow head parameters
        (.block .nowhere 0
          (.cons (.returning .nowhere (.present (.paren span (.ident name)))) .nil))
        .absent .absent).named name := rfl

end ComponentNaming
