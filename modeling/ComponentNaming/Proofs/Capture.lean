import ComponentNaming.Proofs.Matching
import ComponentNaming.Proofs.Scope

/-!
# What a name captures

The name that a component is given is bound in the parameters and in the body of the
function. A reference there to the variable that is declared is captured: after naming it
refers to the function itself, and not to what the wrapper made of it. An arrow that becomes
a function binds `arguments` besides.

These are the only references that naming captures, and it frees none
(`Component.mem_freeNames_named_iff`): taking the patterns of an arrow as parameters, or
returning its expression from a block, binds and frees nothing. So the set of free references
is kept exactly if the declared variable, where it is free at all, is also free in the
decorators, and, for an arrow, no free reference is spelled `arguments`
(`Component.keeps_references_iff`). Decorators stand outside the function that they decorate.
One that mentions the variable keeps it free, even if a reference to it in the body is
captured.
-/

set_option autoImplicit false

namespace ComponentNaming

namespace Tree

/-! ## Parameters and blocks bind nothing new -/

theorem patternNames_mapList_asParameter (within : String → Bool)
    (patterns : Tree (.list .node)) :
    (patterns.mapList asParameter).patternNames within = patterns.patternNames within := by
  induction patterns using listInduction with
  | nil => rfl
  | cons first rest ih =>
      rw [mapList_cons, patternNames, patternNames, ih]
      rfl

theorem freeWithin_mapList_asParameter (leaves : String → Tree .item → Reference → Bool)
    (patterns : Tree (.list .node)) :
    (patterns.mapList asParameter).freeWithin leaves = patterns.freeWithin leaves := by
  induction patterns using listInduction with
  | nil => rfl
  | cons first rest ih =>
      rw [mapList_cons, freeWithin, freeWithin, ih]
      rfl

theorem variableNames_asBlock (body : Tree .node) :
    body.asBlock.variableNames = body.variableNames := by
  cases body with
  | block span context statements => rfl
  | _ => exact List.append_nil _

theorem freeWithin_asBlock (leaves : String → Tree .item → Reference → Bool) (body : Tree .node) :
    body.asBlock.freeWithin leaves = body.freeWithin leaves := by
  cases body with
  | block span context statements => rfl
  | _ =>
      -- The block declares nothing, so its references are those of the returned expression.
      simp only [asBlock, freeWithin, lexicalNames, List.append_nil]
      exact List.filter_eq_self.mpr fun _ _ => rfl

@[simp] theorem freeNames_unwrap (expression : Tree .node) :
    expression.unwrap.freeNames = expression.freeNames :=
  view_unwrap (fun _ _ => rfl) expression

end Tree

namespace Component

/-! ## The free references of a named component -/

/-- Whether a component is written as an arrow. -/
def isArrow : Component → Bool
  | arrow .. => true
  | anonymous .. => false

/-- The decorators of a component. An arrow has none. -/
def decorators : Component → Tree (.list .node)
  | arrow .. => .nil
  | anonymous _ _ decorators _ _ _ => decorators

/-- The references of decorators, which stand outside the function that they decorate. -/
def decoratorNames (component : Component) : List Reference :=
  component.decorators.freeWithin fun _ _ _ => true

/-- The references in the parameters and the body of a component that it does not bind as a
parameter or a variable. -/
def ownNames (component : Component) : List Reference :=
  unboundNames (component.parameters.patternNames fun _ => false) component.body.variableNames
    (component.parameters.freeWithin fun _ _ _ => true)
    (component.body.freeWithin fun _ _ _ => true)

/-- A function with a name binds `arguments` and its name. -/
theorem freeNames_named (name : Ident) (component : Component) :
    (component.named name).freeNames =
      component.decoratorNames ++ component.ownNames.filter fun reference =>
        reference.name != "arguments" && some name.reference != some reference := by
  cases component <;> rfl

/-- The own references of an arrow are those of its patterns and of its body as it stands. -/
theorem ownNames_arrow (head : FunctionHead) (patterns : Tree (.list .node)) (body : Tree .node)
    (typeParameters returnType : Tree (.optional .node)) :
    (arrow head patterns body typeParameters returnType).ownNames =
      (Tree.arrow head patterns body typeParameters returnType).freeNames := by
  simp only [ownNames, parameters, Component.body, Tree.freeNames, Tree.freeWithin,
    Tree.variableNames, Tree.patternNames_mapList_asParameter,
    Tree.freeWithin_mapList_asParameter, Tree.variableNames_asBlock, Tree.freeWithin_asBlock]

/-- Without a name a function binds `arguments` only, and an arrow does not bind it. -/
theorem mem_freeNames_toExpression_iff (component : Component) (reference : Reference) :
    reference ∈ component.toExpression.freeNames ↔
      reference ∈ component.decoratorNames ∨
        reference ∈ component.ownNames ∧
          (component.isArrow = true ∨ reference.name ≠ "arguments") := by
  cases component with
  | arrow head patterns body typeParameters returnType =>
      simp [ownNames_arrow, toExpression, decoratorNames, decorators, isArrow, Tree.freeWithin]
  | anonymous head parameters decorators body typeParameters returnType =>
      simp [toExpression, Tree.freeNames, Tree.freeWithin, decoratorNames, Component.decorators,
        ownNames, Component.parameters, Component.body, isArrow]

/-- **The references that a name captures.** A reference stays free unless it is to the given
name and is not free in the decorators, or it is spelled `arguments` and the component is an
arrow. -/
theorem mem_freeNames_named_iff (name : Ident) (component : Component) (reference : Reference) :
    reference ∈ (component.named name).freeNames ↔
      reference ∈ component.toExpression.freeNames ∧
        (reference = name.reference → reference ∈ component.decoratorNames) ∧
        (component.isArrow = true → reference.name ≠ "arguments") := by
  rw [freeNames_named, mem_freeNames_toExpression_iff, List.mem_append, List.mem_filter]
  have undecorated : component.isArrow = true → component.decoratorNames = [] := by
    cases component with
    | arrow => exact fun _ => rfl
    | anonymous => exact nofun
  grind

/-- The set of free references is kept exactly if the given name, where it is free in the
component, is also free in its decorators, and, for an arrow, no free reference is spelled
`arguments`. -/
theorem keeps_references_iff (name : Ident) (component : Component) :
    (∀ reference, reference ∈ (component.named name).freeNames ↔
        reference ∈ component.toExpression.freeNames) ↔
      (name.reference ∈ component.toExpression.freeNames →
        name.reference ∈ component.decoratorNames) ∧
      (component.isArrow = true →
        ∀ reference ∈ component.toExpression.freeNames, reference.name ≠ "arguments") := by
  constructor
  · intro kept
    constructor
    · intro mentioned
      have free := (kept name.reference).mpr mentioned
      rw [mem_freeNames_named_iff] at free
      exact free.2.1 rfl
    · intro isArrow reference mentioned
      have free := (kept reference).mpr mentioned
      rw [mem_freeNames_named_iff] at free
      exact free.2.2 isArrow
  · rintro ⟨undeclared, unarguing⟩ reference
    rw [mem_freeNames_named_iff]
    constructor
    · exact fun free => free.1
    · intro mentioned
      refine ⟨mentioned, ?_, fun isArrow => unarguing isArrow reference mentioned⟩
      rintro rfl
      exact undeclared mentioned

/-- In `A = memo(@A function () { return A; })` the `A` of the body is captured, and the set of
free references is kept, since the decorator mentions `A` too. -/
example :
    let name : Ident := ⟨.nowhere, 2, "A", false⟩
    let component : Component :=
      .anonymous ⟨.nowhere, 0, false, false⟩ .nil (.ofList [.ident name])
        (.present (.block .nowhere 0
          (.ofList [.returning .nowhere (.present (.ident name))])))
        .absent .absent
    component.toExpression.freeNames = [name.reference, name.reference] ∧
      (component.named name).freeNames = [name.reference] := by
  decide

end Component

/-! ## What naming captures -/

/-- **What naming captures.** In the declarator that naming leaves, the function stands where
the component stood. Its free references are those of the component, except for the declared
variable, which the name of the function captures in the parameters and in the body and which
only the decorators can keep free, and for the `arguments` of an arrow. So the set is kept
exactly if the variable, where it is free in the component, is also free in its decorators,
and, for an arrow, no free reference is spelled `arguments`. -/
theorem captured_references {wrappers : Wrappers} {declarator : Tree .declarator}
    {wrapping : Wrapping} (found : Wrapping.of? wrappers declarator = some wrapping) :
    ∃ original renamed,
      wrapping.call.arguments = .cons (.argument none original) wrapping.rest ∧
      wrapping.named =
        .declarator wrapping.span wrapping.isDefinite (.binding wrapping.name wrapping.writtenType)
          (.present (.call wrapping.call.span wrapping.call.context wrapping.call.callee
            (.cons (.argument none renamed) wrapping.rest) wrapping.call.typeArguments)) ∧
      (∀ reference, reference ∈ renamed.freeNames ↔
        reference ∈ original.freeNames ∧
          (reference = wrapping.name.reference →
            reference ∈ wrapping.component.decoratorNames) ∧
          (wrapping.component.isArrow = true → reference.name ≠ "arguments")) ∧
      ((∀ reference, reference ∈ renamed.freeNames ↔ reference ∈ original.freeNames) ↔
        (wrapping.name.reference ∈ original.freeNames →
          wrapping.name.reference ∈ wrapping.component.decoratorNames) ∧
        (wrapping.component.isArrow = true →
          ∀ reference ∈ original.freeNames, reference.name ≠ "arguments")) := by
  obtain ⟨_, _, _, _, arguments, _, isComponent⟩ := Wrapping.of?_eq_some_iff.mp found
  obtain ⟨original, rfl, unwrapped⟩ := Component.of?_eq_some_iff.mp isComponent
  refine ⟨original, wrapping.component.named wrapping.name, arguments, rfl, ?_, ?_⟩
  · intro reference
    rw [← original.freeNames_unwrap, unwrapped]
    exact wrapping.component.mem_freeNames_named_iff wrapping.name reference
  · rw [← original.freeNames_unwrap, unwrapped]
    exact wrapping.component.keeps_references_iff wrapping.name

/-- A reference to the variable `A`, as a name. -/
def nameA : Ident := ⟨.nowhere, 2, "A", false⟩

/-- The declaration of `A` as `memo` of an arrow with these parameters and this body. -/
def memoOf (parameters : List (Tree .node)) (body : Tree .node) : Tree .declarator :=
  .declarator .nowhere false (.binding nameA .absent)
    (.present (.call .nowhere 0 (.ident ⟨.nowhere, 1, "memo", false⟩)
      (.cons (.argument none
        (.arrow ⟨.nowhere, 0, false, false⟩ (.ofList parameters) body .absent .absent)) .nil)
      .absent))

/-- The declaration `A = memo((size = A) => { var B = size; return C(A, B); })`. -/
def memoOfDefault : Tree .declarator :=
  let name (text : String) : Ident := ⟨.nowhere, 1, text, false⟩
  memoOf
    [.form "AssignmentPattern" .nowhere (.ofList
      [.field "left" (.part (.binding (name "size") .absent)),
        .field "right" (.part (.ident nameA))])]
    (.block .nowhere 0 (.ofList
      [.declaration .nowhere 0 .functionScoped false (.ofList
        [.declarator .nowhere false (.binding (name "B") .absent)
          (.present (.ident (name "size")))]),
        .returning .nowhere (.present (.call .nowhere 0 (.ident (name "C")) (.ofList
          [.argument none (.ident nameA), .argument none (.ident (name "B"))]) .absent))]))

/-- In `A = memo((size = A) => { var B = size; return C(A, B); })` the name captures `A`, and
`C` stays free. -/
theorem captured_references_in_default_value :
    ∃ wrapping renamed, Wrapping.of? (.ofList ["memo"]) memoOfDefault = some wrapping ∧
      wrapping.namedCall.arguments = .cons (.argument none renamed) .nil ∧
      ⟨"A", 2⟩ ∉ renamed.freeNames ∧ ⟨"C", 1⟩ ∈ renamed.freeNames := by
  obtain ⟨wrapping, found⟩ : ∃ wrapping,
      Wrapping.of? (.ofList ["memo"]) memoOfDefault = some wrapping := ⟨_, rfl⟩
  obtain ⟨original, renamed, before, after, captured, _⟩ := captured_references found
  cases found
  cases before
  cases after
  refine ⟨_, _, rfl, rfl, ?_, ?_⟩
  · rw [captured]
    exact fun free => absurd (free.2.1 rfl) (by decide)
  · exact (captured _).mpr ⟨by decide, fun same => absurd same (by decide), fun _ => by decide⟩

/-- Naming does not keep all references. In `A = memo(() => A)` the name captures `A`, and in
`A = memo(() => arguments)` the function captures `arguments`. -/
theorem not_keeps_references :
    (∃ wrapping,
      Wrapping.of? (.ofList ["memo"]) (memoOf [] (.ident nameA)) = some wrapping ∧
      ¬ ∀ reference, reference ∈ (wrapping.component.named wrapping.name).freeNames ↔
        reference ∈ wrapping.component.toExpression.freeNames) ∧
    (∃ wrapping,
      Wrapping.of? (.ofList ["memo"])
        (memoOf [] (.ident ⟨.nowhere, 1, "arguments", false⟩)) = some wrapping ∧
      ¬ ∀ reference, reference ∈ (wrapping.component.named wrapping.name).freeNames ↔
        reference ∈ wrapping.component.toExpression.freeNames) := by
  constructor
  · refine ⟨_, rfl, fun kept => ?_⟩
    have free := (kept ⟨"A", 2⟩).mpr (by decide)
    exact absurd free (by decide)
  · refine ⟨_, rfl, fun kept => ?_⟩
    have free := (kept ⟨"arguments", 1⟩).mpr (by decide)
    exact absurd free (by decide)

end ComponentNaming
