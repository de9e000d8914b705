import ComponentNaming.Proofs.Passes
import Mathlib.Order.MinMax

/-!
# Recasting a program

A program can be recast without changing what a run finds in it. A recasting gives other
names, other syntax contexts and other positions to everything in a program (`Relabelling`),
and it may drop the parentheses around initial values, around what is called and around
arguments (`Recasting`).

A run looks at the kinds of a few nodes under such parentheses, and at one name: that of
what is called. So it finds the same components in the recast program, as long as the
wrappers are recast with it, and naming a component may be delayed past a recasting
(`Wrapping.of?_recast`, `Wrapping.named_recast`). This carries over to whole programs: to
recast a program and then run over it is to run over it and then recast what the run leaves
(`recast_nameComponents`).
-/

set_option autoImplicit false

namespace ComponentNaming

/-! ## Relabellings -/

/-- Other names, syntax contexts and positions. Code that no one wrote has no position and
the empty context, and it stays so. Positions keep their order. -/
structure Relabelling where
  name : String → String
  context : Nat → Nat
  position : Nat → Nat
  context_zero : context 0 = 0
  position_zero : position 0 = 0
  monotone : Monotone position

namespace Relabelling

variable (labels : Relabelling)

/-- Relabels a span. -/
def span (span : Span) : Span := ⟨labels.position span.start, labels.position span.stop⟩

/-- Relabels a name. -/
def ident (ident : Ident) : Ident :=
  { span := labels.span ident.span
    context := labels.context ident.context
    name := labels.name ident.name
    isOptional := ident.isOptional }

/-- Relabels what arrows and functions have in common. -/
def head (head : FunctionHead) : FunctionHead :=
  { head with span := labels.span head.span, context := labels.context head.context }

/-- Relabels a piece without parts. Of these only spans and contexts have labels. -/
def datum : Datum → Datum
  | .span span => .span (labels.span span)
  | .context context => .context (labels.context context)
  | datum => datum

@[simp] theorem span_nowhere : labels.span .nowhere = .nowhere := by
  simp only [span, Span.nowhere, labels.position_zero]

/-- The stretch between two positions is relabelled by its ends, since their order is kept. -/
theorem span_between (first second : Nat) :
    labels.span (.between first second) =
      .between (labels.position first) (labels.position second) := by
  simp only [span, Span.between, Monotone.map_min labels.monotone,
    Monotone.map_max labels.monotone]

theorem mention_ident (ident : Ident) :
    (labels.ident ident).mention = labels.ident ident.mention := by
  simp only [Ident.mention, Relabelling.ident, span_nowhere]

/-- The relabelling that keeps all labels. -/
def identity : Relabelling :=
  { name := id, context := id, position := id, context_zero := rfl, position_zero := rfl,
    monotone := monotone_id }

end Relabelling

/-! ## Recastings -/

/-- A relabelling that may drop parentheses as well. -/
structure Recasting extends Relabelling where
  dropsParens : Bool

/-- What becomes of an expression that is an initial value, an argument, or called. -/
def Recasting.operand (recasting : Recasting) (expression : Tree .node) : Tree .node :=
  if recasting.dropsParens then expression.unwrap else expression

namespace Tree

/-- Recasts the value of an argument. -/
def recastArgument (recasting : Recasting) : Tree .argument → Tree .argument
  | argument spread value => argument spread (recasting.operand value)

/-- Recasts an initial value, if there is one. -/
def recastValue (recasting : Recasting) : Tree (.optional .node) → Tree (.optional .node)
  | absent => absent
  | present value => present (recasting.operand value)

/-- Recasts everything in a tree. -/
@[simp]
def recast (recasting : Recasting) : {role : Role} → Tree role → Tree role
  | _, ident name => ident (recasting.ident name)
  | _, binding name writtenType => binding (recasting.ident name) (recast recasting writtenType)
  | _, plainName span name => plainName (recasting.span span) (recasting.name name)
  | _, paren span inner => paren (recasting.span span) (recast recasting inner)
  | _, call span context callee arguments typeArguments =>
    call (recasting.span span) (recasting.context context)
      (recasting.operand (recast recasting callee))
      (mapList (recastArgument recasting) (recast recasting arguments))
      (recast recasting typeArguments)
  | _, member span object property =>
    member (recasting.span span) (recast recasting object) (recast recasting property)
  | _, arrow head parameters body typeParameters returnType =>
    arrow (recasting.head head) (recast recasting parameters) (recast recasting body)
      (recast recasting typeParameters) (recast recasting returnType)
  | _, function head name parameters decorators body typeParameters returnType =>
    function (recasting.head head) (name.map recasting.ident) (recast recasting parameters)
      (recast recasting decorators) (recast recasting body) (recast recasting typeParameters)
      (recast recasting returnType)
  | _, block span context statements =>
    block (recasting.span span) (recasting.context context) (recast recasting statements)
  | _, returning span result => returning (recasting.span span) (recast recasting result)
  | _, declaration span context kind isAmbient declarators =>
    declaration (recasting.span span) (recasting.context context) kind isAmbient
      (recast recasting declarators)
  | _, form kind span fields => form kind (recasting.span span) (recast recasting fields)
  | _, argument spread value => argument (spread.map recasting.span) (recast recasting value)
  | _, parameter span decorators pattern =>
    parameter (recasting.span span) (recast recasting decorators) (recast recasting pattern)
  | _, declarator span isDefinite target value =>
    declarator (recasting.span span) isDefinite (recast recasting target)
      (recastValue recasting (recast recasting value))
  | _, field key value => field key (recast recasting value)
  | _, datum value => datum (recasting.datum value)
  | _, record fields => record (recast recasting fields)
  | _, part piece => part (recast recasting piece)
  | _, absent => absent
  | _, present piece => present (recast recasting piece)
  | _, nil => nil
  | _, cons first rest => cons (recast recasting first) (recast recasting rest)

end Tree

/-! ## Operands -/

namespace Recasting

variable (recasting : Recasting)

@[simp] theorem unwrap_operand (expression : Tree .node) :
    (recasting.operand expression).unwrap = expression.unwrap := by
  unfold operand
  split
  · exact Tree.unwrap_unwrap expression
  · rfl

/-- Without parentheses around it there is nothing to drop. -/
theorem operand_of_unwrap {expression : Tree .node} (bare : expression.unwrap = expression) :
    recasting.operand expression = expression := by
  unfold operand
  split
  · exact bare
  · rfl

theorem mapDeclared_operand (f : Tree .declarator → Tree .declarator) (expression : Tree .node) :
    (recasting.operand expression).mapDeclared f =
      recasting.operand (expression.mapDeclared f) := by
  unfold operand
  split
  · exact (Tree.unwrap_mapDeclared f expression).symm
  · rfl

@[simp] theorem declared_operand (expression : Tree .node) :
    (recasting.operand expression).declared = expression.declared := by
  unfold operand
  split
  · exact Tree.declared_unwrap expression
  · rfl

end Recasting

namespace Tree

variable {role other : Role} (recasting : Recasting)

theorem mapDeclared_recastArgument (f : Tree .declarator → Tree .declarator)
    (argument : Tree .argument) :
    recastArgument recasting (argument.mapDeclared f) =
      (recastArgument recasting argument).mapDeclared f := by
  cases argument with
  | argument spread value =>
      simp only [mapDeclared, recastArgument, Recasting.mapDeclared_operand]

theorem mapDeclared_recastValue (f : Tree .declarator → Tree .declarator)
    (value : Tree (.optional .node)) :
    recastValue recasting (value.mapDeclared f) = (recastValue recasting value).mapDeclared f := by
  cases value with
  | absent => rfl
  | present value => simp only [mapDeclared, recastValue, Recasting.mapDeclared_operand]

@[simp] theorem declared_recastArgument (argument : Tree .argument) :
    (recastArgument recasting argument).declared = argument.declared := by
  cases argument with
  | argument spread value => exact recasting.declared_operand value

@[simp] theorem declared_recastValue (value : Tree (.optional .node)) :
    (recastValue recasting value).declared = value.declared := by
  cases value with
  | absent => rfl
  | present value => exact recasting.declared_operand value

/-! ## Nodes -/

@[simp] theorem toList_recast (pieces : Tree (.list role)) :
    (pieces.recast recasting).toList = pieces.toList.map (recast recasting) := by
  induction pieces using listInduction with
  | nil => rfl
  | cons first rest ih => simp only [recast, toList_cons, List.map_cons, ih]

/-- A function that may be delayed past a recasting on each member of a list may be delayed on
the whole list. -/
theorem recast_mapList {g : Tree role → Tree other}
    (natural : ∀ piece, (g piece).recast recasting = g (piece.recast recasting))
    (pieces : Tree (.list role)) :
    (mapList g pieces).recast recasting = mapList g (pieces.recast recasting) := by
  apply toList_injective
  simp only [toList_recast, toList_mapList, List.map_map]
  exact List.map_congr_left fun piece _ => natural piece

@[simp] theorem span_recast (node : Tree .node) :
    (node.recast recasting).span = recasting.span node.span := by
  cases node <;> rfl

@[simp] theorem extent_recast (pattern : Tree .node) :
    (pattern.recast recasting).extent = recasting.span pattern.extent := by
  cases pattern with
  | binding name writtenType =>
      cases writtenType with
      | absent => rfl
      | present writtenType =>
          simp only [recast, extent_binding_present, span_recast, Relabelling.span_between]
          rfl
  | _ => rfl

@[simp] theorem unwrap_recast (expression : Tree .node) :
    (expression.recast recasting).unwrap = expression.unwrap.recast recasting := by
  induction expression using parenInduction with
  | paren span inner ih =>
      simp only [recast, unwrap_paren]
      exact ih
  | bare expression bare =>
      rw [unwrap_of_ne_paren bare]
      apply unwrap_of_ne_paren
      cases expression with
      | paren span inner => exact absurd rfl (bare span inner)
      | _ =>
          intro span inner same
          cases same

theorem asParameter_recast (pattern : Tree .node) :
    pattern.asParameter.recast recasting = (pattern.recast recasting).asParameter := by
  simp only [asParameter, recast, extent_recast]

theorem asBlock_recast (body : Tree .node) :
    body.asBlock.recast recasting = (body.recast recasting).asBlock := by
  cases body <;>
    simp only [asBlock, recast, Relabelling.span_nowhere, Relabelling.context_zero]

end Tree

/-! ## Wrapped components -/

section

variable (recasting : Recasting)

/-- Recasts a component. -/
def Component.recast : Component → Component
  | arrow head parameters body typeParameters returnType =>
    arrow (recasting.head head) (parameters.recast recasting) (body.recast recasting)
      (typeParameters.recast recasting) (returnType.recast recasting)
  | anonymous head parameters decorators body typeParameters returnType =>
    anonymous (recasting.head head) (parameters.recast recasting) (decorators.recast recasting)
      (body.recast recasting) (typeParameters.recast recasting) (returnType.recast recasting)

/-- Recasts a call. -/
def Call.recast (call : Call) : Call :=
  { span := recasting.span call.span
    context := recasting.context call.context
    callee := recasting.operand (call.callee.recast recasting)
    arguments := (call.arguments.recast recasting).mapList (Tree.recastArgument recasting)
    typeArguments := call.typeArguments.recast recasting }

/-- Recasts a declared variable that holds a wrapped component. -/
def Wrapping.recast (wrapping : Wrapping) : Wrapping :=
  { span := recasting.span wrapping.span
    isDefinite := wrapping.isDefinite
    name := recasting.ident wrapping.name
    writtenType := wrapping.writtenType.recast recasting
    call := wrapping.call.recast recasting
    component := wrapping.component.recast recasting
    rest := (wrapping.rest.recast recasting).mapList (Tree.recastArgument recasting) }

namespace Component

theorem parameters_recast (component : Component) :
    (component.recast recasting).parameters = component.parameters.recast recasting := by
  cases component with
  | arrow head patterns body typeParameters returnType =>
      exact (Tree.recast_mapList recasting (Tree.asParameter_recast recasting) patterns).symm
  | anonymous head parameters decorators body typeParameters returnType => rfl

theorem body_recast (component : Component) :
    (component.recast recasting).body = component.body.recast recasting := by
  cases component with
  | arrow head patterns body typeParameters returnType =>
      exact congrArg Tree.present (Tree.asBlock_recast recasting body).symm
  | anonymous head parameters decorators body typeParameters returnType => rfl

theorem named_recast (name : Ident) (component : Component) :
    (component.recast recasting).named (recasting.ident name) =
      (component.named name).recast recasting := by
  have parameters := component.parameters_recast recasting
  have body := component.body_recast recasting
  cases component with
  | arrow head patterns expression typeParameters returnType =>
      simp only [recast] at parameters body
      simp only [recast, named, Tree.recast, parameters, body, Relabelling.mention_ident,
        Option.map_some]
  | anonymous head patterns decorators block typeParameters returnType =>
      simp only [recast, named, Tree.recast, Component.parameters, Component.body,
        Relabelling.mention_ident, Option.map_some]

theorem ofExpression?_recast (expression : Tree .node) :
    ofExpression? (expression.recast recasting) =
      (ofExpression? expression).map (Component.recast recasting) := by
  simp only [ofExpression?, Tree.unwrap_recast]
  cases expression.unwrap with
  | function head name parameters decorators body typeParameters returnType =>
      cases name <;> rfl
  | _ => rfl

theorem of?_recast (argument : Tree .argument) :
    of? ((argument.recast recasting).recastArgument recasting) =
      (of? argument).map (Component.recast recasting) := by
  cases argument with
  | argument spread value =>
      cases spread with
      | none =>
          have same : ofExpression? (recasting.operand (value.recast recasting)) =
              ofExpression? (value.recast recasting) := by
            simp only [ofExpression?, Recasting.unwrap_operand]
          exact same.trans (ofExpression?_recast recasting value)
      | some span => rfl

end Component

end

/-! ## Names of what is called -/

namespace Tree

/-- The name that decides whether what is called is a wrapper, if there is one: it is a name,
or the plain property of any object. -/
def calleeName? (callee : Tree .node) : Option String :=
  match callee.unwrap with
  | ident name => some name.name
  | member _ _ (plainName _ name) => some name
  | _ => none

/-- The names of what is called, by all calls in a tree. -/
def calleeNames : {role : Role} → Tree role → List String
  | _, ident _ => []
  | _, binding _ writtenType => calleeNames writtenType
  | _, plainName _ _ => []
  | _, paren _ inner => calleeNames inner
  | _, call _ _ callee arguments typeArguments =>
    (calleeName? callee).toList ++ calleeNames callee ++ calleeNames arguments ++
      calleeNames typeArguments
  | _, member _ object property => calleeNames object ++ calleeNames property
  | _, arrow _ parameters body typeParameters returnType =>
    calleeNames parameters ++ calleeNames body ++ calleeNames typeParameters ++
      calleeNames returnType
  | _, function _ _ parameters decorators body typeParameters returnType =>
    calleeNames parameters ++ calleeNames decorators ++ calleeNames body ++
      calleeNames typeParameters ++ calleeNames returnType
  | _, block _ _ statements => calleeNames statements
  | _, returning _ result => calleeNames result
  | _, declaration _ _ _ _ declarators => calleeNames declarators
  | _, form _ _ fields => calleeNames fields
  | _, argument _ value => calleeNames value
  | _, parameter _ decorators pattern => calleeNames decorators ++ calleeNames pattern
  | _, declarator _ _ target value => calleeNames target ++ calleeNames value
  | _, field _ value => calleeNames value
  | _, datum _ => []
  | _, record fields => calleeNames fields
  | _, part piece => calleeNames piece
  | _, absent => []
  | _, present piece => calleeNames piece
  | _, nil => []
  | _, cons first rest => calleeNames first ++ calleeNames rest

/-- The name of what is called by the call that is the initial value of a variable. -/
def wrapperName? : Tree .declarator → Option String
  | declarator _ _ _ (present value) =>
    match value.unwrap with
    | call _ _ callee _ _ => calleeName? callee
    | _ => none
  | declarator _ _ _ absent => none

variable (f : Tree .declarator → Tree .declarator)

@[simp] theorem calleeName?_mapDeclared (callee : Tree .node) :
    (callee.mapDeclared f).calleeName? = callee.calleeName? := by
  simp only [calleeName?, unwrap_mapDeclared]
  cases callee.unwrap with
  | member span object property => cases property <;> rfl
  | _ => rfl

@[simp] theorem wrapperName?_mapDeclared (declarator : Tree .declarator) :
    (declarator.mapDeclared f).wrapperName? = declarator.wrapperName? := by
  cases declarator with
  | declarator span isDefinite target value =>
      cases value with
      | absent => rfl
      | present value =>
          simp only [mapDeclared, wrapperName?, unwrap_mapDeclared]
          cases value.unwrap with
          | call callSpan context callee arguments typeArguments =>
              exact calleeName?_mapDeclared f callee
          | _ => rfl

@[simp] theorem calleeNames_unwrap (expression : Tree .node) :
    expression.unwrap.calleeNames = expression.calleeNames :=
  view_unwrap (fun _ _ => rfl) expression

theorem mem_calleeNames_of_wrapperName? {declarator : Tree .declarator} {name : String}
    (called : declarator.wrapperName? = some name) : name ∈ declarator.calleeNames := by
  cases declarator with
  | declarator span isDefinite target value =>
      cases value with
      | absent => cases called
      | present value =>
          simp only [wrapperName?] at called
          split at called
          · rename_i unwrapped
            rw [calleeNames, calleeNames, ← calleeNames_unwrap value, unwrapped, calleeNames,
              called]
            simp only [Option.toList_some, List.mem_append, List.mem_singleton, true_or, or_true]
          · cases called

theorem calleeNames_list {role : Role} (pieces : Tree (.list role)) :
    pieces.calleeNames = pieces.toList.flatMap calleeNames := by
  induction pieces using listInduction with
  | nil => rfl
  | cons first rest ih => simp only [calleeNames, toList_cons, List.flatMap_cons, ih]

/-- What a declared variable of a tree calls is called in the tree. -/
theorem mem_calleeNames_of_declared {role : Role} {tree : Tree role} {declarator : Tree .declarator}
    {name : String} (listed : declarator ∈ tree.declared)
    (called : declarator.wrapperName? = some name) : name ∈ tree.calleeNames := by
  induction tree with
  | declaration span context kind isAmbient declarators ih =>
      rcases List.mem_append.mp listed with inside | here
      · exact ih inside
      · rw [calleeNames, calleeNames_list]
        exact List.mem_flatMap.mpr ⟨declarator, here, mem_calleeNames_of_wrapperName? called⟩
  | _ =>
      simp only [declared, calleeNames, List.mem_append] at *
      grind

end Tree

/-! ## Finding and naming a component -/

section

variable (recasting : Recasting)

theorem Wrappers.recognizes_eq (wrappers : Wrappers) (callee : Tree .node) :
    wrappers.recognizes callee = callee.calleeName?.any wrappers.contains := by
  simp only [recognizes, Tree.calleeName?]
  cases callee.unwrap with
  | member span object property => cases property <;> rfl
  | _ => rfl

theorem Tree.calleeName?_recast (callee : Tree .node) :
    (recasting.operand (callee.recast recasting)).calleeName? =
      callee.calleeName?.map recasting.name := by
  simp only [calleeName?, Recasting.unwrap_operand, Tree.unwrap_recast]
  cases callee.unwrap with
  | member span object property => cases property <;> rfl
  | _ => rfl

/-- Wrappers that are recast with what is called recognize the same. -/
theorem Wrappers.recognizes_recast {wrappers recast : Wrappers} {callee : Tree .node}
    (agree : ∀ name, callee.calleeName? = some name →
      (name ∈ wrappers ↔ recasting.name name ∈ recast)) :
    recast.recognizes (recasting.operand (callee.recast recasting)) =
      wrappers.recognizes callee := by
  rw [recognizes_eq, recognizes_eq, Tree.calleeName?_recast]
  cases called : callee.calleeName? with
  | none => rfl
  | some name =>
      rw [Option.map_some, Option.any_some, Option.any_some, Bool.eq_iff_iff, contains_iff,
        contains_iff]
      exact (agree name called).symm

end

namespace Wrapping

variable (recasting : Recasting)

/-- **Finding a component commutes with recasting.** -/
theorem of?_recast {wrappers recast : Wrappers} {declarator : Tree .declarator}
    (agree : ∀ name, declarator.wrapperName? = some name →
      (name ∈ wrappers ↔ recasting.name name ∈ recast)) :
    of? recast (declarator.recast recasting) =
      (of? wrappers declarator).map (Wrapping.recast recasting) := by
  cases declarator with
  | declarator span isDefinite target value =>
  cases target with
  | binding name writtenType =>
      cases value with
      | absent => rfl
      | present value =>
          simp only [Tree.wrapperName?] at agree
          simp only [Tree.recast, Tree.recastValue, of?, Recasting.unwrap_operand,
            Tree.unwrap_recast]
          cases unwrapped : value.unwrap with
          | call callSpan context callee arguments typeArguments =>
              simp only [unwrapped] at agree
              cases arguments with
              | nil => rfl
              | cons first rest =>
                  simp only [Tree.recast, Tree.mapList_cons, Component.of?_recast,
                    Wrappers.recognizes_recast recasting agree]
                  split
                  · rw [Option.map_map, Option.map_map]
                    rfl
                  · rfl
          | _ => rfl
  | _ => rfl

/-- **Naming a component commutes with recasting.** -/
theorem named_recast (wrapping : Wrapping) :
    (wrapping.recast recasting).named = wrapping.named.recast recasting := by
  have component : ((wrapping.component.named wrapping.name).recast recasting).unwrap =
      (wrapping.component.named wrapping.name).recast recasting := by
    rw [Tree.unwrap_recast, Component.unwrap_named]
  have call (call : Call) : (call.toExpression.recast recasting).unwrap =
      call.toExpression.recast recasting := rfl
  simp only [named, Tree.recast, Tree.recastValue, recasting.operand_of_unwrap (call _)]
  simp only [namedCall, Call.toExpression, Call.recast, recast, Tree.recast, Tree.mapList_cons,
    Tree.recastArgument, Option.map_none, Component.named_recast,
    recasting.operand_of_unwrap component]

end Wrapping

/-! ## Whole programs -/

namespace Tree

variable {role : Role} (recasting : Recasting)

theorem declared_recast (tree : Tree role) :
    (tree.recast recasting).declared = tree.declared.map (recast recasting) := by
  have argumentsKept (arguments : Tree (.list .argument)) :
      (mapList (recastArgument recasting) arguments).declared = arguments.declared :=
    declared_mapList (declared_recastArgument recasting) arguments
  induction tree with
  | _ =>
      simp_all only [recast, declared, List.map_append, List.map_nil, toList_recast,
        Recasting.declared_operand, declared_recastValue]

/-- **A pass commutes with recasting** if each of its replacements does, once everything inside
the declarator has been passed over. -/
theorem recast_mapDeclared {f g : Tree .declarator → Tree .declarator} {tree : Tree role}
    (natural : ∀ declarator ∈ tree.declared,
      (f (declarator.mapDeclared f)).recast recasting =
        g ((declarator.mapDeclared f).recast recasting)) :
    (tree.mapDeclared f).recast recasting = (tree.recast recasting).mapDeclared g := by
  induction tree with
  | call span context callee arguments typeArguments ihCallee ihArguments ihTypes =>
      simp only [declared, List.mem_append, or_imp, forall_and] at natural
      simp only [mapDeclared, recast, Recasting.mapDeclared_operand,
        ihCallee natural.1.1, ihArguments natural.1.2, ihTypes natural.2,
        mapDeclared_mapList g fun argument =>
          mapDeclared_recastArgument recasting g argument]
  | declarator span isDefinite target value ihTarget ihValue =>
      simp only [declared, List.mem_append, or_imp, forall_and] at natural
      simp only [mapDeclared, recast, ihTarget natural.1, ihValue natural.2,
        mapDeclared_recastValue]
  | declaration span context kind isAmbient declarators ih =>
      simp only [declared, List.mem_append, or_imp, forall_and] at natural
      simp only [mapDeclared, recast]
      congr 1
      apply toList_injective
      rw [← ih natural.1]
      simp only [toList_recast, toList_mapList, toList_mapDeclared, List.map_map]
      exact List.map_congr_left natural.2
  | _ => simp_all only [mapDeclared, recast, declared, List.mem_append, or_imp, forall_and,
      implies_true]

/-- Recasting without any change is none. -/
theorem recast_identity (tree : Tree role) : tree.recast ⟨.identity, false⟩ = tree := by
  have span (span : Span) : Relabelling.identity.span span = span := rfl
  have head (head : FunctionHead) : Relabelling.identity.head head = head := rfl
  have ident : Relabelling.identity.ident = id := rfl
  have context (context : Nat) : Relabelling.identity.context context = context := rfl
  have operand (expression : Tree .node) :
      Recasting.operand ⟨.identity, false⟩ expression = expression := rfl
  have arguments (arguments : Tree (.list .argument)) :
      mapList (recastArgument ⟨.identity, false⟩) arguments = arguments := by
    refine mapList_eq_self fun argument _ => ?_
    cases argument
    rfl
  have value (value : Tree (.optional .node)) :
      recastValue ⟨.identity, false⟩ value = value := by
    cases value <;> rfl
  induction tree with
  | plainName => rfl
  | datum value => cases value <;> rfl
  | argument spread value ih =>
      cases spread <;> simp only [recast, Option.map_none, Option.map_some, span, ih]
  | _ => simp_all only [recast, id_eq, Option.map_id]

end Tree

/-- Naming a declared variable commutes with recasting it. -/
theorem nameDeclared_recast (recasting : Recasting) {wrappers recast : Wrappers}
    {declarator : Tree .declarator}
    (agree : ∀ name, declarator.wrapperName? = some name →
      (name ∈ wrappers ↔ recasting.name name ∈ recast)) :
    nameDeclared recast (declarator.recast recasting) =
      (nameDeclared wrappers declarator).recast recasting := by
  have passed := Wrapping.of?_recast recasting agree
  cases found : Wrapping.of? wrappers declarator with
  | none =>
      rw [found, Option.map_none] at passed
      rw [nameDeclared_of_none found, nameDeclared_of_none passed]
  | some wrapping =>
      rw [found, Option.map_some] at passed
      rw [nameDeclared_of_some found, nameDeclared_of_some passed, Wrapping.named_recast]

section

variable (recasting : Recasting) {wrappers recast : Wrappers} {program : Tree .node}
  (agree : ∀ name ∈ program.calleeNames, name ∈ wrappers ↔ recasting.name name ∈ recast)
include agree

/-- The components that are found in a recast program. -/
theorem foundNames_recast :
    (program.recast recasting).foundNames recast =
      (program.foundNames wrappers).map recasting.name := by
  simp only [Tree.foundNames, Tree.wrappings, Tree.declared_recast, List.filterMap_map,
    List.map_filterMap]
  apply List.filterMap_congr
  intro declarator listed
  have called (name : String) (called : declarator.wrapperName? = some name) :=
    agree name (Tree.mem_calleeNames_of_declared listed called)
  simp only [Function.comp_apply, Wrapping.of?_recast recasting called, Option.map_map]
  rfl

/-- **A run commutes with recasting**, and it names the same components. -/
theorem recast_nameComponents :
    (nameComponents recast (program.recast recasting)).value =
      (nameComponents wrappers program).value.recast recasting ∧
    namesIn (nameComponents recast (program.recast recasting)).log =
      (namesIn (nameComponents wrappers program).log).map recasting.name := by
  rw [value_nameComponents, value_nameComponents, namesIn_log_nameComponents,
    namesIn_log_nameComponents]
  refine ⟨(Tree.recast_mapDeclared recasting ?_).symm, foundNames_recast recasting agree⟩
  intro declarator listed
  refine (nameDeclared_recast recasting ?_).symm
  intro name called
  rw [Tree.wrapperName?_mapDeclared] at called
  exact agree name (Tree.mem_calleeNames_of_declared listed called)

end

end ComponentNaming
