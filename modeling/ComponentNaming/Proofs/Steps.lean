import ComponentNaming.Proofs.Passes

/-!
# Naming one component at a time

A run names all wrapped components of a program in one pass, inner ones before outer ones.
Here they are named one at a time, in any order: a step names one wrapped component that a
declared variable holds, anywhere in a tree (`NamingStep`).

A step moves the parts of a component, but it keeps what a pass makes of the tree
(`NamingStep.mapDeclared_eq`), and it neither makes nor spoils another wrapped component
(`NamingStep.length_wrappings`). A tree that holds a wrapped component has a step
(`exists_namingSteps`). So the steps from a program are as many as it holds wrapped
components, whatever their order, and they end where the run ends.
-/

set_option autoImplicit false

namespace ComponentNaming

open ComponentNaming.Tree

/-- One wrapped component is named, in a declarator of some variable declaration in the tree. -/
inductive NamingStep (wrappers : Wrappers) : {role : Role} → Tree role → Tree role → Prop where
  /-- The step itself: one declarator of a declaration is replaced. -/
  | component {span context kind isAmbient before declarator after wrapping} :
      Wrapping.of? wrappers declarator = some wrapping →
      NamingStep wrappers
        (.declaration span context kind isAmbient (ofList (before ++ declarator :: after)))
        (.declaration span context kind isAmbient (ofList (before ++ wrapping.named :: after)))
  | bindingType {name writtenType next} : NamingStep wrappers writtenType next →
      NamingStep wrappers (.binding name writtenType) (.binding name next)
  | paren {span inner next} : NamingStep wrappers inner next →
      NamingStep wrappers (.paren span inner) (.paren span next)
  | callee {span context callee arguments typeArguments next} : NamingStep wrappers callee next →
      NamingStep wrappers (.call span context callee arguments typeArguments)
        (.call span context next arguments typeArguments)
  | callArguments {span context callee arguments typeArguments next} :
      NamingStep wrappers arguments next →
      NamingStep wrappers (.call span context callee arguments typeArguments)
        (.call span context callee next typeArguments)
  | callTypes {span context callee arguments typeArguments next} :
      NamingStep wrappers typeArguments next →
      NamingStep wrappers (.call span context callee arguments typeArguments)
        (.call span context callee arguments next)
  | memberObject {span object property next} : NamingStep wrappers object next →
      NamingStep wrappers (.member span object property) (.member span next property)
  | memberProperty {span object property next} : NamingStep wrappers property next →
      NamingStep wrappers (.member span object property) (.member span object next)
  | arrowParameters {head parameters body typeParameters returnType next} :
      NamingStep wrappers parameters next →
      NamingStep wrappers (.arrow head parameters body typeParameters returnType)
        (.arrow head next body typeParameters returnType)
  | arrowBody {head parameters body typeParameters returnType next} :
      NamingStep wrappers body next →
      NamingStep wrappers (.arrow head parameters body typeParameters returnType)
        (.arrow head parameters next typeParameters returnType)
  | arrowTypeParameters {head parameters body typeParameters returnType next} :
      NamingStep wrappers typeParameters next →
      NamingStep wrappers (.arrow head parameters body typeParameters returnType)
        (.arrow head parameters body next returnType)
  | arrowReturnType {head parameters body typeParameters returnType next} :
      NamingStep wrappers returnType next →
      NamingStep wrappers (.arrow head parameters body typeParameters returnType)
        (.arrow head parameters body typeParameters next)
  | functionParameters {head name parameters decorators body typeParameters returnType next} :
      NamingStep wrappers parameters next →
      NamingStep wrappers
        (.function head name parameters decorators body typeParameters returnType)
        (.function head name next decorators body typeParameters returnType)
  | functionDecorators {head name parameters decorators body typeParameters returnType next} :
      NamingStep wrappers decorators next →
      NamingStep wrappers
        (.function head name parameters decorators body typeParameters returnType)
        (.function head name parameters next body typeParameters returnType)
  | functionBody {head name parameters decorators body typeParameters returnType next} :
      NamingStep wrappers body next →
      NamingStep wrappers
        (.function head name parameters decorators body typeParameters returnType)
        (.function head name parameters decorators next typeParameters returnType)
  | functionTypeParameters {head name parameters decorators body typeParameters returnType next} :
      NamingStep wrappers typeParameters next →
      NamingStep wrappers
        (.function head name parameters decorators body typeParameters returnType)
        (.function head name parameters decorators body next returnType)
  | functionReturnType {head name parameters decorators body typeParameters returnType next} :
      NamingStep wrappers returnType next →
      NamingStep wrappers
        (.function head name parameters decorators body typeParameters returnType)
        (.function head name parameters decorators body typeParameters next)
  | block {span context statements next} : NamingStep wrappers statements next →
      NamingStep wrappers (.block span context statements) (.block span context next)
  | returning {span result next} : NamingStep wrappers result next →
      NamingStep wrappers (.returning span result) (.returning span next)
  | declarators {span context kind isAmbient declarators next} :
      NamingStep wrappers declarators next →
      NamingStep wrappers (.declaration span context kind isAmbient declarators)
        (.declaration span context kind isAmbient next)
  | form {kind span fields next} : NamingStep wrappers fields next →
      NamingStep wrappers (.form kind span fields) (.form kind span next)
  | argument {spread value next} : NamingStep wrappers value next →
      NamingStep wrappers (.argument spread value) (.argument spread next)
  | parameterDecorators {span decorators pattern next} : NamingStep wrappers decorators next →
      NamingStep wrappers (.parameter span decorators pattern) (.parameter span next pattern)
  | parameterPattern {span decorators pattern next} : NamingStep wrappers pattern next →
      NamingStep wrappers (.parameter span decorators pattern) (.parameter span decorators next)
  | declaratorTarget {span isDefinite target value next} : NamingStep wrappers target next →
      NamingStep wrappers (.declarator span isDefinite target value)
        (.declarator span isDefinite next value)
  | declaratorValue {span isDefinite target value next} : NamingStep wrappers value next →
      NamingStep wrappers (.declarator span isDefinite target value)
        (.declarator span isDefinite target next)
  | field {key value next} : NamingStep wrappers value next →
      NamingStep wrappers (.field key value) (.field key next)
  | record {fields next} : NamingStep wrappers fields next →
      NamingStep wrappers (.record fields) (.record next)
  | part {role : Role} {piece next : Tree role} : NamingStep wrappers piece next →
      NamingStep wrappers (.part piece) (.part next)
  | present {role : Role} {piece next : Tree role} : NamingStep wrappers piece next →
      NamingStep wrappers (.present piece) (.present next)
  | first {role : Role} {first next : Tree role} {rest} : NamingStep wrappers first next →
      NamingStep wrappers (.cons first rest) (.cons next rest)
  | rest {role : Role} {first : Tree role} {rest next} : NamingStep wrappers rest next →
      NamingStep wrappers (.cons first rest) (.cons first next)

/-- A sequence of steps of the given length. -/
inductive NamingSteps (wrappers : Wrappers) {role : Role} :
    Nat → Tree role → Tree role → Prop where
  | done (tree : Tree role) : NamingSteps wrappers 0 tree tree
  | step {length : Nat} {tree next last : Tree role} : NamingStep wrappers tree next →
      NamingSteps wrappers length next last → NamingSteps wrappers (length + 1) tree last

variable {wrappers : Wrappers} {role : Role} {tree next : Tree role}

/-! ## One step -/

/-- **A step keeps what a run makes of the tree.** -/
theorem NamingStep.mapDeclared_eq (step : NamingStep wrappers tree next) :
    tree.mapDeclared (nameDeclared wrappers) = next.mapDeclared (nameDeclared wrappers) := by
  induction step with
  | @component span context kind isAmbient before declarator after wrapping found =>
      have same : nameDeclared wrappers (declarator.mapDeclared (nameDeclared wrappers)) =
          nameDeclared wrappers (wrapping.named.mapDeclared (nameDeclared wrappers)) := by
        rw [nameDeclared_mapDeclared, nameDeclared_mapDeclared, nameDeclared_of_some found,
          nameDeclared_of_none (Wrapping.of?_named wrappers wrapping)]
      simp only [mapDeclared, mapDeclared_ofList, List.map_append, List.map_cons]
      congr 1
      apply toList_injective
      simp only [toList_mapList, toList_ofList, List.map_append, List.map_cons, same]
  | _ => simp_all only [mapDeclared]

/-- How many declarators of a list hold a wrapped component does not depend on what a pass
does inside them. -/
theorem length_filterMap_of? (f : Tree .declarator → Tree .declarator)
    (declarators : Tree (.list .declarator)) :
    ((declarators.mapDeclared f).toList.filterMap (Wrapping.of? wrappers)).length =
      (declarators.toList.filterMap (Wrapping.of? wrappers)).length := by
  rw [filterMap_of?_mapDeclared, List.length_map]

/-- **A step names one component, and makes and spoils no other.** -/
theorem NamingStep.length_wrappings (step : NamingStep wrappers tree next) :
    (tree.wrappings wrappers).length = (next.wrappings wrappers).length + 1 := by
  induction step with
  | @component span context kind isAmbient before declarator after wrapping found =>
      simp only [wrappings, declared, declared_list, toList_ofList, List.flatMap_append,
        List.flatMap_cons, Wrapping.declared_named found, List.filterMap_append,
        List.filterMap_cons, found, Wrapping.of?_named, List.length_append, List.length_cons]
      omega
  | @declarators span context kind isAmbient declarators next step ih =>
      have kept : (declarators.toList.filterMap (Wrapping.of? wrappers)).length =
          (next.toList.filterMap (Wrapping.of? wrappers)).length := by
        rw [← length_filterMap_of? (nameDeclared wrappers) declarators, step.mapDeclared_eq,
          length_filterMap_of?]
      simp only [wrappings, declared, List.filterMap_append, List.length_append] at ih ⊢
      omega
  | _ =>
      simp only [wrappings, declared, List.filterMap_append, List.length_append] at *
      omega

/-- A declaration without a step has no wrapped component among its declarators. -/
theorem filterMap_of?_eq_nil {span : Span} {context : Nat} {kind : DeclarationKind}
    {isAmbient : Bool} {declarators : Tree (.list .declarator)}
    (normal : ∀ next,
      ¬ NamingStep wrappers (.declaration span context kind isAmbient declarators) next) :
    declarators.toList.filterMap (Wrapping.of? wrappers) = [] := by
  rw [List.filterMap_eq_nil_iff]
  intro declarator listed
  obtain ⟨before, after, split⟩ := List.append_of_mem listed
  rw [Option.eq_none_iff_forall_ne_some]
  intro wrapping found
  rw [← ofList_toList declarators, split] at normal
  exact normal _ (.component found)

/-- **A tree without a step holds no wrapped component.** -/
theorem wrappings_eq_nil_of_normal (normal : ∀ next, ¬ NamingStep wrappers tree next) :
    tree.wrappings wrappers = [] := by
  induction tree with
  | ident | plainName | datum | absent | nil => rfl
  | binding name writtenType ih => exact ih fun _ step => normal _ (.bindingType step)
  | paren span inner ih => exact ih fun _ step => normal _ (.paren step)
  | call span context callee arguments typeArguments ihCallee ihArguments ihTypes =>
      simp only [wrappings, declared, List.filterMap_append, List.append_eq_nil_iff]
      exact ⟨⟨ihCallee fun _ step => normal _ (.callee step),
        ihArguments fun _ step => normal _ (.callArguments step)⟩,
        ihTypes fun _ step => normal _ (.callTypes step)⟩
  | member span object property ihObject ihProperty =>
      simp only [wrappings, declared, List.filterMap_append, List.append_eq_nil_iff]
      exact ⟨ihObject fun _ step => normal _ (.memberObject step),
        ihProperty fun _ step => normal _ (.memberProperty step)⟩
  | arrow head parameters body typeParameters returnType ihParameters ihBody ihTypes ihReturn =>
      simp only [wrappings, declared, List.filterMap_append, List.append_eq_nil_iff]
      exact ⟨⟨⟨ihParameters fun _ step => normal _ (.arrowParameters step),
        ihBody fun _ step => normal _ (.arrowBody step)⟩,
        ihTypes fun _ step => normal _ (.arrowTypeParameters step)⟩,
        ihReturn fun _ step => normal _ (.arrowReturnType step)⟩
  | function head name parameters decorators body typeParameters returnType ihParameters
      ihDecorators ihBody ihTypes ihReturn =>
      simp only [wrappings, declared, List.filterMap_append, List.append_eq_nil_iff]
      exact ⟨⟨⟨⟨ihParameters fun _ step => normal _ (.functionParameters step),
        ihDecorators fun _ step => normal _ (.functionDecorators step)⟩,
        ihBody fun _ step => normal _ (.functionBody step)⟩,
        ihTypes fun _ step => normal _ (.functionTypeParameters step)⟩,
        ihReturn fun _ step => normal _ (.functionReturnType step)⟩
  | block span context statements ih => exact ih fun _ step => normal _ (.block step)
  | returning span result ih => exact ih fun _ step => normal _ (.returning step)
  | declaration span context kind isAmbient declarators ih =>
      simp only [wrappings, declared, List.filterMap_append, List.append_eq_nil_iff]
      exact ⟨ih fun _ step => normal _ (.declarators step), filterMap_of?_eq_nil normal⟩
  | form kind span fields ih => exact ih fun _ step => normal _ (.form step)
  | argument spread value ih => exact ih fun _ step => normal _ (.argument step)
  | parameter span decorators pattern ihDecorators ihPattern =>
      simp only [wrappings, declared, List.filterMap_append, List.append_eq_nil_iff]
      exact ⟨ihDecorators fun _ step => normal _ (.parameterDecorators step),
        ihPattern fun _ step => normal _ (.parameterPattern step)⟩
  | declarator span isDefinite target value ihTarget ihValue =>
      simp only [wrappings, declared, List.filterMap_append, List.append_eq_nil_iff]
      exact ⟨ihTarget fun _ step => normal _ (.declaratorTarget step),
        ihValue fun _ step => normal _ (.declaratorValue step)⟩
  | field key value ih => exact ih fun _ step => normal _ (.field step)
  | record fields ih => exact ih fun _ step => normal _ (.record step)
  | part piece ih => exact ih fun _ step => normal _ (.part step)
  | present piece ih => exact ih fun _ step => normal _ (.present step)
  | cons first rest ihFirst ihRest =>
      simp only [wrappings, declared, List.filterMap_append, List.append_eq_nil_iff]
      exact ⟨ihFirst fun _ step => normal _ (.first step),
        ihRest fun _ step => normal _ (.rest step)⟩

/-! ## Sequences of steps -/

namespace NamingSteps

variable {length : Nat}

theorem mapDeclared_eq (steps : NamingSteps wrappers length tree next) :
    tree.mapDeclared (nameDeclared wrappers) = next.mapDeclared (nameDeclared wrappers) := by
  induction steps with
  | done => rfl
  | step first _ ih => exact first.mapDeclared_eq.trans ih

theorem length_wrappings (steps : NamingSteps wrappers length tree next) :
    (tree.wrappings wrappers).length = (next.wrappings wrappers).length + length := by
  induction steps with
  | done => rfl
  | step first _ ih =>
      have less := first.length_wrappings
      omega

/-- A sequence that cannot be continued has named every component, and ends where a run
ends. -/
theorem of_normal (steps : NamingSteps wrappers length tree next)
    (normal : ∀ later, ¬ NamingStep wrappers next later) :
    length = (tree.wrappings wrappers).length ∧
      next = tree.mapDeclared (nameDeclared wrappers) := by
  have nothing := wrappings_eq_nil_of_normal normal
  constructor
  · rw [steps.length_wrappings, nothing, List.length_nil, Nat.zero_add]
  · rw [steps.mapDeclared_eq, mapDeclared_nameDeclared_eq_self nothing]

end NamingSteps

/-- From every tree some sequence of steps names all its components. -/
theorem exists_namingSteps (tree : Tree role) :
    NamingSteps wrappers (tree.wrappings wrappers).length tree
      (tree.mapDeclared (nameDeclared wrappers)) := by
  induction size : (tree.wrappings wrappers).length generalizing tree with
  | zero =>
      rw [mapDeclared_nameDeclared_eq_self (List.length_eq_zero_iff.mp size)]
      exact .done tree
  | succ remaining ih =>
      have reducible : ∃ next, NamingStep wrappers tree next := by
        by_contra normal
        rw [wrappings_eq_nil_of_normal (not_exists.mp normal)] at size
        cases size
      obtain ⟨next, step⟩ := reducible
      have less := step.length_wrappings
      rw [step.mapDeclared_eq]
      exact .step step (ih next (by omega))

/-- **The order of naming does not matter.** A step names exactly one of the wrapped
components that a program holds. So no sequence of steps is longer than their number, a
sequence that cannot be continued has exactly that length and leaves what a run leaves, and
there is such a sequence. A run leaves no wrapped component at any depth. -/
theorem naming_order_irrelevant (wrappers : Wrappers) (program : Tree .node) :
    (∀ earlier later : Tree .node, NamingStep wrappers earlier later →
      (earlier.wrappings wrappers).length = (later.wrappings wrappers).length + 1) ∧
    (∀ length last, NamingSteps wrappers length program last →
      length ≤ (program.wrappings wrappers).length ∧
      ((∀ later, ¬ NamingStep wrappers last later) →
        length = (program.wrappings wrappers).length ∧
        last = (nameComponents wrappers program).value)) ∧
    NamingSteps wrappers (program.wrappings wrappers).length program
      (nameComponents wrappers program).value ∧
    (nameComponents wrappers program).value.wrappings wrappers = [] := by
  rw [value_nameComponents]
  refine ⟨fun _ _ step => step.length_wrappings, ?_, exists_namingSteps program,
    wrappings_mapDeclared_nameDeclared wrappers program⟩
  intro length last steps
  constructor
  · have named := steps.length_wrappings
    omega
  · exact steps.of_normal

end ComponentNaming
