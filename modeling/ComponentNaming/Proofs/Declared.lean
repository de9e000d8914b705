import ComponentNaming.Tree.Visit

/-!
# The declarators of a tree

A visit does two things at once: it replaces declarators and it reports. Here the two are
taken apart. `Tree.mapDeclared` replaces the declarators of all variable declarations by a
plain function, inner ones before outer ones, and is what a visit makes of a tree
(`Tree.value_visit`). `Tree.declared` lists these declarators as they stand in the tree, and
the log of a visit is made of what is reported for each of them (`Tree.log_visit`).

Two passes over a tree are one pass if the first pass may be delayed past the second inside
a declarator (`Tree.mapDeclared_mapDeclared`). A pass that keeps the declarators inside each
declarator keeps the whole list, member by member (`Tree.declared_mapDeclared`).
-/

set_option autoImplicit false

namespace ComponentNaming.Tree

variable {role other : Role}

/-! ## Lists -/

/-- Lists with the same members are equal. -/
theorem toList_injective {first second : Tree (.list role)} (same : first.toList = second.toList) :
    first = second := by
  rw [← ofList_toList first, same, ofList_toList]

/-- Mapping one function after another is mapping their composition. -/
theorem mapList_mapList {last : Role} (f : Tree other → Tree last) (g : Tree role → Tree other)
    (pieces : Tree (.list role)) :
    mapList f (mapList g pieces) = mapList (fun piece => f (g piece)) pieces := by
  apply toList_injective
  simp only [toList_mapList, List.map_map, Function.comp_def]

/-- Functions that agree on the members of a list map it to the same list. -/
theorem mapList_congr {f g : Tree role → Tree other} {pieces : Tree (.list role)}
    (agree : ∀ piece ∈ pieces.toList, f piece = g piece) : mapList f pieces = mapList g pieces := by
  apply toList_injective
  rw [toList_mapList, toList_mapList]
  exact List.map_congr_left agree

/-- A function that fixes the members of a list fixes the list. -/
theorem mapList_eq_self {f : Tree role → Tree role} {pieces : Tree (.list role)}
    (fixed : ∀ piece ∈ pieces.toList, f piece = piece) : mapList f pieces = pieces := by
  apply toList_injective
  rw [toList_mapList]
  exact (List.map_congr_left fixed).trans (List.map_id _)

/-! ## Replacing the declarators of variable declarations -/

/-- Replaces the declarators of all variable declarations, inner ones before outer ones. -/
def mapDeclared (f : Tree .declarator → Tree .declarator) : {role : Role} → Tree role → Tree role
  | _, ident name => ident name
  | _, binding name writtenType => binding name (mapDeclared f writtenType)
  | _, plainName span name => plainName span name
  | _, paren span inner => paren span (mapDeclared f inner)
  | _, call span context callee arguments typeArguments =>
    call span context (mapDeclared f callee) (mapDeclared f arguments) (mapDeclared f typeArguments)
  | _, member span object property => member span (mapDeclared f object) (mapDeclared f property)
  | _, arrow head parameters body typeParameters returnType =>
    arrow head (mapDeclared f parameters) (mapDeclared f body) (mapDeclared f typeParameters)
      (mapDeclared f returnType)
  | _, function head name parameters decorators body typeParameters returnType =>
    function head name (mapDeclared f parameters) (mapDeclared f decorators) (mapDeclared f body)
      (mapDeclared f typeParameters) (mapDeclared f returnType)
  | _, block span context statements => block span context (mapDeclared f statements)
  | _, returning span result => returning span (mapDeclared f result)
  | _, declaration span context kind isAmbient declarators =>
    declaration span context kind isAmbient (mapList f (mapDeclared f declarators))
  | _, form kind span fields => form kind span (mapDeclared f fields)
  | _, argument spread value => argument spread (mapDeclared f value)
  | _, parameter span decorators pattern =>
    parameter span (mapDeclared f decorators) (mapDeclared f pattern)
  | _, declarator span isDefinite target value =>
    declarator span isDefinite (mapDeclared f target) (mapDeclared f value)
  | _, field key value => field key (mapDeclared f value)
  | _, datum value => datum value
  | _, record fields => record (mapDeclared f fields)
  | _, part piece => part (mapDeclared f piece)
  | _, absent => absent
  | _, present piece => present (mapDeclared f piece)
  | _, nil => nil
  | _, cons first rest => cons (mapDeclared f first) (mapDeclared f rest)

section

variable (f : Tree .declarator → Tree .declarator)

@[simp] theorem toList_mapDeclared (pieces : Tree (.list role)) :
    (pieces.mapDeclared f).toList = pieces.toList.map (mapDeclared f) := by
  induction pieces using listInduction with
  | nil => rfl
  | cons first rest ih => simp only [mapDeclared, toList_cons, List.map_cons, ih]

@[simp] theorem mapDeclared_ofList (pieces : List (Tree role)) :
    (ofList pieces).mapDeclared f = ofList (pieces.map (mapDeclared f)) := by
  apply toList_injective
  rw [toList_mapDeclared, toList_ofList, toList_ofList]

/-- A function that may be delayed past a pass on each member of a list may be delayed on the
whole list. -/
theorem mapDeclared_mapList {g : Tree role → Tree other}
    (natural : ∀ piece, g (piece.mapDeclared f) = (g piece).mapDeclared f)
    (pieces : Tree (.list role)) :
    (mapList g pieces).mapDeclared f = mapList g (pieces.mapDeclared f) := by
  apply toList_injective
  simp only [toList_mapDeclared, toList_mapList, List.map_map]
  exact List.map_congr_left fun piece _ => (natural piece).symm

end

/-- **Two passes are one.** If the first pass may be delayed past the second inside each
declarator, then one pass with the composed function does the work of both. -/
theorem mapDeclared_mapDeclared {f g h : Tree .declarator → Tree .declarator}
    (natural : ∀ declarator, g (declarator.mapDeclared f) = (g declarator).mapDeclared f)
    (composed : ∀ declarator, f (g declarator) = h declarator) (tree : Tree role) :
    (tree.mapDeclared g).mapDeclared f = tree.mapDeclared h := by
  induction tree with
  | declaration span context kind isAmbient declarators ih =>
      simp only [mapDeclared]
      rw [mapDeclared_mapList f natural, ih, mapList_mapList]
      congr 1
      exact mapList_congr fun declarator _ => composed declarator
  | _ => simp_all only [mapDeclared]

/-! ## Listing the declarators of variable declarations -/

/-- The declarators of all variable declarations, inner ones before outer ones. -/
def declared : {role : Role} → Tree role → List (Tree .declarator)
  | _, ident _ => []
  | _, binding _ writtenType => declared writtenType
  | _, plainName _ _ => []
  | _, paren _ inner => declared inner
  | _, call _ _ callee arguments typeArguments =>
    declared callee ++ declared arguments ++ declared typeArguments
  | _, member _ object property => declared object ++ declared property
  | _, arrow _ parameters body typeParameters returnType =>
    declared parameters ++ declared body ++ declared typeParameters ++ declared returnType
  | _, function _ _ parameters decorators body typeParameters returnType =>
    declared parameters ++ declared decorators ++ declared body ++ declared typeParameters ++
      declared returnType
  | _, block _ _ statements => declared statements
  | _, returning _ result => declared result
  | _, declaration _ _ _ _ declarators => declared declarators ++ declarators.toList
  | _, form _ _ fields => declared fields
  | _, argument _ value => declared value
  | _, parameter _ decorators pattern => declared decorators ++ declared pattern
  | _, declarator _ _ target value => declared target ++ declared value
  | _, field _ value => declared value
  | _, datum _ => []
  | _, record fields => declared fields
  | _, part piece => declared piece
  | _, absent => []
  | _, present piece => declared piece
  | _, nil => []
  | _, cons first rest => declared first ++ declared rest

/-- The declarators in a list are those in its members. -/
theorem declared_list (pieces : Tree (.list role)) :
    pieces.declared = pieces.toList.flatMap declared := by
  induction pieces using listInduction with
  | nil => rfl
  | cons first rest ih => simp only [declared, toList_cons, List.flatMap_cons, ih]

/-- Mapping a list by a function that keeps the declarators in each member keeps those in the
list. -/
theorem declared_mapList {g : Tree role → Tree other}
    (kept : ∀ piece, (g piece).declared = piece.declared) (pieces : Tree (.list role)) :
    (mapList g pieces).declared = pieces.declared := by
  rw [declared_list, declared_list, toList_mapList, List.flatMap_map]
  simp only [kept]

/-- A pass that keeps the declarators inside each declarator replaces the listed declarators
one by one. -/
theorem declared_mapDeclared {f : Tree .declarator → Tree .declarator}
    (kept : ∀ declarator, (f declarator).declared = declarator.declared) (tree : Tree role) :
    (tree.mapDeclared f).declared =
      tree.declared.map (fun declarator => f (declarator.mapDeclared f)) := by
  induction tree with
  | declaration span context kind isAmbient declarators ih =>
      simp only [mapDeclared, declared, List.map_append]
      rw [declared_mapList kept, ih, toList_mapList, toList_mapDeclared, List.map_map]
      rfl
  | _ => simp_all only [mapDeclared, declared, List.map_append, List.map_nil]

/-- A pass that fixes each listed declarator leaves the tree as it is. -/
theorem mapDeclared_eq_self {f : Tree .declarator → Tree .declarator} {tree : Tree role}
    (fixed : ∀ declarator ∈ tree.declared, f declarator = declarator) :
    tree.mapDeclared f = tree := by
  induction tree with
  | declaration span context kind isAmbient declarators ih =>
      simp only [declared, List.mem_append] at fixed
      simp only [mapDeclared]
      rw [ih fun declarator inside => fixed declarator (.inl inside),
        mapList_eq_self fun declarator listed => fixed declarator (.inr listed)]
  | _ => simp_all only [mapDeclared, declared, List.mem_append, or_imp, forall_and, implies_true]

/-! ## Visits -/

section

variable {Entry : Type} (f : Tree .declarator → Logged Entry (Tree .declarator))

/-- What a visit makes of a tree. -/
theorem value_visit (tree : Tree role) :
    (tree.visit f).value = tree.mapDeclared (fun declarator => (f declarator).value) := by
  induction tree with
  | declaration span context kind isAmbient declarators ih =>
      simp only [visit, mapDeclared, Logged.value_bind, Logged.value_pure, visitList_value, ih]
  | _ => simp_all only [visit, mapDeclared, Logged.value_bind, Logged.value_pure]

/-- What a visit reports: what is reported for each declarator, once everything inside it has
been visited. -/
theorem log_visit (tree : Tree role) :
    (tree.visit f).log = tree.declared.flatMap (fun declarator =>
      (f (declarator.mapDeclared fun inner => (f inner).value)).log) := by
  induction tree with
  | declaration span context kind isAmbient declarators ih =>
      simp only [visit, declared, Logged.log_bind, Logged.log_pure, List.append_nil, visitList_log,
        value_visit, ih, List.flatMap_append, toList_mapDeclared, List.flatMap_map]
  | _ =>
      simp_all only [visit, declared, Logged.log_bind, Logged.log_pure, List.append_nil,
        List.flatMap_append, List.flatMap_nil, List.append_assoc]

end

end ComponentNaming.Tree
