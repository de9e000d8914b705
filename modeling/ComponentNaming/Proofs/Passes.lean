import ComponentNaming.Naming
import ComponentNaming.Proofs.Matching
import Mathlib.Data.List.Basic

/-!
# Naming as a pass

A run over a program is a pass that replaces declarators (`nameDeclared`), also when there
are no wrappers and the program is left alone (`value_nameComponents`). What it reports can
be read off the program before the run: one name for each wrapped component that a declared
variable of the program holds (`namesIn_log_nameComponents`). After the run the same
wrappers find none (`wrappings_mapDeclared_nameDeclared`).

To name one declarator may be delayed past any pass inside it (`nameDeclared_mapDeclared`).
This is what lets passes and steps at different depths change places.
-/

set_option autoImplicit false

namespace ComponentNaming

/-! ## The named components of a log -/

/-- The name that an event reports, if it is the event of a named component. -/
def Event.componentName? : Event → Option String
  | named name => some name
  | _ => none

/-- The names of the components that were named, in the order in which they were. -/
def namesIn (log : List Event) : List String := log.filterMap Event.componentName?

@[simp] theorem namesIn_append (first second : List Event) :
    namesIn (first ++ second) = namesIn first ++ namesIn second :=
  List.filterMap_append

theorem namesIn_map_named (names : List String) : namesIn (names.map Event.named) = names := by
  simp only [namesIn, List.filterMap_map, Function.comp_def, Event.componentName?,
    List.filterMap_some]

/-! ## Wrapped components in a tree -/

variable {role : Role}

/-- The wrapped components that the declared variables of a tree hold, inner ones before
outer ones. -/
def Tree.wrappings (wrappers : Wrappers) (tree : Tree role) : List Wrapping :=
  tree.declared.filterMap (Wrapping.of? wrappers)

/-- The names of the components that the declared variables of a tree hold. -/
def Tree.foundNames (wrappers : Wrappers) (tree : Tree role) : List String :=
  (tree.wrappings wrappers).map fun wrapping => wrapping.name.name

/-- A pass inside the declarators of a list changes the components that they hold, and neither
their number nor their order. -/
theorem Tree.filterMap_of?_mapDeclared (wrappers : Wrappers)
    (f : Tree .declarator → Tree .declarator) (declarators : Tree (.list .declarator)) :
    (declarators.mapDeclared f).toList.filterMap (Wrapping.of? wrappers) =
      (declarators.toList.filterMap (Wrapping.of? wrappers)).map (Wrapping.mapDeclared f) := by
  simp only [Tree.toList_mapDeclared, List.map_filterMap, List.filterMap_map, Function.comp_def,
    Wrapping.of?_mapDeclared]

theorem Tree.wrappings_eq_nil_iff {wrappers : Wrappers} {tree : Tree role} :
    tree.wrappings wrappers = [] ↔
      ∀ declarator ∈ tree.declared, Wrapping.of? wrappers declarator = none :=
  List.filterMap_eq_nil_iff

/-! ## Naming one declarator -/

section

variable (wrappers : Wrappers)

/-- The declarator in which the component that it holds, if it holds one, has its name. -/
def nameDeclared (declarator : Tree .declarator) : Tree .declarator :=
  (nameDeclarator wrappers declarator).value

variable {wrappers} {declarator : Tree .declarator}

theorem nameDeclared_of_some {wrapping : Wrapping}
    (found : Wrapping.of? wrappers declarator = some wrapping) :
    nameDeclared wrappers declarator = wrapping.named := by
  simp only [nameDeclared, nameDeclarator, found, Logged.value_bind, Logged.value_pure]

theorem nameDeclared_of_none (missing : Wrapping.of? wrappers declarator = none) :
    nameDeclared wrappers declarator = declarator := by
  simp only [nameDeclared, nameDeclarator, missing, Logged.value_pure]

variable (wrappers) (declarator)

theorem log_nameDeclarator :
    (nameDeclarator wrappers declarator).log =
      ((Wrapping.of? wrappers declarator).map fun wrapping =>
        Event.named wrapping.name.name).toList := by
  unfold nameDeclarator
  split
  · rename_i wrapping found
    simp only [found, Logged.log_bind, Logged.log_report, Logged.log_pure, Option.map_some,
      Option.toList_some, List.append_nil]
  · rename_i missing
    simp only [missing, Logged.log_pure, Option.map_none, Option.toList_none]

/-- Naming keeps the declarators inside a declarator. -/
theorem declared_nameDeclared :
    (nameDeclared wrappers declarator).declared = declarator.declared := by
  cases found : Wrapping.of? wrappers declarator with
  | none => rw [nameDeclared_of_none found]
  | some wrapping => rw [nameDeclared_of_some found, Wrapping.declared_named found]

/-- Naming one declarator may be delayed past any pass inside it. -/
theorem nameDeclared_mapDeclared (f : Tree .declarator → Tree .declarator) :
    nameDeclared wrappers (declarator.mapDeclared f) =
      (nameDeclared wrappers declarator).mapDeclared f := by
  have passed := Wrapping.of?_mapDeclared f wrappers declarator
  cases found : Wrapping.of? wrappers declarator with
  | none =>
      rw [found, Option.map_none] at passed
      rw [nameDeclared_of_none found, nameDeclared_of_none passed]
  | some wrapping =>
      rw [found, Option.map_some] at passed
      rw [nameDeclared_of_some found, nameDeclared_of_some passed, Wrapping.named_mapDeclared]

/-- After naming, the same wrappers find nothing. -/
theorem of?_nameDeclared : Wrapping.of? wrappers (nameDeclared wrappers declarator) = none := by
  cases found : Wrapping.of? wrappers declarator with
  | none => rw [nameDeclared_of_none found, found]
  | some wrapping => rw [nameDeclared_of_some found, Wrapping.of?_named]

end

/-! ## Naming a whole tree -/

section

variable (wrappers : Wrappers) (tree : Tree role) (program : Tree .node)

/-- Naming all components of a tree is a pass. -/
theorem value_nameAll : (nameAll wrappers tree).value = tree.mapDeclared (nameDeclared wrappers) :=
  tree.value_visit (nameDeclarator wrappers)

/-- Naming all components of a tree reports the name of each wrapped component in it. -/
theorem log_nameAll :
    (nameAll wrappers tree).log = (tree.foundNames wrappers).map Event.named := by
  rw [nameAll, Tree.log_visit, Tree.foundNames, Tree.wrappings, List.map_map, List.map_filterMap,
    List.filterMap_eq_flatMap_toList]
  simp only [log_nameDeclarator, Wrapping.of?_mapDeclared, Option.map_map, Function.comp_def,
    Wrapping.name_mapDeclared]

/-- Once all components are named, the same wrappers find none. -/
theorem wrappings_mapDeclared_nameDeclared :
    (tree.mapDeclared (nameDeclared wrappers)).wrappings wrappers = [] := by
  rw [Tree.wrappings_eq_nil_iff, Tree.declared_mapDeclared (declared_nameDeclared wrappers)]
  intro declarator listed
  obtain ⟨original, _, rfl⟩ := List.mem_map.mp listed
  exact of?_nameDeclared wrappers _

variable {wrappers tree}

/-- Where nothing is found, naming changes nothing. -/
theorem mapDeclared_nameDeclared_eq_self (nothing : tree.wrappings wrappers = []) :
    tree.mapDeclared (nameDeclared wrappers) = tree := by
  apply Tree.mapDeclared_eq_self
  intro declarator listed
  exact nameDeclared_of_none (Tree.wrappings_eq_nil_iff.mp nothing declarator listed)

end

/-! ## Runs -/

section

variable (wrappers : Wrappers) (program : Tree .node)

/-- Without wrappers nothing is recognized. -/
theorem Wrappers.recognizes_of_isEmpty {wrappers : Wrappers} (isEmpty : wrappers.isEmpty = true)
    (callee : Tree .node) : wrappers.recognizes callee = false := by
  have absent (name : String) : wrappers.contains name = false := by
    rw [Bool.eq_false_iff]
    intro contained
    exact isEmpty_iff.mp isEmpty name (contains_iff.mp contained)
  unfold recognizes
  split
  · exact absent _
  · exact absent _
  · rfl

theorem Wrapping.of?_of_isEmpty {wrappers : Wrappers} (isEmpty : wrappers.isEmpty = true)
    (declarator : Tree .declarator) : of? wrappers declarator = none := by
  rw [Option.eq_none_iff_forall_ne_some]
  intro wrapping found
  obtain ⟨_, _, _, _, _, recognized, _⟩ := of?_eq_some_iff.mp found
  rw [Wrappers.recognizes_of_isEmpty isEmpty] at recognized
  cases recognized

theorem Tree.wrappings_of_isEmpty {wrappers : Wrappers} (isEmpty : wrappers.isEmpty = true)
    (tree : Tree role) : tree.wrappings wrappers = [] :=
  Tree.wrappings_eq_nil_iff.mpr fun declarator _ => Wrapping.of?_of_isEmpty isEmpty declarator

/-- A run is a pass. To leave the program alone when there are no wrappers is to pass over it
and find nothing. -/
theorem value_nameComponents :
    (nameComponents wrappers program).value = program.mapDeclared (nameDeclared wrappers) := by
  simp only [nameComponents, Logged.value_bind]
  split
  · rename_i isEmpty
    simp only [Logged.value_bind, Logged.value_pure]
    exact (mapDeclared_nameDeclared_eq_self (Tree.wrappings_of_isEmpty isEmpty program)).symm
  · exact value_nameAll wrappers program

/-- A run names the components that it finds in the program as it was given. -/
theorem namesIn_log_nameComponents :
    namesIn (nameComponents wrappers program).log = program.foundNames wrappers := by
  simp only [nameComponents, Logged.log_bind, Logged.log_report, namesIn_append]
  split
  · rename_i isEmpty
    rw [Tree.foundNames, Tree.wrappings_of_isEmpty isEmpty]
    rfl
  · rw [log_nameAll, namesIn_map_named]
    rfl

end

end ComponentNaming
