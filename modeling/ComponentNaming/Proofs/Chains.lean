import ComponentNaming.Proofs.Passes

/-!
# Runs one after the other

Each run of a chain works on the program that the run before it left, where components
already have names, arrows have become functions and parentheses are gone. Still a chain
leaves what one run with all its wrappers leaves, and it names the same components
(`programAfter_withWrappers`, `namesOf_withWrappers`).

The reason is local to a declarator. What one set of wrappers names no other set finds
again, and what it leaves alone the next set finds as before, so two sets find together what
their union finds (`Wrapping.of?_union`). A pass may be delayed past another inside a
declarator, so this carries over to whole programs (`mapDeclared_nameDeclared_union`).
-/

set_option autoImplicit false

namespace ComponentNaming

/-! ## Unions of sets of wrappers -/

/-- The wrappers that are in at least one of several sets. -/
def Wrappers.unionAll (sets : List Wrappers) : Wrappers := .ofList (sets.flatMap Wrappers.names)

@[simp] theorem Wrappers.mem_unionAll {sets : List Wrappers} {name : String} :
    name ∈ unionAll sets ↔ ∃ wrappers ∈ sets, name ∈ wrappers := by
  rw [unionAll, mem_ofList, List.mem_flatMap]
  rfl

theorem Wrappers.mem_unionAll_cons (wrappers : Wrappers) (sets : List Wrappers) (name : String) :
    name ∈ unionAll (wrappers :: sets) ↔ name ∈ wrappers ∨ name ∈ unionAll sets := by
  simp only [mem_unionAll, List.exists_mem_cons_iff]

/-- No sets find nothing. -/
theorem Tree.wrappings_unionAll_nil {role : Role} (tree : Tree role) :
    tree.wrappings (.unionAll []) = [] :=
  tree.wrappings_of_isEmpty rfl

section

variable {first second both : Wrappers}
  (union : ∀ name, name ∈ both ↔ name ∈ first ∨ name ∈ second)
include union

theorem Wrappers.recognizes_union (callee : Tree .node) :
    both.recognizes callee = (first.recognizes callee || second.recognizes callee) := by
  have contains (name : String) :
      both.contains name = (first.contains name || second.contains name) := by
    rw [Bool.eq_iff_iff, Bool.or_eq_true, contains_iff, contains_iff, contains_iff]
    exact union name
  unfold recognizes
  split
  · exact contains _
  · exact contains _
  · rfl

/-- **What the union finds is what one of the two sets finds.** -/
theorem Wrapping.of?_union (declarator : Tree .declarator) :
    of? both declarator = (of? first declarator).or (of? second declarator) := by
  -- The set decides only whether the callee is recognized, and never which component is found.
  have moved {here there : Wrappers} {wrapping : Wrapping}
      (found : of? here declarator = some wrapping)
      (recognized : there.recognizes wrapping.call.callee = true) :
      of? there declarator = some wrapping := by
    obtain ⟨value, argument, whole, unwrapped, arguments, _, component⟩ := of?_eq_some_iff.mp found
    exact of?_eq_some_iff.mpr ⟨value, argument, whole, unwrapped, arguments, recognized, component⟩
  have recognizes {here : Wrappers} {wrapping : Wrapping}
      (found : of? here declarator = some wrapping) :
      here.recognizes wrapping.call.callee = true := by
    obtain ⟨_, _, _, _, _, recognized, _⟩ := of?_eq_some_iff.mp found
    exact recognized
  cases inFirst : of? first declarator with
  | some wrapping =>
      rw [Option.some_or]
      apply moved inFirst
      rw [Wrappers.recognizes_union union, recognizes inFirst, Bool.true_or]
  | none =>
      rw [Option.none_or]
      cases inSecond : of? second declarator with
      | some wrapping =>
          apply moved inSecond
          rw [Wrappers.recognizes_union union, recognizes inSecond, Bool.or_true]
      | none =>
          rw [Option.eq_none_iff_forall_ne_some]
          intro wrapping inBoth
          have recognized := recognizes inBoth
          rw [Wrappers.recognizes_union union, Bool.or_eq_true] at recognized
          rcases recognized with byFirst | bySecond
          · rw [moved inBoth byFirst] at inFirst
            cases inFirst
          · rw [moved inBoth bySecond] at inSecond
            cases inSecond

/-! ## Two passes -/

/-- Naming with one set and then with the other is naming with their union. -/
theorem nameDeclared_nameDeclared (declarator : Tree .declarator) :
    nameDeclared second (nameDeclared first declarator) = nameDeclared both declarator := by
  have found := Wrapping.of?_union union declarator
  cases inFirst : Wrapping.of? first declarator with
  | some wrapping =>
      rw [inFirst, Option.some_or] at found
      rw [nameDeclared_of_some inFirst, nameDeclared_of_some found,
        nameDeclared_of_none (Wrapping.of?_named second wrapping)]
  | none =>
      rw [inFirst, Option.none_or] at found
      rw [nameDeclared_of_none inFirst]
      simp only [nameDeclared, nameDeclarator, found]

/-- **Two passes are one pass of the union.** -/
theorem mapDeclared_nameDeclared_union {role : Role} (tree : Tree role) :
    (tree.mapDeclared (nameDeclared first)).mapDeclared (nameDeclared second) =
      tree.mapDeclared (nameDeclared both) :=
  Tree.mapDeclared_mapDeclared
    (fun declarator => nameDeclared_mapDeclared first declarator (nameDeclared second))
    (nameDeclared_nameDeclared union) tree

end

/-- Once all components are named, some of the same wrappers find none. -/
theorem wrappings_nameDeclared_of_subset {earlier later : Wrappers}
    (inside : ∀ name ∈ later, name ∈ earlier) {role : Role} (tree : Tree role) :
    (tree.mapDeclared (nameDeclared earlier)).wrappings later = [] := by
  have union (name : String) : name ∈ earlier ↔ name ∈ earlier ∨ name ∈ later := by
    rw [iff_self_or]
    exact inside name
  rw [Tree.wrappings_eq_nil_iff]
  intro declarator listed
  have found := Wrapping.of?_union union declarator
  rw [Tree.wrappings_eq_nil_iff.mp (wrappings_mapDeclared_nameDeclared earlier tree) declarator
    listed] at found
  exact found.symm

/-! ## The components that two passes name -/

/-- Two partial functions of which at most one is defined give together what their union
gives. -/
theorem filterMap_append_perm {α β : Type} {first second both : α → Option β}
    (union : ∀ piece, both piece = (first piece).or (second piece))
    (disjoint : ∀ piece, first piece = none ∨ second piece = none) (pieces : List α) :
    (pieces.filterMap first ++ pieces.filterMap second).Perm (pieces.filterMap both) := by
  induction pieces with
  | nil => exact .refl _
  | cons piece pieces ih =>
      have here := union piece
      rcases disjoint piece with missing | missing
      · rw [missing, Option.none_or] at here
        cases inSecond : second piece with
        | none => simpa [missing, inSecond, here] using ih
        | some value =>
            simp only [List.filterMap_cons, missing, inSecond, here]
            exact List.perm_middle.trans (ih.cons value)
      · rw [missing, Option.or_none] at here
        cases inFirst : first piece with
        | none => simpa [missing, inFirst, here] using ih
        | some value =>
            simp only [List.filterMap_cons, missing, inFirst, here, List.cons_append]
            exact ih.cons value

/-- **Two passes name what one pass of the union names.** -/
theorem foundNames_union {first second both : Wrappers}
    (union : ∀ name, name ∈ both ↔ name ∈ first ∨ name ∈ second) {role : Role} (tree : Tree role) :
    (tree.foundNames first ++
      (tree.mapDeclared (nameDeclared first)).foundNames second).Perm (tree.foundNames both) := by
  let nameOf (wrappers : Wrappers) (declarator : Tree .declarator) : Option String :=
    (Wrapping.of? wrappers declarator).map fun wrapping => wrapping.name.name
  have later : (tree.mapDeclared (nameDeclared first)).foundNames second =
      tree.declared.filterMap fun declarator => nameOf second (nameDeclared first declarator) := by
    simp only [Tree.foundNames, Tree.wrappings, List.map_filterMap, List.filterMap_map,
      Tree.declared_mapDeclared (declared_nameDeclared first), Function.comp_def,
      nameDeclared_mapDeclared, Wrapping.of?_mapDeclared, Option.map_map,
      Wrapping.name_mapDeclared, nameOf]
  rw [later]
  simp only [Tree.foundNames, Tree.wrappings, List.map_filterMap]
  apply filterMap_append_perm
  · intro declarator
    rw [Wrapping.of?_union union]
    cases inFirst : Wrapping.of? first declarator with
    | some wrapping => rfl
    | none => simp only [nameOf, nameDeclared_of_none inFirst, Option.none_or, Option.map_none]
  · intro declarator
    cases inFirst : Wrapping.of? first declarator with
    | some wrapping =>
        right
        simp only [nameOf, nameDeclared_of_some inFirst, Wrapping.of?_named, Option.map_none]
    | none => exact .inl rfl

/-! ## Chains -/

/-- The program that several runs leave. -/
def programAfter (runs : List Run) (program : Tree .node) : Tree .node :=
  ((runAll runs program).getLast?.map Logged.value).getD program

/-- The names of the components that several runs name. -/
def namesOf (runs : List Run) (program : Tree .node) : List String :=
  (runAll runs program).flatMap fun outcome => namesIn outcome.log

@[simp] theorem programAfter_nil (program : Tree .node) : programAfter [] program = program := rfl

@[simp] theorem programAfter_cons (run : Run) (runs : List Run) (program : Tree .node) :
    programAfter (run :: runs) program = programAfter runs (run.apply program).value := by
  simp only [programAfter, runAll, List.getLast?_cons, Option.map_some, Option.getD_some]
  cases (runAll runs (run.apply program).value).getLast? with
  | none => rfl
  | some outcome => rfl

/-- The program that a chain leaves. -/
theorem programAfter_withWrappers (sets : List Wrappers) (program : Tree .node) :
    programAfter (sets.map .withWrappers) program =
      program.mapDeclared (nameDeclared (.unionAll sets)) := by
  induction sets generalizing program with
  | nil =>
      rw [List.map_nil, programAfter_nil,
        mapDeclared_nameDeclared_eq_self program.wrappings_unionAll_nil]
  | cons wrappers sets ih =>
      rw [List.map_cons, programAfter_cons, ih, Run.apply, value_nameComponents,
        mapDeclared_nameDeclared_union (Wrappers.mem_unionAll_cons wrappers sets)]

/-- The components that a chain names. -/
theorem namesOf_withWrappers (sets : List Wrappers) (program : Tree .node) :
    (namesOf (sets.map .withWrappers) program).Perm (program.foundNames (.unionAll sets)) := by
  induction sets generalizing program with
  | nil =>
      rw [Tree.foundNames, program.wrappings_unionAll_nil]
      exact .refl _
  | cons wrappers sets ih =>
      have here : namesOf ((wrappers :: sets).map .withWrappers) program =
          program.foundNames wrappers ++
            namesOf (sets.map .withWrappers) (nameComponents wrappers program).value := by
        rw [← namesIn_log_nameComponents]
        rfl
      rw [here, value_nameComponents]
      exact ((ih _).append_left _).trans
        (foundNames_union (Wrappers.mem_unionAll_cons wrappers sets) program)

/-- **A chain of runs is one run with all its wrappers.** It leaves the same program and
names the same components. So only the wrappers that occur somewhere in a chain matter for
the program that it leaves, and a further run with some of them changes nothing and names
nothing. -/
theorem chain_collapses (sets : List Wrappers) (program : Tree .node) :
    programAfter (sets.map .withWrappers) program =
      (nameComponents (.unionAll sets) program).value ∧
    (namesOf (sets.map .withWrappers) program).Perm
      (namesIn (nameComponents (.unionAll sets) program).log) ∧
    (∀ others : List Wrappers,
      (∀ name, (∃ wrappers ∈ others, name ∈ wrappers) ↔ ∃ wrappers ∈ sets, name ∈ wrappers) →
      programAfter (others.map .withWrappers) program =
        programAfter (sets.map .withWrappers) program) ∧
    (∀ later : Wrappers, (∀ name ∈ later, ∃ wrappers ∈ sets, name ∈ wrappers) →
      (nameComponents later (programAfter (sets.map .withWrappers) program)).value =
        programAfter (sets.map .withWrappers) program ∧
      namesIn (nameComponents later (programAfter (sets.map .withWrappers) program)).log = []) := by
  refine ⟨?_, ?_, ?_, ?_⟩
  · rw [programAfter_withWrappers, value_nameComponents]
  · rw [namesIn_log_nameComponents]
    exact namesOf_withWrappers sets program
  · intro others same
    have equal : Wrappers.unionAll others = Wrappers.unionAll sets := by
      apply Wrappers.ext_mem
      intro name
      rw [Wrappers.mem_unionAll, Wrappers.mem_unionAll]
      exact same name
    rw [programAfter_withWrappers, programAfter_withWrappers, equal]
  · intro later inside
    have included (name : String) (listed : name ∈ later) : name ∈ Wrappers.unionAll sets :=
      Wrappers.mem_unionAll.mpr (inside name listed)
    have nothing := wrappings_nameDeclared_of_subset included program
    rw [programAfter_withWrappers, value_nameComponents, namesIn_log_nameComponents,
      mapDeclared_nameDeclared_eq_self nothing, Tree.foundNames, nothing]
    exact ⟨rfl, rfl⟩

end ComponentNaming
