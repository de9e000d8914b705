import ComponentNaming.Proofs.Recasting

/-!
# What a run does not look at

Two consequences of recasting programs. The parentheses around initial values, around what
is called and around arguments do not matter: a run over a program without them leaves what
a run over the program leaves, without them (`withoutParens_nameComponents`). And names,
syntax contexts and positions are carried along without being looked at, with one exception:
it matters whether what is called is the name of a wrapper (`naming_carries_labels`).
-/

set_option autoImplicit false

namespace ComponentNaming

variable {role : Role}

/-! ## Parentheses -/

/-- A tree without the parentheses right around initial values, what is called and arguments.
Any other parentheses are kept, such as those in a pattern or around the body of an arrow. -/
def Tree.withoutParens (tree : Tree role) : Tree role := tree.recast ⟨.identity, true⟩

/-- **Parentheses do not matter.** To drop the parentheses after a run is to drop them before
it, and both runs name the same components. -/
theorem withoutParens_nameComponents (wrappers : Wrappers) (program : Tree .node) :
    (nameComponents wrappers program).value.withoutParens =
      (nameComponents wrappers program.withoutParens).value ∧
    (namesIn (nameComponents wrappers program).log).Perm
      (namesIn (nameComponents wrappers program.withoutParens).log) := by
  have same : ∀ name ∈ program.calleeNames, name ∈ wrappers ↔ name ∈ wrappers :=
    fun _ _ => Iff.rfl
  obtain ⟨value, names⟩ := recast_nameComponents ⟨.identity, true⟩ same
  refine ⟨value.symm, .of_eq ?_⟩
  rw [Tree.withoutParens, names]
  exact (List.map_id _).symm

example (span : Span) (name : Ident) :
    (Tree.call span 0 (.paren span (.ident name))
      (.cons (.argument none (.paren span (.paren span (.ident name)))) .nil)
      .absent).withoutParens =
    .call span 0 (.ident name) (.cons (.argument none (.ident name)) .nil) .absent := rfl

/-! ## Names, contexts and positions -/

/-- A tree with other names, syntax contexts and positions. -/
def Tree.relabel (labels : Relabelling) (tree : Tree role) : Tree role :=
  tree.recast ⟨labels, false⟩

/-- **Labels are only carried.** A run over a relabelled program leaves the relabelled program
that a run over the program leaves, and names the components after their relabelled variables,
as long as the wrappers are relabelled with what is called. So wrappers that agree on what is
called in a program leave the same program and name the same components; and if none of it is
a wrapper, then to go through the program comes to the same as to leave it alone. -/
theorem naming_carries_labels (labels : Relabelling) {wrappers relabelled : Wrappers}
    {program : Tree .node}
    (agree : ∀ name ∈ program.calleeNames,
      name ∈ wrappers ↔ labels.name name ∈ relabelled) :
    (nameComponents relabelled (program.relabel labels)).value =
      (nameComponents wrappers program).value.relabel labels ∧
    namesIn (nameComponents relabelled (program.relabel labels)).log =
      (namesIn (nameComponents wrappers program).log).map labels.name ∧
    (∀ other : Wrappers, (∀ name ∈ program.calleeNames, name ∈ wrappers ↔ name ∈ other) →
      (nameComponents other program).value = (nameComponents wrappers program).value ∧
      namesIn (nameComponents other program).log =
        namesIn (nameComponents wrappers program).log) ∧
    (∀ unused : Wrappers, (∀ name ∈ program.calleeNames, name ∉ unused) →
      (nameAll unused program).value = (nameComponents .empty program).value ∧
      namesIn (nameAll unused program).log = namesIn (nameComponents .empty program).log) := by
  have unlabelled {first second : Wrappers}
      (same : ∀ name ∈ program.calleeNames, name ∈ first ↔ name ∈ second) :
      (nameComponents second program).value = (nameComponents first program).value ∧
      namesIn (nameComponents second program).log =
        namesIn (nameComponents first program).log := by
    have kept := recast_nameComponents ⟨.identity, false⟩ same
    rw [Tree.recast_identity, Tree.recast_identity] at kept
    exact ⟨kept.1, kept.2.trans (List.map_id _)⟩
  obtain ⟨value, names⟩ := recast_nameComponents ⟨labels, false⟩ agree
  refine ⟨value, names, fun other same => unlabelled same, fun unused absent => ?_⟩
  have none : ∀ name ∈ program.calleeNames, name ∈ Wrappers.empty ↔ name ∈ unused :=
    fun name called => iff_of_false (Wrappers.not_mem_empty name) (absent name called)
  have skipped := unlabelled none
  rw [value_nameAll, ← value_nameComponents, log_nameAll, namesIn_map_named,
    ← namesIn_log_nameComponents]
  exact skipped

/-- The declaration `A = React.memo((p: T) => { const B = (memo)(() => null); return B; })`. -/
def nestedMemo : Tree .node :=
  let spot (position : Nat) : Span := ⟨position, position + 1⟩
  let name (position : Nat) (text : String) : Ident := ⟨spot position, 2, text, false⟩
  let arrow (parameters : List (Tree .node)) (body : Tree .node) : Tree .argument :=
    .argument none (.arrow ⟨spot 20, 3, false, false⟩ (.ofList parameters) body .absent .absent)
  let constant (declared : Ident) (value : Tree .node) : Tree .node :=
    .declaration (spot 1) 0 .constant false
      (.ofList [.declarator (spot 2) false (.binding declared .absent) (.present value)])
  constant (name 3 "A")
    (.call (spot 4) 0 (.member (spot 4) (.ident (name 4 "React")) (.plainName (spot 9) "memo"))
      (.ofList [arrow
        -- The type is written before the parameter, so the ends of its extent change places.
        [.binding (name 30 "p") (.present (.form "TsTypeAnnotation" (spot 6) .nil))]
        (.block (spot 40) 4 (.ofList
          [constant (name 42 "B")
            (.call (spot 44) 0 (.paren (spot 44) (.ident (name 45 "memo")))
              (.ofList [arrow [] (.form "NullLiteral" (spot 50) .nil)]) .absent),
            .returning (spot 60) (.present (.ident (name 61 "B")))]))]) .absent)

/-- Primes on all names, other contexts, and positions further apart. -/
def primed : Relabelling where
  name text := text ++ "'"
  context context := 5 * context
  position position := 3 * position
  context_zero := rfl
  position_zero := rfl
  monotone := fun _ _ ordered => Nat.mul_le_mul_left 3 ordered

/-- In the declaration of `A` with primes on all names, the wrapper `memo'` names `B'` and then
`A'`. -/
theorem naming_carries_primes :
    (∀ name ∈ nestedMemo.calleeNames,
      name ∈ Wrappers.ofList ["memo"] ↔ primed.name name ∈ Wrappers.ofList ["memo'"]) ∧
    (nameComponents (.ofList ["memo'"]) (nestedMemo.relabel primed)).value =
      (nameComponents (.ofList ["memo"]) nestedMemo).value.relabel primed ∧
    namesIn (nameComponents (.ofList ["memo'"]) (nestedMemo.relabel primed)).log =
      ["B'", "A'"] := by
  have agree : ∀ name ∈ nestedMemo.calleeNames,
      name ∈ Wrappers.ofList ["memo"] ↔ primed.name name ∈ Wrappers.ofList ["memo'"] := by
    have called : nestedMemo.calleeNames = ["memo", "memo"] := rfl
    simp [called, primed]
  obtain ⟨value, names, _⟩ := naming_carries_labels primed agree
  have named : namesIn (nameComponents (.ofList ["memo"]) nestedMemo).log = ["B", "A"] := rfl
  exact ⟨agree, value, names.trans (by rw [named]; rfl)⟩

end ComponentNaming
