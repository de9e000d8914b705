import ComponentNaming.Logged
import ComponentNaming.Tree.Basic

/-!
# Visiting the declarators of a program

A visit goes through a whole program and replaces declarators, inner ones before outer
ones: at a variable declaration it first visits everything inside, and then hands each
declarator, left to right, to the function it was given. Declarators that stand anywhere
else, as in a resource declaration, are gone through but not handed over. Nothing but
declarators is ever replaced, so a visit that replaces none leaves the program as it is
(`Tree.visit_pure`).
-/

set_option autoImplicit false

namespace ComponentNaming.Tree

variable {Entry : Type}

/-- Hands each member of a list to a function, left to right. -/
def visitList {role : Role} (f : Tree role → Logged Entry (Tree role))
    (pieces : Tree (.list role)) : Logged Entry (Tree (.list role)) := do
  return ofList (← pieces.toList.mapM f)

section

variable {role : Role} (f : Tree role → Logged Entry (Tree role))

@[simp] theorem visitList_nil : visitList f nil = pure nil := rfl

@[simp] theorem visitList_cons (first : Tree role) (rest : Tree (.list role)) :
    visitList f (cons first rest) = do return cons (← f first) (← visitList f rest) := by
  simp [visitList, ofList]

/-- The members of the visited list are the visited members. -/
theorem visitList_value (pieces : Tree (.list role)) :
    (visitList f pieces).value = mapList (fun piece => (f piece).value) pieces := by
  induction pieces using listInduction with
  | nil => rfl
  | cons first rest ih => simp [ih]

/-- The log of a visited list is made of the logs of its members, left to right. -/
theorem visitList_log (pieces : Tree (.list role)) :
    (visitList f pieces).log = pieces.toList.flatMap (fun piece => (f piece).log) := by
  induction pieces using listInduction with
  | nil => rfl
  | cons first rest ih => simp [ih]

end

variable (f : Tree .declarator → Logged Entry (Tree .declarator))

/-- Visits a whole tree and hands the declarators of its variable declarations to a
function, inner ones before outer ones. -/
def visit : {role : Role} → Tree role → Logged Entry (Tree role)
  | _, ident name => return ident name
  | _, binding name writtenType => do return binding name (← visit writtenType)
  | _, plainName span name => return plainName span name
  | _, paren span inner => do return paren span (← visit inner)
  | _, call span context callee arguments typeArguments => do
    return call span context (← visit callee) (← visit arguments) (← visit typeArguments)
  | _, member span object property => do return member span (← visit object) (← visit property)
  | _, arrow head parameters body typeParameters returnType => do
    return arrow head (← visit parameters) (← visit body) (← visit typeParameters)
      (← visit returnType)
  | _, function head name parameters decorators body typeParameters returnType => do
    return function head name (← visit parameters) (← visit decorators) (← visit body)
      (← visit typeParameters) (← visit returnType)
  | _, block span context statements => do return block span context (← visit statements)
  | _, returning span result => do return returning span (← visit result)
  | _, declaration span context kind isAmbient declarators => do
    let visited ← visit declarators
    return declaration span context kind isAmbient (← visitList f visited)
  | _, form kind span fields => do return form kind span (← visit fields)
  | _, argument spread value => do return argument spread (← visit value)
  | _, parameter span decorators pattern => do
    return parameter span (← visit decorators) (← visit pattern)
  | _, declarator span isDefinite target value => do
    return declarator span isDefinite (← visit target) (← visit value)
  | _, field key value => do return field key (← visit value)
  | _, datum value => return datum value
  | _, record fields => do return record (← visit fields)
  | _, part piece => do return part (← visit piece)
  | _, absent => return absent
  | _, present piece => do return present (← visit piece)
  | _, nil => return nil
  | _, cons first rest => do return cons (← visit first) (← visit rest)

/-- A visit that replaces no declarator leaves the tree as it is and reports nothing. -/
theorem visit_pure {role : Role} (tree : Tree role) :
    visit (fun declarator => (pure declarator : Logged Entry _)) tree = pure tree := by
  have kept : ∀ pieces : Tree (.list .declarator),
      visitList (fun declarator => (pure declarator : Logged Entry _)) pieces = pure pieces := by
    intro pieces
    induction pieces using listInduction with
    | nil => rfl
    | cons first rest ih => simp [ih]
  induction tree <;> simp_all [visit]

end ComponentNaming.Tree
