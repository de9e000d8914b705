import ComponentNaming.Proofs.Invariance
import ComponentNaming.Proofs.Shapes

/-!
# Naming inside a declarator

A run names what is inside a declarator before it looks at the declarator, so it looks at one
that has changed inside: parameters and bodies have been replaced, and some of them have been
moved. Here such a declarator is compared with the one that it was (`naming_commutes_inside`).
The same component is found in both, up to what has been named inside it
(`Wrapping.of?_nameAll`), and to name it comes to the same before and after.

The two sets of wrappers need not be the same: one is for the inside, the other one for the
declarator. A set without members names nothing (`Tree.wrappings_of_isEmpty`), as in a run.
-/

set_option autoImplicit false

namespace ComponentNaming

/-- The form of a component does not depend on a pass inside it. -/
theorem Component.form_mapDeclared (f : Tree .declarator → Tree .declarator)
    (component : Component) : (component.mapDeclared f).form = component.form := by
  cases component with
  | arrow head parameters body typeParameters returnType => cases body <;> rfl
  | anonymous head parameters decorators body typeParameters returnType => rfl

/-- What is found after naming inside a declarator is what is found before, with everything
inside it named. -/
theorem Wrapping.of?_nameAll (wrappers inner : Wrappers) (declarator : Tree .declarator) :
    of? wrappers (nameAll inner declarator).value =
      (of? wrappers declarator).map (Wrapping.mapDeclared (nameDeclared inner)) := by
  rw [value_nameAll, of?_mapDeclared]

/-- **Naming inside a declarator commutes with finding and naming its component.** After
everything inside the declarator is named, a wrapped component is found exactly if one was
found before. It has the same variable and the same form, its parameters, its body and the
other arguments are those of before with everything inside them named, and so is the
declarator in which it is named. Hence the declarator may be named, and its component
reported, before what is inside it or after. -/
theorem naming_commutes_inside (wrappers inner : Wrappers) (declarator : Tree .declarator) :
    (Wrapping.of? wrappers (nameAll inner declarator).value).isSome =
      (Wrapping.of? wrappers declarator).isSome ∧
    (∀ before after : Wrapping,
      Wrapping.of? wrappers declarator = some before →
      Wrapping.of? wrappers (nameAll inner declarator).value = some after →
      after.name = before.name ∧
      after.component.form = before.component.form ∧
      after.component.parameters = (nameAll inner before.component.parameters).value ∧
      after.component.body = (nameAll inner before.component.body).value ∧
      after.rest = (nameAll inner before.rest).value ∧
      after.named = (nameAll inner before.named).value) ∧
    (nameDeclarator wrappers (nameAll inner declarator).value).value =
      (nameAll inner (nameDeclarator wrappers declarator).value).value ∧
    (nameDeclarator wrappers (nameAll inner declarator).value).log =
      (nameDeclarator wrappers declarator).log := by
  refine ⟨?_, fun before after foundBefore foundAfter => ?_, ?_, ?_⟩
  · rw [Wrapping.of?_nameAll, Option.isSome_map]
  · rw [Wrapping.of?_nameAll, foundBefore, Option.map_some] at foundAfter
    obtain rfl := Option.some.inj foundAfter
    simp only [value_nameAll]
    exact ⟨rfl, before.component.form_mapDeclared _, before.component.parameters_mapDeclared _,
      before.component.body_mapDeclared _, rfl, before.named_mapDeclared _⟩
  · rw [value_nameAll, value_nameAll]
    exact nameDeclared_mapDeclared wrappers declarator (nameDeclared inner)
  · rw [log_nameDeclarator, log_nameDeclarator, Wrapping.of?_nameAll, Option.map_map]
    rfl

/-- In the declarator of `A`, to name what is inside names `B`. It leaves the parameter `p` its
extent, whose ends change places since the type is written before it, and what is found and
named is what the general statement says. -/
theorem naming_commutes_inside_nestedMemo :
    ∃ (declarator : Tree .declarator) (before after : Wrapping),
      declarator ∈ nestedMemo.declared ∧
      Wrapping.of? (.ofList ["memo"]) declarator = some before ∧
      Wrapping.of? (.ofList ["memo"]) (nameAll (.ofList ["memo"]) declarator).value = some after ∧
      namesIn (nameAll (.ofList ["memo"]) declarator).log = ["B"] ∧
      before.name.name = "A" ∧
      after.component.parameters = before.component.parameters ∧
      after.component.body = (nameAll (.ofList ["memo"]) before.component.body).value ∧
      after.named = (nameAll (.ofList ["memo"]) before.named).value := by
  obtain ⟨declarator, listed, before, found, after, foundAfter, inside, name, parameters⟩ :
      ∃ declarator ∈ nestedMemo.declared,
        ∃ before, Wrapping.of? (.ofList ["memo"]) declarator = some before ∧
        ∃ after, Wrapping.of? (.ofList ["memo"])
            (nameAll (.ofList ["memo"]) declarator).value = some after ∧
          namesIn (nameAll (.ofList ["memo"]) declarator).log = ["B"] ∧
          before.name.name = "A" ∧ after.component.parameters = before.component.parameters :=
    ⟨_, .tail _ (.head _), _, rfl, _, rfl, rfl, rfl, rfl⟩
  obtain ⟨_, commutes, _, _⟩ :=
    naming_commutes_inside (.ofList ["memo"]) (.ofList ["memo"]) declarator
  obtain ⟨_, _, _, body, _, named⟩ := commutes before after found foundAfter
  exact ⟨declarator, before, after, listed, found, foundAfter, inside, name, parameters, body,
    named⟩

end ComponentNaming
