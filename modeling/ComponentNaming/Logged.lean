/-!
# Values with a log

A computation that reports entries as it goes is a value together with the entries, in
the order in which they were reported. Sequencing two computations keeps the entries of
the first before those of the second (`Logged.log_bind`).
-/

set_option autoImplicit false

namespace ComponentNaming

/-- A value and the entries reported on the way to it. -/
structure Logged (Entry : Type) (α : Type) where
  value : α
  log : List Entry
  deriving DecidableEq, Repr

namespace Logged

variable {Entry α β : Type}

instance : Monad (Logged Entry) where
  pure value := ⟨value, []⟩
  bind first next := ⟨(next first.value).value, first.log ++ (next first.value).log⟩

/-- Reports one entry. -/
def report (entry : Entry) : Logged Entry Unit := ⟨(), [entry]⟩

@[ext] theorem ext {first second : Logged Entry α} (value : first.value = second.value)
    (log : first.log = second.log) : first = second := by
  cases first
  cases second
  simp_all only

@[simp] theorem value_pure (a : α) : (pure a : Logged Entry α).value = a := rfl

@[simp] theorem log_pure (a : α) : (pure a : Logged Entry α).log = [] := rfl

@[simp] theorem value_bind (first : Logged Entry α) (next : α → Logged Entry β) :
    (first >>= next).value = (next first.value).value := rfl

@[simp] theorem log_bind (first : Logged Entry α) (next : α → Logged Entry β) :
    (first >>= next).log = first.log ++ (next first.value).log := rfl

@[simp] theorem value_map (f : α → β) (first : Logged Entry α) :
    (f <$> first).value = f first.value := rfl

@[simp] theorem log_map (f : α → β) (first : Logged Entry α) :
    (f <$> first).log = first.log := by
  change first.log ++ [] = first.log
  exact List.append_nil _

@[simp] theorem log_report (entry : Entry) : (report entry).log = [entry] := rfl

instance : LawfulMonad (Logged Entry) :=
  LawfulMonad.mk' _ (fun first => by ext1 <;> simp) (fun a next => by ext1 <;> simp)
    (fun first next last => by ext1 <;> simp)

end Logged

end ComponentNaming
