import AttributeRelease.Request.Basic

/-! Conditions that an application brings along, and the record of the calls to them. -/

namespace AttributeRelease

/-- A condition on a request. Predicates of one name are taken to be the same. -/
structure RequestPredicate where
  name : String
  test : Request → Except String Bool

/-- A condition on a value of an attribute. -/
structure ValuePredicate where
  name : String
  test : Request → Attribute → Value → Except String Bool

/-- A value, and the names of the predicates that were called for it, in the order of the
calls. -/
structure Traced (α : Type) where
  value : α
  calls : List String := []

namespace Traced

variable {α β : Type}

instance : Monad Traced where
  pure value := ⟨value, []⟩
  bind first next :=
    let second := next first.value
    ⟨second.value, first.calls ++ second.calls⟩

instance [Inhabited α] : Inhabited (Traced α) := ⟨⟨default, []⟩⟩

/-- The result of a call to the predicate `name`. -/
def called (name : String) (value : α) : Traced α := ⟨value, [name]⟩

@[simp] theorem value_pure (value : α) : (pure value : Traced α).value = value := rfl

@[simp] theorem calls_pure (value : α) : (pure value : Traced α).calls = [] := rfl

@[simp] theorem value_bind (first : Traced α) (next : α → Traced β) :
    (first >>= next).value = (next first.value).value := rfl

@[simp] theorem calls_bind (first : Traced α) (next : α → Traced β) :
    (first >>= next).calls = first.calls ++ (next first.value).calls := rfl

end Traced

end AttributeRelease
