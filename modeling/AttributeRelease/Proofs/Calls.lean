import AttributeRelease.Predicate

/-! Computations that record calls obey the laws of monads, so that they can be rewritten without
looking at the record. -/

namespace AttributeRelease

namespace Traced

variable {α β : Type}

@[ext] theorem ext {first second : Traced α} (value : first.value = second.value) (calls : first.calls = second.calls) :
    first = second := by
  cases first
  cases second
  cases value
  cases calls
  rfl

instance : LawfulMonad Traced := LawfulMonad.mk' Traced
  (by
    intro α traced
    exact ext rfl (List.append_nil traced.calls))
  (fun _ _ => rfl)
  (by
    intro α β γ traced first second
    exact ext rfl (List.append_assoc ..))

theorem bind_eq_self {traced : Traced α} {next : α → Traced α} (same : next traced.value = pure traced.value) :
    (traced >>= next) = traced := by
  refine ext ?_ ?_
  · rw [value_bind, same, value_pure]
  · rw [calls_bind, same, calls_pure, List.append_nil]

end Traced

end AttributeRelease
