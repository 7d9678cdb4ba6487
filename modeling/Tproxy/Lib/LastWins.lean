import Mathlib.Data.List.Induction

namespace Tproxy

variable {α β σ ε : Type*}

/-- The value that the last of the items gives, or a default. -/
def lastOf (value : α → Option β) (items : List α) (default : β) : β :=
  (items.reverse.findSome? value).getD default

theorem lastOf_concat (value : α → Option β) (items : List α) (a : α) (default : β) :
    lastOf value (items ++ [a]) default = (value a).getD (lastOf value items default) := by
  rw [lastOf, List.reverse_append, List.reverse_singleton, List.singleton_append, List.findSome?_cons]
  cases value a <;> rfl

/-- What holds of the default and of every value that an item gives. -/
theorem lastOf_of (property : β → Prop) {value : α → Option β} {items : List α} {default : β}
    (base : property default) (values : ∀ a ∈ items, ∀ b, value a = some b → property b) :
    property (lastOf value items default) := by
  rw [lastOf]
  cases found : items.reverse.findSome? value with
  | none => exact base
  | some b =>
    obtain ⟨a, member, gives⟩ := List.exists_of_findSome?_eq_some found
    exact values a (List.mem_reverse.mp member) b gives

/-- A component that each item sets or leaves ends with what the last item set. -/
theorem foldl_lastOf {step : σ → α → σ} {component : σ → β} {value : α → Option β}
    (sets : ∀ s a, component (step s a) = (value a).getD (component s)) (items : List α) (s : σ) :
    component (items.foldl step s) = lastOf value items (component s) := by
  induction items using List.reverseRecOn with
  | nil => rfl
  | append_singleton items a ih =>
    rw [List.foldl_append, List.foldl_cons, List.foldl_nil, sets, ih, lastOf_concat]

/-- A flag that some items set and none resets. -/
theorem foldl_flag {step : σ → α → σ} {flag : σ → Bool} {on : α → Bool}
    (sets : ∀ s a, flag (step s a) = (on a || flag s)) (items : List α) (s : σ) :
    flag (items.foldl step s) = (items.any on || flag s) := by
  induction items generalizing s with
  | nil => simp
  | cons a items ih =>
    rw [List.foldl_cons, ih, sets, List.any_cons]
    cases on a <;> simp

section Failing
variable {step : σ → α → Except ε σ} {s t : σ} {items : List α}

theorem foldlM_append_ok {more : List α} (first : items.foldlM step s = .ok t) :
    (items ++ more).foldlM step s = more.foldlM step t := by
  rw [List.foldlM_append, first]
  rfl

/-- A fold that fails does so at its first item that fails. -/
theorem foldlM_error_iff {e : ε} : items.foldlM step s = .error e ↔
    ∃ before a after t, items = before ++ a :: after ∧ before.foldlM step s = .ok t ∧
      step t a = .error e := by
  constructor
  · intro failed
    induction items generalizing s with
    | nil => cases failed
    | cons a items ih =>
      rw [List.foldlM_cons] at failed
      cases run : step s a with
      | error e' =>
        rw [run] at failed
        cases failed
        exact ⟨[], a, items, s, rfl, rfl, run⟩
      | ok next =>
        rw [run] at failed
        obtain ⟨before, b, after, t, rfl, first, last⟩ := ih failed
        refine ⟨a :: before, b, after, t, rfl, ?_, last⟩
        rw [List.foldlM_cons, run]
        exact first
  · rintro ⟨before, a, after, t, rfl, first, last⟩
    rw [foldlM_append_ok first, List.foldlM_cons, last]
    rfl

end Failing

end Tproxy
