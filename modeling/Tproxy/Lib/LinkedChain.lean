import Mathlib.Data.List.Nodup

namespace Tproxy

variable {α : Type*} {next other : α → α} {nil a x : α} {xs ys : List α}

/-- Following `next` from `a` visits exactly the cells `xs`, none of them
`nil`, and then ends at `nil`. -/
def LinkedChain (next : α → α) (nil : α) : α → List α → Prop
  | a, [] => a = nil
  | a, x :: xs => a = x ∧ x ≠ nil ∧ LinkedChain next nil (next x) xs

theorem LinkedChain.head_nil_iff (chain : LinkedChain next nil a xs) : a = nil ↔ xs = [] := by
  cases xs with
  | nil => exact ⟨fun _ => rfl, fun _ => chain⟩
  | cons x xs =>
    obtain ⟨rfl, live, _⟩ := chain
    exact ⟨fun same => absurd same live, fun empty => by cases empty⟩

/-- The visited cells are determined by the links and the entry cell. -/
theorem LinkedChain.unique (chain : LinkedChain next nil a xs)
    (again : LinkedChain next nil a ys) : xs = ys := by
  induction xs generalizing a ys with
  | nil => exact (again.head_nil_iff.mp chain).symm
  | cons x xs ih =>
    obtain ⟨rfl, live, rest⟩ := chain
    cases ys with
    | nil => exact absurd again live
    | cons y ys =>
      obtain ⟨rfl, _, rest'⟩ := again
      rw [ih rest rest']

theorem LinkedChain.drop (chain : LinkedChain next nil a xs) {pre post : List α}
    (split : xs = pre ++ x :: post) : LinkedChain next nil x (x :: post) := by
  induction pre generalizing a xs with
  | nil =>
    subst split
    obtain ⟨rfl, live, rest⟩ := chain
    exact ⟨rfl, live, rest⟩
  | cons y pre ih =>
    subst split
    exact ih chain.2.2 rfl

/-- A chain that ends is acyclic: a repeated cell would have two different
continuations from the same links. -/
theorem LinkedChain.nodup (chain : LinkedChain next nil a xs) : xs.Nodup := by
  induction xs generalizing a with
  | nil => exact List.nodup_nil
  | cons x xs ih =>
    refine List.nodup_cons.mpr ⟨fun member => ?_, ih chain.2.2⟩
    obtain ⟨pre, post, split⟩ := List.append_of_mem member
    have early := chain.drop (List.nil_append (x :: xs)).symm
    have late := chain.2.2.drop split
    have same := congrArg List.length (early.unique late)
    simp only [split, List.length_cons, List.length_append] at same
    omega

/-- Only the links of the visited cells matter. -/
theorem LinkedChain.congr (chain : LinkedChain next nil a xs)
    (agree : ∀ x ∈ xs, other x = next x) : LinkedChain other nil a xs := by
  induction xs generalizing a with
  | nil => exact chain
  | cons x xs ih =>
    obtain ⟨rfl, live, rest⟩ := chain
    refine ⟨rfl, live, ?_⟩
    rw [agree a List.mem_cons_self]
    exact ih rest fun y member => agree y (List.mem_cons_of_mem a member)

end Tproxy
