import Mathlib.Data.List.Nodup

namespace Tproxy

variable {α : Type*} {next prev next' prev' : α → Option α} {before here : Option α}
  {order : List α} {x y : α}

/-- Following `next` from `here` visits exactly the cells `order`, and `prev`
leads back over them to `before`. -/
def DoublyLinked (next prev : α → Option α) : Option α → Option α → List α → Prop
  | _, here, [] => here = none
  | before, here, x :: rest => here = some x ∧ prev x = before ∧
      DoublyLinked next prev (some x) (next x) rest

theorem DoublyLinked.congr (linked : DoublyLinked next prev before here order)
    (sameNext : ∀ x ∈ order, next' x = next x) (samePrev : ∀ x ∈ order, prev' x = prev x) :
    DoublyLinked next' prev' before here order := by
  induction order generalizing before here with
  | nil => exact linked
  | cons x rest ih =>
    obtain ⟨first, back, linked⟩ := linked
    refine ⟨first, (samePrev x List.mem_cons_self).trans back, ?_⟩
    rw [sameNext x List.mem_cons_self]
    exact ih linked (fun y member => sameNext y (List.mem_cons_of_mem x member))
      fun y member => samePrev y (List.mem_cons_of_mem x member)

theorem DoublyLinked.here_eq (linked : DoublyLinked next prev before here order) :
    here = order.head? := by
  cases order with
  | nil => exact linked
  | cons x rest => exact linked.1

/-- The cell behind a cell of the list is in the list. -/
theorem DoublyLinked.next_mem (linked : DoublyLinked next prev before here order)
    (member : x ∈ order) (follows : next x = some y) : y ∈ order := by
  induction order generalizing before here with
  | nil => cases member
  | cons z rest ih =>
    obtain ⟨_, _, linked⟩ := linked
    rcases List.mem_cons.mp member with rfl | later
    · have first := linked.here_eq
      rw [follows] at first
      exact List.mem_cons_of_mem _ (List.mem_of_mem_head? first.symm)
    · exact List.mem_cons_of_mem z (ih linked later)

theorem DoublyLinked.prev_cases (linked : DoublyLinked next prev before here order)
    (member : x ∈ order) :
    here = some x ∧ prev x = before ∨ ∃ y ∈ order, prev x = some y ∧ next y = some x := by
  induction order generalizing before here with
  | nil => cases member
  | cons z rest ih =>
    obtain ⟨first, back, linked⟩ := linked
    rcases List.mem_cons.mp member with rfl | later
    · exact Or.inl ⟨first, back⟩
    · rcases ih linked later with ⟨second, back⟩ | ⟨y, inside, back, forth⟩
      · exact Or.inr ⟨z, List.mem_cons_self, back, second⟩
      · exact Or.inr ⟨y, List.mem_cons_of_mem z inside, back, forth⟩

/-- Exactly the first cell leads back to what lies before the list. -/
theorem DoublyLinked.prev_eq_before (linked : DoublyLinked next prev before here order)
    (outside : ∀ b, before = some b → b ∉ order) (member : x ∈ order) :
    prev x = before ↔ here = some x := by
  constructor
  · intro back
    rcases linked.prev_cases member with ⟨first, _⟩ | ⟨y, inside, back', _⟩
    · exact first
    · exact absurd inside (outside y (back.symm.trans back'))
  · intro first
    cases order with
    | nil => cases member
    | cons z rest =>
      obtain ⟨first', back, _⟩ := linked
      cases first.symm.trans first'
      exact back

variable [DecidableEq α]

/-- What lies before the list may change, if the first cell leads back to it. -/
theorem DoublyLinked.rebase {before' : Option α}
    (linked : DoublyLinked next prev before here order) (nodup : order.Nodup)
    (sameNext : ∀ x ∈ order, next' x = next x)
    (prev_eq : ∀ x ∈ order, prev' x = if here = some x then before' else prev x) :
    DoublyLinked next' prev' before' here order := by
  cases order with
  | nil => exact linked
  | cons x rest =>
    obtain ⟨first, _, linked⟩ := linked
    obtain ⟨apart, _⟩ := List.nodup_cons.mp nodup
    refine ⟨first, (prev_eq x List.mem_cons_self).trans (if_pos first), ?_⟩
    rw [sameNext x List.mem_cons_self]
    refine linked.congr (fun y member => sameNext y (List.mem_cons_of_mem x member)) fun y member => ?_
    have other : ¬ here = some y := by
      rw [first]
      intro same
      exact apart (Option.some.inj same ▸ member)
    exact (prev_eq y (List.mem_cons_of_mem x member)).trans (if_neg other)

/-- A new cell goes to the front. -/
theorem DoublyLinked.push (linked : DoublyLinked next prev none here order) (nodup : order.Nodup)
    (sameNext : ∀ y ∈ order, next' y = next y) (own : next' x = here) (first : prev' x = none)
    (prev_eq : ∀ y ∈ order, prev' y = if here = some y then some x else prev y) :
    DoublyLinked next' prev' none (some x) (x :: order) :=
  ⟨rfl, first, own ▸ linked.rebase nodup sameNext prev_eq⟩

/-- A cell is taken out when its neighbours are linked to each other. -/
theorem DoublyLinked.remove (linked : DoublyLinked next prev before here order) (nodup : order.Nodup)
    (outside : ∀ b, before = some b → b ∉ order) (member : x ∈ order)
    (next_eq : ∀ y ∈ order, y ≠ x → next' y = if prev x = some y then next x else next y)
    (prev_eq : ∀ y ∈ order, y ≠ x → prev' y = if next x = some y then prev x else prev y) :
    DoublyLinked next' prev' before (if here = some x then next x else here) (order.erase x) := by
  induction order generalizing before here with
  | nil => cases member
  | cons z rest ih =>
    obtain ⟨first, back, linked⟩ := linked
    obtain ⟨apart, nodup'⟩ := List.nodup_cons.mp nodup
    have outside' : ∀ b, some z = some b → b ∉ rest := fun b same => Option.some.inj same ▸ apart
    by_cases own : z = x
    · subst own
      rw [if_pos first, List.erase_cons_head]
      have differs (y : α) (inside : y ∈ rest) : y ≠ z := fun same => apart (same ▸ inside)
      refine linked.rebase nodup' (fun y inside => ?_) fun y inside => ?_
      · have other : ¬ prev z = some y := by
          rw [back]
          intro same
          exact outside y same (List.mem_cons_of_mem z inside)
        rw [next_eq y (List.mem_cons_of_mem z inside) (differs y inside), if_neg other]
      · rw [prev_eq y (List.mem_cons_of_mem z inside) (differs y inside), back]
    · have later : x ∈ rest := (List.mem_cons.mp member).resolve_left fun same => own same.symm
      have other : ¬ here = some x := by
        rw [first]
        intro same
        exact own (Option.some.inj same)
      have forward : ¬ next x = some z := fun follows => apart (linked.next_mem later follows)
      rw [if_neg other, List.erase_cons_tail (by simpa only [beq_iff_eq] using own)]
      refine ⟨first, ?_, ?_⟩
      · rw [prev_eq z List.mem_cons_self own, if_neg forward, back]
      · rw [next_eq z List.mem_cons_self own]
        simp only [linked.prev_eq_before outside' later]
        exact ih linked nodup' outside' later
          (fun y inside => next_eq y (List.mem_cons_of_mem z inside))
          fun y inside => prev_eq y (List.mem_cons_of_mem z inside)

end Tproxy
