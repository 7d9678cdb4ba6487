import Mathlib.Order.Lattice

namespace Tproxy

variable {α β : Type*} [LinearOrder β] {better : α → α → Bool} {key : α → β}

/-- One pass over `xs` that starts from `best`, if there is one, and replaces
it on strict improvement only. -/
def strictScan (better : α → α → Bool) : Option α → List α → Option α
  | best, [] => best
  | none, x :: xs => strictScan better (some x) xs
  | some b, x :: xs => strictScan better (some (if better x b then x else b)) xs

theorem strictScan_some (better : α → α → Bool) (b : α) (xs : List α) :
    ∃ c, strictScan better (some b) xs = some c ∧ (c = b ∨ c ∈ xs) := by
  induction xs generalizing b with
  | nil => exact ⟨b, rfl, Or.inl rfl⟩
  | cons x xs ih =>
    obtain ⟨c, run, origin⟩ := ih (if better x b then x else b)
    refine ⟨c, run, ?_⟩
    rcases origin with same | later
    · split at same
      · exact Or.inr (same ▸ List.mem_cons_self)
      · exact Or.inl same
    · exact Or.inr (List.mem_cons_of_mem x later)

theorem strictScan_eq_none {best : Option α} {xs : List α} :
    strictScan better best xs = none ↔ best = none ∧ xs = [] := by
  cases best with
  | some b =>
    obtain ⟨c, run, _⟩ := strictScan_some better b xs
    simp [run]
  | none =>
    cases xs with
    | nil => simp [strictScan]
    | cons x xs =>
      obtain ⟨c, run, _⟩ := strictScan_some better x xs
      simp [strictScan, run]

theorem strictScan_mem {best : Option α} {xs : List α} {c : α}
    (run : strictScan better best xs = some c) : best = some c ∨ c ∈ xs := by
  cases best with
  | some b =>
    obtain ⟨d, found, origin⟩ := strictScan_some better b xs
    obtain rfl := Option.some.inj (found.symm.trans run)
    exact origin.imp_left fun same => congrArg some same.symm
  | none =>
    cases xs with
    | nil => cases run
    | cons x xs =>
      obtain ⟨d, found, origin⟩ := strictScan_some better x xs
      obtain rfl := Option.some.inj (found.symm.trans run)
      exact Or.inr (List.mem_cons.mpr origin)

/-- The result of the pass is minimal for the key that `better` compares. -/
theorem strictScan_some_le (compares : ∀ a b, better a b = true ↔ key a < key b) {b c : α}
    {xs : List α} (run : strictScan better (some b) xs = some c) :
    key c ≤ key b ∧ ∀ x ∈ xs, key c ≤ key x := by
  induction xs generalizing b with
  | nil =>
    obtain rfl := Option.some.inj run
    exact ⟨le_rfl, by simp⟩
  | cons x xs ih =>
    simp only [strictScan] at run
    obtain ⟨head, rest⟩ := ih run
    have step : key (if better x b then x else b) ≤ key x ∧
        key (if better x b then x else b) ≤ key b := by
      split
      · rename_i improved
        exact ⟨le_rfl, ((compares x b).mp improved).le⟩
      · rename_i kept
        exact ⟨not_lt.mp fun less => kept ((compares x b).mpr less), le_rfl⟩
    exact ⟨head.trans step.2, List.forall_mem_cons.mpr ⟨head.trans step.1, rest⟩⟩

theorem strictScan_le (compares : ∀ a b, better a b = true ↔ key a < key b) {best : Option α}
    {c : α} {xs : List α} (run : strictScan better best xs = some c) :
    (∀ b ∈ best, key c ≤ key b) ∧ ∀ x ∈ xs, key c ≤ key x := by
  cases best with
  | some b =>
    obtain ⟨head, rest⟩ := strictScan_some_le compares run
    exact ⟨by rintro _ ⟨⟩; exact head, rest⟩
  | none =>
    cases xs with
    | nil => cases run
    | cons x xs =>
      obtain ⟨head, rest⟩ := strictScan_some_le compares run
      exact ⟨by simp, List.forall_mem_cons.mpr ⟨head, rest⟩⟩

/-- A start that is already minimal is kept, also against equal keys. -/
theorem strictScan_keep (compares : ∀ a b, better a b = true ↔ key a < key b) {b : α}
    {xs : List α} (minimal : ∀ x ∈ xs, key b ≤ key x) : strictScan better (some b) xs = some b := by
  induction xs with
  | nil => rfl
  | cons x xs ih =>
    obtain ⟨head, rest⟩ := List.forall_mem_cons.mp minimal
    have kept : ¬ better x b = true := fun improved => not_lt.mpr head ((compares x b).mp improved)
    simp only [strictScan, if_neg kept]
    exact ih rest

/-- The result is the start, or the first of the least elements. -/
theorem strictScan_some_first (compares : ∀ a b, better a b = true ↔ key a < key b) {b c : α}
    {xs : List α} (run : strictScan better (some b) xs = some c) :
    c = b ∨ key c < key b ∧
      ∃ before after, xs = before ++ c :: after ∧ ∀ x ∈ before, key c < key x := by
  induction xs generalizing b with
  | nil => exact Or.inl (Option.some.inj run).symm
  | cons x xs ih =>
    simp only [strictScan] at run
    split at run
    · rename_i improved
      have less := (compares x b).mp improved
      rcases ih run with rfl | ⟨below, before, after, rfl, first⟩
      · exact Or.inr ⟨less, [], xs, rfl, by simp⟩
      · exact Or.inr ⟨below.trans less, x :: before, after, rfl,
          List.forall_mem_cons.mpr ⟨below, first⟩⟩
    · rename_i kept
      have least : key b ≤ key x := not_lt.mp fun less => kept ((compares x b).mpr less)
      rcases ih run with same | ⟨below, before, after, rfl, first⟩
      · exact Or.inl same
      · exact Or.inr ⟨below, x :: before, after, rfl,
          List.forall_mem_cons.mpr ⟨below.trans_le least, first⟩⟩

theorem strictScan_first (compares : ∀ a b, better a b = true ↔ key a < key b) {c : α}
    {xs : List α} (run : strictScan better none xs = some c) :
    ∃ before after, xs = before ++ c :: after ∧ ∀ x ∈ before, key c < key x := by
  cases xs with
  | nil => cases run
  | cons x xs =>
    rcases strictScan_some_first compares run with rfl | ⟨below, before, after, rfl, first⟩
    · exact ⟨[], xs, rfl, by simp⟩
    · exact ⟨x :: before, after, rfl, List.forall_mem_cons.mpr ⟨below, first⟩⟩

end Tproxy
