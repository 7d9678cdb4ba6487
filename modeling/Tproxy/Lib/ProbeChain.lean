import Mathlib.Data.Nat.Find
import Mathlib.Logic.Function.Iterate

namespace Tproxy

variable {α : Type*} {next : α → α} {P Q : α → Prop} {n : Nat} {start stop : α}

/-- Within `n` probes from `start`, the chain reaches `stop` over cells with `P`. -/
def LeadsTo (next : α → α) (P : α → Prop) (n : Nat) (start stop : α) : Prop :=
  ∃ k < n, next^[k] start = stop ∧ ∀ j < k, P (next^[j] start)

theorem LeadsTo.here (start : α) : LeadsTo next P (n + 1) start start :=
  ⟨0, Nat.succ_pos n, rfl, fun _ none => by cases none⟩

theorem LeadsTo.step (passes : P start) (leads : LeadsTo next P n (next start) stop) :
    LeadsTo next P (n + 1) start stop := by
  obtain ⟨k, bound, reaches, before⟩ := leads
  refine ⟨k + 1, Nat.succ_lt_succ bound, reaches, fun j earlier => ?_⟩
  cases j with
  | zero => exact passes
  | succ j => exact before j (Nat.lt_of_succ_lt_succ earlier)

/-- A chain that does not stop at once goes on from the next cell. -/
theorem LeadsTo.cases (leads : LeadsTo next P (n + 1) start stop) :
    start = stop ∨ P start ∧ LeadsTo next P n (next start) stop := by
  obtain ⟨k, bound, reaches, before⟩ := leads
  cases k with
  | zero => exact Or.inl reaches
  | succ k =>
    exact Or.inr ⟨before 0 (Nat.succ_pos k), k, Nat.lt_of_succ_lt_succ bound, reaches,
      fun j earlier => before (j + 1) (Nat.succ_lt_succ earlier)⟩

/-- The cells before the first visit of `stop` are other cells, so only these
have to keep what the chain passes over. -/
theorem LeadsTo.mono (leads : LeadsTo next P n start stop) (keeps : ∀ a, a ≠ stop → P a → Q a) :
    LeadsTo next Q n start stop := by
  induction n generalizing start with
  | zero =>
    obtain ⟨k, bound, _⟩ := leads
    cases bound
  | succ n ih =>
    by_cases here : start = stop
    · exact here ▸ .here start
    · obtain ⟨passes, rest⟩ := leads.cases.resolve_left here
      exact (ih rest).step (keeps start here passes)

/-- Every cell of the chain has what the first one has and `next` gives. -/
theorem LeadsTo.range (leads : LeadsTo next P n start stop) (first : Q start)
    (others : ∀ a, Q (next a)) : Q stop := by
  obtain ⟨k, _, reaches, _⟩ := leads
  cases k with
  | zero => exact reaches ▸ first
  | succ k =>
    rw [Function.iterate_succ_apply'] at reaches
    exact reaches ▸ others _

/-- Two chains of one start stop at the first cell without `P`. -/
theorem LeadsTo.unique {m : Nat} {other : α} (one : LeadsTo next P n start stop)
    (two : LeadsTo next P m start other) (stops : ¬P stop) (stops' : ¬P other) : stop = other := by
  obtain ⟨k, _, reaches, before⟩ := one
  obtain ⟨l, _, reaches', before'⟩ := two
  rcases Nat.lt_trichotomy k l with less | same | more
  · exact absurd (reaches ▸ before' k less) stops
  · rw [← reaches, ← reaches', same]
  · exact absurd (reaches' ▸ before l more) stops'

/-- The first cell without `P` ends a chain over `P`. -/
theorem LeadsTo.first (missing : ∃ k < n, ¬P (next^[k] start)) :
    ∃ stop, LeadsTo next P n start stop ∧ ¬P stop := by
  classical
  obtain ⟨k, bound, fails⟩ := missing
  have some_ : ∃ k, ¬P (next^[k] start) := ⟨k, fails⟩
  refine ⟨_, ⟨Nat.find some_, Nat.lt_of_le_of_lt (Nat.find_min' some_ fails) bound, rfl,
    fun j earlier => not_not.mp (Nat.find_min some_ earlier)⟩, Nat.find_spec some_⟩

/-- The first `n` probes from `start` visit `a`, and up to there only cells with `P`. -/
def PassesOver (next : α → α) (P : α → Prop) (n : Nat) (start a : α) : Prop :=
  ∃ j < n, next^[j] start = a ∧ ∀ i ≤ j, P (next^[i] start)

theorem LeadsTo.restrict (leads : LeadsTo next P n start stop)
    (keeps : ∀ a, PassesOver next P n start a → Q a) : LeadsTo next Q n start stop := by
  obtain ⟨k, bound, reaches, before⟩ := leads
  refine ⟨k, bound, reaches, fun j earlier => keeps _ ⟨j, Nat.lt_trans earlier bound, rfl, ?_⟩⟩
  exact fun i le => before i (Nat.lt_of_le_of_lt le earlier)

/-- The first cell without `Q` that is passed over ends a chain over `P` and `Q`. -/
theorem PassesOver.first {a : α} (passes : PassesOver next P n start a) (fails : ¬Q a) :
    ∃ b, LeadsTo next (fun c => P c ∧ Q c) n start b ∧ P b ∧ ¬Q b := by
  classical
  obtain ⟨j, bound, rfl, before⟩ := passes
  have missing : ∃ i, ¬Q (next^[i] start) := ⟨j, fails⟩
  have le := Nat.find_min' missing fails
  refine ⟨_, ⟨Nat.find missing, Nat.lt_of_le_of_lt le bound, rfl, fun i earlier => ⟨?_, ?_⟩⟩,
    before _ le, Nat.find_spec missing⟩
  · exact before i (Nat.le_trans (Nat.le_of_lt earlier) le)
  · exact not_not.mp (Nat.find_min missing earlier)

end Tproxy
