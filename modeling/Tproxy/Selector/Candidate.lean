import Mathlib.Data.Prod.Lex
import Tproxy.Selector.State

namespace Tproxy

variable {s : SsSelector} {triedMask c : Nat}

/-- What the selector compares: first the health rank, then the score. -/
def SsSelector.key (s : SsSelector) (i : Nat) : ℕ ×ₗ ℕ :=
  toLex (ssHealthRank (s.health i), s.score i)

theorem ssHealthRank_injective : Function.Injective ssHealthRank := by
  intro a b same
  cases a <;> cases b <;> first | rfl | cases same

theorem SsSelector.key_lt_iff {a b : Nat} :
    s.key a < s.key b ↔ ssHealthRank (s.health a) < ssHealthRank (s.health b) ∨
      ssHealthRank (s.health a) = ssHealthRank (s.health b) ∧ s.score a < s.score b := by
  rw [SsSelector.key, SsSelector.key, Prod.Lex.toLex_lt_toLex]

theorem ssBetterLocked_iff (s : SsSelector) (a b : Nat) :
    ssBetterLocked s a b = true ↔ s.key a < s.key b := by
  rw [SsSelector.key_lt_iff]
  simp only [ssBetterLocked, Bool.or_eq_true, Bool.and_eq_true, decide_eq_true_eq]

/-- A smaller key never has a worse health rank. -/
theorem SsSelector.rank_le_of_key_le {a b : Nat} (le : s.key a ≤ s.key b) :
    ssHealthRank (s.health a) ≤ ssHealthRank (s.health b) := by
  rw [SsSelector.key, SsSelector.key, Prod.Lex.toLex_le_toLex] at le
  rcases le with less | ⟨same, _⟩
  · exact Nat.le_of_lt less
  · exact Nat.le_of_eq same

theorem SsSelector.mem_untried {i : Nat} :
    i ∈ s.untried triedMask ↔ i < s.serverCount ∧ triedMask.testBit i = false := by
  simp only [SsSelector.untried, List.mem_filter, List.mem_range, Bool.not_eq_true']

/-- The candidate is an untried server with the least key among these. -/
theorem ssCandidateLocked_spec (found : ssCandidateLocked s triedMask = some c) :
    (c < s.serverCount ∧ triedMask.testBit c = false) ∧
      ∀ i < s.serverCount, triedMask.testBit i = false → s.key c ≤ s.key i := by
  unfold ssCandidateLocked at found
  have compares := ssBetterLocked_iff s
  constructor
  · rcases strictScan_mem found with start | scanned
    · split at start
      · cases start
      · rename_i usable
        cases start
        simp only [not_or, Bool.not_eq_true] at usable
        exact ⟨by omega, usable.2⟩
    · exact SsSelector.mem_untried.mp scanned
  · intro i bound untried
    exact (strictScan_le compares found).2 i (SsSelector.mem_untried.mpr ⟨bound, untried⟩)

/-- There is no candidate exactly when every configured server was tried. -/
theorem ssCandidateLocked_eq_none :
    ssCandidateLocked s triedMask = none ↔ ∀ i < s.serverCount, triedMask.testBit i = true := by
  unfold ssCandidateLocked
  rw [strictScan_eq_none, List.eq_nil_iff_forall_not_mem]
  simp only [SsSelector.mem_untried, not_and, Bool.not_eq_false]
  constructor
  · exact fun none => none.2
  · intro tried
    refine ⟨?_, tried⟩
    by_cases valid : s.bestIdx < s.serverCount
    · rw [if_pos (Or.inr (tried _ valid))]
    · rw [if_pos (Or.inl (by omega))]

/-- The selected server is kept as the candidate while no key is smaller. -/
theorem ssCandidateLocked_keep (valid : s.bestIdx < s.serverCount)
    (untried : triedMask.testBit s.bestIdx = false)
    (minimal : ∀ i < s.serverCount, triedMask.testBit i = false → s.key s.bestIdx ≤ s.key i) :
    ssCandidateLocked s triedMask = some s.bestIdx := by
  unfold ssCandidateLocked
  rw [if_neg (by simp only [untried, Bool.false_eq_true, or_false]; omega)]
  refine strictScan_keep (ssBetterLocked_iff s) fun i member => ?_
  obtain ⟨bound, free⟩ := SsSelector.mem_untried.mp member
  exact minimal i bound free

end Tproxy
