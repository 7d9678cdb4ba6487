import Tproxy.Selector.Update

namespace Tproxy

variable {s : SsSelector} {triedMask b c : Nat} {allow later : Bool}

/-- A server that was not tried, such that no other untried one is strictly
better: healthier, or as healthy with a smaller score. -/
structure SsSelector.Least (s : SsSelector) (triedMask c : Nat) : Prop where
  configured : c < s.serverCount
  untried : triedMask.testBit c = false
  minimal : ∀ i < s.serverCount, triedMask.testBit i = false →
    ¬(ssHealthRank (s.health i) < ssHealthRank (s.health c) ∨
      ssHealthRank (s.health i) = ssHealthRank (s.health c) ∧ s.score i < s.score c)

theorem SsSelector.Least.key_le (least : s.Least triedMask c) {i : Nat} (bound : i < s.serverCount)
    (untried : triedMask.testBit i = false) : s.key c ≤ s.key i :=
  not_lt.mp fun less => least.minimal i bound untried (SsSelector.key_lt_iff.mp less)

/-- The order of the servers does not depend on which one is selected. -/
theorem SsSelector.Least.select (least : s.Least triedMask c) (b : Nat) :
    { s with bestIdx := b }.Least triedMask c :=
  ⟨least.configured, least.untried, least.minimal⟩

theorem ssCandidateLocked_least (found : ssCandidateLocked s triedMask = some c) :
    s.Least triedMask c := by
  obtain ⟨⟨configured, untried⟩, least⟩ := ssCandidateLocked_spec found
  refine ⟨configured, untried, fun i bound free better => ?_⟩
  exact not_lt.mpr (least i bound free) (SsSelector.key_lt_iff.mpr better)

theorem SsSelector.Least.kept (least : s.Least triedMask s.bestIdx) :
    ssCandidateLocked s triedMask = some s.bestIdx :=
  ssCandidateLocked_keep least.configured least.untried fun _ bound free => least.key_le bound free

section Again

theorem SsSelector.Stays.mono (stays : s.Stays b allow) (calmer : later = true → allow = true) :
    s.Stays b later := by
  rcases stays with same | ⟨equal, reason⟩
  · exact Or.inl same
  · refine Or.inr ⟨equal, reason.imp_left fun unset => ?_⟩
    cases later with
    | false => rfl
    | true => exact (calmer rfl).symm.trans unset

/-- The second of two updates without a failure changes nothing, unless only
that one may switch on a score: the first one moved to a server that is the
candidate again, or stayed for a reason that still holds. -/
theorem ssUpdateBestLocked_again (calmer : later = true → allow = true) :
    ssUpdateBestLocked (ssUpdateBestLocked s none allow) none later =
      ssUpdateBestLocked s none allow := by
  cases found : ssCandidateLocked s 0 with
  | none =>
    have unchanged (allow : Bool) : ssUpdateBestLocked s none allow = s := by
      simp only [ssUpdateBestLocked, found]
    rw [unchanged, unchanged]
  | some b =>
    by_cases stays : s.Stays b allow
    · rw [ssUpdateBestLocked_stays s.not_forced_none found stays,
        ssUpdateBestLocked_stays s.not_forced_none found (stays.mono calmer)]
    · have least := (ssCandidateLocked_least found).select b
      rw [ssUpdateBestLocked_moves s.not_forced_none found stays,
        ssUpdateBestLocked_stays SsSelector.not_forced_none least.kept (Or.inl rfl)]

end Again

/-- The candidate is a least untried server, the selected one if that is least
already; so an update without a failure is not followed by another change. -/
theorem ss_candidate_least_stable (s : SsSelector) (triedMask : Nat) :
    (ssCandidateLocked s triedMask = none ↔ ∀ i < s.serverCount, triedMask.testBit i = true) ∧
    (∀ c, ssCandidateLocked s triedMask = some c → s.Least triedMask c) ∧
    (s.Least triedMask s.bestIdx → ssCandidateLocked s triedMask = some s.bestIdx) ∧
    (∀ allow, ssUpdateBestLocked (ssUpdateBestLocked s none allow) none allow =
      ssUpdateBestLocked s none allow) ∧
    ssUpdateBestLocked (ssUpdateBestLocked s none true) none false = ssUpdateBestLocked s none true :=
  ⟨ssCandidateLocked_eq_none, fun _ => ssCandidateLocked_least, SsSelector.Least.kept,
    fun _ => ssUpdateBestLocked_again id, ssUpdateBestLocked_again fun _ => rfl⟩

/-- Among three servers without samples the selected one stays, although the
first has the same key. -/
theorem ss_candidate_least_stable_three :
    ssCandidateLocked { serverSelectorInit 3 fun _ _ => default with bestIdx := 1 } 0 = some 1 ∧
    ssCandidateLocked { serverSelectorInit 3 fun _ _ => default with bestIdx := 1 } 7 = none := by
  have stable := ss_candidate_least_stable { serverSelectorInit 3 fun _ _ => default with bestIdx := 1 }
  exact ⟨(stable 0).2.2.1 ⟨by decide, by decide, by decide⟩, (stable 7).1.mpr (by decide)⟩

end Tproxy
