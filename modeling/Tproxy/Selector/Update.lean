import Tproxy.Selector.Candidate

namespace Tproxy

variable {s : SsSelector} {failedIdx : Option Nat} {allowScoreSwitch : Bool}

/-- No server has a better health rank than `best`. -/
def SsSelector.Healthiest (s : SsSelector) (best : Nat) : Prop :=
  ∀ i < s.serverCount, ssHealthRank (s.health best) ≤ ssHealthRank (s.health i)

/-- The selection is a configured server and none has a better health rank. -/
structure SelectorInv (s : SsSelector) : Prop where
  valid : s.bestIdx < s.serverCount
  healthiest : s.Healthiest s.bestIdx

/-- The update is forced away from the selected server: it is the one that
just failed and there are others. -/
def SsSelector.Forced (s : SsSelector) (failedIdx : Option Nat) : Prop :=
  failedIdx = some s.bestIdx ∧ s.serverCount > 1

/-- Without a failure nothing forces a move. -/
theorem SsSelector.not_forced_none : ¬s.Forced none := fun forced => by cases forced.1

/-- An update that is not forced stays where it is although `b` is the candidate. -/
def SsSelector.Stays (s : SsSelector) (b : Nat) (allow : Bool) : Prop :=
  b = s.bestIdx ∨ s.health b = s.health s.bestIdx ∧ (allow = false ∨
    s.score b ≥ s.score s.bestIdx ∨ s.score s.bestIdx - s.score b ≤ ssSwitchThreshold)

theorem ssUpdateBestLocked_stays {b : Nat} (free : ¬s.Forced failedIdx)
    (found : ssCandidateLocked s 0 = some b) (stays : s.Stays b allowScoreSwitch) :
    ssUpdateBestLocked s failedIdx allowScoreSwitch = s := by
  have unforced : ¬(failedIdx = some s.bestIdx ∧ s.serverCount > 1) := free
  simp only [ssUpdateBestLocked, found, unforced, false_and, if_false, not_false_eq_true, true_and]
  rcases stays with same | ⟨equal, unset | close⟩
  · rw [if_pos same]
  · split
    · rfl
    · rw [if_pos ⟨unset, equal⟩]
  · split
    · rfl
    split
    · rfl
    · rw [if_pos ⟨equal, close⟩]

theorem ssUpdateBestLocked_moves {b : Nat} (free : ¬s.Forced failedIdx)
    (found : ssCandidateLocked s 0 = some b) (moves : ¬s.Stays b allowScoreSwitch) :
    ssUpdateBestLocked s failedIdx allowScoreSwitch = { s with bestIdx := b } := by
  have unforced : ¬(failedIdx = some s.bestIdx ∧ s.serverCount > 1) := free
  simp only [ssUpdateBestLocked, found, unforced, false_and, if_false, not_false_eq_true, true_and]
  rw [if_neg fun same => moves (Or.inl same), if_neg, if_neg]
  · rintro ⟨equal, close⟩
    exact moves (Or.inr ⟨equal, Or.inr close⟩)
  · rintro ⟨unset, equal⟩
    exact moves (Or.inr ⟨equal, Or.inl unset⟩)

theorem testBit_zero_mask (i : Nat) : (0 : Nat).testBit i = false := Nat.zero_testBit i

theorem testBit_single_mask (i j : Nat) : (1 <<< i : Nat).testBit j = decide (i = j) := by
  rw [Nat.one_shiftLeft, Nat.testBit_two_pow]

/-- With another server configured there is a candidate besides the selected
one. When the selected server is failed, none is healthier than it. -/
theorem ssCandidateLocked_other (several : s.serverCount > 1)
    (failed : s.health s.bestIdx = .failed) :
    ∃ b, ssCandidateLocked s (1 <<< s.bestIdx) = some b ∧ b < s.serverCount ∧ b ≠ s.bestIdx ∧
      s.Healthiest b := by
  cases found : ssCandidateLocked s (1 <<< s.bestIdx) with
  | none =>
    have tried := ssCandidateLocked_eq_none.mp found
    simp only [testBit_single_mask, decide_eq_true_eq] at tried
    have first := tried 0 (by omega)
    have second := tried 1 several
    omega
  | some b =>
    obtain ⟨⟨bound, other⟩, least⟩ := ssCandidateLocked_spec found
    simp only [testBit_single_mask, decide_eq_false_iff_not] at other least
    refine ⟨b, rfl, bound, fun same => other same.symm, fun i inRange => ?_⟩
    by_cases selected : s.bestIdx = i
    · subst selected
      rw [failed]
      cases s.health b <;> decide
    · exact SsSelector.rank_le_of_key_le (least i inRange selected)

/-- Everything that `ss_update_best_locked` can do. It stays only on a
healthiest server that did not just fail, and moves only to a healthiest one;
a move at equal health that is not forced needs a clearly smaller score. -/
theorem ssUpdateBestLocked_cases (valid : s.bestIdx < s.serverCount)
    (marked : failedIdx = some s.bestIdx → s.health s.bestIdx = .failed) :
    (ssUpdateBestLocked s failedIdx allowScoreSwitch = s ∧ ¬ s.Forced failedIdx ∧
        s.Healthiest s.bestIdx) ∨
      ∃ b < s.serverCount, b ≠ s.bestIdx ∧ s.Healthiest b ∧
        ssUpdateBestLocked s failedIdx allowScoreSwitch = { s with bestIdx := b } ∧
        (¬ s.Forced failedIdx → s.health b = s.health s.bestIdx →
          allowScoreSwitch = true ∧ s.score b + ssSwitchThreshold < s.score s.bestIdx) := by
  cases found : ssCandidateLocked s 0 with
  | none =>
    have tried := ssCandidateLocked_eq_none.mp found s.bestIdx valid
    simp only [testBit_zero_mask, Bool.false_eq_true] at tried
  | some c =>
    obtain ⟨⟨bound, _⟩, least⟩ := ssCandidateLocked_spec found
    have healthiest : s.Healthiest c := fun i inRange =>
      SsSelector.rank_le_of_key_le (least i inRange (testBit_zero_mask i))
    by_cases forced : s.Forced failedIdx
    · obtain ⟨b, other, inRange, differ, best⟩ :=
        ssCandidateLocked_other forced.2 (marked forced.1)
      have isForced : failedIdx = some s.bestIdx ∧ s.serverCount > 1 := forced
      simp only [ssUpdateBestLocked, found]
      right
      by_cases same : c = s.bestIdx
      · refine ⟨b, inRange, differ, best, ?_, fun free => absurd forced free⟩
        simp only [isForced, same, other, differ, not_true, false_and, if_false, and_self, if_true]
      · refine ⟨c, bound, same, healthiest, ?_, fun free => absurd forced free⟩
        simp only [isForced, same, not_true, false_and, and_false, if_false, and_self]
    by_cases stays : s.Stays c allowScoreSwitch
    · left
      refine ⟨ssUpdateBestLocked_stays forced found stays, forced, ?_⟩
      rcases stays with same | ⟨equal, _⟩
      · exact same ▸ healthiest
      · exact fun i inRange => equal ▸ healthiest i inRange
    · right
      refine ⟨c, bound, fun same => stays (Or.inl same), healthiest,
        ssUpdateBestLocked_moves forced found stays, fun _ equal => ?_⟩
      simp only [SsSelector.Stays, equal, true_and, not_or, Bool.not_eq_false] at stays
      exact ⟨stays.2.1, by omega⟩

/-- The update restores the invariant from any valid selection. -/
theorem SelectorInv.update (valid : s.bestIdx < s.serverCount)
    (marked : failedIdx = some s.bestIdx → s.health s.bestIdx = .failed) :
    SelectorInv (ssUpdateBestLocked s failedIdx allowScoreSwitch) := by
  rcases ssUpdateBestLocked_cases valid marked with ⟨same, _, best⟩ | ⟨b, bound, _, best, moved, _⟩
  · rw [same]
    exact ⟨valid, best⟩
  · rw [moved]
    exact ⟨bound, best⟩

/-- Outside a round completion a selection that is healthiest and did not
just fail is kept, whatever happened to the scores. -/
theorem SelectorInv.update_none (inv : SelectorInv s) : ssUpdateBestLocked s none false = s := by
  rcases @ssUpdateBestLocked_cases s none false inv.valid (fun impossible => by cases impossible) with
    ⟨same, _, _⟩ | ⟨b, bound, _, best, _, gate⟩
  · exact same
  · have rank := Nat.le_antisymm (best s.bestIdx inv.valid) (inv.healthiest b bound)
    have allowed := (gate s.not_forced_none (ssHealthRank_injective rank)).1
    cases allowed

theorem ssUpdateBestLocked_frame (s : SsSelector) (failedIdx : Option Nat) (allow : Bool) :
    ∃ b, ssUpdateBestLocked s failedIdx allow = { s with bestIdx := b } := by
  unfold ssUpdateBestLocked
  simp only
  split
  · exact ⟨s.bestIdx, rfl⟩
  · split
    · exact ⟨s.bestIdx, rfl⟩
    · split
      · exact ⟨s.bestIdx, rfl⟩
      · split
        · exact ⟨s.bestIdx, rfl⟩
        · split
          · exact ⟨s.bestIdx, rfl⟩
          · exact ⟨_, rfl⟩

@[simp] theorem ssUpdateBestLocked_serverCount (s : SsSelector) (failedIdx : Option Nat)
    (allow : Bool) : (ssUpdateBestLocked s failedIdx allow).serverCount = s.serverCount := by
  obtain ⟨b, same⟩ := ssUpdateBestLocked_frame s failedIdx allow
  rw [same]

@[simp] theorem ssUpdateBestLocked_probesRemaining (s : SsSelector) (failedIdx : Option Nat)
    (allow : Bool) : (ssUpdateBestLocked s failedIdx allow).probesRemaining = s.probesRemaining := by
  obtain ⟨b, same⟩ := ssUpdateBestLocked_frame s failedIdx allow
  rw [same]

@[simp] theorem ssUpdateBestLocked_health (s : SsSelector) (failedIdx : Option Nat)
    (allow : Bool) : (ssUpdateBestLocked s failedIdx allow).health = s.health := by
  obtain ⟨b, same⟩ := ssUpdateBestLocked_frame s failedIdx allow
  rw [same]

@[simp] theorem ssUpdateBestLocked_failureEpoch (s : SsSelector) (failedIdx : Option Nat)
    (allow : Bool) : (ssUpdateBestLocked s failedIdx allow).failureEpoch = s.failureEpoch := by
  obtain ⟨b, same⟩ := ssUpdateBestLocked_frame s failedIdx allow
  rw [same]

end Tproxy
