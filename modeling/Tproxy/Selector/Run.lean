import Mathlib.Logic.Relation
import Tproxy.Selector.Update

namespace Tproxy

/-- A lock-protected step of one selector. A probe that is skipped only
completes (`probeDone`); any other probe records its result first. -/
inductive SelectorEvent
  | probe (idx latencyMs : Nat) (errored : Bool) (attemptEpoch : Nat) (now : ℚ)
  | probeDone
  | startRound
  | failure (serverIdx : Nat)
  | success (serverIdx attemptEpoch : Nat)

/-- The server that an event records as failed. -/
def SelectorEvent.failedServer : SelectorEvent → Option Nat
  | .probe idx _ errored _ _ => if errored then some idx else none
  | .failure serverIdx => some serverIdx
  | _ => none

/-- The event completes a probe round. -/
def SelectorEvent.CompletesRound (s : SsSelector) (e : SelectorEvent) : Prop :=
  e = .probeDone ∧ s.probesRemaining = 1

section Scoring
variable (computeScore : (Nat → SsSample) → Nat → Nat → ℚ → Nat)

/-- One step. Business reports name any server; probes only configured ones. -/
inductive SelectorStep : SsSelector → SelectorEvent → SsSelector → Prop
  | probe {s idx} (latencyMs : Nat) (errored : Bool) (attemptEpoch : Nat) (now : ℚ) :
      idx < s.serverCount → SelectorStep s (.probe idx latencyMs errored attemptEpoch now)
        (ssRecordProbe computeScore s idx latencyMs errored attemptEpoch now)
  | probeDone {s} : SelectorStep s .probeDone (ssProbeDone s)
  | startRound {s} : SelectorStep s .startRound (selectorStartProbeRound s)
  | failure {s} (serverIdx : Nat) :
      SelectorStep s (.failure serverIdx) (serverSelectorReportTcpFailure s serverIdx)
  | success {s} (serverIdx attemptEpoch : Nat) :
      SelectorStep s (.success serverIdx attemptEpoch)
        (serverSelectorReportTcpSuccess s serverIdx attemptEpoch)

abbrev SelectorRun := Relation.ReflTransGen fun s t => ∃ e, SelectorStep computeScore s e t

/-- What a step may do to the selection: it leaves a selected server that it
records as failed, and any other move at equal health completes a round and
improves the score by more than the threshold. -/
structure SelectionMove (s : SsSelector) (e : SelectorEvent) (t : SsSelector) : Prop where
  leaves : e.failedServer = some s.bestIdx → s.serverCount > 1 → t.bestIdx ≠ s.bestIdx
  settled : t.bestIdx ≠ s.bestIdx → e.failedServer ≠ some s.bestIdx →
    t.health t.bestIdx = t.health s.bestIdx →
    e.CompletesRound s ∧ t.score t.bestIdx + ssSwitchThreshold < t.score s.bestIdx

end Scoring

variable {computeScore : (Nat → SsSample) → Nat → Nat → ℚ → Nat} {s t : SsSelector} {e : SelectorEvent}

/-- A step that keeps the selected index moves nothing. -/
theorem SelectionMove.of_same (same : t.bestIdx = s.bestIdx)
    (free : e.failedServer ≠ some s.bestIdx) : SelectionMove s e t :=
  ⟨fun failed => absurd failed free, fun moved => absurd same moved⟩

/-- The marking of `ss_record_probe`, under the lock. -/
def ssMarkProbe (s : SsSelector) (idx : Nat) (errored : Bool) (attemptEpoch : Nat) : SsSelector :=
  if errored then ssMarkFailed s idx
  else if attemptEpoch = s.failureEpoch idx then ssMarkOk s idx
  else s

theorem ssRecordProbe_eq (s : SsSelector) (idx latencyMs : Nat) (errored : Bool)
    (attemptEpoch : Nat) (now : ℚ) :
    ssRecordProbe computeScore s idx latencyMs errored attemptEpoch now = ssUpdateBestLocked
      (ssMarkProbe (ssRecordSample computeScore s idx latencyMs errored now) idx errored attemptEpoch)
      (SelectorEvent.probe idx latencyMs errored attemptEpoch now).failedServer false := rfl

section MarkProbe
variable {idx : Nat} {errored : Bool} {attemptEpoch : Nat}

@[simp] theorem ssMarkProbe_bestIdx : (ssMarkProbe s idx errored attemptEpoch).bestIdx = s.bestIdx := by
  unfold ssMarkProbe
  split <;> [rfl; split <;> rfl]

@[simp] theorem ssMarkProbe_serverCount :
    (ssMarkProbe s idx errored attemptEpoch).serverCount = s.serverCount := by
  unfold ssMarkProbe
  split <;> [rfl; split <;> rfl]

theorem ssMarkProbe_health : (ssMarkProbe s idx errored attemptEpoch).health =
    if errored then Function.update s.health idx .failed
    else if attemptEpoch = s.failureEpoch idx then Function.update s.health idx .ok else s.health := by
  unfold ssMarkProbe
  split <;> [rfl; split <;> rfl]

theorem ssMarkProbe_failureEpoch : (ssMarkProbe s idx errored attemptEpoch).failureEpoch =
    if errored then (ssMarkFailed s idx).failureEpoch else s.failureEpoch := by
  unfold ssMarkProbe
  split <;> [rfl; split <;> rfl]

theorem ssMarkProbe_failed {best : Nat}
    (same : (if errored = true then some idx else none) = some best) :
    (ssMarkProbe s idx errored attemptEpoch).health best = .failed := by
  cases errored with
  | false => cases same
  | true =>
    rw [← Option.some.inj same]
    exact Function.update_self ..

end MarkProbe

/-- A step that ends with the update of a state `m`, whose selection is still
the old one, restores the invariant and moves only as it may. -/
theorem SelectionMove.update {m : SsSelector} {allow : Bool} (sameBest : m.bestIdx = s.bestIdx)
    (sameCount : m.serverCount = s.serverCount) (valid : s.bestIdx < s.serverCount)
    (marked : e.failedServer = some s.bestIdx → m.health s.bestIdx = .failed)
    (allowed : allow = true → e.CompletesRound s) :
    SelectorInv (ssUpdateBestLocked m e.failedServer allow) ∧
      SelectionMove s e (ssUpdateBestLocked m e.failedServer allow) := by
  rw [← sameBest] at marked
  rw [← sameBest, ← sameCount] at valid
  refine ⟨SelectorInv.update valid marked, ?_⟩
  rcases @ssUpdateBestLocked_cases m e.failedServer allow valid marked with
    ⟨same, notForced, _⟩ | ⟨b, _, differ, _, moved, gate⟩
  · rw [same]
    refine ⟨fun failed several => absurd ⟨?_, ?_⟩ notForced, fun changed => absurd sameBest changed⟩
    · rw [failed, sameBest]
    · rw [sameCount]
      exact several
  · rw [moved]
    rw [sameBest] at differ gate
    refine ⟨fun _ _ => differ, fun _ free equal => ?_⟩
    have notForced : ¬ m.Forced e.failedServer := fun forced => free (sameBest ▸ forced.1)
    obtain ⟨switch, clear⟩ := gate notForced equal
    exact ⟨allowed switch, clear⟩

theorem ssProbeDone_move (inv : SelectorInv s) : SelectorInv (ssProbeDone s) ∧
    (ssProbeDone s).serverCount = s.serverCount ∧ SelectionMove s .probeDone (ssProbeDone s) := by
  by_cases last : s.probesRemaining - 1 = 0
  · have completes : SelectorEvent.probeDone.CompletesRound s := ⟨rfl, by omega⟩
    have done : ssProbeDone s =
        ssUpdateBestLocked { s with probesRemaining := s.probesRemaining - 1 } none true := if_pos last
    rw [done]
    obtain ⟨restored, move⟩ := @SelectionMove.update s .probeDone
      { s with probesRemaining := s.probesRemaining - 1 } true rfl rfl inv.valid
      (fun none => by cases none) fun _ => completes
    exact ⟨restored, ssUpdateBestLocked_serverCount .., move⟩
  · have done : ssProbeDone s = { s with probesRemaining := s.probesRemaining - 1 } := if_neg last
    rw [done]
    exact ⟨⟨inv.valid, inv.healthiest⟩, rfl, .of_same rfl fun none => by cases none⟩

/-- Each step restores the invariant and moves the selection only as it may. -/
theorem SelectorInv.step (inv : SelectorInv s) (step : SelectorStep computeScore s e t) :
    SelectorInv t ∧ t.serverCount = s.serverCount ∧ SelectionMove s e t := by
  have notAllowed {c : Prop} : false = true → c := fun impossible => by cases impossible
  cases step with
  | @probe idx latencyMs errored attemptEpoch now bound =>
    rw [ssRecordProbe_eq]
    obtain ⟨restored, move⟩ := @SelectionMove.update s (.probe idx latencyMs errored attemptEpoch now)
      (ssMarkProbe (ssRecordSample computeScore s idx latencyMs errored now) idx errored attemptEpoch)
      false ssMarkProbe_bestIdx ssMarkProbe_serverCount inv.valid
      (fun same => ssMarkProbe_failed same) notAllowed
    refine ⟨restored, ?_, move⟩
    rw [ssUpdateBestLocked_serverCount]
    exact ssMarkProbe_serverCount
  | probeDone => exact ssProbeDone_move inv
  | startRound =>
    unfold selectorStartProbeRound
    split
    · exact ⟨inv, rfl, .of_same rfl fun none => by cases none⟩
    · exact ⟨⟨inv.valid, inv.healthiest⟩, rfl, .of_same rfl fun none => by cases none⟩
  | failure serverIdx =>
    unfold serverSelectorReportTcpFailure
    split
    · rename_i outside
      refine ⟨inv, rfl, .of_same rfl fun same => ?_⟩
      have selected := Option.some.inj same
      have valid := inv.valid
      omega
    · obtain ⟨restored, move⟩ := @SelectionMove.update s (.failure serverIdx)
        (ssMarkFailed s serverIdx) false rfl rfl inv.valid (fun same => by
          rw [← Option.some.inj same]
          exact Function.update_self ..) notAllowed
      exact ⟨restored, ssUpdateBestLocked_serverCount .., move⟩
  | success serverIdx attemptEpoch =>
    unfold serverSelectorReportTcpSuccess
    split
    · exact ⟨inv, rfl, .of_same rfl fun none => by cases none⟩
    · split
      · obtain ⟨restored, move⟩ := @SelectionMove.update s (.success serverIdx attemptEpoch)
          (ssMarkOk s serverIdx) false rfl rfl inv.valid (fun none => by cases none) notAllowed
        exact ⟨restored, ssUpdateBestLocked_serverCount .., move⟩
      · exact ⟨inv, rfl, .of_same rfl fun none => by cases none⟩

theorem SelectorInv.run (inv : SelectorInv s) (run : SelectorRun computeScore s t) :
    SelectorInv t ∧ t.serverCount = s.serverCount := by
  induction run with
  | refl => exact ⟨inv, rfl⟩
  | tail _ step ih =>
    obtain ⟨e, step⟩ := step
    obtain ⟨after, sameCount, _⟩ := ih.1.step step
    exact ⟨after, sameCount.trans ih.2⟩

theorem serverSelectorInit_inv {serverCount : Nat} (positive : 0 < serverCount)
    (window : Nat → Nat → SsSample) : SelectorInv (serverSelectorInit serverCount window) :=
  ⟨positive, fun _ _ => Nat.le_refl _⟩

/-- In every run from the initial selector the selected server is configured
and none is healthier, and each further step moves the selection only as it may. -/
theorem serverSelector_selection {serverCount : Nat} {window : Nat → Nat → SsSample}
    (configured : 0 < serverCount)
    (run : SelectorRun computeScore (serverSelectorInit serverCount window) s) :
    s.bestIdx < serverCount ∧
      (∀ i < serverCount, ¬ ssHealthRank (s.health i) < ssHealthRank (s.health s.bestIdx)) ∧
      ∀ e t, SelectorStep computeScore s e t → SelectionMove s e t := by
  obtain ⟨inv, sameCount⟩ := (serverSelectorInit_inv configured window).run run
  have sameCount : s.serverCount = serverCount := sameCount
  refine ⟨sameCount ▸ inv.valid, fun i bound => ?_, fun e t step => (inv.step step).2.2⟩
  exact Nat.not_lt.mpr (inv.healthiest i (sameCount ▸ bound))

/-- Two servers, and the selected one fails: the run goes on with the other. -/
theorem serverSelector_selection_failover :
    ∃ s, SelectorRun (fun _ _ _ _ => 0) (serverSelectorInit 2 fun _ _ => default) s ∧
      s.bestIdx = 1 ∧ ∀ i < 2, ¬ ssHealthRank (s.health i) < ssHealthRank (s.health s.bestIdx) := by
  have run : SelectorRun (fun _ _ _ _ => 0) (serverSelectorInit 2 fun _ _ => default)
      (serverSelectorReportTcpFailure (serverSelectorInit 2 fun _ _ => default) 0) :=
    .single ⟨.failure 0, .failure 0⟩
  exact ⟨_, run, by decide, (serverSelector_selection (by decide) run).2.1⟩

end Tproxy
