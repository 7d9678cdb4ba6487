import Mathlib.Data.List.Sort
import Mathlib.Data.Rat.Floor
import Mathlib.Tactic.Linarith
import Tproxy.Lib.RingWindow
import Tproxy.Selector.State

namespace Tproxy

/-- `SS_MAX_RTT_MS`. -/
def ssMaxRttMs : Nat := 5000

/-- `SS_WINDOW_SEC`, `SS_CHECK_INTERVAL` times the number of slots. -/
def ssWindowSec : ℚ := 60 * ssWindowSlots

/-- `slot` in the loop of `ss_compute_score`, in the arithmetic of C. -/
def ssSlot (head count i : Nat) : Int :=
  ((head : Int) - count + i + ssWindowSlots).tmod ssWindowSlots

/-- The local variables `latencies[0..n]` and `fail`. -/
structure SsScan where
  latencies : List Nat
  fail : Nat

/-- The body of the loop over the window. -/
def ssScanSample (now : ℚ) (scan : SsScan) (s : SsSample) : SsScan :=
  if now - s.ts > ssWindowSec then scan
  else if s.errored then { scan with fail := scan.fail + 1 }
  else { scan with
    latencies := scan.latencies ++ [if s.latencyMs < ssMaxRttMs then s.latencyMs else ssMaxRttMs] }

def ssScan (window : Nat → SsSample) (count head : Nat) (now : ℚ) : SsScan :=
  (List.range count).foldl
    (fun scan i => ssScanSample now scan (window (ssSlot head count i).toNat)) ⟨[], 0⟩

/-- `qsort` of `n` values, then the one at `n / 2`. -/
def ssMiddle (values : List Nat) : Nat :=
  (values.insertionSort (· ≤ ·)).getD (values.length / 2) 0

/-- `median`. -/
def ssMedian (latencies : List Nat) : Nat := ssMiddle latencies

def ssDeviation (median latency : Nat) : Nat :=
  if latency > median then latency - median else median - latency

/-- `mad`, from the sorted latencies. -/
def ssMad (latencies : List Nat) : Nat :=
  ssMiddle ((latencies.insertionSort (· ≤ ·)).map (ssDeviation (ssMedian latencies)))

/-- `nrtt` and `nmad`. -/
def ssNormal (ms : Nat) : ℚ :=
  if (ms : ℚ) / ssMaxRttMs > 1 then 1 else (ms : ℚ) / ssMaxRttMs

/-- The score as a rational number, before it is converted to an integer. -/
def ssScoreValue (scan : SsScan) : ℚ :=
  let failRate : ℚ := (scan.fail : ℚ) / ((scan.latencies.length + scan.fail : Nat) : ℚ)
  if scan.latencies.length = 0 then (1 + failRate * 3 + 1) / 5 * 10000
  else (ssNormal (ssMedian scan.latencies) + failRate * 3 + ssNormal (ssMad scan.latencies)) / 5 * 10000

def ssComputeScore (window : Nat → SsSample) (count head : Nat) (now : ℚ) : Nat :=
  let scan := ssScan window count head now
  if scan.latencies.length + scan.fail = 0 then ssNeverSampled else ⌊ssScoreValue scan⌋₊

variable {window : Nat → SsSample} {head count i : Nat} {now : ℚ} {scan : SsScan}

/-- The index is that of the ring: the sum in C is never negative. -/
theorem ssSlot_eq (fits : count ≤ ssWindowSlots) :
    ssSlot head count i = (ringSlot ssWindowSlots head count i : Int) := by
  have sum : (head : Int) - count + i + ssWindowSlots =
      ((head + ssWindowSlots - count + i : Nat) : Int) := by omega
  rw [ssSlot, sum, ringSlot]
  exact (Int.ofNat_tmod ..).symm

theorem ssSlot_range (fits : count ≤ ssWindowSlots) :
    0 ≤ ssSlot head count i ∧ ssSlot head count i < ssWindowSlots := by
  have bound : ringSlot ssWindowSlots head count i < ssWindowSlots := ringSlot_lt (by decide) ..
  rw [ssSlot_eq fits]
  omega

theorem ssScan_eq (fits : count ≤ ssWindowSlots) :
    ssScan window count head now =
      (ringVisit ssWindowSlots window head count).foldl (ssScanSample now) ⟨[], 0⟩ := by
  simp only [ssScan, ssSlot_eq fits, Int.toNat_natCast, ringVisit, List.foldl_map]

/-- One sample adds at most one to the latencies and the failures. -/
theorem ssScanSample_size (now : ℚ) (scan : SsScan) (x : SsSample) :
    let after := ssScanSample now scan x
    after.latencies.length + after.fail = scan.latencies.length + scan.fail +
      (if now - x.ts > ssWindowSec then 0 else 1) := by
  unfold ssScanSample
  split
  · rfl
  · split
    · rfl
    · simp only [List.length_append, List.length_singleton]
      omega

theorem ssScan_size (now : ℚ) (samples : List SsSample) (scan : SsScan) :
    let after := samples.foldl (ssScanSample now) scan
    after.latencies.length + after.fail ≤ scan.latencies.length + scan.fail + samples.length := by
  induction samples generalizing scan with
  | nil => exact Nat.le_refl _
  | cons x samples ih =>
    have one := ssScanSample_size now scan x
    have rest := ih (ssScanSample now scan x)
    rw [List.foldl_cons, List.length_cons]
    simp only at one rest ⊢
    split at one <;> omega

theorem ssNormal_range (ms : Nat) : 0 ≤ ssNormal ms ∧ ssNormal ms ≤ 1 := by
  unfold ssNormal
  split
  · exact ⟨zero_le_one, le_refl 1⟩
  · rename_i small
    exact ⟨by positivity, not_lt.mp small⟩

/-- All three terms are at most one, so the score is at most 10000. -/
theorem ssScoreValue_range (scan : SsScan) : 0 ≤ ssScoreValue scan ∧ ssScoreValue scan ≤ 10000 := by
  have rate : 0 ≤ (scan.fail : ℚ) / ((scan.latencies.length + scan.fail : Nat) : ℚ) ∧
      (scan.fail : ℚ) / ((scan.latencies.length + scan.fail : Nat) : ℚ) ≤ 1 := by
    refine ⟨by positivity, div_le_one_of_le₀ ?_ (by positivity)⟩
    exact_mod_cast Nat.le_add_left ..
  obtain ⟨rttLow, rttHigh⟩ := ssNormal_range (ssMedian scan.latencies)
  obtain ⟨madLow, madHigh⟩ := ssNormal_range (ssMad scan.latencies)
  unfold ssScoreValue
  simp only
  split
  · constructor <;> linarith
  · constructor <;> linarith

/-- With a sample that is not too old the score is a real one. -/
theorem ssComputeScore_le (sampled : (ssScan window count head now).latencies.length +
    (ssScan window count head now).fail ≠ 0) : ssComputeScore window count head now ≤ 10000 := by
  unfold ssComputeScore
  simp only
  rw [if_neg sampled]
  exact Nat.floor_le_of_le (by exact_mod_cast (ssScoreValue_range _).2)

end Tproxy
