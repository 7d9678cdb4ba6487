import Tproxy.Selector.Score

namespace Tproxy

/-- The window with the `i`-th visited sample turned into a failure. -/
def ssFailSample (window : Nat → SsSample) (count head i : Nat) : Nat → SsSample :=
  let slot := (ssSlot head count i).toNat
  Function.update window slot { window slot with errored := true }

/-- Latencies are left, and their median and deviation together are lower than
before by more than one failure weighs, which is 15000 ms over the number of
samples. -/
def FailureOutweighed (before after : SsScan) : Prop :=
  after.latencies ≠ [] ∧
    (ssMedian after.latencies + ssMad after.latencies : ℚ) +
        15000 / ((before.latencies.length + before.fail : Nat) : ℚ) <
      ssMedian before.latencies + ssMad before.latencies

variable {window : Nat → SsSample} {count head i : Nat} {now : ℚ} {values : List Nat} {limit : Nat}

theorem ssMiddle_le (bounded : ∀ x ∈ values, x ≤ limit) : ssMiddle values ≤ limit := by
  unfold ssMiddle
  rw [List.getD_eq_getElem?_getD]
  cases found : (values.insertionSort (· ≤ ·))[values.length / 2]? with
  | none => exact Nat.zero_le limit
  | some x => exact bounded x ((List.mem_insertionSort _).mp (List.mem_of_getElem? found))

theorem ssMedian_le (bounded : ∀ x ∈ values, x ≤ limit) : ssMedian values ≤ limit := ssMiddle_le bounded

theorem ssMad_le (bounded : ∀ x ∈ values, x ≤ limit) : ssMad values ≤ limit := by
  refine ssMiddle_le fun d listed => ?_
  obtain ⟨x, member, rfl⟩ := List.mem_map.mp listed
  have first := bounded x ((List.mem_insertionSort _).mp member)
  have second := ssMedian_le bounded
  unfold ssDeviation
  split <;> omega

theorem ssNormal_of_le {ms : Nat} (small : ms ≤ ssMaxRttMs) : ssNormal ms = (ms : ℚ) / 5000 := by
  have ratio : (ms : ℚ) / ssMaxRttMs ≤ 1 := div_le_one_of_le₀ (by exact_mod_cast small) (by positivity)
  rw [ssNormal, if_neg (not_lt.mpr ratio), ssMaxRttMs]
  norm_num

/-- With latencies left, the score is a sum of milliseconds and a failure rate. -/
theorem ssScoreValue_eq {scan : SsScan} (some : scan.latencies ≠ [])
    (bounded : ∀ x ∈ scan.latencies, x ≤ ssMaxRttMs) :
    ssScoreValue scan = 2 / 5 * (ssMedian scan.latencies + ssMad scan.latencies) +
      6000 * scan.fail / ((scan.latencies.length + scan.fail : Nat) : ℚ) := by
  unfold ssScoreValue
  simp only
  rw [if_neg (List.length_eq_zero_iff.not.mpr some), ssNormal_of_le (ssMedian_le bounded),
    ssNormal_of_le (ssMad_le bounded)]
  ring

/-- With failures only the score is the worst one. -/
theorem ssScoreValue_failures {fail : Nat} (some : fail ≠ 0) : ssScoreValue ⟨[], fail⟩ = 10000 := by
  have positive : (fail : ℚ) ≠ 0 := by exact_mod_cast some
  simp only [ssScoreValue, List.length_nil, Nat.zero_add, if_true, div_self positive]
  norm_num

/-- A stretch of samples adds its own latencies and failures to the scan. -/
theorem ssScan_stretch (now : ℚ) (samples : List SsSample) : ∃ latencies fail,
    (∀ x ∈ latencies, x ≤ ssMaxRttMs) ∧ ∀ scan, samples.foldl (ssScanSample now) scan =
      ⟨scan.latencies ++ latencies, scan.fail + fail⟩ := by
  induction samples with
  | nil => exact ⟨[], 0, by simp, fun scan => by simp⟩
  | cons x samples ih =>
    obtain ⟨latencies, fail, bounded, rest⟩ := ih
    simp only [List.foldl_cons, rest]
    by_cases old : now - x.ts > ssWindowSec
    · exact ⟨latencies, fail, bounded, fun scan => by rw [ssScanSample, if_pos old]⟩
    · cases failed : x.errored with
      | true =>
        refine ⟨latencies, fail + 1, bounded, fun scan => ?_⟩
        simp only [ssScanSample, if_neg old, failed, if_true, SsScan.mk.injEq, true_and]
        omega
      | false =>
        refine ⟨(if x.latencyMs < ssMaxRttMs then x.latencyMs else ssMaxRttMs) :: latencies, fail,
          List.forall_mem_cons.mpr ⟨?_, bounded⟩, fun scan => ?_⟩
        · split <;> omega
        · simp only [ssScanSample, if_neg old, failed, Bool.false_eq_true, if_false,
            List.append_assoc, List.singleton_append]

/-- The failure takes one latency out of the scan and counts as one more failure. -/
theorem ssScan_failSample (fits : count ≤ ssWindowSlots) (visited : i < count)
    (success : (window (ssSlot head count i).toNat).errored = false)
    (recent : now - (window (ssSlot head count i).toNat).ts ≤ ssWindowSec) :
    ∃ before latency after fail, (∀ x ∈ before ++ latency :: after, x ≤ ssMaxRttMs) ∧
      ssScan window count head now = ⟨before ++ latency :: after, fail⟩ ∧
      ssScan (ssFailSample window count head i) count head now = ⟨before ++ after, fail + 1⟩ := by
  have slot : ssSlot head count i = (ringSlot ssWindowSlots head count i : Int) := ssSlot_eq fits
  rw [slot, Int.toNat_natCast] at success recent
  unfold ssFailSample
  simp only [slot, Int.toNat_natCast]
  rw [ssScan_eq fits, ssScan_eq fits, ringVisit_update fits visited]
  have within : i < (ringVisit ssWindowSlots window head count).length := by
    rwa [ringVisit_length]
  have own : (ringVisit ssWindowSlots window head count)[i] =
      window (ringSlot ssWindowSlots head count i) := by
    simp only [ringVisit, List.getElem_map, List.getElem_range]
  have split := List.take_append_drop i (ringVisit ssWindowSlots window head count)
  rw [List.drop_eq_getElem_cons within, own] at split
  rw [List.set_eq_take_append_cons_drop, if_pos within]
  nth_rewrite 1 [← split]
  generalize window (ringSlot ssWindowSlots head count i) = x at *
  obtain ⟨before, failBefore, boundBefore, scanBefore⟩ :=
    ssScan_stretch now ((ringVisit ssWindowSlots window head count).take i)
  obtain ⟨after, failAfter, boundAfter, scanAfter⟩ :=
    ssScan_stretch now ((ringVisit ssWindowSlots window head count).drop (i + 1))
  have current : ¬ now - x.ts > ssWindowSec := not_lt.mpr recent
  refine ⟨before, if x.latencyMs < ssMaxRttMs then x.latencyMs else ssMaxRttMs, after,
    failBefore + failAfter, ?_, ?_, ?_⟩
  · rw [List.forall_mem_append, List.forall_mem_cons]
    refine ⟨boundBefore, ?_, boundAfter⟩
    split <;> omega
  · simp only [List.foldl_append, List.foldl_cons, scanBefore, scanAfter, ssScanSample, if_neg current,
      success, Bool.false_eq_true, if_false, List.nil_append, Nat.zero_add, List.append_assoc,
      List.singleton_append]
  · simp only [List.foldl_append, List.foldl_cons, scanBefore, scanAfter, ssScanSample, if_neg current,
      if_true, List.nil_append, Nat.zero_add, SsScan.mk.injEq, true_and]
    omega

/-- One failure more is 6000 points over the number of samples. -/
theorem ssScoreValue_failure {before after : List Nat} {latency : Nat} (fail : Nat)
    (bounded : ∀ x ∈ before ++ latency :: after, x ≤ ssMaxRttMs) :
    ssScoreValue ⟨before ++ after, fail + 1⟩ < ssScoreValue ⟨before ++ latency :: after, fail⟩ ↔
      FailureOutweighed ⟨before ++ latency :: after, fail⟩ ⟨before ++ after, fail + 1⟩ := by
  unfold FailureOutweighed
  by_cases none : before ++ after = []
  · have top := ssScoreValue_failures (Nat.succ_ne_zero fail)
    have range := (ssScoreValue_range ⟨before ++ latency :: after, fail⟩).2
    rw [none, top]
    simp only [ne_eq, not_true_eq_false, false_and, iff_false, not_lt]
    exact range
  · have left : ∀ x ∈ before ++ after, x ≤ ssMaxRttMs := fun x member =>
      bounded x (List.mem_append.mpr ((List.mem_append.mp member).imp_right (List.mem_cons_of_mem _)))
    have total : (before ++ after).length + (fail + 1) = (before ++ latency :: after).length + fail := by
      simp only [List.length_append, List.length_cons]
      omega
    have positive : 0 < (((before ++ latency :: after).length + fail : Nat) : ℚ) := by
      rw [← total]
      positivity
    rw [ssScoreValue_eq (by exact none) left, ssScoreValue_eq (by simp) bounded]
    simp only [total, Nat.cast_add fail 1, Nat.cast_one]
    generalize (((before ++ latency :: after).length + fail : Nat) : ℚ) = T at *
    have weight : 6000 * ((fail : ℚ) + 1) / T = 6000 * fail / T + 2 / 5 * (15000 / T) := by
      field_simp
      ring
    rw [weight, and_iff_right none]
    constructor <;> intro lower <;> linarith

/-- A failure in place of a success does not lower the score, unless the
latencies that are left outweigh it; if none are left, the score is the worst. -/
theorem ssComputeScore_failure (fits : count ≤ ssWindowSlots) (visited : i < count)
    (success : (window (ssSlot head count i).toNat).errored = false)
    (recent : now - (window (ssSlot head count i).toNat).ts ≤ ssWindowSec) :
    let failed := ssFailSample window count head i
    let before := ssScan window count head now
    let after := ssScan failed count head now
    (ssScoreValue after < ssScoreValue before ↔ FailureOutweighed before after) ∧
      (¬ FailureOutweighed before after →
        ssComputeScore window count head now ≤ ssComputeScore failed count head now) ∧
      (after.latencies = [] → ssComputeScore failed count head now = 10000) := by
  obtain ⟨older, latency, newer, fail, bounded, scan, scanFailed⟩ :=
    ssScan_failSample fits visited success recent
  have value := ssScoreValue_failure fail bounded
  simp only [ssComputeScore, scan, scanFailed]
  have sampled : (older ++ latency :: newer).length + fail ≠ 0 := by simp
  have failures : (older ++ newer).length + (fail + 1) ≠ 0 := Nat.succ_ne_zero _
  rw [if_neg sampled, if_neg failures]
  refine ⟨value, fun kept => Nat.floor_le_floor (not_lt.mp (value.not.mpr kept)), fun empty => ?_⟩
  rw [empty, ssScoreValue_failures (Nat.succ_ne_zero fail)]
  exact Nat.floor_ofNat 10000

/-- A fast answer and one that took four seconds. -/
def ssSpread (slot : Nat) : SsSample := ⟨if slot = 0 then 10 else 4010, false, 0⟩

/-- The score falls from 3204 to 3004 when the slow answer becomes a failure. -/
theorem ssComputeScore_not_monotone : ¬ ∀ (window : Nat → SsSample) (count head i : Nat) (now : ℚ),
    count ≤ ssWindowSlots → head < ssWindowSlots → i < count →
    (window (ssSlot head count i).toNat).errored = false →
    now - (window (ssSlot head count i).toNat).ts ≤ ssWindowSec →
    ssComputeScore window count head now ≤
      ssComputeScore (ssFailSample window count head i) count head now := by
  intro monotone
  have claimed := monotone ssSpread 2 2 1 0 (by decide) (by decide) (by decide) rfl (by decide +kernel)
  have high : ssComputeScore ssSpread 2 2 0 = 3204 := by decide +kernel
  have low : ssComputeScore (ssFailSample ssSpread 2 2 1) 2 2 0 = 3004 := by decide +kernel
  omega

theorem ssComputeScore_failure_steady :
    let steady : Nat → SsSample := fun _ => ⟨40, false, 0⟩
    ssComputeScore steady 3 3 0 ≤ ssComputeScore (ssFailSample steady 3 3 1) 3 3 0 := by
  intro steady
  have kept : ¬ FailureOutweighed (ssScan steady 3 3 0) (ssScan (ssFailSample steady 3 3 1) 3 3 0) := by
    rintro ⟨_, lower⟩
    revert lower
    decide +kernel
  exact (ssComputeScore_failure (by decide) (by decide) rfl (by decide +kernel)).2.1 kept

end Tproxy
