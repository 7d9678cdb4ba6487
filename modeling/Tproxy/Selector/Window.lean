import Tproxy.Selector.Run
import Tproxy.Selector.Score

namespace Tproxy

/-- The sample that an event records for server `i`. -/
def SelectorEvent.sample (i : Nat) : SelectorEvent → Option SsSample
  | .probe idx latencyMs errored _ now => if idx = i then some ⟨latencyMs, errored, now⟩ else none
  | _ => none

/-- The samples recorded for server `i`, oldest first. -/
def ssRecorded (events : List SelectorEvent) (i : Nat) : List SsSample :=
  events.filterMap (SelectorEvent.sample i)

/-- A run with its events, oldest first. -/
inductive SelectorTrace (start : SsSelector) : List SelectorEvent → SsSelector → Prop
  | refl : SelectorTrace start [] start
  | tail {events s e t} : SelectorTrace start events s → SelectorStep ssComputeScore s e t →
      SelectorTrace start (events ++ [e]) t

/-- What the window and the score of server `i` say about its samples. -/
structure SsWindowed (s : SsSelector) (i : Nat) (recorded : List SsSample) : Prop where
  visited : (List.range (s.windowCount i)).map
      (fun k => s.window i (ssSlot (s.windowHead i) (s.windowCount i) k).toNat) =
    recorded.drop (recorded.length - ssWindowSlots)
  count : s.windowCount i = min recorded.length ssWindowSlots
  write : s.windowHead i < ssWindowSlots
  read : ∀ k < s.windowCount i, 0 ≤ ssSlot (s.windowHead i) (s.windowCount i) k ∧
    ssSlot (s.windowHead i) (s.windowCount i) k < ssWindowSlots
  locals : ∀ now, (ssScan (s.window i) (s.windowCount i) (s.windowHead i) now).latencies.length ≤
    ssWindowSlots
  stored : ∀ x, recorded.getLast? = some x →
    s.score i = ssComputeScore (s.window i) (s.windowCount i) (s.windowHead i) x.ts ∧
      s.score i ≤ 10000
  never : recorded = [] → s.score i = ssNeverSampled

/-- The invariant behind it: the window is a ring of the recorded samples. -/
structure WindowInv (s : SsSelector) (i : Nat) (recorded : List SsSample) : Prop where
  ring : RingHolds ssWindowSlots (s.window i) (s.windowHead i) (s.windowCount i) recorded
  stored : ∀ x, recorded.getLast? = some x →
    s.score i = ssComputeScore (s.window i) (s.windowCount i) (s.windowHead i) x.ts
  never : recorded = [] → s.score i = ssNeverSampled

/-- A step that leaves the window and the score of server `i` alone. -/
structure WindowKept (i : Nat) (s t : SsSelector) : Prop where
  window : t.window i = s.window i
  head : t.windowHead i = s.windowHead i
  count : t.windowCount i = s.windowCount i
  score : t.score i = s.score i

variable {s t u : SsSelector} {i : Nat} {recorded : List SsSample} {e : SelectorEvent}

theorem WindowKept.refl (s : SsSelector) : WindowKept i s s := ⟨rfl, rfl, rfl, rfl⟩

theorem WindowKept.trans (first : WindowKept i s t) (second : WindowKept i t u) : WindowKept i s u :=
  ⟨second.window.trans first.window, second.head.trans first.head, second.count.trans first.count,
    second.score.trans first.score⟩

theorem WindowKept.update (kept : WindowKept i s t) {failedIdx : Option Nat} {allow : Bool} :
    WindowKept i s (ssUpdateBestLocked t failedIdx allow) := by
  obtain ⟨b, same⟩ := ssUpdateBestLocked_frame t failedIdx allow
  rw [same]
  exact ⟨kept.window, kept.head, kept.count, kept.score⟩

theorem WindowKept.markProbe (i : Nat) (s : SsSelector) (idx : Nat) (errored : Bool) (epoch : Nat) :
    WindowKept i s (ssMarkProbe s idx errored epoch) := by
  unfold ssMarkProbe
  split
  · exact ⟨rfl, rfl, rfl, rfl⟩
  · split <;> exact ⟨rfl, rfl, rfl, rfl⟩

/-- After its store `ss_record_probe` only ranks the servers. -/
theorem WindowKept.record (i : Nat) (s : SsSelector) (idx latencyMs : Nat) (errored : Bool)
    (epoch : Nat) (now : ℚ) :
    WindowKept i (ssRecordSample ssComputeScore s idx latencyMs errored now)
      (ssRecordProbe ssComputeScore s idx latencyMs errored epoch now) := by
  rw [ssRecordProbe_eq]
  exact (WindowKept.markProbe i _ idx errored epoch).update

theorem WindowKept.recordOther (apart : i ≠ idx) (latencyMs : Nat) (errored : Bool) (now : ℚ) :
    WindowKept i s (ssRecordSample ssComputeScore s idx latencyMs errored now) :=
  ⟨Function.update_of_ne apart .., Function.update_of_ne apart .., Function.update_of_ne apart ..,
    Function.update_of_ne apart ..⟩

/-- Only a record for server `i` touches its window. -/
theorem SelectorStep.window_kept (step : SelectorStep ssComputeScore s e t)
    (other : e.sample i = none) : WindowKept i s t := by
  cases step with
  | @probe idx latencyMs errored attemptEpoch now bound =>
    rw [SelectorEvent.sample, ite_eq_right_iff] at other
    have apart : i ≠ idx := fun same => by cases other same.symm
    exact (WindowKept.recordOther apart ..).trans (WindowKept.record ..)
  | probeDone =>
    unfold ssProbeDone
    simp only
    split
    · refine WindowKept.update ?_
      exact ⟨rfl, rfl, rfl, rfl⟩
    · exact ⟨rfl, rfl, rfl, rfl⟩
  | startRound =>
    unfold selectorStartProbeRound
    split <;> exact ⟨rfl, rfl, rfl, rfl⟩
  | failure serverIdx =>
    unfold serverSelectorReportTcpFailure
    split
    · exact WindowKept.refl _
    · refine WindowKept.update ?_
      exact ⟨rfl, rfl, rfl, rfl⟩
  | success serverIdx attemptEpoch =>
    unfold serverSelectorReportTcpSuccess
    split
    · exact WindowKept.refl _
    · split
      · refine WindowKept.update ?_
        exact ⟨rfl, rfl, rfl, rfl⟩
      · exact WindowKept.refl _

theorem WindowInv.kept (inv : WindowInv s i recorded) (kept : WindowKept i s t) :
    WindowInv t i recorded := by
  obtain ⟨window, head, count, score⟩ := kept
  constructor
  · rw [window, head, count]
    exact inv.ring
  · rw [window, head, count, score]
    exact inv.stored
  · rw [score]
    exact inv.never

theorem WindowInv.recordSample (inv : WindowInv s i recorded) (latencyMs : Nat) (errored : Bool)
    (now : ℚ) : WindowInv (ssRecordSample ssComputeScore s i latencyMs errored now) i
      (recorded ++ [⟨latencyMs, errored, now⟩]) := by
  have pushed := inv.ring.push ⟨latencyMs, errored, now⟩
  constructor
  · simp only [ssRecordSample, Function.update_self]
    exact pushed
  · intro x last
    rw [List.getLast?_concat, Option.some.injEq] at last
    simp only [ssRecordSample, Function.update_self, ← last]
  · intro empty
    simp at empty

theorem WindowInv.step (inv : WindowInv s i recorded) (step : SelectorStep ssComputeScore s e t) :
    WindowInv t i (recorded ++ (e.sample i).toList) := by
  cases sampled : e.sample i with
  | none =>
    rw [Option.toList_none, List.append_nil]
    exact inv.kept (step.window_kept sampled)
  | some x =>
    cases step with
    | @probe idx latencyMs errored attemptEpoch now bound =>
      rw [SelectorEvent.sample] at sampled
      split at sampled
      · rename_i same
        cases sampled
        rw [same]
        exact (inv.recordSample latencyMs errored now).kept (WindowKept.record ..)
      · cases sampled
    | _ => cases sampled

theorem SelectorTrace.window_inv {serverCount : Nat} {window : Nat → Nat → SsSample}
    {events : List SelectorEvent} (run : SelectorTrace (serverSelectorInit serverCount window) events s)
    (i : Nat) : WindowInv s i (ssRecorded events i) := by
  induction run with
  | refl => exact ⟨RingHolds.nil _, fun x last => (by cases last), fun _ => rfl⟩
  | tail _ step ih =>
    have after := ih.step step
    rw [ssRecorded, List.filterMap_append]
    exact after

/-- The last sample is not too old when its own record computes the score. -/
theorem ssComputeScore_recorded {window : Nat → SsSample} {head count : Nat} {x : SsSample}
    (ring : RingHolds ssWindowSlots window head count recorded) (last : recorded.getLast? = some x) :
    ssComputeScore window count head x.ts ≤ 10000 := by
  have fits : count ≤ ssWindowSlots := ring.count ▸ Nat.min_le_right ..
  have ⟨older, split⟩ := List.getLast?_eq_some_iff.mp last
  refine ssComputeScore_le ?_
  have visited : ringVisit ssWindowSlots window head count =
      older.drop (recorded.length - ssWindowSlots) ++ [x] := by
    have short : recorded.length - ssWindowSlots ≤ older.length := by
      rw [split, List.length_append, List.length_singleton, ssWindowSlots]
      omega
    rw [ring.visit, split, List.drop_append_of_le_length (split ▸ short)]
  have fresh : ¬ x.ts - x.ts > ssWindowSec := by
    rw [sub_self, ssWindowSec]
    norm_num
  rw [ssScan_eq fits, visited, List.foldl_append, List.foldl_cons, List.foldl_nil]
  have one := ssScanSample_size x.ts
    ((older.drop (recorded.length - ssWindowSlots)).foldl (ssScanSample x.ts) ⟨[], 0⟩) x
  rw [if_neg fresh] at one
  simp only at one
  omega

theorem WindowInv.windowed (inv : WindowInv s i recorded) : SsWindowed s i recorded := by
  have fits : s.windowCount i ≤ ssWindowSlots := inv.ring.count ▸ Nat.min_le_right ..
  constructor
  · simp only [ssSlot_eq fits, Int.toNat_natCast]
    exact inv.ring.visit
  · exact inv.ring.count
  · rw [inv.ring.head]
    exact Nat.mod_lt _ (by decide)
  · exact fun k _ => ssSlot_range fits
  · intro now
    have size := ssScan_size now
      (ringVisit ssWindowSlots (s.window i) (s.windowHead i) (s.windowCount i)) ⟨[], 0⟩
    rw [ssScan_eq fits]
    rw [ringVisit_length] at size
    simp only [List.length_nil] at size
    omega
  · intro x last
    have score := inv.stored x last
    exact ⟨score, score ▸ ssComputeScore_recorded inv.ring last⟩
  · exact inv.never

/-- In every run each window is the recent history of its server and the score
is in range, so a server with samples ranks before one without any. -/
theorem ssRecordProbe_windows {serverCount : Nat} {window : Nat → Nat → SsSample}
    {events : List SelectorEvent}
    (run : SelectorTrace (serverSelectorInit serverCount window) events s) :
    (∀ i, SsWindowed s i (ssRecorded events i)) ∧
      ∀ a b, ssRecorded events a ≠ [] → ssRecorded events b = [] →
        ssHealthRank (s.health a) = ssHealthRank (s.health b) →
        ssBetterLocked s a b = true ∧ ssBetterLocked s b a = false := by
  have windowed := fun i => (run.window_inv i).windowed
  refine ⟨windowed, fun a b sampled never rank => ?_⟩
  have real := ((windowed a).stored _ (List.getLast?_eq_some_getLast sampled)).2
  have top := (windowed b).never never
  have less : s.score a < s.score b := by
    rw [top, ssNeverSampled]
    omega
  simp only [ssBetterLocked, rank, lt_irrefl, decide_false, decide_true, Bool.false_or, Bool.true_and,
    decide_eq_true_eq, decide_eq_false_iff_not]
  exact ⟨less, by omega⟩

/-- A late probe answer of server 0 leaves its health unknown but samples it. -/
theorem ssRecordProbe_windows_late :
    ∃ s, SelectorTrace (serverSelectorInit 2 fun _ _ => default) [.probe 0 40 false 7 60] s ∧
      ssBetterLocked s 0 1 = true := by
  have run : SelectorTrace (serverSelectorInit 2 fun _ _ => default) ([] ++ [.probe 0 40 false 7 60]) _ :=
    .tail .refl (.probe 40 false 7 60 (by decide))
  refine ⟨_, run, ((ssRecordProbe_windows run).2 0 1 (by decide) (by decide) ?_).1⟩
  rw [ssRecordProbe_eq, ssUpdateBestLocked_health]
  rfl

end Tproxy
