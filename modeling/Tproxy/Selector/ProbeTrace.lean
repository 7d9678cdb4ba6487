import Tproxy.Selector.ProbesOnce
import Tproxy.Selector.Window

namespace Tproxy

variable {π : Type} {start : SsSelector} {w v : ProbeWorld π} {events : List SelectorEvent}
  {e : SelectorEvent} {n i : Nat}

/-- The selector of the probes is that of a run of lock-protected steps with
these events, which record the samples that the log has. -/
structure ProbeTrace (start : SsSelector) (w : ProbeWorld π) (events : List SelectorEvent) : Prop where
  trace : SelectorTrace start events w.selector
  samples : ∀ j, (ssRecorded events j).length = w.log.count (.sampled j j)

theorem ProbeTrace.event (traced : ProbeTrace start w events)
    (step : SelectorStep ssComputeScore w.selector e v.selector)
    (log : ∀ j, v.log.count (.sampled j j) =
      w.log.count (.sampled j j) + (ssRecorded [e] j).length) :
    ProbeTrace start v (events ++ [e]) := by
  refine ⟨traced.trace.tail step, fun j => ?_⟩
  rw [log, ← traced.samples, ← List.length_append]
  simp only [ssRecorded, List.filterMap_append]

theorem ProbeTrace.same (traced : ProbeTrace start w events) (selector : v.selector = w.selector)
    (log : ∀ j, v.log.count (.sampled j j) = w.log.count (.sampled j j)) :
    ProbeTrace start v events :=
  ⟨selector ▸ traced.trace, fun j => (traced.samples j).trans (log j).symm⟩

theorem ProbeTrace.done (traced : ProbeTrace start w events) (i : Nat) :
    ProbeTrace start (w.done i) (events ++ [.probeDone]) := by
  refine traced.event .probeDone fun j => ?_
  simp only [ProbeWorld.done]
  split <;> simp [ssRecorded, SelectorEvent.sample]

variable [SsProbe π]

theorem ProbeTrace.move (traced : ProbeTrace start w events) (move : ProbeMove i w v)
    (bound : i < w.selector.serverCount) : ∃ more, ProbeTrace start v (events ++ more) := by
  cases move with
  | going same =>
    refine ⟨[], ?_⟩
    rw [List.append_nil]
    exact traced.same same.selector fun j => by rw [same.log]
  | skipped same =>
    have traced := traced.same same.selector fun j => by rw [same.log]
    exact ⟨_, traced.done i⟩
  | @recorded u latencyMs errored attemptEpoch now same =>
    have traced := traced.same same.selector fun j => by rw [same.log]
    have recorded : ProbeTrace start (u.record i i latencyMs errored attemptEpoch now)
        (events ++ [.probe i latencyMs errored attemptEpoch now]) := by
      refine traced.event (.probe latencyMs errored attemptEpoch now (same.selector ▸ bound)) fun j => ?_
      by_cases here : i = j
      · simp [ProbeWorld.record, ssRecorded, SelectorEvent.sample, here]
      · simp [ProbeWorld.record, ssRecorded, SelectorEvent.sample, here]
    refine ⟨[.probe i latencyMs errored attemptEpoch now] ++ [.probeDone], ?_⟩
    rw [← List.append_assoc]
    exact recorded.done i

/-- Each report is a step that takes no sample. -/
def ProbeProtocol.ReportsStep (P : ProbeProtocol π) : Prop :=
  ∀ r s, ∃ e, SelectorStep ssComputeScore s e (P.report r s) ∧ ∀ j, e.sample j = none

theorem ProbeTrace.step {P : ProbeProtocol π} (reports : P.ReportsStep) (counted : ProbesCounted n w)
    (traced : ProbeTrace start w events) (step : ProbeStep P w v) :
    ∃ more, ProbeTrace start v (events ++ more) := by
  rcases counted.step_cases step with rfl | ⟨i, rest, turn, move⟩ | ⟨r, rfl⟩
  · unfold ProbeWorld.startRound
    split
    · exact ⟨[], by rwa [List.append_nil]⟩
    · exact ⟨_, traced.event .startRound fun j => by simp [ssRecorded, SelectorEvent.sample]⟩
  · have traced : ProbeTrace start { w with toStart := rest } events := ⟨traced.trace, traced.samples⟩
    refine traced.move move ?_
    rw [turn.servers]
    exact (mem_pendingProbes.mp turn.turn).1
  · obtain ⟨e, step, quiet⟩ := reports r w.selector
    exact ⟨_, traced.event step fun j => by simp [ssRecorded, quiet]⟩

theorem ProbeRun.trace {P : ProbeProtocol π} (reports : P.ReportsStep) {window : Nat → Nat → SsSample}
    {probe : Nat → π}
    (idle : ∀ i, SsProbe.timerActive (probe i) = false ∧ SsProbe.ioActive (probe i) = false)
    (run : ProbeRun P (.init n window probe) w) :
    ∃ events, ProbeTrace (serverSelectorInit n window) w events := by
  induction run with
  | refl => exact ⟨[], .refl, fun _ => rfl⟩
  | tail before step ih =>
    obtain ⟨events, traced⟩ := ih
    obtain ⟨more, traced⟩ := traced.step reports ((ProbesCounted.init window idle).run before) step
    exact ⟨_, traced⟩

/-- The probes of both protocols are runs of the selector's lock-protected steps. -/
theorem probes_trace (S : Ss2022) (U : Ss2022Udp) (n : Nat) (window : Nat → Nat → SsSample) :
    (∀ (tfo : Bool) (target : S.Addr) (probe : Nat → TcpProbe S) (w : ProbeWorld (TcpProbe S)),
      (∀ i, (probe i).timerActive = false ∧ (probe i).ioActive = false) →
      ProbeRun (tcpProbes S tfo target) (.init n window probe) w →
      ∃ events, ProbeTrace (serverSelectorInit n window) w events) ∧
    ∀ (target : U.Addr) (probe : Nat → UdpProbe U) (w : ProbeWorld (UdpProbe U)),
      (∀ i, (probe i).timerActive = false ∧ (probe i).ioActive = false) →
      ProbeRun (udpProbes U target) (.init n window probe) w →
      ∃ events, ProbeTrace (serverSelectorInit n window) w events := by
  refine ⟨fun _ _ _ _ idle run => run.trace (fun r s => ?_) idle,
    fun _ _ _ idle run => run.trace (fun r _ => ?_) idle⟩
  · cases r with
    | failure serverIdx => exact ⟨_, .failure serverIdx, fun _ => rfl⟩
    | success serverIdx attemptEpoch => exact ⟨_, .success serverIdx attemptEpoch, fun _ => rfl⟩
  · exact Empty.elim r

/-- A probe whose timer runs out gives its server the one sample of the run. -/
theorem probes_trace_timeout :
    (∃ (w : ProbeWorld (TcpProbe tersePlain)) (events : List SelectorEvent),
      ProbeTrace (serverSelectorInit 2 fun _ _ => default) w events ∧ (ssRecorded events 1).length = 1) ∧
    ∃ (w : ProbeWorld (UdpProbe plainUdp)) (events : List SelectorEvent),
      ProbeTrace (serverSelectorInit 2 fun _ _ => default) w events ∧ (ssRecorded events 1).length = 1 := by
  obtain ⟨tcp, udp⟩ := probes_trace tersePlain plainUdp 2 fun _ _ => default
  obtain ⟨w, tcpRun, tcpIdle, tcpArmed, _, tcpSampled⟩ := tcpProbes_waiting
  obtain ⟨v, udpRun, udpIdle, udpArmed, _, udpSampled⟩ := udpProbes_waiting
  obtain ⟨events, traced⟩ := tcp false () _ _ (fun _ => ⟨rfl, rfl⟩) (tcpRun.tail (.timeout 5 tcpIdle tcpArmed))
  obtain ⟨events', traced'⟩ := udp () _ _ (fun _ => ⟨rfl, rfl⟩) (udpRun.tail (.timeout 5 udpIdle udpArmed))
  exact ⟨⟨_, events, traced, (traced.samples 1).trans tcpSampled⟩,
    _, events', traced', (traced'.samples 1).trans udpSampled⟩

end Tproxy
