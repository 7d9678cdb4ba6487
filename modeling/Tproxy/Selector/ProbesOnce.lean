import Tproxy.Selector.TcpProbeMoves
import Tproxy.Selector.UdpProbes
import Tproxy.Tcp.Run

namespace Tproxy

/-- The probes of a protocol are counted once: the count is right, a probe of
the newest round was done once or is pending, and its timer completes it when
nothing else does. -/
structure CountedOnce {π : Type} [SsProbe π] (P : ProbeProtocol π) (n : Nat) (w : ProbeWorld π) :
    Prop where
  counted : ProbesCounted n w
  once : .started ∈ w.log → ∀ i < n,
    (thisRound w.log).count (.done i) = if i ∈ pendingProbes n w.log then 0 else 1
  timeout : ∀ i now, SsProbe.timerActive (w.probe i) = true →
    i ∉ pendingProbes n (P.onTimeout now w i).log

theorem ProbesCounted.countedOnce {π : Type} [SsProbe π] {n : Nat} {w : ProbeWorld π}
    (counted : ProbesCounted n w) (P : ProbeProtocol π) : CountedOnce P n w :=
  ⟨counted, fun started _ inside => counted.rounds.count_done started inside,
    fun _ now armed => counted.timeout armed now⟩

/-- From stopped probes on, both protocols count every probe once, in every
order and with every outcome of the starts and the callbacks. -/
theorem probes_countedOnce (S : Ss2022) (U : Ss2022Udp) (n : Nat) (window : Nat → Nat → SsSample) :
    (∀ (tfo : Bool) (target : S.Addr) (probe : Nat → TcpProbe S) (w : ProbeWorld (TcpProbe S)),
      (∀ i, (probe i).timerActive = false ∧ (probe i).ioActive = false) →
      ProbeRun (tcpProbes S tfo target) (.init n window probe) w →
      CountedOnce (tcpProbes S tfo target) n w) ∧
    ∀ (target : U.Addr) (probe : Nat → UdpProbe U) (w : ProbeWorld (UdpProbe U)),
      (∀ i, (probe i).timerActive = false ∧ (probe i).ioActive = false) →
      ProbeRun (udpProbes U target) (.init n window probe) w → CountedOnce (udpProbes U target) n w :=
  ⟨fun tfo target _ _ idle run => ((ProbesCounted.init window idle).run run).countedOnce
      (tcpProbes S tfo target),
    fun target _ _ idle run => ((ProbesCounted.init window idle).run run).countedOnce
      (udpProbes U target)⟩

section Waiting

/-- A client whose request is one byte. -/
def tersePlain : Ss2022 :=
  { plainSs2022 with buildRequestHeader := fun client _ _ => (client, .ok [0]) }

def plainUdp : Ss2022Udp where
  Addr := Unit
  Session := Unit
  address _ := ()
  sealDatagram _ _ plain := ((), some plain)
  openDatagram _ packet := ((), some packet)

def stoppedTcpProbe : TcpProbe tersePlain :=
  ⟨((), ()), 0, 0, [], 0, 0, 0, 0, false, .onConnected, false, 0, none, .connecting, 0, fun _ => 0,
    fun _ => 0⟩

def stoppedUdpProbe : UdpProbe plainUdp := ⟨false, false, 0, 0, 0, none, (), 0⟩

/-- The start of a TCP probe, whose context can be made or not. -/
def tcpSetup (ctxInit : Bool) : TcpProbeSetup tersePlain :=
  ⟨ctxInit, some ((), ()), some 3, [], .error .einprogress, ⟨0, none, [], .error .eagain⟩⟩

def udpSetup (ctxInit : Bool) : UdpProbeSetup plainUdp := ⟨ctxInit, some (), some 3, .ok (), 0⟩

/-- Two servers, of which only the second can be probed. -/
theorem tcpProbes_waiting : ∃ w, ProbeRun (tcpProbes tersePlain false ())
    (.init 2 (fun _ _ => default) fun _ => stoppedTcpProbe) w ∧
      w.toStart = [] ∧ SsProbe.timerActive (w.probe 1) = true ∧ pendingProbes 2 w.log = [1] ∧
      (tcpProbeOnTimeout 5 w 1).log.count (.sampled 1 1) = 1 :=
  ⟨_, ((Relation.ReflTransGen.refl.tail (.checkTimer rfl)).tail
      (@ProbeStep.start _ _ _ _ 0 [1] (tcpSetup false) rfl)).tail
      (@ProbeStep.start _ _ _ _ 1 [] (tcpSetup true) rfl), rfl, rfl, rfl, rfl⟩

theorem udpProbes_waiting : ∃ w, ProbeRun (udpProbes plainUdp ())
    (.init 2 (fun _ _ => default) fun _ => stoppedUdpProbe) w ∧
      w.toStart = [] ∧ SsProbe.timerActive (w.probe 1) = true ∧ pendingProbes 2 w.log = [1] ∧
      (udpProbeOnTimeout 5 w 1).log.count (.sampled 1 1) = 1 :=
  ⟨_, ((Relation.ReflTransGen.refl.tail (.checkTimer rfl)).tail
      (@ProbeStep.start _ _ _ _ 0 [1] (udpSetup false) rfl)).tail
      (@ProbeStep.start _ _ _ _ 1 [] (udpSetup true) rfl), rfl, rfl, rfl, rfl⟩

/-- The second probe is pending, and its timeout ends the round. -/
theorem probes_countedOnce_waiting :
    (∃ w : ProbeWorld (TcpProbe tersePlain), w.selector.probesRemaining = 1 ∧
      pendingProbes 2 w.log = [1] ∧ 1 ∉ pendingProbes 2 (tcpProbeOnTimeout 5 w 1).log) ∧
    ∃ w : ProbeWorld (UdpProbe plainUdp), w.selector.probesRemaining = 1 ∧
      pendingProbes 2 w.log = [1] ∧ 1 ∉ pendingProbes 2 (udpProbeOnTimeout 5 w 1).log := by
  obtain ⟨tcp, udp⟩ := probes_countedOnce tersePlain plainUdp 2 fun _ _ => default
  obtain ⟨w, tcpRun, _, tcpArmed, tcpPending, _⟩ := tcpProbes_waiting
  obtain ⟨v, udpRun, _, udpArmed, udpPending, _⟩ := udpProbes_waiting
  have tcpOnce := tcp _ _ _ _ (fun _ => ⟨rfl, rfl⟩) tcpRun
  have udpOnce := udp _ _ _ (fun _ => ⟨rfl, rfl⟩) udpRun
  refine ⟨⟨w, ?_, tcpPending, tcpOnce.timeout 1 5 tcpArmed⟩, v, ?_, udpPending, udpOnce.timeout 1 5 udpArmed⟩
  · exact tcpOnce.counted.remaining.trans (by rw [tcpPending]; rfl)
  · exact udpOnce.counted.remaining.trans (by rw [udpPending]; rfl)

end Waiting

end Tproxy
