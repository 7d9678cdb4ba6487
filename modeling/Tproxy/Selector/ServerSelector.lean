import Tproxy.Selector.ProbeSockets
import Tproxy.Selector.ProbesOnce

namespace Tproxy

section Callbacks
variable {π : Type} [SsProbe π] {P : ProbeProtocol π} {w v : ProbeWorld π} {i : Nat} {checkTimer : Bool}

/-- A callback of the probes of one protocol, or a report. A round starts only as long as
`check_timer` is active. -/
inductive SelectorCallback (P : ProbeProtocol π) (checkTimer : Bool) (w : ProbeWorld π) : ProbeWorld π → Prop
  | check : checkTimer = true → w.toStart = [] → SelectorCallback P checkTimer w w.startRound
  | start {i : Nat} {rest : List Nat} (a : P.Setup) : w.toStart = i :: rest →
      SelectorCallback P checkTimer w (P.start a { w with toStart := rest } i)
  | io {i : Nat} (a : P.Answer) : w.toStart = [] → SsProbe.ioActive (w.probe i) = true →
      SelectorCallback P checkTimer w (P.onIo a w i)
  | timeout {i : Nat} (now : ℚ) : w.toStart = [] → SsProbe.timerActive (w.probe i) = true →
      SelectorCallback P checkTimer w (P.onTimeout now w i)
  | report (r : P.Report) : SelectorCallback P checkTimer w { w with selector := P.report r w.selector }

theorem SelectorCallback.step (callback : SelectorCallback P checkTimer w v) : ProbeStep P w v := by
  cases callback with
  | check _ settled => exact .checkTimer settled
  | start a next => exact .start a next
  | io a settled active => exact .io a settled active
  | timeout now settled armed => exact .timeout now settled armed
  | report r => exact .report r

theorem ProbeMove.others (move : ProbeMove i w v) {j : Nat} (other : j ≠ i) : v.probe j = w.probe j :=
  move.cases.2.2.1 j other

end Callbacks

/-- What `server_selector_stop` does to the probes of one protocol and to their selector. -/
def ProbeWorld.stop {π : Type} [SsProbe π] [SsProbeSocket π] (w : ProbeWorld π) : ProbeWorld π :=
  { w with
    selector := { w.selector with probesRemaining := 0 }
    ctxReady := fun i => if i < w.selector.serverCount then false else w.ctxReady i
    probe := fun i =>
      if i < w.selector.serverCount ∧ (SsProbeSocket.sockfd (w.probe i)).isSome then SsProbe.stop (w.probe i)
      else w.probe i }

/-- `g_tcp_selector` and `g_udp_selector` with their probes, and whether their
`check_timer` is active. -/
structure ServerSelector (S : Ss2022) (U : Ss2022Udp) where
  tcp : ProbeWorld (TcpProbe S)
  udp : ProbeWorld (UdpProbe U)
  tcpCheckTimer : Bool
  udpCheckTimer : Bool

section Operations
variable {S : Ss2022} {U : Ss2022Udp}

/-- `server_selector_init`, with the static probes and windows as they are. -/
def ServerSelector.init (serverCount : Nat) (tcpWindow udpWindow : Nat → Nat → SsSample)
    (tcpProbe : Nat → TcpProbe S) (udpProbe : Nat → UdpProbe U) : ServerSelector S U where
  tcp := .init serverCount tcpWindow fun i =>
    { tcpProbe i with sockfd := if i < serverCount then none else (tcpProbe i).sockfd }
  udp := .init serverCount udpWindow fun i =>
    { udpProbe i with sockfd := if i < serverCount then none else (udpProbe i).sockfd }
  tcpCheckTimer := false
  udpCheckTimer := false

/-- `server_selector_start`, up to the loops of the first rounds. -/
def serverSelectorStart (enableTcp enableUdp : Bool) (s : ServerSelector S U) : ServerSelector S U :=
  let s := if enableTcp then { s with tcpCheckTimer := true, tcp := s.tcp.startRound } else s
  if enableUdp then { s with udpCheckTimer := true, udp := s.udp.startRound } else s

def serverSelectorStop (s : ServerSelector S U) : ServerSelector S U := ⟨s.tcp.stop, s.udp.stop, false, false⟩

/-- A step of either selector. -/
inductive ServerSelectorStep (tfo : Bool) (tcpTarget : S.Addr) (udpTarget : U.Addr) (s : ServerSelector S U) :
    ServerSelector S U → Prop
  | tcp {v : ProbeWorld (TcpProbe S)} :
      SelectorCallback (tcpProbes S tfo tcpTarget) s.tcpCheckTimer s.tcp v →
      ServerSelectorStep tfo tcpTarget udpTarget s { s with tcp := v }
  | udp {v : ProbeWorld (UdpProbe U)} :
      SelectorCallback (udpProbes U udpTarget) s.udpCheckTimer s.udp v →
      ServerSelectorStep tfo tcpTarget udpTarget s { s with udp := v }

abbrev ServerSelectorRun (tfo : Bool) (tcpTarget : S.Addr) (udpTarget : U.Addr) :=
  Relation.ReflTransGen (ServerSelectorStep tfo tcpTarget udpTarget)

end Operations

section Probes
variable {π : Type} [SsProbe π] [SsProbeSocket π] {P : ProbeProtocol π} {n i : Nat} {w v : ProbeWorld π}
  {checkTimer : Bool} {log : List ProbeEvent}

/-- The probes are counted, and each has a socket as long as it is in flight. -/
structure ProbesHeld (n : Nat) (w : ProbeWorld π) : Prop where
  counted : ProbesCounted n w
  sockets : ∀ i < n, SocketFits (w.probe i)

/-- Nothing of the probes is left, and no more happened than `log` has. -/
structure ProbesStopped (n : Nat) (log : List ProbeEvent) (w : ProbeWorld π) : Prop where
  toStart : w.toStart = []
  inactive : ∀ i, SsProbe.timerActive (w.probe i) = false ∧ SsProbe.ioActive (w.probe i) = false
  released : ∀ i < n, SsProbeSocket.sockfd (w.probe i) = none ∧ w.ctxReady i = false
  remaining : w.selector.probesRemaining = 0
  log : w.log = log

theorem ProbesHeld.startRound (held : ProbesHeld n w) : ProbesHeld n w.startRound where
  counted := held.counted.startRound
  sockets i inside := by
    have same : w.startRound.probe = w.probe := by
      unfold ProbeWorld.startRound
      split <;> rfl
    rw [same]
    exact held.sockets i inside

/-- Only the probe whose turn it is changes. -/
theorem ProbesHeld.callback (keeps : P.KeepsSockets) (held : ProbesHeld n w)
    (callback : SelectorCallback P checkTimer w v) : ProbesHeld n v := by
  have counted := held.counted.step callback.step
  have only {i : Nat} (move : ProbeMove i w v) (own : i < n → SocketFits (v.probe i)) : ProbesHeld n v := by
    refine ⟨counted, fun j inside => ?_⟩
    by_cases same : j = i
    · exact same ▸ own (same ▸ inside)
    · rw [move.others same]
      exact held.sockets j inside
  cases callback with
  | check => exact held.startRound
  | @start i rest a next =>
    have disarmed := held.counted.unarmed i (next ▸ List.mem_cons_self)
    have move := P.start_move a { w with toStart := rest } i disarmed (held.counted.silent i disarmed)
    refine ⟨counted, fun j inside => ?_⟩
    by_cases same : j = i
    · subst same
      exact keeps.start a _ j disarmed (held.sockets j inside)
    · rw [move.others same]
      exact held.sockets j inside
  | @io i a _ active =>
    have armed : SsProbe.timerActive (w.probe i) = true := by
      by_contra disarmed
      rw [held.counted.silent i (Bool.eq_false_iff.mpr disarmed)] at active
      cases active
    exact only (P.onIo_move a w i armed (held.counted.own i armed)) fun inside =>
      keeps.onIo a w i armed (held.sockets i inside)
  | @timeout i now _ armed =>
    have finish := P.onTimeout_eq now w i
    rw [finish] at only ⊢
    exact only (.finish (held.counted.own i armed) ..) fun _ => .finish ..
  | report => exact ⟨counted, held.sockets⟩

/-- A probe that is in flight is one of a server. -/
theorem ProbesHeld.inside (held : ProbesHeld n w) (armed : SsProbe.timerActive (w.probe i) = true) : i < n :=
  (mem_pendingProbes.mp ((held.counted.pending i).mpr (Or.inr armed))).1

theorem ProbesHeld.stop (held : ProbesHeld n w) (settled : w.toStart = []) : ProbesStopped n w.log w.stop where
  toStart := settled
  inactive i := by
    have servers := held.counted.servers
    simp only [ProbeWorld.stop]
    split
    · exact ⟨SsProbe.stop_timerActive _, SsProbe.stop_ioActive _⟩
    · rename_i off
      have disarmed : SsProbe.timerActive (w.probe i) = false := by
        by_contra other
        have armed := Bool.eq_true_of_not_eq_false other
        have inside := held.inside armed
        exact off ⟨servers ▸ inside, Eq.trans (held.sockets i inside) armed⟩
      exact ⟨disarmed, held.counted.silent i disarmed⟩
  released i inside := by
    have below : i < w.selector.serverCount := held.counted.servers ▸ inside
    refine ⟨?_, if_pos below⟩
    simp only [ProbeWorld.stop]
    split
    · exact SsProbeSocket.stop_sockfd _
    · rename_i off
      exact Option.not_isSome_iff_eq_none.mp fun opened => off ⟨below, opened⟩
  remaining := rfl
  log := rfl

/-- Without `check_timer` and with nothing in flight only reports come. -/
theorem ProbesStopped.callback (stopped : ProbesStopped n log w) (callback : SelectorCallback P false w v) :
    ProbesStopped n log v := by
  cases callback with
  | check timer => cases timer
  | start a next =>
    rw [stopped.toStart] at next
    cases next
  | @io i a _ active =>
    rw [(stopped.inactive i).2] at active
    cases active
  | @timeout i now _ armed =>
    rw [(stopped.inactive i).1] at armed
    cases armed
  | report r =>
    exact ⟨stopped.toStart, stopped.inactive, stopped.released,
      (P.report_frame r w.selector).2.trans stopped.remaining, stopped.log⟩

end Probes

section Runs
variable {S : Ss2022} {U : Ss2022Udp} {tfo : Bool} {tcpTarget : S.Addr} {udpTarget : U.Addr} {n : Nat}
  {s t : ServerSelector S U}

/-- Both selectors hold their probes. -/
structure SelectorsHeld (n : Nat) (s : ServerSelector S U) : Prop where
  tcp : ProbesHeld n s.tcp
  udp : ProbesHeld n s.udp

theorem SelectorsHeld.run (held : SelectorsHeld n s) (run : ServerSelectorRun tfo tcpTarget udpTarget s t) :
    SelectorsHeld n t := by
  induction run with
  | refl => exact held
  | tail _ step ih =>
    cases step with
    | tcp callback => exact ⟨ih.tcp.callback (tcpProbes_sockets S tfo tcpTarget) callback, ih.udp⟩
    | udp callback => exact ⟨ih.tcp, ih.udp.callback (udpProbes_sockets U udpTarget) callback⟩

theorem SelectorsHeld.start (held : SelectorsHeld n s) (enableTcp enableUdp : Bool) :
    SelectorsHeld n (serverSelectorStart enableTcp enableUdp s) := by
  cases enableTcp <;> cases enableUdp
  · exact held
  · exact ⟨held.tcp, held.udp.startRound⟩
  · exact ⟨held.tcp.startRound, held.udp⟩
  · exact ⟨held.tcp.startRound, held.udp.startRound⟩

theorem SelectorsHeld.init {tcpWindow udpWindow : Nat → Nat → SsSample} {tcpProbe : Nat → TcpProbe S}
    {udpProbe : Nat → UdpProbe U} (tcpIdle : ∀ i, (tcpProbe i).timerActive = false ∧ (tcpProbe i).ioActive = false)
    (udpIdle : ∀ i, (udpProbe i).timerActive = false ∧ (udpProbe i).ioActive = false) :
    SelectorsHeld n (ServerSelector.init n tcpWindow udpWindow tcpProbe udpProbe) := by
  refine ⟨⟨.init _ tcpIdle, fun i inside => ?_⟩, .init _ udpIdle, fun i inside => ?_⟩
  · change (if i < n then none else _).isSome = (tcpProbe i).timerActive
    rw [if_pos inside, (tcpIdle i).1]
    rfl
  · change (if i < n then none else _).isSome = (udpProbe i).timerActive
    rw [if_pos inside, (udpIdle i).1]
    rfl

/-- Both selectors are stopped. -/
structure SelectorsStopped (n : Nat) (tcpLog udpLog : List ProbeEvent) (s : ServerSelector S U) : Prop where
  tcpCheckTimer : s.tcpCheckTimer = false
  udpCheckTimer : s.udpCheckTimer = false
  tcp : ProbesStopped n tcpLog s.tcp
  udp : ProbesStopped n udpLog s.udp

theorem SelectorsStopped.run {tcpLog udpLog : List ProbeEvent} (stopped : SelectorsStopped n tcpLog udpLog s)
    (run : ServerSelectorRun tfo tcpTarget udpTarget s t) : SelectorsStopped n tcpLog udpLog t := by
  induction run with
  | refl => exact stopped
  | tail _ step ih =>
    cases step with
    | tcp callback =>
      rw [ih.tcpCheckTimer] at callback
      exact ⟨ih.tcpCheckTimer, ih.udpCheckTimer, ih.tcp.callback callback, ih.udp⟩
    | udp callback =>
      rw [ih.udpCheckTimer] at callback
      exact ⟨ih.tcpCheckTimer, ih.udpCheckTimer, ih.tcp, ih.udp.callback callback⟩

/-- In every run a probe has a socket exactly as long as its timer is armed. After
`server_selector_stop`, whenever it comes, no watcher, timer, socket or context is left, and
in every run that follows none comes back and no probe is counted. -/
theorem server_selector_stops {tcpWindow udpWindow : Nat → Nat → SsSample} {tcpProbe : Nat → TcpProbe S}
    {udpProbe : Nat → UdpProbe U} {enableTcp enableUdp : Bool}
    (tcpIdle : ∀ i, (tcpProbe i).timerActive = false ∧ (tcpProbe i).ioActive = false)
    (udpIdle : ∀ i, (udpProbe i).timerActive = false ∧ (udpProbe i).ioActive = false)
    (run : ServerSelectorRun tfo tcpTarget udpTarget
      (serverSelectorStart enableTcp enableUdp (.init n tcpWindow udpWindow tcpProbe udpProbe)) s)
    (tcpSettled : s.tcp.toStart = []) (udpSettled : s.udp.toStart = [])
    (later : ServerSelectorRun tfo tcpTarget udpTarget (serverSelectorStop s) t) :
    (∀ i < n, (s.tcp.probe i).sockfd.isSome = (s.tcp.probe i).timerActive ∧
      (s.udp.probe i).sockfd.isSome = (s.udp.probe i).timerActive) ∧
      SelectorsStopped n s.tcp.log s.udp.log t := by
  have held : SelectorsHeld n s := ((SelectorsHeld.init tcpIdle udpIdle).start enableTcp enableUdp).run run
  refine ⟨fun i inside => ⟨held.tcp.sockets i inside, held.udp.sockets i inside⟩, ?_⟩
  have stopped : SelectorsStopped n s.tcp.log s.udp.log (serverSelectorStop s) :=
    ⟨rfl, rfl, held.tcp.stop tcpSettled, held.udp.stop udpSettled⟩
  exact stopped.run later

/-- Two TCP probes are in flight as the program stops. -/
theorem server_selector_stops_connecting : ∃ s : ServerSelector tersePlain plainUdp,
    (s.tcp.probe 1).sockfd = some 3 ∧ s.tcp.selector.probesRemaining = 2 ∧
      SelectorsStopped 2 s.tcp.log s.udp.log (serverSelectorStop s) := by
  have run : ServerSelectorRun false () () (serverSelectorStart true false
      (.init 2 (fun _ _ => default) (fun _ _ => default) (fun _ => stoppedTcpProbe) fun _ => stoppedUdpProbe)) _ :=
    (Relation.ReflTransGen.refl.tail (.tcp (@SelectorCallback.start _ _ _ _ _ 0 [1] (tcpSetup true) rfl))).tail
      (.tcp (@SelectorCallback.start _ _ _ _ _ 1 [] (tcpSetup true) rfl))
  refine ⟨_, ?_, ?_, (server_selector_stops (fun _ => ⟨rfl, rfl⟩) (fun _ => ⟨rfl, rfl⟩) run rfl rfl .refl).2⟩
  · rfl
  · rfl

end Runs

end Tproxy
