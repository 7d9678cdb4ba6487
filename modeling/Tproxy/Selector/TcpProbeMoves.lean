import Tproxy.Selector.TcpProbes

namespace Tproxy

variable {S : Ss2022} {p q : TcpProbe S} {w : ProbeWorld (TcpProbe S)} {i : Nat}

/-- The timer is armed and the probe measures server `i`. -/
def TcpProbe.InFlight (i : Nat) (p : TcpProbe S) : Prop := p.timerActive = true ∧ p.serverIdx = i

/-- The probe in a verdict. -/
def TcpProbeVerdict.probe : TcpProbeVerdict S → TcpProbe S
  | .pending p => p
  | .finished p _ => p
  | .socketError p _ => p

/-- A turn of the loop of `tcp_probe_on_recv` leaves the probe in flight. -/
def TurnInFlight (i : Nat) : Except (TcpProbeVerdict S) (TcpProbe S) → Prop
  | .ok q => q.InFlight i
  | .error verdict => verdict.probe.InFlight i

theorem tcpProbeAwaitPayload_inFlight (flying : p.InFlight i) : TurnInFlight i (tcpProbeAwaitPayload p) := by
  unfold tcpProbeAwaitPayload
  simp only
  split <;> exact flying

theorem tcpProbeOpenChunk_inFlight (flying : p.InFlight i) : TurnInFlight i (tcpProbeOpenChunk p) := by
  unfold tcpProbeOpenChunk
  split
  · split
    · exact flying
    · exact tcpProbeAwaitPayload_inFlight flying
  · split
    · exact flying
    · exact tcpProbeAwaitPayload_inFlight flying
  · split
    · exact flying
    · simp only
      split <;> exact flying
  · exact flying

theorem tcpProbeOpenChunks_inFlight (flying : p.InFlight i) : (tcpProbeOpenChunks p).probe.InFlight i := by
  fun_induction tcpProbeOpenChunks p with
  | case1 p _ verdict ends =>
    have turn := tcpProbeOpenChunk_inFlight flying
    rw [ends] at turn
    exact turn
  | case2 p _ q next ih =>
    have turn := tcpProbeOpenChunk_inFlight flying
    rw [next] at turn
    exact ih turn
  | case3 p => exact flying

theorem tcpProbeRecv_inFlight (flying : p.InFlight i) (recv : Except Errno (List UInt8)) :
    (tcpProbeRecv p recv).probe.InFlight i := by
  unfold tcpProbeRecv
  split
  · exact flying
  · split
    · exact flying
    · exact flying
    · exact flying
    · simp only
      split
      · exact flying
      · exact tcpProbeOpenChunks_inFlight flying

theorem tcpProbeSend_inFlight (flying : p.InFlight i) (sends : List (Except Errno Nat)) :
    (tcpProbeSend p sends).1.InFlight i := by
  fun_induction tcpProbeSend p sends with
  | case1 => exact flying
  | case2 p _ rest ih => exact ih flying
  | case3 => exact flying
  | case4 => exact flying
  | case5 => exact flying
  | case6 p _ n rest ns _ ih => exact ih flying
  | case7 => exact flying

theorem tcpProbeFinish_move (flying : (w.probe i).InFlight i) (latencyMs : Nat) (errored : Bool)
    (now : ℚ) : ProbeMove i w (tcpProbeFinish w i latencyMs errored now) :=
  .finish flying.2 latencyMs errored now

theorem tcpProbeSocketError_move (flying : (w.probe i).InFlight i) (err : Errno) (now : ℚ) :
    ProbeMove i w (tcpProbeSocketError w i err now) := by
  unfold tcpProbeSocketError
  split
  · exact tcpProbeFinish_move flying ..
  · exact .skip (SsProbe.stop_timerActive _) (SsProbe.stop_ioActive _) w i

theorem set_inFlight (flying : p.InFlight i) (w : ProbeWorld (TcpProbe S)) :
    ((w.set i p).probe i).InFlight i := by
  rw [ProbeWorld.set_probe]
  exact flying

theorem set_move (flying : p.InFlight i) (w : ProbeWorld (TcpProbe S)) : ProbeMove i w (w.set i p) :=
  .going_set flying.1 flying.2 w

theorem tcpProbeOnRecv_move (flying : (w.probe i).InFlight i) (a : TcpProbeAnswer) :
    ProbeMove i w (tcpProbeOnRecv a w i) := by
  have received := tcpProbeRecv_inFlight flying a.recv
  unfold tcpProbeOnRecv
  split
  · rename_i p verdict
    rw [verdict] at received
    exact set_move received w
  · rename_i p call verdict
    rw [verdict] at received
    exact .of_same (.set ..) (tcpProbeFinish_move (set_inFlight received w) ..)
  · rename_i p err verdict
    rw [verdict] at received
    exact .of_same (.set ..) (tcpProbeSocketError_move (set_inFlight received w) ..)

theorem tcpProbeOnSend_move (flying : (w.probe i).InFlight i) (a : TcpProbeAnswer) :
    ProbeMove i w (tcpProbeOnSend a w i) := by
  have sent := tcpProbeSend_inFlight flying a.sends
  unfold tcpProbeOnSend
  split
  · rename_i p ends
    rw [ends] at sent
    exact set_move (p := { p with ioActive := true }) sent w
  · rename_i p err ends
    rw [ends] at sent
    exact .of_same (.set ..) (tcpProbeSocketError_move (set_inFlight sent w) ..)
  · rename_i p ends
    rw [ends] at sent
    exact .of_same (.set ..) (tcpProbeFinish_move (set_inFlight sent w) ..)
  · rename_i p ends
    rw [ends] at sent
    split
    · rename_i q waits
      have waiting : q.InFlight i := by
        unfold tcpProbeAwaitResponse at waits
        simp only at waits
        split at waits
        · cases waits
        · cases waits
          exact sent
      exact set_move waiting w
    · exact .of_same (.set ..) (tcpProbeFinish_move (set_inFlight (by exact sent) w) ..)

theorem tcpProbeOnConnected_move (flying : (w.probe i).InFlight i) (a : TcpProbeAnswer) :
    ProbeMove i w (tcpProbeOnConnected a w i) := by
  unfold tcpProbeOnConnected
  split
  · exact tcpProbeSocketError_move flying ..
  · exact .of_same (.set ..) (tcpProbeOnSend_move (set_inFlight (by exact flying) w) a)

theorem tcpProbeOnIo_move (flying : (w.probe i).InFlight i) (a : TcpProbeAnswer) :
    ProbeMove i w (tcpProbeOnIo a w i) := by
  unfold tcpProbeOnIo
  split
  · exact tcpProbeOnConnected_move flying a
  · exact tcpProbeOnSend_move flying a
  · exact tcpProbeOnRecv_move flying a

theorem tcpProbeConnect_move (tfo : Bool) (a : TcpProbeSetup S) (w : ProbeWorld (TcpProbe S))
    (i fd : Nat) (p : TcpProbe S) : ProbeMove i w (tcpProbeConnect tfo a w i fd p) := by
  unfold tcpProbeConnect
  simp only
  split
  · exact .of_same (.set ..) (tcpProbeSocketError_move (set_inFlight (by exact ⟨rfl, rfl⟩) w) ..)
  · exact .of_same (.set ..) (tcpProbeOnConnected_move (set_inFlight (by exact ⟨rfl, rfl⟩) w) ..)
  · exact set_move (by exact ⟨rfl, rfl⟩) w

theorem tcpProbeStart_move (tfo : Bool) (target : S.Addr) (a : TcpProbeSetup S)
    (disarmed : (w.probe i).timerActive = false) (silent : (w.probe i).ioActive = false) :
    ProbeMove i w (tcpProbeStart tfo target a w i) := by
  unfold tcpProbeStart
  simp only
  obtain ⟨ctxSame, _⟩ := ssCtxGet_same
    (w.set i { w.probe i with attemptEpoch := ssAttemptEpoch w.selector i }) i a.ctxInit
  refine .of_same ((ProbeWorld.SameBut.set w i _).trans ctxSame) ?_
  split
  · exact .ctx_skip (by exact disarmed) (by exact silent) ..
  · split
    · exact .skip (by exact disarmed) (by exact silent) ..
    · split
      · exact .skip (by exact disarmed) (by exact silent) ..
      · split
        · exact .skip (by exact disarmed) (by exact silent) ..
        · exact tcpProbeConnect_move ..

theorem TcpReport.apply_frame (r : TcpReport) (s : SsSelector) :
    (r.apply s).serverCount = s.serverCount ∧ (r.apply s).probesRemaining = s.probesRemaining := by
  cases r with
  | failure serverIdx =>
    simp only [TcpReport.apply, serverSelectorReportTcpFailure]
    split
    · exact ⟨rfl, rfl⟩
    · rw [ssUpdateBestLocked_serverCount, ssUpdateBestLocked_probesRemaining]
      exact ⟨rfl, rfl⟩
  | success serverIdx attemptEpoch =>
    simp only [TcpReport.apply, serverSelectorReportTcpSuccess]
    split
    · exact ⟨rfl, rfl⟩
    · split
      · rw [ssUpdateBestLocked_serverCount, ssUpdateBestLocked_probesRemaining]
        exact ⟨rfl, rfl⟩
      · exact ⟨rfl, rfl⟩

/-- The probes of `g_tcp_selector`. -/
def tcpProbes (S : Ss2022) (tfo : Bool) (target : S.Addr) : ProbeProtocol (TcpProbe S) where
  Setup := TcpProbeSetup S
  Answer := TcpProbeAnswer
  Report := TcpReport
  start := tcpProbeStart tfo target
  onIo := tcpProbeOnIo
  onTimeout := tcpProbeOnTimeout
  report r s := r.apply s
  start_move a _ _ disarmed silent := tcpProbeStart_move tfo target a disarmed silent
  onIo_move a _ _ armed own := tcpProbeOnIo_move ⟨armed, own⟩ a
  onTimeout_eq _ _ _ := rfl
  report_frame := TcpReport.apply_frame

end Tproxy
