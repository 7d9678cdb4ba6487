import Tproxy.Tcp.ThreadConnect

namespace Tproxy

variable {S : Ss2022} {cfg : TcpConfig} {w w₀ w' : TcpThread S} {order : List Nat} {p q : Nat}
  {b c : TcpBlock S} {on : TcpWatcher → Bool} {s t : TcpSession S (TcpHandshake S)}

namespace TcpThread

section Start

/-- The first attempt to connect, of a session without a server socket. -/
theorem tcpHandshakeStart_meets (a : TcpStartAnswer S) (here : TcpAt cfg w₀ none order p b on w)
    (half : b.half = .handshake s) (idle : b.relayInAllocated = false) (fd : b.serverFd = none) :
    (tcpHandshakeStart cfg a p).Meets w fun _ => TcpHandled cfg w₀ order p := by
  refine Program.meets_bind.mpr (evStop_meets here .timer fun w' here => ?_)
  refine Program.meets_bind.mpr (evStop_meets here .client fun w' here => ?_)
  refine Program.meets_bind.mpr (handshake_meets here.live half ?_)
  refine Program.meets_bind.mpr (setHandshake_meets here _ fun w' here => ?_)
  have retries : RetryHandles cfg (tcpHandshakeRetry cfg a.retries) := tcpHandshakeRetry_handles _
  refine (tcpHandshakeTryConnect_meets retries a.connect here
    ⟨rfl, idle, fd, Function.update_self ..⟩).bind fun result w' attempted => ?_
  cases result with
  | ok => exact attempted
  | error nodeFailure =>
    obtain ⟨b, s, here, unconnected⟩ := attempted
    exact retries _ _ _ _ _ _ _ _ here unconnected.half unconnected.idle unconnected.client

theorem tcpHandshakeStartAfterInitialPayload_meets (a : TcpStartAnswer S)
    (here : TcpAt cfg w₀ none order p b on w) (half : b.half = .handshake s)
    (idle : b.relayInAllocated = false) (fd : b.serverFd = none) :
    (tcpHandshakeStartAfterInitialPayload cfg a p).Meets w fun _ => TcpHandled cfg w₀ order p := by
  refine Program.meets_bind.mpr (evStop_meets here .timer fun w' here => ?_)
  refine Program.meets_bind.mpr (evStop_meets here .client fun w' here => ?_)
  refine Program.meets_bind.mpr (handshake_meets here.live half ?_)
  refine Program.meets_bind.mpr (setHandshake_meets here _ fun w' here => ?_)
  split
  · exact tcpSessionClose_meets here false fun w' gone => Or.inr gone
  · exact (tcpHandshakeStart_meets a here rfl idle fd).bind fun _ w' handled => handled

/-- What was read leaves the client watcher and the timer alone. -/
theorem tcpHandshakeReadInitialPayload_keeps {needWait : Bool} (recvs : List (Except Errno (List UInt8)))
    (read : Tproxy.tcpHandshakeReadInitialPayload recvs s = .ready t needWait) :
    t.clientWatcher = s.clientWatcher ∧ t.phaseTimer = s.phaseTimer := by
  induction recvs generalizing s with
  | nil =>
    unfold Tproxy.tcpHandshakeReadInitialPayload at read
    split at read <;> cases read <;> exact ⟨rfl, rfl⟩
  | cons answer rest ih =>
    unfold Tproxy.tcpHandshakeReadInitialPayload at read
    split at read
    · split at read
      · exact ih read
      · cases read
        exact ⟨rfl, rfl⟩
      · cases read
      · split at read
        · cases read
          exact ⟨rfl, rfl⟩
        · have kept := ih read
          exact kept
    · cases read
      exact ⟨rfl, rfl⟩

/-- The session is closed, or it has the payload that was read. -/
theorem tcpHandshakeReadInitialPayload_meets {Q : Option Bool → TcpThread S → Prop}
    (recvs : List (Except Errno (List UInt8))) (here : TcpAt cfg w₀ none order p b on w)
    (half : b.half = .handshake s) (closed : ∀ w', TcpGone cfg w₀ none order p w' → Q none w')
    (ready : ∀ needWait t w', TcpAt cfg w₀ none order p { b with half := .handshake t } on w' →
      t.clientWatcher = s.clientWatcher ∧ t.phaseTimer = s.phaseTimer → Q (some needWait) w') :
    (tcpHandshakeReadInitialPayload cfg recvs p).Meets w Q := by
  refine Program.meets_bind.mpr (handshake_meets here.live half ?_)
  split
  · exact Program.meets_bind.mpr (tcpSessionClose_meets here true fun w' gone => closed w' gone)
  · rename_i t needWait read
    exact Program.meets_bind.mpr (setHandshake_meets here t fun w' here =>
      ready needWait t w' here (tcpHandshakeReadInitialPayload_keeps recvs read))

end Start

section Callbacks
variable (recvs : List (Except Errno (List UInt8))) (a : TcpStartAnswer S)

theorem tcpHandshakeOnInitialPayloadRead_meets (here : TcpAt cfg w₀ none order p b on w)
    (waiting : TcpWaiting b on s) :
    (tcpHandshakeOnInitialPayloadRead cfg recvs a p).Meets w fun _ => TcpHandled cfg w₀ order p := by
  refine Program.meets_bind.mpr (tcpHandshakeReadInitialPayload_meets recvs here waiting.half
    (fun w' gone => Or.inr gone) fun needWait t w' here kept => ?_)
  cases needWait with
  | true =>
    refine Or.inl ⟨_, on, here, TcpWaiting.phase { waiting with half := rfl, client := ?_, timer := ?_ }⟩
    · rw [kept.1]
      exact waiting.client
    · rw [kept.2]
      exact waiting.timer
  | false => exact tcpHandshakeStartAfterInitialPayload_meets a here rfl waiting.idle waiting.fd

theorem tcpHandshakeOnInitialPayloadTimeout_meets (here : TcpAt cfg w₀ none order p b on w)
    (waiting : TcpWaiting b on s) :
    (tcpHandshakeOnInitialPayloadTimeout cfg recvs a p).Meets w fun _ => TcpHandled cfg w₀ order p :=
  Program.meets_bind.mpr (tcpHandshakeReadInitialPayload_meets recvs here waiting.half
    (fun _ gone => Or.inr gone) fun _ _ _ here _ =>
      tcpHandshakeStartAfterInitialPayload_meets a here rfl waiting.idle waiting.fd)

theorem tcpHandshakeWaitInitialPayload_meets (here : TcpAt cfg w₀ none order p b on w)
    (waiting : TcpWaiting b on s) :
    (tcpHandshakeWaitInitialPayload cfg recvs a p).Meets w fun _ => TcpHandled cfg w₀ order p := by
  refine Program.meets_bind.mpr (tcpHandshakeReadInitialPayload_meets recvs here waiting.half
    (fun w' gone => Or.inr gone) fun needWait t w' here kept => ?_)
  cases needWait with
  | true =>
    refine Program.meets_bind.mpr (evStop_meets here .client fun w' here => ?_)
    refine Program.meets_bind.mpr (handshake_meets here.live rfl ?_)
    refine Program.meets_bind.mpr (setHandshake_meets here _ fun w' here => ?_)
    refine Program.meets_bind.mpr (evStart_meets here .client (by rintro ⟨⟩) fun w' here => ?_)
    refine evStart_meets here .timer (by rintro ⟨⟩) fun w' here => Or.inl ⟨_, _, here, ?_⟩
    exact TcpWaiting.phase ⟨rfl, waiting.idle, waiting.fd, fun _ => rfl, waiting.server, fun _ => rfl⟩
  | false => exact tcpHandshakeStartAfterInitialPayload_meets a here rfl waiting.idle waiting.fd

theorem tcpHandshakeOnTimeout_meets (answers : List (TcpRetryAnswer S))
    (here : TcpAt cfg w₀ none order p b on w) (connecting : TcpConnecting b on s) :
    (tcpHandshakeOnTimeout cfg answers p).Meets w fun _ => TcpHandled cfg w₀ order p := by
  refine Program.meets_bind.mpr (handshake_meets here.live connecting.half ?_)
  refine Program.meets_bind.mpr (setHandshake_meets here _ fun w' here => ?_)
  exact (tcpHandshakeRetry_handles answers _ _ _ _ _ _ _ _ here rfl connecting.idle connecting.client).bind
    fun _ w' handled => handled

end Callbacks

end TcpThread

section Settled

/-- Between two events, and while a descriptor is pending: the worker is in
order, and every session is in a phase. -/
structure TcpSettled (cfg : TcpConfig) (pending : Option Nat) (order : List Nat) (w : TcpThread S) :
    Prop where
  inv : TcpInv cfg w pending order
  phases : ∀ p b, w.sessionPool.record p = some b → TcpPhase b fun k => w.started (p, k)

/-- A handler of one session leaves the other sessions in their phase. -/
theorem TcpHandled.settled (handled : TcpHandled cfg w₀ order p w) (settled : TcpSettled cfg none order w₀) :
    ∃ order', TcpSettled cfg none order' w := by
  have others (elsewhere : TcpElsewhere p w₀ w) (q : Nat) (c : TcpBlock S) (apart : q ≠ p)
      (live : w.sessionPool.record q = some c) : TcpPhase c fun k => w.started (q, k) := by
    obtain ⟨b, wasLive, same⟩ := elsewhere.was_live apart live
    have phase := settled.phases q b wasLive
    have watchers : (fun k => w.started (q, k)) = fun k => w₀.started (q, k) :=
      funext fun k => elsewhere.started q k apart
    rw [watchers]
    exact phase.relinked same.symm
  rcases handled with ⟨b, on, here, phase⟩ | gone
  · refine ⟨order, here.inv, fun q c live => ?_⟩
    by_cases own : q = p
    · subst own
      cases here.live.symm.trans live
      rw [funext here.on]
      exact phase
    · exact others here.elsewhere q c own live
  · refine ⟨order.erase p, gone.inv, fun q c live => others gone.elsewhere q c ?_ live⟩
    rintro rfl
    have member := (gone.inv.listed.live q).mp (by rw [live]; rfl)
    exact settled.inv.listed.nodup.not_mem_erase member

/-- A handler begins with the session as it is. -/
theorem TcpSettled.here (settled : TcpSettled cfg none order w) (live : w.sessionPool.record p = some b) :
    TcpAt cfg w none order p b (fun k => w.started (p, k)) w :=
  ⟨settled.inv, live, fun _ => rfl, .refl p w⟩

/-- The event loop calls back only for a session, and for a watcher that is
started. -/
theorem TcpSettled.whenStarted {callback : Program (TcpThread S) Unit} {k : TcpWatcher}
    (settled : TcpSettled cfg none order w)
    (handles : ∀ b, TcpAt cfg w none order p b (fun k => w.started (p, k)) w →
      TcpPhase b (fun k => w.started (p, k)) → w.started (p, k) = true →
      callback.Meets w fun _ => TcpHandled cfg w order p) :
    (TcpThread.whenStarted p k callback).Meets w fun _ w' => ∃ order', TcpSettled cfg none order' w' := by
  refine Program.meets_bind.mpr (Program.meets_of_run rfl ?_)
  split
  · rename_i started
    obtain ⟨b, live, _⟩ := settled.inv.watched p k started
    exact (handles b (settled.here live) (settled.phases p b live) started).mono
      fun _ w' handled => handled.settled settled
  · exact Program.meets_unanswered

end Settled

end Tproxy
