import Tproxy.Tcp.ThreadRelaySteps

namespace Tproxy.TcpThread

variable {S : Ss2022} {cfg : TcpConfig} {w w₀ w' : TcpThread S} {order : List Nat} {p : Nat}
  {b : TcpBlock S} {on : TcpWatcher → Bool} {s t : TcpSession S (TcpHandshake S)}
  {Q : Unit → TcpThread S → Prop}

theorem setHandshake_meets (here : TcpAt cfg w₀ none order p b on w) (t : TcpSession S (TcpHandshake S))
    (next : ∀ w', TcpAt cfg w₀ none order p { b with half := .handshake t } on w' → Q () w') :
    (setHandshake p t).Meets w Q :=
  setHalf_meets here (.handshake t) next

/-- A step of a session that stays connecting. -/
theorem setConnecting_meets (here : TcpAt cfg w₀ none order p b on w) (connecting : TcpConnecting b on s)
    (server : t.serverWatcher.cb = s.serverWatcher.cb ∨ t.serverWatcher.cb = .onServerWritable)
    (timer : t.phaseTimer = s.phaseTimer)
    (next : ∀ w' b', TcpAt cfg w₀ none order p b' on w' → TcpConnecting b' on t → Q () w') :
    (setHandshake p t).Meets w Q := by
  refine setHandshake_meets here t fun w' here' => next w' _ here' { connecting with
    half := rfl, server := ?_, timer := fun running => timer.trans (connecting.timer running) }
  rcases server with same | writable
  · rw [same]
    exact connecting.server
  · exact Or.inr writable

/-- The relay starts, or the session is closed for want of a buffer. -/
theorem tcpSessionEnterRelay_meets (relayIn : (p : MemoryPool) → PlacedSlab p)
    (here : TcpAt cfg w₀ none order p b on w) (connecting : TcpConnecting b on s) :
    (tcpSessionEnterRelay cfg relayIn p).Meets w fun _ => TcpHandled cfg w₀ order p := by
  refine Program.meets_bind.mpr (evStop_meets here .timer fun w' here => ?_)
  refine Program.meets_bind.mpr (handshake_meets here.live connecting.half ?_)
  refine Program.meets_bind.mpr (setHalf_meets here _ fun w' here => ?_)
  refine Program.meets_bind.mpr (tcpSessionAllocRelayIn_meets here connecting.idle relayIn
    (fun w' here => ?_) fun w' a here => ?_)
  · exact tcpSessionClose_meets here true fun w' gone => Or.inr gone
  · refine Program.meets_bind.mpr (setHalf_meets here _ fun w' here => ?_)
    split
    · exact tcpSessionClose_meets here true fun w' gone => Or.inr gone
    · refine Program.meets_bind.mpr (evStop_meets here .client fun w' here => ?_)
      refine Program.meets_bind.mpr (evStop_meets here .server fun w' here => ?_)
      refine Program.meets_bind.mpr (setHalf_meets here _ fun w' here => ?_)
      exact tcpRelayUpdateWatchers_meets here ⟨rfl, connecting.fd, rfl, rfl, rfl⟩

/-- What `tcp_handshake_retry` does to a session in its handshake. -/
def RetryHandles (cfg : TcpConfig) (retry : Bool → Nat → Program (TcpThread S) Bool) : Prop :=
  ∀ nodeFailure w₀ w order p b on s, TcpAt cfg w₀ none order p b on w → b.half = .handshake s →
    b.relayInAllocated = false → on .client = false →
    (retry nodeFailure p).Meets w fun _ => TcpHandled cfg w₀ order p

section Callbacks
variable {retry : Bool → Nat → Program (TcpThread S) Bool}

/-- How the sending of the request header ends: -1 says that the session was
handled, and 1 that the header is sent. -/
def HeaderPart (cfg : TcpConfig) (w₀ : TcpThread S) (order : List Nat) (p : Nat) (on : TcpWatcher → Bool)
    (ret : Int) (w : TcpThread S) : Prop :=
  (ret = -1 ∧ TcpHandled cfg w₀ order p w) ∨
    ∃ b s, TcpAt cfg w₀ none order p b on w ∧ TcpConnecting b on s

theorem tcpHandshakeSendRequestHeader_meets (retries : RetryHandles cfg retry) (send : Except Errno Nat)
    (here : TcpAt cfg w₀ none order p b on w) (connecting : TcpConnecting b on s) :
    (tcpHandshakeSendRequestHeader cfg retry send p).Meets w (HeaderPart cfg w₀ order p on) := by
  have closes {w : TcpThread S} {b : TcpBlock S} (here : TcpAt cfg w₀ none order p b on w) :
      (do tcpSessionClose cfg p true; return -1 : Program (TcpThread S) Int).Meets w
        (HeaderPart cfg w₀ order p on) :=
    Program.meets_bind.mpr (tcpSessionClose_meets here true fun w' gone => Or.inl ⟨rfl, Or.inr gone⟩)
  have breaks (nodeFailure : Bool) (t : TcpSession S (TcpHandshake S)) :
      (do setHandshake p t; let _ ← retry nodeFailure p; return -1 : Program (TcpThread S) Int).Meets w
        (HeaderPart cfg w₀ order p on) := by
    refine Program.meets_bind.mpr (setHandshake_meets here t fun w' here => ?_)
    refine (retries nodeFailure _ _ _ _ _ _ t here rfl connecting.idle connecting.client).bind
      fun _ w' handled => Or.inl ⟨rfl, handled⟩
  refine Program.meets_bind.mpr (handshake_meets here.live connecting.half ?_)
  simp only
  split
  · exact closes here
  split
  · exact Or.inr ⟨b, s, here, connecting⟩
  split
  · exact Or.inr ⟨b, s, here, connecting⟩
  · exact Or.inr ⟨b, s, here, connecting⟩
  · exact breaks _ _
  split
  · exact breaks true _
  · refine Program.meets_bind.mpr (setConnecting_meets here connecting (Or.inl rfl) rfl
      fun w' b' here connecting => ?_)
    split
    · exact closes here
    · exact Program.meets_bind.mpr (setConnecting_meets here connecting (Or.inl rfl) rfl
        fun w' b' here connecting => Or.inr ⟨b', _, here, connecting⟩)

theorem tcpHandshakeOnServerWritable_meets (retries : RetryHandles cfg retry) (send : Except Errno Nat)
    (relayIn : (p : MemoryPool) → PlacedSlab p) (here : TcpAt cfg w₀ none order p b on w)
    (connecting : TcpConnecting b on s) :
    (tcpHandshakeOnServerWritable cfg retry send relayIn p).Meets w fun _ => TcpHandled cfg w₀ order p := by
  refine (tcpHandshakeSendRequestHeader_meets retries send here connecting).bind fun ret w' ends => ?_
  rcases ends with ⟨rfl, handled⟩ | ⟨b, s, here, connecting⟩
  · exact handled
  · split
    · exact tcpSessionEnterRelay_meets relayIn here connecting
    · exact Or.inl ⟨b, on, here, connecting.phase⟩

theorem tcpHandshakeOnServerConnected_meets (retries : RetryHandles cfg retry) (soError : Option Errno)
    (send : Except Errno Nat) (relayIn : (p : MemoryPool) → PlacedSlab p)
    (here : TcpAt cfg w₀ none order p b on w) (connecting : TcpConnecting b on s) :
    (tcpHandshakeOnServerConnected cfg retry soError send relayIn p).Meets w
      fun _ => TcpHandled cfg w₀ order p := by
  refine Program.meets_bind.mpr (handshake_meets here.live connecting.half ?_)
  split
  · refine Program.meets_bind.mpr (setHandshake_meets here _ fun w' here => ?_)
    exact (retries _ _ _ _ _ _ _ _ here rfl connecting.idle connecting.client).bind
      fun _ w' handled => handled
  · split
    · exact tcpSessionEnterRelay_meets relayIn here connecting
    · exact Program.meets_bind.mpr (setConnecting_meets here connecting (Or.inr rfl) rfl
        fun w' b' here connecting => tcpHandshakeOnServerWritable_meets retries send relayIn here connecting)

/-- A session in its handshake without a server socket. -/
structure TcpUnconnected (b : TcpBlock S) (on : TcpWatcher → Bool) (s : TcpSession S (TcpHandshake S)) :
    Prop where
  half : b.half = .handshake s
  idle : b.relayInAllocated = false
  fd : b.serverFd = none
  client : on .client = false

theorem setUnconnected_meets (here : TcpAt cfg w₀ none order p b on w) (unconnected : TcpUnconnected b on s)
    (t : TcpSession S (TcpHandshake S))
    (next : ∀ w' b', TcpAt cfg w₀ none order p b' on w' → TcpUnconnected b' on t → Q () w') :
    (setHandshake p t).Meets w Q :=
  setHandshake_meets here t fun w' here' => next w' _ here' { unconnected with half := rfl }

theorem tcpHandshakeBuildRequestHeader_meets {Q : Bool → TcpThread S → Prop}
    (here : TcpAt cfg w₀ none order p b on w) (unconnected : TcpUnconnected b on s)
    (next : ∀ built w' b' t, TcpAt cfg w₀ none order p b' on w' → TcpUnconnected b' on t → Q built w') :
    (tcpHandshakeBuildRequestHeader p).Meets w Q := by
  refine Program.meets_bind.mpr (handshake_meets here.live unconnected.half ?_)
  exact Program.meets_bind.mpr (setUnconnected_meets here unconnected _
    fun w' b' here unconnected => next _ w' b' _ here unconnected)

/-- The handler gets a socket, or the session is as it was. -/
theorem tcpHandshakeConnectServer_meets {requestHeader : List UInt8} {a : TcpConnectAnswer}
    {Q : Except Bool (Nat × TcpConnectResult × Option Nat) → TcpThread S → Prop}
    (here : TcpAt cfg w₀ none order p b on w)
    (refused : ∀ nodeFailure w', TcpAt cfg w₀ none order p b on w' → Q (.error nodeFailure) w')
    (granted : ∀ fd conn w', TcpAt cfg w₀ (some fd) order p b on w' → Q (.ok (fd, conn)) w') :
    (tcpHandshakeConnectServer cfg requestHeader a).Meets w Q := by
  refine Program.meets_bind.mpr (openFd_meets a.socket (refused false w here) fun fd fresh => ?_)
  have opened : TcpAt cfg w₀ (some fd) order p b on { w with fds := .opened fd :: w.fds } :=
    ⟨here.inv.opened fresh, here.live, here.on, { here.elsewhere with }⟩
  simp only
  split
  · refine Program.meets_bind.mpr (closeFd_meets (opened.inv.fds.owned.mem (o := none) rfl) false ?_)
    exact refused _ _ ⟨opened.inv.closed false, here.live, here.on, { here.elsewhere with }⟩
  · exact granted fd _ _ opened

theorem tcpSessionAttachServer_meets {fd : Nat} (here : TcpAt cfg w₀ (some fd) order p b on w)
    (unconnected : TcpUnconnected b on s) (tfoNsend : Option Nat)
    (next : ∀ w', TcpAt cfg w₀ none order p { b with
      half := .handshake (Tproxy.tcpSessionAttachServer s tfoNsend)
      serverFd := some fd } on w' → Q () w') : (tcpSessionAttachServer p fd tfoNsend).Meets w Q := by
  refine Program.meets_bind.mpr (handshake_meets here.live unconnected.half ?_)
  refine Program.meets_bind.mpr (block_meets here.live (setBlock_meets here.live (next _ ?_)))
  refine ⟨here.inv.attach here.live unconnected.fd _, Function.update_self .., here.on,
    here.elsewhere.trans ⟨fun q apart => ?_, fun _ _ _ => rfl⟩⟩
  rw [write_record, Function.update_of_ne apart]

/-- With its watchers started the session connects. -/
theorem attached_connecting (unconnected : TcpUnconnected b on s) (tfoNsend : Option Nat) (fd : Nat) :
    TcpConnecting { b with
        half := .handshake (Tproxy.tcpSessionAttachServer s tfoNsend)
        serverFd := some fd }
      (Function.update (Function.update on .server true) .timer true)
      (Tproxy.tcpSessionAttachServer s tfoNsend) :=
  ⟨rfl, unconnected.idle, rfl, unconnected.client, Or.inl rfl, fun _ => rfl⟩

/-- How an attempt to connect ends: the session was handled, or it is still
without a server. -/
def Attempted (cfg : TcpConfig) (w₀ : TcpThread S) (order : List Nat) (p : Nat) (on : TcpWatcher → Bool) :
    Except Bool Unit → TcpThread S → Prop
  | .ok (), w => TcpHandled cfg w₀ order p w
  | .error _, w => ∃ b s, TcpAt cfg w₀ none order p b on w ∧ TcpUnconnected b on s

theorem tcpHandshakeTryConnect_meets (retries : RetryHandles cfg retry) (a : TcpConnectAnswer)
    (here : TcpAt cfg w₀ none order p b on w) (unconnected : TcpUnconnected b on s) :
    (tcpHandshakeTryConnect cfg retry a p).Meets w (Attempted cfg w₀ order p on) := by
  refine Program.meets_bind.mpr (handshake_meets here.live unconnected.half ?_)
  refine Program.meets_bind.mpr (setUnconnected_meets here unconnected _ fun w' b here unconnected => ?_)
  refine Program.meets_bind.mpr (tcpHandshakeBuildRequestHeader_meets here unconnected
    fun built w' b s here unconnected => ?_)
  split
  · refine Program.meets_bind.mpr (handshake_meets here.live unconnected.half ?_)
    refine Program.meets_bind.mpr (tcpHandshakeConnectServer_meets here (fun nodeFailure w' here => ?_)
      fun fd conn w' here => ?_)
    · exact Program.meets_bind.mpr (setUnconnected_meets here unconnected _
        fun w' b here unconnected => ⟨b, _, here, unconnected⟩)
    · refine Program.meets_bind.mpr (tcpSessionAttachServer_meets here unconnected _ fun w' here => ?_)
      refine Program.meets_bind.mpr (evStart_meets here .server (fun _ => rfl) fun w' here => ?_)
      refine Program.meets_bind.mpr (evStart_meets here .timer (by rintro ⟨⟩) fun w' here => ?_)
      have connecting := attached_connecting unconnected conn.2 fd
      split
      · exact (tcpHandshakeOnServerConnected_meets retries a.soError a.send a.relayIn here connecting).bind
          fun _ w' handled => handled
      · exact Or.inl ⟨_, _, here, connecting.phase⟩
  · exact ⟨b, s, here, unconnected⟩

end Callbacks

section Retry

/-- The server socket is given up, if there is one. -/
theorem tcpHandshakeDropServer_meets (here : TcpAt cfg w₀ none order p b on w)
    (next : ∀ w' on', TcpAt cfg w₀ none order p { b with serverFd := none } on' w' →
      on' .client = on .client → Q () w') : (tcpHandshakeDropServer p).Meets w Q := by
  refine Program.meets_bind.mpr (block_meets here.live ?_)
  cases server : b.serverFd with
  | none =>
    have same : { b with serverFd := none } = b := by rw [← server]
    exact next w on (same ▸ here) rfl
  | some fd =>
    refine Program.meets_bind.mpr (evStop_meets here .server fun w' here => ?_)
    have inUse : fd ∈ fdsInUse w'.fds :=
      here.inv.fds.owned.mem (o := some (p, .server)) ((fdOf_live here.live .server).trans server)
    refine Program.meets_bind.mpr (closeFd_meets inUse false ?_)
    have stopped : w'.started (p, .server) = false := (here.on .server).trans (Function.update_self ..)
    refine setBlock_meets (by exact here.live) (next _ (Function.update on .server false) ?_ ?_)
    · refine ⟨here.inv.drop here.live server stopped false, Function.update_self .., here.on,
        here.elsewhere.trans ⟨fun q apart => ?_, fun _ _ _ => rfl⟩⟩
      exact congrArg _ (Function.update_of_ne apart ..)
    · exact Function.update_of_ne (by rintro ⟨⟩) ..

/-- Every pass of the loop ends with the session handled; the induction is on
the answers that are left. -/
theorem tcpHandshakeRetry_handles (answers : List (TcpRetryAnswer S)) :
    RetryHandles cfg (tcpHandshakeRetry cfg answers) := by
  induction answers with
  | nil => exact fun _ _ _ _ _ _ _ _ _ _ _ _ => Program.meets_unanswered
  | cons a answers ih =>
    intro nodeFailure w₀ w order p b on s here half idle client
    refine Program.meets_bind.mpr (handshake_meets here.live half ?_)
    generalize (if nodeFailure = true then s.reportFailure else s) = t
    refine Program.meets_bind.mpr (setHandshake_meets here t fun w' here => ?_)
    split
    · exact Program.meets_bind.mpr (tcpSessionClose_meets here true fun w' gone => Or.inr gone)
    refine Program.meets_bind.mpr (evStop_meets here .timer fun w' here => ?_)
    refine Program.meets_bind.mpr (tcpHandshakeDropServer_meets here fun w' on' here kept => ?_)
    have client : on' .client = false := kept.trans client
    refine Program.meets_bind.mpr (setHandshake_meets here _ fun w' here => ?_)
    split
    · exact Program.meets_bind.mpr (tcpSessionClose_meets here false fun w' gone => Or.inr gone)
    split
    · refine Program.meets_bind.mpr (setHandshake_meets here _ fun w' here => ?_)
      exact Program.meets_bind.mpr (tcpSessionClose_meets here true fun w' gone => Or.inr gone)
    refine Program.meets_bind.mpr (setHandshake_meets here _ fun w' here => ?_)
    split
    · exact ih _ _ _ _ _ _ _ _ here rfl idle client
    refine Program.meets_bind.mpr (setHandshake_meets here _ fun w' here => ?_)
    refine (tcpHandshakeTryConnect_meets ih a.connect here ⟨rfl, idle, rfl, client⟩).bind
      fun result w' attempted => ?_
    cases result with
    | ok => exact attempted
    | error nodeFailure =>
      obtain ⟨b, s, here, unconnected⟩ := attempted
      exact ih _ _ _ _ _ _ _ _ here unconnected.half unconnected.idle unconnected.client

end Retry

end Tproxy.TcpThread
