import Tproxy.Tcp.States

namespace Tproxy

variable {S : Ss2022} {n bound k serverIdx epoch : Nat} {target : S.Addr}
  {s : TcpSession S (TcpHandshake S)} {net net₀ : TcpNet S}

theorem RelayGrows.ssClient (grows : RelayGrows k serverIdx epoch net₀ net) :
    (net.socket k).ssClient = (net₀.socket k).ssClient :=
  (Prod.mk.inj (Prod.mk.inj grows.own).2).2

/-- The state after a relay event, or after the start of the relay. -/
theorem RelayAfter.state {st : TcpState S} (after : RelayAfter net k serverIdx epoch st)
    (inv : NetInv n target none net) (newest : k + 1 = net.opened)
    (latest : latestAttempt net.calls = some (serverIdx, epoch)) :
    StateInv n target st ∧ NetGrows net st.net := by
  cases st with
  | handshake => exact after.elim
  | relay t =>
    obtain ⟨idle, rfl, rfl⟩ := after
    have grows := idle.core.grows
    obtain ⟨servers, latest⟩ := inv.relay newest latest grows
    have opened := (Prod.mk.inj grows.kept).1
    refine ⟨⟨k, servers, newest.trans opened.symm, latest, ?_⟩, grows.netGrows newest⟩
    refine { idle with core := { idle.core with grows := .refl .., down := ?_ } }
    rw [grows.ssClient]
    exact idle.core.down
  | closed _ net' =>
    have grows := after.grows
    have opened := (Prod.mk.inj grows.kept).1
    refine ⟨⟨(inv.relay newest latest grows).1, fun j same => ?_, fun none => ?_⟩,
      grows.netGrows newest⟩
    · have own : j = k := Nat.succ.inj (same.trans (opened.trans newest.symm))
      rw [own, grows.ssClient]
      exact ⟨after.up, after.down⟩
    · rw [opened, ← newest] at none
      cases none

theorem tcpRelayUpdateWatchers_laterReads (s : TcpSession S TcpRelay) :
    (tcpRelayUpdateWatchers s).net.laterReads = s.net.laterReads := by
  have server : (tcpRelayShutdownServer s).net.laterReads = s.net.laterReads := by
    unfold tcpRelayShutdownServer TcpNet.shutdownServer
    split
    · split <;> rfl
    · rfl
  have client (t : TcpSession S TcpRelay) :
      (tcpRelayShutdownClient t).net.laterReads = t.net.laterReads := by
    unfold tcpRelayShutdownClient
    split <;> rfl
  rw [← server, ← client]
  simp only [tcpRelayUpdateWatchers]
  split <;> rfl

/-- The relay starts when the whole header was accepted. -/
theorem OnSocket.enterRelay (on : OnSocket s k) (inv : HandshakeInv n target none s)
    (latest : latestAttempt s.net.calls = some (s.serverIdx, s.selectorAttemptEpoch))
    (full : s.union.requestHeaderSent = s.union.requestHeaderLen) (relayIn : Bool) :
    Handled n target bound s.net (some (tcpSessionEnterRelay s relayIn)) := by
  have freed : Handled n target bound s.net (some (.closed true s.net)) :=
    ⟨inv.outside (Or.inl ⟨k, on⟩), NetGrows.refl _, inv.later⟩
  simp only [tcpSessionEnterRelay]
  split
  · exact freed
  split
  · exact freed
  rename_i valid
  obtain ⟨some, fits⟩ := not_or.mp valid
  obtain ⟨arrived, delivered, shutdown⟩ := inv.down
  have core : RelayCore s.net k { s with
      phaseTimer := none
      clientWatcher := ⟨.relayOnEvent, true, false, false⟩
      serverWatcher := ⟨.relayOnEvent, true, false, false⟩
      union := { tcpRelayZero with
        clientEof := s.union.clientEof
        responseHeaderLen := S.responseHeaderSize s.ssClient.2 } } := by
    refine ⟨on.fd, .refl .., ?_, ?_⟩
    · rw [on.ssClient]
      exact
        { headerLen := rfl
          positive := Nat.pos_of_ne_zero some
          headerFits := Nat.not_lt.mp fits
          room := Nat.zero_le _
          consumes := Nat.le_refl _
          inside := Nat.le_refl _
          idle := fun _ => rfl
          stream := fun more => by
            simp only [arrived, delivered]
            rfl
          frames := fun more => by
            simp only [arrived]
            rfl
          eof := fun eof => by cases eof
          shutdown := shutdown
          shutdownEof := fun sent => by cases sent }
    · refine ⟨?_, ?_, inv.eof, on.open_, fun sent => by cases sent⟩
      · simp only [on.accepted, inv.later, ServerSocket.expected, on.header, full, ← on.len,
          List.take_length, sealStream]
        rfl
      · simp only [inv.later, on.ssClient, sealState]
  have settled : ({ tcpRelayZero with
      clientEof := s.union.clientEof
      responseHeaderLen := S.responseHeaderSize s.ssClient.2 } : TcpRelay).Settled :=
    fun _ => Nat.pos_of_ne_zero some
  obtain ⟨state, grows⟩ := (core.updateWatchers settled).state inv.net on.newest latest
  exact ⟨state, grows, (tcpRelayUpdateWatchers_laterReads _).trans inv.later⟩

/-- What `tcp_handshake_retry` does for every session that it may be called for. -/
def Retries (n : Nat) (target : S.Addr) (bound : Nat)
    (retry : Bool → TcpSession S (TcpHandshake S) → Option (TcpState S)) : Prop :=
  ∀ nodeFailure s, Retrying n target nodeFailure s →
    Handled n target bound s.net (retry nodeFailure s)

/-- The attempt fails: its server is blamed unless the reason is local. -/
theorem HandshakeInv.breakOff (inv : HandshakeInv n target none s)
    (unreported : s.serverIdx ∉ failures s.net.calls)
    (latest : latestAttempt s.net.calls = some (s.serverIdx, s.selectorAttemptEpoch)) (nodeFailure : Bool) :
    HandshakeInv n target (if nodeFailure then some s.serverIdx else none)
      { s with net := s.net.breakOff s.serverIdx nodeFailure } := by
  have net := inv.net.breakOff inv.taken (inv.fresh unreported) ⟨_, latest⟩ nodeFailure
  cases nodeFailure with
  | false => exact inv
  | true => exact { inv with net := net }

theorem Attempting.retrying (attempting : Attempting n target s) (nodeFailure : Bool) :
    Retrying n target nodeFailure { s with net := s.net.breakOff s.peer nodeFailure } := by
  obtain ⟨k, on⟩ := attempting.socket
  have peer : s.peer = s.serverIdx := by
    simp only [TcpSession.peer, on.fd]
    exact on.server
  rw [peer]
  refine ⟨attempting.inv.breakOff attempting.unreported attempting.latest nodeFailure, ?_, Or.inl ⟨k, ?_⟩,
    attempting.quiet⟩
  all_goals cases nodeFailure
  · exact attempting.unreported
  · exact attempting.unreported
  · exact on
  · exact { on with }

theorem NetGrows.breakOff (net : TcpNet S) (server : Nat) (nodeFailure : Bool) :
    NetGrows net (net.breakOff server nodeFailure) := by
  cases nodeFailure with
  | false => exact .refl net
  | true => exact .of_same rfl rfl List.suffix_rfl

/-- A part of the header is accepted. -/
theorem OnSocket.accept (on : OnSocket s k) {nsend : Nat}
    (fits : s.union.requestHeaderSent + nsend ≤ s.union.requestHeaderLen)
    (small : s.union.requestHeaderLen ≤ uint16Max) :
    OnSocket { s with
      net := s.net.accept s.serverFd (((s.union.requestHeader.take s.union.requestHeaderLen).drop
        s.union.requestHeaderSent).take nsend)
      union := { s.union with
        requestHeaderSent := (s.union.requestHeaderSent + nsend) % (uint16Max + 1) } } k := by
  have whole : s.union.requestHeader.take s.union.requestHeaderLen = s.union.requestHeader := by
    rw [← on.len, List.take_length]
  have unwrapped : (s.union.requestHeaderSent + nsend) % (uint16Max + 1) =
      s.union.requestHeaderSent + nsend := Nat.mod_eq_of_lt (by omega)
  have accepted : s.net.accept s.serverFd (((s.union.requestHeader.take
      s.union.requestHeaderLen).drop s.union.requestHeaderSent).take nsend) =
      s.net.accept (some k) ((s.union.requestHeader.drop s.union.requestHeaderSent).take nsend) := by
    rw [on.fd, whole]
  rw [accepted, unwrapped]
  refine ⟨on.fd, on.newest, ?_, on.len, ?_, ?_, ?_, ?_⟩
  · rw [TcpNet.accept_socket]
    exact on.header
  · rw [TcpNet.accept_socket]
    simp only [on.accepted]
    exact (List.take_add ..).symm
  · rw [TcpNet.accept_socket]
    exact on.server
  · rw [TcpNet.accept_socket]
    exact on.ssClient
  · rw [TcpNet.accept_socket]
    exact on.open_

theorem HandshakeInv.accept (inv : HandshakeInv n target none s) (on : OnSocket s k)
    (bytes : List UInt8) {sent : Nat} (fits : sent ≤ s.union.requestHeaderLen) :
    HandshakeInv n target none { s with
      net := s.net.accept s.serverFd bytes
      union := { s.union with requestHeaderSent := sent } } := by
  have accepted : s.net.accept s.serverFd bytes = s.net.accept (some k) bytes := by rw [on.fd]
  rw [accepted]
  exact { inv with net := inv.net.accept on.newest bytes, sent_le := fits }

section Callbacks
variable {retry : Bool → TcpSession S (TcpHandshake S) → Option (TcpState S)}

theorem Attempting.handled (attempting : Attempting n target s) :
    Handled n target bound s.net (some (.handshake s)) :=
  ⟨Or.inr attempting, NetGrows.refl _, attempting.inv.later⟩

theorem Attempting.writable (attempting : Attempting n target s)
    (retries : Retries n target bound retry) (send : Except Errno Nat) (relayIn : Bool) :
    Handled n target bound s.net (tcpHandshakeOnServerWritable retry send relayIn s) := by
  obtain ⟨k, on⟩ := attempting.socket
  have inv := attempting.inv
  simp only [tcpHandshakeOnServerWritable]
  split
  · exact ⟨inv.outside (Or.inl ⟨k, on⟩), NetGrows.refl _, inv.later⟩
  split
  · rename_i full
    exact on.enterRelay inv attempting.latest full relayIn
  cases send with
  | error err =>
    cases err with
    | eintr => exact attempting.handled
    | eagain => exact attempting.handled
    | _ => exact (retries _ _ (attempting.retrying _)).grow (.breakOff ..)
  | ok n =>
    simp only
    split
    · exact (retries _ _ (attempting.retrying true)).grow (.breakOff ..)
    have room : s.union.requestHeaderSent + min n ((s.union.requestHeader.take
        s.union.requestHeaderLen).drop s.union.requestHeaderSent).length ≤
        s.union.requestHeaderLen := by
      have sent_le := inv.sent_le
      simp only [List.length_drop, List.length_take, on.len]
      omega
    generalize min n ((s.union.requestHeader.take s.union.requestHeaderLen).drop
      s.union.requestHeaderSent).length = nsend at *
    have on' := on.accept room inv.len_le
    have unwrapped := Nat.mod_eq_of_lt (Nat.lt_succ_of_le (Nat.le_trans room inv.len_le))
    have inv' := inv.accept on (((s.union.requestHeader.take s.union.requestHeaderLen).drop
      s.union.requestHeaderSent).take nsend) (unwrapped.symm ▸ room)
    have grows := NetGrows.accept s.net on.newest (((s.union.requestHeader.take
      s.union.requestHeaderLen).drop s.union.requestHeaderSent).take nsend)
    rw [← on.fd] at grows
    have calls : (s.net.accept s.serverFd (((s.union.requestHeader.take
        s.union.requestHeaderLen).drop s.union.requestHeaderSent).take nsend)).calls =
        s.net.calls := by
      rw [on.fd]
      rfl
    have latest := calls.symm ▸ attempting.latest
    have unreported := calls.symm ▸ attempting.unreported
    split
    · omega
    split
    · rename_i full
      exact (on'.enterRelay inv' latest full relayIn).grow grows
    · exact Handled.grow grows
        (Attempting.handled ⟨inv', unreported, ⟨k, on'⟩, latest, attempting.quiet, attempting.timer⟩)

theorem Attempting.connected (attempting : Attempting n target s)
    (retries : Retries n target bound retry) (soError : Option Errno) (send : Except Errno Nat)
    (relayIn : Bool) :
    Handled n target bound s.net
      (tcpHandshakeOnServerConnected retry soError send relayIn s) := by
  obtain ⟨k, on⟩ := attempting.socket
  have inv := attempting.inv
  unfold tcpHandshakeOnServerConnected
  split
  · exact (retries _ _ (attempting.retrying _)).grow (.breakOff ..)
  split
  · rename_i full
    exact on.enterRelay inv attempting.latest (Nat.le_antisymm inv.sent_le full) relayIn
  · exact Attempting.writable (s := { s with
      serverWatcher := { s.serverWatcher with cb := .onServerWritable } })
      ⟨{ inv with }, attempting.unreported, ⟨k, { on with }⟩, attempting.latest, attempting.quiet,
        attempting.timer⟩
      retries send relayIn

end Callbacks

end Tproxy
