import Tproxy.Tcp.DownFrame
import Tproxy.Tcp.Opening
import Tproxy.Tcp.Upstream

namespace Tproxy

variable {S : Ss2022} {s t : TcpSession S TcpRelay} {k : Nat} {net₀ net : TcpNet S}

/-- How the outside view of a relay on socket `k` develops: the sockets and
servers stay, socket `k` accepts more, and the session reports success for its
current attempt only. -/
structure RelayGrows (k serverIdx epoch : Nat) (net₀ net : TcpNet S) : Prop where
  kept : (net.opened, net.firstData) = (net₀.opened, net₀.firstData)
  servers : (net.taken, net.broken, net.exhausted) = (net₀.taken, net₀.broken, net₀.exhausted)
  others : ∀ j, j ≠ k → net.socket j = net₀.socket j
  own : ((net.socket k).server, (net.socket k).header, (net.socket k).ssClient) =
    ((net₀.socket k).server, (net₀.socket k).header, (net₀.socket k).ssClient)
  accepted : (net₀.socket k).accepted <+: (net.socket k).accepted
  calls : ∃ reported, net.calls = reported ++ net₀.calls ∧
    ∀ c ∈ reported, c = .success serverIdx epoch

theorem RelayGrows.refl (k serverIdx epoch : Nat) (net : TcpNet S) :
    RelayGrows k serverIdx epoch net net :=
  ⟨rfl, rfl, fun _ _ => rfl, rfl, List.prefix_rfl, [], rfl, fun _ none => by cases none⟩

/-- The invariant inside a relay event that started from `net₀`. -/
structure RelayCore (net₀ : TcpNet S) (k : Nat) (s : TcpSession S TcpRelay) : Prop where
  fd : s.serverFd = some k
  grows : RelayGrows k s.serverIdx s.selectorAttemptEpoch net₀ s.net
  down : s.Down (net₀.socket k).ssClient.2
  up : s.Up k

/-- What a freed relay leaves. -/
structure RelayFreed (net₀ : TcpNet S) (k serverIdx epoch : Nat) (net : TcpNet S) : Prop where
  grows : RelayGrows k serverIdx epoch net₀ net
  down : DeliveredNet S (net₀.socket k).ssClient.2 net
  up : AcceptedNet net k

theorem RelayCore.freed (core : RelayCore net₀ k s) :
    RelayFreed net₀ k s.serverIdx s.selectorAttemptEpoch s.net :=
  ⟨core.grows, core.down.net, core.up.net⟩

theorem RelayGrows.keepsNet {serverIdx epoch : Nat}
    (grows : RelayGrows k serverIdx epoch net₀ s.net) (same : s.serverIdx = serverIdx)
    (sameEpoch : s.selectorAttemptEpoch = epoch) (keeps : KeepsNet s net) :
    RelayGrows k serverIdx epoch net₀ net := by
  obtain ⟨opened, socket⟩ := Prod.mk.inj keeps.sockets
  obtain ⟨firstData, _⟩ := Prod.mk.inj keeps.client
  obtain ⟨early, split, earlySame⟩ := grows.calls
  obtain ⟨late, split', lateSame⟩ := keeps.calls
  refine ⟨?_, keeps.servers.trans grows.servers, ?_, ?_, ?_, late ++ early, ?_, fun c member => ?_⟩
  · rw [opened, firstData]
    exact grows.kept
  · rw [socket]
    exact grows.others
  · rw [socket]
    exact grows.own
  · rw [socket]
    exact grows.accepted
  · rw [split', split, List.append_assoc]
  · rcases List.mem_append.mp member with late | early
    · rw [lateSame c late, same, sameEpoch]
    · exact earlySame c early

theorem AcceptedNet.keepsNet (accepted : AcceptedNet s.net k) (keeps : KeepsNet s net) :
    AcceptedNet net k := by
  obtain ⟨_, socket⟩ := Prod.mk.inj keeps.sockets
  obtain ⟨_, client⟩ := Prod.mk.inj keeps.client
  obtain ⟨laterReads, eofRead⟩ := Prod.mk.inj client
  refine ⟨?_, ?_⟩
  · rw [socket, laterReads]
    exact accepted.front
  · rw [socket, laterReads, eofRead]
    exact accepted.shutdown

/-- What a part of a relay event leaves: the invariant with a side condition,
or a freed session. -/
abbrev KeepsRelay (net₀ : TcpNet S) (k : Nat) (s : TcpSession S TcpRelay)
    (side : TcpSession S TcpRelay → Prop) :=
  OrFreed (RelayFreed net₀ k s.serverIdx s.selectorAttemptEpoch) fun t => RelayCore net₀ k t ∧
    (t.serverIdx = s.serverIdx ∧ t.selectorAttemptEpoch = s.selectorAttemptEpoch) ∧ side t

theorem RelayCore.keepsUp (core : RelayCore net₀ k s) (keeps : KeepsUp s t)
    (down : t.Down (net₀.socket k).ssClient.2) : RelayCore net₀ k t := by
  obtain ⟨_, socket⟩ := Prod.mk.inj keeps.net.sockets
  obtain ⟨_, client⟩ := Prod.mk.inj keeps.net.client
  obtain ⟨laterReads, eofRead⟩ := Prod.mk.inj client
  obtain ⟨clientEof, shutdownSent⟩ := Prod.mk.inj keeps.ends
  obtain ⟨buf, pending⟩ := Prod.mk.inj keeps.pending
  obtain ⟨off, len⟩ := Prod.mk.inj pending
  obtain ⟨_, watchers⟩ := Prod.mk.inj keeps.watchers
  obtain ⟨_, watchers⟩ := Prod.mk.inj watchers
  refine ⟨(Prod.mk.inj watchers).1.trans core.fd, ?_, down, ?_⟩
  · rw [keeps.serverIdx, keeps.epoch]
    exact core.grows.keepsNet rfl rfl keeps.net
  · obtain ⟨stream, state, eof, shutdown, shutdownEof⟩ := core.up
    refine ⟨?_, ?_, ?_, ?_, ?_⟩
    · rw [socket, buf, off, len, laterReads]
      exact stream
    · rw [socket, laterReads, keeps.enc]
      exact state
    · rw [eofRead, clientEof]
      exact eof
    · rw [socket, shutdownSent]
      exact shutdown
    · rw [shutdownSent, clientEof, len]
      exact shutdownEof

/-- A function of the server to client half keeps the other half by its frame. -/
theorem RelayCore.ofFrame (core : RelayCore net₀ k s)
    {result : Except (TcpState S) (TcpSession S TcpRelay)} {P side : TcpSession S TcpRelay → Prop}
    (frame : FramesUp s result)
    (down : OrFreed (DeliveredNet S (net₀.socket k).ssClient.2)
      (fun t => t.Down (net₀.socket k).ssClient.2 ∧ P t) result)
    (kept : ∀ t, KeepsUp s t → P t → side t) : KeepsRelay net₀ k s side result :=
  frame.and down
    (fun _ keeps delivered =>
      ⟨core.grows.keepsNet rfl rfl keeps, delivered, core.up.net.keepsNet keeps⟩)
    fun t keeps down =>
      ⟨core.keepsUp keeps down.1, ⟨keeps.serverIdx, keeps.epoch⟩, kept t keeps down.2⟩

theorem RelayCore.writeToClient (core : RelayCore net₀ k s) (sends : List (Except Errno Nat)) :
    KeepsRelay net₀ k s (fun t => t.union.clientEof = s.union.clientEof ∧
      t.union.serverEof = s.union.serverEof) (tcpRelayWriteToClient s sends) :=
  core.ofFrame (tcpRelayWriteToClient_frame sends) (core.down.write sends)
    fun _ keeps eof => ⟨(Prod.mk.inj keeps.ends).1, eof⟩

theorem RelayCore.processPending (core : RelayCore net₀ k s) :
    KeepsRelay net₀ k s (fun t => t.union.Settled ∧ t.union.clientEof = s.union.clientEof ∧
      t.union.serverEof = s.union.serverEof) (tcpRelayProcessPendingServerData s) :=
  core.ofFrame tcpRelayProcessPendingServerData_frame core.down.processPending
    fun _ keeps kept => ⟨kept.1, (Prod.mk.inj keeps.ends).1, kept.2⟩

theorem RelayCore.readFromServer (core : RelayCore net₀ k s)
    (drained : s.union.serverToClientOutLen = 0) (live : s.union.serverEof = false)
    (settled : s.union.Settled) (recvs : List (Except Errno (List UInt8))) :
    KeepsRelay net₀ k s (·.union.Settled) (tcpRelayReadFromServer s recvs) :=
  core.ofFrame (tcpRelayReadFromServer_frame recvs)
    (core.down.readFromServer settled drained live recvs) fun _ _ kept => kept.1

theorem RelayGrows.accept {serverIdx epoch : Nat}
    (grows : RelayGrows k serverIdx epoch net₀ net) (bytes : List UInt8) :
    RelayGrows k serverIdx epoch net₀ (net.accept (some k) bytes) := by
  refine ⟨grows.kept, grows.servers, fun j other => ?_, ?_, ?_, grows.calls⟩
  · rw [TcpNet.accept_other net bytes other, grows.others j other]
  · rw [TcpNet.accept_socket]
    exact grows.own
  · rw [TcpNet.accept_socket]
    exact grows.accepted.trans (List.prefix_append _ _)

theorem RelayCore.writeToServer (core : RelayCore net₀ k s) (sends : List (Except Errno Nat)) :
    KeepsRelay net₀ k s (fun t => t.union.clientEof = s.union.clientEof ∧
      t.union.serverEof = s.union.serverEof) (tcpRelayWriteToServer s sends) := by
  have drained := tcpRelayDrain_spec s.union.clientToServerBuf sends s.union.clientToServerOff
    s.union.clientToServerLen
  simp only [tcpRelayWriteToServer]
  generalize tcpRelayDrain s.union.clientToServerBuf sends s.union.clientToServerOff
    s.union.clientToServerLen = d at drained ⊢
  have after : RelayCore net₀ k { s with
      net := s.net.accept s.serverFd d.sent
      union := { s.union with clientToServerOff := d.off, clientToServerLen := d.len } } := by
    have accepted : s.net.accept s.serverFd d.sent = s.net.accept (some k) d.sent := by
      rw [core.fd]
    rw [accepted]
    exact ⟨core.fd, core.grows.accept d.sent, { core.down with }, core.up.drain drained⟩
  split
  · exact ⟨_, rfl, after.freed⟩
  · exact ⟨after, ⟨rfl, rfl⟩, rfl, rfl⟩

theorem RelayCore.readFromClient (core : RelayCore net₀ k s)
    (drained : s.union.clientToServerLen = 0) (live : s.union.clientEof = false)
    (settled : s.union.Settled) (recvs : List (Except Errno (List UInt8))) :
    KeepsRelay net₀ k s (·.union.Settled) (tcpRelayReadFromClient s recvs) := by
  unfold tcpRelayReadFromClient
  split
  · exact ⟨core, ⟨rfl, rfl⟩, settled⟩
  · exact ⟨_, rfl, core.freed⟩
  · refine ⟨⟨core.fd, { core.grows with }, { core.down with }, ?_⟩, ⟨rfl, rfl⟩, settled⟩
    exact { core.up with eof := rfl, shutdownEof := fun _ => ⟨rfl, drained⟩ }
  · rename_i plain _ _
    simp only [readAt_writeAt_self]
    cases sealed : S.sealPayload s.ssClient.1 plain with
    | none =>
      refine ⟨_, rfl, { core.grows with }, { core.down.net with }, ?_⟩
      have same := core.up.seal_failed sealed
      refine ⟨?_, fun shut => ?_⟩
      · simp only [same]
        exact core.up.net.front
      · simp only [same]
        exact core.up.net.shutdown shut
    | some result =>
      obtain ⟨enc, cipher⟩ := result
      exact ⟨⟨core.fd, { core.grows with }, { core.down with }, core.up.seal drained live _ sealed⟩,
        ⟨rfl, rfl⟩, settled⟩

theorem RelayCore.handleWrite (core : RelayCore net₀ k s) (e : RelayEvent) :
    KeepsRelay net₀ k s (fun t => t.union.clientEof = s.union.clientEof ∧
      t.union.serverEof = s.union.serverEof) (tcpRelayHandleWrite s e) := by
  unfold tcpRelayHandleWrite
  split
  · exact ⟨core, ⟨rfl, rfl⟩, rfl, rfl⟩
  · split
    · exact core.writeToClient e.sends
    · exact core.writeToServer e.sends

/-- A read is only delivered to a side whose end of file was not seen. -/
def RelayEvent.Live (e : RelayEvent) (r : TcpRelay) : Prop :=
  e.read = true → match e.side with
    | .client => r.clientEof = false
    | .server => r.serverEof = false

theorem RelayCore.handleRead (core : RelayCore net₀ k s) (settled : s.union.Settled)
    {e : RelayEvent} (live : e.Live s.union) :
    KeepsRelay net₀ k s (·.union.Settled) (tcpRelayHandleRead s e) := by
  unfold tcpRelayHandleRead
  split
  · exact ⟨core, ⟨rfl, rfl⟩, settled⟩
  rename_i reads
  have live := live (not_not.mp reads)
  split
  · rename_i side
    rw [side] at live
    split
    · exact ⟨core, ⟨rfl, rfl⟩, settled⟩
    · rename_i drained
      exact core.readFromClient (not_not.mp drained) live settled e.recvs
  · rename_i side
    rw [side] at live
    split
    · exact ⟨core, ⟨rfl, rfl⟩, settled⟩
    · rename_i drained
      exact core.readFromServer (not_not.mp drained) live settled e.recvs

theorem RelayCore.shutdownServer (core : RelayCore net₀ k s) (settled : s.union.Settled) :
    RelayCore net₀ k (tcpRelayShutdownServer s) ∧ (tcpRelayShutdownServer s).union.Settled := by
  unfold tcpRelayShutdownServer
  split
  · rename_i ready
    have closing : s.net.shutdownServer s.serverFd = s.net.shutdownServer (some k) := by rw [core.fd]
    rw [closing]
    refine ⟨⟨core.fd, ?_, { core.down with }, core.up.shut ready.1 ready.2.1⟩, settled⟩
    refine { core.grows with others := fun j other => ?_, own := ?_, accepted := ?_ }
    · rw [TcpNet.shutdownServer_other s.net other, core.grows.others j other]
    · rw [TcpNet.shutdownServer_socket]
      exact core.grows.own
    · rw [TcpNet.shutdownServer_socket]
      exact core.grows.accepted
  · exact ⟨core, settled⟩

theorem RelayCore.shutdownClient (core : RelayCore net₀ k s) (settled : s.union.Settled) :
    RelayCore net₀ k (tcpRelayShutdownClient s) ∧ (tcpRelayShutdownClient s).union.Settled := by
  unfold tcpRelayShutdownClient
  split
  · rename_i ready
    refine ⟨⟨core.fd, { core.grows with }, ?_, { core.up with }⟩, settled⟩
    exact { core.down with shutdown := rfl, shutdownEof := fun _ => ready.1 }
  · exact ⟨core, settled⟩

/-- The invariant of a relay between two events. -/
structure RelayIdle (net₀ : TcpNet S) (k : Nat) (s : TcpSession S TcpRelay) : Prop where
  core : RelayCore net₀ k s
  settled : s.union.Settled
  clientRead : s.clientWatcher.read = true → s.union.clientEof = false
  serverRead : s.serverWatcher.read = true →
    s.union.serverEof = false ∧ s.union.serverToClientOutLen = 0
  armed : s.clientWatcher.active = true ∨ s.serverWatcher.active = true

/-- What a relay event leaves, seen from `net₀`. -/
def RelayAfter (net₀ : TcpNet S) (k serverIdx epoch : Nat) : TcpState S → Prop
  | .handshake _ => False
  | .relay t => RelayIdle net₀ k t ∧ t.serverIdx = serverIdx ∧ t.selectorAttemptEpoch = epoch
  | .closed _ net => RelayFreed net₀ k serverIdx epoch net

/-- A relay that is not finished waits for something. -/
theorem RelayCore.armed (core : RelayCore net₀ k s) (settled : s.union.Settled)
    (unfinished : ¬(s.union.clientEof ∧ s.union.serverEof ∧ s.union.clientToServerLen = 0 ∧
      s.union.serverToClientOutLen = 0 ∧ s.union.serverToClientInLen = 0)) :
    ((!s.union.clientEof && s.union.clientToServerLen = 0) ||
        decide (s.union.serverToClientOutLen > 0)) = true ∨
      ((!s.union.serverEof && s.union.serverToClientOutLen = 0 &&
        s.union.serverToClientInLen < tcpSsRespInBufsiz) ||
        decide (s.union.clientToServerLen > 0)) = true := by
  by_contra quiet
  simp only [not_or, Bool.or_eq_true, Bool.and_eq_true, Bool.not_eq_true', decide_eq_true_eq,
    Nat.pos_iff_ne_zero, not_and, not_not] at quiet
  obtain ⟨⟨client, drained⟩, server, sent⟩ := quiet
  have clientEof : s.union.clientEof = true := by
    by_contra live
    exact client (Bool.eq_false_iff.mpr live) sent
  have serverEof : s.union.serverEof = true := by
    by_contra live
    exact server ⟨Bool.eq_false_iff.mpr live, drained⟩
      (Nat.lt_of_lt_of_le (core.down.inLen_lt settled drained) core.down.size_le)
  exact unfinished ⟨clientEof, serverEof, sent, drained, (core.down.eof serverEof).1.1⟩

theorem RelayCore.updateWatchers (core : RelayCore net₀ k s) (settled : s.union.Settled) :
    RelayAfter net₀ k s.serverIdx s.selectorAttemptEpoch (tcpRelayUpdateWatchers s) := by
  obtain ⟨core₁, settled₁⟩ := core.shutdownServer settled
  obtain ⟨core₂, settled₂⟩ := core₁.shutdownClient settled₁
  have attempt : (tcpRelayShutdownClient (tcpRelayShutdownServer s)).serverIdx = s.serverIdx ∧
      (tcpRelayShutdownClient (tcpRelayShutdownServer s)).selectorAttemptEpoch =
        s.selectorAttemptEpoch := by
    unfold tcpRelayShutdownClient tcpRelayShutdownServer
    split <;> split <;> exact ⟨rfl, rfl⟩
  unfold tcpRelayUpdateWatchers
  simp only
  generalize tcpRelayShutdownClient (tcpRelayShutdownServer s) = t at *
  obtain ⟨serverIdx, epoch⟩ := attempt
  rw [← serverIdx, ← epoch]
  split
  · exact core₂.freed
  · rename_i unfinished
    refine ⟨⟨⟨core₂.fd, core₂.grows, core₂.down, core₂.up⟩, settled₂, fun reads => ?_,
      fun reads => ?_, ?_⟩, rfl, rfl⟩
    · simp only [Bool.and_eq_true, Bool.not_eq_true'] at reads
      exact reads.1
    · simp only [Bool.and_eq_true, Bool.not_eq_true', decide_eq_true_eq] at reads
      exact reads.1
    · exact core₂.armed settled₂ unfinished

/-- One event keeps the relay invariant. -/
theorem RelayCore.onEvent (core : RelayCore net₀ k s) {e : RelayEvent} (live : e.Live s.union) :
    RelayAfter net₀ k s.serverIdx s.selectorAttemptEpoch (tcpRelayOnEvent s e) := by
  have write := core.handleWrite e
  unfold tcpRelayOnEvent
  generalize tcpRelayHandleWrite s e = result at write
  match result, write with
  | .error _, ⟨_, rfl, freed⟩ => exact freed
  | .ok s₁, ⟨core₁, ⟨idx₁, epoch₁⟩, client₁, server₁⟩ =>
    have pending := core₁.processPending
    rw [← idx₁, ← epoch₁]
    simp only
    generalize tcpRelayProcessPendingServerData s₁ = result at pending
    match result, pending with
    | .error _, ⟨_, rfl, freed⟩ => exact freed
    | .ok s₂, ⟨core₂, ⟨idx₂, epoch₂⟩, settled₂, client₂, server₂⟩ =>
      have live₂ : e.Live s₂.union := by
        unfold RelayEvent.Live at live ⊢
        rw [client₂, server₂, client₁, server₁]
        exact live
      have read := core₂.handleRead settled₂ live₂
      rw [← idx₂, ← epoch₂]
      simp only
      generalize tcpRelayHandleRead s₂ e = result at read
      match result, read with
      | .error _, ⟨_, rfl, freed⟩ => exact freed
      | .ok s₃, ⟨core₃, ⟨idx₃, epoch₃⟩, settled₃⟩ =>
        rw [← idx₃, ← epoch₃]
        exact core₃.updateWatchers settled₃

end Tproxy
