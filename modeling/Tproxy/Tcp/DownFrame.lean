import Tproxy.Tcp.Relay

namespace Tproxy

variable {S : Ss2022} {s t u : TcpSession S TcpRelay} {net : TcpNet S}

/-- What a function of the relay leaves: a session with `P`, or a session
that was reset and freed, and of which `Q` holds outside. -/
def OrFreed (Q : TcpNet S → Prop) (P : TcpSession S TcpRelay → Prop) :
    Except (TcpState S) (TcpSession S TcpRelay) → Prop
  | .error st => ∃ net, st = .closed true net ∧ Q net
  | .ok t => P t

theorem OrFreed.and {Q Q' Q'' : TcpNet S → Prop} {P P' P'' : TcpSession S TcpRelay → Prop}
    {result : Except (TcpState S) (TcpSession S TcpRelay)} (one : OrFreed Q P result)
    (two : OrFreed Q' P' result) (freed : ∀ net, Q net → Q' net → Q'' net)
    (kept : ∀ t, P t → P' t → P'' t) : OrFreed Q'' P'' result := by
  cases result with
  | error st =>
    obtain ⟨net, rfl, one⟩ := one
    obtain ⟨_, same, two⟩ := two
    cases same
    exact ⟨net, rfl, freed net one two⟩
  | ok t => exact kept t one two

theorem OrFreed.imp {Q : TcpNet S → Prop} {P P' : TcpSession S TcpRelay → Prop}
    {result : Except (TcpState S) (TcpSession S TcpRelay)} (one : OrFreed Q P result)
    (kept : ∀ t, P t → P' t) : OrFreed Q P' result :=
  one.and one (fun _ freed _ => freed) fun t kept' _ => kept t kept'

/-- The calls of a session since some point are successes that it reports for
its current attempt. -/
def ReportsSuccess (s : TcpSession S TcpRelay) (calls : List SelectorCall) : Prop :=
  ∃ reported, calls = reported ++ s.net.calls ∧
    ∀ c ∈ reported, c = .success s.serverIdx s.selectorAttemptEpoch

/-- What the server to client half leaves alone in the outside view. -/
structure KeepsNet (s : TcpSession S TcpRelay) (net : TcpNet S) : Prop where
  sockets : (net.opened, net.socket) = (s.net.opened, s.net.socket)
  client : (net.firstData, net.laterReads, net.clientEofRead) =
    (s.net.firstData, s.net.laterReads, s.net.clientEofRead)
  servers : (net.taken, net.broken, net.exhausted) = (s.net.taken, s.net.broken, s.net.exhausted)
  calls : ReportsSuccess s net.calls

/-- What the server to client half leaves alone in the session. -/
structure KeepsUp (s t : TcpSession S TcpRelay) : Prop where
  watchers : (t.clientWatcher, t.serverWatcher, t.serverFd, t.phaseTimer) =
    (s.clientWatcher, s.serverWatcher, s.serverFd, s.phaseTimer)
  attempt : (t.serverIdx, t.triedServersMask, t.selectorAttemptEpoch) =
    (s.serverIdx, s.triedServersMask, s.selectorAttemptEpoch)
  enc : t.ssClient.1 = s.ssClient.1
  ends : (t.union.clientEof, t.union.serverShutdownSent) =
    (s.union.clientEof, s.union.serverShutdownSent)
  pending : (t.union.clientToServerBuf, t.union.clientToServerOff, t.union.clientToServerLen) =
    (s.union.clientToServerBuf, s.union.clientToServerOff, s.union.clientToServerLen)
  net : KeepsNet s t.net

theorem KeepsNet.refl (s : TcpSession S TcpRelay) : KeepsNet s s.net :=
  ⟨rfl, rfl, rfl, [], rfl, fun _ none => by cases none⟩

theorem KeepsUp.refl (s : TcpSession S TcpRelay) : KeepsUp s s :=
  ⟨rfl, rfl, rfl, rfl, rfl, KeepsNet.refl s⟩

theorem KeepsUp.serverIdx (keeps : KeepsUp s t) : t.serverIdx = s.serverIdx :=
  (Prod.mk.inj keeps.attempt).1

theorem KeepsUp.epoch (keeps : KeepsUp s t) : t.selectorAttemptEpoch = s.selectorAttemptEpoch :=
  (Prod.mk.inj (Prod.mk.inj keeps.attempt).2).2

theorem KeepsUp.trans_net (first : KeepsUp s t) (second : KeepsNet t net) : KeepsNet s net := by
  refine ⟨second.sockets.trans first.net.sockets, second.client.trans first.net.client,
    second.servers.trans first.net.servers, ?_⟩
  obtain ⟨early, split, earlySame⟩ := first.net.calls
  obtain ⟨late, split', lateSame⟩ := second.calls
  refine ⟨late ++ early, by rw [split', split, List.append_assoc], fun c member => ?_⟩
  rcases List.mem_append.mp member with late | early
  · rw [lateSame c late, first.serverIdx, first.epoch]
  · exact earlySame c early

theorem KeepsUp.trans (first : KeepsUp s t) (second : KeepsUp t u) : KeepsUp s u :=
  ⟨second.watchers.trans first.watchers, second.attempt.trans first.attempt,
    second.enc.trans first.enc, second.ends.trans first.ends, second.pending.trans first.pending,
    first.trans_net second.net⟩

/-- The frame of a function of the server to client half. -/
abbrev FramesUp (s : TcpSession S TcpRelay) := OrFreed (KeepsNet s) (KeepsUp s)

/-- The frame of a part of the processing loop. -/
def FramesOpening (s : TcpSession S TcpRelay) :
    Except (TcpState S) (Option (TcpSession S TcpRelay)) → Prop
  | .error st => st = .closed true s.net
  | .ok none => True
  | .ok (some t) => KeepsUp s t

theorem tcpRelayOpenResponseHeader_frame : FramesOpening s (tcpRelayOpenResponseHeader s) := by
  simp only [tcpRelayOpenResponseHeader]
  split
  · exact KeepsUp.refl s
  split
  · trivial
  split
  · rfl
  · exact ⟨rfl, rfl, rfl, rfl, rfl, rfl, rfl, rfl, [_], rfl, fun _ same => List.mem_singleton.mp same⟩

theorem tcpRelayOpenLength_frame : FramesOpening s (tcpRelayOpenLength s) := by
  simp only [tcpRelayOpenLength]
  split
  · exact KeepsUp.refl s
  split
  · trivial
  split
  · rfl
  · exact ⟨rfl, rfl, rfl, rfl, rfl, KeepsNet.refl s⟩

theorem tcpRelayOpenPayload_frame : FramesOpening s (tcpRelayOpenPayload s) := by
  simp only [tcpRelayOpenPayload]
  split
  · trivial
  split
  · rfl
  · exact ⟨rfl, rfl, rfl, rfl, rfl, KeepsNet.refl s⟩

theorem tcpRelayProcessOnce_frame :
    match tcpRelayProcessOnce s with
    | .error st => ∃ net, st = .closed true net ∧ KeepsNet s net
    | .ok (t, _) => KeepsUp s t := by
  have header := tcpRelayOpenResponseHeader_frame (s := s)
  unfold tcpRelayProcessOnce
  generalize tcpRelayOpenResponseHeader s = result at header
  match result, header with
  | .error _, rfl => exact ⟨_, rfl, KeepsNet.refl s⟩
  | .ok none, _ => exact KeepsUp.refl s
  | .ok (some s₁), first =>
    have length := tcpRelayOpenLength_frame (s := s₁)
    simp only
    generalize tcpRelayOpenLength s₁ = result at length
    match result, length with
    | .error _, rfl => exact ⟨_, rfl, first.net⟩
    | .ok none, _ => exact first
    | .ok (some s₂), second =>
      have payload := tcpRelayOpenPayload_frame (s := s₂)
      simp only
      generalize tcpRelayOpenPayload s₂ = result at payload
      match result, payload with
      | .error _, rfl => exact ⟨_, rfl, (first.trans second).net⟩
      | .ok none, _ => exact first.trans second
      | .ok (some _), third => exact (first.trans second).trans third

theorem tcpRelayProcessServerData_frame : FramesUp s (tcpRelayProcessServerData s) := by
  induction fuel : s.union.pendingInput using Nat.strongRecOn generalizing s with
  | _ fuel ih =>
    rw [tcpRelayProcessServerData]
    split
    · rename_i drained
      have once := tcpRelayProcessOnce_frame (s := s)
      split
      · rename_i run
        rw [run] at once
        exact once
      · rename_i run
        rw [run] at once
        exact once
      · rename_i t run
        rw [run] at once
        have rest := ih _ (fuel ▸ tcpRelayProcessOnce_pending drained run) (s := t) rfl
        generalize tcpRelayProcessServerData t = result at rest
        cases result with
        | error st =>
          obtain ⟨net, same, keeps⟩ := rest
          exact ⟨net, same, once.trans_net keeps⟩
        | ok u => exact once.trans rest
    · exact KeepsUp.refl s

theorem tcpRelayWriteToClient_frame (sends : List (Except Errno Nat)) :
    FramesUp s (tcpRelayWriteToClient s sends) := by
  have keeps : KeepsNet s s.net := KeepsNet.refl s
  simp only [tcpRelayWriteToClient]
  split
  · exact ⟨_, rfl, rfl, rfl, rfl, keeps.calls⟩
  split <;> exact ⟨rfl, rfl, rfl, rfl, rfl, rfl, rfl, rfl, keeps.calls⟩

theorem tcpRelayProcessPendingServerData_frame :
    FramesUp s (tcpRelayProcessPendingServerData s) := by
  unfold tcpRelayProcessPendingServerData
  split
  · exact KeepsUp.refl s
  · exact tcpRelayProcessServerData_frame

theorem tcpRelayCompactServerInput_frame :
    KeepsUp s { s with union := tcpRelayCompactServerInput s.union } := by
  have keeps : KeepsNet s s.net := KeepsNet.refl s
  unfold tcpRelayCompactServerInput
  split
  · exact KeepsUp.refl s
  split <;> exact ⟨rfl, rfl, rfl, rfl, rfl, keeps⟩

theorem tcpRelayReadFromServer_frame (recvs : List (Except Errno (List UInt8))) :
    FramesUp s (tcpRelayReadFromServer s recvs) := by
  have compact := tcpRelayCompactServerInput_frame (s := s)
  unfold tcpRelayReadFromServer
  simp only
  generalize tcpRelayCompactServerInput s.union = r at compact
  split
  · exact compact
  · exact ⟨_, rfl, compact.net⟩
  · unfold tcpRelayHandleServerEof
    split
    · exact ⟨_, rfl, compact.net⟩
    · exact ⟨compact.watchers, compact.attempt, compact.enc, compact.ends, compact.pending, compact.net⟩
  · rename_i bytes _ _
    have received : KeepsUp s { s with
        net := { s.net with arrived := s.net.arrived ++ bytes }
        union := { r with
          serverToClientIn :=
            writeAt r.serverToClientIn (r.serverToClientInHead + r.serverToClientInLen) bytes
          serverToClientInLen := r.serverToClientInLen + bytes.length } } :=
      ⟨compact.watchers, compact.attempt, compact.enc, compact.ends, compact.pending,
        ⟨rfl, rfl, rfl, compact.net.calls⟩⟩
    have rest := tcpRelayProcessServerData_frame (s := { s with
        net := { s.net with arrived := s.net.arrived ++ bytes }
        union := { r with
          serverToClientIn :=
            writeAt r.serverToClientIn (r.serverToClientInHead + r.serverToClientInLen) bytes
          serverToClientInLen := r.serverToClientInLen + bytes.length } })
    generalize tcpRelayProcessServerData _ = result at rest
    match result, rest with
    | .error _, ⟨net, same, keeps⟩ => exact ⟨net, same, received.trans_net keeps⟩
    | .ok _, keeps => exact received.trans keeps

end Tproxy
