import Tproxy.Tcp.Run

namespace Tproxy

variable {S : Ss2022} {n k : Nat} {target : S.Addr} {st st' : TcpState S} {tfo : Bool}

/-- The plaintext of the complete chunks of a response, for the client that
built the request on the socket. -/
def ServerSocket.response (socket : ServerSocket S) (stream : List UInt8) : List UInt8 :=
  openStream S (S.responseHeaderSize socket.ssClient.2) .responseHeader socket.ssClient.2 stream

/-- With no output pending, an open session has delivered all that it received. -/
theorem StateInv.delivered {s : TcpSession S TcpRelay} (inv : StateInv n target (.relay s))
    (newest : k + 1 = s.net.opened) (drained : s.union.serverToClientOutLen = 0) :
    s.net.delivered = (s.net.socket k).response s.net.arrived := by
  obtain ⟨j, relaying⟩ := inv
  have same : k = j := Nat.succ.inj (newest.trans relaying.newest.symm)
  subst same
  exact relaying.core.down.delivered_all relaying.relay.settled drained

/-- The server to client stream of a session. -/
theorem tcpSession_serverToClient (small : n ≤ 8) (reach : TcpReach n tfo target st) :
    (st.net.opened = 0 → st.net.delivered = [] ∧ st.net.clientShutdown = false) ∧
      ∀ k, k + 1 = st.net.opened →
        (∀ more, st.net.delivered <+: (st.net.socket k).response (st.net.arrived ++ more)) ∧
        (∀ s, st = .relay s → s.union.serverToClientOutLen = 0 →
          st.net.delivered = (st.net.socket k).response st.net.arrived) ∧
        (st.net.clientShutdown = true →
          st.net.delivered = (st.net.socket k).response st.net.arrived) := by
  have inv := reach.inv small
  have outside := inv.outside
  refine ⟨outside.unopened, fun k newest => ?_⟩
  obtain ⟨_, down⟩ := outside.newest k newest
  refine ⟨down.front, fun s same drained => ?_, down.shutdown⟩
  subst same
  exact inv.delivered newest drained

/-- A response of one byte is delivered. -/
theorem tcpSession_serverToClient_byte : ∃ st : TcpState plainSs2022, st.net.delivered = [9] ∧
    ∀ more, st.net.delivered <+: (st.net.socket 0).response (st.net.arrived ++ more) := by
  obtain ⟨st, reach, ⟨⟨opened, delivered⟩, _⟩, _⟩ := plainSs2022_exchange
  obtain ⟨_, streams⟩ := tcpSession_serverToClient (by decide) reach
  exact ⟨st, delivered, (streams 0 opened.symm).1⟩

/-- The client to server stream of a session, on the newest of its sockets: the
one that it relays on, or else the one that it tries. -/
theorem tcpSession_clientToServer (small : n ≤ 8) (reach : TcpReach n tfo target st) :
    (∀ s, st = .relay s → ∃ k, s.serverFd = some k ∧ k + 1 = st.net.opened) ∧
      ∀ k, k + 1 = st.net.opened →
        (st.net.socket k).Built target st.net.firstData ∧
        (st.net.socket k).accepted <+: (st.net.socket k).expected st.net.laterReads ∧
        ((st.net.socket k).shutdown = true → st.net.clientEofRead = true ∧
          (st.net.socket k).accepted = (st.net.socket k).expected st.net.laterReads) ∧
        ∀ st', TcpStep n tfo st st' → st'.net.laterReads ≠ st.net.laterReads →
          (st.net.socket k).accepted = (st.net.socket k).expected st.net.laterReads := by
  have inv := reach.inv small
  refine ⟨fun s same => ?_, fun k newest => ?_⟩
  · subst same
    obtain ⟨k, relaying⟩ := inv
    exact ⟨k, relaying.core.fd, relaying.newest⟩
  · have outside := inv.outside
    obtain ⟨up, _⟩ := outside.newest k newest
    refine ⟨outside.servers.built k (by omega), up.front, up.shutdown, fun st' step reads => ?_⟩
    obtain ⟨j, newestJ, accepted⟩ := (inv.step small step).reads reads
    have same : j = k := Nat.succ.inj (newestJ.trans newest.symm)
    exact same ▸ accepted

/-- The server gets the request and then a later byte of the client. -/
theorem tcpSession_clientToServer_byte : ∃ st : TcpState plainSs2022,
    (st.net.socket 0).accepted = [0, 7, 8, 5] ∧
      (st.net.socket 0).accepted <+: (st.net.socket 0).expected [[5]] := by
  obtain ⟨st, reach, ⟨⟨opened, _⟩, laterReads⟩, accepted⟩ := plainSs2022_exchange
  obtain ⟨_, streams⟩ := tcpSession_clientToServer (by decide) reach
  exact ⟨st, accepted, laterReads ▸ (streams 0 opened.symm).2.1⟩

end Tproxy
