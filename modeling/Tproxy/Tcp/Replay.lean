import Tproxy.Tcp.Run

namespace Tproxy

variable {S : Ss2022} {n k : Nat} {target : S.Addr} {st st' : TcpState S} {tfo : Bool}

/-- Sockets never lose what they accepted. -/
theorem ServerSocket.Complete.grow {net net' : TcpNet S} (complete : (net.socket k).Complete)
    (bound : k < net.opened) (grows : NetGrows net net') : (net'.socket k).Complete := by
  obtain ⟨header, whole⟩ := complete
  have own := grows.own k bound
  exact ⟨own ▸ header, own ▸ whole.trans (grows.accepted k bound)⟩

/-- Only the newest socket can have the whole header, if that carries a payload. -/
theorem Outside.complete_newest {net : TcpNet S} (outside : Outside n target net)
    (payload : net.firstData ≠ []) (bound : k < net.opened) (complete : (net.socket k).Complete) :
    k + 1 = net.opened := by
  by_contra older
  exact (outside.servers.past k (by omega)).partly payload complete

/-- The request with a payload is given completely to at most one server, and
then neither is another socket opened nor does another socket accept a byte. -/
theorem tcpSession_noReplay (small : n ≤ 8) (reach : TcpReach n tfo target st)
    (payload : st.net.firstData ≠ []) :
    (∀ k < st.net.opened, (st.net.socket k).Built target st.net.firstData) ∧
      (∀ j < st.net.opened, ∀ k < st.net.opened,
        (st.net.socket j).Complete → (st.net.socket k).Complete → j = k) ∧
      ∀ k < st.net.opened, (st.net.socket k).Complete → ∀ st', TcpRun n tfo st st' →
        st'.net.opened = st.net.opened ∧ ∀ j ≠ k, j < st.net.opened →
          st'.net.socket j = st.net.socket j := by
  have inv := reach.inv small
  have newest (k : Nat) (bound : k < st.net.opened) (complete : (st.net.socket k).Complete) :
      k + 1 = st.net.opened := inv.outside.complete_newest payload bound complete
  refine ⟨inv.outside.servers.built, fun j boundJ k boundK completeJ completeK => ?_,
    fun k bound complete st' run => ?_⟩
  · have newestJ := newest j boundJ completeJ
    have newestK := newest k boundK completeK
    omega
  · obtain ⟨inv', grows⟩ := inv.run small run
    have some : 0 < st.net.opened := Nat.zero_lt_of_lt bound
    have bound' : k < st'.net.opened := Nat.lt_of_lt_of_le bound grows.opened
    have payload' : st'.net.firstData ≠ [] := by rwa [grows.firstData some]
    have newest' := inv'.outside.complete_newest payload' bound' (complete.grow bound grows)
    have same := newest k bound complete
    exact ⟨by omega, fun j other boundJ => grows.past j (by omega)⟩

/-- The second server has the whole request after the first got a byte of it. -/
theorem tcpSession_noReplay_failover : ∃ s : TcpSession plainSs2022 (TcpHandshake plainSs2022),
    (s.net.socket 0).accepted = [0] ∧ (s.net.socket 1).Complete ∧
      ∀ st', TcpRun 2 true (.handshake s) st' → st'.net.opened = 2 ∧
        (st'.net.socket 0).accepted = [0] := by
  obtain ⟨s, reach, payload, opened, first, second, header, _⟩ := plainSs2022_failover
  have complete : (s.net.socket 1).Complete := by
    rw [ServerSocket.Complete, header, second]
    decide
  have bound : ∀ k < 2, k < (TcpState.handshake s).net.opened := fun k bound => by
    simpa only [TcpState.net, opened] using bound
  obtain ⟨_, _, after⟩ := tcpSession_noReplay (by decide) reach
    (by simp only [TcpState.net, payload, ne_eq, reduceCtorEq, not_false_eq_true])
  refine ⟨s, first, complete, fun st' run => ?_⟩
  obtain ⟨same, others⟩ := after 1 (bound 1 (by decide)) complete st' run
  exact ⟨same.trans opened, others 0 (by decide) (bound 0 (by decide)) ▸ first⟩

end Tproxy
