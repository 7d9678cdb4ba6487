import Tproxy.Tcp.ServerEof

namespace Tproxy

variable {S : Ss2022} {n k : Nat} {target : S.Addr} {tfo : Bool} {s t : TcpSession S TcpRelay}
  {dec₀ : S.Dec} {net₀ : TcpNet S} {e : RelayEvent}

/-- An event that a watcher waits for is one that the side is alive for. -/
theorem RelayIdle.live (idle : RelayIdle net₀ k s) (enabled : e.enabled s = true) :
    e.Live s.union := by
  intro read
  simp only [RelayEvent.enabled, read, Bool.and_eq_true, Bool.or_eq_true, Bool.not_true,
    Bool.false_eq_true, false_or] at enabled
  cases side : e.side with
  | client =>
    simp only [side] at enabled
    exact idle.clientRead enabled.1.2
  | server =>
    simp only [side] at enabled
    exact (idle.serverRead enabled.1.2).1

end Tproxy
