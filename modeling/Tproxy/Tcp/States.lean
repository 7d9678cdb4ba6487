import Tproxy.Tcp.Accept
import Tproxy.Tcp.RelayEvent
import Tproxy.Tcp.Servers

namespace Tproxy

variable {S : Ss2022}

/-- The invariant of a session before the relay. -/
structure HandshakeInv (n : Nat) (target : S.Addr) (blamed : Option Nat)
    (s : TcpSession S (TcpHandshake S)) : Prop where
  net : NetInv n target blamed s.net
  mask : ∀ i < 8, s.triedServersMask.testBit i = true ↔ i ∈ s.net.taken
  current : s.net.taken.head? = some s.serverIdx
  payload : s.union.initialPayload = s.net.firstData
  eof : s.net.clientEofRead = s.union.clientEof
  target : s.union.target = target
  later : s.net.laterReads = []
  down : s.net.arrived = [] ∧ s.net.delivered = [] ∧ s.net.clientShutdown = false
  sent_le : s.union.requestHeaderSent ≤ s.union.requestHeaderLen
  len_le : s.union.requestHeaderLen ≤ uint16Max

/-- The session sends its request header on socket `k`, the newest one. -/
structure OnSocket (s : TcpSession S (TcpHandshake S)) (k : Nat) : Prop where
  fd : s.serverFd = some k
  newest : k + 1 = s.net.opened
  header : (s.net.socket k).header = s.union.requestHeader
  len : s.union.requestHeader.length = s.union.requestHeaderLen
  accepted : (s.net.socket k).accepted = s.union.requestHeader.take s.union.requestHeaderSent
  server : (s.net.socket k).server = s.serverIdx
  ssClient : (s.net.socket k).ssClient = s.ssClient
  open_ : (s.net.socket k).shutdown = false

/-- The session has given up all its sockets. -/
structure NoSocket (s : TcpSession S (TcpHandshake S)) : Prop where
  fd : s.serverFd = none
  given : ∀ k < s.net.opened, (s.net.socket k).Abandoned s.net.firstData

/-- `tcp_handshake_retry` may be called, with this `node_failure`. -/
structure Retrying (n : Nat) (target : S.Addr) (nodeFailure : Bool)
    (s : TcpSession S (TcpHandshake S)) : Prop where
  inv : HandshakeInv n target (if nodeFailure then some s.serverIdx else none) s
  unreported : s.serverIdx ∉ failures s.net.calls
  socket : (∃ k, OnSocket s k) ∨ NoSocket s
  quiet : s.clientWatcher.active = false

/-- The session waits for its server socket. -/
structure Attempting (n : Nat) (target : S.Addr) (s : TcpSession S (TcpHandshake S)) : Prop where
  inv : HandshakeInv n target none s
  unreported : s.serverIdx ∉ failures s.net.calls
  socket : ∃ k, OnSocket s k
  latest : latestAttempt s.net.calls = some (s.serverIdx, s.selectorAttemptEpoch)
  quiet : s.clientWatcher.active = false
  timer : s.phaseTimer = some .onTimeout

/-- The session has not tried to connect yet. -/
structure Fresh (n : Nat) (target : S.Addr) (s : TcpSession S (TcpHandshake S)) : Prop where
  inv : HandshakeInv n target none s
  unreported : s.serverIdx ∉ failures s.net.calls
  fd : s.serverFd = none
  unopened : s.net.opened = 0
  quiet : s.serverWatcher.active = false

/-- The session waits for the initial payload. -/
structure Waiting (n : Nat) (target : S.Addr) (s : TcpSession S (TcpHandshake S)) : Prop where
  fresh : Fresh n target s
  timer : s.phaseTimer = some .onInitialPayloadTimeout

/-- The session relays. -/
structure Relaying (n : Nat) (target : S.Addr) (s : TcpSession S TcpRelay) (k : Nat) : Prop where
  net : NetInv n target none s.net
  newest : k + 1 = s.net.opened
  latest : latestAttempt s.net.calls = some (s.serverIdx, s.selectorAttemptEpoch)
  relay : RelayIdle s.net k s

/-- What holds outside between two events, whatever the session does. -/
structure Outside (n : Nat) (target : S.Addr) (net : TcpNet S) : Prop where
  servers : NetInv n target none net
  newest : ∀ k, k + 1 = net.opened →
    AcceptedNet net k ∧ DeliveredNet S (net.socket k).ssClient.2 net
  unopened : net.opened = 0 → net.delivered = [] ∧ net.clientShutdown = false

/-- The invariant of a session between two events. -/
def StateInv (n : Nat) (target : S.Addr) : TcpState S → Prop
  | .handshake s => Waiting n target s ∨ Attempting n target s
  | .relay s => ∃ k, Relaying n target s k
  | .closed _ net => Outside n target net

/-- What handling an event leaves, with answers to `bound` retries: a state
that keeps the invariant, or the answers did not suffice for the servers. -/
def Handled (n : Nat) (target : S.Addr) (bound : Nat) (net : TcpNet S) :
    Option (TcpState S) → Prop
  | none => bound + net.taken.length ≤ n
  | some st => StateInv n target st ∧ NetGrows net st.net ∧ st.net.laterReads = []

variable {n bound k : Nat} {target : S.Addr} {s : TcpSession S (TcpHandshake S)} {net net' : TcpNet S}
  {nodeFailure : Bool}

theorem Handled.grow {result : Option (TcpState S)} (grows : NetGrows net net')
    (handled : Handled n target bound net' result) : Handled n target bound net result := by
  cases result with
  | none =>
    have longer := grows.taken.length_le
    have handled : bound + net'.taken.length ≤ n := handled
    exact Nat.le_trans (Nat.add_le_add_left longer bound) handled
  | some st => exact ⟨handled.1, grows.trans handled.2.1, handled.2.2⟩

theorem HandshakeInv.taken (inv : HandshakeInv n target none s) : s.serverIdx ∈ s.net.taken :=
  List.mem_of_mem_head? inv.current

theorem HandshakeInv.fresh (inv : HandshakeInv n target none s)
    (unreported : s.serverIdx ∉ failures s.net.calls) : s.serverIdx ∉ s.net.broken := by
  rw [inv.net.blame]
  exact unreported

/-- Nothing was read from a server, and so nothing delivered. -/
theorem HandshakeInv.delivered {blamed : Option Nat} (inv : HandshakeInv n target blamed s)
    (dec : S.Dec) : DeliveredNet S dec s.net := by
  obtain ⟨_, delivered, shutdown⟩ := inv.down
  refine ⟨fun more => ?_, fun shut => ?_⟩
  · rw [delivered]
    exact List.nil_prefix
  · rw [shutdown] at shut
    cases shut

theorem ServerSocket.front_expected {socket : ServerSocket S} {reads : List (List UInt8)}
    (front : socket.accepted <+: socket.header) : socket.accepted <+: socket.expected reads :=
  front.trans (List.prefix_append _ _)

theorem OnSocket.front (on : OnSocket s k) : (s.net.socket k).accepted <+: (s.net.socket k).header := by
  rw [on.accepted, on.header]
  exact List.take_prefix _ _

/-- A session may be freed anywhere in the handshake. -/
theorem HandshakeInv.outside (inv : HandshakeInv n target none s)
    (socket : (∃ k, OnSocket s k) ∨ NoSocket s) : Outside n target s.net := by
  refine ⟨inv.net, fun k newest => ⟨?_, inv.delivered _⟩, fun _ => inv.down.2⟩
  have front : (s.net.socket k).accepted <+: (s.net.socket k).header ∧
      (s.net.socket k).shutdown = false := by
    rcases socket with ⟨j, on⟩ | no
    · have same : k = j := Nat.succ.inj (newest.trans on.newest.symm)
      rw [same]
      exact ⟨on.front, on.open_⟩
    · have given := no.given k (by omega)
      exact ⟨given.front, given.open_⟩
  refine ⟨ServerSocket.front_expected front.1, fun shut => ?_⟩
  rw [front.2] at shut
  cases shut

theorem Fresh.noSocket (fresh : Fresh n target s) : NoSocket s :=
  ⟨fresh.fd, fun k bound => by
    rw [fresh.unopened] at bound
    cases bound⟩

theorem RelayGrows.netGrows {serverIdx epoch : Nat} (grows : RelayGrows k serverIdx epoch net net')
    (newest : k + 1 = net.opened) : NetGrows net net' := by
  obtain ⟨opened, firstData⟩ := Prod.mk.inj grows.kept
  refine ⟨Nat.le_of_eq opened.symm, fun j _ => ?_, fun j _ => ?_,
    fun j bound => grows.others j (by omega), fun _ => firstData, ?_⟩
  · by_cases own : j = k
    · rw [own]
      exact (Prod.mk.inj (Prod.mk.inj grows.own).2).1
    · rw [grows.others j own]
  · by_cases own : j = k
    · rw [own]
      exact grows.accepted
    · exact ServerSocket.grows_of_eq (grows.others j own)
  · exact (Prod.mk.inj grows.servers).1 ▸ List.suffix_rfl

/-- Reported successes change neither the failures nor the newest attempt. -/
theorem reported_successes {serverIdx epoch : Nat} {reported calls : List SelectorCall}
    (successes : ∀ c ∈ reported, c = .success serverIdx epoch)
    (latest : latestAttempt calls = some (serverIdx, epoch)) (matching : CallsMatch n calls) :
    failures (reported ++ calls) = failures calls ∧
      latestAttempt (reported ++ calls) = some (serverIdx, epoch) ∧
      CallsMatch n (reported ++ calls) := by
  induction reported with
  | nil => exact ⟨rfl, latest, matching⟩
  | cons c rest ih =>
    obtain ⟨head, tail⟩ := List.forall_mem_cons.mp successes
    obtain ⟨same, latest', matching'⟩ := ih tail
    subst head
    exact ⟨same, latest', matching'.cons (c := .success serverIdx epoch) latest'⟩

theorem NetInv.relay {serverIdx epoch : Nat} (inv : NetInv n target none net)
    (newest : k + 1 = net.opened) (latest : latestAttempt net.calls = some (serverIdx, epoch))
    (grows : RelayGrows k serverIdx epoch net net') :
    NetInv n target none net' ∧ latestAttempt net'.calls = some (serverIdx, epoch) := by
  obtain ⟨opened, firstData⟩ := Prod.mk.inj grows.kept
  obtain ⟨taken, servers⟩ := Prod.mk.inj grows.servers
  obtain ⟨broken, exhausted⟩ := Prod.mk.inj servers
  obtain ⟨_, own⟩ := Prod.mk.inj grows.own
  obtain ⟨header, ssClient⟩ := Prod.mk.inj own
  obtain ⟨reported, calls, successes⟩ := grows.calls
  obtain ⟨same, latest', matching⟩ := reported_successes successes latest inv.calls
  refine ⟨?_, calls ▸ latest'⟩
  refine
    { taken_nodup := taken ▸ inv.taken_nodup
      taken_lt := taken ▸ inv.taken_lt
      exhausted := by
        rw [taken, exhausted]
        exact inv.exhausted
      blame := by
        rw [broken, calls, same]
        exact inv.blame
      broken_nodup := broken ▸ inv.broken_nodup
      broken_taken := by
        rw [taken, broken]
        exact inv.broken_taken
      calls := calls ▸ matching
      blamed_latest := fun _ none => by cases none
      built := fun j bound => ?_
      past := fun j bound => ?_ }
  · rw [opened] at bound
    by_cases own : j = k
    · rw [own, ServerSocket.Built, ssClient, header, firstData]
      exact inv.built k (by omega)
    · rw [grows.others j own, firstData]
      exact inv.built j bound
  · rw [opened] at bound
    rw [grows.others j (by omega), firstData]
    exact inv.past j bound

end Tproxy
