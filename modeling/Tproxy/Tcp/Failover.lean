import Tproxy.Tcp.Run

namespace Tproxy

variable {S : Ss2022} {n bound : Nat} {target : S.Addr} {st st' : TcpState S} {tfo : Bool}

/-- Every callback that may be called during the handshake returns, given
answers to as many retries as there are servers. -/
structure HandshakeReturns (n : Nat) (tfo : Bool) (s : TcpSession S (TcpHandshake S)) : Prop where
  payloadRead : s.clientWatcher.active = true → ∀ recvs (a : StartAnswer S),
    (∀ b ∈ a.retries, b.selector.serverCount = n) → n ≤ a.retries.length →
    (tcpHandshakeOnInitialPayloadRead tfo recvs a s).isSome
  payloadTimeout : s.phaseTimer = some .onInitialPayloadTimeout → ∀ recvs (a : StartAnswer S),
    (∀ b ∈ a.retries, b.selector.serverCount = n) → n ≤ a.retries.length →
    (tcpHandshakeOnInitialPayloadTimeout tfo recvs a s).isSome
  connected : s.serverWatcher.active = true → ∀ soError send relayIn (answers : List (RetryAnswer S)),
    (∀ b ∈ answers, b.selector.serverCount = n) → n ≤ answers.length →
    (tcpHandshakeOnServerConnected (tcpHandshakeRetry tfo answers) soError send relayIn s).isSome
  writable : s.serverWatcher.active = true → ∀ send relayIn (answers : List (RetryAnswer S)),
    (∀ b ∈ answers, b.selector.serverCount = n) → n ≤ answers.length →
    (tcpHandshakeOnServerWritable (tcpHandshakeRetry tfo answers) send relayIn s).isSome
  timeout : s.phaseTimer = some .onTimeout → ∀ answers : List (RetryAnswer S),
    (∀ b ∈ answers, b.selector.serverCount = n) → n ≤ answers.length →
    (tcpHandshakeOnTimeout tfo answers s).isSome

/-- Servers are taken at most once, all of them before the session counts as
exhausted, and the failed attempts are reported one by one. -/
structure FairFailover (n : Nat) (net : TcpNet S) : Prop where
  once : net.taken.Nodup
  configured : ∀ i ∈ net.taken, i < n
  exhausted : net.exhausted = true → ∀ i < n, i ∈ net.taken
  blames : failures net.calls = net.broken
  blames_once : net.broken.Nodup
  blames_taken : ∀ i ∈ net.broken, i ∈ net.taken

theorem NetInv.fair {net : TcpNet S} (inv : NetInv n target none net) : FairFailover n net :=
  ⟨inv.taken_nodup, inv.taken_lt, inv.exhausted, inv.blame.symm, inv.broken_nodup, inv.broken_taken⟩

/-- A session that took a server needs answers for the others only. -/
theorem Handled.isSome {s : TcpSession S (TcpHandshake S)} {result : Option (TcpState S)}
    (handled : Handled n target bound s.net result) (inv : HandshakeInv n target none s)
    (enough : n ≤ bound) : result.isSome := by
  cases result with
  | some _ => rfl
  | none =>
    have short : bound + s.net.taken.length ≤ n := handled
    have some := List.length_pos_of_mem inv.taken
    omega

theorem StateInv.returns {s : TcpSession S (TcpHandshake S)} (small : n ≤ 8)
    (inv : StateInv n target (.handshake s)) : HandshakeReturns n tfo s where
  payloadRead active recvs a configured enough :=
    have waiting := inv.waiting (Or.inl active)
    (waiting.onRead small recvs a configured).isSome waiting.fresh.inv enough
  payloadTimeout timer recvs a configured enough :=
    have waiting := inv.waiting (Or.inr timer)
    (waiting.onTimeout small recvs a configured).isSome waiting.fresh.inv enough
  connected active soError send relayIn answers configured enough :=
    have attempting := inv.attempting (Or.inl active)
    Handled.isSome (attempting.connected (tcpHandshakeRetry_handled small answers configured)
      soError send relayIn) attempting.inv enough
  writable active send relayIn answers configured enough :=
    have attempting := inv.attempting (Or.inl active)
    Handled.isSome (attempting.writable (tcpHandshakeRetry_handled small answers configured)
      send relayIn) attempting.inv enough
  timeout timer answers configured enough :=
    have attempting := inv.attempting (Or.inr timer)
    (attempting.onTimeout small answers configured).isSome attempting.inv enough

/-- What `tcp_session_create` leaves: a session that may wait for the initial
payload, and whose wait returns, or none after every server was taken. -/
def Created (n : Nat) (tfo : Bool) :
    Except (TcpNet S) (TcpSession S (TcpHandshake S)) → Prop
  | .error net => FairFailover n net ∧ net.exhausted = true
  | .ok s => FairFailover n s.net ∧ ∀ recvs (a : StartAnswer S),
      (∀ b ∈ a.retries, b.selector.serverCount = n) → n ≤ a.retries.length →
      (tcpHandshakeWaitInitialPayload tfo recvs a s).isSome

theorem TakenServer.created {net : TcpNet S}
    {result : Except (TcpNet S) (TcpSession S (TcpHandshake S))} (small : n ≤ 8)
    (left : TakenServer n target bound net (some result)) : Created n tfo result := by
  match result, left with
  | .error _, ⟨outside, exhausted⟩ => exact ⟨outside.servers.fair, exhausted⟩
  | .ok _, fresh =>
    have fresh : Fresh n target _ := fresh
    refine ⟨fresh.inv.net.fair, fun recvs a configured enough => ?_⟩
    exact (fresh.wait small recvs a configured).isSome fresh.inv enough

/-- The creation of a session returns with answers to one pass more than there
are servers; in every state after it, failover is fair and returns. -/
theorem tcpSession_failover (small : n ≤ 8) :
    (∀ (answers : List (CreateAnswer S)) (ssClient : S.Enc × S.Dec),
      (∀ b ∈ answers, b.selector.serverCount = n ∧ b.selector.bestIdx < n) → n < answers.length →
      ∃ result, tcpSessionCreate answers target ssClient = some result ∧ Created n tfo result) ∧
    ∀ st, TcpReach n tfo target st → FairFailover n st.net ∧
      ∀ s, st = .handshake s → HandshakeReturns n tfo s := by
  refine ⟨fun answers ssClient configured enough => ?_, fun st reach => ?_⟩
  · have left := tcpSessionCreate_spec small answers configured target ssClient
    cases created : tcpSessionCreate answers target ssClient with
    | none =>
      rw [created] at left
      have short : answers.length + 0 ≤ n := left
      omega
    | some result =>
      rw [created] at left
      exact ⟨result, rfl, left.created small⟩
  · have inv := reach.inv small
    refine ⟨inv.outside.servers.fair, fun s same => ?_⟩
    subst same
    exact inv.returns small

/-- The attempt on the first of two servers times out and is reported once. -/
theorem tcpSession_failover_timeout : ∃ s : TcpSession plainSs2022 (TcpHandshake plainSs2022),
    failures s.net.calls = [0] ∧ HandshakeReturns 2 true s := by
  obtain ⟨s, reach, _, _, _, _, _, _, broken⟩ := plainSs2022_failover
  obtain ⟨fair, returns⟩ := (tcpSession_failover (n := 2) (by decide)).2 _ reach
  exact ⟨s, fair.blames.trans broken, returns s rfl⟩

end Tproxy
