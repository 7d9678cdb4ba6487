import Tproxy.Tcp.Retry

namespace Tproxy

variable {S : Ss2022} {n bound : Nat} {target : S.Addr} {s : TcpSession S (TcpHandshake S)}
  {net : TcpNet S} {tfo : Bool}

theorem Fresh.ready (fresh : Fresh n target s) (client : IoWatcher) (quiet : client.active = false) :
    Ready n target { s with phaseTimer := none, clientWatcher := client } :=
  ⟨{ fresh.inv with }, fresh.unreported, { fresh.noSocket with }, quiet⟩

theorem Ready.start (ready : Ready n target s) (small : n ≤ 8) (a : StartAnswer S)
    (configured : ∀ b ∈ a.retries, b.selector.serverCount = n) :
    Handled n target a.retries.length s.net
      (match tcpHandshakeTryConnect tfo (tcpHandshakeRetry tfo a.retries) a.connect s with
      | .connecting st => st
      | .failed s nodeFailure => tcpHandshakeRetry tfo a.retries nodeFailure s) :=
  have retries := tcpHandshakeRetry_handled small a.retries configured
  Tried.retry retries (ready.tryConnect retries a.connect)

theorem Fresh.start (fresh : Fresh n target s) (small : n ≤ 8) (a : StartAnswer S)
    (configured : ∀ b ∈ a.retries, b.selector.serverCount = n) :
    Handled n target a.retries.length s.net (tcpHandshakeStartAfterInitialPayload tfo a s) := by
  unfold tcpHandshakeStartAfterInitialPayload
  simp only
  split
  · exact HandshakeInv.close { fresh.inv with } (Or.inr { fresh.noSocket with }) (.refl _) false
  · exact Ready.start (fresh.ready _ rfl) small a configured

/-- What reading the initial payload leaves. -/
def PayloadRead (n : Nat) (target : S.Addr) (timer : Option TcpTimer) (net : TcpNet S) :
    InitialRead S → Prop
  | .closed st => ∀ bound, Handled n target bound net (some st)
  | .ready s _ => Fresh n target s ∧ s.phaseTimer = timer ∧ NetGrows net s.net

theorem PayloadRead.grow {timer : Option TcpTimer} {net' : TcpNet S} {result : InitialRead S}
    (grows : NetGrows net net') (read : PayloadRead n target timer net' result) :
    PayloadRead n target timer net result := by
  cases result with
  | closed st => exact fun bound => (read bound).grow grows
  | ready s _ => exact ⟨read.1, read.2.1, grows.trans read.2.2⟩

/-- Before the first socket, the payload may still change. -/
theorem NetGrows.of_unopened {net' : TcpNet S} (unopened : net.opened = 0)
    (taken : net.taken = net'.taken) : NetGrows net net' := by
  refine ⟨?_, ?_, ?_, ?_, ?_, taken ▸ List.suffix_rfl⟩
  all_goals
    rw [unopened]
    intros
    omega

/-- Initial payload is read, into the session and for the outside. -/
theorem Fresh.receive (fresh : Fresh n target s) (data : List UInt8) :
    Fresh n target { s with
      net := { s.net with firstData := s.net.firstData ++ data }
      union := { s.union with initialPayload := s.union.initialPayload ++ data } } := by
  obtain ⟨inv, unreported, fd, unopened, quiet⟩ := fresh
  have none (P : Nat → Prop) (k : Nat) (bound : k < s.net.opened) : P k := by
    rw [unopened] at bound
    cases bound
  refine ⟨{ inv with net := ?_, payload := congrArg (· ++ data) inv.payload }, unreported, fd, unopened,
    quiet⟩
  exact { inv.net with
    built := none _
    past := fun k bound => none (fun _ => _) k (Nat.lt_of_succ_lt bound) }

theorem Fresh.receiveEof (fresh : Fresh n target s) :
    Fresh n target { s with
      net := { s.net with clientEofRead := true }
      union := { s.union with clientEof := true } } :=
  { fresh with inv := { fresh.inv with net := { fresh.inv.net with }, eof := rfl } }

theorem Fresh.read (fresh : Fresh n target s) (recvs : List (Except Errno (List UInt8))) :
    PayloadRead n target s.phaseTimer s.net (tcpHandshakeReadInitialPayload recvs s) := by
  have stay (t : TcpSession S (TcpHandshake S)) (fresh : Fresh n target t) (wait : Bool) :
      PayloadRead n target t.phaseTimer t.net (.ready t wait) := ⟨fresh, rfl, .refl _⟩
  induction recvs generalizing s with
  | nil =>
    unfold tcpHandshakeReadInitialPayload
    split <;> exact stay s fresh _
  | cons answer rest ih =>
    unfold tcpHandshakeReadInitialPayload
    split
    · split
      · exact ih fresh
      · exact stay s fresh _
      · exact fun bound => fresh.inv.close (Or.inr fresh.noSocket) (.refl _) true
      · rename_i bytes
        simp only
        split
        · exact ⟨fresh.receiveEof, rfl, .of_same rfl rfl List.suffix_rfl⟩
        · have read := ih (fresh.receive (bytes.take (tcpSsPlainBufsiz - s.union.initialPayload.length)))
          refine PayloadRead.grow ?_ read
          exact .of_unopened fresh.unopened rfl
    · exact stay s fresh _

theorem Fresh.startRead (fresh : Fresh n target s) (grows : NetGrows net s.net) (small : n ≤ 8)
    (a : StartAnswer S) (configured : ∀ b ∈ a.retries, b.selector.serverCount = n) :
    Handled n target a.retries.length net (tcpHandshakeStartAfterInitialPayload tfo a s) :=
  (fresh.start small a configured).grow grows

theorem Waiting.onRead (waiting : Waiting n target s) (small : n ≤ 8)
    (recvs : List (Except Errno (List UInt8))) (a : StartAnswer S)
    (configured : ∀ b ∈ a.retries, b.selector.serverCount = n) :
    Handled n target a.retries.length s.net (tcpHandshakeOnInitialPayloadRead tfo recvs a s) := by
  have read := waiting.fresh.read recvs
  unfold tcpHandshakeOnInitialPayloadRead
  generalize tcpHandshakeReadInitialPayload recvs s = result at read ⊢
  match result, read with
  | .closed _, closed => exact closed _
  | .ready t true, ⟨fresh, timer, grows⟩ =>
    exact ⟨Or.inl ⟨fresh, timer.trans waiting.timer⟩, grows, fresh.inv.later⟩
  | .ready t false, ⟨fresh, _, grows⟩ => exact fresh.startRead grows small a configured

theorem Waiting.onTimeout (waiting : Waiting n target s) (small : n ≤ 8)
    (recvs : List (Except Errno (List UInt8))) (a : StartAnswer S)
    (configured : ∀ b ∈ a.retries, b.selector.serverCount = n) :
    Handled n target a.retries.length s.net
      (tcpHandshakeOnInitialPayloadTimeout tfo recvs a s) := by
  have read := waiting.fresh.read recvs
  unfold tcpHandshakeOnInitialPayloadTimeout
  generalize tcpHandshakeReadInitialPayload recvs s = result at read ⊢
  match result, read with
  | .closed _, closed => exact closed _
  | .ready t _, ⟨fresh, _, grows⟩ => exact fresh.startRead grows small a configured

theorem Fresh.wait (fresh : Fresh n target s) (small : n ≤ 8)
    (recvs : List (Except Errno (List UInt8))) (a : StartAnswer S)
    (configured : ∀ b ∈ a.retries, b.selector.serverCount = n) :
    Handled n target a.retries.length s.net (tcpHandshakeWaitInitialPayload tfo recvs a s) := by
  have read := fresh.read recvs
  unfold tcpHandshakeWaitInitialPayload
  generalize tcpHandshakeReadInitialPayload recvs s = result at read ⊢
  match result, read with
  | .closed _, closed => exact closed _
  | .ready t false, ⟨fresh, _, grows⟩ => exact fresh.startRead grows small a configured
  | .ready t true, ⟨fresh, _, grows⟩ =>
    exact ⟨Or.inl ⟨{ fresh with inv := { fresh.inv with } }, rfl⟩, grows, fresh.inv.later⟩

theorem Attempting.onTimeout (attempting : Attempting n target s) (small : n ≤ 8)
    (answers : List (RetryAnswer S)) (configured : ∀ b ∈ answers, b.selector.serverCount = n) :
    Handled n target answers.length s.net (tcpHandshakeOnTimeout tfo answers s) :=
  (tcpHandshakeRetry_handled small answers configured true _ (attempting.retrying true)).grow
    (.breakOff ..)

/-- What the loop of `tcp_session_create` leaves, with answers to `bound`
passes: a session that waits, all servers taken, or too few answers. -/
def TakenServer (n : Nat) (target : S.Addr) (bound : Nat) (net : TcpNet S) :
    Option (Except (TcpNet S) (TcpSession S (TcpHandshake S))) → Prop
  | none => bound + net.taken.length ≤ n
  | some (.error net) => Outside n target net ∧ net.exhausted = true
  | some (.ok s) => Fresh n target s

theorem TakenServer.take {i : Nat} {result : Option (Except (TcpNet S) (TcpSession S (TcpHandshake S)))}
    (left : TakenServer n target bound { net with taken := i :: net.taken } result) :
    TakenServer n target (bound + 1) net result := by
  match result, left with
  | none, left =>
    have left : bound + (net.taken.length + 1) ≤ n := left
    have short : bound + 1 + net.taken.length ≤ n := by omega
    exact short
  | some (.error _), left => exact left
  | some (.ok _), fresh => exact fresh

theorem Fresh.take (fresh : Fresh n target s) (small : n ≤ 8) {next : Nat} (bound : next < n)
    (untried : s.triedServersMask.testBit next = false) : Fresh n target (s.take next) := by
  obtain ⟨taken, unreported⟩ := fresh.inv.take small bound untried
  exact { fresh with inv := taken, unreported := unreported }

theorem Fresh.takeServer (fresh : Fresh n target s) (small : n ≤ 8) (answers : List (CreateAnswer S))
    (configured : ∀ b ∈ answers, b.selector.serverCount = n ∧ b.selector.bestIdx < n) :
    TakenServer n target answers.length s.net (tcpSessionTakeServer answers false s) := by
  induction answers generalizing s with
  | nil => exact (Nat.zero_add _).trans_le fresh.inv.net.taken_length
  | cons a answers ih =>
    obtain ⟨⟨count, _⟩, configured⟩ := List.forall_mem_cons.mp configured
    simp only [tcpSessionTakeServer, Bool.false_eq_true, if_false]
    split
    · rename_i none_left
      exact ⟨(fresh.inv.exhaust small count none_left).outside (Or.inr { fresh.noSocket with }), rfl⟩
    · rename_i next found
      obtain ⟨⟨next_lt, untried⟩, _⟩ := ssCandidateLocked_spec found
      rw [count] at next_lt
      have taken := fresh.take small next_lt untried
      refine TakenServer.take (i := next) ?_
      split
      · exact ih taken configured
      · exact { taken with inv := { taken.inv with } }

/-- The first server is taken by a zeroed session. -/
theorem tcpSessionZero_take {i : Nat} (bound : i < n) (target : S.Addr)
    (ssClient : S.Enc × S.Dec) : Fresh n target ((tcpSessionZero target ssClient).take i) := by
  refine ⟨?_, List.not_mem_nil, rfl, rfl, rfl⟩
  refine ⟨?_, fun j bound => ?_, rfl, rfl, rfl, rfl, rfl, ⟨rfl, rfl, rfl⟩, Nat.le_refl _, Nat.zero_le _⟩
  · refine
      { taken_nodup := List.pairwise_singleton _ i
        taken_lt := ?_
        exhausted := fun none => by cases none
        blame := rfl
        broken_nodup := List.nodup_nil
        broken_taken := fun j none => by cases none
        calls := ?_
        blamed_latest := fun _ none => by cases none
        built := fun k none => by cases none
        past := fun k none => by cases none }
    · intro j member
      rw [List.mem_singleton.mp member]
      exact bound
    · intro c earlier before
      exact absurd (List.suffix_nil.mp before) (List.cons_ne_nil c earlier)
  · have bit : ((1 <<< i) % 2 ^ 8 : Nat).testBit j = decide (i = j) := by
      rw [Nat.testBit_mod_two_pow, testBit_single_mask, decide_eq_true bound, Bool.true_and]
    simp only [TcpSession.take, tcpSessionZero, Nat.zero_or, bit, decide_eq_true_eq,
      List.mem_singleton]
    exact eq_comm

theorem tcpSessionCreate_spec (small : n ≤ 8) (answers : List (CreateAnswer S))
    (configured : ∀ b ∈ answers, b.selector.serverCount = n ∧ b.selector.bestIdx < n)
    (target : S.Addr) (ssClient : S.Enc × S.Dec) :
    TakenServer n target answers.length (tcpSessionZero target ssClient).net
      (tcpSessionCreate answers target ssClient) := by
  unfold tcpSessionCreate
  cases answers with
  | nil => exact Nat.zero_le n
  | cons a answers =>
    obtain ⟨⟨_, best_lt⟩, configured⟩ := List.forall_mem_cons.mp configured
    have taken := tcpSessionZero_take best_lt target ssClient
    simp only [tcpSessionTakeServer, if_true]
    refine TakenServer.take (i := a.selector.bestIdx) ?_
    split
    · exact taken.takeServer small answers configured
    · exact { taken with inv := { taken.inv with } }

end Tproxy
