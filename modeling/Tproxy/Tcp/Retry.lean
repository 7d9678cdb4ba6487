import Tproxy.Selector.Update
import Tproxy.Tcp.Connecting

namespace Tproxy

variable {S : Ss2022} {n bound : Nat} {target : S.Addr} {s : TcpSession S (TcpHandshake S)}
  {net : TcpNet S} {tfo : Bool}

/-- The session may try to connect to the server it took. -/
structure Ready (n : Nat) (target : S.Addr) (s : TcpSession S (TcpHandshake S)) : Prop where
  inv : HandshakeInv n target none s
  unreported : s.serverIdx ∉ failures s.net.calls
  socket : NoSocket s
  quiet : s.clientWatcher.active = false

/-- The header that was built for the attempt, with nothing of it sent. -/
structure Built (target : S.Addr) (s : TcpSession S (TcpHandshake S)) : Prop where
  len : s.union.requestHeader.length = s.union.requestHeaderLen
  unsent : s.union.requestHeaderSent = 0
  build : ∃ init, S.buildRequestHeader init target s.net.firstData =
    (s.ssClient, .ok s.union.requestHeader)

/-- Building a header touches only the header and the client. -/
theorem Ready.buildRequestHeader (ready : Ready n target s) :
    ∃ t built, tcpHandshakeBuildRequestHeader s = (t, built) ∧ Ready n target t ∧ t.net = s.net ∧
      t.serverIdx = s.serverIdx ∧ t.selectorAttemptEpoch = s.selectorAttemptEpoch ∧
      (built = true → Built target t) := by
  obtain ⟨inv, unreported, no, quiet⟩ := ready
  cases build : S.buildRequestHeader s.ssClient s.union.target s.union.initialPayload with
  | mk ssClient ret =>
    simp only [tcpHandshakeBuildRequestHeader, build]
    cases ret with
    | error written =>
      exact ⟨_, _, rfl, ⟨{ inv with }, unreported, { no with }, quiet⟩, rfl, rfl, rfl,
        fun no => by cases no⟩
    | ok header =>
      simp only
      split
      · exact ⟨_, _, rfl, ⟨{ inv with }, unreported, { no with }, quiet⟩, rfl, rfl, rfl,
        fun no => by cases no⟩
      · rename_i fits
        refine ⟨_, _, rfl, ⟨{ inv with sent_le := Nat.zero_le _, len_le := Nat.not_lt.mp fits },
          unreported, { no with }, quiet⟩, rfl, rfl, rfl, fun _ => ⟨rfl, rfl, s.ssClient, ?_⟩⟩
        rw [← inv.target, ← inv.payload]
        exact build

theorem tcpConnect_queued {data : List UInt8} {sendto : List (Except Errno Nat)}
    {connect : Except Errno Unit} {queued : Nat}
    (queues : (tcpConnect data sendto connect).2 = some queued) : queued ≤ data.length := by
  unfold tcpConnect at queues
  split at queues
  · split at queues
    · cases queues
      exact Nat.min_le_right ..
    · cases queues
    · split at queues <;> cases queues
  · cases queues

theorem tcpHandshakeConnectServer_queued {header : List UInt8} {a : ConnectAnswer}
    {conn : TcpConnectResult} {tfoNsend : Option Nat}
    (connected : tcpHandshakeConnectServer tfo header a = .ok (conn, tfoNsend)) :
    tfoNsend.getD 0 ≤ header.length := by
  unfold tcpHandshakeConnectServer at connected
  split at connected
  · cases connected
  split at connected
  · cases connected
  · cases tfoNsend with
    | none => exact Nat.zero_le _
    | some queued =>
      have queues := tcpConnect_queued (congrArg Prod.snd (Except.ok.inj connected))
      cases tfo with
      | true => exact queues
      | false => exact Nat.le_trans queues (Nat.zero_le _)

/-- The counter of sent header bytes starts with what fast open queued. -/
theorem Built.sent (built : Built target s) {tfoNsend : Option Nat}
    (queued : tfoNsend.getD 0 ≤ s.union.requestHeaderLen)
    (small : s.union.requestHeaderLen ≤ uint16Max) :
    (tcpSessionAttachServer s tfoNsend).union.requestHeaderSent = tfoNsend.getD 0 := by
  cases tfoNsend with
  | none => exact built.unsent
  | some nsend =>
    have queued : nsend ≤ s.union.requestHeaderLen := queued
    simp only [tcpSessionAttachServer, Option.getD_some]
    split
    · rw [Nat.min_eq_left queued, Nat.mod_eq_of_lt (by omega)]
    · rw [built.unsent]
      omega

theorem Ready.attach (ready : Ready n target s) (built : Built target s) {tfoNsend : Option Nat}
    (queued : tfoNsend.getD 0 ≤ s.union.requestHeader.length)
    (latest : latestAttempt s.net.calls = some (s.serverIdx, s.selectorAttemptEpoch)) :
    Attempting n target (tcpSessionAttachServer s tfoNsend) ∧
      NetGrows s.net (tcpSessionAttachServer s tfoNsend).net := by
  obtain ⟨inv, unreported, no, quiet⟩ := ready
  obtain ⟨init, build⟩ := built.build
  rw [built.len] at queued
  have sent := built.sent queued inv.len_le
  have connect := inv.net.connect (i := s.serverIdx) no.given (tfoNsend.getD 0) build
  refine ⟨⟨{ inv with net := connect, sent_le := sent.trans_le queued }, unreported,
    ⟨s.net.opened, ?_⟩, latest, quiet, rfl⟩, NetGrows.connect ..⟩
  have socket := TcpNet.connect_socket (i := s.serverIdx) s.net s.union.requestHeader s.ssClient
    (tfoNsend.getD 0)
  refine ⟨rfl, rfl, ?_, built.len, ?_, ?_, ?_, ?_⟩
  · simp only [tcpSessionAttachServer, socket]
  · rw [sent]
    simp only [tcpSessionAttachServer, socket]
  · simp only [tcpSessionAttachServer, socket]
  · simp only [tcpSessionAttachServer, socket]
  · simp only [tcpSessionAttachServer, socket]

/-- What `tcp_handshake_try_connect` leaves. -/
def Tried (n : Nat) (target : S.Addr) (bound : Nat) (net : TcpNet S) : TryConnect S → Prop
  | .connecting result => Handled n target bound net result
  | .failed s nodeFailure => Retrying n target nodeFailure s ∧ NetGrows net s.net

theorem Ready.tryConnect (ready : Ready n target s)
    {retry : Bool → TcpSession S (TcpHandshake S) → Option (TcpState S)}
    (retries : Retries n target bound retry) (a : ConnectAnswer) :
    Tried n target bound s.net (tcpHandshakeTryConnect tfo retry a s) := by
  have attempt : Ready n target { s with
      selectorAttemptEpoch := ssAttemptEpoch a.selector s.serverIdx
      net := { s.net with
        calls := .attempt s.serverIdx (ssAttemptEpoch a.selector s.serverIdx) :: s.net.calls } } :=
    ⟨{ ready.inv with net := ready.inv.net.attempt ready.inv.taken _ }, ready.unreported, { ready.socket with },
      ready.quiet⟩
  have grows : NetGrows s.net { s.net with
      calls := .attempt s.serverIdx (ssAttemptEpoch a.selector s.serverIdx) :: s.net.calls } :=
    .of_same rfl rfl List.suffix_rfl
  obtain ⟨t, built, run, ready, same, serverIdx, epoch, isBuilt⟩ := attempt.buildRequestHeader
  have latest : latestAttempt t.net.calls = some (t.serverIdx, t.selectorAttemptEpoch) := by
    rw [same, serverIdx, epoch]
    rfl
  have grows : NetGrows s.net t.net := same ▸ grows
  simp only [tcpHandshakeTryConnect, run]
  cases built with
  | false => exact ⟨⟨ready.inv, ready.unreported, Or.inr ready.socket, ready.quiet⟩, grows⟩
  | true =>
    simp only
    cases connected : tcpHandshakeConnectServer tfo t.union.requestHeader a with
    | error nodeFailure =>
      refine ⟨⟨ready.inv.breakOff ready.unreported latest nodeFailure, ?_, Or.inr ?_, ready.quiet⟩,
        grows.trans (.breakOff ..)⟩
      all_goals cases nodeFailure
      · exact ready.unreported
      · exact ready.unreported
      · exact ready.socket
      · exact { ready.socket with }
    | ok connection =>
      obtain ⟨conn, tfoNsend⟩ := connection
      have queued := tcpHandshakeConnectServer_queued connected
      obtain ⟨attempting, attached⟩ := ready.attach (isBuilt rfl) queued latest
      have grows := grows.trans attached
      cases conn with
      | connected => exact (attempting.connected retries ..).grow grows
      | _ => exact (attempting.handled.grow grows : Handled n target bound s.net _)

/-- Taking an untried server. -/
theorem HandshakeInv.take (inv : HandshakeInv n target none s) (small : n ≤ 8) {next : Nat}
    (bound : next < n) (untried : s.triedServersMask.testBit next = false) :
    HandshakeInv n target none (s.take next) ∧ next ∉ failures s.net.calls := by
  have fresh : next ∉ s.net.taken := fun member => by
    rw [(inv.mask next (by omega)).mpr member] at untried
    cases untried
  refine ⟨{ inv with net := inv.net.take bound fresh, mask := ?_, current := rfl }, ?_⟩
  · intro i small
    have bit : ((1 <<< next) % 2 ^ 8 : Nat).testBit i = decide (next = i) := by
      rw [Nat.testBit_mod_two_pow, testBit_single_mask, decide_eq_true small, Bool.true_and]
    simp only [TcpSession.take, Nat.testBit_or, bit, Bool.or_eq_true, decide_eq_true_eq,
      List.mem_cons, inv.mask i small]
    exact or_comm.trans (or_congr_left eq_comm)
  · intro member
    have broken : next ∈ s.net.broken := by
      rw [inv.net.blame]
      exact member
    exact fresh (inv.net.broken_taken next broken)

theorem Ready.take (inv : HandshakeInv n target none s) (no : NoSocket s)
    (quiet : s.clientWatcher.active = false) (small : n ≤ 8) {next : Nat} (bound : next < n)
    (untried : s.triedServersMask.testBit next = false) (ssClient : S.Enc × S.Dec) :
    Ready n target { s.take next with ssClient := ssClient } := by
  obtain ⟨taken, unreported⟩ := inv.take small bound untried
  exact ⟨{ taken with }, unreported, { no with }, quiet⟩

/-- A socket that is given up did not get its whole header, unless that
carries no payload. -/
theorem OnSocket.abandon {k : Nat} {blamed : Option Nat} (on : OnSocket s k)
    (inv : HandshakeInv n target blamed s) (partly : s.union.fullyQueued = false) :
    ∀ j < s.net.opened, (s.net.socket j).Abandoned s.net.firstData := by
  intro j bound
  by_cases newest : j = k
  · subst newest
    refine ⟨on.front, fun payload complete => ?_, on.open_⟩
    obtain ⟨header, whole⟩ := complete
    have long := whole.length_le
    rw [on.accepted, on.header, List.length_take] at long
    rw [on.header] at header
    have some := List.length_pos_iff.mpr header
    have data := List.length_pos_iff.mpr payload
    rw [← inv.payload] at data
    simp only [TcpHandshake.fullyQueued, Bool.and_eq_false_iff, decide_eq_false_iff_not] at partly
    have len := on.len
    omega
  · have opened := on.newest
    exact inv.net.past j (by omega)

theorem Retrying.abandon {nodeFailure : Bool} (retrying : Retrying n target nodeFailure s)
    (partly : s.union.fullyQueued = false) :
    ∀ j < s.net.opened, (s.net.socket j).Abandoned s.net.firstData := by
  rcases retrying.socket with ⟨k, on⟩ | no
  · exact on.abandon retrying.inv partly
  · exact no.given

/-- The failed server is reported. -/
theorem Retrying.report {nodeFailure : Bool} (retrying : Retrying n target nodeFailure s) :
    ∃ calls, (if nodeFailure then s.reportFailure else s) =
        { s with net := { s.net with calls := calls } } ∧
      HandshakeInv n target none { s with net := { s.net with calls := calls } } := by
  have inv := retrying.inv
  cases nodeFailure with
  | false => exact ⟨s.net.calls, rfl, inv⟩
  | true => exact ⟨.failure s.serverIdx :: s.net.calls, rfl, { inv with net := inv.net.report }⟩

/-- The socket is given up, whatever its watcher was. -/
theorem HandshakeInv.drop (inv : HandshakeInv n target none s)
    (given : ∀ j < s.net.opened, (s.net.socket j).Abandoned s.net.firstData) (watcher : IoWatcher) :
    HandshakeInv n target none
      { s with phaseTimer := none, serverWatcher := watcher, serverFd := none } ∧
    NoSocket { s with phaseTimer := none, serverWatcher := watcher, serverFd := none } :=
  ⟨{ inv with }, rfl, given⟩

/-- Without a candidate, every server was tried. -/
theorem HandshakeInv.exhaust (inv : HandshakeInv n target none s) (small : n ≤ 8)
    {selector : SsSelector} (configured : selector.serverCount = n)
    (none_left : serverSelectorNextBestTcp selector s.triedServersMask = none) :
    HandshakeInv n target none { s with net := { s.net with exhausted := true } } := by
  have tried := ssCandidateLocked_eq_none.mp none_left
  rw [configured] at tried
  exact { inv with net := inv.net.exhaust fun i bound =>
    (inv.mask i (by omega)).mp (tried i bound) }

theorem NetGrows.take (net : TcpNet S) (i : Nat) : NetGrows net { net with taken := i :: net.taken } :=
  .of_same rfl rfl (List.suffix_cons ..)

/-- A server is taken for one of the answers. -/
theorem Handled.take {result : Option (TcpState S)} {i : Nat}
    (handled : Handled n target bound { net with taken := i :: net.taken } result) :
    Handled n target (bound + 1) net result := by
  cases result with
  | none =>
    have handled : bound + (net.taken.length + 1) ≤ n := handled
    have short : bound + 1 + net.taken.length ≤ n := by omega
    exact short
  | some st => exact ⟨handled.1, (NetGrows.take net i).trans handled.2.1, handled.2.2⟩

/-- What follows an attempt: the next retry, if it failed. -/
theorem Tried.retry {retry : Bool → TcpSession S (TcpHandshake S) → Option (TcpState S)}
    (retries : Retries n target bound retry) {tried : TryConnect S} :
    Tried n target bound net tried → Handled n target bound net
      (match tried with
      | .connecting st => st
      | .failed s nodeFailure => retry nodeFailure s) := by
  intro outcome
  cases tried with
  | connecting => exact outcome
  | failed s nodeFailure => exact (retries nodeFailure s outcome.1).grow outcome.2

theorem HandshakeInv.close (inv : HandshakeInv n target none s)
    (socket : (∃ k, OnSocket s k) ∨ NoSocket s) (grows : NetGrows net s.net) (isTcpReset : Bool) :
    Handled n target bound net (some (tcpSessionClose s isTcpReset)) :=
  ⟨inv.outside socket, grows, inv.later⟩

/-- The loop of retries, by induction on the answers: each pass that goes on
takes one more server, so answers for all servers suffice. -/
theorem tcpHandshakeRetry_handled (small : n ≤ 8) (answers : List (RetryAnswer S))
    (configured : ∀ a ∈ answers, a.selector.serverCount = n) :
    Retries n target answers.length (tcpHandshakeRetry tfo answers) := by
  induction answers with
  | nil =>
    intro nodeFailure s retrying
    exact (Nat.zero_add _).trans_le retrying.inv.net.taken_length
  | cons a answers ih =>
    obtain ⟨count, configured⟩ := List.forall_mem_cons.mp configured
    have retries : Retries n target answers.length (tcpHandshakeRetry (S := S) tfo answers) :=
      ih configured
    intro nodeFailure s retrying
    obtain ⟨calls, report, inv⟩ := retrying.report
    have grows : NetGrows s.net { s.net with calls := calls } := .of_same rfl rfl List.suffix_rfl
    simp only [tcpHandshakeRetry, report]
    split
    · refine inv.close ?_ grows true
      exact retrying.socket.imp (fun ⟨k, on⟩ => ⟨k, { on with }⟩) fun no => { no with }
    rename_i partly
    have given := retrying.abandon (Bool.not_eq_true _ ▸ partly)
    obtain ⟨inv, no⟩ := inv.drop given { s.serverWatcher with active := false }
    have quiet := retrying.quiet
    split
    · exact inv.close (Or.inr no) grows false
    split
    · rename_i none_left
      exact (inv.exhaust small count none_left).close (Or.inr { no with })
        (grows.trans (.of_same rfl rfl List.suffix_rfl)) true
    rename_i next found
    obtain ⟨⟨next_lt, untried⟩, _⟩ := ssCandidateLocked_spec found
    rw [count] at next_lt
    have take := Ready.take inv no quiet small next_lt untried
    refine Handled.grow grows (Handled.take (i := next) ?_)
    split
    · have ready := take s.ssClient
      exact retries false _ ⟨ready.inv, ready.unreported, Or.inr ready.socket, ready.quiet⟩
    · exact Tried.retry retries ((take _).tryConnect retries a.connect)

end Tproxy
