import Tproxy.Tcp.Start

namespace Tproxy

variable {S : Ss2022} {n k : Nat} {target : S.Addr} {st st' : TcpState S} {tfo : Bool}

section Reads
variable {s : TcpSession S TcpRelay}

theorem KeepsNet.laterReads {net : TcpNet S} (keeps : KeepsNet s net) :
    net.laterReads = s.net.laterReads :=
  (Prod.mk.inj (Prod.mk.inj keeps.client).2).1

/-- No client data is read, and on an event of the client side the pending
chunk stays. -/
abbrev KeepsReads (side : RelaySide) (s : TcpSession S TcpRelay) :
    Except (TcpState S) (TcpSession S TcpRelay) → Prop :=
  OrFreed (fun net => net.laterReads = s.net.laterReads) fun t =>
    t.net.laterReads = s.net.laterReads ∧
      (side = .client → t.union.clientToServerLen = s.union.clientToServerLen)

theorem FramesUp.reads {side : RelaySide} {result : Except (TcpState S) (TcpSession S TcpRelay)}
    (frame : FramesUp s result) : KeepsReads side s result :=
  frame.and frame (fun _ keeps _ => keeps.laterReads) fun _ keeps _ =>
    ⟨keeps.net.laterReads, fun _ => (Prod.mk.inj (Prod.mk.inj keeps.pending).2).2⟩

theorem TcpNet.accept_laterReads (net : TcpNet S) (fd : Option Nat) (bytes : List UInt8) :
    (net.accept fd bytes).laterReads = net.laterReads := by
  cases fd <;> rfl

theorem tcpRelayHandleWrite_reads (s : TcpSession S TcpRelay) (e : RelayEvent) :
    KeepsReads e.side s (tcpRelayHandleWrite s e) := by
  unfold tcpRelayHandleWrite
  split
  · exact ⟨rfl, fun _ => rfl⟩
  split
  · exact FramesUp.reads (tcpRelayWriteToClient_frame e.sends)
  · rename_i side
    simp only [tcpRelayWriteToServer]
    split
    · exact ⟨_, rfl, TcpNet.accept_laterReads ..⟩
    · exact ⟨TcpNet.accept_laterReads .., fun client => by rw [side] at client; cases client⟩

theorem tcpRelayHandleRead_reads (e : RelayEvent)
    (pending : e.side = .client → s.union.clientToServerLen ≠ 0) :
    KeepsReads e.side s (tcpRelayHandleRead s e) := by
  unfold tcpRelayHandleRead
  split
  · exact ⟨rfl, fun _ => rfl⟩
  split
  · rename_i side
    rw [if_pos (pending side)]
    exact ⟨rfl, fun _ => rfl⟩
  · split
    · exact ⟨rfl, fun _ => rfl⟩
    · exact FramesUp.reads (tcpRelayReadFromServer_frame e.recvs)

/-- An event reads client data only with nothing pending for the server. -/
theorem tcpRelayOnEvent_reads (s : TcpSession S TcpRelay) (e : RelayEvent)
    (pending : s.union.clientToServerLen ≠ 0) :
    (tcpRelayOnEvent s e).net.laterReads = s.net.laterReads := by
  have write := tcpRelayHandleWrite_reads s e
  unfold tcpRelayOnEvent
  generalize tcpRelayHandleWrite s e = result at write
  match result, write with
  | .error _, ⟨_, rfl, same⟩ => exact same
  | .ok s₁, ⟨same₁, len₁⟩ =>
    have process : KeepsReads e.side s₁ _ := FramesUp.reads tcpRelayProcessPendingServerData_frame
    simp only
    generalize tcpRelayProcessPendingServerData s₁ = result at process
    match result, process with
    | .error _, ⟨_, rfl, same⟩ => exact same.trans same₁
    | .ok s₂, ⟨same₂, len₂⟩ =>
      have read : KeepsReads e.side s₂ _ := tcpRelayHandleRead_reads e fun client => by
        rwa [len₂ client, len₁ client]
      simp only
      generalize tcpRelayHandleRead s₂ e = result at read
      match result, read with
      | .error _, ⟨_, rfl, same⟩ => exact same.trans (same₂.trans same₁)
      | .ok s₃, ⟨same₃, _⟩ =>
        exact (tcpRelayUpdateWatchers_laterReads s₃).trans (same₃.trans (same₂.trans same₁))

end Reads

/-- What one step from `net` leaves: client data is read in the relay only
when the server socket accepted all that was read before. -/
structure Stepped (n : Nat) (target : S.Addr) (net : TcpNet S) (st : TcpState S) : Prop where
  inv : StateInv n target st
  grows : NetGrows net st.net
  reads : st.net.laterReads ≠ net.laterReads → ∃ k, k + 1 = net.opened ∧
    (net.socket k).accepted = (net.socket k).expected net.laterReads

theorem Handled.step {bound : Nat} {net : TcpNet S} {result : Option (TcpState S)}
    (handled : Handled n target bound net result) (later : net.laterReads = [])
    (same : result = some st) : Stepped n target net st := by
  subst same
  exact ⟨handled.1, handled.2.1, fun reads => absurd (handled.2.2.trans later.symm) reads⟩

/-- The relay invariant of a state, seen from the state itself. -/
theorem Relaying.core {s : TcpSession S TcpRelay} (relaying : Relaying n target s k) :
    RelayCore s.net k s := relaying.relay.core

theorem Relaying.onEvent {s : TcpSession S TcpRelay} (relaying : Relaying n target s k)
    {e : RelayEvent} (live : e.Live s.union) : Stepped n target s.net (tcpRelayOnEvent s e) := by
  obtain ⟨inv, grows⟩ :=
    (relaying.core.onEvent live).state relaying.net relaying.newest relaying.latest
  refine ⟨inv, grows, fun reads => ⟨k, relaying.newest, relaying.core.up.accepted_all ?_⟩⟩
  exact not_not.mp fun pending => reads (tcpRelayOnEvent_reads s e pending)

theorem Relaying.close {s : TcpSession S TcpRelay} (relaying : Relaying n target s k) :
    Outside n target s.net :=
  have freed : RelayAfter s.net k s.serverIdx s.selectorAttemptEpoch (tcpSessionClose s false) :=
    relaying.core.freed
  (freed.state relaying.net relaying.newest relaying.latest).1

/-- Every state between two events gives its view of the outside. -/
theorem StateInv.outside (inv : StateInv n target st) : Outside n target st.net := by
  cases st with
  | handshake s =>
    rcases inv with waiting | attempting
    · exact waiting.fresh.inv.outside (Or.inr waiting.fresh.noSocket)
    · exact attempting.inv.outside (Or.inl attempting.socket)
  | relay s =>
    obtain ⟨k, relaying⟩ := inv
    exact relaying.close
  | closed _ net => exact inv

/-- An active watcher or timer belongs to the part of the handshake that set it. -/
theorem StateInv.waiting {s : TcpSession S (TcpHandshake S)} (inv : StateInv n target (.handshake s))
    (active : s.clientWatcher.active = true ∨ s.phaseTimer = some .onInitialPayloadTimeout) :
    Waiting n target s := by
  refine inv.resolve_right fun attempting => ?_
  rcases active with active | timer
  · rw [attempting.quiet] at active
    cases active
  · rw [attempting.timer] at timer
    cases timer

theorem StateInv.attempting {s : TcpSession S (TcpHandshake S)}
    (inv : StateInv n target (.handshake s))
    (active : s.serverWatcher.active = true ∨ s.phaseTimer = some .onTimeout) :
    Attempting n target s := by
  refine inv.resolve_left fun waiting => ?_
  rcases active with active | timer
  · rw [waiting.fresh.quiet] at active
    cases active
  · rw [waiting.timer] at timer
    cases timer

theorem Stepped.refl (inv : StateInv n target st') (same : st'.net = st.net) :
    Stepped n target st.net st' :=
  ⟨inv, same ▸ .refl _, fun reads => absurd (congrArg TcpNet.laterReads same) reads⟩

/-- One event keeps the invariant, case by case. -/
theorem StateInv.step (small : n ≤ 8) (inv : StateInv n target st) (step : TcpStep n tfo st st') :
    Stepped n target st.net st' := by
  cases step with
  | initialPayloadRead recvs a configured active _ result =>
    have waiting := inv.waiting (Or.inl active)
    exact (waiting.onRead small recvs a configured).step waiting.fresh.inv.later result
  | initialPayloadTimeout recvs a configured timer result =>
    have waiting := inv.waiting (Or.inr timer)
    exact (waiting.onTimeout small recvs a configured).step waiting.fresh.inv.later result
  | serverConnected soError send relayIn answers configured active _ result =>
    have attempting := inv.attempting (Or.inl active)
    exact Handled.step (attempting.connected (tcpHandshakeRetry_handled small answers configured)
      soError send relayIn) attempting.inv.later result
  | serverWritable send relayIn answers configured active _ result =>
    have attempting := inv.attempting (Or.inl active)
    exact Handled.step (attempting.writable (tcpHandshakeRetry_handled small answers configured)
      send relayIn) attempting.inv.later result
  | timeout answers configured timer result =>
    have attempting := inv.attempting (Or.inr timer)
    exact (attempting.onTimeout small answers configured).step attempting.inv.later result
  | relayClient e side _ reads _ =>
    obtain ⟨k, relaying⟩ := inv
    refine relaying.onEvent fun read => ?_
    rw [side]
    exact relaying.relay.clientRead (reads read)
  | relayServer e side _ reads _ =>
    obtain ⟨k, relaying⟩ := inv
    refine relaying.onEvent fun read => ?_
    rw [side]
    exact (relaying.relay.serverRead (reads read)).1
  | closeAll => exact .refl inv.outside rfl
  | closeAllRelay => exact .refl inv.outside rfl

theorem StateInv.run (small : n ≤ 8) (inv : StateInv n target st) (run : TcpRun n tfo st st') :
    StateInv n target st' ∧ NetGrows st.net st'.net := by
  induction run with
  | refl => exact ⟨inv, .refl _⟩
  | tail _ step ih =>
    obtain ⟨inv, grows⟩ := ih
    have stepped := inv.step small step
    exact ⟨stepped.inv, grows.trans stepped.grows⟩

/-- The invariant holds in every state of a session. -/
theorem TcpReach.inv (small : n ≤ 8) (reach : TcpReach n tfo target st) : StateInv n target st := by
  induction reach with
  | accept created ssClient recvs a configured retries make start =>
    have fresh := tcpSessionCreate_spec small created configured target ssClient
    rw [make] at fresh
    have fresh : Fresh n target _ := fresh
    exact ((fresh.wait small recvs a retries).step fresh.inv.later start).inv
  | event _ step ih => exact (ih.step small step).inv

section Plain

/-- A client that sends in the clear: a zero before the payload of a request,
one byte of response header, and tags that are not looked at. -/
def plainSs2022 : Ss2022 where
  Addr := Unit
  Enc := Unit
  Dec := Unit
  payloadChunkPrefixLen := 18
  payload_fits := by decide
  buildRequestHeader client _ payload := (client, .ok (0 :: payload))
  sealPayload _ plain := some ((), plain)
  responseHeaderSize _ := 1
  openResponseHeader _ bytes := some ((), UInt16.ofNat (bytes.headD 0).toNat)
  openLength _ bytes := some ((), UInt16.ofNat (bytes.headD 0).toNat)
  openPayload _ bytes cap := some ((), ⟨bytes.take cap, List.length_take_le cap bytes⟩)

def twoServers : SsSelector := serverSelectorInit 2 fun _ _ => default

/-- The answers to an attempt whose `sendto` queues some bytes. -/
def fastOpen (queued : Nat) : ConnectAnswer where
  selector := twoServers
  socket := true
  sendto := [.ok queued]
  connect := .error .einprogress
  soError := none
  send := .error .eagain
  relayIn := true

def fastOpenRetry (queued : Nat) : RetryAnswer plainSs2022 where
  clientError := false
  selector := twoServers
  init := some ((), ())
  connect := fastOpen queued

/-- The first server gets one byte of the request before its attempt times
out; the second gets the whole request. -/
theorem plainSs2022_failover : ∃ s : TcpSession plainSs2022 (TcpHandshake plainSs2022),
    TcpReach 2 true () (.handshake s) ∧ s.net.firstData = [7, 8] ∧ s.net.opened = 2 ∧
      (s.net.socket 0).accepted = [0] ∧ (s.net.socket 1).accepted = [0, 7, 8] ∧
      (s.net.socket 1).header = [0, 7, 8] ∧ s.net.taken = [1, 0] ∧ s.net.broken = [0] := by
  have accepted : TcpReach (S := plainSs2022) 2 true () _ :=
    .accept [⟨twoServers, some ((), ())⟩] ((), ()) [.ok [7, 8]] ⟨fastOpen 1, [fastOpenRetry 3]⟩
      (by decide) (by decide) rfl rfl
  have retried := accepted.event (.timeout [fastOpenRetry 3, fastOpenRetry 3] (by decide) rfl rfl)
  exact ⟨_, retried, rfl, rfl, rfl, rfl, rfl, rfl, rfl⟩

/-- The watcher of the event waits for it. -/
def RelayEvent.enabled (e : RelayEvent) (s : TcpSession S TcpRelay) : Bool :=
  let watcher := match e.side with
    | .client => s.clientWatcher
    | .server => s.serverWatcher
  watcher.active && (!e.read || watcher.read) && (!e.write || watcher.write)

/-- Handle relay events one after the other, as long as they are enabled. -/
def tcpRelayReplay : TcpState S → List RelayEvent → Option (TcpState S)
  | st, [] => some st
  | .relay s, e :: rest => if e.enabled s then tcpRelayReplay (tcpRelayOnEvent s e) rest else none
  | _, _ => none

theorem RelayEvent.step {e : RelayEvent} {s : TcpSession S TcpRelay} (enabled : e.enabled s) :
    TcpStep n tfo (.relay s) (tcpRelayOnEvent s e) := by
  simp only [RelayEvent.enabled, Bool.and_eq_true, Bool.or_eq_true, Bool.not_eq_true'] at enabled
  obtain ⟨⟨active, reads⟩, writes⟩ := enabled
  have implied {a b : Bool} (either : a = false ∨ b = true) (given : a = true) : b = true :=
    either.resolve_left fun no => by rw [no] at given; cases given
  cases side : e.side <;> simp only [side] at active reads writes
  · exact .relayClient e side active (implied reads) (implied writes)
  · exact .relayServer e side active (implied reads) (implied writes)

theorem TcpReach.replay (reach : TcpReach n tfo target st) (events : List RelayEvent)
    (check : TcpState S → Bool) (run : (tcpRelayReplay st events).any check = true) :
    ∃ st', TcpReach n tfo target st' ∧ check st' = true := by
  induction events generalizing st with
  | nil =>
    have run : check st = true := by
      cases st <;> exact run
    exact ⟨st, reach, run⟩
  | cons e rest ih =>
    cases st with
    | relay s =>
      rw [tcpRelayReplay] at run
      split at run
      · rename_i enabled
        exact ih (reach.event (RelayEvent.step enabled)) run
      · cases run
    | _ => cases run

/-- A response of one byte is delivered, and a later byte of the client sent. -/
theorem plainSs2022_exchange : ∃ st : TcpState plainSs2022, TcpReach 2 true () st ∧
    ((st.net.opened = 1 ∧ st.net.delivered = [9]) ∧ st.net.laterReads = [[5]]) ∧
      (st.net.socket 0).accepted = [0, 7, 8, 5] := by
  have accepted : TcpReach (S := plainSs2022) 2 true () _ :=
    .accept [⟨twoServers, some ((), ())⟩] ((), ()) [.ok [7, 8]] ⟨fastOpen 3, []⟩
      (by decide) (by decide) rfl rfl
  have relaying := accepted.event
    (.serverConnected none (.error .eagain) true [] (by decide) rfl rfl rfl)
  obtain ⟨st, reach, check⟩ := relaying.replay
    [⟨.server, true, false, [], [.ok (1 :: 9 :: List.replicate 16 0)]⟩,
      ⟨.client, true, true, [.ok 1], [.ok [5]]⟩, ⟨.server, false, true, [.ok 1], []⟩]
    (fun st => st.net.opened = 1 && st.net.delivered = [9] && st.net.laterReads = [[5]] &&
      (st.net.socket 0).accepted = [0, 7, 8, 5]) (by decide +kernel)
  simp only [Bool.and_eq_true, decide_eq_true_eq] at check
  exact ⟨st, reach, check⟩

end Plain

end Tproxy
