import Tproxy.Tcp.Integrity

namespace Tproxy

variable {S : Ss2022} {n k : Nat} {target : S.Addr} {tfo : Bool} {s : TcpSession S TcpRelay}
  {dec₀ : S.Dec} {e : RelayEvent}

/-- The stream is a response header, one payload chunk and complete pairs of a
length chunk and a payload chunk, for the client of the socket. -/
def ServerSocket.CompleteResponse (socket : ServerSocket S) (stream : List UInt8) : Prop :=
  CompleteStream S (S.responseHeaderSize socket.ssClient.2) .responseHeader socket.ssClient.2 stream

/-- The end of the server stream is recorded: the relay goes on in the other
direction, or the session was closed without a reset. -/
def TcpState.serverEof : TcpState S → Bool
  | .handshake _ => false
  | .relay s => s.union.serverEof
  | .closed isTcpReset _ => !isTcpReset

/-- The front of the input is no complete chunk, so a pass opens nothing. -/
theorem tcpRelayProcessOnce_incomplete
    (short : s.union.serverToClientInLen < s.union.chunkPhase.size s.union.responseHeaderLen) :
    tcpRelayProcessOnce s = .ok (s, false) := by
  unfold TcpRelay.chunkPhase at short
  by_cases done : s.union.responseHeaderDone
  · have header : tcpRelayOpenResponseHeader s = .ok (some s) := by
      simp only [tcpRelayOpenResponseHeader, if_pos done]
    rw [if_neg (not_not.mpr done)] at short
    by_cases needLen : s.union.serverToClientNeedLen
    · rw [if_pos needLen] at short
      have length : tcpRelayOpenLength s = .ok none := by
        simp only [tcpRelayOpenLength, if_neg (not_not.mpr needLen)]
        exact if_pos short
      simp only [tcpRelayProcessOnce, header, length]
    · rw [if_neg needLen] at short
      have length : tcpRelayOpenLength s = .ok (some s) := by
        simp only [tcpRelayOpenLength, if_pos needLen]
      have payload : tcpRelayOpenPayload s = .ok none := if_pos short
      simp only [tcpRelayProcessOnce, header, length, payload]
  · rw [if_pos done] at short
    have header : tcpRelayOpenResponseHeader s = .ok none := by
      simp only [tcpRelayOpenResponseHeader, if_neg done]
      exact if_pos short
    simp only [tcpRelayProcessOnce, header]

/-- Processing again what was left incomplete does nothing. -/
theorem Downstream.processPending_settled (down : s.Down dec₀) (settled : s.union.Settled)
    (drained : s.union.serverToClientOutLen = 0) :
    tcpRelayProcessPendingServerData s = .ok s := by
  unfold tcpRelayProcessPendingServerData
  split
  · rfl
  · rw [tcpRelayProcessServerData, dif_pos drained]
    have once := tcpRelayProcessOnce_incomplete (down.inLen_lt settled drained)
    split
    · rename_i run
      rw [once] at run
      cases run
    · rename_i run
      rw [once] at run
      cases run
      rfl
    · rename_i run
      rw [once] at run
      cases run

/-- With nothing pending, the stream is complete up to here exactly when the
relay would accept an end of file. -/
theorem Downstream.complete_iff (down : s.Down dec₀) (settled : s.union.Settled)
    (drained : s.union.serverToClientOutLen = 0) :
    CompleteStream S (S.responseHeaderSize dec₀) .responseHeader dec₀ s.net.arrived ↔
      tcpRelayServerEofIsClean s.union = true := by
  have frames := down.frames []
  rw [List.append_nil, List.append_nil, completeStream_incomplete (settled drained),
    down.headerLen] at frames
  rw [frames, tcpRelayServerEofIsClean_iff, TcpRelay.input_idle (down.idle drained), and_comm,
    ← List.length_eq_zero_iff, readAt_length]

theorem tcpRelayUpdateWatchers_serverEof (s : TcpSession S TcpRelay)
    (eof : s.union.serverEof = true) : (tcpRelayUpdateWatchers s).serverEof = true := by
  have kept : (tcpRelayShutdownClient (tcpRelayShutdownServer s)).union.serverEof = true := by
    unfold tcpRelayShutdownClient tcpRelayShutdownServer
    split <;> split <;> exact eof
  simp only [tcpRelayUpdateWatchers]
  split
  · rfl
  · exact kept

/-- An end of file that `recv` answers is recorded if it is clean, and resets
the session otherwise. -/
theorem tcpRelayReadFromServer_eof (eof : uninterrupted .eagain e.recvs = .ok []) :
    tcpRelayReadFromServer s e.recvs =
      tcpRelayHandleServerEof { s with union := tcpRelayCompactServerInput s.union } := by
  simp only [tcpRelayReadFromServer, recvUpTo, eof, Except.map, List.take_nil]

theorem tcpRelayCompactServerInput_clean (r : TcpRelay) :
    tcpRelayServerEofIsClean (tcpRelayCompactServerInput r) = tcpRelayServerEofIsClean r := by
  unfold tcpRelayCompactServerInput
  split
  · rfl
  split <;> rfl

/-- The write part of an event of the server side leaves the other direction alone. -/
theorem Downstream.writeToServer (down : s.Down dec₀) (settled : s.union.Settled)
    {t : TcpSession S TcpRelay} (server : e.side = .server)
    (run : tcpRelayHandleWrite s e = .ok t) :
    (t.Down dec₀ ∧ t.union.Settled) ∧
      t.union.serverToClientOutLen = s.union.serverToClientOutLen ∧
      tcpRelayServerEofIsClean t.union = tcpRelayServerEofIsClean s.union := by
  unfold tcpRelayHandleWrite at run
  split at run
  · cases run
    exact ⟨⟨down, settled⟩, rfl, rfl⟩
  · rw [server] at run
    simp only [tcpRelayWriteToServer] at run
    split at run
    · cases run
    · cases run
      refine ⟨⟨?_, settled⟩, rfl, rfl⟩
      cases s.serverFd <;> exact { down with }

/-- An armed read of the relay that the server answers with an end of file. -/
structure ReadsServerEof (e : RelayEvent) (s : TcpSession S TcpRelay) : Prop where
  armed : e.enabled s = true
  server : e.side = .server
  read : e.read = true
  eof : uninterrupted .eagain e.recvs = .ok []

theorem ReadsServerEof.watched (reads : ReadsServerEof e s) : s.serverWatcher.read = true := by
  obtain ⟨armed, server, read, _⟩ := reads
  simp only [RelayEvent.enabled, server, read, Bool.and_eq_true, Bool.or_eq_true, Bool.not_true,
    Bool.false_eq_true, false_or] at armed
  exact armed.1.2

/-- What an end of file does to a relay whose output is sent. -/
theorem Downstream.onServerEof (down : s.Down dec₀) (settled : s.union.Settled)
    (drained : s.union.serverToClientOutLen = 0) (reads : ReadsServerEof e s)
    {t : TcpSession S TcpRelay} (written : tcpRelayHandleWrite s e = .ok t) :
    if tcpRelayServerEofIsClean s.union then (tcpRelayOnEvent s e).serverEof = true
    else ∃ net, tcpRelayOnEvent s e = .closed true net := by
  obtain ⟨⟨down', settled'⟩, sameOut, sameClean⟩ := down.writeToServer settled reads.server written
  have drained' : t.union.serverToClientOutLen = 0 := sameOut.trans drained
  have pending := down'.processPending_settled settled' drained'
  have read : tcpRelayHandleRead t e =
      tcpRelayHandleServerEof { t with union := tcpRelayCompactServerInput t.union } := by
    simp only [tcpRelayHandleRead, reads.read, reads.server, drained', not_true, if_false, ne_eq,
      tcpRelayReadFromServer_eof reads.eof]
  rw [← sameClean]
  simp only [tcpRelayOnEvent, written, pending, read, tcpRelayHandleServerEof,
    tcpRelayCompactServerInput_clean]
  by_cases clean : tcpRelayServerEofIsClean t.union
  · rw [if_pos clean, if_neg (not_not.mpr clean)]
    exact tcpRelayUpdateWatchers_serverEof _ rfl
  · rw [if_neg clean, if_pos clean]
    exact ⟨_, rfl⟩

/-- The end of a response of one byte, after the byte was delivered. -/
def responseEof : RelayEvent := ⟨.server, true, false, [], [.ok []]⟩

def TcpState.relays {S : Ss2022} (check : TcpSession S TcpRelay → Bool) : TcpState S → Bool
  | .relay s => check s
  | _ => false

/-- A response of one byte is delivered and then ends. -/
theorem plainSs2022_response : ∃ s : TcpSession plainSs2022 TcpRelay,
    TcpReach 2 true () (.relay s) ∧ responseEof.enabled s = true ∧
      (s.net.opened = 1 ∧ s.net.arrived = 1 :: 9 :: List.replicate 16 0) ∧
      s.union.serverToClientOutLen = 0 ∧ (tcpRelayOnEvent s responseEof).serverEof = true := by
  have accepted : TcpReach (S := plainSs2022) 2 true () _ :=
    .accept [⟨twoServers, some ((), ())⟩] ((), ()) [.ok [7, 8]] ⟨fastOpen 3, []⟩
      (by decide) (by decide) rfl rfl
  have relaying := accepted.event
    (.serverConnected none (.error .eagain) true [] (by decide) rfl rfl rfl)
  obtain ⟨st, reach, check⟩ := relaying.replay
    [⟨.server, true, false, [], [.ok (1 :: 9 :: List.replicate 16 0)]⟩,
      ⟨.client, false, true, [.ok 1], []⟩]
    (TcpState.relays fun s => responseEof.enabled s && (s.net.opened = 1 &&
      s.net.arrived = 1 :: 9 :: List.replicate 16 0) && s.union.serverToClientOutLen = 0 &&
      (tcpRelayOnEvent s responseEof).serverEof) (by decide +kernel)
  cases st with
  | relay s =>
    simp only [TcpState.relays, Bool.and_eq_true, decide_eq_true_eq] at check
    obtain ⟨⟨⟨enabled, outside⟩, drained⟩, eof⟩ := check
    exact ⟨s, reach, enabled, outside, drained, eof⟩
  | _ => cases check

/-- A truncated response is always detected: an end of file is only read when
all that was opened is delivered, and it is recorded exactly when the response
is complete; otherwise the session is reset. -/
theorem tcpRelay_truncation (small : n ≤ 8) (reach : TcpReach n tfo target (.relay s)) :
    ∃ k, k + 1 = s.net.opened ∧
      (s.union.serverEof = true → s.union.serverToClientOutLen = 0 ∧
        s.net.delivered = (s.net.socket k).response s.net.arrived ∧
        (s.net.socket k).CompleteResponse s.net.arrived) ∧
      ∀ e t, ReadsServerEof e s → tcpRelayHandleWrite s e = .ok t →
        s.union.serverToClientOutLen = 0 ∧
        s.net.delivered = (s.net.socket k).response s.net.arrived ∧
        ((tcpRelayOnEvent s e).serverEof = true ↔ (s.net.socket k).CompleteResponse s.net.arrived) ∧
        (¬(s.net.socket k).CompleteResponse s.net.arrived →
          ∃ net, tcpRelayOnEvent s e = .closed true net) := by
  have inv := reach.inv small
  obtain ⟨k, relaying⟩ := inv
  obtain ⟨core, settled, _, serverRead, _⟩ := relaying.relay
  have down := core.down
  refine ⟨k, relaying.newest, fun eof => ?_, fun e t reads written => ?_⟩
  · obtain ⟨⟨input, drained⟩, phase⟩ := down.eof eof
    exact ⟨drained, down.delivered_all settled drained,
      (down.complete_iff settled drained).mpr (tcpRelayServerEofIsClean_iff.mpr ⟨input, phase⟩)⟩
  · obtain ⟨_, drained⟩ := serverRead reads.watched
    have left := down.onServerEof settled drained reads written
    have complete := down.complete_iff settled drained
    refine ⟨drained, down.delivered_all settled drained, ?_⟩
    rw [ServerSocket.CompleteResponse, complete]
    split at left
    · rename_i clean
      exact ⟨⟨fun _ => clean, fun _ => left⟩, fun unclean => absurd clean unclean⟩
    · rename_i unclean
      obtain ⟨net, closed⟩ := left
      rw [closed]
      exact ⟨⟨fun none => (by cases none), fun clean => absurd clean unclean⟩, fun _ => ⟨net, rfl⟩⟩

/-- The end of file after a response of one byte is recorded. -/
theorem tcpRelay_truncation_byte : ∃ s : TcpSession plainSs2022 TcpRelay,
    s.net.arrived = 1 :: 9 :: List.replicate 16 0 ∧
      (tcpRelayOnEvent s responseEof).serverEof = true ∧
      (s.net.socket 0).CompleteResponse s.net.arrived := by
  obtain ⟨s, reach, enabled, ⟨opened, arrived⟩, _, eof⟩ := plainSs2022_response
  obtain ⟨k, newest, _, truncation⟩ := tcpRelay_truncation (by decide) reach
  have first : k = 0 := Nat.succ.inj (newest.trans opened)
  subst first
  obtain ⟨_, _, recorded, _⟩ := truncation responseEof s ⟨enabled, rfl, rfl, rfl⟩ rfl
  exact ⟨s, arrived, eof, recorded.mp eof⟩

end Tproxy
