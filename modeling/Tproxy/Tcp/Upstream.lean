import Tproxy.Tcp.Downstream

namespace Tproxy

variable {S : Ss2022} {s t : TcpSession S TcpRelay} {k : Nat}

/-- Everything that the server is to receive: the request header and then the
sealed chunks of the later reads. -/
def ServerSocket.expected (socket : ServerSocket S) (reads : List (List UInt8)) : List UInt8 :=
  socket.header ++ sealStream S socket.ssClient.1 reads

/-- The client to server half of a relay on the given socket: the bytes that
it accepted and the pending ones are all that the server is to receive. -/
structure Upstream (S : Ss2022) (socket : ServerSocket S) (r : TcpRelay) (enc : S.Enc)
    (reads : List (List UInt8)) (eofRead : Bool) : Prop where
  stream : socket.accepted ++
    readAt r.clientToServerBuf r.clientToServerOff r.clientToServerLen = socket.expected reads
  state : sealState S socket.ssClient.1 reads = some enc
  eof : eofRead = r.clientEof
  shutdown : socket.shutdown = r.serverShutdownSent
  shutdownEof : r.serverShutdownSent = true → r.clientEof = true ∧ r.clientToServerLen = 0

/-- What holds of a server socket for good, also when the session is freed. -/
structure AcceptedNet (net : TcpNet S) (k : Nat) : Prop where
  front : (net.socket k).accepted <+: (net.socket k).expected net.laterReads
  shutdown : (net.socket k).shutdown = true →
    net.clientEofRead = true ∧ (net.socket k).accepted = (net.socket k).expected net.laterReads

/-- `Upstream` of a session on its socket `k`. -/
abbrev TcpSession.Up (s : TcpSession S TcpRelay) (k : Nat) : Prop :=
  Upstream S (s.net.socket k) s.union s.ssClient.1 s.net.laterReads s.net.clientEofRead

theorem Upstream.accepted_all (up : s.Up k) (drained : s.union.clientToServerLen = 0) :
    (s.net.socket k).accepted = (s.net.socket k).expected s.net.laterReads := by
  have all := up.stream
  rwa [drained, readAt_zero, List.append_nil] at all

theorem Upstream.net (up : s.Up k) : AcceptedNet s.net k := by
  refine ⟨⟨_, up.stream⟩, fun shut => ?_⟩
  obtain ⟨eof, drained⟩ := up.shutdownEof (up.shutdown.symm.trans shut)
  exact ⟨up.eof.trans eof, up.accepted_all drained⟩

theorem TcpNet.accept_socket (net : TcpNet S) (k : Nat) (bytes : List UInt8) :
    (net.accept (some k) bytes).socket k =
      { net.socket k with accepted := (net.socket k).accepted ++ bytes } :=
  Function.update_self ..

theorem TcpNet.accept_other (net : TcpNet S) {j : Nat} (bytes : List UInt8) (other : j ≠ k) :
    (net.accept (some k) bytes).socket j = net.socket j :=
  Function.update_of_ne other ..

theorem TcpNet.shutdownServer_socket (net : TcpNet S) (k : Nat) :
    (net.shutdownServer (some k)).socket k = { net.socket k with shutdown := true } :=
  Function.update_self ..

theorem TcpNet.shutdownServer_other (net : TcpNet S) {j : Nat} (other : j ≠ k) :
    (net.shutdownServer (some k)).socket j = net.socket j :=
  Function.update_of_ne other ..

theorem Upstream.shut (up : s.Up k) (eof : s.union.clientEof = true)
    (drained : s.union.clientToServerLen = 0) :
    Upstream S ((s.net.shutdownServer (some k)).socket k)
      { s.union with serverShutdownSent := true } s.ssClient.1 s.net.laterReads
      s.net.clientEofRead := by
  rw [TcpNet.shutdownServer_socket]
  exact { up with shutdown := rfl, shutdownEof := fun _ => ⟨eof, drained⟩ }

/-- Sending a part of the pending chunk keeps the stream. -/
theorem Upstream.drain (up : s.Up k) {d : Drained}
    (drained : d.Of s.union.clientToServerBuf s.union.clientToServerOff s.union.clientToServerLen) :
    Upstream S ((s.net.accept (some k) d.sent).socket k)
      { s.union with clientToServerOff := d.off, clientToServerLen := d.len } s.ssClient.1
      s.net.laterReads s.net.clientEofRead := by
  rw [TcpNet.accept_socket]
  refine ⟨?_, up.state, up.eof, up.shutdown, fun shut => ?_⟩
  · simp only
    rw [List.append_assoc, drained.bytes]
    exact up.stream
  · obtain ⟨eof, none⟩ := up.shutdownEof shut
    have shrinks := drained.shrinks
    rw [none] at shrinks
    exact ⟨eof, Nat.le_zero.mp shrinks⟩

/-- A read happens with nothing pending; its sealed chunk becomes pending. -/
theorem Upstream.seal (up : s.Up k) (drained : s.union.clientToServerLen = 0)
    (live : s.union.clientEof = false) {plain cipher : List UInt8} {enc : S.Enc}
    (buf : Nat → UInt8) (sealed : S.sealPayload s.ssClient.1 plain = some (enc, cipher)) :
    Upstream S (s.net.socket k)
      { s.union with
        clientToServerBuf := writeAt buf 0 cipher
        clientToServerOff := 0
        clientToServerLen := cipher.length } enc (s.net.laterReads ++ [plain])
      s.net.clientEofRead := by
  refine ⟨?_, ?_, up.eof, up.shutdown, fun shut => ?_⟩
  · simp only
    rw [readAt_writeAt_self, up.accepted_all drained, ServerSocket.expected, ServerSocket.expected,
      sealStream_append up.state, List.append_assoc]
    simp only [sealStream, sealed, List.append_nil]
  · rw [sealState_append up.state]
    simp only [sealState, sealed]
  · have eof := (up.shutdownEof shut).1
    rw [live] at eof
    cases eof

/-- A read that cannot be sealed adds nothing that the server is to receive. -/
theorem Upstream.seal_failed (up : s.Up k) {plain : List UInt8}
    (failed : S.sealPayload s.ssClient.1 plain = none) :
    (s.net.socket k).expected (s.net.laterReads ++ [plain]) =
      (s.net.socket k).expected s.net.laterReads := by
  rw [ServerSocket.expected, ServerSocket.expected, sealStream_append up.state]
  simp only [sealStream, failed, List.append_nil]

end Tproxy
