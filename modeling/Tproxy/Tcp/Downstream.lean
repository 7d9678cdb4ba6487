import Tproxy.Tcp.DownFrame
import Tproxy.Tcp.Stream

namespace Tproxy

variable {S : Ss2022} {r : TcpRelay} {dec₀ dec : S.Dec} {arrived delivered : List UInt8} {shut : Bool}

/-- What `tcp_relay_drain` does to a pending range: an initial part is sent
and the rest stays pending. -/
structure Drained.Of (buf : Nat → UInt8) (off len : Nat) (d : Drained) : Prop where
  bytes : d.sent ++ readAt buf d.off d.len = readAt buf off len
  shrinks : d.len ≤ len
  stop : d.len ≠ 0 → d.off + d.len = off + len
  reset : d.len = 0 → d.off = 0

theorem Drained.Of.stay {buf : Nat → UInt8} {off len : Nat} {failed : Bool} (some : len ≠ 0) :
    Drained.Of buf off len ⟨off, len, [], failed⟩ :=
  ⟨rfl, Nat.le_refl _, fun _ => rfl, fun none => absurd none some⟩

theorem tcpRelayDrain_spec (buf : Nat → UInt8) (sends : List (Except Errno Nat)) (off len : Nat) :
    (tcpRelayDrain buf sends off len).Of buf off len := by
  induction sends generalizing off len with
  | nil =>
    cases len with
    | zero => exact ⟨rfl, Nat.le_refl _, fun some => absurd rfl some, fun _ => rfl⟩
    | succ len => exact .stay (Nat.succ_ne_zero len)
  | cons answer rest ih =>
    cases len with
    | zero => exact ⟨rfl, Nat.le_refl _, fun some => absurd rfl some, fun _ => rfl⟩
    | succ len =>
      cases answer with
      | error err =>
        cases err with
        | eintr => exact ih off (len + 1)
        | _ => exact .stay (Nat.succ_ne_zero len)
      | ok n =>
        simp only [tcpRelayDrain]
        split
        · exact .stay (Nat.succ_ne_zero len)
        · rename_i positive
          obtain ⟨bytes, shrinks, stop, reset⟩ :=
            ih (off + min n (len + 1)) (len + 1 - min n (len + 1))
          refine ⟨?_, Nat.le_trans shrinks (Nat.sub_le ..), fun some => (stop some).trans (by omega), reset⟩
          simp only [List.append_assoc, bytes]
          rw [← readAt_add]
          congr 1
          omega

/-- What the relay expects next from the server. -/
def TcpRelay.chunkPhase (r : TcpRelay) : ChunkPhase :=
  if ¬r.responseHeaderDone then .responseHeader
  else if r.serverToClientNeedLen then .length
  else .payload r.responsePayloadLen

/-- The opened bytes that the client has not accepted. -/
def TcpRelay.output (r : TcpRelay) : List UInt8 :=
  readAt r.serverToClientIn (r.serverToClientInHead + r.serverToClientOutOff) r.serverToClientOutLen

/-- The received bytes that are not opened. -/
def TcpRelay.input (r : TcpRelay) : List UInt8 :=
  readAt r.serverToClientIn (r.serverToClientInHead + r.serverToClientInConsume)
    (r.serverToClientInLen - r.serverToClientInConsume)

/-- The server to client half of a relay that started with `dec₀`: however
the stream goes on, it decodes to what was delivered, then the pending output,
then what the rest of the input and the future bring, and it is complete when
these are. -/
structure Downstream (S : Ss2022) (dec₀ : S.Dec) (r : TcpRelay) (dec : S.Dec)
    (arrived delivered : List UInt8) (clientShutdown : Bool) : Prop where
  headerLen : r.responseHeaderLen = S.responseHeaderSize dec₀
  positive : 0 < r.responseHeaderLen
  headerFits : r.responseHeaderLen ≤ tcpSsRespInBufsiz
  room : r.serverToClientInHead + r.serverToClientInLen ≤ tcpSsRespInBufsiz
  consumes : r.serverToClientInConsume ≤ r.serverToClientInLen
  inside : r.serverToClientOutOff + r.serverToClientOutLen ≤ r.serverToClientInConsume
  idle : r.serverToClientOutLen = 0 → r.serverToClientInConsume = 0
  stream : ∀ more, openStream S r.responseHeaderLen .responseHeader dec₀ (arrived ++ more) =
    delivered ++ r.output ++ openStream S r.responseHeaderLen r.chunkPhase dec (r.input ++ more)
  frames : ∀ more,
    CompleteStream S r.responseHeaderLen .responseHeader dec₀ (arrived ++ more) ↔
      CompleteStream S r.responseHeaderLen r.chunkPhase dec (r.input ++ more)
  eof : r.serverEof = true →
    (r.serverToClientInLen = 0 ∧ r.serverToClientOutLen = 0) ∧ r.chunkPhase = .length
  shutdown : clientShutdown = r.clientShutdownSent
  shutdownEof : r.clientShutdownSent = true → r.serverEof = true

/-- The pending input does not hold the next chunk completely. -/
def TcpRelay.Settled (r : TcpRelay) : Prop :=
  r.serverToClientOutLen = 0 → r.chunkPhase.Incomplete r.responseHeaderLen r.input

/-- The input buffer has room for every chunk. -/
theorem Downstream.size_le (inv : Downstream S dec₀ r dec arrived delivered shut) :
    r.chunkPhase.size r.responseHeaderLen ≤ tcpSsRespInBufsiz := by
  have headerFits := inv.headerFits
  unfold TcpRelay.chunkPhase tcpSsRespInBufsiz at *
  split
  · exact headerFits
  split
  · simp only [ChunkPhase.size, ss2022LengthChunkLen]
    omega
  · have short := r.responsePayloadLen.toNat_lt
    simp only [ChunkPhase.size, tcpSs2022TagLen]
    omega

/-- With no output pending, the input is shorter than the next chunk. -/
theorem Downstream.inLen_lt (inv : Downstream S dec₀ r dec arrived delivered shut)
    (settled : r.Settled) (drained : r.serverToClientOutLen = 0) :
    r.serverToClientInLen < r.chunkPhase.size r.responseHeaderLen := by
  have short := ChunkPhase.incomplete_iff.mp (settled drained)
  rwa [TcpRelay.input, readAt_length, inv.idle drained, Nat.sub_zero] at short

theorem readAt_tcpBufConsume {m : Nat → UInt8} {head len n : Nat} (bound : n ≤ len) :
    readAt m (tcpBufConsume head len n).1 (tcpBufConsume head len n).2 =
      readAt m (head + n) (len - n) := by
  unfold tcpBufConsume
  split
  · have none : len - n = 0 := by omega
    simp only [none, readAt_zero]
  · rfl

theorem tcpBufConsume_room {head len n : Nat} :
    (tcpBufConsume head len n).1 + (tcpBufConsume head len n).2 ≤ head + len := by
  unfold tcpBufConsume
  split
  · exact Nat.zero_le _
  · simp only
    omega

/-- What holds of the client socket for good, also when the session is freed. -/
structure DeliveredNet (S : Ss2022) (dec₀ : S.Dec) (net : TcpNet S) : Prop where
  front : ∀ more, net.delivered <+:
    openStream S (S.responseHeaderSize dec₀) .responseHeader dec₀ (net.arrived ++ more)
  shutdown : net.clientShutdown = true → net.delivered =
    openStream S (S.responseHeaderSize dec₀) .responseHeader dec₀ net.arrived

/-- `Downstream` of a session. -/
abbrev TcpSession.Down (s : TcpSession S TcpRelay) (dec₀ : S.Dec) : Prop :=
  Downstream S dec₀ s.union s.ssClient.2 s.net.arrived s.net.delivered s.net.clientShutdown

variable {s t : TcpSession S TcpRelay} {dec₀ : S.Dec}

theorem Downstream.net (inv : s.Down dec₀) : DeliveredNet S dec₀ s.net := by
  have stream := inv.stream
  rw [inv.headerLen] at stream
  refine ⟨fun more => ?_, fun shut => ?_⟩
  · rw [stream, List.append_assoc]
    exact List.prefix_append _ _
  · have sent := inv.shutdown.symm.trans shut
    obtain ⟨⟨input, output⟩, _⟩ := inv.eof (inv.shutdownEof sent)
    have all := stream []
    have none : s.union.serverToClientInLen - s.union.serverToClientInConsume = 0 := by omega
    rw [TcpRelay.output, output, TcpRelay.input, none, readAt_zero, readAt_zero,
      List.append_nil, List.append_nil, List.append_nil, ← inv.headerLen,
      openStream_nil inv.positive, List.append_nil, inv.headerLen] at all
    exact all.symm

/-- With nothing pending and the next chunk incomplete, everything that
arrived was delivered. -/
theorem Downstream.delivered_all (inv : s.Down dec₀) (settled : s.union.Settled)
    (drained : s.union.serverToClientOutLen = 0) : s.net.delivered =
      openStream S (S.responseHeaderSize dec₀) .responseHeader dec₀ s.net.arrived := by
  have all := inv.stream []
  rw [TcpRelay.output, drained, readAt_zero, List.append_nil, List.append_nil, List.append_nil,
    openStream_incomplete (settled drained), List.append_nil, inv.headerLen] at all
  exact all.symm

section Write
variable {d : Drained}

/-- Sending a part of the pending output keeps the stream. -/
theorem Downstream.drain (inv : Downstream S dec₀ r dec arrived delivered shut)
    (drained : d.Of (fun i => r.serverToClientIn (r.serverToClientInHead + i))
      r.serverToClientOutOff r.serverToClientOutLen) (more : List UInt8) :
    openStream S r.responseHeaderLen .responseHeader dec₀ (arrived ++ more) =
      delivered ++ d.sent ++ readAt r.serverToClientIn (r.serverToClientInHead + d.off) d.len ++
        openStream S r.responseHeaderLen r.chunkPhase dec (r.input ++ more) := by
  have bytes := drained.bytes
  simp only [readAt_shift] at bytes
  rw [inv.stream, TcpRelay.output, ← bytes]
  simp only [List.append_assoc]

/-- Nothing is sent from an empty output. -/
theorem Drained.Of.sent_nil {buf : Nat → UInt8} {off : Nat} (drained : d.Of buf off 0) : d.sent = [] :=
  (List.append_eq_nil_iff.mp drained.bytes).1

/-- A part of the output was sent, or there was none. -/
theorem Downstream.drain_rest (inv : Downstream S dec₀ r dec arrived delivered shut)
    (drained : d.Of (fun i => r.serverToClientIn (r.serverToClientInHead + i))
      r.serverToClientOutOff r.serverToClientOutLen)
    (pending : ¬(d.len = 0 ∧ r.serverToClientInConsume > 0)) :
    Downstream S dec₀ { r with serverToClientOutOff := d.off, serverToClientOutLen := d.len } dec arrived
      (delivered ++ d.sent) shut := by
  have inside := inv.inside
  have stop := drained.stop
  have reset := drained.reset
  exact
    { headerLen := inv.headerLen
      positive := inv.positive
      headerFits := inv.headerFits
      room := inv.room
      consumes := inv.consumes
      inside := by
        simp only
        omega
      idle := fun none => by
        simp only at none ⊢
        omega
      stream := inv.drain drained
      frames := inv.frames
      eof := fun eof => by
        obtain ⟨⟨input, output⟩, phase⟩ := inv.eof eof
        have shrinks := drained.shrinks
        rw [output] at shrinks
        exact ⟨⟨input, Nat.le_zero.mp shrinks⟩, phase⟩
      shutdown := inv.shutdown
      shutdownEof := inv.shutdownEof }

/-- All of the output was sent, and the input that it was opened from is dropped. -/
theorem Downstream.drain_all (inv : Downstream S dec₀ r dec arrived delivered shut)
    (drained : d.Of (fun i => r.serverToClientIn (r.serverToClientInHead + i))
      r.serverToClientOutOff r.serverToClientOutLen)
    (empty : d.len = 0) (opened : r.serverToClientInConsume > 0) :
    Downstream S dec₀ { r with
      serverToClientOutOff := d.off
      serverToClientOutLen := d.len
      serverToClientInHead :=
        (tcpBufConsume r.serverToClientInHead r.serverToClientInLen r.serverToClientInConsume).1
      serverToClientInLen :=
        (tcpBufConsume r.serverToClientInHead r.serverToClientInLen r.serverToClientInConsume).2
      serverToClientInConsume := 0 } dec arrived (delivered ++ d.sent) shut := by
  have consumes := inv.consumes
  exact
    { headerLen := inv.headerLen
      positive := inv.positive
      headerFits := inv.headerFits
      room := Nat.le_trans tcpBufConsume_room inv.room
      consumes := Nat.zero_le _
      inside := by simp only [empty, drained.reset empty, Nat.add_zero, Nat.le_refl]
      idle := fun _ => rfl
      stream := fun more => by
        have all := inv.drain drained more
        simp only [TcpRelay.output, TcpRelay.input, TcpRelay.chunkPhase, empty, readAt_zero,
          Nat.add_zero, Nat.sub_zero, readAt_tcpBufConsume consumes] at all ⊢
        exact all
      frames := fun more => by
        have all := inv.frames more
        simp only [TcpRelay.input, TcpRelay.chunkPhase, Nat.add_zero, Nat.sub_zero,
          readAt_tcpBufConsume consumes] at all ⊢
        exact all
      eof := fun eof => by
        have none := (inv.eof eof).1.1
        omega
      shutdown := inv.shutdown
      shutdownEof := inv.shutdownEof }

theorem Downstream.write (inv : s.Down dec₀) (sends : List (Except Errno Nat)) :
    OrFreed (DeliveredNet S dec₀) (fun t => t.Down dec₀ ∧ t.union.serverEof = s.union.serverEof)
      (tcpRelayWriteToClient s sends) := by
  have drained := tcpRelayDrain_spec
    (fun i => s.union.serverToClientIn (s.union.serverToClientInHead + i)) sends
    s.union.serverToClientOutOff s.union.serverToClientOutLen
  simp only [tcpRelayWriteToClient]
  generalize tcpRelayDrain (fun i => s.union.serverToClientIn (s.union.serverToClientInHead + i))
    sends s.union.serverToClientOutOff s.union.serverToClientOutLen = d at drained ⊢
  by_cases failed : d.failed
  · rw [if_pos failed]
    refine ⟨_, rfl, fun more => ?_, fun shut => ?_⟩
    · rw [← inv.headerLen, inv.drain drained, List.append_assoc]
      exact List.prefix_append _ _
    · have sent := inv.shutdown.symm.trans shut
      rw [(inv.eof (inv.shutdownEof sent)).1.2] at drained
      rw [drained.sent_nil, List.append_nil]
      exact inv.net.shutdown shut
  rw [if_neg failed]
  by_cases done : d.len = 0 ∧ s.union.serverToClientInConsume > 0
  · rw [if_pos done]
    exact ⟨inv.drain_all drained done.1 done.2, rfl⟩
  · rw [if_neg done]
    exact ⟨inv.drain_rest drained done, rfl⟩

end Write

end Tproxy
