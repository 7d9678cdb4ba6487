import Tproxy.Tcp.Downstream

namespace Tproxy

variable {S : Ss2022} {s t : TcpSession S TcpRelay} {dec₀ : S.Dec}

/-- While nothing is pending, the whole input is still to be opened. -/
theorem Downstream.stream_idle (inv : s.Down dec₀) (drained : s.union.serverToClientOutLen = 0)
    (more : List UInt8) :
    openStream S s.union.responseHeaderLen .responseHeader dec₀ (s.net.arrived ++ more) =
      s.net.delivered ++ openStream S s.union.responseHeaderLen s.union.chunkPhase s.ssClient.2
        (readAt s.union.serverToClientIn s.union.serverToClientInHead s.union.serverToClientInLen ++
          more) := by
  rw [inv.stream, TcpRelay.output, TcpRelay.input, inv.idle drained, drained, readAt_zero,
    List.append_nil, Nat.add_zero, Nat.sub_zero]

theorem Downstream.frames_idle (inv : s.Down dec₀) (drained : s.union.serverToClientOutLen = 0)
    (more : List UInt8) :
    CompleteStream S s.union.responseHeaderLen .responseHeader dec₀ (s.net.arrived ++ more) ↔
      CompleteStream S s.union.responseHeaderLen s.union.chunkPhase s.ssClient.2
        (readAt s.union.serverToClientIn s.union.serverToClientInHead s.union.serverToClientInLen ++
          more) := by
  rw [inv.frames, TcpRelay.input, inv.idle drained, Nat.add_zero, Nat.sub_zero]

theorem TcpRelay.input_idle {r : TcpRelay} (idle : r.serverToClientInConsume = 0) :
    r.input = readAt r.serverToClientIn r.serverToClientInHead r.serverToClientInLen := by
  rw [TcpRelay.input, idle, Nat.add_zero, Nat.sub_zero]

/-- The chunk at the front of the input was opened and taken off. -/
theorem Downstream.consume (inv : s.Down dec₀) (drained : s.union.serverToClientOutLen = 0)
    (live : s.union.serverEof = false) {n : Nat} (enough : n ≤ s.union.serverToClientInLen)
    {dec : S.Dec} {phase : ChunkPhase}
    (opens : ∀ bytes : List UInt8, n ≤ bytes.length →
      bytes.take n = readAt s.union.serverToClientIn s.union.serverToClientInHead n →
      openStream S s.union.responseHeaderLen s.union.chunkPhase s.ssClient.2 bytes =
        openStream S s.union.responseHeaderLen phase dec (bytes.drop n) ∧
      (CompleteStream S s.union.responseHeaderLen s.union.chunkPhase s.ssClient.2 bytes ↔
        CompleteStream S s.union.responseHeaderLen phase dec (bytes.drop n)))
    {done needLen : Bool} {len : UInt16}
    (reached : ({ s.union with
      responsePayloadLen := len
      responseHeaderDone := done
      serverToClientNeedLen := needLen } : TcpRelay).chunkPhase = phase) :
    Downstream S dec₀ { s.union with
      responsePayloadLen := len
      serverToClientInHead :=
        (tcpBufConsume s.union.serverToClientInHead s.union.serverToClientInLen n).1
      serverToClientInLen :=
        (tcpBufConsume s.union.serverToClientInHead s.union.serverToClientInLen n).2
      responseHeaderDone := done
      serverToClientNeedLen := needLen } dec s.net.arrived s.net.delivered s.net.clientShutdown where
  headerLen := inv.headerLen
  positive := inv.positive
  headerFits := inv.headerFits
  room := Nat.le_trans tcpBufConsume_room inv.room
  consumes := by simp only [inv.idle drained, Nat.zero_le]
  inside := inv.inside
  idle := inv.idle
  stream more := by
    have opened := opens (readAt s.union.serverToClientIn s.union.serverToClientInHead
      s.union.serverToClientInLen ++ more) (le_length_readAt_append enough) (readAt_append_take enough)
    rw [inv.stream_idle drained, opened.1,
      readAt_append_drop enough, ← readAt_tcpBufConsume enough, TcpRelay.output, TcpRelay.input]
    simp only [inv.idle drained, drained, readAt_zero, List.append_nil, Nat.add_zero, Nat.sub_zero]
    rw [← reached]
    rfl
  frames more := by
    have opened := opens (readAt s.union.serverToClientIn s.union.serverToClientInHead
      s.union.serverToClientInLen ++ more) (le_length_readAt_append enough) (readAt_append_take enough)
    rw [inv.frames_idle drained, opened.2,
      readAt_append_drop enough, ← readAt_tcpBufConsume enough, TcpRelay.input]
    simp only [inv.idle drained, Nat.add_zero, Nat.sub_zero]
    rw [← reached]
    rfl
  eof eof := by
    rw [live] at eof
    cases eof
  shutdown := inv.shutdown
  shutdownEof := inv.shutdownEof

/-- The opened input may be processed: nothing is pending and no end of file
was seen. -/
structure TcpSession.Opening (s : TcpSession S TcpRelay) (dec₀ : S.Dec) : Prop where
  down : s.Down dec₀
  drained : s.union.serverToClientOutLen = 0
  live : s.union.serverEof = false

/-- What a part of the processing loop leaves: a session that may go on,
incomplete input, or a freed session. -/
def OpensTo (s : TcpSession S TcpRelay) (dec₀ : S.Dec) (next : TcpSession S TcpRelay → Prop) :
    Except (TcpState S) (Option (TcpSession S TcpRelay)) → Prop
  | .error st => st = .closed true s.net
  | .ok none => s.union.Settled
  | .ok (some t) => t.Down dec₀ ∧ t.union.serverEof = false ∧ next t

/-- Less input than the next chunk needs is left as it is. -/
theorem TcpSession.Opening.waits (inv : s.Opening dec₀) {phase : ChunkPhase}
    (atPhase : s.union.chunkPhase = phase)
    (short : s.union.serverToClientInLen < phase.size s.union.responseHeaderLen) : s.union.Settled := by
  intro _
  rw [atPhase, TcpRelay.input_idle (inv.down.idle inv.drained)]
  cases phase <;> simpa only [ChunkPhase.Incomplete, ChunkPhase.size, readAt_length] using short

theorem TcpSession.Opening.responseHeader (inv : s.Opening dec₀) :
    OpensTo s dec₀ (fun t => t.union.serverToClientOutLen = 0 ∧ t.union.responseHeaderDone = true)
      (tcpRelayOpenResponseHeader s) := by
  have ⟨down, drained, live⟩ := inv
  simp only [tcpRelayOpenResponseHeader]
  by_cases done : s.union.responseHeaderDone
  · rw [if_pos done]
    exact ⟨down, live, drained, done⟩
  have phase : s.union.chunkPhase = .responseHeader := if_pos done
  rw [if_neg done]
  by_cases short : s.union.serverToClientInLen < s.union.responseHeaderLen
  · rw [if_pos short]
    exact inv.waits phase short
  rw [if_neg short]
  cases opened : S.openResponseHeader s.ssClient.2 (readAt s.union.serverToClientIn
      s.union.serverToClientInHead s.union.responseHeaderLen) with
  | none => rfl
  | some result =>
    obtain ⟨dec, len⟩ := result
    refine ⟨down.consume drained live (Nat.not_lt.mp short) (fun bytes long front => ?_) rfl, live,
      drained, rfl⟩
    rw [phase]
    rw [← front] at opened
    exact ⟨openStream_responseHeader long opened, completeStream_responseHeader long opened⟩

theorem TcpSession.Opening.length (inv : s.Opening dec₀) (done : s.union.responseHeaderDone = true) :
    OpensTo s dec₀ (fun t => t.union.serverToClientOutLen = 0 ∧
      t.union.responseHeaderDone = true ∧ t.union.serverToClientNeedLen = false)
      (tcpRelayOpenLength s) := by
  have ⟨down, drained, live⟩ := inv
  simp only [tcpRelayOpenLength]
  by_cases needs : s.union.serverToClientNeedLen
  · rw [if_neg (not_not.mpr needs)]
    have phase : s.union.chunkPhase = .length := by
      rw [TcpRelay.chunkPhase, if_neg (not_not.mpr done), if_pos needs]
    by_cases short : s.union.serverToClientInLen < ss2022LengthChunkLen
    · rw [if_pos short]
      exact inv.waits phase short
    rw [if_neg short]
    cases opened : S.openLength s.ssClient.2 (readAt s.union.serverToClientIn
        s.union.serverToClientInHead ss2022LengthChunkLen) with
    | none => rfl
    | some result =>
      obtain ⟨dec, len⟩ := result
      refine ⟨down.consume drained live (Nat.not_lt.mp short) (fun bytes long front => ?_)
        (show _ = ChunkPhase.payload len from if_neg (not_not.mpr done)), live, drained, done, rfl⟩
      rw [phase]
      rw [← front] at opened
      exact ⟨openStream_length long opened, completeStream_length long opened⟩
  · rw [if_pos needs]
    exact ⟨down, live, drained, done, Bool.eq_false_iff.mpr needs⟩

/-- The payload at the front of the input opens: the stream goes on behind it. -/
theorem TcpRelay.payload_opens {r : TcpRelay} {dec next : S.Dec} {need : Nat}
    (phase : r.chunkPhase = .payload r.responsePayloadLen)
    (size : need = r.responsePayloadLen.toNat + tcpSs2022TagLen) (enough : need ≤ r.serverToClientInLen)
    {plain : { plain : List UInt8 // plain.length ≤ need - tcpSs2022TagLen }}
    (opened : S.openPayload dec (readAt r.serverToClientIn r.serverToClientInHead need)
      (need - tcpSs2022TagLen) = some (next, plain)) (more : List UInt8) :
    let input := readAt r.serverToClientIn r.serverToClientInHead r.serverToClientInLen ++ more
    let rest := readAt r.serverToClientIn (r.serverToClientInHead + need)
      (r.serverToClientInLen - need) ++ more
    openStream S r.responseHeaderLen r.chunkPhase dec input =
        plain.1 ++ openStream S r.responseHeaderLen .length next rest ∧
      (CompleteStream S r.responseHeaderLen r.chunkPhase dec input ↔
        CompleteStream S r.responseHeaderLen .length next rest) := by
  intro input rest
  subst size
  have long : r.responsePayloadLen.toNat + tcpSs2022TagLen ≤ input.length :=
    le_length_readAt_append enough
  have front : input.take (r.responsePayloadLen.toNat + tcpSs2022TagLen) =
      readAt r.serverToClientIn r.serverToClientInHead
        (r.responsePayloadLen.toNat + tcpSs2022TagLen) := readAt_append_take enough
  have behind : input.drop (r.responsePayloadLen.toNat + tcpSs2022TagLen) = rest :=
    readAt_append_drop enough
  rw [← front] at opened
  rw [phase, openStream_payload long opened, completeStream_payload long opened, behind]
  exact ⟨rfl, Iff.rfl⟩

section Payload
variable {need : Nat} {dec : S.Dec}

/-- A payload without content is taken off the input. -/
theorem TcpSession.Opening.payload_empty (inv : s.Opening dec₀)
    (phase : s.union.chunkPhase = .payload s.union.responsePayloadLen)
    (done : s.union.responseHeaderDone = true)
    (size : need = s.union.responsePayloadLen.toNat + tcpSs2022TagLen)
    (enough : need ≤ s.union.serverToClientInLen)
    {fits : ([] : List UInt8).length ≤ need - tcpSs2022TagLen}
    (opened : S.openPayload s.ssClient.2 (readAt s.union.serverToClientIn
      s.union.serverToClientInHead need) (need - tcpSs2022TagLen) = some (dec, ⟨[], fits⟩)) :
    Downstream S dec₀ { s.union with
      serverToClientIn := writeAt s.union.serverToClientIn s.union.serverToClientInHead []
      serverToClientInHead :=
        (tcpBufConsume s.union.serverToClientInHead s.union.serverToClientInLen need).1
      serverToClientInLen :=
        (tcpBufConsume s.union.serverToClientInHead s.union.serverToClientInLen need).2
      serverToClientInConsume := 0
      serverToClientOutOff := 0
      serverToClientOutLen := 0
      serverToClientNeedLen := true } dec s.net.arrived s.net.delivered s.net.clientShutdown where
  headerLen := inv.down.headerLen
  positive := inv.down.positive
  headerFits := inv.down.headerFits
  room := Nat.le_trans tcpBufConsume_room inv.down.room
  consumes := Nat.zero_le _
  inside := Nat.le_refl _
  idle _ := rfl
  stream more := by
    have opens := (TcpRelay.payload_opens phase size enough opened more).1
    rw [inv.down.stream_idle inv.drained, opens, ← readAt_tcpBufConsume enough]
    simp [TcpRelay.output, TcpRelay.input, TcpRelay.chunkPhase, done]
  frames more := by
    have opens := (TcpRelay.payload_opens phase size enough opened more).2
    rw [inv.down.frames_idle inv.drained, opens, ← readAt_tcpBufConsume enough]
    simp [TcpRelay.input, TcpRelay.chunkPhase, done]
  eof eof := absurd (inv.live.symm.trans eof) Bool.false_ne_true
  shutdown := inv.down.shutdown
  shutdownEof := inv.down.shutdownEof

/-- The content of a payload is stored over it and is to be sent. -/
theorem TcpSession.Opening.payload_some (inv : s.Opening dec₀)
    (phase : s.union.chunkPhase = .payload s.union.responsePayloadLen)
    (done : s.union.responseHeaderDone = true)
    (size : need = s.union.responsePayloadLen.toNat + tcpSs2022TagLen)
    (enough : need ≤ s.union.serverToClientInLen) {plain : List UInt8}
    {fits : plain.length ≤ need - tcpSs2022TagLen}
    (opened : S.openPayload s.ssClient.2 (readAt s.union.serverToClientIn
      s.union.serverToClientInHead need) (need - tcpSs2022TagLen) = some (dec, ⟨plain, fits⟩))
    (content : plain.length ≠ 0) :
    Downstream S dec₀ { s.union with
      serverToClientIn := writeAt s.union.serverToClientIn s.union.serverToClientInHead plain
      serverToClientInConsume := need
      serverToClientOutOff := 0
      serverToClientOutLen := plain.length
      serverToClientNeedLen := true } dec s.net.arrived s.net.delivered s.net.clientShutdown where
  headerLen := inv.down.headerLen
  positive := inv.down.positive
  headerFits := inv.down.headerFits
  room := inv.down.room
  consumes := enough
  inside := by
    simp only
    omega
  idle none := absurd none content
  stream more := by
    have opens := (TcpRelay.payload_opens phase size enough opened more).1
    rw [inv.down.stream_idle inv.drained, opens]
    simp only [TcpRelay.output, TcpRelay.input, TcpRelay.chunkPhase, done, not_true, if_false, if_true,
      Nat.add_zero]
    rw [readAt_writeAt_self, readAt_writeAt_apart (Or.inr (by omega)), List.append_assoc]
  frames more := by
    have opens := (TcpRelay.payload_opens phase size enough opened more).2
    rw [inv.down.frames_idle inv.drained, opens]
    simp only [TcpRelay.input, TcpRelay.chunkPhase, done, not_true, if_false, if_true]
    rw [readAt_writeAt_apart (Or.inr (by omega))]
  eof eof := absurd (inv.live.symm.trans eof) Bool.false_ne_true
  shutdown := inv.down.shutdown
  shutdownEof := inv.down.shutdownEof

end Payload

theorem TcpSession.Opening.payload (inv : s.Opening dec₀) (done : s.union.responseHeaderDone = true)
    (sized : s.union.serverToClientNeedLen = false) :
    OpensTo s dec₀ (fun _ => True) (tcpRelayOpenPayload s) := by
  have phase : s.union.chunkPhase = .payload s.union.responsePayloadLen := by
    rw [TcpRelay.chunkPhase, if_neg (not_not.mpr done), sized]
    rfl
  simp only [tcpRelayOpenPayload]
  by_cases short : s.union.serverToClientInLen < s.union.responsePayloadLen.toNat + tcpSs2022TagLen
  · rw [if_pos short]
    exact inv.waits phase short
  rw [if_neg short]
  have enough := Nat.not_lt.mp short
  cases opened : S.openPayload s.ssClient.2 (readAt s.union.serverToClientIn
      s.union.serverToClientInHead (s.union.responsePayloadLen.toNat + tcpSs2022TagLen))
      (s.union.responsePayloadLen.toNat + tcpSs2022TagLen - tcpSs2022TagLen) with
  | none => rfl
  | some result =>
    obtain ⟨dec, plain, fits⟩ := result
    refine ⟨?_, inv.live, trivial⟩
    by_cases empty : plain = []
    · subst empty
      exact inv.payload_empty phase done rfl enough opened
    · have content : plain.length ≠ 0 := fun none => empty (List.length_eq_zero_iff.mp none)
      simp only [if_neg content]
      exact inv.payload_some phase done rfl enough opened content

/-- One pass of the processing loop keeps the stream. It goes on, or the rest
of the input is incomplete. -/
theorem TcpSession.Opening.once (inv : s.Opening dec₀) :
    match tcpRelayProcessOnce s with
    | .error st => ∃ net, st = .closed true net ∧ DeliveredNet S dec₀ net
    | .ok (t, true) => t.Down dec₀ ∧ t.union.serverEof = false
    | .ok (t, false) => t.Down dec₀ ∧ t.union.serverEof = false ∧ t.union.Settled := by
  have header := inv.responseHeader
  unfold tcpRelayProcessOnce
  generalize tcpRelayOpenResponseHeader s = result at header
  match result, header with
  | .error _, rfl => exact ⟨_, rfl, inv.down.net⟩
  | .ok none, settled => exact ⟨inv.down, inv.live, settled⟩
  | .ok (some s₁), ⟨down₁, live₁, drained₁, done₁⟩ =>
    have inv₁ : s₁.Opening dec₀ := ⟨down₁, drained₁, live₁⟩
    have length := inv₁.length done₁
    simp only
    generalize tcpRelayOpenLength s₁ = result at length
    match result, length with
    | .error _, rfl => exact ⟨_, rfl, down₁.net⟩
    | .ok none, settled => exact ⟨down₁, live₁, settled⟩
    | .ok (some s₂), ⟨down₂, live₂, drained₂, done₂, sized₂⟩ =>
      have inv₂ : s₂.Opening dec₀ := ⟨down₂, drained₂, live₂⟩
      have payload := inv₂.payload done₂ sized₂
      simp only
      generalize tcpRelayOpenPayload s₂ = result at payload
      match result, payload with
      | .error _, rfl => exact ⟨_, rfl, down₂.net⟩
      | .ok none, settled => exact ⟨down₂, live₂, settled⟩
      | .ok (some _), ⟨down₃, live₃, _⟩ => exact ⟨down₃, live₃⟩

/-- What a function of the server to client half leaves: a session with the
stream kept and everything complete opened, or a freed session. -/
abbrev KeepsDown (dec₀ : S.Dec) (side : TcpRelay → Prop) :=
  OrFreed (DeliveredNet S dec₀) fun t => t.Down dec₀ ∧ t.union.Settled ∧ side t.union

theorem Downstream.process (down : s.Down dec₀) (live : s.union.serverEof = false) :
    KeepsDown dec₀ (·.serverEof = false) (tcpRelayProcessServerData s) := by
  induction fuel : s.union.pendingInput using Nat.strongRecOn generalizing s with
  | _ fuel ih =>
    rw [tcpRelayProcessServerData]
    split
    · rename_i drained
      have once := TcpSession.Opening.once ⟨down, drained, live⟩
      split
      · rename_i run
        rw [run] at once
        exact once
      · rename_i run
        rw [run] at once
        exact ⟨once.1, once.2.2, once.2.1⟩
      · rename_i t run
        rw [run] at once
        exact ih _ (fuel ▸ tcpRelayProcessOnce_pending drained run) once.1 once.2 rfl
    · rename_i pending
      exact ⟨down, fun drained => absurd drained pending, live⟩

theorem Downstream.processPending (down : s.Down dec₀) :
    KeepsDown dec₀ (·.serverEof = s.union.serverEof) (tcpRelayProcessPendingServerData s) := by
  unfold tcpRelayProcessPendingServerData
  split
  · rename_i skip
    refine ⟨down, fun drained => ?_, rfl⟩
    have none : s.union.serverToClientInLen = 0 := skip.resolve_left fun pending => pending drained
    rw [TcpRelay.input_idle (down.idle drained), none, readAt_zero]
    cases s.union.chunkPhase with
    | responseHeader => exact down.positive
    | length => exact Nat.zero_lt_succ _
    | payload len => exact Nat.succ_pos _
  · rename_i some
    rw [not_or] at some
    have live : s.union.serverEof = false :=
      Bool.eq_false_iff.mpr fun eof => some.2 (down.eof eof).1.1
    rw [live]
    exact down.process live

/-- Compaction moves the whole input; it is only done with nothing pending. -/
theorem Downstream.compact (down : s.Down dec₀) (drained : s.union.serverToClientOutLen = 0) :
    ({ s with union := tcpRelayCompactServerInput s.union } : TcpSession S TcpRelay).Down dec₀ ∧
      (tcpRelayCompactServerInput s.union).input = s.union.input := by
  unfold tcpRelayCompactServerInput
  split
  · exact ⟨down, rfl⟩
  split
  · exact ⟨down, rfl⟩
  have idle := down.idle drained
  have moved : readAt (writeAt s.union.serverToClientIn 0 (readAt s.union.serverToClientIn
      s.union.serverToClientInHead s.union.serverToClientInLen)) 0 s.union.serverToClientInLen =
      readAt s.union.serverToClientIn s.union.serverToClientInHead s.union.serverToClientInLen := by
    have self := @readAt_writeAt_self _ s.union.serverToClientIn 0
      (readAt s.union.serverToClientIn s.union.serverToClientInHead s.union.serverToClientInLen)
    rwa [readAt_length] at self
  refine ⟨?_, by simpa only [TcpRelay.input, idle, Nat.add_zero, Nat.sub_zero] using moved⟩
  exact
    { headerLen := down.headerLen
      positive := down.positive
      headerFits := down.headerFits
      room := by
        have room := down.room
        simp only
        omega
      consumes := down.consumes
      inside := down.inside
      idle := down.idle
      stream := fun more => by
        have all := down.stream_idle drained more
        rw [← moved] at all
        simpa only [TcpRelay.output, TcpRelay.input, TcpRelay.chunkPhase, idle, drained,
          readAt_zero, List.append_nil, Nat.add_zero, Nat.sub_zero] using all
      frames := fun more => by
        have all := down.frames_idle drained more
        rw [← moved] at all
        simpa only [TcpRelay.input, TcpRelay.chunkPhase, idle, Nat.add_zero, Nat.sub_zero] using all
      eof := down.eof
      shutdown := down.shutdown
      shutdownEof := down.shutdownEof }

/-- Received bytes extend the input. -/
theorem Downstream.receive (down : s.Down dec₀) (live : s.union.serverEof = false)
    {bytes : List UInt8}
    (fits : bytes.length ≤ tcpSsRespInBufsiz - s.union.serverToClientInHead - s.union.serverToClientInLen) :
    ({ s with
      net := { s.net with arrived := s.net.arrived ++ bytes }
      union := { s.union with
        serverToClientIn := writeAt s.union.serverToClientIn
          (s.union.serverToClientInHead + s.union.serverToClientInLen) bytes
        serverToClientInLen := s.union.serverToClientInLen + bytes.length } } :
      TcpSession S TcpRelay).Down dec₀ := by
  have room := down.room
  have consumes := down.consumes
  have inside := down.inside
  have notEof : s.union.serverEof = true → False := fun eof => by
    rw [live] at eof
    cases eof
  have later : s.union.serverToClientInHead + s.union.serverToClientInConsume +
      (s.union.serverToClientInLen - s.union.serverToClientInConsume) =
      s.union.serverToClientInHead + s.union.serverToClientInLen := by omega
  have longer : s.union.serverToClientInLen + bytes.length - s.union.serverToClientInConsume =
      s.union.serverToClientInLen - s.union.serverToClientInConsume + bytes.length := by omega
  exact
    { headerLen := down.headerLen
      positive := down.positive
      headerFits := down.headerFits
      room := by
        simp only
        omega
      consumes := Nat.le_trans consumes (Nat.le_add_right _ _)
      inside := inside
      idle := down.idle
      stream := fun more => by
        have all := down.stream (bytes ++ more)
        simp only [TcpRelay.output, TcpRelay.input, TcpRelay.chunkPhase, List.append_assoc] at all ⊢
        rw [readAt_writeAt_apart (Or.inl (by omega)), longer, ← later, readAt_writeAt_append,
          List.append_assoc]
        exact all
      frames := fun more => by
        have all := down.frames (bytes ++ more)
        simp only [TcpRelay.input, TcpRelay.chunkPhase, List.append_assoc] at all ⊢
        rw [longer, ← later, readAt_writeAt_append, List.append_assoc]
        exact all
      eof := fun eof => (notEof eof).elim
      shutdown := down.shutdown
      shutdownEof := down.shutdownEof }

theorem recvUpTo_length {cap : Nat} {recvs : List (Except Errno (List UInt8))} {bytes : List UInt8}
    (received : recvUpTo cap recvs = .ok bytes) : bytes.length ≤ cap := by
  unfold recvUpTo at received
  cases answer : uninterrupted .eagain recvs with
  | error err =>
    rw [answer] at received
    cases received
  | ok all =>
    rw [answer] at received
    cases received
    exact List.length_take_le cap all

/-- What is read from the client stays inside `client_to_server_buf`. -/
theorem recvUpTo_in_buf (S : Ss2022) {recvs : List (Except Errno (List UInt8))} {plain : List UInt8}
    (received : recvUpTo tcpSsPlainBufsiz recvs = .ok plain) :
    S.payloadChunkPrefixLen + plain.length ≤ tcpSsCipherBufsiz :=
  Nat.le_trans (Nat.add_le_add_left (recvUpTo_length received) _) S.payload_fits

theorem tcpRelayServerEofIsClean_iff {r : TcpRelay} :
    tcpRelayServerEofIsClean r = true ↔ r.serverToClientInLen = 0 ∧ r.chunkPhase = .length := by
  unfold tcpRelayServerEofIsClean TcpRelay.chunkPhase
  by_cases empty : r.serverToClientInLen = 0
  · cases r.responseHeaderDone <;> cases r.serverToClientNeedLen <;> simp [empty]
  · simp [empty]

/-- A clean end of file leaves no input. -/
theorem Downstream.serverEof (down : s.Down dec₀) (drained : s.union.serverToClientOutLen = 0)
    (settled : s.union.Settled) :
    KeepsDown dec₀ (fun _ => True) (tcpRelayHandleServerEof s) := by
  unfold tcpRelayHandleServerEof
  split
  · exact ⟨_, rfl, down.net⟩
  · rename_i clean
    obtain ⟨empty, phase⟩ := tcpRelayServerEofIsClean_iff.mp (not_not.mp clean)
    refine ⟨{ down with eof := fun _ => ⟨⟨empty, drained⟩, phase⟩, shutdownEof := fun _ => rfl },
      settled, trivial⟩

theorem Downstream.readFromServer (down : s.Down dec₀) (settled : s.union.Settled)
    (drained : s.union.serverToClientOutLen = 0) (live : s.union.serverEof = false)
    (recvs : List (Except Errno (List UInt8))) :
    KeepsDown dec₀ (fun _ => True) (tcpRelayReadFromServer s recvs) := by
  obtain ⟨compact, same⟩ := down.compact drained
  have frame : (tcpRelayCompactServerInput s.union).serverToClientOutLen = 0 ∧
      (tcpRelayCompactServerInput s.union).serverEof = false ∧
      (tcpRelayCompactServerInput s.union).chunkPhase = s.union.chunkPhase ∧
      (tcpRelayCompactServerInput s.union).responseHeaderLen = s.union.responseHeaderLen := by
    unfold tcpRelayCompactServerInput
    split
    · exact ⟨drained, live, rfl, rfl⟩
    · split <;> exact ⟨drained, live, rfl, rfl⟩
  obtain ⟨drained', live', phase, headerLen⟩ := frame
  have settled' : (tcpRelayCompactServerInput s.union).Settled := fun _ => by
    rw [phase, headerLen, same]
    exact settled drained
  unfold tcpRelayReadFromServer
  simp only
  generalize tcpRelayCompactServerInput s.union = r at *
  cases received : recvUpTo (tcpSsRespInBufsiz - r.serverToClientInHead - r.serverToClientInLen)
      recvs with
  | error err =>
    cases err with
    | eagain => exact ⟨compact, settled', trivial⟩
    | _ => exact ⟨_, rfl, compact.net⟩
  | ok bytes =>
    cases bytes with
    | nil => exact compact.serverEof drained' settled'
    | cons b bs =>
      have opened := (compact.receive live' (recvUpTo_length received)).process live'
      exact opened.imp fun _ kept => ⟨kept.1, kept.2.1, trivial⟩

end Tproxy
