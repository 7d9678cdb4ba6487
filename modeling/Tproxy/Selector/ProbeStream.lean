import Tproxy.Selector.TcpProbe
import Tproxy.Tcp.OpenChunk

namespace Tproxy

variable {S : Ss2022}

/-- What the probe expects next from the server. -/
def TcpProbe.phase (p : TcpProbe S) : ChunkPhase :=
  match p.state with
  | .recvRespHdr => .responseHeader
  | .recvLength => .length
  | _ => .payload p.responsePayloadLen

/-- The received bytes that are not opened. -/
def TcpProbe.input (p : TcpProbe S) : List UInt8 := readAt p.buf 0 p.bufLen

/-- The bytes of the status line so far. -/
def TcpProbe.opened (p : TcpProbe S) : List UInt8 := readAt p.status 0 p.statusLen

/-- A probe that reads the response, whose header has `headerLen` bytes. -/
structure TcpProbe.Receiving (p : TcpProbe S) (headerLen : Nat) : Prop where
  state : p.state = .recvRespHdr ∨ p.state = .recvLength ∨ p.state = .recvPayload
  need : p.bufNeed = p.phase.size headerLen
  short : p.statusLen < tcpProbeStatusLen
  room : p.bufLen ≤ tcpProbeRecvBufSize

/-- The call reports a chunk that did not open. -/
def TcpProbeEnd.Unopened (call : TcpProbeEnd) : Prop :=
  call = .responseHeader ∨ call = .length ∨ call = .payload

variable {p q : TcpProbe S} {headerLen : Nat} {phase : ChunkPhase} {dec : S.Dec} {plain : List UInt8}

theorem TcpProbe.input_length (p : TcpProbe S) : p.input.length = p.bufLen := readAt_length

theorem TcpProbe.opened_length (p : TcpProbe S) : p.opened.length = p.statusLen := readAt_length

theorem tcpProbeConsume_input (p : TcpProbe S) {n : Nat} (bound : n ≤ p.bufLen) :
    (tcpProbeConsume p n).input = p.input.drop n := by
  unfold TcpProbe.input
  rw [readAt_drop bound, Nat.zero_add]
  simp only [tcpProbeConsume]
  split
  · have length : (readAt p.buf n (p.bufLen - n)).length = p.bufLen - n := readAt_length
    calc readAt (writeAt p.buf 0 (readAt p.buf n (p.bufLen - n))) 0 (p.bufLen - n)
      _ = readAt (writeAt p.buf 0 (readAt p.buf n (p.bufLen - n))) 0
            (readAt p.buf n (p.bufLen - n)).length := by rw [length]
      _ = readAt p.buf n (p.bufLen - n) := readAt_writeAt_self
  · have empty : p.bufLen - n = 0 := by omega
    rw [empty, readAt_zero, readAt_zero]

/-- A payload with its tag fits the buffer, whatever length is announced. -/
theorem tcpProbeAwaitPayload_eq (p : TcpProbe S) : tcpProbeAwaitPayload p =
    .ok { p with state := .recvPayload, bufNeed := p.responsePayloadLen.toNat + 16 } := by
  have short := p.responsePayloadLen.toNat_lt
  refine if_neg ?_
  simp only [tcpProbeRecvBufSize]
  omega

/-- What a turn of the loop does to a probe that reads the response. -/
def ChunkOpens (p : TcpProbe S) (headerLen : Nat) (phase : ChunkPhase) (dec : S.Dec) (plain : List UInt8) :
    Prop :=
  (∃ q, tcpProbeOpenChunk p = .ok q ∧ q.Receiving headerLen ∧ q.phase = phase ∧ q.tcpClient.2 = dec ∧
      q.input = p.input.drop (p.phase.size headerLen) ∧ q.opened = p.opened ++ plain) ∨
    tcpProbeStatusLen ≤ (p.opened ++ plain).length ∧ ∃ q, tcpProbeOpenChunk p = .error (.finished q
      (.status (tcpProbeStatusOk ((p.opened ++ plain).take tcpProbeStatusLen))))

/-- An opened header or length chunk is followed by its payload. -/
theorem ChunkOpens.awaitPayload (recv : p.Receiving headerLen) (enough : p.bufNeed ≤ p.bufLen)
    {opened : S.Dec × UInt16} (run : tcpProbeOpenChunk p = tcpProbeAwaitPayload (tcpProbeConsume
      { p with tcpClient := (p.tcpClient.1, opened.1), responsePayloadLen := opened.2 }
        (p.phase.size headerLen))) :
    ChunkOpens p headerLen (.payload opened.2) opened.1 [] := by
  rw [tcpProbeAwaitPayload_eq] at run
  refine Or.inl ⟨_, run, ⟨Or.inr (Or.inr rfl), rfl, recv.short, ?_⟩, rfl, rfl, ?_, ?_⟩
  · exact Nat.le_trans (Nat.sub_le ..) recv.room
  · exact tcpProbeConsume_input _ (recv.need ▸ enough)
  · exact (List.append_nil _).symm

/-- An opened payload goes to the status line, as far as that has room. -/
theorem ChunkOpens.payload (recv : p.Receiving headerLen) (enough : p.bufNeed ≤ p.bufLen)
    (state : p.state = .recvPayload) {opened : S.Dec × { plain : List UInt8 // plain.length ≤ p.bufNeed - 16 }}
    (opens : S.openPayload p.tcpClient.2 (readAt p.buf 0 p.bufNeed) (p.bufNeed - 16) = some opened) :
    ChunkOpens p headerLen .length opened.1 opened.2.1 := by
  obtain ⟨dec, plain, fits⟩ := opened
  have short := recv.short
  -- the bytes that the status line takes, and the line with them
  obtain ⟨k, copied⟩ : ∃ k, k = min (tcpProbeStatusLen - p.statusLen) plain.length := ⟨_, rfl⟩
  have stored : (plain.take k).length = k := List.length_take_of_le (by omega)
  have status : readAt (writeAt p.status p.statusLen (plain.take k)) 0 (p.statusLen + k) =
      p.opened ++ plain.take k := by
    have written : readAt (writeAt p.status (0 + p.statusLen) (plain.take k)) 0
        (p.statusLen + (plain.take k).length) = readAt p.status 0 p.statusLen ++ plain.take k :=
      readAt_writeAt_append
    rwa [stored, Nat.zero_add] at written
  have run : tcpProbeOpenChunk p =
      let q := tcpProbeConsume { p with
        tcpClient := (p.tcpClient.1, dec)
        status := writeAt p.status p.statusLen (plain.take k)
        statusLen := p.statusLen + k } p.bufNeed
      if p.statusLen + k ≥ tcpProbeStatusLen then
        .error (.finished q (.status (tcpProbeStatusOk
          (readAt (writeAt p.status p.statusLen (plain.take k)) 0 tcpProbeStatusLen))))
      else .ok { q with state := .recvLength, bufNeed := tcpProbeLengthLen } := by
    rw [tcpProbeOpenChunk, state]
    simp only [opens, ← copied]
    rfl
  have openedLength := p.opened_length
  by_cases full : p.statusLen + k ≥ tcpProbeStatusLen
  · have line : readAt (writeAt p.status p.statusLen (plain.take k)) 0 tcpProbeStatusLen =
        (p.opened ++ plain).take tcpProbeStatusLen := by
      have exact : tcpProbeStatusLen = p.statusLen + k := by omega
      rw [exact, status, ← openedLength, List.take_length_add_append]
    have total : tcpProbeStatusLen ≤ (p.opened ++ plain).length := by
      rw [List.length_append]
      omega
    rw [if_pos full, line] at run
    exact Or.inr ⟨total, _, run⟩
  · have all : plain.take k = plain := List.take_of_length_le (by omega)
    rw [if_neg full] at run
    refine Or.inl ⟨_, run, ⟨Or.inr (Or.inl rfl), rfl, Nat.lt_of_not_ge full, ?_⟩, rfl, rfl, ?_, ?_⟩
    · exact Nat.le_trans (Nat.sub_le ..) recv.room
    · rw [← recv.need]
      exact tcpProbeConsume_input _ enough
    · rw [all] at status ⊢
      exact status

theorem openChunk_payload {len : UInt16} {chunk : List UInt8} {cap : Nat}
    (size : cap = len.toNat + tcpSs2022TagLen - tcpSs2022TagLen) :
    openChunk S (.payload len) dec chunk =
      (S.openPayload dec chunk cap).map fun opened => (.length, opened.1, opened.2.1) := by
  subst size
  rfl

/-- One turn of the loop opens the chunk at the front of the input. -/
theorem tcpProbeOpenChunk_spec (recv : p.Receiving headerLen) (enough : p.bufNeed ≤ p.bufLen) :
    (openChunk S p.phase p.tcpClient.2 (p.input.take (p.phase.size headerLen)) = none ∧
      ∃ call, TcpProbeEnd.Unopened call ∧ tcpProbeOpenChunk p = .error (.finished p call)) ∨
    ∃ phase dec plain, openChunk S p.phase p.tcpClient.2 (p.input.take (p.phase.size headerLen)) =
      some (phase, dec, plain) ∧ ChunkOpens p headerLen phase dec plain := by
  have front : p.input.take (p.phase.size headerLen) = readAt p.buf 0 p.bufNeed := by
    rw [← recv.need]
    exact readAt_take enough
  rw [front]
  have need := recv.need
  rcases recv.state with state | state | state
  · have phase : p.phase = .responseHeader := by rw [TcpProbe.phase, state]
    rw [phase]
    cases opens : S.openResponseHeader p.tcpClient.2 (readAt p.buf 0 p.bufNeed) with
    | none =>
      refine Or.inl ⟨by rw [openChunk, opens]; rfl, .responseHeader, Or.inl rfl, ?_⟩
      rw [tcpProbeOpenChunk, state]
      simp only [opens]
    | some opened =>
      refine Or.inr ⟨_, _, _, by rw [openChunk, opens]; rfl, .awaitPayload recv enough ?_⟩
      rw [tcpProbeOpenChunk, state, ← need]
      simp only [opens]
  · have phase : p.phase = .length := by rw [TcpProbe.phase, state]
    have size : p.bufNeed = tcpProbeLengthLen := by rw [need, phase]; rfl
    rw [phase]
    cases opens : S.openLength p.tcpClient.2 (readAt p.buf 0 p.bufNeed) with
    | none =>
      refine Or.inl ⟨by rw [openChunk, opens]; rfl, .length, Or.inr (Or.inl rfl), ?_⟩
      rw [tcpProbeOpenChunk, state]
      simp only [← size, opens]
    | some opened =>
      refine Or.inr ⟨_, _, _, by rw [openChunk, opens]; rfl, .awaitPayload recv enough ?_⟩
      rw [tcpProbeOpenChunk, state, ← need]
      simp only [← size, opens]
  · have phase : p.phase = .payload p.responsePayloadLen := by rw [TcpProbe.phase, state]
    have size : p.bufNeed = p.responsePayloadLen.toNat + tcpSs2022TagLen := by rw [need, phase]; rfl
    have cap : p.bufNeed - 16 = p.responsePayloadLen.toNat + tcpSs2022TagLen - tcpSs2022TagLen := by
      rw [size]
      rfl
    rw [phase, openChunk_payload cap]
    cases opens : S.openPayload p.tcpClient.2 (readAt p.buf 0 p.bufNeed) (p.bufNeed - 16) with
    | none =>
      refine Or.inl ⟨rfl, .payload, Or.inr (Or.inr rfl), ?_⟩
      rw [tcpProbeOpenChunk, state]
      simp only [opens]
    | some opened => exact Or.inr ⟨_, _, _, rfl, .payload recv enough state opens⟩

end Tproxy
