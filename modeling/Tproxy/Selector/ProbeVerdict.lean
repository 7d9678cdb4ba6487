import Tproxy.Selector.ProbeStream
import Tproxy.Tcp.Run

namespace Tproxy

variable {S : Ss2022}

/-- The probe reads the stream as the decoder `openStream` does: however the
stream goes on, it decodes to the status bytes so far and then to what the rest
of the input and the future bring, and a chunk of it fails when one of these does. -/
structure ProbeStream (S : Ss2022) (dec₀ : S.Dec) (headerLen : Nat) (arrived : List UInt8)
    (p : TcpProbe S) : Prop where
  receiving : p.Receiving headerLen
  stream : ∀ more, openStream S headerLen .responseHeader dec₀ (arrived ++ more) =
    p.opened ++ openStream S headerLen p.phase p.tcpClient.2 (p.input ++ more)
  broken : ∀ more, BrokenStream S headerLen .responseHeader dec₀ (arrived ++ more) ↔
    BrokenStream S headerLen p.phase p.tcpClient.2 (p.input ++ more)

/-- What a verdict says about the stream that has arrived, however it goes on. -/
inductive VerdictFits (S : Ss2022) (dec₀ : S.Dec) (headerLen : Nat) (arrived : List UInt8) :
    TcpProbeVerdict S → Prop
  | pending {p} : ProbeStream S dec₀ headerLen arrived p → p.bufLen < p.bufNeed →
      VerdictFits S dec₀ headerLen arrived (.pending p)
  | unopened {p call} : TcpProbeEnd.Unopened call →
      (∀ more, (openStream S headerLen .responseHeader dec₀ (arrived ++ more)).length < tcpProbeStatusLen ∧
        BrokenStream S headerLen .responseHeader dec₀ (arrived ++ more)) →
      VerdictFits S dec₀ headerLen arrived (.finished p call)
  | status {p} {line : List UInt8} : line.length = tcpProbeStatusLen →
      (∀ more, (openStream S headerLen .responseHeader dec₀ (arrived ++ more)).take tcpProbeStatusLen = line) →
      VerdictFits S dec₀ headerLen arrived (.finished p (.status (tcpProbeStatusOk line)))

/-- The reads of a probe: the bytes that arrived, whether the end of the stream
was read, and the verdict. Each `recv` is made by a probe that still waits. -/
inductive TcpProbeReads (start : TcpProbe S) : List UInt8 → Bool → TcpProbeVerdict S → Prop
  | start : TcpProbeReads start [] false (.pending start)
  | recv {arrived p} (segment : List UInt8) : TcpProbeReads start arrived false (.pending p) →
      segment ≠ [] → segment.length ≤ tcpProbeRecvBufSize - p.bufLen →
      TcpProbeReads start (arrived ++ segment) false (tcpProbeRecv p (.ok segment))
  | retry {arrived p err} : TcpProbeReads start arrived false (.pending p) →
      err = .eintr ∨ err = .eagain → TcpProbeReads start arrived false (tcpProbeRecv p (.error err))
  | eof {arrived p} : TcpProbeReads start arrived false (.pending p) →
      TcpProbeReads start arrived true (tcpProbeRecv p (.ok []))

/-- What the verdict of a probe must be, given the stream so far: it is open
while the stream shows neither a broken chunk nor twelve bytes, and otherwise
it is what these twelve bytes are in the whole stream. -/
structure TcpProbeJudged (S : Ss2022) (dec₀ : S.Dec) (headerLen : Nat) (arrived : List UInt8)
    (eof : Bool) (verdict : TcpProbeVerdict S) : Prop where
  undecided : (∃ q, verdict = .pending q) ↔ eof = false ∧
    (openStream S headerLen .responseHeader dec₀ arrived).length < tcpProbeStatusLen ∧
    ¬ BrokenStream S headerLen .responseHeader dec₀ arrived
  finished : ∀ q call, verdict = .finished q call → ∀ stream, arrived <+: stream →
    (eof = true → stream = arrived) → (call.errored = false ↔
      (openStream S headerLen .responseHeader dec₀ stream).take tcpProbeStatusLen ∈ tcpProbeStatusLines)
  reachable : ∀ q, verdict ≠ .finished q .bufferFull ∧ verdict ≠ .finished q .oversize
  noSocketError : ∀ q err, verdict ≠ .socketError q err

variable {p q : TcpProbe S} {headerLen : Nat} {dec₀ : S.Dec} {arrived : List UInt8} {eof : Bool}
  {verdict : TcpProbeVerdict S}

theorem tcpProbeStatusLines_length : ∀ line ∈ tcpProbeStatusLines, line.length = tcpProbeStatusLen := by
  decide

theorem ProbeStream.opened_lt (at_p : ProbeStream S dec₀ headerLen arrived p) :
    p.opened.length < tcpProbeStatusLen :=
  p.opened_length ▸ at_p.receiving.short

/-- The loop waits at an incomplete chunk, or finishes as the stream says. -/
theorem ProbeStream.openChunks {p : TcpProbe S} (at_p : ProbeStream S dec₀ headerLen arrived p) :
    VerdictFits S dec₀ headerLen arrived (tcpProbeOpenChunks p) := by
  rw [tcpProbeOpenChunks]
  by_cases loops : p.bufLen ≥ p.bufNeed
  · rw [dif_pos loops]
    have enough : p.phase.size headerLen ≤ p.input.length := by
      rw [p.input_length, ← at_p.receiving.need]
      exact loops
    have enoughMore (more : List UInt8) : p.phase.size headerLen ≤ (p.input ++ more).length := by
      rw [List.length_append]
      omega
    have front (more : List UInt8) : (p.input ++ more).take (p.phase.size headerLen) =
        p.input.take (p.phase.size headerLen) := List.take_append_of_le_length enough
    rcases tcpProbeOpenChunk_spec at_p.receiving loops with
      ⟨fails, call, unopened, run⟩ | ⟨phase, dec, plain, opens, after⟩
    · split
      · rename_i stopped
        cases run.symm.trans stopped
        refine .unopened unopened fun more => ?_
        have failsMore := fails
        rw [← front more] at failsMore
        rw [at_p.stream, openStream_broken (enoughMore more) failsMore, List.append_nil, at_p.broken]
        exact ⟨at_p.opened_lt, .here (enoughMore more) failsMore⟩
      · rename_i next
        cases run.symm.trans next
    · have opensMore (more : List UInt8) := openStream_chunk (enoughMore more) (front more ▸ opens)
      have rest (more : List UInt8) : (p.input ++ more).drop (p.phase.size headerLen) =
          p.input.drop (p.phase.size headerLen) ++ more := List.drop_append_of_le_length enough
      rcases after with ⟨q, run, receiving, rfl, rfl, input, opened⟩ | ⟨total, q, run⟩
      · split
        · rename_i stopped
          cases run.symm.trans stopped
        · rename_i next
          cases run.symm.trans next
          have at_q : ProbeStream S dec₀ headerLen arrived q := by
            refine ⟨receiving, fun more => ?_, fun more => ?_⟩
            · rw [at_p.stream, opensMore, rest, input, opened, List.append_assoc]
            · rw [at_p.broken, BrokenStream.chunk_iff (enoughMore more) (front more ▸ opens), rest, input]
          have less := tcpProbeOpenChunk_fuel loops run
          exact at_q.openChunks
      · split
        · rename_i stopped
          cases run.symm.trans stopped
          refine .status (List.length_take_of_le total) fun more => ?_
          rw [at_p.stream, opensMore, ← List.append_assoc, List.take_append_of_le_length total]
        · rename_i next
          cases run.symm.trans next
  · rw [dif_neg loops]
    exact .pending at_p (Nat.lt_of_not_ge loops)
termination_by p.fuel

/-- A probe that waits has opened everything that can be opened. -/
theorem ProbeStream.waiting (at_p : ProbeStream S dec₀ headerLen arrived p) (short : p.bufLen < p.bufNeed) :
    (openStream S headerLen .responseHeader dec₀ arrived).length < tcpProbeStatusLen ∧
      ¬ BrokenStream S headerLen .responseHeader dec₀ arrived := by
  have incomplete : p.input.length < p.phase.size headerLen := by
    rw [p.input_length, ← at_p.receiving.need]
    exact short
  have stream := at_p.stream []
  have broken := at_p.broken []
  rw [List.append_nil, List.append_nil] at stream broken
  rw [stream, openStream_incomplete (ChunkPhase.incomplete_iff.mpr incomplete), List.append_nil, broken]
  exact ⟨at_p.opened_lt, BrokenStream.incomplete incomplete⟩

theorem TcpProbe.Receiving.need_le (recv : p.Receiving headerLen) (fits : headerLen ≤ tcpProbeRecvBufSize) :
    p.bufNeed ≤ tcpProbeRecvBufSize := by
  rw [recv.need]
  cases p.phase with
  | responseHeader => exact fits
  | length => exact Nat.le_of_ble_eq_true rfl
  | payload len =>
    have short := len.toNat_lt
    simp only [ChunkPhase.size, tcpSs2022TagLen, tcpProbeRecvBufSize]
    omega

/-- A segment goes behind the input. -/
theorem ProbeStream.store (at_p : ProbeStream S dec₀ headerLen arrived p) {segment : List UInt8}
    (room : p.bufLen + segment.length ≤ tcpProbeRecvBufSize) :
    ProbeStream S dec₀ headerLen (arrived ++ segment)
      { p with buf := writeAt p.buf p.bufLen segment, bufLen := p.bufLen + segment.length } := by
  have input : readAt (writeAt p.buf p.bufLen segment) 0 (p.bufLen + segment.length) =
      p.input ++ segment := by
    have stored : readAt (writeAt p.buf (0 + p.bufLen) segment) 0 (p.bufLen + segment.length) =
        readAt p.buf 0 p.bufLen ++ segment := readAt_writeAt_append
    rwa [Nat.zero_add] at stored
  have receiving := at_p.receiving
  refine ⟨⟨receiving.state, receiving.need, receiving.short, room⟩, fun more => ?_, fun more => ?_⟩
  · rw [List.append_assoc, at_p.stream, ← List.append_assoc p.input, ← input]
    rfl
  · rw [List.append_assoc, at_p.broken, ← List.append_assoc p.input, ← input]
    rfl

/-- The probe that `tcp_probe_on_send` turns to the response. -/
theorem ProbeStream.start {p₀ : TcpProbe S} (ready : tcpProbeAwaitResponse p = some p₀) :
    ProbeStream S p.tcpClient.2 (S.responseHeaderSize p.tcpClient.2) [] p₀ ∧ p₀.bufLen < p₀.bufNeed ∧
      S.responseHeaderSize p.tcpClient.2 ≤ tcpProbeRecvBufSize := by
  simp only [tcpProbeAwaitResponse] at ready
  split at ready
  · cases ready
  · rename_i fits
    cases ready
    rw [not_or] at fits
    refine ⟨⟨⟨Or.inl rfl, rfl, Nat.zero_lt_succ _, Nat.zero_le _⟩, fun more => rfl, fun more => Iff.rfl⟩, ?_, ?_⟩
    · exact Nat.pos_of_ne_zero fits.1
    · exact Nat.le_of_not_gt fits.2

/-- A read fits the stream: a segment is stored and opened, and the end of the
stream finishes a probe that waits. -/
theorem TcpProbeReads.fits {p₀ : TcpProbe S} (ready : tcpProbeAwaitResponse p = some p₀)
    (reads : TcpProbeReads p₀ arrived eof verdict) :
    (eof = false → VerdictFits S p.tcpClient.2 (S.responseHeaderSize p.tcpClient.2) arrived verdict) ∧
      (eof = true → ∃ q, ProbeStream S p.tcpClient.2 (S.responseHeaderSize p.tcpClient.2) arrived q ∧
        q.bufLen < q.bufNeed ∧ verdict = .finished q .eof) := by
  obtain ⟨atStart, short, fits⟩ := ProbeStream.start ready
  induction reads with
  | start => exact ⟨fun _ => .pending atStart short, fun eof => absurd eof Bool.false_ne_true⟩
  | @recv arrived q segment _ some within ih =>
    cases ih.1 rfl with
    | pending at_q less =>
      have need := at_q.receiving.need_le fits
      refine ⟨fun _ => ?_, fun eof => absurd eof Bool.false_ne_true⟩
      have positive := List.length_pos_iff.mpr some
      rw [tcpProbeRecv, if_neg (by omega)]
      simp only [List.take_of_length_le within]
      rw [if_neg (by omega)]
      exact (at_q.store (by omega)).openChunks
  | @retry arrived q err _ again ih =>
    cases ih.1 rfl with
    | pending at_q less =>
      have need := at_q.receiving.need_le fits
      refine ⟨fun _ => ?_, fun eof => absurd eof Bool.false_ne_true⟩
      unfold tcpProbeRecv
      rw [if_neg (by omega)]
      rcases again with rfl | rfl <;> exact .pending at_q less
  | @eof arrived q _ ih =>
    cases ih.1 rfl with
    | pending at_q less =>
      have need := at_q.receiving.need_le fits
      refine ⟨fun more => absurd more.symm Bool.false_ne_true, fun _ => ⟨q, at_q, less, ?_⟩⟩
      rw [tcpProbeRecv, if_neg (by omega)]
      simp only [List.take_nil, List.length_nil, if_true]

/-- Twelve bytes are twelve bytes of a status line only if there are so many. -/
theorem not_status_of_short {bytes : List UInt8} (short : bytes.length < tcpProbeStatusLen) :
    bytes.take tcpProbeStatusLen ∉ tcpProbeStatusLines := by
  intro member
  have length := tcpProbeStatusLines_length _ member
  rw [List.length_take] at length
  omega

theorem TcpProbeReads.judged {p₀ : TcpProbe S} (ready : tcpProbeAwaitResponse p = some p₀)
    (reads : TcpProbeReads p₀ arrived eof verdict) :
    TcpProbeJudged S p.tcpClient.2 (S.responseHeaderSize p.tcpClient.2) arrived eof verdict := by
  obtain ⟨going, ended⟩ := reads.fits ready
  cases eof with
  | true =>
    obtain ⟨q, at_q, less, rfl⟩ := ended rfl
    obtain ⟨short, -⟩ := at_q.waiting less
    refine ⟨⟨fun ⟨_, waits⟩ => (by cases waits), fun ⟨more, _⟩ => (by cases more)⟩, ?_,
      fun _ => ⟨fun full => (by cases full), fun large => (by cases large)⟩, fun _ _ failed => by cases failed⟩
    intro _ _ same stream _ whole
    cases same
    rw [whole rfl]
    exact ⟨fun ok => (by cases ok), fun line => absurd line (not_status_of_short short)⟩
  | false =>
    cases going rfl with
    | pending at_q less =>
      have waits := at_q.waiting less
      exact ⟨⟨fun _ => ⟨rfl, waits⟩, fun _ => ⟨_, rfl⟩⟩, fun _ _ same => (by cases same),
        fun _ => ⟨fun full => (by cases full), fun large => (by cases large)⟩,
        fun _ _ failed => by cases failed⟩
    | @unopened q call unopened broken =>
      have now := (broken []).2
      rw [List.append_nil] at now
      refine ⟨⟨fun ⟨_, waits⟩ => (by cases waits), fun ⟨_, _, whole⟩ => absurd now whole⟩, ?_, ?_,
        fun _ _ failed => by cases failed⟩
      · rintro _ _ same _ ⟨more, rfl⟩ _
        cases same
        have errored : call.errored = true := by
          rcases unopened with rfl | rfl | rfl <;> rfl
        rw [errored]
        exact ⟨fun ok => (by cases ok), fun line => absurd line (not_status_of_short (broken more).1)⟩
      · intro _
        rcases unopened with rfl | rfl | rfl <;> simp
    | @status q line length decided =>
      refine ⟨⟨fun ⟨_, waits⟩ => (by cases waits), fun ⟨_, short, _⟩ => ?_⟩, ?_,
        fun _ => ⟨fun full => (by cases full), fun large => (by cases large)⟩,
        fun _ _ failed => by cases failed⟩
      · have bytes := decided []
        rw [List.append_nil] at bytes
        rw [← bytes, List.length_take] at length
        omega
      · rintro _ _ same _ ⟨more, rfl⟩ _
        cases same
        rw [decided more, TcpProbeEnd.errored, tcpProbeStatusOk]
        simp only [Bool.not_eq_false', decide_eq_true_eq]

/-- However the stream of the server is split by `recv`, the probe comes to the
verdict that its plaintext calls for; and this is the plaintext that a relay
with the same client delivers. -/
theorem tcpProbe_verdict {p₀ : TcpProbe S} (ready : tcpProbeAwaitResponse p = some p₀)
    (reads : TcpProbeReads p₀ arrived eof verdict) :
    TcpProbeJudged S p.tcpClient.2 (S.responseHeaderSize p.tcpClient.2) arrived eof verdict ∧
      ∀ (n k : Nat) (tfo : Bool) (target : S.Addr) (st : TcpState S) (stream : List UInt8), n ≤ 8 →
        TcpReach n tfo target st → k + 1 = st.net.opened →
        (st.net.socket k).ssClient.2 = p.tcpClient.2 → st.net.arrived <+: stream →
        tcpProbeStatusLen ≤ st.net.delivered.length → st.net.delivered.take tcpProbeStatusLen =
          (openStream S (S.responseHeaderSize p.tcpClient.2) .responseHeader p.tcpClient.2 stream).take
            tcpProbeStatusLen := by
  refine ⟨reads.judged ready, ?_⟩
  rintro n k tfo target st _ small reach newest client ⟨more, rfl⟩ enough
  obtain ⟨_, down⟩ := (reach.inv small).outside.newest k newest
  obtain ⟨rest, whole⟩ := down.front more
  rw [client] at whole
  rw [← whole, List.take_append_of_le_length enough]

/-- A probe whose request is sent. -/
def sentProbe : TcpProbe plainSs2022 :=
  ⟨((), ()), 0, 0, [], 0, 0, 0, 0, true, .onSend, true, 0, some 3, .sending, 0, fun _ => 0, fun _ => 0⟩

/-- A response header that announces twelve bytes, and a chunk with them. -/
def noContentResponse : List UInt8 :=
  12 :: ([72, 84, 84, 80, 47, 49, 46, 49, 32, 50, 48, 52] ++ List.replicate 16 0)

theorem noContentResponse_plain : openStream plainSs2022 1 .responseHeader () noContentResponse =
    [72, 84, 84, 80, 47, 49, 46, 49, 32, 50, 48, 52] := by
  have header : openChunk plainSs2022 .responseHeader () (noContentResponse.take 1) =
      some (.payload 12, (), []) := rfl
  have payload : openChunk plainSs2022 (.payload 12) () ((noContentResponse.drop 1).take 28) =
      some (.length, (), [72, 84, 84, 80, 47, 49, 46, 49, 32, 50, 48, 52]) := rfl
  calc openStream plainSs2022 1 .responseHeader () noContentResponse
    _ = openStream plainSs2022 1 (.payload 12) () (noContentResponse.drop 1) :=
      openStream_chunk (by decide) header
    _ = [72, 84, 84, 80, 47, 49, 46, 49, 32, 50, 48, 52] ++
          openStream plainSs2022 1 .length () ((noContentResponse.drop 1).drop 28) :=
      openStream_chunk (by decide) payload
    _ = [72, 84, 84, 80, 47, 49, 46, 49, 32, 50, 48, 52] ++ [] :=
      congrArg ([72, 84, 84, 80, 47, 49, 46, 49, 32, 50, 48, 52] ++ ·) (openStream_nil Nat.one_pos)

/-- The same probe when it waits for the response. -/
def waitingProbe : TcpProbe plainSs2022 :=
  { sentProbe with ioCallback := .onRecv, state := .recvRespHdr, bufNeed := 1 }

theorem tcpProbe_verdict_noContent : ∃ q call,
    tcpProbeRecv waitingProbe (.ok noContentResponse) = .finished q call ∧ call.errored = false := by
  have ready : tcpProbeAwaitResponse sentProbe = some waitingProbe := rfl
  have reads : TcpProbeReads waitingProbe ([] ++ noContentResponse) false
      (tcpProbeRecv waitingProbe (.ok noContentResponse)) := .recv _ .start (by decide) (by decide)
  obtain ⟨⟨undecided, finished, _, noSocketError⟩, _⟩ := tcpProbe_verdict ready reads
  have plain : openStream plainSs2022 (plainSs2022.responseHeaderSize sentProbe.tcpClient.2) .responseHeader
      sentProbe.tcpClient.2 ([] ++ noContentResponse) = _ := noContentResponse_plain
  cases verdict : tcpProbeRecv waitingProbe (.ok noContentResponse) with
  | pending q =>
    have short := (undecided.mp ⟨q, verdict⟩).2.1
    rw [plain] at short
    exact absurd short (by decide)
  | finished q call =>
    refine ⟨q, call, rfl, (finished q call verdict _ (List.prefix_refl _) fun _ => rfl).mpr ?_⟩
    rw [plain]
    decide
  | socketError q err => exact absurd verdict (noSocketError q err)

end Tproxy
