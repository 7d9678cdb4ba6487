import Tproxy.Tcp.Session

namespace Tproxy

variable (S : Ss2022)

/-- The client as the sender of a stream: the chunks that seal the given
reads one after the other, up to the first failure. -/
def sealStream : S.Enc → List (List UInt8) → List UInt8
  | _, [] => []
  | enc, plain :: rest =>
    match S.sealPayload enc plain with
    | none => []
    | some (enc, cipher) => cipher ++ sealStream enc rest

/-- The sealing state after the given reads. -/
def sealState : S.Enc → List (List UInt8) → Option S.Enc
  | enc, [] => some enc
  | enc, plain :: rest =>
    match S.sealPayload enc plain with
    | none => none
    | some (enc, _) => sealState enc rest

/-- What a server stream goes on with. -/
inductive ChunkPhase
  | responseHeader
  | length
  | payload (len : UInt16)

/-- The concatenated plaintexts of the complete chunks at the front of a
server stream, up to the first chunk that does not open. -/
def openStream (headerLen : Nat) : ChunkPhase → S.Dec → List UInt8 → List UInt8
  | .responseHeader, dec, bytes =>
    if bytes.length < headerLen then []
    else
      match S.openResponseHeader dec (bytes.take headerLen) with
      | none => []
      | some (dec, len) => openStream headerLen (.payload len) dec (bytes.drop headerLen)
  | .length, dec, bytes =>
    if bytes.length < ss2022LengthChunkLen then []
    else
      match S.openLength dec (bytes.take ss2022LengthChunkLen) with
      | none => []
      | some (dec, len) => openStream headerLen (.payload len) dec (bytes.drop ss2022LengthChunkLen)
  | .payload len, dec, bytes =>
    if bytes.length < len.toNat + tcpSs2022TagLen then []
    else
      match S.openPayload dec (bytes.take (len.toNat + tcpSs2022TagLen))
        (len.toNat + tcpSs2022TagLen - tcpSs2022TagLen) with
      | none => []
      | some (dec, plain) =>
        plain ++ openStream headerLen .length dec (bytes.drop (len.toNat + tcpSs2022TagLen))
termination_by phase _ bytes => (bytes.length, match phase with | .responseHeader => 1 | _ => 0)
decreasing_by
  · simp only [List.length_drop, Prod.lex_def]
    omega
  · simp only [List.length_drop, Prod.lex_def, ss2022LengthChunkLen] at *
    omega
  · simp only [List.length_drop, Prod.lex_def, tcpSs2022TagLen] at *
    omega

/-- The stream goes on with complete chunks only, all of which open, and ends
where a length chunk would begin. -/
inductive CompleteStream (headerLen : Nat) : ChunkPhase → S.Dec → List UInt8 → Prop
  | done (dec : S.Dec) : CompleteStream headerLen .length dec []
  | responseHeader {dec dec' : S.Dec} {len : UInt16} {header rest : List UInt8} :
      header.length = headerLen → S.openResponseHeader dec header = some (dec', len) →
      CompleteStream headerLen (.payload len) dec' rest →
      CompleteStream headerLen .responseHeader dec (header ++ rest)
  | length {dec dec' : S.Dec} {len : UInt16} {chunk rest : List UInt8} :
      chunk.length = ss2022LengthChunkLen → S.openLength dec chunk = some (dec', len) →
      CompleteStream headerLen (.payload len) dec' rest →
      CompleteStream headerLen .length dec (chunk ++ rest)
  | payload {dec dec' : S.Dec} {len : UInt16} {chunk rest plain : List UInt8}
      {fits : plain.length ≤ len.toNat + tcpSs2022TagLen - tcpSs2022TagLen} :
      chunk.length = len.toNat + tcpSs2022TagLen →
      S.openPayload dec chunk (len.toNat + tcpSs2022TagLen - tcpSs2022TagLen) =
        some (dec', ⟨plain, fits⟩) →
      CompleteStream headerLen .length dec' rest →
      CompleteStream headerLen (.payload len) dec (chunk ++ rest)

variable {S}

theorem sealStream_append {enc enc' : S.Enc} {reads : List (List UInt8)}
    (state : sealState S enc reads = some enc') (later : List (List UInt8)) :
    sealStream S enc (reads ++ later) = sealStream S enc reads ++ sealStream S enc' later := by
  induction reads generalizing enc with
  | nil =>
    cases state
    rfl
  | cons plain rest ih =>
    simp only [sealState] at state
    simp only [List.cons_append, sealStream]
    cases sealed : S.sealPayload enc plain with
    | none =>
      rw [sealed] at state
      cases state
    | some next =>
      rw [sealed] at state
      simp only [ih state, List.append_assoc]

theorem sealState_append {enc enc' : S.Enc} {reads : List (List UInt8)}
    (state : sealState S enc reads = some enc') (later : List (List UInt8)) :
    sealState S enc (reads ++ later) = sealState S enc' later := by
  induction reads generalizing enc with
  | nil =>
    cases state
    rfl
  | cons plain rest ih =>
    simp only [List.cons_append, sealState] at state ⊢
    cases sealed : S.sealPayload enc plain with
    | none =>
      rw [sealed] at state
      cases state
    | some next =>
      rw [sealed] at state
      exact ih state

section OpenStream
variable {headerLen : Nat} {phase : ChunkPhase} {dec dec' : S.Dec} {bytes : List UInt8}
  {len : UInt16}

/-- The front of the stream does not hold the next chunk completely. -/
def ChunkPhase.Incomplete (headerLen : Nat) (bytes : List UInt8) : ChunkPhase → Prop
  | .responseHeader => bytes.length < headerLen
  | .length => bytes.length < ss2022LengthChunkLen
  | .payload len => bytes.length < len.toNat + tcpSs2022TagLen

/-- How many bytes the next chunk needs. -/
def ChunkPhase.size (headerLen : Nat) : ChunkPhase → Nat
  | .responseHeader => headerLen
  | .length => ss2022LengthChunkLen
  | .payload len => len.toNat + tcpSs2022TagLen

theorem ChunkPhase.incomplete_iff :
    phase.Incomplete headerLen bytes ↔ bytes.length < phase.size headerLen := by
  cases phase <;> rfl

theorem openStream_incomplete (short : phase.Incomplete headerLen bytes) :
    openStream S headerLen phase dec bytes = [] := by
  cases phase with
  | responseHeader => rw [openStream]; exact if_pos short
  | length => rw [openStream]; exact if_pos short
  | payload len => rw [openStream]; exact if_pos short

/-- Nothing opens without input. -/
theorem openStream_nil (positive : 0 < headerLen) : openStream S headerLen phase dec [] = [] := by
  refine openStream_incomplete ?_
  cases phase with
  | responseHeader => exact positive
  | length => exact Nat.zero_lt_succ _
  | payload len => exact Nat.succ_pos _

theorem openStream_responseHeader (enough : headerLen ≤ bytes.length)
    (opens : S.openResponseHeader dec (bytes.take headerLen) = some (dec', len)) :
    openStream S headerLen .responseHeader dec bytes =
      openStream S headerLen (.payload len) dec' (bytes.drop headerLen) := by
  rw [openStream, if_neg (Nat.not_lt.mpr enough), opens]

theorem openStream_length (enough : ss2022LengthChunkLen ≤ bytes.length)
    (opens : S.openLength dec (bytes.take ss2022LengthChunkLen) = some (dec', len)) :
    openStream S headerLen .length dec bytes =
      openStream S headerLen (.payload len) dec' (bytes.drop ss2022LengthChunkLen) := by
  rw [openStream, if_neg (Nat.not_lt.mpr enough), opens]

theorem openStream_payload {plain : List UInt8}
    {fits : plain.length ≤ len.toNat + tcpSs2022TagLen - tcpSs2022TagLen}
    (enough : len.toNat + tcpSs2022TagLen ≤ bytes.length)
    (opens : S.openPayload dec (bytes.take (len.toNat + tcpSs2022TagLen))
      (len.toNat + tcpSs2022TagLen - tcpSs2022TagLen) = some (dec', ⟨plain, fits⟩)) :
    openStream S headerLen (.payload len) dec bytes = plain ++
      openStream S headerLen .length dec' (bytes.drop (len.toNat + tcpSs2022TagLen)) := by
  conv => lhs; rw [openStream, if_neg (Nat.not_lt.mpr enough), opens]

/-- An incomplete chunk at the front completes the stream only where nothing
is needed. -/
theorem completeStream_incomplete (short : phase.Incomplete headerLen bytes) :
    CompleteStream S headerLen phase dec bytes ↔ phase = .length ∧ bytes = [] := by
  refine ⟨fun complete => ?_, fun ⟨isLength, empty⟩ => ?_⟩
  · cases complete with
    | done => exact ⟨rfl, rfl⟩
    | responseHeader long =>
      simp only [ChunkPhase.Incomplete, List.length_append] at short
      omega
    | length long =>
      simp only [ChunkPhase.Incomplete, List.length_append] at short
      omega
    | payload long =>
      simp only [ChunkPhase.Incomplete, List.length_append] at short
      omega
  · rw [isLength, empty]
    exact .done dec

theorem completeStream_responseHeader (enough : headerLen ≤ bytes.length)
    (opens : S.openResponseHeader dec (bytes.take headerLen) = some (dec', len)) :
    CompleteStream S headerLen .responseHeader dec bytes ↔
      CompleteStream S headerLen (.payload len) dec' (bytes.drop headerLen) := by
  refine ⟨fun complete => ?_, fun complete => ?_⟩
  · cases complete with
    | responseHeader long opened rest =>
      rw [List.take_left' long] at opens
      cases opened.symm.trans opens
      rwa [List.drop_left' long]
  · rw [← List.take_append_drop headerLen bytes]
    exact .responseHeader (List.length_take_of_le enough) opens complete

theorem completeStream_length (enough : ss2022LengthChunkLen ≤ bytes.length)
    (opens : S.openLength dec (bytes.take ss2022LengthChunkLen) = some (dec', len)) :
    CompleteStream S headerLen .length dec bytes ↔
      CompleteStream S headerLen (.payload len) dec' (bytes.drop ss2022LengthChunkLen) := by
  refine ⟨fun complete => ?_, fun complete => ?_⟩
  · cases complete with
    | done => cases enough
    | length long opened rest =>
      rw [List.take_left' long] at opens
      cases opened.symm.trans opens
      rwa [List.drop_left' long]
  · rw [← List.take_append_drop ss2022LengthChunkLen bytes]
    exact .length (List.length_take_of_le enough) opens complete

theorem completeStream_payload {plain : List UInt8}
    {fits : plain.length ≤ len.toNat + tcpSs2022TagLen - tcpSs2022TagLen}
    (enough : len.toNat + tcpSs2022TagLen ≤ bytes.length)
    (opens : S.openPayload dec (bytes.take (len.toNat + tcpSs2022TagLen))
      (len.toNat + tcpSs2022TagLen - tcpSs2022TagLen) = some (dec', ⟨plain, fits⟩)) :
    CompleteStream S headerLen (.payload len) dec bytes ↔
      CompleteStream S headerLen .length dec' (bytes.drop (len.toNat + tcpSs2022TagLen)) := by
  refine ⟨fun complete => ?_, fun complete => ?_⟩
  · cases complete with
    | payload long opened rest =>
      rw [List.take_left' long] at opens
      cases opened.symm.trans opens
      rwa [List.drop_left' long]
  · rw [← List.take_append_drop (len.toNat + tcpSs2022TagLen) bytes]
    exact .payload (List.length_take_of_le enough) opens complete

end OpenStream

end Tproxy
