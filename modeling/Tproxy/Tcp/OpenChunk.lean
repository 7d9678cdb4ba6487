import Tproxy.Tcp.Stream

namespace Tproxy

variable {S : Ss2022}

/-- Opening one chunk: what the stream goes on with, the client after it, and
the plaintext. -/
def openChunk (S : Ss2022) : ChunkPhase → S.Dec → List UInt8 → Option (ChunkPhase × S.Dec × List UInt8)
  | .responseHeader, dec, chunk =>
    (S.openResponseHeader dec chunk).map fun opened => (.payload opened.2, opened.1, [])
  | .length, dec, chunk =>
    (S.openLength dec chunk).map fun opened => (.payload opened.2, opened.1, [])
  | .payload len, dec, chunk =>
    (S.openPayload dec chunk (len.toNat + tcpSs2022TagLen - tcpSs2022TagLen)).map fun opened =>
      (.length, opened.1, opened.2.1)

/-- A complete chunk of the stream does not open. -/
inductive BrokenStream (S : Ss2022) (headerLen : Nat) : ChunkPhase → S.Dec → List UInt8 → Prop
  | here {phase dec bytes} : phase.size headerLen ≤ bytes.length →
      openChunk S phase dec (bytes.take (phase.size headerLen)) = none →
      BrokenStream S headerLen phase dec bytes
  | later {phase dec bytes phase' dec' plain} : phase.size headerLen ≤ bytes.length →
      openChunk S phase dec (bytes.take (phase.size headerLen)) = some (phase', dec', plain) →
      BrokenStream S headerLen phase' dec' (bytes.drop (phase.size headerLen)) →
      BrokenStream S headerLen phase dec bytes

variable {headerLen : Nat} {phase phase' : ChunkPhase} {dec dec' : S.Dec} {bytes plain : List UInt8}

theorem openStream_chunk (enough : phase.size headerLen ≤ bytes.length)
    (opens : openChunk S phase dec (bytes.take (phase.size headerLen)) = some (phase', dec', plain)) :
    openStream S headerLen phase dec bytes =
      plain ++ openStream S headerLen phase' dec' (bytes.drop (phase.size headerLen)) := by
  cases phase with
  | responseHeader =>
    obtain ⟨opened, header, same⟩ := Option.map_eq_some_iff.mp opens
    cases same
    exact openStream_responseHeader enough header
  | length =>
    obtain ⟨opened, length, same⟩ := Option.map_eq_some_iff.mp opens
    cases same
    exact openStream_length enough length
  | payload len =>
    obtain ⟨opened, payload, same⟩ := Option.map_eq_some_iff.mp opens
    cases same
    exact openStream_payload enough payload

theorem openStream_broken (enough : phase.size headerLen ≤ bytes.length)
    (fails : openChunk S phase dec (bytes.take (phase.size headerLen)) = none) :
    openStream S headerLen phase dec bytes = [] := by
  cases phase with
  | responseHeader =>
    have failed := Option.map_eq_none_iff.mp fails
    simp only [ChunkPhase.size] at enough failed
    rw [openStream, if_neg (Nat.not_lt.mpr enough), failed]
  | length =>
    have failed := Option.map_eq_none_iff.mp fails
    simp only [ChunkPhase.size] at enough failed
    rw [openStream, if_neg (Nat.not_lt.mpr enough), failed]
  | payload len =>
    have failed := Option.map_eq_none_iff.mp fails
    simp only [ChunkPhase.size] at enough failed
    rw [openStream, if_neg (Nat.not_lt.mpr enough), failed]

theorem BrokenStream.chunk_iff (enough : phase.size headerLen ≤ bytes.length)
    (opens : openChunk S phase dec (bytes.take (phase.size headerLen)) = some (phase', dec', plain)) :
    BrokenStream S headerLen phase dec bytes ↔
      BrokenStream S headerLen phase' dec' (bytes.drop (phase.size headerLen)) := by
  refine ⟨fun broken => ?_, fun broken => .later enough opens broken⟩
  cases broken with
  | here _ fails =>
    rw [opens] at fails
    cases fails
  | later _ opened broken =>
    cases opens.symm.trans opened
    exact broken

theorem BrokenStream.incomplete (short : bytes.length < phase.size headerLen) :
    ¬ BrokenStream S headerLen phase dec bytes := by
  intro broken
  cases broken with
  | here enough => omega
  | later enough => omega

end Tproxy
