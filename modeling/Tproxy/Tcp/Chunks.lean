import Tproxy.Lib.ByteBuffer
import Tproxy.Tcp.Session

namespace Tproxy

variable {S : Ss2022}

/-- `tcp_buf_consume`: the new head and length. -/
def tcpBufConsume (head len n : Nat) : Nat × Nat :=
  if n ≥ len then (0, 0) else (head + n, len - n)

/-- The response header part of `tcp_relay_process_server_data`; `none` when
more input is needed, `error` when the session was closed. -/
def tcpRelayOpenResponseHeader (s : TcpSession S TcpRelay) :
    Except (TcpState S) (Option (TcpSession S TcpRelay)) :=
  let r := s.union
  if r.responseHeaderDone then .ok (some s)
  else if r.serverToClientInLen < r.responseHeaderLen then .ok none
  else
    match S.openResponseHeader s.ssClient.2
        (readAt r.serverToClientIn r.serverToClientInHead r.responseHeaderLen) with
    | none => .error (tcpSessionClose s true)
    | some (dec, len) =>
      let (head, inLen) :=
        tcpBufConsume r.serverToClientInHead r.serverToClientInLen r.responseHeaderLen
      .ok (some { s with
        ssClient := (s.ssClient.1, dec)
        net := { s.net with calls := .success s.serverIdx s.selectorAttemptEpoch :: s.net.calls }
        union := { r with
          responsePayloadLen := len
          serverToClientInHead := head
          serverToClientInLen := inLen
          responseHeaderDone := true
          serverToClientNeedLen := false } })

/-- The length chunk part of `tcp_relay_process_server_data`. -/
def tcpRelayOpenLength (s : TcpSession S TcpRelay) :
    Except (TcpState S) (Option (TcpSession S TcpRelay)) :=
  let r := s.union
  if ¬r.serverToClientNeedLen then .ok (some s)
  else if r.serverToClientInLen < ss2022LengthChunkLen then .ok none
  else
    match S.openLength s.ssClient.2
        (readAt r.serverToClientIn r.serverToClientInHead ss2022LengthChunkLen) with
    | none => .error (tcpSessionClose s true)
    | some (dec, len) =>
      let (head, inLen) :=
        tcpBufConsume r.serverToClientInHead r.serverToClientInLen ss2022LengthChunkLen
      .ok (some { s with
        ssClient := (s.ssClient.1, dec)
        union := { r with
          responsePayloadLen := len
          serverToClientInHead := head
          serverToClientInLen := inLen
          serverToClientNeedLen := false } })

/-- The payload chunk part of `tcp_relay_process_server_data`, which opens
the chunk in place. -/
def tcpRelayOpenPayload (s : TcpSession S TcpRelay) :
    Except (TcpState S) (Option (TcpSession S TcpRelay)) :=
  let r := s.union
  let need := r.responsePayloadLen.toNat + tcpSs2022TagLen
  if r.serverToClientInLen < need then .ok none
  else
    match S.openPayload s.ssClient.2 (readAt r.serverToClientIn r.serverToClientInHead need)
        (need - tcpSs2022TagLen) with
    | none => .error (tcpSessionClose s true)
    | some (dec, ⟨plain, _⟩) =>
      let (head, inLen) :=
        if plain.length = 0 then tcpBufConsume r.serverToClientInHead r.serverToClientInLen need
        else (r.serverToClientInHead, r.serverToClientInLen)
      .ok (some { s with
        ssClient := (s.ssClient.1, dec)
        union := { r with
          serverToClientIn := writeAt r.serverToClientIn r.serverToClientInHead plain
          serverToClientInHead := head
          serverToClientInLen := inLen
          serverToClientInConsume := if plain.length = 0 then 0 else need
          serverToClientOutOff := 0
          serverToClientOutLen := plain.length
          serverToClientNeedLen := true } })

/-- One pass of the loop of `tcp_relay_process_server_data`: the session
after it, and whether the loop goes on. -/
def tcpRelayProcessOnce (s : TcpSession S TcpRelay) :
    Except (TcpState S) (TcpSession S TcpRelay × Bool) :=
  match tcpRelayOpenResponseHeader s with
  | .error st => .error st
  | .ok none => .ok (s, false)
  | .ok (some s) =>
    match tcpRelayOpenLength s with
    | .error st => .error st
    | .ok none => .ok (s, false)
    | .ok (some s) =>
      match tcpRelayOpenPayload s with
      | .error st => .error st
      | .ok none => .ok (s, false)
      | .ok (some s) => .ok (s, true)

theorem tcpBufConsume_len (head len n : Nat) : (tcpBufConsume head len n).2 = len - n := by
  unfold tcpBufConsume
  split
  · simp only
    omega
  · rfl

/-- What still keeps the processing loop going: it ends at pending output,
and each chunk without output takes input away. -/
def TcpRelay.pendingInput (r : TcpRelay) : Nat :=
  if r.serverToClientOutLen = 0 then r.serverToClientInLen + 1 else 0

theorem tcpRelayOpenResponseHeader_inLen {s t : TcpSession S TcpRelay}
    (run : tcpRelayOpenResponseHeader s = .ok (some t)) :
    t.union.serverToClientInLen ≤ s.union.serverToClientInLen := by
  simp only [tcpRelayOpenResponseHeader] at run
  split at run
  · cases run; exact Nat.le_refl _
  split at run
  · cases run
  split at run
  · cases run
  · cases run
    simp only [tcpBufConsume_len, Nat.sub_le]

theorem tcpRelayOpenLength_inLen {s t : TcpSession S TcpRelay}
    (run : tcpRelayOpenLength s = .ok (some t)) :
    t.union.serverToClientInLen ≤ s.union.serverToClientInLen := by
  simp only [tcpRelayOpenLength] at run
  split at run
  · cases run; exact Nat.le_refl _
  split at run
  · cases run
  split at run
  · cases run
  · cases run
    simp only [tcpBufConsume_len, Nat.sub_le]

theorem tcpRelayOpenPayload_pending {s t : TcpSession S TcpRelay}
    (run : tcpRelayOpenPayload s = .ok (some t)) :
    t.union.pendingInput < s.union.serverToClientInLen + 1 := by
  simp only [tcpRelayOpenPayload] at run
  split at run
  · cases run
  rename_i enough
  split at run
  · cases run
  · cases run
    simp only [TcpRelay.pendingInput, tcpSs2022TagLen] at enough ⊢
    split
    · rename_i empty
      simp only [tcpBufConsume_len]
      omega
    · omega

theorem tcpRelayProcessOnce_pending {s t : TcpSession S TcpRelay}
    (looping : s.union.serverToClientOutLen = 0) (run : tcpRelayProcessOnce s = .ok (t, true)) :
    t.union.pendingInput < s.union.pendingInput := by
  unfold tcpRelayProcessOnce at run
  split at run
  · cases run
  · cases run
  rename_i s₁ header
  split at run
  · cases run
  · cases run
  rename_i s₂ length
  split at run
  · cases run
  · cases run
  rename_i s₃ payload
  cases run
  have first := tcpRelayOpenResponseHeader_inLen header
  have second := tcpRelayOpenLength_inLen length
  have third := tcpRelayOpenPayload_pending payload
  simp only [TcpRelay.pendingInput, looping, if_true] at third ⊢
  omega

/-- `tcp_relay_process_server_data`: `error` when the session was closed. -/
def tcpRelayProcessServerData (s : TcpSession S TcpRelay) :
    Except (TcpState S) (TcpSession S TcpRelay) :=
  if _ : s.union.serverToClientOutLen = 0 then
    match _ : tcpRelayProcessOnce s with
    | .error st => .error st
    | .ok (t, false) => .ok t
    | .ok (t, true) => tcpRelayProcessServerData t
  else .ok s
termination_by s.union.pendingInput
decreasing_by exact tcpRelayProcessOnce_pending ‹_› ‹_›

end Tproxy
