import Tproxy.Tcp.DownFrame
import Tproxy.Tcp.ThreadClose

namespace Tproxy

variable {S : Ss2022} {cfg : TcpConfig} {w w₀ w' : TcpThread S} {order : List Nat} {p q : Nat}
  {b c : TcpBlock S} {on : TcpWatcher → Bool} {Q : Unit → TcpThread S → Prop}

section Phases

/-- A session that waits for the initial payload. -/
structure TcpWaiting (b : TcpBlock S) (on : TcpWatcher → Bool) (s : TcpSession S (TcpHandshake S)) :
    Prop where
  half : b.half = .handshake s
  idle : b.relayInAllocated = false
  fd : b.serverFd = none
  client : on .client = true → s.clientWatcher.cb = .onInitialPayloadRead
  server : on .server = false
  timer : on .timer = true → s.phaseTimer = some .onInitialPayloadTimeout

/-- A session that connects to its server, or sends the request to it. -/
structure TcpConnecting (b : TcpBlock S) (on : TcpWatcher → Bool) (s : TcpSession S (TcpHandshake S)) :
    Prop where
  half : b.half = .handshake s
  idle : b.relayInAllocated = false
  fd : b.serverFd.isSome = true
  client : on .client = false
  server : s.serverWatcher.cb = .onServerConnected ∨ s.serverWatcher.cb = .onServerWritable
  timer : on .timer = true → s.phaseTimer = some .onTimeout

structure TcpRelaying (b : TcpBlock S) (on : TcpWatcher → Bool) (s : TcpSession S TcpRelay) : Prop where
  half : b.half = .relay s
  fd : b.serverFd.isSome = true
  client : s.clientWatcher.cb = .relayOnEvent
  server : s.serverWatcher.cb = .relayOnEvent
  timer : on .timer = false

/-- A session that the event loop may call back for. -/
inductive TcpPhase (b : TcpBlock S) (on : TcpWatcher → Bool) : Prop
  | waiting (s : TcpSession S (TcpHandshake S)) : TcpWaiting b on s → TcpPhase b on
  | connecting (s : TcpSession S (TcpHandshake S)) : TcpConnecting b on s → TcpPhase b on
  | relaying (s : TcpSession S TcpRelay) : TcpRelaying b on s → TcpPhase b on

theorem TcpWaiting.phase {s : TcpSession S (TcpHandshake S)} (waiting : TcpWaiting b on s) : TcpPhase b on :=
  .waiting s waiting

theorem TcpConnecting.phase {s : TcpSession S (TcpHandshake S)} (connecting : TcpConnecting b on s) :
    TcpPhase b on := .connecting s connecting

theorem TcpRelaying.phase {s : TcpSession S TcpRelay} (relaying : TcpRelaying b on s) : TcpPhase b on :=
  .relaying s relaying

/-- The phase of a session does not depend on its place in the list. -/
theorem TcpPhase.relinked (phase : TcpPhase b on) (same : c.unlinked = b.unlinked) : TcpPhase c on := by
  have half : c.half = b.half := congrArg (·.half) same
  have allocated : c.relayInAllocated = b.relayInAllocated := congrArg (·.relayInAllocated) same
  have fd : c.serverFd = b.serverFd := congrArg (·.serverFd) same
  cases phase with
  | waiting s phase =>
    exact .waiting s { phase with
      half := half.trans phase.half, idle := allocated.trans phase.idle, fd := fd.trans phase.fd }
  | connecting s phase =>
    exact .connecting s { phase with
      half := half.trans phase.half, idle := allocated.trans phase.idle, fd := fd ▸ phase.fd }
  | relaying s phase => exact .relaying s { phase with half := half.trans phase.half, fd := fd ▸ phase.fd }

/-- How a handler of the session at `p` ends: the session is in some phase, or
it is gone. -/
def TcpHandled (cfg : TcpConfig) (w₀ : TcpThread S) (order : List Nat) (p : Nat) (w : TcpThread S) : Prop :=
  (∃ b on, TcpAt cfg w₀ none order p b on w ∧ TcpPhase b on) ∨ TcpGone cfg w₀ none order p w

end Phases

end Tproxy
