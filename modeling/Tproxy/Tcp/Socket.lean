import Mathlib.Logic.Function.Basic

namespace Tproxy

/-- The error numbers that the proxy tells apart. `EWOULDBLOCK` is `EAGAIN`
and `ENOTSUP` is `EOPNOTSUPP`, as on Linux. -/
inductive Errno
  | eintr | eagain | einprogress
  | enomem | enobufs | emfile | enfile | eacces | eperm | eafnosupport | eprotonosupport
  | eaddrnotavail | einval | enoprotoopt | eopnotsupp
  | other (code : Nat)
deriving DecidableEq

def socketErrorIsLocal : Errno → Bool
  | .enomem | .enobufs | .emfile | .enfile | .eacces | .eperm | .eafnosupport
  | .eprotonosupport | .eaddrnotavail | .einval => true
  | _ => false

def shouldFallbackFromTfo : Errno → Bool
  | .einval | .enoprotoopt | .eopnotsupp | .eprotonosupport => true
  | _ => false

/-- The answers to a call that is repeated on `EINTR`, up to the first other
one. When they run out the call has not finished: `otherwise`. -/
def uninterrupted {α : Type} (otherwise : Errno) : List (Except Errno α) → Except Errno α
  | [] => .error otherwise
  | .error .eintr :: rest => uninterrupted otherwise rest
  | answer :: _ => answer

/-- `tcp_connect_result_t`, with the `errno` of a failure. -/
inductive TcpConnectResult
  | connected
  | inProgress
  | failed (err : Errno)

def tcpPlainConnect : Except Errno Unit → TcpConnectResult
  | .ok () => .connected
  | .error .einprogress => .inProgress
  | .error err => .failed err

/-- `tcp_connect`: its result and `tfo_nsend`, where `none` is -1. A `sendto`
queues exactly the bytes it counts, and none when it answers `EINPROGRESS`. -/
def tcpConnect (tfoData : List UInt8) (sendto : List (Except Errno Nat))
    (connect : Except Errno Unit) : TcpConnectResult × Option Nat :=
  if tfoData ≠ [] then
    match uninterrupted .einprogress sendto with
    | .ok n => (.inProgress, some (min n tfoData.length))
    | .error .einprogress => (.inProgress, none)
    | .error err =>
      if shouldFallbackFromTfo err then (tcpPlainConnect connect, none) else (.failed err, none)
  else (tcpPlainConnect connect, none)

def tcpSsPlainBufsiz : Nat := 16384

/-- `TCP_SS_CIPHER_BUFSIZ`: a payload with a length field and two tags. -/
def tcpSsCipherBufsiz : Nat := tcpSsPlainBufsiz + 2 + 16 + 16

/-- The shadowsocks 2022 client library as deterministic stateful functions.
One direction seals with an `Enc`, the other opens with a `Dec`. -/
structure Ss2022 where
  Addr : Type
  Enc : Type
  Dec : Type
  /-- `SS2022_TCP_PAYLOAD_CHUNK_PREFIX_LEN`: a payload that is sealed in place starts there. -/
  payloadChunkPrefixLen : Nat
  payload_fits : payloadChunkPrefixLen + tcpSsPlainBufsiz ≤ tcpSsCipherBufsiz
  /-- `error` leaves what was written into the buffer before the failure. -/
  buildRequestHeader : Enc × Dec → Addr → List UInt8 →
    (Enc × Dec) × Except (List UInt8) (List UInt8)
  sealPayload : Enc → List UInt8 → Option (Enc × List UInt8)
  responseHeaderSize : Dec → Nat
  openResponseHeader : Dec → List UInt8 → Option (Dec × UInt16)
  openLength : Dec → List UInt8 → Option (Dec × UInt16)
  /-- The plaintext and the state after; the output fits the capacity given. -/
  openPayload : Dec → List UInt8 → (cap : Nat) → Option (Dec × { plain : List UInt8 // plain.length ≤ cap })

/-- A socket to a server: whom it was connected to, with which header and
client, and what the system accepted for sending on it. -/
structure ServerSocket (S : Ss2022) where
  server : Nat
  header : List UInt8
  ssClient : S.Enc × S.Dec
  accepted : List UInt8
  shutdown : Bool

/-- A call of the server selector. -/
inductive SelectorCall
  | attempt (serverIdx epoch : Nat)
  | failure (serverIdx : Nat)
  | success (serverIdx epoch : Nat)
deriving DecidableEq

/-- What the outside has seen of a session. `socket k` is meaningful for
`k < opened`; lists of servers and calls have the newest first. -/
structure TcpNet (S : Ss2022) where
  opened : Nat
  socket : Nat → ServerSocket S
  /-- client bytes read during the handshake, then each read of the relay -/
  firstData : List UInt8
  laterReads : List (List UInt8)
  clientEofRead : Bool
  /-- server bytes read, and bytes the client socket accepted -/
  arrived : List UInt8
  delivered : List UInt8
  clientShutdown : Bool
  /-- servers taken, and those whose attempt failed for a reason that is not local -/
  taken : List Nat
  broken : List Nat
  calls : List SelectorCall
  exhausted : Bool

end Tproxy
