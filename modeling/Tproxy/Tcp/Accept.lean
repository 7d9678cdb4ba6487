import Mathlib.Logic.Relation
import Tproxy.Tcp.Handshake

namespace Tproxy

variable {S : Ss2022}

/-- What is answered from the end of the initial payload on: to the first
attempt to connect and to those after it. -/
structure StartAnswer (S : Ss2022) where
  connect : ConnectAnswer
  retries : List (RetryAnswer S)

def tcpHandshakeStart (tfo : Bool) (a : StartAnswer S) (s : TcpSession S (TcpHandshake S)) :
    Option (TcpState S) :=
  let s := { s with
    phaseTimer := none
    clientWatcher := { s.clientWatcher with active := false } }
  match tcpHandshakeTryConnect tfo (tcpHandshakeRetry tfo a.retries) a.connect s with
  | .connecting st => st
  | .failed s nodeFailure => tcpHandshakeRetry tfo a.retries nodeFailure s

/-- The outcome of `tcp_handshake_read_initial_payload`: a closed session, or
one with `need_wait`. -/
inductive InitialRead (S : Ss2022)
  | closed (st : TcpState S)
  | ready (s : TcpSession S (TcpHandshake S)) (needWait : Bool)

/-- `tcp_handshake_read_initial_payload` with the answers of `recv`; when
these run out the socket would block. -/
def tcpHandshakeReadInitialPayload : List (Except Errno (List UInt8)) →
    TcpSession S (TcpHandshake S) → InitialRead S
  | [], s =>
    if s.union.initialPayload.length < tcpSsPlainBufsiz then
      .ready s (s.union.initialPayload.length = 0)
    else .ready s false
  | answer :: rest, s =>
    if s.union.initialPayload.length < tcpSsPlainBufsiz then
      match answer with
      | .error .eintr => tcpHandshakeReadInitialPayload rest s
      | .error .eagain => .ready s (s.union.initialPayload.length = 0)
      | .error _ => .closed (tcpSessionClose s true)
      | .ok bytes =>
        match bytes.take (tcpSsPlainBufsiz - s.union.initialPayload.length) with
        | [] => .ready { s with
            net := { s.net with clientEofRead := true }
            union := { s.union with clientEof := true } } false
        | data => tcpHandshakeReadInitialPayload rest { s with
            net := { s.net with firstData := s.net.firstData ++ data }
            union := { s.union with initialPayload := s.union.initialPayload ++ data } }
    else .ready s false

def tcpHandshakeStartAfterInitialPayload (tfo : Bool) (a : StartAnswer S)
    (s : TcpSession S (TcpHandshake S)) : Option (TcpState S) :=
  let s := { s with
    phaseTimer := none
    clientWatcher := { s.clientWatcher with active := false } }
  if s.union.initialPayload.length = 0 ∧ s.union.clientEof then some (tcpSessionClose s false)
  else tcpHandshakeStart tfo a s

def tcpHandshakeOnInitialPayloadRead (tfo : Bool) (recvs : List (Except Errno (List UInt8)))
    (a : StartAnswer S) (s : TcpSession S (TcpHandshake S)) : Option (TcpState S) :=
  match tcpHandshakeReadInitialPayload recvs s with
  | .closed st => some st
  | .ready s true => some (.handshake s)
  | .ready s false => tcpHandshakeStartAfterInitialPayload tfo a s

def tcpHandshakeOnInitialPayloadTimeout (tfo : Bool) (recvs : List (Except Errno (List UInt8)))
    (a : StartAnswer S) (s : TcpSession S (TcpHandshake S)) : Option (TcpState S) :=
  match tcpHandshakeReadInitialPayload recvs s with
  | .closed st => some st
  | .ready s _ => tcpHandshakeStartAfterInitialPayload tfo a s

def tcpHandshakeWaitInitialPayload (tfo : Bool) (recvs : List (Except Errno (List UInt8)))
    (a : StartAnswer S) (s : TcpSession S (TcpHandshake S)) : Option (TcpState S) :=
  match tcpHandshakeReadInitialPayload recvs s with
  | .closed st => some st
  | .ready s false => tcpHandshakeStartAfterInitialPayload tfo a s
  | .ready s true => some (.handshake { s with
      clientWatcher := ⟨.onInitialPayloadRead, true, false, true⟩
      phaseTimer := some .onInitialPayloadTimeout })

/-- `tcp_handshake_on_timeout`: the attempt failed, and not for a local reason. -/
def tcpHandshakeOnTimeout (tfo : Bool) (answers : List (RetryAnswer S))
    (s : TcpSession S (TcpHandshake S)) : Option (TcpState S) :=
  tcpHandshakeRetry tfo answers true { s with net := s.net.breakOff s.peer true }

/-- The answers to one pass of the loop of `tcp_session_create`. -/
structure CreateAnswer (S : Ss2022) where
  selector : SsSelector
  init : Option (S.Enc × S.Dec)

/-- The loop of `tcp_session_create` on a session whose `server_idx` is set
unless `first`. It ends with the session, with what is left of it when there
is no candidate, or when the answers ran out. -/
def tcpSessionTakeServer : List (CreateAnswer S) → Bool → TcpSession S (TcpHandshake S) →
    Option (Except (TcpNet S) (TcpSession S (TcpHandshake S)))
  | [], _, _ => none
  | a :: answers, first, s =>
    let next :=
      if first then some a.selector.bestIdx
      else serverSelectorNextBestTcp a.selector s.triedServersMask
    match next with
    | none => some (.error { s.net with exhausted := true })
    | some serverIdx =>
      let s := s.take serverIdx
      match a.init with
      | none => tcpSessionTakeServer answers false s
      | some ssClient => some (.ok { s with ssClient := ssClient })

/-- The zeroed session of `tcp_session_create`, for an arbitrary client; the
client is not used before it is initialised. -/
def tcpSessionZero (target : S.Addr) (ssClient : S.Enc × S.Dec) : TcpSession S (TcpHandshake S) where
  clientWatcher := ⟨.relayOnEvent, true, false, false⟩
  serverWatcher := ⟨.relayOnEvent, false, false, false⟩
  serverFd := none
  phaseTimer := none
  serverIdx := 0
  triedServersMask := 0
  selectorAttemptEpoch := 0
  union := ⟨[], [], target, 0, 0, false⟩
  ssClient := ssClient
  net :=
    { opened := 0
      socket := fun _ => ⟨0, [], ssClient, [], false⟩
      firstData := []
      laterReads := []
      clientEofRead := false
      arrived := []
      delivered := []
      clientShutdown := false
      taken := []
      broken := []
      calls := []
      exhausted := false }

/-- `tcp_session_create` with enough memory. -/
def tcpSessionCreate (answers : List (CreateAnswer S)) (target : S.Addr)
    (ssClient : S.Enc × S.Dec) : Option (Except (TcpNet S) (TcpSession S (TcpHandshake S))) :=
  tcpSessionTakeServer answers true (tcpSessionZero target ssClient)

/-- One event of the loop for a session, while `n` servers are configured. An
event needs its watcher or timer to be active, and its `read` and `write` to
be among the events that the watcher waits for. -/
inductive TcpStep (n : Nat) (tfo : Bool) : TcpState S → TcpState S → Prop
  | initialPayloadRead {s st} (recvs : List (Except Errno (List UInt8))) (a : StartAnswer S) :
      (∀ b ∈ a.retries, b.selector.serverCount = n) →
      s.clientWatcher.active = true → s.clientWatcher.cb = .onInitialPayloadRead →
      tcpHandshakeOnInitialPayloadRead tfo recvs a s = some st → TcpStep n tfo (.handshake s) st
  | initialPayloadTimeout {s st} (recvs : List (Except Errno (List UInt8))) (a : StartAnswer S) :
      (∀ b ∈ a.retries, b.selector.serverCount = n) →
      s.phaseTimer = some .onInitialPayloadTimeout →
      tcpHandshakeOnInitialPayloadTimeout tfo recvs a s = some st → TcpStep n tfo (.handshake s) st
  | serverConnected {s st} (soError : Option Errno) (send : Except Errno Nat) (relayIn : Bool)
      (answers : List (RetryAnswer S)) :
      (∀ b ∈ answers, b.selector.serverCount = n) →
      s.serverWatcher.active = true → s.serverWatcher.cb = .onServerConnected →
      tcpHandshakeOnServerConnected (tcpHandshakeRetry tfo answers) soError send relayIn s =
        some st → TcpStep n tfo (.handshake s) st
  | serverWritable {s st} (send : Except Errno Nat) (relayIn : Bool)
      (answers : List (RetryAnswer S)) :
      (∀ b ∈ answers, b.selector.serverCount = n) →
      s.serverWatcher.active = true → s.serverWatcher.cb = .onServerWritable →
      tcpHandshakeOnServerWritable (tcpHandshakeRetry tfo answers) send relayIn s = some st →
      TcpStep n tfo (.handshake s) st
  | timeout {s st} (answers : List (RetryAnswer S)) :
      (∀ b ∈ answers, b.selector.serverCount = n) → s.phaseTimer = some .onTimeout →
      tcpHandshakeOnTimeout tfo answers s = some st → TcpStep n tfo (.handshake s) st
  | relayClient {s} (e : RelayEvent) : e.side = .client → s.clientWatcher.active = true →
      (e.read → s.clientWatcher.read) → (e.write → s.clientWatcher.write) →
      TcpStep n tfo (.relay s) (tcpRelayOnEvent s e)
  | relayServer {s} (e : RelayEvent) : e.side = .server → s.serverWatcher.active = true →
      (e.read → s.serverWatcher.read) → (e.write → s.serverWatcher.write) →
      TcpStep n tfo (.relay s) (tcpRelayOnEvent s e)
  | closeAll {s : TcpSession S (TcpHandshake S)} :
      TcpStep n tfo (.handshake s) (tcpSessionClose s false)
  | closeAllRelay {s : TcpSession S TcpRelay} :
      TcpStep n tfo (.relay s) (tcpSessionClose s false)

abbrev TcpRun (n : Nat) (tfo : Bool) : TcpState S → TcpState S → Prop :=
  Relation.ReflTransGen (TcpStep n tfo)

/-- The states of an accepted session: `tcp_session_create`, the wait for the
initial payload, and then any events. -/
inductive TcpReach (n : Nat) (tfo : Bool) (target : S.Addr) : TcpState S → Prop
  | accept {s st} (created : List (CreateAnswer S)) (ssClient : S.Enc × S.Dec)
      (recvs : List (Except Errno (List UInt8))) (a : StartAnswer S) :
      (∀ b ∈ created, b.selector.serverCount = n ∧ b.selector.bestIdx < n) →
      (∀ b ∈ a.retries, b.selector.serverCount = n) →
      tcpSessionCreate created target ssClient = some (.ok s) →
      tcpHandshakeWaitInitialPayload tfo recvs a s = some st → TcpReach n tfo target st
  | event {st st'} : TcpReach n tfo target st → TcpStep n tfo st st' → TcpReach n tfo target st'

end Tproxy
