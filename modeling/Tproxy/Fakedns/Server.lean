import Tproxy.Fakedns.Packet

namespace Tproxy

/-- `FAKEDNS_BATCH_SIZE`. -/
def fakednsBatchSize : Nat := 16

/-- `FAKEDNS_MAX_UDP_SIZE`. -/
def fakednsMaxUdpSize : Nat := 512

/-- `sizeof(struct sockaddr_storage)`. -/
def sockaddrStorageSize : Nat := 128

/-- A datagram and its peer: the bytes of the socket address. -/
structure FakednsDatagram where
  name : List UInt8
  data : List UInt8
deriving DecidableEq

/-- A datagram that is received, with the time when it is processed and whether
`malloc` succeeds then. -/
structure FakednsArrival where
  datagram : FakednsDatagram
  now : BitVec 32
  memory : Bool

/-- The static state of `fakedns_server.c` with the pool and the cache of its
thread. Pointer `i` is `g_fakedns_batch_packets[i].buffer`, to which
`s_iovecs[i]` points as `s_msgs[i]` does to `s_addrs[i]`. -/
structure FakednsServer where
  mem : FakednsMemory
  iovLen : Nat → Nat
  addrs : Nat → List UInt8
  namelen : Nat → Nat
  msgLen : Nat → Nat

/-- An element of `send_msgs`: the indices that its pointers lead to. -/
structure FakednsSendMsg where
  name : Nat
  namelen : Nat
  iov : Nat

namespace FakednsServer

/-- The fields that the previous cycle modified. -/
def reset (st : FakednsServer) : FakednsServer :=
  { st with
    namelen := fun i => if i < fakednsBatchSize then sockaddrStorageSize else st.namelen i
    iovLen := fun i => if i < fakednsBatchSize then fakednsMaxUdpSize else st.iovLen i }

/-- `recvmmsg` stores datagram `i`, as far as the lengths allow. -/
def receive (st : FakednsServer) (i : Nat) (d : FakednsDatagram) : FakednsServer :=
  let data := d.data.take (st.iovLen i)
  { st with
    mem := { st.mem with
      packet := Function.update st.mem.packet i fun j => data.getD j (st.mem.packet i j) }
    addrs := Function.update st.addrs i (d.name.take (st.namelen i))
    namelen := Function.update st.namelen i d.name.length
    msgLen := Function.update st.msgLen i data.length }

/-- `recvmmsg` from message `i` on. -/
def recvmmsg : Nat → List FakednsArrival → FakednsServer → FakednsServer
  | _, [], st => st
  | i, arrival :: arrivals, st => recvmmsg (i + 1) arrivals (st.receive i arrival.datagram)

/-- The datagram that `sendmmsg` reads behind the pointers of a message. -/
def datagram (st : FakednsServer) (msg : FakednsSendMsg) : FakednsDatagram where
  name := (st.addrs msg.name).take msg.namelen
  data := st.mem.bytes msg.iov (st.iovLen msg.iov)

/-- A program over the packets and the pool. -/
def onMemory {α : Type} (program : FakednsProgram α) : Program FakednsServer α := fun st =>
  match program st.mem with
  | .ok (a, mem) => .ok (a, { st with mem := mem })
  | .error stop => .error stop

end FakednsServer

section Callback
variable (hash : List UInt8 → BitVec 64)

/-- The loop over the received messages from `i` on: `send_msgs` up to `send_count`. -/
def fakednsServerLoop : Nat → List FakednsArrival → List FakednsSendMsg →
    Program FakednsServer (List FakednsSendMsg)
  | _, [], sends => pure sends
  | i, arrival :: arrivals, sends => do
    let st ← get
    let nresp ← FakednsServer.onMemory
      (fakednsProcessPacket i (st.msgLen i) i fakednsMaxUdpSize hash arrival.now arrival.memory)
    if nresp > 0 then do
      let st ← get
      set { st with iovLen := Function.update st.iovLen i nresp }
      fakednsServerLoop (i + 1) arrivals (sends ++ [⟨i, st.namelen i, i⟩])
    else fakednsServerLoop (i + 1) arrivals sends

/-- What the system answers in one callback: to `recvmmsg`, where `none` is an
error, and to `sendmmsg`, given `send_count`. -/
structure FakednsCallback where
  received : Option (List FakednsArrival)
  sent : Nat → Option Nat

/-- `fakedns_server_recv_cb`: the datagrams that are sent. -/
def fakednsServerRecvCb (cb : FakednsCallback) : Program FakednsServer (List FakednsDatagram) := do
  let st ← get
  set st.reset
  match cb.received with
  | none => pure []
  | some arrivals => do
    let arrivals := arrivals.take fakednsBatchSize
    let st ← get
    set (st.recvmmsg 0 arrivals)
    let sends ← fakednsServerLoop hash 0 arrivals []
    let st ← get
    if sends.length > 0 then pure ((sends.map st.datagram).take ((cb.sent sends.length).getD 0))
    else pure []

/-- The callbacks of the event loop, one after the other. -/
def fakednsServerRun : List FakednsCallback → Program FakednsServer (List FakednsDatagram)
  | [] => pure []
  | cb :: cbs => do
    let first ← fakednsServerRecvCb hash cb
    let rest ← fakednsServerRun cbs
    pure (first ++ rest)

end Callback

end Tproxy
