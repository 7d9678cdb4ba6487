import Tproxy.Udp.Create

namespace Tproxy

/-- `udp_tproxy_send_t`. -/
structure UdpTproxySend where
  sourceEntry : Nat
  msg : UdpClientMsg
deriving DecidableEq

/-- A datagram from the server: what `ss2022_udp_client_open` makes of it, and
what the system answers while it is handled. -/
structure UdpReplyPacket where
  opened : Option (Ss2022Addr × List UInt8)
  socket : (fds : List Nat) → FreshFd fds
  bound : Bool
  memalign : (p : MemoryPool) → PlacedSlab p

/-- The state of `udp_relay_on_server_reply` in its loop: `batch_sends` and
`deferred_evict` up to their counts. -/
structure UdpReplyBatch where
  world : UdpWorld
  sends : List UdpTproxySend
  deferred : List Nat

/-- `udp_tproxy_entry_free`. -/
def udpTproxyEntryFree (cfg : UdpConfig) (w : UdpWorld) (n : Nat) : UdpWorld :=
  match w.tproxy.record n with
  | none => w
  | some entry =>
    { w with
      tproxy := { w.tproxy with toPoolArena := w.tproxy.free n cfg.tproxySize }
      trace := w.trace ++ [.closed entry.udpSockfd, .free .tproxy n] }

/-- `udp_tproxy_entry_close`. -/
def udpTproxyEntryClose (cfg : UdpConfig) (w : UdpWorld) (n : Nat) : UdpWorld :=
  udpTproxyEntryFree cfg { w with tproxy := w.tproxy.del n } n

/-- The second half of `udp_tproxy_entry_get_or_create`, once the socket `fd`
is bound. The result is the entry. -/
def udpTproxyEntryCreate (cfg : UdpConfig) (packet : UdpReplyPacket) (w : UdpWorld)
    (deferred : List Nat) (replySrc : UdpEndpointKey) (fd : Nat) (now : EvTstamp) :
    UdpWorld × List Nat × Option Nat :=
  let alloced := w.tproxy.alloc packet.memalign cfg.tproxySize ⟨replySrc, fd, now⟩
  let cache := { w.tproxy with toPoolArena := alloced.1 }
  let trace := w.trace ++ [.alloc .tproxy alloced.2]
  match alloced.2.result with
  | none => ({ w with tproxy := cache, trace := trace ++ [.closed fd] }, deferred, none)
  | some n =>
    let added := cache.add cfg.tproxyMaxsize n
    ({ w with tproxy := added.1, trace := trace }, deferred ++ added.2.toList, some n)

/-- `udp_tproxy_entry_get_or_create`. -/
def udpTproxyEntryGetOrCreate (cfg : UdpConfig) (packet : UdpReplyPacket) (w : UdpWorld)
    (deferred : List Nat) (replySrc : UdpEndpointKey) (now : EvTstamp) :
    UdpWorld × List Nat × Option Nat :=
  match w.tproxy.find replySrc with
  | some n =>
    match w.tproxy.record n with
    | none => (w, deferred, some n)
    | some entry =>
      let touched := { w.tproxy with
        toPoolArena := w.tproxy.write n { entry with lastActive := now } }
      ({ w with tproxy := touched }, deferred, some n)
  | none =>
    match packet.socket (openFds w.trace) with
    | none => (w, deferred, none)
    | some fd =>
      if packet.bound then
        udpTproxyEntryCreate cfg packet (w.emit [.opened fd]) deferred replySrc fd now
      else (w.emit [.opened fd, .closed fd], deferred, none)

/-- The source endpoint of a reply; `none` for an address type that it must
not have. -/
def udpReplySource (s : UdpSession) (sourceAddr : Ss2022Addr) : Option UdpEndpointKey :=
  if s.usesFakedns then some s.originalTargetEndpoint
  else
    match sourceAddr with
    | .domain _ _ => none
    | addr => some (udpEndpointFromAddr addr)

/-- One round of the loop in `udp_relay_on_server_reply`. -/
def udpReplyStep (cfg : UdpConfig) (s : UdpSession) (now : EvTstamp) (batch : UdpReplyBatch)
    (packet : UdpReplyPacket) : UdpReplyBatch :=
  match packet.opened with
  | none => batch
  | some (sourceAddr, plain) =>
    match udpReplySource s sourceAddr with
    | none => batch
    | some replySrc =>
      match udpTproxyEntryGetOrCreate cfg packet batch.world batch.deferred replySrc now with
      | (w, deferred, none) => ⟨w, batch.sends, deferred⟩
      | (w, deferred, some entry) =>
        ⟨w, batch.sends ++ [⟨entry, plain, s.clientEndpoint⟩], deferred⟩

/-- One round of the inner loop of `udp_tproxy_flush_client_sends`, on the
index array and `group_count`. -/
def udpFlushGroupStep (sends : List UdpTproxySend) (entry i : Nat) (state : List Nat × Nat)
    (j : Nat) : List Nat × Nat :=
  if ((state.1[j]?.bind (sends[·]?)).any fun send => send.sourceEntry = entry) then
    let swapped :=
      if j ≠ i + state.2 then
        (state.1.set (i + state.2) (state.1.getD j 0)).set j (state.1.getD (i + state.2) 0)
      else state.1
    (swapped, state.2 + 1)
  else state

/-- The calls of `sendmmsg` that the outer loop makes from index `i` on, each
with its entry and its datagrams. One unit of fuel pays for one call. -/
def udpFlushGroups (sends : List UdpTproxySend) : Nat → Nat → List Nat → List (Nat × List UdpClientMsg)
  | 0, _, _ => []
  | fuel + 1, i, indices =>
    match indices[i]?.bind (sends[·]?) with
    | none => []
    | some first =>
      let grouped := (List.range' i (sends.length - i)).foldl
        (udpFlushGroupStep sends first.sourceEntry i) (indices, 0)
      let group := (grouped.1.drop i).take grouped.2
      (first.sourceEntry, group.filterMap fun k => (sends[k]?).map UdpTproxySend.msg) ::
        udpFlushGroups sends fuel (i + grouped.2) grouped.1

/-- All `sendmmsg` calls of `udp_tproxy_flush_client_sends`. -/
def udpFlushCalls (sends : List UdpTproxySend) : List (Nat × List UdpClientMsg) :=
  udpFlushGroups sends sends.length 0 (List.range sends.length)

/-- `udp_tproxy_flush_client_sends`. The result of `sendmmsg` is only logged. -/
def udpTproxyFlushClientSends (w : UdpWorld) (sends : List UdpTproxySend) : UdpWorld :=
  w.emit <| (udpFlushCalls sends).filterMap fun call =>
    (w.tproxy.record call.1).map fun entry => .sendmmsg entry.udpSockfd call.2

/-- `udp_relay_on_server_reply` for the session at `a`, whose watcher is active
as long as the session lives. No packets stand for a failed `recvmmsg`. -/
def udpRelayOnServerReply (cfg : UdpConfig) (w : UdpWorld) (a : Nat)
    (packets : List UdpReplyPacket) (now : EvTstamp) : UdpWorld :=
  match w.sessions.record a, packets.take udpBatchSize with
  | none, _ => w
  | some _, [] => w
  | some s, packets =>
    let batch := packets.foldl (udpReplyStep cfg s now) ⟨udpSessionTouch w a now, [], []⟩
    batch.deferred.foldl (udpTproxyEntryFree cfg)
      (udpTproxyFlushClientSends batch.world batch.sends)

end Tproxy
