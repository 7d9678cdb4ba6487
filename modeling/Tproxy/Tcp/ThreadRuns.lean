import Tproxy.Tcp.Run
import Tproxy.Tcp.ThreadAccept

namespace Tproxy

variable {S : Ss2022} {cfg : TcpConfig} {w w₀ w' : TcpThread S} {order : List Nat} {p q : Nat}
  {b c : TcpBlock S} {on : TcpWatcher → Bool}

section Dispatch

/-- The callback of a started watcher fits the phase of its session. -/
theorem TcpThread.onIo_meets {e : RelayEvent} {soError : Option Errno} {send : Except Errno Nat}
    {relayIn : (p : MemoryPool) → PlacedSlab p} {start : TcpStartAnswer S}
    (here : TcpAt cfg w₀ none order p b on w) (phase : TcpPhase b on) (started : on e.side.watcher = true) :
    (onIo cfg p e soError send relayIn start).Meets w fun _ => TcpHandled cfg w₀ order p := by
  refine Program.meets_bind.mpr (block_meets here.live ?_)
  have retries : RetryHandles cfg (tcpHandshakeRetry cfg start.retries) := tcpHandshakeRetry_handles _
  cases phase with
  | waiting s waiting =>
    cases side : e.side with
    | client =>
      rw [side] at started
      simp only [waiting.half, TcpHalf.ioWatcher, waiting.client started]
      exact tcpHandshakeOnInitialPayloadRead_meets e.recvs start here waiting
    | server =>
      rw [side] at started
      cases waiting.server.symm.trans started
  | connecting s connecting =>
    cases side : e.side with
    | client =>
      rw [side] at started
      cases connecting.client.symm.trans started
    | server =>
      simp only [connecting.half, TcpHalf.ioWatcher]
      rcases connecting.server with cb | cb
      · simp only [cb]
        exact tcpHandshakeOnServerConnected_meets retries soError send relayIn here connecting
      · simp only [cb]
        exact tcpHandshakeOnServerWritable_meets retries send relayIn here connecting
  | relaying s relaying =>
    have cb : ((TcpHalf.relay s).ioWatcher e.side).cb = .relayOnEvent := by
      cases e.side with
      | client => exact relaying.client
      | server => exact relaying.server
    simp only [relaying.half, cb]
    split
    · exact tcpRelayOnEvent_meets e here relaying
    · exact Program.meets_unanswered

theorem TcpThread.onTimer_meets {recvs : List (Except Errno (List UInt8))} {start : TcpStartAnswer S}
    (here : TcpAt cfg w₀ none order p b on w) (phase : TcpPhase b on) (started : on .timer = true) :
    (onTimer cfg p recvs start).Meets w fun _ => TcpHandled cfg w₀ order p := by
  refine Program.meets_bind.mpr (block_meets here.live ?_)
  cases phase with
  | waiting s waiting =>
    simp only [waiting.half, TcpHalf.phaseTimer, waiting.timer started]
    exact tcpHandshakeOnInitialPayloadTimeout_meets recvs start here waiting
  | connecting s connecting =>
    simp only [connecting.half, TcpHalf.phaseTimer, connecting.timer started]
    exact tcpHandshakeOnTimeout_meets start.retries here connecting
  | relaying s relaying => cases relaying.timer.symm.trans started

/-- An event leaves the worker in order, and its handler does not fault. -/
theorem TcpSettled.handle (settled : TcpSettled cfg none order w) (e : TcpEvent S) :
    (TcpThread.handle cfg e).Meets w fun _ w' => ∃ order', TcpSettled cfg none order' w' := by
  cases e with
  | accept answers => exact tcpProxyAcceptLoop_meets answers tcpAcceptBatch settled
  | io p e soError send relayIn start =>
    exact settled.whenStarted fun b here phase started => TcpThread.onIo_meets here phase started
  | timer p recvs start =>
    exact settled.whenStarted fun b here phase started => TcpThread.onTimer_meets here phase started

end Dispatch

section Run

theorem TcpPoolAnswer.holds {blockSize initialBlocks maxBlocks : Nat}
    {fits : blockSize + 2 * cachelineSize ≤ 2 ^ 64} {answer : TcpPoolAnswer fits initialBlocks maxBlocks}
    {pool : MemoryPool} (created : answer.create = some pool)
    (bounded : maxBlocks ≠ 0) {ρ : Type} :
    (PoolArena.mk (some pool) fun _ => (none : Option ρ)).Holds blockSize maxBlocks 0 := by
  obtain ⟨size, inv⟩ := mempoolCreate_inv fits answer.places created
  have limit := mempoolCreate_maxBlocks created
  rw [if_neg bounded] at limit
  exact .of_create size limit inv

theorem tcpThreadCreate_settled {session : TcpPoolAnswer cfg.sessionSize_fits 64 65535}
    {relayIn : TcpPoolAnswer tcpSsRespInBufsiz_fits 0 65535}
    (created : tcpThreadCreate cfg session relayIn = some w) : TcpSettled cfg none [] w := by
  simp only [tcpThreadCreate, Option.bind_eq_bind, Option.bind_eq_some_iff, Option.some.injEq] at created
  obtain ⟨sessionPool, atSession, relayInPool, atRelayIn, rfl⟩ := created
  have sessions := session.holds (ρ := TcpBlock S) atSession (by decide)
  have buffers := relayIn.holds (ρ := Unit) atRelayIn (by decide)
  have nothing : TcpThread.fdOf ⟨⟨some sessionPool, fun _ => (none : Option (TcpBlock S))⟩,
      ⟨some relayInPool, fun _ => none⟩, none, fun _ => false, []⟩ none = fun _ => none := by
    funext o
    cases o <;> rfl
  refine ⟨⟨⟨List.nodup_nil, fun p => ?_, rfl, sessions⟩, ⟨[], fun a => ?_, Owned.empty, buffers⟩,
    ⟨.nil, ?_, fun p b live => ?_⟩, fun p k on => ?_⟩, fun p b live => ?_⟩
  · simp only [Option.isSome_none, Bool.false_eq_true, List.not_mem_nil]
  · simp only [Option.isSome_none, Bool.false_eq_true, List.not_mem_nil]
  · rw [nothing]
    exact Owned.empty
  · cases live
  · cases on
  · cases live

/-- In every state of a worker between two events it is in order. -/
theorem TcpThreadRun.settled (run : TcpThreadRun cfg w) : ∃ order, TcpSettled cfg none order w := by
  induction run with
  | start session relayIn created => exact ⟨[], tcpThreadCreate_settled created⟩
  | event e _ handled ih =>
    obtain ⟨order, settled⟩ := ih
    exact (settled.handle e).result handled

end Run

section Shutdown

/-- A worker that holds nothing any more: no session and no relay buffer is
live, neither pool reports a leak, and every descriptor that was opened is
closed. -/
structure TcpReleased (w : TcpThread S) : Prop where
  sessionHead : w.sessionHead = none
  sessions : ∀ p, w.sessionPool.record p = none
  buffers : ∀ a, w.relayInPool.record a = none
  leaks : (∀ pool, w.sessionPool.pool = some pool → mempoolDestroy pool = 0) ∧
    ∀ pool, w.relayInPool.pool = some pool → mempoolDestroy pool = 0
  fds : FdLog w.fds ∧ ∀ fd, FdEvent.opens fd w.fds = FdEvent.closes fd w.fds
  watchers : ∀ watcher, w.started watcher = false

theorem TcpInv.released (inv : TcpInv cfg w none []) : TcpReleased w := by
  have sessions := inv.listed.sessions.none_live
  obtain ⟨taken, blocks, owned, holds⟩ := inv.buffers
  have nothing : taken = [] := by
    refine List.eq_nil_iff_forall_not_mem.mpr fun a member => ?_
    obtain ⟨p, held⟩ := (owned.mem_iff a).mp member
    rw [TcpThread.field_gone (sessions p)] at held
    cases held
  subst nothing
  have closed : fdsInUse w.fds = [] := by
    refine List.eq_nil_iff_forall_not_mem.mpr fun fd member => ?_
    obtain ⟨o, held⟩ := (inv.fds.owned.mem_iff fd).mp member
    rcases o with none | ⟨p, side⟩
    · cases held
    · cases (TcpThread.field_gone (sessions p) _).symm.trans held
  refine ⟨inv.listed.linked, sessions, holds.none_live,
    ⟨fun _ => inv.listed.sessions.destroy, fun _ => holds.destroy⟩, ⟨inv.fds.log, fun fd => ?_⟩, ?_⟩
  · have balance := inv.fds.log.balance fd
    rwa [closed, List.count_nil, Nat.add_zero] at balance
  · rintro ⟨p, k⟩
    refine eq_false_of_ne_true fun on => ?_
    obtain ⟨b, live, _⟩ := inv.watched p k on
    rw [sessions p] at live
    cases live

/-- The loop closes the sessions from the first on; the induction is on the
list, and the link that was read before a close leads to the rest of it. -/
theorem TcpInv.closeLoop (inv : TcpInv cfg w none order) (bound : Nat) (enough : order.length ≤ bound) :
    ∃ w', TcpThread.tcpProxyCloseLoop cfg bound w.sessionHead w = .ok ((), w') ∧ TcpInv cfg w' none [] := by
  induction order generalizing w bound with
  | nil =>
    have head : w.sessionHead = none := inv.listed.linked
    rw [head]
    refine ⟨w, ?_, inv⟩
    cases bound <;> rfl
  | cons p rest ih =>
    obtain ⟨head, _, linked⟩ := inv.listed.linked
    obtain ⟨b, live⟩ := Option.isSome_iff_exists.mp ((inv.listed.live p).mpr List.mem_cons_self)
    obtain ⟨w₁, ends, closed⟩ := inv.tcpSessionClose_run live false
    have inv₁ := closed.inv inv live
    rw [List.erase_cons_head] at inv₁
    have next : b.next = w₁.sessionHead := by
      rw [inv₁.listed.linked.here_eq, ← linked.here_eq, TcpThread.field_live live]
    cases bound with
    | zero => cases enough
    | succ bound =>
      obtain ⟨w', rest, done⟩ := ih inv₁ bound (Nat.le_of_succ_le_succ enough)
      refine ⟨w', ?_, done⟩
      rw [head, TcpThread.tcpProxyCloseLoop, Program.bind_run (TcpThread.block_run live),
        Program.bind_run ends, next]
      exact rest

/-- Between two events a worker has exactly its live sessions in its list, and
their relay buffers and descriptors in use. No event makes a handler use what
was released, and closing all sessions leaves nothing. -/
theorem tcp_sessions_release (run : TcpThreadRun cfg w) :
    (∃ order, TcpListed cfg w order) ∧ TcpBuffers w ∧ TcpFds w none ∧
      (∀ e, TcpThread.handle cfg e w ≠ .error .fault) ∧
      ∃ w', TcpThread.tcpProxyCloseAllSessions cfg w = .ok ((), w') ∧ TcpReleased w' := by
  obtain ⟨order, settled⟩ := run.settled
  refine ⟨⟨order, settled.inv.listed⟩, settled.inv.buffers, settled.inv.fds,
    fun e => (settled.handle e).not_fault, ?_⟩
  obtain ⟨w', ends, inv⟩ := settled.inv.closeLoop _ settled.inv.listed.sessions.count_le
  exact ⟨w', ends, inv.released⟩

def tcpTinyConfig : TcpConfig := ⟨256, by decide, false⟩

def tcpTinySessions : TcpPoolAnswer tcpTinyConfig.sessionSize_fits 64 65535 where
  calloc := true
  mem _ := ⟨0, 0⟩
  slabRaw := some 4096
  places := by
    rintro a ⟨⟩
    exact ⟨by decide, by decide, by simp [mempoolEmpty]⟩

def tcpTinyBuffers : TcpPoolAnswer tcpSsRespInBufsiz_fits 0 65535 where
  calloc := true
  mem _ := ⟨0, 0⟩
  slabRaw := none
  places _ refused := by cases refused

def tcpTinyStart : TcpThread plainSs2022 :=
  (tcpThreadCreate tcpTinyConfig tcpTinySessions tcpTinyBuffers).get (by decide +kernel)

/-- A slab for the first relay buffers. -/
def tcpTinySlab (p : MemoryPool) : PlacedSlab p :=
  if room : p.slabList = [] ∧ MempoolSlab.limit p.totalSize ⟨65536, p.batch⟩ < 2 ^ 64 then
    ⟨some 65536, by
      rintro a ⟨⟩
      refine ⟨by decide, room.2, fun s listed => ?_⟩
      rw [room.1] at listed
      cases listed⟩
  else ⟨none, systemPlaces_none p⟩

/-- The smallest descriptor above those that were opened. -/
def tcpTinySocket (fds : List Nat) : FreshFd fds :=
  if fresh : fds.foldl max 2 + 1 ∉ fds then some ⟨fds.foldl max 2 + 1, fresh⟩ else none

/-- A client that sends two bytes, which go to a server at once, and no other. -/
def tcpTinyAccept : TcpEvent plainSs2022 :=
  let refused (p : MemoryPool) : PlacedSlab p := ⟨none, systemPlaces_none p⟩
  let answer : TcpAcceptAnswer plainSs2022 :=
    { socket := tcpTinySocket
      errno := .eagain
      target := some ()
      create := ⟨refused, ((), ()), [⟨twoServers, some ((), ())⟩]⟩
      recvs := [.ok [7, 8]]
      start := ⟨⟨twoServers, tcpTinySocket, [], .ok (), none, .ok 3, tcpTinySlab⟩, []⟩ }
  .accept [answer, { answer with socket := fun _ => none }]

/-- A live session that has a server and a relay buffer. -/
def TcpThread.relays (w : TcpThread plainSs2022) : Bool :=
  w.sessionHead.any fun p => (w.sessionPool.record p).any fun b => b.serverFd.isSome && b.relayInAllocated

/-- The client is accepted and its session relays, and all sessions are closed. -/
theorem tcp_sessions_release_relaying : ∃ w : TcpThread plainSs2022, TcpThreadRun tcpTinyConfig w ∧
    w.relays = true ∧ ∃ w', TcpThread.tcpProxyCloseAllSessions tcpTinyConfig w = .ok ((), w') ∧
      TcpReleased w' := by
  have accepted : (match TcpThread.handle tcpTinyConfig tcpTinyAccept tcpTinyStart with
      | .ok (_, w) => w.relays
      | .error _ => false) = true := by decide +kernel
  split at accepted
  · rename_i w handled
    have run : TcpThreadRun tcpTinyConfig w :=
      .event tcpTinyAccept (.start _ _ (Option.some_get _).symm) handled
    exact ⟨w, run, accepted, (tcp_sessions_release run).2.2.2.2⟩
  · cases accepted

end Shutdown

end Tproxy
