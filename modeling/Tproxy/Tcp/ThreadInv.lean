import Tproxy.Lib.DoublyLinked
import Tproxy.Tcp.ThreadLoop

namespace Tproxy

variable {S : Ss2022}

/-- `max_blocks` of both TCP pools. -/
def tcpMaxBlocks : Nat := 65535

/-- The relay buffer of a session, by `relay_in_allocated`. -/
def TcpBlock.relayIn (b : TcpBlock S) : Option Nat :=
  if b.relayInAllocated then some b.serverToClientIn else none

def TcpBlock.fd (b : TcpBlock S) : RelaySide → Option Nat
  | .client => b.clientFd
  | .server => b.serverFd

namespace TcpThread

/-- A pointer or descriptor in the live sessions. -/
def field (w : TcpThread S) (f : TcpBlock S → Option Nat) (p : Nat) : Option Nat :=
  (w.sessionPool.record p).bind f

/-- Who has to close a descriptor: a session, or with `none` the handler that
runs, which has a `pending` one. -/
def fdOf (w : TcpThread S) (pending : Option Nat) : Option (Nat × RelaySide) → Option Nat
  | none => pending
  | some (p, side) => w.field (·.fd side) p

def write (w : TcpThread S) (p : Nat) (b : TcpBlock S) : TcpThread S :=
  { w with sessionPool := w.sessionPool.write p b }

end TcpThread

/-- The list at `g_tcp_session_head` has the sessions `order`, and these are
the live blocks of the session pool. -/
structure TcpListed (cfg : TcpConfig) (w : TcpThread S) (order : List Nat) : Prop where
  nodup : order.Nodup
  live : ∀ p, (w.sessionPool.record p).isSome ↔ p ∈ order
  linked : DoublyLinked (w.field (·.next)) (w.field (·.prev)) none w.sessionHead order
  sessions : w.sessionPool.Holds cfg.sessionSize tcpMaxBlocks order.length

/-- The live blocks of the buffer pool are those of the sessions with
`relay_in_allocated`. -/
def TcpBuffers (w : TcpThread S) : Prop :=
  ∃ taken, (∀ a, (w.relayInPool.record a).isSome ↔ a ∈ taken) ∧
    Owned taken (w.field TcpBlock.relayIn) ∧
    w.relayInPool.Holds tcpSsRespInBufsiz tcpMaxBlocks taken.length

/-- The open descriptors are those of the sessions and the pending one. -/
structure TcpFds (w : TcpThread S) (pending : Option Nat) : Prop where
  log : FdLog w.fds
  owned : Owned (fdsInUse w.fds) (w.fdOf pending)
  client : ∀ p b, w.sessionPool.record p = some b → b.clientFd.isSome = true

/-- The event loop has watchers only of live sessions. -/
def TcpWatched (w : TcpThread S) : Prop :=
  ∀ p k, w.started (p, k) = true →
    ∃ b, w.sessionPool.record p = some b ∧ (k = .server → b.serverFd.isSome = true)

/-- The invariant of a worker, also within a handler. -/
structure TcpInv (cfg : TcpConfig) (w : TcpThread S) (pending : Option Nat) (order : List Nat) :
    Prop where
  listed : TcpListed cfg w order
  buffers : TcpBuffers w
  fds : TcpFds w pending
  watched : TcpWatched w

variable {cfg : TcpConfig} {w : TcpThread S} {pending : Option Nat} {order : List Nat} {p : Nat}
  {b b' : TcpBlock S}

section Write

theorem TcpThread.write_record (w : TcpThread S) (p : Nat) (b : TcpBlock S) :
    (w.write p b).sessionPool.record = Function.update w.sessionPool.record p (some b) := rfl

theorem TcpThread.field_write (w : TcpThread S) (p : Nat) (b : TcpBlock S)
    (f : TcpBlock S → Option Nat) :
    (w.write p b).field f = Function.update (w.field f) p (f b) := by
  funext q
  unfold TcpThread.field
  rw [TcpThread.write_record]
  by_cases own : q = p
  · rw [own, Function.update_self, Function.update_self]
    rfl
  · rw [Function.update_of_ne own, Function.update_of_ne own]

theorem TcpThread.field_live (live : w.sessionPool.record p = some b)
    (f : TcpBlock S → Option Nat) : w.field f p = f b := by
  rw [TcpThread.field, live]
  rfl

theorem TcpThread.field_write_same (live : w.sessionPool.record p = some b)
    {f : TcpBlock S → Option Nat} (same : f b' = f b) : (w.write p b').field f = w.field f := by
  rw [TcpThread.field_write, same, ← TcpThread.field_live live f, Function.update_eq_self]

theorem TcpThread.fdOf_write (w : TcpThread S) (p : Nat) (b : TcpBlock S) (pending : Option Nat)
    (q : Nat) (side : RelaySide) :
    (w.write p b).fdOf pending (some (q, side)) =
      if q = p then b.fd side else w.fdOf pending (some (q, side)) := by
  simp only [TcpThread.fdOf, TcpThread.field_write, Function.update_apply]

theorem TcpThread.fdOf_live (live : w.sessionPool.record p = some b) (side : RelaySide) :
    w.fdOf pending (some (p, side)) = b.fd side :=
  TcpThread.field_live live _

theorem TcpListed.write (listed : TcpListed cfg w order) (live : w.sessionPool.record p = some b)
    (next : b'.next = b.next) (prev : b'.prev = b.prev) : TcpListed cfg (w.write p b') order where
  nodup := listed.nodup
  live q := by
    rw [← listed.live q, TcpThread.write_record]
    by_cases own : q = p
    · rw [own, Function.update_self, live, Option.isSome_some, Option.isSome_some]
    · rw [Function.update_of_ne own]
  linked := by
    rw [TcpThread.field_write_same live next, TcpThread.field_write_same live prev]
    exact listed.linked
  sessions := listed.sessions.write b' live

theorem TcpBuffers.write (buffers : TcpBuffers w) (live : w.sessionPool.record p = some b)
    (relayIn : b'.relayIn = b.relayIn) : TcpBuffers (w.write p b') := by
  unfold TcpBuffers
  rw [TcpThread.field_write_same live relayIn]
  exact buffers

/-- One of the two descriptors of a session changes. -/
theorem TcpThread.fdOf_write_side (live : w.sessionPool.record p = some b) (side : RelaySide)
    (other : ∀ side', side' ≠ side → b'.fd side' = b.fd side') :
    (w.write p b').fdOf pending = Function.update (w.fdOf pending) (some (p, side)) (b'.fd side) := by
  funext o
  rcases o with none | ⟨q, side'⟩
  · rfl
  · rw [TcpThread.fdOf_write]
    by_cases own : q = p
    · rw [own, if_pos rfl]
      by_cases sameSide : side' = side
      · rw [sameSide, Function.update_self]
      · have apart : some (p, side') ≠ some (p, side) := fun same =>
          sameSide (Prod.mk.inj (Option.some.inj same)).2
        rw [Function.update_of_ne apart, TcpThread.fdOf_live live, other side' sameSide]
    · have apart : some (q, side') ≠ some (p, side) := fun same =>
        own (Prod.mk.inj (Option.some.inj same)).1
      rw [if_neg own, Function.update_of_ne apart]

theorem TcpThread.fdOf_pending (w : TcpThread S) (pending pending' : Option Nat) :
    Function.update (w.fdOf pending) none pending' = w.fdOf pending' := by
  funext o
  cases o <;> rfl

theorem TcpFds.client_write (fds : TcpFds w pending) (client : b'.clientFd.isSome = true) (q : Nat)
    (c : TcpBlock S) (live : (w.write p b').sessionPool.record q = some c) :
    c.clientFd.isSome = true := by
  rw [TcpThread.write_record] at live
  by_cases own : q = p
  · rw [own, Function.update_self] at live
    cases live
    exact client
  · rw [Function.update_of_ne own] at live
    exact fds.client q c live

theorem TcpFds.write (fds : TcpFds w pending) (live : w.sessionPool.record p = some b)
    (same : b'.fd = b.fd) : TcpFds (w.write p b') pending := by
  have client : b'.clientFd = b.clientFd := congrFun same .client
  refine ⟨fds.log, ?_, fds.client_write (client ▸ fds.client p b live)⟩
  rw [TcpThread.fdOf_write_side live .client fun side _ => congrFun same side, same,
    ← TcpThread.fdOf_live live .client, Function.update_eq_self]
  exact fds.owned

theorem TcpWatched.write (watched : TcpWatched w)
    (server : w.started (p, .server) = true → b'.serverFd.isSome = true) :
    TcpWatched (w.write p b') := by
  intro q k on
  rw [TcpThread.write_record]
  by_cases own : q = p
  · subst own
    exact ⟨b', Function.update_self .., fun isServer => server (isServer ▸ on)⟩
  · rw [Function.update_of_ne own]
    exact watched q k on

/-- Only the union of a session changes. -/
theorem TcpInv.setHalf (inv : TcpInv cfg w pending order) (live : w.sessionPool.record p = some b)
    (half : TcpHalf S) : TcpInv cfg (w.write p { b with half := half }) pending order where
  listed := inv.listed.write live rfl rfl
  buffers := inv.buffers.write live rfl
  fds := inv.fds.write live rfl
  watched := inv.watched.write fun on => by
    obtain ⟨c, atP, server⟩ := inv.watched p .server on
    cases live.symm.trans atP
    exact server rfl

end Write

section Watchers

theorem TcpInv.evStop (inv : TcpInv cfg w pending order) (watcher : Nat × TcpWatcher) :
    TcpInv cfg { w with started := Function.update w.started watcher false } pending order where
  listed := { inv.listed with }
  buffers := inv.buffers
  fds := { inv.fds with }
  watched q k on := by
    by_cases own : (q, k) = watcher
    · rw [own] at on
      simp only [Function.update_self, Bool.false_eq_true] at on
    · simp only [Function.update_of_ne own] at on
      exact inv.watched q k on

theorem TcpInv.evStart (inv : TcpInv cfg w pending order) (live : w.sessionPool.record p = some b)
    (k : TcpWatcher) (server : k = .server → b.serverFd.isSome = true) :
    TcpInv cfg { w with started := Function.update w.started (p, k) true } pending order where
  listed := { inv.listed with }
  buffers := inv.buffers
  fds := { inv.fds with }
  watched q k' on := by
    by_cases own : (q, k') = (p, k)
    · cases own
      exact ⟨b, live, server⟩
    · simp only [Function.update_of_ne own] at on
      exact inv.watched q k' on

end Watchers

section Descriptors
variable {fd : Nat} {reset : Bool}

/-- The handler gets a descriptor. -/
theorem TcpInv.opened (inv : TcpInv cfg w none order) (fresh : fd ∉ fdsInUse w.fds) :
    TcpInv cfg { w with fds := .opened fd :: w.fds } (some fd) order where
  listed := { inv.listed with }
  buffers := inv.buffers
  fds := by
    have owned := inv.fds.owned.opened (o := none) rfl fresh
    rw [TcpThread.fdOf_pending] at owned
    exact ⟨inv.fds.log.opened fresh, owned, inv.fds.client⟩
  watched := inv.watched

/-- The handler closes its descriptor. -/
theorem TcpInv.closed (inv : TcpInv cfg w (some fd) order) (reset : Bool) :
    TcpInv cfg { w with fds := .closed fd reset :: w.fds } none order where
  listed := { inv.listed with }
  buffers := inv.buffers
  fds := by
    have owned := inv.fds.owned.closed (o := none) rfl reset
    rw [TcpThread.fdOf_pending] at owned
    exact ⟨inv.fds.log.closed (inv.fds.owned.mem (o := none) rfl), owned, inv.fds.client⟩
  watched := inv.watched

theorem RelaySide.eq_client {side : RelaySide} (other : side ≠ .server) : side = .client := by
  cases side with
  | client => rfl
  | server => exact absurd rfl other

/-- A session takes the handler's descriptor for its server. -/
theorem TcpInv.attach (inv : TcpInv cfg w (some fd) order)
    (live : w.sessionPool.record p = some b) (server : b.serverFd = none) (half : TcpHalf S) :
    TcpInv cfg (w.write p { b with half := half, serverFd := some fd }) none order where
  listed := inv.listed.write live rfl rfl
  buffers := inv.buffers.write live rfl
  fds := by
    have idle : w.fdOf (some fd) (some (p, .server)) = none :=
      (TcpThread.fdOf_live live .server).trans server
    have owned := inv.fds.owned.transfer (o := none) rfl idle
    rw [TcpThread.fdOf_pending] at owned
    refine ⟨inv.fds.log, ?_, inv.fds.client_write (inv.fds.client p b live)⟩
    rw [TcpThread.fdOf_write_side live .server fun side other => by rw [RelaySide.eq_client other]; rfl]
    exact owned
  watched := inv.watched.write fun _ => rfl

/-- A session closes the descriptor for its server. -/
theorem TcpInv.drop (inv : TcpInv cfg w pending order) (live : w.sessionPool.record p = some b)
    (server : b.serverFd = some fd) (stopped : w.started (p, .server) = false) (reset : Bool) :
    TcpInv cfg ({ w with fds := .closed fd reset :: w.fds }.write p { b with serverFd := none })
      pending order where
  listed := by
    have listed : TcpListed cfg (w.write p { b with serverFd := none }) order := inv.listed.write live rfl rfl
    exact { listed with }
  buffers := inv.buffers.write live rfl
  fds := by
    have holds : w.fdOf pending (some (p, .server)) = some fd :=
      (TcpThread.fdOf_live live .server).trans server
    refine ⟨inv.fds.log.closed (inv.fds.owned.mem holds), ?_,
      inv.fds.client_write (inv.fds.client p b live)⟩
    have dropped : (w.write p { b with serverFd := none }).fdOf pending =
        Function.update (w.fdOf pending) (some (p, .server)) none :=
      TcpThread.fdOf_write_side live .server fun side other => by rw [RelaySide.eq_client other]; rfl
    have owned := inv.fds.owned.closed holds reset
    rw [← dropped] at owned
    exact owned
  watched := by
    refine inv.watched.write fun on => ?_
    rw [stopped] at on
    cases on

end Descriptors

section Buffers
variable {memalign : (p : MemoryPool) → PlacedSlab p} {a : Nat}

theorem TcpBuffers.alloc_none {arena : PoolArena Unit} {call : PoolCall} (buffers : TcpBuffers w)
    (run : w.relayInPool.alloc memalign tcpSsRespInBufsiz () = (arena, call))
    (failed : call.result = none) : TcpBuffers { w with relayInPool := arena } := by
  obtain ⟨taken, live, owned, holds⟩ := buffers
  obtain ⟨after, same, _⟩ := holds.alloc_none run failed
  exact ⟨taken, fun a => by rw [same]; exact live a, owned, after⟩

/-- A session takes a relay buffer. -/
theorem TcpBuffers.alloc_some {arena : PoolArena Unit} {call : PoolCall} (buffers : TcpBuffers w)
    (live : w.sessionPool.record p = some b) (idle : b.relayInAllocated = false)
    (run : w.relayInPool.alloc memalign tcpSsRespInBufsiz () = (arena, call))
    (got : call.result = some a) :
    TcpBuffers ({ w with relayInPool := arena }.write p
      { b with serverToClientIn := a, relayInAllocated := true }) := by
  obtain ⟨taken, blocks, owned, holds⟩ := buffers
  obtain ⟨after, free, same⟩ := holds.alloc_some run got
  have fresh : a ∉ taken := fun member => by
    have held := (blocks a).mpr member
    rw [free] at held
    cases held
  have none_ : w.field TcpBlock.relayIn p = none := by
    rw [TcpThread.field_live live, TcpBlock.relayIn, if_neg (by rw [idle]; exact Bool.false_ne_true)]
  refine ⟨a :: taken, fun c => ?_, ?_, after⟩
  · change (arena.record c).isSome ↔ _
    rw [same, List.mem_cons]
    by_cases own : c = a
    · simp only [own, Function.update_self, Option.isSome_some, true_or]
    · rw [Function.update_of_ne own, blocks c]
      simp only [own, false_or]
  · rw [TcpThread.field_write]
    exact owned.acquire none_ fresh

end Buffers

end Tproxy
