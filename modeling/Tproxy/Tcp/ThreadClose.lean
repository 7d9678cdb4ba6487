import Tproxy.Tcp.ThreadRelease

namespace Tproxy

variable {S : Ss2022} {cfg : TcpConfig} {w w₀ w₁ w' : TcpThread S} {pending : Option Nat}
  {order : List Nat} {p q : Nat} {b c : TcpBlock S} {on : TcpWatcher → Bool} {reset : Bool}

/-- The handler that began in `w₀` has closed the session at `p`. -/
structure TcpGone (cfg : TcpConfig) (w₀ : TcpThread S) (pending : Option Nat) (order : List Nat)
    (p : Nat) (w : TcpThread S) : Prop where
  inv : TcpInv cfg w pending (order.erase p)
  elsewhere : TcpElsewhere p w₀ w

section Elsewhere

theorem TcpElsewhere.live (elsewhere : TcpElsewhere p w w') (apart : q ≠ p)
    (live : w.sessionPool.record q = some b) :
    ∃ c, w'.sessionPool.record q = some c ∧ c.unlinked = b.unlinked := by
  have same := elsewhere.blocks q apart
  rw [live, Option.map_some] at same
  exact Option.map_eq_some_iff.mp same

theorem TcpElsewhere.was_live (elsewhere : TcpElsewhere p w w') (apart : q ≠ p)
    (live : w'.sessionPool.record q = some c) :
    ∃ b, w.sessionPool.record q = some b ∧ b.unlinked = c.unlinked := by
  have same := (elsewhere.blocks q apart).symm
  rw [live, Option.map_some] at same
  exact Option.map_eq_some_iff.mp same

theorem TcpThread.field_gone (gone : w.sessionPool.record p = none) (f : TcpBlock S → Option Nat) :
    w.field f p = none := by
  rw [TcpThread.field, gone]
  rfl

/-- What the sessions hold changes at one session only. -/
theorem TcpElsewhere.field (elsewhere : TcpElsewhere p w w') {f : TcpBlock S → Option Nat}
    (plain : ∀ b, f b.unlinked = f b) : w'.field f = Function.update (w.field f) p (w'.field f p) := by
  funext q
  by_cases own : q = p
  · rw [own, Function.update_self]
  · rw [Function.update_of_ne own]
    cases live : w.sessionPool.record q with
    | none =>
      have same := elsewhere.blocks q own
      rw [live, Option.map_none, Option.map_eq_none_iff] at same
      rw [TcpThread.field_gone live, TcpThread.field_gone same]
    | some b =>
      obtain ⟨c, live', same⟩ := elsewhere.live own live
      rw [TcpThread.field_live live, TcpThread.field_live live', ← plain c, same, plain]

theorem TcpElsewhere.fdOf (elsewhere : TcpElsewhere p w w') {other : Nat × RelaySide} (apart : other.1 ≠ p)
    (pending pending' : Option Nat) : w'.fdOf pending (some other) = w.fdOf pending' (some other) := by
  obtain ⟨q, side⟩ := other
  have held := congrFun (elsewhere.field (f := (·.fd side)) fun b => by cases side <;> rfl) q
  rw [Function.update_of_ne apart] at held
  exact held

end Elsewhere

section Close

/-- The session at `p` is closed and freed: what is left of the others. -/
structure TcpClosed (cfg : TcpConfig) (p : Nat) (b : TcpBlock S) (reset : Bool) (order : List Nat)
    (w w' : TcpThread S) : Prop where
  gone : w'.sessionPool.record p = none
  elsewhere : TcpElsewhere p w w'
  off : ∀ k, w'.started (p, k) = false
  fds : w'.fds = closedFd b.serverFd reset (closedFd b.clientFd reset w.fds)
  relayInPool : w'.relayInPool = TcpThread.freedRelayIn b w.relayInPool
  linked : DoublyLinked (w'.field (·.next)) (w'.field (·.prev)) none w'.sessionHead (order.erase p)
  sessions : w'.sessionPool.Holds cfg.sessionSize tcpMaxBlocks (order.erase p).length

/-- Both descriptors of a session are open, and they differ. -/
theorem TcpInv.fds_open (inv : TcpInv cfg w pending order) (live : w.sessionPool.record p = some b)
    (reset : Bool) : (∀ fd, b.clientFd = some fd → fd ∈ fdsInUse w.fds) ∧
      ∀ fd, b.serverFd = some fd → fd ∈ fdsInUse (closedFd b.clientFd reset w.fds) := by
  refine ⟨fun fd holds => ?_, fun fd holds => ?_⟩
  · exact inv.fds.owned.mem ((TcpThread.fdOf_live live .client).trans holds)
  · have rest := inv.fds.owned.closedFd (TcpThread.fdOf_live live .client) reset
    refine rest.mem (o := some (p, .server)) ?_
    rw [Function.update_of_ne (by simp), TcpThread.fdOf_live live]
    exact holds

/-- The last part: the session leaves the list and its block goes back. -/
theorem TcpListed.unlink_run (listed : TcpListed cfg w order) (live : w.sessionPool.record p = some b) :
    ∃ w', (TcpThread.tcpSessionUnlink p >>= fun _ => TcpThread.freeSession cfg p) w = .ok ((), w') ∧
      w'.sessionPool.record p = none ∧ TcpElsewhere p w w' ∧ w'.started = w.started ∧ w'.fds = w.fds ∧
      w'.relayInPool = w.relayInPool ∧
      DoublyLinked (w'.field (·.next)) (w'.field (·.prev)) none w'.sessionHead (order.erase p) ∧
      w'.sessionPool.Holds cfg.sessionSize tcpMaxBlocks (order.erase p).length := by
  have member : p ∈ order := (listed.live p).mp (by rw [live]; rfl)
  have nextOf := TcpThread.field_live live (·.next)
  have prevOf := TcpThread.field_live live (·.prev)
  have next (n : Nat) (behind : b.next = some n) : (w.sessionPool.record n).isSome = true :=
    (listed.live n).mpr (listed.linked.next_mem member (nextOf.trans behind))
  have prev (n : Nat) (before : b.prev = some n) : (w.sessionPool.record n).isSome = true := by
    rcases listed.linked.prev_cases member with ⟨_, first⟩ | ⟨y, inside, back, _⟩
    · rw [prevOf, before] at first
      cases first
    · rw [prevOf, before] at back
      cases back
      exact (listed.live n).mpr inside
  obtain ⟨w₁, unlinked, kept, head, next₁, prev₁⟩ := TcpThread.tcpSessionUnlink_run live next prev
  have linked : DoublyLinked (w₁.field (·.next)) (w₁.field (·.prev)) none _ (order.erase p) :=
    listed.linked.remove listed.nodup (by rintro _ ⟨⟩) member
      (fun y _ _ => by rw [next₁, prevOf, nextOf]) fun y _ _ => by rw [prev₁, prevOf, nextOf]
  have sessions : w₁.sessionPool.Holds cfg.sessionSize tcpMaxBlocks ((order.erase p).length + 1) := by
    have length := List.length_erase_add_one member
    rw [length]
    exact kept.holds _ _ _ listed.sessions
  obtain ⟨c, live₁, _⟩ : ∃ c, w₁.sessionPool.record p = some c ∧ c.unlinked = b.unlinked := by
    have same := kept.records p
    rw [live, Option.map_some] at same
    exact Option.map_eq_some_iff.mp same
  refine ⟨{ w₁ with sessionPool := w₁.sessionPool.free p cfg.sessionSize }, ?_, Function.update_self ..,
    ⟨fun q apart => ?_, fun q k _ => congrFun kept.started (q, k)⟩, kept.started, kept.fds, kept.relayInPool,
    ?_, sessions.free live₁⟩
  · refine (Program.bind_run unlinked).trans ?_
    rw [TcpThread.freeSession, live₁]
  · rw [← kept.records q]
    exact congrArg _ (Function.update_of_ne apart ..)
  · have first := listed.linked.prev_eq_before (by rintro _ ⟨⟩) member
    rw [prevOf] at first
    have head : w₁.sessionHead = if w.sessionHead = some p then w.field (·.next) p else w.sessionHead := by
      rw [head, nextOf]
      simp only [first]
    rw [← head] at linked
    have same (f : TcpBlock S → Option Nat) (y : Nat) (inside : y ∈ order.erase p) :
        TcpThread.field { w₁ with sessionPool := w₁.sessionPool.free p cfg.sessionSize } f y =
          w₁.field f y := by
      have apart : y ≠ p := (listed.nodup.mem_erase_iff.mp inside).1
      exact congrArg (Option.bind · f) (Function.update_of_ne apart ..)
    exact linked.congr (same _) (same _)

theorem TcpInv.tcpSessionClose_run (inv : TcpInv cfg w pending order)
    (live : w.sessionPool.record p = some b) (reset : Bool) :
    ∃ w', TcpThread.tcpSessionClose cfg p reset w = .ok ((), w') ∧ TcpClosed cfg p b reset order w w' := by
  obtain ⟨clientOpen, serverOpen⟩ := inv.fds_open live reset
  have relayIn (a : Nat) (held : b.relayIn = some a) : (w.relayInPool.record a).isSome = true := by
    obtain ⟨taken, blocks, owned, _⟩ := inv.buffers
    exact (blocks a).mpr (owned.mem ((TcpThread.field_live live _).trans held))
  have listed : TcpListed cfg (w.write p { b with relayInAllocated := false }) order :=
    inv.listed.write live rfl rfl
  have listed : TcpListed cfg ((w.stopped p).released p b reset) order := { listed with }
  obtain ⟨w', ends, gone, elsewhere, started, fds, relayInPool, linked, sessions⟩ :=
    listed.unlink_run (Function.update_self ..)
  refine ⟨w', ?_, gone, ?_, ?_, fds, relayInPool, linked, sessions⟩
  · rw [TcpThread.tcpSessionClose, Program.bind_run
      (TcpThread.tcpSessionStop_run live inv.watched (inv.fds.client p b live))]
    exact (Program.bind_run (TcpThread.tcpSessionRelease_run (w := w.stopped p) live clientOpen serverOpen
      relayIn)).trans ends
  · refine ⟨fun q apart => (elsewhere.blocks q apart).trans ?_, fun q k apart => ?_⟩
    · exact congrArg _ (Function.update_of_ne apart ..)
    · rw [started]
      exact if_neg apart
  · intro k
    rw [started]
    exact if_pos rfl

theorem TcpClosed.buffers (closed : TcpClosed cfg p b reset order w w') (buffers : TcpBuffers w)
    (live : w.sessionPool.record p = some b) : TcpBuffers w' := by
  obtain ⟨taken, blocks, owned, holds⟩ := buffers
  have held := TcpThread.field_live live TcpBlock.relayIn
  have field : w'.field TcpBlock.relayIn = Function.update (w.field TcpBlock.relayIn) p none :=
    (closed.elsewhere.field fun _ => rfl).trans (by rw [TcpThread.field_gone closed.gone])
  have pool := closed.relayInPool
  unfold TcpThread.freedRelayIn at pool
  cases relayIn : b.relayIn with
  | none =>
    rw [relayIn] at held pool
    have same := Function.update_eq_self p (w.field TcpBlock.relayIn)
    rw [held] at same
    rw [same] at field
    rw [TcpBuffers, field, pool]
    exact ⟨taken, blocks, owned, holds⟩
  | some a =>
    rw [relayIn] at held pool
    have member := owned.mem held
    obtain ⟨_, atBuffer⟩ := Option.isSome_iff_exists.mp ((blocks a).mpr member)
    rw [TcpBuffers, field, pool]
    refine ⟨taken.erase a, fun c => ?_, owned.release held, ?_⟩
    · change (Function.update w.relayInPool.record a none c).isSome ↔ _
      rw [owned.nodup.mem_erase_iff, ← blocks c]
      by_cases own : c = a
      · simp [own]
      · simp [own]
    · rw [← List.length_erase_add_one member] at holds
      exact holds.free atBuffer

theorem TcpClosed.fds_kept (closed : TcpClosed cfg p b reset order w w') (fds : TcpFds w pending)
    (live : w.sessionPool.record p = some b) : TcpFds w' pending := by
  have client := (TcpThread.fdOf_live live .client : w.fdOf pending _ = _)
  have server : Function.update (w.fdOf pending) (some (p, .client)) none (some (p, .server)) = b.serverFd := by
    rw [Function.update_of_ne (by simp)]
    exact TcpThread.fdOf_live live .server
  have rest := fds.owned.closedFd client reset
  have left : w'.fdOf pending =
      Function.update (Function.update (w.fdOf pending) (some (p, .client)) none) (some (p, .server)) none := by
    funext o
    rcases o with none | ⟨q, side⟩
    · rfl
    · by_cases own : q = p
      · have gone : w'.fdOf pending (some (q, side)) = none := own ▸ TcpThread.field_gone closed.gone _
        rw [gone, own]
        cases side <;> simp
      · rw [closed.elsewhere.fdOf own pending pending, Function.update_of_ne (by simp [own]),
          Function.update_of_ne (by simp [own])]
  refine ⟨?_, ?_, fun q c live' => ?_⟩
  · rw [closed.fds]
    have log := fds.log.closedFd (fun n holds => fds.owned.mem (client.trans holds)) reset
    exact log.closedFd (fun n holds => rest.mem (server.trans holds)) reset
  · rw [closed.fds, left]
    exact rest.closedFd server reset
  · have apart : q ≠ p := by
      rintro rfl
      rw [closed.gone] at live'
      cases live'
    obtain ⟨d, wasLive, same⟩ := closed.elsewhere.was_live apart live'
    have kept : d.clientFd = c.clientFd := congrArg (·.clientFd) same
    rw [← kept]
    exact fds.client q d wasLive

/-- Without the session the worker is in order. -/
theorem TcpClosed.inv (closed : TcpClosed cfg p b reset order w w') (inv : TcpInv cfg w pending order)
    (live : w.sessionPool.record p = some b) : TcpInv cfg w' pending (order.erase p) where
  listed := by
    refine ⟨inv.listed.nodup.erase p, fun q => ?_, closed.linked, closed.sessions⟩
    rw [inv.listed.nodup.mem_erase_iff, ← inv.listed.live q]
    by_cases own : q = p
    · simp [own, closed.gone]
    · have same := congrArg Option.isSome (closed.elsewhere.blocks q own)
      rw [Option.isSome_map, Option.isSome_map] at same
      simp [own, same]
  buffers := closed.buffers inv.buffers live
  fds := closed.fds_kept inv.fds live
  watched q k on := by
    have apart : q ≠ p := by
      rintro rfl
      rw [closed.off k] at on
      cases on
    rw [closed.elsewhere.started q k apart] at on
    obtain ⟨c, wasLive, server⟩ := inv.watched q k on
    obtain ⟨d, live', same⟩ := closed.elsewhere.live apart wasLive
    have kept : d.serverFd = c.serverFd := congrArg (·.serverFd) same
    exact ⟨d, live', kept ▸ server⟩

theorem TcpThread.tcpSessionClose_meets {Q : Unit → TcpThread S → Prop}
    (here : TcpAt cfg w₀ pending order p b on w) (reset : Bool)
    (next : ∀ w', TcpGone cfg w₀ pending order p w' → Q () w') :
    (tcpSessionClose cfg p reset).Meets w Q := by
  obtain ⟨w', ends, closed⟩ := here.inv.tcpSessionClose_run here.live reset
  exact Program.meets_of_run ends
    (next w' ⟨closed.inv here.inv here.live, here.elsewhere.trans closed.elsewhere⟩)

end Close

end Tproxy
