import Tproxy.Udp.Close

namespace Tproxy

variable {cfg : UdpConfig} {w : UdpWorld} {nat : UdpNat} {a n fd : Nat} {s : UdpSession}
  {deferred : List Nat} {now : EvTstamp} {memalign : (p : MemoryPool) → PlacedSlab p}
  {call : PoolCall}

/-- No block for a new session: its socket is closed again. -/
theorem UdpInv.session_alloc_none (inv : UdpInv cfg w ⟨none, some fd, deferred⟩)
    {after : PoolArena UdpSession} (run : w.sessions.alloc memalign cfg.sessionSize s = (after, call))
    (failed : call.result = none) :
    UdpInv cfg { w with sessions := after, trace := w.trace ++ [.alloc .session call] ++ [.closed fd] }
      ⟨none, none, deferred⟩ := by
  obtain ⟨holds, record, full⟩ := inv.sessions.alloc_none run failed
  have served : AllocsServed [.alloc .session call] := .of_call fun available => by
    have room := inv.session_room
    have all := full available
    simp only [Option.toList_none, List.length_nil, Nat.add_zero] at all
    omega
  have holds' : Function.update w.fdOf .pending (some fd) .pending = some fd :=
    Function.update_self ..
  have closed := (inv.ledger.refused .session failed).closed holds'
  rw [Function.update_idem] at closed
  refine
    { links := ?_
      sessions := holds
      nodes := inv.nodes
      tproxy := inv.tproxy
      ledger := ?_
      served := ?_
      sizes := inv.sizes
      off := inv.off }
  · rw [show (UdpHidden.registered ⟨none, none, deferred⟩ after.record) = w.sessions.record from record]
    exact inv.links
  · refine closed.congr (congrArg (Function.update · _ _) (fdOf_congr record rfl))
      (live_congr (fun b => ?_) (fun _ _ => Iff.rfl) fun _ => Iff.rfl)
    rw [record]
  · refine (inv.served.append served).append fun pool c member => ?_
    simp at member

/-- A block for a new session, which now holds the socket. -/
theorem UdpInv.session_alloc_some (inv : UdpInv cfg w ⟨none, some fd, deferred⟩)
    {after : PoolArena UdpSession} (run : w.sessions.alloc memalign cfg.sessionSize s = (after, call))
    (got : call.result = some a) (sockfd : s.serverFd = fd) :
    UdpInv cfg { w with sessions := after, trace := w.trace ++ [.alloc .session call] }
        ⟨some a, none, deferred⟩ ∧
      w.sessions.record a = none ∧ after.record = Function.update w.sessions.record a (some s) := by
  obtain ⟨holds, fresh, record⟩ := inv.sessions.alloc_some run got
  refine ⟨?_, fresh, record⟩
  have served : AllocsServed [.alloc .session call] := .of_call fun _ => by
    rw [got]
    exact Option.some_ne_none a
  have notLive : ¬ w.Live .session a := by
    simp only [UdpWorld.Live, fresh, Option.isSome_none, Bool.false_eq_true, not_false_eq_true]
  have alloced := inv.ledger.alloc got notLive fun _ _ => Iff.rfl
  have idle : Function.update w.fdOf .pending (some fd) (.session a) = none := by
    rw [Function.update_of_ne (by simp)]
    simp only [UdpWorld.fdOf, fresh, Option.map_none]
  have moved := alloced.transfer (Function.update_self ..) idle
  refine
    { links := ?_
      sessions := holds
      nodes := inv.nodes
      tproxy := inv.tproxy
      ledger := ?_
      served := inv.served.append served
      sizes := inv.sizes
      off := inv.off }
  · have same : UdpHidden.registered ⟨some a, none, deferred⟩ after.record = w.sessions.record := by
      simp only [UdpHidden.registered, record, Function.update_idem]
      exact Function.update_eq_self_iff.mpr fresh.symm
    rw [same]
    exact inv.links
  · have fds : UdpWorld.fdOf { w with sessions := after } =
        Function.update w.fdOf (.session a) (some s.serverFd) := fdOf_session (r := some s) record rfl
    rw [sockfd] at fds
    rw [Function.update_idem, Function.update_comm (by simp)] at moved
    exact moved.congr (congrArg (Function.update · _ _) fds) (live_session_some record rfl rfl)

/-- The block of a session without a node goes back, and its socket is closed. -/
theorem UdpInv.session_free (inv : UdpInv cfg w ⟨some a, none, deferred⟩)
    (atA : w.sessions.record a = some s) :
    UdpInv cfg (udpSessionFree cfg w a) ⟨none, none, deferred⟩ := by
  have freed := inv.ledger.session_free cfg atA
  have run := udpSessionFree_eq cfg atA
  have off := inv.off
  have sizes := inv.sizes
  rw [run] at freed ⊢
  exact
    { links := inv.links
      sessions := inv.sessions.free atA
      nodes := inv.nodes
      tproxy := inv.tproxy
      ledger := freed
      served := inv.served.append fun pool c member => by simp at member
      sizes := sizes
      off := off }

/-- No block for a node: the new session stays without one. -/
theorem UdpInv.node_alloc_none (inv : UdpInv cfg w ⟨some a, none, deferred⟩)
    (usable : nat = .symmetric → cfg.fakednsEnabled = true) {x : UdpNode nat.Key}
    {after : PoolArena (UdpNode nat.Key)}
    (run : (w.nodes nat).toPoolArena.alloc memalign (cfg.nodeSize nat) x = (after, call))
    (failed : call.result = none) :
    UdpInv cfg
      { w with
        nodes := Function.update w.nodes nat { w.nodes nat with toPoolArena := after }
        trace := w.trace ++ [.alloc (.node nat) call] } ⟨some a, none, deferred⟩ := by
  obtain ⟨holds, record, full⟩ := (inv.nodes nat).alloc_none run failed
  have served : AllocsServed [.alloc (.node nat) call] := .of_call fun available => by
    have room := inv.node_room usable
    have all := full available
    omega
  have refused := inv.ledger.refused (.node nat) failed
  have sameTables : ∀ side, (Function.update w.nodes nat
      { w.nodes nat with toPoolArena := after } side).table = (w.nodes side).table :=
    tables_update rfl
  have sameRecords : ∀ side, (Function.update w.nodes nat
      { w.nodes nat with toPoolArena := after } side).record = (w.nodes side).record :=
    records_update record
  refine
    { links := inv.links.congr sameRecords sameTables
      sessions := ?_
      nodes := holds_update inv.nodes holds
      tproxy := inv.tproxy
      ledger := ?_
      served := inv.served.append served
      sizes := fun side => ?_
      off := fun disabled => ?_ }
  · simp only [tableCount, sameTables]
    exact inv.sessions
  · refine refused.congr (congrArg (Function.update · _ _) (fdOf_congr rfl rfl))
      (live_congr (fun _ => Iff.rfl) (fun side b => ?_) fun _ => Iff.rfl)
    rw [sameRecords]
  · simp only [sameTables]
    exact inv.sizes side
  · simp only [sameTables]
    exact inv.off disabled

/-- The world in which the session at `a` has the new node `n` at the end of the
table, before any eviction. -/
def UdpWorld.linked (w : UdpWorld) (nat : UdpNat) (a : Nat) (s : UdpSession) (n : Nat)
    (after : PoolArena (UdpNode nat.Key)) (call : PoolCall) : UdpWorld :=
  { w with
    sessions := w.sessions.write a { s with node := Function.update s.node nat (some n) }
    nodes := Function.update w.nodes nat ⟨after, (w.nodes nat).table ++ [n]⟩
    trace := w.trace ++ [.alloc (.node nat) call] }

theorem UdpInv.node_linked (inv : UdpInv cfg w ⟨some a, none, deferred⟩)
    (atA : w.sessions.record a = some s) (own : s.nat = nat) (blank : ∀ side, s.node side = none)
    (freshKey : ∀ m x, (w.nodes nat).record m = some x → x.key ≠ s.key nat)
    {after : PoolArena (UdpNode nat.Key)}
    (run : (w.nodes nat).toPoolArena.alloc memalign (cfg.nodeSize nat) ⟨s.key nat, a, now⟩ =
      (after, call)) (got : call.result = some n) :
    UdpCore cfg (w.linked nat a s n after call) ⟨none, none, deferred⟩ ∧
      (w.nodes nat).record n = none ∧
      after.record = Function.update (w.nodes nat).record n (some ⟨s.key nat, a, now⟩) := by
  obtain ⟨holds, fresh, record⟩ := (inv.nodes nat).alloc_some run got
  refine ⟨?_, fresh, record⟩
  have served : AllocsServed [.alloc (.node nat) call] := .of_call fun _ => by
    rw [got]
    exact Option.some_ne_none n
  have notLive : ¬ w.Live (.node nat) n := by
    simp only [UdpWorld.Live, fresh, Option.isSome_none, Bool.false_eq_true, not_false_eq_true]
  have alloced := inv.ledger.alloc got notLive fun _ _ => Iff.rfl
  have sameLive : ∀ b, ((w.sessions.write a
      { s with node := Function.update s.node nat (some n) }).record b).isSome ↔
      (w.sessions.record b).isSome := fun b => by
    simp only [PoolArena.write, isSome_update_some, or_iff_left_iff_imp]
    rintro rfl
    rw [atA]
    rfl
  have sameFds : Function.update w.fdOf (.session a) (some s.serverFd) = w.fdOf := by
    refine Function.update_eq_self_iff.mpr ?_
    simp only [UdpWorld.fdOf, atA, Option.map_some]
  have count := tableCount_update w.nodes nat ⟨after, (w.nodes nat).table ++ [n]⟩
  unfold UdpWorld.linked
  refine
    { links := ?_
      sessions := ?_
      nodes := holds_update inv.nodes ?_
      tproxy := inv.tproxy
      ledger := ?_
      served := inv.served.append served }
  · have hiddenRecord : (UdpHidden.registered ⟨some a, none, deferred⟩ w.sessions.record) a = none := by
      simp only [UdpHidden.registered, Function.update_self]
    have linked := inv.links.register now hiddenRecord fresh own blank freshKey
      ⟨after, (w.nodes nat).table ++ [n]⟩ record rfl
    simp only [UdpHidden.registered, Function.update_idem] at linked
    exact linked
  · have written := inv.sessions.write { s with node := Function.update s.node nat (some n) } atA
    simp only [Option.toList_some, List.length_singleton, Option.toList_none, List.length_nil,
      List.length_append] at written count ⊢
    have same : tableCount (Function.update w.nodes nat ⟨after, (w.nodes nat).table ++ [n]⟩) + 0 =
        tableCount w.nodes + 1 := by omega
    rw [same]
    exact written
  · rw [List.length_append, List.length_singleton]
    exact holds
  · have fds : UdpWorld.fdOf { w with
        sessions := w.sessions.write a { s with node := Function.update s.node nat (some n) } } =
        Function.update w.fdOf (.session a) (some s.serverFd) :=
      fdOf_session (r := some { s with node := Function.update s.node nat (some n) }) rfl rfl
    rw [sameFds] at fds
    exact alloced.congr (congrArg (Function.update · _ _) fds) (live_node_some rfl record sameLive rfl)

theorem udpNodeRegister_none {key : nat.Key} {after : PoolArena (UdpNode nat.Key)}
    (run : (w.nodes nat).toPoolArena.alloc memalign (cfg.nodeSize nat) ⟨key, a, now⟩ = (after, call))
    (failed : call.result = none) :
    udpNodeRegister cfg memalign w nat a s key now =
      ({ w with
        nodes := Function.update w.nodes nat { w.nodes nat with toPoolArena := after }
        trace := w.trace ++ [.alloc (.node nat) call] }, false) := by
  unfold udpNodeRegister
  simp only [run, failed]

/-- The order of eviction among the nodes of a table. -/
def UdpWorld.lastActive (w : UdpWorld) (nat : UdpNat) (n : Nat) : EvTstamp :=
  (((w.nodes nat).record n).map UdpNode.lastActive).getD 0

/-- Without an eviction, registration stops at the linked world. -/
theorem udpNodeRegister_kept {key : nat.Key} {after : PoolArena (UdpNode nat.Key)}
    (run : (w.nodes nat).toPoolArena.alloc memalign (cfg.nodeSize nat) ⟨key, a, now⟩ = (after, call))
    (got : call.result = some n)
    (kept : lruAdd ((w.linked nat a s n after call).lastActive nat) (cfg.maxsize nat)
      (w.nodes nat).table n = ((w.nodes nat).table ++ [n], none)) :
    udpNodeRegister cfg memalign w nat a s key now = (w.linked nat a s n after call, true) := by
  have order : (w.linked nat a s n after call).lastActive nat =
      fun m => ((after.record m).map LruEntry.lastActive).getD 0 := by
    funext m
    simp only [UdpWorld.lastActive, UdpWorld.linked, Function.update_self]
    rfl
  rw [order] at kept
  unfold udpNodeRegister
  simp only [run, got, UdpCache.add, kept, Option.bind_none]
  rfl

/-- An eviction closes the victim's session as if it were still indexed. -/
theorem udpNodeRegister_evicted {key : nat.Key} {after : PoolArena (UdpNode nat.Key)} {victim : Nat}
    (run : (w.nodes nat).toPoolArena.alloc memalign (cfg.nodeSize nat) ⟨key, a, now⟩ = (after, call))
    (got : call.result = some n)
    (core : UdpCore cfg (w.linked nat a s n after call) ⟨none, none, deferred⟩)
    (evicted : lruAdd ((w.linked nat a s n after call).lastActive nat) (cfg.maxsize nat)
      (w.nodes nat).table n = (((w.nodes nat).table ++ [n]).erase victim, some victim))
    {y : UdpNode nat.Key} (atVictim : ((w.linked nat a s n after call).nodes nat).record victim = some y) :
    udpNodeRegister cfg memalign w nat a s key now =
      (udpSessionClose cfg (w.linked nat a s n after call) y.session .indexed, true) := by
  have order : (w.linked nat a s n after call).lastActive nat =
      fun m => ((after.record m).map LruEntry.lastActive).getD 0 := by
    funext m
    simp only [UdpWorld.lastActive, UdpWorld.linked, Function.update_self]
    rfl
  obtain ⟨t, atY, own, link, _⟩ := core.links.node nat victim y atVictim
  have only : ∀ side, side ≠ nat → t.node side = none := fun side apart =>
    core.links.other y.session t side atY fun same => apart (same.trans own)
  have atVictim' : after.record victim = some y := by
    simpa only [UdpWorld.linked, Function.update_self] using atVictim
  rw [udpSessionClose_eq (w := w.linked nat a s n after call) cfg atY link only]
  rw [order] at evicted
  unfold udpNodeRegister
  simp only [run, got, UdpCache.add, evicted, Option.bind_some, atVictim', udpSessionCloseDetached]
  refine Prod.ext ((udpSessionClose_eq (s := t) cfg ?_ link only .detached).trans ?_) rfl
  · exact atY
  simp only [udpNodeRelease, UdpWorld.linked, Function.update_self, Function.update_idem,
    UdpCache.release, UdpCache.del]

/-- What registration does: it fails and leaves the session without a node, or
it links the session, or it links it and closes the session of a victim, the
least recently active of the other nodes of a full table. -/
theorem udpNodeRegister_cases (memalign : (p : MemoryPool) → PlacedSlab p) (now : EvTstamp)
    (inv : UdpInv cfg w ⟨some a, none, deferred⟩)
    (atA : w.sessions.record a = some s) (own : s.nat = nat) (blank : ∀ side, s.node side = none)
    (freshKey : ∀ m x, (w.nodes nat).record m = some x → x.key ≠ s.key nat) :
    (∃ after call, (w.nodes nat).toPoolArena.alloc memalign (cfg.nodeSize nat) ⟨s.key nat, a, now⟩ =
        (after, call) ∧ call.result = none ∧
      udpNodeRegister cfg memalign w nat a s (s.key nat) now =
        ({ w with
          nodes := Function.update w.nodes nat { w.nodes nat with toPoolArena := after }
          trace := w.trace ++ [.alloc (.node nat) call] }, false)) ∨
    ∃ n after call, call.result = some n ∧ (w.nodes nat).record n = none ∧
      after.record = Function.update (w.nodes nat).record n (some ⟨s.key nat, a, now⟩) ∧
      UdpCore cfg (w.linked nat a s n after call) ⟨none, none, deferred⟩ ∧
      ((udpNodeRegister cfg memalign w nat a s (s.key nat) now =
          (w.linked nat a s n after call, true) ∧
        (w.nodes nat).table.length < cfg.maxsize nat) ∨
      ∃ victim ∈ (w.nodes nat).table, victim ≠ n ∧ ∃ y, (w.nodes nat).record victim = some y ∧
        lruAdd ((w.linked nat a s n after call).lastActive nat) (cfg.maxsize nat)
          (w.nodes nat).table n = (((w.nodes nat).table ++ [n]).erase victim, some victim) ∧
        udpNodeRegister cfg memalign w nat a s (s.key nat) now =
          (udpSessionClose cfg (w.linked nat a s n after call) y.session .indexed, true)) := by
  rcases run : (w.nodes nat).toPoolArena.alloc memalign (cfg.nodeSize nat) ⟨s.key nat, a, now⟩ with
    ⟨after, call⟩
  cases got : call.result with
  | none =>
    exact Or.inl ⟨after, call, rfl, got, udpNodeRegister_none run got⟩
  | some n =>
    obtain ⟨core, fresh, record⟩ := inv.node_linked atA own blank freshKey run got
    refine Or.inr ⟨n, after, call, got, fresh, record, core, ?_⟩
    have notListed : n ∉ (w.nodes nat).table := fun listed => by
      have live := (inv.links.live nat n).mpr listed
      rw [fresh] at live
      cases live
    rcases lruAdd_cases ((w.linked nat a s n after call).lastActive nat) (cfg.maxsize nat)
      (w.nodes nat).table n with ⟨kept, room⟩ | ⟨victim, listed, other, evicted⟩
    · refine Or.inl ⟨udpNodeRegister_kept run got kept, ?_⟩
      rcases room with below | only
      · exact below
      · have empty : (w.nodes nat).table = [] := List.eq_nil_iff_forall_not_mem.mpr fun x member =>
          notListed (only x member ▸ member)
        rw [empty]
        exact cfg.maxsize_pos nat
    · obtain ⟨y, atVictim⟩ := Option.isSome_iff_exists.mp ((inv.links.live nat victim).mpr listed)
      refine Or.inr ⟨victim, listed, other, y, atVictim, evicted, ?_⟩
      refine udpNodeRegister_evicted run got core evicted ?_
      simp only [UdpWorld.linked, Function.update_self, record, Function.update_of_ne other, atVictim]

end Tproxy
