import Tproxy.Udp.Actions

namespace Tproxy

variable {cfg : UdpConfig} {w w' : UdpWorld} {nat : UdpNat} {a n fd : Nat} {s : UdpSession}
  {deferred : List Nat} {now : EvTstamp} {pkt : UdpIngress} {answer : UdpIngressAnswer cfg}

/-- A new entry with this key came into the full table of `w`, and the entry
`n` had to leave: the least recently active one, the oldest among equals. -/
structure UdpEvicts (cfg : UdpConfig) (nat : UdpNat) (key : nat.Key) (now : EvTstamp)
    (w w' : UdpWorld) (n : Nat) : Prop where
  full : (w.nodes nat).table.length = cfg.maxsize nat
  least : ∃ before after m, (w.nodes nat).table = before ++ n :: after ∧
    (∀ k ∈ before, w.lastActive nat n < w.lastActive nat k) ∧
    (∀ k ∈ after, w.lastActive nat n ≤ w.lastActive nat k) ∧
    (w'.nodes nat).table = before ++ after ++ [m] ∧ m ∉ (w.nodes nat).table ∧
    ∃ y, (w'.nodes nat).record m = some y ∧ y.key = key ∧ y.lastActive = now

/-- The eviction as seen from worlds with the same tables. -/
theorem UdpEvicts.congr {key : nat.Key} {v v' : UdpWorld} (evicts : UdpEvicts cfg nat key now w w' n)
    (before : v.nodes = w.nodes) (after : v'.nodes = w'.nodes) :
    UdpEvicts cfg nat key now v v' n := by
  obtain ⟨full, least⟩ := evicts
  refine ⟨before ▸ full, ?_⟩
  simp only [UdpWorld.lastActive, before, after] at least ⊢
  exact least

/-- Closing the session of a node takes that node away and frees that session. -/
theorem UdpCore.close_activity (core : UdpCore cfg w ⟨none, none, deferred⟩) {x : UdpNode nat.Key}
    (atN : (w.nodes nat).record n = some x) :
    UdpUsed none w (udpSessionClose cfg w x.session .indexed) ∧
      UdpFrees (· = x.session) w (udpSessionClose cfg w x.session .indexed) := by
  obtain ⟨_, t, _, run⟩ := core.close atN
  refine ⟨fun side m y atM => ?_, ⟨_, congrArg UdpWorld.trace run, fun b member => ?_⟩⟩
  · refine Or.inr ⟨fun _ => by simp, ?_⟩
    rw [run] at atM
    by_cases gone : side = nat ∧ m = n
    · obtain ⟨rfl, rfl⟩ := gone
      simp only [Function.update_self, UdpCache.release, PoolArena.free, UdpCache.del] at atM
      cases atM
    · exact (record_update_apart rfl gone).symm.trans atM
  · simpa using member

/-- Touching the node of a session, the only one that refers to it. -/
theorem UdpInv.node_touch_activity (inv : UdpInv cfg w ⟨none, none, deferred⟩)
    (atA : w.sessions.record a = some s) (link : s.node nat = some n) (now : EvTstamp) :
    UdpUsed (some (a, now)) w (udpNodeTouch w nat n now) := by
  obtain ⟨own, x, atN, rfl⟩ := inv.links.link_eq atA nat link
  simp only [udpNodeTouch, atN]
  intro side m y atM
  by_cases here : side = nat ∧ m = n
  · obtain ⟨rfl, rfl⟩ := here
    simp only [Function.update_self, PoolArena.write] at atM
    cases atM
    exact Or.inl rfl
  · have old : (w.nodes side).record m = some y := (record_update_apart rfl here).symm.trans atM
    refine Or.inr ⟨fun later back => here ?_, old⟩
    exact inv.links.node_unique old atN (Prod.mk.inj (Option.some.inj back)).1.symm

theorem udpSessionTouch_trace (w : UdpWorld) (a : Nat) (now : EvTstamp) :
    (udpSessionTouch w a now).trace = w.trace := by
  unfold udpSessionTouch udpNodeTouch
  split
  · rfl
  · split
    · split <;> rfl
    · split <;> rfl
    · rfl

/-- Touching a session writes the time into its node and nowhere else. -/
theorem UdpInv.touch_activity (inv : UdpInv cfg w ⟨none, none, deferred⟩) (a : Nat) (now : EvTstamp) :
    UdpUsed (some (a, now)) w (udpSessionTouch w a now) := by
  unfold udpSessionTouch
  split
  · rename_i dead
    intro nat n x atN
    obtain ⟨s, atX, _⟩ := inv.links.node nat n x atN
    refine Or.inr ⟨fun later same => ?_, atN⟩
    have alive : w.sessions.record x.session = some s := atX
    rw [← (Prod.mk.inj (Option.some.inj same)).1, dead] at alive
    cases alive
  · rename_i s atA
    split
    · rename_i n link
      exact inv.node_touch_activity atA link now
    · rename_i n _ link
      exact inv.node_touch_activity atA link now
    · rename_i noCone noPair
      obtain ⟨n, x, link, _⟩ := inv.links.session a s atA
      cases side : s.nat with
      | fullcone => simp [side, noCone] at link
      | symmetric => simp [side, noPair] at link

/-- Linking a session that no node refers to yet. -/
theorem linked_activity {after : PoolArena (UdpNode nat.Key)} {call : PoolCall} {key : nat.Key}
    (unused : ∀ side m x, (w.nodes side).record m = some x → x.session ≠ a)
    (record : after.record = Function.update (w.nodes nat).record n (some ⟨key, a, now⟩)) :
    UdpUsed (some (a, now)) w (w.linked nat a s n after call) := by
  intro side m x atM
  by_cases here : side = nat ∧ m = n
  · obtain ⟨rfl, rfl⟩ := here
    simp only [UdpWorld.linked, Function.update_self, record] at atM
    cases atM
    exact Or.inl rfl
  · have old : (w.nodes side).record m = some x := (record_update_apart record here).symm.trans atM
    refine Or.inr ⟨fun later back => unused side m x old ?_, old⟩
    exact (Prod.mk.inj (Option.some.inj back)).1.symm

/-- The victim of a registration was the least recently active entry of a full
table, and the new entry is now the last one. -/
theorem UdpInv.register_evicts (inv : UdpInv cfg w ⟨some a, none, deferred⟩) {key : nat.Key}
    {after : PoolArena (UdpNode nat.Key)} {call : PoolCall} {m : Nat} {y : UdpNode nat.Key}
    (core : UdpCore cfg (w.linked nat a s m after call) ⟨none, none, deferred⟩)
    (fresh : (w.nodes nat).record m = none)
    (record : after.record = Function.update (w.nodes nat).record m (some ⟨key, a, now⟩))
    (atVictim : (w.nodes nat).record n = some y) (other : n ≠ m)
    (evicted : lruAdd ((w.linked nat a s m after call).lastActive nat) (cfg.maxsize nat)
      (w.nodes nat).table m = (((w.nodes nat).table ++ [m]).erase n, some n)) :
    UdpEvicts cfg nat key now w (udpSessionClose cfg (w.linked nat a s m after call) y.session .indexed)
      n := by
  have absent : m ∉ (w.nodes nat).table := fun listed => by
    have live := (inv.links.live nat m).mpr listed
    rw [fresh] at live
    cases live
  have atVictim' : ((w.linked nat a s m after call).nodes nat).record n = some y := by
    simp only [UdpWorld.linked, Function.update_self, record, Function.update_of_ne other, atVictim]
  obtain ⟨full, before, later, split, first, least⟩ := lruAdd_evicted absent evicted
  obtain ⟨_, t, _, run⟩ := core.close atVictim'
  have order : ∀ k ∈ (w.nodes nat).table,
      (w.linked nat a s m after call).lastActive nat k = w.lastActive nat k := fun k listed => by
    have differ : k ≠ m := fun same => absent (same ▸ listed)
    simp only [UdpWorld.lastActive, UdpWorld.linked, Function.update_self, record,
      Function.update_of_ne differ]
  have listed : n ∈ (w.nodes nat).table := by
    rw [split]
    exact List.mem_append_right _ List.mem_cons_self
  refine ⟨le_antisymm (inv.sizes nat) full, before, later, m, split, fun k member => ?_,
    fun k member => ?_, ?_, absent, ⟨key, a, now⟩, ?_, rfl, rfl⟩
  · rw [← order n listed, ← order k (by rw [split]; exact List.mem_append_left _ member)]
    exact first k member
  · have inTable : k ∈ (w.nodes nat).table := by
      rw [split]
      exact List.mem_append_right _ (List.mem_cons_of_mem _ member)
    rw [← order n listed, ← order k inTable]
    exact least k member
  · have notBefore : n ∉ before := fun member => lt_irrefl _ (first n member)
    rw [run]
    simp only [Function.update_self, UdpCache.release, UdpCache.del, UdpWorld.linked, split]
    rw [List.append_assoc, List.erase_append_right _ notBefore, List.cons_append,
      List.erase_cons_head, List.append_assoc]
  · rw [run]
    simp only [Function.update_self, UdpCache.release, PoolArena.free, UdpCache.del,
      UdpWorld.linked, record, Function.update_of_ne other.symm]

/-- What a registration does to the activity of the sessions. -/
theorem UdpInv.register_activity {memalign : (p : MemoryPool) → PlacedSlab p}
    (inv : UdpInv cfg w ⟨some a, none, deferred⟩) (atA : w.sessions.record a = some s)
    (own : s.nat = nat) (blank : ∀ side, s.node side = none)
    (freshKey : ∀ m x, (w.nodes nat).record m = some x → x.key ≠ s.key nat) {ok : Bool}
    (run : udpNodeRegister cfg memalign w nat a s (s.key nat) now = (w', ok)) :
    UdpUsed (if ok then some (a, now) else none) w w' ∧
      UdpFrees (fun b => ∃ n x, (w.nodes nat).record n = some x ∧ x.session = b ∧
        UdpEvicts cfg nat (s.key nat) now w w' n) w w' := by
  -- no old node refers to the hidden session
  have unused : ∀ side m x, (w.nodes side).record m = some x → x.session ≠ a := by
    intro side m x atM same
    obtain ⟨t, atX, _⟩ := inv.links.node side m x atM
    rw [same] at atX
    simp [UdpHidden.registered] at atX
  rcases udpNodeRegister_cases memalign now inv atA own blank freshKey with
    ⟨after, call, alloced, none, failed⟩ | ⟨n, after, call, _, fresh, record, core, kept | evicted⟩
  · cases failed.symm.trans run
    obtain ⟨_, record, _⟩ := (inv.nodes nat).alloc_none alloced none
    refine ⟨.of_records (records_update record), .of_effects _ rfl fun b member => ?_⟩
    simp at member
  · cases kept.1.symm.trans run
    refine ⟨linked_activity unused record, .of_effects _ rfl fun b member => ?_⟩
    simp at member
  · obtain ⟨victim, listed, other, y, atVictim, added, closed⟩ := evicted
    cases closed.symm.trans run
    have evicts := inv.register_evicts core fresh record atVictim other added
    have atVictim' : ((w.linked nat a s n after call).nodes nat).record victim = some y := by
      simp only [UdpWorld.linked, Function.update_self, record, Function.update_of_ne other, atVictim]
    obtain ⟨gone, freed⟩ := core.close_activity atVictim'
    refine ⟨(linked_activity unused record).trans_none gone, UdpFrees.trans (.of_effects _ rfl ?_)
      (freed.mono fun b same => ⟨victim, y, atVictim, same.symm, evicts⟩)⟩
    intro b member
    simp at member

end Tproxy
