import Tproxy.Udp.Register

namespace Tproxy

/-- The table that a packet's session belongs to. -/
def UdpIngress.nat (pkt : UdpIngress) : UdpNat := if pkt.usesFakedns then .symmetric else .fullcone

/-- The key of a packet's session in that table. -/
def UdpIngress.key (pkt : UdpIngress) : (nat : UdpNat) → nat.Key
  | .fullcone => pkt.clientEndpoint
  | .symmetric => (⟨pkt.clientEndpoint, pkt.originalTargetEndpoint⟩ : UdpSymmetricKey)

variable {cfg : UdpConfig} {w w' : UdpWorld} {nat : UdpNat} {a n fd : Nat} {s : UdpSession}
  {deferred : List Nat} {now : EvTstamp} {pkt : UdpIngress} {answer : UdpIngressAnswer cfg}

theorem UdpIngress.session_key (serverIdx : Nat) (nat : UdpNat) :
    (pkt.session serverIdx fd).key nat = pkt.key nat := by
  cases nat <;> rfl

theorem udpSessionLookup_eq (w : UdpWorld) (pkt : UdpIngress) :
    udpSessionLookup w pkt pkt.symmetricKey = udpNodeLookup w pkt.nat (pkt.key pkt.nat) := by
  unfold udpSessionLookup UdpIngress.symmetricKey UdpIngress.nat
  cases pkt.usesFakedns <;> rfl

/-- The registration that `udp_session_create` chooses. -/
theorem udpSessionRegister_eq (memalign : (p : MemoryPool) → PlacedSlab p) (serverIdx : Nat) :
    (if (pkt.session serverIdx fd).usesFakedns then
        udpSessionRegisterSymmetric cfg memalign w a (pkt.session serverIdx fd) pkt.symmetricKey now
      else udpSessionRegisterFullcone cfg memalign w a (pkt.session serverIdx fd) now) =
      udpNodeRegister cfg memalign w pkt.nat a (pkt.session serverIdx fd)
        ((pkt.session serverIdx fd).key pkt.nat) now := by
  unfold UdpIngress.symmetricKey UdpIngress.nat UdpIngress.session
  cases pkt.usesFakedns <;> rfl

/-- A hit returns the session of the node with that key. -/
theorem NatLinks.lookup_some {key : nat.Key} (found : udpNodeLookup w nat key = some a) :
    ∃ n x, (w.nodes nat).record n = some x ∧ x.key = key ∧ x.session = a := by
  obtain ⟨n, hit, rest⟩ := Option.bind_eq_some_iff.mp found
  obtain ⟨x, atN, rfl⟩ := Option.map_eq_some_iff.mp rest
  have matched := List.find?_some hit
  rw [atN] at matched
  exact ⟨n, x, atN, of_decide_eq_true matched, rfl⟩

/-- After a miss no node has that key. -/
theorem NatLinks.lookup_none {sessions : Nat → Option UdpSession} (links : NatLinks sessions w.nodes)
    {key : nat.Key} (missed : udpNodeLookup w nat key = none) (n : Nat) (x : UdpNode nat.Key)
    (atN : (w.nodes nat).record n = some x) : x.key ≠ key := by
  intro same
  have listed : n ∈ (w.nodes nat).table := (links.live nat n).mp (by rw [atN]; rfl)
  cases hit : (w.nodes nat).find key with
  | none =>
    have differ := List.find?_eq_none.mp hit n listed
    rw [atN] at differ
    exact differ (decide_eq_true same)
  | some m =>
    have listed' : m ∈ (w.nodes nat).table := List.mem_of_find?_eq_some hit
    obtain ⟨y, atM⟩ := Option.isSome_iff_exists.mp ((links.live nat m).mpr listed')
    simp [udpNodeLookup, hit, atM] at missed

/-- The tables stay small where one of them changes. -/
theorem UdpCore.bounded {hidden hidden' : UdpHidden} (core : UdpCore cfg w' hidden')
    (inv : UdpInv cfg w hidden) (nat : UdpNat) (others : ∀ side, side ≠ nat → w'.nodes side = w.nodes side)
    (small : (w'.nodes nat).table.length ≤ cfg.maxsize nat)
    (off : nat = .symmetric → cfg.fakednsEnabled = false → (w'.nodes nat).table = []) :
    UdpInv cfg w' hidden' := by
  refine { core with sizes := fun side => ?_, off := fun disabled => ?_ }
  · by_cases here : side = nat
    · exact here ▸ small
    · rw [others side here]
      exact inv.sizes side
  · by_cases here : nat = .symmetric
    · exact here ▸ off here disabled
    · rw [others .symmetric (Ne.symm here)]
      exact inv.off disabled

theorem UdpInv.linked (inv : UdpInv cfg w ⟨some a, none, deferred⟩)
    (usable : nat = .symmetric → cfg.fakednsEnabled = true) {after : PoolArena (UdpNode nat.Key)}
    {call : PoolCall} (core : UdpCore cfg (w.linked nat a s n after call) ⟨none, none, deferred⟩)
    (room : (w.nodes nat).table.length < cfg.maxsize nat) :
    UdpInv cfg (w.linked nat a s n after call) ⟨none, none, deferred⟩ := by
  refine core.bounded inv nat (fun side apart => ?_) ?_ fun symmetric disabled => ?_
  · exact Function.update_of_ne apart ..
  · simp only [UdpWorld.linked, Function.update_self, List.length_append, List.length_singleton]
    omega
  · rw [usable symmetric] at disabled
    cases disabled

/-- Closing the session of a node keeps the invariant. -/
theorem UdpInv.close (inv : UdpInv cfg w ⟨none, none, deferred⟩) {x : UdpNode nat.Key}
    (atN : (w.nodes nat).record n = some x) :
    UdpInv cfg (udpSessionClose cfg w x.session .indexed) ⟨none, none, deferred⟩ := by
  obtain ⟨core, t, _, run⟩ := inv.toUdpCore.close atN
  rw [run] at core ⊢
  refine core.bounded inv nat (fun side apart => ?_) ?_ fun symmetric disabled => ?_
  · exact Function.update_of_ne apart ..
  · simp only [Function.update_self, UdpCache.release, UdpCache.del]
    exact List.length_erase_le.trans (inv.sizes nat)
  · subst symmetric
    simp only [Function.update_self, UdpCache.release, UdpCache.del, inv.off disabled, List.erase_nil]

/-- Closing the victim makes up for the new entry. -/
theorem UdpInv.evicted (inv : UdpInv cfg w ⟨some a, none, deferred⟩)
    (usable : nat = .symmetric → cfg.fakednsEnabled = true) {after : PoolArena (UdpNode nat.Key)}
    {call : PoolCall} (core : UdpCore cfg (w.linked nat a s n after call) ⟨none, none, deferred⟩)
    {victim : Nat} (listed : victim ∈ (w.nodes nat).table) {y : UdpNode nat.Key}
    (atVictim : ((w.linked nat a s n after call).nodes nat).record victim = some y) :
    UdpInv cfg (udpSessionClose cfg (w.linked nat a s n after call) y.session .indexed)
      ⟨none, none, deferred⟩ := by
  obtain ⟨closed, t, _, run⟩ := core.close atVictim
  rw [run] at closed ⊢
  refine closed.bounded inv nat (fun side apart => ?_) ?_ fun symmetric disabled => ?_
  · simp only [UdpWorld.linked, Function.update_of_ne apart]
  · have size := inv.sizes nat
    have erased := List.length_erase_of_mem (List.mem_append_left [n] listed)
    simp only [List.length_append, List.length_singleton] at erased
    simp only [UdpWorld.linked, Function.update_self, UdpCache.release, UdpCache.del]
    omega
  · rw [usable symmetric] at disabled
    cases disabled

/-- A registered session is a session like the others. -/
theorem UdpInv.register {memalign : (p : MemoryPool) → PlacedSlab p}
    (inv : UdpInv cfg w ⟨some a, none, deferred⟩) (atA : w.sessions.record a = some s)
    (own : s.nat = nat) (blank : ∀ side, s.node side = none)
    (usable : nat = .symmetric → cfg.fakednsEnabled = true)
    (freshKey : ∀ m x, (w.nodes nat).record m = some x → x.key ≠ s.key nat)
    (run : udpNodeRegister cfg memalign w nat a s (s.key nat) now = (w', true)) :
    UdpInv cfg w' ⟨none, none, deferred⟩ := by
  rcases udpNodeRegister_cases memalign now inv atA own blank freshKey with
    ⟨after, call, _, _, failed⟩ | ⟨n, after, call, _, _, record, core, kept | evicted⟩
  · cases failed.symm.trans run
  · cases kept.1.symm.trans run
    exact inv.linked usable core kept.2
  · obtain ⟨victim, listed, other, y, atVictim, _, closed⟩ := evicted
    cases closed.symm.trans run
    refine inv.evicted usable core listed ?_
    simp only [UdpWorld.linked, Function.update_self, record, Function.update_of_ne other, atVictim]

/-- A failed registration leaves the session without a node. -/
theorem UdpInv.register_failed {memalign : (p : MemoryPool) → PlacedSlab p}
    (inv : UdpInv cfg w ⟨some a, none, deferred⟩) (atA : w.sessions.record a = some s)
    (own : s.nat = nat) (blank : ∀ side, s.node side = none)
    (usable : nat = .symmetric → cfg.fakednsEnabled = true)
    (freshKey : ∀ m x, (w.nodes nat).record m = some x → x.key ≠ s.key nat)
    (run : udpNodeRegister cfg memalign w nat a s (s.key nat) now = (w', false)) :
    UdpInv cfg w' ⟨some a, none, deferred⟩ ∧ w'.sessions = w.sessions := by
  rcases udpNodeRegister_cases memalign now inv atA own blank freshKey with
    ⟨after, call, alloced, none, failed⟩ | ⟨n, after, call, _, _, record, core, kept | evicted⟩
  · cases failed.symm.trans run
    exact ⟨inv.node_alloc_none usable alloced none, rfl⟩
  · cases kept.1.symm.trans run
  · obtain ⟨victim, _, _, y, _, _, closed⟩ := evicted
    cases closed.symm.trans run

/-- A socket for the server: nothing is left of it unless it is connected. -/
theorem UdpInv.connect (inv : UdpInv cfg w ⟨none, none, deferred⟩) {result : Option Nat}
    (run : udpRelayConnectServer answer w = (w', result)) :
    UdpInv cfg w' ⟨none, result, deferred⟩ := by
  unfold udpRelayConnectServer at run
  split at run
  · cases run
    exact inv
  · rename_i fd _
    have ledger := inv.ledger
    split at run
    · cases run
      have opened := ledger.opened (Function.update_self ..) fd.2
      rw [Function.update_idem] at opened
      exact
        { inv with
          ledger := opened
          served := inv.served.append fun pool call member => by simp at member }
    · cases run
      have opened := ledger.opened_closed fd.2 (Function.update_self ..)
      exact
        { inv with
          ledger := opened
          served := inv.served.append fun pool call member => by simp at member }

theorem UdpInv.create_on (inv : UdpInv cfg w ⟨none, some fd, deferred⟩) (serverIdx : Nat)
    (usable : pkt.usesFakedns = true → cfg.fakednsEnabled = true)
    (freshKey : ∀ m x, (w.nodes pkt.nat).record m = some x → x.key ≠ pkt.key pkt.nat) :
    UdpInv cfg (udpSessionCreateOn cfg answer w pkt pkt.symmetricKey serverIdx fd now).1
      ⟨none, none, deferred⟩ := by
  unfold udpSessionCreateOn
  rcases run : w.sessions.alloc answer.sessionMemalign cfg.sessionSize (pkt.session serverIdx fd) with
    ⟨after, call⟩
  simp only [run]
  cases got : call.result with
  | none => exact inv.session_alloc_none run got
  | some a =>
    obtain ⟨alloced, _, record⟩ := inv.session_alloc_some run got rfl
    have atA : after.record a = some (pkt.session serverIdx fd) := by
      rw [record, Function.update_self]
    simp only
    split
    · exact alloced.session_free atA
    · rw [udpSessionRegister_eq]
      have usable' : pkt.nat = .symmetric → cfg.fakednsEnabled = true := fun symmetric =>
        usable (by
          unfold UdpIngress.nat at symmetric
          split at symmetric
          · assumption
          · cases symmetric)
      have freshKey' : ∀ m x, (w.nodes pkt.nat).record m = some x →
          x.key ≠ (pkt.session serverIdx fd).key pkt.nat := fun m x atM => by
        rw [UdpIngress.session_key]
        exact freshKey m x atM
      rcases outcome : udpNodeRegister cfg answer.nodeMemalign
          { w with sessions := after, trace := w.trace ++ [.alloc .session call] } pkt.nat a
          (pkt.session serverIdx fd) ((pkt.session serverIdx fd).key pkt.nat) now with ⟨w', ok⟩
      cases ok with
      | true => exact alloced.register atA rfl (fun _ => rfl) usable' freshKey' outcome
      | false =>
        obtain ⟨failed, same⟩ :=
          alloced.register_failed atA rfl (fun _ => rfl) usable' freshKey' outcome
        exact failed.session_free (by rw [same]; exact atA)

theorem UdpInv.create (inv : UdpInv cfg w ⟨none, none, deferred⟩) (serverIdx : Nat)
    (usable : pkt.usesFakedns = true → cfg.fakednsEnabled = true)
    (freshKey : ∀ m x, (w.nodes pkt.nat).record m = some x → x.key ≠ pkt.key pkt.nat) :
    UdpInv cfg (udpSessionCreate cfg answer w pkt pkt.symmetricKey serverIdx now).1
      ⟨none, none, deferred⟩ := by
  unfold udpSessionCreate
  rcases run : udpRelayConnectServer answer w with ⟨w', result⟩
  have connected := inv.connect run
  have sameNodes : w'.nodes = w.nodes := by
    unfold udpRelayConnectServer at run
    split at run
    · cases run
      rfl
    · split at run <;> cases run <;> rfl
  cases result with
  | none => exact connected
  | some fd =>
    refine connected.create_on serverIdx usable ?_
    rw [sameNodes]
    exact freshKey

/-- Writing a new time into a node keeps the invariant. -/
theorem UdpInv.node_touch (inv : UdpInv cfg w ⟨none, none, deferred⟩) (nat : UdpNat) (n : Nat)
    (now : EvTstamp) : UdpInv cfg (udpNodeTouch w nat n now) ⟨none, none, deferred⟩ := by
  unfold udpNodeTouch
  cases atN : (w.nodes nat).record n with
  | none => exact inv
  | some x =>
    simp only
    have sameTables : ∀ side, (Function.update w.nodes nat
        { w.nodes nat with toPoolArena := (w.nodes nat).write n { x with lastActive := now } }
        side).table = (w.nodes side).table := tables_update rfl
    refine
      { links := inv.links.touch (y := ⟨x.key, x.session, now⟩) atN rfl rfl rfl rfl
        sessions := ?_
        nodes := holds_update inv.nodes ((inv.nodes nat).write _ atN)
        tproxy := inv.tproxy
        ledger := ?_
        served := inv.served
        sizes := fun side => ?_
        off := fun disabled => ?_ }
    · simp only [tableCount, sameTables]
      exact inv.sessions
    · refine inv.ledger.congr (congrArg (Function.update · _ _) (fdOf_congr rfl rfl))
        (live_congr (fun _ => Iff.rfl) (fun side b => ?_) fun _ => Iff.rfl)
      by_cases here : side = nat
      · subst here
        simp only [Function.update_self, PoolArena.write, isSome_update_some, or_iff_left_iff_imp]
        rintro rfl
        rw [atN]
        rfl
      · simp only [Function.update_of_ne here]
    · simp only [sameTables]
      exact inv.sizes side
    · simp only [sameTables]
      exact inv.off disabled

theorem UdpInv.touch (inv : UdpInv cfg w ⟨none, none, deferred⟩) (a : Nat) (now : EvTstamp) :
    UdpInv cfg (udpSessionTouch w a now) ⟨none, none, deferred⟩ := by
  unfold udpSessionTouch
  split
  · exact inv
  · split
    · exact inv.node_touch _ _ now
    · exact inv.node_touch _ _ now
    · exact inv

/-- Once the session of a node is closed, no node has its key. -/
theorem UdpInv.close_freshKey (inv : UdpInv cfg w ⟨none, none, deferred⟩) {x : UdpNode nat.Key}
    (atN : (w.nodes nat).record n = some x) (m : Nat) (y : UdpNode nat.Key)
    (atM : ((udpSessionClose cfg w x.session .indexed).nodes nat).record m = some y) :
    y.key ≠ x.key := by
  intro same
  obtain ⟨_, t, _, closed⟩ := inv.toUdpCore.close atN
  simp only [closed, Function.update_self] at atM
  by_cases gone : m = n
  · simp only [UdpCache.release, PoolArena.free, gone, Function.update_self] at atM
    cases atM
  · simp only [UdpCache.release, PoolArena.free, Function.update_of_ne gone, UdpCache.del] at atM
    exact gone (inv.links.keys nat m n y x atM atN same)

theorem UdpInv.get_or_create (answer : UdpIngressAnswer cfg) (now : EvTstamp)
    (inv : UdpInv cfg w ⟨none, none, deferred⟩) (usable : pkt.usesFakedns = true → cfg.fakednsEnabled = true) :
    UdpInv cfg (udpSessionGetOrCreate cfg answer w pkt pkt.symmetricKey now).1
      ⟨none, none, deferred⟩ := by
  unfold udpSessionGetOrCreate
  rw [udpSessionLookup_eq]
  cases found : udpNodeLookup w pkt.nat (pkt.key pkt.nat) with
  | none => exact inv.create answer.bestUdp usable (inv.links.lookup_none found)
  | some a =>
    simp only
    obtain ⟨n, x, atN, sameKey, rfl⟩ := NatLinks.lookup_some found
    cases (w.sessions.record x.session).bind fun s =>
        serverSelectorUdpReplacement answer.selector s.serverIdx with
    | none => exact inv.touch x.session now
    | some serverIdx =>
      exact (inv.close atN).create serverIdx usable fun m y atM =>
        sameKey ▸ inv.close_freshKey atN m y atM

/-- One packet from a client keeps the invariant. -/
theorem UdpInv.handle_ingress (inv : UdpInv cfg w .idle) (answer : UdpIngressAnswer cfg)
    (msg : UdpIngressMsg) (now : EvTstamp) :
    UdpInv cfg (udpProxyHandleIngress cfg answer w msg now) .idle := by
  unfold udpProxyHandleIngress
  split
  · exact inv
  · rename_i pkt parsed
    have got := UdpInv.get_or_create answer now inv (udpIngressParse_fakedns parsed)
    split
    · rename_i w' run
      rw [run] at got
      exact got
    · rename_i w' a run
      rw [run] at got
      unfold udpRelaySendToServer
      split
      · rename_i s data atA _
        have holds : Function.update w'.fdOf .pending none (.session a) = some s.serverFd := by
          rw [Function.update_of_ne (by simp)]
          simp only [UdpWorld.fdOf, atA, Option.map_some]
        exact
          { got with
            ledger := got.ledger.send holds data
            served := got.served.append fun pool call member => by simp at member }
      · exact got

end Tproxy
