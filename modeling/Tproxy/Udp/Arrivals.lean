import Tproxy.Udp.Activity

namespace Tproxy

variable {cfg : UdpConfig} {w w' : UdpWorld} {a fd : Nat} {deferred : List Nat} {now : EvTstamp}
  {pkt : UdpIngress} {answer : UdpIngressAnswer cfg} {result : Option Nat}

/-- The session at `b` was evicted for the new session of a packet. -/
def UdpDisplaced (cfg : UdpConfig) (pkt : UdpIngress) (now : EvTstamp) (w w' : UdpWorld) (b : Nat) :
    Prop :=
  ∃ n x, (w.nodes pkt.nat).record n = some x ∧ x.session = b ∧
    UdpEvicts cfg pkt.nat (pkt.key pkt.nat) now w w' n

theorem UdpDisplaced.congr {v v' : UdpWorld} {b : Nat} (displaced : UdpDisplaced cfg pkt now w w' b)
    (before : v.nodes = w.nodes) (after : v'.nodes = w'.nodes) : UdpDisplaced cfg pkt now v v' b := by
  obtain ⟨n, x, atN, back, evicts⟩ := displaced
  exact ⟨n, x, before ▸ atN, back, evicts.congr before after⟩

/-- Symmetric sessions exist with fakedns only. -/
theorem UdpIngress.usable_nat (pkt : UdpIngress)
    (usable : pkt.usesFakedns = true → cfg.fakednsEnabled = true) (own : pkt.nat = .symmetric) :
    cfg.fakednsEnabled = true := by
  unfold UdpIngress.nat at own
  split at own
  · rename_i uses
    exact usable uses
  · cases own

/-- A new session frees its own block if it fails, and the session of a victim. -/
theorem UdpInv.create_on_activity (inv : UdpInv cfg w ⟨none, some fd, deferred⟩) (serverIdx : Nat)
    (usable : pkt.usesFakedns = true → cfg.fakednsEnabled = true)
    (freshKey : ∀ m x, (w.nodes pkt.nat).record m = some x → x.key ≠ pkt.key pkt.nat)
    (run : udpSessionCreateOn cfg answer w pkt pkt.symmetricKey serverIdx fd now = (w', result)) :
    UdpUsed (result.map fun a => (a, now)) w w' ∧
      UdpFrees (fun b => w.sessions.record b = none ∨ UdpDisplaced cfg pkt now w w' b) w w' := by
  unfold udpSessionCreateOn at run
  rcases alloced : w.sessions.alloc answer.sessionMemalign cfg.sessionSize (pkt.session serverIdx fd) with
    ⟨after, call⟩
  simp only [alloced] at run
  cases got : call.result with
  | none =>
    simp only [got] at run
    cases run
    refine ⟨.of_records fun _ => rfl, .of_effects [.alloc .session call, .closed fd] ?_ ?_⟩
    · simp only [UdpWorld.emit, List.append_assoc, List.cons_append, List.nil_append]
    · intro b member
      simp at member
  | some a =>
    obtain ⟨created, fresh, record⟩ := inv.session_alloc_some alloced got rfl
    have atA : after.record a = some (pkt.session serverIdx fd) := by
      rw [record, Function.update_self]
    simp only [got] at run
    split at run
    · cases run
      rw [udpSessionFree_eq cfg atA]
      refine ⟨.of_records fun _ => rfl, ⟨[.alloc .session call, .closed fd, .free .session a], ?_, ?_⟩⟩
      · simp only [List.append_assoc, List.cons_append, List.nil_append]
        rfl
      · intro b member
        have same : b = a := by simpa using member
        exact Or.inl (same ▸ fresh)
    · rw [udpSessionRegister_eq] at run
      rcases outcome : udpNodeRegister cfg answer.nodeMemalign
          { w with sessions := after, trace := w.trace ++ [.alloc .session call] } pkt.nat a
          (pkt.session serverIdx fd) ((pkt.session serverIdx fd).key pkt.nat) now with ⟨w₁, ok⟩
      rw [outcome] at run
      have freshKey' : ∀ m x, (w.nodes pkt.nat).record m = some x →
          x.key ≠ (pkt.session serverIdx fd).key pkt.nat := fun m x atM => by
        rw [UdpIngress.session_key]
        exact freshKey m x atM
      obtain ⟨used, frees⟩ := created.register_activity atA rfl (fun _ => rfl) freshKey' outcome
      rw [UdpIngress.session_key] at frees
      have begun : UdpFrees (fun b => w.sessions.record b = none ∨ UdpDisplaced cfg pkt now w w₁ b) w w₁ := by
        refine UdpFrees.trans (.of_effects [.alloc .session call] rfl fun b member => ?_)
          (frees.mono fun b displaced => Or.inr (UdpDisplaced.congr displaced rfl rfl))
        simp at member
      cases ok with
      | true =>
        cases run
        exact ⟨used, begun⟩
      | false =>
        cases run
        have same := (created.register_failed atA rfl (fun _ => rfl) (pkt.usable_nat usable) freshKey'
          outcome).2
        have atA₁ : w₁.sessions.record a = some (pkt.session serverIdx fd) := by
          rw [same]
          exact atA
        have undone := udpSessionFree_eq cfg atA₁
        rw [undone]
        refine ⟨used.trans (.of_records fun _ => rfl), UdpFrees.trans
          (begun.mono fun b => Or.imp_right fun displaced => displaced.congr rfl rfl)
          ⟨_, rfl, fun b member => ?_⟩⟩
        have own : b = a := by simpa using member
        exact Or.inl (own ▸ fresh)

theorem udpRelayConnectServer_quiet (answer : UdpIngressAnswer cfg) (w : UdpWorld) :
    UdpQuiet w (udpRelayConnectServer answer w).1 ∧
      (udpRelayConnectServer answer w).1.sessions = w.sessions := by
  unfold udpRelayConnectServer
  split
  · exact ⟨.refl, rfl⟩
  · split
    · exact ⟨.of_effects _ rfl rfl fun b member => by simp at member, rfl⟩
    · exact ⟨.of_effects _ rfl rfl fun b member => by simp at member, rfl⟩

theorem UdpInv.create_activity (inv : UdpInv cfg w ⟨none, none, deferred⟩) (serverIdx : Nat)
    (usable : pkt.usesFakedns = true → cfg.fakednsEnabled = true)
    (freshKey : ∀ m x, (w.nodes pkt.nat).record m = some x → x.key ≠ pkt.key pkt.nat)
    (run : udpSessionCreate cfg answer w pkt pkt.symmetricKey serverIdx now = (w', result)) :
    UdpUsed (result.map fun a => (a, now)) w w' ∧
      UdpFrees (fun b => w.sessions.record b = none ∨ UdpDisplaced cfg pkt now w w' b) w w' := by
  unfold udpSessionCreate at run
  have sockets := udpRelayConnectServer_quiet answer w
  rcases connect : udpRelayConnectServer answer w with ⟨w₁, fd⟩
  have connected := inv.connect connect
  rw [connect] at run sockets
  obtain ⟨opened, sessions⟩ := sockets
  cases fd with
  | none =>
    cases run
    exact ⟨opened.used, opened.frees_any _⟩
  | some fd =>
    obtain ⟨used, frees⟩ := connected.create_on_activity serverIdx usable
      (by rw [opened.nodes]; exact freshKey) run
    refine ⟨opened.used.trans used, (opened.frees_any _).trans (frees.mono fun b => Or.imp
      (fun new => ?_) fun displaced => displaced.congr opened.nodes.symm rfl)⟩
    rw [← sessions]
    exact new

/-- The session at `b` had the packet's key, its server has failed and the best
server is healthy. -/
def UdpReplaced (answer : UdpIngressAnswer cfg) (pkt : UdpIngress) (w : UdpWorld) (b : Nat) : Prop :=
  ∃ n x s, (w.nodes pkt.nat).record n = some x ∧ x.session = b ∧ x.key = pkt.key pkt.nat ∧
    w.sessions.record b = some s ∧ answer.selector.health s.serverIdx = .failed ∧
    answer.selector.health answer.selector.bestIdx = .ok

/-- The table has room again once the session of one of its nodes is closed. -/
theorem UdpInv.close_room {nat : UdpNat} {n : Nat} (inv : UdpInv cfg w ⟨none, none, deferred⟩)
    {x : UdpNode nat.Key} (atN : (w.nodes nat).record n = some x) :
    ((udpSessionClose cfg w x.session .indexed).nodes nat).table.length < cfg.maxsize nat := by
  obtain ⟨_, t, _, run⟩ := inv.toUdpCore.close atN
  have listed : n ∈ (w.nodes nat).table := (inv.links.live nat n).mp (by rw [atN]; rfl)
  have size := inv.sizes nat
  have positive := List.length_pos_of_mem listed
  rw [run]
  simp only [Function.update_self, UdpCache.release, UdpCache.del, List.length_erase_of_mem listed]
  omega

theorem UdpInv.get_or_create_activity (inv : UdpInv cfg w ⟨none, none, deferred⟩)
    (usable : pkt.usesFakedns = true → cfg.fakednsEnabled = true)
    (run : udpSessionGetOrCreate cfg answer w pkt pkt.symmetricKey now = (w', result)) :
    UdpUsed (result.map fun a => (a, now)) w w' ∧
      UdpFrees (fun b => w.sessions.record b = none ∨ UdpDisplaced cfg pkt now w w' b ∨
        UdpReplaced answer pkt w b) w w' := by
  unfold udpSessionGetOrCreate at run
  rw [udpSessionLookup_eq] at run
  cases found : udpNodeLookup w pkt.nat (pkt.key pkt.nat) with
  | none =>
    rw [found] at run
    obtain ⟨used, frees⟩ := inv.create_activity answer.bestUdp usable (inv.links.lookup_none found) run
    exact ⟨used, frees.mono fun b => Or.imp_right Or.inl⟩
  | some a =>
    obtain ⟨n, x, atN, sameKey, rfl⟩ := NatLinks.lookup_some found
    obtain ⟨s, atA, _⟩ := inv.links.node pkt.nat n x atN
    have atA' : w.sessions.record x.session = some s := atA
    rw [found] at run
    simp only [atA', Option.bind_some] at run
    cases replacement : serverSelectorUdpReplacement answer.selector s.serverIdx with
    | none =>
      rw [replacement] at run
      cases run
      exact ⟨inv.touch_activity x.session now, .refl (udpSessionTouch_trace w x.session now)⟩
    | some serverIdx =>
      rw [replacement] at run
      have failing : answer.selector.health s.serverIdx = .failed ∧
          answer.selector.health answer.selector.bestIdx = .ok := by
        unfold serverSelectorUdpReplacement at replacement
        split at replacement
        · rename_i both
          exact both.2.2.2
        · cases replacement
      have closed := inv.close atN
      obtain ⟨_, t, _, effect⟩ := inv.toUdpCore.close atN
      obtain ⟨gone, freed⟩ := inv.toUdpCore.close_activity atN
      have room := inv.close_room atN
      obtain ⟨used, frees⟩ := closed.create_activity serverIdx usable
        (fun m y atM => sameKey ▸ inv.close_freshKey atN m y atM) run
      refine ⟨gone.trans used, UdpFrees.trans (freed.mono fun b same => ?_) (frees.mono fun b => ?_)⟩
      · exact Or.inr (Or.inr ⟨n, x, s, atN, same.symm, sameKey, same ▸ atA', failing⟩)
      · rintro (unused | ⟨m, y, _, _, evicts⟩)
        · by_cases same : b = x.session
          · exact Or.inr (Or.inr ⟨n, x, s, atN, same.symm, sameKey, same ▸ atA', failing⟩)
          · rw [effect] at unused
            simp only [PoolArena.free, Function.update_of_ne same] at unused
            exact Or.inl unused
        · exact absurd evicts.full (Nat.ne_of_lt room)

theorem udpRelaySendToServer_quiet (answer : UdpIngressAnswer cfg) (w : UdpWorld) (a : Nat)
    (target : Ss2022Addr) (payload : List UInt8) :
    UdpQuiet w (udpRelaySendToServer answer w a target payload) := by
  unfold udpRelaySendToServer
  split
  · exact .of_effects _ rfl rfl fun b member => by simp at member
  · exact .refl

/-- What a packet from a client does to the activity of the sessions. -/
theorem UdpInv.ingress_activity (inv : UdpInv cfg w .idle) (msg : UdpIngressMsg)
    (answer : UdpIngressAnswer cfg) (now : EvTstamp) :
    UdpUsed ((UdpAction.ingress msg answer now).use cfg w) w
        (udpProxyHandleIngress cfg answer w msg now) ∧
      UdpFrees (fun b => w.sessions.record b = none ∨
        ∃ pkt, udpIngressParse cfg.fakednsEnabled cfg.domainNameSize msg = some pkt ∧
          (UdpDisplaced cfg pkt now w (udpProxyHandleIngress cfg answer w msg now) b ∨
            UdpReplaced answer pkt w b)) w (udpProxyHandleIngress cfg answer w msg now) := by
  cases parsed : udpIngressParse cfg.fakednsEnabled cfg.domainNameSize msg with
  | none =>
    simp only [udpProxyHandleIngress, UdpAction.use, parsed]
    exact ⟨.refl, .refl rfl⟩
  | some pkt =>
    simp only [udpProxyHandleIngress, UdpAction.use, parsed]
    rcases run : udpSessionGetOrCreate cfg answer w pkt pkt.symmetricKey now with ⟨w₁, result⟩
    obtain ⟨used, frees⟩ := UdpInv.get_or_create_activity inv (udpIngressParse_fakedns parsed) run
    cases result with
    | none =>
      exact ⟨used, frees.mono fun b => Or.imp_right fun why => ⟨pkt, rfl, why⟩⟩
    | some a =>
      have sent := udpRelaySendToServer_quiet answer w₁ a pkt.ssTarget msg.payload
      refine ⟨used.trans_none sent.used, UdpFrees.trans (frees.mono fun b => Or.imp_right fun why =>
        ⟨pkt, rfl, why.imp_left fun displaced => displaced.congr rfl sent.nodes⟩) (sent.frees_any _)⟩

end Tproxy
