import Tproxy.Udp.Translation

namespace Tproxy

/-- The action is the packet `pkt` of a client, which goes out through `fd`. -/
def UdpForwards (cfg : UdpConfig) (w : UdpWorld) (action : UdpAction cfg) (pkt : UdpIngress) (fd : Nat) : Prop :=
  (∃ msg answer now, action = .ingress msg answer now ∧
    udpIngressParse cfg.fakednsEnabled cfg.domainNameSize msg = some pkt) ∧
    ∃ data, .send fd data ∈ (udpAct cfg w action).trace.drop w.trace.length

/-- Packets that share a mapping: those of one client, but for a name also with one target. -/
def UdpIngress.SameMapping (p q : UdpIngress) : Prop :=
  p.clientEndpoint = q.clientEndpoint ∧ p.usesFakedns = q.usesFakedns ∧
    (p.usesFakedns = true → p.originalTargetEndpoint = q.originalTargetEndpoint)

variable {cfg : UdpConfig} {new : UdpFlow → Prop} {w w' w'' : UdpWorld} {action : UdpAction cfg} {a : Nat}
  {s : UdpSession} {pool : UdpPool} {trace effects : List UdpEffect}

section Held

theorem Audited.last {effect : UdpEffect} (audited : Audited (trace ++ [effect])) :
    Audited trace ∧ effect.Fine trace := by
  generalize whole : trace ++ [effect] = log at audited
  cases audited with
  | nil => exact absurd whole (by simp)
  | snoc before fine =>
    obtain ⟨rfl, same⟩ := List.append_inj' whole rfl
    cases same
    exact ⟨before, fine⟩

/-- A block that is not freed is held on. -/
theorem heldBlocks_append (held : a ∈ heldBlocks pool trace) (kept : .free pool a ∉ effects) :
    a ∈ heldBlocks pool (trace ++ effects) := by
  induction effects using List.reverseRecOn with
  | nil => rwa [List.append_nil]
  | append_singleton effects effect ih =>
    simp only [List.mem_append, List.mem_singleton, not_or] at kept
    have before := ih kept.1
    rw [← List.append_assoc, heldBlocks_snoc]
    unfold UdpEffect.blocks
    split
    · split
      · exact List.mem_append_right _ before
      · exact before
    · rename_i p block
      split
      · rename_i same
        refine (List.mem_erase_of_ne ?_).mpr before
        rintro rfl
        exact kept.2 (same ▸ rfl)
      · exact before
    · exact before

/-- A block that is held on is not handed out again. -/
theorem Audited.not_handed_out (audited : Audited (trace ++ effects)) (held : a ∈ heldBlocks .session trace)
    (kept : .free .session a ∉ effects) : ¬ UdpHandedOut a effects := by
  rintro ⟨call, member, got⟩
  induction effects using List.reverseRecOn with
  | nil => cases member
  | append_singleton effects effect ih =>
    rw [← List.append_assoc] at audited
    obtain ⟨before, fine⟩ := audited.last
    simp only [List.mem_append, List.mem_singleton, not_or] at kept member
    rcases member with old | rfl
    · exact ih before kept.1 old
    · exact fine a got (heldBlocks_append held kept.1)

end Held

section Retains

theorem UdpInv.acts_retains (inv : UdpInv cfg w .idle) (actions : List (UdpAction cfg)) :
    UdpRetains (fun _ => True) w (udpActs cfg w actions) := by
  induction actions generalizing w with
  | nil => exact .refl
  | cons action actions ih =>
    exact ((inv.act_retains action).mono fun _ _ => trivial).trans (ih (inv.act action))

/-- A session that is not freed keeps its client and its socket. -/
theorem UdpRetains.session (retains : UdpRetains new w w') (inv : UdpInv cfg w .idle) (inv' : UdpInv cfg w' .idle)
    (atA : w.sessions.record a = some s) (kept : .free .session a ∉ w'.trace.drop w.trace.length) :
    ∃ t, w'.sessions.record a = some t ∧ s.Same t := by
  obtain ⟨effects, trace, old⟩ := retains
  rw [trace, List.drop_left] at kept
  have held : a ∈ heldBlocks .session w.trace :=
    (inv.ledger.blocks .session a).mpr (Option.isSome_iff_exists.mpr ⟨s, atA⟩)
  have live : (w'.sessions.record a).isSome := by
    refine (inv'.ledger.blocks .session a).mp ?_
    rw [trace]
    exact heldBlocks_append held kept
  obtain ⟨t, atA'⟩ := Option.isSome_iff_exists.mp live
  have audited := inv'.ledger.audited
  rw [trace] at audited
  obtain ⟨r, before, same⟩ := (old a t atA').resolve_left fun both => audited.not_handed_out held kept both.2
  cases atA.symm.trans before
  exact ⟨t, atA', same⟩

end Retains

section Mapping
variable {w₀ : UdpWorld} {past mid : List (UdpAction cfg)} {action₁ action₂ : UdpAction cfg}
  {pkt pkt₁ pkt₂ p q : UdpIngress}
  {fd fd₁ fd₂ b : Nat} {t : UdpSession}

/-- What goes out through a descriptor is a packet of its session. -/
theorem UdpInv.forwards (inv : UdpInv cfg w .idle) (forwards : UdpForwards cfg w action pkt fd) :
    ∃ a s, (udpAct cfg w action).sessions.record a = some s ∧ pkt.Uses s ∧ s.serverFd = fd := by
  obtain ⟨⟨msg, answer, now, rfl, parsed⟩, data, member⟩ := forwards
  change .send fd data ∈ (udpProxyHandleIngress cfg answer w msg now).trace.drop w.trace.length at member
  change ∃ a s, (udpProxyHandleIngress cfg answer w msg now).sessions.record a = some s ∧ _
  have unsent {effects : List UdpEffect} (silent : effects.filter UdpEffect.isSend = []) :
      .send fd data ∉ effects := fun listed => by
    have sends : UdpEffect.send fd data ∈ effects.filter UdpEffect.isSend := List.mem_filter.mpr ⟨listed, rfl⟩
    rw [silent] at sends
    cases sends
  rcases inv.ingress_cases msg answer now with
    ⟨carries, _⟩ | ⟨pkt', data', a, s, w₁, parsed', _, carries, _, atA, uses, sent⟩
  · obtain ⟨effects, trace, silent, _⟩ := carries.carried
    rw [trace, List.drop_left] at member
    exact absurd member (unsent silent)
  · cases parsed.symm.trans parsed'
    obtain ⟨effects, trace, silent, _⟩ := carries.carried
    rw [sent, UdpWorld.emit, trace, List.append_assoc, List.drop_left] at member
    rcases List.mem_append.mp member with early | last
    · exact absurd early (unsent silent)
    · cases List.mem_singleton.mp last
      exact ⟨a, s, by rw [sent]; exact atA, uses, rfl⟩

/-- There is one session for a key. -/
theorem UdpInv.own_key (inv : UdpInv cfg w .idle) (atA : w.sessions.record a = some s)
    (atB : w.sessions.record b = some t) {nat : UdpNat} (natS : s.nat = nat) (natT : t.nat = nat)
    (same : s.key nat = t.key nat) : b = a := by
  have nodeA := inv.links.session a s atA
  have nodeB := inv.links.session b t atB
  rw [natS] at nodeA
  rw [natT] at nodeB
  obtain ⟨n, x, _, atN, back⟩ := nodeA
  obtain ⟨m, y, _, atM, back'⟩ := nodeB
  obtain ⟨s', atS, _, _, keyX⟩ := inv.links.node nat n x atN
  obtain ⟨t', atT, _, _, keyY⟩ := inv.links.node nat m y atM
  rw [back] at atS
  rw [back'] at atT
  cases atA.symm.trans atS
  cases atB.symm.trans atT
  cases inv.links.keys nat n m x y atN atM (keyX.trans (same.trans keyY.symm))
  cases atN.symm.trans atM
  exact back'.symm.trans back

theorem UdpIngress.sameMapping_iff : p.SameMapping q ↔ p.nat = q.nat ∧ p.key p.nat = q.key p.nat := by
  unfold UdpIngress.SameMapping UdpIngress.nat
  cases p.usesFakedns <;> cases q.usesFakedns
  · exact ⟨fun all => ⟨rfl, all.1⟩, fun both => ⟨both.2, rfl, nofun⟩⟩
  · simp
  · simp
  · refine ⟨fun all => ⟨rfl, congrArg₂ UdpSymmetricKey.mk all.1 (all.2.2 rfl)⟩, fun both => ?_⟩
    obtain ⟨client, target⟩ := UdpSymmetricKey.mk.inj both.2
    exact ⟨client, rfl, fun _ => target⟩

theorem UdpSession.Same.nat (same : s.Same t) : s.nat = t.nat := by
  have fakedns : s.usesFakedns = t.usesFakedns := congrArg UdpFlow.usesFakedns same.1
  rw [UdpSession.nat, UdpSession.nat, fakedns]

theorem UdpSession.Same.key (same : s.Same t) (nat : UdpNat) : s.key nat = t.key nat := by
  have client : s.clientEndpoint = t.clientEndpoint := congrArg UdpFlow.client same.1
  have target : s.originalTargetEndpoint = t.originalTargetEndpoint := congrArg UdpFlow.target same.1
  cases nat with
  | fullcone => exact client
  | symmetric => exact congrArg₂ UdpSymmetricKey.mk client target

/-- The mapping of a client to a server's socket is stable: of two packets in a run, with
the session of the first not freed between them, the second goes out through the socket of
the first if and only if they share a mapping. So the packets of one client to any real
targets look alike to the targets, and no other client's packets do. -/
theorem udp_mapping_kept {answer : (pool : UdpPool) → UdpPoolAnswer cfg pool}
    (created : udpWorldCreate cfg answer = some w₀)
    (first : UdpForwards cfg (udpActs cfg w₀ past) action₁ pkt₁ fd₁)
    (second : UdpForwards cfg (udpActs cfg w₀ (past ++ action₁ :: mid)) action₂ pkt₂ fd₂)
    (kept : ∀ a s, (udpActs cfg w₀ (past ++ [action₁])).sessions.record a = some s → s.serverFd = fd₁ →
      .free .session a ∉ (udpActs cfg w₀ (past ++ action₁ :: (mid ++ [action₂]))).trace.drop
        (udpActs cfg w₀ (past ++ [action₁])).trace.length) :
    fd₂ = fd₁ ↔ pkt₁.SameMapping pkt₂ := by
  have start := udpWorldCreate_inv created
  have firstState : udpActs cfg w₀ (past ++ [action₁]) = udpAct cfg (udpActs cfg w₀ past) action₁ :=
    udpActs_snoc ..
  have lastState : udpActs cfg w₀ (past ++ action₁ :: (mid ++ [action₂])) =
      udpAct cfg (udpActs cfg w₀ (past ++ action₁ :: mid)) action₂ := by
    rw [← udpActs_snoc, List.append_assoc, List.cons_append]
  have later : udpActs cfg w₀ (past ++ action₁ :: (mid ++ [action₂])) =
      udpActs cfg (udpActs cfg w₀ (past ++ [action₁])) (mid ++ [action₂]) := by
    simp only [udpActs, List.foldl_append, List.foldl_cons, List.foldl_nil]
  obtain ⟨a, s, atA, uses, rfl⟩ := (start.acts past).forwards first
  obtain ⟨b, t, atB, uses', rfl⟩ := (start.acts (past ++ action₁ :: mid)).forwards second
  rw [← firstState] at atA
  rw [← lastState] at atB
  have inv := start.acts (past ++ [action₁])
  have inv' := start.acts (past ++ action₁ :: (mid ++ [action₂]))
  have retains := inv.acts_retains (mid ++ [action₂])
  rw [← later] at retains
  obtain ⟨s', atA', same⟩ := retains.session inv inv' atA (kept a s atA rfl)
  rw [UdpIngress.sameMapping_iff, ← uses.2, ← uses.1, ← uses'.1]
  constructor
  · intro sameFd
    cases UdpInv.own_socket inv' atA' atB (sameFd.trans same.2)
    cases atA'.symm.trans atB
    refine ⟨same.nat, ?_⟩
    rw [same.key, same.nat, uses'.1, uses'.2]
  · rintro ⟨sameNat, sameKey⟩
    have key : s'.key s.nat = t.key s.nat := by
      rw [← same.key, sameKey, sameNat, uses'.1, uses'.2]
    cases UdpInv.own_key inv' atA' atB same.nat.symm sameNat.symm key
    cases atA'.symm.trans atB
    exact same.2.symm

/-- A packet from the client at `port`. -/
def udpTinyTo (port : Nat) (target : List UInt8) : UdpAction udpTinyConfig :=
  .ingress { (udpTinyPacket port none).1 with origDst := some ⟨53, target⟩ } (udpTinyPacket port none).2 5

/-- A client that sends to two targets. -/
theorem udp_mapping_kept_targets : ∃ pkt₁ pkt₂ fd₁ fd₂,
    UdpForwards udpTinyConfig (udpActs udpTinyConfig udpTinyStart []) (udpTinyTo 1 [10, 0, 0, 2]) pkt₁ fd₁ ∧
      UdpForwards udpTinyConfig (udpActs udpTinyConfig udpTinyStart ([] ++ udpTinyTo 1 [10, 0, 0, 2] :: []))
        (udpTinyTo 1 [10, 0, 0, 3]) pkt₂ fd₂ ∧
      pkt₁.originalTargetEndpoint ≠ pkt₂.originalTargetEndpoint ∧ (fd₂ = fd₁ ↔ pkt₁.SameMapping pkt₂) := by
  have first : UdpForwards udpTinyConfig (udpActs udpTinyConfig udpTinyStart [])
      (udpTinyTo 1 [10, 0, 0, 2]) _ 3 := ⟨⟨_, _, _, rfl, rfl⟩, [10, 7], List.mem_of_getLast? rfl⟩
  have second : UdpForwards udpTinyConfig
      (udpActs udpTinyConfig udpTinyStart ([] ++ udpTinyTo 1 [10, 0, 0, 2] :: []))
      (udpTinyTo 1 [10, 0, 0, 3]) _ 3 := ⟨⟨_, _, _, rfl, rfl⟩, [10, 7], List.mem_of_getLast? rfl⟩
  have between : (udpActs udpTinyConfig udpTinyStart
        ([] ++ udpTinyTo 1 [10, 0, 0, 2] :: ([] ++ [udpTinyTo 1 [10, 0, 0, 3]]))).trace.drop
      (udpActs udpTinyConfig udpTinyStart ([] ++ [udpTinyTo 1 [10, 0, 0, 2]])).trace.length =
        [.send 3 [10, 7]] := rfl
  have created : udpWorldCreate udpTinyConfig udpTinyPools = some udpTinyStart := (Option.some_get _).symm
  refine ⟨_, _, 3, 3, first, second, by decide, ?_⟩
  refine udp_mapping_kept created first second fun a s _ _ => ?_
  rw [between]
  simp

end Mapping

end Tproxy
