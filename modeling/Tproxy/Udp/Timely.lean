import Mathlib.Data.List.Induction
import Tproxy.Udp.Expiry
import Tproxy.Udp.NatTable

namespace Tproxy

variable {cfg : UdpConfig} {w w' w₀ : UdpWorld} {past : List (UdpAction cfg)} {a b : Nat}

/-- The live session at `a` did not outlive a step from `w` to `w'`: it is gone
afterwards, or its block was given back under way. -/
def UdpRemoved (w w' : UdpWorld) (a : Nat) : Prop :=
  (w.sessions.record a).isSome ∧
    (w'.sessions.record a = none ∨
      ∃ effects, w'.trace = w.trace ++ effects ∧ .free .session a ∈ effects)

/-- Why an action may remove the session at `b`. -/
inductive UdpRemovalCause (cfg : UdpConfig) (w : UdpWorld) (b : Nat) : UdpAction cfg → Prop
  | idle {now nat n x} : (w.nodes nat).record n = some x → x.session = b →
      now - x.lastActive ≥ cfg.idletimeoutSec * tstampSecond → UdpRemovalCause cfg w b (.gcTick now)
  | evicted {msg answer now pkt} : udpIngressParse cfg.fakednsEnabled cfg.domainNameSize msg = some pkt →
      UdpDisplaced cfg pkt now w (udpAct cfg w (.ingress msg answer now)) b →
      UdpRemovalCause cfg w b (.ingress msg answer now)
  | replaced {msg answer now pkt} : udpIngressParse cfg.fakednsEnabled cfg.domainNameSize msg = some pkt →
      UdpReplaced answer pkt w b → UdpRemovalCause cfg w b (.ingress msg answer now)
  | shutdown : UdpRemovalCause cfg w b .closeAll

/-- The activity of the sessions after the actions `past` from `w₀`, and what the
next action may take away. -/
structure UdpTimely (cfg : UdpConfig) (w₀ : UdpWorld) (past : List (UdpAction cfg)) : Prop where
  lastActive : ∀ nat n x, ((udpActs cfg w₀ past).nodes nat).record n = some x →
    UdpLastUsed cfg w₀ past x.session x.lastActive
  removed : ∀ action a, UdpRemoved (udpActs cfg w₀ past) (udpActs cfg w₀ (past ++ [action])) a →
    UdpRemovalCause cfg (udpActs cfg w₀ past) a action
  gc : ∀ now, UdpGcExact cfg now (udpActs cfg w₀ past) (udpActs cfg w₀ (past ++ [.gcTick now]))

/-- A block that is held and not freed stays held. -/
theorem held_of_not_freed {pool : UdpPool} {blocks : List Nat} (effects : List UdpEffect)
    (held : a ∈ blocks) (kept : .free pool a ∉ effects) :
    a ∈ effects.foldl (UdpEffect.blocks pool) blocks := by
  induction effects generalizing blocks with
  | nil => exact held
  | cons effect effects ih =>
    have notFirst : effect ≠ .free pool a := fun same => kept (same ▸ List.mem_cons_self)
    refine ih ?_ fun member => kept (List.mem_cons_of_mem _ member)
    cases effect with
    | alloc p call =>
      simp only [UdpEffect.blocks]
      split
      · exact List.mem_append_right _ held
      · exact held
    | free p block =>
      simp only [UdpEffect.blocks]
      split
      · rename_i same
        subst same
        have differ : a ≠ block := fun equal => notFirst (equal ▸ rfl)
        exact (List.mem_erase_of_ne differ).mpr held
      · exact held
    | opened fd => exact held
    | closed fd => exact held
    | send fd data => exact held
    | sendmmsg fd msgs => exact held

/-- A session goes only when its block is given back. -/
theorem UdpFrees.removed {freed : Nat → Prop} (frees : UdpFrees freed w w') (inv : UdpInv cfg w .idle)
    (after : UdpInv cfg w' .idle) (removed : UdpRemoved w w' a) : freed a := by
  obtain ⟨effects, trace, allowed⟩ := frees
  obtain ⟨live, gone | ⟨effects', trace', member⟩⟩ := removed
  · by_contra kept
    have held := (inv.ledger.blocks .session a).mpr live
    have still := held_of_not_freed effects held fun member => kept (allowed a member)
    rw [heldBlocks, ← List.foldl_append, ← trace] at still
    have alive : (w'.sessions.record a).isSome := (after.ledger.blocks .session a).mp still
    rw [gone] at alive
    cases alive
  · rw [trace] at trace'
    exact allowed a (List.append_cancel_left trace' ▸ member)

/-- The final clean-up creates and touches nothing. -/
theorem UdpInv.close_all_activity (inv : UdpInv cfg w .idle) :
    UdpUsed none w (udpProxyCloseAllSessions cfg w) ∧
      UdpFrees (fun _ => True) w (udpProxyCloseAllSessions cfg w) := by
  have clear : ∀ {v} (nat : UdpNat), UdpInv cfg v .idle →
      UdpUsed none v (udpNodeClear cfg nat v) ∧
        UdpFrees (fun _ => True) v (udpNodeClear cfg nat v) := fun {v} nat inv => by
    obtain ⟨used, frees⟩ := inv.sweep_activity fun _ : UdpNode nat.Key => true
    rw [← udpSessionClearCb_eq] at used frees
    exact ⟨used, frees.mono fun _ _ => trivial⟩
  obtain ⟨used, frees⟩ := clear .fullcone inv
  obtain ⟨used', frees'⟩ := clear .symmetric (inv.node_clear .fullcone)
  have quiet := UdpQuiet.foldl (udpTproxyEntryClose_quiet cfg)
    (udpNodeClear cfg .symmetric (udpNodeClear cfg .fullcone w)).tproxy.table
    (udpNodeClear cfg .symmetric (udpNodeClear cfg .fullcone w))
  exact ⟨(used.trans used').trans quiet.used, (frees.trans frees').trans (quiet.frees_any _)⟩

/-- One action: only the session that it creates or uses again gets a new time,
and whatever session it removes, it has a cause for. -/
theorem UdpInv.act_activity (inv : UdpInv cfg w .idle) (action : UdpAction cfg) :
    UdpUsed (action.use cfg w) w (udpAct cfg w action) ∧
      ∀ a, UdpRemoved w (udpAct cfg w action) a → UdpRemovalCause cfg w a action := by
  have after := inv.act action
  cases action with
  | ingress msg answer now =>
    obtain ⟨used, frees⟩ := inv.ingress_activity msg answer now
    refine ⟨used, fun a removed => ?_⟩
    rcases frees.removed inv after removed with unused | ⟨pkt, parsed, displaced | replaced⟩
    · have live := removed.1
      rw [unused] at live
      cases live
    · exact .evicted parsed displaced
    · exact .replaced parsed replaced
  | serverReply session packets now =>
    obtain ⟨used, frees⟩ := inv.reply_activity session packets now
    exact ⟨used, fun a removed => (frees.removed inv after removed).elim⟩
  | gcTick now =>
    obtain ⟨_, used, frees⟩ := inv.gc_exact now
    refine ⟨used, fun a removed => ?_⟩
    obtain ⟨nat, n, x, atN, back, idle⟩ := frees.removed inv after removed
    exact .idle atN back (of_decide_eq_true idle)
  | closeAll =>
    exact ⟨inv.close_all_activity.1, fun _ _ => .shutdown⟩

/-- The time in a node is that of the last use of its session. -/
theorem UdpInv.acts_lastUsed (inv : UdpInv cfg w₀ .idle)
    (empty : ∀ nat n, (w₀.nodes nat).record n = none) (past : List (UdpAction cfg)) {nat : UdpNat} {n : Nat}
    {x : UdpNode nat.Key} (atN : ((udpActs cfg w₀ past).nodes nat).record n = some x) :
    UdpLastUsed cfg w₀ past x.session x.lastActive := by
  induction past using List.reverseRecOn generalizing nat n with
  | nil =>
    rw [show udpActs cfg w₀ [] = w₀ from rfl, empty] at atN
    cases atN
  | append_singleton past action ih =>
    have used := ((inv.acts past).act_activity action).1
    rw [udpActs_snoc] at atN
    rcases used nat n x atN with use | ⟨unused, before⟩
    · exact .used use
    · exact .kept (ih before) unused

/-- Active mappings are not lost early, in any run. -/
theorem udp_timely (answer : (pool : UdpPool) → UdpPoolAnswer cfg pool)
    (created : udpWorldCreate cfg answer = some w₀) (past : List (UdpAction cfg)) :
    UdpTimely cfg w₀ past := by
  have start := udpWorldCreate_inv created
  have inv := start.acts past
  refine ⟨fun nat n x atN => ?_, fun action a removed => ?_, fun now => ?_⟩
  · exact start.acts_lastUsed (udpWorldCreate_empty created).2.2 past atN
  · rw [udpActs_snoc] at removed
    exact (inv.act_activity action).2 a removed
  · rw [udpActs_snoc]
    exact (inv.gc_exact now).1

/-- The second packet of a client touches its session, and a second client then
evicts it. -/
theorem udp_timely_touched :
    let packet := fun port now =>
      UdpAction.ingress (udpTinyPacket port none).1 (udpTinyPacket port none).2 now
    let w := udpActs udpTinyConfig udpTinyStart [packet 1 5, packet 1 9]
    (w.nodes .fullcone).table.map (w.lastActive .fullcone) = [9] ∧
      UdpTimely udpTinyConfig udpTinyStart [packet 1 5, packet 1 9, packet 2 9] :=
  ⟨by decide +kernel, udp_timely udpTinyPools (Option.some_get _).symm _⟩

end Tproxy
