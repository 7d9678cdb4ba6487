import Tproxy.Udp.Records

namespace Tproxy

variable {cfg : UdpConfig} {w : UdpWorld} {nat : UdpNat} {a n : Nat} {s : UdpSession}
  {pending : Option Nat} {deferred : List Nat}

theorem update_pending_none (w : UdpWorld) : Function.update w.fdOf .pending none = w.fdOf :=
  Function.update_eq_self_iff.mpr rfl

theorem udpSessionFree_eq (cfg : UdpConfig) (atA : w.sessions.record a = some s) :
    udpSessionFree cfg w a =
      { w with
        sessions := w.sessions.free a cfg.sessionSize
        trace := w.trace ++ [.closed s.serverFd, .free .session a] } := by
  unfold udpSessionFree
  rw [atA]

/-- A session with one node is closed by releasing that node and the session. -/
theorem udpSessionClose_eq (cfg : UdpConfig) (atA : w.sessions.record a = some s) (link : s.node nat = some n)
    (only : ∀ side, side ≠ nat → s.node side = none) (state : UdpEntryState) :
    udpSessionClose cfg w a state = udpSessionFree cfg (udpNodeRelease cfg w nat n state) a := by
  unfold udpSessionClose
  cases nat with
  | fullcone => simp only [atA, link]
  | symmetric => simp only [atA, only .fullcone (by decide), link]

theorem Ledger.session_free (cfg : UdpConfig)
    (ledger : Ledger w.trace (Function.update w.fdOf .pending pending) w.Live)
    (atA : w.sessions.record a = some s) : Ledger (udpSessionFree cfg w a).trace
      (Function.update (udpSessionFree cfg w a).fdOf .pending pending) (udpSessionFree cfg w a).Live := by
  have holds : Function.update w.fdOf .pending pending (.session a) = some s.serverFd := by
    rw [Function.update_of_ne (by simp)]
    simp only [UdpWorld.fdOf, atA, Option.map_some]
  have live : w.Live .session a := by
    simp only [UdpWorld.Live, atA, Option.isSome_some]
  have freed := (ledger.closed holds).free live fun _ _ => Iff.rfl
  rw [Function.update_comm (by simp), List.append_assoc] at freed
  rw [udpSessionFree_eq cfg atA]
  exact freed.congr (congrArg (Function.update · _ _) (fdOf_session (r := none) rfl rfl))
    (live_session_none rfl rfl rfl)

theorem Ledger.node_release (cfg : UdpConfig) (ledger : Ledger w.trace w.fdOf w.Live)
    {x : UdpNode nat.Key} (atN : (w.nodes nat).record n = some x) (state : UdpEntryState) :
    Ledger (udpNodeRelease cfg w nat n state).trace (udpNodeRelease cfg w nat n state).fdOf
      (udpNodeRelease cfg w nat n state).Live := by
  have live : w.Live (.node nat) n := by
    simp only [UdpWorld.Live, atN, Option.isSome_some]
  have freed := ledger.free live fun _ _ => Iff.rfl
  refine freed.congr (fdOf_congr rfl rfl) (live_node_none (n := n) rfl ?_ rfl rfl)
  cases state <;> rfl

/-- Closing the session of an indexed node takes both away. -/
theorem UdpCore.close (core : UdpCore cfg w ⟨none, none, deferred⟩) {x : UdpNode nat.Key}
    (atN : (w.nodes nat).record n = some x) :
    UdpCore cfg (udpSessionClose cfg w x.session .indexed) ⟨none, none, deferred⟩ ∧
      ∃ t, w.sessions.record x.session = some t ∧
        udpSessionClose cfg w x.session .indexed =
          { w with
            sessions := w.sessions.free x.session cfg.sessionSize
            nodes := Function.update w.nodes nat ((w.nodes nat).release n (cfg.nodeSize nat) .indexed)
            trace := w.trace ++
              [.free (.node nat) n, .closed t.serverFd, .free .session x.session] } := by
  obtain ⟨t, atX, own, link, _⟩ := core.links.node nat n x atN
  have atX' : w.sessions.record x.session = some t := atX
  have only : ∀ side, side ≠ nat → t.node side = none := fun side apart =>
    core.links.other x.session t side atX (fun same => apart (same.trans own))
  have listed : n ∈ (w.nodes nat).table := (core.links.live nat n).mp (by rw [atN]; rfl)
  have released := udpSessionClose_eq cfg atX' link only .indexed
  have atMid : (udpNodeRelease cfg w nat n .indexed).sessions.record x.session = some t := atX'
  have run : udpSessionClose cfg w x.session .indexed =
      { w with
        sessions := w.sessions.free x.session cfg.sessionSize
        nodes := Function.update w.nodes nat ((w.nodes nat).release n (cfg.nodeSize nat) .indexed)
        trace := w.trace ++
          [.free (.node nat) n, .closed t.serverFd, .free .session x.session] } := by
    rw [released, udpSessionFree_eq cfg atMid]
    simp only [udpNodeRelease, List.append_assoc, List.cons_append, List.nil_append]
  refine ⟨?_, t, atX', run⟩
  have count := tableCount_update w.nodes nat
    ((w.nodes nat).release n (cfg.nodeSize nat) .indexed)
  have shorter : ((w.nodes nat).release n (cfg.nodeSize nat) .indexed).table.length + 1 =
      (w.nodes nat).table.length := by
    simp only [UdpCache.release, UdpCache.del, List.length_erase_of_mem listed]
    have positive := List.length_pos_of_mem listed
    omega
  have ledger := core.ledger
  rw [update_pending_none] at ledger
  have freed := ledger.node_release cfg atN .indexed
  rw [← update_pending_none] at freed
  have closed := freed.session_free cfg atMid
  rw [← released] at closed
  refine { links := ?_, sessions := ?_, nodes := ?_, tproxy := ?_, ledger := closed, served := ?_ }
  · rw [run]
    exact core.links.close atN rfl rfl
  · rw [run]
    refine PoolArena.Holds.free (r := t) ?_ atX'
    have before := core.sessions
    simp only [Option.toList_none, List.length_nil, Nat.add_zero] at before ⊢
    have same : tableCount (Function.update w.nodes nat
        ((w.nodes nat).release n (cfg.nodeSize nat) .indexed)) + 1 = tableCount w.nodes := by omega
    rw [same]
    exact before
  · rw [run]
    refine holds_update core.nodes ?_
    refine PoolArena.Holds.free (r := x) ?_ atN
    have before := core.nodes nat
    rw [← shorter] at before
    exact before
  · rw [run]
    exact core.tproxy
  · rw [run]
    refine core.served.append fun pool call member => ?_
    simp at member

end Tproxy
