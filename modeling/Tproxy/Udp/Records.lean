import Tproxy.Udp.Invariant

namespace Tproxy

variable {ρ : Type} {record : Nat → Option ρ} {a b n : Nat} {r : ρ} {w w' : UdpWorld} {nat : UdpNat}

theorem isSome_update_some :
    (Function.update record a (some r) b).isSome ↔ (record b).isSome ∨ b = a := by
  by_cases same : b = a
  · subst same
    simp only [Function.update_self, Option.isSome_some, or_true]
  · simp only [Function.update_of_ne same, same, or_false]

theorem isSome_update_none :
    (Function.update record a none b).isSome ↔ (record b).isSome ∧ b ≠ a := by
  by_cases same : b = a
  · subst same
    simp only [Function.update_self, Option.isSome_none, Bool.false_eq_true, ne_eq, not_true, and_false]
  · simp only [Function.update_of_ne same, ne_eq, same, not_false_eq_true, and_true]

theorem fdOf_congr (sessions : w'.sessions.record = w.sessions.record)
    (tproxy : w'.tproxy.record = w.tproxy.record) : w'.fdOf = w.fdOf := by
  funext owner
  cases owner <;> simp only [UdpWorld.fdOf, sessions, tproxy]

theorem fdOf_session {r : Option UdpSession}
    (sessions : w'.sessions.record = Function.update w.sessions.record a r)
    (tproxy : w'.tproxy.record = w.tproxy.record) :
    w'.fdOf = Function.update w.fdOf (.session a) (r.map UdpSession.serverFd) := by
  funext owner
  cases owner with
  | session b =>
    by_cases same : b = a
    · subst same
      simp only [UdpWorld.fdOf, sessions, Function.update_self]
    · have differ : UdpFdOwner.session b ≠ .session a := fun equal =>
        same (UdpFdOwner.session.inj equal)
      simp only [UdpWorld.fdOf, sessions, Function.update_of_ne same, Function.update_of_ne differ]
  | tproxy m =>
    rw [Function.update_of_ne (by simp)]
    simp only [UdpWorld.fdOf, tproxy]
  | pending =>
    rw [Function.update_of_ne (by simp)]
    rfl

theorem fdOf_tproxy {r : Option UdpTproxyEntry} (sessions : w'.sessions.record = w.sessions.record)
    (tproxy : w'.tproxy.record = Function.update w.tproxy.record n r) :
    w'.fdOf = Function.update w.fdOf (.tproxy n) (r.map UdpTproxyEntry.udpSockfd) := by
  funext owner
  cases owner with
  | session b =>
    rw [Function.update_of_ne (by simp)]
    simp only [UdpWorld.fdOf, sessions]
  | tproxy m =>
    by_cases same : m = n
    · subst same
      simp only [UdpWorld.fdOf, tproxy, Function.update_self]
    · have differ : UdpFdOwner.tproxy m ≠ .tproxy n := fun equal =>
        same (UdpFdOwner.tproxy.inj equal)
      simp only [UdpWorld.fdOf, tproxy, Function.update_of_ne same, Function.update_of_ne differ]
  | pending =>
    rw [Function.update_of_ne (by simp)]
    rfl

/-- Whether the records of another world are live, when all its records are. -/
theorem live_congr (sessions : ∀ b, (w'.sessions.record b).isSome ↔ (w.sessions.record b).isSome)
    (nodes : ∀ nat b, ((w'.nodes nat).record b).isSome ↔ ((w.nodes nat).record b).isSome)
    (tproxy : ∀ b, (w'.tproxy.record b).isSome ↔ (w.tproxy.record b).isSome) (pool : UdpPool) (b : Nat) :
    w'.Live pool b ↔ w.Live pool b := by
  cases pool with
  | session => exact sessions b
  | node nat => exact nodes nat b
  | tproxy => exact tproxy b

theorem live_session_some {s : UdpSession}
    (sessions : w'.sessions.record = Function.update w.sessions.record a (some s))
    (nodes : w'.nodes = w.nodes) (tproxy : w'.tproxy = w.tproxy) (pool : UdpPool) (b : Nat) :
    w'.Live pool b ↔ w.Live pool b ∨ pool = .session ∧ b = a := by
  cases pool with
  | session => simp only [UdpWorld.Live, sessions, isSome_update_some, true_and]
  | node nat => simp only [UdpWorld.Live, nodes, reduceCtorEq, false_and, or_false]
  | tproxy => simp only [UdpWorld.Live, tproxy, reduceCtorEq, false_and, or_false]

theorem live_session_none
    (sessions : w'.sessions.record = Function.update w.sessions.record a none)
    (nodes : w'.nodes = w.nodes) (tproxy : w'.tproxy = w.tproxy) (pool : UdpPool) (b : Nat) :
    w'.Live pool b ↔ w.Live pool b ∧ ¬ (pool = .session ∧ b = a) := by
  cases pool with
  | session => simp only [UdpWorld.Live, sessions, isSome_update_none, true_and, ne_eq]
  | node nat => simp only [UdpWorld.Live, nodes, reduceCtorEq, false_and, not_false_eq_true, and_true]
  | tproxy => simp only [UdpWorld.Live, tproxy, reduceCtorEq, false_and, not_false_eq_true, and_true]

theorem live_tproxy_some {entry : UdpTproxyEntry}
    (tproxy : w'.tproxy.record = Function.update w.tproxy.record n (some entry))
    (sessions : w'.sessions = w.sessions) (nodes : w'.nodes = w.nodes) (pool : UdpPool) (b : Nat) :
    w'.Live pool b ↔ w.Live pool b ∨ pool = .tproxy ∧ b = n := by
  cases pool with
  | session => simp only [UdpWorld.Live, sessions, reduceCtorEq, false_and, or_false]
  | node nat => simp only [UdpWorld.Live, nodes, reduceCtorEq, false_and, or_false]
  | tproxy => simp only [UdpWorld.Live, tproxy, isSome_update_some, true_and]

theorem live_tproxy_none (tproxy : w'.tproxy.record = Function.update w.tproxy.record n none)
    (sessions : w'.sessions = w.sessions) (nodes : w'.nodes = w.nodes) (pool : UdpPool) (b : Nat) :
    w'.Live pool b ↔ w.Live pool b ∧ ¬ (pool = .tproxy ∧ b = n) := by
  cases pool with
  | session => simp only [UdpWorld.Live, sessions, reduceCtorEq, false_and, not_false_eq_true, and_true]
  | node nat => simp only [UdpWorld.Live, nodes, reduceCtorEq, false_and, not_false_eq_true, and_true]
  | tproxy => simp only [UdpWorld.Live, tproxy, isSome_update_none, true_and, ne_eq]

theorem live_node_some {cache : UdpCache (UdpNode nat.Key)} {x : UdpNode nat.Key}
    (nodes : w'.nodes = Function.update w.nodes nat cache)
    (records : cache.record = Function.update (w.nodes nat).record n (some x))
    (sessions : ∀ b, (w'.sessions.record b).isSome ↔ (w.sessions.record b).isSome)
    (tproxy : w'.tproxy = w.tproxy) (pool : UdpPool) (b : Nat) :
    w'.Live pool b ↔ w.Live pool b ∨ pool = .node nat ∧ b = n := by
  cases pool with
  | session => simp only [UdpWorld.Live, sessions, reduceCtorEq, false_and, or_false]
  | node side =>
    by_cases here : side = nat
    · subst here
      simp only [UdpWorld.Live, nodes, Function.update_self, records, isSome_update_some, true_and]
    · simp only [UdpWorld.Live, nodes, Function.update_of_ne here, UdpPool.node.injEq, here,
        false_and, or_false]
  | tproxy => simp only [UdpWorld.Live, tproxy, reduceCtorEq, false_and, or_false]

theorem live_node_none {cache : UdpCache (UdpNode nat.Key)}
    (nodes : w'.nodes = Function.update w.nodes nat cache)
    (records : cache.record = Function.update (w.nodes nat).record n none)
    (sessions : w'.sessions = w.sessions) (tproxy : w'.tproxy = w.tproxy) (pool : UdpPool) (b : Nat) :
    w'.Live pool b ↔ w.Live pool b ∧ ¬ (pool = .node nat ∧ b = n) := by
  cases pool with
  | session => simp only [UdpWorld.Live, sessions, reduceCtorEq, false_and, not_false_eq_true, and_true]
  | node side =>
    by_cases here : side = nat
    · subst here
      simp only [UdpWorld.Live, nodes, Function.update_self, records, isSome_update_none, true_and, ne_eq]
    · simp only [UdpWorld.Live, nodes, Function.update_of_ne here, UdpPool.node.injEq, here,
        false_and, not_false_eq_true, and_true]
  | tproxy => simp only [UdpWorld.Live, tproxy, reduceCtorEq, false_and, not_false_eq_true, and_true]

/-- The pools of the tables are as before, but for one. -/
theorem holds_update {nodes : (nat : UdpNat) → UdpCache (UdpNode nat.Key)} {cfg : UdpConfig}
    {cache : UdpCache (UdpNode nat.Key)}
    (before : ∀ side, (nodes side).toPoolArena.Holds (cfg.nodeSize side) (cfg.maxBlocks (.node side))
      (nodes side).table.length)
    (after : cache.toPoolArena.Holds (cfg.nodeSize nat) (cfg.maxBlocks (.node nat)) cache.table.length)
    (side : UdpNat) :
    (Function.update nodes nat cache side).toPoolArena.Holds (cfg.nodeSize side)
      (cfg.maxBlocks (.node side)) (Function.update nodes nat cache side).table.length := by
  by_cases here : side = nat
  · subst here
    rw [Function.update_self]
    exact after
  · rw [Function.update_of_ne here]
    exact before side

end Tproxy
