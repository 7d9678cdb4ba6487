import Tproxy.Main.EventLoopSockets

namespace Tproxy

variable {g : MainOptions} {thread : Nat} {answers : LoopAnswers} {st st' : EventLoop} {r : LoopRes}
  {s : LoopSocket}

namespace EventLoop

section Holds

/-- A step of the clean-up that gives `r` back if it is held. -/
theorem holds_if {c : Prop} [Decidable c] (dropped : st'.holds = Function.update st.holds r false)
    (off : ¬ c → st.holds r = false) :
    (if c then st' else st).holds = Function.update st.holds r false := by
  split
  · exact dropped
  · exact (Function.update_eq_self_iff.mpr (off ‹_›).symm).symm

theorem stopSelector_holds (st : EventLoop) :
    st.stopSelector.holds = Function.update st.holds .selector false :=
  holds_if (by funext r; cases r <;> rfl) Bool.eq_false_of_not_eq_true

theorem stopSignalWatcher_holds (st : EventLoop) :
    st.stopSignalWatcher.holds = Function.update st.holds .signalWatcher false :=
  holds_if (by funext r; cases r <;> rfl) Bool.eq_false_of_not_eq_true

theorem closeSignalfd_holds (st : EventLoop) :
    st.closeSignalfd.holds = Function.update st.holds .signalfd false :=
  holds_if (by funext r; cases r <;> rfl) Bool.eq_false_of_not_eq_true

theorem stopExitWatcher_holds (st : EventLoop) (held : st.exitWatcher = decide (thread ≠ 0)) :
    (st.stopExitWatcher thread).holds = Function.update st.holds .exitWatcher false :=
  holds_if (by funext r; cases r <;> rfl) fun main => held.trans (decide_eq_false main)

theorem cleanupSockfd_holds (st : EventLoop) (s : LoopSocket) :
    (st.cleanupSockfd s).holds = Function.update st.holds (.sockfd s) false := by
  refine holds_if ?_ Bool.eq_false_of_not_eq_true
  funext r
  cases r with
  | sockfd s' => by_cases same : s' = s <;> simp [holds, same]
  | _ => rfl

theorem destroyPool_holds (st : EventLoop) (p : LoopPool) :
    (st.destroyPool p).holds = Function.update st.holds (.pool p) false := by
  refine holds_if ?_ Bool.eq_false_of_not_eq_true
  funext r
  cases r with
  | pool q => by_cases same : q = p <;> simp [holds, same]
  | _ => rfl

theorem destroyLoop_holds (st : EventLoop) :
    (st.destroyLoop 0).holds = Function.update st.holds .loop false := by
  refine holds_if (by funext r; cases r <;> rfl) fun off => ?_
  exact Bool.eq_false_of_not_eq_true fun on => off ⟨on, rfl⟩

theorem stopGc_holds (st : EventLoop)
    (timer : st.gcTimer = true → (st.evloop && shouldHandleUdp g thread) = true) :
    (st.stopGc g thread).holds = Function.update st.holds .gcTimer false := by
  refine holds_if ?_ fun off => Bool.eq_false_of_not_eq_true fun on => off (timer on)
  by_cases on : st.gcTimer = true
  · rw [if_pos on]
    funext r
    cases r <;> rfl
  · rw [if_neg on, emit_holds]
    exact (Function.update_eq_self_iff.mpr (Bool.eq_false_of_not_eq_true on).symm).symm

/-- The watcher of a socket, as it is stopped and freed. -/
theorem cleanupWatcher_holds (st : EventLoop) (s : LoopSocket) :
    (st.cleanupWatcher s).holds =
      Function.update (Function.update st.holds (.started s) false) (.watcher s) false := by
  unfold cleanupWatcher
  split
  · funext r
    cases r with
    | watcher s' | started s' => by_cases same : s' = s <;> simp [holds, same]
    | _ => rfl
  · rename_i off
    have idle : st.watchers s = false := Bool.eq_false_of_not_eq_true off
    have stopped : Function.update st.holds (.started s) false = st.holds :=
      Function.update_eq_self_iff.mpr idle.symm
    rw [stopped]
    exact (Function.update_eq_self_iff.mpr idle.symm).symm

end Holds

section Holding

/-- A step that gives `r` back, if it is held, after the calls `uses` of the loop. -/
theorem holding_if {c : Prop} [Decidable c] (holding : Holding loopNeeds st.log st.holds)
    (gone : c → Holding loopNeeds st'.log st'.holds) :
    Holding loopNeeds (if c then st' else st).log (if c then st' else st).holds := by
  split
  · exact gone ‹_›
  · exact holding

theorem holding_gone (holding : Holding loopNeeds st.log st.holds) (log : st'.log = .gone r :: st.log)
    (dropped : st'.holds = Function.update st.holds r false) (present : st.holds r = true)
    (free : ∀ r', loopNeeds r' r → st.holds r' = false) : Holding loopNeeds st'.log st'.holds := by
  rw [log, dropped]
  exact holding.gone present free

/-- Watchers and timers are stopped on the loop that they need. -/
theorem holding_stopped (holding : Holding loopNeeds st.log st.holds)
    (log : st'.log = .gone r :: .used .loop :: st.log)
    (dropped : st'.holds = Function.update st.holds r false) (present : st.holds r = true)
    (need : loopNeeds r .loop) (free : ∀ r', ¬ loopNeeds r' r) : Holding loopNeeds st'.log st'.holds := by
  rw [log, dropped]
  exact (holding.used (holding.closed need present)).gone present fun r' need => absurd need (free r')

/-- Nothing relies on a timer or on a watcher that is started. -/
theorem not_loopNeeds {r' : LoopRes} (top : r = .exitWatcher ∨ r = .signalWatcher ∨ r = .gcTimer ∨
    r = .selector ∨ ∃ s, r = .started s) : ¬ loopNeeds r' r := by
  rcases top with rfl | rfl | rfl | rfl | ⟨s, rfl⟩ <;> cases r' <;> simp [loopNeeds]

theorem not_loopNeeds_pool {r' : LoopRes} {p : LoopPool} : ¬ loopNeeds r' (.pool p) := by
  cases r' <;> simp [loopNeeds]

end Holding

/-- The clean-up of `st₀` has given `gone` back and nothing else. -/
structure Cleared (st₀ : EventLoop) (gone : List LoopRes) (st : EventLoop) : Prop where
  holding : Holding loopNeeds st.log st.holds
  rest : ∀ r, st.holds r = (decide (r ∉ gone) && st₀.holds r)

variable {st₀ : EventLoop} {gone : List LoopRes} {p : LoopPool}

section Cleared

theorem Cleared.drop (cleared : Cleared st₀ gone st) (holding : Holding loopNeeds st'.log st'.holds)
    (dropped : st'.holds = Function.update st.holds r false) : Cleared st₀ (r :: gone) st' where
  holding := holding
  rest r' := by
    rw [dropped]
    by_cases same : r' = r
    · subst same
      simp
    · simp [same, cleared.rest]

theorem Cleared.absent (cleared : Cleared st₀ gone st) (member : r ∈ gone) : st.holds r = false := by
  rw [cleared.rest, decide_eq_false (not_not_intro member), Bool.false_and]

theorem Cleared.kept (cleared : Cleared st₀ gone st) (stays : r ∉ gone) : st.holds r = st₀.holds r := by
  rw [cleared.rest, decide_eq_true stays, Bool.true_and]

theorem Cleared.selector (cleared : Cleared st₀ gone st) : Cleared st₀ (.selector :: gone) st.stopSelector :=
  cleared.drop (holding_if cleared.holding fun on =>
    holding_stopped cleared.holding rfl (by funext r; cases r <;> rfl) on rfl fun _ =>
      not_loopNeeds (by simp)) (stopSelector_holds st)

theorem Cleared.signalWatcher (cleared : Cleared st₀ gone st) :
    Cleared st₀ (.signalWatcher :: gone) st.stopSignalWatcher :=
  cleared.drop (holding_if cleared.holding fun on =>
    holding_stopped cleared.holding rfl (by funext r; cases r <;> rfl) on (Or.inl rfl) fun _ =>
      not_loopNeeds (by simp)) (stopSignalWatcher_holds st)

theorem Cleared.signalfd (cleared : Cleared st₀ gone st) (stopped : .signalWatcher ∈ gone) :
    Cleared st₀ (.signalfd :: gone) st.closeSignalfd := by
  refine cleared.drop (holding_if cleared.holding fun on => ?_) (closeSignalfd_holds st)
  refine holding_gone cleared.holding rfl (by funext r; cases r <;> rfl) on fun r need => ?_
  have same : r = .signalWatcher := by cases r <;> simp [loopNeeds] at need; rfl
  rw [same]
  exact cleared.absent stopped

theorem Cleared.exitWatcher (cleared : Cleared st₀ gone st) (fresh : .exitWatcher ∉ gone)
    (held : st₀.exitWatcher = decide (thread ≠ 0)) :
    Cleared st₀ (.exitWatcher :: gone) (st.stopExitWatcher thread) := by
  have here : st.exitWatcher = decide (thread ≠ 0) := (cleared.kept fresh).trans held
  refine cleared.drop (holding_if cleared.holding fun worker => ?_) (stopExitWatcher_holds st here)
  exact holding_stopped cleared.holding rfl (by funext r; cases r <;> rfl)
    (here.trans (decide_eq_true worker)) rfl fun _ => not_loopNeeds (by simp)

/-- The watcher of a socket goes before the socket. -/
theorem Cleared.endpoint (cleared : Cleared st₀ gone st) (s : LoopSocket) :
    Cleared st₀ (.sockfd s :: .watcher s :: .started s :: gone) (st.cleanupEndpoint s) := by
  have watched : Cleared st₀ (.watcher s :: .started s :: gone) (st.cleanupWatcher s) := by
    refine ⟨?_, fun r => ?_⟩
    · have holds := cleanupWatcher_holds st s
      unfold cleanupWatcher at holds ⊢
      split at holds
      · rename_i on
        rw [if_pos on, holds]
        have started : st.holds (.started s) = true := on
        have need : loopNeeds (.started s) .loop := Or.inl rfl
        have used := cleared.holding.used (cleared.holding.closed need started)
        refine (used.gone started fun r' need => absurd need (not_loopNeeds (by simp))).gone ?_ fun r' need => ?_
        · rw [Function.update_of_ne (by simp)]
          exact on
        · have same : r' = .started s := by
            cases r' <;> simp [loopNeeds] at need
            rw [need]
          rw [same, Function.update_self]
      · rename_i off
        rw [if_neg off]
        exact cleared.holding
    · rw [cleanupWatcher_holds]
      simp only [Function.update_apply, cleared.rest, List.mem_cons]
      by_cases first : r = .watcher s
      · simp [first]
      · by_cases second : r = .started s
        · simp [second]
        · simp [first, second]
  refine watched.drop (holding_if watched.holding fun on => ?_) (cleanupSockfd_holds _ s)
  refine holding_gone watched.holding rfl ?_ on fun r need => ?_
  · have dropped := cleanupSockfd_holds (st.cleanupWatcher s) s
    rw [cleanupSockfd, if_pos on] at dropped
    exact dropped
  · have same : r = .started s := by
      cases r <;> simp [loopNeeds] at need
      rw [need]
    rw [same]
    exact watched.absent (List.mem_cons_of_mem _ (List.mem_cons_self ..))

theorem Cleared.gc (cleared : Cleared st₀ gone st) (fresh : .gcTimer ∉ gone)
    (timer : st₀.gcTimer = true → shouldHandleUdp g thread = true) :
    Cleared st₀ (.gcTimer :: gone) (st.stopGc g thread) := by
  have running (on : st.gcTimer = true) : (st.evloop && shouldHandleUdp g thread) = true := by
    have need : loopNeeds .gcTimer .loop := rfl
    have loop : st.evloop = true := cleared.holding.closed need on
    rw [loop, timer ((cleared.kept fresh).symm.trans on), Bool.and_self]
  refine cleared.drop (holding_if cleared.holding fun ran => ?_) (stopGc_holds st running)
  split
  · rename_i on
    exact holding_stopped cleared.holding rfl (by funext r; cases r <;> rfl) on rfl fun _ =>
      not_loopNeeds (by simp)
  · rw [emit_holds]
    exact cleared.holding.used (Bool.and_eq_true_iff.mp ran).1

theorem Cleared.pool (cleared : Cleared st₀ gone st) (p : LoopPool) :
    Cleared st₀ (.pool p :: gone) (st.destroyPool p) := by
  refine cleared.drop (holding_if cleared.holding fun on => ?_) (destroyPool_holds st p)
  refine holding_gone cleared.holding rfl ?_ on fun _ need => absurd need not_loopNeeds_pool
  have dropped := destroyPool_holds st p
  rw [destroyPool, if_pos on] at dropped
  exact dropped

theorem Cleared.pools (cleared : Cleared st₀ gone st) (ps : List LoopPool) :
    Cleared st₀ ((ps.map LoopRes.pool).reverse ++ gone) (ps.foldl destroyPool st) := by
  induction ps generalizing st gone with
  | nil => exact cleared
  | cons p ps ih =>
    rw [List.map_cons, List.reverse_cons, List.append_assoc]
    exact ih (cleared.pool p)

theorem Cleared.loop (cleared : Cleared st₀ gone st) (all : ∀ r, r ≠ .loop → r ∈ gone)
    (own : thread ≠ 0 → st.evloop = true) :
    Holding loopNeeds (st.destroyLoop thread).log (st.destroyLoop thread).holds ∧
      ∀ r, (st.destroyLoop thread).holds r = (decide (thread ≠ 0) && decide (r = .loop)) := by
  by_cases main : thread = 0
  · subst main
    refine ⟨holding_if cleared.holding fun on => ?_, fun r => ?_⟩
    · refine holding_gone cleared.holding rfl (by funext r; cases r <;> rfl) on.1 fun r need => ?_
      refine cleared.absent (all r ?_)
      rintro rfl
      exact need
    · rw [destroyLoop_holds]
      by_cases same : r = .loop
      · subst same
        exact Function.update_self ..
      · exact (Function.update_of_ne same ..).trans (cleared.absent (all r same))
  · have kept : st.destroyLoop thread = st := if_neg fun both => main both.2
    rw [kept]
    refine ⟨cleared.holding, fun r => ?_⟩
    rw [decide_eq_true main, Bool.true_and]
    by_cases same : r = .loop
    · subst same
      exact (own main).trans (decide_eq_true rfl).symm
    · rw [cleared.absent (all r same), decide_eq_false same]

/-- All but the loop is given back before the loop. -/
theorem Cleared.cleanup (ready : Releasable g thread st) :
    Holding loopNeeds (st.cleanup g thread).log (st.cleanup g thread).holds ∧
      ∀ r, (st.cleanup g thread).holds r = (decide (thread ≠ 0) && decide (r = .loop)) := by
  have begun : Cleared st [] st := ⟨ready.holding, fun r => by simp⟩
  have sockets := ((((begun.selector.endpoint .tcp4).endpoint .tcp6).endpoint .udp4).endpoint .udp6).endpoint .fakedns
  have watchers := (sockets.signalWatcher.signalfd (by simp)).exitWatcher (by simp) ready.exitWatcher
  have pools := (watchers.gc (by simp) ready.gcTimer).pools
    [.udpSession, .udpFullconeNode, .udpSymmetricNode, .udpTproxy, .tcpSession, .tcpRelayIn]
  refine pools.loop (fun r other => ?_) fun worker => ?_
  · cases r with
    | loop => exact absurd rfl other
    | pool p => cases p <;> simp
    | sockfd s | watcher s | started s => cases s <;> simp
    | exitWatcher | signalfd | signalWatcher | gcTimer | selector => simp
  · have need : loopNeeds .exitWatcher .loop := rfl
    have lent : st.holds .exitWatcher = true := ready.exitWatcher.trans (decide_eq_true worker)
    exact (pools.kept (r := .loop) (by simp)).trans (ready.holding.closed need lent)

end Cleared

end EventLoop

end Tproxy
