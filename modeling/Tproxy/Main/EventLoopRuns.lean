import Tproxy.Main.EventLoopCleanup

namespace Tproxy

variable {g : MainOptions} {thread : Nat} {answers : LoopAnswers} {st : EventLoop} {s : LoopSocket}

section Runs

theorem runEventLoop_code (g : MainOptions) (thread : Nat) (answers : LoopAnswers) :
    (runEventLoop g thread answers).1 = ((loopCalls g thread answers).findSome? id).getD 0 := by
  have stops := setupEventLoop_first g thread answers (.start thread) rfl
  unfold runEventLoop
  cases failed : (loopCalls g thread answers).findSome? id with
  | none =>
    rw [failed] at stops
    obtain ⟨_, st, run, _⟩ := stops
    rw [run]
    rfl
  | some code =>
    rw [failed] at stops
    obtain ⟨st, run, _⟩ := stops
    rw [run]
    rfl

theorem runEventLoop_holding (g : MainOptions) (thread : Nat) (answers : LoopAnswers) :
    Holding loopNeeds (runEventLoop g thread answers).2.log (runEventLoop g thread answers).2.holds ∧
      ∀ r, (runEventLoop g thread answers).2.holds r = (decide (thread ≠ 0) && decide (r = .loop)) := by
  have stops := setupEventLoop_first g thread answers (.start thread) rfl
  unfold runEventLoop
  split at stops
  · obtain ⟨_, st, run, upTo⟩ := stops
    rw [run]
    have ready := upTo.releasable (by decide)
    have loop : st.evloop = true := upTo.present (r := .loop) (by decide) rfl
    refine EventLoop.Cleared.cleanup ⟨?_, ready.exitWatcher, ready.gcTimer⟩
    rw [EventLoop.emit_holds]
    exact ready.holding.used loop
  · obtain ⟨st, run, ready⟩ := stops
    rw [run]
    exact EventLoop.Cleared.cleanup ready

/-- Every way through `run_event_loop` gives back what was made, once and in an order in
which nothing is used that is gone or that lost what it relies on. Only the loop of a
worker stays, for main. -/
theorem event_loop_gives_back (g : MainOptions) (thread : Nat) (answers : LoopAnswers) :
    NeedLog loopNeeds (runEventLoop g thread answers).2.log ∧
      ∀ r, (runEventLoop g thread answers).2.log.count (.made r) =
        (runEventLoop g thread answers).2.log.count (.gone r) + if thread ≠ 0 ∧ r = .loop then 1 else 0 := by
  obtain ⟨holding, left⟩ := runEventLoop_holding g thread answers
  refine ⟨holding.order, fun r => ?_⟩
  rw [holding.order.useLog.balance r, holding.alive, left]
  by_cases worker : thread ≠ 0 <;> by_cases same : r = .loop <;> simp [worker, same]

theorem sysCall_pos {answer : SysAnswer} {code : Nat} (failed : sysCall answer = some code) : code ≠ 0 := by
  cases answer with
  | none => cases failed
  | some errno =>
    cases failed
    exact Nat.ne_of_gt errno.2

theorem madeCall_pos {made : Bool} {code code' : Nat} (pos : code ≠ 0) (failed : madeCall made code = some code') :
    code' ≠ 0 := by
  cases made with
  | true => cases failed
  | false =>
    cases failed
    exact pos

theorem listenCalls_pos {a : SocketAnswers} {code : Nat} (failed : some code ∈ listenCalls a s) : code ≠ 0 := by
  have enomem_ne : enomem ≠ 0 := by decide
  unfold listenCalls at failed
  split at failed <;> simp only [List.mem_append, List.mem_cons, List.not_mem_nil, or_false] at failed <;>
    grind [sysCall_pos, madeCall_pos]

/-- No call fails with the exit code of a success. -/
theorem loopCalls_pos {code : Nat} (failed : some code ∈ loopCalls g thread answers) : code ≠ 0 := by
  have endpoint {s : LoopSocket} (failed : some code ∈ endpointCalls g thread answers s) : code ≠ 0 := by
    unfold endpointCalls at failed
    split at failed
    · exact listenCalls_pos failed
    · cases failed
  have pool {p : LoopPool} (failed : some code = poolCall answers p) : code ≠ 0 :=
    madeCall_pos (by decide) failed.symm
  simp only [loopCalls, List.mem_append] at failed
  rcases failed with loop | udp | tcp | signalfd | tcp4 | tcp6 | udp4 | udp6 | fakedns
  · split at loop
    · exact madeCall_pos (by decide) (List.mem_singleton.mp loop).symm
    · cases loop
  · split at udp
    · unfold udpPoolCalls at udp
      split at udp <;> simp only [List.mem_append, List.mem_cons, List.not_mem_nil, or_false, false_or] at udp <;>
        grind
    · cases udp
  · split at tcp
    · simp only [List.mem_cons, List.not_mem_nil, or_false] at tcp
      exact tcp.elim pool pool
    · cases tcp
  · split at signalfd
    · exact sysCall_pos (List.mem_singleton.mp signalfd).symm
    · cases signalfd
  · exact endpoint tcp4
  · exact endpoint tcp6
  · exact endpoint udp4
  · exact endpoint udp6
  · split at fakedns
    · simp only [fakednsCalls, List.mem_cons, List.not_mem_nil, or_false] at fakedns
      rcases fakedns with socket | bind | malloc
      · exact sysCall_pos socket.symm
      · exact sysCall_pos bind.symm
      · exact madeCall_pos (by decide) malloc.symm
    · cases fakedns

/-- A thread ends with the code of the first call that fails. It reaches `ev_run` if none
does, and holds then what its options want; each socket was asked for the options of its kind. -/
theorem event_loop_set_up (g : MainOptions) (thread : Nat) (answers : LoopAnswers) :
    (runEventLoop g thread answers).1 = ((loopCalls g thread answers).findSome? id).getD 0 ∧
      ((runEventLoop g thread answers).1 = 0 ↔ ∀ call ∈ loopCalls g thread answers, call = none) ∧
      ((runEventLoop g thread answers).1 = 0 → ∃ st, setupEventLoop g thread answers (.start thread) = .ok ⟨⟩ st ∧
        (∀ r, UseEvent.alive r st.log = loopWanted g thread r) ∧
        ∀ s opts, st.sockfds s = some opts → opts = loopSockOpts g s) := by
  have code := runEventLoop_code g thread answers
  have stops := setupEventLoop_first g thread answers (.start thread) rfl
  cases failed : (loopCalls g thread answers).findSome? id with
  | none =>
    rw [failed] at code stops
    obtain ⟨_, st, run, upTo⟩ := stops
    have all : ∀ call ∈ loopCalls g thread answers, call = none := List.findSome?_eq_none_iff.mp failed
    refine ⟨code, iff_of_true code all, fun _ => ⟨st, run, fun r => ?_, upTo.opts⟩⟩
    have early : r.stage < 15 := by
      cases r with
      | pool p => cases p <;> decide
      | sockfd s | watcher s | started s => cases s <;> decide
      | loop | exitWatcher | signalfd | signalWatcher | gcTimer | selector => decide
    rw [upTo.holding.alive, upTo.made, decide_eq_true early, Bool.true_and]
  | some e =>
    rw [failed] at code
    obtain ⟨call, member, same⟩ := List.exists_of_findSome?_eq_some failed
    rw [id] at same
    rw [same] at member
    have wrong : e ≠ 0 := loopCalls_pos member
    have nonzero : (runEventLoop g thread answers).1 ≠ 0 := code ▸ wrong
    refine ⟨code, iff_of_false nonzero fun all => ?_, fun ended => absurd ended nonzero⟩
    cases all _ member

theorem reusePort_mem : .reusePort ∈ loopSockOpts g s ↔
    s ≠ .fakedns ∧ if s.isTcp then isTcpReusePort g else isUdpReusePort g := by
  cases s <;> simp [loopSockOpts, nonblockSockOpts, LoopSocket.inet6, LoopSocket.isTcp]

theorem transparent_mem : .transparent ∈ loopSockOpts g s ↔ s ≠ .fakedns := by
  cases s <;> simp [loopSockOpts, nonblockSockOpts, LoopSocket.inet6]

theorem exists_other {count : Nat} (own : thread < count) : (∃ other < count, other ≠ thread) ↔ 1 < count := by
  constructor
  · rintro ⟨other, below, differ⟩
    omega
  · intro several
    by_cases main : thread = 0
    · exact ⟨1, several, by omega⟩
    · exact ⟨0, by omega, Ne.symm main⟩

/-- The threads that listen where a thread does. -/
theorem epEnabled_other (own : epEnabled g thread s = true) (other : Nat) : epEnabled g other s = true ↔
    match s with
    | .tcp4 | .tcp6 => True
    | .udp4 | .udp6 => other < g.udpNthreads
    | .fakedns => other = 0 := by
  cases s with
  | tcp4 | tcp6 => exact iff_of_true own trivial
  | udp4 | udp6 =>
    simp only [epEnabled, shouldHandleUdp, Bool.and_eq_true, decide_eq_true_eq] at own ⊢
    exact ⟨fun both => both.1.1, fun below => ⟨⟨below, own.1.2⟩, own.2⟩⟩
  | fakedns =>
    simp only [epEnabled, Bool.and_eq_true, decide_eq_true_eq] at own ⊢
    exact ⟨And.right, fun main => ⟨own.1, main⟩⟩

/-- The threads of a program with sound settings listen on the same addresses: a socket asks
for `SO_REUSEPORT` if and only if another thread binds its address, too. Main has one
wherever a worker has, and only the sockets of clients are transparent. -/
theorem event_loops_share_ports {opts : List SockOpt} (threads : g.udpNthreads ≤ g.nthreads)
    (own : thread < g.nthreads) (begun : setupEventLoop g thread answers (.start thread) = .ok ⟨⟩ st)
    (opened : st.sockfds s = some opts) :
    (.reusePort ∈ opts ↔ ∃ other < g.nthreads, other ≠ thread ∧ epEnabled g other s = true) ∧
      (.transparent ∈ opts ↔ s ≠ .fakedns) ∧ epEnabled g 0 s = true := by
  have stops := setupEventLoop_first g thread answers (.start thread) rfl
  split at stops
  · obtain ⟨_, st', run, upTo⟩ := stops
    cases begun.symm.trans run
    have wanted : epEnabled g thread s = true := by
      have made := upTo.made (.sockfd s)
      rw [EventLoop.holds, opened] at made
      exact (Bool.and_eq_true_iff.mp made.symm).2
    rw [upTo.opts s opts opened, reusePort_mem, transparent_mem]
    have others := epEnabled_other wanted
    have here := (others thread).mp wanted
    refine ⟨?_, Iff.rfl, (others 0).mpr ?_⟩
    · simp only [others]
      cases s with
      | tcp4 | tcp6 => simpa [LoopSocket.isTcp, isTcpReusePort] using (exists_other own).symm
      | udp4 | udp6 =>
        have shared := exists_other here
        simp only [LoopSocket.isTcp, isUdpReusePort, ne_eq, reduceCtorEq, not_false_eq_true, true_and,
          Bool.false_eq_true, if_false, decide_eq_true_eq, gt_iff_lt, ← shared]
        constructor
        · rintro ⟨other, below, differ⟩
          exact ⟨other, below.trans_le threads, differ, below⟩
        · rintro ⟨other, _, differ, below⟩
          exact ⟨other, below, differ⟩
      | fakedns =>
        refine iff_of_false (fun both => both.1 rfl) ?_
        rintro ⟨other, _, differ, main⟩
        exact differ (main.trans here.symm)
    · cases s with
      | tcp4 | tcp6 => trivial
      | udp4 | udp6 => exact (Nat.zero_le _).trans_lt here
      | fakedns => rfl
  · obtain ⟨st', run, _⟩ := stops
    cases begun.symm.trans run

def exampleTwoThreads : MainOptions :=
  { MainOptions.initial fun _ => ⟨[], 0, ⟨.inet, [], []⟩, .aes128Gcm, [], 0⟩ with nthreads := 2 }

def exampleLoopAnswers : LoopAnswers := ⟨true, fun _ => true, none, fun _ => ⟨none, none, none, none, none, true⟩⟩

/-- A worker shares its TCP socket with main. -/
theorem event_loops_share_ports_worker : ∃ st opts,
    setupEventLoop exampleTwoThreads 1 exampleLoopAnswers (.start 1) = .ok ⟨⟩ st ∧ st.sockfds .tcp4 = some opts ∧
      opts = [.nonBlock, .reuseAddr, .transparent, .reusePort] ∧
        (.reusePort ∈ opts ↔ ∃ other < 2, other ≠ 1 ∧ epEnabled exampleTwoThreads other .tcp4 = true) ∧
        (.transparent ∈ opts ↔ LoopSocket.tcp4 ≠ .fakedns) ∧ epEnabled exampleTwoThreads 0 .tcp4 = true := by
  have threads : exampleTwoThreads.udpNthreads ≤ exampleTwoThreads.nthreads := by decide
  have own : 1 < exampleTwoThreads.nthreads := by decide
  have begun : setupEventLoop exampleTwoThreads 1 exampleLoopAnswers (.start 1) = .ok ⟨⟩ _ := rfl
  exact ⟨_, _, begun, rfl, rfl, event_loops_share_ports threads own begun rfl⟩

end Runs

end Tproxy
