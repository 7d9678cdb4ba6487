import Tproxy.Lib.FirstFailure
import Tproxy.Main.EventLoop

namespace Tproxy

/-- What a resource of a thread relies on. -/
def loopNeeds : LoopRes → LoopRes → Prop
  | .exitWatcher, r | .gcTimer, r | .selector, r => r = .loop
  | .signalWatcher, r => r = .loop ∨ r = .signalfd
  | .started s, r => r = .loop ∨ r = .sockfd s ∨ r = .watcher s
  | .loop, _ | .pool _, _ | .signalfd, _ | .sockfd _, _ | .watcher _, _ => False

def poolWanted (g : MainOptions) (thread : Nat) : LoopPool → Bool
  | .udpSession | .udpFullconeNode | .udpTproxy => shouldHandleUdp g thread
  | .udpSymmetricNode => shouldHandleUdp g thread && g.enableFakedns
  | .tcpSession | .tcpRelayIn => g.enableTcp

/-- What a thread holds while its loop runs. -/
def loopWanted (g : MainOptions) (thread : Nat) : LoopRes → Bool
  | .loop => true
  | .exitWatcher => thread ≠ 0
  | .pool p => poolWanted g thread p
  | .signalfd | .signalWatcher => thread = 0
  | .sockfd s | .watcher s | .started s => epEnabled g thread s
  | .gcTimer => shouldHandleUdp g thread
  | .selector => thread = 0 && g.ssServers.serverCount > 1

/-- The options that a listening socket asks for. -/
def loopSockOpts (g : MainOptions) (s : LoopSocket) : List SockOpt :=
  match s with
  | .tcp4 | .tcp6 => nonblockSockOpts s ++ [.transparent] ++ (if isTcpReusePort g then [.reusePort] else []) ++
      if g.enableTfoAccept then [.tfoAccept] else []
  | .udp4 | .udp6 => nonblockSockOpts s ++ [.transparent, .recvOrigdst] ++
      if isUdpReusePort g then [.reusePort] else []
  | .fakedns => nonblockSockOpts s

/-- The part of the set-up that makes a pool. -/
def LoopPool.stage : LoopPool → Nat
  | .udpSession => 1
  | .udpFullconeNode => 2
  | .udpSymmetricNode => 3
  | .udpTproxy => 4
  | .tcpSession => 5
  | .tcpRelayIn => 6

def LoopSocket.stage : LoopSocket → Nat
  | .tcp4 => 8
  | .tcp6 => 9
  | .udp4 => 10
  | .udp6 => 11
  | .fakedns => 12

/-- The part of the set-up that makes a resource. -/
def LoopRes.stage : LoopRes → Nat
  | .loop | .exitWatcher => 0
  | .pool p => p.stage
  | .signalfd | .signalWatcher => 7
  | .sockfd s | .watcher s | .started s => s.stage
  | .gcTimer => 13
  | .selector => 14

/-- The calls of the set-up in their order, each with the exit code if it fails. -/
def sysCall (answer : SysAnswer) : Option Nat := answer.map Subtype.val

def madeCall (made : Bool) (code : Nat) : Option Nat := if made then none else some code

def poolCall (answers : LoopAnswers) (p : LoopPool) : Option Nat := madeCall (answers.pool p) 1

def udpPoolCalls (g : MainOptions) (answers : LoopAnswers) : List (Option Nat) :=
  poolCall answers .udpSession :: poolCall answers .udpFullconeNode ::
    ((if g.enableFakedns then [poolCall answers .udpSymmetricNode] else []) ++ [poolCall answers .udpTproxy])

def listenCalls (a : SocketAnswers) (s : LoopSocket) : List (Option Nat) :=
  (if s.isTcp then [sysCall a.socket, sysCall a.transparent]
    else [sysCall a.socket, sysCall a.transparent, sysCall a.recvOrigdst]) ++
    sysCall a.bind :: ((if s.isTcp then [sysCall a.listen] else []) ++ [madeCall a.malloc enomem])

def endpointCalls (g : MainOptions) (thread : Nat) (answers : LoopAnswers) (s : LoopSocket) :
    List (Option Nat) :=
  if epEnabled g thread s then listenCalls (answers.socket s) s else []

def fakednsCalls (a : SocketAnswers) : List (Option Nat) :=
  [sysCall a.socket, sysCall a.bind, madeCall a.malloc enomem]

def loopCalls (g : MainOptions) (thread : Nat) (answers : LoopAnswers) : List (Option Nat) :=
  (if thread = 0 then [madeCall answers.evLoopNew 1] else []) ++
    ((if shouldHandleUdp g thread then udpPoolCalls g answers else []) ++
    ((if g.enableTcp then [poolCall answers .tcpSession, poolCall answers .tcpRelayIn] else []) ++
    ((if thread = 0 then [sysCall answers.signalfd] else []) ++
    (endpointCalls g thread answers .tcp4 ++ (endpointCalls g thread answers .tcp6 ++
    (endpointCalls g thread answers .udp4 ++ (endpointCalls g thread answers .udp6 ++
    if epEnabled g thread .fakedns then fakednsCalls (answers.socket .fakedns) else [])))))))

/-- The set-up has made what is wanted of its first `n` parts, and nothing else. -/
structure SetUpTo (g : MainOptions) (thread n : Nat) (st : EventLoop) : Prop where
  holding : Holding loopNeeds st.log st.holds
  made : ∀ r, st.holds r = (decide (r.stage < n) && loopWanted g thread r)
  opts : ∀ s opts, st.sockfds s = some opts → opts = loopSockOpts g s

/-- The clean-up can begin. -/
structure Releasable (g : MainOptions) (thread : Nat) (st : EventLoop) : Prop where
  holding : Holding loopNeeds st.log st.holds
  exitWatcher : st.exitWatcher = decide (thread ≠ 0)
  gcTimer : st.gcTimer = true → shouldHandleUdp g thread = true

variable {g : MainOptions} {thread n code : Nat} {answers : LoopAnswers} {st st' : EventLoop}
  {P E : EventLoop → Prop} {undo : LoopM Unit} {s : LoopSocket}

section Checks

theorem checkCall_first {answer : SysAnswer} (undoes : FirstFailure P undo [] (fun _ => E) E) :
    FirstFailure P (checkCall answer undo) [sysCall answer] (fun _ => P) E := by
  cases answer with
  | none => exact fun st holds => ⟨⟨⟩, st, rfl, holds⟩
  | some errno =>
    have stops : FirstFailure P (checkCall (some errno) undo) ([] ++ [some errno.1]) (fun _ => P) E :=
      undoes.bind fun _ => firstFailure_throw fun _ => id
    exact stops

theorem checkMade_first {made : Bool} (undoes : FirstFailure P undo [] (fun _ => E) E) :
    FirstFailure P (checkMade made code undo) [madeCall made code] (fun _ => P) E := by
  cases made with
  | true => exact fun st holds => ⟨⟨⟩, st, rfl, holds⟩
  | false =>
    have stops : FirstFailure P (checkMade false code undo) ([] ++ [some code]) (fun _ => P) E :=
      undoes.bind fun _ => firstFailure_throw fun _ => id
    exact stops

end Checks

section Parts

theorem SetUpTo.releasable (upTo : SetUpTo g thread n st) (begun : 0 < n) : Releasable g thread st where
  holding := upTo.holding
  exitWatcher := by
    have made := upTo.made .exitWatcher
    simp only [LoopRes.stage, begun, decide_true, Bool.true_and] at made
    exact made
  gcTimer started := by
    have made := upTo.made .gcTimer
    rw [EventLoop.holds, started] at made
    exact (Bool.and_eq_true_iff.mp made.symm).2

/-- Parts of the set-up that are left out. -/
theorem SetUpTo.skip {k : Nat} (upTo : SetUpTo g thread n st) (later : n ≤ k)
    (unwanted : ∀ r : LoopRes, n ≤ r.stage → r.stage < k → loopWanted g thread r = false) :
    SetUpTo g thread k st where
  holding := upTo.holding
  made r := by
    rw [upTo.made]
    by_cases here : n ≤ r.stage ∧ r.stage < k
    · rw [unwanted r here.1 here.2, Bool.and_false, Bool.and_false]
    · have same : decide (r.stage < n) = decide (r.stage < k) := decide_eq_decide.mpr (by omega)
      rw [same]
  opts := upTo.opts

/-- A part of the set-up that makes what is wanted. -/
theorem SetUpTo.next (upTo : SetUpTo g thread n st) (holding : Holding loopNeeds st'.log st'.holds)
    (here : ∀ r : LoopRes, r.stage = n → st'.holds r = loopWanted g thread r)
    (others : ∀ r : LoopRes, r.stage ≠ n → st'.holds r = st.holds r)
    (opts : ∀ s opts, st'.sockfds s = some opts → opts = loopSockOpts g s) :
    SetUpTo g thread (n + 1) st' where
  holding := holding
  made r := by
    by_cases now : r.stage = n
    · rw [here r now, now, decide_eq_true (Nat.lt_succ_self n), Bool.true_and]
    · rw [others r now, upTo.made]
      have same : decide (r.stage < n) = decide (r.stage < n + 1) := decide_eq_decide.mpr (by omega)
      rw [same]
  opts := opts

theorem SetUpTo.absent (upTo : SetUpTo g thread n st) {r : LoopRes} (later : n ≤ r.stage) :
    st.holds r = false := by
  rw [upTo.made, decide_eq_false (Nat.not_lt.mpr later), Bool.false_and]

theorem SetUpTo.present (upTo : SetUpTo g thread n st) {r : LoopRes} (earlier : r.stage < n)
    (wanted : loopWanted g thread r = true) : st.holds r = true := by
  rw [upTo.made, decide_eq_true earlier, wanted, Bool.true_and]

/-- A part that makes one resource, and the clean-up if it fails. -/
theorem skip_first (begun : 0 < n) :
    FirstFailure (SetUpTo g thread n) (pure ⟨⟩ : LoopM Unit) [] (fun _ => Releasable g thread)
      (Releasable g thread) :=
  firstFailure_pure fun _ upTo => upTo.releasable begun

/-- Only the loop and `exit_watcher` come before the rest. -/
theorem LoopRes.stage_pos {r : LoopRes} (other : r ≠ .loop ∧ r ≠ .exitWatcher) : 1 ≤ r.stage := by
  cases r with
  | loop => exact absurd rfl other.1
  | exitWatcher => exact absurd rfl other.2
  | pool p => cases p <;> exact Nat.le_add_left ..
  | sockfd s | watcher s | started s => cases s <;> exact Nat.le_add_left ..
  | signalfd | signalWatcher | gcTimer | selector => exact Nat.le_add_left ..

/-- A thread at its start, with a loop. -/
theorem SetUpTo.begin (holding : Holding loopNeeds st.log st.holds) (loop : st.evloop = true)
    (exitWatcher : st.exitWatcher = decide (thread ≠ 0))
    (nothing : ∀ r, r ≠ .loop ∧ r ≠ .exitWatcher → st.holds r = false) : SetUpTo g thread 1 st where
  holding := holding
  made r := by
    by_cases first : r = .loop
    · subst first
      exact loop
    · by_cases second : r = .exitWatcher
      · subst second
        exact exitWatcher
      · rw [nothing r ⟨first, second⟩, decide_eq_false (Nat.not_lt.mpr (LoopRes.stage_pos ⟨first, second⟩)),
          Bool.false_and]
  opts s opts made := by
    have none := nothing (.sockfd s) ⟨nofun, nofun⟩
    rw [EventLoop.holds, made] at none
    cases none

theorem newEvLoop_first : FirstFailure (· = EventLoop.start thread) (newEvLoop thread answers)
    (if thread = 0 then [madeCall answers.evLoopNew 1] else []) (fun _ => SetUpTo g thread 1)
    (Releasable g thread) := by
  have empty : Holding loopNeeds [] fun _ => false := ⟨.nil, fun _ => rfl⟩
  refine FirstFailure.when (fun main => ?_) fun worker st begun => ?_
  · subst main
    refine (checkMade_first (firstFailure_pure fun st begun => ?_)).step fun _ =>
      firstFailure_modify fun st begun => ?_
    · have nothing : st.holds = fun _ => false := by
        subst begun
        funext r
        cases r <;> rfl
      subst begun
      exact ⟨nothing ▸ empty, rfl, nofun⟩
    · have holds : EventLoop.holds { st.emit [.made .loop] with evloop := true } =
          Function.update (fun _ => false) .loop true := by
        subst begun
        funext r
        cases r <;> rfl
      subst begun
      refine SetUpTo.begin ?_ rfl rfl fun r other => ?_
      · rw [holds]
        exact empty.made rfl fun _ => False.elim
      · rw [holds, Function.update_of_ne other.1]
  · have holds : st.holds = Function.update (Function.update (fun _ => false) .loop true) .exitWatcher true := by
      subst begun
      funext r
      cases r <;> first | rfl | exact decide_eq_true worker
    have log : st.log = [.made .exitWatcher, .made .loop] := by
      subst begun
      exact if_neg worker
    refine SetUpTo.begin ?_ ?_ ?_ fun r other => ?_
    · rw [holds, log]
      have loop := empty.made (r := .loop) rfl fun _ => False.elim
      refine loop.made rfl fun r need => ?_
      rw [show r = .loop from need]
      rfl
    · subst begun
      exact decide_eq_true worker
    · subst begun
      rfl
    · rw [holds, Function.update_of_ne other.2, Function.update_of_ne other.1]

/-- A part that makes a pool makes nothing else. -/
theorem LoopRes.stage_pool {p : LoopPool} {r : LoopRes} (same : r.stage = p.stage) : r = .pool p := by
  cases r with
  | pool q => cases p <;> cases q <;> first | rfl | exact absurd same (by decide)
  | sockfd s | watcher s | started s => cases p <;> cases s <;> exact absurd same (by decide)
  | loop | exitWatcher | signalfd | signalWatcher | gcTimer | selector =>
    cases p <;> exact absurd same (by decide)

/-- The same for a socket, which comes with its watcher. -/
theorem LoopRes.stage_socket {s : LoopSocket} {r : LoopRes} (same : r.stage = s.stage) :
    r = .sockfd s ∨ r = .watcher s ∨ r = .started s := by
  cases r with
  | pool q => cases s <;> cases q <;> exact absurd same (by decide)
  | sockfd s' => cases s <;> cases s' <;> first | exact Or.inl rfl | exact absurd same (by decide)
  | watcher s' =>
    cases s <;> cases s' <;> first | exact Or.inr (Or.inl rfl) | exact absurd same (by decide)
  | started s' =>
    cases s <;> cases s' <;> first | exact Or.inr (Or.inr rfl) | exact absurd same (by decide)
  | loop | exitWatcher | signalfd | signalWatcher | gcTimer | selector =>
    cases s <;> exact absurd same (by decide)

theorem LoopPool.stage_pos (p : LoopPool) : 0 < p.stage := by cases p <;> decide

theorem createPool_first (p : LoopPool) (wanted : poolWanted g thread p = true) :
    FirstFailure (SetUpTo g thread p.stage) (createPool answers p) [poolCall answers p]
      (fun _ => SetUpTo g thread (p.stage + 1)) (Releasable g thread) := by
  refine (checkMade_first (skip_first p.stage_pos)).step fun _ => firstFailure_modify fun st upTo => ?_
  have holds : EventLoop.holds { st.emit [.made (.pool p)] with
      pools := Function.update st.pools p true } = Function.update st.holds (.pool p) true := by
    funext r
    cases r with
    | pool q =>
      by_cases same : q = p
      · subst same
        simp only [EventLoop.holds, Function.update_self]
      · have differ : LoopRes.pool q ≠ .pool p := fun equal => same (LoopRes.pool.inj equal)
        simp only [EventLoop.holds, Function.update_of_ne same, Function.update_of_ne differ]
    | _ => rfl
  have absent : st.holds (.pool p) = false := upTo.absent (Nat.le_refl _)
  refine upTo.next ?_ (fun r at_ => ?_) (fun r other => ?_) upTo.opts
  · rw [holds]
    exact upTo.holding.made absent fun _ => False.elim
  · rw [LoopRes.stage_pool at_, holds, Function.update_self]
    exact wanted.symm
  · rw [holds, Function.update_of_ne fun same => other (by rw [same]; rfl)]

theorem createUdpPools_first : FirstFailure (SetUpTo g thread 1) (createUdpPools g thread answers)
    (if shouldHandleUdp g thread then udpPoolCalls g answers else []) (fun _ => SetUpTo g thread 5)
    (Releasable g thread) := by
  refine FirstFailure.when (fun udp => ?_) fun off st upTo => ?_
  · refine (createPool_first .udpSession udp).step fun _ =>
      (createPool_first .udpFullconeNode udp).step fun _ => FirstFailure.bind ?_ fun _ =>
        createPool_first .udpTproxy udp
    refine FirstFailure.when (fun fakedns => ?_) fun off st upTo => ?_
    · refine createPool_first .udpSymmetricNode ?_
      rw [poolWanted, udp, fakedns, Bool.and_self]
    · refine upTo.skip (Nat.le_succ _) fun r from_ below => ?_
      rw [LoopRes.stage_pool (p := .udpSymmetricNode) (Nat.le_antisymm (Nat.le_of_lt_succ below) from_)]
      simp only [loopWanted, poolWanted, off, Bool.and_false]
  · refine upTo.skip (by decide) fun r from_ below => ?_
    cases r with
    | pool p => cases p <;> simp_all [loopWanted, poolWanted, LoopRes.stage, LoopPool.stage]
    | sockfd s | watcher s | started s => cases s <;> simp [LoopRes.stage, LoopSocket.stage] at below
    | loop | exitWatcher | signalfd | signalWatcher | gcTimer | selector =>
      simp [LoopRes.stage] at from_ below

theorem createTcpPools_first : FirstFailure (SetUpTo g thread 5) (createTcpPools g answers)
    (if g.enableTcp then [poolCall answers .tcpSession, poolCall answers .tcpRelayIn] else [])
    (fun _ => SetUpTo g thread 7) (Releasable g thread) := by
  refine FirstFailure.when (fun tcp => ?_) fun off st upTo => ?_
  · exact (createPool_first .tcpSession tcp).step fun _ => createPool_first .tcpRelayIn tcp
  · refine upTo.skip (by decide) fun r from_ below => ?_
    cases r with
    | pool p => cases p <;> simp_all [loopWanted, poolWanted, LoopRes.stage, LoopPool.stage]
    | sockfd s | watcher s | started s => cases s <;> simp [LoopRes.stage, LoopSocket.stage] at below
    | loop | exitWatcher | signalfd | signalWatcher | gcTimer | selector =>
      simp [LoopRes.stage] at from_ below

end Parts

end Tproxy
