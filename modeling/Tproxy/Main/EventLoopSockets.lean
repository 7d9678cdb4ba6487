import Tproxy.Main.EventLoopSetup

namespace Tproxy

variable {g : MainOptions} {thread n : Nat} {answers : LoopAnswers} {st st' : EventLoop} {s : LoopSocket}
  {opts : List SockOpt}

/-- A new socket, which is not yet in `sockfds`. -/
def SocketMade (g : MainOptions) (thread : Nat) (s : LoopSocket) (st : EventLoop) : Prop :=
  ∃ st₀, SetUpTo g thread s.stage st₀ ∧ st = st₀.emit [.made (.sockfd s)]

@[simp] theorem EventLoop.emit_holds (st : EventLoop) (calls : List (UseEvent LoopRes)) :
    (st.emit calls).holds = st.holds := by
  funext r
  cases r <;> rfl

@[simp] theorem EventLoop.emit_log (st : EventLoop) (calls : List (UseEvent LoopRes)) :
    (st.emit calls).log = calls ++ st.log := rfl

theorem LoopSocket.stage_pos (s : LoopSocket) : 0 < s.stage := by cases s <;> decide

theorem openSignalfd_first : FirstFailure (SetUpTo g thread 7) (openSignalfd thread answers)
    (if thread = 0 then [sysCall answers.signalfd] else []) (fun _ => SetUpTo g thread 8)
    (Releasable g thread) := by
  refine FirstFailure.when (fun main => ?_) fun worker st upTo => ?_
  · refine (checkCall_first (skip_first (by decide))).step fun _ => firstFailure_modify fun st upTo => ?_
    have holds : EventLoop.holds
        { st.emit [.made .signalWatcher, .used .signalfd, .used .loop, .made .signalfd] with
          signalfdFd := true, signalWatcherStarted := true } =
        Function.update (Function.update st.holds .signalfd true) .signalWatcher true := by
      funext r
      cases r <;> rfl
    have loop : st.holds .loop = true := upTo.present (r := .loop) (by decide) rfl
    have opened := upTo.holding.made (upTo.absent (r := .signalfd) (Nat.le_refl _)) fun _ => False.elim
    have used := (opened.used (r := .loop) ((Function.update_of_ne (by decide) ..).trans loop)).used
      (r := .signalfd) (Function.update_self ..)
    refine upTo.next ?_ (fun r here => ?_) (fun r other => ?_) upTo.opts
    · rw [holds]
      refine used.made ?_ fun r need => ?_
      · rw [Function.update_of_ne (by decide)]
        exact upTo.absent (r := .signalWatcher) (Nat.le_refl _)
      · rcases need with rfl | rfl
        · exact (Function.update_of_ne (by decide) ..).trans loop
        · exact Function.update_self ..
    · rw [holds]
      cases r with
      | signalfd | signalWatcher => exact (decide_eq_true main).symm
      | pool p => cases p <;> exact absurd here (by decide)
      | sockfd s | watcher s | started s => cases s <;> exact absurd here (by decide)
      | loop | exitWatcher | gcTimer | selector => exact absurd here (by decide)
    · rw [holds, Function.update_of_ne, Function.update_of_ne] <;> rintro rfl <;> exact other rfl
  · refine upTo.skip (by decide) fun r from_ below => ?_
    cases r with
    | signalfd | signalWatcher => exact decide_eq_false worker
    | pool p => cases p <;> simp [LoopRes.stage, LoopPool.stage] at from_
    | sockfd s | watcher s | started s => cases s <;> simp [LoopRes.stage, LoopSocket.stage] at below
    | loop | exitWatcher | gcTimer | selector => simp [LoopRes.stage] at from_ below

section Sockets

theorem newNonblockSockfd_first : FirstFailure (SetUpTo g thread s.stage) (newNonblockSockfd answers s)
    [sysCall (answers.socket s).socket] (fun opts st => opts = nonblockSockOpts s ∧ SocketMade g thread s st)
    (Releasable g thread) :=
  (checkCall_first (skip_first s.stage_pos)).step fun _ =>
    (firstFailure_modify fun st upTo => ⟨st, upTo, rfl⟩).silent fun _ => firstFailure_pure fun _ made => ⟨rfl, made⟩

/-- Closing the new socket again leaves nothing of it. -/
theorem closeSockfd_first : FirstFailure (SocketMade g thread s) (closeSockfd s) []
    (fun _ => Releasable g thread) (Releasable g thread) := by
  refine firstFailure_modify fun st made => ?_
  obtain ⟨st₀, upTo, rfl⟩ := made
  have absent : st₀.holds (.sockfd s) = false := upTo.absent (Nat.le_refl _)
  have ready := upTo.releasable s.stage_pos
  refine ⟨?_, ready.exitWatcher, ready.gcTimer⟩
  have holding := upTo.holding.made absent fun _ => False.elim
  have closed := holding.gone (Function.update_self ..) fun r need => ?_
  · rw [Function.update_idem, Function.update_eq_self_iff.mpr absent.symm] at closed
    simpa only [EventLoop.emit_holds, EventLoop.emit_log, List.cons_append, List.nil_append] using closed
  · cases r with
    | started s' =>
      have watched : st₀.holds (.started s') = false := by
        rcases need with loop | same | same
        · cases loop
        · cases same
          exact upTo.absent (Nat.le_refl _)
        · cases same
      rw [Function.update_of_ne (by simp)]
      exact watched
    | exitWatcher | gcTimer | selector => cases need
    | signalWatcher => rcases need with same | same <;> cases same
    | loop | pool p | signalfd | sockfd s' | watcher s' => cases need

theorem newListenSockfd_first {isReusePort isTfoAccept : Bool} :
    FirstFailure (SetUpTo g thread s.stage) (newListenSockfd answers s isReusePort isTfoAccept)
      (if s.isTcp then [sysCall (answers.socket s).socket, sysCall (answers.socket s).transparent]
        else [sysCall (answers.socket s).socket, sysCall (answers.socket s).transparent,
          sysCall (answers.socket s).recvOrigdst])
      (fun opts st => opts = (if s.isTcp then nonblockSockOpts s ++ [.transparent] ++
          (if isReusePort then [.reusePort] else []) ++ (if isTfoAccept then [.tfoAccept] else [])
        else nonblockSockOpts s ++ [.transparent, .recvOrigdst] ++
          if isReusePort then [.reusePort] else []) ∧ SocketMade g thread s st)
      (Releasable g thread) := by
  refine FirstFailure.ite (fun tcp => ?_) fun udp => ?_
  · refine newNonblockSockfd_first.step fun opts => FirstFailure.given fun same =>
      (checkCall_first closeSockfd_first).step fun _ => firstFailure_pure fun st made => ⟨?_, made⟩
    rw [if_pos tcp, same]
  · refine newNonblockSockfd_first.step fun opts => FirstFailure.given fun same =>
      (checkCall_first closeSockfd_first).step fun _ => (checkCall_first closeSockfd_first).step fun _ =>
        firstFailure_pure fun st made => ⟨?_, made⟩
    rw [if_neg udp, same]

/-- A watcher is made for a socket and started. -/
theorem watch_holding {log : List (UseEvent LoopRes)} {held : LoopRes → Bool}
    (holding : Holding loopNeeds log held) (loop : held .loop = true) (made : held (.sockfd s) = true)
    (noWatcher : held (.watcher s) = false) (idle : held (.started s) = false) :
    Holding loopNeeds (.made (.started s) :: .used .loop :: .used (.sockfd s) :: .made (.watcher s) :: log)
      (Function.update (Function.update held (.watcher s) true) (.started s) true) := by
  have watcher := holding.made noWatcher fun _ => False.elim
  have loop' : Function.update held (.watcher s) true .loop = true :=
    (Function.update_of_ne (by simp) ..).trans loop
  have made' : Function.update held (.watcher s) true (.sockfd s) = true :=
    (Function.update_of_ne (by simp) ..).trans made
  refine ((watcher.used made').used loop').made ?_ fun r need => ?_
  · exact (Function.update_of_ne (by simp) ..).trans idle
  · rcases need with rfl | rfl | rfl
    · exact loop'
    · exact made'
    · exact Function.update_self ..

/-- The part of the set-up for one socket is done. -/
theorem SetUpTo.socket (upTo : SetUpTo g thread s.stage st) (wanted : epEnabled g thread s = true)
    (holding : Holding loopNeeds st'.log (Function.update (Function.update
      (Function.update st.holds (.sockfd s) true) (.watcher s) true) (.started s) true))
    (holds : st'.holds = Function.update (Function.update
      (Function.update st.holds (.sockfd s) true) (.watcher s) true) (.started s) true)
    (sockfds : st'.sockfds = Function.update st.sockfds s (some (loopSockOpts g s))) :
    SetUpTo g thread (s.stage + 1) st' := by
  refine upTo.next (holds ▸ holding) (fun r here => ?_) (fun r other => ?_) fun s' opts' made => ?_
  · rw [holds]
    rcases LoopRes.stage_socket here with rfl | rfl | rfl
    · rw [Function.update_of_ne (by simp), Function.update_of_ne (by simp), Function.update_self]
      exact wanted.symm
    · rw [Function.update_of_ne (by simp), Function.update_self]
      exact wanted.symm
    · rw [Function.update_self]
      exact wanted.symm
  · rw [holds, Function.update_of_ne, Function.update_of_ne, Function.update_of_ne] <;> rintro rfl <;>
      exact other rfl
  · rw [sockfds] at made
    by_cases same : s' = s
    · subst same
      rw [Function.update_self] at made
      exact (Option.some.inj made).symm
    · rw [Function.update_of_ne same] at made
      exact upTo.opts s' opts' made

/-- The locals after a socket and its watcher were stored. -/
theorem EventLoop.holds_socket {f : EventLoop} (sockfds : f.sockfds = Function.update st.sockfds s (some opts))
    (watchers : f.watchers = Function.update st.watchers s true)
    (others : ∀ r, (∀ s', r ≠ .sockfd s' ∧ r ≠ .watcher s' ∧ r ≠ .started s') → f.holds r = st.holds r) :
    f.holds = Function.update (Function.update (Function.update st.holds (.sockfd s) true) (.watcher s) true)
      (.started s) true := by
  funext r
  cases r with
  | sockfd s' =>
    rw [Function.update_of_ne (by simp), Function.update_of_ne (by simp)]
    by_cases same : s' = s
    · subst same
      rw [Function.update_self, EventLoop.holds, sockfds, Function.update_self, Option.isSome_some]
    · rw [Function.update_of_ne (by simpa using same), EventLoop.holds, sockfds, Function.update_of_ne same,
        EventLoop.holds]
  | watcher s' =>
    rw [Function.update_of_ne (by simp), EventLoop.holds, watchers]
    by_cases same : s' = s
    · subst same
      rw [Function.update_self, Function.update_self]
    · rw [Function.update_of_ne same, Function.update_of_ne (by simpa using same),
        Function.update_of_ne (by simp), EventLoop.holds]
  | started s' =>
    rw [EventLoop.holds, watchers]
    by_cases same : s' = s
    · subst same
      rw [Function.update_self, Function.update_self]
    · rw [Function.update_of_ne same, Function.update_of_ne (by simpa using same),
        Function.update_of_ne (by simp), Function.update_of_ne (by simp), EventLoop.holds]
  | loop | exitWatcher | pool p | signalfd | signalWatcher | gcTimer | selector =>
    rw [others _ fun s' => by simp, Function.update_of_ne (by simp), Function.update_of_ne (by simp),
      Function.update_of_ne (by simp)]

theorem setupEndpoint_first (other : s ≠ .fakedns) :
    FirstFailure (SetUpTo g thread s.stage) (setupEndpoint g thread answers s) (endpointCalls g thread answers s)
      (fun _ => SetUpTo g thread (s.stage + 1)) (Releasable g thread) := by
  refine FirstFailure.when (fun wanted => ?_) fun off st upTo => ?_
  · refine newListenSockfd_first.bind fun opts => FirstFailure.given fun same =>
      (checkCall_first closeSockfd_first).step fun _ => FirstFailure.bind ?_ fun _ =>
        (checkMade_first closeSockfd_first).step fun _ => firstFailure_modify fun st made => ?_
    · exact FirstFailure.when (fun _ => checkCall_first closeSockfd_first) fun _ _ => id
    · obtain ⟨st₀, upTo, rfl⟩ := made
      have asked : opts = loopSockOpts g s := by
        cases s with
        | tcp4 | tcp6 | udp4 | udp6 => exact same
        | fakedns => exact absurd rfl other
      subst asked
      have holding := upTo.holding.made (upTo.absent (r := .sockfd s) (Nat.le_refl _)) fun _ => False.elim
      refine upTo.socket wanted ?_ (EventLoop.holds_socket rfl rfl fun r apart => ?_) rfl
      · refine watch_holding holding ?_ (Function.update_self ..) ?_ ?_
        · exact (Function.update_of_ne (by simp) ..).trans (upTo.present (r := .loop) s.stage_pos rfl)
        · exact (Function.update_of_ne (by simp) ..).trans (upTo.absent (Nat.le_refl _))
        · exact (Function.update_of_ne (by simp) ..).trans (upTo.absent (Nat.le_refl _))
      · cases r with
        | sockfd s' | watcher s' | started s' => simpa using apart s'
        | loop | exitWatcher | pool p | signalfd | signalWatcher | gcTimer | selector => rfl
  · refine upTo.skip (Nat.le_succ _) fun r from_ below => ?_
    rcases LoopRes.stage_socket (Nat.le_antisymm (Nat.le_of_lt_succ below) from_) with rfl | rfl | rfl <;>
      exact Bool.eq_false_of_not_eq_true off

/-- The socket of fakedns is in `fakedns_sockfd`, and has no watcher yet. -/
def FakednsBound (g : MainOptions) (thread : Nat) (st : EventLoop) : Prop :=
  ∃ st₀, SetUpTo g thread LoopSocket.fakedns.stage st₀ ∧
    st = { st₀.emit [.made (.sockfd .fakedns)] with
      sockfds := Function.update st₀.sockfds .fakedns (some (nonblockSockOpts .fakedns)) }

theorem FakednsBound.releasable (bound : FakednsBound g thread st) : Releasable g thread st := by
  obtain ⟨st₀, upTo, rfl⟩ := bound
  have ready := upTo.releasable (LoopSocket.stage_pos _)
  have holds : EventLoop.holds { st₀.emit [.made (.sockfd .fakedns)] with
      sockfds := Function.update st₀.sockfds .fakedns (some (nonblockSockOpts .fakedns)) } =
      Function.update st₀.holds (.sockfd .fakedns) true := by
    funext r
    cases r with
    | sockfd s => cases s <;> rfl
    | _ => rfl
  refine ⟨?_, ready.exitWatcher, ready.gcTimer⟩
  rw [holds]
  exact upTo.holding.made (upTo.absent (Nat.le_refl _)) fun _ => False.elim

theorem setupFakedns_first (g : MainOptions) (thread : Nat) (answers : LoopAnswers) :
    FirstFailure (SetUpTo g thread 12) (setupFakedns g thread answers)
    (if epEnabled g thread .fakedns then fakednsCalls (answers.socket .fakedns) else [])
    (fun _ => SetUpTo g thread 13) (Releasable g thread) := by
  refine FirstFailure.when (fun wanted => ?_) fun off st upTo => ?_
  · have kept : FirstFailure (FakednsBound g thread) (pure ⟨⟩ : LoopM Unit) [] (fun _ => Releasable g thread)
        (Releasable g thread) := firstFailure_pure fun _ => FakednsBound.releasable
    refine (newNonblockSockfd_first (s := .fakedns)).step fun opts => FirstFailure.given fun same =>
      FirstFailure.silent (Q := fun _ => FakednsBound g thread) ?_ fun _ => (checkCall_first kept).step fun _ =>
        (checkMade_first kept).step fun _ => firstFailure_modify fun st bound => ?_
    · refine firstFailure_modify fun st made => ?_
      obtain ⟨st₀, upTo, rfl⟩ := made
      exact ⟨st₀, upTo, by rw [same]; rfl⟩
    · obtain ⟨st₀, upTo, rfl⟩ := bound
      have holding := upTo.holding.made (upTo.absent (r := .sockfd .fakedns) (Nat.le_refl _)) fun _ => False.elim
      refine SetUpTo.socket upTo wanted ?_ (EventLoop.holds_socket rfl rfl fun r apart => ?_) rfl
      · refine watch_holding holding ?_ (Function.update_self ..) ?_ ?_
        · exact (Function.update_of_ne (by simp) ..).trans (upTo.present (r := .loop) (by decide) rfl)
        · exact (Function.update_of_ne (by simp) ..).trans (upTo.absent (Nat.le_refl _))
        · exact (Function.update_of_ne (by simp) ..).trans (upTo.absent (Nat.le_refl _))
      · cases r with
        | sockfd s' | watcher s' | started s' => simpa using apart s'
        | loop | exitWatcher | pool p | signalfd | signalWatcher | gcTimer | selector => rfl
  · refine upTo.skip (Nat.le_succ _) fun r from_ below => ?_
    rcases LoopRes.stage_socket (s := .fakedns) (Nat.le_antisymm (Nat.le_of_lt_succ below) from_) with
      rfl | rfl | rfl <;> exact Bool.eq_false_of_not_eq_true off

end Sockets

section Timers

/-- A timer that is started on the loop. -/
theorem timer_holding {log : List (UseEvent LoopRes)} {held : LoopRes → Bool} {r : LoopRes}
    (holding : Holding loopNeeds log held) (loop : held .loop = true) (idle : held r = false)
    (timer : ∀ r', loopNeeds r r' → r' = .loop) :
    Holding loopNeeds (.made r :: .used .loop :: log) (Function.update held r true) :=
  (holding.used loop).made idle fun r' need => timer r' need ▸ loop

theorem LoopRes.stage_gc {r : LoopRes} (here : r.stage = 13) : r = .gcTimer := by
  cases r with
  | gcTimer => rfl
  | pool p => cases p <;> exact absurd here (by decide)
  | sockfd s | watcher s | started s => cases s <;> exact absurd here (by decide)
  | loop | exitWatcher | signalfd | signalWatcher | selector => exact absurd here (by decide)

theorem LoopRes.stage_selector {r : LoopRes} (here : r.stage = 14) : r = .selector := by
  cases r with
  | selector => rfl
  | pool p => cases p <;> exact absurd here (by decide)
  | sockfd s | watcher s | started s => cases s <;> exact absurd here (by decide)
  | loop | exitWatcher | signalfd | signalWatcher | gcTimer => exact absurd here (by decide)

theorem startGc_first : FirstFailure (SetUpTo g thread 13) (startGc g thread) [] (fun _ => SetUpTo g thread 14)
    (Releasable g thread) := by
  unfold startGc
  split
  · rename_i udp
    refine firstFailure_modify fun st upTo => ?_
    have holds : EventLoop.holds { st.emit [.made .gcTimer, .used .loop] with gcTimer := true } =
        Function.update st.holds .gcTimer true := by
      funext r
      cases r <;> rfl
    refine upTo.next ?_ (fun r here => ?_) (fun r other => ?_) upTo.opts
    · rw [holds]
      exact timer_holding upTo.holding (upTo.present (r := .loop) (by decide) rfl)
        (upTo.absent (Nat.le_refl _)) fun _ => id
    · rw [LoopRes.stage_gc here, holds, Function.update_self]
      exact udp.symm
    · rw [holds, Function.update_of_ne]
      rintro rfl
      exact other rfl
  · rename_i off
    refine firstFailure_pure fun st upTo => upTo.skip (Nat.le_succ _) fun r from_ below => ?_
    rw [LoopRes.stage_gc (Nat.le_antisymm (Nat.le_of_lt_succ below) from_)]
    exact Bool.eq_false_of_not_eq_true off

theorem startSelector_first : FirstFailure (SetUpTo g thread 14) (startSelector g thread) []
    (fun _ => SetUpTo g thread 15) (Releasable g thread) := by
  unfold startSelector
  split
  · rename_i several
    refine firstFailure_modify fun st upTo => ?_
    have holds : EventLoop.holds { st.emit [.made .selector, .used .loop] with selectorStarted := true } =
        Function.update st.holds .selector true := by
      funext r
      cases r <;> rfl
    refine upTo.next ?_ (fun r here => ?_) (fun r other => ?_) upTo.opts
    · rw [holds]
      exact timer_holding upTo.holding (upTo.present (r := .loop) (by decide) rfl)
        (upTo.absent (Nat.le_refl _)) fun _ => id
    · rw [LoopRes.stage_selector here, holds, Function.update_self, loopWanted, decide_eq_true several.1,
        decide_eq_true several.2, Bool.and_self]
    · rw [holds, Function.update_of_ne]
      rintro rfl
      exact other rfl
  · rename_i off
    refine firstFailure_pure fun st upTo => upTo.skip (Nat.le_succ _) fun r from_ below => ?_
    rw [LoopRes.stage_selector (Nat.le_antisymm (Nat.le_of_lt_succ below) from_), loopWanted,
      ← Bool.decide_and, decide_eq_false off]

/-- The whole set-up stops at the first of its calls that fails, or makes all that is wanted. -/
theorem setupEventLoop_first (g : MainOptions) (thread : Nat) (answers : LoopAnswers) :
    FirstFailure (· = EventLoop.start thread) (setupEventLoop g thread answers)
      (loopCalls g thread answers) (fun _ => SetUpTo g thread 15) (Releasable g thread) := by
  refine newEvLoop_first.bind fun _ => createUdpPools_first.bind fun _ => createTcpPools_first.bind fun _ =>
    openSignalfd_first.bind fun _ => (setupEndpoint_first (s := .tcp4) nofun).bind fun _ =>
    (setupEndpoint_first (s := .tcp6) nofun).bind fun _ => (setupEndpoint_first (s := .udp4) nofun).bind fun _ =>
    (setupEndpoint_first (s := .udp6) nofun).bind fun _ => ?_
  have last := (setupFakedns_first g thread answers).bind fun _ =>
    startGc_first.silent fun _ => startSelector_first
  rw [List.append_nil] at last
  exact last

end Timers

end Tproxy
