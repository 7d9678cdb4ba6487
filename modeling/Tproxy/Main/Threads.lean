import Mathlib.Logic.Function.Basic
import Tproxy.Lib.UseLog

namespace Tproxy

/-- Event loops and threads by `thread_index`: 0 is main, and `g_threads[i]` has
the index `i + 1`. -/
inductive ThreadRes
  | loop (index : Nat)
  | thread (index : Nat)
deriving DecidableEq

/-- `thread_info_t`: whether `evloop` is set, whether the event of `exit_watcher`
is pending, and `running`. -/
structure ThreadInfo where
  evloop : Bool
  exitSent : Bool
  running : Bool

/-- The callers of `request_worker_exits`: `THREAD_INIT_FAIL`, `on_signal_read`, and
`main` after a loop that ended with `code`. -/
inductive ExitRequest
  | initFail
  | signalRead
  | loopFailed (code : Nat)
deriving DecidableEq

/-- How `main` came to `join_worker_threads`. -/
inductive MainEnd
  | initFail
  | loopEnd (code : Nat)
deriving DecidableEq

/-- Where the main thread stands. -/
inductive MainAt
  -- the loop that creates the workers, up to `THREAD_INIT_FAIL`
  | create (i : Nat)
  | markRunning (i : Nat)
  | markedRunning (i : Nat)
  | spawn (i : Nat)
  | unmark (i : Nat)
  | unmarked (i : Nat)
  | dropLoop (i : Nat)
  -- `run_event_loop(NULL)`
  | newLoop
  | setup
  | looping
  | cleaning (evloop : Bool) (code : Nat)
  -- `request_worker_exits`
  | requestLock (request : ExitRequest)
  | requesting (request : ExitRequest) (i : Nat)
  -- `join_worker_threads` and `MAIN_EXIT`
  | join (how : MainEnd) (i : Nat) (code : Nat)
  | exiting (how : MainEnd) (code : Nat)
  | returned (how : MainEnd) (code : Nat)
deriving DecidableEq

/-- Where a worker stands in `run_event_loop`. -/
inductive WorkerAt
  | absent
  | setup
  | looping
  | cleaning (code : Nat)
  | markStopped (code : Nat)
  | markedStopped (code : Nat)
  | killing (code : Nat)
  | finished (code : Nat)
deriving DecidableEq

/-- The threads of the process. `lock` is the index of the thread that holds
`g_thread_state_lock`, `sigPending` a SIGINT or SIGTERM that `signalfd` has not
read, and `log` the calls on loops and threads. -/
structure MainWorld where
  main : MainAt
  workers : Nat → WorkerAt
  threads : Nat → ThreadInfo
  threadCount : Nat
  lock : Option Nat
  sigPending : Bool
  log : List (UseEvent ThreadRes)

namespace MainWorld

def setThread (w : MainWorld) (i : Nat) (info : ThreadInfo) : MainWorld :=
  { w with threads := Function.update w.threads i info }

def setWorker (w : MainWorld) (i : Nat) (worker : WorkerAt) : MainWorld :=
  { w with workers := Function.update w.workers i worker }

/-- Calls, the last one first. -/
def emit (w : MainWorld) (calls : List (UseEvent ThreadRes)) : MainWorld :=
  { w with log := calls ++ w.log }

@[simp] theorem setThread_log (w : MainWorld) (i : Nat) (info : ThreadInfo) :
    (w.setThread i info).log = w.log := rfl

@[simp] theorem setWorker_log (w : MainWorld) (i : Nat) (worker : WorkerAt) :
    (w.setWorker i worker).log = w.log := rfl

@[simp] theorem emit_log (w : MainWorld) (calls : List (UseEvent ThreadRes)) :
    (w.emit calls).log = calls ++ w.log := rfl

/-- `pthread_mutex_lock` by main waits until the lock is free. -/
def takeLock (w : MainWorld) (next : MainAt) : Option MainWorld :=
  if w.lock = none then some { w with lock := some 0, main := next } else none

/-- One round of `request_worker_exits`. -/
def requestExit (w : MainWorld) (i : Nat) : MainWorld :=
  if (w.threads i).running && (w.threads i).evloop then
    (w.setThread i { w.threads i with exitSent := true }).emit [.used (.loop (i + 1))]
  else w

/-- What follows `request_worker_exits` in its callers. -/
def requested : ExitRequest → MainAt
  | .initFail => .join .initFail 0 0
  | .signalRead => .cleaning true 0
  | .loopFailed code => .join (.loopEnd code) 0 0

/-- A round of `join_worker_threads` after `pthread_join` returned: `exit_code` takes
`code` if it is still 0. -/
def joined (w : MainWorld) (how : MainEnd) (i exitCode code : Nat) : MainWorld :=
  let destroyed := if (w.threads i).evloop then [.gone (.loop (i + 1))] else []
  { (w.setThread i { w.threads i with evloop := false, running := false }).emit
      (destroyed ++ [.gone (.thread (i + 1))]) with
    main := .join how (i + 1) (if exitCode = 0 then code else exitCode) }

/-- `exit_code` of `main` after `join_worker_threads` returned `code`. -/
def exitCode : MainEnd → Nat → Nat
  | .initFail, _ => 1
  | .loopEnd own, code => if own = 0 ∧ code ≠ 0 then code else own

/-- The main thread goes on, unless it waits; `ret` is the system's answer to the
call that it makes, 0 for success. -/
def mainStep (ret : Nat) (w : MainWorld) : Option MainWorld :=
  match w.main with
  | .create i =>
    if i < w.threadCount then
      if ret = 0 then
        some { (w.setThread i ⟨true, false, false⟩).emit [.used (.loop (i + 1)), .made (.loop (i + 1))] with
          main := .markRunning i }
      else
        some { w.setThread i { w.threads i with evloop := false, running := false } with
          threadCount := i, main := .requestLock .initFail }
    else some { w with main := .newLoop }
  | .markRunning i => w.takeLock (.markedRunning i)
  | .markedRunning i =>
    some { w.setThread i { w.threads i with running := true } with lock := none, main := .spawn i }
  | .spawn i =>
    if ret = 0 then
      some { (w.setWorker i .setup).emit [.made (.thread (i + 1))] with main := .create (i + 1) }
    else some { w with main := .unmark i }
  | .unmark i => w.takeLock (.unmarked i)
  | .unmarked i =>
    some { w.setThread i { w.threads i with running := false } with lock := none, main := .dropLoop i }
  | .dropLoop i =>
    some { (w.setThread i { w.threads i with evloop := false }).emit
        [.gone (.loop (i + 1)), .used (.loop (i + 1))] with
      threadCount := i, main := .requestLock .initFail }
  | .newLoop =>
    if ret = 0 then some { w.emit [.made (.loop 0)] with main := .setup }
    else some { w with main := .cleaning false 1 }
  | .setup =>
    some { w.emit [.used (.loop 0)] with main := if ret = 0 then .looping else .cleaning true ret }
  | .looping =>
    -- `on_signal_read`; without a signal, `ev_run` does not return
    if w.sigPending then some { w with sigPending := false, main := .requestLock .signalRead } else none
  | .cleaning evloop code =>
    some { w.emit (if evloop then [.gone (.loop 0), .used (.loop 0)] else []) with
      main := if code = 0 then .join (.loopEnd 0) 0 0 else .requestLock (.loopFailed code) }
  | .requestLock request => w.takeLock (.requesting request 0)
  | .requesting request i =>
    if i < w.threadCount then some { w.requestExit i with main := .requesting request (i + 1) }
    else some { w with lock := none, main := requested request }
  | .join how i code =>
    if i < w.threadCount then
      match w.workers i with
      | .finished threadRet => some (w.joined how i code threadRet)
      | .absent => some (w.joined how i code ret)
      | _ => none
    else some { w with main := .exiting how (exitCode how code) }
  | .exiting how code => some { w with main := .returned how code }
  | .returned _ _ => none

/-- A worker goes on in `run_event_loop`, unless it waits; `ret` is the code of its
set-up. -/
def workerStep (i ret : Nat) (w : MainWorld) : Option MainWorld :=
  match w.workers i with
  | .absent => none
  | .setup =>
    some ((w.setWorker i (if ret = 0 then .looping else .cleaning ret)).emit [.used (.loop (i + 1))])
  | .looping =>
    -- `on_async_exit`
    if (w.threads i).exitSent then
      some (((w.setThread i { w.threads i with exitSent := false }).setWorker i (.cleaning 0)).emit
        [.used (.loop (i + 1))])
    else none
  | .cleaning code => some ((w.setWorker i (.markStopped code)).emit [.used (.loop (i + 1))])
  | .markStopped code =>
    if w.lock = none then some { w.setWorker i (.markedStopped code) with lock := some (i + 1) } else none
  | .markedStopped code =>
    some { (w.setThread i { w.threads i with running := false }).setWorker i
        (if code = 0 then .finished 0 else .killing code) with lock := none }
  | .killing code => some { w.setWorker i (.finished code) with sigPending := true }
  | .finished _ => none

/-- `main` after the options were read: `n` workers are to be created. -/
def start (n : Nat) : MainWorld where
  main := .create 0
  workers _ := .absent
  threads _ := ⟨false, false, false⟩
  threadCount := n
  lock := none
  sigPending := false
  log := []

/-- One step of one thread. -/
inductive Move : MainWorld → MainWorld → Prop
  | main {w w'} (ret : Nat) : mainStep ret w = some w' → Move w w'
  | worker {w w'} (i ret : Nat) : workerStep i ret w = some w' → Move w w'

/-- The runs with `n` workers, in any order of the threads and with signals at any
time; `steps` counts the steps of the threads. -/
inductive Run (n : Nat) : Nat → MainWorld → Prop
  | start : Run n 0 (start n)
  | move {steps w w'} : Run n steps w → Move w w' → Run n (steps + 1) w'
  | signal {steps w} : Run n steps w → Run n steps { w with sigPending := true }

/-- Threads take turns: `(0, ret)` is a step of main, and `(i + 1, ret)` one of worker `i`. -/
def follow : List (Nat × Nat) → MainWorld → Option MainWorld
  | [], w => some w
  | (0, ret) :: turns, w => (mainStep ret w).bind (follow turns)
  | (i + 1, ret) :: turns, w => (workerStep i ret w).bind (follow turns)

theorem Run.follow {n steps : Nat} {turns : List (Nat × Nat)} {w w' : MainWorld} (run : Run n steps w)
    (taken : w.follow turns = some w') : Run n (steps + turns.length) w' := by
  induction turns generalizing steps w with
  | nil =>
    cases taken
    exact run
  | cons turn turns ih =>
    rw [List.length_cons, Nat.add_comm turns.length, ← Nat.add_assoc]
    obtain ⟨thread, ret⟩ := turn
    cases thread with
    | zero =>
      obtain ⟨next, first, rest⟩ := Option.bind_eq_some_iff.mp taken
      exact ih (run.move (.main ret first)) rest
    | succ i =>
      obtain ⟨next, first, rest⟩ := Option.bind_eq_some_iff.mp taken
      exact ih (run.move (.worker i ret first)) rest

/-- Main creates a worker whose set-up fails with code 98, reads the signal of the
worker and returns its code. -/
def failingTurns : List (Nat × Nat) :=
  [(0, 0), (0, 0), (0, 0), (0, 0), (1, 98), (1, 0), (0, 0), (1, 0), (1, 0), (0, 0), (0, 0), (1, 0), (0, 0),
    (0, 0), (0, 0), (0, 0), (0, 0), (0, 0), (0, 0), (0, 0)]

end MainWorld

end Tproxy
