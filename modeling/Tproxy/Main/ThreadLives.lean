import Mathlib.Tactic.SplitIfs
import Tproxy.Main.Threads

namespace Tproxy

/-- What main has done about a worker: its loop is made, `running` is set, the
thread is created (and asked to exit, or not), it is joined. -/
inductive WorkerLife
  | before
  | looped
  | marked
  | spawned (asked : Bool)
  | joined
deriving DecidableEq

/-- The worker can still take an exit event. -/
def WorkerAt.listens : WorkerAt → Bool
  | .setup | .looping => true
  | _ => false

/-- The worker has not reset `running`. -/
def WorkerAt.marked : WorkerAt → Bool
  | .absent | .killing _ | .finished _ => false
  | _ => true

/-- The worker is past its loop, with exit code 0. -/
def WorkerAt.stopped : WorkerAt → Bool
  | .cleaning 0 | .markStopped 0 | .markedStopped 0 | .killing 0 | .finished 0 => true
  | _ => false

namespace MainAt

/-- What main has done about worker `i`, where `count` is `g_thread_count`. -/
def life (count i : Nat) : MainAt → WorkerLife
  | .create k => if i < k then .spawned false else .before
  | .markRunning k | .markedRunning k | .dropLoop k =>
    if i < k then .spawned false else if i = k then .looped else .before
  | .spawn k | .unmark k | .unmarked k =>
    if i < k then .spawned false else if i = k then .marked else .before
  | .newLoop | .setup | .looping | .requestLock _ => if i < count then .spawned false else .before
  | .cleaning _ code => if i < count then .spawned (code = 0) else .before
  | .requesting _ k => if i < count then .spawned (i < k) else .before
  | .join _ k _ => if i < k then .joined else if i < count then .spawned true else .before
  | .exiting _ _ | .returned _ _ => if i < count then .joined else .before

/-- Main holds the lock. -/
def locked : MainAt → Bool
  | .markedRunning _ | .unmarked _ | .requesting _ _ => true
  | _ => false

/-- Main's own loop is there. -/
def hasLoop : MainAt → Bool
  | .setup | .looping | .requestLock .signalRead | .requesting .signalRead _ => true
  | .cleaning evloop _ => evloop
  | _ => false

/-- Main has not yet read a signal, and still may do so. -/
def awaits : MainAt → Bool
  | .create _ | .markRunning _ | .markedRunning _ | .spawn _ | .unmark _ | .unmarked _ | .dropLoop _ =>
    true
  | .newLoop | .setup | .looping => true
  | _ => false

/-- The indices are those of `g_threads`. -/
def within (count : Nat) : MainAt → Prop
  | .create k | .requesting _ k | .join _ k _ => k ≤ count
  | .markRunning k | .markedRunning k | .spawn k | .unmark k | .unmarked k | .dropLoop k => k < count
  | _ => True

end MainAt

/-- Main asks no worker to exit before it has read a signal or has failed. -/
theorem MainAt.awaits_life {main : MainAt} {count i : Nat} (awaits : main.awaits = true) :
    main.life count i ≠ .spawned true := by
  cases main <;> simp only [MainAt.awaits, Bool.false_eq_true] at awaits <;> simp only [MainAt.life] <;>
    split_ifs <;> simp

/-- A worker, its slot in `g_threads`, and whether its loop and its thread are there. -/
structure WorkerSlot where
  worker : WorkerAt
  info : ThreadInfo
  loop : Bool
  thread : Bool

/-- A worker is as main has left it. While its thread is there, `running` is set
until the worker resets it; if it was asked to exit it has the event or needs none,
and otherwise it does not stop by itself with code 0. -/
inductive WorkerFits : WorkerLife → WorkerSlot → Prop
  | before {sent} : WorkerFits .before ⟨.absent, ⟨false, sent, false⟩, false, false⟩
  | looped : WorkerFits .looped ⟨.absent, ⟨true, false, false⟩, true, false⟩
  | marked : WorkerFits .marked ⟨.absent, ⟨true, false, true⟩, true, false⟩
  | spawned {worker sent asked} : worker ≠ .absent →
      (asked = true → worker.listens = true → sent = true) →
      (asked = false → sent = false ∧ worker.stopped = false) →
      WorkerFits (.spawned asked) ⟨worker, ⟨true, sent, worker.marked⟩, true, true⟩
  | joined {code sent} : WorkerFits .joined ⟨.finished code, ⟨false, sent, false⟩, false, false⟩

namespace MainWorld
variable {w w' : MainWorld} {i j : Nat}

def slot (w : MainWorld) (i : Nat) : WorkerSlot where
  worker := w.workers i
  info := w.threads i
  loop := UseEvent.alive (.loop (i + 1)) w.log
  thread := UseEvent.alive (.thread (i + 1)) w.log

def life (w : MainWorld) (i : Nat) : WorkerLife := w.main.life w.threadCount i

end MainWorld

/-- What holds in every state of the process. -/
structure MainInv (n : Nat) (w : MainWorld) : Prop where
  count : w.threadCount ≤ n
  within : w.main.within w.threadCount
  fits : ∀ i, WorkerFits (w.life i) (w.slot i)
  lockMain : w.lock = some 0 ↔ w.main.locked = true
  lockWorker : ∀ i, w.lock = some (i + 1) ↔ ∃ code, w.workers i = .markedStopped code
  log : UseLog w.log
  loopMain : UseEvent.alive (.loop 0) w.log = w.main.hasLoop
  failed : w.main.awaits = true → ∀ i code, w.workers i = .finished code → w.sigPending = true

variable {n i : Nat} {w w' : MainWorld}

section Slots

theorem WorkerFits.slot_before (fits : WorkerFits .before (w.slot i)) : w.workers i = .absent ∧
    (∃ sent, w.threads i = ⟨false, sent, false⟩) ∧ UseEvent.alive (.loop (i + 1)) w.log = false ∧
      UseEvent.alive (.thread (i + 1)) w.log = false := by
  generalize slot : w.slot i = s at fits
  cases fits with
  | @before sent =>
    simp only [MainWorld.slot, WorkerSlot.mk.injEq] at slot
    exact ⟨slot.1, ⟨sent, slot.2.1⟩, slot.2.2⟩

theorem WorkerFits.slot_looped (fits : WorkerFits .looped (w.slot i)) : w.workers i = .absent ∧
    w.threads i = ⟨true, false, false⟩ ∧ UseEvent.alive (.loop (i + 1)) w.log = true ∧
      UseEvent.alive (.thread (i + 1)) w.log = false := by
  generalize slot : w.slot i = s at fits
  cases fits
  simpa only [MainWorld.slot, WorkerSlot.mk.injEq] using slot

theorem WorkerFits.slot_marked (fits : WorkerFits .marked (w.slot i)) : w.workers i = .absent ∧
    w.threads i = ⟨true, false, true⟩ ∧ UseEvent.alive (.loop (i + 1)) w.log = true ∧
      UseEvent.alive (.thread (i + 1)) w.log = false := by
  generalize slot : w.slot i = s at fits
  cases fits
  simpa only [MainWorld.slot, WorkerSlot.mk.injEq] using slot

theorem WorkerFits.slot_spawned {asked : Bool} (fits : WorkerFits (.spawned asked) (w.slot i)) :
    w.workers i ≠ .absent ∧ ∃ sent, w.threads i = ⟨true, sent, (w.workers i).marked⟩ ∧
      UseEvent.alive (.loop (i + 1)) w.log = true ∧ UseEvent.alive (.thread (i + 1)) w.log = true ∧
      (asked = true → (w.workers i).listens = true → sent = true) ∧
      (asked = false → sent = false ∧ (w.workers i).stopped = false) := by
  generalize slot : w.slot i = s at fits
  cases fits with
  | @spawned worker sent _ present listens unasked =>
    simp only [MainWorld.slot, WorkerSlot.mk.injEq] at slot
    obtain ⟨rfl, info, loop, thread⟩ := slot
    exact ⟨present, sent, info, loop, thread, listens, unasked⟩

theorem WorkerFits.slot_joined (fits : WorkerFits .joined (w.slot i)) :
    (∃ code, w.workers i = .finished code) ∧ UseEvent.alive (.loop (i + 1)) w.log = false ∧
      UseEvent.alive (.thread (i + 1)) w.log = false := by
  generalize slot : w.slot i = s at fits
  cases fits with
  | @joined code sent =>
    simp only [MainWorld.slot, WorkerSlot.mk.injEq] at slot
    exact ⟨⟨code, slot.1⟩, slot.2.2⟩

end Slots

end Tproxy
