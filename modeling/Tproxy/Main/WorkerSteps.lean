import Tproxy.Main.ThreadSteps

namespace Tproxy

variable {n ret i : Nat} {w w' : MainWorld} {worker : WorkerAt}

namespace MainInv

/-- A worker that moves was created and not yet joined. -/
theorem spawned (inv : MainInv n w) (here : w.workers i = worker) (present : worker ≠ .absent)
    (goesOn : ∀ code, worker ≠ .finished code) : ∃ asked sent, w.life i = .spawned asked ∧
      w.threads i = ⟨true, sent, worker.marked⟩ ∧ UseEvent.alive (.loop (i + 1)) w.log = true ∧
      UseEvent.alive (.thread (i + 1)) w.log = true ∧
      (asked = true → worker.listens = true → sent = true) ∧
      (asked = false → sent = false ∧ worker.stopped = false) := by
  subst here
  have fits := inv.fits i
  cases life : w.life i with
  | spawned asked =>
    rw [life] at fits
    obtain ⟨_, sent, rest⟩ := fits.slot_spawned
    exact ⟨asked, sent, rfl, rest⟩
  | before => exact absurd (life ▸ fits : WorkerFits .before _).slot_before.1 present
  | looped => exact absurd (life ▸ fits : WorkerFits .looped _).slot_looped.1 present
  | marked => exact absurd (life ▸ fits : WorkerFits .marked _).slot_marked.1 present
  | joined =>
    obtain ⟨⟨code, finished⟩, _⟩ := (life ▸ fits : WorkerFits .joined _).slot_joined
    exact absurd finished (goesOn code)

/-- The lock goes to worker `i`. -/
theorem worker_locks (inv : MainInv n w) {code : Nat} (free : w.lock = none) (j : Nat) :
    some (i + 1) = some (j + 1) ↔
      ∃ c, Function.update w.workers i (.markedStopped code) j = .markedStopped c := by
  by_cases same : j = i
  · simp [same]
  · have quiet := inv.lockWorker j
    simp only [free, reduceCtorEq, false_iff] at quiet
    simp [same, Ne.symm same, quiet]

theorem worker_unlocks (inv : MainInv n w) (held : w.lock = some (i + 1))
    (next : ∀ code, worker ≠ .markedStopped code) (j : Nat) :
    none = some (j + 1) ↔ ∃ c, Function.update w.workers i worker j = .markedStopped c := by
  by_cases same : j = i
  · simp [same, next]
  · have quiet := inv.lockWorker j
    simp only [held, Option.some.injEq, Nat.add_right_cancel_iff, Ne.symm same, false_iff] at quiet
    simp [same, quiet]

theorem worker_keeps (inv : MainInv n w) (before : ∀ code, w.workers i ≠ .markedStopped code)
    (next : ∀ code, worker ≠ .markedStopped code) (j : Nat) :
    w.lock = some (j + 1) ↔ ∃ c, Function.update w.workers i worker j = .markedStopped c := by
  rw [inv.lockWorker j]
  by_cases same : j = i
  · subst same
    simp [before, next]
  · simp [same]

/-- Unless a worker ends here, the workers that have ended are those of before. -/
theorem worker_failed (inv : MainInv n w) (next : ∀ code, worker ≠ .finished code)
    (waits : w.main.awaits = true) (j code : Nat)
    (done : Function.update w.workers i worker j = .finished code) : w.sigPending = true := by
  by_cases same : j = i
  · rw [same, Function.update_self] at done
    exact absurd done (next code)
  · rw [Function.update_of_ne same] at done
    exact inv.failed waits j code done

/-- A step of worker `i` that leaves its loop and its thread. -/
theorem worker_next (inv : MainInv n w) (worker : WorkerAt) (sent : Bool) {asked : Bool}
    (life : w.life i = .spawned asked) (main : w'.main = w.main) (count : w'.threadCount = w.threadCount)
    (others : ∀ j, j ≠ i → w'.slot j = w.slot j)
    (slot : w'.slot i = ⟨worker, ⟨true, sent, worker.marked⟩, true, true⟩) (present : worker ≠ .absent)
    (listens : asked = true → worker.listens = true → sent = true)
    (unasked : asked = false → sent = false ∧ worker.stopped = false) (j : Nat) :
    WorkerFits (w'.life j) (w'.slot j) := by
  have same (j : Nat) : w'.life j = w.life j := by rw [MainWorld.life, main, count, MainWorld.life]
  refine inv.fits_of i (fun j other => ⟨same j, others j other⟩) ?_ j
  rw [same, life, slot]
  exact .spawned present listens unasked

theorem worker_setup (inv : MainInv n w) (here : w.workers i = .setup)
    (taken : w.workerStep i ret = some w') : MainInv n w' := by
  obtain ⟨asked, sent, life, info, loop, thread, listens, unasked⟩ := inv.spawned here (by simp) (by simp)
  simp only [MainWorld.workerStep, here, Option.some.injEq] at taken
  subst taken
  refine
    { inv with
      fits := inv.worker_next (if ret = 0 then .looping else .cleaning ret) sent life rfl rfl
        (fun j other => ?_) ?_ ?_ (fun yes _ => listens yes rfl) fun no => ⟨(unasked no).1, ?_⟩
      lockWorker := inv.worker_keeps (by simp [here]) (by split <;> simp)
      log := inv.log.used loop
      failed := inv.worker_failed (by split <;> simp) }
  · simp [MainWorld.slot, MainWorld.setWorker, MainWorld.emit, other]
  · by_cases done : ret = 0 <;>
      simp [done, MainWorld.slot, MainWorld.setWorker, MainWorld.emit, info, loop, thread, WorkerAt.marked]
  · split <;> simp
  · split
    · rfl
    · rename_i failed
      simp [WorkerAt.stopped, failed]

theorem worker_looping (inv : MainInv n w) (here : w.workers i = .looping)
    (taken : w.workerStep i ret = some w') : MainInv n w' := by
  obtain ⟨asked, sent, life, info, loop, thread, _, unasked⟩ := inv.spawned here (by simp) (by simp)
  simp only [MainWorld.workerStep, here] at taken
  split at taken
  · rename_i exit
    cases taken
    rw [info] at exit
    refine
      { inv with
        fits := inv.worker_next (.cleaning 0) false life rfl rfl (fun j other => ?_) ?_ (by simp)
          (by simp [WorkerAt.listens]) fun no => ?_
        lockWorker := inv.worker_keeps (by simp [here]) (by simp)
        log := inv.log.used loop
        failed := inv.worker_failed (by simp) }
    · simp [MainWorld.slot, MainWorld.setThread, MainWorld.setWorker, MainWorld.emit, other]
    · simp [MainWorld.slot, MainWorld.setThread, MainWorld.setWorker, MainWorld.emit, info, loop, thread,
        WorkerAt.marked]
    · cases (unasked no).1.symm.trans exit
  · cases taken

theorem worker_cleaning (inv : MainInv n w) {code : Nat} (here : w.workers i = .cleaning code)
    (taken : w.workerStep i ret = some w') : MainInv n w' := by
  obtain ⟨asked, sent, life, info, loop, thread, _, unasked⟩ := inv.spawned here (by simp) (by simp)
  simp only [MainWorld.workerStep, here, Option.some.injEq] at taken
  subst taken
  refine
    { inv with
      fits := inv.worker_next (.markStopped code) sent life rfl rfl (fun j other => ?_) ?_ (by simp)
        (by simp [WorkerAt.listens]) fun no => ⟨(unasked no).1, ?_⟩
      lockWorker := inv.worker_keeps (by simp [here]) (by simp)
      log := inv.log.used loop
      failed := inv.worker_failed (by simp) }
  · simp [MainWorld.slot, MainWorld.setWorker, MainWorld.emit, other]
  · simp [MainWorld.slot, MainWorld.setWorker, MainWorld.emit, info, loop, thread, WorkerAt.marked]
  · have stopped := (unasked no).2
    cases code
    · exact stopped
    · rfl

theorem worker_markStopped (inv : MainInv n w) {code : Nat} (here : w.workers i = .markStopped code)
    (taken : w.workerStep i ret = some w') : MainInv n w' := by
  obtain ⟨asked, sent, life, info, loop, thread, _, unasked⟩ := inv.spawned here (by simp) (by simp)
  simp only [MainWorld.workerStep, here] at taken
  split at taken
  · rename_i free
    cases taken
    refine
      { inv with
        fits := inv.worker_next (.markedStopped code) sent life rfl rfl (fun j other => ?_) ?_ (by simp)
          (by simp [WorkerAt.listens]) fun no => ⟨(unasked no).1, ?_⟩
        lockMain := iff_of_false (by simp) fun locks => by cases free.symm.trans (inv.lockMain.mpr locks)
        lockWorker := inv.worker_locks free
        failed := inv.worker_failed (by simp) }
    · simp [MainWorld.slot, MainWorld.setWorker, other]
    · simp [MainWorld.slot, MainWorld.setWorker, info, loop, thread, WorkerAt.marked]
    · have stopped := (unasked no).2
      cases code
      · exact stopped
      · rfl
  · cases taken

theorem worker_markedStopped (inv : MainInv n w) {code : Nat} (here : w.workers i = .markedStopped code)
    (taken : w.workerStep i ret = some w') : MainInv n w' := by
  obtain ⟨asked, sent, life, info, loop, thread, _, unasked⟩ := inv.spawned here (by simp) (by simp)
  have held : w.lock = some (i + 1) := (inv.lockWorker i).mpr ⟨code, here⟩
  simp only [MainWorld.workerStep, here, Option.some.injEq] at taken
  subst taken
  refine
    { inv with
      fits := inv.worker_next (if code = 0 then .finished 0 else .killing code) sent life rfl rfl
        (fun j other => ?_) ?_ ?_ (fun _ => ?_) fun no => ⟨(unasked no).1, ?_⟩
      lockMain := iff_of_false (by simp) fun locks => by cases held.symm.trans (inv.lockMain.mpr locks)
      lockWorker := inv.worker_unlocks held (by split <;> simp)
      failed := fun waits => ?_ }
  · simp [MainWorld.slot, MainWorld.setThread, MainWorld.setWorker, other]
  · by_cases done : code = 0 <;>
      simp [done, MainWorld.slot, MainWorld.setThread, MainWorld.setWorker, info, loop, thread,
        WorkerAt.marked]
  · split <;> simp
  · split <;> rintro ⟨⟩
  · have stopped := (unasked no).2
    cases code
    · exact stopped
    · rfl
  · by_cases done : code = 0
    · -- the worker was asked to exit, so main does not await a signal
      subst done
      cases asked with
      | false => cases (unasked rfl).2
      | true => exact absurd life (MainAt.awaits_life waits)
    · simp only [if_neg done]
      exact inv.worker_failed (by simp) waits

theorem worker_killing (inv : MainInv n w) {code : Nat} (here : w.workers i = .killing code)
    (taken : w.workerStep i ret = some w') : MainInv n w' := by
  obtain ⟨asked, sent, life, info, loop, thread, _, unasked⟩ := inv.spawned here (by simp) (by simp)
  simp only [MainWorld.workerStep, here, Option.some.injEq] at taken
  subst taken
  refine
    { inv with
      fits := inv.worker_next (.finished code) sent life rfl rfl (fun j other => ?_) ?_ (by simp)
        (by simp [WorkerAt.listens]) fun no => ⟨(unasked no).1, ?_⟩
      lockWorker := inv.worker_keeps (by simp [here]) (by simp)
      failed := fun _ _ _ _ => rfl }
  · simp [MainWorld.slot, MainWorld.setWorker, other]
  · simp [MainWorld.slot, MainWorld.setWorker, info, loop, thread, WorkerAt.marked]
  · have stopped := (unasked no).2
    cases code
    · exact stopped
    · rfl

/-- Every step of a worker keeps the invariant. -/
theorem workerStep (inv : MainInv n w) (taken : w.workerStep i ret = some w') : MainInv n w' := by
  cases here : w.workers i with
  | setup => exact inv.worker_setup here taken
  | looping => exact inv.worker_looping here taken
  | cleaning code => exact inv.worker_cleaning here taken
  | markStopped code => exact inv.worker_markStopped here taken
  | markedStopped code => exact inv.worker_markedStopped here taken
  | killing code => exact inv.worker_killing here taken
  | absent | finished code => simp only [MainWorld.workerStep, here, reduceCtorEq] at taken

theorem move (inv : MainInv n w) (move : w.Move w') : MainInv n w' := by
  cases move with
  | main ret taken => exact inv.mainStep taken
  | worker i ret taken => exact inv.workerStep taken

end MainInv

theorem MainWorld.start_inv (n : Nat) : MainInv n (MainWorld.start n) where
  count := Nat.le_refl n
  within := Nat.zero_le n
  fits i := .before
  lockMain := iff_of_false nofun nofun
  lockWorker i := iff_of_false nofun nofun
  log := .nil
  loopMain := rfl
  failed _ i code done := by cases done

/-- The invariant holds in every run. -/
theorem MainWorld.Run.inv {steps : Nat} (run : MainWorld.Run n steps w) : MainInv n w := by
  induction run with
  | start => exact MainWorld.start_inv n
  | move _ move ih => exact ih.move move
  | signal _ ih => exact { ih with failed := fun _ _ _ _ => rfl }

end Tproxy
