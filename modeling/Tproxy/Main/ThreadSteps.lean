import Tproxy.Main.ThreadLives

namespace Tproxy

variable {n ret i : Nat} {w w' : MainWorld}

namespace MainInv

/-- A step that is about worker `i` only. -/
theorem fits_of (inv : MainInv n w) (i : Nat)
    (others : ∀ j, j ≠ i → w'.life j = w.life j ∧ w'.slot j = w.slot j)
    (here : WorkerFits (w'.life i) (w'.slot i)) (j : Nat) : WorkerFits (w'.life j) (w'.slot j) := by
  by_cases same : j = i
  · rw [same]
    exact here
  · obtain ⟨life, slot⟩ := others j same
    rw [life, slot]
    exact inv.fits j

theorem at_ (inv : MainInv n w) {here : MainAt} (at_ : w.main = here) :
    here.within w.threadCount ∧ (w.lock = some 0 ↔ here.locked = true) ∧
      UseEvent.alive (.loop 0) w.log = here.hasLoop ∧
      (here.awaits = true → ∀ i code, w.workers i = .finished code → w.sigPending = true) ∧
      (∀ j, w.life j = here.life w.threadCount j) ∧
      ∀ j, WorkerFits (here.life w.threadCount j) (w.slot j) := by
  subst at_
  exact ⟨inv.within, inv.lockMain, inv.loopMain, inv.failed, fun _ => rfl, inv.fits⟩

/-- While no worker holds the lock, none is about to release it. -/
theorem unlocked (inv : MainInv n w) (free : w.lock = none ∨ w.lock = some 0) (lock : Option Nat)
    (free' : lock = none ∨ lock = some 0) (j : Nat) :
    lock = some (j + 1) ↔ ∃ code, w.workers j = .markedStopped code := by
  rw [← inv.lockWorker j]
  rcases free with at_ | at_ <;> rcases free' with at' | at' <;> simp [at_, at']

/-- Main takes the lock and stands as before otherwise. -/
theorem takeLock (inv : MainInv n w) {next : MainAt} (taken : w.takeLock next = some w')
    (within : next.within w.threadCount) (life : ∀ j, next.life w.threadCount j = w.life j)
    (locks : next.locked = true) (loop : next.hasLoop = w.main.hasLoop)
    (awaits : next.awaits = true → w.main.awaits = true) : MainInv n w' := by
  unfold MainWorld.takeLock at taken
  split at taken
  · rename_i free
    cases taken
    exact
      { inv with
        within := within
        fits := fun j => by
          rw [MainWorld.life, life j]
          exact inv.fits j
        lockMain := by simp only [locks]
        lockWorker := inv.unlocked (Or.inl free) (some 0) (Or.inr rfl)
        loopMain := inv.loopMain.trans loop.symm
        failed := fun waits => inv.failed (awaits waits) }
  · cases taken

section Creation

/-- The lives of the other workers do not depend on where main stands with worker `i`. -/
theorem creating_life {count j : Nat} (other : j ≠ i) :
    MainAt.life count j (.create i) = MainAt.life count j (.create (i + 1)) ∧
    MainAt.life count j (.markRunning i) = MainAt.life count j (.create i) ∧
    MainAt.life count j (.spawn i) = MainAt.life count j (.create i) ∧
    MainAt.life i j (.requestLock .initFail) = MainAt.life count j (.create i) := by
  simp only [MainAt.life, if_neg other]
  rcases Nat.lt_or_gt_of_ne other with less | more
  · simp [less, Nat.lt_succ_of_lt less]
  · simp [Nat.not_lt.mpr (Nat.le_of_lt more), Nat.not_lt.mpr more]

theorem create (inv : MainInv n w) (here : w.main = .create i)
    (taken : w.mainStep ret = some w') : MainInv n w' := by
  obtain ⟨within, locked, loopMain, failed, life, fits⟩ := inv.at_ here
  have fitsHere := fits i
  rw [MainAt.life, if_neg (Nat.lt_irrefl i)] at fitsHere
  obtain ⟨absent, -, noLoop, noThread⟩ := fitsHere.slot_before
  simp only [MainWorld.mainStep, here] at taken
  split at taken
  · rename_i more
    split at taken
    · cases taken
      refine
        { inv with
          within := more
          fits := inv.fits_of i (fun j other => ⟨?_, ?_⟩) ?_
          lockMain := locked
          log := (inv.log.made noLoop).used (by simp)
          loopMain := by simpa [MainAt.hasLoop] using loopMain
          failed := failed }
      · rw [life]
        exact (creating_life other).2.1
      · simp [MainWorld.slot, MainWorld.setThread, MainWorld.emit, other, Ne.symm other]
      · simp [MainWorld.life, MainAt.life, MainWorld.slot, MainWorld.setThread, MainWorld.emit, absent,
          noThread, WorkerFits.looped]
    · cases taken
      refine
        { inv with
          count := Nat.le_of_lt (Nat.lt_of_lt_of_le more inv.count)
          within := trivial
          fits := inv.fits_of i (fun j other => ⟨?_, ?_⟩) ?_
          lockMain := locked
          loopMain := loopMain
          failed := by rintro ⟨⟩ }
      · rw [life]
        exact (creating_life other).2.2.2
      · simp [MainWorld.slot, MainWorld.setThread, other]
      · simp [MainWorld.life, MainAt.life, MainWorld.slot, MainWorld.setThread, absent, noLoop, noThread,
          WorkerFits.before]
  · rename_i all
    cases taken
    refine { inv with within := trivial, fits := fun j => ?_, lockMain := locked, loopMain := loopMain,
                      failed := failed }
    have fitsThere := fits j
    rwa [Nat.le_antisymm within (Nat.not_lt.mp all)] at fitsThere

theorem markedRunning (inv : MainInv n w) (here : w.main = .markedRunning i)
    (taken : w.mainStep ret = some w') : MainInv n w' := by
  obtain ⟨within, locked, loopMain, failed, life, fits⟩ := inv.at_ here
  have fitsHere := fits i
  rw [MainAt.life, if_neg (Nat.lt_irrefl i), if_pos rfl] at fitsHere
  obtain ⟨absent, info, loop, noThread⟩ := fitsHere.slot_looped
  simp only [MainWorld.mainStep, here, Option.some.injEq] at taken
  subst taken
  refine
    { inv with
      within := within
      fits := inv.fits_of i (fun j other => ⟨?_, ?_⟩) ?_
      lockMain := by simp [MainAt.locked]
      lockWorker := inv.unlocked (Or.inr (locked.mpr rfl)) none (Or.inl rfl)
      loopMain := loopMain
      failed := failed }
  · rw [life]
    simp only [MainWorld.life, MainAt.life, if_neg other]
  · simp [MainWorld.slot, MainWorld.setThread, other]
  · simp [MainWorld.life, MainAt.life, MainWorld.slot, MainWorld.setThread, absent, info, loop, noThread,
      WorkerFits.marked]

theorem spawn (inv : MainInv n w) (here : w.main = .spawn i)
    (taken : w.mainStep ret = some w') : MainInv n w' := by
  obtain ⟨within, locked, loopMain, failed, life, fits⟩ := inv.at_ here
  simp only [MainWorld.mainStep, here] at taken
  split at taken
  · have fitsHere := fits i
    rw [MainAt.life, if_neg (Nat.lt_irrefl i), if_pos rfl] at fitsHere
    obtain ⟨absent, info, loop, noThread⟩ := fitsHere.slot_marked
    cases taken
    refine
      { inv with
        within := within
        fits := inv.fits_of i (fun j other => ⟨?_, ?_⟩) ?_
        lockMain := locked
        lockWorker := fun j => (inv.lockWorker j).trans (exists_congr fun code => ?_)
        log := inv.log.made noThread
        loopMain := loopMain
        failed := fun _ j code done => failed rfl j code ?_ }
    · rw [life, (creating_life other).2.2.1]
      exact (creating_life other).1.symm
    · simp [MainWorld.slot, MainWorld.setWorker, MainWorld.emit, other, Ne.symm other]
    · have started : WorkerFits (.spawned false) ⟨.setup, ⟨true, false, true⟩, true, true⟩ :=
        .spawned (by simp) (by simp) fun _ => ⟨rfl, rfl⟩
      simpa [MainWorld.life, MainAt.life, MainWorld.slot, MainWorld.setWorker, MainWorld.emit, info, loop]
        using started
    · by_cases same : j = i <;> simp [MainWorld.emit, MainWorld.setWorker, same, absent]
    · by_cases same : j = i
      · simp [MainWorld.emit, MainWorld.setWorker, same] at done
      · simpa [MainWorld.emit, MainWorld.setWorker, same] using done
  · cases taken
    exact { inv with within := within, fits := fits, lockMain := locked, loopMain := loopMain,
                     failed := failed }

theorem unmarked (inv : MainInv n w) (here : w.main = .unmarked i)
    (taken : w.mainStep ret = some w') : MainInv n w' := by
  obtain ⟨within, locked, loopMain, failed, life, fits⟩ := inv.at_ here
  have fitsHere := fits i
  rw [MainAt.life, if_neg (Nat.lt_irrefl i), if_pos rfl] at fitsHere
  obtain ⟨absent, info, loop, noThread⟩ := fitsHere.slot_marked
  simp only [MainWorld.mainStep, here, Option.some.injEq] at taken
  subst taken
  refine
    { inv with
      within := within
      fits := inv.fits_of i (fun j other => ⟨?_, ?_⟩) ?_
      lockMain := by simp [MainAt.locked]
      lockWorker := inv.unlocked (Or.inr (locked.mpr rfl)) none (Or.inl rfl)
      loopMain := loopMain
      failed := failed }
  · rw [life]
    simp only [MainWorld.life, MainAt.life, if_neg other]
  · simp [MainWorld.slot, MainWorld.setThread, other]
  · simp [MainWorld.life, MainAt.life, MainWorld.slot, MainWorld.setThread, absent, info, loop, noThread,
      WorkerFits.looped]

theorem dropLoop (inv : MainInv n w) (here : w.main = .dropLoop i)
    (taken : w.mainStep ret = some w') : MainInv n w' := by
  obtain ⟨within, locked, loopMain, failed, life, fits⟩ := inv.at_ here
  have bound : i < w.threadCount := within
  have fitsHere := fits i
  rw [MainAt.life, if_neg (Nat.lt_irrefl i), if_pos rfl] at fitsHere
  obtain ⟨absent, info, loop, noThread⟩ := fitsHere.slot_looped
  simp only [MainWorld.mainStep, here, Option.some.injEq] at taken
  subst taken
  refine
    { inv with
      count := Nat.le_of_lt (Nat.lt_of_lt_of_le bound inv.count)
      within := trivial
      fits := inv.fits_of i (fun j other => ⟨?_, ?_⟩) ?_
      lockMain := locked
      log := (inv.log.used loop).gone loop
      loopMain := by simpa [MainAt.hasLoop] using loopMain
      failed := by rintro ⟨⟩ }
  · rw [life]
    simp only [MainWorld.life, MainAt.life, if_neg other]
  · simp [MainWorld.slot, MainWorld.setThread, MainWorld.emit, other, Ne.symm other]
  · simp [MainWorld.life, MainAt.life, MainWorld.slot, MainWorld.setThread, MainWorld.emit, absent, info,
      noThread, WorkerFits.before]

end Creation

section OwnLoop

theorem newLoop (inv : MainInv n w) (here : w.main = .newLoop)
    (taken : w.mainStep ret = some w') : MainInv n w' := by
  obtain ⟨within, locked, loopMain, failed, life, fits⟩ := inv.at_ here
  simp only [MainWorld.mainStep, here] at taken
  split at taken
  · cases taken
    refine { inv with within := trivial, fits := fun j => ?_, lockMain := locked,
                      log := inv.log.made loopMain, loopMain := by simp [MainAt.hasLoop], failed := failed }
    have slot : (w.emit [.made (.loop 0)]).slot j = w.slot j := by simp [MainWorld.slot, MainWorld.emit]
    exact slot ▸ fits j
  · cases taken
    exact { inv with within := trivial, fits := fits, lockMain := locked, loopMain := loopMain,
                     failed := by rintro ⟨⟩ }

theorem setup (inv : MainInv n w) (here : w.main = .setup)
    (taken : w.mainStep ret = some w') : MainInv n w' := by
  obtain ⟨within, locked, loopMain, failed, life, fits⟩ := inv.at_ here
  simp only [MainWorld.mainStep, here, Option.some.injEq] at taken
  subst taken
  have log := inv.log.used loopMain
  by_cases done : ret = 0
  · simp only [done, if_true]
    exact { inv with within := trivial, fits := fits, lockMain := locked, log := log,
                     loopMain := loopMain, failed := failed }
  · simp only [done, if_false]
    refine { inv with within := trivial, fits := fun j => ?_, lockMain := locked, log := log,
                      loopMain := loopMain, failed := by rintro ⟨⟩ }
    rw [MainWorld.life, MainAt.life, decide_eq_false done]
    exact fits j

theorem looping (inv : MainInv n w) (here : w.main = .looping)
    (taken : w.mainStep ret = some w') : MainInv n w' := by
  obtain ⟨within, locked, loopMain, failed, life, fits⟩ := inv.at_ here
  simp only [MainWorld.mainStep, here] at taken
  split at taken
  · cases taken
    exact { inv with within := trivial, fits := fits, lockMain := locked, loopMain := loopMain,
                     failed := by rintro ⟨⟩ }
  · cases taken

theorem cleaning (inv : MainInv n w) {evloop : Bool} {code : Nat} (here : w.main = .cleaning evloop code)
    (taken : w.mainStep ret = some w') : MainInv n w' := by
  obtain ⟨within, locked, loopMain, failed, life, fits⟩ := inv.at_ here
  simp only [MainWorld.mainStep, here, Option.some.injEq] at taken
  have log : UseLog w'.log ∧ UseEvent.alive (.loop 0) w'.log = false ∧ w'.slot = w.slot := by
    subst taken
    cases evloop with
    | false => exact ⟨inv.log, loopMain, rfl⟩
    | true =>
      refine ⟨(inv.log.used loopMain).gone loopMain, by simp, ?_⟩
      funext j
      simp [MainWorld.slot, MainWorld.emit]
  obtain ⟨log, gone, slot⟩ := log
  subst taken
  by_cases done : code = 0
  · simp only [if_pos done] at *
    refine { inv with within := Nat.zero_le _, fits := fun j => ?_, lockMain := locked, log := log,
                      loopMain := gone, failed := by rintro ⟨⟩ }
    have fitsHere := fits j
    rw [MainAt.life, decide_eq_true done] at fitsHere
    exact slot ▸ fitsHere
  · simp only [if_neg done] at *
    refine { inv with within := trivial, fits := fun j => ?_, lockMain := locked, log := log,
                      loopMain := gone, failed := by rintro ⟨⟩ }
    have fitsHere := fits j
    rw [MainAt.life, decide_eq_false done] at fitsHere
    exact slot ▸ fitsHere

end OwnLoop

section Requests

/-- An exit event is sent to a worker that has not reset `running`; the others do not
wait for it. -/
theorem requestExit_fits (w : MainWorld) (fits : WorkerFits (.spawned false) (w.slot i)) :
    WorkerFits (.spawned true) ((w.requestExit i).slot i) := by
  obtain ⟨present, sent, info, loop, thread, _⟩ := fits.slot_spawned
  unfold MainWorld.requestExit
  by_cases running : (w.workers i).marked = true
  · have asked : WorkerFits (.spawned true) ⟨w.workers i, ⟨true, true, (w.workers i).marked⟩, true, true⟩ :=
      .spawned present (fun _ _ => rfl) (by rintro ⟨⟩)
    simpa [running, info, MainWorld.slot, MainWorld.setThread, MainWorld.emit, loop, thread] using asked
  · have quiet : (w.workers i).listens = false := by
      cases at_ : w.workers i <;> simp [at_, WorkerAt.marked, WorkerAt.listens] at running ⊢
    have asked : WorkerFits (.spawned true) ⟨w.workers i, ⟨true, sent, (w.workers i).marked⟩, true, true⟩ :=
      .spawned present (fun _ listens => by rw [quiet] at listens; cases listens) (by rintro ⟨⟩)
    simpa [running, info, MainWorld.slot, loop, thread] using asked

theorem requestExit_frame (w : MainWorld) (i : Nat) :
    (∀ j, j ≠ i → (w.requestExit i).slot j = w.slot j) ∧
      (w.requestExit i).threadCount = w.threadCount ∧ (w.requestExit i).workers = w.workers ∧
      (w.requestExit i).lock = w.lock ∧
      (UseEvent.alive (.loop (i + 1)) w.log = true → UseLog w.log → UseLog (w.requestExit i).log) ∧
      UseEvent.alive (.loop 0) (w.requestExit i).log = UseEvent.alive (.loop 0) w.log := by
  unfold MainWorld.requestExit
  split
  · refine ⟨fun j other => ?_, rfl, rfl, rfl, fun alive used => used.used alive, rfl⟩
    simp [MainWorld.slot, MainWorld.setThread, MainWorld.emit, other]
  · exact ⟨fun _ _ => rfl, rfl, rfl, rfl, fun _ used => used, rfl⟩

theorem requesting (inv : MainInv n w) {request : ExitRequest} (here : w.main = .requesting request i)
    (taken : w.mainStep ret = some w') : MainInv n w' := by
  obtain ⟨within, locked, loopMain, failed, life, fits⟩ := inv.at_ here
  simp only [MainWorld.mainStep, here] at taken
  split at taken
  · rename_i more
    have fitsHere := fits i
    rw [MainAt.life, if_pos more, decide_eq_false (Nat.lt_irrefl i)] at fitsHere
    obtain ⟨_, _, _, loop, _⟩ := fitsHere.slot_spawned
    obtain ⟨others, count, workers, lock, log, loopZero⟩ := requestExit_frame w i
    cases taken
    refine
      { count := Nat.le_trans (Nat.le_of_eq count) inv.count
        within := Nat.succ_le_of_lt (count.symm ▸ more)
        fits := inv.fits_of i (fun j other => ⟨?_, others j other⟩) ?_
        lockMain := lock.symm ▸ locked
        lockWorker := by
          rw [lock, workers]
          exact inv.lockWorker
        log := log loop inv.log
        loopMain := loopZero.trans (loopMain.trans (by cases request <;> rfl))
        failed := by rintro ⟨⟩ }
    · rw [life, MainWorld.life, count]
      have same : j < i + 1 ↔ j < i := by omega
      simp only [MainAt.life, same]
    · have asked := requestExit_fits w fitsHere
      rw [MainWorld.life, count]
      simp only [MainAt.life, if_pos more, decide_eq_true (Nat.lt_succ_self i)]
      exact asked
  · rename_i all
    have last : i = w.threadCount := Nat.le_antisymm within (Nat.not_lt.mp all)
    subst last
    have asked (j : Nat) :
        WorkerFits (if j < w.threadCount then .spawned true else .before) (w.slot j) := by
      have fitsHere := fits j
      rw [MainAt.life] at fitsHere
      split at fitsHere
      · rename_i less
        rw [if_pos less]
        rwa [decide_eq_true less] at fitsHere
      · rename_i more
        rwa [if_neg more]
    have unlocked := inv.unlocked (Or.inr (locked.mpr rfl)) none (Or.inl rfl)
    have released : none = some 0 ↔ (MainWorld.requested request).locked = true := by
      cases request <;> simp [MainWorld.requested, MainAt.locked]
    cases taken
    cases request with
    | signalRead =>
      exact { inv with within := trivial, fits := asked, lockMain := released, lockWorker := unlocked,
                       loopMain := loopMain, failed := by rintro ⟨⟩ }
    | initFail | loopFailed =>
      exact { inv with within := Nat.zero_le _, fits := asked, lockMain := released,
                       lockWorker := unlocked, loopMain := loopMain, failed := by rintro ⟨⟩ }

end Requests

/-- A worker that was asked to exit is joined, and then its loop is destroyed. -/
theorem join (inv : MainInv n w) {how : MainEnd} {code : Nat} (here : w.main = .join how i code)
    (taken : w.mainStep ret = some w') : MainInv n w' := by
  obtain ⟨within, locked, loopMain, failed, life, fits⟩ := inv.at_ here
  simp only [MainWorld.mainStep, here] at taken
  split at taken
  · rename_i more
    have fitsHere := fits i
    rw [MainAt.life, if_neg (Nat.lt_irrefl i), if_pos more] at fitsHere
    obtain ⟨present, sent, info, loop, thread, _⟩ := fitsHere.slot_spawned
    split at taken
    · rename_i threadRet finished
      simp only [Option.some.injEq] at taken
      subst taken
      have log : (w.joined how i code threadRet).log =
          .gone (.loop (i + 1)) :: .gone (.thread (i + 1)) :: w.log := by
        simp [MainWorld.joined, MainWorld.emit, info]
      refine
        { inv with
          within := more
          fits := inv.fits_of i (fun j other => ⟨?_, ?_⟩) ?_
          lockMain := locked
          log := log ▸ (inv.log.gone thread).gone (by simpa using loop)
          loopMain := by
            rw [log, UseEvent.alive_gone, UseEvent.alive_gone, loopMain]
            rfl
          failed := by rintro ⟨⟩ }
      · rw [life, MainWorld.life, MainWorld.joined]
        have same : j < i + 1 ↔ j < i := by omega
        simp only [MainAt.life, same]
        rfl
      · rw [MainWorld.slot, log]
        simp [MainWorld.slot, MainWorld.joined, MainWorld.setThread, MainWorld.emit, other, Ne.symm other]
      · rw [MainWorld.slot, log]
        simp [MainWorld.life, MainAt.life, MainWorld.joined, MainWorld.setThread, MainWorld.emit, finished,
          info, WorkerFits.joined]
    · rename_i absent
      exact absurd absent present
    · cases taken
  · rename_i all
    have last : i = w.threadCount := Nat.le_antisymm within (Nat.not_lt.mp all)
    subst last
    cases taken
    refine { inv with within := trivial, fits := fun j => ?_, lockMain := locked, loopMain := loopMain,
                      failed := by rintro ⟨⟩ }
    have fitsHere := fits j
    rw [MainAt.life] at fitsHere
    split at fitsHere
    · rename_i less
      rw [MainWorld.life, MainAt.life, if_pos less]
      exact fitsHere
    · rename_i more
      rw [MainWorld.life, MainAt.life, if_neg more]
      exact fitsHere

/-- Every step of the main thread keeps the invariant. -/
theorem mainStep (inv : MainInv n w) (taken : w.mainStep ret = some w') : MainInv n w' := by
  cases here : w.main with
  | create i => exact inv.create here taken
  | markedRunning i => exact inv.markedRunning here taken
  | spawn i => exact inv.spawn here taken
  | unmarked i => exact inv.unmarked here taken
  | dropLoop i => exact inv.dropLoop here taken
  | newLoop => exact inv.newLoop here taken
  | setup => exact inv.setup here taken
  | looping => exact inv.looping here taken
  | cleaning evloop code => exact inv.cleaning here taken
  | requesting request i => exact inv.requesting here taken
  | join how i code => exact inv.join here taken
  | markRunning i | unmark i =>
    obtain ⟨within, _, _, _, life, _⟩ := inv.at_ here
    simp only [MainWorld.mainStep, here] at taken
    refine inv.takeLock taken within (fun j => (life j).symm) rfl ?_ fun _ => ?_
    · rw [here]
      rfl
    · rw [here]
      rfl
  | requestLock request =>
    obtain ⟨_, _, _, _, life, _⟩ := inv.at_ here
    simp only [MainWorld.mainStep, here] at taken
    refine inv.takeLock taken (Nat.zero_le _) (fun j => ?_) rfl ?_ ?_
    · simp only [life, MainAt.life, Nat.not_lt_zero, decide_false]
    · rw [here]
      cases request <;> rfl
    · rintro ⟨⟩
  | exiting how code =>
    obtain ⟨_, locked, loopMain, _, _, fits⟩ := inv.at_ here
    simp only [MainWorld.mainStep, here, Option.some.injEq] at taken
    subst taken
    exact { inv with within := trivial, fits := fits, lockMain := locked, loopMain := loopMain,
                     failed := by rintro ⟨⟩ }
  | returned how code =>
    simp only [MainWorld.mainStep, here, reduceCtorEq] at taken

end MainInv

end Tproxy
