import Tproxy.Main.ExitCode

namespace Tproxy

/-- The calls on loops and threads are in order, and the shared fields of
`thread_info_t` are safe. -/
structure ThreadsSafe (w : MainWorld) : Prop where
  /-- A loop is used only while it is there, and so is a thread. -/
  log : UseLog w.log
  loops : ∀ i, w.workers i ≠ .absent → (∀ code, w.workers i ≠ .finished code) →
    UseEvent.alive (.loop (i + 1)) w.log = true ∧ (w.threads i).evloop = true
  exclusive : (w.main.locked = true → ∀ i code, w.workers i ≠ .markedStopped code) ∧
    ∀ i j code code', w.workers i = .markedStopped code → w.workers j = .markedStopped code' → i = j
  /-- Main touches `running` without the lock before the worker is created and after
  it has finished. -/
  unlocked : ∀ i, (w.main = .create i → w.workers i = .absent) ∧
    ∀ how code ret w', w.main = .join how i code → i < w.threadCount → w.mainStep ret = some w' →
      ∃ threadRet, w.workers i = .finished threadRet ∧ w' = w.joined how i code threadRet
  /-- A worker that was asked to exit has the event until it takes it. -/
  asked : ∀ i, w.life i = .spawned true → (w.workers i).listens = true → (w.threads i).exitSent = true
  /-- When main has returned, all that was made has been given back. -/
  released : ∀ how code, w.main = .returned how code →
    (∀ i, w.log.count (.made (.loop i)) = w.log.count (.gone (.loop i)) ∧
      w.log.count (.made (.thread (i + 1))) = w.log.count (.gone (.thread (i + 1)))) ∧
    ∀ i, w.workers i = .absent ∨ ∃ threadRet, w.workers i = .finished threadRet

variable {n steps i : Nat} {w w' : MainWorld}

namespace MainInv

theorem exclusive (inv : MainInv n w) : (w.main.locked = true → ∀ i code, w.workers i ≠ .markedStopped code) ∧
    ∀ i j code code', w.workers i = .markedStopped code → w.workers j = .markedStopped code' → i = j := by
  refine ⟨fun locks i code here => ?_, fun i j code code' here there => ?_⟩
  · have held := (inv.lockWorker i).mpr ⟨code, here⟩
    cases (inv.lockMain.mpr locks).symm.trans held
  · have held := (inv.lockWorker i).mpr ⟨code, here⟩
    have held' := (inv.lockWorker j).mpr ⟨code', there⟩
    exact Nat.succ.inj (Option.some.inj (held.symm.trans held'))

theorem create_absent (inv : MainInv n w) (here : w.main = .create i) : w.workers i = .absent := by
  have fits := inv.fits i
  rw [MainWorld.life, here, MainAt.life, if_neg (Nat.lt_irrefl i)] at fits
  exact fits.slot_before.1

theorem join_finished (inv : MainInv n w) {how : MainEnd} {code ret : Nat} (here : w.main = .join how i code)
    (more : i < w.threadCount) (taken : w.mainStep ret = some w') :
    ∃ threadRet, w.workers i = .finished threadRet ∧ w' = w.joined how i code threadRet := by
  have fits := inv.fits i
  rw [MainWorld.life, here, MainAt.life, if_neg (Nat.lt_irrefl i), if_pos more] at fits
  simp only [MainWorld.mainStep, here, if_pos more] at taken
  split at taken
  · rename_i threadRet finished
    exact ⟨threadRet, finished, (Option.some.inj taken).symm⟩
  · rename_i absent
    exact absurd absent fits.slot_spawned.1
  · cases taken

theorem released (inv : MainInv n w) {how : MainEnd} {code : Nat} (here : w.main = .returned how code) :
    (∀ i, w.log.count (.made (.loop i)) = w.log.count (.gone (.loop i)) ∧
      w.log.count (.made (.thread (i + 1))) = w.log.count (.gone (.thread (i + 1)))) ∧
    ∀ i, w.workers i = .absent ∨ ∃ threadRet, w.workers i = .finished threadRet := by
  have gone {r : ThreadRes} (gone : UseEvent.alive r w.log = false) :
      w.log.count (.made r) = w.log.count (.gone r) := by
    have balance := inv.log.balance r
    rwa [gone, if_neg Bool.false_ne_true, Nat.add_zero] at balance
  have life (i : Nat) : (w.workers i = .absent ∨ ∃ threadRet, w.workers i = .finished threadRet) ∧
      UseEvent.alive (.loop (i + 1)) w.log = false ∧ UseEvent.alive (.thread (i + 1)) w.log = false := by
    have fits := inv.fits i
    rw [MainWorld.life, here, MainAt.life] at fits
    split at fits
    · exact ⟨Or.inr fits.slot_joined.1, fits.slot_joined.2⟩
    · exact ⟨Or.inl fits.slot_before.1, fits.slot_before.2.2⟩
  refine ⟨fun i => ⟨gone ?_, gone (life i).2.2⟩, fun i => (life i).1⟩
  cases i with
  | zero =>
    rw [inv.loopMain, here]
    rfl
  | succ i => exact (life i).2.1

end MainInv

/-- In every interleaving, no thread uses a loop that is not there, main joins each
thread and destroys each loop once, and `running` is only touched by one thread at a
time. -/
theorem main_threads_safe (run : MainWorld.Run n steps w) : ThreadsSafe w where
  log := run.inv.log
  loops i present goesOn := by
    obtain ⟨_, _, _, info, loop, _⟩ := run.inv.spawned rfl present goesOn
    exact ⟨loop, congrArg ThreadInfo.evloop info⟩
  exclusive := run.inv.exclusive
  unlocked i := ⟨run.inv.create_absent, fun _ _ _ _ here more taken => run.inv.join_finished here more taken⟩
  asked i life listens := by
    have fits := run.inv.fits i
    rw [life] at fits
    obtain ⟨_, sent, info, _, _, asked, _⟩ := fits.slot_spawned
    rw [info]
    exact asked rfl listens
  released _ _ := run.inv.released

theorem MainWorld.failing_run : ∃ w, MainWorld.Run 1 20 w ∧ w.main = .returned (.loopEnd 0) 98 := by
  have ends : ((MainWorld.start 1).follow failingTurns).map MainWorld.main =
      some (.returned (.loopEnd 0) 98) := by decide
  obtain ⟨w, taken, main⟩ := Option.map_eq_some_iff.mp ends
  exact ⟨w, MainWorld.Run.start.follow taken, main⟩

/-- A worker fails, and main joins it. -/
theorem main_threads_safe_failing : ∃ w, MainWorld.Run 1 20 w ∧ ThreadsSafe w := by
  obtain ⟨w, run, _⟩ := MainWorld.failing_run
  exact ⟨w, run, main_threads_safe run⟩

/-- What the exit code of the process says. -/
structure ExitReport (n : Nat) (w : MainWorld) (how : MainEnd) (code : Nat) : Prop where
  created : how.created n w.threadCount
  ended : ∀ i < w.threadCount, ∃ threadRet, w.workers i = .finished threadRet
  zero : code = 0 ↔ how = .loopEnd 0 ∧ ∀ i < n, w.workers i = .finished 0
  initFail : how = .initFail → code = 1
  own : ∀ own, how = .loopEnd own → own ≠ 0 → code = own
  first : how = .loopEnd 0 → code ≠ 0 →
    ∃ i < n, w.workers i = .finished code ∧ ∀ j < i, w.workers j = .finished 0

/-- The first code that is not 0 is that of a worker, and the workers before it ended
with 0. -/
theorem firstCode_first {workers : Nat → WorkerAt} (ended : ∀ j < i, ∃ code, workers j = .finished code)
    (failed : firstCode workers i ≠ 0) :
    ∃ j < i, workers j = .finished (firstCode workers i) ∧ ∀ k < j, workers k = .finished 0 := by
  induction i with
  | zero => exact absurd rfl failed
  | succ i ih =>
    have before : ∀ j < i, ∃ code, workers j = .finished code := fun j less => ended j (Nat.lt_succ_of_lt less)
    obtain ⟨code, last⟩ := ended i (Nat.lt_succ_self i)
    by_cases none : firstCode workers i = 0
    · have here : firstCode workers (i + 1) = code := by rw [firstCode, if_pos none, last]
      rw [here]
      exact ⟨i, Nat.lt_succ_self i, last, (firstCode_eq_zero before).mp none⟩
    · have same : firstCode workers (i + 1) = firstCode workers i := by rw [firstCode, if_neg none]
      obtain ⟨j, less, found⟩ := ih before none
      rw [same]
      exact ⟨j, Nat.lt_succ_of_lt less, found⟩

/-- The exit code is 0 exactly if all `n` workers were created and every thread ended
well. It is 1 if a worker could not be created, whatever the others returned; otherwise
it is that of main's own loop, or else of the first worker that failed. -/
theorem main_exit_code {how : MainEnd} {code : Nat} (run : MainWorld.Run n steps w)
    (here : w.main = .returned how code) : ExitReport n w how code := by
  have counts := run.counts
  rw [here] at counts
  obtain ⟨created, value⟩ := counts
  have ended (i : Nat) (less : i < w.threadCount) := run.inv.ended (Or.inr ⟨rfl, Or.inr here⟩) less
  refine ⟨created, ended, ?_, ?_, ?_, ?_⟩
  · cases how with
    | initFail => simp [value, MainWorld.exitCode]
    | loopEnd own =>
      have count : w.threadCount = n := created
      rw [value, MainWorld.exitCode, ← count, ← firstCode_eq_zero ended]
      by_cases well : own = 0 <;> by_cases none : firstCode w.workers w.threadCount = 0 <;> simp [well, none]
  · rintro rfl
    rw [value, MainWorld.exitCode]
  · rintro own rfl failed
    rw [value, MainWorld.exitCode, if_neg fun both => failed both.1]
  · rintro rfl failed
    have count : w.threadCount = n := created
    have same : code = firstCode w.workers w.threadCount := by
      rw [value, MainWorld.exitCode]
      split
      · rfl
      · rename_i none
        exact (not_not.mp fun some => none ⟨rfl, some⟩).symm
    rw [same] at failed ⊢
    rw [← count]
    exact firstCode_first ended failed

/-- The failing worker's code is the exit code. -/
theorem main_exit_code_failing : ∃ w, MainWorld.Run 1 20 w ∧ ExitReport 1 w (.loopEnd 0) 98 := by
  obtain ⟨w, run, here⟩ := MainWorld.failing_run
  exact ⟨w, run, main_exit_code run here⟩

end Tproxy
