import Tproxy.Main.WorkerSteps

namespace Tproxy

/-- The code of the first of the workers before `i` that failed, or 0. -/
def firstCode (workers : Nat → WorkerAt) : Nat → Nat
  | 0 => 0
  | i + 1 =>
    if firstCode workers i = 0 then
      match workers i with
      | .finished code => code
      | _ => 0
    else firstCode workers i

/-- `main` failed to create a worker, or created all `n`. -/
def MainEnd.created (n count : Nat) : MainEnd → Prop
  | .initFail => count < n
  | .loopEnd _ => count = n

/-- What main knows about the ends of the workers. -/
def MainAt.counts (n count : Nat) (workers : Nat → WorkerAt) : MainAt → Prop
  | .requestLock .initFail | .requesting .initFail _ => count < n
  | .join how i code => how.created n count ∧ code = firstCode workers i
  | .exiting how code | .returned how code =>
    how.created n count ∧ code = MainWorld.exitCode how (firstCode workers count)
  | _ => count = n

variable {n ret steps i : Nat} {w w' : MainWorld}

theorem firstCode_congr {workers workers' : Nat → WorkerAt} (same : ∀ j < i, workers' j = workers j) :
    firstCode workers' i = firstCode workers i := by
  induction i with
  | zero => rfl
  | succ i ih =>
    simp only [firstCode, ih fun j less => same j (Nat.lt_succ_of_lt less), same i (Nat.lt_succ_self i)]

/-- All of the workers that were joined ended with code 0, or one of them failed. -/
theorem firstCode_eq_zero {workers : Nat → WorkerAt} (ended : ∀ j < i, ∃ code, workers j = .finished code) :
    firstCode workers i = 0 ↔ ∀ j < i, workers j = .finished 0 := by
  induction i with
  | zero => simp [firstCode]
  | succ i ih =>
    have before := ih fun j less => ended j (Nat.lt_succ_of_lt less)
    obtain ⟨code, last⟩ := ended i (Nat.lt_succ_self i)
    rw [firstCode, last]
    constructor
    · intro zero j less
      split at zero
      · rename_i none
        rcases Nat.lt_succ_iff_lt_or_eq.mp less with earlier | rfl
        · exact before.mp none j earlier
        · rw [last]
          exact congrArg _ zero
      · rename_i some
        exact absurd zero some
    · intro all
      rw [if_pos (before.mpr fun j less => all j (Nat.lt_succ_of_lt less))]
      have zero := all i (Nat.lt_succ_self i)
      rw [last] at zero
      exact WorkerAt.finished.inj zero

/-- The workers that main has joined have finished. -/
theorem MainInv.ended (inv : MainInv n w) {how : MainEnd} {code : Nat}
    (here : w.main = .join how i code ∨ (i = w.threadCount ∧
      (w.main = .exiting how code ∨ w.main = .returned how code))) {j : Nat} (less : j < i) :
    ∃ c, w.workers j = .finished c := by
  have fits := inv.fits j
  have life : w.life j = .joined := by
    rcases here with at_ | ⟨rfl, at_ | at_⟩ <;> rw [MainWorld.life, at_, MainAt.life, if_pos less]
  rw [life] at fits
  exact fits.slot_joined.1

theorem mainStep_counts (inv : MainInv n w) (counts : w.main.counts n w.threadCount w.workers)
    (taken : w.mainStep ret = some w') : w'.main.counts n w'.threadCount w'.workers := by
  have within := inv.within
  have bounded := inv.count
  cases here : w.main <;> rw [here] at counts within <;> simp only [MainWorld.mainStep, here] at taken
  case create i =>
    split at taken
    · split at taken
      · cases taken
        exact counts
      · cases taken
        exact Nat.lt_of_lt_of_le ‹_› bounded
    · cases taken
      exact counts
  case spawn i => split at taken <;> cases taken <;> exact counts
  case markRunning i | unmark i =>
    unfold MainWorld.takeLock at taken
    split at taken <;> cases taken
    exact counts
  case requestLock request =>
    unfold MainWorld.takeLock at taken
    split at taken <;> cases taken
    cases request <;> exact counts
  case markedRunning i | unmarked i =>
    cases taken
    exact counts
  case dropLoop i =>
    cases taken
    exact Nat.lt_of_lt_of_le within bounded
  case newLoop => split at taken <;> cases taken <;> exact counts
  case setup =>
    cases taken
    by_cases done : ret = 0
    · rw [if_pos done]
      exact counts
    · rw [if_neg done]
      exact counts
  case looping =>
    split at taken <;> cases taken
    exact counts
  case cleaning evloop code =>
    cases taken
    by_cases done : code = 0
    · rw [if_pos done]
      exact ⟨counts, rfl⟩
    · rw [if_neg done]
      exact counts
  case requesting request i =>
    obtain ⟨_, count, _⟩ := MainInv.requestExit_frame w i
    split at taken
    · cases taken
      simp only [count]
      cases request <;> exact counts
    · cases taken
      cases request with
      | initFail => exact ⟨counts, rfl⟩
      | signalRead => exact counts
      | loopFailed code => exact ⟨counts, rfl⟩
  case join how i code =>
    obtain ⟨created, first⟩ := counts
    split at taken
    · rename_i more
      split at taken
      · rename_i threadRet finished
        cases taken
        refine ⟨created, ?_⟩
        have next : firstCode w.workers (i + 1) = if code = 0 then threadRet else code := by
          rw [firstCode, ← first, finished]
        exact next.symm
      · rename_i absent
        have fits := inv.fits i
        rw [MainWorld.life, here, MainAt.life, if_neg (Nat.lt_irrefl i), if_pos more] at fits
        exact absurd absent fits.slot_spawned.1
      · cases taken
    · rename_i all
      cases taken
      have last : i = w.threadCount := Nat.le_antisymm within (Nat.not_lt.mp all)
      exact ⟨created, by rw [first, last]⟩
  case exiting how code =>
    cases taken
    exact counts
  case returned how code => cases taken

/-- A worker that has finished takes no step, so its code stays. -/
theorem workerStep_counts (inv : MainInv n w) (counts : w.main.counts n w.threadCount w.workers)
    (taken : w.workerStep i ret = some w') : w'.main.counts n w'.threadCount w'.workers := by
  have others : w'.main = w.main ∧ w'.threadCount = w.threadCount ∧
      ∀ j, (∃ code, w.workers j = .finished code) → w'.workers j = w.workers j := by
    have apart {next : WorkerAt} (goesOn : ∀ code, w.workers i ≠ .finished code) (j : Nat)
        (ended : ∃ code, w.workers j = .finished code) :
        Function.update w.workers i next j = w.workers j := by
      refine Function.update_of_ne ?_ ..
      rintro rfl
      obtain ⟨code, finished⟩ := ended
      exact goesOn code finished
    cases here : w.workers i <;> simp only [MainWorld.workerStep, here] at taken
    case absent | finished code => cases taken
    case looping | markStopped code =>
      split at taken <;> cases taken
      exact ⟨rfl, rfl, apart (by simp [here])⟩
    case setup | cleaning code | markedStopped code | killing code =>
      cases taken
      exact ⟨rfl, rfl, apart (by simp [here])⟩
  obtain ⟨main, count, same⟩ := others
  rw [main, count]
  cases here : w.main <;> rw [here] at counts
  case join how i code =>
    refine ⟨counts.1, counts.2.trans (firstCode_congr fun j less => ?_).symm⟩
    exact same j (inv.ended (Or.inl here) less)
  case exiting how code =>
    refine ⟨counts.1, counts.2.trans (congrArg _ (firstCode_congr fun j less => ?_).symm)⟩
    exact same j (inv.ended (Or.inr ⟨rfl, Or.inl here⟩) less)
  case returned how code =>
    refine ⟨counts.1, counts.2.trans (congrArg _ (firstCode_congr fun j less => ?_).symm)⟩
    exact same j (inv.ended (Or.inr ⟨rfl, Or.inr here⟩) less)
  case requestLock request => cases request <;> exact counts
  case requesting request i => cases request <;> exact counts
  all_goals exact counts

theorem MainWorld.Run.counts (run : MainWorld.Run n steps w) :
    w.main.counts n w.threadCount w.workers := by
  induction run with
  | start => exact rfl
  | move run move ih =>
    cases move with
    | main ret taken => exact mainStep_counts run.inv ih taken
    | worker i ret taken => exact workerStep_counts run.inv ih taken
  | signal _ ih => exact ih

end Tproxy
