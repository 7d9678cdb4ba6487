import Mathlib.Algebra.BigOperators.Group.Finset.Basic
import Mathlib.Algebra.Order.BigOperators.Group.Finset
import Tproxy.Main.ExitCode

namespace Tproxy

/-- How many steps a worker still takes at most. -/
def WorkerAt.rank : WorkerAt → Nat
  | .absent => 7
  | .setup => 6
  | .looping => 5
  | .cleaning _ => 4
  | .markStopped _ => 3
  | .markedStopped _ => 2
  | .killing _ => 1
  | .finished _ => 0

/-- How many steps main still takes at most, with `count` in `g_thread_count`. -/
def MainAt.rank (count : Nat) : MainAt → Nat
  | .create i => 2 * count + 9 + 7 * (count - i)
  | .markRunning i => 2 * count + 8 + 7 * (count - i)
  | .markedRunning i => 2 * count + 7 + 7 * (count - i)
  | .spawn i => 2 * count + 6 + 7 * (count - i)
  | .unmark i => 2 * count + 5 + 7 * (count - i)
  | .unmarked i => 2 * count + 4 + 7 * (count - i)
  | .dropLoop i => 2 * count + 3 + 7 * (count - i)
  | .newLoop => 2 * count + 8
  | .setup => 2 * count + 7
  | .looping => 2 * count + 6
  | .cleaning _ code => if code = 0 then count + 3 else 2 * count + 6
  | .requestLock _ => 2 * count + 5
  | .requesting _ i => count + (count - i) + 4
  | .join _ i _ => count - i + 2
  | .exiting _ _ => 1
  | .returned _ _ => 0

namespace MainWorld

def rank (n : Nat) (w : MainWorld) : Nat :=
  w.main.rank w.threadCount + ∑ i ∈ Finset.range n, (w.workers i).rank

end MainWorld

variable {n ret steps i : Nat} {w w' : MainWorld}

section Rank

/-- A worker that goes on leaves less to do. -/
theorem sum_rank_lt {workers : Nat → WorkerAt} {next : WorkerAt} (bound : i < n)
    (drop : next.rank < (workers i).rank) :
    ∑ j ∈ Finset.range n, (Function.update workers i next j).rank <
      ∑ j ∈ Finset.range n, (workers j).rank := by
  refine Finset.sum_lt_sum (fun j _ => ?_) ⟨i, Finset.mem_range.mpr bound, ?_⟩
  · by_cases same : j = i
    · rw [same, Function.update_self]
      exact Nat.le_of_lt drop
    · rw [Function.update_of_ne same]
  · rw [Function.update_self]
    exact drop

theorem rank_lt_of_main (workers : w'.workers = w.workers)
    (main : w'.main.rank w'.threadCount < w.main.rank w.threadCount) : w'.rank n < w.rank n := by
  unfold MainWorld.rank
  rw [workers]
  exact Nat.add_lt_add_right main _

theorem MainInv.mainStep_rank (inv : MainInv n w) (taken : w.mainStep ret = some w') :
    w'.rank n < w.rank n := by
  have within := inv.within
  cases here : w.main <;> rw [here] at within <;> simp only [MainWorld.mainStep, here] at taken
  case create i =>
    split at taken
    · split at taken
      · cases taken
        refine rank_lt_of_main rfl ?_
        simp only [here, MainAt.rank, MainWorld.emit, MainWorld.setThread]
        omega
      · cases taken
        refine rank_lt_of_main rfl ?_
        simp only [here, MainAt.rank]
        omega
    · cases taken
      refine rank_lt_of_main rfl ?_
      simp only [here, MainAt.rank]
      omega
  case spawn i =>
    have bound : i < w.threadCount := within
    split at taken
    · cases taken
      have fits := inv.fits i
      have life : w.life i = .marked := by
        rw [MainWorld.life, here, MainAt.life, if_neg (Nat.lt_irrefl i), if_pos rfl]
      rw [life] at fits
      have drop : WorkerAt.setup.rank < (w.workers i).rank := by
        rw [fits.slot_marked.1]
        decide
      have sum := sum_rank_lt (Nat.lt_of_lt_of_le bound inv.count) drop
      simp only [MainWorld.rank, here, MainAt.rank, MainWorld.emit, MainWorld.setWorker]
      omega
    · cases taken
      refine rank_lt_of_main rfl ?_
      simp only [here, MainAt.rank]
      omega
  case markRunning i | unmark i | requestLock request =>
    unfold MainWorld.takeLock at taken
    split at taken
    · cases taken
      refine rank_lt_of_main rfl ?_
      simp only [here, MainAt.rank]
      omega
    · cases taken
  case markedRunning i | unmarked i | exiting how code =>
    cases taken
    refine rank_lt_of_main rfl ?_
    simp only [here, MainAt.rank, MainWorld.setThread]
    omega
  case dropLoop i =>
    have bound : i < w.threadCount := within
    cases taken
    refine rank_lt_of_main rfl ?_
    simp only [here, MainAt.rank]
    omega
  case newLoop =>
    split at taken <;> cases taken <;> refine rank_lt_of_main rfl ?_ <;>
      simp only [here, MainAt.rank, MainWorld.emit] <;> simp
  case setup =>
    cases taken
    refine rank_lt_of_main rfl ?_
    by_cases done : ret = 0 <;> simp [here, MainAt.rank, MainWorld.emit, done]
  case looping =>
    split at taken
    · cases taken
      refine rank_lt_of_main rfl ?_
      simp only [here, MainAt.rank]
      omega
    · cases taken
  case cleaning evloop code =>
    cases taken
    refine rank_lt_of_main rfl ?_
    by_cases done : code = 0
    · simp [here, MainAt.rank, MainWorld.emit, done]
    · simp [here, MainAt.rank, MainWorld.emit, done]
  case requesting request i =>
    split at taken
    · cases taken
      obtain ⟨_, count, workers, _⟩ := requestExit_frame w i
      refine rank_lt_of_main workers ?_
      rw [count]
      simp only [here, MainAt.rank]
      omega
    · cases taken
      refine rank_lt_of_main rfl ?_
      cases request <;> simp only [here, MainWorld.requested, MainAt.rank, if_true] <;> omega
  case join how i code =>
    split at taken
    · split at taken
      · cases taken
        refine rank_lt_of_main rfl ?_
        simp only [here, MainAt.rank, MainWorld.joined, MainWorld.emit, MainWorld.setThread]
        omega
      · cases taken
        refine rank_lt_of_main rfl ?_
        simp only [here, MainAt.rank, MainWorld.joined, MainWorld.emit, MainWorld.setThread]
        omega
      · cases taken
    · cases taken
      refine rank_lt_of_main rfl ?_
      simp only [here, MainAt.rank]
      omega
  case returned how code => cases taken

theorem MainAt.life_beyond {main : MainAt} {count : Nat} (within : main.within count) (beyond : count ≤ i) :
    main.life count i = .before := by
  cases main <;> simp only [MainAt.within] at within <;> simp only [MainAt.life] <;>
    split_ifs <;> first | rfl | omega

/-- Only the workers that main has counted are there. -/
theorem MainInv.bound (inv : MainInv n w) (present : w.workers i ≠ .absent) : i < w.threadCount := by
  refine Nat.lt_of_not_le fun beyond => present ?_
  have fits := inv.fits i
  rw [MainWorld.life, MainAt.life_beyond inv.within beyond] at fits
  exact fits.slot_before.1

theorem MainInv.workerStep_rank (inv : MainInv n w) (taken : w.workerStep i ret = some w') :
    w'.rank n < w.rank n := by
  have lower {next : WorkerAt} (drop : next.rank < (w.workers i).rank) :
      ∑ j ∈ Finset.range n, (Function.update w.workers i next j).rank <
        ∑ j ∈ Finset.range n, (w.workers j).rank := by
    refine sum_rank_lt (Nat.lt_of_lt_of_le (inv.bound fun absent => ?_) inv.count) drop
    simp only [MainWorld.workerStep, absent, reduceCtorEq] at taken
  have goesOn {next : WorkerAt} (main : w'.main = w.main) (count : w'.threadCount = w.threadCount)
      (workers : w'.workers = Function.update w.workers i next) (drop : next.rank < (w.workers i).rank) :
      w'.rank n < w.rank n := by
    rw [MainWorld.rank, main, count, workers]
    exact Nat.add_lt_add_left (lower drop) _
  cases here : w.workers i <;> simp only [MainWorld.workerStep, here] at taken
  case absent | finished code => cases taken
  case setup =>
    cases taken
    refine goesOn rfl rfl rfl ?_
    rw [here]
    split
    · exact Nat.lt_succ_self 5
    · exact Nat.lt_succ_of_lt (Nat.lt_succ_self 4)
  case looping =>
    split at taken
    · cases taken
      exact goesOn rfl rfl rfl (by rw [here]; decide)
    · cases taken
  case cleaning code =>
    cases taken
    exact goesOn rfl rfl rfl (by rw [here]; exact Nat.lt_succ_self 3)
  case markStopped code =>
    split at taken
    · cases taken
      exact goesOn rfl rfl rfl (by rw [here]; exact Nat.lt_succ_self 2)
    · cases taken
  case markedStopped code =>
    cases taken
    refine goesOn rfl rfl rfl ?_
    rw [here]
    split
    · exact Nat.succ_pos 1
    · exact Nat.lt_succ_self 1
  case killing code =>
    cases taken
    exact goesOn rfl rfl rfl (by rw [here]; exact Nat.lt_succ_self 0)

theorem MainInv.move_rank (inv : MainInv n w) (move : w.Move w') : w'.rank n < w.rank n := by
  cases move with
  | main ret taken => exact inv.mainStep_rank taken
  | worker i ret taken => exact inv.workerStep_rank taken

/-- Every step of a thread uses up a step of what was left at the start. -/
theorem MainWorld.Run.rank_le (run : MainWorld.Run n steps w) : steps + w.rank n ≤ 16 * n + 9 := by
  induction run with
  | start =>
    have all : ∑ i ∈ Finset.range n, ((MainWorld.start n).workers i).rank = n * 7 := by
      simp [MainWorld.start, WorkerAt.rank]
    simp only [MainWorld.rank, all]
    simp only [MainWorld.start, MainAt.rank]
    omega
  | move run move ih =>
    have less := run.inv.move_rank move
    omega
  | signal _ ih => exact ih

end Rank

end Tproxy
