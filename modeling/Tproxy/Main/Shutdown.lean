import Mathlib.Logic.Relation
import Tproxy.Main.Ranks
import Tproxy.Main.ThreadSafety

namespace Tproxy

/-- The worker has failed and has not yet told main. -/
def WorkerAt.failing : WorkerAt → Bool
  | .cleaning code | .markStopped code | .markedStopped code | .killing code => code ≠ 0
  | _ => false

namespace MainWorld

/-- Nothing happens until a signal comes: every thread waits in its loop. -/
structure Serving (n : Nat) (w : MainWorld) : Prop where
  main : w.main = .looping
  quiet : w.sigPending = false
  count : w.threadCount = n
  workers : ∀ i < n, w.workers i = .looping ∧ (w.threads i).exitSent = false

/-- The process has begun to stop: a signal is pending, main has read one or has failed,
or a worker has failed. -/
def Stopping (w : MainWorld) : Prop :=
  w.sigPending = true ∨ w.main.awaits = false ∨ ∃ i, (w.workers i).failing = true

/-- A step of a thread, or a signal from outside. -/
inductive Step : MainWorld → MainWorld → Prop
  | move {w w'} : Move w w' → Step w w'
  | signal {w} : Step w { w with sigPending := true }

end MainWorld

variable {n ret steps i : Nat} {w w' : MainWorld}

section Progress

theorem stuck_main (stuck : ∀ w', ¬ w.Move w') (ret : Nat) : w.mainStep ret = none :=
  Option.eq_none_iff_forall_ne_some.mpr fun w' taken => stuck w' (.main ret taken)

theorem stuck_worker (stuck : ∀ w', ¬ w.Move w') (i ret : Nat) : w.workerStep i ret = none :=
  Option.eq_none_iff_forall_ne_some.mpr fun w' taken => stuck w' (.worker i ret taken)

/-- A thread that holds the lock goes on. -/
theorem MainInv.stuck_free (inv : MainInv n w) (stuck : ∀ w', ¬ w.Move w') : w.lock = none := by
  by_contra held
  obtain ⟨holder, at_⟩ := Option.ne_none_iff_exists'.mp held
  cases holder with
  | zero =>
    have locks := inv.lockMain.mp at_
    have waits := stuck_main stuck 0
    cases here : w.main <;> simp only [here, MainAt.locked, Bool.false_eq_true] at locks <;>
      simp only [MainWorld.mainStep, here, reduceCtorEq] at waits
    split at waits <;> cases waits
  | succ j =>
    obtain ⟨code, here⟩ := (inv.lockWorker j).mp at_
    have waits := stuck_worker stuck j 0
    simp only [MainWorld.workerStep, here, reduceCtorEq] at waits

/-- A worker that cannot go on is absent, has finished, or waits in its loop for an
exit event. -/
theorem stuck_waits (free : w.lock = none) (stuck : ∀ w', ¬ w.Move w') (i : Nat) :
    w.workers i = .absent ∨ (∃ code, w.workers i = .finished code) ∨
      w.workers i = .looping ∧ (w.threads i).exitSent = false := by
  have waits := stuck_worker stuck i 0
  cases here : w.workers i <;> simp only [MainWorld.workerStep, here, free, reduceCtorEq, if_true] at waits
  case absent => exact Or.inl rfl
  case finished code => exact Or.inr (Or.inl ⟨code, rfl⟩)
  case looping =>
    refine Or.inr (Or.inr ⟨rfl, ?_⟩)
    split at waits
    · cases waits
    · exact eq_false_of_ne_true ‹_›

/-- If nothing goes on, main has returned, or all threads serve. -/
theorem MainInv.stuck (inv : MainInv n w) (counts : w.main.counts n w.threadCount w.workers)
    (stuck : ∀ w', ¬ w.Move w') : (∃ how code, w.main = .returned how code) ∨ w.Serving n := by
  have free := inv.stuck_free stuck
  have waits := stuck_main stuck 0
  have rests := stuck_waits free stuck
  have fits := inv.fits
  cases here : w.main <;> simp only [MainWorld.mainStep, here, MainWorld.takeLock, free, if_true,
    reduceCtorEq] at waits
  case returned how code => exact Or.inl ⟨how, code, rfl⟩
  case looping =>
    have quiet : w.sigPending = false := by
      split at waits
      · cases waits
      · exact eq_false_of_ne_true ‹_›
    rw [here] at counts
    refine Or.inr ⟨here, quiet, counts, fun i bound => ?_⟩
    have fitsHere := fits i
    rw [MainWorld.life, here, MainAt.life, counts, if_pos bound] at fitsHere
    rcases rests i with absent | ⟨code, finished⟩ | idle
    · exact absurd absent fitsHere.slot_spawned.1
    · -- a worker stops by itself only after it has sent a signal
      cases quiet.symm.trans (inv.failed (by rw [here]; rfl) i code finished)
    · exact idle
  case join how i code =>
    split at waits
    · rename_i more
      have fitsHere := fits i
      rw [MainWorld.life, here, MainAt.life, if_neg (Nat.lt_irrefl i), if_pos more] at fitsHere
      obtain ⟨present, sent, info, _, _, asked, _⟩ := fitsHere.slot_spawned
      rcases rests i with absent | ⟨threadRet, finished⟩ | ⟨idle, unsent⟩
      · exact absurd absent present
      · simp only [finished, reduceCtorEq] at waits
      · -- a worker that was asked to exit has the event
        rw [idle] at asked
        rw [info] at unsent
        cases unsent.symm.trans (asked rfl rfl)
    · cases waits
  case create i => split at waits <;> cases waits
  case requesting request i => split at waits <;> cases waits

theorem MainInv.returned_stuck (inv : MainInv n w) {how : MainEnd} {code : Nat}
    (here : w.main = .returned how code) (w' : MainWorld) : ¬ w.Move w' := by
  rintro (⟨ret, taken⟩ | ⟨i, ret, taken⟩)
  · simp only [MainWorld.mainStep, here, reduceCtorEq] at taken
  · have fits := inv.fits i
    rw [MainWorld.life, here, MainAt.life] at fits
    split at fits
    · obtain ⟨⟨code, finished⟩, _⟩ := fits.slot_joined
      simp only [MainWorld.workerStep, finished, reduceCtorEq] at taken
    · simp only [MainWorld.workerStep, fits.slot_before.1, reduceCtorEq] at taken

theorem MainWorld.Serving.stuck (serving : w.Serving n) (inv : MainInv n w) (w' : MainWorld) :
    ¬ w.Move w' := by
  rintro (⟨ret, taken⟩ | ⟨i, ret, taken⟩)
  · simp only [MainWorld.mainStep, serving.main, serving.quiet, Bool.false_eq_true, if_false,
      reduceCtorEq] at taken
  · have present : w.workers i ≠ .absent := fun absent => by
      simp only [MainWorld.workerStep, absent, reduceCtorEq] at taken
    obtain ⟨here, unsent⟩ := serving.workers i (serving.count ▸ inv.bound present)
    simp only [MainWorld.workerStep, here, unsent, Bool.false_eq_true, if_false, reduceCtorEq] at taken

end Progress

section Stopping

/-- Main keeps a signal until it reads it, and never awaits one again; it leaves the
workers that it has created alone. -/
theorem MainInv.mainStep_frame (inv : MainInv n w) (taken : w.mainStep ret = some w') :
    (w'.sigPending = w.sigPending ∨ w'.main.awaits = false) ∧
      (w.main.awaits = false → w'.main.awaits = false) ∧
      ∀ i, w.workers i ≠ .absent → w'.workers i = w.workers i := by
  cases here : w.main <;> simp only [MainWorld.mainStep, here, MainWorld.takeLock] at taken
  case create i =>
    split at taken
    · split at taken <;> cases taken <;> exact ⟨Or.inl rfl, (fun never => by cases never), fun _ _ => rfl⟩
    · cases taken
      exact ⟨Or.inl rfl, (fun never => by cases never), fun _ _ => rfl⟩
  case spawn i =>
    split at taken <;> cases taken
    · refine ⟨Or.inl rfl, (fun never => by cases never), fun j present => Function.update_of_ne ?_ ..⟩
      rintro rfl
      have fits := inv.fits j
      rw [MainWorld.life, here, MainAt.life, if_neg (Nat.lt_irrefl j), if_pos rfl] at fits
      exact present fits.slot_marked.1
    · exact ⟨Or.inl rfl, (fun never => by cases never), fun _ _ => rfl⟩
  case newLoop | markRunning i | unmark i =>
    split at taken <;> cases taken <;> exact ⟨Or.inl rfl, (fun never => by cases never), fun _ _ => rfl⟩
  case markedRunning i | unmarked i | dropLoop i | setup =>
    cases taken
    exact ⟨Or.inl rfl, (fun never => by cases never), fun _ _ => rfl⟩
  case looping =>
    split at taken <;> cases taken
    exact ⟨Or.inr rfl, (fun never => by cases never), fun _ _ => rfl⟩
  case cleaning evloop code =>
    cases taken
    by_cases done : code = 0
    · rw [if_pos done]
      exact ⟨Or.inr rfl, fun _ => rfl, fun _ _ => rfl⟩
    · rw [if_neg done]
      exact ⟨Or.inr rfl, fun _ => rfl, fun _ _ => rfl⟩
  case requestLock request =>
    split at taken <;> cases taken
    exact ⟨Or.inr rfl, fun _ => rfl, fun _ _ => rfl⟩
  case requesting request i =>
    split at taken <;> cases taken
    · exact ⟨Or.inr rfl, fun _ => rfl, fun _ _ => congrFun (requestExit_frame w i).2.2.1 _⟩
    · cases request <;> exact ⟨Or.inr rfl, fun _ => rfl, fun _ _ => rfl⟩
  case join how i code =>
    split at taken
    · split at taken <;> cases taken <;> exact ⟨Or.inr rfl, fun _ => rfl, fun _ _ => rfl⟩
    · cases taken
      exact ⟨Or.inr rfl, fun _ => rfl, fun _ _ => rfl⟩
  case exiting how code =>
    cases taken
    exact ⟨Or.inr rfl, fun _ => rfl, fun _ _ => rfl⟩
  case returned how code => cases taken

theorem workerStep_frame (taken : w.workerStep i ret = some w') : w'.main = w.main ∧
    (w.sigPending = true → w'.sigPending = true) ∧ (∀ j, j ≠ i → w'.workers j = w.workers j) ∧
      ((w.workers i).failing = true → w'.sigPending = true ∨ (w'.workers i).failing = true) := by
  cases here : w.workers i <;> simp only [MainWorld.workerStep, here] at taken
  case absent | finished code => cases taken
  case looping =>
    split at taken <;> cases taken
    exact ⟨rfl, id, fun j other => Function.update_of_ne other .., fun never => by cases never⟩
  case setup =>
    cases taken
    exact ⟨rfl, id, fun j other => Function.update_of_ne other .., fun never => by cases never⟩
  case markStopped code =>
    split at taken <;> cases taken
    refine ⟨rfl, id, fun j other => Function.update_of_ne other .., fun failing => Or.inr ?_⟩
    exact (congrArg _ (Function.update_self ..)).trans failing
  case cleaning code =>
    cases taken
    refine ⟨rfl, id, fun j other => Function.update_of_ne other .., fun failing => Or.inr ?_⟩
    exact (congrArg _ (Function.update_self ..)).trans failing
  case markedStopped code =>
    cases taken
    refine ⟨rfl, id, fun j other => Function.update_of_ne other .., fun failing => Or.inr ?_⟩
    have some : code ≠ 0 := of_decide_eq_true failing
    rw [if_neg some]
    exact (congrArg _ (Function.update_self ..)).trans failing
  case killing code =>
    cases taken
    exact ⟨rfl, fun _ => rfl, fun j other => Function.update_of_ne other .., fun _ => Or.inl rfl⟩

theorem MainInv.step_stopping (inv : MainInv n w) (step : w.Step w') (stopping : w.Stopping) :
    w'.Stopping := by
  cases step with
  | signal => exact Or.inl rfl
  | move move =>
    cases move with
    | main ret taken =>
      obtain ⟨signal, awaits, workers⟩ := inv.mainStep_frame taken
      rcases stopping with pending | read | ⟨i, failing⟩
      · rcases signal with same | read
        · exact Or.inl (same.trans pending)
        · exact Or.inr (Or.inl read)
      · exact Or.inr (Or.inl (awaits read))
      · refine Or.inr (Or.inr ⟨i, ?_⟩)
        rw [workers i fun absent => by rw [absent] at failing; cases failing]
        exact failing
    | worker i ret taken =>
      obtain ⟨main, signal, others, failed⟩ := workerStep_frame taken
      rcases stopping with pending | read | ⟨j, failing⟩
      · exact Or.inl (signal pending)
      · exact Or.inr (Or.inl (main ▸ read))
      · by_cases same : j = i
        · subst same
          exact (failed failing).imp id fun failing => Or.inr ⟨j, failing⟩
        · exact Or.inr (Or.inr ⟨j, others j same ▸ failing⟩)

theorem MainWorld.Serving.not_stopping (serving : w.Serving n) (inv : MainInv n w) : ¬ w.Stopping := by
  rintro (pending | read | ⟨i, failing⟩)
  · cases serving.quiet.symm.trans pending
  · rw [serving.main] at read
    cases read
  · have present : w.workers i ≠ .absent := fun absent => by rw [absent] at failing; cases failing
    rw [(serving.workers i (serving.count ▸ inv.bound present)).1] at failing
    cases failing

end Stopping

/-- The threads of a process stop in bounded time, and only when they should. -/
structure ShutsDown (n steps : Nat) (w : MainWorld) : Prop where
  bounded : steps ≤ 16 * n + 9
  stuck : (∀ w', ¬ w.Move w') ↔ (∃ how code, w.main = .returned how code) ∨ w.Serving n
  stops : w.Stopping → ∀ w', Relation.ReflTransGen MainWorld.Step w w' →
    (∀ w'', ¬ w'.Move w'') → ∃ how code, w'.main = .returned how code

/-- In every run the threads take at most `16 n + 9` steps. They come to rest only
in their loops, without a signal or an exit event, or when main has returned; once
a signal has come or a thread has failed, only when main has returned. -/
theorem main_shuts_down (run : MainWorld.Run n steps w) : ShutsDown n steps w where
  bounded := Nat.le_trans (Nat.le_add_right ..) run.rank_le
  stuck := by
    refine ⟨run.inv.stuck run.counts, ?_⟩
    rintro (⟨how, code, here⟩ | serving)
    · exact run.inv.returned_stuck here
    · exact serving.stuck run.inv
  stops stopping w' later stuck := by
    have reached : (∃ steps, MainWorld.Run n steps w') ∧ w'.Stopping := by
      clear stuck
      induction later with
      | refl => exact ⟨⟨steps, run⟩, stopping⟩
      | tail _ step ih =>
        obtain ⟨⟨steps, run⟩, stopping⟩ := ih
        refine ⟨?_, run.inv.step_stopping step stopping⟩
        cases step with
        | move move => exact ⟨_, run.move move⟩
        | signal => exact ⟨_, run.signal⟩
    obtain ⟨⟨_, run'⟩, stopping'⟩ := reached
    exact (run'.inv.stuck run'.counts stuck).resolve_right fun serving =>
      serving.not_stopping run'.inv stopping'

/-- After a worker has failed the process ends. -/
theorem main_shuts_down_failing : ∃ w, MainWorld.Run 1 20 w ∧ w.Stopping ∧ ShutsDown 1 20 w := by
  obtain ⟨w, run, here⟩ := MainWorld.failing_run
  exact ⟨w, run, Or.inr (Or.inl (by rw [here]; rfl)), main_shuts_down run⟩

end Tproxy
