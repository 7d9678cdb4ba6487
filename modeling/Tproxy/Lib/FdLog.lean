import Tproxy.Lib.Ownership

namespace Tproxy

/-- What the system answers to a request for a descriptor while `fds` are in use. -/
abbrev FreshFd (fds : List Nat) : Type := Option { fd : Nat // fd ∉ fds }

/-- What happens to descriptors. `reset`: closed with a linger time of zero. -/
inductive FdEvent
  | opened (fd : Nat)
  | closed (fd : Nat) (reset : Bool)
deriving DecidableEq

/-- The descriptors that are open after a log, which has the newest first. -/
def fdsInUse : List FdEvent → List Nat
  | [] => []
  | .opened fd :: log => fd :: fdsInUse log
  | .closed fd _ :: log => (fdsInUse log).erase fd

/-- Only open descriptors are closed, and only others are opened. -/
inductive FdLog : List FdEvent → Prop
  | nil : FdLog []
  | opened {log fd} : FdLog log → fd ∉ fdsInUse log → FdLog (.opened fd :: log)
  | closed {log fd reset} : FdLog log → fd ∈ fdsInUse log → FdLog (.closed fd reset :: log)

/-- The log after `close` of a descriptor, if there is one. -/
def closedFd (fd : Option Nat) (reset : Bool) (log : List FdEvent) : List FdEvent :=
  match fd with
  | some fd => .closed fd reset :: log
  | none => log

/-- How often a descriptor was opened, and how often it was closed. -/
def FdEvent.opens (fd : Nat) (log : List FdEvent) : Nat := log.countP (· = .opened fd)

def FdEvent.closes (fd : Nat) (log : List FdEvent) : Nat :=
  log.countP fun e => e = .closed fd true ∨ e = .closed fd false

variable {log : List FdEvent} {fd : Nat} {reset : Bool} {ω : Type*} {held : ω → Option Nat} {o : ω}

theorem FdEvent.opens_opened (fd fd' : Nat) (log : List FdEvent) :
    FdEvent.opens fd (.opened fd' :: log) = FdEvent.opens fd log + if fd' = fd then 1 else 0 := by
  simp only [FdEvent.opens, List.countP_cons, FdEvent.opened.injEq, decide_eq_true_eq]

theorem FdEvent.opens_closed (fd fd' : Nat) (reset : Bool) (log : List FdEvent) :
    FdEvent.opens fd (.closed fd' reset :: log) = FdEvent.opens fd log := by
  simp only [FdEvent.opens, List.countP_cons, reduceCtorEq, decide_false, Bool.false_eq_true,
    if_false, Nat.add_zero]

theorem FdEvent.closes_opened (fd fd' : Nat) (log : List FdEvent) :
    FdEvent.closes fd (.opened fd' :: log) = FdEvent.closes fd log := by
  simp only [FdEvent.closes, List.countP_cons, reduceCtorEq, or_self, decide_false,
    Bool.false_eq_true, if_false, Nat.add_zero]

theorem FdEvent.closes_closed (fd fd' : Nat) (reset : Bool) (log : List FdEvent) :
    FdEvent.closes fd (.closed fd' reset :: log) =
      FdEvent.closes fd log + if fd' = fd then 1 else 0 := by
  cases reset <;> simp [FdEvent.closes, List.countP_cons]

/-- Every opening was followed by one closing, except for what is open now. -/
theorem FdLog.balance (used : FdLog log) (fd : Nat) :
    FdEvent.opens fd log = FdEvent.closes fd log + (fdsInUse log).count fd := by
  induction used with
  | nil => rfl
  | @opened log fd' used _ ih =>
    rw [FdEvent.opens_opened, FdEvent.closes_opened, fdsInUse, List.count_cons, ih, beq_eq_decide]
    simp only [decide_eq_true_eq]
    omega
  | @closed log fd' reset used inUse ih =>
    rw [FdEvent.opens_closed, FdEvent.closes_closed, fdsInUse, ih]
    by_cases same : fd' = fd
    · subst same
      have positive := List.count_pos_iff.mpr inUse
      rw [if_pos rfl, List.count_erase_self]
      omega
    · rw [if_neg same, List.count_erase_of_ne fun other => same other.symm, Nat.add_zero]

theorem FdLog.closedFd {fd : Option Nat} (used : FdLog log) (inUse : ∀ n, fd = some n → n ∈ fdsInUse log)
    (reset : Bool) : FdLog (closedFd fd reset log) := by
  cases fd with
  | none => exact used
  | some n => exact used.closed (inUse n rfl)

variable [DecidableEq ω]

/-- An owner takes a descriptor that was just opened. -/
theorem Owned.opened (owned : Owned (fdsInUse log) held) (idle : held o = none)
    (fresh : fd ∉ fdsInUse log) :
    Owned (fdsInUse (.opened fd :: log)) (Function.update held o (some fd)) :=
  owned.acquire idle fresh

/-- An owner closes its descriptor. -/
theorem Owned.closed (owned : Owned (fdsInUse log) held) (holds : held o = some fd) (reset : Bool) :
    Owned (fdsInUse (.closed fd reset :: log)) (Function.update held o none) :=
  owned.release holds

theorem Owned.closedFd {fd : Option Nat} (owned : Owned (fdsInUse log) held) (holds : held o = fd)
    (reset : Bool) : Owned (fdsInUse (closedFd fd reset log)) (Function.update held o none) := by
  cases fd with
  | none =>
    have same := Function.update_eq_self o held
    rw [holds] at same
    rw [same]
    exact owned
  | some n => exact owned.closed holds reset

end Tproxy
