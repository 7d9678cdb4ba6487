import Mathlib.Data.List.Count
import Mathlib.Data.List.TakeWhile
import Tproxy.Selector.Run

namespace Tproxy

/-- Who makes attempts: a TCP session, or the probe slot of a server. -/
inductive AttemptOwner
  | session (id : Nat)
  | probe (idx : Nat)
deriving DecidableEq

inductive AttemptEvent
  | started (owner : AttemptOwner) (server : Nat)
  | succeeded (owner : AttemptOwner) (server : Nat)
  | failed (server : Nat)
deriving DecidableEq

def AttemptEvent.startedBy (owner : AttemptOwner) : AttemptEvent → Bool
  | .started other _ => other = owner
  | _ => false

/-- What an owner stores for its current attempt: `server_idx` with
`selector_attempt_epoch` of a session, `attempt_epoch` of a probe. -/
structure Attempt where
  server : Nat
  epoch : Nat

/-- A selector, the current attempts on its servers and, newest first, what
was started and recorded so far. -/
structure AttemptWorld where
  selector : SsSelector
  attempt : AttemptOwner → Option Attempt
  history : List AttemptEvent

def AttemptWorld.init (serverCount : Nat) (window : Nat → Nat → SsSample) : AttemptWorld :=
  ⟨serverSelectorInit serverCount window, fun _ => none, []⟩

/-- The owner takes the epoch of the server, as `tcp_handshake_try_connect`
and `tcp_probe_start` do first. -/
def AttemptWorld.start (w : AttemptWorld) (owner : AttemptOwner) (server : Nat) : AttemptWorld where
  selector := w.selector
  attempt := Function.update w.attempt owner (some ⟨server, ssAttemptEpoch w.selector server⟩)
  history := .started owner server :: w.history

def AttemptWorld.record (w : AttemptWorld) (selector : SsSelector) (e : AttemptEvent) : AttemptWorld :=
  { w with selector := selector, history := e :: w.history }

/-- The events since the current attempt of the owner started, newest first. -/
def sinceStart (owner : AttemptOwner) (history : List AttemptEvent) : List AttemptEvent :=
  history.takeWhile fun e => !e.startedBy owner

section Scoring
variable (computeScore : (Nat → SsSample) → Nat → Nat → ℚ → Nat)

/-- Sessions and probes start and report their attempts in any order. -/
inductive AttemptStep : AttemptWorld → AttemptWorld → Prop
  | sessionStart {w} (id server : Nat) : server < w.selector.serverCount →
      AttemptStep w (w.start (.session id) server)
  | probeStart {w} (idx : Nat) : idx < w.selector.serverCount →
      AttemptStep w (w.start (.probe idx) idx)
  | sessionSuccess {w id a} : w.attempt (.session id) = some a → AttemptStep w
      (w.record (serverSelectorReportTcpSuccess w.selector a.server a.epoch)
        (.succeeded (.session id) a.server))
  | sessionFailure {w id a} : w.attempt (.session id) = some a → AttemptStep w
      (w.record (serverSelectorReportTcpFailure w.selector a.server) (.failed a.server))
  | probeSuccess {w idx a} (latencyMs : Nat) (now : ℚ) : w.attempt (.probe idx) = some a →
      AttemptStep w
        (w.record (ssRecordProbe computeScore w.selector a.server latencyMs false a.epoch now)
          (.succeeded (.probe idx) a.server))
  | probeFailure {w idx a} (latencyMs : Nat) (now : ℚ) : w.attempt (.probe idx) = some a →
      AttemptStep w
        (w.record (ssRecordProbe computeScore w.selector a.server latencyMs true a.epoch now)
          (.failed a.server))
  | probeDone {w} : AttemptStep w { w with selector := ssProbeDone w.selector }
  | startRound {w} : AttemptStep w { w with selector := selectorStartProbeRound w.selector }

abbrev AttemptRun := Relation.ReflTransGen (AttemptStep computeScore)

end Scoring

/-- An attempt on the server reported success after it took its epoch, and no
failure of the server was recorded since it took that epoch. -/
def Vouched (history : List AttemptEvent) (server : Nat) : Prop :=
  ∃ owner later since before,
    history = later ++ .succeeded owner server :: (since ++ .started owner server :: before) ∧
      (∀ other, .started owner other ∉ since) ∧
      .failed server ∉ later ++ since

/-- No failure epoch wraps around. -/
def EpochsFit (history : List AttemptEvent) : Prop :=
  ∀ server, history.count (.failed server) < 2 ^ 64

structure AttemptInv (w : AttemptWorld) : Prop where
  selected : SelectorInv w.selector
  epochs : ∀ i, w.selector.failureEpoch i = w.history.count (.failed i) % 2 ^ 64
  attempts : ∀ owner a, w.attempt owner = some a → a.server < w.selector.serverCount ∧
    ∃ before, w.history = sinceStart owner w.history ++ .started owner a.server :: before ∧
      a.epoch = before.count (.failed a.server) % 2 ^ 64
  vouched : EpochsFit w.history → ∀ i, w.selector.health i = .ok → Vouched w.history i

variable {computeScore : (Nat → SsSample) → Nat → Nat → ℚ → Nat} {w v : AttemptWorld}
  {owner : AttemptOwner} {a : Attempt} {history : List AttemptEvent} {e : AttemptEvent}

theorem EpochsFit.tail (fit : EpochsFit (e :: history)) : EpochsFit history := fun server =>
  (List.count_le_count_cons).trans_lt (fit server)

theorem sinceStart_cons (other : e.startedBy owner = false) :
    sinceStart owner (e :: history) = e :: sinceStart owner history := by
  simp only [sinceStart, List.takeWhile_cons, other, Bool.not_false, if_true]

theorem sinceStart_started (server : Nat) :
    sinceStart owner (.started owner server :: history) = [] := by
  simp [sinceStart, AttemptEvent.startedBy]

theorem not_started_sinceStart (other : Nat) : .started owner other ∉ sinceStart owner history := by
  intro member
  have passed := List.mem_takeWhile_imp member
  simp [AttemptEvent.startedBy] at passed

/-- An epoch is current exactly while no failure was recorded since. -/
theorem AttemptInv.current_iff (inv : AttemptInv w) (fit : EpochsFit w.history)
    (taken : w.attempt owner = some a) :
    a.epoch = w.selector.failureEpoch a.server ↔ .failed a.server ∉ sinceStart owner w.history := by
  obtain ⟨_, before, split, epoch⟩ := inv.attempts owner a taken
  have total : w.history.count (.failed a.server) =
      (sinceStart owner w.history).count (.failed a.server) + before.count (.failed a.server) := by
    conv_lhs => rw [split]
    rw [List.count_append, List.count_cons_of_ne (by simp)]
  have small := fit a.server
  rw [epoch, inv.epochs, ← List.count_eq_zero]
  omega

end Tproxy
