import Mathlib.Logic.Relation
import Tproxy.Selector.ProbeRounds
import Tproxy.Selector.Score
import Tproxy.Selector.Update

namespace Tproxy

/-- What a probe of either protocol has: its server, the watcher of its socket
and its timer. `stop` stops both and closes the socket. -/
class SsProbe (π : Type) where
  serverIdx : π → Nat
  attemptEpoch : π → Nat
  ioActive : π → Bool
  timerActive : π → Bool
  stop : π → π
  stop_ioActive : ∀ p, ioActive (stop p) = false
  stop_timerActive : ∀ p, timerActive (stop p) = false

/-- The selector of one protocol with its probes. `toStart` is what the loop of
`selector_start_probe_round` has yet to start, and `log` has no counterpart. -/
structure ProbeWorld (π : Type) where
  selector : SsSelector
  ctxReady : Nat → Bool
  dnsTxidSeq : UInt16
  probe : Nat → π
  toStart : List Nat
  log : List ProbeEvent

section Operations
variable {π : Type}

def ProbeWorld.set (w : ProbeWorld π) (i : Nat) (p : π) : ProbeWorld π :=
  { w with probe := Function.update w.probe i p }

/-- `ss_ctx_get`, where `init` is whether `ss2022_client_ctx_init` succeeds. -/
def ssCtxGet (w : ProbeWorld π) (i : Nat) (init : Bool) : ProbeWorld π × Bool :=
  if w.ctxReady i then (w, true)
  else if init then ({ w with ctxReady := Function.update w.ctxReady i true }, true)
  else (w, false)

/-- `ss_record_probe` of probe `i`. -/
def ProbeWorld.record (w : ProbeWorld π) (i serverIdx latencyMs : Nat) (errored : Bool)
    (attemptEpoch : Nat) (now : ℚ) : ProbeWorld π :=
  { w with
    selector := ssRecordProbe ssComputeScore w.selector serverIdx latencyMs errored attemptEpoch now
    log := .sampled i serverIdx :: w.log }

/-- `ss_probe_done` of probe `i`, and so `ss_probe_skip`. -/
def ProbeWorld.done (w : ProbeWorld π) (i : Nat) : ProbeWorld π :=
  let selector := ssProbeDone w.selector
  { w with
    selector := selector
    log := (if selector.probesRemaining = 0 then [.updated] else []) ++ .done i :: w.log }

/-- `tcp_probe_finish` and `udp_probe_finish`. -/
def ProbeWorld.finish [SsProbe π] (w : ProbeWorld π) (i latencyMs : Nat) (errored : Bool) (now : ℚ) :
    ProbeWorld π :=
  let p := w.probe i
  ((w.set i (SsProbe.stop p)).record i (SsProbe.serverIdx p) latencyMs errored
    (SsProbe.attemptEpoch p) now).done i

/-- `selector_start_probe_round`, up to its loop. -/
def ProbeWorld.startRound (w : ProbeWorld π) : ProbeWorld π :=
  if w.selector.probesRemaining > 0 then w
  else { w with
    selector := selectorStartProbeRound w.selector
    toStart := List.range w.selector.serverCount
    log := .started :: w.log }

/-- The milliseconds since a probe started. -/
def probeElapsedMs (startTs now : ℚ) : Nat := ((now - startTs) * 1000).floor.toNat

end Operations

section Moves
variable {π : Type} {w v u : ProbeWorld π} {i : Nat}

/-- `v` is `w` but for probe `i` and what the starts of probes share. -/
structure ProbeWorld.SameBut (i : Nat) (w v : ProbeWorld π) : Prop where
  selector : v.selector = w.selector
  toStart : v.toStart = w.toStart
  log : v.log = w.log
  others : ∀ j ≠ i, v.probe j = w.probe j

theorem ProbeWorld.SameBut.refl (i : Nat) (w : ProbeWorld π) : w.SameBut i w :=
  ⟨rfl, rfl, rfl, fun _ _ => rfl⟩

theorem ProbeWorld.SameBut.trans (first : w.SameBut i v) (second : v.SameBut i u) : w.SameBut i u :=
  ⟨second.selector.trans first.selector, second.toStart.trans first.toStart,
    second.log.trans first.log, fun j other => (second.others j other).trans (first.others j other)⟩

theorem ProbeWorld.SameBut.set (w : ProbeWorld π) (i : Nat) (p : π) : w.SameBut i (w.set i p) :=
  ⟨rfl, rfl, rfl, fun _ other => Function.update_of_ne other ..⟩

@[simp] theorem ProbeWorld.set_probe (w : ProbeWorld π) (i : Nat) (p : π) : (w.set i p).probe i = p :=
  Function.update_self ..

theorem ssCtxGet_same (w : ProbeWorld π) (i : Nat) (init : Bool) :
    w.SameBut i (ssCtxGet w i init).1 ∧ (ssCtxGet w i init).1.probe = w.probe := by
  unfold ssCtxGet
  split
  · exact ⟨.refl .., rfl⟩
  · split
    · exact ⟨⟨rfl, rfl, rfl, fun _ _ => rfl⟩, rfl⟩
    · exact ⟨.refl .., rfl⟩

variable [SsProbe π]

/-- What the start of probe `i` or one of its callbacks may do: the probe is in
flight with its timer armed, or both watchers are stopped and it is done, with
at most one sample, for its own server. -/
inductive ProbeMove (i : Nat) (w : ProbeWorld π) : ProbeWorld π → Prop
  | going {v : ProbeWorld π} : w.SameBut i v → SsProbe.timerActive (v.probe i) = true →
      SsProbe.serverIdx (v.probe i) = i → ProbeMove i w v
  | skipped {v : ProbeWorld π} : w.SameBut i v → SsProbe.timerActive (v.probe i) = false →
      SsProbe.ioActive (v.probe i) = false → ProbeMove i w (v.done i)
  | recorded {v : ProbeWorld π} (latencyMs : Nat) (errored : Bool) (attemptEpoch : Nat) (now : ℚ) :
      w.SameBut i v → SsProbe.timerActive (v.probe i) = false →
      SsProbe.ioActive (v.probe i) = false →
      ProbeMove i w ((v.record i i latencyMs errored attemptEpoch now).done i)

theorem ProbeMove.of_same (same : w.SameBut i v) (move : ProbeMove i v u) : ProbeMove i w u := by
  cases move with
  | going next armed own => exact .going (same.trans next) armed own
  | skipped next disarmed silent => exact .skipped (same.trans next) disarmed silent
  | recorded latencyMs errored attemptEpoch now next disarmed silent =>
    exact .recorded latencyMs errored attemptEpoch now (same.trans next) disarmed silent

/-- The finish of a probe whose server is its own. -/
theorem ProbeMove.finish (own : SsProbe.serverIdx (w.probe i) = i) (latencyMs : Nat) (errored : Bool)
    (now : ℚ) : ProbeMove i w (w.finish i latencyMs errored now) := by
  unfold ProbeWorld.finish
  simp only [own]
  refine .recorded latencyMs errored _ now (.set ..) ?_ ?_
  · rw [ProbeWorld.set_probe, SsProbe.stop_timerActive]
  · rw [ProbeWorld.set_probe, SsProbe.stop_ioActive]

theorem ProbeWorld.finish_probe (w : ProbeWorld π) (i latencyMs : Nat) (errored : Bool) (now : ℚ) :
    (w.finish i latencyMs errored now).probe i = SsProbe.stop (w.probe i) := w.set_probe i _

/-- A probe whose watchers are stopped is skipped. -/
theorem ProbeMove.skip {p : π} (disarmed : SsProbe.timerActive p = false)
    (silent : SsProbe.ioActive p = false) (w : ProbeWorld π) (i : Nat) :
    ProbeMove i w ((w.set i p).done i) := by
  refine .skipped (.set ..) ?_ ?_
  · rw [ProbeWorld.set_probe]
    exact disarmed
  · rw [ProbeWorld.set_probe]
    exact silent

/-- A start that has no context is skipped. -/
theorem ProbeMove.ctx_skip {p : π} (disarmed : SsProbe.timerActive p = false)
    (silent : SsProbe.ioActive p = false) (w : ProbeWorld π) (i : Nat) (init : Bool) :
    ProbeMove i (ssCtxGet (w.set i p) i init).1 ((ssCtxGet (w.set i p) i init).1.done i) := by
  obtain ⟨_, probes⟩ := ssCtxGet_same (w.set i p) i init
  refine .skipped (.refl ..) ?_ ?_
  · rw [probes, ProbeWorld.set_probe]
    exact disarmed
  · rw [probes, ProbeWorld.set_probe]
    exact silent

theorem ProbeMove.going_set {p : π} (armed : SsProbe.timerActive p = true)
    (own : SsProbe.serverIdx p = i) (w : ProbeWorld π) : ProbeMove i w (w.set i p) := by
  refine .going (.set ..) ?_ ?_
  · rw [ProbeWorld.set_probe]
    exact armed
  · rw [ProbeWorld.set_probe]
    exact own

end Moves

/-- The probes of one protocol: how one starts, and what its watchers and the
business reports of the workers do. -/
structure ProbeProtocol (π : Type) [SsProbe π] where
  Setup : Type
  Answer : Type
  Report : Type
  start : Setup → ProbeWorld π → Nat → ProbeWorld π
  onIo : Answer → ProbeWorld π → Nat → ProbeWorld π
  onTimeout : ℚ → ProbeWorld π → Nat → ProbeWorld π
  report : Report → SsSelector → SsSelector
  start_move : ∀ a w i, SsProbe.timerActive (w.probe i) = false →
    SsProbe.ioActive (w.probe i) = false → ProbeMove i w (start a w i)
  onIo_move : ∀ a w i, SsProbe.timerActive (w.probe i) = true → SsProbe.serverIdx (w.probe i) = i →
    ProbeMove i w (onIo a w i)
  onTimeout_eq : ∀ now w i, onTimeout now w i = w.finish i ssMaxRttMs true now
  report_frame : ∀ r s, (report r s).serverCount = s.serverCount ∧
    (report r s).probesRemaining = s.probesRemaining

section Runs
variable {π : Type} [SsProbe π]

/-- A step of the event loop, or a report of a worker. The loop that starts a
round runs to its end before the next callback; only active watchers call. -/
inductive ProbeStep (P : ProbeProtocol π) (w : ProbeWorld π) : ProbeWorld π → Prop
  | checkTimer : w.toStart = [] → ProbeStep P w w.startRound
  | start {i : Nat} {rest : List Nat} (a : P.Setup) : w.toStart = i :: rest →
      ProbeStep P w (P.start a { w with toStart := rest } i)
  | io {i : Nat} (a : P.Answer) : w.toStart = [] → SsProbe.ioActive (w.probe i) = true →
      ProbeStep P w (P.onIo a w i)
  | timeout {i : Nat} (now : ℚ) : w.toStart = [] → SsProbe.timerActive (w.probe i) = true →
      ProbeStep P w (P.onTimeout now w i)
  | report (r : P.Report) : ProbeStep P w { w with selector := P.report r w.selector }

abbrev ProbeRun (P : ProbeProtocol π) := Relation.ReflTransGen (ProbeStep P)

/-- After `server_selector_init`, with the static probes as they are. -/
def ProbeWorld.init (serverCount : Nat) (window : Nat → Nat → SsSample) (probe : Nat → π) :
    ProbeWorld π where
  selector := serverSelectorInit serverCount window
  ctxReady _ := false
  dnsTxidSeq := 0
  probe := probe
  toStart := []
  log := []

/-- The probes of `n` servers are counted: `probes_remaining` is the number of
probes of the round that are not done, each of them has yet to be started or
has its timer armed, and nothing calls back for any other probe. -/
structure ProbesCounted (n : Nat) (w : ProbeWorld π) : Prop where
  servers : w.selector.serverCount = n
  rounds : RoundsLog n w.log
  remaining : w.selector.probesRemaining = (pendingProbes n w.log).length
  pending : ∀ i, i ∈ pendingProbes n w.log ↔ i ∈ w.toStart ∨ SsProbe.timerActive (w.probe i) = true
  distinct : w.toStart.Nodup
  unarmed : ∀ i ∈ w.toStart, SsProbe.timerActive (w.probe i) = false
  silent : ∀ i, SsProbe.timerActive (w.probe i) = false → SsProbe.ioActive (w.probe i) = false
  own : ∀ i, SsProbe.timerActive (w.probe i) = true → SsProbe.serverIdx (w.probe i) = i

end Runs

end Tproxy
