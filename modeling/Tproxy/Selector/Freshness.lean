import Tproxy.Selector.Attempts

namespace Tproxy

variable {computeScore : (Nat → SsSample) → Nat → Nat → ℚ → Nat} {w v : AttemptWorld}
  {owner : AttemptOwner} {a : Attempt} {history : List AttemptEvent} {e : AttemptEvent}
  {sel : SsSelector} {i : Nat}

theorem Vouched.cons (vouched : Vouched history i) (differ : e ≠ .failed i) :
    Vouched (e :: history) i := by
  obtain ⟨owner, later, since, before, split, same, clear⟩ := vouched
  refine ⟨owner, e :: later, since, before, by rw [split, List.cons_append], same, ?_⟩
  rw [List.cons_append, List.mem_cons, not_or]
  exact ⟨differ.symm, clear⟩

/-- The success of an attempt with a current epoch vouches for its server. -/
theorem AttemptInv.vouched_success (inv : AttemptInv w) (taken : w.attempt owner = some a)
    (clear : .failed a.server ∉ sinceStart owner w.history) :
    Vouched (.succeeded owner a.server :: w.history) a.server := by
  obtain ⟨_, before, split, _⟩ := inv.attempts owner a taken
  exact ⟨owner, [], sinceStart owner w.history, before, congrArg _ split,
    fun other => not_started_sinceStart other, clear⟩

/-- An event that starts nothing leaves every attempt where it is. -/
theorem AttemptInv.attempts_record (inv : AttemptInv w)
    (quiet : ∀ owner, e.startedBy owner = false)
    (sameCount : sel.serverCount = w.selector.serverCount) (owner : AttemptOwner) (a : Attempt)
    (taken : (w.record sel e).attempt owner = some a) :
    a.server < sel.serverCount ∧ ∃ before, (w.record sel e).history =
      sinceStart owner (w.record sel e).history ++ .started owner a.server :: before ∧
        a.epoch = before.count (.failed a.server) % 2 ^ 64 := by
  obtain ⟨bound, before, split, epoch⟩ := inv.attempts owner a taken
  refine ⟨sameCount ▸ bound, before, ?_, epoch⟩
  simp only [AttemptWorld.record, sinceStart_cons (quiet owner), List.cons_append, ← split]

theorem AttemptInv.record_failed (inv : AttemptInv w) (selected : SelectorInv sel)
    (sameCount : sel.serverCount = w.selector.serverCount)
    (health : sel.health = (ssMarkFailed w.selector i).health)
    (epochs : sel.failureEpoch = (ssMarkFailed w.selector i).failureEpoch) :
    AttemptInv (w.record sel (.failed i)) := by
  refine ⟨selected, fun j => ?_, inv.attempts_record (fun _ => rfl) sameCount, fun fit j ok => ?_⟩
  · simp only [AttemptWorld.record, epochs, ssMarkFailed, List.count_cons]
    by_cases same : j = i
    · subst same
      rw [Function.update_self, inv.epochs, beq_self_eq_true, if_pos rfl, Nat.mod_add_mod]
    · rw [Function.update_of_ne same, inv.epochs]
      simp [Ne.symm same]
  · simp only [AttemptWorld.record, health, ssMarkFailed] at ok
    have other : j ≠ i := by
      rintro rfl
      rw [Function.update_self] at ok
      cases ok
    rw [Function.update_of_ne other] at ok
    exact (inv.vouched fit.tail j ok).cons (by simpa using Ne.symm other)

theorem AttemptInv.record_succeeded (inv : AttemptInv w) (taken : w.attempt owner = some a)
    (selected : SelectorInv sel) (sameCount : sel.serverCount = w.selector.serverCount)
    (health : sel.health = (ssMarkProbe w.selector a.server false a.epoch).health)
    (epochs : sel.failureEpoch = w.selector.failureEpoch) :
    AttemptInv (w.record sel (.succeeded owner a.server)) := by
  refine ⟨selected, fun j => ?_, inv.attempts_record (fun _ => rfl) sameCount, fun fit j ok => ?_⟩
  · simp [AttemptWorld.record, epochs, inv.epochs]
  · have current := inv.current_iff fit.tail taken
    simp only [AttemptWorld.record, health, ssMarkProbe, Bool.false_eq_true, if_false] at ok
    by_cases same : a.epoch = w.selector.failureEpoch a.server
    · rw [if_pos same] at ok
      by_cases here : j = a.server
      · rw [here]
        exact inv.vouched_success taken (current.mp same)
      · simp only [ssMarkOk, Function.update_of_ne here] at ok
        exact (inv.vouched fit.tail j ok).cons (by simp)
    · rw [if_neg same] at ok
      exact (inv.vouched fit.tail j ok).cons (by simp)

theorem AttemptInv.start (inv : AttemptInv w) (owner : AttemptOwner) {server : Nat}
    (configured : server < w.selector.serverCount) : AttemptInv (w.start owner server) := by
  refine ⟨inv.selected, fun j => ?_, fun other a taken => ?_, fun fit j ok => ?_⟩
  · simp [AttemptWorld.start, inv.epochs]
  · simp only [AttemptWorld.start] at taken ⊢
    by_cases same : other = owner
    · subst same
      rw [Function.update_self] at taken
      cases taken
      exact ⟨configured, w.history, by rw [sinceStart_started, List.nil_append], inv.epochs server⟩
    · rw [Function.update_of_ne same] at taken
      obtain ⟨bound, before, split, epoch⟩ := inv.attempts other a taken
      refine ⟨bound, before, ?_, epoch⟩
      have quiet : (AttemptEvent.started owner server).startedBy other = false := by
        simpa [AttemptEvent.startedBy] using Ne.symm same
      rw [sinceStart_cons quiet, List.cons_append, ← split]
  · exact (inv.vouched fit.tail j ok).cons (by simp)

theorem serverSelectorReportTcpFailure_marks {s : SsSelector} (bound : i < s.serverCount) :
    (serverSelectorReportTcpFailure s i).health = (ssMarkFailed s i).health ∧
      (serverSelectorReportTcpFailure s i).failureEpoch = (ssMarkFailed s i).failureEpoch := by
  rw [serverSelectorReportTcpFailure, if_neg (Nat.not_le.mpr bound)]
  exact ⟨ssUpdateBestLocked_health .., ssUpdateBestLocked_failureEpoch ..⟩

theorem serverSelectorReportTcpSuccess_marks {s : SsSelector} (bound : i < s.serverCount)
    (epoch : Nat) :
    (serverSelectorReportTcpSuccess s i epoch).health = (ssMarkProbe s i false epoch).health ∧
      (serverSelectorReportTcpSuccess s i epoch).failureEpoch = s.failureEpoch := by
  rw [serverSelectorReportTcpSuccess, if_neg (Nat.not_le.mpr bound), ssMarkProbe]
  simp only [Bool.false_eq_true, if_false]
  split
  · exact ⟨ssUpdateBestLocked_health .., ssUpdateBestLocked_failureEpoch ..⟩
  · exact ⟨rfl, rfl⟩

theorem ssRecordProbe_marks (s : SsSelector) (idx latencyMs : Nat) (errored : Bool) (epoch : Nat)
    (now : ℚ) :
    (ssRecordProbe computeScore s idx latencyMs errored epoch now).health =
        (ssMarkProbe s idx errored epoch).health ∧
      (ssRecordProbe computeScore s idx latencyMs errored epoch now).failureEpoch =
        (ssMarkProbe s idx errored epoch).failureEpoch := by
  rw [ssRecordProbe_eq, ssUpdateBestLocked_health, ssUpdateBestLocked_failureEpoch]
  simp only [ssMarkProbe_health, ssMarkProbe_failureEpoch, ssRecordSample, ssMarkFailed, and_self]

/-- A step of the round bookkeeping changes no health and no epoch. -/
theorem AttemptInv.bookkeeping (inv : AttemptInv w) (selected : SelectorInv sel)
    (sameCount : sel.serverCount = w.selector.serverCount)
    (health : sel.health = w.selector.health)
    (epochs : sel.failureEpoch = w.selector.failureEpoch) :
    AttemptInv { w with selector := sel } :=
  ⟨selected, epochs ▸ inv.epochs, sameCount ▸ inv.attempts, health ▸ inv.vouched⟩

/-- A step leaves the selector as it is, or it is a step of the selector. -/
theorem AttemptStep.selector (inv : AttemptInv w) (step : AttemptStep computeScore w v) :
    v.selector = w.selector ∨ ∃ e, SelectorStep computeScore w.selector e v.selector := by
  cases step with
  | sessionStart => exact Or.inl rfl
  | probeStart => exact Or.inl rfl
  | sessionSuccess => exact Or.inr ⟨_, .success ..⟩
  | sessionFailure => exact Or.inr ⟨_, .failure ..⟩
  | probeSuccess latencyMs now taken =>
    exact Or.inr ⟨_, .probe latencyMs false _ now (inv.attempts _ _ taken).1⟩
  | probeFailure latencyMs now taken =>
    exact Or.inr ⟨_, .probe latencyMs true _ now (inv.attempts _ _ taken).1⟩
  | probeDone => exact Or.inr ⟨_, .probeDone⟩
  | startRound => exact Or.inr ⟨_, .startRound⟩

theorem AttemptStep.selected (inv : AttemptInv w) (step : AttemptStep computeScore w v) :
    SelectorInv v.selector ∧ v.selector.serverCount = w.selector.serverCount := by
  rcases step.selector inv with same | ⟨e, move⟩
  · rw [same]
    exact ⟨inv.selected, rfl⟩
  · obtain ⟨selected, sameCount, _⟩ := inv.selected.step move
    exact ⟨selected, sameCount⟩

theorem AttemptInv.step (inv : AttemptInv w) (step : AttemptStep computeScore w v) :
    AttemptInv v := by
  obtain ⟨selected, sameCount⟩ := step.selected inv
  cases step with
  | sessionStart id server configured => exact inv.start _ configured
  | probeStart idx configured => exact inv.start _ configured
  | @sessionSuccess id a taken =>
    have bound := (inv.attempts _ a taken).1
    obtain ⟨health, epochs⟩ := serverSelectorReportTcpSuccess_marks bound a.epoch
    exact inv.record_succeeded taken selected sameCount health epochs
  | @sessionFailure id a taken =>
    have bound := (inv.attempts _ a taken).1
    obtain ⟨health, epochs⟩ := serverSelectorReportTcpFailure_marks bound
    exact inv.record_failed selected sameCount health epochs
  | @probeSuccess idx a latencyMs now taken =>
    obtain ⟨health, epochs⟩ := ssRecordProbe_marks w.selector a.server latencyMs false a.epoch now
    exact inv.record_succeeded taken selected sameCount health (epochs.trans ssMarkProbe_failureEpoch)
  | @probeFailure idx a latencyMs now taken =>
    obtain ⟨health, epochs⟩ := ssRecordProbe_marks w.selector a.server latencyMs true a.epoch now
    exact inv.record_failed selected sameCount health epochs
  | probeDone =>
    refine inv.bookkeeping selected sameCount ?_ ?_
    all_goals
      simp only [ssProbeDone]
      split <;> simp
  | startRound =>
    refine inv.bookkeeping selected sameCount ?_ ?_
    all_goals
      simp only [selectorStartProbeRound]
      split <;> rfl

theorem AttemptInv.run (inv : AttemptInv w) (run : AttemptRun computeScore w v) : AttemptInv v := by
  induction run with
  | refl => exact inv
  | tail _ step ih => exact ih.step step

theorem AttemptWorld.init_inv {serverCount : Nat} (configured : 0 < serverCount)
    (window : Nat → Nat → SsSample) : AttemptInv (AttemptWorld.init serverCount window) where
  selected := serverSelectorInit_inv configured window
  epochs i := rfl
  attempts owner a taken := by cases taken
  vouched fit i ok := by cases ok

theorem serverSelectorReportTcpSuccess_stale {s : SsSelector} {epoch : Nat}
    (stale : epoch ≠ s.failureEpoch i) : serverSelectorReportTcpSuccess s i epoch = s := by
  simp only [serverSelectorReportTcpSuccess, if_neg stale, ite_self]

/-- A stale probe success may change the score, but the selection is still
healthiest, and outside a round completion that keeps it. -/
theorem ssRecordProbe_stale {s : SsSelector} (inv : SelectorInv s) {latencyMs epoch : Nat} {now : ℚ}
    (stale : epoch ≠ s.failureEpoch i) :
    (ssRecordProbe computeScore s i latencyMs false epoch now).health = s.health ∧
      (ssRecordProbe computeScore s i latencyMs false epoch now).bestIdx = s.bestIdx := by
  have unmarked : ssMarkProbe (ssRecordSample computeScore s i latencyMs false now) i false epoch =
      ssRecordSample computeScore s i latencyMs false now := if_neg stale
  have sampled : SelectorInv (ssRecordSample computeScore s i latencyMs false now) :=
    ⟨inv.valid, inv.healthiest⟩
  have kept : ssRecordProbe computeScore s i latencyMs false epoch now =
      ssRecordSample computeScore s i latencyMs false now := by
    rw [ssRecordProbe_eq, unmarked]
    exact sampled.update_none
  rw [kept]
  exact ⟨rfl, rfl⟩

/-- The success of an attempt with an outdated epoch changes neither health
nor the selection. -/
theorem AttemptInv.stale_success (inv : AttemptInv w) (fit : EpochsFit w.history)
    (taken : w.attempt owner = some a) (outdated : .failed a.server ∈ sinceStart owner w.history)
    (step : AttemptStep computeScore w v)
    (reported : v.history = .succeeded owner a.server :: w.history) :
    v.selector.health = w.selector.health ∧ v.selector.bestIdx = w.selector.bestIdx := by
  have stale : a.epoch ≠ w.selector.failureEpoch a.server := fun same =>
    (inv.current_iff fit taken).mp same outdated
  cases step with
  | sessionStart => simp [AttemptWorld.start] at reported
  | probeStart => simp [AttemptWorld.start] at reported
  | sessionFailure => simp [AttemptWorld.record] at reported
  | probeFailure => simp [AttemptWorld.record] at reported
  | probeDone => simp at reported
  | startRound => simp at reported
  | sessionSuccess again =>
    simp only [AttemptWorld.record, List.cons.injEq, AttemptEvent.succeeded.injEq, and_true] at reported
    obtain ⟨rfl, _⟩ := reported
    obtain rfl := Option.some.inj (again.symm.trans taken)
    simp only [AttemptWorld.record, serverSelectorReportTcpSuccess_stale stale, and_self]
  | probeSuccess latencyMs now again =>
    simp only [AttemptWorld.record, List.cons.injEq, AttemptEvent.succeeded.injEq, and_true] at reported
    obtain ⟨rfl, _⟩ := reported
    obtain rfl := Option.some.inj (again.symm.trans taken)
    exact ssRecordProbe_stale inv.selected stale

/-- In every interleaving of attempts a healthy server is vouched for by a
success that no later failure of it overtook, and the success of an attempt
that took its epoch before the last failure changes nothing. -/
theorem attempts_never_hide_failures {serverCount : Nat} {window : Nat → Nat → SsSample}
    (configured : 0 < serverCount)
    (run : AttemptRun computeScore (AttemptWorld.init serverCount window) w)
    (fit : EpochsFit w.history) :
    (∀ i, w.selector.health i = .ok → Vouched w.history i) ∧
      ∀ owner a v, w.attempt owner = some a → .failed a.server ∈ sinceStart owner w.history →
        AttemptStep computeScore w v → v.history = .succeeded owner a.server :: w.history →
        v.selector.health = w.selector.health ∧ v.selector.bestIdx = w.selector.bestIdx := by
  have inv := (AttemptWorld.init_inv configured window).run run
  exact ⟨inv.vouched fit, fun _ _ _ taken outdated => inv.stale_success fit taken outdated⟩

/-- A session connects to server 0, a probe of it fails, and then the session
gets its response: the server stays failed. -/
theorem attempts_never_hide_failures_overtaken :
    ∃ w v, AttemptRun (fun _ _ _ _ => 0) (AttemptWorld.init 2 fun _ _ => default) w ∧
      AttemptStep (fun _ _ _ _ => 0) w v ∧ w.selector.bestIdx = 1 ∧
      v.selector.health = w.selector.health ∧ v.selector.bestIdx = w.selector.bestIdx := by
  let began := ((AttemptWorld.init 2 fun _ _ => default).start (.session 7) 0).start (.probe 0) 0
  let w := began.record (ssRecordProbe (fun _ _ _ _ => 0) began.selector 0 5000 true 0 1) (.failed 0)
  have run : AttemptRun (fun _ _ _ _ => 0) (AttemptWorld.init 2 fun _ _ => default) w :=
    ((Relation.ReflTransGen.single (.sessionStart 7 0 (by decide))).tail
      (.probeStart 0 (by decide))).tail (@AttemptStep.probeFailure _ _ 0 ⟨0, 0⟩ 5000 1 rfl)
  have fit : EpochsFit w.history := fun server =>
    List.count_le_length.trans_lt (show 3 < 2 ^ 64 by decide)
  have late : AttemptStep (fun _ _ _ _ => 0) w _ :=
    @AttemptStep.sessionSuccess _ w 7 ⟨0, 0⟩ rfl
  exact ⟨w, _, run, late, by decide,
    (attempts_never_hide_failures (by decide) run fit).2 (.session 7) ⟨0, 0⟩ _ rfl (by decide) late rfl⟩

end Tproxy
