import Tproxy.Selector.Probes

namespace Tproxy

theorem ssProbeDone_frame (s : SsSelector) : (ssProbeDone s).serverCount = s.serverCount ∧
    (ssProbeDone s).probesRemaining = s.probesRemaining - 1 := by
  unfold ssProbeDone
  simp only
  split
  · rw [ssUpdateBestLocked_serverCount, ssUpdateBestLocked_probesRemaining]
    exact ⟨rfl, rfl⟩
  · exact ⟨rfl, rfl⟩

theorem ssRecordProbe_frame (computeScore : (Nat → SsSample) → Nat → Nat → ℚ → Nat) (s : SsSelector)
    (idx latencyMs : Nat) (errored : Bool) (attemptEpoch : Nat) (now : ℚ) :
    (ssRecordProbe computeScore s idx latencyMs errored attemptEpoch now).serverCount =
        s.serverCount ∧
      (ssRecordProbe computeScore s idx latencyMs errored attemptEpoch now).probesRemaining =
        s.probesRemaining := by
  unfold ssRecordProbe
  simp only [ssUpdateBestLocked_serverCount, ssUpdateBestLocked_probesRemaining]
  split
  · exact ⟨rfl, rfl⟩
  · split <;> exact ⟨rfl, rfl⟩

variable {π : Type} [SsProbe π] {n i : Nat} {w v : ProbeWorld π}

/-- What a move of probe `i` does to the counts: nothing while it is in flight;
at its end it is done, with at most one sample. -/
theorem ProbeMove.cases (move : ProbeMove i w v) : v.toStart = w.toStart ∧
    v.selector.serverCount = w.selector.serverCount ∧ (∀ j ≠ i, v.probe j = w.probe j) ∧
    ((v.selector.probesRemaining = w.selector.probesRemaining ∧ v.log = w.log ∧
        SsProbe.timerActive (v.probe i) = true ∧ SsProbe.serverIdx (v.probe i) = i) ∨
      (v.selector.probesRemaining = w.selector.probesRemaining - 1 ∧
        SsProbe.timerActive (v.probe i) = false ∧ SsProbe.ioActive (v.probe i) = false ∧
        ∃ samples, (samples = [] ∨ samples = [.sampled i i]) ∧
          v.log = (if w.selector.probesRemaining - 1 = 0 then [.updated] else []) ++
            .done i :: (samples ++ w.log))) := by
  cases move with
  | going same armed own =>
    exact ⟨same.toStart, congrArg _ same.selector, same.others,
      .inl ⟨congrArg _ same.selector, same.log, armed, own⟩⟩
  | @skipped v same disarmed silent =>
    obtain ⟨servers, counted⟩ := ssProbeDone_frame v.selector
    have counted : (ssProbeDone v.selector).probesRemaining = w.selector.probesRemaining - 1 :=
      same.selector ▸ counted
    have servers := servers.trans (congrArg _ same.selector)
    refine ⟨same.toStart, servers, same.others, .inr ⟨counted, disarmed, silent, [], .inl rfl, ?_⟩⟩
    simp only [ProbeWorld.done, same.log, counted, List.nil_append]
  | @recorded v latencyMs errored attemptEpoch now same disarmed silent =>
    obtain ⟨servers, counted⟩ :=
      ssProbeDone_frame (v.record i i latencyMs errored attemptEpoch now).selector
    obtain ⟨recordServers, recordCounted⟩ :=
      ssRecordProbe_frame ssComputeScore v.selector i latencyMs errored attemptEpoch now
    have after : (v.record i i latencyMs errored attemptEpoch now).selector.probesRemaining =
        w.selector.probesRemaining := recordCounted.trans (congrArg _ same.selector)
    rw [after] at counted
    refine ⟨same.toStart, servers.trans (recordServers.trans (congrArg _ same.selector)),
      same.others, .inr ⟨counted, disarmed, silent, [.sampled i i], .inr rfl, ?_⟩⟩
    simp only [ProbeWorld.done, counted]
    rw [← same.log]
    rfl

/-- Apart from probe `i` all is as `ProbesCounted` has it, when `pending` are
the pending probes. -/
structure OthersCounted (i : Nat) (pending : List Nat) (w : ProbeWorld π) : Prop where
  pending : ∀ j ≠ i, j ∈ pending ↔ j ∈ w.toStart ∨ SsProbe.timerActive (w.probe j) = true
  distinct : (i :: w.toStart).Nodup
  unarmed : ∀ j ∈ w.toStart, SsProbe.timerActive (w.probe j) = false
  silent : ∀ j ≠ i, SsProbe.timerActive (w.probe j) = false → SsProbe.ioActive (w.probe j) = false
  own : ∀ j ≠ i, SsProbe.timerActive (w.probe j) = true → SsProbe.serverIdx (w.probe j) = j

/-- It is the turn of probe `i`, which is pending. -/
structure ProbeTurn (n i : Nat) (w : ProbeWorld π) : Prop where
  servers : w.selector.serverCount = n
  rounds : RoundsLog n w.log
  remaining : w.selector.probesRemaining = (pendingProbes n w.log).length
  turn : i ∈ pendingProbes n w.log
  others : OthersCounted i (pendingProbes n w.log) w

theorem OthersCounted.congr {pending : List Nat} (aside : OthersCounted i pending w)
    (toStart : v.toStart = w.toStart) (others : ∀ j ≠ i, v.probe j = w.probe j) :
    OthersCounted i pending v := by
  obtain ⟨counted, distinct, unarmed, silent, own⟩ := aside
  have notWaiting := (List.nodup_cons.mp distinct).1
  refine ⟨fun j other => ?_, toStart ▸ distinct, fun j member => ?_, fun j other => ?_, fun j other => ?_⟩
  · rw [others j other, toStart]
    exact counted j other
  · rw [toStart] at member
    rw [others j fun same => notWaiting (same ▸ member)]
    exact unarmed j member
  · rw [others j other]
    exact silent j other
  · rw [others j other]
    exact own j other

/-- The others together with probe `i`. -/
theorem OthersCounted.join {pending : List Nat} (aside : OthersCounted i pending w)
    (servers : w.selector.serverCount = n) (rounds : RoundsLog n w.log)
    (remaining : w.selector.probesRemaining = (pendingProbes n w.log).length)
    (same : ∀ j ≠ i, j ∈ pendingProbes n w.log ↔ j ∈ pending)
    (here : i ∈ pendingProbes n w.log ↔ SsProbe.timerActive (w.probe i) = true)
    (silent : SsProbe.timerActive (w.probe i) = false → SsProbe.ioActive (w.probe i) = false)
    (own : SsProbe.timerActive (w.probe i) = true → SsProbe.serverIdx (w.probe i) = i) :
    ProbesCounted n w := by
  obtain ⟨notWaiting, distinct⟩ := List.nodup_cons.mp aside.distinct
  refine ⟨servers, rounds, remaining, fun j => ?_, distinct, aside.unarmed, fun j => ?_, fun j => ?_⟩
  · by_cases at_i : j = i
    · rw [at_i, here, or_iff_right notWaiting]
    · rw [same j at_i]
      exact aside.pending j at_i
  · by_cases at_i : j = i
    · rw [at_i]
      exact silent
    · exact aside.silent j at_i
  · by_cases at_i : j = i
    · rw [at_i]
      exact own
    · exact aside.own j at_i

/-- The move of the probe whose turn it is keeps the count. -/
theorem ProbeTurn.move (at_i : ProbeTurn n i w) (move : ProbeMove i w v) : ProbesCounted n v := by
  obtain ⟨servers, rounds, remaining, turn, aside⟩ := at_i
  obtain ⟨toStart, count, others, ends⟩ := move.cases
  have aside := aside.congr toStart others
  have servers := count.trans servers
  rcases ends with ⟨counted, log, armed, ownServer⟩ | ⟨counted, disarmed, quiet, samples, ownSample, log⟩
  · rw [← log] at rounds remaining turn aside
    exact aside.join servers rounds (counted.trans remaining) (fun _ _ => Iff.rfl)
      (iff_of_true turn armed) (fun disarmed => absurd armed (Bool.eq_false_iff.mp disarmed))
      fun _ => ownServer
  · have shorter := List.length_erase_of_mem turn
    have positive := List.length_pos_of_mem turn
    obtain ⟨rounds, left⟩ := rounds.complete turn ownSample rfl
    have last : pendingProbes n (.done i :: (samples ++ w.log)) = [] ↔
        w.selector.probesRemaining - 1 = 0 := by
      rw [pendingProbes_complete ownSample, ← List.length_eq_zero_iff, shorter, remaining]
      omega
    simp only [last, ← log] at rounds left
    have mem (j : Nat) : j ∈ pendingProbes n v.log ↔ j ≠ i ∧ j ∈ pendingProbes n w.log := by
      rw [left, pendingProbes_nodup.mem_erase_iff]
    refine aside.join servers rounds ?_ (fun j other => ?_) ?_ (fun _ => quiet) fun armed => ?_
    · rw [counted, remaining, left, shorter]
      omega
    · rw [mem, and_iff_right other]
    · exact iff_of_false (fun absent => ((mem i).mp absent).1 rfl) (Bool.eq_false_iff.mp disarmed)
    · exact absurd armed (Bool.eq_false_iff.mp disarmed)

/-- A started round has every probe to start. -/
theorem ProbesCounted.startRound (counted : ProbesCounted n w) : ProbesCounted n w.startRound := by
  unfold ProbeWorld.startRound
  split
  · exact counted
  · rename_i finished
    have remaining := counted.remaining
    have complete : pendingProbes n w.log = [] := by
      rw [← List.length_eq_zero_iff]
      omega
    have idle (i : Nat) : SsProbe.timerActive (w.probe i) = false := by
      refine Bool.eq_false_iff.mpr fun armed => ?_
      have pending := (counted.pending i).mpr (.inr armed)
      rw [complete] at pending
      cases pending
    have selected : selectorStartProbeRound w.selector =
        { w.selector with probesRemaining := w.selector.serverCount } := if_neg finished
    refine ⟨?_, counted.rounds.start complete, ?_, fun i => ?_, List.nodup_range, fun i _ => idle i,
      counted.silent, counted.own⟩
    · rw [selected]
      exact counted.servers
    · rw [selected, pendingProbes_started, List.length_range]
      exact congrArg _ counted.servers
    · rw [pendingProbes_started, counted.servers]
      simp [idle i]

/-- The turn of the next probe to start. -/
theorem ProbesCounted.turn_start (counted : ProbesCounted n w) {rest : List Nat}
    (next : w.toStart = i :: rest) : ProbeTurn n i { w with toStart := rest } := by
  obtain ⟨servers, rounds, remaining, pending, distinct, unarmed, silent, own⟩ := counted
  rw [next] at distinct unarmed
  refine ⟨servers, rounds, remaining, (pending i).mpr (.inl (next ▸ List.mem_cons_self)),
    fun j other => ?_, distinct, fun j member => unarmed j (List.mem_cons_of_mem _ member),
    fun j _ => silent j, fun j _ => own j⟩
  rw [pending j, next, List.mem_cons, or_iff_right other]

/-- The turn of a probe in flight. -/
theorem ProbesCounted.turn_armed (counted : ProbesCounted n w)
    (armed : SsProbe.timerActive (w.probe i) = true) : ProbeTurn n i w := by
  obtain ⟨servers, rounds, remaining, pending, distinct, unarmed, silent, own⟩ := counted
  refine ⟨servers, rounds, remaining, (pending i).mpr (.inr armed), fun j _ => pending j,
    List.nodup_cons.mpr ⟨fun member => ?_, distinct⟩, unarmed, fun j _ => silent j, fun j _ => own j⟩
  rw [unarmed i member] at armed
  cases armed

/-- Everything a step can do: start a round, let a pending probe move, or report. -/
theorem ProbesCounted.step_cases {P : ProbeProtocol π} (counted : ProbesCounted n w)
    (step : ProbeStep P w v) : v = w.startRound ∨
      (∃ i rest, ProbeTurn n i { w with toStart := rest } ∧ ProbeMove i { w with toStart := rest } v) ∨
      ∃ r, v = { w with selector := P.report r w.selector } := by
  cases step with
  | checkTimer => exact .inl rfl
  | @start i rest a next =>
    have disarmed := counted.unarmed i (next ▸ List.mem_cons_self)
    exact .inr (.inl ⟨i, rest, counted.turn_start next,
      P.start_move a { w with toStart := rest } i disarmed (counted.silent i disarmed)⟩)
  | @io i a _ active =>
    have armed : SsProbe.timerActive (w.probe i) = true := by
      by_contra disarmed
      rw [counted.silent i (Bool.eq_false_iff.mpr disarmed)] at active
      cases active
    exact .inr (.inl ⟨i, w.toStart, counted.turn_armed armed,
      P.onIo_move a w i armed (counted.own i armed)⟩)
  | @timeout i now _ armed =>
    rw [P.onTimeout_eq]
    exact .inr (.inl ⟨i, w.toStart, counted.turn_armed armed,
      .finish (counted.own i armed) ssMaxRttMs true now⟩)
  | report r => exact .inr (.inr ⟨r, rfl⟩)

theorem ProbesCounted.step {P : ProbeProtocol π} (counted : ProbesCounted n w)
    (step : ProbeStep P w v) : ProbesCounted n v := by
  rcases counted.step_cases step with rfl | ⟨i, rest, turn, move⟩ | ⟨r, rfl⟩
  · exact counted.startRound
  · exact turn.move move
  · obtain ⟨servers, remaining⟩ := P.report_frame r w.selector
    exact ⟨servers.trans counted.servers, counted.rounds, remaining.trans counted.remaining,
      counted.pending, counted.distinct, counted.unarmed, counted.silent, counted.own⟩

theorem ProbesCounted.run {P : ProbeProtocol π} (counted : ProbesCounted n w) (run : ProbeRun P w v) :
    ProbesCounted n v := by
  induction run with
  | refl => exact counted
  | tail _ step ih => exact ih.step step

theorem ProbesCounted.init (window : Nat → Nat → SsSample) {probe : Nat → π}
    (idle : ∀ i, SsProbe.timerActive (probe i) = false ∧ SsProbe.ioActive (probe i) = false) :
    ProbesCounted n (ProbeWorld.init n window probe) := by
  refine ⟨rfl, .idle, ?_, fun i => ?_, List.nodup_nil, fun i _ => (idle i).1, fun i _ => (idle i).2,
    fun i armed => absurd armed ?_⟩
  · simp [ProbeWorld.init, serverSelectorInit, pendingProbes]
  · simp [ProbeWorld.init, pendingProbes, (idle i).1]
  · exact Bool.eq_false_iff.mp (idle i).1

/-- The timeout of a probe in flight completes it. -/
theorem ProbesCounted.timeout {P : ProbeProtocol π} (counted : ProbesCounted n w)
    (armed : SsProbe.timerActive (w.probe i) = true) (now : ℚ) :
    i ∉ pendingProbes n (P.onTimeout now w i).log := by
  rw [P.onTimeout_eq]
  have turn := counted.turn_armed armed
  have notWaiting := (List.nodup_cons.mp turn.others.distinct).1
  have move : ProbeMove i w (w.finish i ssMaxRttMs true now) :=
    .finish (counted.own i armed) ssMaxRttMs true now
  have stopped : SsProbe.timerActive ((w.finish i ssMaxRttMs true now).probe i) = false := by
    rw [ProbeWorld.finish_probe, SsProbe.stop_timerActive]
  rw [(turn.move move).pending i, move.cases.1, stopped]
  simp [notWaiting]

end Tproxy
