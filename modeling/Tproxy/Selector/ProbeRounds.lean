import Mathlib.Data.List.Nodup

namespace Tproxy

/-- What happens to the probes of one protocol: a round starts, `ss_record_probe`
takes the result of a probe for a server, a probe reaches `ss_probe_done`, and
the update of a complete round runs. -/
inductive ProbeEvent
  | started
  | sampled (probe server : Nat)
  | done (probe : Nat)
  | updated
deriving DecidableEq

/-- The events since a round last started. A log has the newest event first. -/
def thisRound (log : List ProbeEvent) : List ProbeEvent := log.takeWhile (· ≠ .started)

/-- The probes of the newest round that are not done. -/
def pendingProbes (n : Nat) (log : List ProbeEvent) : List Nat :=
  (List.range n).filter fun i => .started ∈ log ∧ .done i ∉ thisRound log

/-- The events of one round of `n` probes: none is done twice, at most one
sample is taken of each and only for its own server, and the update runs once,
after the last probe. -/
structure RoundOf (n : Nat) (events : List ProbeEvent) : Prop where
  inside : ∀ i, .done i ∈ events → i < n
  once : ∀ i, events.count (.done i) ≤ 1
  own : ∀ i server, .sampled i server ∈ events → server = i
  sampled : ∀ i, events.count (.sampled i i) ≤ events.count (.done i)
  updated : events.count .updated = if 0 < n ∧ ∀ i < n, .done i ∈ events then 1 else 0
  last : .updated ∈ events → events.head? = some .updated

/-- A log of rounds of `n` probes. In each round but the newest every probe
was done exactly once. -/
inductive RoundsLog (n : Nat) : List ProbeEvent → Prop
  | idle : RoundsLog n []
  | round {past events : List ProbeEvent} : RoundsLog n past →
      (past ≠ [] → ∀ i < n, (thisRound past).count (.done i) = 1) →
      .started ∉ events → RoundOf n events → RoundsLog n (events ++ .started :: past)

variable {n i : Nat} {log past events samples : List ProbeEvent} {e : ProbeEvent}

theorem thisRound_append (same : .started ∉ events) :
    thisRound (events ++ .started :: past) = events := by
  have passes : ∀ e ∈ events, decide (e ≠ ProbeEvent.started) = true := fun e member =>
    decide_eq_true fun started => same (started ▸ member)
  rw [thisRound, List.takeWhile_append_of_pos passes, List.takeWhile_cons_of_neg (by simp),
    List.append_nil]

@[simp] theorem thisRound_started : thisRound (.started :: past) = [] :=
  thisRound_append List.not_mem_nil

theorem thisRound_cons (other : e ≠ .started) : thisRound (e :: log) = e :: thisRound log :=
  List.takeWhile_cons_of_pos (decide_eq_true other)

theorem mem_pendingProbes :
    i ∈ pendingProbes n log ↔ i < n ∧ .started ∈ log ∧ .done i ∉ thisRound log := by
  simp only [pendingProbes, List.mem_filter, List.mem_range, decide_eq_true_eq]

theorem pendingProbes_nodup : (pendingProbes n log).Nodup := List.nodup_range.filter _

@[simp] theorem pendingProbes_started : pendingProbes n (.started :: past) = List.range n := by
  simp [pendingProbes]

/-- Only the start of a round and the end of a probe change what is pending. -/
theorem pendingProbes_cons (other : e ≠ .started) (quiet : ∀ i, e ≠ .done i) :
    pendingProbes n (e :: log) = pendingProbes n log := by
  simp only [pendingProbes, thisRound_cons other, List.mem_cons, Ne.symm other, Ne.symm (quiet _),
    false_or]

theorem pendingProbes_done : pendingProbes n (.done i :: log) = (pendingProbes n log).erase i := by
  rw [pendingProbes_nodup.erase_eq_filter]
  simp only [pendingProbes, List.filter_filter]
  refine List.filter_congr fun j _ => ?_
  rw [Bool.eq_iff_iff]
  simp only [thisRound_cons (e := .done i) (by simp), List.mem_cons, decide_eq_true_eq,
    ProbeEvent.done.injEq, reduceCtorEq, false_or, not_or, Bool.and_eq_true, bne_iff_ne]
  tauto

/-- Probe `i` is done, after the events `samples` of its result. -/
theorem pendingProbes_complete (own : samples = [] ∨ samples = [.sampled i i]) :
    pendingProbes n (.done i :: (samples ++ log)) = (pendingProbes n log).erase i := by
  rw [pendingProbes_done]
  rcases own with rfl | rfl
  · rfl
  · rw [List.singleton_append, pendingProbes_cons (by simp) (by simp)]

theorem RoundOf.nil : RoundOf n [] := by
  refine ⟨by simp, by simp, by simp, by simp, ?_, by simp⟩
  rw [List.count_nil, if_neg]
  rintro ⟨positive, all⟩
  exact absurd (all 0 positive) (by simp)

/-- A pending probe has no sample, and the update of its round has not run. -/
theorem RoundOf.early (round : RoundOf n events) (inside : i < n) (undone : .done i ∉ events) :
    events.count (.sampled i i) = 0 ∧ events.count .updated = 0 := by
  have bounded := round.sampled i
  rw [List.count_eq_zero.mpr undone] at bounded
  refine ⟨by omega, ?_⟩
  rw [round.updated, if_neg]
  exact fun ⟨_, all⟩ => undone (all i inside)

section Complete
variable {finish : List ProbeEvent} (own : samples = [] ∨ samples = [.sampled i i])
  (atFinish : finish = [] ∨ finish = [.updated])
include own atFinish

theorem count_done_complete (j : Nat) :
    (finish ++ .done i :: (samples ++ events)).count (.done j) =
      events.count (.done j) + if i = j then 1 else 0 := by
  have none : finish.count (.done j) = 0 ∧ samples.count (.done j) = 0 := by
    rcases own with rfl | rfl <;> rcases atFinish with rfl | rfl <;> simp
  simp only [List.count_append, List.count_cons, none.1, none.2, beq_iff_eq, ProbeEvent.done.injEq]
  omega

theorem mem_done_complete (j : Nat) : .done j ∈ finish ++ .done i :: (samples ++ events) ↔
    .done j ∈ ProbeEvent.done i :: events := by
  rw [← List.count_pos_iff, count_done_complete own atFinish, List.mem_cons, ← List.count_pos_iff,
    ProbeEvent.done.injEq]
  split <;> omega

theorem mem_sampled_complete {j server : Nat}
    (member : .sampled j server ∈ finish ++ .done i :: (samples ++ events)) :
    (j = i ∧ server = i) ∨ .sampled j server ∈ events := by
  rcases own with rfl | rfl
  · refine .inr ?_
    rcases atFinish with rfl | rfl <;> simpa using member
  · rcases atFinish with rfl | rfl <;> simpa using member

theorem count_sampled_complete (j : Nat) :
    (finish ++ .done i :: (samples ++ events)).count (.sampled j j) ≤
      events.count (.sampled j j) + if i = j then 1 else 0 := by
  have none : finish.count (.sampled j j) = 0 := by
    rcases atFinish with rfl | rfl <;> simp
  have new : samples.count (.sampled j j) ≤ if i = j then 1 else 0 := by
    rcases own with rfl | rfl <;> simp [List.count_cons]
  simp only [List.count_append, List.count_cons, none, beq_iff_eq, reduceCtorEq, if_false]
  omega

/-- Probe `i` is done, with a sample of its server or without one, and the
update runs when it was the last. -/
theorem RoundOf.complete (round : RoundOf n events) (inside : i < n) (undone : .done i ∉ events)
    (finished : finish = [.updated] ↔ ∀ j < n, .done j ∈ ProbeEvent.done i :: events) :
    RoundOf n (finish ++ .done i :: (samples ++ events)) := by
  obtain ⟨unsampled, early⟩ := round.early inside undone
  have uncounted := List.count_eq_zero.mpr undone
  refine ⟨fun j member => ?_, fun j => ?_, fun j server member => ?_, fun j => ?_, ?_, fun member => ?_⟩
  · rcases List.mem_cons.mp ((mem_done_complete own atFinish j).mp member) with same | old
    · cases same
      exact inside
    · exact round.inside j old
  · rw [count_done_complete own atFinish]
    have before := round.once j
    split
    · rename_i same
      rw [← same]
      omega
    · exact before
  · rcases mem_sampled_complete own atFinish member with ⟨rfl, rfl⟩ | old
    · rfl
    · exact round.own j server old
  · have before := round.sampled j
    have after := @count_sampled_complete i events _ _ own atFinish j
    rw [count_done_complete own atFinish]
    omega
  · have none : samples.count .updated = 0 := by
      rcases own with rfl | rfl <;> simp
    have positive : 0 < n := by omega
    simp only [List.count_append, List.count_cons, none, early, mem_done_complete own atFinish,
      ← finished, positive, true_and, beq_iff_eq, reduceCtorEq, if_false]
    rcases atFinish with rfl | rfl <;> simp
  · rcases atFinish with rfl | rfl
    · have notUpdated := List.count_eq_zero.mp early
      rcases own with rfl | rfl <;> simp [notUpdated] at member
    · rfl

end Complete

/-- In the newest round a probe was done once, unless it is pending. -/
theorem RoundsLog.count_done (rounds : RoundsLog n log) (started : .started ∈ log) (inside : i < n) :
    (thisRound log).count (.done i) = if i ∈ pendingProbes n log then 0 else 1 := by
  cases rounds with
  | idle => cases started
  | round before past same round =>
    have bounded := round.once i
    simp only [mem_pendingProbes, inside, started, thisRound_append same, true_and]
    split
    · exact List.count_eq_zero.mpr ‹_›
    · have positive := List.count_pos_iff.mpr (not_not.mp ‹_›)
      omega

theorem RoundsLog.started_mem (rounds : RoundsLog n log) (begun : log ≠ []) : .started ∈ log := by
  cases rounds with
  | idle => exact absurd rfl begun
  | round => simp

theorem RoundsLog.start (rounds : RoundsLog n log) (complete : pendingProbes n log = []) :
    RoundsLog n (.started :: log) := by
  refine .round rounds (fun begun i inside => ?_) List.not_mem_nil .nil
  rw [rounds.count_done (rounds.started_mem begun) inside, complete, if_neg List.not_mem_nil]

/-- A pending probe is done; the update runs when none is pending any more. -/
theorem RoundsLog.complete (rounds : RoundsLog n log) (pending : i ∈ pendingProbes n log)
    (own : samples = [] ∨ samples = [.sampled i i]) {finish : List ProbeEvent}
    (finished : finish =
      if pendingProbes n (.done i :: (samples ++ log)) = [] then [.updated] else []) :
    RoundsLog n (finish ++ .done i :: (samples ++ log)) ∧
      pendingProbes n (finish ++ .done i :: (samples ++ log)) = (pendingProbes n log).erase i := by
  have left : pendingProbes n (finish ++ .done i :: (samples ++ log)) = (pendingProbes n log).erase i := by
    rw [← pendingProbes_complete own, finished]
    split
    · rw [List.singleton_append, pendingProbes_cons (by simp) (by simp)]
    · rfl
  refine ⟨?_, left⟩
  obtain ⟨inside, started, undone⟩ := mem_pendingProbes.mp pending
  cases rounds with
  | idle => cases started
  | @round past events before exact same round =>
    rw [thisRound_append same] at undone
    have fresh : .started ∉ finish ++ .done i :: (samples ++ events) := by
      rw [finished]
      rcases own with rfl | rfl <;> split <;> simpa using same
    have whole : finish ++ .done i :: (samples ++ (events ++ .started :: past)) =
        (finish ++ .done i :: (samples ++ events)) ++ .started :: past := by simp
    rw [whole]
    have atFinish : finish = [] ∨ finish = [.updated] := by
      rw [finished]
      split <;> simp
    refine .round before exact fresh (round.complete own atFinish inside undone ?_)
    rw [finished, ite_eq_left_iff]
    have now : thisRound (.done i :: (samples ++ (events ++ .started :: past))) =
        .done i :: (samples ++ events) := by
      have split : .done i :: (samples ++ (events ++ .started :: past)) =
          (.done i :: (samples ++ events)) ++ .started :: past := by simp
      rw [split, thisRound_append]
      rcases own with rfl | rfl <;> simpa using same
    have same (j : Nat) : .done j ∈ ProbeEvent.done i :: (samples ++ events) ↔
        .done j ∈ ProbeEvent.done i :: events := @mem_done_complete i events _ [] own (.inl rfl) j
    have last : pendingProbes n (.done i :: (samples ++ (events ++ .started :: past))) = [] ↔
        ∀ j < n, .done j ∈ ProbeEvent.done i :: events := by
      rw [List.eq_nil_iff_forall_not_mem]
      simp only [mem_pendingProbes, now, same]
      constructor
      · intro none j bound
        by_contra missing
        exact none j ⟨bound, by simp, missing⟩
      · rintro all j ⟨bound, _, missing⟩
        exact missing (all j bound)
    rw [← last]
    simp

end Tproxy
