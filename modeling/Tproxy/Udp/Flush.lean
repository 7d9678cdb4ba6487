import Tproxy.Lib.SwapPartition
import Tproxy.Udp.Reply

namespace Tproxy

/-! The index array as a line of datagrams, each with its place in the queue. -/

/-- The place of every datagram is where the queue has it. -/
def FlushPlaces (sends : List UdpTproxySend) (line : List (UdpTproxySend × Nat)) : Prop :=
  ∀ x ∈ line, sends[x.2]? = some x.1

def flushPick (entry : Nat) (x : UdpTproxySend × Nat) : Bool :=
  x.1.sourceEntry = entry

theorem flushPlaces_zipIdx (sends : List UdpTproxySend) : FlushPlaces sends sends.zipIdx := by
  rintro ⟨send, k⟩ mem
  exact List.mem_zipIdx_iff_getElem?.mp mem

/-- The queue at an index of the array. -/
theorem FlushPlaces.at {sends : List UdpTproxySend} (first : List (UdpTproxySend × Nat))
    {rest : List (UdpTproxySend × Nat)} {x : UdpTproxySend × Nat} (places : FlushPlaces sends (x :: rest)) :
    ((first ++ x :: rest).map Prod.snd)[first.length]?.bind (sends[·]?) = some x.1 := by
  have valid := places x (by simp)
  simp [valid]

/-- One round of the inner loop is one element of the scan. -/
theorem udpFlushGroupStep_line {sends : List UdpTproxySend} (entry : Nat)
    (settled group waiting : List (UdpTproxySend × Nat)) {todo : List (UdpTproxySend × Nat)}
    {x : UdpTproxySend × Nat}
    (places : FlushPlaces sends (x :: todo)) :
    udpFlushGroupStep sends entry settled.length
        ((settled ++ group ++ waiting ++ x :: todo).map Prod.snd, group.length)
        (settled ++ group ++ waiting).length =
      let next := swapLineStep (flushPick entry) (group, waiting) x
      ((settled ++ next.1 ++ next.2 ++ todo).map Prod.snd, next.1.length) := by
  have found := places.at (settled ++ group ++ waiting)
  cases picked : flushPick entry x with
  | false =>
    have other : ¬x.1.sourceEntry = entry := by simpa [flushPick] using picked
    simp only [udpFlushGroupStep, found, Option.any_some, other, decide_false, swapLineStep,
      picked, Bool.false_eq_true, if_false]
    simp
  | true =>
    have same : x.1.sourceEntry = entry := by simpa [flushPick] using picked
    simp only [udpFlushGroupStep, found, Option.any_some, same, decide_true, if_true,
      swapLineStep, picked]
    cases waiting with
    | nil => simp
    | cons first waiting => simp [List.getD_eq_getElem?_getD]

/-- The inner loop is the scan of the line from `i` on. -/
theorem udpFlushGroup_line {sends : List UdpTproxySend} (entry : Nat)
    (settled group waiting : List (UdpTproxySend × Nat)) {todo : List (UdpTproxySend × Nat)}
    (places : FlushPlaces sends todo) :
    (List.range' (settled ++ group ++ waiting).length todo.length).foldl
        (udpFlushGroupStep sends entry settled.length)
        ((settled ++ group ++ waiting ++ todo).map Prod.snd, group.length) =
      let parted := todo.foldl (swapLineStep (flushPick entry)) (group, waiting)
      ((settled ++ parted.1 ++ parted.2).map Prod.snd, parted.1.length) := by
  induction todo generalizing group waiting with
  | nil => simp
  | cons x todo ih =>
    have step := udpFlushGroupStep_line entry settled group waiting places
    obtain ⟨-, later⟩ := List.forall_mem_cons.mp places
    rw [List.length_cons, List.range'_succ, List.foldl_cons, step, List.foldl_cons]
    have longer : (settled ++ group ++ waiting).length + 1 =
        (settled ++ (swapLineStep (flushPick entry) (group, waiting) x).1 ++
          (swapLineStep (flushPick entry) (group, waiting) x).2).length := by
      simp only [swapLineStep]
      split <;> simp only [List.length_append, List.length_rotate, List.length_singleton] <;> omega
    rw [longer]
    exact ih _ _ later

/-- The inner loop that collects the group of `entry`, from its first round. -/
theorem udpFlushGroup_whole {sends : List UdpTproxySend} (entry : Nat)
    (settled : List (UdpTproxySend × Nat)) {line : List (UdpTproxySend × Nat)}
    (places : FlushPlaces sends line) :
    (List.range' settled.length line.length).foldl (udpFlushGroupStep sends entry settled.length)
        ((settled ++ line).map Prod.snd, 0) =
      let parted := swapPartition (flushPick entry) line
      ((settled ++ parted.1 ++ parted.2).map Prod.snd, parted.1.length) := by
  simpa [swapPartition] using
    udpFlushGroup_line entry settled [] [] places

def flushKey (x : UdpTproxySend × Nat) : Nat :=
  x.1.sourceEntry

theorem FlushPlaces.of_mem {sends : List UdpTproxySend} {line part : List (UdpTproxySend × Nat)}
    (places : FlushPlaces sends line) (within : ∀ x ∈ part, x ∈ line) : FlushPlaces sends part :=
  fun x mem => places x (within x mem)

/-- The datagrams of a part of the array. -/
theorem FlushPlaces.msgs {sends : List UdpTproxySend} {line : List (UdpTproxySend × Nat)}
    (places : FlushPlaces sends line) :
    ((line.map Prod.snd).filterMap fun k => (sends[k]?).map UdpTproxySend.msg) =
      line.map fun x => x.1.msg := by
  induction line with
  | nil => rfl
  | cons x rest ih =>
    obtain ⟨valid, later⟩ := List.forall_mem_cons.mp places
    simp only [List.map_cons, List.filterMap_cons, valid, Option.map_some]
    rw [ih later]

/-- The outer loop serves the groups of the line. -/
theorem udpFlushGroups_line {sends : List UdpTproxySend} (fuel : Nat)
    (settled : List (UdpTproxySend × Nat)) {line : List (UdpTproxySend × Nat)} (places : FlushPlaces sends line)
    (whole : settled.length + line.length = sends.length) :
    udpFlushGroups sends fuel settled.length ((settled ++ line).map Prod.snd) =
      (swapGroups flushKey fuel line).map fun group =>
        (group.1, group.2.map fun x => x.1.msg) := by
  induction fuel generalizing settled line with
  | zero => rfl
  | succ fuel ih =>
    cases line with
    | nil => simp [udpFlushGroups, swapGroups]
    | cons first rest =>
      have scan := udpFlushGroup_whole first.1.sourceEntry settled places
      have remains : sends.length - settled.length = (first :: rest).length := by omega
      have lengths := swapPartition_length (flushPick first.1.sourceEntry) (first :: rest)
      have members : ∀ x ∈ (swapPartition (flushPick first.1.sourceEntry) (first :: rest)).1,
          x ∈ first :: rest := fun x mem => by
        rw [swapPartition_group] at mem
        exact (List.mem_filter.mp mem).1
      have others : ∀ x ∈ (swapPartition (flushPick first.1.sourceEntry) (first :: rest)).2,
          x ∈ first :: rest := fun x mem => (mem_swapPartition_waiting.mp mem).1
      have picks : (fun x => decide (flushKey x = flushKey first)) =
          flushPick first.1.sourceEntry := rfl
      simp only [udpFlushGroups, places.at settled, remains, scan, swapGroups, List.map_cons, picks]
      generalize swapPartition (flushPick first.1.sourceEntry) (first :: rest) = parted at *
      have group : ((parted.1.map Prod.snd).filterMap fun k => (sends[k]?).map UdpTproxySend.msg) =
          parted.1.map fun x => x.1.msg := (places.of_mem members).msgs
      have later := ih (settled ++ parted.1) (places.of_mem others)
        (by simp only [List.length_append]; omega)
      rw [List.length_append] at later
      have cut : (((settled ++ parted.1 ++ parted.2).map Prod.snd).drop settled.length).take
          parted.1.length = parted.1.map Prod.snd := by simp
      rw [cut, group, later]
      rfl

/-- The calls of `sendmmsg` are the groups of the queue. -/
theorem udpFlushCalls_eq (sends : List UdpTproxySend) :
    udpFlushCalls sends = (swapGroups flushKey sends.length sends.zipIdx).map fun group =>
      (group.1, group.2.map fun x => x.1.msg) := by
  have line := udpFlushGroups_line sends.length [] (flushPlaces_zipIdx sends)
    (by simp)
  simpa [udpFlushCalls, List.zipIdx_map_snd, List.range_eq_range'] using line

/-- The datagrams of one source in a part of the queue. -/
theorem zipIdx_filter_msgs (sends : List UdpTproxySend) (k entry : Nat) :
    ((sends.zipIdx k).filter fun x => flushKey x = entry).map (fun x => x.1.msg) =
      (sends.filter fun send => send.sourceEntry = entry).map UdpTproxySend.msg := by
  induction sends generalizing k with
  | nil => rfl
  | cons send rest ih =>
    by_cases same : send.sourceEntry = entry
    · simp [flushKey, same, ← ih (k + 1)]
    · simp [flushKey, same, ← ih (k + 1)]

/-- A cut of the queue as a cut of the line. -/
theorem flushCut {before after : List UdpTproxySend} {entry : Nat}
    (once : (before.filter fun send => send.sourceEntry = entry).length = 1)
    (apart : ∀ x ∈ before, ∀ y ∈ after, x.sourceEntry = y.sourceEntry → x.sourceEntry = entry) :
    CutAt flushKey entry before.zipIdx (after.zipIdx before.length) := by
  refine ⟨?_, fun x first y later same => ?_⟩
  · have msgs := congrArg List.length (zipIdx_filter_msgs before 0 entry)
    simpa only [List.length_map, once] using msgs
  · exact apart x.1 (List.fst_mem_of_mem_zipIdx first) y.1 (List.fst_mem_of_mem_zipIdx later) same

/-- All datagrams of a source go out in one call, none lost and none twice.
They keep their order if the queue has a cut between the first and the second
of them that separates no other source. -/
theorem udpFlush_ordered (sends : List UdpTproxySend) (entry : Nat)
    (queued : ∃ send ∈ sends, send.sourceEntry = entry) :
    ∃ msgs, (udpFlushCalls sends).filter (fun call => call.1 = entry) = [(entry, msgs)] ∧
      msgs.Perm ((sends.filter fun send => send.sourceEntry = entry).map UdpTproxySend.msg) ∧
      ∀ before after, sends = before ++ after →
        (before.filter fun send => send.sourceEntry = entry).length = 1 →
        (∀ x ∈ before, ∀ y ∈ after, x.sourceEntry = y.sourceEntry → x.sourceEntry = entry) →
        msgs = (sends.filter fun send => send.sourceEntry = entry).map UdpTproxySend.msg := by
  have calls : ∀ group, (swapGroups flushKey sends.length sends.zipIdx).filter
      (fun group => group.1 = entry) = [(entry, group)] →
      (udpFlushCalls sends).filter (fun call => call.1 = entry) =
        [(entry, group.map fun x => x.1.msg)] := by
    intro group served
    rw [udpFlushCalls_eq, List.filter_map]
    exact congrArg (List.map _) served
  obtain ⟨send, mem, source⟩ := queued
  obtain ⟨k, at_k⟩ := List.getElem?_of_mem mem
  have place : (send, k) ∈ sends.zipIdx := List.mk_mem_zipIdx_iff_getElem?.mpr at_k
  have enough : sends.zipIdx.length ≤ sends.length := by simp
  obtain ⟨group, served, members⟩ := swapGroups_filter_perm flushKey enough
    ⟨(send, k), place, source⟩
  refine ⟨_, calls group served, ?_, fun before after cut once apart => ?_⟩
  · rw [← zipIdx_filter_msgs sends 0]
    exact members.map _
  · subst cut
    have parts : (before ++ after).zipIdx = before.zipIdx ++ after.zipIdx before.length := by
      rw [List.zipIdx_append, Nat.zero_add]
    have ordered := swapGroups_filter_eq (parts ▸ enough) (flushCut once apart)
    rw [← parts, served] at ordered
    have same : group = (before ++ after).zipIdx.filter fun x => flushKey x = entry := by
      simpa using ordered
    rw [same]
    exact zipIdx_filter_msgs (before ++ after) 0 entry

/-- The client of the datagrams below. -/
def flushClient : UdpEndpointKey :=
  ⟨afInet, 5353, [192, 0, 2, 1] ++ List.replicate 12 0⟩

def flushSend (source : Nat) (data : UInt8) : UdpTproxySend :=
  ⟨source, [data], flushClient⟩

/-- `1, 2, 1, 2`: the swaps for the first source leave the second in order. -/
theorem udpFlush_ordered_alternating :
    ∃ msgs, (udpFlushCalls [flushSend 1 0, flushSend 2 1, flushSend 1 2, flushSend 2 3]).filter
        (fun call => call.1 = 2) = [(2, msgs)] ∧ msgs = [⟨[1], flushClient⟩, ⟨[3], flushClient⟩] := by
  obtain ⟨msgs, served, -, ordered⟩ := udpFlush_ordered
    [flushSend 1 0, flushSend 2 1, flushSend 1 2, flushSend 2 3] 2 ⟨flushSend 2 1, by simp, rfl⟩
  refine ⟨msgs, served, ?_⟩
  exact ordered [flushSend 1 0, flushSend 2 1, flushSend 1 2] [flushSend 2 3] rfl (by decide)
    (by decide)

/-- `1, 2, 2, 1`: collecting the second datagram of the first source swaps the
datagrams of the other one. -/
theorem udpFlush_swapped :
    ¬∀ (sends : List UdpTproxySend) (entry : Nat), sends.length ≤ udpBatchSize →
      ((udpFlushCalls sends).filter fun call => call.1 = entry).flatMap Prod.snd =
        (sends.filter fun send => send.sourceEntry = entry).map UdpTproxySend.msg := by
  intro ordered
  have wrong := ordered [flushSend 1 0, flushSend 2 1, flushSend 2 2, flushSend 1 3] 2 (by decide)
  revert wrong
  decide

end Tproxy
