import Tproxy.Udp.Flush

namespace Tproxy

/-- The locals of `udp_tproxy_flush_client_sends` and the array `g_tpsend_msgs`
that its groups use one after the other, with the `sendmmsg` calls made so
far. A call that `EINTR` interrupts is repeated and counts as one. -/
structure UdpFlush where
  i : Nat
  indices : List Nat
  tpsendMsgs : List UdpClientMsg
  calls : List (Nat × List UdpClientMsg)

def udpFlushStart (sends : List UdpTproxySend) (tpsendMsgs : List UdpClientMsg) : UdpFlush :=
  ⟨0, List.range sends.length, tpsendMsgs, []⟩

/-- One round of the loop that fills `g_tpsend_msgs`. -/
def udpFlushCopy (sends : List UdpTproxySend) (indices : List Nat) (i : Nat)
    (tpsendMsgs : List UdpClientMsg) (k : Nat) : List UdpClientMsg :=
  match indices[i + k]?.bind (sends[·]?) with
  | none => tpsendMsgs
  | some send => tpsendMsgs.set k send.msg

/-- One round of the outer loop of `udp_tproxy_flush_client_sends`. -/
def udpFlushRound (sends : List UdpTproxySend) (st : UdpFlush) : UdpFlush :=
  match st.indices[st.i]?.bind (sends[·]?) with
  | none => st
  | some first =>
    let grouped := (List.range' st.i (sends.length - st.i)).foldl
      (udpFlushGroupStep sends first.sourceEntry st.i) (st.indices, 0)
    let tpsendMsgs := (List.range' 0 grouped.2).foldl (udpFlushCopy sends grouped.1 st.i) st.tpsendMsgs
    ⟨st.i + grouped.2, grouped.1, tpsendMsgs,
      st.calls ++ [(first.sourceEntry, tpsendMsgs.take grouped.2)]⟩

/-- The outer loop; `none` when it is not done after `fuel` rounds. -/
def udpFlushRun (sends : List UdpTproxySend) : Nat → UdpFlush → Option UdpFlush
  | fuel, st =>
    if st.i < sends.length then
      match fuel with
      | 0 => none
      | fuel + 1 => udpFlushRun sends fuel (udpFlushRound sends st)
    else some st

/-- The flush between two rounds: the groups that were served, and the line of
the datagrams that wait for theirs. -/
structure FlushAt (sends : List UdpTproxySend) (st : UdpFlush)
    (served : List (Nat × List (UdpTproxySend × Nat))) (line : List (UdpTproxySend × Nat)) :
    Prop where
  index : st.i = (served.flatMap Prod.snd).length
  indices : st.indices = (served.flatMap Prod.snd ++ line).map Prod.snd
  queue : (served.flatMap Prod.snd ++ line).Perm sends.zipIdx
  calls : st.calls = served.map fun group => (group.1, group.2.map fun x => x.1.msg)
  keyed : ∀ group ∈ served, group.2 ≠ [] ∧ ∀ x ∈ group.2, flushKey x = group.1
  once : (served.map Prod.fst).Nodup
  apart : ∀ group ∈ served, ∀ x ∈ line, flushKey x ≠ group.1
  buffer : sends.length ≤ st.tpsendMsgs.length

/-- What the whole flush did: `groups` are the parts of the index array that
its calls took the datagrams from. -/
structure UdpFlushed (sends : List UdpTproxySend) (st : UdpFlush) (groups : List (List Nat)) :
    Prop where
  indices : st.indices.Perm (List.range sends.length)
  parts : groups.flatten = st.indices
  calls : List.Forall₂ (fun group call => group ≠ [] ∧
    List.Forall₂ (fun k msg => sends[k]? = some ⟨call.1, msg⟩) group call.2) groups st.calls
  once : (st.calls.map Prod.fst).Nodup

variable {sends : List UdpTproxySend} {st : UdpFlush} {tpsendMsgs : List UdpClientMsg}
  {served : List (Nat × List (UdpTproxySend × Nat))} {line : List (UdpTproxySend × Nat)}

theorem flushAt_start (buffer : sends.length ≤ tpsendMsgs.length) :
    FlushAt sends (udpFlushStart sends tpsendMsgs) [] sends.zipIdx where
  index := rfl
  indices := by simp [udpFlushStart, List.zipIdx_map_snd, List.range_eq_range']
  queue := .refl _
  calls := rfl
  keyed := by simp
  once := List.nodup_nil
  apart := by simp
  buffer := buffer

theorem FlushAt.places (at_st : FlushAt sends st served line) :
    FlushPlaces sends (served.flatMap Prod.snd ++ line) :=
  (flushPlaces_zipIdx sends).of_mem fun _ mem => at_st.queue.mem_iff.mp mem

theorem FlushAt.lengths (at_st : FlushAt sends st served line) :
    st.i + line.length = sends.length := by
  have same := at_st.queue.length_eq
  rw [List.length_append, List.length_zipIdx, ← at_st.index] at same
  exact same

/-- The copy loop writes the datagrams of the group over the front of the
array and leaves what earlier groups put behind it. -/
theorem udpFlushCopy_group (tpsendMsgs : List UdpClientMsg)
    (settled copied todo rest : List (UdpTproxySend × Nat)) (places : FlushPlaces sends todo)
    (room : copied.length + todo.length ≤ tpsendMsgs.length) :
    let filled := (List.range' copied.length todo.length).foldl
      (udpFlushCopy sends ((settled ++ copied ++ todo ++ rest).map Prod.snd) settled.length) tpsendMsgs
    filled.take (copied.length + todo.length) =
        tpsendMsgs.take copied.length ++ todo.map (fun x => x.1.msg) ∧
      filled.length = tpsendMsgs.length := by
  induction todo generalizing copied tpsendMsgs with
  | nil => simp
  | cons x todo ih =>
    obtain ⟨-, later⟩ := List.forall_mem_cons.mp places
    have found : ((settled ++ copied ++ x :: todo ++ rest).map Prod.snd)[settled.length + copied.length]?.bind
        (sends[·]?) = some x.1 := by
      have valid := places x (by simp)
      simp [valid]
    have step : udpFlushCopy sends ((settled ++ copied ++ x :: todo ++ rest).map Prod.snd)
        settled.length tpsendMsgs copied.length = tpsendMsgs.set copied.length x.1.msg := by
      rw [udpFlushCopy, found]
    have shift : settled ++ copied ++ x :: todo ++ rest = settled ++ (copied ++ [x]) ++ todo ++ rest := by
      simp
    rw [List.length_cons] at room ⊢
    have rest_copied := ih (tpsendMsgs.set copied.length x.1.msg) (copied ++ [x]) later
      (by rw [List.length_append, List.length_set, List.length_singleton]; omega)
    rw [List.range'_succ, List.foldl_cons, step, shift]
    simp only [List.length_append, List.length_singleton, List.length_set] at rest_copied
    refine ⟨?_, rest_copied.2⟩
    have front : (tpsendMsgs.set copied.length x.1.msg).take (copied.length + 1) =
        tpsendMsgs.take copied.length ++ [x.1.msg] := by
      rw [List.take_succ_eq_append_getElem (by rw [List.length_set]; omega),
        List.take_set_of_le (Nat.le_refl _), List.getElem_set_self]
    rw [show copied.length + (todo.length + 1) = copied.length + 1 + todo.length by omega,
      rest_copied.1, front]
    simp

/-- The datagrams of a group are those of the line with its source. -/
theorem mem_flushGroup {entry : Nat} {line : List (UdpTproxySend × Nat)} {x : UdpTproxySend × Nat} :
    x ∈ (swapPartition (flushPick entry) line).1 ↔ x ∈ line ∧ flushKey x = entry := by
  rw [swapPartition_group, List.mem_filter]
  exact and_congr_right fun _ => decide_eq_true_iff

/-- A round serves the group of the first datagram in the line. -/
theorem FlushAt.round_eq {first : UdpTproxySend × Nat} {rest : List (UdpTproxySend × Nat)}
    (at_st : FlushAt sends st served (first :: rest)) :
    let parted := swapPartition (flushPick (flushKey first)) (first :: rest)
    ∃ tpsendMsgs, tpsendMsgs.length = st.tpsendMsgs.length ∧ udpFlushRound sends st =
      ⟨(served.flatMap Prod.snd ++ parted.1).length,
        (served.flatMap Prod.snd ++ parted.1 ++ parted.2).map Prod.snd, tpsendMsgs,
        st.calls ++ [(flushKey first, parted.1.map fun x => x.1.msg)]⟩ := by
  have lengths := at_st.lengths
  have inLine := at_st.places.of_mem fun x mem => List.mem_append_right _ mem
  have found := inLine.at (served.flatMap Prod.snd)
  have scan := udpFlushGroup_whole (flushKey first) (served.flatMap Prod.snd) inLine
  have total := swapPartition_length (flushPick (flushKey first)) (first :: rest)
  have remains : sends.length - st.i = (first :: rest).length := by omega
  have members : ∀ x ∈ (swapPartition (flushPick (flushKey first)) (first :: rest)).1,
      x ∈ first :: rest := fun x mem => (mem_flushGroup.mp mem).1
  generalize swapPartition (flushPick (flushKey first)) (first :: rest) = parted at *
  have copied := udpFlushCopy_group st.tpsendMsgs (served.flatMap Prod.snd) [] parted.1 parted.2
    (at_st.places.of_mem fun x mem => List.mem_append_right _ (members x mem))
    (by have buffer := at_st.buffer; rw [List.length_nil]; omega)
  simp only [List.append_nil, List.length_nil, Nat.zero_add, List.take_zero, List.nil_append] at copied
  refine ⟨_, copied.2, ?_⟩
  rw [udpFlushRound, at_st.indices, remains, at_st.index, found]
  simp only [flushKey] at scan copied ⊢
  rw [scan]
  simp only [copied.1, List.length_append]

/-- One round of the outer loop serves the group of the first datagram that
waits. -/
theorem FlushAt.round {first : UdpTproxySend × Nat} {rest : List (UdpTproxySend × Nat)}
    (at_st : FlushAt sends st served (first :: rest)) :
    let parted := swapPartition (flushPick (flushKey first)) (first :: rest)
    FlushAt sends (udpFlushRound sends st) (served ++ [(flushKey first, parted.1)]) parted.2 := by
  have group := swapPartition_group (flushPick (flushKey first)) (first :: rest)
  have waiting := swapPartition_waiting (flushPick (flushKey first)) (first :: rest)
  have waits : ∀ x ∈ (swapPartition (flushPick (flushKey first)) (first :: rest)).2,
      x ∈ first :: rest ∧ flushPick (flushKey first) x = false := fun x => mem_swapPartition_waiting.mp
  have members : ∀ x ∈ (swapPartition (flushPick (flushKey first)) (first :: rest)).1,
      flushKey x = flushKey first := fun x mem => (mem_flushGroup.mp mem).2
  have nonempty : first ∈ (swapPartition (flushPick (flushKey first)) (first :: rest)).1 :=
    mem_flushGroup.mpr ⟨List.mem_cons_self, rfl⟩
  obtain ⟨tpsendMsgs, size, round⟩ := at_st.round_eq
  generalize swapPartition (flushPick (flushKey first)) (first :: rest) = parted at *
  rw [round]
  refine
    { index := ?_
      indices := ?_
      queue := ?_
      calls := ?_
      keyed := ?_
      once := ?_
      apart := ?_
      buffer := ?_ }
  · simp
  · simp
  · refine List.Perm.trans ?_ at_st.queue
    simp only [List.flatMap_append, List.flatMap_singleton, List.append_assoc]
    refine List.Perm.append_left _ ?_
    rw [group]
    exact (waiting.append_left _).trans (List.filter_append_perm _ _)
  · simp [at_st.calls]
  · refine List.forall_mem_append.mpr ⟨at_st.keyed, ?_⟩
    rintro _ (_ | ⟨_, ⟨⟩⟩)
    exact ⟨List.ne_nil_of_mem nonempty, fun x mem => members x mem⟩
  · rw [List.map_append, List.nodup_append]
    refine ⟨at_st.once, List.nodup_singleton _, ?_⟩
    rintro key listed _ (_ | ⟨_, ⟨⟩⟩) same
    obtain ⟨old, mem, rfl⟩ := List.mem_map.mp listed
    exact at_st.apart old mem first List.mem_cons_self same.symm
  · intro old mem x waiting same
    obtain ⟨inLine, other⟩ := waits x waiting
    rcases List.mem_append.mp mem with before | new
    · exact at_st.apart old before x inLine same
    · rw [List.mem_singleton.mp new] at same
      exact of_decide_eq_false other same
  · exact at_st.buffer.trans size.ge

/-- The outer loop ends after at most one round for each datagram. -/
theorem FlushAt.run {fuel : Nat} (at_st : FlushAt sends st served line) (enough : line.length ≤ fuel) :
    ∃ fin groups, udpFlushRun sends fuel st = some fin ∧ FlushAt sends fin groups [] ∧
      groups = served ++ swapGroups flushKey fuel line := by
  have lengths := at_st.lengths
  induction fuel generalizing st served line with
  | zero =>
    have empty : line = [] := List.length_eq_zero_iff.mp (Nat.le_zero.mp enough)
    subst empty
    rw [List.length_nil] at lengths
    exact ⟨st, served, by rw [udpFlushRun, if_neg (by omega)], at_st, (List.append_nil _).symm⟩
  | succ fuel ih =>
    cases line with
    | nil =>
      rw [List.length_nil] at lengths
      exact ⟨st, served, by rw [udpFlushRun, if_neg (by omega)], at_st, (List.append_nil _).symm⟩
    | cons first rest =>
      have shorter : (swapPartition (flushPick (flushKey first)) (first :: rest)).2.length <
          (first :: rest).length := swapPartition_waiting_lt flushKey first rest
      have next := at_st.round
      obtain ⟨fin, groups, run, done, total⟩ := ih next (by omega) next.lengths
      refine ⟨fin, groups, ?_, done, ?_⟩
      · rw [List.length_cons] at lengths
        rw [udpFlushRun, if_pos (by omega)]
        exact run
      · rw [total, List.append_assoc]
        rfl

/-- A round of the inner loop swaps two places of the array at most. -/
theorem udpFlushGroupStep_perm {entry i j : Nat} {state : List Nat × Nat}
    (front : i + state.2 ≤ j) (bound : j < state.1.length) :
    (udpFlushGroupStep sends entry i state j).1.Perm state.1 ∧
      (udpFlushGroupStep sends entry i state j).2 ≤ state.2 + 1 := by
  unfold udpFlushGroupStep
  split
  · refine ⟨?_, Nat.le_refl _⟩
    simp only
    split
    · rw [List.getD_eq_getElem?_getD, List.getD_eq_getElem?_getD, List.getElem?_eq_getElem bound,
        List.getElem?_eq_getElem (by omega)]
      exact List.set_set_perm (by omega) bound
    · exact .refl _
  · exact ⟨.refl _, Nat.le_succ _⟩

/-- The inner loop keeps the array a permutation in each of its rounds. -/
theorem udpFlushGroup_perm (entry i : Nat) (indices : List Nat) {rounds : Nat}
    (bound : i + rounds ≤ indices.length) :
    ((List.range' i rounds).foldl (udpFlushGroupStep sends entry i) (indices, 0)).1.Perm indices ∧
      ((List.range' i rounds).foldl (udpFlushGroupStep sends entry i) (indices, 0)).2 ≤ rounds := by
  induction rounds with
  | zero => exact ⟨.refl _, Nat.le_refl _⟩
  | succ rounds ih =>
    obtain ⟨before, count⟩ := ih (by omega)
    rw [List.range'_concat, List.foldl_append, List.foldl_cons, List.foldl_nil]
    generalize (List.range' i rounds).foldl (udpFlushGroupStep sends entry i) (indices, 0) = state at *
    have inside : i + 1 * rounds < state.1.length := by
      rw [before.length_eq]
      omega
    obtain ⟨after, counted⟩ :=
      @udpFlushGroupStep_perm sends entry i (i + 1 * rounds) state (by omega) inside
    exact ⟨after.trans before, by omega⟩

/-- Whatever the number of rounds, the flush is between two groups. -/
theorem FlushAt.rounds (at_st : FlushAt sends st served line) (n : Nat) :
    ∃ groups waiting, FlushAt sends ((udpFlushRound sends)^[n] st) groups waiting := by
  induction n generalizing st served line with
  | zero => exact ⟨served, line, at_st⟩
  | succ n ih =>
    rw [Function.iterate_succ_apply]
    cases line with
    | nil =>
      have done : udpFlushRound sends st = st := by
        have past : st.indices[st.i]? = none := by
          rw [at_st.indices, List.getElem?_eq_none]
          simp [at_st.index]
        rw [udpFlushRound, past]
        rfl
      rw [done]
      exact ih at_st
    | cons first rest => exact ih at_st.round

theorem FlushAt.perm (at_st : FlushAt sends st served line) :
    st.indices.Perm (List.range sends.length) := by
  have same := at_st.queue.map Prod.snd
  rwa [← at_st.indices, List.zipIdx_map_snd, ← List.range_eq_range'] at same

theorem FlushPlaces.forall₂ {entry : Nat} {group : List (UdpTproxySend × Nat)}
    (places : FlushPlaces sends group) (own : ∀ x ∈ group, flushKey x = entry) :
    List.Forall₂ (fun k msg => sends[k]? = some ⟨entry, msg⟩) (group.map Prod.snd)
      (group.map fun x => x.1.msg) := by
  refine List.forall₂_map_left_iff.mpr (List.forall₂_map_right_iff.mpr ?_)
  refine List.forall₂_same.mpr fun x mem => ?_
  rw [places x mem, ← own x mem]
  rfl

/-- When no datagram waits, every one has gone out in one call. -/
theorem FlushAt.flushed (done : FlushAt sends st served []) :
    UdpFlushed sends st (served.map fun group => group.2.map Prod.snd) := by
  have places := done.places
  refine
    { indices := done.perm
      parts := ?_
      calls := ?_
      once := ?_ }
  · rw [done.indices, List.append_nil, List.map_flatMap]
    rfl
  · rw [done.calls]
    refine List.forall₂_map_left_iff.mpr (List.forall₂_map_right_iff.mpr ?_)
    refine List.forall₂_same.mpr fun group mem => ?_
    obtain ⟨nonempty, own⟩ := done.keyed group mem
    refine ⟨fun empty => nonempty (List.map_eq_nil_iff.mp empty), FlushPlaces.forall₂ ?_ own⟩
    exact places.of_mem fun x inGroup =>
      List.mem_append_left _ (List.mem_flatMap.mpr ⟨group, mem, inGroup⟩)
  · have keys : st.calls.map Prod.fst = served.map Prod.fst := by
      rw [done.calls, List.map_map]
      rfl
    rw [keys]
    exact done.once

/-- The flush ends with all datagrams served, by the calls of `udpFlushCalls`. -/
theorem udpFlushRun_served (buffer : sends.length ≤ tpsendMsgs.length) :
    ∃ fin served, udpFlushRun sends sends.length (udpFlushStart sends tpsendMsgs) = some fin ∧
      FlushAt sends fin served [] ∧ udpFlushCalls sends = fin.calls := by
  obtain ⟨fin, served, run, done, total⟩ := (flushAt_start buffer).run (by rw [List.length_zipIdx])
  refine ⟨fin, served, run, done, ?_⟩
  rw [udpFlushCalls_eq, done.calls, total, List.nil_append]

/-- Each call goes to the socket of its entry. -/
theorem udpTproxyFlushClientSends_eq {w : UdpWorld} (fd : Nat → Nat)
    (live : ∀ send ∈ sends, ∃ entry, w.tproxy.record send.sourceEntry = some entry ∧
      entry.udpSockfd = fd send.sourceEntry) :
    udpTproxyFlushClientSends w sends =
      w.emit ((udpFlushCalls sends).map fun call => .sendmmsg (fd call.1) call.2) := by
  have fits : sends.length ≤ (sends.map UdpTproxySend.msg).length := (List.length_map _).ge
  obtain ⟨fin, served, -, done, calls⟩ := udpFlushRun_served fits
  refine congrArg w.emit (List.filterMap_eq_map_iff_forall_eq_some.mpr fun call mem => ?_)
  rw [calls, done.calls] at mem
  obtain ⟨group, listed, rfl⟩ := List.mem_map.mp mem
  obtain ⟨nonempty, own⟩ := done.keyed group listed
  obtain ⟨x, inGroup⟩ := List.exists_mem_of_ne_nil _ nonempty
  have queued : x.1 ∈ sends := by
    refine List.mem_of_getElem? (done.places x ?_)
    exact List.mem_append_left _ (List.mem_flatMap.mpr ⟨group, listed, inGroup⟩)
  obtain ⟨entry, found, socket⟩ := live x.1 queued
  have source : x.1.sourceEntry = group.1 := own x inGroup
  rw [source] at found socket
  simp only [found, socket, Option.map_some]

/-- For every batch, the flush ends; its index array is a permutation of the
batch before, between and inside its rounds; and every datagram goes out in
one call, on the socket of its own entry. -/
theorem udpFlush_each_once (w : UdpWorld) (sends : List UdpTproxySend)
    (tpsendMsgs : List UdpClientMsg) (fd : Nat → Nat) (small : sends.length ≤ udpBatchSize)
    (buffer : tpsendMsgs.length = udpBatchSize)
    (live : ∀ send ∈ sends, ∃ entry, w.tproxy.record send.sourceEntry = some entry ∧
      entry.udpSockfd = fd send.sourceEntry) :
    (∀ n rounds entry, let st := (udpFlushRound sends)^[n] (udpFlushStart sends tpsendMsgs)
      st.indices.Perm (List.range sends.length) ∧ (rounds ≤ sends.length - st.i →
        ((List.range' st.i rounds).foldl (udpFlushGroupStep sends entry st.i)
          (st.indices, 0)).1.Perm (List.range sends.length))) ∧
      ∃ fin groups, udpFlushRun sends sends.length (udpFlushStart sends tpsendMsgs) = some fin ∧
        UdpFlushed sends fin groups ∧
        udpTproxyFlushClientSends w sends =
          w.emit (fin.calls.map fun call => .sendmmsg (fd call.1) call.2) := by
  have fits : sends.length ≤ tpsendMsgs.length := small.trans buffer.ge
  refine ⟨fun n rounds entry => ?_, ?_⟩
  · have start := flushAt_start fits
    obtain ⟨groups, waiting, between⟩ := start.rounds n
    have lengths := between.lengths
    refine ⟨between.perm, fun bound => ?_⟩
    have inside : ((udpFlushRound sends)^[n] (udpFlushStart sends tpsendMsgs)).i + rounds ≤
        ((udpFlushRound sends)^[n] (udpFlushStart sends tpsendMsgs)).indices.length := by
      rw [between.perm.length_eq, List.length_range]
      omega
    exact (udpFlushGroup_perm entry _ _ inside).1.trans between.perm
  · obtain ⟨fin, served, run, done, calls⟩ := udpFlushRun_served fits
    refine ⟨fin, _, run, done.flushed, ?_⟩
    rw [← calls]
    exact udpTproxyFlushClientSends_eq _ live

/-- A table with the entries `1` and `2`, on the sockets `11` and `12`. -/
def flushWorld : UdpWorld where
  sessions := ⟨none, fun _ => none⟩
  nodes := fun _ => ⟨⟨none, fun _ => none⟩, []⟩
  tproxy := ⟨⟨none, fun n => some ⟨flushClient, n + 10, 0⟩⟩, [1, 2]⟩
  trace := []

/-- The datagrams of the first entry are not next to each other. -/
theorem udpFlush_each_once_alternating :
    ∃ fin groups, udpFlushRun [flushSend 1 0, flushSend 2 1, flushSend 1 2] 3
        (udpFlushStart [flushSend 1 0, flushSend 2 1, flushSend 1 2]
          (List.replicate udpBatchSize ⟨[], flushClient⟩)) = some fin ∧
      UdpFlushed [flushSend 1 0, flushSend 2 1, flushSend 1 2] fin groups ∧
      udpTproxyFlushClientSends flushWorld [flushSend 1 0, flushSend 2 1, flushSend 1 2] =
        flushWorld.emit (fin.calls.map fun call => .sendmmsg (call.1 + 10) call.2) :=
  (udpFlush_each_once flushWorld [flushSend 1 0, flushSend 2 1, flushSend 1 2]
    (List.replicate udpBatchSize ⟨[], flushClient⟩) (· + 10) (by decide) (List.length_replicate ..)
    fun _ _ => ⟨_, rfl, rfl⟩).2

end Tproxy
